import PacketLog.Text.Bytes

namespace PacketLog.Wire

/-- Two bytes, the low one first. -/
def word16 (n : UInt16) : Bytes := [n.toUInt8, (n >>> 8).toUInt8]

def word32 (n : UInt32) : Bytes :=
  [n.toUInt8, (n >>> 8).toUInt8, (n >>> 16).toUInt8, (n >>> 24).toUInt8]

def word64 (n : UInt64) : Bytes :=
  [n.toUInt8, (n >>> 8).toUInt8, (n >>> 16).toUInt8, (n >>> 24).toUInt8,
    (n >>> 32).toUInt8, (n >>> 40).toUInt8, (n >>> 48).toUInt8, (n >>> 56).toUInt8]

def int32 (n : Int32) : Bytes := word32 n.toUInt32

def lengthOf (bs : Bytes) : Bytes := word32 (UInt32.ofNat bs.length)

def readWord16? : Bytes → Option (UInt16 × Bytes)
  | a :: b :: rest => some (a.toUInt16 ||| (b.toUInt16 <<< 8), rest)
  | _ => none

def readWord32? : Bytes → Option (UInt32 × Bytes)
  | a :: b :: c :: d :: rest =>
    some (a.toUInt32 ||| (b.toUInt32 <<< 8) ||| (c.toUInt32 <<< 16) ||| (d.toUInt32 <<< 24), rest)
  | _ => none

def readWord64? (bs : Bytes) : Option (UInt64 × Bytes) := do
  let (low, rest) ← readWord32? bs
  let (high, rest) ← readWord32? rest
  some (low.toUInt64 ||| (high.toUInt64 <<< 32), rest)

def readInt32? (bs : Bytes) : Option (Int32 × Bytes) := do
  let (n, rest) ← readWord32? bs
  some (n.toInt32, rest)

def readBytes? (n : Nat) (bs : Bytes) : Option (Bytes × Bytes) :=
  if n ≤ bs.length then some (bs.take n, bs.drop n) else none

end PacketLog.Wire
