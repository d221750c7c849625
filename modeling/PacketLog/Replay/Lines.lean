import PacketLog.Text.Bytes

namespace PacketLog.Replay

/-- Cuts behind every line feed: the full lines without it, and what is left behind the last. -/
def cutLines (bs : Bytes) : List Bytes × Bytes := go [] bs
where
  go (before : Bytes) : Bytes → List Bytes × Bytes
    | [] => ([], before.reverse)
    | b :: bs =>
      if b = 0x0A then
        let (lines, left) := go [] bs
        (before.reverse :: lines, left)
      else go (b :: before) bs

/-- The lines of an input; what stands behind the last line feed is a line if there is anything. -/
def lines (bs : Bytes) : List Bytes :=
  let (lines, left) := cutLines bs
  if left.isEmpty then lines else lines ++ [left]

def dropReturn (line : Bytes) : Bytes :=
  if line.getLast? = some 0x0D then line.dropLast else line

/-- Whether a byte is blank: a space, a tab, a line feed, a form feed or a carriage return. -/
def isBlank (b : UInt8) : Bool :=
  b == 0x20 || b == 0x09 || b == 0x0A || b == 0x0C || b == 0x0D

end PacketLog.Replay
