import PacketLog.Decimal.Shortest
import PacketLog.Text.Numeral

namespace PacketLog.Decimal

open Text.Numeral

/-- Digits with a point behind the first `places` of them; a whole number ends in `.0`. -/
def positional (ds : List Char) (places : Int) : List Char :=
  if places ≤ 0 then '0' :: '.' :: List.replicate (-places).toNat '0' ++ ds
  else
    let n := places.toNat
    let whole := ds.take n ++ List.replicate (n - ds.length) '0'
    whole ++ '.' :: (if ds.length ≤ n then ['0'] else ds.drop n)

/-- Digits with a point behind the first, and the exponent of the first digit. -/
def exponential (ds : List Char) (exponent : Int) : List Char :=
  let tail := ds.drop 1
  ds.take 1 ++ (if tail.isEmpty then [] else '.' :: tail) ++ 'e' :: signed exponent

/-- The fewest digits that read back. Positional from one ten-thousandth up to below ten to the
sixteenth, with an exponent outside. -/
def floatText (x : Float) : String :=
  let bits := x.toBits
  let sign := if bits.toNat / Nat.pow 2 63 = 1 then ['-'] else []
  String.ofList (
    if x.isNaN then ['N', 'a', 'N']
    else if x.isInf then sign ++ ['i', 'n', 'f']
    else if bits.toNat % Nat.pow 2 63 = 0 then sign ++ ['0', '.', '0']
    else
      let d := (Binary.ofBits bits).shortest
      let ds := digits d.digits
      let places := ds.length + d.exponent
      sign ++ (if -4 < places ∧ places ≤ 16 then positional ds places
        else exponential ds (places - 1)))

def isExponentMark (c : Char) : Bool := c == 'e' || c == 'E'

/-- The number nearest to a decimal that has no sign. -/
def readUnsigned? (cs : List Char) : Option Float := do
  let mantissa := cs.takeWhile fun c => !isExponentMark c
  let exponent ←
    match cs.dropWhile fun c => !isExponentMark c with
    | [] => some 0
    | _ :: e => intWithin? 0x8000000000000000 e
  let places := (mantissa.dropWhile (· != '.')).length - 1
  let digits ← digits? (mantissa.filter (· != '.'))
  let exponent := exponent - (places : Int)
  some (Float.ofScientific digits (exponent < 0) exponent.natAbs)

def readFloat? : List Char → Option Float
  | '-' :: cs => (readUnsigned? cs).map fun x => -x
  | cs => readUnsigned? cs

end PacketLog.Decimal
