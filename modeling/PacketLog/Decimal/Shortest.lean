namespace PacketLog.Decimal

/-- A positive number `mantissa * 2 ^ exponent` of a binary format. -/
structure Binary where
  mantissa : Nat
  exponent : Int
  /-- Whether the gap to the number below is half as wide as the gap to the number above. -/
  lowGap : Bool
  deriving DecidableEq, Repr

structure Scientific where
  digits : Nat
  exponent : Int
  deriving DecidableEq, Repr

/-- The absolute value of a double that is finite and not zero. -/
def Binary.ofBits (bits : UInt64) : Binary :=
  let fraction : Nat := bits.toNat % Nat.pow 2 52
  let exponent : Nat := bits.toNat / Nat.pow 2 52 % Nat.pow 2 11
  if exponent = 0 then ⟨fraction, -1074, false⟩
  else ⟨fraction + Nat.pow 2 52, (exponent : Int) - 1075, fraction = 0 ∧ 1 < exponent⟩

namespace Binary

/-- The number and the ends of its interval as multiples of a common unit, which is the fraction
`num / den`: four times the mantissa, and two more or two less, or one less if the lower gap is half
as wide. -/
def unit (b : Binary) : Nat × Nat :=
  if b.exponent - 2 < 0 then (1, Nat.pow 2 (2 - b.exponent).toNat)
  else (Nat.pow 2 (b.exponent - 2).toNat, 1)

/-- Whether `digits * 10 ^ exponent` reads back as the number. -/
def admits (b : Binary) (d : Scientific) : Bool :=
  let (num, den) := b.unit
  let low := (4 * b.mantissa - (if b.lowGap then 1 else 2)) * num
  let high := (4 * b.mantissa + 2) * num
  let up := Nat.pow 10 d.exponent.toNat
  let down := Nat.pow 10 (-d.exponent).toNat
  let value := d.digits * up * den
  let low := low * down
  let high := high * down
  if b.mantissa % 2 = 0 then low ≤ value && value ≤ high else low < value && value < high

/-- The multiple of a power of ten at or below the number, and twice the distance to it in parts of
the step between two multiples. -/
def below (b : Binary) (exponent : Int) : Nat × Nat × Nat :=
  let (num, den) := b.unit
  let value := 4 * b.mantissa * num * Nat.pow 10 (-exponent).toNat
  let step := den * Nat.pow 10 exponent.toNat
  (value / step, 2 * (value % step), step)

/-- The multiple of a power of ten that reads back as the number, if there is one: of two the
nearer, and of two equally near the greater. -/
def onGrid? (b : Binary) (exponent : Int) : Option Scientific :=
  let (n, twice, step) := b.below exponent
  let lower : Scientific := ⟨n, exponent⟩
  let upper : Scientific := ⟨n + 1, exponent⟩
  let lowerFits := 0 < n && b.admits lower
  if b.admits upper && (!lowerFits || step ≤ twice) then some upper
  else if lowerFits then some lower
  else none

/-- The first power of ten, going down from an exponent, that has a multiple in the interval. -/
def search (b : Binary) : Nat → Int → Scientific
  | 0, exponent => ⟨(b.below exponent).1, exponent⟩
  | fuel + 1, exponent =>
    match b.onGrid? exponent with
    | some d => d
    | none => b.search fuel (exponent - 1)

def topExponent (b : Binary) : Int :=
  let (num, den) := b.unit
  let value := 4 * b.mantissa * num
  if den ≤ value then (Nat.toDigits 10 (value / den)).length
  else 1 - ((Nat.toDigits 10 (den / value)).length : Int)

/-- The shortest decimal. Seventeen digits tell any two doubles apart, so the search ends before
its fuel. -/
def shortest (b : Binary) : Scientific := b.search 24 (b.topExponent + 1)

end Binary

end PacketLog.Decimal
