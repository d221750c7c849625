import PacketLog.Pattern.Token

namespace PacketLog.Pattern

inductive Sign where
  | plus | minus
  deriving DecidableEq, Repr

def Sign.char : Sign → Char
  | .plus => '+'
  | .minus => '-'

/-- The number that decimal digits stand for, the highest first. -/
def magnitude (digits : List (Fin 10)) : Nat := digits.foldl (fun n d => 10 * n + d.val) 0

/-- The number that decimal digits stand for behind a sign or none. -/
def signedNumber (sign : Option Sign) (digits : List (Fin 10)) : Int :=
  if sign = some .minus then -(magnitude digits : Int) else magnitude digits

/-- A width as it is spelled: a number of 32 bits in decimal digits, with a sign or without, and with
blanks around it. -/
structure WidthSpelling where
  before : List Char := []
  sign : Option Sign := none
  digits : List (Fin 10)
  after : List Char := []
  before_blank : before.all Text.isBlank = true := by decide
  after_blank : after.all Text.isBlank = true := by decide
  digits_ne_nil : digits ≠ [] := by decide
  number_ge : -0x80000000 ≤ signedNumber sign digits := by decide
  number_lt : signedNumber sign digits < 0x80000000 := by decide
  deriving DecidableEq, Repr

namespace WidthSpelling

def value (w : WidthSpelling) : Int := signedNumber w.sign w.digits

def numeral (w : WidthSpelling) : List Char :=
  (w.sign.map Sign.char).toList ++ w.digits.map fun d => Nat.digitChar d.val

def print (w : WidthSpelling) : List Char := w.before ++ w.numeral ++ w.after

end WidthSpelling

/-- A literal text, or a variable as it is spelled in a pattern. -/
inductive Segment where
  | literal (text : List Char)
  | variable (v : Variable) (spelling : List Char) (width : Option WidthSpelling)
      (options : Option (List Char))
  deriving DecidableEq, Repr

namespace Segment

def print : Segment → List Char
  | .literal text => text
  | .variable _ spelling width options =>
    '%' :: spelling ++ (match width with | some w => ',' :: w.print | none => []) ++
      (match options with | some o => '{' :: o ++ ['}'] | none => []) ++ ['%']

def printAll (segments : List Segment) : List Char := segments.flatMap print

/-- The token that a segment stands for: a width that is not there is zero, and options that are not
there are empty. -/
def token : Segment → Token
  | .literal text => .literal text
  | .variable v _ width options =>
    .variable v (match width with | some w => w.value | none => 0) (options.getD [])

/-- Whether a segment is spelled well: a literal has text and no percent sign; a variable goes by
its name in any letter case, and its options have no braces. -/
def WellSpelled : Segment → Prop
  | .literal text => text ≠ [] ∧ '%' ∉ text
  | .variable v spelling _ options =>
    spelling.map Char.toLower = v.name.toList ∧ ∀ o ∈ options, '{' ∉ o ∧ '}' ∉ o

instance : DecidablePred WellSpelled
  | .literal text => inferInstanceAs (Decidable (text ≠ [] ∧ '%' ∉ text))
  | .variable v spelling _ options =>
    inferInstanceAs (Decidable (spelling.map Char.toLower = v.name.toList ∧
      ∀ o ∈ options, '{' ∉ o ∧ '}' ∉ o))

def isLiteral : Segment → Bool
  | .literal _ => true
  | .variable .. => false

end Segment

end PacketLog.Pattern
