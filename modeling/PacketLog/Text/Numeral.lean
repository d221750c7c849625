namespace PacketLog.Text.Numeral

/-- The number written by ASCII digits, of which there is at least one. -/
def digits? (cs : List Char) : Option Nat :=
  if cs.isEmpty || !cs.all Char.isDigit then none
  else some (cs.foldl (fun n c => 10 * n + (c.toNat - '0'.toNat)) 0)

/-- A number below `bound`, with an optional plus sign. -/
def natBelow? (bound : Nat) (cs : List Char) : Option Nat :=
  let body := match cs with
    | '+' :: ds => ds
    | ds => ds
  (digits? body).filter (· < bound)

/-- A number from `-bound` up to but not including `bound`, with an optional sign. -/
def intWithin? (bound : Nat) (cs : List Char) : Option Int :=
  match cs with
  | '-' :: ds => ((digits? ds).filter (· ≤ bound)).map fun n => -(n : Int)
  | _ => (natBelow? bound cs).map Int.ofNat

def digits (n : Nat) : List Char := Nat.toDigits 10 n

def signed : Int → List Char
  | .ofNat n => digits n
  | .negSucc n => '-' :: digits (n + 1)

/-- Fills up with `fill` on the left to at least `width` characters. -/
def padLeft (fill : Char) (width : Nat) (cs : List Char) : List Char :=
  List.replicate (width - cs.length) fill ++ cs

end PacketLog.Text.Numeral
