import PacketLog.Calendar.Date
import PacketLog.Text.Numeral
import PacketLog.Toml.Text
import PacketLog.Toml.Value

namespace PacketLog.Toml

/-- Reads digits, with an underscore allowed between any two. -/
def digits? (isDigit : Char → Bool) : List Char → Option (List Char × Rest)
  | [] => none
  | c :: cs => if isDigit c then go [c] cs else none
where
  go (before : List Char) : List Char → Option (List Char × Rest)
    | [] => some (before.reverse, [])
    | '_' :: cs =>
      match cs with
      | [] => none
      | c :: cs => if isDigit c then go (c :: before) cs else none
    | c :: cs => if isDigit c then go (c :: before) cs else some (before.reverse, c :: cs)

def sign : List Char → List Char × Rest
  | '+' :: cs => (['+'], cs)
  | '-' :: cs => (['-'], cs)
  | cs => ([], cs)

/-- Reads a whole number in decimal digits; none follow a leading zero. -/
def decimal? (cs : List Char) : Option (List Char × Rest) :=
  let (s, cs) := sign cs
  match cs with
  | '0' :: cs => some (s ++ ['0'], cs)
  | cs => (digits? Char.isDigit cs).map fun (ds, cs) => (s ++ ds, cs)

def valueIn (base : Nat) (ds : List Char) : Nat :=
  ds.foldl (fun n c => base * n + (hexDigit? c).getD 0) 0

/-- Reads the digits of a number in a base, which has to fit in 63 bits. -/
def based? (base : Nat) (cs : List Char) : Option (Int × Rest) := do
  let (ds, cs) ← digits? (fun c => (hexDigit? c).any (· < base)) cs
  let n := valueIn base ds
  if n < 0x8000000000000000 then some (n, cs) else none

def integer? : List Char → Option (Int × Rest)
  | '0' :: 'x' :: cs => based? 16 cs
  | '0' :: 'o' :: cs => based? 8 cs
  | '0' :: 'b' :: cs => based? 2 cs
  | cs => do
    let (ds, cs) ← decimal? cs
    let n ← Text.Numeral.intWithin? 0x8000000000000000 ds
    some (n, cs)

/-- Whether digits times a power of ten are beyond the doubles: at least half a step above the
greatest one. -/
def isBeyondDouble (ds : List Char) (exponent : Int) : Bool :=
  let ds := ds.dropWhile (· == '0')
  let places := ds.length + exponent
  if ds.isEmpty ∨ places < 300 then false
  else if 320 < places then true
  else
    let bound := Nat.pow 2 1024 - Nat.pow 2 970
    bound * Nat.pow 10 (-exponent).toNat ≤ valueIn 10 ds * Nat.pow 10 exponent.toNat

def fraction? : List Char → Option (List Char × Rest)
  | '.' :: cs => digits? Char.isDigit cs
  | cs => some ([], cs)

def exponent? : List Char → Option (Option Int × Rest)
  | c :: cs =>
    if c = 'e' ∨ c = 'E' then do
      let (s, cs) := sign cs
      let (ds, cs) ← digits? Char.isDigit cs
      let n := (valueIn 10 ds : Int)
      some (some (if s = ['-'] then -n else n), cs)
    else some (none, c :: cs)
  | [] => some (none, [])

/-- Reads a number with a point or an exponent. A positive one has to be a double. -/
def float? (cs : List Char) : Option Rest := do
  let (whole, rest) ← decimal? cs
  let (fraction, rest) ← fraction? rest
  let (exponent, rest) ← exponent? rest
  if fraction.isEmpty ∧ exponent.isNone then none
  else
    let ds := whole.filter Char.isDigit ++ fraction
    if whole.head? ≠ some '-' ∧ isBeyondDouble ds (exponent.getD 0 - fraction.length) then none
    else some rest

def special? (cs : List Char) : Option Rest :=
  match (sign cs).2 with
  | 'i' :: 'n' :: 'f' :: cs => some cs
  | 'n' :: 'a' :: 'n' :: cs => some cs
  | _ => none

/-- Reads a number of a fixed count of digits between two bounds. -/
def field? (count low high : Nat) (cs : List Char) : Option (Nat × Rest) := do
  let n ← Text.Numeral.digits? (cs.take count)
  if (cs.take count).length = count ∧ low ≤ n ∧ n ≤ high then some (n, cs.drop count) else none

def char? (c : Char) : List Char → Option Rest
  | d :: cs => if d = c then some cs else none
  | [] => none

def date? (cs : List Char) : Option Rest := do
  let (year, cs) ← field? 4 0 9999 cs
  let (month, cs) ← field? 2 1 12 (← char? '-' cs)
  let (_, cs) ← field? 2 1 (Calendar.daysInMonth year month) (← char? '-' cs)
  some cs

/-- Reads a time of day; a leap second counts. -/
def time? (cs : List Char) : Option Rest := do
  let (_, cs) ← field? 2 0 23 cs
  let (_, cs) ← field? 2 0 59 (← char? ':' cs)
  let (_, cs) ← field? 2 0 60 (← char? ':' cs)
  match cs with
  | '.' :: c :: rest => if c.isDigit then some (rest.dropWhile Char.isDigit) else some cs
  | _ => some cs

def offset? : List Char → Option Rest
  | c :: cs =>
    if c = 'Z' ∨ c = 'z' then some cs
    else if c = '+' ∨ c = '-' then do
      let (_, cs) ← field? 2 0 23 cs
      let (_, cs) ← field? 2 0 59 (← char? ':' cs)
      some cs
    else none
  | [] => none

/-- Reads a time of day behind the mark that parts it from a date. -/
def timeBehindDate? : List Char → Option Rest
  | c :: cs =>
    if c = 'T' ∨ c = 't' ∨ c = ' ' then do
      let cs ← time? cs
      some ((offset? cs).getD cs)
    else none
  | [] => none

/-- Reads a date, a time of day, or both with or without the offset of a zone. -/
def datetime? (cs : List Char) : Option Rest :=
  match date? cs with
  | some rest => some ((timeBehindDate? rest).getD rest)
  | none => time? cs

def number? (cs : List Char) : Option (Toml × Rest) :=
  ((datetime? cs).map fun cs => (.datetime, cs))
    <|> ((float? cs).map fun cs => (.float, cs))
    <|> ((special? cs).map fun cs => (.float, cs))
    <|> ((integer? cs).map fun (n, cs) => (.integer n, cs))

def boolean? : List Char → Option (Toml × Rest)
  | 't' :: 'r' :: 'u' :: 'e' :: cs => some (.boolean true, cs)
  | 'f' :: 'a' :: 'l' :: 's' :: 'e' :: cs => some (.boolean false, cs)
  | _ => none

end PacketLog.Toml
