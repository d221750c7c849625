namespace PacketLog.Calendar

inductive Pad where
  | bare | zero | space
  deriving DecidableEq, Repr

inductive Quantity where
  | year | century | yearOfCentury | isoYear | isoYearOfCentury | quarter | month | day
  | weekFromSunday | weekFromMonday | isoWeek | daysFromSunday | dayFromMonday | ordinal
  | hour | hour12 | minute | second | nanosecond | unixSeconds
  deriving DecidableEq, Repr

inductive Wording where
  | shortWeekday | longWeekday | shortMonth | longMonth | upperHalfDay | lowerHalfDay
  /-- The fraction of the second with its point, in the fewest groups of three digits. -/
  | fraction
  /-- The fraction of the second cut to a number of digits. -/
  | fixedFraction (digits : Nat) (withPoint : Bool)
  | zoneName
  | zoneOffset (text : String)
  /-- A zone that can be read but not written. -/
  | zoneReadOnly
  deriving DecidableEq, Repr

inductive LayoutItem where
  | literal (c : Char)
  | number (q : Quantity) (pad : Pad)
  | word (w : Wording)
  deriving DecidableEq, Repr

abbrev Layout := List LayoutItem

namespace Layout

/-- Items for which there is a specifier of one letter. -/
def ofLetter? : Char → Option Layout
  | 'A' => some [.word .longWeekday]
  | 'B' => some [.word .longMonth]
  | 'C' => some [.number .century .zero]
  | 'D' => some monthDayYear
  | 'F' => some yearMonthDay
  | 'G' => some [.number .isoYear .zero]
  | 'H' => some [.number .hour .zero]
  | 'I' => some [.number .hour12 .zero]
  | 'M' => some [.number .minute .zero]
  | 'P' => some [.word .lowerHalfDay]
  | 'R' => some hourMinute
  | 'S' => some [.number .second .zero]
  | 'T' => some clock
  | 'U' => some [.number .weekFromSunday .zero]
  | 'V' => some [.number .isoWeek .zero]
  | 'W' => some [.number .weekFromMonday .zero]
  | 'X' => some clock
  | 'Y' => some [.number .year .zero]
  | 'Z' => some [.word .zoneName]
  | 'a' => some [.word .shortWeekday]
  | 'b' => some [.word .shortMonth]
  | 'c' => some (
      [.word .shortWeekday, .literal ' ', .word .shortMonth, .literal ' ', .number .day .space,
        .literal ' '] ++ clock ++ [.literal ' ', .number .year .zero])
  | 'd' => some [.number .day .zero]
  | 'e' => some [.number .day .space]
  | 'f' => some [.number .nanosecond .zero]
  | 'g' => some [.number .isoYearOfCentury .zero]
  | 'h' => some [.word .shortMonth]
  | 'j' => some [.number .ordinal .zero]
  | 'k' => some [.number .hour .space]
  | 'l' => some [.number .hour12 .space]
  | 'm' => some [.number .month .zero]
  | 'n' => some [.literal '\n']
  | 'p' => some [.word .upperHalfDay]
  | 'q' => some [.number .quarter .bare]
  | 'r' => some (
      [.number .hour12 .zero, .literal ':', .number .minute .zero, .literal ':',
        .number .second .zero, .literal ' ', .word .upperHalfDay])
  | 's' => some [.number .unixSeconds .bare]
  | 't' => some [.literal '\t']
  | 'u' => some [.number .dayFromMonday .bare]
  | 'v' => some [.number .day .space, .literal '-', .word .shortMonth, .literal '-',
      .number .year .zero]
  | 'w' => some [.number .daysFromSunday .bare]
  | 'x' => some monthDayYear
  | 'y' => some [.number .yearOfCentury .zero]
  | 'z' => some [.word (.zoneOffset "+0000")]
  | '+' => some (
      yearMonthDay ++ [.literal 'T'] ++ clock ++ [.word .fraction, .word (.zoneOffset "+00:00")])
  | '%' => some [.literal '%']
  | _ => none
where
  monthDayYear : Layout :=
    [.number .month .zero, .literal '/', .number .day .zero, .literal '/',
      .number .yearOfCentury .zero]
  yearMonthDay : Layout :=
    [.number .year .zero, .literal '-', .number .month .zero, .literal '-', .number .day .zero]
  hourMinute : Layout := [.number .hour .zero, .literal ':', .number .minute .zero]
  clock : Layout := hourMinute ++ [.literal ':', .number .second .zero]

def padOf? : Char → Option Pad
  | '-' => some .bare
  | '0' => some .zero
  | '_' => some .space
  | _ => none

/-- The items of a single number with its padding replaced; nothing else can be padded. -/
def withPad? (pad : Pad) : Layout → Option Layout
  | [.number q _] => some [.number q pad]
  | _ => none

/-- Reads the specifier behind a percent sign: its items, and how many characters it takes. -/
def specifier? : List Char → Option (Layout × Nat)
  | '.' :: 'f' :: _ => some ([.word .fraction], 2)
  | '.' :: '3' :: 'f' :: _ => some ([.word (.fixedFraction 3 true)], 3)
  | '.' :: '6' :: 'f' :: _ => some ([.word (.fixedFraction 6 true)], 3)
  | '.' :: '9' :: 'f' :: _ => some ([.word (.fixedFraction 9 true)], 3)
  | '3' :: 'f' :: _ => some ([.word (.fixedFraction 3 false)], 2)
  | '6' :: 'f' :: _ => some ([.word (.fixedFraction 6 false)], 2)
  | '9' :: 'f' :: _ => some ([.word (.fixedFraction 9 false)], 2)
  | ':' :: 'z' :: _ => some ([.word (.zoneOffset "+00:00")], 2)
  | ':' :: ':' :: 'z' :: _ => some ([.word (.zoneOffset "+00:00:00")], 3)
  | ':' :: ':' :: ':' :: 'z' :: _ => some ([.word (.zoneOffset "+00")], 4)
  | '#' :: 'z' :: _ => some ([.word .zoneReadOnly], 2)
  | c :: cs =>
    match padOf? c, cs with
    | some pad, d :: _ => do some (← withPad? pad (← ofLetter? d), 2)
    | some _, [] => none
    | none, _ => do some (← ofLetter? c, 1)
  | [] => none

/-- Reads a layout. Every step takes at least one character, so as many steps as there are
characters are enough. -/
def read? (cs : List Char) : Option Layout := go cs.length cs
where
  go : Nat → List Char → Option Layout
    | _, [] => some []
    | 0, _ :: _ => none
    | fuel + 1, c :: cs =>
      if c = '%' then do
        let (items, taken) ← specifier? cs
        let rest ← go fuel (cs.drop taken)
        some (items ++ rest)
      else do
        let rest ← go fuel cs
        some (.literal c :: rest)

end Layout

end PacketLog.Calendar
