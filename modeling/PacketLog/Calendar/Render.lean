import PacketLog.Calendar.Layout
import PacketLog.Calendar.Moment
import PacketLog.Text.Numeral

namespace PacketLog.Calendar

open Text.Numeral

def weekdayNames : List String :=
  ["Monday", "Tuesday", "Wednesday", "Thursday", "Friday", "Saturday", "Sunday"]

def monthNames : List String :=
  ["January", "February", "March", "April", "May", "June", "July", "August", "September",
    "October", "November", "December"]

/-- The name at a position, whole or cut to three letters. -/
def nameAt (names : List String) (i : Nat) (short : Bool) : List Char :=
  let name := (names.getD i "").toList
  if short then name.take 3 else name

def twoDigits (pad : Pad) (n : Nat) : List Char :=
  match pad with
  | .bare => digits n
  | .zero => padLeft '0' 2 (digits n)
  | .space => padLeft ' ' 2 (digits n)

/-- A number filled up to a width; a sign counts towards the width and stays in front of zeros. -/
def wide (pad : Pad) (width : Nat) (plus : Bool) (n : Int) : List Char :=
  let sign := if n < 0 then ['-'] else if plus then ['+'] else []
  let body := digits n.natAbs
  match pad with
  | .bare => sign ++ body
  | .zero => sign ++ padLeft '0' (width - sign.length) body
  | .space => padLeft ' ' width (sign ++ body)

/-- A year: four digits, or a sign and at least four digits outside of 0 to 9999. -/
def writeYear (pad : Pad) (year : Int) : List Char :=
  if 0 ≤ year ∧ year ≤ 9999 then wide pad 4 false year else wide pad 5 true year

/-- The digits of the fraction of a second, cut to a number of them. -/
def fractionDigits (nanosecond count : Nat) : List Char :=
  (padLeft '0' 9 (digits nanosecond)).take count

def Quantity.write (q : Quantity) (pad : Pad) (m : Moment) : List Char :=
  let date := m.date
  match q with
  | .year => writeYear pad date.year
  | .century => twoDigits pad (date.year.fdiv 100).toNat
  | .yearOfCentury => twoDigits pad (date.year.fmod 100).toNat
  | .isoYear => writeYear pad date.isoWeek.1
  | .isoYearOfCentury => twoDigits pad (date.isoWeek.1.fmod 100).toNat
  | .quarter => digits date.quarter
  | .month => twoDigits pad date.month
  | .day => twoDigits pad date.day
  | .weekFromSunday => twoDigits pad date.weekFromSunday
  | .weekFromMonday => twoDigits pad date.weekFromMonday
  | .isoWeek => twoDigits pad date.isoWeek.2
  | .daysFromSunday => digits date.weekdayFromSunday
  | .dayFromMonday => digits (date.weekday + 1)
  | .ordinal => wide pad 3 false date.ordinal
  | .hour => twoDigits pad m.hour
  | .hour12 => twoDigits pad m.hour12
  | .minute => twoDigits pad m.minute
  | .second => twoDigits pad m.second
  | .nanosecond => wide pad 9 false m.nanosecond
  | .unixSeconds => wide pad 9 false m.unixSeconds

def Wording.write? (w : Wording) (m : Moment) : Option (List Char) :=
  match w with
  | .shortWeekday => some (nameAt weekdayNames m.date.weekday true)
  | .longWeekday => some (nameAt weekdayNames m.date.weekday false)
  | .shortMonth => some (nameAt monthNames (m.date.month - 1) true)
  | .longMonth => some (nameAt monthNames (m.date.month - 1) false)
  | .upperHalfDay => some (if m.isAfternoon then ['P', 'M'] else ['A', 'M'])
  | .lowerHalfDay => some (if m.isAfternoon then ['p', 'm'] else ['a', 'm'])
  | .fraction =>
    let n := m.nanosecond
    some (
      if n = 0 then []
      else if n % 1000000 = 0 then '.' :: fractionDigits n 3
      else if n % 1000 = 0 then '.' :: fractionDigits n 6
      else '.' :: fractionDigits n 9)
  | .fixedFraction digits withPoint =>
    some ((if withPoint then ['.'] else []) ++ fractionDigits m.nanosecond digits)
  | .zoneName => some ['U', 'T', 'C']
  | .zoneOffset text => some text.toList
  | .zoneReadOnly => none

def LayoutItem.write? (m : Moment) : LayoutItem → Option (List Char)
  | .literal c => some [c]
  | .number q pad => some (q.write pad m)
  | .word w => w.write? m

/-- The text of a layout, which is there only if every item can be written. -/
def Layout.write? (layout : Layout) (m : Moment) : Option (List Char) :=
  (layout.mapM (LayoutItem.write? m)).map List.flatten

def defaultLayoutText : String := "%Y-%m-%d %H:%M:%S%.3f"

def layoutOf (options : List Char) : Layout :=
  let fallback := (Layout.read? defaultLayoutText.toList).getD []
  if options.isEmpty then fallback else (Layout.read? options).getD fallback

/-- A time in the layout that options ask for; empty if it has no date or cannot be written. -/
def writeTime (micros : Int64) (options : List Char) : List Char :=
  match Moment.ofMicros? micros.toInt with
  | some m => ((layoutOf options).write? m).getD []
  | none => []

end PacketLog.Calendar
