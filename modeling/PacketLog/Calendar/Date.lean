namespace PacketLog.Calendar

structure Date where
  year : Int
  /-- From 1 to 12. -/
  month : Nat
  /-- From 1. -/
  day : Nat
  /-- The day of the year, from 1. -/
  ordinal : Nat
  /-- Days since the last Monday. -/
  weekday : Nat
  deriving DecidableEq, Repr

def isLeap (year : Int) : Bool := year % 4 == 0 && (year % 100 != 0 || year % 400 == 0)

def daysInMonth (year : Int) (month : Nat) : Nat :=
  if month = 2 then (if isLeap year then 29 else 28)
  else if month = 4 ∨ month = 6 ∨ month = 9 ∨ month = 11 then 30
  else 31

/-- Days of a year before the given month. -/
def daysBefore (year : Int) (month : Nat) : Nat :=
  (List.range (month - 1)).foldl (fun days m => days + daysInMonth year (m + 1)) 0

namespace Date

/-- The date of a day, counted from 1 January 1970. The count is moved to 1 March 0000, so that a
leap day ends its year, and is cut into cycles of 400 years, centuries, cycles of 4 years and
years; the months of such a year start on the days `(153 * m + 2) / 5`. -/
def ofDays (days : Int) : Date :=
  let shifted := days + 719468
  let cycle := shifted.fdiv 146097
  let inCycle := (shifted.fmod 146097).toNat
  let yearInCycle := (inCycle - inCycle / 1460 + inCycle / 36524 - inCycle / 146096) / 365
  let inYear := inCycle - (365 * yearInCycle + yearInCycle / 4 - yearInCycle / 100)
  let monthFromMarch := (5 * inYear + 2) / 153
  let day := inYear - (153 * monthFromMarch + 2) / 5 + 1
  let month := if monthFromMarch < 10 then monthFromMarch + 3 else monthFromMarch - 9
  let year := (yearInCycle : Int) + cycle * 400 + (if month ≤ 2 then 1 else 0)
  { year, month, day
    ordinal := daysBefore year month + day
    weekday := ((days + 3).fmod 7).toNat }

def quarter (d : Date) : Nat := (d.month - 1) / 3 + 1

def weekdayFromSunday (d : Date) : Nat := (d.weekday + 1) % 7

/-- The week of the year, week 1 starting with the first Sunday. -/
def weekFromSunday (d : Date) : Nat := (d.ordinal + 6 - d.weekdayFromSunday) / 7

/-- The week of the year, week 1 starting with the first Monday. -/
def weekFromMonday (d : Date) : Nat := (d.ordinal + 6 - d.weekday) / 7

/-- Whether a year whose 1 January falls on the given weekday has 53 weeks of Monday to Sunday:
a year has as many as it has Thursdays. -/
def hasLongWeekCount (year : Int) (firstWeekday : Nat) : Bool :=
  firstWeekday == 3 || (firstWeekday == 2 && isLeap year)

/-- The year and the number of the week from Monday to Sunday that holds the day; a week belongs to
the year that holds its Thursday. -/
def isoWeek (d : Date) : Int × Nat :=
  let week := (d.ordinal + 9 - d.weekday) / 7
  let firstWeekday := (d.weekday + 371 - (d.ordinal - 1)) % 7
  if week = 0 then
    let before := d.year - 1
    let firstBefore := (firstWeekday + 7 - (if isLeap before then 2 else 1)) % 7
    (before, if hasLongWeekCount before firstBefore then 53 else 52)
  else if week = 53 ∧ ¬ hasLongWeekCount d.year firstWeekday then (d.year + 1, 1)
  else (d.year, week)

end Date

end PacketLog.Calendar
