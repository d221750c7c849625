import PacketLog.Calendar.Date

namespace PacketLog.Calendar

/-- A point in time, to the microsecond. -/
structure Moment where
  /-- Microseconds since the Unix epoch. -/
  micros : Int
  deriving DecidableEq, Repr

namespace Moment

/-- The least and the greatest time that has a calendar date. -/
def earliest : Int := -8334601228800000000

@[inherit_doc earliest] def latest : Int := 8210266876799999999

def ofMicros? (micros : Int) : Option Moment :=
  if earliest ≤ micros ∧ micros ≤ latest then some ⟨micros⟩ else none

def unixSeconds (m : Moment) : Int := m.micros.fdiv 1000000

/-- Nanoseconds since the last full second. -/
def nanosecond (m : Moment) : Nat := (m.micros.fmod 1000000).toNat * 1000

def secondOfDay (m : Moment) : Nat := (m.unixSeconds.fmod 86400).toNat

def date (m : Moment) : Date := .ofDays (m.unixSeconds.fdiv 86400)

def hour (m : Moment) : Nat := m.secondOfDay / 3600

def minute (m : Moment) : Nat := m.secondOfDay / 60 % 60

def second (m : Moment) : Nat := m.secondOfDay % 60

/-- The hour on a dial of twelve. -/
def hour12 (m : Moment) : Nat := (m.hour + 11) % 12 + 1

def isAfternoon (m : Moment) : Bool := 12 ≤ m.hour

end Moment

end PacketLog.Calendar
