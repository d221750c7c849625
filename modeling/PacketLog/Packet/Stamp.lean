import PacketLog.Packet.Level

namespace PacketLog

/-- Which clock a timestamp is read from: the wall clock, or a counter anchored to it once. -/
inductive Resolution where
  | standard | high
  deriving DecidableEq, Repr, Inhabited

def Resolution.name : Resolution → String
  | .standard => "Standard"
  | .high => "High"

def Resolution.ofName? (s : String) : Option Resolution :=
  [Resolution.standard, .high].find? fun r => r.name.toLower == s.toLower

/-- What a packet can read off its surroundings when it is made. -/
structure Ambient where
  /-- Microseconds since the Unix epoch, by clock. -/
  clock : Resolution → Int64
  /-- The calling thread. -/
  thread : Int32
  /-- The calling process. -/
  process : Int32

/-- The part that packets of every kind have in common. -/
structure Stamp where
  level : Level
  /-- Microseconds since the Unix epoch. -/
  time : Int64
  thread : Int32
  process : Int32
  deriving DecidableEq, Repr

namespace Stamp

/-- The stamp of a packet that is given nothing: a message at the epoch, owned by the caller. -/
def blank (around : Ambient) : Stamp := ⟨.message, 0, around.thread, around.process⟩

def now (around : Ambient) (level : Level) (resolution : Resolution) : Stamp :=
  ⟨level, around.clock resolution, around.thread, around.process⟩

end Stamp

end PacketLog
