import PacketLog.Packet.Labels
import PacketLog.Packet.Stamp
import PacketLog.Text.Bytes

namespace PacketLog

structure Color where
  r : UInt8
  g : UInt8
  b : UInt8
  a : UInt8
  deriving DecidableEq, Repr

def Color.rgb (r g b : UInt8) : Color := ⟨r, g, b, 0xff⟩

/-- The colour in one word, red in the low byte. -/
def Color.word (c : Color) : UInt32 :=
  c.r.toUInt32 ||| (c.g.toUInt32 <<< 8) ||| (c.b.toUInt32 <<< 16) ||| (c.a.toUInt32 <<< 24)

/-- A message, an error report, or a mark that a method was entered or left. -/
structure Entry where
  stamp : Stamp
  kind : EntryKind
  viewer : Viewer
  title : Option String
  session : Option String
  app : Option String
  host : Option String
  color : Option Color
  data : Option Bytes
  deriving DecidableEq, Repr

/-- A mark that a method, a thread or a process was entered or left. -/
structure Flow where
  stamp : Stamp
  step : FlowStep
  title : Option String
  host : Option String
  deriving DecidableEq, Repr

structure Watch where
  stamp : Stamp
  kind : WatchKind
  name : String
  value : String
  deriving DecidableEq, Repr

structure Command where
  stamp : Stamp
  action : CommandAction
  data : Option Bytes
  deriving DecidableEq, Repr

/-- What a log says about its origin, sent ahead of everything else. -/
structure Header where
  stamp : Stamp
  labels : Labels
  deriving DecidableEq, Repr

inductive Packet where
  | entry (e : Entry)
  | flow (f : Flow)
  | watch (w : Watch)
  | command (c : Command)
  | header (h : Header)
  deriving DecidableEq, Repr

def Entry.blank (around : Ambient) (kind : EntryKind) (viewer : Viewer) : Entry where
  stamp := .blank around
  kind
  viewer
  title := none
  session := none
  app := none
  host := none
  color := none
  data := none

def Flow.blank (around : Ambient) (step : FlowStep) : Flow where
  stamp := .blank around
  step
  title := none
  host := none

def Watch.blank (around : Ambient) (kind : WatchKind) (name value : String) : Watch where
  stamp := .blank around
  kind
  name
  value

/-- A command without data; commands have a level of their own. -/
def Command.blank (around : Ambient) (action : CommandAction) : Command where
  stamp := { Stamp.blank around with level := .control }
  action
  data := none

def Header.blank (around : Ambient) : Header where
  stamp := .blank around
  labels := .empty

namespace Packet

def kind : Packet → PacketKind
  | .entry _ => .logEntry
  | .flow _ => .processFlow
  | .watch _ => .watch
  | .command _ => .controlCommand
  | .header _ => .logHeader

def stamp : Packet → Stamp
  | .entry e => e.stamp
  | .flow f => f.stamp
  | .watch w => w.stamp
  | .command c => c.stamp
  | .header h => h.stamp

def level (p : Packet) : Level := p.stamp.level

def entry? : Packet → Option Entry
  | .entry e => some e
  | _ => none

end Packet

end PacketLog
