import PacketLog.Packet.Basic

namespace PacketLog

/-- What a string costs beyond its bytes, unless it is empty. -/
def stringOverhead : Nat := 4

/-- The cost of a string; an unset string costs as little as an empty one. -/
def stringSize (s : Option String) : Nat :=
  match s with
  | some s => if s.isEmpty then 0 else s.utf8ByteSize + stringOverhead
  | none => 0

def dataSize (data : Option Bytes) : Nat :=
  match data with
  | some bs => bs.length
  | none => 0

def Entry.size (e : Entry) : Nat :=
  48 + stringSize e.app + stringSize e.session + stringSize e.title + stringSize e.host +
    dataSize e.data

def Flow.size (f : Flow) : Nat := 28 + stringSize f.title + stringSize f.host

def Watch.size (w : Watch) : Nat := 20 + stringSize (some w.name) + stringSize (some w.value)

def Command.size (c : Command) : Nat := 8 + dataSize c.data

def Header.size (h : Header) : Nat := 4 + stringSize (some h.labels.content)

def Packet.size : Packet → Nat
  | .entry e => e.size
  | .flow f => f.size
  | .watch w => w.size
  | .command c => c.size
  | .header h => h.size

end PacketLog
