import PacketLog.Packet.Basic
import PacketLog.Wire.DayNumber
import PacketLog.Wire.Word

namespace PacketLog.Wire

structure Frame where
  kind : PacketKind
  body : Bytes
  deriving DecidableEq, Repr

/-- The bytes of a frame ahead of its body. -/
def frameHeadSize : Nat := 6

/-- The word written for an unset colour. -/
def defaultColor : UInt32 := 0xff000005

def colorWord (color : Option Color) : UInt32 := (color.map Color.word).getD defaultColor

def textOf (s : Option String) : Bytes := Text.bytes (s.getD "")

/-- The bits of the day number of a time. -/
def timeOf (micros : Int64) : UInt64 := (dayNumber micros).toBits

def entryBody (e : Entry) : Bytes :=
  let app := textOf e.app
  let session := textOf e.session
  let title := textOf e.title
  let host := textOf e.host
  let data := e.data.getD []
  int32 (code e.kind) ++ int32 (code e.viewer) ++
    lengthOf app ++ lengthOf session ++ lengthOf title ++ lengthOf host ++ lengthOf data ++
    int32 e.stamp.process ++ int32 e.stamp.thread ++ word64 (timeOf e.stamp.time) ++
    word32 (colorWord e.color) ++
    app ++ session ++ title ++ host ++ data

def flowBody (f : Flow) : Bytes :=
  let title := textOf f.title
  let host := textOf f.host
  int32 (code f.step) ++ lengthOf title ++ lengthOf host ++
    int32 f.stamp.process ++ int32 f.stamp.thread ++ word64 (timeOf f.stamp.time) ++
    title ++ host

def watchBody (w : Watch) : Bytes :=
  let name := Text.bytes w.name
  let value := Text.bytes w.value
  lengthOf name ++ lengthOf value ++ int32 (code w.kind) ++ word64 (timeOf w.stamp.time) ++
    name ++ value

def commandBody (c : Command) : Bytes :=
  let data := c.data.getD []
  int32 (code c.action) ++ lengthOf data ++ data

def headerBody (h : Header) : Bytes :=
  let content := Text.bytes h.labels.content
  lengthOf content ++ content

def body : Packet → Bytes
  | .entry e => entryBody e
  | .flow f => flowBody f
  | .watch w => watchBody w
  | .command c => commandBody c
  | .header h => headerBody h

namespace Frame

def ofPacket (p : Packet) : Frame := ⟨p.kind, Wire.body p⟩

def head (f : Frame) : Bytes := word16 (code f.kind).toUInt32.toUInt16 ++ lengthOf f.body

def bytes (f : Frame) : Bytes := f.head ++ f.body

def size (f : Frame) : Nat := f.body.length + frameHeadSize

end Frame

end PacketLog.Wire
