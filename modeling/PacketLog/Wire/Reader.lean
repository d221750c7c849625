import PacketLog.Wire.Frame

namespace PacketLog.Wire

inductive Record where
  | entry (kind viewer : Int32) (app session title host data : Bytes) (process thread : Int32)
      (time : UInt64) (color : UInt32)
  | flow (step : Int32) (title host : Bytes) (process thread : Int32) (time : UInt64)
  | watch (kind : Int32) (name value : Bytes) (time : UInt64)
  | command (action : Int32) (data : Bytes)
  | header (content : Bytes)
  deriving DecidableEq, Repr

/-- The record that a packet leaves in a stream. -/
def Record.ofPacket : Packet → Record
  | .entry e =>
    .entry (code e.kind) (code e.viewer) (textOf e.app) (textOf e.session) (textOf e.title)
      (textOf e.host) (e.data.getD []) e.stamp.process e.stamp.thread (timeOf e.stamp.time)
      (colorWord e.color)
  | .flow f =>
    .flow (code f.step) (textOf f.title) (textOf f.host) f.stamp.process f.stamp.thread
      (timeOf f.stamp.time)
  | .watch w =>
    .watch (code w.kind) (Text.bytes w.name) (Text.bytes w.value) (timeOf w.stamp.time)
  | .command c => .command (code c.action) (c.data.getD [])
  | .header h => .header (Text.bytes h.labels.content)

def readEntry? (bs : Bytes) : Option (Record × Bytes) := do
  let (kind, bs) ← readInt32? bs
  let (viewer, bs) ← readInt32? bs
  let (app, bs) ← readWord32? bs
  let (session, bs) ← readWord32? bs
  let (title, bs) ← readWord32? bs
  let (host, bs) ← readWord32? bs
  let (data, bs) ← readWord32? bs
  let (process, bs) ← readInt32? bs
  let (thread, bs) ← readInt32? bs
  let (time, bs) ← readWord64? bs
  let (color, bs) ← readWord32? bs
  let (app, bs) ← readBytes? app.toNat bs
  let (session, bs) ← readBytes? session.toNat bs
  let (title, bs) ← readBytes? title.toNat bs
  let (host, bs) ← readBytes? host.toNat bs
  let (data, bs) ← readBytes? data.toNat bs
  some (.entry kind viewer app session title host data process thread time color, bs)

def readFlow? (bs : Bytes) : Option (Record × Bytes) := do
  let (step, bs) ← readInt32? bs
  let (title, bs) ← readWord32? bs
  let (host, bs) ← readWord32? bs
  let (process, bs) ← readInt32? bs
  let (thread, bs) ← readInt32? bs
  let (time, bs) ← readWord64? bs
  let (title, bs) ← readBytes? title.toNat bs
  let (host, bs) ← readBytes? host.toNat bs
  some (.flow step title host process thread time, bs)

def readWatch? (bs : Bytes) : Option (Record × Bytes) := do
  let (name, bs) ← readWord32? bs
  let (value, bs) ← readWord32? bs
  let (kind, bs) ← readInt32? bs
  let (time, bs) ← readWord64? bs
  let (name, bs) ← readBytes? name.toNat bs
  let (value, bs) ← readBytes? value.toNat bs
  some (.watch kind name value time, bs)

def readCommand? (bs : Bytes) : Option (Record × Bytes) := do
  let (action, bs) ← readInt32? bs
  let (data, bs) ← readWord32? bs
  let (data, bs) ← readBytes? data.toNat bs
  some (.command action data, bs)

def readHeader? (bs : Bytes) : Option (Record × Bytes) := do
  let (content, bs) ← readWord32? bs
  let (content, bs) ← readBytes? content.toNat bs
  some (.header content, bs)

def readBody? : PacketKind → Bytes → Option (Record × Bytes)
  | .logEntry => readEntry?
  | .processFlow => readFlow?
  | .watch => readWatch?
  | .controlCommand => readCommand?
  | .logHeader => readHeader?

/-- Reads one frame, whose body must be used up by its fields. -/
def readFrame? (bs : Bytes) : Option (Record × Bytes) := do
  let (kind, bs) ← readWord16? bs
  let kind ← (ofCode? kind.toUInt32.toInt32 : Option PacketKind)
  let (length, bs) ← readWord32? bs
  let (body, bs) ← readBytes? length.toNat bs
  let (record, left) ← readBody? kind body
  if left.isEmpty then some (record, bs) else none

/-- Reads at most `fuel` frames up to the end of the stream. -/
def readFrames? : Nat → Bytes → Option (List Record)
  | _, [] => some []
  | 0, _ :: _ => none
  | fuel + 1, bs => do
    let (record, bs) ← readFrame? bs
    let records ← readFrames? fuel bs
    some (record :: records)

/-- Reads a whole stream; a frame is never empty, so its length bounds the number of frames. -/
def readStream? (bs : Bytes) : Option (List Record) := readFrames? bs.length bs

end PacketLog.Wire
