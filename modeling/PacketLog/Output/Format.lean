import PacketLog.Output.Device
import PacketLog.Pattern.Renderer
import PacketLog.Wire.Frame

namespace PacketLog.Output

open Pattern (Renderer)

def lineEnding : String := "\r\n"

def defaultPattern : String := "[%timestamp%] %level,8%: %title%"

/-- Lines of text, for log entries only. -/
structure TextFormat where
  renderer : Renderer
  /-- The compiled line, if the last packet had one. -/
  line : Option Bytes := none
  deriving DecidableEq, Repr

namespace TextFormat

def ofPattern (pattern : String) (indent : Bool) : TextFormat where
  renderer := (Renderer.ofPattern pattern).setIndent indent

/-- Puts another pattern in force; the compiled line stays. -/
def setPattern (f : TextFormat) (pattern : String) : TextFormat :=
  { f with renderer := f.renderer.setPattern pattern }

def setIndent (f : TextFormat) (indent : Bool) : TextFormat :=
  { f with renderer := f.renderer.setIndent indent }

/-- Compiles a packet; only a log entry has a line, and any other packet drops the last one. -/
def compile (f : TextFormat) (p : Packet) : Nat × TextFormat :=
  match p.entry? with
  | none => (0, { f with line := none })
  | some e =>
    let (text, renderer) := f.renderer.render e
    let line := Text.bytes (String.ofList text ++ lineEnding)
    (line.length, { renderer, line := some line })

/-- The compiled bytes, in the runs in which they are written. -/
def chunks (f : TextFormat) : List Bytes := f.line.toList

end TextFormat

/-- Binary frames, for packets of every kind. -/
structure BinaryFormat where
  /-- The compiled frame, if there was a packet. -/
  frame : Option Wire.Frame := none
  /-- How many bytes the buffer of the body can hold. -/
  capacity : Nat := 0
  deriving DecidableEq, Repr

namespace BinaryFormat

/-- A buffer that can hold more bytes than this is not used again. -/
def retainedCapacity : Nat := 1024 * 1024

def body (f : BinaryFormat) : Bytes :=
  match f.frame with
  | some frame => frame.body
  | none => []

/-- Empties the body, in the same buffer or in a new one. -/
def reset (f : BinaryFormat) : BinaryFormat :=
  let frame := f.frame.map fun frame => { frame with body := [] }
  if retainedCapacity < f.capacity then { frame, capacity := 0 } else { f with frame }

theorem body_reset (f : BinaryFormat) : f.reset.body = [] := by
  obtain ⟨frame, capacity⟩ := f
  rw [reset]
  split <;> cases frame <;> rfl

/-- Puts the body of a packet behind what a reset leaves; the buffer grows where it has to. -/
def compile (f : BinaryFormat) (p : Packet) : Nat × BinaryFormat :=
  let f := f.reset
  let frame : Wire.Frame := ⟨p.kind, f.body ++ Wire.body p⟩
  (frame.size, { frame := some frame, capacity := max f.capacity frame.body.length })

theorem compile_eq (f : BinaryFormat) (p : Packet) :
    f.compile p = ((Wire.Frame.ofPacket p).size, {
      frame := some (.ofPacket p)
      capacity := max f.reset.capacity (Wire.body p).length }) := by
  rw [compile, body_reset, List.nil_append]
  rfl

def chunks (f : BinaryFormat) : List Bytes :=
  match f.frame with
  | some frame => [frame.head, frame.body]
  | none => []

end BinaryFormat

inductive Format where
  | text (f : TextFormat)
  | binary (f : BinaryFormat)
  deriving DecidableEq, Repr

namespace Format

def compile (f : Format) (p : Packet) : Nat × Format :=
  match f with
  | .text f => let (n, f) := f.compile p; (n, .text f)
  | .binary f => let (n, f) := f.compile p; (n, .binary f)

def chunks : Format → List Bytes
  | .text f => f.chunks
  | .binary f => f.chunks

def write {ω : Type} [Outlet ω] (f : Format) (out : ω) : Except DeviceFault Unit × ω :=
  writeEach out f.chunks

end Format

end PacketLog.Output
