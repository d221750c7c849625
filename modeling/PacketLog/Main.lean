import PacketLog.Cli.Run
import Std.Time.DateTime.Timestamp

namespace PacketLog.Cli

open Output (Buffered Device DeviceFault)

def faultOf : IO.Error → DeviceFault
  | .noFileOrDirectory .. => .notFound
  | .inappropriateType _ 21 _ => .isDirectory
  | .inappropriateType .. => .notDirectory
  | .resourceExhausted _ 28 _ => .storageFull
  | e => ⟨.other, toString e⟩

def attempting {α : Type} (act : IO α) : IO (Except DeviceFault α) :=
  try return .ok (← act) catch e => return .error (faultOf e)

def readFile (path : String) : IO (Except DeviceFault Bytes) :=
  attempting do return (← IO.FS.readBinFile path).data.toList

def wallMicros : IO Int64 := do
  return Int64.ofInt ((← Std.Time.Timestamp.now).toNanosecondsSinceUnixEpoch.val / 1000)

/-- The number of the process, or zero where the system does not tell. -/
def processNumber : IO Int32 := do
  try
    let status ← IO.FS.readFile "/proc/self/stat"
    return Int32.ofNat ((Text.Numeral.digits? (status.toList.takeWhile Char.isDigit)).getD 0)
  catch _ => return 0

/-- What stays the same during a run. -/
structure Run where
  config : Config
  /-- Where the log goes. -/
  write : ByteArray → IO Unit
  process : Int32
  /-- The wall clock and the steady clock at the start, in microseconds. -/
  wallStart : Int64
  steadyStart : Int64

def steadyMicros : IO Int64 := return Int64.ofNat ((← IO.monoNanosNow) / 1000)

namespace Run

def around (run : Run) : IO Ambient := do
  let wall ← wallMicros
  let steady ← steadyMicros
  return {
    clock := fun
      | .standard => wall
      | .high => run.wallStart + (steady - run.steadyStart)
    thread := 1
    process := run.process }

def passOn (run : Run) (bs : Bytes) : IO (Except DeviceFault Unit) :=
  if bs.isEmpty then return .ok () else attempting (run.write ⟨bs.toArray⟩)

/-- Takes a step of a replay on a device that takes everything, and passes the bytes on. If that
fails, the step is taken on a device that refuses them instead. What is to be said is said. -/
def step {α : Type} (run : Run) (act : Replay Buffered → α × Replay Buffered)
    (r : Replay Buffered) : IO (α × Replay Buffered) := do
  let r := r.atTime (← run.around) (← IO.monoNanosNow)
  let on (device : Device) : Replay Buffered :=
    r.withSink { r.sink with outlet := { r.sink.outlet with device } }
  let (a, after) := act (on {})
  let (a, after) ←
    match ← run.passOn after.sink.outlet.device.held with
    | .ok () => pure (a, after)
    | .error fault => pure (act (on { room := some 0, whenFull := fault }))
  let micros ← wallMicros
  for line in after.diagnostics.filterMap (saidLine? run.config.log micros) do
    IO.eprintln line
  return (a, { after with said := [] })

def line (run : Run) (r : Replay Buffered) (bs : Bytes) : IO (Replay Buffered) := do
  let ((), r) ← run.step (fun r => ((), r.line Event.read? bs)) r
  return r

/-- Takes the lines of an input as they come in, the first of which begins with the given bytes. -/
partial def feed (run : Run) (input : IO.FS.Stream) (left : Bytes) (r : Replay Buffered) :
    IO (Replay Buffered) := do
  let bs ← input.read 4096
  if bs.isEmpty then (Replay.lines left).foldlM run.line r
  else
    let (lines, left) := Replay.cutLines (left ++ bs.data.toList)
    run.feed input left (← lines.foldlM run.line r)

def replay (run : Run) (sink : LedgerSink Buffered) (header : Bool) : IO (Option RunFault) := do
  let around ← run.around
  let (_, r) := Replay.start run.config false around sink
  let (result, r) ← run.step (fun r => Replay.start run.config header around r.sink) r
  match result with
  | .error e => return some (.header e)
  | .ok () =>
    let r ← run.feed (← IO.getStdin) [] r
    let (result, _) ← run.step Replay.finish r
    return match result with
      | .error e => some (.close e)
      | .ok () => none

end Run

def fail (fault : RunFault) : IO UInt32 := do
  IO.eprintln fault.text
  return 1

def finishWith (text : String) : IO UInt32 := do
  IO.print text
  return 0

def replayWith (c : Config) (output : Option String) (header : Bool) : IO UInt32 := do
  let opened : Except DeviceFault IO.FS.Handle ← match output with
    | some path => attempting (IO.FS.Handle.mk path .append)
    | none => pure (.error .notFound)
  match openSink (fun _ => opened.map fun _ => {}) c output with
  | .error fault => fail fault
  | .ok sink =>
    let stdout ← IO.getStdout
    let write (bs : ByteArray) : IO Unit :=
      match opened with
      | .ok handle => do handle.write bs; handle.flush
      | .error _ => do stdout.write bs; stdout.flush
    let run : Run := {
      config := c
      write
      process := ← processNumber
      wallStart := ← wallMicros
      steadyStart := ← steadyMicros }
    match ← run.replay sink header with
    | some fault => fail fault
    | none => return 0

def runTask (logLevel : Option String) : Task → IO UInt32
  | .check path => do
    let contents ← readFile path
    match loadConfig (fun _ => contents) (some path) with
    | .error fault => fail fault
    | .ok c => finishWith (verdict path c)
  | .replay config output header => do
    let contents ← match config with
      | some path => readFile path
      | none => pure (.error .notFound)
    match replayConfig (fun _ => contents) config logLevel with
    | .error fault => fail fault
    | .ok c => replayWith c output header

end PacketLog.Cli

/-- Runs the command line and gives the exit code. -/
def main (args : List String) : IO UInt32 := do
  match PacketLog.Cli.Request.ofArguments? args with
  | none =>
    IO.eprint PacketLog.Cli.refusalText
    return 2
  | some (.help topic) => PacketLog.Cli.finishWith topic.text
  | some .version => PacketLog.Cli.finishWith PacketLog.Cli.versionText
  | some (.run task logLevel) => PacketLog.Cli.runTask logLevel task
