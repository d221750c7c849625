import PacketLog.Cli.Help
import PacketLog.Config.Reader
import PacketLog.Replay.Basic
import PacketLog.Report.Line

namespace PacketLog.Cli

open Output (Buffered Device DeviceFault Volume)

/-- Why a run ends early. -/
inductive RunFault where
  | config (path : String) (fault : ConfigFault)
  | logLevel (fault : ConfigFault)
  | output (path : String) (error : DeliveryError)
  | header (error : DeliveryError)
  | close (error : DeliveryError)
  deriving DecidableEq, Repr

namespace RunFault

def message : RunFault → String
  | .config path _ => "failed to load config " ++ path
  | .logLevel fault => fault.message?.getD ""
  | .output path _ => "failed to open output " ++ path
  | .header _ => "failed to send log header"
  | .close _ => "failed to close output"

def cause? : RunFault → Option String
  | .config _ fault => some (fault.message?.getD "failed to parse config")
  | .logLevel _ => none
  | .output _ error | .header error | .close error => some error.message

/-- The text of a fault, what could not be done on its first line. -/
def text (f : RunFault) : String :=
  "Error: " ++ f.message ++
    (match f.cause? with
    | some cause => "\n\nCaused by:\n    " ++ cause
    | none => "")

end RunFault

def versionText : String := "sift 0.1.0\n"

def refusalText : String := "error: invalid arguments\n\nFor more information, try '--help'.\n"

def loadConfig (read : String → Except DeviceFault Bytes) :
    Option String → Except RunFault Config
  | none => .ok {}
  | some path => (Config.ofFile path (read path)).mapError (.config path)

def verdict (path : String) (c : Config) : String :=
  path ++ ": ok (session '" ++ c.session.name ++ "', level " ++ c.session.level.name ++
    ", format " ++ c.format.kind.name ++ ")\n"

/-- The configuration of a replay, with the log level of the command line. -/
def replayConfig (read : String → Except DeviceFault Bytes) (path logLevel : Option String) :
    Except RunFault Config := do
  let c ← loadConfig read path
  let log ← (c.log.overrideLevel logLevel).mapError .logLevel
  .ok { c with log }

/-- The sink of a replay: the file at a path, or else the standard output. -/
def openSink (openToAppend : String → Except DeviceFault Device) (c : Config) :
    Option String → Except RunFault (LedgerSink Buffered)
  | none => .ok { format := c.format.format, outlet := { device := {} } }
  | some path =>
    (LedgerSink.appendTo path (openToAppend path) c.format.format).mapError (.output path)

def isSaid (c : LogConfig) (d : Diagnostic) : Bool := c.level.rank ≤ d.level.rank

/-- The line in which a diagnostic is said at a time, if it is said. -/
def saidLine? (c : LogConfig) (micros : Int64) (d : Diagnostic) : Option String :=
  if isSaid c d then
    some (match c.format with
      | .console => d.consoleLineAt micros
      | .json => (d.toJsonAt micros).print)
  else none

structure Outcome where
  exitCode : Nat
  stdout : Bytes := []
  fault : Option RunFault := none
  /-- What was said, in order. -/
  diagnostics : List Diagnostic := []
  /-- How it was said. -/
  logFormat : LogFormat := .console
  volume : Volume

/-- What a run finds. -/
structure World where
  volume : Volume
  stdin : Bytes
  around : Ambient

def runReplay (w : World) (c : Config) (output : Option String) (header : Bool) : Outcome :=
  match openSink w.volume.openToAppend c output with
  | .error fault => { exitCode := 1, fault, volume := w.volume }
  | .ok sink =>
    let (result, r) := Replay.start c header w.around sink
    let (fault, r) : Option RunFault × Replay Buffered := match result with
      | .error e => (some (.header e), r)
      | .ok () =>
        let (result, r) := (r.input Event.read? w.stdin).finish
        match result with
        | .error e => (some (.close e), r)
        | .ok () => (none, r)
    let held := r.sink.outlet.device.held
    { exitCode := if fault.isSome then 1 else 0
      stdout := if output.isNone then held else []
      fault
      diagnostics := r.diagnostics.filter (isSaid c.log)
      logFormat := c.log.format
      volume := match output with
        | some path => w.volume.put path held
        | none => w.volume }

def run (w : World) (args : List String) : Outcome :=
  match Request.ofArguments? args with
  | none => { exitCode := 2, volume := w.volume }
  | some (.help topic) =>
    { exitCode := 0, stdout := Text.bytes topic.text, volume := w.volume }
  | some .version => { exitCode := 0, stdout := Text.bytes versionText, volume := w.volume }
  | some (.run (.check path) _) =>
    match loadConfig w.volume.read (some path) with
    | .error fault => { exitCode := 1, fault, volume := w.volume }
    | .ok c => { exitCode := 0, stdout := Text.bytes (verdict path c), volume := w.volume }
  | some (.run (.replay config output header) logLevel) =>
    match replayConfig w.volume.read config logLevel with
    | .error fault => { exitCode := 1, fault, volume := w.volume }
    | .ok c => runReplay w c output header

end PacketLog.Cli
