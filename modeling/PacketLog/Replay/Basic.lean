import PacketLog.Config.Basic
import PacketLog.Event.Reader
import PacketLog.Output.Append
import PacketLog.Replay.Lines
import PacketLog.Report.Throttle
import PacketLog.Session.Publish

namespace PacketLog

open Output (Outlet)

/-- A replay under way. -/
structure Replay (ω : Type) where
  handler : Handler (PacketSession (LedgerSink ω)) DiagnosticHook
  /-- Lines read so far. -/
  lineCount : Nat := 0
  events : Nat := 0
  /-- Lines that hold no event and are not blank. -/
  rejected : Nat := 0
  /-- What was said about the replay, the latest first. -/
  said : List Diagnostic := []

namespace Replay

variable {ω : Type} [Outlet ω]

def target : String := "sift::cmd::replay"

def diagnostics (r : Replay ω) : List Diagnostic := r.said.reverse

def sink (r : Replay ω) : LedgerSink ω := r.handler.session.sink

/-- A replay into a sink, with a log header in front if there is to be one. -/
def start (c : Config) (header : Bool) (around : Ambient) (sink : LedgerSink ω) :
    Except DeliveryError Unit × Replay ω :=
  let session := c.session.session around sink
  let (result, session) := if header then session.sendHeader else (.ok (), session)
  (result, { handler := { session, hook := {} } })

def atTime (r : Replay ω) (around : Ambient) (now : Nat) : Replay ω :=
  { r with handler := { r.handler with
      session := { r.handler.session with around }
      hook := { r.handler.hook with now } } }

def withSink (r : Replay ω) (sink : LedgerSink ω) : Replay ω :=
  { r with handler := { r.handler with session := { r.handler.session with sink } } }

/-- Publishes an event; what the hook says about it joins the diagnostics. -/
def publish (r : Replay ω) (e : Event) : Replay ω :=
  let handler := r.handler.publish e
  { r with
    handler := { handler with hook := { handler.hook with emitted := [] } }
    events := r.events + 1
    said := handler.hook.emitted.reverse ++ r.said }

def reject (r : Replay ω) : Replay ω :=
  { r with
    rejected := r.rejected + 1
    said := {
      level := .warn
      target
      fields := [
        ("message", .text "skipping malformed event"), ("line", .number r.lineCount),
        ("error", .text "not a log event")] } :: r.said }

/-- Takes one line, read by the given reader of events. -/
def line (read? : Bytes → Option Event) (r : Replay ω) (bs : Bytes) : Replay ω :=
  let r := { r with lineCount := r.lineCount + 1 }
  let bs := dropReturn bs
  if bs.all isBlank then r
  else
    match read? bs with
    | some e => r.publish e
    | none => r.reject

def input (read? : Bytes → Option Event) (r : Replay ω) (bs : Bytes) : Replay ω :=
  (lines bs).foldl (line read?) r

/-- Closes the output, and then says what was counted. -/
def finish (r : Replay ω) : Except DeliveryError Unit × Replay ω :=
  let (result, sink) := r.sink.close
  let r := r.withSink sink
  match result with
  | .error e => (.error e, r)
  | .ok () =>
    (.ok (), { r with
      said := {
        level := .info
        target
        fields := [
          ("message", .text "replay finished"), ("events", .number r.events),
          ("rejected", .number r.rejected), ("packets", .number sink.stats.packets),
          ("bytes", .number sink.stats.bytes), ("skipped", .number sink.stats.skipped),
          ("failures", .number r.handler.hook.throttle.total)] } :: r.said })

end Replay

end PacketLog
