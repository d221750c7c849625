import PacketLog.Report.Basic
import PacketLog.Report.Diagnostic

namespace PacketLog

/-- The interval between reports unless another is given, in nanoseconds. -/
def defaultReportInterval : Nat := 10 * 1000000000

structure Throttle where
  /-- The least time between two reports, in nanoseconds. -/
  interval : Nat := defaultReportInterval
  last : Option Nat := none
  /-- Failures since the last report. -/
  pending : Nat := 0
  /-- All failures. -/
  total : Nat := 0
  deriving DecidableEq, Repr

namespace Throttle

def isDue (t : Throttle) (now : Nat) : Bool :=
  match t.last with
  | some reported => t.interval ≤ now - reported
  | none => true

/-- Counts a failure at the given time. The first component is how many failures the report stands
for, if there is a report. -/
def count (t : Throttle) (now : Nat) : Option Nat × Throttle :=
  let pending := t.pending + 1
  let total := t.total + 1
  if t.isDue now then (some pending, { t with last := some now, pending := 0, total })
  else (none, { t with pending, total })

end Throttle

/-- The diagnostic that reports a failure together with the ones held back before it. -/
def failureDiagnostic (report : Report) (count total : Nat) : Diagnostic where
  level := .error
  target := "sift_bridge::hook"
  fields :=
    if 1 < count then
      ("message", .text "log forwarding failed (rate-limited)") :: common ++
        [("suppressed_count", .number (count - 1)), ("total_failures", .number total)]
    else
      ("message", .text "log forwarding failed") :: common ++ [("total_failures", .number total)]
where
  common : List (String × DiagnosticValue) :=
    [("message", .text report.message), ("error", .text report.error.message),
      ("code", .text report.code.name)]

/-- A hook that turns reports into diagnostics through a throttle. -/
structure DiagnosticHook where
  throttle : Throttle := {}
  /-- The time on a clock that never goes back, in nanoseconds. -/
  now : Nat := 0
  /-- The diagnostics so far, in order. -/
  emitted : List Diagnostic := []
  deriving DecidableEq, Repr

namespace DiagnosticHook

/-- Takes a report; the first component tells whether there was a diagnostic. -/
def record (h : DiagnosticHook) (report : Report) : Bool × DiagnosticHook :=
  match h.throttle.count h.now with
  | (some count, throttle) =>
    (true, { h with
      throttle
      emitted := h.emitted ++ [failureDiagnostic report count throttle.total] })
  | (none, throttle) => (false, { h with throttle })

instance : ErrorHook DiagnosticHook := ⟨fun h r => (h.record r).2⟩

end DiagnosticHook

end PacketLog
