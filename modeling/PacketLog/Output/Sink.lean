import PacketLog.Output.Failure
import PacketLog.Output.Format

namespace PacketLog

open Output (Format Outlet)

class PacketSink (κ : Type) where
  send : κ → Packet → Except DeliveryError Unit × κ

structure SinkStats where
  packets : Nat := 0
  bytes : Nat := 0
  /-- Packets that the format does not render. -/
  skipped : Nat := 0
  deriving DecidableEq, Repr

/-- A sink that writes packets to an outlet in a format. -/
structure LedgerSink (ω : Type) where
  format : Format
  outlet : ω
  closed : Bool := false
  stats : SinkStats := {}

namespace LedgerSink

variable {ω : Type} [Outlet ω]

/-- Writes a packet and counts it; a packet that fails to be written is not counted. -/
def send (s : LedgerSink ω) (p : Packet) : Except DeliveryError Unit × LedgerSink ω :=
  if s.closed then (.error .closed, s)
  else
    let (length, format) := s.format.compile p
    if length = 0 then
      (.ok (), { s with format, stats := { s.stats with skipped := s.stats.skipped + 1 } })
    else
      match format.write s.outlet with
      | (.error fault, outlet) => (.error (.write fault), { s with format, outlet })
      | (.ok (), outlet) =>
        (.ok (), { s with
          format
          outlet
          stats := { s.stats with
            packets := s.stats.packets + 1
            bytes := s.stats.bytes + length } })

/-- Passes on what the outlet holds back, also when the sink is closed. -/
def flush (s : LedgerSink ω) : Except DeliveryError Unit × LedgerSink ω :=
  match Outlet.flush s.outlet with
  | (.error fault, outlet) => (.error (.flush fault), { s with outlet })
  | (.ok (), outlet) => (.ok (), { s with outlet })

/-- Closes the sink to further packets and flushes it; closing it again does nothing. -/
def close (s : LedgerSink ω) : Except DeliveryError Unit × LedgerSink ω :=
  if s.closed then (.ok (), s) else { s with closed := true }.flush

instance : PacketSink (LedgerSink ω) := ⟨send⟩

end LedgerSink

end PacketLog
