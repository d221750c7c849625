import PacketLog.Output.Sink
import PacketLog.Output.Volume

namespace PacketLog

open Output (Buffered Device DeviceFault Format)

namespace LedgerSink

/-- A sink in front of a device that was to be opened at a path. -/
def appendTo (path : String) (opened : Except DeviceFault Device) (format : Format) :
    Except DeliveryError (LedgerSink Buffered) :=
  match opened with
  | .ok device => .ok { format, outlet := { device } }
  | .error fault => .error (.open path fault)

end LedgerSink

end PacketLog
