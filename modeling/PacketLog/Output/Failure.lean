import PacketLog.Output.Device
import PacketLog.Packet.Fault

namespace PacketLog

open Output (DeviceFault)

inductive FailureCode where
  | generic | write | flush | close | open | format
  deriving DecidableEq, Repr

namespace FailureCode

def number : FailureCode → Nat
  | .generic => 0
  | .write => 1
  | .flush => 2
  | .close => 3
  | .open => 4
  | .format => 5

def name : FailureCode → String
  | .generic => "generic"
  | .write => "write"
  | .flush => "flush"
  | .close => "close"
  | .open => "open"
  | .format => "format"

end FailureCode

/-- What a program leaves behind when it breaks down: a text, or something that is no text. -/
inductive Panic where
  | text (s : String)
  | opaqueValue
  deriving DecidableEq, Repr

/-- Why a packet was not delivered. -/
inductive DeliveryError where
  /-- The output could not be opened. -/
  | open (path : String) (fault : DeviceFault)
  | write (fault : DeviceFault)
  | flush (fault : DeviceFault)
  /-- The sink was closed before the packet arrived. -/
  | closed
  /-- The packet could not be built. -/
  | invalid (fault : PacketFault)
  /-- The session broke down over the event. -/
  | panicked (message : String)
  deriving DecidableEq, Repr

namespace DeliveryError

def ofPanic : Panic → DeliveryError
  | .text s => .panicked s
  | .opaqueValue => .panicked "unknown panic payload"

def message : DeliveryError → String
  | .open path fault => "failed to open output '" ++ path ++ "': " ++ fault.text
  | .write fault => "failed to write packet: " ++ fault.text
  | .flush fault => "failed to flush output: " ++ fault.text
  | .closed => "packet sink is closed"
  | .invalid fault => "invalid packet: " ++ fault.message
  | .panicked s => "session panicked: " ++ s

/-- The wording of what lies beneath an error, if something does. -/
def cause? : DeliveryError → Option String
  | .open _ fault | .write fault | .flush fault => some fault.text
  | .invalid fault => some fault.message
  | .closed | .panicked _ => none

def code : DeliveryError → FailureCode
  | .open _ _ => .open
  | .write _ => .write
  | .flush _ => .flush
  | .closed => .close
  | .invalid _ => .format
  | .panicked _ => .generic

end DeliveryError

end PacketLog
