import PacketLog.Packet.Code

namespace PacketLog

/-- Severity of a packet, from least to most severe. -/
inductive Level where
  | debug | verbose | message | warning | error | fatal | control
  deriving DecidableEq, Repr

namespace Level

def name : Level → String
  | .debug => "Debug"
  | .verbose => "Verbose"
  | .message => "Message"
  | .warning => "Warning"
  | .error => "Error"
  | .fatal => "Fatal"
  | .control => "Control"

instance : Coded Level where
  typeName := "Level"
  all := [
    .debug, .verbose, .message, .warning, .error, .fatal, .control]
  code
    | .debug => 0
    | .verbose => 1
    | .message => 2
    | .warning => 3
    | .error => 4
    | .fatal => 5
    | .control => 6

/-- Levels are ordered by their codes. -/
instance : LE Level where
  le a b := code a ≤ code b

instance (a b : Level) : Decidable (a ≤ b) := inferInstanceAs (Decidable (code a ≤ code b))

/-- A packet that is given no level is a message. -/
instance : Inhabited Level := ⟨.message⟩

def ofName? (s : String) : Option Level :=
  (Coded.all : List Level).find? fun l => l.name.toLower == s.toLower

end Level

end PacketLog
