import PacketLog.Packet.Level
import PacketLog.Text.Numeral

namespace PacketLog

/-- How serious the logging program says an event is. -/
inductive Severity where
  | finest | finer | fine | config | info | warning | severe
  /-- A number without a name. -/
  | other (value : Int32)
  deriving DecidableEq, Repr

namespace Severity

/-- An event that is given no severity is for information. -/
instance : Inhabited Severity := ⟨.info⟩

def named : List Severity := [.finest, .finer, .fine, .config, .info, .warning, .severe]

def value : Severity → Int32
  | .finest => 300
  | .finer => 400
  | .fine => 500
  | .config => 700
  | .info => 800
  | .warning => 900
  | .severe => 1000
  | .other v => v

def ofValue (v : Int32) : Severity := (named.find? (·.value == v)).getD (.other v)

/-- The name of a severity, or its number if it has none. -/
def display : Severity → String
  | .finest => "FINEST"
  | .finer => "FINER"
  | .fine => "FINE"
  | .config => "CONFIG"
  | .info => "INFO"
  | .warning => "WARNING"
  | .severe => "SEVERE"
  | .other v => String.ofList (Text.Numeral.signed v.toInt)

def ofName? (s : String) : Option Severity :=
  named.find? fun v => v.display.toLower == s.toLower

def levelTable : List (Severity × Level) := [
  (.finest, .debug), (.finer, .debug), (.fine, .verbose), (.config, .verbose), (.info, .message),
  (.warning, .warning), (.severe, .error)]

/-- The level of a severity that the table does not hold. -/
def defaultLevel : Level := .message

def level (v : Severity) : Level := (levelTable.lookup v).getD defaultLevel

end Severity

end PacketLog
