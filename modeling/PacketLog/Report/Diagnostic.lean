import PacketLog.Text.Numeral

namespace PacketLog

/-- How much is said, from most to least. -/
inductive LogLevel where
  | trace | debug | info | warn | error
  deriving DecidableEq, Repr, Inhabited

namespace LogLevel

def all : List LogLevel := [.trace, .debug, .info, .warn, .error]

def name : LogLevel → String
  | .trace => "trace"
  | .debug => "debug"
  | .info => "info"
  | .warn => "warn"
  | .error => "error"

def rank : LogLevel → Nat
  | .trace => 0
  | .debug => 1
  | .info => 2
  | .warn => 3
  | .error => 4

end LogLevel

inductive DiagnosticValue where
  | text (s : String)
  | number (n : Nat)
  deriving DecidableEq, Repr

def DiagnosticValue.toText : DiagnosticValue → String
  | .text s => s
  | .number n => String.ofList (Text.Numeral.digits n)

/-- A diagnostic. Its first field is its message; a field may come twice. -/
structure Diagnostic where
  level : LogLevel
  target : String
  fields : List (String × DiagnosticValue)
  deriving DecidableEq, Repr

end PacketLog
