import PacketLog.Event.Basic
import PacketLog.Json.Reader

namespace PacketLog

def fieldOr {α : Type} (default : α) (read : Json → Option α) : Option Json → Option α
  | none => some default
  | some j => read j

/-- A severity is a name or a whole number of 32 bits, written without point or exponent. -/
def Severity.ofJson? : Json → Option Severity
  | .string s => s.bind Severity.ofName?
  | .number text =>
    if text = ['-', '0'] then none
    else (Text.Numeral.intWithin? 0x80000000 text).map fun n => .ofValue (Int32.ofInt n)
  | _ => none

def EventError.ofJson? (j : Json) : Option EventError := do
  match ← j.fields? ["message", "chain"] with
  | [message, chain] =>
    some {
      message := ← fieldOr "" Json.text? message
      chain := ← fieldOr [] (Json.listOf? Json.text?) chain }
  | _ => none

namespace Event

def ofJson? (j : Json) : Option Event := do
  match ← j.fields? ["severity", "message", "params", "error", "source_unit", "source_operation",
      "logger"] with
  | [severity, message, params, error, sourceUnit, sourceOperation, logger] =>
    some {
      severity := ← fieldOr .info Severity.ofJson? severity
      message := ← fieldOr "" Json.text? message
      params := ← fieldOr [] (Json.listOf? Json.text?) params
      error := ← fieldOr none (Json.nullable EventError.ofJson?) error
      sourceUnit := ← fieldOr none (Json.nullable Json.text?) sourceUnit
      sourceOperation := ← fieldOr none (Json.nullable Json.text?) sourceOperation
      logger := ← fieldOr none (Json.nullable Json.text?) logger }
  | _ => none

def read? (bs : Bytes) : Option Event := (Json.read? bs).bind ofJson?

end Event

end PacketLog
