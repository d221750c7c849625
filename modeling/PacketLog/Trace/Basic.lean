import PacketLog.Decimal.Float
import PacketLog.Event.Basic
import PacketLog.Report.Diagnostic
import PacketLog.Session.Publish
import PacketLog.Text.Quoted

namespace PacketLog

inductive FieldValue where
  | text (s : String)
  /-- An error with its causes. -/
  | failure (e : EventError)
  deriving DecidableEq, Repr

namespace FieldValue

def quoted (s : String) : FieldValue := .text (Text.quoted s)

def int (n : Int) : FieldValue := .text (String.ofList (Text.Numeral.signed n))

def bool (b : Bool) : FieldValue := .text (if b then "true" else "false")

def float (x : Float) : FieldValue := .text (Decimal.floatText x)

end FieldValue

structure TraceEvent where
  level : LogLevel
  target : String
  module : Option String
  /-- Names and values in the order in which they are recorded; a name may come twice. -/
  fields : List (String × FieldValue)
  deriving DecidableEq, Repr

structure Gathered where
  message : String := ""
  /-- The text of all fields without a meaning of their own. -/
  extras : String := ""
  operation : Option String := none
  error : Option EventError := none
  deriving DecidableEq, Repr

namespace Gathered

def extra (g : Gathered) (name value : String) : Gathered :=
  { g with extras := g.extras ++ " " ++ name ++ "=" ++ value }

/-- Records a field. A recorded error has a meaning only under the name `error`. -/
def record (g : Gathered) (field : String × FieldValue) : Gathered :=
  match field with
  | (name, .text s) =>
    if name = "message" then { g with message := s }
    else if name = "operation" then { g with operation := some s }
    else if name = "error" then { g with error := some { message := s } }
    else g.extra name s
  | (name, .failure e) =>
    if name = "error" then { g with error := some e } else g.extra name e.message

def ofFields (fields : List (String × FieldValue)) : Gathered := fields.foldl record {}

end Gathered

def LogLevel.severity : LogLevel → Severity
  | .trace => .finest
  | .debug => .fine
  | .info => .info
  | .warn => .warning
  | .error => .severe

namespace TraceEvent

/-- The front of the targets under which failures are reported. -/
def internalTarget : String := "sift_bridge"

/-- Whether an event could be a report of a failure in publishing; it is not published again. -/
def isInternal (t : TraceEvent) : Bool := internalTarget.toList.isPrefixOf t.target.toList

/-- The log event of a trace event; an operation counts only together with a module. -/
def event (t : TraceEvent) : Event :=
  let g := Gathered.ofFields t.fields
  { severity := t.level.severity
    message := g.message ++ g.extras
    error := g.error
    sourceUnit := t.module
    sourceOperation := if t.module.isSome then g.operation else none
    logger := some t.target }

end TraceEvent

def Handler.trace {σ η : Type} [Session σ] [ErrorHook η] (h : Handler σ η) (t : TraceEvent) :
    Handler σ η :=
  if t.isInternal then h else h.publish t.event

end PacketLog
