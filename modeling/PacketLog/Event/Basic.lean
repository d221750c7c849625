import PacketLog.Event.Severity

namespace PacketLog

/-- An error attached to an event, with the causes beneath it. -/
structure EventError where
  message : String
  /-- The messages of its causes, outermost first. -/
  chain : List String := []
  deriving DecidableEq, Repr, Inhabited

/-- The lines that report an error: its message, then one line per cause. -/
def EventError.report (e : EventError) : String :=
  e.message ++ "\r\n" ++ String.join (e.chain.map fun cause => "Caused by: " ++ cause ++ "\r\n")

structure Event where
  severity : Severity := .info
  /-- The message, with placeholders for parameters. -/
  message : String := ""
  params : List String := []
  error : Option EventError := none
  /-- The type or module that the event comes from. -/
  sourceUnit : Option String := none
  /-- The operation of the unit that the event comes from. -/
  sourceOperation : Option String := none
  logger : Option String := none
  deriving DecidableEq, Repr, Inhabited

end PacketLog
