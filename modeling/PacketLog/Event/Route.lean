import PacketLog.Event.Title

namespace PacketLog

/-- What an event is for. -/
inductive Route where
  | exception
  | enterMethod (level : Level)
  | leaveMethod (level : Level)
  | debug | verbose | message | warning | error
  deriving DecidableEq, Repr

def Route.ofLevel : Level → Route
  | .debug => .debug
  | .verbose => .verbose
  | .warning => .warning
  | .error => .error
  | .message | .fatal | .control => .message

/-- An error decides first, then a token at the front of the message, then the level. -/
def Event.route (e : Event) : Route :=
  if e.error.isSome then .exception
  else if entryToken.toList.isPrefixOf e.message.toList then .enterMethod e.severity.level
  else if returnToken.toList.isPrefixOf e.message.toList then .leaveMethod e.severity.level
  else .ofLevel e.severity.level

end PacketLog
