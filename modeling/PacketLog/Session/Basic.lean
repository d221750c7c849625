import PacketLog.Event.Route
import PacketLog.Output.Failure

namespace PacketLog

/-- What a session is asked to log. -/
inductive Operation where
  | logDebug | logVerbose | logMessage | logWarning | logError
  /-- An error together with its report. -/
  | logException (error : EventError)
  | enterMethod (level : Level)
  | leaveMethod (level : Level)
  deriving DecidableEq, Repr

/-- Something that logs. Any answer may be a breakdown. -/
class Session (σ : Type) where
  /-- Whether anything at a level would be logged. -/
  isOn : σ → Level → Except Panic Bool × σ
  log : σ → Operation → String → Except Panic (Except DeliveryError Unit) × σ

/-- A way to give events titles, which may break down. -/
abbrev TitleStyle := Event → Except Panic String

/-- Every event under its own title. -/
def TitleStyle.standard : TitleStyle := fun e => .ok e.title

end PacketLog
