import PacketLog.Report.Basic
import PacketLog.Session.Basic

namespace PacketLog

/-- The operation that a route leads to. -/
def Route.operation (route : Route) (e : Event) : Operation :=
  match route with
  | .exception =>
    match e.error with
    | some failure => .logException failure
    | none => .logError
  | .enterMethod level => .enterMethod level
  | .leaveMethod level => .leaveMethod level
  | .debug => .logDebug
  | .verbose => .logVerbose
  | .message => .logMessage
  | .warning => .logWarning
  | .error => .logError

variable {σ η : Type} [Session σ] [ErrorHook η]

def dispatch (session : σ) (route : Route) (title : String) (e : Event) :
    Except Panic (Except DeliveryError Unit) × σ :=
  Session.log session (route.operation e) title

/-- Asks a session to log an event, unless the level of the event is off. -/
def attempt (titles : TitleStyle) (session : σ) (e : Event) :
    Except Panic (Except DeliveryError Unit) × σ :=
  match Session.isOn session e.severity.level with
  | (.error panic, session) => (.error panic, session)
  | (.ok false, session) => (.ok (.ok ()), session)
  | (.ok true, session) =>
    match titles e with
    | .error panic => (.error panic, session)
    | .ok title => dispatch session e.route title e

/-- What went wrong in an attempt; a breakdown is an error like any other. -/
def failure? : Except Panic (Except DeliveryError Unit) → Option DeliveryError
  | .ok (.ok ()) => none
  | .ok (.error e) => some e
  | .error panic => some (.ofPanic panic)

structure Handler (σ η : Type) where
  session : σ
  hook : η
  titles : TitleStyle := .standard

namespace Handler

def publish (h : Handler σ η) (e : Event) : Handler σ η :=
  let (outcome, session) := attempt h.titles h.session e
  match failure? outcome with
  | none => { h with session }
  | some error => { h with session, hook := ErrorHook.report h.hook (.ofError error) }

def publishAll (h : Handler σ η) (events : List Event) : Handler σ η := events.foldl publish h

end Handler

end PacketLog
