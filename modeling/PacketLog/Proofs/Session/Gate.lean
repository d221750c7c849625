import PacketLog.Session.Packets
import PacketLog.Session.Publish

namespace PacketLog

namespace Operation

def level : Operation → Level
  | .logException _ | .logError => .error
  | .enterMethod l | .leaveMethod l => l
  | .logDebug => .debug
  | .logVerbose => .verbose
  | .logMessage => .message
  | .logWarning => .warning

def kind : Operation → EntryKind
  | .logException _ | .logError => .error
  | .enterMethod _ => .enterMethod
  | .leaveMethod _ => .leaveMethod
  | .logDebug => .debug
  | .logVerbose => .verbose
  | .logMessage => .message
  | .logWarning => .warning

def viewer : Operation → Viewer
  | .logException _ => .data
  | _ => .title

/-- The data of an error are its report behind the bytes that mark a text as UTF-8. -/
def data : Operation → Option Bytes
  | .logException e => some ([0xEF, 0xBB, 0xBF] ++ Text.bytes e.report)
  | _ => none

/-- The process flow that goes with the log entry of an operation, if one does. -/
def step? : Operation → Option FlowStep
  | .enterMethod _ => some .enterMethod
  | .leaveMethod _ => some .leaveMethod
  | _ => none

end Operation

/-- The operation that an event is dispatched to. -/
def Event.operation (e : Event) : Operation := e.route.operation e

theorem dispatch_route {σ : Type} [Session σ] (session : σ) (title : String) (e : Event) :
    dispatch session e.route title e = Session.log session e.operation title := rfl

theorem Level.le_trans {a b c : Level} (hab : a ≤ b) (hbc : b ≤ c) : a ≤ c :=
  Int32.le_trans hab hbc

theorem Severity.level_le_error (v : Severity) : v.level ≤ .error := by
  cases v with
  | other v =>
    have hl : (Severity.other v).level = .message := rfl
    rw [hl]
    decide
  | _ => decide

theorem Route.level_operation_ofLevel {l : Level} (h : l ≤ .error) (e : Event) :
    ((Route.ofLevel l).operation e).level = l := by
  cases l with
  | fatal => exact absurd h (by decide)
  | control => exact absurd h (by decide)
  | _ => rfl

namespace Event

theorem operation_of_error {e : Event} {error : EventError} (h : e.error = some error) :
    e.operation = .logException error := by
  simp only [operation, route, h, Option.isSome_some, ↓reduceIte, Route.operation]

theorem level_operation_of_error_eq_none {e : Event} (h : e.error = none) :
    e.operation.level = e.severity.level := by
  simp only [operation, route, h, Option.isSome_none, Bool.false_eq_true, ↓reduceIte]
  split
  · rfl
  split
  · rfl
  · exact Route.level_operation_ofLevel e.severity.level_le_error e

/-- An event is never logged below its own level. -/
theorem severity_level_le_operation_level (e : Event) :
    e.severity.level ≤ e.operation.level := by
  cases h : e.error with
  | none =>
    rw [level_operation_of_error_eq_none h]
    exact Int32.le_refl _
  | some error =>
    rw [operation_of_error h]
    exact e.severity.level_le_error

end Event

namespace PacketSession

variable {κ : Type}

theorem isOn_mono {s : PacketSession κ} {a b : Level} (h : a ≤ b) (ha : s.isOn a = true) :
    s.isOn b = true := by
  simp only [isOn, Bool.and_eq_true, decide_eq_true_eq] at ha ⊢
  exact ⟨ha.1, Level.le_trans ha.2 h⟩

theorem isOn_operation {s : PacketSession κ} {e : Event} (h : s.isOn e.severity.level = true) :
    s.isOn e.operation.level = true :=
  isOn_mono e.severity_level_le_operation_level h

def operationEntry (s : PacketSession κ) (operation : Operation) (title : String) : Entry :=
  s.entry operation.level title operation.kind operation.viewer operation.data

/-- A log entry with all that a session puts into it for an operation, at whatever time. -/
structure EntryFor (s : PacketSession κ) (operation : Operation) (title : String) (e : Entry) :
    Prop where
  level : e.stamp.level = operation.level
  kind : e.kind = operation.kind
  viewer : e.viewer = operation.viewer
  data : e.data = operation.data
  title : e.title = some title
  session : e.session = some s.name
  app : e.app = s.app
  host : e.host = s.host
  color : e.color = s.color

theorem entryFor_operationEntry (s : PacketSession κ) (operation : Operation) (title : String) :
    s.EntryFor operation title (s.operationEntry operation title) := by
  constructor <;> rfl

theorem packets_eq (s : PacketSession κ) (operation : Operation) (title : String) :
    s.packets operation title = (operation.level, .entry (s.operationEntry operation title) ::
      (operation.step?.map fun step => .flow (s.flow operation.level title step)).toList) := by
  cases operation <;> rfl

variable [PacketSink κ]

theorem log_of_isOn {s : PacketSession κ} {operation : Operation}
    (h : s.isOn operation.level = true) (title : String) :
    s.log operation title = s.sendEach (.entry (s.operationEntry operation title) ::
      (operation.step?.map fun step => .flow (s.flow operation.level title step)).toList) := by
  rw [log, packets_eq]
  exact if_pos h

theorem sendEach_around (s : PacketSession κ) (ps : List Packet) :
    (s.sendEach ps).2.around = s.around := by
  induction ps generalizing s with
  | nil => rfl
  | cons p ps ih =>
    have hsend : (s.send p).2.around = s.around := rfl
    rw [sendEach]
    generalize s.send p = answer at hsend
    obtain ⟨result, s'⟩ := answer
    cases result with
    | ok _ => exact (ih s').trans hsend
    | error error => exact hsend

theorem log_around (s : PacketSession κ) (operation : Operation) (title : String) :
    (s.log operation title).2.around = s.around := by
  rw [log, packets_eq]
  dsimp only
  split
  · exact s.sendEach_around _
  · rfl

end PacketSession

namespace Handler

theorem publish_eq {σ η : Type} [Session σ] [ErrorHook η] (h : Handler σ η) (e : Event) :
    h.publish e = { h with
      session := (attempt h.titles h.session e).2
      hook := ((failure? (attempt h.titles h.session e).1).toList.map .ofError).foldl
        ErrorHook.report h.hook } := by
  rw [publish]
  generalize attempt h.titles h.session e = outcome
  obtain ⟨answer, session⟩ := outcome
  dsimp only
  cases failure? answer <;> rfl

variable {κ η : Type} [PacketSink κ] [ErrorHook η] {h : Handler (PacketSession κ) η} {e : Event}

theorem publish_of_isOn_eq_false (hoff : h.session.isOn e.severity.level = false) :
    h.publish e = h := by
  simp only [publish, attempt, Session.isOn, hoff, failure?]

/-- What passes the gate is logged, and only a refusal is reported. -/
theorem publish_of_isOn {title : String} (ht : h.titles e = .ok title)
    (hon : h.session.isOn e.severity.level = true) :
    h.publish e = match h.session.log e.operation title with
      | (.ok (), session) => { h with session }
      | (.error error, session) =>
        { h with session, hook := ErrorHook.report h.hook (.ofError error) } := by
  simp only [publish, attempt, dispatch_route, Session.isOn, Session.log, hon, ht]
  generalize h.session.log e.operation title = answer
  obtain ⟨result, session⟩ := answer
  cases result with
  | ok _ => rfl
  | error error => rfl

theorem publish_around (h : Handler (PacketSession κ) η) (e : Event) :
    (h.publish e).session.around = h.session.around := by
  have ha : (attempt h.titles h.session e).2.around = h.session.around := by
    simp only [attempt, dispatch_route, Session.isOn, Session.log]
    cases h.session.isOn e.severity.level with
    | false => rfl
    | true =>
      cases h.titles e with
      | error panic => rfl
      | ok title => exact h.session.log_around e.operation title
  rw [publish]
  dsimp only
  split <;> exact ha

end Handler

end PacketLog
