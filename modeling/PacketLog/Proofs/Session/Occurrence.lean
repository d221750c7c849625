import PacketLog.Proofs.Session.Gate

namespace PacketLog

/-- An event, and the surroundings in which it is published. -/
structure Occurrence where
  around : Ambient
  event : Event

/-- A session with its surroundings and its sink changed. -/
def PacketSession.moved {κ : Type} (s : PacketSession κ) (around : Ambient) (sink : κ) :
    PacketSession κ :=
  { s with around, sink }

namespace Handler

variable {κ η : Type} [PacketSink κ] [ErrorHook η]

def publishAt (h : Handler (PacketSession κ) η) (o : Occurrence) : Handler (PacketSession κ) η :=
  { h with session := h.session.moved o.around h.session.sink }.publish o.event

/-- Publishes events one after another, each in its surroundings. -/
def publishEach (h : Handler (PacketSession κ) η) (os : List Occurrence) :
    Handler (PacketSession κ) η :=
  os.foldl publishAt h

theorem publishEach_around (h : Handler (PacketSession κ) η) (events : List Event) :
    h.publishEach (events.map fun e => ⟨h.session.around, e⟩) = h.publishAll events := by
  induction events generalizing h with
  | nil => rfl
  | cons e events ih =>
    have hi := ih (h.publish e)
    rw [publish_around] at hi
    exact hi

end Handler

end PacketLog
