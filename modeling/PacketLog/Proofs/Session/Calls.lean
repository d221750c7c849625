import Mathlib.Data.List.Forall2
import PacketLog.Proofs.Event.Route

namespace PacketLog

/-- Something that a session was asked, with its answer. -/
inductive SessionCall where
  | isOn (level : Level) (answer : Except Panic Bool)
  | log (operation : Operation) (title : String) (answer : Except Panic (Except DeliveryError Unit))

/-- A session of any behaviour, and all that it was asked. -/
structure Overheard (σ : Type) where
  session : σ
  calls : List SessionCall

instance {σ : Type} [Session σ] : Session (Overheard σ) where
  isOn o level :=
    let (answer, session) := Session.isOn o.session level
    (answer, ⟨session, o.calls ++ [.isOn level answer]⟩)
  log o operation title :=
    let (answer, session) := Session.log o.session operation title
    (answer, ⟨session, o.calls ++ [.log operation title answer]⟩)

/-- A hook of any behaviour, and all that it was told. -/
structure Briefed (η : Type) where
  hook : η
  reports : List Report

instance {η : Type} [ErrorHook η] : ErrorHook (Briefed η) where
  report b r := ⟨ErrorHook.report b.hook r, b.reports ++ [r]⟩

def breakdown (panic : Panic) : Report :=
  let text := match panic with
    | .text s => s
    | .opaqueValue => "unknown panic payload"
  ⟨"session panicked: " ++ text, .panicked text, .generic⟩

/-- What there is to report of an answer. -/
def complaints : Except Panic (Except DeliveryError Unit) → List Report
  | .ok (.ok ()) => []
  | .ok (.error error) => [⟨error.message, error, error.code⟩]
  | .error panic => [breakdown panic]

/-- What publishing an event asks of a session, and what it tells a hook. -/
inductive Exchange (titles : TitleStyle) (e : Event) : List SessionCall → List Report → Prop where
  | off : Exchange titles e [.isOn e.severity.level (.ok false)] []
  | gateBroken (panic : Panic) :
    Exchange titles e [.isOn e.severity.level (.error panic)] [breakdown panic]
  | titleBroken {panic : Panic} (ht : titles e = .error panic) :
    Exchange titles e [.isOn e.severity.level (.ok true)] [breakdown panic]
  | logged {title : String} {operation : Operation} (ht : titles e = .ok title)
      (ho : e.Names operation) (answer : Except Panic (Except DeliveryError Unit)) :
    Exchange titles e [.isOn e.severity.level (.ok true), .log operation title answer]
      (complaints answer)

theorem ofError_ofPanic (panic : Panic) : Report.ofError (.ofPanic panic) = breakdown panic := by
  cases panic <;> rfl

theorem toList_failure? (answer : Except Panic (Except DeliveryError Unit)) :
    (failure? answer).toList.map .ofError = complaints answer := by
  match answer with
  | .ok (.ok ()) => rfl
  | .ok (.error error) => rfl
  | .error panic => exact congrArg ([·]) (ofError_ofPanic panic)

variable {σ η : Type} [Session σ] [ErrorHook η]

theorem attempt_overheard (titles : TitleStyle) (s : Overheard σ) (e : Event) :
    ∃ calls, (attempt titles s e).2.calls = s.calls ++ calls ∧
      (attempt titles s e).2.session = (attempt titles s.session e).2 ∧
      (attempt titles s e).1 = (attempt titles s.session e).1 ∧
      Exchange titles e calls (complaints (attempt titles s e).1) := by
  have hgate : Session.isOn s e.severity.level =
      ((Session.isOn s.session e.severity.level).1, ⟨(Session.isOn s.session e.severity.level).2,
        s.calls ++ [.isOn e.severity.level (Session.isOn s.session e.severity.level).1]⟩) := rfl
  rw [attempt, attempt, hgate]
  generalize Session.isOn s.session e.severity.level = gate
  obtain ⟨answer, session⟩ := gate
  obtain panic | (_ | _) := answer
  · exact ⟨_, rfl, rfl, rfl, .gateBroken panic⟩
  · exact ⟨_, rfl, rfl, rfl, .off⟩
  · cases ht : titles e with
    | error panic => exact ⟨_, rfl, rfl, rfl, .titleBroken ht⟩
    | ok title =>
      have hlog (o : Overheard σ) : Session.log o e.operation title =
          ((Session.log o.session e.operation title).1,
            ⟨(Session.log o.session e.operation title).2,
              o.calls ++ [.log e.operation title (Session.log o.session e.operation title).1]⟩) := rfl
      dsimp only
      rw [dispatch_route, dispatch_route, hlog]
      refine ⟨_, List.append_assoc _ _ _, rfl, rfl, ?_⟩
      exact .logged ht (Event.names_iff.2 rfl) _

namespace Handler

/-- The handler beneath one that is listened to. -/
def beneath (h : Handler (Overheard σ) (Briefed η)) : Handler σ η :=
  ⟨h.session.session, h.hook.hook, h.titles⟩

theorem foldl_report (b : Briefed η) (reports : List Report) :
    reports.foldl ErrorHook.report b =
      ⟨reports.foldl ErrorHook.report b.hook, b.reports ++ reports⟩ := by
  induction reports generalizing b with
  | nil => rw [List.append_nil]; rfl
  | cons r reports ih =>
    rw [List.foldl_cons, ih]
    exact congrArg _ (List.append_assoc b.reports [r] reports)

theorem publish_exchange (h : Handler (Overheard σ) (Briefed η)) (e : Event) :
    ∃ calls reports, Exchange h.titles e calls reports ∧
      (h.publish e).session.calls = h.session.calls ++ calls ∧
      (h.publish e).hook.reports = h.hook.reports ++ reports ∧
      (h.publish e).beneath = h.beneath.publish e := by
  obtain ⟨calls, hcalls, hsession, hanswer, hexchange⟩ := attempt_overheard h.titles h.session e
  refine ⟨calls, _, hexchange, ?_, ?_, ?_⟩
  · rw [publish_eq]
    exact hcalls
  · rw [publish_eq, foldl_report, toList_failure?]
  · rw [publish_eq, publish_eq, foldl_report, hanswer, beneath, hsession]
    rfl

/-- Publishes events one after another, each under titles of its own. -/
def publishUnder (h : Handler σ η) (events : List (TitleStyle × Event)) : Handler σ η :=
  events.foldl (fun h (titles, e) => { h with titles }.publish e) h

theorem publishAll_eq (h : Handler σ η) (events : List Event) :
    h.publishAll events = h.publishUnder (events.map (h.titles, ·)) := by
  induction events generalizing h with
  | nil => rfl
  | cons e events ih =>
    have ht : (h.publish e).titles = h.titles := by rw [publish_eq]
    have hi := ih (h.publish e)
    rw [ht] at hi
    exact hi

/-- Without a level that is on, the titles do not matter. -/
theorem publish_of_not_on {h : Handler σ η} {e : Event}
    (hoff : (Session.isOn h.session e.severity.level).1 ≠ .ok true) (titles : TitleStyle) :
    { h with titles }.publish e = { h.publish e with titles } := by
  have ha : attempt titles h.session e = attempt h.titles h.session e := by
    simp only [attempt]
    generalize Session.isOn h.session e.severity.level = gate at hoff
    obtain ⟨panic | (_ | _), session⟩ := gate
    · rfl
    · rfl
    · exact absurd rfl hoff
  rw [publish_eq, publish_eq, ha]

theorem beneath_publishUnder (h : Handler (Overheard σ) (Briefed η))
    (events : List (TitleStyle × Event)) :
    (h.publishUnder events).beneath = h.beneath.publishUnder events := by
  induction events generalizing h with
  | nil => rfl
  | cons p events ih =>
    obtain ⟨titles, e⟩ := p
    obtain ⟨-, -, -, -, -, hbeneath⟩ := publish_exchange { h with titles } e
    have hi := ih ({ h with titles }.publish e)
    rw [hbeneath] at hi
    exact hi

/-- Publishing any events comes to an end, with one exchange for each event. The exchanges are those
that the session and the hook have when nobody listens to them, and no title is asked for when the
level of an event is not on. -/
theorem publishUnder_exchanges (h : Handler (Overheard σ) (Briefed η))
    (events : List (TitleStyle × Event)) :
    (∃ exchanges : List (List SessionCall × List Report),
      List.Forall₂ (fun (titles, e) (calls, reports) => Exchange titles e calls reports)
        events exchanges ∧
      (h.publishUnder events).session.calls =
        h.session.calls ++ (exchanges.map Prod.fst).flatten ∧
      (h.publishUnder events).hook.reports =
        h.hook.reports ++ (exchanges.map Prod.snd).flatten) ∧
    (h.publishUnder events).beneath = h.beneath.publishUnder events ∧
    (∀ events : List Event, h.publishAll events = h.publishUnder (events.map (h.titles, ·))) ∧
    ∀ (h : Handler σ η) (e : Event) (titles : TitleStyle),
      (Session.isOn h.session e.severity.level).1 ≠ .ok true →
      { h with titles }.publish e = { h.publish e with titles } := by
  refine ⟨?_, h.beneath_publishUnder events, h.publishAll_eq,
    fun h e titles hoff => publish_of_not_on hoff titles⟩
  induction events generalizing h with
  | nil => exact ⟨[], .nil, (List.append_nil _).symm, (List.append_nil _).symm⟩
  | cons p events ih =>
    obtain ⟨titles, e⟩ := p
    obtain ⟨calls, reports, hexchange, hcalls, hreports, -⟩ :=
      publish_exchange { h with titles } e
    obtain ⟨exchanges, hall, hcalls', hreports'⟩ := ih ({ h with titles }.publish e)
    refine ⟨(calls, reports) :: exchanges, .cons hexchange hall, ?_, ?_⟩
    · rw [hcalls, List.append_assoc] at hcalls'
      exact hcalls'
    · rw [hreports, List.append_assoc] at hreports'
      exact hreports'

end Handler

end PacketLog
