import PacketLog.Proofs.Event.Route

namespace PacketLog

/-- A packet that a sink was offered, with the answer of the sink. -/
abbrev Offer := Packet × Except DeliveryError Unit

/-- A sink of any behaviour, and all that it was offered. -/
structure Watched (κ : Type) where
  sink : κ
  offers : List Offer

instance {κ : Type} [PacketSink κ] : PacketSink (Watched κ) where
  send w p :=
    let (answer, sink) := PacketSink.send w.sink p
    (answer, ⟨sink, w.offers ++ [(p, answer)]⟩)

def refusal? : Except DeliveryError Unit → Option DeliveryError
  | .ok () => none
  | .error error => some error

def refusals (offers : List Offer) : List DeliveryError := offers.filterMap fun o => refusal? o.2

namespace PacketSession

variable {κ : Type}

/-- A process flow with all that a session puts into it for a step, at whatever time. -/
structure FlowFor (s : PacketSession κ) (level : Level) (step : FlowStep) (title : String)
    (f : Flow) : Prop where
  level : f.stamp.level = level
  step : f.step = step
  title : f.title = some title
  host : f.host = s.host

/-- All that an operation asks for: its log entry, and behind an entry that was accepted the process
flow, if the operation has one. -/
def AllOffered (s : PacketSession κ) (operation : Operation) (title : String)
    (offers : List Offer) : Prop :=
  ∃ e answer flows, offers = (.entry e, answer) :: flows ∧ s.EntryFor operation title e ∧
    match operation.step?, answer with
    | some step, .ok () =>
      ∃ f answer, flows = [(.flow f, answer)] ∧ s.FlowFor operation.level step title f
    | _, _ => flows = []

theorem flowFor_flow (s : PacketSession κ) (level : Level) (step : FlowStep) (title : String) :
    s.FlowFor level step title (s.flow level title step) := by
  constructor <;> rfl

variable [PacketSink κ]

theorem send_watched (s : PacketSession (Watched κ)) (p : Packet) :
    ∃ answer s', s.send p = (answer, s') ∧ s'.sink.offers = s.sink.offers ++ [(p, answer)] :=
  ⟨_, _, rfl, rfl⟩

/-- An operation whose level is on offers all that it asks for, and fails with the only refusal. -/
theorem log_offers {s : PacketSession (Watched κ)} {operation : Operation}
    (h : s.isOn operation.level = true) (title : String) :
    ∃ answer s' offers, s.log operation title = (answer, s') ∧
      s'.sink.offers = s.sink.offers ++ offers ∧ s.AllOffered operation title offers ∧
      refusals offers = (refusal? answer).toList := by
  have he := s.entryFor_operationEntry operation title
  obtain ⟨answer, s₁, hs₁, ho₁⟩ := s.send_watched (.entry (s.operationEntry operation title))
  rw [log_of_isOn h, sendEach, hs₁]
  cases answer with
  | error error =>
    refine ⟨_, s₁, _, rfl, ho₁, ⟨_, _, [], rfl, he, ?_⟩, rfl⟩
    cases operation.step? <;> rfl
  | ok u =>
    cases hstep : operation.step? with
    | none =>
      refine ⟨_, s₁, _, rfl, ho₁, ⟨_, _, [], rfl, he, ?_⟩, rfl⟩
      simp only [hstep]
    | some step =>
      have hf := s.flowFor_flow operation.level step title
      obtain ⟨answer, s₂, hs₂, ho₂⟩ := s₁.send_watched (.flow (s.flow operation.level title step))
      refine ⟨answer, s₂, [(.entry (s.operationEntry operation title), .ok ()),
        (.flow (s.flow operation.level title step), answer)], ?_, ?_, ⟨_, _, _, rfl, he, ?_⟩, ?_⟩
      · simp only [Option.map_some, Option.toList_some, sendEach, hs₂]
        cases answer <;> rfl
      · rw [ho₂, ho₁, List.append_assoc]
        rfl
      · simp only [hstep]
        exact ⟨_, _, rfl, hf⟩
      · cases answer <;> rfl

end PacketSession

/-- An event that is held back reaches neither the sink nor the hook. Any other is offered with all
that its route asks for, and if the sink refuses a packet, that is the only report. -/
theorem publish_offers {κ : Type} [PacketSink κ] (s : PacketSession (Watched κ)) (log : ReportLog)
    (titles : Event → String) (e : Event) :
    let h : Handler (PacketSession (Watched κ)) ReportLog :=
      { session := s, hook := log, titles := fun e => .ok (titles e) }
    ∃ offers, (h.publish e).session.sink.offers = s.sink.offers ++ offers ∧
      (h.publish e).hook.reports = log.reports ++
        (refusals offers).map (fun error => ⟨error.message, error, error.code⟩) ∧
      (refusals offers).length ≤ 1 ∧
      (s.isOn e.severity.level = false → offers = []) ∧
      (s.isOn e.severity.level = true →
        ∃ operation, e.Names operation ∧ s.AllOffered operation (titles e) offers) := by
  intro h
  cases hon : s.isOn e.severity.level with
  | false =>
    have hp : h.publish e = h := Handler.publish_of_isOn_eq_false hon
    rw [hp]
    exact ⟨[], (List.append_nil _).symm, (List.append_nil _).symm, Nat.zero_le 1, fun _ => rfl, nofun⟩
  | true =>
    have ht : h.titles e = .ok (titles e) := rfl
    have hp := Handler.publish_of_isOn ht hon
    obtain ⟨answer, s', offers, hl, hsink, hall, href⟩ :=
      PacketSession.log_offers (PacketSession.isOn_operation hon) (titles e)
    rw [show h.session.log e.operation (titles e) = (answer, s') from hl] at hp
    rw [hp]
    refine ⟨offers, ?_, ?_, ?_, nofun, fun _ => ⟨_, Event.names_iff.2 rfl, hall⟩⟩
    · cases answer <;> exact hsink
    · rw [href]
      cases answer with
      | ok _ => exact (List.append_nil _).symm
      | error error => rfl
    · rw [href]
      cases answer <;> simp [refusal?]

end PacketLog
