import PacketLog.Proofs.Session.Calls
import PacketLog.Report.Throttle
import PacketLog.Session.Packets
import PacketLog.Trace.Basic

namespace PacketLog

namespace TraceEvent

/-- Whether a target is that of a library or of one of its modules. -/
def Within (library target : String) : Prop :=
  target = library ∨ (library ++ "::").toList <+: target.toList

instance (library target : String) : Decidable (Within library target) :=
  inferInstanceAs (Decidable (_ ∨ _))

theorem isInternal_iff {t : TraceEvent} :
    t.isInternal = true ↔ internalTarget.toList <+: t.target.toList :=
  List.isPrefixOf_iff_prefix

/-- What begins with a name is within it, or goes on in another way than a module does. -/
theorem prefix_iff_within {library target : String} :
    library.toList <+: target.toList ↔
      Within library target ∨ ∃ c rest, target.toList = library.toList ++ c :: rest ∧
        ¬ "::".toList <+: c :: rest := by
  constructor
  · rintro ⟨rest, hrest⟩
    cases rest with
    | nil =>
      rw [List.append_nil, String.toList_inj] at hrest
      exact .inl (.inl hrest.symm)
    | cons c rest =>
      by_cases hmodule : "::".toList <+: c :: rest
      · refine .inl (.inr ?_)
        rw [← hrest, String.toList_append, List.prefix_append_right_inj]
        exact hmodule
      · exact .inr ⟨c, rest, hrest.symm, hmodule⟩
  · rintro ((rfl | h) | ⟨c, rest, h, -⟩)
    · exact List.prefix_refl _
    · rw [String.toList_append] at h
      exact (List.prefix_append _ _).trans h
    · exact ⟨c :: rest, h.symm⟩

end TraceEvent

/-- A diagnostic as a trace event, as which it reaches everything that listens to the program. -/
def Diagnostic.traced (module : Option String) (d : Diagnostic) : TraceEvent where
  level := d.level
  target := d.target
  module
  fields := d.fields.map fun (name, value) => (name, .text value.toText)

theorem DiagnosticHook.emitted_record (h : DiagnosticHook) (report : Report) :
    ∃ new, (h.record report).2.emitted = h.emitted ++ new ∧
      ∀ d ∈ new, d.target = "sift_bridge::hook" := by
  rw [record]
  split
  · exact ⟨[_], rfl, List.forall_mem_singleton.2 rfl⟩
  · exact ⟨[], (List.append_nil _).symm, List.forall_mem_nil _⟩

theorem Exchange.calls_ne_nil {titles : TitleStyle} {e : Event} {calls : List SessionCall}
    {reports : List Report} (h : Exchange titles e calls reports) : calls ≠ [] := by
  cases h <;> exact List.cons_ne_nil _ _

namespace Handler

open TraceEvent (Within internalTarget)

variable {σ η : Type} [Session σ] [ErrorHook η]

theorem trace_eq (h : Handler σ η) (t : TraceEvent) :
    h.trace t =
      if internalTarget.toList <+: t.target.toList then h else h.publish t.event := by
  simp only [trace, TraceEvent.isInternal_iff]

def traceEach (h : Handler σ η) (ts : List TraceEvent) : Handler σ η := ts.foldl trace h

theorem traceEach_eq (h : Handler σ η) (ts : List TraceEvent) :
    h.traceEach ts = h.publishAll
      ((ts.filter fun t => ¬ internalTarget.toList <+: t.target.toList).map TraceEvent.event) := by
  induction ts generalizing h with
  | nil => rfl
  | cons t ts ih =>
    have hstep : h.traceEach (t :: ts) = (h.trace t).traceEach ts := rfl
    rw [hstep, ih, trace_eq]
    by_cases ht : internalTarget.toList <+: t.target.toList
    · rw [if_pos ht, List.filter_cons_of_neg (by simpa using ht)]
    · rw [if_neg ht, List.filter_cons_of_pos (by simpa using ht)]
      rfl

theorem traceEach_of_internal (h : Handler σ η) {ts : List TraceEvent}
    (hts : ∀ t ∈ ts, internalTarget.toList <+: t.target.toList) : h.traceEach ts = h := by
  have hnone : ts.filter (fun t => ¬ internalTarget.toList <+: t.target.toList) = [] :=
    List.filter_eq_nil_iff.2 fun t ht => by simpa using hts t ht
  rw [traceEach_eq, hnone]
  rfl

/-- Publishing makes the hook say nothing but what stands under the target of the hook. -/
theorem emitted_publish (h : Handler σ DiagnosticHook) (e : Event) :
    ∃ new, (h.publish e).hook.emitted = h.hook.emitted ++ new ∧
      ∀ d ∈ new, d.target = "sift_bridge::hook" := by
  rw [publish]
  dsimp only
  split
  · exact ⟨[], (List.append_nil _).symm, List.forall_mem_nil _⟩
  · exact h.hook.emitted_record _

theorem emitted_publishAll (h : Handler σ DiagnosticHook) (events : List Event) :
    ∃ new, (h.publishAll events).hook.emitted = h.hook.emitted ++ new ∧
      ∀ d ∈ new, d.target = "sift_bridge::hook" := by
  induction events generalizing h with
  | nil => exact ⟨[], (List.append_nil _).symm, List.forall_mem_nil _⟩
  | cons e events ih =>
    obtain ⟨new, hnew, htargets⟩ := h.emitted_publish e
    obtain ⟨more, hmore, htargets'⟩ := ih (h.publish e)
    refine ⟨new ++ more, ?_, List.forall_mem_append.2 ⟨htargets, htargets'⟩⟩
    rw [hnew, List.append_assoc] at hmore
    exact hmore

/-- Of any trace events, those whose target begins with the name of this library are left out, and each
of the others is published once, under its target. Left out are the events of this library and of its
modules, and also those of others whose name only begins with the same letters. What the hook says while
events are published is left out when it is traced in its turn, so it never makes another event. -/
theorem traceEach_skips_internal (h : Handler σ η) (ts : List TraceEvent) :
    h.traceEach ts = h.publishAll
      ((ts.filter fun t => ¬ internalTarget.toList <+: t.target.toList).map TraceEvent.event) ∧
    (∀ t : TraceEvent, t.event.logger = some t.target ∧
      (h.trace t =
        if internalTarget.toList <+: t.target.toList then h else h.publish t.event) ∧
      (internalTarget.toList <+: t.target.toList ↔ Within internalTarget t.target ∨
        ∃ c rest, t.target.toList = internalTarget.toList ++ c :: rest ∧
          ¬ "::".toList <+: c :: rest)) ∧
    ∀ g : Handler σ DiagnosticHook, ∃ new,
      (g.traceEach ts).hook.emitted = g.hook.emitted ++ new ∧
      (∀ d ∈ new, Within internalTarget d.target) ∧
      ∀ module, (g.traceEach ts).traceEach (new.map (Diagnostic.traced module)) =
        g.traceEach ts := by
  refine ⟨h.traceEach_eq ts, fun t => ⟨rfl, h.trace_eq t, TraceEvent.prefix_iff_within⟩, ?_⟩
  intro g
  obtain ⟨new, hnew, htargets⟩ := g.emitted_publishAll
    ((ts.filter fun t => ¬ internalTarget.toList <+: t.target.toList).map TraceEvent.event)
  rw [← g.traceEach_eq ts] at hnew
  have hwithin : ∀ d ∈ new, Within internalTarget d.target := by
    intro d hd
    rw [htargets d hd]
    decide
  refine ⟨new, hnew, hwithin, fun module => ?_⟩
  apply traceEach_of_internal
  intro t ht
  obtain ⟨d, hd, rfl⟩ := List.mem_map.1 ht
  exact TraceEvent.prefix_iff_within.2 (.inl (hwithin d hd))

/-- An event of another library, about which publishing would ask the session, and tracing does not. -/
theorem trace_skips_neighbour :
    let h : Handler (Overheard (PacketSession (LedgerSink Output.Device))) (Briefed ReportLog) := {
      session := {
        session := {
          name := "Main"
          around := ⟨fun _ => 0, 1, 1⟩
          sink := { format := .binary {}, outlet := {} } }
        calls := [] }
      hook := { hook := {}, reports := [] } }
    let t : TraceEvent := {
      level := .error
      target := "sift_bridge_x"
      module := none
      fields := [("message", .text "hi")] }
    ¬ Within internalTarget t.target ∧ (h.trace t).session.calls = [] ∧
      (h.publish t.event).session.calls ≠ [] := by
  intro h t
  refine ⟨by decide, ?_, ?_⟩
  · rw [trace_eq, if_pos (by decide)]
  · obtain ⟨calls, reports, hexchange, hcalls, -⟩ := publish_exchange h t.event
    rw [hcalls]
    exact hexchange.calls_ne_nil

end Handler

end PacketLog
