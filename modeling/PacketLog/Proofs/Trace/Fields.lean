import Mathlib.Data.List.Induction
import PacketLog.Proofs.Event.Title
import PacketLog.Proofs.List.Last
import PacketLog.Proofs.Text.First
import PacketLog.Trace.Basic

namespace PacketLog

namespace FieldValue

/-- The text of a value behind the name of its field. -/
def shown : FieldValue → String
  | .text s => s
  | .failure e => e.message

def toError : FieldValue → EventError
  | .text s => { message := s }
  | .failure e => e

end FieldValue

namespace Gathered

/-- The text of a field of that name, if it was not recorded as an error. -/
def textNamed? (name : String) : String × FieldValue → Option String
  | (n, .text s) => if n = name then some s else none
  | (_, .failure _) => none

def errorOf? (field : String × FieldValue) : Option EventError :=
  if field.1 = "error" then some field.2.toError else none

def lastText? (name : String) (fields : List (String × FieldValue)) : Option String :=
  (fields.filterMap (textNamed? name)).getLast?

def lastError? (fields : List (String × FieldValue)) : Option EventError :=
  (fields.filterMap errorOf?).getLast?

/-- Whether a field is neither a message nor an operation nor an error. -/
def isOther (field : String × FieldValue) : Bool :=
  (textNamed? "message" field).isNone && (textNamed? "operation" field).isNone &&
    (errorOf? field).isNone

def extraText (field : String × FieldValue) : String :=
  " " ++ field.1 ++ "=" ++ field.2.shown

/-- What stands behind the message: the fields that remain, in order. -/
def extrasText (fields : List (String × FieldValue)) : String :=
  String.join ((fields.filter isOther).map extraText)

theorem record_eq (g : Gathered) (field : String × FieldValue) :
    g.record field = {
      message := (textNamed? "message" field).getD g.message
      extras := g.extras ++ if isOther field then extraText field else ""
      operation := (textNamed? "operation" field).or g.operation
      error := (errorOf? field).or g.error } := by
  obtain ⟨name, value⟩ := field
  cases value with
  | text s =>
    by_cases hm : name = "message"
    · subst hm
      simp [record, textNamed?, errorOf?, isOther]
    by_cases ho : name = "operation"
    · subst ho
      simp [record, textNamed?, errorOf?, isOther]
    by_cases he : name = "error"
    · subst he
      simp [record, textNamed?, errorOf?, isOther, FieldValue.toError]
    · simp [record, textNamed?, errorOf?, isOther, hm, ho, he, extra, extraText,
        FieldValue.shown, String.append_assoc]
  | failure e =>
    by_cases he : name = "error"
    · subst he
      simp [record, textNamed?, errorOf?, isOther, FieldValue.toError]
    · simp [record, textNamed?, errorOf?, isOther, he, extra, extraText, FieldValue.shown,
        String.append_assoc]

theorem extrasText_concat (fields : List (String × FieldValue)) (field : String × FieldValue) :
    extrasText (fields ++ [field]) =
      extrasText fields ++ if isOther field then extraText field else "" := by
  rw [extrasText, List.filter_append, List.map_append, String.join_append, ← extrasText]
  cases hf : isOther field with
  | false => simp [hf]
  | true => simp [hf]

theorem ofFields_eq (fields : List (String × FieldValue)) :
    ofFields fields = {
      message := (lastText? "message" fields).getD ""
      extras := extrasText fields
      operation := lastText? "operation" fields
      error := lastError? fields } := by
  induction fields using List.reverseRecOn with
  | nil => rfl
  | append_singleton fields field ih =>
    have hstep : ofFields (fields ++ [field]) = (ofFields fields).record field := List.foldl_append
    rw [hstep, record_eq, ih, extrasText_concat, lastText?, lastText?, lastText?, lastText?,
      lastError?, lastError?, getLast?_filterMap_concat, getLast?_filterMap_concat,
      getLast?_filterMap_concat, Option.getD_or]

theorem lastError?_eq_none_iff {fields : List (String × FieldValue)} :
    lastError? fields = none ↔ ∀ field ∈ fields, field.1 ≠ "error" := by
  rw [lastError?, List.getLast?_eq_none_iff, List.filterMap_eq_nil_iff]
  simp only [errorOf?, ite_eq_right_iff, reduceCtorEq, imp_false, ne_eq]

theorem head?_extrasText {fields : List (String × FieldValue)} {c : Char}
    (hc : (extrasText fields).toList.head? = some c) : c = ' ' := by
  rw [extrasText] at hc
  cases hf : fields.filter isOther with
  | nil =>
    rw [hf] at hc
    cases hc
  | cons field rest =>
    rw [hf, List.map_cons, String.join_cons, extraText, String.toList_append, String.toList_append,
      String.toList_append, String.toList_append] at hc
    exact (Option.some.inj hc).symm

end Gathered

namespace Mark

theorem space_not_mem_token (m : Mark) : ' ' ∉ m.token.toList := by
  cases m <;> decide

theorem route_inj {m m' : Mark} {l l' : Level} (h : m.route l = m'.route l') :
    m = m' ∧ l = l' := by
  cases m <;> cases m' <;> cases h <;> exact ⟨rfl, rfl⟩

theorem eq_of_prefix {m m' : Mark} {cs : List Char} (h : m.token.toList <+: cs)
    (h' : m'.token.toList <+: cs) : m = m' := by
  obtain ⟨rest, rfl⟩ := h
  obtain ⟨rest', hr⟩ := h'
  cases m <;> cases m' <;> first | rfl | cases (List.cons.inj hr).1

end Mark

/-- Without an error, a mark in front of the message decides the route, and nothing else does. -/
theorem Event.route_eq_iff {e : Event} (h : e.error = none) {m : Mark} {l : Level} :
    e.route = m.route l ↔ l = e.severity.level ∧ m.token.toList <+: e.message.toList := by
  by_cases hmarked : ∃ m' : Mark, m'.token.toList <+: e.message.toList
  · obtain ⟨m', hm'⟩ := hmarked
    rw [(Marked.mk h hm').route_eq]
    constructor
    · intro hroute
      obtain ⟨rfl, rfl⟩ := Mark.route_inj hroute
      exact ⟨rfl, hm'⟩
    · rintro ⟨rfl, hm⟩
      rw [Mark.eq_of_prefix hm hm']
  · have hnot : ∀ m' : Mark, ¬ m'.token.toList <+: e.message.toList :=
      fun m' hm' => hmarked ⟨m', hm'⟩
    rw [route_of_not_marked h (hnot .enter) (hnot .leave)]
    constructor
    · intro hroute
      cases m <;> cases hl : e.severity.level <;> rw [hl] at hroute <;> cases hroute
    · rintro ⟨-, hm⟩
      exact absurd hm (hnot m)

namespace TraceEvent

open Gathered

theorem event_eq (t : TraceEvent) :
    t.event = {
      severity := t.level.severity
      message := (lastText? "message" t.fields).getD "" ++ extrasText t.fields
      error := lastError? t.fields
      sourceUnit := t.module
      sourceOperation := if t.module.isSome then lastText? "operation" t.fields else none
      logger := some t.target } := by
  rw [event, ofFields_eq]

end TraceEvent

namespace Handler

open Gathered

/-- A trace event whose target is not this program's is published. Its event depends on the fields
through the last message, the last operation, the last error and the others in order; so fields in
another order that agree in these are published alike. The message is the last one with the others
behind it, and has no parameters. Without an error, a mark in front of the last message decides the
route, whatever the others are; with one, the error does. -/
theorem trace_publishes {σ η : Type} [Session σ] [ErrorHook η] (h : Handler σ η) {t : TraceEvent}
    (ht : ¬ TraceEvent.internalTarget.toList <+: t.target.toList) :
    let text := (lastText? "message" t.fields).getD ""
    let message := text ++
      String.join ((t.fields.filter isOther).map fun field => " " ++ field.1 ++ "=" ++ field.2.shown)
    h.trace t = h.publish t.event ∧
      t.event = {
        severity := t.level.severity
        message
        params := []
        error := lastError? t.fields
        sourceUnit := t.module
        sourceOperation := if t.module.isSome then lastText? "operation" t.fields else none
        logger := some t.target } ∧
      t.event.formatted = message.toList ∧
      (∀ fields, lastText? "message" fields = lastText? "message" t.fields →
        lastText? "operation" fields = lastText? "operation" t.fields →
        lastError? fields = lastError? t.fields →
        fields.filter isOther = t.fields.filter isOther →
        ({ t with fields } : TraceEvent).event = t.event ∧ h.trace { t with fields } = h.trace t) ∧
      ((∀ field ∈ t.fields, field.1 ≠ "error") → ∀ (m : Mark) (l : Level),
        t.event.route = m.route l ↔
          l = t.level.severity.level ∧ m.token.toList <+: text.toList) ∧
      ((∃ field ∈ t.fields, field.1 = "error") →
        t.event.route = .exception ∧
          ∃ e, lastError? t.fields = some e ∧ t.event.operation = .logException e) := by
  intro text message
  have hevent := t.event_eq
  have hpublish (fields : List (String × FieldValue)) :
      h.trace { t with fields } = h.publish ({ t with fields } : TraceEvent).event := by
    rw [trace, if_neg]
    rw [TraceEvent.isInternal, List.isPrefixOf_iff_prefix]
    exact ht
  refine ⟨hpublish t.fields, hevent, ?_, ?_, ?_, ?_⟩
  · rw [hevent]
    exact Event.formatted_of_params_eq_nil rfl
  · intro fields hmessage hoperation herror hothers
    have hsame : ({ t with fields } : TraceEvent).event = t.event := by
      rw [TraceEvent.event_eq, hevent, extrasText, extrasText, hmessage, hoperation, herror, hothers]
    refine ⟨hsame, ?_⟩
    rw [hpublish fields, hpublish t.fields, hsame]
  · intro hno m l
    have herror : t.event.error = none := by
      rw [hevent]
      exact lastError?_eq_none_iff.2 hno
    rw [Event.route_eq_iff herror, hevent]
    dsimp only
    rw [String.toList_append, Text.prefix_append_iff]
    intro c hc
    rw [head?_extrasText hc]
    exact m.space_not_mem_token
  · rintro ⟨field, hfield, hname⟩
    obtain ⟨e, he⟩ := Option.ne_none_iff_exists'.1
      (mt lastError?_eq_none_iff.1 fun hno => hno field hfield hname)
    have herror : t.event.error = some e := by
      rw [hevent]
      exact he
    refine ⟨?_, e, he, Event.operation_of_error herror⟩
    rw [Event.route, herror, Option.isSome_some, if_pos rfl]

/-- Two fields that are called by the name of a message, of which one is an error and remains, and
one that looks like a mark. -/
theorem trace_publishes_reordered :
    let h : Handler (PacketSession (LedgerSink Output.Device)) ReportLog := {
      session := {
        name := "main"
        around := ⟨fun _ => 0, 1, 1⟩
        sink := { format := .binary {}, outlet := {} } }
      hook := {} }
    let t : TraceEvent := {
      level := .debug
      target := "app"
      module := some "unit"
      fields := [("x", .text "ENTRY"), ("message", .text "old"),
        ("message", .text "RETURN \x7b0\x7d"), ("operation", .text "run"),
        ("message", .failure { message := "why" })] }
    let fields : List (String × FieldValue) := [("operation", .text "run"), ("x", .text "ENTRY"),
      ("message", .failure { message := "why" }), ("message", .text "RETURN \x7b0\x7d")]
    ¬ TraceEvent.internalTarget.toList <+: t.target.toList ∧
      h.trace { t with fields } = h.trace t ∧
      t.event.formatted = "RETURN \x7b0\x7d x=ENTRY message=why".toList ∧
      t.event.route = .leaveMethod .verbose := by
  intro h t fields
  have ht : ¬ TraceEvent.internalTarget.toList <+: t.target.toList := by decide
  obtain ⟨-, -, hformatted, hsame, hroute, -⟩ := trace_publishes h ht
  refine ⟨ht, (hsame fields rfl rfl rfl rfl).2, hformatted, ?_⟩
  exact (hroute (by decide) .leave .verbose).2 ⟨rfl, by decide⟩

end Handler

end PacketLog
