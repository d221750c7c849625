import PacketLog.Proofs.Event.Route
import PacketLog.Proofs.Output.Lines
import PacketLog.Proofs.Pattern.Field
import PacketLog.Proofs.Session.Occurrence

namespace PacketLog

open Output
open Pattern (Renderer Shows indentWidth)
open Pattern.Renderer (shownDepth nextDepth)

/-- Well-nested events: a pair is an enter and a leave of one level, with well-nested events
between. -/
inductive Nest where
  | empty
  | single (o : Occurrence) (plain : o.event.IsPlain)
  | append (a b : Nest)
  | pair (enter leave : Occurrence) (enters : enter.event.Marked entryToken)
      (leaves : leave.event.Marked returnToken)
      (level : enter.event.severity.level = leave.event.severity.level) (body : Nest)

namespace Nest

def occurrences : Nest → List Occurrence
  | .empty => []
  | .single o _ => [o]
  | .append a b => a.occurrences ++ b.occurrences
  | .pair enter leave _ _ _ body => enter :: (body.occurrences ++ [leave])

/-- The events in order, each with the levels of the pairs around it, on top of the given ones. -/
def placed (outer : List Level) : Nest → List (Occurrence × List Level)
  | .empty => []
  | .single o _ => [(o, outer)]
  | .append a b => a.placed outer ++ b.placed outer
  | .pair enter leave _ _ _ body =>
    (enter, outer) :: (body.placed (enter.event.severity.level :: outer) ++ [(leave, outer)])

theorem map_fst_placed (n : Nest) (outer : List Level) :
    (n.placed outer).map Prod.fst = n.occurrences := by
  induction n generalizing outer with
  | empty => rfl
  | single o plain => rfl
  | append a b iha ihb => rw [placed, List.map_append, iha, ihb, occurrences]
  | pair enter leave enters leaves level body ih =>
    rw [placed, List.map_cons, List.map_append, ih, occurrences]
    rfl

end Nest

namespace PacketSession

variable {κ : Type}

/-- Whether some bytes are the line of an event: of the log entry that a session makes for it in its
surroundings, with a field for each token, titles indented to a depth, and a line break. -/
def IsLine (s : PacketSession κ) (r : Renderer) (depth : Nat) (o : Occurrence) (line : Bytes) :
    Prop :=
  ∃ operation e fields, o.event.Names operation ∧ s.EntryFor operation o.event.title e ∧
    e.stamp.time = o.around.clock s.resolution ∧ e.stamp.thread = o.around.thread ∧
    e.stamp.process = o.around.process ∧
    List.Forall₂ (Shows (3 * depth) e) r.tokens fields ∧
    line = Text.bytes (String.ofList fields.flatten) ++ [0x0D, 0x0A]

def entryAt (s : PacketSession κ) (o : Occurrence) : Entry :=
  (s.moved o.around s.sink).operationEntry o.event.operation o.event.title

theorem entryFor_entryAt (s : PacketSession κ) (o : Occurrence) :
    s.EntryFor o.event.operation o.event.title (s.entryAt o) := by
  constructor <;> rfl

def indentedLine (s : PacketSession κ) (r : Renderer) (depth : Nat) (o : Occurrence) : Bytes :=
  lineBytes (r.tokens.flatMap fun t => t.field (indentWidth * depth) (s.entryAt o))

theorem isLine_iff {s : PacketSession κ} {r : Renderer} {depth : Nat} {o : Occurrence}
    {line : Bytes} : s.IsLine r depth o line ↔ line = s.indentedLine r depth o := by
  constructor
  · rintro ⟨operation, e, fields, hnames, hentry, htime, hthread, hprocess, hfields, rfl⟩
    obtain rfl := Event.names_iff.1 hnames
    have he : e = s.entryAt o := by
      obtain ⟨⟨level, time, thread, process⟩, kind, viewer, title, session, app, host, color, data⟩ := e
      obtain ⟨rfl, rfl, rfl, rfl, rfl, rfl, rfl, rfl, rfl⟩ := hentry
      subst htime hthread hprocess
      rfl
    rw [he] at hfields
    rw [Pattern.forall₂_shows_iff.1 hfields, ← List.flatMap_def]
    rfl
  · rintro rfl
    refine ⟨_, s.entryAt o, _, Event.names_iff.2 rfl, s.entryFor_entryAt o, rfl, rfl, rfl,
      Pattern.forall₂_shows_iff.2 rfl, ?_⟩
    rw [← List.flatMap_def]
    rfl

theorem forall₂_isLine_iff {s : PacketSession κ} {r : Renderer} {depth : Nat}
    {shown : List (Occurrence × List Level)} {lines : List Bytes} :
    List.Forall₂ (fun (o, outer) line => s.IsLine r (depth + outer.countP s.isOn) o line)
        shown lines ↔
      lines = shown.map fun (o, outer) => s.indentedLine r (depth + outer.countP s.isOn) o :=
  forall₂_iff_eq_map fun (_, _) _ => isLine_iff

/-- The lines that a session has written for events, of which it shows those whose level is on. -/
def nestedLines (s : PacketSession κ) (r : Renderer) (placed : List (Occurrence × List Level)) :
    Bytes :=
  (placed.filter fun (o, _) => s.isOn o.event.severity.level).flatMap fun (o, outer) =>
    s.indentedLine r (r.depth + outer.countP s.isOn) o

theorem nestedLines_append (s : PacketSession κ) (r : Renderer)
    (xs ys : List (Occurrence × List Level)) :
    s.nestedLines r (xs ++ ys) = s.nestedLines r xs ++ s.nestedLines r ys := by
  rw [nestedLines, List.filter_append, List.flatMap_append]
  rfl

theorem nestedLines_singleton (s : PacketSession κ) (r : Renderer) (o : Occurrence)
    (outer : List Level) :
    s.nestedLines r [(o, outer)] = if s.isOn o.event.severity.level then
      s.indentedLine r (r.depth + outer.countP s.isOn) o else [] := by
  cases hon : s.isOn o.event.severity.level with
  | false => simp [nestedLines, hon]
  | true => simp [nestedLines, hon]

theorem nestedLines_pair (s : PacketSession κ) (r : Renderer) (enter leave : Occurrence)
    (outer : List Level) (body : List (Occurrence × List Level)) :
    s.nestedLines r ((enter, outer) :: (body ++ [(leave, outer)])) =
      s.nestedLines r [(enter, outer)] ++ s.nestedLines r body ++
        s.nestedLines r [(leave, outer)] := by
  rw [← nestedLines_append, ← nestedLines_append]
  rfl

/-- Logging writes the line of the entry; the process flow that may go with it leaves no trace. -/
theorem log_writesLines {s : PacketSession (LedgerSink Device)} {r : Renderer} {held : Bytes}
    (h : s.sink.WritesLines r held) {operation : Operation}
    (hon : s.isOn operation.level = true) (title : String) :
    ∃ sink, s.log operation title = (.ok (), { s with sink }) ∧
      sink.WritesLines (r.render (s.operationEntry operation title)).2
        (held ++ lineBytes (r.render (s.operationEntry operation title)).1) := by
  obtain ⟨sink, hs, hw⟩ := h.send_entry (s.operationEntry operation title)
  have hsend : s.send (.entry (s.operationEntry operation title)) = (.ok (), { s with sink }) := by
    simp only [send, PacketSink.send, hs]
  rw [log_of_isOn hon, sendEach, hsend]
  cases operation.step? with
  | none => exact ⟨sink, rfl, hw⟩
  | some step =>
    obtain ⟨sink', hs', hw'⟩ := hw.send_other (p := .flow (s.flow operation.level title step)) rfl
    refine ⟨sink', ?_, hw'⟩
    simp only [Option.map_some, Option.toList_some, sendEach, send, PacketSink.send, hs']

end PacketSession

namespace Handler

variable {η : Type} [ErrorHook η]

theorem publishEach_pair {κ : Type} [PacketSink κ] (h : Handler (PacketSession κ) η)
    (enter leave : Occurrence) (body : List Occurrence) :
    h.publishEach (enter :: (body ++ [leave])) =
      ((h.publishAt enter).publishEach body).publishAt leave := by
  rw [publishEach, List.foldl_cons, List.foldl_append]
  rfl

/-- How far a handler has come that writes lines: the depth it is at, and what its device holds. -/
structure Reached (start : Handler (PacketSession (LedgerSink Device)) η) (r : Renderer)
    (depth : Nat) (held : Bytes) (h : Handler (PacketSession (LedgerSink Device)) η) : Prop where
  hook : h.hook = start.hook
  titles : h.titles = .standard
  session : ∃ around sink, h.session = start.session.moved around sink ∧
    sink.WritesLines { r with depth } held

variable {start h : Handler (PacketSession (LedgerSink Device)) η} {r : Renderer} {depth : Nat}
  {held : Bytes} {o : Occurrence} {outer : List Level}

theorem Reached.publishAt_off (hr : Reached start r depth held h)
    (hoff : start.session.isOn o.event.severity.level = false) :
    Reached start r depth held (h.publishAt o) := by
  obtain ⟨session, hook, titles⟩ := h
  obtain ⟨hhook, htitles, around, sink, rfl, hw⟩ := hr
  have hp : publishAt ⟨start.session.moved around sink, hook, titles⟩ o =
      ⟨start.session.moved o.around sink, hook, titles⟩ := publish_of_isOn_eq_false hoff
  rw [hp]
  exact ⟨hhook, htitles, o.around, sink, rfl, hw⟩

section Indented

variable (hindent : r.indent = true) (htokens : r.tokens ≠ [])
include hindent htokens

theorem Reached.publishAt_on (hr : Reached start r depth held h)
    (hon : start.session.isOn o.event.severity.level = true) :
    Reached start r (nextDepth o.event.operation.kind depth)
      (held ++ start.session.indentedLine r (shownDepth o.event.operation.kind depth) o)
      (h.publishAt o) := by
  obtain ⟨session, hook, titles⟩ := h
  obtain ⟨hhook, htitles, around, sink, rfl, hw⟩ := hr
  have htitle : titles o.event = .ok o.event.title := congrFun htitles o.event
  obtain ⟨sink', hlog, hw'⟩ := PacketSession.log_writesLines
    (s := start.session.moved o.around sink) hw (PacketSession.isOn_operation hon) o.event.title
  have hp : publishAt ⟨start.session.moved around sink, hook, titles⟩ o =
      ⟨start.session.moved o.around sink', hook, titles⟩ := by
    refine (publish_of_isOn (h := ⟨start.session.moved o.around sink, hook, titles⟩)
      htitle hon).trans ?_
    rw [hlog]
    rfl
  have hrender := Pattern.Renderer.render_of_tokens_ne_nil (r := { r with depth }) htokens
    ((start.session.moved o.around sink).operationEntry o.event.operation o.event.title)
  rw [hrender] at hw'
  rw [hp]
  refine ⟨hhook, htitles, o.around, sink', rfl, ?_⟩
  rw [Pattern.Renderer.line, if_pos hindent] at hw'
  exact hw'

/-- An event writes its own line, if it is shown, and leads to a depth that depends on whether it
is. -/
theorem Reached.publishAt_placed {next : Nat} (hr : Reached start r depth held h)
    (hoff : start.session.isOn o.event.severity.level = false → depth = next)
    (hon : start.session.isOn o.event.severity.level = true →
      shownDepth o.event.operation.kind depth = r.depth + outer.countP start.session.isOn ∧
        nextDepth o.event.operation.kind depth = next) :
    Reached start r next (held ++ start.session.nestedLines r [(o, outer)]) (h.publishAt o) := by
  rw [PacketSession.nestedLines_singleton]
  cases hgate : start.session.isOn o.event.severity.level with
  | false =>
    rw [if_neg Bool.false_ne_true, List.append_nil, ← hoff hgate]
    exact hr.publishAt_off hgate
  | true =>
    obtain ⟨hshown, hnext⟩ := hon hgate
    rw [if_pos rfl, ← hshown, ← hnext]
    exact hr.publishAt_on hindent htokens hgate

theorem Reached.publishAt_enter
    (hr : Reached start r (r.depth + outer.countP start.session.isOn) held h)
    (enters : o.event.Marked entryToken) :
    Reached start r (r.depth + (o.event.severity.level :: outer).countP start.session.isOn)
      (held ++ start.session.nestedLines r [(o, outer)]) (h.publishAt o) := by
  refine hr.publishAt_placed hindent htokens (fun hoff => ?_) (fun hon => ?_)
  · rw [List.countP_cons_of_neg (ne_true_of_eq_false hoff)]
  · rw [enters.operation_entry, List.countP_cons_of_pos hon]
    exact ⟨rfl, rfl⟩

theorem Reached.publishAt_leave
    (hr : Reached start r
      (r.depth + (o.event.severity.level :: outer).countP start.session.isOn) held h)
    (leaves : o.event.Marked returnToken) :
    Reached start r (r.depth + outer.countP start.session.isOn)
      (held ++ start.session.nestedLines r [(o, outer)]) (h.publishAt o) := by
  refine hr.publishAt_placed hindent htokens (fun hoff => ?_) (fun hon => ?_)
  · rw [List.countP_cons_of_neg (ne_true_of_eq_false hoff)]
  · rw [leaves.operation_return, List.countP_cons_of_pos hon]
    exact ⟨rfl, rfl⟩

theorem Reached.publishEach_nest (n : Nest)
    (hr : Reached start r (r.depth + outer.countP start.session.isOn) held h) :
    Reached start r (r.depth + outer.countP start.session.isOn)
      (held ++ start.session.nestedLines r (n.placed outer)) (h.publishEach n.occurrences) := by
  -- On the nest; the pairs around it that are shown are what its depth has gained since the start.
  induction n generalizing outer held h with
  | empty =>
    rw [Nest.placed, PacketSession.nestedLines, List.filter_nil, List.flatMap_nil, List.append_nil]
    exact hr
  | single o plain =>
    obtain ⟨hne, hnl⟩ := Event.isPlain_iff.1 plain
    exact hr.publishAt_placed hindent htokens (fun _ => rfl)
      (fun _ => Pattern.Renderer.depth_of_ne hne hnl _)
  | append a b iha ihb =>
    rw [Nest.placed, PacketSession.nestedLines_append, ← List.append_assoc, Nest.occurrences,
      publishEach, List.foldl_append]
    exact ihb (iha hr)
  | pair enter leave enters leaves level body ih =>
    rw [Nest.placed, PacketSession.nestedLines_pair, ← List.append_assoc, ← List.append_assoc,
      Nest.occurrences, publishEach_pair]
    have henter := hr.publishAt_enter hindent htokens enters
    have hbody := ih henter
    rw [level] at hbody ⊢
    exact hbody.publishAt_leave hindent htokens leaves

end Indented

/-- Well-nested events leave the depth as it was. Each of them that is shown has one line, in which
its title is indented by the depth at the start and the number of pairs around it that are shown. -/
theorem publishEach_indents (htitles : h.titles = .standard)
    (hopen : h.session.sink.closed = false) (hroom : h.session.sink.outlet.room = none)
    {p : String} (hp : Text.isAllBlank p = false) {line : Option Bytes}
    (hformat : h.session.sink.format = .text ⟨⟨Text.trim p, true, depth⟩, line⟩) (n : Nest) :
    let s := h.session
    let r : Renderer := ⟨Text.trim p, true, depth⟩
    let shown := (n.placed []).filter fun (o, _) => s.isOn o.event.severity.level
    let after := h.publishEach n.occurrences
    shown.map Prod.fst = n.occurrences.filter (fun o => s.isOn o.event.severity.level) ∧
      (∃ lines, List.Forall₂
          (fun (o, outer) line => s.IsLine r (depth + outer.countP s.isOn) o line) shown lines ∧
        after.session.sink.outlet.held = s.sink.outlet.held ++ lines.flatten) ∧
      (∃ line, after.session.sink.format = .text ⟨r, line⟩) ∧ after.hook = h.hook := by
  intro s r shown after
  have hstart : Reached h r (r.depth + [].countP s.isOn) s.sink.outlet.held h :=
    ⟨rfl, htitles, s.around, s.sink, rfl, hopen, hroom, ⟨line, hformat⟩, rfl⟩
  have htokens := Pattern.Renderer.tokens_ne_nil hp true depth
  obtain ⟨hhook, _, around, sink, hsession, hlines⟩ := hstart.publishEach_nest rfl htokens n
  have hsink : after.session.sink = sink := congrArg PacketSession.sink hsession
  refine ⟨?_, ?_, ?_, hhook⟩
  · rw [← n.map_fst_placed [], List.filter_map]
    rfl
  · refine ⟨_, PacketSession.forall₂_isLine_iff.2 rfl, ?_⟩
    rw [hsink, hlines.held, ← List.flatMap_def]
    rfl
  · rw [hsink]
    exact hlines.format

/-- At depth one, a pair that is shown, and in it a pair that is too fine to be shown around a
warning. -/
theorem publishEach_indents_pairs :
    let around : Ambient := ⟨fun _ => 0, 1, 1⟩
    let format : TextFormat := { renderer := ⟨Text.trim " %title%", true, 1⟩ }
    let h : Handler (PacketSession (LedgerSink Device)) ReportLog := {
      session := {
        name := "main"
        threshold := .message
        around
        sink := { format := .text format, outlet := {} } }
      hook := {} }
    let fine : Nest := .pair ⟨around, { severity := .fine, message := "ENTRY b" }⟩
      ⟨around, { severity := .fine, message := "RETURN b" }⟩
      ⟨rfl, by decide⟩ ⟨rfl, by decide⟩ rfl
      (.single ⟨around, { severity := .warning, message := "w" }⟩ (by decide))
    let n : Nest := .pair ⟨around, { message := "ENTRY a" }⟩ ⟨around, { message := "RETURN a" }⟩
      ⟨rfl, by decide⟩ ⟨rfl, by decide⟩ rfl fine
    h.titles = .standard ∧ h.session.sink.closed = false ∧ h.session.sink.outlet.room = none ∧
      Text.isAllBlank " %title%" = false ∧
      (h.publishEach n.occurrences).session.sink.outlet.held =
        Text.bytes "    a\r\n      w\r\n    a\r\n" := by
  intro around format h fine n
  have hp : Text.isAllBlank " %title%" = false := by decide
  obtain ⟨-, ⟨lines, hlines, hheld⟩, -, -⟩ := publishEach_indents (h := h) rfl rfl rfl hp rfl n
  rw [PacketSession.forall₂_isLine_iff.1 hlines] at hheld
  refine ⟨rfl, rfl, rfl, hp, hheld.trans ?_⟩
  decide +kernel

end Handler

end PacketLog
