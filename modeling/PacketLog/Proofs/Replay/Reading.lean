import PacketLog.Proofs.Replay.Lines
import PacketLog.Proofs.Session.Occurrence
import PacketLog.Replay.Basic

namespace PacketLog.Replay

open Output

/-- A time, and the surroundings that there are at it. -/
structure Moment where
  around : Ambient
  now : Nat

/-- What a line says without a carriage return at its end, unless that is all white space. -/
def text? (line : Bytes) : Option Bytes :=
  let text := if line.getLast? = some 0x0D then line.dropLast else line
  if text.all (· ∈ [0x20, 0x09, 0x0A, 0x0C, 0x0D]) then none else some text

theorem isBlank_eq (b : UInt8) : isBlank b = decide (b ∈ [0x20, 0x09, 0x0A, 0x0C, 0x0D]) := by
  rw [Bool.eq_iff_iff]
  simp [isBlank, or_assoc]

theorem text?_eq (line : Bytes) :
    text? line = if (dropReturn line).all isBlank then none else some (dropReturn line) := by
  rw [funext isBlank_eq]
  rfl

/-- The event that a line holds, at the moment at which it is read. -/
def occurrence? (read? : Bytes → Option Event) (reading : Moment × Bytes) : Option Occurrence :=
  ((text? reading.2).bind read?).map fun e => ⟨reading.1.around, e⟩

/-- Whether a line says something, but holds no event. -/
def isRejected (read? : Bytes → Option Event) (reading : Moment × Bytes) : Bool :=
  (text? reading.2).any fun text => (read? text).isNone

/-- Lines, each with the moment at which it is read. -/
def readings (moments : Nat → Moment) (ls : List Bytes) : List (Moment × Bytes) :=
  ls.mapIdx fun i line => (moments i, line)

theorem readings_cons (moments : Nat → Moment) (line : Bytes) (ls : List Bytes) :
    readings moments (line :: ls) =
      (moments 0, line) :: readings (fun i => moments (i + 1)) ls :=
  List.mapIdx_cons

theorem map_snd_readings (moments : Nat → Moment) (ls : List Bytes) :
    (readings moments ls).map Prod.snd = ls := by
  induction ls generalizing moments with
  | nil => rfl
  | cons line ls ih => rw [readings_cons, List.map_cons, ih]

theorem readings_const (m : Moment) (ls : List Bytes) :
    readings (fun _ => m) ls = ls.map (m, ·) := by
  induction ls with
  | nil => rfl
  | cons line ls ih => rw [readings_cons, ih, List.map_cons]

/-- The moments of lines among which another is read at a moment of its own. -/
def insertMoment (moments : Nat → Moment) (m : Moment) : Nat → Nat → Moment
  | 0, 0 => m
  | 0, i + 1 => moments i
  | _ + 1, 0 => moments 0
  | n + 1, i + 1 => insertMoment (fun i => moments (i + 1)) m n i

theorem readings_insert (moments : Nat → Moment) (m : Moment) (xs : List Bytes) (line : Bytes)
    (ys : List Bytes) :
    ∃ before after, readings moments (xs ++ ys) = before ++ after ∧
      readings (insertMoment moments m xs.length) (xs ++ line :: ys) =
        before ++ (m, line) :: after := by
  induction xs generalizing moments with
  | nil =>
    refine ⟨[], readings moments ys, rfl, ?_⟩
    rw [List.nil_append, readings_cons]
    rfl
  | cons x xs ih =>
    obtain ⟨before, after, hold, hnew⟩ := ih fun i => moments (i + 1)
    refine ⟨(moments 0, x) :: before, after, ?_, ?_⟩
    · rw [List.cons_append, List.cons_append, ← hold, readings_cons]
    · rw [List.cons_append, List.cons_append, ← hnew, readings_cons]
      rfl

section

variable {ω : Type} [Outlet ω] (read? : Bytes → Option Event)

/-- Takes a line at the moment at which it is read. -/
def lineAt (r : Replay ω) (reading : Moment × Bytes) : Replay ω :=
  (r.atTime reading.1.around reading.1.now).line read? reading.2

def linesAt (r : Replay ω) (rs : List (Moment × Bytes)) : Replay ω := rs.foldl (lineAt read?) r

/-- Takes the lines of an input, each at its moment. -/
def inputAt (moments : Nat → Moment) (r : Replay ω) (bs : Bytes) : Replay ω :=
  r.linesAt read? (readings moments (lines bs))

theorem lineAt_eq (r : Replay ω) (m : Moment) (line : Bytes) :
    r.lineAt read? (m, line) =
      let r := { r.atTime m.around m.now with lineCount := r.lineCount + 1 }
      match text? line with
      | none => r
      | some text =>
        match read? text with
        | some e => r.publish e
        | none => r.reject := by
  rw [lineAt, Replay.line, text?_eq]
  by_cases h : (dropReturn line).all isBlank = true
  · simp only [h, ↓reduceIte]
    rfl
  · simp only [h, Bool.false_eq_true, ↓reduceIte]
    rfl

theorem handler_lineAt (r : Replay ω) (m : Moment) (line : Bytes) :
    (r.lineAt read? (m, line)).handler =
      match (text? line).bind read? with
      | none => (r.atTime m.around m.now).handler
      | some e => ((r.atTime m.around m.now).publish e).handler := by
  rw [lineAt_eq]
  cases text? line with
  | none => rfl
  | some text =>
    dsimp only
    rw [Option.bind_some]
    cases read? text <;> rfl

/-- What each line carries on holds after all of them. -/
theorem linesAt_of_step {P : List Occurrence → Replay ω → Prop}
    (hstep : ∀ os r reading, P os r →
      P (os ++ (occurrence? read? reading).toList) (r.lineAt read? reading))
    {os : List Occurrence} {r : Replay ω} (hr : P os r) (rs : List (Moment × Bytes)) :
    P (os ++ rs.filterMap (occurrence? read?)) (r.linesAt read? rs) := by
  induction rs generalizing os r with
  | nil =>
    rw [List.filterMap_nil, List.append_nil]
    exact hr
  | cons reading rs ih =>
    have hi := ih (hstep os r reading hr)
    rw [List.append_assoc] at hi
    rw [List.filterMap_cons]
    cases ho : occurrence? read? reading with
    | none =>
      rw [ho] at hi
      exact hi
    | some o =>
      rw [ho] at hi
      exact hi

theorem linesAt_congr (r : Replay ω) (moments : Nat → Moment) {ls ls' : List Bytes}
    (h : ls.map dropReturn = ls'.map dropReturn) :
    r.linesAt read? (readings moments ls) = r.linesAt read? (readings moments ls') := by
  induction ls generalizing ls' moments r with
  | nil =>
    rw [List.map_nil, List.nil_eq, List.map_eq_nil_iff] at h
    rw [h]
  | cons line ls ih =>
    cases ls' with
    | nil => cases h
    | cons line' ls' =>
      rw [List.map_cons, List.map_cons, List.cons.injEq] at h
      have hline : r.lineAt read? (moments 0, line) = r.lineAt read? (moments 0, line') := by
        rw [lineAt_eq, lineAt_eq, text?_eq, text?_eq, h.1]
      rw [readings_cons, readings_cons, linesAt, List.foldl_cons, hline]
      exact ih (r.lineAt read? (moments 0, line')) _ h.2

theorem lineAt_counts (r : Replay ω) (reading : Moment × Bytes) :
    (r.lineAt read? reading).events = r.events + [reading].countP
      (fun x => (occurrence? read? x).isSome) ∧
    (r.lineAt read? reading).rejected = r.rejected + [reading].countP (isRejected read?) := by
  obtain ⟨m, line⟩ := reading
  rw [lineAt_eq, List.countP_singleton, List.countP_singleton, occurrence?, isRejected]
  cases text? line with
  | none => exact ⟨rfl, rfl⟩
  | some text =>
    cases hread : read? text with
    | none => simp [hread, reject, atTime]
    | some e => simp [hread, publish, atTime]

theorem linesAt_counts (r : Replay ω) (rs : List (Moment × Bytes)) :
    (r.linesAt read? rs).events = r.events + (rs.filterMap (occurrence? read?)).length ∧
      (r.linesAt read? rs).rejected = r.rejected + rs.countP (isRejected read?) := by
  rw [List.length_filterMap_eq_countP]
  induction rs generalizing r with
  | nil => exact ⟨rfl, rfl⟩
  | cons reading rs ih =>
    obtain ⟨hevents, hrejected⟩ := r.lineAt_counts read? reading
    obtain ⟨hevents', hrejected'⟩ := ih (r.lineAt read? reading)
    rw [linesAt, List.foldl_cons, ← linesAt, hevents', hrejected', hevents, hrejected,
      Nat.add_assoc, Nat.add_assoc, ← List.countP_append, ← List.countP_append]
    exact ⟨rfl, rfl⟩

/-- Whether the session of a replay is that of a handler but for the surroundings it is in. -/
structure Follows (r : Replay ω) {η : Type}
    (h : Handler (PacketSession (LedgerSink ω)) η) : Prop where
  titles : r.handler.titles = h.titles
  session : ∃ around, r.handler.session = h.session.moved around h.session.sink

variable {η : Type} [ErrorHook η] {r : Replay ω} {h : Handler (PacketSession (LedgerSink ω)) η}

theorem Follows.lineAt {os : List Occurrence} (hf : r.Follows (h.publishEach os))
    (reading : Moment × Bytes) :
    (r.lineAt read? reading).Follows
      (h.publishEach (os ++ (occurrence? read? reading).toList)) := by
  obtain ⟨m, line⟩ := reading
  obtain ⟨htitles, around, hsession⟩ := hf
  let h' := h.publishEach os
  let moved := { h' with session := h'.session.moved m.around h'.session.sink }
  have hmoved : (r.atTime m.around m.now).handler.session = moved.session := by
    rw [atTime, hsession]
    rfl
  have hhandler := r.handler_lineAt read? m line
  rw [occurrence?]
  generalize (text? line).bind read? = found? at hhandler ⊢
  cases found? with
  | none =>
    rw [Option.map_none, Option.toList_none, List.append_nil]
    constructor
    · rw [hhandler]
      exact htitles
    · exact ⟨m.around, by rw [hhandler]; exact hmoved⟩
  | some e =>
    have hpublish : h.publishEach (os ++ [⟨m.around, e⟩]) = moved.publish e :=
      List.foldl_append
    have hsame : ((r.atTime m.around m.now).handler.publish e).session =
        (moved.publish e).session := by
      rw [Handler.publish_eq, Handler.publish_eq, hmoved,
        show (r.atTime m.around m.now).handler.titles = moved.titles from htitles]
    rw [Option.map_some, Option.toList_some, hpublish]
    constructor
    · rw [hhandler]
      simp only [publish, Handler.publish_eq]
      exact htitles
    · exact ⟨(moved.publish e).session.around, by rw [hhandler]; exact hsame⟩

/-- A replay publishes the events that its lines hold. -/
theorem Follows.linesAt (hf : r.Follows h) (rs : List (Moment × Bytes)) :
    (r.linesAt read? rs).Follows (h.publishEach (rs.filterMap (occurrence? read?))) := by
  have hstart : r.Follows (h.publishEach []) := hf
  exact linesAt_of_step (P := fun os r => r.Follows (h.publishEach os)) read?
    (fun _ _ reading hf => hf.lineAt read? reading) hstart rs

/-- The moment at which a replay is. -/
def moment (r : Replay ω) : Moment := ⟨r.handler.session.around, r.handler.hook.now⟩

theorem now_report (hook : DiagnosticHook) (report : Report) :
    (ErrorHook.report hook report).now = hook.now := by
  change (hook.record report).2.now = hook.now
  rw [DiagnosticHook.record]
  split <;> rfl

theorem moment_publish (r : Replay ω) (e : Event) : (r.publish e).moment = r.moment := by
  have haround : (r.handler.publish e).session.around = r.handler.session.around :=
    r.handler.publish_around e
  have hnow : (r.handler.publish e).hook.now = r.handler.hook.now := by
    rw [Handler.publish_eq]
    cases failure? (attempt r.handler.titles r.handler.session e).1 with
    | none => rfl
    | some error => exact now_report _ _
  rw [moment, moment, ← haround, ← hnow]
  rfl

theorem moment_line (r : Replay ω) (line : Bytes) : (r.line read? line).moment = r.moment := by
  have hhandler : (r.line read? line).handler = _ := r.handler_lineAt read? r.moment line
  rw [moment, hhandler]
  cases (text? line).bind read? with
  | none => rfl
  | some e => exact moment_publish _ e

theorem input_eq_inputAt (r : Replay ω) (bs : Bytes) :
    r.input read? bs = r.inputAt read? (fun _ => r.moment) bs := by
  rw [input, inputAt]
  induction lines bs generalizing r with
  | nil => rfl
  | cons line ls ih =>
    have hi := ih (r.line read? line)
    rw [moment_line] at hi
    rw [readings_cons]
    exact hi

end

end PacketLog.Replay
