import Mathlib
import PacketLog.Report.Throttle

namespace PacketLog

/-- A report, and the time at which the hook is told. -/
structure TimedReport where
  time : Nat
  report : Report
  deriving DecidableEq, Repr

/-- How many failures a diagnostic says were held back before it. -/
def Diagnostic.suppressed (d : Diagnostic) : Nat :=
  match d.fields.lookup "suppressed_count" with
  | some (.number n) => n
  | _ => 0

theorem suppressed_failureDiagnostic (report : Report) (held total : Nat) :
    (failureDiagnostic report (held + 1) total).suppressed = held := by
  cases held with
  | zero => rfl
  | succ held => rfl

/-- The failures that were reported, of failures with the verdicts on them. -/
def reported (told : List (TimedReport × Bool)) : List TimedReport :=
  (told.filter Prod.snd).map Prod.fst

theorem reported_append (told more : List (TimedReport × Bool)) :
    reported (told ++ more) = reported told ++ reported more := by
  rw [reported, List.filter_append, List.map_append]
  rfl

theorem mem_of_mem_reported {told : List (TimedReport × Bool)} {f : TimedReport}
    (h : f ∈ reported told) : f ∈ told.map Prod.fst :=
  (List.filter_sublist.map Prod.fst).subset h

theorem Throttle.isDue_iff {t : Throttle} {now : Nat} :
    t.isDue now = true ↔ ∀ last, t.last = some last → t.interval ≤ now - last := by
  rw [isDue]
  cases t.last with
  | none => simp
  | some last => simp

namespace DiagnosticHook

/-- A hook before its first report. -/
def ofInterval (interval : Nat) : DiagnosticHook := { throttle := { interval } }

/-- Takes a report at its time; the first component tells whether there was a diagnostic. -/
def recordAt (h : DiagnosticHook) (f : TimedReport) : Bool × DiagnosticHook :=
  { h with now := f.time }.record f.report

/-- Takes reports one after another, and tells the verdict on each. -/
def recordEach (h : DiagnosticHook) :
    List TimedReport → List (TimedReport × Bool) × DiagnosticHook
  | [] => ([], h)
  | f :: rest =>
    let later := (h.recordAt f).2.recordEach rest
    ((f, (h.recordAt f).1) :: later.1, later.2)

theorem recordAt_of_due {h : DiagnosticHook} {f : TimedReport}
    (hdue : h.throttle.isDue f.time = true) :
    h.recordAt f = (true, {
      throttle := { h.throttle with
        last := some f.time, pending := 0, total := h.throttle.total + 1 }
      now := f.time
      emitted := h.emitted ++
        [failureDiagnostic f.report (h.throttle.pending + 1) (h.throttle.total + 1)] }) := by
  rw [recordAt, record, Throttle.count, if_pos hdue]

theorem recordAt_of_not_due {h : DiagnosticHook} {f : TimedReport}
    (hdue : h.throttle.isDue f.time = false) :
    h.recordAt f = (false, { h with
      throttle := { h.throttle with
        pending := h.throttle.pending + 1, total := h.throttle.total + 1 }
      now := f.time }) := by
  rw [recordAt, record, Throttle.count, if_neg (ne_true_of_eq_false hdue)]

theorem recordAt_fst (h : DiagnosticHook) (f : TimedReport) :
    (h.recordAt f).1 = h.throttle.isDue f.time := by
  cases hdue : h.throttle.isDue f.time with
  | true => rw [recordAt_of_due hdue]
  | false => rw [recordAt_of_not_due hdue]

theorem recordEach_append (h : DiagnosticHook) (fs more : List TimedReport) :
    h.recordEach (fs ++ more) =
      ((h.recordEach fs).1 ++ ((h.recordEach fs).2.recordEach more).1,
        ((h.recordEach fs).2.recordEach more).2) := by
  induction fs generalizing h with
  | nil => rfl
  | cons f fs ih =>
    rw [List.cons_append, recordEach, recordEach, ih]
    rfl

theorem map_fst_recordEach (h : DiagnosticHook) (fs : List TimedReport) :
    (h.recordEach fs).1.map Prod.fst = fs := by
  induction fs generalizing h with
  | nil => rfl
  | cons f fs ih => exact congrArg (f :: ·) (ih (h.recordAt f).2)

/-- How a hook stands after failures with the verdicts on them. -/
structure Accounts (interval : Nat) (told : List (TimedReport × Bool)) (h : DiagnosticHook) :
    Prop where
  least : h.throttle.interval = interval
  last : h.throttle.last = (reported told).getLast?.map TimedReport.time
  total : h.throttle.total = told.length
  pending : h.throttle.pending = (told.reverse.takeWhile fun f => !f.2).length
  emitted : h.emitted.length = (reported told).length
  sum : (h.emitted.map fun d => 1 + d.suppressed).sum + h.throttle.pending = h.throttle.total
  first : told ≠ [] → reported told ≠ []
  spaced : (reported told).IsChain fun f g => f.time + interval ≤ g.time

theorem accounts_ofInterval (interval : Nat) : Accounts interval [] (ofInterval interval) where
  least := rfl
  last := rfl
  total := rfl
  pending := rfl
  emitted := rfl
  sum := rfl
  first := fun h => absurd rfl h
  spaced := .nil

variable {interval : Nat} {told : List (TimedReport × Bool)} {h : DiagnosticHook} {f : TimedReport}

theorem Accounts.isDue_iff (ha : Accounts interval told h)
    (hlate : ∀ g ∈ told.map Prod.fst, g.time ≤ f.time) :
    h.throttle.isDue f.time = true ↔
      ∀ r, (reported told).getLast? = some r → r.time + interval ≤ f.time := by
  rw [Throttle.isDue_iff, ha.least, ha.last]
  constructor
  · intro hdue r hr
    have hd := hdue r.time (by rw [hr]; rfl)
    have hle := hlate r (mem_of_mem_reported (List.mem_of_getLast? hr))
    omega
  · intro hdue last hl
    obtain ⟨r, hr, rfl⟩ := Option.map_eq_some_iff.1 hl
    have hd := hdue r hr
    omega

theorem Accounts.recordAt_of_due (ha : Accounts interval told h)
    (hlate : ∀ g ∈ told.map Prod.fst, g.time ≤ f.time)
    (hdue : h.throttle.isDue f.time = true) :
    Accounts interval (told ++ [(f, true)]) (h.recordAt f).2 := by
  have hr : reported (told ++ [(f, true)]) = reported told ++ [f] := reported_append told _
  have hsum := ha.sum
  rw [DiagnosticHook.recordAt_of_due hdue]
  refine ⟨ha.least, ?_, ?_, ?_, ?_, ?_, ?_, ?_⟩
  · rw [hr, List.getLast?_concat]
    rfl
  · rw [List.length_append, ← ha.total]
    rfl
  · rw [List.reverse_append]
    rfl
  · rw [hr, List.length_append, List.length_append, ha.emitted]
    rfl
  · -- What was pending is now what the new report says was held back.
    rw [List.map_append, List.sum_append, List.map_singleton, List.sum_singleton,
      suppressed_failureDiagnostic]
    dsimp only
    omega
  · intro _
    rw [hr]
    exact List.concat_ne_nil f _
  · rw [hr]
    apply ha.spaced.append (.singleton f)
    intro r hlast g hg
    obtain rfl := Option.some.inj hg
    exact (ha.isDue_iff hlate).1 hdue r hlast

theorem Accounts.recordAt_of_not_due (ha : Accounts interval told h)
    (hlate : ∀ g ∈ told.map Prod.fst, g.time ≤ f.time)
    (hdue : h.throttle.isDue f.time = false) :
    Accounts interval (told ++ [(f, false)]) (h.recordAt f).2 := by
  have hr : reported (told ++ [(f, false)]) = reported told := by
    rw [reported_append]
    exact List.append_nil _
  have hsum := ha.sum
  rw [DiagnosticHook.recordAt_of_not_due hdue]
  refine ⟨ha.least, ?_, ?_, ?_, ?_, ?_, ?_, ?_⟩
  · rw [hr]
    exact ha.last
  · rw [List.length_append, ← ha.total]
    rfl
  · rw [List.reverse_append, ha.pending]
    rfl
  · rw [hr]
    exact ha.emitted
  · dsimp only
    omega
  · intro _ hnil
    -- Without a report before it, a failure is due.
    rw [hr] at hnil
    have hdue' := (ha.isDue_iff hlate).2 (by rw [hnil]; exact nofun)
    rw [hdue] at hdue'
    exact Bool.false_ne_true hdue'
  · rw [hr]
    exact ha.spaced

theorem Accounts.recordAt (ha : Accounts interval told h)
    (hlate : ∀ g ∈ told.map Prod.fst, g.time ≤ f.time) :
    Accounts interval (told ++ [(f, (h.recordAt f).1)]) (h.recordAt f).2 := by
  rw [recordAt_fst]
  cases hdue : h.throttle.isDue f.time with
  | true => exact ha.recordAt_of_due hlate hdue
  | false => exact ha.recordAt_of_not_due hlate hdue

theorem accounts_recordEach {fs : List TimedReport} (htimes : fs.Pairwise (·.time ≤ ·.time)) :
    Accounts interval ((ofInterval interval).recordEach fs).1
      ((ofInterval interval).recordEach fs).2 := by
  induction fs using List.reverseRecOn with
  | nil => exact accounts_ofInterval interval
  | append_singleton fs f ih =>
    obtain ⟨hfs, -, hlate⟩ := List.pairwise_append.1 htimes
    rw [recordEach_append]
    refine (ih hfs).recordAt ?_
    intro g hg
    rw [map_fst_recordEach] at hg
    exact hlate g hg f (List.mem_singleton_self f)

/-- The verdict on a failure in a run is the one that the hook gives as it stands after those
before. -/
theorem recordEach_split {fs : List TimedReport} {before rest : List (TimedReport × Bool)}
    {verdict : Bool} (hrun : (h.recordEach fs).1 = before ++ (f, verdict) :: rest) :
    fs = before.map Prod.fst ++ f :: rest.map Prod.fst ∧
      before = (h.recordEach (before.map Prod.fst)).1 ∧
      verdict = ((h.recordEach (before.map Prod.fst)).2.recordAt f).1 := by
  have hfs : fs = before.map Prod.fst ++ f :: rest.map Prod.fst := by
    rw [← map_fst_recordEach h fs, hrun, List.map_append]
    rfl
  rw [hfs, recordEach_append] at hrun
  have hlength : (h.recordEach (before.map Prod.fst)).1.length = before.length := by
    rw [← List.length_map Prod.fst, map_fst_recordEach, List.length_map]
  obtain ⟨hbefore, hrest⟩ := List.append_inj hrun hlength
  exact ⟨hfs, hbefore.symm, (congrArg Prod.snd (List.cons.inj hrest).1).symm⟩

/-- On a clock that never goes back, the first failure is reported, and a later one is held back
exactly if the interval since the last report has not passed. So reports are at least that far apart.
After any failures all of them are counted, those held back since the last report are pending, and
what the reports stand for together with what is pending is the total. -/
theorem recordEach_accounts (interval : Nat) {fs : List TimedReport}
    (htimes : fs.Pairwise (·.time ≤ ·.time)) :
    let told := ((ofInterval interval).recordEach fs).1
    let after := ((ofInterval interval).recordEach fs).2
    told.map Prod.fst = fs ∧
      (∀ f verdict rest, told = (f, verdict) :: rest → verdict = true) ∧
      (∀ before f verdict rest, told = before ++ (f, verdict) :: rest → before ≠ [] →
        ∃ r, (reported before).getLast? = some r ∧
          (verdict = false ↔ f.time < r.time + interval)) ∧
      (reported told).IsChain (fun f g => f.time + interval ≤ g.time) ∧
      after.throttle.total = fs.length ∧
      after.throttle.pending = (told.reverse.takeWhile fun f => !f.2).length ∧
      after.emitted.length = (reported told).length ∧
      (after.emitted.map fun d => 1 + d.suppressed).sum + after.throttle.pending =
        after.throttle.total := by
  intro told after
  have ha : Accounts interval told after := accounts_recordEach htimes
  have htold : told.map Prod.fst = fs := map_fst_recordEach _ fs
  refine ⟨htold, ?_, ?_, ha.spaced, ?_, ha.pending, ha.emitted, ha.sum⟩
  · intro f verdict rest hrun
    obtain ⟨-, -, rfl⟩ := recordEach_split (show told = [] ++ (f, verdict) :: rest from hrun)
    rfl
  · intro before f verdict rest hrun hne
    obtain ⟨hfs, hbefore, rfl⟩ := recordEach_split hrun
    rw [hfs] at htimes
    obtain ⟨hearly, -, hlate⟩ := List.pairwise_append.1 htimes
    have hb : Accounts interval _ _ := accounts_recordEach hearly
    rw [← hbefore] at hb
    obtain ⟨r, hr⟩ := Option.ne_none_iff_exists'.1
      (mt List.getLast?_eq_none_iff.1 (hb.first hne))
    refine ⟨r, hr, ?_⟩
    have hdue := hb.isDue_iff (f := f) fun g hg => hlate g hg f List.mem_cons_self
    rw [recordAt_fst, ← Bool.not_eq_true, hdue, hr]
    constructor
    · intro hnot
      by_contra hlt
      refine hnot fun r' hr' => ?_
      obtain rfl := Option.some.inj hr'
      omega
    · intro hlt hall
      have hle := hall r rfl
      omega
  · rw [ha.total, ← htold, List.length_map]

/-- Failures at one time and just before the interval has passed, and then one at its end. -/
theorem recordEach_accounts_burst :
    let report : Report := .ofError .closed
    let fs : List TimedReport := [⟨3, report⟩, ⟨3, report⟩, ⟨12, report⟩, ⟨13, report⟩, ⟨13, report⟩]
    let after := ((ofInterval 10).recordEach fs).2
    fs.Pairwise (·.time ≤ ·.time) ∧
      ((ofInterval 10).recordEach fs).1.map Prod.snd = [true, false, false, true, false] ∧
      after.emitted.map Diagnostic.suppressed = [0, 2] ∧
      (after.emitted.map fun d => 1 + d.suppressed).sum + after.throttle.pending = 5 := by
  intro report fs after
  have htimes : fs.Pairwise (·.time ≤ ·.time) := by decide
  obtain ⟨-, -, -, -, htotal, -, -, hsum⟩ := recordEach_accounts 10 htimes
  exact ⟨htimes, by decide, by decide, hsum.trans htotal⟩

end DiagnosticHook

end PacketLog
