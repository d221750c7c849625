import Mathlib
import PacketLog.Proofs.Output.Phases
import PacketLog.Proofs.Pattern.Field

namespace PacketLog.Output

open Pattern (Renderer Shows indentTitle forall₂_shows_iff map_field_eq_zipWith)
open Pattern.Renderer (shownDepth nextDepth)

/-- A move from a depth; below zero it ends at zero. -/
def moved (depth : Nat) (move : Int) : Nat := ((depth : Int) + move).toNat

def walk (depth : Nat) (moves : List Int) : Nat := moves.foldl moved depth

theorem walk_append (depth : Nat) (xs ys : List Int) :
    walk depth (xs ++ ys) = walk (walk depth xs) ys :=
  List.foldl_append

/-- The sums that a walk is at least as great as: that of the start and all moves, and those of the
moves from any time on. -/
def walkBounds (depth : Nat) (moves : List Int) : Set Int :=
  insert (depth + moves.sum) {n | ∃ last, last <:+ moves ∧ n = last.sum}

theorem isGreatest_walk (depth : Nat) (moves : List Int) :
    IsGreatest (walkBounds depth moves) (walk depth moves) := by
  -- The first move either is made in full, or leads to zero; then the walk forgets all before it.
  induction moves generalizing depth with
  | nil =>
    constructor
    · exact .inl (by simp [walk])
    · rintro n (rfl | ⟨last, hlast, rfl⟩)
      · simp [walk]
      · rw [List.suffix_nil.1 hlast]
        simp [walk]
  | cons m moves ih =>
    obtain ⟨hmem, hle⟩ := ih (moved depth m)
    have hstart := hle (.inl rfl)
    rw [walk, List.foldl_cons, ← walk]
    rw [moved] at hmem hle hstart ⊢
    constructor
    · rcases hmem with hall | ⟨last, hlast, hsum⟩
      · rcases Int.le_total 0 (depth + m) with hm | hm
        · refine .inl ?_
          rw [hall, Int.toNat_of_nonneg hm, List.sum_cons, Int.add_assoc]
        · refine .inr ⟨moves, List.suffix_cons m moves, ?_⟩
          rw [hall, Int.toNat_of_nonpos hm, Int.natCast_zero, Int.zero_add]
      · exact .inr ⟨last, hlast.trans (List.suffix_cons m moves), hsum⟩
    · rintro n (rfl | ⟨last, hlast, rfl⟩)
      · rw [List.sum_cons]
        omega
      · rcases List.suffix_cons_iff.1 hlast with rfl | hlast
        · rw [List.sum_cons]
          omega
        · exact hle (.inr ⟨last, hlast, rfl⟩)

theorem walk_replicate_up (depth n : Nat) : walk depth (List.replicate n 1) = depth + n := by
  induction n generalizing depth with
  | zero => rfl
  | succ n ih =>
    rw [List.replicate_succ, walk, List.foldl_cons, ← walk, ih, moved]
    omega

theorem walk_replicate_down (depth n : Nat) : walk depth (List.replicate n (-1)) = depth - n := by
  induction n generalizing depth with
  | zero => rfl
  | succ n ih =>
    rw [List.replicate_succ, walk, List.foldl_cons, ← walk, ih, moved]
    omega

theorem walk_up_down (depth n : Nat) :
    walk depth (List.replicate n 1 ++ List.replicate n (-1)) = depth := by
  rw [walk_append, walk_replicate_up, walk_replicate_down, Nat.add_sub_cancel]

/-- By how much a log entry of a kind moves the depth, if it does. -/
def moveOf? : EntryKind → Option Int
  | .enterMethod => some 1
  | .leaveMethod => some (-1)
  | _ => none

theorem nextDepth_eq_walk (kind : EntryKind) (depth : Nat) :
    nextDepth kind depth = walk depth (moveOf? kind).toList := by
  cases kind with
  | leaveMethod =>
    change depth - 1 = moved depth (-1)
    rw [moved]
    omega
  | _ => rfl

namespace FormatCall

/-- By how much the entry that is compiled in a call moves the depth, if there is one that does. -/
def entryMove? : FormatCall → Option Int
  | .compile p => p.entry?.bind fun e => moveOf? e.kind
  | _ => none

/-- By how much a call moves the depth, if it does: an entry counts only under a pattern. -/
def move? (pattern : String) (c : FormatCall) : Option Int :=
  if pattern = "" then none else c.entryMove?

def inForce (pattern : String) : FormatCall → String
  | .setPattern pattern => Text.trim pattern
  | _ => pattern

def indents (indent : Bool) : FormatCall → Bool
  | .setIndent indent => indent
  | _ => indent

def isSetIndent : FormatCall → Bool
  | .setIndent _ => true
  | _ => false

theorem foldl_indents {calls : List FormatCall} (h : ∀ c ∈ calls, c.isSetIndent = false)
    (indent : Bool) : calls.foldl indents indent = indent := by
  induction calls with
  | nil => rfl
  | cons c calls ih =>
    have hc := h c List.mem_cons_self
    have hi : c.indents indent = indent := by
      cases c with
      | setIndent indent => cases hc
      | _ => rfl
    rw [List.foldl_cons, hi]
    exact ih fun c' hc' => h c' (List.mem_cons_of_mem c hc')

end FormatCall

open FormatCall

/-- The moves of the entries that are compiled in calls, from a pattern in force. -/
def movesOf (pattern : String) : List FormatCall → List Int
  | [] => []
  | c :: calls => (c.move? pattern).toList ++ movesOf (c.inForce pattern) calls

/-- As long as no pattern is blank, it does not matter which one is in force. -/
theorem movesOf_eq_filterMap {pattern : String} {calls : List FormatCall} (hp : pattern ≠ "")
    (hcalls : ∀ pattern, .setPattern pattern ∈ calls → Text.isAllBlank pattern = false) :
    movesOf pattern calls = calls.filterMap entryMove? := by
  induction calls generalizing pattern with
  | nil => rfl
  | cons c calls ih =>
    have hc : c.inForce pattern ≠ "" := by
      cases c with
      | setPattern pattern' =>
        have hblank := hcalls pattern' List.mem_cons_self
        exact mt String.toList_eq_nil_iff.2 (Text.trim_ne_empty hblank)
      | _ => exact hp
    have hi := ih hc fun pattern' h => hcalls pattern' (List.mem_cons_of_mem c h)
    rw [movesOf, hi, move?, if_neg hp, List.filterMap_cons]
    cases c.entryMove? <;> rfl

namespace TextFormat

theorem renderer_compile (f : TextFormat) (p : Packet) :
    (f.compile p).2.renderer = { f.renderer with
      depth := walk f.renderer.depth (move? f.renderer.pattern (.compile p)).toList } := by
  cases hp : p.entry? with
  | none =>
    rw [f.compile_of_entry?_eq_none hp, move?, entryMove?, hp, Option.bind_none, ite_self]
    rfl
  | some e =>
    have hc : (f.compile p).2.renderer = (f.renderer.render e).2 := by
      simp only [compile, hp]
    rw [hc, f.renderer.render_snd e, nextDepth_eq_walk, move?, entryMove?, hp, Option.bind_some]
    split <;> rfl

theorem renderer_call (f : TextFormat) (c : FormatCall) :
    (f.call c).renderer =
      ⟨c.inForce f.renderer.pattern, c.indents f.renderer.indent,
        walk f.renderer.depth (c.move? f.renderer.pattern).toList⟩ := by
  cases c with
  | compile p => exact f.renderer_compile p
  | _ =>
    rw [move?]
    split <;> rfl

theorem renderer_after (f : TextFormat) (calls : List FormatCall) :
    (f.after calls).renderer =
      ⟨calls.foldl inForce f.renderer.pattern, calls.foldl indents f.renderer.indent,
        walk f.renderer.depth (movesOf f.renderer.pattern calls)⟩ := by
  induction calls generalizing f with
  | nil => rfl
  | cons c calls ih =>
    have hi := ih (f.call c)
    rw [f.renderer_call c] at hi
    rw [movesOf, walk_append]
    exact hi

theorem line_compile_entry (f : TextFormat) (e : Entry) :
    (f.compile (.entry e)).2.line = some (lineBytes (f.renderer.line e)) := by
  rw [← bytes_append_lineEnding, ← Renderer.render_fst]
  rfl

/-- After any calls, the depth is the greatest of the sum of its start and all moves, and the sums of
the last moves. So it depends on its start and the moves alone, which are those of all entries while no
pattern is blank, and as many leaves as enters before lead back. Two formats of which one indents are
at the same depth, and a line of the one has three spaces more in front of every title for each level
at which it is shown. -/
theorem after_depth (f : TextFormat) (calls : List FormatCall) :
    let moves := movesOf f.renderer.pattern calls
    IsGreatest (insert (f.renderer.depth + moves.sum) {n | ∃ last, last <:+ moves ∧ n = last.sum})
      ((f.after calls).renderer.depth : Int) ∧
    (∀ n, moves = List.replicate n 1 ++ List.replicate n (-1) →
      (f.after calls).renderer.depth = f.renderer.depth) ∧
    (∀ (g : TextFormat) (calls' : List FormatCall), g.renderer.depth = f.renderer.depth →
      movesOf g.renderer.pattern calls' = moves →
      (g.after calls').renderer.depth = (f.after calls).renderer.depth) ∧
    (f.renderer.pattern ≠ "" →
      (∀ pattern, .setPattern pattern ∈ calls → Text.isAllBlank pattern = false) →
      moves = calls.filterMap entryMove?) ∧
    ((∀ c ∈ calls, c.isSetIndent = false) →
      let indented := (f.setIndent true).after calls
      let plain := (f.setIndent false).after calls
      indented.renderer.depth = plain.renderer.depth ∧
      ∀ e : Entry, ∃ fields, List.Forall₂ (Shows 0 e) plain.renderer.tokens fields ∧
        (plain.compile (.entry e)).2.line = some (lineBytes fields.flatten) ∧
        let shown := if e.kind = .leaveMethod then plain.renderer.depth - 1 else plain.renderer.depth
        (indented.compile (.entry e)).2.line = some (lineBytes
          (List.zipWith (indentTitle (3 * shown)) plain.renderer.tokens fields).flatten)) := by
  intro moves
  have hdepth (g : TextFormat) (calls : List FormatCall) : (g.after calls).renderer.depth =
      walk g.renderer.depth (movesOf g.renderer.pattern calls) := by
    rw [renderer_after]
  refine ⟨?_, ?_, ?_, movesOf_eq_filterMap, ?_⟩
  · rw [hdepth]
    exact isGreatest_walk _ _
  · intro n hn
    rw [hdepth, show movesOf f.renderer.pattern calls = _ from hn, walk_up_down]
  · intro g calls' hg hmoves
    rw [hdepth, hdepth, hg, hmoves]
  · intro hcalls indented plain
    have hindented : indented.renderer = { plain.renderer with indent := true } := by
      rw [renderer_after, renderer_after, foldl_indents hcalls]
      rfl
    have hplain : plain.renderer.indent = false := by
      rw [renderer_after, foldl_indents hcalls]
      rfl
    refine ⟨by rw [hindented], ?_⟩
    intro e
    refine ⟨_, forall₂_shows_iff.2 rfl, ?_, ?_⟩
    · rw [line_compile_entry, Renderer.line, hplain, if_neg Bool.false_ne_true, List.flatMap_def]
    · rw [line_compile_entry, Renderer.line, hindented, if_pos rfl, List.flatMap_def,
        map_field_eq_zipWith]
      rfl

end TextFormat

end PacketLog.Output
