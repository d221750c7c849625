import Mathlib
import PacketLog.Proofs.Pattern.Buffer
import PacketLog.Proofs.Pattern.Field

namespace PacketLog.Pattern

open Renderer (shownDepth)

/-- How many characters a token has in a line, without the indentation. -/
def Token.extent (t : Token) (e : Entry) : Nat :=
  match t with
  | .literal text => text.length
  | .variable v width options => max width.natAbs (v.value options e).length

theorem length_field (t : Token) (indentation : Nat) (e : Entry) :
    (t.field indentation e).length = t.extent e + if t.isIndented then indentation else 0 := by
  cases t with
  | literal text =>
    rw [field_literal]
    rfl
  | «variable» v width options =>
    rw [Token.field, List.length_append, Nat.add_comm]
    congr 1
    · exact length_padded width _
    · split <;> simp

theorem length_flatMap_field (ts : List Token) (indentation : Nat) (e : Entry) :
    (ts.flatMap fun t => t.field indentation e).length =
      (ts.map fun t => t.extent e).sum + indentation * ts.countP Token.isIndented := by
  induction ts with
  | nil => rfl
  | cons t ts ih =>
    rw [List.flatMap_cons, List.length_append, ih, length_field, List.map_cons, List.sum_cons,
      List.countP_cons, Nat.mul_add]
    cases t.isIndented with
    | false => simp [Nat.add_assoc]
    | true =>
      simp only [↓reduceIte, Nat.mul_one]
      omega

/-- The line of an entry is made of one field for each token, in order, and of nothing else. So it has
the characters of its literals, for each variable those of the value or of the width, whichever are
more, and the indentation of each title. Every width is a signed word of 32 bits; a line that is
written token by token, with the magnitude of a width in an unsigned word, is the same. -/
theorem render_aligned (r : Renderer) (e : Entry) :
    let indentation := if r.indent then 3 * shownDepth e.kind r.depth else 0
    (∀ line, (r.render e).1 = line ↔
      ∃ fields, List.Forall₂ (Shows indentation e) r.tokens fields ∧ line = fields.flatten) ∧
    (r.render e).1.length =
      (r.tokens.map fun t => t.extent e).sum + indentation * r.tokens.countP Token.isIndented ∧
    (∀ t ∈ r.tokens, FitsWord t.width) ∧
    r.write e = (String.ofList (r.render e).1, (r.render e).2) := by
  intro indentation
  rw [r.render_fst e]
  exact ⟨fun line => r.line_eq_iff, length_flatMap_field r.tokens indentation e,
    fun t => fitsWord_width, r.render_fst e ▸ r.write_eq e⟩

/-- A title of two characters that have two bytes each, in a field of the least width and one level
deep, and in front of a level in a field of a positive width. -/
theorem render_aligned_least_width :
    let r : Renderer := ⟨"<%Title,-2147483648%>%level,9%", true, 2⟩
    let e : Entry := {
      stamp := ⟨.warning, 0, 1, 1⟩, kind := .leaveMethod, viewer := .title, title := some "äö"
      session := none, app := none, host := none, color := none, data := none }
    (∀ t ∈ r.tokens, FitsWord t.width) ∧
      (r.render e).1 = "<   äö".toList ++ List.replicate 2147483646 ' ' ++ ">  Warning".toList ∧
      (r.render e).1.length = 2147483662 := by
  intro r e
  obtain ⟨hline, hlength, hwidth, -⟩ := render_aligned r e
  have htokens : r.tokens = [.literal ['<'], .variable .title (-2147483648) [], .literal ['>'],
      .variable .level 9 []] := by decide +kernel
  -- So many spaces are not to be counted one by one.
  obtain ⟨missing, hmissing⟩ : ∃ n, n = 2147483646 := ⟨_, rfl⟩
  rw [← hmissing]
  have htitle : Aligned (-2147483648) "äö".toList ("äö".toList ++ List.replicate missing ' ') := by
    refine ⟨?_, fun hw => absurd hw (by decide), fun _ => ⟨missing, rfl⟩⟩
    rw [List.length_append, List.length_replicate, hmissing]
    decide +kernel
  have hlevel : Aligned 9 "Warning".toList "  Warning".toList :=
    ⟨by decide, fun _ => ⟨2, by decide⟩, fun hw => absurd hw (by decide)⟩
  have hshows : List.Forall₂ (Shows 3 e) r.tokens [['<'], List.replicate 3 ' ' ++
      ("äö".toList ++ List.replicate missing ' '), ['>'], "  Warning".toList] := by
    rw [htokens]
    exact .cons (.literal _) (.cons (.title htitle) (.cons (.literal _)
      (.cons (.variable (by decide) hlevel) .nil)))
  refine ⟨hwidth, (hline _).2 ⟨_, hshows, ?_⟩, ?_⟩
  · simp
  · rw [hlength, htokens]
    decide +kernel

end PacketLog.Pattern
