import PacketLog.Pattern.Renderer
import PacketLog.Proofs.Text.Blank

namespace PacketLog.Pattern

theorem pieces_eq_nil_iff {cs : List Char} : pieces cs = [] ↔ cs = [] := by
  constructor
  · intro h
    rw [← flatten_pieces cs, h]
    rfl
  · rintro rfl
    rw [pieces]

theorem ofPattern_eq_nil_iff {cs : List Char} : Token.ofPattern cs = [] ↔ cs = [] := by
  rw [Token.ofPattern, List.map_eq_nil_iff, pieces_eq_nil_iff]

theorem field_literal (text : List Char) (indentation : Nat) (e : Entry) :
    (Token.literal text).field indentation e = text := by
  have hpad : padded 0 text = text := by
    rw [padded, if_neg (Int.lt_irrefl 0), Int.natAbs_zero, Nat.zero_sub, List.replicate_zero,
      List.append_nil]
  exact hpad

namespace Renderer

theorem tokens_eq_nil_iff {r : Renderer} : r.tokens = [] ↔ r.pattern = "" := by
  rw [tokens, ofPattern_eq_nil_iff, String.toList_eq_nil_iff]

theorem tokens_trim_eq_nil_iff {p : String} {indent : Bool} {depth : Nat} :
    (⟨Text.trim p, indent, depth⟩ : Renderer).tokens = [] ↔ Text.isAllBlank p = true := by
  rw [tokens_eq_nil_iff, Text.trim_eq_empty_iff]

theorem tokens_ne_nil {p : String} (hp : Text.isAllBlank p = false) (indent : Bool) (depth : Nat) :
    (⟨Text.trim p, indent, depth⟩ : Renderer).tokens ≠ [] := by
  rw [Ne, tokens_trim_eq_nil_iff, hp]
  exact Bool.false_ne_true

theorem render_of_tokens_ne_nil {r : Renderer} (h : r.tokens ≠ []) (e : Entry) :
    r.render e = (r.line e, { r with depth := nextDepth e.kind r.depth }) := by
  rw [render, if_neg (mt List.isEmpty_iff.1 h)]

theorem render_fst (r : Renderer) (e : Entry) : (r.render e).1 = r.line e := by
  by_cases h : r.tokens = []
  · simp only [render, line, h, List.isEmpty_nil, ↓reduceIte, List.flatMap_nil]
  · rw [render_of_tokens_ne_nil h]

theorem render_snd (r : Renderer) (e : Entry) :
    (r.render e).2 = { r with
      depth := if r.pattern = "" then r.depth else nextDepth e.kind r.depth } := by
  by_cases h : r.tokens = []
  · rw [render, if_pos (List.isEmpty_iff.2 h), if_pos (tokens_eq_nil_iff.1 h)]
  · rw [render_of_tokens_ne_nil h, if_neg (mt tokens_eq_nil_iff.2 h)]

theorem depth_of_ne {kind : EntryKind} (he : kind ≠ .enterMethod) (hl : kind ≠ .leaveMethod)
    (depth : Nat) : shownDepth kind depth = depth ∧ nextDepth kind depth = depth := by
  have hs : shownDepth kind depth = depth := if_neg hl
  exact ⟨hs, (if_neg he).trans hs⟩

end Renderer

end PacketLog.Pattern
