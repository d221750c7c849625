import PacketLog.Pattern.Buffer
import PacketLog.Proofs.Text.Numeral

namespace PacketLog.Pattern

def FitsWord (n : Int) : Prop := -0x80000000 ≤ n ∧ n < 0x80000000

theorem FitsWord.toInt_ofInt {n : Int} (h : FitsWord n) : (Int32.ofInt n).toInt = n :=
  Int32.toInt_ofInt_of_le h.1 h.2

theorem fitsWord_zero : FitsWord 0 := by
  constructor <;> decide

theorem fitsWord_of_intWithin? {cs : List Char} {n : Int}
    (h : Text.Numeral.intWithin? 0x80000000 cs = some n) : FitsWord n := by
  unfold Text.Numeral.intWithin? at h
  -- Behind a minus sign the bound itself is a number, and elsewhere it is not.
  split at h
  · obtain ⟨_, hread, rfl⟩ := Option.map_eq_some_iff.1 h
    obtain ⟨m, hm, hcast⟩ := Option.bind_eq_some_iff.1 hread
    obtain rfl := Option.some.inj hcast
    have hle : m ≤ 0x80000000 := of_decide_eq_true (Option.filter_eq_some_iff.1 hm).2
    constructor <;> omega
  · obtain ⟨m, hm, rfl⟩ := Option.map_eq_some_iff.1 h
    obtain ⟨-, -, -, hlt⟩ := Text.Numeral.natBelow?_eq_some_iff.1 hm
    rw [Int.ofNat_eq_natCast]
    constructor <;> omega

theorem fitsWord_widthOf (cs : List Char) : FitsWord (Token.widthOf cs) := by
  rw [Token.widthOf]
  cases h : Text.Numeral.intWithin? 0x80000000 (Text.trimChars cs) with
  | none => exact fitsWord_zero
  | some n => exact fitsWord_of_intWithin? h

theorem fitsWord_splitWidth (cs : List Char) : FitsWord (Token.splitWidth cs).2 := by
  rw [Token.splitWidth]
  split
  · exact fitsWord_widthOf _
  · exact fitsWord_zero

theorem fitsWord_width_ofPiece (piece : List Char) : FitsWord (Token.ofPiece piece).width := by
  rw [Token.ofPiece]
  cases Token.inner? piece with
  | none => exact fitsWord_zero
  | some body =>
    simp only
    cases Variable.ofName? (Token.splitWidth (Token.splitOptions body).1).1 with
    | none => exact fitsWord_zero
    | some v => exact fitsWord_splitWidth _

theorem fitsWord_width {r : Renderer} {t : Token} (h : t ∈ r.tokens) : FitsWord t.width := by
  obtain ⟨piece, -, rfl⟩ := List.mem_map.1 h
  exact fitsWord_width_ofPiece piece

/-- The least word has its magnitude too: it stays as it is, and is read without a sign. -/
theorem toNat_abs (width : Int32) : width.abs.toUInt32.toNat = width.toInt.natAbs := by
  have habs : width.abs.toUInt32.toNat = width.toBitVec.abs.toNat := rfl
  have hint : width.toInt = width.toBitVec.toInt := rfl
  have hlt := width.toBitVec.isLt
  rw [habs, hint, BitVec.toNat_abs, BitVec.toInt_eq_msb_cond]
  split
  · omega
  · rw [Int.natAbs_natCast]

theorem toList_pushn (s : String) (c : Char) (n : Nat) :
    (s.pushn c n).toList = s.toList ++ List.replicate n c := by
  rw [String.pushn_eq_repeat_push]
  induction n with
  | zero => rw [Nat.repeat, List.replicate_zero, List.append_nil]
  | succ n ih => rw [Nat.repeat, String.toList_push, ih, List.replicate_succ', List.append_assoc]

theorem toList_pushPadded (out value : String) (width : Int32) :
    (pushPadded out value width).toList = out.toList ++ padded width.toInt value.toList := by
  have hpos : 0 < width ↔ 0 < width.toInt := Int32.lt_iff_toInt_lt
  rw [pushPadded, padded, toNat_abs, String.length_toList]
  by_cases h : 0 < width
  · rw [if_pos h, if_pos (hpos.1 h), String.toList_append, toList_pushn, List.append_assoc]
  · rw [if_neg h, if_neg (mt hpos.2 h), toList_pushn, String.toList_append, List.append_assoc]

namespace Renderer

def indentation (r : Renderer) : Nat := if r.indent then indentWidth * r.depth else 0

theorem toList_push (r : Renderer) (e : Entry) (out : String) {t : Token} (h : FitsWord t.width) :
    (r.push e out t).toList = out.toList ++ t.field r.indentation e := by
  rw [push, toList_pushPadded, h.toInt_ofInt, String.toList_ofList, Token.field, ← List.append_assoc]
  congr 1
  cases ht : t.isIndented with
  | false => simp
  | true =>
    cases hr : r.indent with
    | false => simp [indentation, hr]
    | true => simp [indentation, hr, toList_pushn]

theorem toList_foldl_push (r : Renderer) (e : Entry) {ts : List Token}
    (h : ∀ t ∈ ts, FitsWord t.width) (out : String) :
    (ts.foldl (r.push e) out).toList = out.toList ++ ts.flatMap fun t => t.field r.indentation e := by
  induction ts generalizing out with
  | nil => rw [List.foldl_nil, List.flatMap_nil, List.append_nil]
  | cons t ts ih =>
    obtain ⟨ht, hts⟩ := List.forall_mem_cons.1 h
    rw [List.foldl_cons, ih hts, r.toList_push e out ht, List.flatMap_cons, List.append_assoc]

theorem nextDepth_eq (kind : EntryKind) (depth : Nat) :
    nextDepth kind depth =
      if kind = .enterMethod then shownDepth kind depth + 1 else shownDepth kind depth := by
  cases kind <;> rfl

theorem write_eq (r : Renderer) (e : Entry) :
    r.write e = (String.ofList (r.render e).1, (r.render e).2) := by
  rw [write, render]
  split
  · rfl
  · -- A leave counts before anything is written, so the line is at the depth that is shown.
    have hleft : (if e.kind = .leaveMethod then { r with depth := r.depth - 1 } else r) =
        { r with depth := shownDepth e.kind r.depth } := by
      rw [shownDepth]
      split <;> rfl
    have hline : r.line e =
        (r.tokens.foldl (push { r with depth := shownDepth e.kind r.depth } e) "").toList := by
      rw [toList_foldl_push _ _ fun t => fitsWord_width]
      rfl
    rw [hleft, hline, String.ofList_toList]
    refine Prod.ext rfl ?_
    simp only [nextDepth_eq]
    split <;> rfl

end Renderer

end PacketLog.Pattern
