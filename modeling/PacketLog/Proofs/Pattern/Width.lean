import PacketLog.Pattern.Segment
import PacketLog.Proofs.Text.Blank
import PacketLog.Proofs.Text.Numeral

namespace PacketLog

namespace Text.Numeral

open Pattern (magnitude)

def written (digits : List (Fin 10)) : List Char := digits.map fun d => Nat.digitChar d.val

theorem digits?_written {digits : List (Fin 10)} (h : digits ≠ []) :
    digits? (written digits) = some (magnitude digits) := by
  have hdigit : ∀ d : Fin 10, (Nat.digitChar d.val).isDigit = true := by decide
  have hvalue : ∀ d : Fin 10, (Nat.digitChar d.val).toNat - '0'.toNat = d.val := by decide
  refine digits?_eq_some_iff.2 ⟨mt List.map_eq_nil_iff.1 h, ?_, ?_⟩
  · exact List.forall_mem_map.2 fun d _ => hdigit d
  · rw [Nat.ofDigitChars_eq_foldl, written, List.foldl_map]
    simp only [hvalue, magnitude]

theorem written_ne_cons {c : Char} (hc : ∀ d : Fin 10, Nat.digitChar d.val ≠ c)
    (digits : List (Fin 10)) (cs : List Char) : written digits ≠ c :: cs := by
  cases digits with
  | nil => exact nofun
  | cons d digits => exact fun h => hc d (List.cons.inj h).1

theorem natBelow?_written {bound : Nat} {digits : List (Fin 10)} (h : digits ≠ [])
    (hb : magnitude digits < bound) :
    natBelow? bound (written digits) = some (magnitude digits) :=
  natBelow?_eq_some_iff.2 ⟨_, .inl rfl, digits?_written h, hb⟩

theorem natBelow?_plus_written {bound : Nat} {digits : List (Fin 10)} (h : digits ≠ [])
    (hb : magnitude digits < bound) :
    natBelow? bound ('+' :: written digits) = some (magnitude digits) :=
  natBelow?_eq_some_iff.2 ⟨_, .inr rfl, digits?_written h, hb⟩

end Text.Numeral

namespace Pattern

/-- Whether a text has none of the characters that tell the parts of a pattern from each other. -/
def Plain (cs : List Char) : Prop := ∀ c ∈ cs, c ≠ '%' ∧ c ≠ '{' ∧ c ≠ '}'

theorem plain_append {cs more : List Char} (h : Plain cs) (hm : Plain more) : Plain (cs ++ more) :=
  List.forall_mem_append.2 ⟨h, hm⟩

theorem plain_cons {c : Char} {cs : List Char} (hc : c ≠ '%' ∧ c ≠ '{' ∧ c ≠ '}') (h : Plain cs) :
    Plain (c :: cs) :=
  List.forall_mem_cons.2 ⟨hc, h⟩

theorem plain_of_blank {cs : List Char} (h : cs.all Text.isBlank = true) : Plain cs := by
  intro c hc
  have hb := List.all_eq_true.1 h c hc
  refine ⟨?_, ?_, ?_⟩ <;>
  · rintro rfl
    exact absurd hb (by decide)

namespace WidthSpelling

open Text.Numeral

theorem numeral_eq (w : WidthSpelling) :
    w.numeral = (w.sign.map Sign.char).toList ++ written w.digits := rfl

theorem numeral_ne_nil (w : WidthSpelling) : w.numeral ≠ [] :=
  List.append_ne_nil_of_right_ne_nil _ (mt List.map_eq_nil_iff.1 w.digits_ne_nil)

theorem numeral_forall {p : Char → Prop} (hplus : p '+') (hminus : p '-')
    (hdigit : ∀ d : Fin 10, p (Nat.digitChar d.val)) (w : WidthSpelling) : ∀ c ∈ w.numeral, p c := by
  rw [numeral_eq]
  refine List.forall_mem_append.2 ⟨?_, ?_⟩
  · rcases w.sign with - | - | -
    · exact nofun
    · exact List.forall_mem_singleton.2 hplus
    · exact List.forall_mem_singleton.2 hminus
  · exact List.forall_mem_map.2 fun d _ => hdigit d

theorem plain_print (w : WidthSpelling) : Plain w.print :=
  plain_append
    (plain_append (plain_of_blank w.before_blank)
      (numeral_forall (by decide) (by decide) (by decide) w))
    (plain_of_blank w.after_blank)

theorem trimmed_numeral (w : WidthSpelling) : Text.Trimmed w.numeral := by
  have h := numeral_forall (p := fun c => Text.isBlank c = false) (by decide) (by decide)
    (by decide) w
  exact ⟨fun c hc => h c (List.mem_of_head? hc), fun c hc => h c (List.mem_of_getLast? hc)⟩

theorem intWithin?_numeral (w : WidthSpelling) :
    intWithin? 0x80000000 w.numeral = some w.value := by
  obtain ⟨before, sign, digits, after, -, -, hne, hge, hlt⟩ := w
  -- The least number has no positive counterpart, so the signs differ in which bound they need.
  rcases sign with - | - | -
  · have hm : magnitude digits < 0x80000000 := by
      simp only [signedNumber, reduceCtorEq, ↓reduceIte] at hlt
      omega
    have hminus : ∀ ds, written digits ≠ '-' :: ds := written_ne_cons (by decide) digits
    change intWithin? _ (written digits) = _
    rw [intWithin?, natBelow?_written hne hm]
    · rfl
    · exact hminus
  · have hm : magnitude digits < 0x80000000 := by
      simp only [signedNumber, reduceCtorEq, Option.some.injEq, ↓reduceIte] at hlt
      omega
    change intWithin? _ ('+' :: written digits) = _
    rw [intWithin?, natBelow?_plus_written hne hm]
    · rfl
    · exact fun ds h => absurd (List.cons.inj h).1 (by decide)
  · have hm : magnitude digits ≤ 0x80000000 := by
      simp only [signedNumber, ↓reduceIte] at hge
      omega
    change intWithin? _ ('-' :: written digits) = _
    rw [intWithin?, digits?_written hne, Option.filter_some_pos (by simpa using hm)]
    rfl

theorem widthOf_print (w : WidthSpelling) : Token.widthOf w.print = w.value := by
  rw [Token.widthOf, print, w.trimmed_numeral.trimChars_append w.numeral_ne_nil w.before_blank
    w.after_blank, intWithin?_numeral, Option.getD_some]

end WidthSpelling

end Pattern

end PacketLog
