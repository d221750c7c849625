import PacketLog.Text.Numeral

namespace PacketLog.Text.Numeral

theorem digits?_eq_some_iff {cs : List Char} {n : Nat} :
    digits? cs = some n ↔
      cs ≠ [] ∧ (∀ c ∈ cs, c.isDigit = true) ∧ Nat.ofDigitChars 10 cs 0 = n := by
  rw [digits?, ← Nat.ofDigitChars_eq_foldl]
  simp [and_assoc]

theorem natBelow?_eq_some_iff {bound n : Nat} {cs : List Char} :
    natBelow? bound cs = some n ↔
      ∃ digits, (cs = digits ∨ cs = '+' :: digits) ∧ digits? digits = some n ∧ n < bound := by
  simp only [natBelow?, Option.filter_eq_some_iff, decide_eq_true_eq]
  constructor
  · rintro ⟨hread, hn⟩
    split at hread
    · exact ⟨_, .inr rfl, hread, hn⟩
    · exact ⟨_, .inl rfl, hread, hn⟩
  · rintro ⟨digits, rfl | rfl, hread, hn⟩
    · refine ⟨?_, hn⟩
      split
      · -- A plus sign is not a digit.
        exact absurd ((digits?_eq_some_iff.1 hread).2.1 '+' List.mem_cons_self) (by decide)
      · exact hread
    · exact ⟨hread, hn⟩

end PacketLog.Text.Numeral
