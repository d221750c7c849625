import Mathlib.Data.List.TakeWhile

namespace PacketLog.Text

variable {c : Char} {cs : List Char}

theorem bne_of_not_mem (h : c ∉ cs) : ∀ d ∈ cs, (d != c) = true := by
  intro d hd
  rw [bne_iff_ne]
  rintro rfl
  exact h hd

theorem takeWhile_ne_append_cons (h : c ∉ cs) (more : List Char) :
    (cs ++ c :: more).takeWhile (· != c) = cs := by
  rw [List.takeWhile_append_of_pos (bne_of_not_mem h), List.takeWhile_cons_of_neg (by simp),
    List.append_nil]

theorem dropWhile_ne_append_cons (h : c ∉ cs) (more : List Char) :
    (cs ++ c :: more).dropWhile (· != c) = c :: more := by
  rw [List.dropWhile_append_of_pos (bne_of_not_mem h), List.dropWhile_cons_of_neg (by simp)]

theorem not_mem_takeWhile_ne (c : Char) (cs : List Char) : c ∉ cs.takeWhile (· != c) := by
  intro h
  exact absurd (List.mem_takeWhile_imp h) (by simp)

theorem not_mem_of_dropWhile_ne_eq_nil (h : cs.dropWhile (· != c) = []) : c ∉ cs := by
  intro hmem
  exact absurd (List.dropWhile_eq_nil_iff.1 h c hmem) (by simp)

theorem eq_of_dropWhile_ne_eq_cons {d : Char} {rest : List Char}
    (h : cs.dropWhile (· != c) = d :: rest) : cs = cs.takeWhile (· != c) ++ c :: rest := by
  have hd := List.head?_dropWhile_not (· != c) cs
  rw [h] at hd
  obtain rfl : d = c := by simpa using hd
  rw [← h, List.takeWhile_append_dropWhile]

theorem prefix_append_iff {token text more : List Char}
    (hmore : ∀ c, more.head? = some c → c ∉ token) :
    token <+: text ++ more ↔ token <+: text := by
  constructor
  · rintro ⟨rest, hrest⟩
    rcases List.append_eq_append_iff.1 hrest with ⟨a, ha, -⟩ | ⟨a, ha, hm⟩
    · exact ⟨a, ha.symm⟩
    · -- The token cannot reach into what comes behind.
      cases a with
      | nil => exact ⟨[], by rw [ha, List.append_nil, List.append_nil]⟩
      | cons c a =>
        refine absurd ?_ (hmore c (by rw [hm]; rfl))
        rw [ha]
        exact List.mem_append_right text List.mem_cons_self
  · intro h
    exact h.trans (List.prefix_append text more)

end PacketLog.Text
