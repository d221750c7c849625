import Mathlib.Data.List.TakeWhile
import PacketLog.Text.Blank

namespace PacketLog.Text

theorem trimLeft_eq_nil_iff {cs : List Char} : trimLeft cs = [] ↔ cs.all isBlank = true := by
  rw [trimLeft, List.dropWhile_eq_nil_iff, List.all_eq_true]

theorem trimRight_eq_nil_iff {cs : List Char} : trimRight cs = [] ↔ cs.all isBlank = true := by
  rw [trimRight, List.reverse_eq_nil_iff, ← trimLeft, trimLeft_eq_nil_iff, List.all_reverse]

theorem trimChars_eq_nil_iff {cs : List Char} : trimChars cs = [] ↔ cs.all isBlank = true := by
  rw [trimChars, trimRight_eq_nil_iff]
  constructor
  · intro h
    rw [← List.takeWhile_append_dropWhile (p := isBlank) (l := cs), List.all_append,
      List.all_takeWhile, Bool.true_and]
    exact h
  · intro h
    rw [trimLeft_eq_nil_iff.2 h]
    rfl

/-- Whether a text has no blank at its ends. -/
structure Trimmed (cs : List Char) : Prop where
  head : ∀ c, cs.head? = some c → isBlank c = false
  last : ∀ c, cs.getLast? = some c → isBlank c = false

instance (cs : List Char) : Decidable (Trimmed cs) :=
  decidable_of_iff (cs.head?.any isBlank = false ∧ cs.getLast?.any isBlank = false) (by
    rw [Option.any_eq_false, Option.any_eq_false]
    exact ⟨fun h => ⟨h.1, h.2⟩, fun h => ⟨h.head, h.last⟩⟩)

theorem trimLeft_of_head {cs : List Char} (h : ∀ c, cs.head? = some c → isBlank c = false) :
    trimLeft cs = cs := by
  cases cs with
  | nil => rfl
  | cons c cs => rw [trimLeft, List.dropWhile_cons_of_neg (by simp [h c rfl])]

theorem trimLeft_append (cs more : List Char) :
    trimLeft (cs ++ more) =
      if (trimLeft cs).isEmpty then trimLeft more else trimLeft cs ++ more :=
  List.dropWhile_append

theorem trimLeft_append_of_blank {before : List Char} (h : before.all isBlank = true)
    (cs : List Char) : trimLeft (before ++ cs) = trimLeft cs :=
  List.dropWhile_append_of_pos (List.all_eq_true.1 h)

theorem trimRight_eq (cs : List Char) : trimRight cs = (trimLeft cs.reverse).reverse := rfl

theorem trimRight_prefix (cs : List Char) : trimRight cs <+: cs := by
  have h : trimLeft cs.reverse <:+ cs.reverse := List.dropWhile_suffix isBlank
  rwa [← List.reverse_prefix, List.reverse_reverse, ← trimRight_eq] at h

theorem trimRight_append_of_blank (cs : List Char) {after : List Char}
    (h : after.all isBlank = true) : trimRight (cs ++ after) = trimRight cs := by
  rw [trimRight_eq, List.reverse_append, trimLeft_append_of_blank (by rw [List.all_reverse, h]),
    trimRight_eq]

theorem trimRight_append_of_last {cs : List Char}
    (h : ∀ c, cs.getLast? = some c → isBlank c = false) (more : List Char) :
    trimRight (cs ++ more) = cs ++ trimRight more := by
  have hcs : trimLeft cs.reverse = cs.reverse := by
    apply trimLeft_of_head
    rwa [List.head?_reverse]
  rw [trimRight_eq, trimRight_eq, List.reverse_append, trimLeft_append]
  split
  · next he =>
    rw [hcs, List.isEmpty_iff.1 he, List.reverse_reverse, List.reverse_nil, List.append_nil]
  · rw [List.reverse_append, List.reverse_reverse]

theorem trimRight_of_last {cs : List Char}
    (h : ∀ c, cs.getLast? = some c → isBlank c = false) : trimRight cs = cs := by
  have ha := trimRight_append_of_last h []
  have hn : trimRight [] = [] := rfl
  rwa [hn, List.append_nil] at ha

theorem Trimmed.trimChars {cs : List Char} (h : Trimmed cs) : trimChars cs = cs := by
  rw [Text.trimChars, trimLeft_of_head h.head, trimRight_of_last h.last]

theorem Trimmed.trimChars_append {cs before after : List Char} (h : Trimmed cs) (hne : cs ≠ [])
    (hb : before.all isBlank = true) (ha : after.all isBlank = true) :
    Text.trimChars (before ++ cs ++ after) = cs := by
  have hhead : ∀ c, (cs ++ after).head? = some c → isBlank c = false := by
    obtain ⟨c, cs, rfl⟩ := List.exists_cons_of_ne_nil hne
    exact h.head
  rw [Text.trimChars, List.append_assoc, trimLeft_append_of_blank hb, trimLeft_of_head hhead,
    trimRight_append_of_blank cs ha, trimRight_of_last h.last]

theorem trim_eq_empty_iff {s : String} : trim s = "" ↔ isAllBlank s = true := by
  rw [← String.toList_eq_nil_iff, trim, String.toList_ofList, trimChars_eq_nil_iff]
  rfl

theorem trim_ne_empty {s : String} (h : isAllBlank s = false) : (trim s).toList ≠ [] := by
  rw [Ne, String.toList_eq_nil_iff, trim_eq_empty_iff, h]
  exact Bool.false_ne_true

end PacketLog.Text
