import Mathlib.Data.List.Forall2
import PacketLog.Proofs.Pattern.Renderer

namespace PacketLog

theorem forall₂_iff_eq_map {α β : Type} {R : α → β → Prop} {f : α → β}
    (h : ∀ a b, R a b ↔ b = f a) {xs : List α} {ys : List β} :
    List.Forall₂ R xs ys ↔ ys = xs.map f := by
  have hR : R = fun a b => f a = b := by
    funext a b
    exact propext ((h a b).trans eq_comm)
  rw [hR, ← List.forall₂_map_left_iff (R := Eq), List.forall₂_eq_eq_eq, eq_comm]

namespace Pattern

open Renderer (shownDepth)

/-- Whether a field is a value aligned to a width: it has all characters of the value, and besides
them only the spaces that are missing, in front for a positive width and behind for any other. -/
structure Aligned (width : Int) (value field : List Char) : Prop where
  length_eq : field.length = max width.natAbs value.length
  right : 0 < width → ∃ n, field = List.replicate n ' ' ++ value
  left : width ≤ 0 → ∃ n, field = value ++ List.replicate n ' '

/-- What a token shows of an entry, with so many spaces in front of titles. -/
inductive Shows (indentation : Nat) (e : Entry) : Token → List Char → Prop where
  | literal (text : List Char) : Shows indentation e (.literal text) text
  | title {width : Int} {options field : List Char}
      (h : Aligned width (Variable.title.value options e) field) :
      Shows indentation e (.variable .title width options)
        (List.replicate indentation ' ' ++ field)
  | variable {v : Variable} {width : Int} {options field : List Char} (hv : v ≠ .title)
      (h : Aligned width (v.value options e) field) :
      Shows indentation e (.variable v width options) field

theorem length_padded (width : Int) (value : List Char) :
    (padded width value).length = max width.natAbs value.length := by
  rw [padded]
  split
  · rw [List.length_append, List.length_replicate, Nat.sub_add_eq_max]
  · rw [List.length_append, List.length_replicate, Nat.add_comm, Nat.sub_add_eq_max]

variable {width : Int} {value field : List Char}

theorem aligned_padded (width : Int) (value : List Char) :
    Aligned width value (padded width value) where
  length_eq := length_padded width value
  right hw := ⟨_, if_pos hw⟩
  left hw := ⟨_, if_neg (Int.not_lt.2 hw)⟩

/-- A width leaves no choice in how a value is aligned. -/
theorem Aligned.eq_padded (h : Aligned width value field) : field = padded width value := by
  have hlength := h.length_eq
  by_cases hw : 0 < width
  · obtain ⟨n, rfl⟩ := h.right hw
    rw [List.length_append, List.length_replicate] at hlength
    have hn : n = width.natAbs - value.length := by omega
    rw [padded, if_pos hw, hn]
  · obtain ⟨n, rfl⟩ := h.left (Int.not_lt.1 hw)
    rw [List.length_append, List.length_replicate] at hlength
    have hn : n = width.natAbs - value.length := by omega
    rw [padded, if_neg hw, hn]

theorem field_variable {v : Variable} (hv : v ≠ .title) (width : Int) (options : List Char)
    (indentation : Nat) (e : Entry) :
    (Token.variable v width options).field indentation e = padded width (v.value options e) := by
  cases v with
  | title => exact absurd rfl hv
  | _ => rfl

theorem field_title (width : Int) (options : List Char) (indentation : Nat) (e : Entry) :
    (Token.variable .title width options).field indentation e =
      List.replicate indentation ' ' ++ padded width (Variable.title.value options e) := rfl

variable {indentation : Nat} {e : Entry} {t : Token} {ts : List Token}

theorem shows_field (indentation : Nat) (e : Entry) (t : Token) :
    Shows indentation e t (t.field indentation e) := by
  cases t with
  | literal text =>
    rw [field_literal]
    exact .literal text
  | «variable» v width options =>
    by_cases hv : v = .title
    · subst hv
      exact .title (aligned_padded width _)
    · rw [field_variable hv]
      exact .variable hv (aligned_padded width _)

theorem shows_iff : Shows indentation e t field ↔ field = t.field indentation e := by
  constructor
  · intro h
    cases h with
    | literal text => rw [field_literal]
    | title h => rw [h.eq_padded, field_title]
    | «variable» hv h => rw [h.eq_padded, field_variable hv]
  · rintro rfl
    exact shows_field indentation e t

theorem forall₂_shows_iff {fields : List (List Char)} :
    List.Forall₂ (Shows indentation e) ts fields ↔
      fields = ts.map fun t => t.field indentation e :=
  forall₂_iff_eq_map (f := fun t : Token => t.field indentation e) fun _ _ => shows_iff

/-- A line is made of the fields that its tokens show, in order, and of nothing else. -/
theorem Renderer.line_eq_iff {r : Renderer} {line : List Char} :
    r.line e = line ↔
      ∃ fields, List.Forall₂ (Shows (if r.indent then 3 * shownDepth e.kind r.depth else 0) e)
        r.tokens fields ∧ line = fields.flatten := by
  have hline : r.line e = (r.tokens.map fun t =>
      t.field (if r.indent then 3 * shownDepth e.kind r.depth else 0) e).flatten :=
    List.flatMap_def
  rw [hline]
  constructor
  · rintro rfl
    exact ⟨_, forall₂_shows_iff.2 rfl, rfl⟩
  · rintro ⟨fields, hfields, rfl⟩
    rw [forall₂_shows_iff.1 hfields]

/-- A field with so many spaces more in front of it, if it is that of a title. -/
def indentTitle (n : Nat) : Token → List Char → List Char
  | .variable .title _ _, field => List.replicate n ' ' ++ field
  | _, field => field

theorem field_eq_indentTitle (t : Token) (n : Nat) (e : Entry) :
    t.field n e = indentTitle n t (t.field 0 e) := by
  cases t with
  | literal text => simp only [field_literal, indentTitle]
  | «variable» v width options => cases v <;> rfl

theorem map_field_eq_zipWith (ts : List Token) (n : Nat) (e : Entry) :
    (ts.map fun t => t.field n e) =
      List.zipWith (indentTitle n) ts (ts.map fun t => t.field 0 e) := by
  rw [List.zipWith_map_right, List.zipWith_self]
  exact List.map_congr_left fun t _ => field_eq_indentTitle t n e

end Pattern

end PacketLog
