import PacketLog.Output.Device

namespace PacketLog.Output

namespace Device

def Fits (d : Device) (bs : Bytes) : Prop := d.fitting bs = bs.length

instance (d : Device) (bs : Bytes) : Decidable (d.Fits bs) :=
  inferInstanceAs (Decidable (d.fitting bs = bs.length))

/-- The state of a device after it took what fits of a run. -/
structure Took (d : Device) (bs : Bytes) (after : Device) : Prop where
  held : after.held = d.held ++ bs.take (d.fitting bs)
  room : after.room = d.room.map (· - bs.length)
  whenFull : after.whenFull = d.whenFull
  whenFlushed : after.whenFlushed = d.whenFlushed

theorem fits_of_room_none {d : Device} (h : d.room = none) (bs : Bytes) : d.Fits bs := by
  simp only [Fits, fitting, h]

theorem fits_iff_of_room {d : Device} {room : Nat} (h : d.room = some room) (bs : Bytes) :
    d.Fits bs ↔ bs.length ≤ room := by
  simp only [Fits, fitting, h]
  omega

theorem take_fitting_of_fits {d : Device} {bs : Bytes} (h : d.Fits bs) :
    bs.take (d.fitting bs) = bs := by
  rw [h, List.take_length]

theorem take_fitting_of_room {d : Device} {room : Nat} (h : d.room = some room) (bs : Bytes) :
    bs.take (d.fitting bs) = bs.take room := by
  simp only [fitting, h, List.take_eq_take_iff]
  omega

theorem Took.nil (d : Device) : d.Took [] d := by
  constructor <;> simp

theorem fits_nil (d : Device) : d.Fits [] := by
  cases h : d.room with
  | none => exact fits_of_room_none h []
  | some room => exact (fits_iff_of_room h []).2 (Nat.zero_le room)

theorem fits_append {d m : Device} {xs : Bytes} (hm : m.room = d.room.map (· - xs.length))
    (ys : Bytes) : d.Fits (xs ++ ys) ↔ d.Fits xs ∧ m.Fits ys := by
  cases h : d.room with
  | none =>
    have hm' : m.room = none := by rw [hm, h]; rfl
    simp only [fits_of_room_none h, fits_of_room_none hm', and_self]
  | some room =>
    have hm' : m.room = some (room - xs.length) := by rw [hm, h]; rfl
    rw [fits_iff_of_room h, fits_iff_of_room h, fits_iff_of_room hm', List.length_append]
    omega

theorem Took.append {d m after : Device} {xs ys : Bytes} (h₁ : d.Took xs m)
    (h₂ : m.Took ys after) : d.Took (xs ++ ys) after where
  held := by
    rw [h₂.held, h₁.held]
    cases h : d.room with
    | none =>
      have hm : m.room = none := by rw [h₁.room, h]; rfl
      simp only [take_fitting_of_fits (fits_of_room_none h _),
        take_fitting_of_fits (fits_of_room_none hm _), List.append_assoc]
    | some room =>
      have hm : m.room = some (room - xs.length) := by rw [h₁.room, h]; rfl
      rw [take_fitting_of_room h, take_fitting_of_room h, take_fitting_of_room hm,
        List.take_append, List.append_assoc]
  room := by
    rw [h₂.room, h₁.room, Option.map_map, List.length_append]
    congr 1
    funext room
    exact Nat.sub_sub room xs.length ys.length
  whenFull := h₂.whenFull.trans h₁.whenFull
  whenFlushed := h₂.whenFlushed.trans h₁.whenFlushed

/-- A device without room for a run has none for what comes behind it. -/
theorem Took.append_of_not_fits {d after : Device} {xs : Bytes} (h : d.Took xs after)
    (hn : ¬ d.Fits xs) (ys : Bytes) : d.Took (xs ++ ys) after := by
  apply h.append
  cases hr : d.room with
  | none => exact absurd (fits_of_room_none hr xs) hn
  | some room =>
    rw [fits_iff_of_room hr] at hn
    have ha : after.room = some 0 := by
      rw [h.room, hr, Option.map_some, Nat.sub_eq_zero_of_le (by omega)]
    constructor <;> simp [ha, take_fitting_of_room]

theorem write_fst (d : Device) (bs : Bytes) :
    (d.write bs).1 = if d.Fits bs then .ok () else .error d.whenFull := by
  unfold write
  cases h : d.room with
  | none => rw [if_pos (fits_of_room_none h bs)]
  | some room =>
    have he : (bs.take room).length = bs.length ↔ d.Fits bs := by
      rw [fits_iff_of_room h, List.length_take]
      omega
    by_cases hf : d.Fits bs
    · simp only [he.2 hf, hf, ↓reduceIte]
    · simp only [mt he.1 hf, hf, ↓reduceIte]

theorem took_write (d : Device) (bs : Bytes) : d.Took bs (d.write bs).2 where
  held := held_write d bs
  room := by
    unfold write
    cases d.room with
    | none => rfl
    | some room =>
      dsimp only
      split <;> simp only [List.length_take, Option.map_some, Option.some.injEq] <;> omega
  whenFull := by
    unfold write
    split
    · rfl
    · dsimp only
      split <;> rfl
  whenFlushed := by
    unfold write
    split
    · rfl
    · dsimp only
      split <;> rfl

end Device

open Device in
/-- Runs handed to a device one after another fare like all of them in one. -/
theorem writeEach_device (d : Device) (runs : List Bytes) :
    (writeEach d runs).1 = (if d.Fits runs.flatten then .ok () else .error d.whenFull) ∧
      d.Took runs.flatten (writeEach d runs).2 := by
  induction runs generalizing d with
  | nil => exact ⟨(if_pos d.fits_nil).symm, .nil d⟩
  | cons bs runs ih =>
    have hw := d.write_fst bs
    have ht := d.took_write bs
    rw [writeEach, List.flatten_cons]
    by_cases hf : d.Fits bs
    · have he : Outlet.write d bs = (.ok (), (d.write bs).2) :=
        Prod.ext (hw.trans (if_pos hf)) rfl
      obtain ⟨hr, hd⟩ := ih (d.write bs).2
      rw [he]
      refine ⟨?_, ht.append hd⟩
      simp only [hr, fits_append ht.room, hf, true_and, ht.whenFull]
    · have he : Outlet.write d bs = (.error d.whenFull, (d.write bs).2) :=
        Prod.ext (hw.trans (if_neg hf)) rfl
      rw [he]
      refine ⟨?_, ht.append_of_not_fits hf runs.flatten⟩
      rw [if_neg fun h => hf ((fits_append ht.room _).1 h).1]

end PacketLog.Output
