import PacketLog.Replay.Lines

namespace PacketLog.Replay

/-- The pieces of an input between line feeds; an empty one at the end does not count. -/
def pieces (bs : Bytes) : List Bytes :=
  if (bs.splitOn 0x0A).getLast? = some [] then (bs.splitOn 0x0A).dropLast else bs.splitOn 0x0A

theorem splitOn_cons (b : UInt8) (bs : Bytes) :
    (b :: bs).splitOn 0x0A = if b = 0x0A then [] :: bs.splitOn 0x0A
      else (bs.splitOn 0x0A).modifyHead (b :: ·) := by
  simp only [List.splitOn, List.splitOnP_cons_eq_if_modifyHead, beq_iff_eq]

theorem cutLines_go (before bs : Bytes) :
    (cutLines.go before bs).1 ++ [(cutLines.go before bs).2] =
      (bs.splitOn 0x0A).modifyHead (before.reverse ++ ·) := by
  induction bs generalizing before with
  | nil => simp [cutLines.go]
  | cons b bs ih =>
    rw [cutLines.go, splitOn_cons]
    by_cases hb : b = 0x0A
    · have hi : (cutLines.go [] bs).1 ++ [(cutLines.go [] bs).2] = bs.splitOn 0x0A := by
        rw [ih]
        cases bs.splitOn 0x0A <;> rfl
      rw [if_pos hb, if_pos hb, List.modifyHead_cons, List.append_nil, List.cons_append, hi]
    · rw [if_neg hb, if_neg hb, ih, List.modifyHead_modifyHead]
      congr 1
      funext bs
      simp

/-- Cutting behind line feeds is splitting at them, with the last piece apart. -/
theorem splitOn_eq_cutLines (bs : Bytes) :
    bs.splitOn 0x0A = (cutLines bs).1 ++ [(cutLines bs).2] := by
  rw [cutLines, cutLines_go]
  cases bs.splitOn 0x0A <;> rfl

theorem lines_eq_pieces (bs : Bytes) : lines bs = pieces bs := by
  rw [lines, pieces, splitOn_eq_cutLines, List.getLast?_concat, List.dropLast_concat]
  simp only [List.isEmpty_iff, Option.some.injEq]

/-- An input with a carriage return in front of every line feed. -/
def withReturns (bs : Bytes) : Bytes := bs.flatMap fun b => if b = 0x0A then [0x0D, 0x0A] else [b]

theorem cutLines_go_withReturns (before bs : Bytes) :
    cutLines.go before (withReturns bs) =
      ((cutLines.go before bs).1.map (· ++ [0x0D]), (cutLines.go before bs).2) := by
  induction bs generalizing before with
  | nil => rfl
  | cons b bs ih =>
    have hcons : withReturns (b :: bs) =
        (if b = 0x0A then [0x0D, 0x0A] else [b]) ++ withReturns bs := List.flatMap_cons
    by_cases hb : b = 0x0A
    · rw [hcons, if_pos hb]
      simp [cutLines.go, hb, ih]
    · rw [hcons, if_neg hb]
      simp [cutLines.go, hb, ih]

theorem dropReturn_concat (line : Bytes) : dropReturn (line ++ [0x0D]) = line := by
  rw [dropReturn, List.getLast?_concat, if_pos rfl, List.dropLast_concat]

theorem dropReturn_of_ne {line : Bytes} (h : line.getLast? ≠ some 0x0D) : dropReturn line = line :=
  if_neg h

theorem map_dropReturn_withReturns {bs : Bytes} (h : ∀ l ∈ pieces bs, l.getLast? ≠ some 0x0D) :
    (pieces (withReturns bs)).map dropReturn = (pieces bs).map dropReturn := by
  rw [← lines_eq_pieces] at h ⊢
  rw [← lines_eq_pieces]
  have hcut : cutLines (withReturns bs) =
      ((cutLines bs).1.map (· ++ [0x0D]), (cutLines bs).2) := cutLines_go_withReturns [] bs
  have hfull : ((cutLines bs).1.map (· ++ [0x0D])).map dropReturn =
      (cutLines bs).1.map dropReturn := by
    rw [List.map_map]
    apply List.map_congr_left
    intro l hl
    have hmem : l ∈ lines bs := by
      rw [lines]
      dsimp only
      split
      · exact hl
      · exact List.mem_append_left _ hl
    rw [Function.comp_apply, dropReturn_concat, dropReturn_of_ne (h l hmem)]
  rw [lines, lines, hcut]
  dsimp only
  split
  · exact hfull
  · rw [List.map_append, List.map_append, hfull]

end PacketLog.Replay
