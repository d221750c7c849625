import Mathlib.Data.List.Basic

namespace PacketLog

variable {α β : Type}

theorem getLast?_filterMap_concat (read : α → Option β) (xs : List α) (x : α) :
    ((xs ++ [x]).filterMap read).getLast? = (read x).or (xs.filterMap read).getLast? := by
  rw [List.filterMap_append, List.getLast?_append]
  cases hx : read x with
  | none => simp [hx]
  | some y => simp [hx]

/-- The value of the last item that has one. -/
def last? (read : α → Option β) (xs : List α) : Option β := (xs.filterMap read).getLast?

theorem last?_concat (read : α → Option β) (xs : List α) (x : α) :
    last? read (xs ++ [x]) = (read x).or (last? read xs) :=
  getLast?_filterMap_concat read xs x

end PacketLog
