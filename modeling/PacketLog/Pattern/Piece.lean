namespace PacketLog.Pattern

/-- Cuts behind the percent sign that ends a variable; one inside of braces does not end it. -/
def cutVariable (inBraces : Bool) : List Char → List Char × List Char
  | [] => ([], [])
  | c :: cs =>
    if c = '%' ∧ inBraces = false then ([c], cs)
    else
      let inBraces := if c = '{' then true else if c = '}' then false else inBraces
      let (piece, rest) := cutVariable inBraces cs
      (c :: piece, rest)

def cutLiteral (cs : List Char) : List Char × List Char :=
  (cs.takeWhile (· != '%'), cs.dropWhile (· != '%'))

/-- Cuts off the first piece of a pattern that begins with the given character. -/
def cutPiece (c : Char) (cs : List Char) : List Char × List Char :=
  let cut := if c = '%' then cutVariable false cs else cutLiteral cs
  (c :: cut.1, cut.2)

theorem cutVariable_append (inBraces : Bool) (cs : List Char) :
    (cutVariable inBraces cs).1 ++ (cutVariable inBraces cs).2 = cs := by
  induction cs generalizing inBraces with
  | nil => rfl
  | cons c cs ih =>
    rw [cutVariable]
    split
    · rfl
    · simp only [List.cons_append, ih]

theorem cutLiteral_append (cs : List Char) : (cutLiteral cs).1 ++ (cutLiteral cs).2 = cs :=
  List.takeWhile_append_dropWhile

theorem cutPiece_append (c : Char) (cs : List Char) :
    (cutPiece c cs).1 ++ (cutPiece c cs).2 = c :: cs := by
  simp only [cutPiece, List.cons_append]
  split
  · rw [cutVariable_append]
  · rw [cutLiteral_append]

theorem cutPiece_ne_nil (c : Char) (cs : List Char) : (cutPiece c cs).1 ≠ [] := by
  simp [cutPiece]

theorem length_cutPiece_lt (c : Char) (cs : List Char) :
    (cutPiece c cs).2.length < cs.length + 1 := by
  have h := congrArg List.length (cutPiece_append c cs)
  have hp := List.length_pos_iff.2 (cutPiece_ne_nil c cs)
  simp only [List.length_append, List.length_cons] at h
  omega

def pieces : List Char → List (List Char)
  | [] => []
  | c :: cs => (cutPiece c cs).1 :: pieces (cutPiece c cs).2
termination_by cs => cs.length
decreasing_by exact length_cutPiece_lt c cs

theorem flatten_pieces (cs : List Char) : (pieces cs).flatten = cs := by
  fun_induction pieces cs with
  | case1 => rfl
  | case2 c cs ih => rw [List.flatten_cons, ih, cutPiece_append]

end PacketLog.Pattern
