namespace PacketLog.Toml

abbrev Rest := List Char

def isSpace (c : Char) : Bool := c == ' ' || c == '\t'

def skipSpace (cs : List Char) : Rest := cs.dropWhile isSpace

/-- A character that may stand in a comment: no control but the tab. -/
def isShown (c : Char) : Bool := c == '\t' || (0x20 ≤ c.toNat && c.toNat != 0x7F)

def newline? : List Char → Option Rest
  | '\n' :: cs => some cs
  | '\r' :: '\n' :: cs => some cs
  | _ => none

def skipComment : List Char → Rest
  | '#' :: cs => cs.dropWhile isShown
  | cs => cs

/-- Reads up to the end of a line that holds nothing more than a comment. -/
def endOfLine? (cs : List Char) : Option Rest :=
  match skipComment (skipSpace cs) with
  | [] => some []
  | cs => newline? cs

theorem length_skipSpace_le (cs : List Char) : (skipSpace cs).length ≤ cs.length :=
  (List.dropWhile_suffix isSpace).length_le

theorem length_skipComment_le (cs : List Char) : (skipComment cs).length ≤ cs.length := by
  unfold skipComment
  split
  · next cs => exact Nat.le_succ_of_le (List.dropWhile_suffix isShown).length_le
  · exact Nat.le_refl _

theorem length_lt_of_newline? {cs rest : List Char} (h : newline? cs = some rest) :
    rest.length < cs.length := by
  unfold newline? at h
  split at h
  · cases h
    exact Nat.lt_succ_self _
  · cases h
    exact Nat.lt_succ_of_lt (Nat.lt_succ_self _)
  · simp at h

/-- Drops blanks, ends of lines and comments that end their line. -/
def skipLines (cs : List Char) : Rest :=
  match h : newline? (skipComment (skipSpace cs)) with
  | some rest =>
    have := length_lt_of_newline? h
    have := length_skipComment_le (skipSpace cs)
    have := length_skipSpace_le cs
    skipLines rest
  | none => skipSpace cs
termination_by cs.length

/-- Drops lines that hold nothing, and the blanks in front of what comes then. -/
def skipEmptyLines (cs : List Char) : Rest :=
  match h : newline? (skipSpace cs) with
  | some rest =>
    have := length_lt_of_newline? h
    have := length_skipSpace_le cs
    skipEmptyLines rest
  | none => skipSpace cs
termination_by cs.length

theorem length_skipEmptyLines_le (cs : List Char) : (skipEmptyLines cs).length ≤ cs.length := by
  fun_induction skipEmptyLines cs with
  | case1 cs rest h h₁ h₂ ih => omega
  | case2 cs => exact length_skipSpace_le cs

end PacketLog.Toml
