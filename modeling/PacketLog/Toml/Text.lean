import PacketLog.Toml.Line

namespace PacketLog.Toml

def hexDigit? (c : Char) : Option Nat :=
  if c.isDigit then some (c.toNat - 48)
  else if 'a' ≤ c ∧ c ≤ 'f' then some (c.toNat - 87)
  else if 'A' ≤ c ∧ c ≤ 'F' then some (c.toNat - 55)
  else none

/-- Reads a character given by a count of hexadecimal digits. -/
def numbered? (count : Nat) (cs : List Char) : Option (Char × Rest) := do
  let ds ← (cs.take count).mapM hexDigit?
  let n := ds.foldl (fun n d => 16 * n + d) 0
  if ds.length = count ∧ n.isValidChar then some (Char.ofNat n, cs.drop count) else none

def escape? : List Char → Option (Char × Rest)
  | 'b' :: cs => some ('\x08', cs)
  | 't' :: cs => some ('\t', cs)
  | 'n' :: cs => some ('\n', cs)
  | 'f' :: cs => some ('\x0c', cs)
  | 'r' :: cs => some ('\r', cs)
  | '"' :: cs => some ('"', cs)
  | '\\' :: cs => some ('\\', cs)
  | 'u' :: cs => numbered? 4 cs
  | 'U' :: cs => numbered? 8 cs
  | _ => none

theorem length_le_of_numbered? {count : Nat} {c : Char} {cs rest : List Char}
    (h : numbered? count cs = some (c, rest)) : rest.length ≤ cs.length := by
  unfold numbered? at h
  simp only [Option.bind_eq_bind, Option.bind_eq_some_iff] at h
  obtain ⟨_, _, h⟩ := h
  split at h
  · cases h
    simp
  · simp at h

theorem length_lt_of_escape? {c : Char} {cs rest : List Char} (h : escape? cs = some (c, rest)) :
    rest.length < cs.length := by
  unfold escape? at h
  split at h
  case h_8 => exact Nat.lt_succ_of_le (length_le_of_numbered? h)
  case h_9 => exact Nat.lt_succ_of_le (length_le_of_numbered? h)
  case h_10 => simp at h
  all_goals
    cases h
    simp

/-- Reads a string on one line behind its opening quote, the characters before it in reverse. -/
def line? (quote : Char) (escapes : Bool) (before : List Char) :
    List Char → Option (String × Rest)
  | [] => none
  | c :: cs =>
    if c = quote then some (String.ofList before.reverse, cs)
    else if escapes ∧ c = '\\' then
      match h : escape? cs with
      | some (e, rest) =>
        have := length_lt_of_escape? h
        line? quote escapes (e :: before) rest
      | none => none
    else if isShown c then line? quote escapes (c :: before) cs
    else none
termination_by cs => cs.length

/-- Reads a backslash that ends its line, together with the blanks and line ends behind it. -/
def continuation? (cs : List Char) : Option Rest := (newline? (skipSpace cs)).map skipEmptyLines

theorem length_lt_of_continuation? {cs rest : List Char} (h : continuation? cs = some rest) :
    rest.length < cs.length := by
  obtain ⟨line, hl, rfl⟩ := Option.map_eq_some_iff.1 h
  have := length_skipEmptyLines_le line
  have := length_lt_of_newline? hl
  have := length_skipSpace_le cs
  omega

/-- Reads a string on several lines behind its three opening quotes, the characters before it in
reverse. Three quotes end it; one or two quotes in front of those belong to it. -/
def block? (quote : Char) (escapes : Bool) (before : List Char) :
    List Char → Option (String × Rest)
  | [] => none
  | c :: cs =>
    if c = quote then
      let count := (cs.takeWhile (· == quote)).length + 1
      have := (List.dropWhile_suffix (· == quote) (l := cs)).length_le
      if count < 3 then
        block? quote escapes (List.replicate count quote ++ before) (cs.dropWhile (· == quote))
      else
        let extra := min (count - 3) 2
        some (String.ofList (List.replicate extra quote ++ before).reverse,
          cs.drop (extra + 2))
    else if escapes ∧ c = '\\' then
      match h : continuation? cs with
      | some rest =>
        have := length_lt_of_continuation? h
        block? quote escapes before rest
      | none =>
        match h : escape? cs with
        | some (e, rest) =>
          have := length_lt_of_escape? h
          block? quote escapes (e :: before) rest
        | none => none
    else if isShown c then block? quote escapes (c :: before) cs
    else
      match h : newline? (c :: cs) with
      | some rest =>
        have : rest.length < cs.length + 1 := length_lt_of_newline? h
        block? quote escapes ('\n' :: before) rest
      | none => none
termination_by cs => cs.length

def string? : List Char → Option (String × Rest)
  | '"' :: '"' :: '"' :: cs =>
    let cs := (newline? cs).getD cs
    block? '"' true [] cs
  | '"' :: cs => line? '"' true [] cs
  | '\'' :: '\'' :: '\'' :: cs =>
    let cs := (newline? cs).getD cs
    block? '\'' false [] cs
  | '\'' :: cs => line? '\'' false [] cs
  | _ => none

def isKeyChar (c : Char) : Bool := c.isAlphanum || c == '-' || c == '_'

def keyPart? : List Char → Option (String × Rest)
  | '"' :: cs => line? '"' true [] cs
  | '\'' :: cs => line? '\'' false [] cs
  | cs =>
    match cs.takeWhile isKeyChar with
    | [] => none
    | name => some (String.ofList name, cs.dropWhile isKeyChar)

def keyParts? : Nat → List Char → Option (List String × Rest)
  | 0, _ => none
  | fuel + 1, cs => do
    let (name, cs) ← keyPart? (skipSpace cs)
    match skipSpace cs with
    | '.' :: cs =>
      let (names, cs) ← keyParts? fuel cs
      some (name :: names, cs)
    | cs => some ([name], cs)

/-- How deep values and keys can be nested. -/
def nestingLimit : Nat := 80

/-- Reads a key as its path and its last part. -/
def key? (cs : List Char) : Option (List String × String × Rest) := do
  let (names, cs) ← keyParts? (nestingLimit - 1) cs
  let last ← names.getLast?
  some (names.dropLast, last, cs)

end PacketLog.Toml
