import PacketLog.Toml.Scalar

namespace PacketLog.Toml

/-- Reads at most the given number of items of an array and its closing bracket, behind items in
reverse; the last item may have a comma behind it. -/
def items? (read : List Char → Option (Toml × Rest)) :
    Nat → List Toml → List Char → Option (Toml × Rest)
  | 0, _, _ => none
  | most + 1, before, cs =>
    match skipLines cs with
    | ']' :: cs => some (.array before.reverse, cs)
    | cs => do
      let (item, cs) ← read cs
      match skipLines cs with
      | ',' :: cs => items? read most (item :: before) cs
      | ']' :: cs => some (.array (item :: before).reverse, cs)
      | _ => none

def keyValue? (read : List Char → Option (Toml × Rest)) (cs : List Char) :
    Option (List String × String × Toml × Rest) := do
  let (path, key, cs) ← key? cs
  let (v, cs) ← read (skipSpace (← char? '=' cs))
  some (path, key, v, cs)

/-- Reads at most the given number of members of a table and its closing brace, all on one line and
at least one. -/
def members? (read : List Char → Option (Toml × Rest)) :
    Nat → Entries → List Char → Option (Toml × Rest)
  | 0, _, _ => none
  | most + 1, before, cs => do
    let (path, key, v, cs) ← keyValue? read cs
    let entries ← Toml.put? path key v before
    match skipSpace cs with
    | ',' :: cs => members? read most entries cs
    | '}' :: cs => some (.table .braces entries, cs)
    | _ => none

/-- Reads a value in which no more than the given number of arrays and tables are nested, and none of
them has more parts than the given number. -/
def value? (most : Nat) : Nat → List Char → Option (Toml × Rest)
  | 0, _ => none
  | depth + 1, cs =>
    match cs with
    | [] => none
    | c :: rest =>
      if c = '"' ∨ c = '\'' then (string? cs).map fun (s, cs) => (.string s, cs)
      else if c = '[' then
        if depth = 0 then none else items? (value? most depth) most [] rest
      else if c = '{' then
        if depth = 0 then none
        else
          match skipSpace rest with
          | '}' :: rest => some (.table .braces [], rest)
          | rest => members? (value? most depth) most [] rest
      else if c = 't' ∨ c = 'f' then boolean? cs
      else number? cs

/-- Reads a header behind its opening bracket: the rest of its line, and the table it opens. -/
def header? (d : Draft) : List Char → Option (Draft × Rest)
  | '[' :: cs => do
    let (path, key, cs) ← key? cs
    let cs ← endOfLine? (← char? ']' (← char? ']' cs))
    some (← d.openNext? path key, cs)
  | cs => do
    let (path, key, cs) ← key? cs
    let cs ← endOfLine? (← char? ']' cs)
    some (← d.openTable? path key, cs)

/-- Reads one line that is not blank. No value in it has more parts than the given number. -/
def statement? (most : Nat) (d : Draft) : List Char → Option (Draft × Rest)
  | '[' :: cs => header? d cs
  | cs => do
    let (path, key, v, cs) ← keyValue? (value? most nestingLimit) cs
    let cs ← endOfLine? cs
    some (← d.put? path key v, cs)

/-- Reads lines up to the end. Every line but the last has an end, so as many steps as there are
characters, and one more, are enough. -/
def lines? (most : Nat) : Nat → Draft → List Char → Option Draft
  | 0, _, _ => none
  | fuel + 1, d, cs =>
    match skipSpace cs with
    | [] => some d
    | '#' :: cs =>
      match endOfLine? ('#' :: cs) with
      | some cs => lines? most fuel d cs
      | none => none
    | cs =>
      match newline? cs with
      | some cs => lines? most fuel d cs
      | none =>
        match statement? most d cs with
        | some (d, cs) => lines? most fuel d cs
        | none => none

/-- Reads a document; a byte order mark in front of it is dropped. It has fewer lines, and a value in
it fewer parts, than one more than its characters. -/
def document? (s : String) : Option Entries := do
  let cs := match s.toList with
    | '\ufeff' :: cs => cs
    | cs => cs
  let most := cs.length + 1
  (← lines? most most {} cs).close?

end PacketLog.Toml
