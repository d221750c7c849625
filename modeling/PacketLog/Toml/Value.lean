namespace PacketLog

/-- How a table came about. -/
inductive TableSort where
  /-- Under a header of its own. -/
  | header
  /-- As the parent of another header. -/
  | implied
  /-- Through a dotted key. -/
  | dotted
  /-- Between braces; nothing can be added to it. -/
  | braces
  deriving DecidableEq, Repr

/-- A TOML value. Of numbers with a point and of dates nothing is kept but what they are. -/
inductive Toml where
  | string (s : String)
  | integer (n : Int)
  | float
  | boolean (b : Bool)
  | datetime
  | array (items : List Toml)
  | table (sort : TableSort) (entries : List (String × Toml))
  /-- Tables under headers of double brackets, the latest first. -/
  | tables (items : List (List (String × Toml)))
  deriving Repr, Inhabited

namespace Toml

abbrev Entries := List (String × Toml)

def replaceEntry (key : String) (v : Toml) (t : Entries) : Entries :=
  t.map fun e => if e.1 == key then (key, v) else e

/-- Changes the table at a path below a table of the given sort, and makes the tables that are
missing on the way. A dotted key cannot reach into a table under a header. -/
def changeAt? {α : Type} (dotted : Bool) (change : TableSort → Entries → Option (α × Entries)) :
    TableSort → List String → Entries → Option (α × Entries)
  | sort, [], t => change sort t
  | _, key :: path, t =>
    match t.lookup key with
    | none => do
      let sort := if dotted then .dotted else .implied
      let (a, below) ← changeAt? dotted change sort path []
      some (a, t ++ [(key, .table sort below)])
    | some (.table sort below) =>
      if sort = .braces ∨ (dotted ∧ sort = .header) then none
      else do
        let (a, below) ← changeAt? dotted change sort path below
        some (a, replaceEntry key (.table sort below) t)
    | some (.tables items) =>
      match items with
      | [] => none
      | latest :: items => do
        let (a, latest) ← changeAt? dotted change .header path latest
        some (a, replaceEntry key (.tables (latest :: items)) t)
    | some _ => none

/-- Adds a value under a key that is not there yet. A path leads only to tables of dotted keys. -/
def put? (path : List String) (key : String) (v : Toml) (t : Entries) : Option Entries :=
  (changeAt? true (fun sort below =>
    if (path.isEmpty ∨ sort = .dotted) ∧ (below.lookup key).isNone then
      some ((), below ++ [(key, v)])
    else none) .header path t).map Prod.snd

/-- The table whose lines are being read, beside the document without it. -/
structure Draft where
  root : Entries := []
  /-- The parents and the name of the open table; the document itself has no name. -/
  name : Option (List String × String) := none
  /-- Whether the open table is one of several of its name. -/
  isOneOfMany : Bool := false
  entries : Entries := []
  deriving Repr

namespace Draft

/-- The document with the open table put in its place. -/
def close? (d : Draft) : Option Entries :=
  match d.name with
  | none => some d.entries
  | some (path, key) =>
    (changeAt? false (fun _ t =>
      if d.isOneOfMany then
        match t.lookup key with
        | none => some ((), t ++ [(key, .tables [d.entries])])
        | some (.tables items) =>
          some ((), replaceEntry key (.tables (d.entries :: items)) t)
        | some _ => none
      else if (t.lookup key).isNone then some ((), t ++ [(key, .table .header d.entries)])
      else none) .header path d.root).map Prod.snd

/-- Opens a table. What was implied by its own children is taken out of the document and goes on
with the children it has. -/
def openTable? (d : Draft) (path : List String) (key : String) : Option Draft := do
  let root ← d.close?
  let (entries, root) ← changeAt? false (fun _ t =>
    match t.lookup key with
    | none => some ([], t)
    | some (.table .implied below) => some (below, t.filter fun e => e.1 != key)
    | some _ => none) .header path root
  some { root, name := some (path, key), entries }

def openNext? (d : Draft) (path : List String) (key : String) : Option Draft := do
  let root ← d.close?
  let ((), root) ← changeAt? false (fun _ t =>
    match t.lookup key with
    | none => some ((), t ++ [(key, .tables [])])
    | some (.tables _) => some ((), t)
    | some _ => none) .header path root
  some { root, name := some (path, key), isOneOfMany := true }

def put? (d : Draft) (path : List String) (key : String) (v : Toml) : Option Draft := do
  some { d with entries := ← Toml.put? path key v d.entries }

end Draft

end Toml

end PacketLog
