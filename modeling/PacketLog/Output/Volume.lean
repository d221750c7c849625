import PacketLog.Output.Device

namespace PacketLog.Output

structure Path where
  /-- Whether it starts at the root and not in the directory of the run. -/
  isAbsolute : Bool
  names : List String
  /-- Whether it asks for a directory at its end. -/
  endsInSlash : Bool
  deriving DecidableEq, Repr

/-- The names that lead to a place from the directory of the run. A place below the root has a slash
as its first name. -/
abbrev Place := List String

namespace Path

/-- The length that a path stays below, in bytes. -/
def limit : Nat := 4096

def nameLimit : Nat := 255

/-- Reads a path. Slashes in a row count once. -/
def ofString (s : String) : Except DeviceFault Path :=
  let cs := s.toList
  if '\x00' ∈ cs then .error .nulInName
  else if cs.isEmpty then .error .notFound
  else if limit ≤ s.utf8ByteSize then .error .nameTooLong
  else .ok {
    isAbsolute := cs.head? = some '/'
    names := (s.splitOn "/").filter (· != "")
    endsInSlash := cs.getLast? = some '/' }

def start (path : Path) : Place := if path.isAbsolute then ["/"] else []

/-- The place that a path leads to if all its names are names of files and directories. -/
def place (path : Path) : Place := path.start ++ path.names.filter (· != ".")

end Path

/-- The directory above a place. The root is above itself. -/
def Place.parent (place : Place) : Place :=
  if place = ["/"] then place
  else if place.all (· == "..") then ".." :: place
  else place.dropLast

inductive Node where
  | file (contents : Bytes)
  /-- A device that keeps nothing, with the number of bytes it takes, if there is a limit. -/
  | device (room : Option Nat)
  deriving DecidableEq, Repr

inductive Finding where
  | directory
  | node (n : Node)
  | nothing
  deriving DecidableEq, Repr

/-- Files by place. There is a directory wherever there is something below it. -/
structure Volume where
  nodes : List (Place × Node) := []
  deriving DecidableEq, Repr

namespace Volume

def isDirectory (v : Volume) (place : Place) : Bool :=
  place == ["/"] || place.all (· == "..") ||
    v.nodes.any fun n => place.isPrefixOf n.1 && place != n.1

def look (v : Volume) (place : Place) : Finding :=
  if v.isDirectory place then .directory
  else
    match v.nodes.lookup place with
    | some n => .node n
    | none => .nothing

def step (v : Volume) (place : Place) (name : String) : Except DeviceFault Place :=
  match v.look place with
  | .nothing => .error .notFound
  | .node _ => .error .notDirectory
  | .directory =>
    if name = "." then .ok place
    else if name = ".." then .ok place.parent
    else if Path.nameLimit < name.utf8ByteSize then .error .nameTooLong
    else .ok (place ++ [name])

/-- Follows names from a place to the last of them, whatever stands there. -/
def follow (v : Volume) (start : Place) (names : List String) : Except DeviceFault Place :=
  names.foldlM v.step start

/-- The contents of the file at a path. Of a device nothing is read. -/
def read (v : Volume) (s : String) : Except DeviceFault Bytes := do
  let path ← Path.ofString s
  match v.look (← v.follow path.start path.names) with
  | .directory => .error .isDirectory
  | .nothing => .error .notFound
  | .node n =>
    if path.endsInSlash then .error .notDirectory
    else
      match n with
      | .file contents => .ok contents
      | .device _ => .ok []

/-- Where a path leads to a file, or to where one can be created. A path with a slash at its end
leads to no file, whatever its last name is. -/
def placeOfFile (v : Volume) (s : String) : Except DeviceFault Place := do
  let path ← Path.ofString s
  let names := if path.endsInSlash then path.names.dropLast ++ ["."] else path.names
  let place ← v.follow path.start names
  if v.isDirectory place then .error .isDirectory else .ok place

/-- The device that appends to the file at a path. A missing file is created if its directory is
there. -/
def openToAppend (v : Volume) (s : String) : Except DeviceFault Device := do
  match v.nodes.lookup (← v.placeOfFile s) with
  | some (.file contents) => .ok { runs := [contents] }
  | some (.device room) => .ok { room }
  | none => .ok {}

def set (v : Volume) (place : Place) (n : Node) : Volume :=
  { nodes := (place, n) :: v.nodes.filter (·.1 != place) }

def put (v : Volume) (s : String) (contents : Bytes) : Volume :=
  match v.placeOfFile s with
  | .error _ => v
  | .ok place =>
    match v.nodes.lookup place with
    | some (.device _) => v
    | _ => v.set place (.file contents)

end Volume

end PacketLog.Output
