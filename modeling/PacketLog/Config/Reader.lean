import PacketLog.Config.Basic
import PacketLog.Toml.Reader

namespace PacketLog

/-- Reads a value into a field of a record. -/
abbrev FieldReader (α : Type) := Toml → α → Except TextFault α

namespace Toml

def field {α β : Type} (read : Toml → Except TextFault β) (set : β → α → α) : FieldReader α :=
  fun v a => (read v).map fun b => set b a

def asString : Toml → Except TextFault String
  | .string s => .ok s
  | _ => .error .wrongType

def asBool : Toml → Except TextFault Bool
  | .boolean b => .ok b
  | _ => .error .wrongType

def asNamed {β : Type} (ofName? : String → Option β) (fault : String → TextFault) (v : Toml) :
    Except TextFault β := do
  let s ← v.asString
  match ofName? s with
  | some b => .ok b
  | none => .error (fault s)

/-- Whether a value holds nothing. -/
def isHollow : Toml → Bool
  | .array items => items.isEmpty
  | .table _ entries => entries.isEmpty
  | .tables items => items.isEmpty
  | _ => false

/-- Reads the choice of a name: a string, or a table with that name as its only key and nothing
under it. -/
def asChoice {β : Type} (name : β → String) (all : List β) : Toml → Except TextFault β
  | .string s => pick s
  | .table _ [(key, v)] => do
    let b ← pick key
    if v.isHollow then .ok b else .error .wrongType
  | _ => .error .wrongType
where
  pick (s : String) : Except TextFault β :=
    match all.find? fun b => name b == s with
    | some b => .ok b
    | none => .error (.unknownName s (all.map name))

/-- Sets the fields that entries name, in the order of the entries. -/
def setNamed {α : Type} (fields : List (String × FieldReader α)) :
    List (String × Toml) → α → Except TextFault α
  | [], a => .ok a
  | (key, v) :: rest, a => do
    let a ← match fields.lookup key with
      | some read => read v a
      | none => .ok a
    setNamed fields rest a

/-- Sets the fields one after another, as far as there are values. -/
def setInOrder {α : Type} : List (String × FieldReader α) → List Toml → α → Except TextFault α
  | (_, read) :: fields, v :: rest, a => do
    let a ← read v a
    setInOrder fields rest a
  | _, _, a => .ok a

/-- Reads a record: a table, or an array of its first fields in order. A date or a time is taken for
a table without any field that is known. -/
def record {α : Type} (fields : List (String × FieldReader α)) : FieldReader α
  | .table _ entries, a => setNamed fields entries a
  | .array items, a => setInOrder fields items a
  | .tables items, a => setInOrder fields (items.reverse.map (.table .header)) a
  | .datetime, a => .ok a
  | _, _ => .error .wrongType

end Toml

open Toml

def LogConfig.fields : List (String × FieldReader LogConfig) := [
  ("level", field (asChoice LogLevel.name LogLevel.all) fun level c => { c with level }),
  ("format", field (asChoice LogFormat.name [.console, .json]) fun format c => { c with format })]

def SessionConfig.fields : List (String × FieldReader SessionConfig) := [
  ("name", field asString fun name c => { c with name }),
  ("app_name", field asString fun app c => { c with app }),
  ("host_name", field asString fun host c => { c with host := some host }),
  ("level", field (asNamed Level.ofName? .unknownLevel) fun level c => { c with level }),
  ("enabled", field asBool fun enabled c => { c with enabled }),
  ("resolution",
    field (asNamed Resolution.ofName? .unknownResolution) fun resolution c =>
      { c with resolution })]

def FormatConfig.fields : List (String × FieldReader FormatConfig) := [
  ("kind", field (asNamed FormatKind.ofName? .unknownFormat) fun kind c => { c with kind }),
  ("pattern", field asString fun pattern c => { c with pattern := some pattern }),
  ("indent", field asBool fun indent c => { c with indent })]

namespace Config

def fields : List (String × FieldReader Config) := [
  ("log", fun v c => (record LogConfig.fields v {}).map fun log => { c with log }),
  ("session",
    fun v c => (record SessionConfig.fields v {}).map fun session => { c with session }),
  ("format", fun v c => (record FormatConfig.fields v {}).map fun format => { c with format })]

/-- Reads a configuration without judging its values. -/
def ofToml (s : String) : Except TextFault Config :=
  match Toml.document? s with
  | some entries => setNamed fields entries {}
  | none => .error .notToml

def read (s : String) : Except ConfigFault Config :=
  match ofToml s with
  | .error fault => .error (.malformed fault)
  | .ok c => c.validate.map fun () => c

def ofFile (path : String) (contents : Except Output.DeviceFault Bytes) :
    Except ConfigFault Config :=
  match contents with
  | .error fault => .error (.unreadable path fault)
  | .ok bs =>
    match Text.ofBytes? bs with
    | some s => read s
    | none => .error (.unreadable path .notText)

end Config

end PacketLog
