import PacketLog.Output.Format
import PacketLog.Report.Diagnostic
import PacketLog.Session.Packets

namespace PacketLog

inductive LogFormat where
  | console | json
  deriving DecidableEq, Repr, Inhabited

def LogFormat.name : LogFormat → String
  | .console => "console"
  | .json => "json"

/-- What the program says about itself. -/
structure LogConfig where
  level : LogLevel := .info
  format : LogFormat := .console
  deriving DecidableEq, Repr

structure SessionConfig where
  name : String := "Main"
  app : String := "sift"
  host : Option String := none
  level : Level := .debug
  /-- A session that is not enabled drops everything. -/
  enabled : Bool := true
  resolution : Resolution := .standard
  deriving DecidableEq, Repr

inductive FormatKind where
  | text | binary
  deriving DecidableEq, Repr, Inhabited

namespace FormatKind

def name : FormatKind → String
  | .text => "text"
  | .binary => "binary"

def ofName? (s : String) : Option FormatKind :=
  [FormatKind.text, .binary].find? fun k => k.name == s.toLower

end FormatKind

structure FormatConfig where
  kind : FormatKind := .text
  /-- The pattern of a text format; unset is the default pattern. -/
  pattern : Option String := none
  indent : Bool := false
  deriving DecidableEq, Repr

structure Config where
  log : LogConfig := {}
  session : SessionConfig := {}
  format : FormatConfig := {}
  deriving DecidableEq, Repr

/-- What is wrong with the text of a configuration. -/
inductive TextFault where
  /-- It is no TOML. -/
  | notToml
  /-- A value is of a type that its field cannot have. -/
  | wrongType
  | unknownName (name : String) (known : List String)
  | unknownLevel (name : String)
  | unknownResolution (name : String)
  | unknownFormat (name : String)
  deriving DecidableEq, Repr

/-- Why there is no configuration. -/
inductive ConfigFault where
  | unreadable (path : String) (fault : Output.DeviceFault)
  | malformed (fault : TextFault)
  | unknownFormat (name : String)
  | invalidValue (part field reason : String)
  deriving DecidableEq, Repr

def unknownFormatMessage (name : String) : String :=
  "unsupported formatter kind '" ++ name ++ "' (expected 'text' or 'binary')"

def choice (names : List String) : String :=
  let quoted := names.map fun n => "`" ++ n ++ "`"
  match quoted with
  | [a, b] => a ++ " or " ++ b
  | [a] => a
  | _ => "one of " ++ ", ".intercalate quoted

/-- The wording of a fault in the text, where it does not depend on the place of the fault. -/
def TextFault.message? : TextFault → Option String
  | .notToml | .wrongType => none
  | .unknownName name known => some ("unknown variant `" ++ name ++ "`, expected " ++ choice known)
  | .unknownLevel name => some ("unknown level '" ++ name ++ "'")
  | .unknownResolution name => some ("unknown clock resolution '" ++ name ++ "'")
  | .unknownFormat name => some (unknownFormatMessage name)

def ConfigFault.message? : ConfigFault → Option String
  | .unreadable path fault =>
    some ("failed to read config file '" ++ path ++ "': " ++ fault.text)
  | .malformed fault => fault.message?
  | .unknownFormat name => some (unknownFormatMessage name)
  | .invalidValue part field reason =>
    some ("[" ++ part ++ "] has invalid " ++ field ++ ": " ++ reason)

def FormatKind.ofName (s : String) : Except ConfigFault FormatKind :=
  match ofName? s with
  | some kind => .ok kind
  | none => .error (.unknownFormat s)

/-- The level that a text names, with blanks around it and in any ASCII letter case. -/
def LogLevel.ofName (s : String) : Except ConfigFault LogLevel :=
  match LogLevel.all.find? fun l => l.name == (Text.trim s).toLower with
  | some level => .ok level
  | none =>
    .error (.invalidValue "log" "level"
      ("'" ++ s ++ "' is not one of " ++ ", ".intercalate (LogLevel.all.map LogLevel.name)))

namespace LogConfig

/-- Puts the named level in place of the configured one, if there is a name. -/
def overrideLevel (c : LogConfig) : Option String → Except ConfigFault LogConfig
  | none => .ok c
  | some name => (LogLevel.ofName name).map fun level => { c with level }

end LogConfig

namespace FormatConfig

def format (c : FormatConfig) : Output.Format :=
  match c.kind with
  | .text => .text (.ofPattern (c.pattern.getD Output.defaultPattern) c.indent)
  | .binary => .binary {}

/-- A text format needs a pattern that is not blank. -/
def validate (c : FormatConfig) : Except ConfigFault Unit :=
  if c.kind = .text ∧ c.pattern.any Text.isAllBlank then
    .error (.invalidValue "format" "pattern" "must not be empty for the text formatter")
  else .ok ()

end FormatConfig

namespace SessionConfig

def session {κ : Type} (c : SessionConfig) (around : Ambient) (sink : κ) : PacketSession κ where
  name := c.name
  app := some c.app
  host := c.host
  threshold := c.level
  resolution := c.resolution
  active := c.enabled
  around
  sink

end SessionConfig

namespace Config

/-- A session needs a name; after that the format is looked at. -/
def validate (c : Config) : Except ConfigFault Unit :=
  if Text.isAllBlank c.session.name then
    .error (.invalidValue "session" "name" "must not be empty")
  else c.format.validate

end Config

end PacketLog
