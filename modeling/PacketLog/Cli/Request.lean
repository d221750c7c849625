namespace PacketLog.Cli

inductive Task where
  | replay (config output : Option String) (header : Bool)
  | check (config : String)
  deriving DecidableEq, Repr

/-- Where in a command line an argument stands. -/
inductive Scope where
  /-- In front of the name of a command. -/
  | top
  | replay
  | check
  deriving DecidableEq, Repr

inductive Topic where
  /-- The program, or one of its commands. -/
  | on (scope : Scope)
  /-- Help itself. -/
  | help
  deriving DecidableEq, Repr

inductive Request where
  | help (topic : Topic)
  | version
  | run (task : Task) (logLevel : Option String)
  deriving DecidableEq, Repr

/-- What can be switched or set. -/
inductive Setting where
  | config | output | header | logLevel | help | version
  deriving DecidableEq, Repr

namespace Setting

def ofScope : Scope → List Setting
  | .top => [.logLevel, .help, .version]
  | .replay => [.config, .logLevel, .output, .header, .help]
  | .check => [.config, .logLevel, .help]

def longName : Setting → String
  | .config => "config"
  | .output => "output"
  | .header => "header"
  | .logLevel => "log-level"
  | .help => "help"
  | .version => "version"

def letter? : Setting → Option Char
  | .config => some 'c'
  | .output => some 'o'
  | .header => none
  | .logLevel => some 'l'
  | .help => some 'h'
  | .version => some 'V'

def hasValue : Setting → Bool
  | .config | .output | .logLevel => true
  | .header | .help | .version => false

end Setting

/-- What was set in a scope. -/
structure Settings where
  config : Option String := none
  output : Option String := none
  header : Bool := false
  logLevel : Option String := none
  deriving DecidableEq, Repr

namespace Settings

/-- Sets a value, which can be done once; a path is not empty. -/
def set? (s : Settings) (setting : Setting) (value : String) : Option Settings :=
  match setting with
  | .config => if s.config.isSome ∨ value = "" then none else some { s with config := some value }
  | .output => if s.output.isSome ∨ value = "" then none else some { s with output := some value }
  | .logLevel => if s.logLevel.isSome then none else some { s with logLevel := some value }
  | .header | .help | .version => none

end Settings

structure Reading where
  settings : Settings := {}
  /-- The value that was read last, if it stood in an argument of its own. -/
  last : Option (Setting × String) := none
  deriving DecidableEq, Repr

def Reading.settle? (r : Reading) : Option Settings :=
  match r.last with
  | some (setting, value) => r.settings.set? setting value
  | none => some r.settings

/-- What one argument comes to. -/
inductive Step where
  | done (r : Request)
  /-- More was set. -/
  | on (s : Settings)
  /-- A setting waits for its value. -/
  | waiting (s : Settings) (setting : Setting)
  deriving DecidableEq, Repr

def switch? (scope : Scope) (s : Settings) : Setting → Option Step
  | .help => some (.done (.help (.on scope)))
  | .version => some (.done .version)
  | .header => if s.header then none else some (.on { s with header := true })
  | .config | .output | .logLevel => none

/-- Reads an argument behind two dashes: a name, with a value behind an equals sign. -/
def long? (scope : Scope) (s : Settings) (cs : List Char) : Option Step := do
  let name := String.ofList (cs.takeWhile (· != '='))
  let setting ← (Setting.ofScope scope).find? fun x => x.longName == name
  match cs.dropWhile (· != '=') with
  | [] => if setting.hasValue then some (.waiting s setting) else switch? scope s setting
  | _ :: value =>
    if setting.hasValue then (s.set? setting (String.ofList value)).map .on else none

/-- Reads the letters behind one dash. What stands behind a letter with a value is that value. -/
def letters? (scope : Scope) (s : Settings) : List Char → Option Step
  | [] => some (.on s)
  | c :: cs => do
    let setting ← (Setting.ofScope scope).find? fun x => x.letter? == some c
    if setting.hasValue then
      match cs with
      | [] => some (.waiting s setting)
      | '=' :: value => (s.set? setting (String.ofList value)).map .on
      | value => (s.set? setting (String.ofList value)).map .on
    else
      match ← switch? scope s setting with
      | .on s => letters? scope s cs
      | step => some step

def isSetting (arg : List Char) : Bool :=
  match arg with
  | '-' :: _ :: _ => true
  | _ => false

/-- What the settings of a command ask for. Its own log level wins over one in front of it. -/
def request? (top : Settings) (scope : Scope) (s : Settings) : Option Request :=
  let logLevel := s.logLevel <|> top.logLevel
  match scope with
  | .top => none
  | .replay => some (.run (.replay s.config s.output s.header) logLevel)
  | .check => s.config.map fun config => .run (.check config) logLevel

def command? : String → Option Scope
  | "replay" => some .replay
  | "check" => some .check
  | _ => none

def topic? : List String → Option Topic
  | [] => some (.on .top)
  | [name] => if name = "help" then some .help else (command? name).map .on
  | _ => none

/-- Reads arguments behind what was set in front of a command, if that can be set. -/
def read? (top : Option Settings) (scope : Scope) (r : Reading) : List String → Option Request
  | [] => do request? (← top) scope (← r.settle?)
  | arg :: rest =>
    let step? := match arg.toList with
      | '-' :: '-' :: cs =>
        if cs.isEmpty then none else some (r.settle?.bind fun s => long? scope s cs)
      | '-' :: c :: cs => some (r.settle?.bind fun s => letters? scope s (c :: cs))
      | _ => none
    match step? with
    | some none => none
    | some (some (.done request)) => some request
    | some (some (.on settings)) => read? top scope { settings } rest
    | some (some (.waiting settings setting)) =>
      match rest with
      | [] => none
      | value :: rest =>
        if isSetting value.toList then none
        else read? top scope { settings, last := some (setting, value) } rest
    | none =>
      if arg = "--" then
        if rest.isEmpty then do request? (← top) scope (← r.settle?) else none
      else if scope ≠ .top then none
      else if arg = "help" then (topic? rest).map .help
      else
        match command? arg with
        | some scope => read? r.settle? scope {} rest
        | none => none

def Request.ofArguments? (args : List String) : Option Request := read? (some {}) .top {} args

end PacketLog.Cli
