import PacketLog.Packet.Fault

namespace PacketLog

/-- An enumeration whose cases are known by number. -/
class Coded (α : Type) where
  typeName : String
  /-- Every case, in order of its code. -/
  all : List α
  code : α → Int32

def code {α : Type} [Coded α] (a : α) : Int32 := Coded.code a

def ofCode? {α : Type} [Coded α] (n : Int32) : Option α :=
  (Coded.all : List α).find? fun a => Coded.code a == n

/-- The case with the given number, or the fault that names the enumeration and the number. -/
def ofCode (α : Type) [Coded α] (n : Int32) : Except PacketFault α :=
  match (ofCode? n : Option α) with
  | some a => .ok a
  | none => .error (.unknownCode (Coded.typeName α) n)

/-- What a log entry stands for. -/
inductive EntryKind where
  | separator | enterMethod | leaveMethod | resetCallstack | message | warning | error
  | internalError | comment | variableValue | checkpoint | debug | verbose | fatal | conditional
  | assert | text | binary | graphic | source | object | webContent | system | memoryStatistic
  | databaseResult | databaseStructure
  deriving DecidableEq, Repr, Inhabited

namespace EntryKind

def name : EntryKind → String
  | .separator => "Separator"
  | .enterMethod => "EnterMethod"
  | .leaveMethod => "LeaveMethod"
  | .resetCallstack => "ResetCallstack"
  | .message => "Message"
  | .warning => "Warning"
  | .error => "Error"
  | .internalError => "InternalError"
  | .comment => "Comment"
  | .variableValue => "VariableValue"
  | .checkpoint => "Checkpoint"
  | .debug => "Debug"
  | .verbose => "Verbose"
  | .fatal => "Fatal"
  | .conditional => "Conditional"
  | .assert => "Assert"
  | .text => "Text"
  | .binary => "Binary"
  | .graphic => "Graphic"
  | .source => "Source"
  | .object => "Object"
  | .webContent => "WebContent"
  | .system => "System"
  | .memoryStatistic => "MemoryStatistic"
  | .databaseResult => "DatabaseResult"
  | .databaseStructure => "DatabaseStructure"

instance : Coded EntryKind where
  typeName := "LogEntryType"
  all := [
    .separator, .enterMethod, .leaveMethod, .resetCallstack, .message, .warning, .error,
    .internalError, .comment, .variableValue, .checkpoint, .debug, .verbose, .fatal, .conditional,
    .assert, .text, .binary, .graphic, .source, .object, .webContent, .system, .memoryStatistic,
    .databaseResult, .databaseStructure]
  code
    | .separator => 0
    | .enterMethod => 1
    | .leaveMethod => 2
    | .resetCallstack => 3
    | .message => 100
    | .warning => 101
    | .error => 102
    | .internalError => 103
    | .comment => 104
    | .variableValue => 105
    | .checkpoint => 106
    | .debug => 107
    | .verbose => 108
    | .fatal => 109
    | .conditional => 110
    | .assert => 111
    | .text => 200
    | .binary => 201
    | .graphic => 202
    | .source => 203
    | .object => 204
    | .webContent => 205
    | .system => 206
    | .memoryStatistic => 207
    | .databaseResult => 208
    | .databaseStructure => 209

end EntryKind

inductive Viewer where
  | none | title | data | list | valueList | inspector | table | web | binary | htmlSource
  | javaScriptSource | vbScriptSource | perlSource | sqlSource | iniSource | pythonSource
  | xmlSource | bitmap | jpeg | icon | metafile
  deriving DecidableEq, Repr, Inhabited

namespace Viewer

def name : Viewer → String
  | .none => "None"
  | .title => "Title"
  | .data => "Data"
  | .list => "List"
  | .valueList => "ValueList"
  | .inspector => "Inspector"
  | .table => "Table"
  | .web => "Web"
  | .binary => "Binary"
  | .htmlSource => "HtmlSource"
  | .javaScriptSource => "JavaScriptSource"
  | .vbScriptSource => "VbScriptSource"
  | .perlSource => "PerlSource"
  | .sqlSource => "SqlSource"
  | .iniSource => "IniSource"
  | .pythonSource => "PythonSource"
  | .xmlSource => "XmlSource"
  | .bitmap => "Bitmap"
  | .jpeg => "Jpeg"
  | .icon => "Icon"
  | .metafile => "Metafile"

instance : Coded Viewer where
  typeName := "ViewerId"
  all := [
    .none, .title, .data, .list, .valueList, .inspector, .table, .web, .binary, .htmlSource,
    .javaScriptSource, .vbScriptSource, .perlSource, .sqlSource, .iniSource, .pythonSource,
    .xmlSource, .bitmap, .jpeg, .icon, .metafile]
  code
    | .none => -1
    | .title => 0
    | .data => 1
    | .list => 2
    | .valueList => 3
    | .inspector => 4
    | .table => 5
    | .web => 100
    | .binary => 200
    | .htmlSource => 300
    | .javaScriptSource => 301
    | .vbScriptSource => 302
    | .perlSource => 303
    | .sqlSource => 304
    | .iniSource => 305
    | .pythonSource => 306
    | .xmlSource => 307
    | .bitmap => 400
    | .jpeg => 401
    | .icon => 402
    | .metafile => 403

end Viewer

/-- A step in the life of a method, a thread or a process. -/
inductive FlowStep where
  | enterMethod | leaveMethod | enterThread | leaveThread | enterProcess | leaveProcess
  deriving DecidableEq, Repr, Inhabited

namespace FlowStep

def name : FlowStep → String
  | .enterMethod => "EnterMethod"
  | .leaveMethod => "LeaveMethod"
  | .enterThread => "EnterThread"
  | .leaveThread => "LeaveThread"
  | .enterProcess => "EnterProcess"
  | .leaveProcess => "LeaveProcess"

def isEnter : FlowStep → Bool
  | .enterMethod | .enterThread | .enterProcess => true
  | .leaveMethod | .leaveThread | .leaveProcess => false

instance : Coded FlowStep where
  typeName := "ProcessFlowType"
  all := [
    .enterMethod, .leaveMethod, .enterThread, .leaveThread, .enterProcess, .leaveProcess]
  code
    | .enterMethod => 0
    | .leaveMethod => 1
    | .enterThread => 2
    | .leaveThread => 3
    | .enterProcess => 4
    | .leaveProcess => 5

end FlowStep

inductive WatchKind where
  | char | string | integer | float | boolean | address | timestamp | object
  deriving DecidableEq, Repr, Inhabited

namespace WatchKind

instance : Coded WatchKind where
  typeName := "WatchType"
  all := [
    .char, .string, .integer, .float, .boolean, .address, .timestamp, .object]
  code
    | .char => 0
    | .string => 1
    | .integer => 2
    | .float => 3
    | .boolean => 4
    | .address => 5
    | .timestamp => 6
    | .object => 7

end WatchKind

inductive CommandAction where
  | clearLog | clearWatches | clearAutoViews | clearAll | clearProcessFlow
  deriving DecidableEq, Repr, Inhabited

namespace CommandAction

instance : Coded CommandAction where
  typeName := "ControlCommandType"
  all := [
    .clearLog, .clearWatches, .clearAutoViews, .clearAll, .clearProcessFlow]
  code
    | .clearLog => 0
    | .clearWatches => 1
    | .clearAutoViews => 2
    | .clearAll => 3
    | .clearProcessFlow => 4

end CommandAction

/-- The kind of a packet, as the wire numbers it. -/
inductive PacketKind where
  | controlCommand | logEntry | watch | processFlow | logHeader
  deriving DecidableEq, Repr, Inhabited

namespace PacketKind

def name : PacketKind → String
  | .controlCommand => "control_command"
  | .logEntry => "log_entry"
  | .watch => "watch"
  | .processFlow => "process_flow"
  | .logHeader => "log_header"

instance : Coded PacketKind where
  typeName := "PacketKind"
  all := [
    .controlCommand, .logEntry, .watch, .processFlow, .logHeader]
  code
    | .controlCommand => 1
    | .logEntry => 4
    | .watch => 5
    | .processFlow => 6
    | .logHeader => 7

end PacketKind

end PacketLog
