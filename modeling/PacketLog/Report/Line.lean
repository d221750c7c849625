import PacketLog.Calendar.Render
import PacketLog.Json.Printer
import PacketLog.Report.Diagnostic

namespace PacketLog.Diagnostic

/-- The text of a field behind the message; further messages go without their name. -/
def fieldText (field : String × DiagnosticValue) : String :=
  if field.1 = "message" then " " ++ field.2.toText
  else " " ++ field.1 ++ "=" ++ field.2.toText

def saying (d : Diagnostic) : String := d.target ++ ":" ++ String.join (d.fields.map fieldText)

/-- The time of a diagnostic, in microseconds since the Unix epoch, as text. -/
def timeText (micros : Int64) : String :=
  String.ofList (Calendar.writeTime micros "%Y-%m-%dT%H:%M:%S%.6fZ".toList)

/-- The line for a console with its time; the levels end in one column. -/
def consoleLineAt (micros : Int64) (d : Diagnostic) : String :=
  let level := String.ofList (Text.Numeral.padLeft ' ' 5 d.level.name.toUpper.toList)
  timeText micros ++ " " ++ level ++ " " ++ d.saying

def valueJson : DiagnosticValue → Json
  | .text s => .ofString s
  | .number n => .ofInt n

/-- The fields as members of an object. Of two fields with one name the later one counts. -/
def fieldMembers : List (String × DiagnosticValue) → List (String × Json)
  | [] => []
  | (name, v) :: rest =>
    if rest.any fun f => f.1 == name then fieldMembers rest
    else (name, valueJson v) :: fieldMembers rest

def members (d : Diagnostic) : List (String × Json) := [
  ("level", .ofString d.level.name.toUpper),
  ("fields", .ofMembers (fieldMembers d.fields)),
  ("target", .ofString d.target)]

def toJsonAt (micros : Int64) (d : Diagnostic) : Json :=
  .ofMembers (("timestamp", .ofString (timeText micros)) :: d.members)

end PacketLog.Diagnostic
