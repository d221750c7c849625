import PacketLog.Pattern.Piece
import PacketLog.Text.Blank
import PacketLog.Text.Numeral

namespace PacketLog.Pattern

/-- The field of a log entry that a variable shows. -/
inductive Variable where
  | app | session | host | title | time | level | color | kind | viewer | thread | process
  deriving DecidableEq, Repr

namespace Variable

def all : List Variable :=
  [.app, .session, .host, .title, .time, .level, .color, .kind, .viewer, .thread, .process]

def name : Variable → String
  | .app => "appname"
  | .session => "session"
  | .host => "hostname"
  | .title => "title"
  | .time => "timestamp"
  | .level => "level"
  | .color => "color"
  | .kind => "logentrytype"
  | .viewer => "viewerid"
  | .thread => "thread"
  | .process => "process"

def ofName? (cs : List Char) : Option Variable :=
  all.find? fun v => v.name.toList == cs.map Char.toLower

end Variable

/-- A part of a pattern, ready to be shown. -/
inductive Token where
  | literal (text : List Char)
  | variable (v : Variable) (width : Int) (options : List Char)
  deriving DecidableEq, Repr

namespace Token

/-- What stands between the percent signs of a piece, if there is something between two. -/
def inner? : List Char → Option (List Char)
  | '%' :: cs =>
    if cs.getLast? = some '%' ∧ 1 < cs.length then some cs.dropLast else none
  | _ => none

/-- Splits off the options: the text from the first opening brace to a closing brace at the end. -/
def splitOptions (cs : List Char) : List Char × List Char :=
  if cs.getLast? = some '}' ∧ '{' ∈ cs then
    (cs.takeWhile (· != '{'), (cs.dropWhile (· != '{')).tail.dropLast)
  else (cs, [])

/-- The width that a text stands for; a text that is no number of 32 bits stands for none. -/
def widthOf (cs : List Char) : Int :=
  (Text.Numeral.intWithin? 0x80000000 (Text.trimChars cs)).getD 0

def splitWidth (cs : List Char) : List Char × Int :=
  if ',' ∈ cs then
    (cs.takeWhile (· != ','), widthOf (cs.dropWhile (· != ',')).tail)
  else (cs, 0)

def ofPiece (piece : List Char) : Token :=
  match inner? piece with
  | none => .literal piece
  | some body =>
    let (spec, options) := splitOptions body
    let (name, width) := splitWidth spec
    match Variable.ofName? name with
    | some v => .variable v width options
    | none => .literal piece

def ofPattern (pattern : List Char) : List Token := (pieces pattern).map ofPiece

/-- The width to which a token is filled up. -/
def width : Token → Int
  | .literal _ => 0
  | .variable _ width _ => width

/-- Whether indentation goes in front of a token. -/
def isIndented : Token → Bool
  | .variable .title _ _ => true
  | _ => false

end Token

end PacketLog.Pattern
