import PacketLog.Calendar.Render
import PacketLog.Packet.Basic
import PacketLog.Pattern.Token

namespace PacketLog.Pattern

/-- Spaces in front of a title per level of nesting. -/
def indentWidth : Nat := 3

/-- Two hexadecimal digits of a channel, the low one first. -/
def channelDigits (n : UInt8) : List Char :=
  [Nat.digitChar (n.toNat % 16), Nat.digitChar (n.toNat / 16)].map Char.toUpper

def colorText : Option Color → List Char
  | some c => ['0', 'x'] ++ channelDigits c.r ++ channelDigits c.g ++ channelDigits c.b
  | none => "<default>".toList

def optionalText (s : Option String) : List Char := (s.getD "").toList

def Variable.value (v : Variable) (options : List Char) (e : Entry) : List Char :=
  match v with
  | .app => optionalText e.app
  | .session => optionalText e.session
  | .host => optionalText e.host
  | .title => optionalText e.title
  | .time => Calendar.writeTime e.stamp.time options
  | .level => e.stamp.level.name.toList
  | .color => colorText e.color
  | .kind => e.kind.name.toList
  | .viewer => e.viewer.name.toList
  | .thread => Text.Numeral.signed e.stamp.thread.toInt
  | .process => Text.Numeral.signed e.stamp.process.toInt

def Token.value (t : Token) (e : Entry) : List Char :=
  match t with
  | .literal text => text
  | .variable v _ options => v.value options e

/-- Fills a value up with spaces to as many characters as the width says, on the left for a
positive width and on the right for any other. -/
def padded (width : Int) (value : List Char) : List Char :=
  let spaces := List.replicate (width.natAbs - value.length) ' '
  if 0 < width then spaces ++ value else value ++ spaces

/-- The field of a token in a line, with the given number of spaces in front of titles. -/
def Token.field (t : Token) (indentation : Nat) (e : Entry) : List Char :=
  (if t.isIndented then List.replicate indentation ' ' else []) ++ padded t.width (t.value e)

structure Renderer where
  /-- The pattern, without blanks at its ends. -/
  pattern : String
  indent : Bool
  depth : Nat
  deriving DecidableEq, Repr

namespace Renderer

/-- A renderer for a pattern, at depth zero and without indentation. -/
def ofPattern (pattern : String) : Renderer := ⟨Text.trim pattern, false, 0⟩

def setPattern (r : Renderer) (pattern : String) : Renderer :=
  { r with pattern := Text.trim pattern }

def setIndent (r : Renderer) (indent : Bool) : Renderer := { r with indent }

def tokens (r : Renderer) : List Token := Token.ofPattern r.pattern.toList

/-- The depth at which an entry is shown: a leave counts at once. -/
def shownDepth (kind : EntryKind) (depth : Nat) : Nat :=
  if kind = .leaveMethod then depth - 1 else depth

/-- The depth after an entry: an enter counts from the next entry on. -/
def nextDepth (kind : EntryKind) (depth : Nat) : Nat :=
  if kind = .enterMethod then depth + 1 else shownDepth kind depth

def line (r : Renderer) (e : Entry) : List Char :=
  let indentation := if r.indent then indentWidth * shownDepth e.kind r.depth else 0
  r.tokens.flatMap fun t => t.field indentation e

/-- Renders an entry and moves on; an empty pattern renders nothing and keeps the depth. -/
def render (r : Renderer) (e : Entry) : List Char × Renderer :=
  if r.tokens.isEmpty then ([], r)
  else (r.line e, { r with depth := nextDepth e.kind r.depth })

end Renderer

end PacketLog.Pattern
