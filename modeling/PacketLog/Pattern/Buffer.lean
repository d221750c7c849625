import PacketLog.Pattern.Renderer

namespace PacketLog.Pattern

/-- Adds a value to a text and fills it up with spaces, on the left for a positive width and on the
right for any other. -/
def pushPadded (out value : String) (width : Int32) : String :=
  let missing := width.abs.toUInt32.toNat - value.length
  if 0 < width then out.pushn ' ' missing ++ value else (out ++ value).pushn ' ' missing

namespace Renderer

/-- Adds what a token shows to a text, a title behind the indentation. -/
def push (r : Renderer) (e : Entry) (out : String) (t : Token) : String :=
  let out := if r.indent ∧ t.isIndented then out.pushn ' ' (indentWidth * r.depth) else out
  pushPadded out (String.ofList (t.value e)) (Int32.ofInt t.width)

/-- Writes the line of an entry and moves on. -/
def write (r : Renderer) (e : Entry) : String × Renderer :=
  if r.tokens.isEmpty then ("", r)
  else
    let left := if e.kind = .leaveMethod then { r with depth := r.depth - 1 } else r
    let line := left.tokens.foldl (left.push e) ""
    (line, if e.kind = .enterMethod then { left with depth := left.depth + 1 } else left)

end Renderer

end PacketLog.Pattern
