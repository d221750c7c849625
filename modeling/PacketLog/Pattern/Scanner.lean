import PacketLog.Pattern.Token
import PacketLog.Text.Bytes

namespace PacketLog

namespace Text

/-- The part of a text from one offset in its bytes to another, if both are where a character begins
or the text ends, and are in order. -/
def slice? (s : String) (start stop : Nat) : Option String :=
  if h : (⟨start⟩ : String.Pos.Raw).IsValid s ∧ (⟨stop⟩ : String.Pos.Raw).IsValid s ∧
      start ≤ stop then
    some (String.extract (s.pos ⟨start⟩ h.1) (s.pos ⟨stop⟩ h.2.1))
  else none

def find? (c : Char) (s : String) : Option Nat :=
  if c ∈ s.toList then some (String.ofList (s.toList.takeWhile (· != c))).utf8ByteSize else none

/-- The offset so many bytes in front of another, if there is one. -/
def before? (offset bytes : Nat) : Option Nat :=
  if bytes ≤ offset then some (offset - bytes) else none

end Text

namespace Pattern

open Text (slice? find? before?)

/-- Where a piece ends that has been scanned up to an offset. -/
def pieceEnd (bs : Bytes) (isVariable inBraces : Bool) (pos : Nat) : Nat :=
  if h : pos < bs.length then
    if isVariable ∧ bs[pos] = '{'.toUInt8 then pieceEnd bs isVariable true (pos + 1)
    else if isVariable ∧ bs[pos] = '}'.toUInt8 then pieceEnd bs isVariable false (pos + 1)
    else if bs[pos] = '%'.toUInt8 ∧ inBraces = false then
      if isVariable then pos + 1 else pos
    else pieceEnd bs isVariable inBraces (pos + 1)
  else pos
termination_by bs.length - pos

theorem le_pieceEnd (bs : Bytes) (isVariable inBraces : Bool) (pos : Nat) :
    pos ≤ pieceEnd bs isVariable inBraces pos := by
  fun_induction pieceEnd bs isVariable inBraces pos with
  | case1 => omega
  | case2 => omega
  | case3 => omega
  | case4 => omega
  | case5 => omega
  | case6 => omega

def pieceEndAt (bs : Bytes) (start : Nat) (h : start < bs.length) : Nat :=
  if bs[start] = '%'.toUInt8 then pieceEnd bs true false (start + 1)
  else pieceEnd bs false false start

theorem lt_pieceEndAt (bs : Bytes) (start : Nat) (h : start < bs.length) :
    start < pieceEndAt bs start h := by
  rw [pieceEndAt]
  split
  · exact le_pieceEnd bs true false (start + 1)
  · next hstart =>
    have hle := le_pieceEnd bs false false (start + 1)
    rw [pieceEnd, dif_pos h, if_neg (by simp), if_neg (by simp), if_neg (by simp [hstart])]
    exact hle

/-- Cuts off the options behind the first opening brace, if a closing brace stands in front of the
last percent sign. -/
def cutOptions? (name : String) : Option (String × List Char) := do
  let last ← before? name.utf8ByteSize 2
  if (← (Text.bytes name)[last]?) = '}'.toUInt8 then
    match find? '{' name with
    | some first =>
      if first < last then
        let options ← slice? name (first + 1) last
        let head ← slice? name 0 first
        return (head ++ "%", options.toList)
      else return (name, [])
    | none => return (name, [])
  else return (name, [])

def cutWidth? (name : String) : Option (String × Int) :=
  match find? ',' name with
  | some comma => do
    let last ← before? name.utf8ByteSize 1
    let width ← slice? name (comma + 1) last
    let head ← slice? name 0 comma
    return (head ++ "%", Token.widthOf width.toList)
  | none => return (name, 0)

/-- The variable of that name between percent signs, in any ASCII letter case. -/
def Variable.ofMarked? (name : String) : Option Variable :=
  all.find? fun v => "%" ++ v.name ++ "%" == name.toLower

def scanPiece? (raw : String) : Option Token := do
  if raw.utf8ByteSize ≤ 2 ∨ raw.toList.head? ≠ some '%' ∨ raw.toList.getLast? ≠ some '%' then
    return .literal raw.toList
  let (name, options) ← cutOptions? raw
  let (name, width) ← cutWidth? name
  match Variable.ofMarked? name with
  | some v => return .variable v width options
  | none => return .literal raw.toList

/-- The pieces of a pattern from an offset on, each with its token. -/
def scanFrom? (pattern : String) (start : Nat) : Option (List (String × Token)) :=
  if h : start < (Text.bytes pattern).length then do
    let stop := pieceEndAt (Text.bytes pattern) start h
    have := lt_pieceEndAt (Text.bytes pattern) start h
    let raw ← slice? pattern start stop
    let token ← scanPiece? raw
    let rest ← scanFrom? pattern stop
    return (raw, token) :: rest
  else return []
termination_by (Text.bytes pattern).length - start

/-- Scans a pattern into its pieces, each with its token. -/
def scan? (pattern : String) : Option (List (String × Token)) := scanFrom? pattern 0

end Pattern

end PacketLog
