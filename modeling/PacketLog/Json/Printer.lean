import PacketLog.Json.Value

namespace PacketLog.Json

def escaped (c : Char) : List Char :=
  if c = '"' then ['\\', '"']
  else if c = '\\' then ['\\', '\\']
  else if c = '\n' then ['\\', 'n']
  else if c = '\r' then ['\\', 'r']
  else if c = '\t' then ['\\', 't']
  else if c = '\x08' then ['\\', 'b']
  else if c = '\x0c' then ['\\', 'f']
  else if c.toNat < 0x20 then
    ['\\', 'u', '0', '0', Nat.digitChar (c.toNat / 16), Nat.digitChar (c.toNat % 16)]
  else [c]

def printString (s : String) : List Char := '"' :: s.toList.flatMap escaped ++ ['"']

mutual

/-- The text of a value; a string that is no text is written as null. -/
def printChars : Json → List Char
  | .null => "null".toList
  | .bool true => "true".toList
  | .bool false => "false".toList
  | .number text => text
  | .string (some s) => printString s
  | .string none => "null".toList
  | .array items => '[' :: printItems items ++ [']']
  | .object members => '{' :: printMembers members ++ ['}']

def printItems : List Json → List Char
  | [] => []
  | [j] => printChars j
  | j :: k :: rest => printChars j ++ ',' :: printItems (k :: rest)

def printMembers : List (Option String × Json) → List Char
  | [] => []
  | [(name, j)] => printString (name.getD "") ++ ':' :: printChars j
  | (name, j) :: m :: rest =>
    printString (name.getD "") ++ ':' :: printChars j ++ ',' :: printMembers (m :: rest)

end

def print (j : Json) : String := String.ofList (printChars j)

end PacketLog.Json
