import PacketLog.Json.Value
import PacketLog.Text.Bytes

namespace PacketLog.Json

def ascii (c : Char) : UInt8 := c.toUInt8

def isSpace (b : UInt8) : Bool := b == 0x20 || b == 0x0A || b == 0x0D || b == 0x09

def isDigit (b : UInt8) : Bool := 0x30 ≤ b && b ≤ 0x39

def skipSpace (bs : Bytes) : Bytes := bs.dropWhile isSpace

def hexDigit? (b : UInt8) : Option Nat :=
  if isDigit b then some (b.toNat - 0x30)
  else if 0x41 ≤ b && b ≤ 0x46 then some (b.toNat - 0x37)
  else if 0x61 ≤ b && b ≤ 0x66 then some (b.toNat - 0x57)
  else none

/-- What a string is made of: bytes as they are, and code units given by number. -/
inductive StringPart where
  | byte (b : UInt8)
  | codeUnit (n : Nat)
  deriving DecidableEq, Repr

/-- The byte that a letter stands for behind a backslash. -/
def escapedByte? (b : UInt8) : Option UInt8 :=
  if b = ascii '"' ∨ b = ascii '\\' ∨ b = ascii '/' then some b
  else if b = ascii 'b' then some 0x08
  else if b = ascii 'f' then some 0x0C
  else if b = ascii 'n' then some 0x0A
  else if b = ascii 'r' then some 0x0D
  else if b = ascii 't' then some 0x09
  else none

def codeUnit? (h₁ h₂ h₃ h₄ : UInt8) : Option Nat := do
  some (((← hexDigit? h₁) * 16 + (← hexDigit? h₂)) * 256 +
    (← hexDigit? h₃) * 16 + (← hexDigit? h₄))

/-- Reads a string behind its opening quote, the parts before it in reverse; control characters have
to be escaped. -/
def stringParts? (parts : List StringPart) : Bytes → Option (List StringPart × Bytes)
  | [] => none
  | b :: rest =>
    if b = ascii '"' then some (parts.reverse, rest)
    else if b < 0x20 then none
    else if b ≠ ascii '\\' then stringParts? (.byte b :: parts) rest
    else
      match rest with
      | [] => none
      | e :: rest =>
        if e = ascii 'u' then
          match rest with
          | h₁ :: h₂ :: h₃ :: h₄ :: rest =>
            match codeUnit? h₁ h₂ h₃ h₄ with
            | some n => stringParts? (.codeUnit n :: parts) rest
            | none => none
          | _ => none
        else
          match escapedByte? e with
          | some b => stringParts? (.byte b :: parts) rest
          | none => none

/-- The bytes of the character with a number that is no surrogate. -/
def charBytes (n : Nat) : Bytes := Text.bytes (String.singleton (Char.ofNat n))

/-- The bytes that the parts of a string stand for, onto those before them in reverse. A surrogate
stands for something only in a pair. -/
def partBytes? (before : Bytes) : List StringPart → Option Bytes
  | [] => some before.reverse
  | .byte b :: rest => partBytes? (b :: before) rest
  | .codeUnit n :: rest =>
    if n < 0xD800 ∨ 0xDFFF < n then partBytes? ((charBytes n).reverse ++ before) rest
    else if n < 0xDC00 then
      match rest with
      | .codeUnit m :: rest =>
        if 0xDC00 ≤ m ∧ m ≤ 0xDFFF then
          let c := 0x10000 + (n - 0xD800) * 0x400 + (m - 0xDC00)
          partBytes? ((charBytes c).reverse ++ before) rest
        else none
      | _ => none
    else none

def string? (bs : Bytes) : Option (Option String × Bytes) := do
  let (parts, rest) ← stringParts? [] bs
  some ((partBytes? [] parts).bind Text.ofBytes?, rest)

def digits? (bs : Bytes) : Option (Bytes × Bytes) :=
  match bs.span isDigit with
  | ([], _) => none
  | (ds, rest) => some (ds, rest)

/-- Reads the digits of a number in front of its point; none follow a leading zero. -/
def whole? : Bytes → Option (Bytes × Bytes)
  | b :: rest => if b = ascii '0' then some ([b], rest) else digits? (b :: rest)
  | [] => none

def fraction? : Bytes → Option (Bytes × Bytes)
  | b :: rest =>
    if b = ascii '.' then do
      let (ds, rest) ← digits? rest
      some (b :: ds, rest)
    else some ([], b :: rest)
  | [] => some ([], [])

def exponent? : Bytes → Option (Bytes × Bytes)
  | b :: rest =>
    if b = ascii 'e' ∨ b = ascii 'E' then
      let (sign, rest) := match rest with
        | s :: tail => if s = ascii '+' ∨ s = ascii '-' then ([s], tail) else ([], rest)
        | [] => ([], [])
      do
        let (ds, rest) ← digits? rest
        some (b :: sign ++ ds, rest)
    else some ([], b :: rest)
  | [] => some ([], [])

def number? (bs : Bytes) : Option (List Char × Bytes) := do
  let (sign, bs) := match bs with
    | b :: rest => if b = ascii '-' then ([b], rest) else ([], bs)
    | [] => ([], [])
  let (whole, bs) ← whole? bs
  let (fraction, bs) ← fraction? bs
  let (exponent, bs) ← exponent? bs
  some ((sign ++ whole ++ fraction ++ exponent).map fun b => Char.ofNat b.toNat, bs)

def word? (word : String) (j : Json) (bs : Bytes) : Option (Json × Bytes) :=
  ((Text.bytes word).isPrefixOf? bs).map fun rest => (j, rest)

mutual

/-- Reads a value at the front of the bytes. Every value and every separator takes at least one
byte, so as many steps as there are bytes are enough. -/
def readValue? : Nat → Bytes → Option (Json × Bytes)
  | 0, _ => none
  | fuel + 1, bs =>
    match skipSpace bs with
    | [] => none
    | b :: rest =>
      if b = ascii '"' then (string? rest).map fun (s, rest) => (.string s, rest)
      else if b = ascii '{' then
        match skipSpace rest with
        | c :: rest' =>
          if c = ascii '}' then some (.object [], rest') else readMembers? fuel [] rest
        | [] => none
      else if b = ascii '[' then
        match skipSpace rest with
        | c :: rest' =>
          if c = ascii ']' then some (.array [], rest') else readItems? fuel [] rest
        | [] => none
      else if b = ascii 't' then word? "true" (.bool true) (b :: rest)
      else if b = ascii 'f' then word? "false" (.bool false) (b :: rest)
      else if b = ascii 'n' then word? "null" .null (b :: rest)
      else (number? (b :: rest)).map fun (s, rest) => (.number s, rest)

def readItems? : Nat → List Json → Bytes → Option (Json × Bytes)
  | 0, _, _ => none
  | fuel + 1, before, bs => do
    let (item, bs) ← readValue? fuel bs
    match skipSpace bs with
    | b :: rest =>
      if b = ascii ',' then readItems? fuel (item :: before) rest
      else if b = ascii ']' then some (.array (item :: before).reverse, rest)
      else none
    | [] => none

def readMembers? : Nat → List (Option String × Json) → Bytes → Option (Json × Bytes)
  | 0, _, _ => none
  | fuel + 1, before, bs => do
    match skipSpace bs with
    | q :: rest =>
      if q = ascii '"' then
        let (name, bs) ← string? rest
        match skipSpace bs with
        | c :: rest =>
          if c = ascii ':' then
            let (j, bs) ← readValue? fuel rest
            match skipSpace bs with
            | b :: rest =>
              if b = ascii ',' then readMembers? fuel ((name, j) :: before) rest
              else if b = ascii '}' then some (.object ((name, j) :: before).reverse, rest)
              else none
            | [] => none
          else none
        | [] => none
      else none
    | [] => none

end

/-- Reads bytes that hold one value and otherwise only blanks. -/
def read? (bs : Bytes) : Option Json := do
  let (j, rest) ← readValue? (bs.length + 1) bs
  if (skipSpace rest).isEmpty then some j else none

end PacketLog.Json
