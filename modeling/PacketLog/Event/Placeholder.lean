import PacketLog.Event.Basic
import PacketLog.Text.Numeral

namespace PacketLog.Placeholder

/-- A character that a numeral can have in it. -/
def isOfNumeral (c : Char) : Bool := c == '+' || c.isDigit

/-- Reads a placeholder behind its opening brace: the parameter, and the text behind the closing
brace. -/
def read? (params : List String) (cs : List Char) : Option (List Char × List Char) :=
  match cs.dropWhile isOfNumeral with
  | '}' :: rest => do
    let index ← Text.Numeral.natBelow? 0x10000000000000000 (cs.takeWhile isOfNumeral)
    let param ← params[index]?
    some (param.toList, rest)
  | _ => none

theorem length_lt_of_read? {params : List String} {cs value rest : List Char}
    (h : read? params cs = some (value, rest)) : rest.length < cs.length := by
  rw [read?] at h
  split at h
  · next rest' hd =>
    simp only [Option.bind_eq_bind, Option.bind_eq_some_iff, Option.some.injEq, Prod.mk.injEq] at h
    obtain ⟨_, _, _, _, _, rfl⟩ := h
    have hl := (List.dropWhile_suffix isOfNumeral (l := cs)).length_le
    rw [hd, List.length_cons] at hl
    omega
  · simp at h

/-- Puts parameters in place of their placeholders, from left to right. -/
def substitute (params : List String) : List Char → List Char
  | [] => []
  | c :: cs =>
    if c = '{' then
      match h : read? params cs with
      | some (value, rest) =>
        have := length_lt_of_read? h
        value ++ substitute params rest
      | none => c :: substitute params cs
    else c :: substitute params cs
termination_by cs => cs.length

end Placeholder

/-- The message with its placeholders filled in. -/
def Event.formatted (e : Event) : List Char :=
  if e.params.isEmpty then e.message.toList else Placeholder.substitute e.params e.message.toList

end PacketLog
