import PacketLog.Event.Placeholder
import PacketLog.Proofs.Text.First
import PacketLog.Proofs.Text.Numeral

namespace PacketLog

namespace Placeholder

/-- Whether a text is an index as it is written: a number of 64 bits in decimal digits, with a plus
sign in front or none. -/
def Spells (text : List Char) (index : Nat) : Prop :=
  ∃ digits, (text = digits ∨ text = '+' :: digits) ∧ digits ≠ [] ∧
    (∀ c ∈ digits, c.isDigit = true) ∧ Nat.ofDigitChars 10 digits 0 = index ∧
    index < 0x10000000000000000

theorem spells_iff {text : List Char} {index : Nat} :
    Spells text index ↔ Text.Numeral.natBelow? 0x10000000000000000 text = some index := by
  simp only [Spells, Text.Numeral.natBelow?_eq_some_iff, Text.Numeral.digits?_eq_some_iff,
    and_assoc]

theorem Spells.forall_isOfNumeral {text : List Char} {index : Nat} (h : Spells text index) :
    ∀ c ∈ text, isOfNumeral c = true := by
  have hdigit {c : Char} (hc : c.isDigit = true) : isOfNumeral c = true := by
    rw [isOfNumeral, hc, Bool.or_true]
  obtain ⟨digits, rfl | rfl, -, hd, -, -⟩ := h
  · exact fun c hc => hdigit (hd c hc)
  · exact List.forall_mem_cons.2 ⟨rfl, fun c hc => hdigit (hd c hc)⟩

/-- Reads a placeholder behind its opening brace. Its index is all that stands there up to the first
character that does not stay, and that has to be the closing brace. -/
def readWhile? (stays : Char → Bool) (params : List String) (cs : List Char) :
    Option (List Char × List Char) :=
  match cs.dropWhile stays with
  | '}' :: rest => do
    let index ← Text.Numeral.natBelow? 0x10000000000000000 (cs.takeWhile stays)
    let param ← params[index]?
    some (param.toList, rest)
  | _ => none

variable {params : List String} {cs value rest : List Char}

/-- As long as an index may stay and the closing brace may not, it does not matter what else may. -/
theorem readWhile?_eq_some_iff {stays : Char → Bool} (hbrace : stays '}' = false)
    (hnumeral : ∀ c, isOfNumeral c = true → stays c = true) :
    readWhile? stays params cs = some (value, rest) ↔
      ∃ text index param, Spells text index ∧ params[index]? = some param ∧
        cs = text ++ '}' :: rest ∧ value = param.toList := by
  constructor
  · intro h
    rw [readWhile?] at h
    split at h
    · next rest' hd =>
      simp only [Option.bind_eq_bind, Option.bind_eq_some_iff, Option.some.injEq,
        Prod.mk.injEq] at h
      obtain ⟨index, hindex, param, hparam, rfl, rfl⟩ := h
      refine ⟨_, index, param, spells_iff.2 hindex, hparam, ?_, rfl⟩
      rw [← hd, List.takeWhile_append_dropWhile]
    · cases h
  · rintro ⟨text, index, param, htext, hparam, rfl, rfl⟩
    have hstays : ∀ c ∈ text, stays c = true := fun c hc =>
      hnumeral c (htext.forall_isOfNumeral c hc)
    rw [readWhile?, List.takeWhile_append_of_pos hstays, List.dropWhile_append_of_pos hstays,
      List.takeWhile_cons_of_neg (by simp [hbrace]), List.dropWhile_cons_of_neg (by simp [hbrace]),
      List.append_nil]
    simp [spells_iff.1 htext, hparam]

theorem read?_eq_some_iff :
    read? params cs = some (value, rest) ↔
      ∃ text index param, Spells text index ∧ params[index]? = some param ∧
        cs = text ++ '}' :: rest ∧ value = param.toList :=
  readWhile?_eq_some_iff (by decide) fun _ h => h

theorem read?_of_spells {text : List Char} {index : Nat} (htext : Spells text index)
    (hi : index < params.length) (rest : List Char) :
    read? params (text ++ '}' :: rest) = some (params[index].toList, rest) :=
  read?_eq_some_iff.2 ⟨text, index, _, htext, List.getElem?_eq_getElem hi, rfl, rfl⟩

theorem readWhile?_ne_brace (params : List String) (cs : List Char) :
    readWhile? (· != '}') params cs = read? params cs := by
  apply Option.ext
  rintro ⟨value, rest⟩
  have hnumeral : ∀ c, isOfNumeral c = true → (c != '}') = true := by
    intro c hc
    rw [bne_iff_ne]
    rintro rfl
    exact absurd hc (by decide)
  rw [read?_eq_some_iff, readWhile?_eq_some_iff (by decide) hnumeral]

theorem substitute_cons_of_ne {c : Char} (hc : c ≠ '{') (params : List String) (cs : List Char) :
    substitute params (c :: cs) = c :: substitute params cs := by
  rw [substitute, if_neg hc]

theorem substitute_of_read? (h : read? params cs = some (value, rest)) :
    substitute params ('{' :: cs) = value ++ substitute params rest := by
  rw [substitute, if_pos rfl]
  split
  · next h' =>
    cases h.symm.trans h'
    rfl
  · next h' => cases h.symm.trans h'

theorem substitute_of_read?_eq_none (h : read? params cs = none) :
    substitute params ('{' :: cs) = '{' :: substitute params cs := by
  rw [substitute, if_pos rfl]
  split
  · next h' => cases h.symm.trans h'
  · rfl

theorem substitute_append (params : List String) {cs : List Char} (h : '{' ∉ cs)
    (rest : List Char) : substitute params (cs ++ rest) = cs ++ substitute params rest := by
  induction cs with
  | nil => rfl
  | cons c cs ih =>
    obtain ⟨hc, hcs⟩ := not_or.1 (mt List.mem_cons.2 h)
    rw [List.cons_append, substitute_cons_of_ne (Ne.symm hc), ih hcs, List.cons_append]

theorem substitute_of_not_mem (params : List String) {cs : List Char} (h : '{' ∉ cs) :
    substitute params cs = cs := by
  have hs := substitute_append params h []
  rwa [substitute, List.append_nil] at hs

theorem read?_append_brace (params : List String) (cs more : List Char) :
    read? params (cs ++ '{' :: more) =
      (read? params cs).map fun (value, rest) => (value, rest ++ '{' :: more) := by
  apply Option.ext
  rintro ⟨value, rest⟩
  rw [read?_eq_some_iff, Option.map_eq_some_iff]
  constructor
  · rintro ⟨text, index, param, htext, hparam, hcs, rfl⟩
    have hbrace : ∀ c, ('{' :: more).head? = some c → c ∉ text ++ ['}'] := by
      rintro c ⟨⟩ hmem
      rcases List.mem_append.1 hmem with hmem | hmem
      · exact absurd (htext.forall_isOfNumeral _ hmem) (by decide)
      · exact absurd hmem (by decide)
    have hprefix : text ++ ['}'] <+: cs ++ '{' :: more := ⟨rest, by simp [hcs]⟩
    obtain ⟨rest', rfl⟩ := (Text.prefix_append_iff hbrace).1 hprefix
    refine ⟨(param.toList, rest'), ?_, by simpa using hcs⟩
    exact read?_eq_some_iff.2 ⟨text, index, param, htext, hparam, by simp, rfl⟩
  · rintro ⟨⟨value', rest'⟩, hread, heq⟩
    obtain ⟨text, index, param, htext, hparam, rfl, rfl⟩ := read?_eq_some_iff.1 hread
    cases heq
    exact ⟨text, index, param, htext, hparam, by simp, rfl⟩

/-- An opening brace parts a text in two that are filled in each by itself. -/
theorem substitute_append_brace (params : List String) (cs more : List Char) :
    substitute params (cs ++ '{' :: more) =
      substitute params cs ++ substitute params ('{' :: more) := by
  fun_induction substitute params cs with
  | case1 => rfl
  | case2 cs value rest h _ ih =>
    have hread : read? params (cs ++ '{' :: more) = some (value, rest ++ '{' :: more) := by
      rw [read?_append_brace, h, Option.map_some]
    rw [List.cons_append, substitute_of_read? hread, ih, List.append_assoc]
  | case3 cs h ih =>
    have hread : read? params (cs ++ '{' :: more) = none := by
      rw [read?_append_brace, h, Option.map_none]
    rw [List.cons_append, substitute_of_read?_eq_none hread, ih, List.cons_append]
  | case4 c cs hc ih =>
    rw [List.cons_append, substitute_cons_of_ne hc, ih, List.cons_append]

theorem substitute_eq_self
    (h : ∀ before text after index, Spells text index →
      cs = before ++ '{' :: text ++ '}' :: after → params.length ≤ index) :
    substitute params cs = cs := by
  induction cs with
  | nil => rw [substitute]
  | cons c cs ih =>
    have hcs := ih fun before text after index htext hmessage =>
      h (c :: before) text after index htext (by rw [hmessage]; rfl)
    by_cases hc : c = '{'
    · subst hc
      have hread : read? params cs = none := by
        apply Option.eq_none_iff_forall_ne_some.2
        rintro ⟨value, rest⟩ hread
        obtain ⟨text, index, param, htext, hparam, rfl, -⟩ := read?_eq_some_iff.1 hread
        have hlt := (List.getElem?_eq_some_iff.1 hparam).1
        have hle := h [] text rest index htext rfl
        omega
      rw [substitute_of_read?_eq_none hread, hcs]
    · rw [substitute_cons_of_ne hc, hcs]

/-- Fills in placeholders behind what is done already, by searching for the next opening brace and
from there for the next closing brace. If that is not a placeholder, the search goes on right behind
the opening brace. -/
def search (params : List String) (done cs : List Char) : List Char :=
  match h : cs.dropWhile (· != '{') with
  | [] => done ++ cs
  | _ :: after =>
    have := congrArg List.length (Text.eq_of_dropWhile_ne_eq_cons h)
    match h' : readWhile? (· != '}') params after with
    | some (value, rest) =>
      have := length_lt_of_read? ((readWhile?_ne_brace params after).symm.trans h')
      search params (done ++ cs.takeWhile (· != '{') ++ value) rest
    | none => search params (done ++ cs.takeWhile (· != '{') ++ ['{']) after
termination_by cs.length
decreasing_by
  all_goals
    simp only [List.length_append, List.length_cons] at *
    omega

/-- The search, unless there is nothing to fill in or nothing to fill it in for. -/
def searchIfAny (params : List String) (cs : List Char) : List Char :=
  if params.isEmpty || !cs.contains '{' then cs else search params [] cs

theorem substitute_of_dropWhile {c : Char} {after : List Char}
    (h : cs.dropWhile (· != '{') = c :: after) (params : List String) :
    substitute params cs = cs.takeWhile (· != '{') ++ substitute params ('{' :: after) := by
  rw [← substitute_append params (Text.not_mem_takeWhile_ne '{' cs),
    ← Text.eq_of_dropWhile_ne_eq_cons h]

theorem search_eq (params : List String) (done cs : List Char) :
    search params done cs = done ++ substitute params cs := by
  fun_induction search params done cs with
  | case1 done cs h =>
    rw [substitute_of_not_mem params (Text.not_mem_of_dropWhile_ne_eq_nil h)]
  | case2 done cs c after h _ value rest hread _ ih =>
    rw [readWhile?_ne_brace] at hread
    rw [ih, substitute_of_dropWhile h, substitute_of_read? hread, List.append_assoc,
      List.append_assoc]
  | case3 done cs c after h _ hread ih =>
    rw [readWhile?_ne_brace] at hread
    rw [ih, substitute_of_dropWhile h, substitute_of_read?_eq_none hread, List.append_assoc,
      List.append_assoc, List.singleton_append]

theorem substitute_nil_params (cs : List Char) : substitute [] cs = cs :=
  substitute_eq_self fun _ _ _ _ _ _ => Nat.zero_le _

theorem searchIfAny_eq (params : List String) (cs : List Char) :
    searchIfAny params cs = substitute params cs := by
  rw [searchIfAny, search_eq, List.nil_append]
  split
  · next h =>
    rw [Bool.or_eq_true] at h
    rcases h with h | h
    · rw [List.isEmpty_iff.1 h, substitute_nil_params]
    · have hbrace : '{' ∉ cs := by simpa using h
      rw [substitute_of_not_mem params hbrace]
  · rfl

end Placeholder

namespace Event

open Placeholder (Spells search searchIfAny substitute)

theorem formatted_eq (e : Event) : e.formatted = substitute e.params e.message.toList := by
  rw [formatted]
  split
  · next h => rw [List.isEmpty_iff.1 h, Placeholder.substitute_nil_params]
  · rfl

/-- A placeholder of a parameter is replaced by the parameter, whatever stands in front of it and
behind it, and both of these read as they would without the other. A message without such placeholders
reads as it is written. A search for braces gives the same, also where it can be spared. -/
theorem formatted_fills_placeholders (e : Event) :
    (∀ (before text after : String) (index : Nat) (hi : index < e.params.length),
      Spells text.toList index →
      ({ e with message := before ++ "\x7b" ++ text ++ "\x7d" ++ after } : Event).formatted =
        ({ e with message := before } : Event).formatted ++ e.params[index].toList ++
          ({ e with message := after } : Event).formatted) ∧
    ((∀ (before text after : String) (index : Nat), Spells text.toList index →
        e.message = before ++ "\x7b" ++ text ++ "\x7d" ++ after → e.params.length ≤ index) →
      e.formatted = e.message.toList) ∧
    e.formatted = search e.params [] e.message.toList ∧
    e.formatted = searchIfAny e.params e.message.toList := by
  refine ⟨?_, ?_, ?_, ?_⟩
  · intro before text after index hi htext
    have hread := Placeholder.read?_of_spells htext hi after.toList
    have hmessage : (before ++ "\x7b" ++ text ++ "\x7d" ++ after).toList =
        before.toList ++ '{' :: (text.toList ++ '}' :: after.toList) := by
      simp
    rw [formatted_eq, formatted_eq, formatted_eq, hmessage, Placeholder.substitute_append_brace,
      Placeholder.substitute_of_read? hread, List.append_assoc]
  · intro h
    rw [formatted_eq]
    apply Placeholder.substitute_eq_self
    intro before text after index htext hmessage
    apply h (String.ofList before) (String.ofList text) (String.ofList after) index
    · rwa [String.toList_ofList]
    · apply String.toList_inj.1
      simpa using hmessage
  · rw [Placeholder.search_eq, formatted_eq, List.nil_append]
  · rw [Placeholder.searchIfAny_eq, formatted_eq]

/-- A placeholder between braces that are none, whose parameter looks like a placeholder, and a
placeholder of no parameter. -/
theorem formatted_fills_placeholders_nested :
    let e : Event := { message := "\x7b2\x7d", params := ["\x7b1\x7d", "x"] }
    (0 < e.params.length ∧ Spells "+00".toList 0 ∧
      ({ e with message := "\x7b0\x7b9\x7d\x7b" ++ "\x7b" ++ "+00" ++ "\x7d" ++ "\x7b1\x7d\x7d" } :
        Event).formatted = "\x7b0\x7b9\x7d\x7b\x7b1\x7dx\x7d".toList) ∧
    ((∀ (before text after : String) (index : Nat), Spells text.toList index →
        e.message = before ++ "\x7b" ++ text ++ "\x7d" ++ after → e.params.length ≤ index) ∧
      e.formatted = e.message.toList) := by
  intro e
  have hspells : Spells "+00".toList 0 := Placeholder.spells_iff.2 (by decide)
  have hout : ∀ (before text after : String) (index : Nat), Spells text.toList index →
      e.message = before ++ "\x7b" ++ text ++ "\x7d" ++ after → e.params.length ≤ index := by
    intro before text after index htext hmessage
    by_contra hlt
    have hread := Placeholder.read?_of_spells htext (not_le.1 hlt) after.toList
    obtain ⟨-, hcs⟩ : before = "" ∧ text.toList ++ '}' :: after.toList = ['2', '}'] := by
      simpa [e, List.cons_eq_append_iff] using congrArg String.toList hmessage
    have hnone : Placeholder.read? e.params ['2', '}'] = none := by decide
    rw [hcs, hnone] at hread
    cases hread
  obtain ⟨hfills, hstays, -⟩ := formatted_fills_placeholders e
  refine ⟨⟨by decide, hspells, ?_⟩, hout, hstays hout⟩
  rw [hfills "\x7b0\x7b9\x7d\x7b" "+00" "\x7b1\x7d\x7d" 0 (by decide) hspells]
  cbv

end Event

end PacketLog
