import Mathlib.Data.List.Chain
import Mathlib.Data.List.Forall2
import PacketLog.Proofs.Pattern.Renderer
import PacketLog.Proofs.Pattern.Width
import PacketLog.Proofs.Text.First

namespace PacketLog.Pattern

theorem cutVariable_append_of_plain {cs : List Char} (h : Plain cs) (rest : List Char) :
    cutVariable false (cs ++ rest) =
      (cs ++ (cutVariable false rest).1, (cutVariable false rest).2) := by
  induction cs with
  | nil => rfl
  | cons c cs ih =>
    obtain ⟨⟨hp, ho, hc⟩, hcs⟩ := List.forall_mem_cons.1 h
    rw [List.cons_append, cutVariable, if_neg fun h => hp h.1, if_neg ho, if_neg hc]
    simp only [ih hcs, List.cons_append]

theorem cutVariable_append_of_inBraces {options : List Char} (h : '{' ∉ options ∧ '}' ∉ options)
    (rest : List Char) : cutVariable true (options ++ '}' :: rest) =
      (options ++ '}' :: (cutVariable false rest).1, (cutVariable false rest).2) := by
  induction options with
  | nil =>
    rw [List.nil_append, cutVariable, if_neg fun h => absurd h.2 (by decide), if_neg (by decide),
      if_pos rfl]
    simp only [List.nil_append]
  | cons c options ih =>
    obtain ⟨ho, hos⟩ := not_or.1 (mt List.mem_cons.2 h.1)
    obtain ⟨hc, hcs⟩ := not_or.1 (mt List.mem_cons.2 h.2)
    rw [List.cons_append, cutVariable, if_neg fun h => absurd h.2 (by decide), if_neg (Ne.symm ho),
      if_neg (Ne.symm hc)]
    simp only [ih ⟨hos, hcs⟩, List.cons_append]

namespace Segment

def widthText : Option WidthSpelling → List Char
  | some w => ',' :: w.print
  | none => []

def optionsText : Option (List Char) → List Char
  | some o => '{' :: o ++ ['}']
  | none => []

theorem print_variable (v : Variable) (spelling : List Char) (width : Option WidthSpelling)
    (options : Option (List Char)) :
    (Segment.variable v spelling width options).print =
      '%' :: ((spelling ++ widthText width ++ optionsText options) ++ ['%']) := by
  rcases width with - | w <;> rcases options with - | o <;> rfl

theorem token_variable (v : Variable) (spelling : List Char) (width : Option WidthSpelling)
    (options : Option (List Char)) :
    (Segment.variable v spelling width options).token =
      .variable v ((width.map WidthSpelling.value).getD 0) (options.getD []) := by
  cases width <;> rfl

variable {v : Variable} {spelling : List Char} {width : Option WidthSpelling}
  {options : Option (List Char)}

theorem not_mem_spelling (h : spelling.map Char.toLower = v.name.toList) :
    ∀ c ∈ ['%', '{', '}', ','], c ∉ spelling := by
  intro c hc hs
  have hname : ['%', '{', '}', ','].all (fun c => !v.name.toList.contains c.toLower) = true := by
    cases v <;> decide
  have hnot := List.all_eq_true.1 hname c hc
  rw [← h, Bool.not_eq_true', List.contains_eq_mem, decide_eq_false_iff_not] at hnot
  exact hnot (List.mem_map_of_mem hs)

theorem plain_spelling (h : spelling.map Char.toLower = v.name.toList) : Plain spelling := by
  intro c hc
  refine ⟨?_, ?_, ?_⟩ <;>
  · rintro rfl
    exact not_mem_spelling h _ (by decide) hc

theorem plain_spec (h : spelling.map Char.toLower = v.name.toList) :
    Plain (spelling ++ widthText width) := by
  refine plain_append (plain_spelling h) ?_
  cases width with
  | none => exact nofun
  | some w => exact plain_cons (by decide) w.plain_print

theorem pieces_variable_append (h : (Segment.variable v spelling width options).WellSpelled)
    (rest : List Char) :
    pieces ((Segment.variable v spelling width options).print ++ rest) =
      (Segment.variable v spelling width options).print :: pieces rest := by
  obtain ⟨hname, hoptions⟩ := h
  have hcut : cutVariable false ((spelling ++ widthText width ++ optionsText options) ++
      ['%'] ++ rest) = ((spelling ++ widthText width ++ optionsText options) ++ ['%'], rest) := by
    rw [List.append_assoc, List.append_assoc (spelling ++ widthText width),
      cutVariable_append_of_plain (plain_spec hname)]
    cases options with
    | none => simp [optionsText, cutVariable]
    | some o =>
      have hbraces := cutVariable_append_of_inBraces (hoptions o rfl) ('%' :: rest)
      simp [optionsText, cutVariable, hbraces]
  rw [print_variable, List.cons_append, pieces, cutPiece, if_pos rfl, hcut]

/-- A literal is one piece of a pattern if a variable or nothing comes behind it. -/
theorem pieces_literal_append {text : List Char} (h : (literal text).WellSpelled)
    {rest : List Char} (hrest : ∀ c, rest.head? = some c → c = '%') :
    pieces (text ++ rest) = text :: pieces rest := by
  obtain ⟨hne, hplain⟩ := h
  obtain ⟨c, cs, rfl⟩ := List.exists_cons_of_ne_nil hne
  obtain ⟨hc, hcs⟩ := not_or.1 (mt List.mem_cons.2 hplain)
  have hcut : cutLiteral (cs ++ rest) = (cs, rest) := by
    rw [cutLiteral]
    cases rest with
    | nil =>
      have hall := Text.bne_of_not_mem hcs
      rw [List.append_nil, List.takeWhile_eq_self_iff.2 hall, List.dropWhile_eq_nil_iff.2 hall]
    | cons d rest =>
      obtain rfl := hrest d rfl
      rw [Text.takeWhile_ne_append_cons hcs, Text.dropWhile_ne_append_cons hcs]
  rw [List.cons_append, pieces, cutPiece, if_neg (Ne.symm hc), hcut]

/-- Whether two segments can stand side by side: two literals would be one. -/
def Apart (s t : Segment) : Prop := s.isLiteral = false ∨ t.isLiteral = false

instance (s t : Segment) : Decidable (Apart s t) :=
  inferInstanceAs (Decidable (_ ∨ _))

theorem printAll_cons (s : Segment) (segments : List Segment) :
    printAll (s :: segments) = s.print ++ printAll segments := rfl

theorem pieces_printAll {segments : List Segment} (h : ∀ s ∈ segments, s.WellSpelled)
    (hapart : segments.IsChain Apart) : pieces (printAll segments) = segments.map print := by
  induction segments with
  | nil => rw [printAll, List.flatMap_nil, pieces, List.map_nil]
  | cons s segments ih =>
    obtain ⟨hs, hsegments⟩ := List.forall_mem_cons.1 h
    have hi := ih hsegments hapart.tail
    rw [printAll_cons, List.map_cons, ← hi]
    cases s with
    | «variable» v spelling width options => exact pieces_variable_append hs _
    | literal text =>
      refine pieces_literal_append hs ?_
      -- What comes behind a literal is a variable, so it begins with a percent sign.
      intro c hc
      cases segments with
      | nil => cases hc
      | cons t segments =>
        cases t with
        | literal text' =>
          exact absurd (List.isChain_cons_cons.1 hapart).1 (by simp [Apart, isLiteral])
        | «variable» v spelling width options =>
          rw [printAll_cons, print_variable] at hc
          exact (Option.some.inj hc).symm

theorem inner?_of_ne_nil {body : List Char} (h : body ≠ []) :
    Token.inner? ('%' :: (body ++ ['%'])) = some body := by
  have hlength := List.length_pos_iff.2 h
  rw [Token.inner?, if_pos, List.dropLast_concat]
  refine ⟨List.getLast?_concat, ?_⟩
  rw [List.length_append, List.length_singleton]
  omega

theorem getLast?_append_cons_concat (name options : List Char) (o c : Char) :
    (name ++ o :: (options ++ [c])).getLast? = some c := by
  rw [← List.cons_append, ← List.append_assoc, List.getLast?_concat]

theorem splitOptions_of_braces {name : List Char} (h : '{' ∉ name) (options : List Char) :
    Token.splitOptions (name ++ '{' :: (options ++ ['}'])) = (name, options) := by
  have hlast := getLast?_append_cons_concat name options '{' '}'
  rw [Token.splitOptions, if_pos ⟨hlast, List.mem_append_right name List.mem_cons_self⟩,
    Text.takeWhile_ne_append_cons h, Text.dropWhile_ne_append_cons h, List.tail_cons,
    List.dropLast_concat]

theorem splitWidth_of_comma {name : List Char} (h : ',' ∉ name) (width : List Char) :
    Token.splitWidth (name ++ ',' :: width) = (name, Token.widthOf width) := by
  rw [Token.splitWidth, if_pos (List.mem_append_right name List.mem_cons_self),
    Text.takeWhile_ne_append_cons h, Text.dropWhile_ne_append_cons h, List.tail_cons]

theorem splitOptions_append {spec : List Char} (h : Plain spec) (options : Option (List Char)) :
    Token.splitOptions (spec ++ optionsText options) = (spec, options.getD []) := by
  cases options with
  | none =>
    have hlast : spec.getLast? ≠ some '}' := fun hl => (h _ (List.mem_of_getLast? hl)).2.2 rfl
    rw [optionsText, List.append_nil, Token.splitOptions, if_neg fun h => hlast h.1,
      Option.getD_none]
  | some o =>
    have hspec : '{' ∉ spec := fun ho => (h _ ho).2.1 rfl
    exact splitOptions_of_braces hspec o

theorem splitWidth_append {spelling : List Char} (h : ',' ∉ spelling)
    (width : Option WidthSpelling) :
    Token.splitWidth (spelling ++ widthText width) =
      (spelling, (width.map WidthSpelling.value).getD 0) := by
  cases width with
  | none => rw [widthText, List.append_nil, Token.splitWidth, if_neg h, Option.map_none,
      Option.getD_none]
  | some w => rw [widthText, splitWidth_of_comma h, w.widthOf_print, Option.map_some,
      Option.getD_some]

theorem ofName?_spelling (h : spelling.map Char.toLower = v.name.toList) :
    Variable.ofName? spelling = some v := by
  rw [Variable.ofName?, h]
  cases v <;> decide

theorem ofPiece_print {s : Segment} (h : s.WellSpelled) : Token.ofPiece s.print = s.token := by
  cases s with
  | literal text =>
    have hinner : Token.inner? text = none := by
      cases text with
      | nil => rfl
      | cons c cs =>
        rw [Token.inner?]
        intro cs' hc
        exact h.2 (hc ▸ List.mem_cons_self)
    rw [print, Token.ofPiece, hinner, token]
  | «variable» v spelling width options =>
    obtain ⟨hname, -⟩ := h
    have hne : spelling ++ widthText width ++ optionsText options ≠ [] := by
      have hs : spelling ≠ [] := by
        rintro rfl
        cases v <;> cases hname
      simp [hs]
    rw [print_variable, Token.ofPiece, inner?_of_ne_nil hne]
    dsimp only
    rw [splitOptions_append (plain_spec hname),
      splitWidth_append (not_mem_spelling hname _ (by decide)), ofName?_spelling hname,
      token_variable]

/-- Two ways to write one segment: the letter case of a name and the spelling of a width may be
different. -/
inductive Respelled : Segment → Segment → Prop where
  | literal (text : List Char) : Respelled (.literal text) (.literal text)
  | variable (v : Variable) {spelling spelling' : List Char}
      (hname : spelling.map Char.toLower = spelling'.map Char.toLower)
      {width width' : Option WidthSpelling}
      (hwidth : width.map WidthSpelling.value = width'.map WidthSpelling.value)
      (options : Option (List Char)) :
      Respelled (.variable v spelling width options) (.variable v spelling' width' options)

variable {s t : Segment} {segments segments' : List Segment}

theorem Respelled.wellSpelled (h : Respelled s t) (hs : s.WellSpelled) : t.WellSpelled := by
  cases h with
  | literal text => exact hs
  | «variable» v hname hwidth options => exact ⟨hname.symm.trans hs.1, hs.2⟩

theorem Respelled.token (h : Respelled s t) : s.token = t.token := by
  cases h with
  | literal text => rfl
  | «variable» v hname hwidth options => rw [token_variable, token_variable, hwidth]

theorem Respelled.isLiteral (h : Respelled s t) : s.isLiteral = t.isLiteral := by
  cases h <;> rfl

theorem Respelled.head? (h : Respelled s t) : s.print.head? = t.print.head? := by
  cases h <;> rfl

theorem getLast?_print_variable (v : Variable) (spelling : List Char)
    (width : Option WidthSpelling) (options : Option (List Char)) :
    (Segment.variable v spelling width options).print.getLast? = some '%' := by
  rw [print_variable, ← List.cons_append, List.getLast?_concat]

theorem Respelled.getLast? (h : Respelled s t) : s.print.getLast? = t.print.getLast? := by
  cases h with
  | literal text => rfl
  | «variable» v hname hwidth options => rw [getLast?_print_variable, getLast?_print_variable]

theorem forall_wellSpelled (h : List.Forall₂ Respelled segments segments')
    (hs : ∀ s ∈ segments, s.WellSpelled) : ∀ s ∈ segments', s.WellSpelled := by
  induction h with
  | nil => exact hs
  | cons h _ ih =>
    obtain ⟨hs, hsegments⟩ := List.forall_mem_cons.1 hs
    exact List.forall_mem_cons.2 ⟨h.wellSpelled hs, ih hsegments⟩

theorem map_eq_of_respelled {α : Type} {f : Segment → α}
    (hf : ∀ {s t : Segment}, Respelled s t → f s = f t)
    (h : List.Forall₂ Respelled segments segments') : segments.map f = segments'.map f := by
  induction h with
  | nil => rfl
  | cons h _ ih => rw [List.map_cons, List.map_cons, hf h, ih]

theorem isChain_apart (h : List.Forall₂ Respelled segments segments')
    (hs : segments.IsChain Apart) : segments'.IsChain Apart := by
  have hm : (segments.map isLiteral).IsChain fun a b => a = false ∨ b = false :=
    (List.isChain_map isLiteral).2 hs
  rw [map_eq_of_respelled Respelled.isLiteral h] at hm
  exact (List.isChain_map isLiteral).1 hm

theorem trimmed_printAll (h : List.Forall₂ Respelled segments segments')
    (ht : Text.Trimmed (printAll segments)) : Text.Trimmed (printAll segments') := by
  -- A literal is the same in both, and a variable begins and ends with a percent sign.
  have hends : (printAll segments).head? = (printAll segments').head? ∧
      (printAll segments).getLast? = (printAll segments').getLast? := by
    clear ht
    induction h with
    | nil => exact ⟨rfl, rfl⟩
    | cons h _ ih =>
      rw [printAll_cons, printAll_cons, List.head?_append, List.head?_append,
        List.getLast?_append, List.getLast?_append, h.head?, h.getLast?, ih.1, ih.2]
      exact ⟨rfl, rfl⟩
  exact ⟨hends.1 ▸ ht.head, hends.2 ▸ ht.last⟩

theorem tokens_setPattern (r : Renderer) (hs : ∀ s ∈ segments, s.WellSpelled)
    (hapart : segments.IsChain Apart) (ht : Text.Trimmed (printAll segments)) :
    (r.setPattern (String.ofList (printAll segments))).tokens = segments.map token := by
  rw [Renderer.tokens, Renderer.setPattern, Text.trim, String.toList_ofList, String.toList_ofList,
    ht.trimChars, Token.ofPattern, pieces_printAll hs hapart, List.map_map]
  exact List.map_congr_left fun s hmem => ofPiece_print (hs s hmem)

theorem render_congr {r r' : Renderer} (htokens : r'.tokens = r.tokens)
    (hindent : r'.indent = r.indent) (hdepth : r'.depth = r.depth) (e : Entry) :
    (r'.render e).1 = (r.render e).1 ∧ (r'.render e).2.depth = (r.render e).2.depth := by
  have hline : r'.line e = r.line e := by
    rw [Renderer.line, Renderer.line, htokens, hindent, hdepth]
  rw [Renderer.render, Renderer.render, htokens, hline, hdepth]
  split
  · exact ⟨rfl, hdepth⟩
  · exact ⟨rfl, rfl⟩

/-- A well-formed pattern is read as the tokens that its segments stand for, one for each segment and
in order; so how names and widths are spelled makes no difference to what is rendered. -/
theorem tokens_printAll (r : Renderer) (hs : ∀ s ∈ segments, s.WellSpelled)
    (hapart : segments.IsChain Apart) (ht : Text.Trimmed (printAll segments)) :
    (r.setPattern (String.ofList (printAll segments))).tokens = segments.map token ∧
      ∀ (r' : Renderer) (segments' : List Segment), List.Forall₂ Respelled segments segments' →
        r'.indent = r.indent → r'.depth = r.depth → ∀ e : Entry,
          ((r'.setPattern (String.ofList (printAll segments'))).render e).1 =
              ((r.setPattern (String.ofList (printAll segments))).render e).1 ∧
            ((r'.setPattern (String.ofList (printAll segments'))).render e).2.depth =
              ((r.setPattern (String.ofList (printAll segments))).render e).2.depth := by
  refine ⟨tokens_setPattern r hs hapart ht, ?_⟩
  intro r' segments' h hindent hdepth e
  have htokens : (r'.setPattern (String.ofList (printAll segments'))).tokens =
      (r.setPattern (String.ofList (printAll segments))).tokens := by
    rw [tokens_setPattern r hs hapart ht, tokens_setPattern r' (forall_wellSpelled h hs)
      (isChain_apart h hapart) (trimmed_printAll h ht), map_eq_of_respelled Respelled.token h]
  generalize String.ofList (printAll segments') = p' at htokens ⊢
  generalize String.ofList (printAll segments) = p at htokens ⊢
  exact render_congr htokens hindent hdepth e

/-- Options with the characters in them that end a variable and a width elsewhere, an empty pair of
braces, and a variable right behind another one. -/
theorem tokens_printAll_sample :
    let r : Renderer := ⟨"", true, 2⟩
    let width : WidthSpelling := { before := [' '], sign := some .minus, digits := [0, 8] }
    let width' : WidthSpelling := { sign := some .minus, digits := [8] }
    let segments : List Segment := [
      .literal ['[', '{'], .variable .time "TimeStamp".toList (some width) (some "%H,%M".toList),
      .literal ['}', ' '], .variable .title "title".toList none (some []),
      .variable .level "LEVEL".toList none none]
    let segments' : List Segment := [
      .literal ['[', '{'], .variable .time "timestamp".toList (some width') (some "%H,%M".toList),
      .literal ['}', ' '], .variable .title "Title".toList none (some []),
      .variable .level "level".toList none none]
    (∀ s ∈ segments, s.WellSpelled) ∧ segments.IsChain Apart ∧ Text.Trimmed (printAll segments) ∧
      List.Forall₂ Respelled segments segments' ∧
      printAll segments = "[\x7b%TimeStamp, -08\x7b%H,%M\x7d%\x7d %title\x7b\x7d%%LEVEL%".toList ∧
      printAll segments' = "[\x7b%timestamp,-8\x7b%H,%M\x7d%\x7d %Title\x7b\x7d%%level%".toList ∧
      (r.setPattern (String.ofList (printAll segments))).tokens = [
        .literal ['[', '{'], .variable .time (-8) "%H,%M".toList, .literal ['}', ' '],
        .variable .title 0 [], .variable .level 0 []] ∧
      ∀ e : Entry, ((r.setPattern (String.ofList (printAll segments'))).render e).1 =
        ((r.setPattern (String.ofList (printAll segments))).render e).1 := by
  intro r width width' segments segments'
  have hs : ∀ s ∈ segments, s.WellSpelled := by decide
  have hapart : segments.IsChain Apart := by decide
  have ht : Text.Trimmed (printAll segments) := by decide
  have hrespelled : List.Forall₂ Respelled segments segments' :=
    .cons (.literal _) (.cons (.variable _ (by decide) (by decide) _) (.cons (.literal _)
      (.cons (.variable _ (by decide) rfl _) (.cons (.variable _ (by decide) rfl _) .nil))))
  obtain ⟨htokens, hrender⟩ := tokens_printAll r hs hapart ht
  exact ⟨hs, hapart, ht, hrespelled, by decide, by decide, htokens,
    fun e => (hrender r segments' hrespelled rfl rfl e).1⟩

end Segment

end PacketLog.Pattern
