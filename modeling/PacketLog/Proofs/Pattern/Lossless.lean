import PacketLog.Proofs.Pattern.Scanner

namespace PacketLog.Pattern

open Text

/-- The text names a variable: between percent signs, in any ASCII letter case, and up to the first
comma or opening brace. -/
structure Names (raw : String) (v : Variable) : Prop where
  lt_utf8ByteSize : 2 < raw.utf8ByteSize
  head?_eq : raw.toList.head? = some '%'
  getLast?_eq : raw.toList.getLast? = some '%'
  name_eq : (raw.toList.tail.dropLast.takeWhile fun c => c != ',' && c != '{').map Char.toLower =
    v.name.toList

/-- What the token of a piece keeps of it: a literal all of its text, and a variable its name. -/
structure ReadsAs (raw : String) (token : Token) : Prop where
  ne_empty : raw ≠ ""
  literal_eq : ∀ text, token = .literal text → text = raw.toList
  names : ∀ v width options, token = .variable v width options → Names raw v

theorem splitOptions_fst_append (cs : List Char) :
    ∃ behind, cs = (Token.splitOptions cs).1 ++ behind ∧ ∀ c ∈ behind.head?, c = '{' := by
  rw [Token.splitOptions]
  split
  · next h =>
    obtain ⟨name, behind, rfl, hname⟩ := List.eq_append_cons_of_mem h.2
    rw [takeWhile_ne_append_cons hname]
    exact ⟨_, rfl, fun c hc => (Option.some.inj hc).symm⟩
  · exact ⟨[], (List.append_nil cs).symm, fun c hc => absurd hc (Option.not_mem_none c)⟩

theorem splitWidth_fst_append (cs : List Char) :
    ∃ behind, cs = (Token.splitWidth cs).1 ++ behind ∧ ∀ c ∈ behind.head?, c = ',' := by
  rw [Token.splitWidth]
  split
  · next h =>
    obtain ⟨name, behind, rfl, hname⟩ := List.eq_append_cons_of_mem h
    rw [takeWhile_ne_append_cons hname]
    exact ⟨_, rfl, fun c hc => (Option.some.inj hc).symm⟩
  · exact ⟨[], (List.append_nil cs).symm, fun c hc => absurd hc (Option.not_mem_none c)⟩

theorem map_toLower_of_ofName? {cs : List Char} {v : Variable} (h : Variable.ofName? cs = some v) :
    cs.map Char.toLower = v.name.toList := by
  have hfound := List.find?_some (p := fun v : Variable => v.name.toList == cs.map Char.toLower) h
  exact (beq_iff_eq.1 hfound).symm

theorem takeWhile_of_ofName? {body : List Char} {v : Variable}
    (h : Variable.ofName? (Token.splitWidth (Token.splitOptions body).1).1 = some v) :
    (body.takeWhile fun c => c != ',' && c != '{') =
      (Token.splitWidth (Token.splitOptions body).1).1 := by
  obtain ⟨options, hoptions, hbrace⟩ := splitOptions_fst_append body
  obtain ⟨width, hwidth, hcomma⟩ := splitWidth_fst_append (Token.splitOptions body).1
  have hname := Segment.not_mem_spelling (map_toLower_of_ofName? h)
  generalize (Token.splitWidth (Token.splitOptions body).1).1 = name at *
  rw [hwidth, List.append_assoc] at hoptions
  rw [hoptions, List.takeWhile_append_of_pos]
  · -- Behind the name comes a width, or else the options, or nothing.
    cases width with
    | cons c width =>
      obtain rfl := hcomma c rfl
      rw [List.cons_append, List.takeWhile_cons_of_neg (by decide), List.append_nil]
    | nil =>
      cases options with
      | cons c options =>
        obtain rfl := hbrace c rfl
        rw [List.nil_append, List.takeWhile_cons_of_neg (by decide), List.append_nil]
      | nil => rw [List.nil_append, List.takeWhile_nil, List.append_nil]
  · intro c hc
    have hc' : c ≠ ',' ∧ c ≠ '{' := by
      constructor <;>
      · rintro rfl
        exact hname _ (by decide) hc
    rw [Bool.and_eq_true, bne_iff_ne, bne_iff_ne]
    exact hc'

theorem readsAs_literal {piece : List Char} (h : piece ≠ []) :
    ReadsAs (String.ofList piece) (.literal piece) := by
  refine ⟨mt String.ofList_eq_empty_iff.1 h, ?_, ?_⟩
  · intro text htext
    rw [String.toList_ofList, Token.literal.inj htext]
  · intro v width options hvariable
    cases hvariable

theorem readsAs_variable {piece body : List Char} {v : Variable} (hi : Token.inner? piece = some body)
    (hv : Variable.ofName? (Token.splitWidth (Token.splitOptions body).1).1 = some v)
    (width : Int) (options : List Char) :
    ReadsAs (String.ofList piece) (.variable v width options) := by
  have hmarked := mt inner?_eq_none_iff.2 (Option.ne_none_iff_exists'.2 ⟨body, hi⟩)
  rw [not_or, not_or, not_not, not_not, Nat.not_le] at hmarked
  obtain ⟨hsize, hhead, hlast⟩ := hmarked
  obtain ⟨-, rfl⟩ := inner?_eq_some_iff.1 hi
  refine ⟨mt String.ofList_eq_empty_iff.1 (List.cons_ne_nil _ _), ?_, ?_⟩
  · intro text htext
    cases htext
  · intro v' width' options' hvariable
    obtain ⟨rfl, -, -⟩ := Token.variable.inj hvariable
    refine ⟨hsize, ?_, ?_, ?_⟩
    · rwa [String.toList_ofList]
    · rwa [String.toList_ofList]
    · rw [String.toList_ofList, List.tail_cons, List.dropLast_concat, takeWhile_of_ofName? hv,
        map_toLower_of_ofName? hv]

theorem readsAs_ofPiece {piece : List Char} (h : piece ≠ []) :
    ReadsAs (String.ofList piece) (Token.ofPiece piece) := by
  rw [Token.ofPiece]
  cases hi : Token.inner? piece with
  | none => exact readsAs_literal h
  | some body =>
    simp only
    cases hv : Variable.ofName? (Token.splitWidth (Token.splitOptions body).1).1 with
    | none => exact readsAs_literal h
    | some v => exact readsAs_variable hi hv _ _

theorem ne_nil_of_mem_pieces {cs piece : List Char} (h : piece ∈ pieces cs) : piece ≠ [] := by
  fun_induction pieces cs with
  | case1 => cases h
  | case2 c cs ih =>
    rcases List.mem_cons.1 h with rfl | h
    · exact cutPiece_ne_nil c cs
    · exact ih h

theorem line_of_literals {r : Renderer}
    (h : ∀ t ∈ r.tokens, ∀ v width options, t ≠ .variable v width options) (e : Entry) :
    r.line e = r.pattern.toList := by
  have hfield : ∀ piece ∈ pieces r.pattern.toList, ∀ indentation,
      (Token.ofPiece piece).field indentation e = piece := by
    intro piece hpiece indentation
    have hreads := readsAs_ofPiece (ne_nil_of_mem_pieces hpiece)
    have hno := h _ (List.mem_map_of_mem hpiece)
    generalize Token.ofPiece piece = token at *
    cases token with
    | literal text => rw [field_literal, hreads.literal_eq text rfl, String.toList_ofList]
    | «variable» v width options => exact absurd rfl (hno v width options)
  rw [Renderer.line, Renderer.tokens, Token.ofPattern, List.flatMap_map,
    List.flatMap_congr fun piece hpiece => hfield piece hpiece _, List.flatMap_id', flatten_pieces]

theorem join_pieces (s : String) : String.join ((pieces s.toList).map String.ofList) = s := by
  rw [← String.toList_inj, String.toList_join, List.flatMap_map]
  simp only [String.toList_ofList, List.flatMap_id', flatten_pieces]

/-- Scanning a text of any kind stays inside of it and loses nothing. The pieces that are found are the
text, and each of them is a literal that keeps it or a variable that it names; a pattern without a
variable is shown for every entry as it stands, without the blanks at its ends. -/
theorem scan?_lossless (s : String) :
    (∃ scanned, scan? s = some scanned ∧ scanned.map Prod.snd = Token.ofPattern s.toList ∧
      String.join (scanned.map Prod.fst) = s ∧ ∀ p ∈ scanned, ReadsAs p.1 p.2) ∧
    ∀ r : Renderer, (∀ t ∈ (r.setPattern s).tokens, ∀ v width options,
      t ≠ .variable v width options) →
      ∀ e, ((r.setPattern s).render e).1 = (Text.trim s).toList := by
  constructor
  · refine ⟨_, scan?_eq s, ?_, ?_, ?_⟩
    · rw [List.map_map]
      rfl
    · rw [List.map_map]
      exact join_pieces s
    · intro p hp
      obtain ⟨piece, hpiece, rfl⟩ := List.mem_map.1 hp
      exact readsAs_ofPiece (ne_nil_of_mem_pieces hpiece)
  · intro r hr e
    rw [Renderer.render_fst, line_of_literals hr]
    rfl

end PacketLog.Pattern
