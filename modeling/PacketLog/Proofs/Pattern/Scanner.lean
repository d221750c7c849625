import PacketLog.Proofs.Pattern.Segment
import PacketLog.Proofs.Text.Slice

namespace PacketLog.Pattern

open Text

/-- How many bytes a piece has from where its scan has come to. -/
def pieceLength (isVariable inBraces : Bool) : Bytes → Nat
  | [] => 0
  | b :: bs =>
    if isVariable ∧ b = '{'.toUInt8 then pieceLength isVariable true bs + 1
    else if isVariable ∧ b = '}'.toUInt8 then pieceLength isVariable false bs + 1
    else if b = '%'.toUInt8 ∧ inBraces = false then if isVariable then 1 else 0
    else pieceLength isVariable inBraces bs + 1

theorem pieceEnd_eq (bs : Bytes) (isVariable inBraces : Bool) (pos : Nat) :
    pieceEnd bs isVariable inBraces pos =
      pos + pieceLength isVariable inBraces (bs.drop pos) := by
  fun_induction pieceEnd bs isVariable inBraces pos with
  | case1 inBraces pos h ho ih =>
    rw [List.drop_eq_getElem_cons h, pieceLength, if_pos ho, ih]
    omega
  | case2 inBraces pos h ho hc ih =>
    rw [List.drop_eq_getElem_cons h, pieceLength, if_neg ho, if_pos hc, ih]
    omega
  | case3 inBraces pos h ho hc hp hv =>
    rw [List.drop_eq_getElem_cons h, pieceLength, if_neg ho, if_neg hc, if_pos hp, if_pos hv]
  | case4 inBraces pos h ho hc hp hv =>
    rw [List.drop_eq_getElem_cons h, pieceLength, if_neg ho, if_neg hc, if_pos hp, if_neg hv]
    omega
  | case5 inBraces pos h ho hc hp ih =>
    rw [List.drop_eq_getElem_cons h, pieceLength, if_neg ho, if_neg hc, if_neg hp, ih]
    omega
  | case6 inBraces pos h =>
    rw [List.drop_eq_nil_of_le (Nat.le_of_not_lt h), pieceLength]
    omega

variable {c : Char} {cs : List Char} {isVariable inBraces : Bool}

/-- Bytes that are none of those that a scan looks for are passed over. -/
theorem pieceLength_append {xs : Bytes} (hp : '%'.toUInt8 ∉ xs)
    (hb : isVariable = true → '{'.toUInt8 ∉ xs ∧ '}'.toUInt8 ∉ xs) (more : Bytes) :
    pieceLength isVariable inBraces (xs ++ more) =
      xs.length + pieceLength isVariable inBraces more := by
  induction xs with
  | nil => simp
  | cons x xs ih =>
    obtain ⟨hpx, hpxs⟩ := not_or.1 (mt List.mem_cons.2 hp)
    have hbx (hv : isVariable = true) : x ≠ '{'.toUInt8 ∧ x ≠ '}'.toUInt8 := by
      obtain ⟨ho, hc⟩ := hb hv
      exact ⟨fun h => ho (h ▸ List.mem_cons_self), fun h => hc (h ▸ List.mem_cons_self)⟩
    have hbxs (hv : isVariable = true) : '{'.toUInt8 ∉ xs ∧ '}'.toUInt8 ∉ xs := by
      obtain ⟨ho, hc⟩ := hb hv
      exact ⟨mt (List.mem_cons_of_mem x) ho, mt (List.mem_cons_of_mem x) hc⟩
    rw [List.cons_append, pieceLength, if_neg fun h => (hbx h.1).1 h.2,
      if_neg fun h => (hbx h.1).2 h.2, if_neg fun h => hpx h.1.symm, ih hpxs hbxs,
      List.length_cons]
    omega

theorem pieceLength_variable (inBraces : Bool) (cs : List Char) :
    pieceLength true inBraces (bytes (String.ofList cs)) =
      (bytes (String.ofList (cutVariable inBraces cs).1)).length := by
  induction cs generalizing inBraces with
  | nil => rfl
  | cons c cs ih =>
    by_cases ho : c = '{'
    · subst ho
      rw [bytes_cons_of_ascii (by decide), pieceLength, if_pos ⟨rfl, rfl⟩, ih, cutVariable,
        if_neg (by simp), if_pos rfl, bytes_cons_of_ascii (by decide), List.length_cons]
    by_cases hc : c = '}'
    · subst hc
      rw [bytes_cons_of_ascii (by decide), pieceLength, if_neg (by decide), if_pos ⟨rfl, rfl⟩, ih,
        cutVariable, if_neg (by simp), if_neg ho, if_pos rfl, bytes_cons_of_ascii (by decide),
        List.length_cons]
    by_cases hp : c = '%'
    · subst hp
      rw [bytes_cons_of_ascii (by decide), pieceLength, if_neg (by decide), if_neg (by decide),
        cutVariable]
      cases inBraces with
      | false => rfl
      | true =>
        rw [if_neg (by simp), if_neg (by simp), if_neg ho, if_neg hc, ih,
          bytes_cons_of_ascii (by decide), List.length_cons]
    · rw [bytes_ofList_cons, pieceLength_append (not_mem_utf8EncodeChar (by decide) hp) fun _ =>
          ⟨not_mem_utf8EncodeChar (by decide) ho, not_mem_utf8EncodeChar (by decide) hc⟩,
        ih, cutVariable, if_neg fun h => hp h.1, if_neg ho, if_neg hc, bytes_ofList_cons,
        List.length_append]

theorem pieceLength_literal (cs : List Char) :
    pieceLength false false (bytes (String.ofList cs)) =
      (bytes (String.ofList (cs.takeWhile (· != '%')))).length := by
  induction cs with
  | nil => rfl
  | cons c cs ih =>
    by_cases hp : c = '%'
    · subst hp
      rw [bytes_cons_of_ascii (by decide)]
      rfl
    · rw [bytes_ofList_cons, pieceLength_append (not_mem_utf8EncodeChar (by decide) hp)
          fun h => absurd h Bool.false_ne_true, ih,
        List.takeWhile_cons_of_pos (by simpa using hp), bytes_ofList_cons,
        List.length_append]

theorem pieceEndAt_append (before : String) (c : Char) (cs : List Char)
    (h : before.utf8ByteSize < (bytes (before ++ String.ofList (c :: cs))).length) :
    pieceEndAt (bytes (before ++ String.ofList (c :: cs))) before.utf8ByteSize h =
      before.utf8ByteSize + (String.ofList (cutPiece c cs).1).utf8ByteSize := by
  have hdrop : (bytes (before ++ String.ofList (c :: cs))).drop before.utf8ByteSize =
      bytes (String.ofList (c :: cs)) := by
    rw [bytes_append, ← length_bytes, List.drop_left]
  -- The first byte of the piece tells whether its first character is a percent sign.
  have hfirst : (bytes (before ++ String.ofList (c :: cs)))[before.utf8ByteSize] = '%'.toUInt8 ↔
      c = '%' := by
    rw [← head?_bytes_cons (by decide) cs, ← hdrop, List.drop_eq_getElem_cons h, List.head?_cons,
      Option.some.injEq]
  rw [pieceEndAt, ← length_bytes (String.ofList _), cutPiece]
  by_cases hc : c = '%'
  · subst hc
    rw [bytes_cons_of_ascii (by decide), List.drop_eq_getElem_cons h, List.cons.injEq] at hdrop
    rw [if_pos (hfirst.2 rfl), if_pos rfl, pieceEnd_eq, hdrop.2, pieceLength_variable,
      bytes_cons_of_ascii (by decide), List.length_cons]
    omega
  · rw [if_neg (mt hfirst.1 hc), if_neg hc, pieceEnd_eq, hdrop, pieceLength_literal,
      List.takeWhile_cons_of_pos (by simpa using hc)]
    rfl

def marked (text : List Char) : String := String.ofList ('%' :: text) ++ "%"

theorem marked_eq (text : List Char) : marked text = String.ofList ('%' :: (text ++ ['%'])) := by
  rw [← List.cons_append, String.ofList_append]
  rfl

theorem utf8ByteSize_marked (text : List Char) :
    (marked text).utf8ByteSize = (String.ofList text).utf8ByteSize + 2 := by
  rw [marked, String.utf8ByteSize_append, utf8ByteSize_ofList_cons (by decide)]
  rfl

/-- The byte in front of the closing percent sign is a brace exactly if the character is. -/
theorem getElem?_bytes_marked {text : List Char} (h : text ≠ []) :
    ∃ b, (bytes (marked text))[(String.ofList text).utf8ByteSize]? = some b ∧
      (b = '}'.toUInt8 ↔ text.getLast? = some '}') := by
  obtain ⟨bs, b, hb⟩ := (List.eq_nil_or_concat' _).resolve_left (bytes_ne_nil h)
  refine ⟨b, ?_, ?_⟩
  · rw [← length_bytes, marked, bytes_append, bytes_cons_of_ascii (by decide), hb,
      List.length_append, List.length_singleton, List.cons_append, List.getElem?_cons_succ,
      List.append_assoc, List.getElem?_append_right (Nat.le_refl _), Nat.sub_self]
    rfl
  · rw [← getLast?_bytes_eq_iff (by decide), hb, List.getLast?_concat, Option.some.injEq]

theorem slice?_marked (before middle behind : List Char) :
    slice? (marked (before ++ middle ++ behind)) ((String.ofList before).utf8ByteSize + 1)
      ((String.ofList (before ++ middle)).utf8ByteSize + 1) = some (String.ofList middle) := by
  have hsplit : marked (before ++ middle ++ behind) =
      String.ofList ('%' :: before) ++ String.ofList middle ++ (String.ofList behind ++ "%") := by
    rw [marked, ← List.cons_append, String.ofList_append, ← List.cons_append, String.ofList_append,
      String.append_assoc]
  rw [hsplit, utf8ByteSize_ofList_append, Nat.add_right_comm,
    ← utf8ByteSize_ofList_cons (a := '%') (by decide), slice?_append]

theorem slice?_marked_zero (before behind : List Char) :
    slice? (marked (before ++ behind)) 0 ((String.ofList before).utf8ByteSize + 1) =
      some (String.ofList ('%' :: before)) := by
  rw [marked, ← List.cons_append, String.ofList_append, String.append_assoc,
    ← utf8ByteSize_ofList_cons (a := '%') (by decide), slice?_zero_append]

theorem find?_marked_append_cons {c : Char} {before : List Char} (hc : c ≠ '%') (h : c ∉ before)
    (behind : List Char) : find? c (marked (before ++ c :: behind)) =
      some ((String.ofList before).utf8ByteSize + 1) := by
  have hcons : c ∉ '%' :: before := mt List.mem_cons.1 (not_or.2 ⟨hc, h⟩)
  rw [marked_eq, List.append_assoc, List.cons_append, ← List.cons_append, find?_append_cons hcons,
    utf8ByteSize_ofList_cons (by decide)]

theorem find?_marked_of_not_mem {c : Char} {text : List Char} (hc : c ≠ '%') (h : c ∉ text) :
    find? c (marked text) = none := by
  rw [marked_eq]
  refine find?_of_not_mem ?_
  rw [List.mem_cons, List.mem_append, List.mem_singleton]
  rintro (h' | h' | h')
  · exact hc h'
  · exact h h'
  · exact hc h'

/-- Options in braces are what stands behind the first opening brace. -/
theorem cutOptions?_marked_of_braces {name : List Char} (h : '{' ∉ name) (options : List Char) :
    cutOptions? (marked (name ++ '{' :: (options ++ ['}']))) = some (marked name, options) := by
  have hne : name ++ '{' :: (options ++ ['}']) ≠ [] := List.append_ne_nil_of_right_ne_nil name nofun
  have hsplit : name ++ '{' :: (options ++ ['}']) = name ++ ['{'] ++ options ++ ['}'] := by
    rw [List.append_cons, ← List.append_assoc]
  have hopen : (String.ofList (name ++ ['{'])).utf8ByteSize =
      (String.ofList name).utf8ByteSize + 1 := utf8ByteSize_ofList_append name ['{']
  have hclose : (String.ofList (name ++ '{' :: (options ++ ['}']))).utf8ByteSize =
      (String.ofList (name ++ ['{'] ++ options)).utf8ByteSize + 1 := by
    rw [hsplit]
    exact utf8ByteSize_ofList_append (name ++ ['{'] ++ options) ['}']
  have hlt : (String.ofList name).utf8ByteSize + 1 <
      (String.ofList (name ++ '{' :: (options ++ ['}']))).utf8ByteSize := by
    rw [hclose, utf8ByteSize_ofList_append, hopen]
    omega
  have hlast := Segment.getLast?_append_cons_concat name options '{' '}'
  obtain ⟨b, hb, hbrace⟩ := getElem?_bytes_marked hne
  have hcut := slice?_marked (name ++ ['{']) options ['}']
  rw [← hsplit, ← hclose, hopen] at hcut
  rw [cutOptions?, utf8ByteSize_marked, before?_add, Option.bind_eq_bind, Option.bind_some, hb,
    Option.bind_eq_bind, Option.bind_some, if_pos (hbrace.2 hlast),
    find?_marked_append_cons (by decide) h]
  simp only [if_pos hlt]
  rw [hcut, slice?_marked_zero, Option.bind_eq_bind, Option.bind_some, Option.bind_some,
    String.toList_ofList]
  rfl

theorem cutOptions?_marked {body : List Char} (h : body ≠ []) :
    cutOptions? (marked body) =
      some (marked (Token.splitOptions body).1, (Token.splitOptions body).2) := by
  -- The closing brace is looked for as a byte, and the opening one as a character.
  obtain ⟨b, hb, hbrace⟩ := getElem?_bytes_marked h
  have hnone (hno : ¬(body.getLast? = some '}' ∧ '{' ∈ body)) :
      cutOptions? (marked body) = some (marked body, []) := by
    rw [cutOptions?, utf8ByteSize_marked, before?_add, Option.bind_eq_bind, Option.bind_some, hb,
      Option.bind_eq_bind, Option.bind_some]
    by_cases hclosed : body.getLast? = some '}'
    · have hopen : '{' ∉ body := fun ho => hno ⟨hclosed, ho⟩
      rw [if_pos (hbrace.2 hclosed), find?_marked_of_not_mem (by decide) hopen]
      rfl
    · rw [if_neg (mt hbrace.1 hclosed)]
      rfl
  by_cases hoptions : body.getLast? = some '}' ∧ '{' ∈ body
  · obtain ⟨hclosed, hopen⟩ := hoptions
    obtain ⟨name, behind, rfl, hname⟩ := List.eq_append_cons_of_mem hopen
    rcases List.eq_nil_or_concat' behind with rfl | ⟨options, c, rfl⟩
    · rw [List.getLast?_concat] at hclosed
      exact absurd (Option.some.inj hclosed) (by decide)
    · rw [Segment.getLast?_append_cons_concat] at hclosed
      obtain rfl := Option.some.inj hclosed
      rw [cutOptions?_marked_of_braces hname, Segment.splitOptions_of_braces hname]
  · rw [hnone hoptions, Token.splitOptions, if_neg hoptions]

theorem cutWidth?_marked (spec : List Char) :
    cutWidth? (marked spec) =
      some (marked (Token.splitWidth spec).1, (Token.splitWidth spec).2) := by
  by_cases hcomma : ',' ∈ spec
  · obtain ⟨name, width, rfl, hname⟩ := List.eq_append_cons_of_mem hcomma
    have hcut := slice?_marked (name ++ [',']) width []
    rw [List.append_nil, ← List.append_cons] at hcut
    have hbehind : (String.ofList (name ++ [','])).utf8ByteSize =
        (String.ofList name).utf8ByteSize + 1 := utf8ByteSize_ofList_append name [',']
    rw [hbehind] at hcut
    rw [cutWidth?, find?_marked_append_cons (by decide) hname]
    simp only [utf8ByteSize_marked]
    rw [before?_add _ 1, Option.bind_eq_bind, Option.bind_some, hcut, slice?_marked_zero,
      Option.bind_eq_bind, Option.bind_some, Option.bind_some, String.toList_ofList,
      Segment.splitWidth_of_comma hname]
    rfl
  · rw [cutWidth?, find?_marked_of_not_mem (by decide) hcomma, Token.splitWidth, if_neg hcomma]
    rfl

theorem marked_inj {a b : List Char} : marked a = marked b ↔ a = b := by
  rw [marked_eq, marked_eq, String.ofList_inj, List.cons_inj_right, List.append_left_inj]

theorem ofMarked?_marked (name : List Char) :
    Variable.ofMarked? (marked name) = Variable.ofName? name := by
  have hlower : (marked name).toLower = marked (name.map Char.toLower) := by
    rw [marked_eq, marked_eq, ← String.toList_inj]
    change (String.map Char.toLower _).toList = _
    rw [String.toList_map, String.toList_ofList, String.toList_ofList, List.map_cons,
      List.map_append]
    rfl
  have hname (v : Variable) : "%" ++ v.name ++ "%" = marked v.name.toList := by
    cases v <;> rfl
  rw [Variable.ofMarked?, Variable.ofName?]
  congr
  funext v
  rw [hlower, hname, Bool.eq_iff_iff, beq_iff_eq, beq_iff_eq, marked_inj]

theorem inner?_eq_some_iff {piece body : List Char} :
    Token.inner? piece = some body ↔ body ≠ [] ∧ piece = '%' :: (body ++ ['%']) := by
  constructor
  · intro h
    unfold Token.inner? at h
    split at h
    · next cs =>
      split at h
      · next hcs =>
        obtain ⟨hlast, hlength⟩ := hcs
        obtain ⟨text, rfl⟩ := List.getLast?_eq_some_iff.1 hlast
        rw [List.dropLast_concat] at h
        obtain rfl := Option.some.inj h
        rw [List.length_append, List.length_singleton] at hlength
        exact ⟨List.length_pos_iff.1 (by omega), rfl⟩
      · cases h
    · cases h
  · rintro ⟨hne, rfl⟩
    exact Segment.inner?_of_ne_nil hne

/-- A piece has something between percent signs exactly if it is longer than two bytes and has a
percent sign at both ends. -/
theorem inner?_eq_none_iff {piece : List Char} :
    Token.inner? piece = none ↔ (String.ofList piece).utf8ByteSize ≤ 2 ∨
      piece.head? ≠ some '%' ∨ piece.getLast? ≠ some '%' := by
  constructor
  · intro h
    by_contra hno
    rw [not_or, not_or, not_not, not_not] at hno
    obtain ⟨hsize, hhead, hlast⟩ := hno
    obtain ⟨cs, rfl⟩ := List.head?_eq_some_iff.1 hhead
    rcases List.eq_nil_or_concat' cs with rfl | ⟨body, c, rfl⟩
    · exact hsize (by decide)
    rw [← List.cons_append, List.getLast?_concat] at hlast
    obtain rfl := Option.some.inj hlast
    have hne : body ≠ [] := by
      rintro rfl
      exact hsize (by decide)
    rw [Segment.inner?_of_ne_nil hne] at h
    cases h
  · intro h
    by_contra hsome
    obtain ⟨body, hbody⟩ := Option.ne_none_iff_exists'.1 hsome
    obtain ⟨hne, rfl⟩ := inner?_eq_some_iff.1 hbody
    have hpos := utf8ByteSize_pos hne
    rw [← marked_eq, utf8ByteSize_marked] at h
    rcases h with hsize | hhead | hlast
    · omega
    · exact hhead rfl
    · rw [← List.cons_append, List.getLast?_concat] at hlast
      exact hlast rfl

theorem scanPiece?_ofList (piece : List Char) :
    scanPiece? (String.ofList piece) = some (Token.ofPiece piece) := by
  rw [scanPiece?, Token.ofPiece, String.toList_ofList]
  cases hi : Token.inner? piece with
  | none =>
    rw [if_pos (inner?_eq_none_iff.1 hi)]
    rfl
  | some body =>
    have hmarked := mt inner?_eq_none_iff.2 (Option.ne_none_iff_exists'.2 ⟨body, hi⟩)
    obtain ⟨hne, hpiece⟩ := inner?_eq_some_iff.1 hi
    rw [if_neg hmarked, hpiece, ← marked_eq, cutOptions?_marked hne]
    simp only [Option.bind_eq_bind, Option.bind_some, cutWidth?_marked, ofMarked?_marked]
    cases Variable.ofName? (Token.splitWidth (Token.splitOptions body).1).1 with
    | none => rfl
    | some v => rfl

/-- From any offset between characters on, the scan finds the pieces of what stands there. -/
theorem scanFrom?_append (before : String) (cs : List Char) :
    scanFrom? (before ++ String.ofList cs) before.utf8ByteSize =
      some ((pieces cs).map fun piece => (String.ofList piece, Token.ofPiece piece)) := by
  fun_induction pieces cs generalizing before with
  | case1 =>
    rw [scanFrom?, dif_neg, List.map_nil]
    · rfl
    · rw [length_bytes, String.utf8ByteSize_append]
      exact Nat.lt_irrefl _
  | case2 c cs ih =>
    have hlt : before.utf8ByteSize < (bytes (before ++ String.ofList (c :: cs))).length := by
      have hpos := utf8ByteSize_pos (List.cons_ne_nil c cs)
      rw [length_bytes, String.utf8ByteSize_append]
      omega
    have hsplit : before ++ String.ofList (c :: cs) =
        before ++ String.ofList (cutPiece c cs).1 ++ String.ofList (cutPiece c cs).2 := by
      rw [String.append_assoc, ← String.ofList_append, cutPiece_append]
    -- The rest of the pattern stands behind this piece, too.
    have hrest := ih (before ++ String.ofList (cutPiece c cs).1)
    rw [String.utf8ByteSize_append, ← hsplit] at hrest
    have hslice := slice?_append before (String.ofList (cutPiece c cs).1)
      (String.ofList (cutPiece c cs).2)
    rw [← hsplit] at hslice
    rw [scanFrom?, dif_pos hlt]
    simp only [pieceEndAt_append, hslice, Option.bind_eq_bind, Option.bind_some, scanPiece?_ofList,
      hrest]
    rfl

theorem scan?_eq (s : String) :
    scan? s = some ((pieces s.toList).map fun piece =>
      (String.ofList piece, Token.ofPiece piece)) := by
  have h := scanFrom?_append "" s.toList
  rwa [String.empty_append, String.ofList_toList] at h

end PacketLog.Pattern
