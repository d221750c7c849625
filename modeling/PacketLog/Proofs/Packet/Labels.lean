import Mathlib.Data.List.Infix
import PacketLog.Proofs.Text.First
import PacketLog.Session.Packets

namespace PacketLog

theorem mapM_eq_some_iff {α β : Type} {f : α → Option β} {xs : List α} {ys : List β} :
    xs.mapM f = some ys ↔ xs.map f = ys.map some := by
  induction xs generalizing ys with
  | nil => cases ys <;> simp
  | cons x xs ih =>
    rw [List.mapM_cons, List.map_cons]
    cases ys with
    | nil => cases f x <;> cases xs.mapM f <;> simp
    | cons y ys =>
      rw [List.map_cons, List.cons.injEq, ← ih]
      cases f x <;> cases xs.mapM f <;> simp

namespace Labels

def lineBreak : List Char := ['\r', '\n']

/-- The lines of a text that are ended, and what stands behind the last of them. -/
def cutLines : List Char → List (List Char) × List Char
  | [] => ([], [])
  | '\r' :: '\n' :: cs => ([] :: (cutLines cs).1, (cutLines cs).2)
  | c :: cs =>
    match cutLines cs with
    | (line :: lines, left) => ((c :: line) :: lines, left)
    | ([], left) => ([], c :: left)

/-- Reads a line as a key and a value, which the first equals sign of the line is between. -/
def readLine? (line : List Char) : Option (String × String) :=
  match line.dropWhile (· != '=') with
  | [] => none
  | _ :: value => some (String.ofList (line.takeWhile (· != '=')), String.ofList value)

/-- Reads labels from a text that consists of lines. -/
def read? (content : String) : Option (List (String × String)) :=
  let cut := cutLines content.toList
  if cut.2.isEmpty then cut.1.mapM readLine? else none

/-- Sets a label, or leaves the labels as they are if the key is refused. -/
def offer (labels : Labels) (key value : String) : Labels :=
  match labels.set key value with
  | .ok labels => labels
  | .error _ => labels

/-- The labels after calls on a new header, some of which may have been refused. -/
def ofCalls (calls : List (String × String)) : Labels :=
  calls.foldl (fun labels call => labels.offer call.1 call.2) .empty

theorem ofCalls_concat (calls : List (String × String)) (call : String × String) :
    ofCalls (calls ++ [call]) = (ofCalls calls).offer call.1 call.2 :=
  List.foldl_append

theorem not_lineBreak_infix_nil : ¬ lineBreak <:+: [] := by
  simp [lineBreak]

theorem cutLines_cons {c : Char} {cs : List Char} (h : ¬ lineBreak <+: c :: cs) :
    cutLines (c :: cs) = match cutLines cs with
      | (line :: lines, left) => ((c :: line) :: lines, left)
      | ([], left) => ([], c :: left) := by
  rw [cutLines]
  rintro cs' rfl rfl
  exact h ⟨cs', rfl⟩

theorem cutLines_append_lineBreak {line : List Char} (h : ¬ lineBreak <:+: line)
    (rest : List Char) :
    cutLines (line ++ lineBreak ++ rest) = (line :: (cutLines rest).1, (cutLines rest).2) := by
  induction line with
  | nil => rfl
  | cons c line ih =>
    have hline : ¬ lineBreak <:+: line := fun hl => h (List.infix_cons hl)
    -- A carriage return that ends `line` does not make a line break with the one behind it, which
    -- begins with a carriage return of its own.
    have hc : ¬ lineBreak <+: c :: (line ++ lineBreak ++ rest) := by
      rintro ⟨more, hm⟩
      cases line with
      | nil => simp [lineBreak] at hm
      | cons d line =>
        simp only [lineBreak, List.cons_append, List.nil_append, List.cons.injEq] at hm
        obtain ⟨rfl, rfl, -⟩ := hm
        exact h (List.prefix_append lineBreak line).isInfix
    rw [List.cons_append, List.cons_append, cutLines_cons hc, ih hline]

theorem exists_first_lineBreak {cs : List Char} (h : lineBreak <:+: cs) :
    ∃ line rest, cs = line ++ lineBreak ++ rest ∧ ¬ lineBreak <:+: line := by
  induction cs with
  | nil => exact absurd h not_lineBreak_infix_nil
  | cons c cs ih =>
    by_cases hp : lineBreak <+: c :: cs
    · obtain ⟨rest, hr⟩ := hp
      exact ⟨[], rest, hr.symm, not_lineBreak_infix_nil⟩
    · obtain ⟨line, rest, rfl, hline⟩ := ih ((List.infix_cons_iff.1 h).resolve_left hp)
      refine ⟨c :: line, rest, rfl, fun hl => ?_⟩
      rcases List.infix_cons_iff.1 hl with hl | hl
      · refine hp (hl.trans ?_)
        rw [List.append_assoc, ← List.cons_append]
        exact List.prefix_append _ _
      · exact hline hl

theorem exists_length_cutLines_eq {cs : List Char} (h : lineBreak <:+: cs) (rest : List Char) :
    ∃ more, more.length < cs.length ∧
      (cutLines (cs ++ lineBreak ++ rest)).1.length =
        (cutLines (more ++ lineBreak ++ rest)).1.length + 1 := by
  obtain ⟨line, more, rfl, hline⟩ := exists_first_lineBreak h
  refine ⟨more, ?_, ?_⟩
  · simp only [List.length_append, lineBreak, List.length_cons]
    omega
  · rw [List.append_assoc, List.append_assoc, cutLines_append_lineBreak hline, List.length_cons,
      ← List.append_assoc]

theorem length_cutLines_lt (cs rest : List Char) :
    (cutLines rest).1.length < (cutLines (cs ++ lineBreak ++ rest)).1.length := by
  -- On the length of `cs`: a line break in it ends a line earlier, and what is behind is shorter.
  by_cases h : lineBreak <:+: cs
  · obtain ⟨more, hmore, he⟩ := exists_length_cutLines_eq h rest
    have hlt := length_cutLines_lt more rest
    omega
  · rw [cutLines_append_lineBreak h, List.length_cons]
    omega
termination_by cs.length

theorem length_cutLines_lt_of_infix {cs : List Char} (h : lineBreak <:+: cs) (rest : List Char) :
    (cutLines rest).1.length + 1 < (cutLines (cs ++ lineBreak ++ rest)).1.length := by
  obtain ⟨more, -, he⟩ := exists_length_cutLines_eq h rest
  have hlt := length_cutLines_lt more rest
  omega

def OneLine (s : String) : Prop := ¬ lineBreak <:+: s.toList

instance (s : String) : Decidable (OneLine s) :=
  inferInstanceAs (Decidable (¬ lineBreak <:+: s.toList))

def lineText (pair : String × String) : List Char := pair.1.toList ++ '=' :: pair.2.toList

theorem toList_content (labels : Labels) :
    labels.content.toList = labels.pairs.flatMap fun pair => lineText pair ++ lineBreak := by
  rw [content, String.toList_join, List.flatMap_map]
  congr 1
  funext pair
  simp [line, lineText, lineBreak]

theorem cutLines_flatMap {pairs : List (String × String)}
    (h : ∀ pair ∈ pairs, ¬ lineBreak <:+: lineText pair) :
    cutLines (pairs.flatMap fun pair => lineText pair ++ lineBreak) =
      (pairs.map lineText, []) := by
  induction pairs with
  | nil => rfl
  | cons pair pairs ih =>
    rw [List.forall_mem_cons] at h
    rw [List.flatMap_cons, cutLines_append_lineBreak h.1, ih h.2, List.map_cons]

theorem length_le_cutLines_flatMap (pairs : List (String × String)) :
    pairs.length ≤ (cutLines (pairs.flatMap fun pair => lineText pair ++ lineBreak)).1.length := by
  induction pairs with
  | nil => exact Nat.zero_le _
  | cons pair pairs ih =>
    have hlt := length_cutLines_lt (lineText pair)
      (pairs.flatMap fun pair => lineText pair ++ lineBreak)
    rw [List.flatMap_cons, List.length_cons]
    omega

/-- A line break inside of a label makes more lines than there are labels. -/
theorem length_lt_cutLines_flatMap {pairs : List (String × String)} {pair : String × String}
    (hmem : pair ∈ pairs) (h : lineBreak <:+: lineText pair) :
    pairs.length < (cutLines (pairs.flatMap fun pair => lineText pair ++ lineBreak)).1.length := by
  induction pairs with
  | nil => cases hmem
  | cons first pairs ih =>
    rw [List.flatMap_cons, List.length_cons]
    rcases List.mem_cons.1 hmem with rfl | hmem
    · have hlt := length_cutLines_lt_of_infix h
        (pairs.flatMap fun pair => lineText pair ++ lineBreak)
      have hle := length_le_cutLines_flatMap pairs
      omega
    · have hlt := length_cutLines_lt (lineText first)
        (pairs.flatMap fun pair => lineText pair ++ lineBreak)
      have hpairs := ih hmem
      omega

theorem isKey_iff {key : String} :
    isKey key = true ↔ key.toList ≠ [] ∧ ∀ c ∈ key.toList, c ≠ '=' ∧ c ≠ '\r' ∧ c ≠ '\n' := by
  simp [isKey, and_assoc]

theorem readLine?_lineText {pair : String × String} (h : isKey pair.1 = true) :
    readLine? (lineText pair) = some pair := by
  have hkey : '=' ∉ pair.1.toList := fun he => ((isKey_iff.1 h).2 '=' he).1 rfl
  rw [readLine?, lineText, Text.dropWhile_ne_append_cons hkey, Text.takeWhile_ne_append_cons hkey]
  simp only [String.ofList_toList]

theorem lineBreak_infix_cons_iff {c : Char} (h : c ≠ '\r') (cs : List Char) :
    lineBreak <:+: c :: cs ↔ lineBreak <:+: cs := by
  refine List.infix_cons_iff.trans (or_iff_right ?_)
  rintro ⟨rest, hr⟩
  exact h (List.cons.inj hr).1.symm

theorem oneLine_iff {pair : String × String} (h : isKey pair.1 = true) :
    OneLine pair.2 ↔ ¬ lineBreak <:+: lineText pair := by
  apply not_congr
  symm
  have hkey := (isKey_iff.1 h).2
  rw [lineText]
  generalize pair.1.toList = key at hkey
  induction key with
  | nil => exact lineBreak_infix_cons_iff (by decide) _
  | cons c cs ih =>
    rw [List.forall_mem_cons] at hkey
    exact (lineBreak_infix_cons_iff hkey.1.2.1 _).trans (ih hkey.2)

theorem read?_content_eq_iff {labels : Labels} (hkeys : ∀ pair ∈ labels.pairs, isKey pair.1 = true) :
    read? labels.content = some labels.pairs ↔
      ∀ pair ∈ labels.pairs, OneLine pair.2 := by
  rw [read?, toList_content]
  constructor
  · -- Reading gives one label for each line, and a broken value makes more lines than labels.
    intro hread pair hmem
    rw [oneLine_iff (hkeys pair hmem)]
    intro hbreak
    have hlt := length_lt_cutLines_flatMap hmem hbreak
    split at hread
    · have hlength := congrArg List.length (mapM_eq_some_iff.1 hread)
      rw [List.length_map, List.length_map] at hlength
      omega
    · cases hread
  · intro hvalues
    have hlines : ∀ pair ∈ labels.pairs, ¬ lineBreak <:+: lineText pair := fun pair hmem =>
      (oneLine_iff (hkeys pair hmem)).1 (hvalues pair hmem)
    rw [cutLines_flatMap hlines]
    refine mapM_eq_some_iff.2 ?_
    rw [List.map_map]
    exact List.map_congr_left fun pair hmem => readLine?_lineText (hkeys pair hmem)

theorem isKey_setPair {key value : String} (hkey : isKey key = true)
    {pairs : List (String × String)} (h : ∀ pair ∈ pairs, isKey pair.1 = true) :
    ∀ pair ∈ setPair key value pairs, isKey pair.1 = true := by
  induction pairs with
  | nil =>
    rw [setPair, List.forall_mem_singleton]
    exact hkey
  | cons first pairs ih =>
    obtain ⟨hfirst, hpairs⟩ := List.forall_mem_cons.1 h
    rw [setPair]
    split
    · exact List.forall_mem_cons.2 ⟨hfirst, hpairs⟩
    · exact List.forall_mem_cons.2 ⟨hfirst, ih hpairs⟩

theorem isKey_offer {labels : Labels} (h : ∀ pair ∈ labels.pairs, isKey pair.1 = true)
    (key value : String) : ∀ pair ∈ (labels.offer key value).pairs, isKey pair.1 = true := by
  rw [offer, set]
  by_cases hkey : isKey key = true
  · rw [if_pos hkey]
    exact isKey_setPair hkey h
  · rw [if_neg hkey]
    exact h

theorem isKey_ofCalls (calls : List (String × String)) :
    ∀ pair ∈ (ofCalls calls).pairs, isKey pair.1 = true := by
  induction calls using List.reverseRecOn with
  | nil => exact nofun
  | append_singleton calls call ih =>
    rw [ofCalls_concat]
    exact isKey_offer ih call.1 call.2

theorem labels_of_session {κ : Type} (s : PacketSession κ) :
    ∃ labels, s.labels = .ok labels ∧
      labels.pairs = (s.host.map fun host => ("hostname", host)).toList ++
        (s.app.map fun app => ("appname", app)).toList := by
  rw [PacketSession.labels]
  cases s.host <;> cases s.app <;> exact ⟨_, rfl, rfl⟩

/-- Whatever calls are made on a header, its text gives the labels back exactly if no value has a line
break in it, and labels of which that is so are told apart by their texts. It is the same with the
header of a session, whose values are the names of its host and its application. -/
theorem content_read_iff (calls : List (String × String)) :
    (read? (ofCalls calls).content = some (ofCalls calls).pairs ↔
      ∀ pair ∈ (ofCalls calls).pairs, OneLine pair.2) ∧
    (∀ calls' : List (String × String), (∀ pair ∈ (ofCalls calls).pairs, OneLine pair.2) →
      (∀ pair ∈ (ofCalls calls').pairs, OneLine pair.2) →
      (ofCalls calls).content = (ofCalls calls').content →
      (ofCalls calls).pairs = (ofCalls calls').pairs) ∧
    ∀ {κ : Type} (s : PacketSession κ), ∃ labels, s.labels = .ok labels ∧
      labels.pairs = (s.host.map fun host => ("hostname", host)).toList ++
        (s.app.map fun app => ("appname", app)).toList ∧
      (read? labels.content = some labels.pairs ↔
        (∀ host, s.host = some host → OneLine host) ∧ ∀ app, s.app = some app → OneLine app) := by
  have hread (calls : List (String × String)) := read?_content_eq_iff (isKey_ofCalls calls)
  refine ⟨hread calls, ?_, ?_⟩
  · intro calls' h h' heq
    have hpairs := (hread calls).2 h
    rw [heq, (hread calls').2 h'] at hpairs
    exact (Option.some.inj hpairs).symm
  · intro κ s
    obtain ⟨labels, hlabels, hpairs⟩ := labels_of_session s
    have hhost : isKey "hostname" = true := by decide
    have happ : isKey "appname" = true := by decide
    have hkeys : ∀ pair ∈ labels.pairs, isKey pair.1 = true := by
      rw [hpairs]
      cases s.host <;> cases s.app <;> simp [hhost, happ]
    refine ⟨labels, hlabels, hpairs, (read?_content_eq_iff hkeys).trans ?_⟩
    rw [hpairs]
    cases s.host <;> cases s.app <;> simp

/-- A host name with a line break in it makes the same text as a host name and an application name. -/
theorem content_of_broken_value :
    let merged := ofCalls [("hostname", "a\r\nappname=b")]
    let apart := ofCalls [("hostname", "a"), ("appname", "b")]
    merged.pairs = [("hostname", "a\r\nappname=b")] ∧
      read? merged.content = some [("hostname", "a"), ("appname", "b")] ∧
      merged.pairs ≠ apart.pairs ∧ merged.content = apart.content := by
  decide

end Labels

end PacketLog
