import Mathlib.Data.List.Basic
import PacketLog.Proofs.Event.Placeholder
import PacketLog.Proofs.Event.Route
import PacketLog.Proofs.Text.Blank

namespace PacketLog

/-- The marks that a message of a method call begins with. -/
inductive Mark where
  | enter | leave
  deriving DecidableEq, Repr

namespace Mark

def token : Mark → String
  | .enter => entryToken
  | .leave => returnToken

def route : Mark → Level → Route
  | .enter => .enterMethod
  | .leave => .leaveMethod

theorem brace_not_mem_token (m : Mark) : '{' ∉ m.token.toList := by
  cases m <;> decide

theorem trimmed_token (m : Mark) : Text.Trimmed m.token.toList := by
  cases m <;> decide

theorem token_ne_nil (m : Mark) : m.token.toList ≠ [] := by
  cases m <;> decide

theorem stripToken_append (m : Mark) (rest : List Char) :
    stripToken (m.token.toList ++ rest) = rest := by
  cases m with
  | enter =>
    have h : entryToken.toList.isPrefixOf? (entryToken.toList ++ rest) = some rest :=
      List.isPrefixOf?_eq_some_iff_append_eq.2 rfl
    rw [stripToken, token, h]
  | leave =>
    have he : entryToken.toList.isPrefixOf? (returnToken.toList ++ rest) = none := rfl
    have h : returnToken.toList.isPrefixOf? (returnToken.toList ++ rest) = some rest :=
      List.isPrefixOf?_eq_some_iff_append_eq.2 rfl
    rw [stripToken, token, he, h, Option.getD_some]

theorem stripToken_eq_self {cs : List Char} (h : ∀ m : Mark, ¬ m.token.toList <+: cs) :
    stripToken cs = cs := by
  have hnone (m : Mark) : m.token.toList.isPrefixOf? cs = none := by
    apply Option.eq_none_iff_forall_ne_some.2
    intro rest hrest
    exact h m ⟨rest, List.isPrefixOf?_eq_some_iff_append_eq.1 hrest⟩
  have he : entryToken.toList.isPrefixOf? cs = none := hnone .enter
  have hr : returnToken.toList.isPrefixOf? cs = none := hnone .leave
  rw [stripToken, he, hr, Option.getD_none]

end Mark

namespace Event

variable {e : Event}

theorem Marked.route_eq {m : Mark} (h : e.Marked m.token) :
    e.route = m.route e.severity.level := by
  cases m with
  | enter => exact h.route_entry
  | leave => exact h.route_return

theorem route_ne_of_not_marked (h : e.error = none)
    (hm : ∀ m : Mark, ¬ m.token.toList <+: e.message.toList) (m : Mark) :
    e.route ≠ m.route e.severity.level := by
  rw [route_of_not_marked h (hm .enter) (hm .leave)]
  cases m <;> cases e.severity.level <;> exact nofun

theorem formatted_append {mark rest : String} (hb : '{' ∉ mark.toList)
    (hm : e.message = mark ++ rest) :
    e.formatted = mark.toList ++ ({ e with message := rest } : Event).formatted := by
  rw [formatted, formatted, hm, String.toList_append]
  dsimp only
  split
  · rfl
  · exact Placeholder.substitute_append e.params hb rest.toList

theorem formatted_of_params_eq_nil (h : e.params = []) : e.formatted = e.message.toList := by
  simp only [formatted, h, List.isEmpty_nil, ↓reduceIte]

theorem titleText_of_formatted {m : Mark} {rest : List Char} (h : e.error = none)
    (hf : e.formatted = m.token.toList ++ rest) : e.titleText = Text.trimRight rest := by
  have hhead : ∀ c, (m.token.toList ++ rest).head? = some c → Text.isBlank c = false := by
    obtain ⟨c, cs, hc⟩ := List.exists_cons_of_ne_nil m.token_ne_nil
    have hm := m.trimmed_token.head
    rw [hc] at hm ⊢
    exact hm
  simp only [titleText, h, hf]
  rw [Text.trimChars, Text.trimLeft_of_head hhead,
    Text.trimRight_append_of_last m.trimmed_token.last, m.stripToken_append]

/-- Whether an event comes from somewhere: from the operation of a unit, from a unit of which no
operation is told, or else from a logger, which may be unset. -/
inductive ComesFrom (e : Event) : List Char → Prop where
  | operation {unit operation : String} (hu : e.sourceUnit = some unit)
      (ho : e.sourceOperation = some operation) :
      ComesFrom e (unit.toList ++ '.' :: operation.toList)
  | unit {unit : String} (hu : e.sourceUnit = some unit) (ho : e.sourceOperation = none) :
      ComesFrom e unit.toList
  | logger (hu : e.sourceUnit = none) : ComesFrom e (e.logger.getD "").toList

theorem comesFrom_origin (e : Event) : e.ComesFrom e.origin := by
  rw [origin]
  split
  · next hu ho => exact .operation hu ho
  · next hu ho => exact .unit hu ho
  · next hu => exact .logger hu

inductive Titled (origin text : List Char) : List Char → Prop where
  | blank (ht : text.all Text.isBlank = true) : Titled origin text origin
  | alone (ht : text.all Text.isBlank = false) (ho : origin = []) : Titled origin text text
  | spaced (ht : text.all Text.isBlank = false) (ho : origin ≠ []) (hs : text.head? = some ' ') :
      Titled origin text (origin ++ ':' :: text)
  | joined (ht : text.all Text.isBlank = false) (ho : origin ≠ []) (hs : text.head? ≠ some ' ') :
      Titled origin text (origin ++ ':' :: ' ' :: text)

theorem titled_joinTitle (origin text : List Char) :
    Titled origin text (joinTitle origin text) := by
  rw [joinTitle]
  split
  · next ht => exact .blank ht
  next ht =>
  rw [Bool.not_eq_true] at ht
  split
  · next ho => exact .alone ht (List.isEmpty_iff.1 ho)
  next ho =>
  rw [List.isEmpty_iff] at ho
  split
  · next hs => exact .spaced ht ho hs
  · next hs => exact .joined ht ho hs

/-- Whether the title of an event has a text behind the origin of the event. -/
def Shows (e : Event) (text : List Char) : Prop :=
  ∃ origin, e.ComesFrom origin ∧ Titled origin text e.title.toList

theorem shows_titleText (e : Event) : e.Shows e.titleText := by
  refine ⟨e.origin, e.comesFrom_origin, ?_⟩
  rw [title, String.toList_ofList]
  exact titled_joinTitle e.origin e.titleText

/-- The mark in front of a message decides the route, and the title has all that the rest of the
message says. Where a message has no parameters and no blank in front, a mark is missing from the
title only if it has decided the route; otherwise the title has the whole message. -/
theorem title_lacks_routed_mark :
    (∀ (m : Mark) (e : Event) (rest : String), e.error = none → e.message = m.token ++ rest →
      e.route = m.route e.severity.level ∧
        e.Shows (Text.trimRight ({ e with message := rest } : Event).formatted)) ∧
    ∀ e : Event, e.error = none → e.params = [] →
      (∀ c, e.message.toList.head? = some c → Text.isBlank c = false) →
      (∃ (m : Mark) (rest : List Char),
        Text.trimChars e.message.toList = m.token.toList ++ rest ∧
          e.route = m.route e.severity.level ∧ e.Shows rest) ∨
      ((∀ m : Mark, e.route ≠ m.route e.severity.level) ∧
        e.Shows (Text.trimChars e.message.toList)) := by
  refine ⟨?_, ?_⟩
  · intro m e rest he hmessage
    have hmark : m.token.toList <+: e.message.toList := by
      rw [hmessage, String.toList_append]
      exact List.prefix_append _ _
    refine ⟨(Marked.mk he hmark).route_eq, ?_⟩
    rw [← titleText_of_formatted he (formatted_append m.brace_not_mem_token hmessage)]
    exact e.shows_titleText
  · intro e he hparams hhead
    have hf := formatted_of_params_eq_nil hparams
    have htrim : Text.trimChars e.message.toList = Text.trimRight e.message.toList := by
      rw [Text.trimChars, Text.trimLeft_of_head hhead]
    by_cases h : ∃ m : Mark, m.token.toList <+: e.message.toList
    · obtain ⟨m, hmark⟩ := h
      have hroute := (Marked.mk he hmark).route_eq
      obtain ⟨rest, hrest⟩ := hmark
      refine .inl ⟨m, Text.trimRight rest, ?_, hroute, ?_⟩
      · rw [htrim, ← hrest, Text.trimRight_append_of_last m.trimmed_token.last]
      · rw [← titleText_of_formatted he (hf.trans hrest.symm)]
        exact e.shows_titleText
    · have hm : ∀ m : Mark, ¬ m.token.toList <+: e.message.toList := fun m hm => h ⟨m, hm⟩
      refine .inr ⟨route_ne_of_not_marked he hm, ?_⟩
      -- What is trimmed off at the back cannot have hidden a mark at the front.
      have hstrip : stripToken (Text.trimChars e.message.toList) =
          Text.trimChars e.message.toList := by
        apply Mark.stripToken_eq_self
        intro m hp
        rw [htrim] at hp
        exact hm m (hp.trans (Text.trimRight_prefix _))
      have htext : e.titleText = Text.trimChars e.message.toList := by
        simp only [titleText, he, hf, hstrip]
      rw [← htext]
      exact e.shows_titleText

/-- A mark behind the one that decides the route stays in the title. -/
theorem title_lacks_routed_mark_sample :
    let e : Event :=
      { message := "RETURNENTRY \x7b0\x7d ", params := ["x"], logger := some "log" }
    e.error = none ∧ e.message = Mark.leave.token ++ "ENTRY \x7b0\x7d " ∧
      e.route = .leaveMethod e.severity.level ∧ e.Shows "ENTRY x".toList := by
  intro e
  obtain ⟨hroute, hshows⟩ := title_lacks_routed_mark.1 .leave e "ENTRY \x7b0\x7d " rfl (by decide)
  have hrest : Text.trimRight ({ e with message := "ENTRY \x7b0\x7d " } : Event).formatted =
      "ENTRY x".toList := by cbv
  exact ⟨rfl, by decide, hroute, hrest ▸ hshows⟩

end Event

end PacketLog
