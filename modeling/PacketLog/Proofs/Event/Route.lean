import PacketLog.Proofs.Session.Gate

namespace PacketLog

/-- The operations that log at one level and do no more. -/
inductive Operation.PlainAt : Level → Operation → Prop where
  | debug : PlainAt .debug .logDebug
  | verbose : PlainAt .verbose .logVerbose
  | message : PlainAt .message .logMessage
  | warning : PlainAt .warning .logWarning
  | error : PlainAt .error .logError

theorem Operation.plainAt_ofLevel {l : Level} (h : l ≤ .error) (e : Event) :
    PlainAt l ((Route.ofLevel l).operation e) := by
  cases l with
  | fatal => exact absurd h (by decide)
  | control => exact absurd h (by decide)
  | _ => constructor

theorem Operation.PlainAt.eq_ofLevel {l : Level} {operation : Operation} (h : PlainAt l operation)
    (e : Event) : operation = (Route.ofLevel l).operation e := by
  cases h <;> rfl

namespace Event

/-- An event that is neither for entering nor for leaving a method. -/
def IsPlain (e : Event) : Prop := ∀ l, e.route ≠ .enterMethod l ∧ e.route ≠ .leaveMethod l

theorem isPlain_iff {e : Event} :
    e.IsPlain ↔ e.operation.kind ≠ .enterMethod ∧ e.operation.kind ≠ .leaveMethod := by
  cases h : e.route with
  | exception =>
    cases he : e.error <;> simp [IsPlain, operation, Route.operation, h, he, Operation.kind]
  | _ => simp [IsPlain, operation, Route.operation, h, Operation.kind]

instance (e : Event) : Decidable e.IsPlain := decidable_of_iff _ isPlain_iff.symm

/-- An event without error that is marked with a token at its front. -/
structure Marked (token : String) (e : Event) : Prop where
  error : e.error = none
  mark : token.toList <+: e.message.toList

theorem Marked.route_entry {e : Event} (h : e.Marked entryToken) :
    e.route = .enterMethod e.severity.level := by
  have hm := List.isPrefixOf_iff_prefix.2 h.mark
  simp only [route, h.error, Option.isSome_none, Bool.false_eq_true, hm, ↓reduceIte]

theorem Marked.route_return {e : Event} (h : e.Marked returnToken) :
    e.route = .leaveMethod e.severity.level := by
  have hm := List.isPrefixOf_iff_prefix.2 h.mark
  have hn : entryToken.toList.isPrefixOf e.message.toList = false := by
    obtain ⟨rest, hr⟩ := h.mark
    rw [← hr]
    rfl
  simp only [route, h.error, Option.isSome_none, hm, hn, Bool.false_eq_true, ↓reduceIte]

/-- Whether an event names an operation: that of its error, or else that of the token at the front of
its message, or else the plain one of its level. -/
inductive Names (e : Event) : Operation → Prop where
  | logException {error : EventError} (h : e.error = some error) :
    Names e (.logException error)
  | enterMethod (h : e.Marked entryToken) : Names e (.enterMethod e.severity.level)
  | leaveMethod (h : e.Marked returnToken) : Names e (.leaveMethod e.severity.level)
  | plain {operation : Operation} (h : e.error = none)
      (hentry : ¬ entryToken.toList <+: e.message.toList)
      (hreturn : ¬ returnToken.toList <+: e.message.toList)
      (hplain : operation.PlainAt e.severity.level) : Names e operation

theorem route_of_not_marked {e : Event} (h : e.error = none)
    (hentry : ¬ entryToken.toList <+: e.message.toList)
    (hreturn : ¬ returnToken.toList <+: e.message.toList) :
    e.route = .ofLevel e.severity.level := by
  rw [← List.isPrefixOf_iff_prefix] at hentry hreturn
  simp only [route, h, Option.isSome_none, hentry, hreturn, Bool.false_eq_true, ↓reduceIte]

theorem Marked.operation_entry {e : Event} (h : e.Marked entryToken) :
    e.operation = .enterMethod e.severity.level := by
  rw [operation, h.route_entry, Route.operation]

theorem Marked.operation_return {e : Event} (h : e.Marked returnToken) :
    e.operation = .leaveMethod e.severity.level := by
  rw [operation, h.route_return, Route.operation]

/-- An event names the operation that it is dispatched to and no other. -/
theorem names_iff {e : Event} {operation : Operation} :
    e.Names operation ↔ operation = e.operation := by
  constructor
  · intro h
    cases h with
    | logException h => exact (operation_of_error h).symm
    | enterMethod h => exact h.operation_entry.symm
    | leaveMethod h => exact h.operation_return.symm
    | plain h hentry hreturn hplain =>
      rw [Event.operation, route_of_not_marked h hentry hreturn]
      exact hplain.eq_ofLevel e
  · rintro rfl
    cases h : e.error with
    | some error =>
      rw [operation_of_error h]
      exact .logException h
    | none =>
      by_cases hentry : entryToken.toList <+: e.message.toList
      · have hm : e.Marked entryToken := ⟨h, hentry⟩
        rw [hm.operation_entry]
        exact .enterMethod hm
      by_cases hreturn : returnToken.toList <+: e.message.toList
      · have hm : e.Marked returnToken := ⟨h, hreturn⟩
        rw [hm.operation_return]
        exact .leaveMethod hm
      · refine .plain h hentry hreturn ?_
        rw [Event.operation, route_of_not_marked h hentry hreturn]
        exact Operation.plainAt_ofLevel e.severity.level_le_error e

end Event

end PacketLog
