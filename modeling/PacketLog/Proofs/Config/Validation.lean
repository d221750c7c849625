import PacketLog.Config.Reader
import PacketLog.Proofs.Output.Depth

namespace PacketLog

theorem Text.isAllBlank_eq_false_iff {s : String} :
    isAllBlank s = false ↔ ∃ c ∈ s.toList, isBlank c = false := by
  rw [isAllBlank, List.all_eq_false]
  simp only [Bool.not_eq_true]

namespace Output

namespace FormatCall

def isSetting : FormatCall → Bool
  | .setPattern _ | .setIndent _ => true
  | _ => false

theorem foldl_inForce {calls : List FormatCall} (h : ∀ c ∈ calls, c.isSetting = false)
    (pattern : String) : calls.foldl inForce pattern = pattern := by
  induction calls with
  | nil => rfl
  | cons c calls ih =>
    have hc := h c List.mem_cons_self
    have hi : c.inForce pattern = pattern := by
      cases c with
      | setPattern pattern => cases hc
      | _ => rfl
    rw [List.foldl_cons, hi]
    exact ih fun c' hc' => h c' (List.mem_cons_of_mem c hc')

theorem isSetIndent_eq_false {c : FormatCall} (h : c.isSetting = false) :
    c.isSetIndent = false := by
  cases c with
  | setIndent indent => cases h
  | _ => rfl

theorem movesOf_empty {calls : List FormatCall} (h : ∀ c ∈ calls, c.isSetting = false) :
    movesOf "" calls = [] := by
  induction calls with
  | nil => rfl
  | cons c calls ih =>
    have hc := h c List.mem_cons_self
    have hi : [c].foldl inForce "" = "" := foldl_inForce (List.forall_mem_singleton.2 hc) ""
    rw [List.foldl_cons, List.foldl_nil] at hi
    rw [movesOf, hi, ih fun c' hc' => h c' (List.mem_cons_of_mem c hc')]
    rfl

end FormatCall

open FormatCall

theorem TextFormat.renderer_after_of_not_setting (f : TextFormat) {calls : List FormatCall}
    (h : ∀ c ∈ calls, c.isSetting = false) :
    (f.after calls).renderer = { f.renderer with
      depth := walk f.renderer.depth (movesOf f.renderer.pattern calls) } := by
  rw [renderer_after, foldl_inForce h, foldl_indents fun c hc => isSetIndent_eq_false (h c hc)]

theorem Format.after_text (f : TextFormat) (calls : List FormatCall) :
    (Format.text f).after calls = .text (f.after calls) := by
  induction calls generalizing f with
  | nil => rfl
  | cons c calls ih => exact ih (f.call c)

end Output

namespace FormatConfig

open Output
open Output.FormatCall
open Pattern (Renderer)

variable {c : FormatConfig}

theorem validate_eq_ok_iff :
    c.validate = .ok () ↔
      (c.kind = .text → ∀ p, c.pattern = some p → (Renderer.ofPattern p).tokens ≠ []) := by
  rw [validate]
  constructor
  · intro h hkind p hp hnil
    rw [if_pos] at h
    · cases h
    · refine ⟨hkind, ?_⟩
      rw [hp]
      exact Renderer.tokens_trim_eq_nil_iff.1 hnil
  · intro h
    rw [if_neg]
    rintro ⟨hkind, hblank⟩
    obtain ⟨p, hp, hb⟩ := (Option.any_eq_true _ _).1 hblank
    exact h hkind p hp (Renderer.tokens_trim_eq_nil_iff.2 hb)

/-- The pattern in force is the configured one, or else the default, which is not blank. -/
theorem tokens_getD_ne_nil_iff (hkind : c.kind = .text) :
    (Renderer.ofPattern (c.pattern.getD defaultPattern)).tokens ≠ [] ↔ c.validate = .ok () := by
  rw [validate_eq_ok_iff]
  cases hp : c.pattern with
  | none =>
    have hdefault : Text.isAllBlank defaultPattern = false := by decide
    refine iff_of_true ?_ fun _ => nofun
    exact Renderer.tokens_ne_nil hdefault false 0
  | some p =>
    constructor
    · intro h _ q hq
      obtain rfl := Option.some.inj hq
      exact h
    · intro h
      exact h hkind p rfl

theorem after_format (hkind : c.kind = .text) {calls : List FormatCall}
    (hcalls : ∀ call ∈ calls, call.isSetting = false) :
    ∃ f : TextFormat, c.format.after calls = .text f ∧ f.renderer =
      let r := Renderer.ofPattern (c.pattern.getD defaultPattern)
      ⟨r.pattern, c.indent, walk 0 (movesOf r.pattern calls)⟩ := by
  have hformat : c.format = .text (.ofPattern (c.pattern.getD defaultPattern) c.indent) := by
    rw [format, hkind]
  rw [hformat, Format.after_text]
  exact ⟨_, rfl, TextFormat.renderer_after_of_not_setting _ hcalls⟩

end FormatConfig

namespace Config

open Output
open Output.FormatCall
open Pattern (Renderer Shows)

theorem validate_eq_ok_iff {c : Config} :
    c.validate = .ok () ↔
      (∃ ch ∈ c.session.name.toList, Text.isBlank ch = false) ∧ c.format.validate = .ok () := by
  rw [← Text.isAllBlank_eq_false_iff, validate]
  cases Text.isAllBlank c.session.name with
  | true => exact ⟨nofun, nofun⟩
  | false =>
    rw [if_neg Bool.false_ne_true]
    exact ⟨fun h => ⟨rfl, h⟩, And.right⟩

theorem read_eq_ok_iff {text : String} {c : Config} :
    read text = .ok c ↔ ofToml text = .ok c ∧ c.validate = .ok () := by
  rw [read]
  cases ofToml text with
  | error fault => exact ⟨nofun, nofun⟩
  | ok c' =>
    change c'.validate.map (fun () => c') = .ok c ↔ _
    cases hvalid : c'.validate with
    | error fault =>
      refine ⟨nofun, ?_⟩
      rintro ⟨h, hc⟩
      obtain rfl := Except.ok.inj h
      rw [hvalid] at hc
      cases hc
    | ok =>
      constructor
      · intro h
        obtain rfl := Except.ok.inj h
        exact ⟨rfl, hvalid⟩
      · rintro ⟨h, -⟩
        obtain rfl := Except.ok.inj h
        rfl

/-- A configuration is accepted exactly if its session has a name that is not blank and, for a text
format, a pattern that is set has tokens. However the format of an accepted one is used, every entry
has the fields of at least one token in its line, and the depth moves with every entry that enters
or leaves a method; with a pattern that is refused there would be no field, and no depth. -/
theorem validate_renders (c : Config) :
    (c.validate = .ok () ↔
      (∃ ch ∈ c.session.name.toList, Text.isBlank ch = false) ∧
        (c.format.kind = .text →
          ∀ p, c.format.pattern = some p → (Renderer.ofPattern p).tokens ≠ [])) ∧
    (∀ text, read text = .ok c ↔ ofToml text = .ok c ∧ c.validate = .ok ()) ∧
    (c.format.kind = .text → ∀ calls : List FormatCall,
      (∀ call ∈ calls, call.isSetting = false) →
      ∃ f : TextFormat, c.format.format.after calls = .text f ∧
        (c.validate = .ok () → f.renderer.tokens ≠ [] ∧
          f.renderer.depth = walk 0 (calls.filterMap entryMove?)) ∧
        (c.format.validate ≠ .ok () → f.renderer.tokens = [] ∧ f.renderer.depth = 0) ∧
        ∀ e : Entry,
          let depth := f.renderer.depth
          let shown := if e.kind = .leaveMethod then depth - 1 else depth
          ∃ fields, List.Forall₂ (Shows (if c.format.indent then 3 * shown else 0) e)
            f.renderer.tokens fields ∧
            (f.compile (.entry e)).2.line = some (lineBytes fields.flatten)) := by
  refine ⟨?_, fun text => read_eq_ok_iff, ?_⟩
  · rw [validate_eq_ok_iff, FormatConfig.validate_eq_ok_iff]
  · intro hkind calls hcalls
    obtain ⟨f, hafter, hf⟩ := FormatConfig.after_format hkind hcalls
    have htokens : f.renderer.tokens =
        (Renderer.ofPattern (c.format.pattern.getD defaultPattern)).tokens := by
      rw [hf]
      rfl
    refine ⟨f, hafter, ?_, ?_, ?_⟩
    · intro hvalid
      have hne := (FormatConfig.tokens_getD_ne_nil_iff hkind).2 (validate_eq_ok_iff.1 hvalid).2
      rw [htokens]
      refine ⟨hne, ?_⟩
      rw [hf]
      dsimp only
      rw [movesOf_eq_filterMap (mt Renderer.tokens_eq_nil_iff.2 hne)]
      intro p hp
      cases hcalls (.setPattern p) hp
    · intro hrefused
      have hnil := not_not.1 (mt (FormatConfig.tokens_getD_ne_nil_iff hkind).1 hrefused)
      rw [htokens]
      refine ⟨hnil, ?_⟩
      rw [hf]
      dsimp only
      rw [Renderer.tokens_eq_nil_iff.1 hnil, movesOf_empty hcalls]
      rfl
    · intro e
      obtain ⟨fields, hfields, hline⟩ := Renderer.line_eq_iff.1 (rfl : f.renderer.line e = _)
      have hindent : f.renderer.indent = c.format.indent := by rw [hf]
      rw [hindent] at hfields
      exact ⟨fields, hfields, hline ▸ f.line_compile_entry e⟩

end Config

end PacketLog
