import Mathlib
import PacketLog.Packet.Size
import PacketLog.Proofs.Output.Emission

namespace PacketLog

open Output

/-- Whether a string holds anything; an unset one does not. -/
def holdsText (s : Option String) : Bool := s.getD "" != ""

theorem stringSize_eq (s : Option String) :
    stringSize s = (Wire.textOf s).length + if holdsText s then 4 else 0 := by
  cases s with
  | none => rfl
  | some s =>
    rw [Wire.textOf, Option.getD_some, Text.length_bytes]
    by_cases hs : s = ""
    · subst hs
      rfl
    · have he : s.isEmpty = false := by simpa using hs
      have hh : holdsText (some s) = true := by simpa [holdsText] using hs
      simp only [stringSize, he, hh, stringOverhead, Bool.false_eq_true, ↓reduceIte]

theorem dataSize_eq (data : Option Bytes) : dataSize data = (data.getD []).length := by
  cases data with
  | none => rfl
  | some bs => rfl

theorem sum_stringSize (ss : List (Option String)) :
    (ss.map stringSize).sum =
      (ss.map fun s => (Wire.textOf s).length).sum + 4 * ss.countP holdsText := by
  induction ss with
  | nil => rfl
  | cons s ss ih =>
    rw [List.map_cons, List.map_cons, List.sum_cons, List.sum_cons, List.countP_cons, ih,
      stringSize_eq]
    cases holdsText s <;> simp only [Bool.false_eq_true, ↓reduceIte] <;> omega

/-- What a packet of a kind costs without strings and data. -/
def PacketKind.fixedSize : PacketKind → Nat
  | .logEntry => 48
  | .processFlow => 28
  | .watch => 20
  | .controlCommand => 8
  | .logHeader => 4

namespace Packet

def strings : Packet → List (Option String)
  | .entry e => [e.app, e.session, e.title, e.host]
  | .flow f => [f.title, f.host]
  | .watch w => [some w.name, some w.value]
  | .command _ => []
  | .header h => [some h.labels.content]

def data : Packet → Option Bytes
  | .entry e => e.data
  | .command c => c.data
  | _ => none

theorem size_eq (p : Packet) :
    p.size = p.kind.fixedSize + (p.strings.map stringSize).sum + (p.data.getD []).length := by
  rw [← dataSize_eq]
  cases p with
  | command c => rfl
  | header h => rfl
  | _ =>
    simp only [size, Entry.size, Flow.size, Watch.size, kind, PacketKind.fixedSize, strings, data,
      dataSize, List.map_cons, List.map_nil, List.sum_cons, List.sum_nil]
    omega

theorem length_body (p : Packet) :
    (Wire.body p).length = p.kind.fixedSize + (p.strings.map fun s => (Wire.textOf s).length).sum +
      (p.data.getD []).length := by
  cases p with
  | command c => exact Wire.length_commandBody c
  | header h => exact Wire.length_headerBody h
  | _ =>
    simp only [Wire.body, Wire.length_entryBody, Wire.length_flowBody, Wire.length_watchBody, kind,
      PacketKind.fixedSize, strings, data, Wire.textOf, List.map_cons, List.map_nil, List.sum_cons,
      List.sum_nil, Option.getD_none, Option.getD_some, List.length_nil]
    omega

/-- Packets alike in all that their cost may depend on: their kind, their strings and their data, with
nothing in the place of what is unset. -/
structure CostsLike (q p : Packet) : Prop where
  kind : q.kind = p.kind
  strings : q.strings.map (·.getD "") = p.strings.map (·.getD "")
  data : q.data.getD [] = p.data.getD []

variable {p q : Packet}

theorem CostsLike.length_body (h : q.CostsLike p) : (Wire.body q).length = (Wire.body p).length := by
  have htext (r : Packet) : (r.strings.map fun s => (Wire.textOf s).length) =
      (r.strings.map (·.getD "")).map fun s => (Text.bytes s).length := by
    rw [List.map_map]
    rfl
  rw [Packet.length_body, Packet.length_body, h.kind, h.data, htext, htext, h.strings]

theorem CostsLike.countP_holdsText (h : q.CostsLike p) :
    q.strings.countP holdsText = p.strings.countP holdsText := by
  have hcount (r : Packet) :
      r.strings.countP holdsText = (r.strings.map (·.getD "")).countP (· != "") := by
    rw [List.countP_map]
    rfl
  rw [hcount, hcount, h.strings]

theorem length_body_add_overhead (p : Packet) :
    (Wire.body p).length + 4 * p.strings.countP holdsText = p.size := by
  rw [length_body, size_eq, sum_stringSize]
  omega

theorem CostsLike.size (h : q.CostsLike p) : q.size = p.size := by
  rw [← length_body_add_overhead, ← length_body_add_overhead, h.length_body, h.countP_holdsText]

/-- Whatever was compiled before, a packet compiles to as many bytes as its size and the head of a
frame, less four for every string that holds something. So no device is written more than that, and
packets that are alike up to stamps, codes, colours and what is unset cost the same either way. -/
theorem compile_add_overhead (f : BinaryFormat) (p : Packet) :
    (f.compile p).1 + 4 * p.strings.countP holdsText = p.size + Wire.frameHeadSize ∧
      (∀ d : Device,
        (((Format.binary f).compile p).2.write d).2.held.length ≤ d.held.length + (p.size + 6)) ∧
      ∀ (g : BinaryFormat) (q : Packet), q.CostsLike p →
        q.size = p.size ∧ (g.compile q).1 = (f.compile p).1 := by
  have hcompile (g : BinaryFormat) (q : Packet) :
      (g.compile q).1 = (Wire.body q).length + Wire.frameHeadSize := by
    rw [BinaryFormat.compile_eq]
    rfl
  have hsize := p.length_body_add_overhead
  refine ⟨?_, ?_, ?_⟩
  · rw [hcompile]
    omega
  · intro d
    have hemission : ((Format.binary f).emission p).length = (Wire.body p).length + 6 := by
      rw [← Format.compile_fst, Format.compile_binary]
      exact hcompile f p
    rw [((Format.binary f).took_write_compile d p).held, List.length_append, List.length_take]
    omega
  · intro g q h
    rw [hcompile, hcompile, h.length_body]
    exact ⟨h.size, rfl⟩

end Packet

end PacketLog
