import PacketLog.Proofs.Output.Emission

namespace PacketLog.Output

/-- A call on a format, or a change of the memory behind it. -/
inductive FormatCall where
  | compile (p : Packet)
  | write (d : Device)
  | setPattern (pattern : String)
  | setIndent (indent : Bool)
  /-- The buffer of a binary body comes to hold another number of bytes. -/
  | resize (capacity : Nat)

def FormatCall.isCompile : FormatCall → Bool
  | .compile _ => true
  | _ => false

namespace TextFormat

def call (f : TextFormat) : FormatCall → TextFormat
  | .compile p => (f.compile p).2
  | .setPattern pattern => f.setPattern pattern
  | .setIndent indent => f.setIndent indent
  | .write _ | .resize _ => f

def after (f : TextFormat) (calls : List FormatCall) : TextFormat := calls.foldl call f

theorem line_call (f : TextFormat) {c : FormatCall} (hc : c.isCompile = false) :
    (f.call c).line = f.line := by
  cases c with
  | compile p => cases hc
  | _ => rfl

theorem compile_of_entry?_eq_none (f : TextFormat) {p : Packet} (h : p.entry? = none) :
    f.compile p = (0, { f with line := none }) := by
  simp only [compile, h]

end TextFormat

namespace BinaryFormat

/-- A binary format has no settings. -/
def call (f : BinaryFormat) : FormatCall → BinaryFormat
  | .compile p => (f.compile p).2
  | .resize capacity => { f with capacity }
  | .write _ | .setPattern _ | .setIndent _ => f

theorem frame_call (f : BinaryFormat) {c : FormatCall} (hc : c.isCompile = false) :
    (f.call c).frame = f.frame := by
  cases c with
  | compile p => cases hc
  | _ => rfl

end BinaryFormat

namespace Format

def call (f : Format) (c : FormatCall) : Format :=
  match f with
  | .text f => .text (f.call c)
  | .binary f => .binary (f.call c)

def after (f : Format) (calls : List FormatCall) : Format := calls.foldl call f

theorem call_compile (f : Format) (p : Packet) : f.call (.compile p) = (f.compile p).2 := by
  cases f <;> rfl

theorem call_write (f : Format) (d : Device) : f.call (.write d) = f := by
  cases f <;> rfl

theorem after_append (f : Format) (calls more : List FormatCall) :
    f.after (calls ++ more) = (f.after calls).after more :=
  List.foldl_append

theorem after_writes (f : Format) (ds : List Device) : f.after (ds.map .write) = f := by
  induction ds with
  | nil => rfl
  | cons d ds ih =>
    rw [List.map_cons, after, List.foldl_cons, call_write]
    exact ih

theorem chunks_after (f : Format) {calls : List FormatCall}
    (hcalls : ∀ c ∈ calls, c.isCompile = false) : (f.after calls).chunks = f.chunks := by
  induction calls generalizing f with
  | nil => rfl
  | cons c calls ih =>
    have hc := hcalls c List.mem_cons_self
    have hi := ih (f.call c) fun c' hc' => hcalls c' (List.mem_cons_of_mem c hc')
    refine hi.trans ?_
    cases f with
    | text f => exact congrArg Option.toList (f.line_call hc)
    | binary f =>
      have hframe := f.frame_call hc
      simp only [call, chunks, BinaryFormat.chunks, hframe]

/-- Whether a format hands over some bytes: to a device that has room for them all of them, and to
any other as many of the first of them as fit. -/
def Emits (f : Format) (bs : Bytes) : Prop :=
  ∀ d : Device, (f.write d).1 = (if d.Fits bs then .ok () else .error d.whenFull) ∧
    d.Took bs (f.write d).2

theorem emits_of_chunks {f : Format} {bs : Bytes} (h : f.chunks.flatten = bs) : f.Emits bs := by
  intro d
  rw [← h]
  exact writeEach_device d f.chunks

/-- What a format puts together for a packet: a text format a line for a log entry and nothing for any
other packet, a binary format a frame. -/
def Forms : Format → Packet → Bytes → Prop
  | .text _, .entry _, bs => ∃ text, bs = Text.bytes (String.ofList text) ++ [0x0D, 0x0A]
  | .text _, _, bs => bs = []
  | .binary _, p, bs => bs = (Wire.Frame.ofPacket p).bytes

theorem forms_emission (f : Format) (p : Packet) : f.Forms p (f.emission p) := by
  cases f with
  | text f =>
    cases p with
    | entry e => exact ⟨_, emission_text_entry f e⟩
    | _ => exact emission_text_of_entry?_eq_none f rfl
  | binary f => exact emission_binary f p

/-- After any calls, a compile tells the number of bytes that it puts together, and whatever follows
but another compile, a write hands over those bytes. Before the first compile there are none. Writing
changes nothing, and a packet without a line only takes the last line away. -/
theorem after_emits (f : Format) (calls : List FormatCall) :
    (f.chunks = [] → (∀ c ∈ calls, c.isCompile = false) → (f.after calls).Emits []) ∧
    (∀ (p : Packet) (rest : List FormatCall), (∀ c ∈ rest, c.isCompile = false) →
      ∃ bs, bs.length = ((f.after calls).compile p).1 ∧ (f.after calls).Forms p bs ∧
        ((f.after calls).compile p).2.Emits bs ∧
        (f.after (calls ++ .compile p :: rest)).Emits bs) ∧
    (∀ ds : List Device, f.after (calls ++ ds.map .write) = f.after calls) ∧
    (∀ t : TextFormat, f.after calls = .text t → ∀ p : Packet, p.entry? = none →
      t.compile p = (0, { t with line := none })) := by
  refine ⟨?_, ?_, ?_, ?_⟩
  · intro hf hcalls
    apply emits_of_chunks
    rw [f.chunks_after hcalls, hf, List.flatten_nil]
  · intro p rest hrest
    have hlast : f.after (calls ++ .compile p :: rest) =
        ((f.after calls).compile p).2.after rest := by
      rw [after_append, ← call_compile]
      rfl
    refine ⟨(f.after calls).emission p, ((f.after calls).compile_fst p).symm,
      (f.after calls).forms_emission p, emits_of_chunks rfl, ?_⟩
    rw [hlast]
    apply emits_of_chunks
    rw [chunks_after _ hrest]
    rfl
  · intro ds
    rw [after_append, after_writes]
  · intro t _ p hp
    exact t.compile_of_entry?_eq_none hp

end Format

end PacketLog.Output
