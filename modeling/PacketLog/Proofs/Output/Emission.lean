import PacketLog.Output.Format
import PacketLog.Proofs.Output.Device
import PacketLog.Proofs.Wire.Length

namespace PacketLog.Output

/-- The bytes of a line of text, with the carriage return and the line feed that end it. -/
def lineBytes (text : List Char) : Bytes := Text.bytes (String.ofList text) ++ [0x0D, 0x0A]

theorem lineBytes_ne_nil (text : List Char) : lineBytes text ≠ [] :=
  List.append_ne_nil_of_right_ne_nil _ (List.cons_ne_nil _ _)

theorem bytes_lineEnding : Text.bytes lineEnding = [0x0D, 0x0A] := by decide

theorem bytes_append_lineEnding (text : List Char) :
    Text.bytes (String.ofList text ++ lineEnding) = lineBytes text := by
  rw [Text.bytes_append, bytes_lineEnding, lineBytes]

namespace Format

/-- The bytes to write for a packet, which are none if the format does not render it. -/
def emission (f : Format) (p : Packet) : Bytes := (f.compile p).2.chunks.flatten

def emissions (f : Format) : List Packet → List Bytes
  | [] => []
  | p :: ps => f.emission p :: (f.compile p).2.emissions ps

@[simp] theorem compile_text (f : TextFormat) (p : Packet) :
    (text f).compile p = ((f.compile p).1, .text (f.compile p).2) := rfl

@[simp] theorem compile_binary (f : BinaryFormat) (p : Packet) :
    (binary f).compile p = ((f.compile p).1, .binary (f.compile p).2) := rfl

theorem emission_binary (f : BinaryFormat) (p : Packet) :
    (binary f).emission p = (Wire.Frame.ofPacket p).bytes := by
  simp [emission, chunks, BinaryFormat.compile_eq, BinaryFormat.chunks, Wire.Frame.bytes]

theorem emission_text_entry (f : TextFormat) (e : Entry) :
    (text f).emission (.entry e) = lineBytes (f.renderer.render e).1 := by
  simp [emission, chunks, TextFormat.compile, TextFormat.chunks, Packet.entry?, bytes_lineEnding,
    lineBytes]

theorem emission_text_of_entry?_eq_none (f : TextFormat) {p : Packet} (h : p.entry? = none) :
    (text f).emission p = [] := by
  simp [emission, chunks, TextFormat.compile, TextFormat.chunks, h]

theorem compile_fst (f : Format) (p : Packet) : (f.compile p).1 = (f.emission p).length := by
  cases f with
  | text f =>
    rw [compile_text, TextFormat.compile]
    cases h : p.entry? with
    | none => rw [emission_text_of_entry?_eq_none f h]; rfl
    | some e =>
      cases p with
      | entry e' => cases h; rw [emission_text_entry, ← bytes_append_lineEnding]
      | _ => cases h
  | binary f =>
    rw [emission_binary, compile_binary, BinaryFormat.compile_eq]
    exact (Wire.Frame.length_bytes _).symm

theorem emissions_binary (f : BinaryFormat) (ps : List Packet) :
    (binary f).emissions ps = ps.map fun p => (Wire.Frame.ofPacket p).bytes := by
  induction ps generalizing f with
  | nil => rfl
  | cons p ps ih => rw [emissions, emission_binary, compile_binary, ih, List.map_cons]

theorem write_compile_fst (f : Format) (d : Device) (p : Packet) :
    ((f.compile p).2.write d).1 = if d.Fits (f.emission p) then .ok () else .error d.whenFull :=
  (writeEach_device d _).1

/-- A device is written the emission of a packet, however the format cuts it into runs. -/
theorem took_write_compile (f : Format) (d : Device) (p : Packet) :
    d.Took (f.emission p) ((f.compile p).2.write d).2 :=
  (writeEach_device d _).2

/-- Compiles and writes packets one after another, up to the first failure. -/
def formatEach {ω : Type} [Outlet ω] (f : Format) (out : ω) :
    List Packet → Except DeviceFault Unit × Format × ω
  | [] => (.ok (), f, out)
  | p :: ps =>
    let f := (f.compile p).2
    match f.write out with
    | (.ok (), out) => f.formatEach out ps
    | (.error fault, out) => (.error fault, f, out)

theorem formatEach_of_room_none (f : Format) {d : Device} (h : d.room = none) (ps : List Packet) :
    ∃ f' d', f.formatEach d ps = (.ok (), f', d') ∧
      d'.held = d.held ++ (f.emissions ps).flatten := by
  induction ps generalizing f d with
  | nil => exact ⟨f, d, rfl, by simp [emissions]⟩
  | cons p ps ih =>
    have ht := f.took_write_compile d p
    have hf := Device.fits_of_room_none h (f.emission p)
    have hw : (f.compile p).2.write d = (.ok (), ((f.compile p).2.write d).2) :=
      Prod.ext ((f.write_compile_fst d p).trans (if_pos hf)) rfl
    have hroom : ((f.compile p).2.write d).2.room = none := by rw [ht.room, h]; rfl
    obtain ⟨f', d', he, hd⟩ := ih (f.compile p).2 hroom
    refine ⟨f', d', ?_, ?_⟩
    · rw [formatEach, hw]
      exact he
    · rw [hd, ht.held, Device.take_fitting_of_fits hf, emissions, List.flatten_cons,
        List.append_assoc]

end Format

end PacketLog.Output
