import PacketLog.Proofs.Packet.Code
import PacketLog.Proofs.Wire.Length
import PacketLog.Proofs.Wire.Word
import PacketLog.Wire.Reader

namespace PacketLog.Wire

theorem readEntry?_append (e : Entry) (rest : Bytes) (h : (entryBody e).length < UInt32.size) :
    readEntry? (entryBody e ++ rest) = some (.ofPacket (.entry e), rest) := by
  rw [length_entryBody] at h
  simp (disch := omega) only [entryBody, readEntry?, List.append_assoc, ↓readInt32?_bind,
    ↓readLength?_bind, ↓readWord32?_bind, ↓readWord64?_bind, ↓readBytes?_bind, Record.ofPacket]

theorem readFlow?_append (f : Flow) (rest : Bytes) (h : (flowBody f).length < UInt32.size) :
    readFlow? (flowBody f ++ rest) = some (.ofPacket (.flow f), rest) := by
  rw [length_flowBody] at h
  simp (disch := omega) only [flowBody, readFlow?, List.append_assoc, ↓readInt32?_bind,
    ↓readLength?_bind, ↓readWord64?_bind, ↓readBytes?_bind, Record.ofPacket]

theorem readWatch?_append (w : Watch) (rest : Bytes) (h : (watchBody w).length < UInt32.size) :
    readWatch? (watchBody w ++ rest) = some (.ofPacket (.watch w), rest) := by
  rw [length_watchBody] at h
  simp (disch := omega) only [watchBody, readWatch?, List.append_assoc, ↓readInt32?_bind,
    ↓readLength?_bind, ↓readWord64?_bind, ↓readBytes?_bind, Record.ofPacket]

theorem readCommand?_append (c : Command) (rest : Bytes)
    (h : (commandBody c).length < UInt32.size) :
    readCommand? (commandBody c ++ rest) = some (.ofPacket (.command c), rest) := by
  rw [length_commandBody] at h
  simp (disch := omega) only [commandBody, readCommand?, List.append_assoc, ↓readInt32?_bind,
    ↓readLength?_bind, ↓readBytes?_bind, Record.ofPacket]

theorem readHeader?_append (l : Header) (rest : Bytes) (h : (headerBody l).length < UInt32.size) :
    readHeader? (headerBody l ++ rest) = some (.ofPacket (.header l), rest) := by
  rw [length_headerBody] at h
  simp (disch := omega) only [headerBody, readHeader?, List.append_assoc, ↓readLength?_bind,
    ↓readBytes?_bind, Record.ofPacket]

theorem readBody?_append (p : Packet) (rest : Bytes) (h : (body p).length < UInt32.size) :
    readBody? p.kind (body p ++ rest) = some (.ofPacket p, rest) := by
  cases p with
  | entry e => exact readEntry?_append e rest h
  | flow f => exact readFlow?_append f rest h
  | watch w => exact readWatch?_append w rest h
  | command c => exact readCommand?_append c rest h
  | header l => exact readHeader?_append l rest h

theorem readFrame?_append (p : Packet) (rest : Bytes) (h : (body p).length < UInt32.size) :
    readFrame? ((Frame.ofPacket p).bytes ++ rest) = some (.ofPacket p, rest) := by
  have hb := readBody?_append p [] h
  rw [List.append_nil] at hb
  have hk := ofCode?_toUInt16 p.kind
  simp only [Frame.bytes, Frame.head, Frame.ofPacket, readFrame?, List.append_assoc,
    ↓readWord16?_bind, ↓bind_of_eq_some hk, ↓readLength?_bind, ↓readBytes?_bind _ _ h,
    ↓bind_of_eq_some hb, List.isEmpty_nil, ↓reduceIte]

def stream (ps : List Packet) : Bytes := ps.flatMap fun p => (Frame.ofPacket p).bytes

theorem length_le_length_stream (ps : List Packet) : ps.length ≤ (stream ps).length := by
  induction ps with
  | nil => exact Nat.le_refl 0
  | cons p ps ih =>
    have hp : 0 < (Frame.ofPacket p).bytes.length := by
      rw [Frame.length_bytes, Frame.size, frameHeadSize]
      omega
    simp only [stream, List.flatMap_cons, List.length_append, List.length_cons] at ih ⊢
    omega

theorem readFrames?_succ (fuel : Nat) {bs : Bytes} (h : bs ≠ []) :
    readFrames? (fuel + 1) bs = (readFrame? bs).bind fun (record, rest) =>
      (readFrames? fuel rest).bind fun records => some (record :: records) := by
  cases bs with
  | nil => exact absurd rfl h
  | cons b bs => rfl

theorem readFrames?_stream (ps : List Packet) (fuel : Nat) (hf : ps.length ≤ fuel)
    (h : ∀ p ∈ ps, (body p).length < UInt32.size) :
    readFrames? fuel (stream ps) = some (ps.map .ofPacket) := by
  induction ps generalizing fuel with
  | nil => cases fuel <;> rfl
  | cons p ps ih =>
    cases fuel with
    | zero => cases hf
    | succ fuel =>
      have hne : (Frame.ofPacket p).bytes ++ stream ps ≠ [] := List.cons_ne_nil _ _
      have hp := readFrame?_append p (stream ps) (h p List.mem_cons_self)
      have hps := ih fuel (Nat.le_of_succ_le_succ hf) fun q hq => h q (List.mem_cons_of_mem p hq)
      change readFrames? (fuel + 1) ((Frame.ofPacket p).bytes ++ stream ps) = _
      simp only [readFrames?_succ fuel hne, hp, hps, Option.bind_some, List.map_cons]

/-- A stream of frames is read to its end, as the records of its packets. -/
theorem readStream?_stream (ps : List Packet) (h : ∀ p ∈ ps, (body p).length < UInt32.size) :
    readStream? (stream ps) = some (ps.map .ofPacket) :=
  readFrames?_stream ps _ (length_le_length_stream ps) h

end PacketLog.Wire
