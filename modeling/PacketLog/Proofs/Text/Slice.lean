import Mathlib.Data.List.Basic
import PacketLog.Pattern.Scanner
import PacketLog.Proofs.Text.First

namespace PacketLog.Text

variable {a c : Char} {cs more : List Char}

theorem bytes_ofList (cs : List Char) :
    bytes (String.ofList cs) = cs.flatMap String.utf8EncodeChar := by
  rw [bytes, String.toByteArray_ofList, List.utf8Encode, List.data_toByteArray,
    List.toList_toArray]

theorem utf8EncodeChar_of_ascii (ha : a.toNat < 128) : String.utf8EncodeChar a = [a.toUInt8] := by
  apply String.utf8EncodeChar_eq_singleton
  rw [Char.utf8Size_eq_one_iff, UInt32.le_iff_toNat_le]
  exact Nat.le_of_lt_succ ha

theorem le_of_mem_utf8EncodeChar (hc : 128 ≤ c.toNat) {b : UInt8}
    (hb : b ∈ String.utf8EncodeChar c) : 128 ≤ b.toNat := by
  have hc' : ¬ c.val.toNat ≤ 127 := by
    change ¬ c.toNat ≤ 127
    omega
  rw [String.utf8EncodeChar] at hb
  simp only [if_neg hc'] at hb
  split at hb
  · simp only [List.mem_cons, List.not_mem_nil, or_false] at hb
    rcases hb with rfl | rfl <;> rw [UInt8.toNat_ofNat'] <;> omega
  split at hb
  · simp only [List.mem_cons, List.not_mem_nil, or_false] at hb
    rcases hb with rfl | rfl | rfl <;> rw [UInt8.toNat_ofNat'] <;> omega
  · simp only [List.mem_cons, List.not_mem_nil, or_false] at hb
    rcases hb with rfl | rfl | rfl | rfl <;> rw [UInt8.toNat_ofNat'] <;> omega

theorem toNat_toUInt8 (ha : a.toNat < 128) : a.toUInt8.toNat = a.toNat := by
  change a.toNat % 256 = a.toNat
  omega

/-- The byte of an ASCII character is in the bytes of no other character. -/
theorem mem_utf8EncodeChar_iff (ha : a.toNat < 128) :
    a.toUInt8 ∈ String.utf8EncodeChar c ↔ c = a := by
  constructor
  · intro h
    rcases Nat.lt_or_ge c.toNat 128 with hc | hc
    · rw [utf8EncodeChar_of_ascii hc, List.mem_singleton] at h
      have hn := congrArg UInt8.toNat h
      rw [toNat_toUInt8 ha, toNat_toUInt8 hc] at hn
      rw [← Char.ofNat_toNat c, ← hn, Char.ofNat_toNat]
    · have hle := le_of_mem_utf8EncodeChar hc h
      rw [toNat_toUInt8 ha] at hle
      omega
  · rintro rfl
    rw [utf8EncodeChar_of_ascii ha]
    exact List.mem_singleton_self _

theorem not_mem_utf8EncodeChar (ha : a.toNat < 128) (h : c ≠ a) :
    a.toUInt8 ∉ String.utf8EncodeChar c :=
  mt (mem_utf8EncodeChar_iff ha).1 h

theorem bytes_ofList_cons (c : Char) (cs : List Char) :
    bytes (String.ofList (c :: cs)) = String.utf8EncodeChar c ++ bytes (String.ofList cs) := by
  rw [bytes_ofList, bytes_ofList, List.flatMap_cons]

theorem bytes_cons_of_ascii (ha : a.toNat < 128) (cs : List Char) :
    bytes (String.ofList (a :: cs)) = a.toUInt8 :: bytes (String.ofList cs) := by
  rw [bytes_ofList_cons, utf8EncodeChar_of_ascii ha, List.singleton_append]

theorem utf8EncodeChar_ne_nil (c : Char) : String.utf8EncodeChar c ≠ [] := by
  rw [← List.length_pos_iff, String.length_utf8EncodeChar]
  exact c.utf8Size_pos

theorem bytes_ne_nil (h : cs ≠ []) : bytes (String.ofList cs) ≠ [] := by
  obtain ⟨c, cs, rfl⟩ := List.exists_cons_of_ne_nil h
  rw [bytes_ofList_cons]
  exact List.append_ne_nil_of_left_ne_nil (utf8EncodeChar_ne_nil c) _

theorem utf8ByteSize_pos (h : cs ≠ []) : 0 < (String.ofList cs).utf8ByteSize := by
  rw [← length_bytes]
  exact List.length_pos_iff.2 (bytes_ne_nil h)

theorem head?_bytes_cons (ha : a.toNat < 128) (cs : List Char) :
    (bytes (String.ofList (c :: cs))).head? = some a.toUInt8 ↔ c = a := by
  obtain ⟨b, bs, hb⟩ := List.exists_cons_of_ne_nil (utf8EncodeChar_ne_nil c)
  rw [bytes_ofList_cons, hb]
  constructor
  · intro h
    rw [← mem_utf8EncodeChar_iff ha, hb, ← Option.some.inj h]
    exact List.mem_cons_self
  · rintro rfl
    rw [utf8EncodeChar_of_ascii ha] at hb
    rw [← (List.cons.inj hb).1]
    rfl

theorem getLast?_bytes_eq_iff (ha : a.toNat < 128) :
    (bytes (String.ofList cs)).getLast? = some a.toUInt8 ↔ cs.getLast? = some a := by
  rcases List.eq_nil_or_concat' cs with rfl | ⟨cs, c, rfl⟩
  · exact ⟨nofun, nofun⟩
  obtain ⟨bs, b, hb⟩ := (List.eq_nil_or_concat' _).resolve_left (utf8EncodeChar_ne_nil c)
  rw [bytes_ofList, List.flatMap_append, List.flatMap_singleton, hb, ← List.append_assoc,
    List.getLast?_concat, List.getLast?_concat]
  constructor
  · intro h
    obtain rfl := Option.some.inj h
    congr
    rw [← mem_utf8EncodeChar_iff ha, hb]
    exact List.mem_append_right bs List.mem_cons_self
  · intro h
    obtain rfl := Option.some.inj h
    rw [utf8EncodeChar_of_ascii ha, ← List.nil_append [c.toUInt8]] at hb
    rw [(List.cons.inj (List.append_inj' hb rfl).2).1]

theorem slice?_append (a b c : String) :
    slice? (a ++ b ++ c) a.utf8ByteSize (a.utf8ByteSize + b.utf8ByteSize) = some b := by
  have ha : (⟨a.utf8ByteSize⟩ : String.Pos.Raw).IsValid (a ++ b ++ c) :=
    String.Pos.Raw.isValid_iff_exists_append.2 ⟨a, b ++ c, String.append_assoc, rfl⟩
  have hb : (⟨a.utf8ByteSize + b.utf8ByteSize⟩ : String.Pos.Raw).IsValid (a ++ b ++ c) := by
    rw [← String.utf8ByteSize_append]
    exact String.Pos.Raw.isValid_iff_exists_append.2 ⟨a ++ b, c, rfl, rfl⟩
  rw [slice?, dif_pos ⟨ha, hb, Nat.le_add_right _ _⟩, Option.some.injEq,
    ← String.toByteArray_inj, String.toByteArray_extract, String.toByteArray_append,
    String.toByteArray_append]
  change ((a.toByteArray ++ b.toByteArray) ++ c.toByteArray).extract a.toByteArray.size
    (a.toByteArray.size + b.toByteArray.size) = b.toByteArray
  rw [← ByteArray.size_append, ByteArray.extract_append, ByteArray.extract_append_eq_right rfl
    ByteArray.size_append]
  simp

theorem slice?_zero_append (a b : String) : slice? (a ++ b) 0 a.utf8ByteSize = some a := by
  have h := slice?_append "" a b
  rwa [String.empty_append, String.utf8ByteSize_empty, Nat.zero_add] at h

theorem utf8ByteSize_ofList_append (cs more : List Char) :
    (String.ofList (cs ++ more)).utf8ByteSize =
      (String.ofList cs).utf8ByteSize + (String.ofList more).utf8ByteSize := by
  rw [String.ofList_append, String.utf8ByteSize_append]

theorem utf8ByteSize_ofList_cons (ha : a.toNat < 128) (cs : List Char) :
    (String.ofList (a :: cs)).utf8ByteSize = (String.ofList cs).utf8ByteSize + 1 := by
  rw [← length_bytes, ← length_bytes, bytes_cons_of_ascii ha, List.length_cons]

theorem find?_append_cons (h : c ∉ cs) (more : List Char) :
    find? c (String.ofList (cs ++ c :: more)) = some (String.ofList cs).utf8ByteSize := by
  rw [find?, String.toList_ofList, if_pos (List.mem_append_right cs List.mem_cons_self),
    takeWhile_ne_append_cons h]

theorem find?_of_not_mem (h : c ∉ cs) : find? c (String.ofList cs) = none := by
  rw [find?, String.toList_ofList, if_neg h]

theorem before?_add (offset bytes : Nat) : before? (offset + bytes) bytes = some offset := by
  rw [before?, if_pos (Nat.le_add_left _ _), Nat.add_sub_cancel]

end PacketLog.Text
