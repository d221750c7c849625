namespace PacketLog

abbrev Bytes := List UInt8

namespace Text

/-- The UTF-8 bytes of a string. -/
def bytes (s : String) : Bytes := s.toByteArray.data.toList

/-- The string that the bytes encode, if they are UTF-8. -/
def ofBytes? (bs : Bytes) : Option String := String.fromUTF8? ⟨bs.toArray⟩

@[simp] theorem bytes_append (s t : String) : bytes (s ++ t) = bytes s ++ bytes t := by
  simp [bytes]

theorem length_bytes (s : String) : (bytes s).length = s.utf8ByteSize := by
  rw [bytes, Array.length_toList]
  rfl

@[simp] theorem ofBytes?_bytes (s : String) : ofBytes? (bytes s) = some s := by
  have h : (⟨(bytes s).toArray⟩ : ByteArray) = s.toByteArray := by
    rw [bytes, Array.toArray_toList]
  rw [ofBytes?, h]
  simp [String.fromUTF8?, s.isValidUTF8, String.fromUTF8]

end Text

end PacketLog
