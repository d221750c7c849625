import PacketLog.Wire.Frame

namespace PacketLog.Wire

theorem length_word32 (n : UInt32) : (word32 n).length = 4 := rfl

theorem length_int32 (n : Int32) : (int32 n).length = 4 := rfl

theorem length_word64 (n : UInt64) : (word64 n).length = 8 := rfl

theorem length_lengthOf (bs : Bytes) : (lengthOf bs).length = 4 := rfl

theorem length_entryBody (e : Entry) :
    (entryBody e).length = 48 + (textOf e.app).length + (textOf e.session).length +
      (textOf e.title).length + (textOf e.host).length + (e.data.getD []).length := by
  simp only [entryBody, List.length_append, length_int32, length_lengthOf, length_word64,
    length_word32]

theorem length_flowBody (f : Flow) :
    (flowBody f).length = 28 + (textOf f.title).length + (textOf f.host).length := by
  simp only [flowBody, List.length_append, length_int32, length_lengthOf, length_word64]

theorem length_watchBody (w : Watch) :
    (watchBody w).length = 20 + (Text.bytes w.name).length + (Text.bytes w.value).length := by
  simp only [watchBody, List.length_append, length_int32, length_lengthOf, length_word64]

theorem length_commandBody (c : Command) :
    (commandBody c).length = 8 + (c.data.getD []).length := by
  simp only [commandBody, List.length_append, length_int32, length_lengthOf]

theorem length_headerBody (h : Header) :
    (headerBody h).length = 4 + (Text.bytes h.labels.content).length := by
  simp only [headerBody, List.length_append, length_lengthOf]

theorem Frame.length_bytes (f : Frame) : f.bytes.length = f.size := by
  simp only [Frame.bytes, Frame.head, Frame.size, frameHeadSize, word16, List.length_append,
    length_lengthOf, List.length_cons, List.length_nil]
  omega

end PacketLog.Wire
