import PacketLog.Packet.Level

namespace PacketLog

/-- An enumeration in which every case is found again by its code. -/
class LawfulCoded (α : Type) [Coded α] : Prop where
  ofCode?_code (a : α) : ofCode? (code a) = some a

export LawfulCoded (ofCode?_code)

instance : LawfulCoded EntryKind where
  ofCode?_code a := by cases a <;> rfl

instance : LawfulCoded Viewer where
  ofCode?_code a := by cases a <;> rfl

instance : LawfulCoded FlowStep where
  ofCode?_code a := by cases a <;> rfl

instance : LawfulCoded WatchKind where
  ofCode?_code a := by cases a <;> rfl

instance : LawfulCoded CommandAction where
  ofCode?_code a := by cases a <;> rfl

/-- The wire keeps the code of a packet kind in two bytes, and nothing of it is lost. -/
theorem ofCode?_toUInt16 (k : PacketKind) :
    ofCode? (code k).toUInt32.toUInt16.toUInt32.toInt32 = some k := by
  cases k <;> rfl

end PacketLog
