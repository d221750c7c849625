import PacketLog.Text.Quoted

namespace PacketLog

/-- Why a packet cannot be built or changed. -/
inductive PacketFault where
  /-- A field that a packet of its kind must have was never given. -/
  | missingField (field : String)
  /-- No case of the enumeration has this number. -/
  | unknownCode (type : String) (value : Int32)
  /-- The key of a header label would make the header ambiguous. -/
  | badLabelKey (key : String)
  deriving DecidableEq, Repr

def PacketFault.message : PacketFault → String
  | .missingField field => "missing required field: " ++ field
  | .unknownCode type value => "invalid " ++ type ++ " value: " ++ toString value.toInt
  | .badLabelKey key => "invalid log header key: " ++ Text.quoted key

end PacketLog
