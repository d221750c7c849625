import PacketLog.Packet.Fault

namespace PacketLog

/-- Labels in the order in which their keys first came. -/
structure Labels where
  pairs : List (String × String)
  deriving DecidableEq, Repr, Inhabited

namespace Labels

def empty : Labels := ⟨[]⟩

/-- A key that can stand in front of the equals sign of a line. -/
def isKey (key : String) : Bool :=
  !key.toList.isEmpty && key.toList.all fun c => c != '=' && c != '\r' && c != '\n'

/-- Sets a label among pairs: in place if the key is there, and at the end if it is not. -/
def setPair (key value : String) : List (String × String) → List (String × String)
  | [] => [(key, value)]
  | (k, v) :: rest => if k = key then (k, value) :: rest else (k, v) :: setPair key value rest

def set (labels : Labels) (key value : String) : Except PacketFault Labels :=
  if isKey key then .ok ⟨setPair key value labels.pairs⟩ else .error (.badLabelKey key)

/-- Sets labels one after another up to the first refusal. -/
def setAll (labels : Labels) : List (String × String) → Except PacketFault Labels
  | [] => .ok labels
  | (key, value) :: rest => do (← labels.set key value).setAll rest

def line (pair : String × String) : String := pair.1 ++ "=" ++ pair.2 ++ "\r\n"

def content (labels : Labels) : String := String.join (labels.pairs.map line)

end Labels

end PacketLog
