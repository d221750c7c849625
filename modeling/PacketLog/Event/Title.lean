import PacketLog.Event.Placeholder
import PacketLog.Text.Blank

namespace PacketLog

/-- The mark at the front of a message that tells that a method was entered. -/
def entryToken : String := "ENTRY"

def returnToken : String := "RETURN"

def stripToken (cs : List Char) : List Char :=
  match entryToken.toList.isPrefixOf? cs with
  | some rest => rest
  | none => (returnToken.toList.isPrefixOf? cs).getD cs

namespace Event

/-- Where an event comes from: the unit with its operation, the unit, or else the logger. -/
def origin (e : Event) : List Char :=
  match e.sourceUnit, e.sourceOperation with
  | some unit, some operation => unit.toList ++ '.' :: operation.toList
  | some unit, none => unit.toList
  | none, _ => (e.logger.getD "").toList

/-- What an event says: the message of its error, or else its own without blanks around it and
without a mark. -/
def titleText (e : Event) : List Char :=
  match e.error with
  | some error => error.message.toList
  | none => stripToken (Text.trimChars e.formatted)

/-- Joins an origin and a text with a colon and exactly one space; a blank text is left out, and an
empty origin leaves the text alone. -/
def joinTitle (origin text : List Char) : List Char :=
  if text.all Text.isBlank then origin
  else if origin.isEmpty then text
  else if text.head? = some ' ' then origin ++ ':' :: text
  else origin ++ ':' :: ' ' :: text

def title (e : Event) : String := String.ofList (joinTitle e.origin e.titleText)

end Event

end PacketLog
