import MailRouting.Message
import MailRouting.Message.Line

/-!
# Drafts

A draft is a plain text message in the making. Its fields are taken as they are.

* `Draft` — what has been given so far;
* `Draft.text`, `Draft.message` — the finished message.
-/

namespace MailRouting

/-- A plain text message in the making. -/
structure Draft where
  sender : Option String := none
  recipients : List String := []
  copyRecipients : List String := []
  subject : Option String := none
  /-- Further fields, in the order in which they were added. -/
  headers : List (String × String) := []
  body : Option String := none
  deriving DecidableEq, Repr

namespace Draft

open Message (line fieldLine optionalLine)

/-- Sets the author; a later one replaces it. -/
def setSender (d : Draft) (address : String) : Draft :=
  { d with sender := some address }

/-- Adds a recipient. -/
def addTo (d : Draft) (address : String) : Draft :=
  { d with recipients := d.recipients ++ [address] }

/-- Adds a copy recipient. -/
def addCc (d : Draft) (address : String) : Draft :=
  { d with copyRecipients := d.copyRecipients ++ [address] }

/-- Sets the subject; a later one replaces it. -/
def setSubject (d : Draft) (subject : String) : Draft :=
  { d with subject := some subject }

/-- Adds a field of any name. -/
def addHeader (d : Draft) (name value : String) : Draft :=
  { d with headers := d.headers ++ [(name, value)] }

/-- Sets the body; a later one replaces it. -/
def setBody (d : Draft) (text : String) : Draft :=
  { d with body := some text }

/-- The line of a field that lists addresses; an empty list has none. -/
def listLine (name : String) (addresses : List String) : String :=
  if addresses.isEmpty then "" else fieldLine name (String.intercalate ", " addresses)

/-- The finished message as a text. -/
def text (d : Draft) : String :=
  optionalLine "From" d.sender ++ listLine "To" d.recipients ++
    listLine "Cc" d.copyRecipients ++ optionalLine "Subject" d.subject ++
    String.join (d.headers.map fun h => fieldLine h.1 h.2) ++
    fieldLine "MIME-Version" "1.0" ++
    fieldLine "Content-Type" "text/plain; charset=utf-8" ++
    fieldLine "Content-Transfer-Encoding" "8bit" ++
    line "" ++ d.body.getD ""

/-- The finished message. -/
def message (d : Draft) : Message :=
  .ofText d.text

end Draft

end MailRouting
