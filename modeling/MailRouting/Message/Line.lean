/-!
# Lines of a message

* `Message.line` — a line with its end;
* `Message.fieldLine`, `Message.optionalLine` — the line of a header field.
-/

namespace MailRouting.Message

/-- A line of a message. -/
def line (s : String) : String :=
  s ++ "\r\n"

/-- A header field on a line of its own. -/
def fieldLine (name value : String) : String :=
  line (name ++ ": " ++ value)

/-- The line of a field that may be missing. -/
def optionalLine (name : String) : Option String → String
  | some value => fieldLine name value
  | none => ""

end MailRouting.Message
