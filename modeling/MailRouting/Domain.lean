import MailRouting.Domain.Grammar
import MailRouting.Text.Blank

/-!
# Domains

The part of a mailbox after the `@`: a domain name or an address literal in brackets.

* `Domain` — a domain in its normal form, ASCII capitals lowered, so that equal domains are equal
  values;
* `Domain.parse` — the domain that a text names, blanks around it ignored.
-/

namespace MailRouting

/-- A domain name or an address literal, in lower case. -/
structure Domain where
  text : String
  /-- The text follows the grammar. -/
  valid : DomainGrammar.check text.toList = .ok ()
  /-- The text has no capitals of ASCII. -/
  lower : Text.asciiLower text.toList = text.toList
  deriving DecidableEq, Repr

namespace Domain

/-- The domain that a text names, blanks around it ignored. -/
def parse (input : String) : Except AddressError Domain :=
  let s := Text.trim input.toList
  match h : DomainGrammar.check s with
  | .ok () =>
    .ok {
      text := String.ofList (Text.asciiLower s)
      valid := by rw [String.toList_ofList]; exact DomainGrammar.check_asciiLower h
      lower := by rw [String.toList_ofList]; exact Text.asciiLower_asciiLower s }
  | .error e => .error e

/-- The domain that is served when no other is configured. -/
def localhost : Domain := ⟨"localhost", by rfl, by rfl⟩

/-- Whether the domain is an address literal rather than a name. -/
def isLiteral (d : Domain) : Bool :=
  d.text.toList.head? == some '['

/-- Domains of the same text are the same. -/
theorem eq_of_text_eq {d e : Domain} (h : d.text = e.text) : d = e := by
  cases d
  cases e
  simp_all

end Domain

end MailRouting
