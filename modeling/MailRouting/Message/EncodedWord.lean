import MailRouting.Text.Base64
import MailRouting.Text.Charset
import MailRouting.Text.QuotedPrintable
import MailRouting.Text.Split

/-!
# Encoded words

Text outside of ASCII inside a header field (RFC 2047): `=?charset?encoding?text?=`.

Any registered character set may be named there. A limit of this program is that it decodes two,
UTF-8 and windows-1252, which also stands for ASCII and Latin-1: a word in any other set is left as
it is written.

* `decodeOctets` — the octets of the text part in one of the two encodings, `B` (base64) and `Q`
  (quoted-printable with `_` for the space);
* `decode` — the text between `=?` and `?=`, if charset, encoding and text are all sound.
-/

namespace MailRouting.EncodedWord

/-- The octets of a text in encoding `Q`. Blanks at the end are kept, whichever they are. -/
def decodeQ (s : List Char) : List UInt8 :=
  let s := s.map fun c => if c = '_' then ' ' else c
  let trimmed := Text.trimEnd s
  Text.QuotedPrintable.decodeLine trimmed ++ Text.Utf8.encode (s.drop trimmed.length)

/-- The octets of a text in the encoding that a letter names. -/
def decodeOctets (encoding text : List Char) : Option (List UInt8) :=
  if encoding = ['B'] ∨ encoding = ['b'] then Text.Base64.decode text
  else if encoding = ['Q'] ∨ encoding = ['q'] then some (decodeQ text)
  else none

/-- The text that the inside of an encoded word stands for, if its charset is one of the two. -/
def decode (s : List Char) : Option (List Char) := do
  let (label, rest) ← Text.breakOn '?' s
  let (encoding, text) ← Text.breakOn '?' rest
  let octets ← decodeOctets encoding text
  let charset ← Text.Charset.ofLabel? label
  pure (charset.decode octets)

example : decode "iso-8859-1?q?a_=E9_".toList = some "a é ".toList := by decide

end MailRouting.EncodedWord
