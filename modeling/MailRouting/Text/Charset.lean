import MailRouting.Text.Blank
import MailRouting.Text.Ascii
import MailRouting.Text.Utf8

/-!
# Character sets of encoded text

The two character sets that mail names most, by all the labels that they are registered under.

These two are a limit of the program: it has no tables of the other registered sets, such as the
other parts of ISO 8859, KOI8-R, Shift_JIS and GB 18030. Their labels are taken for labels that name
no set, and text in them is not decoded.

* `Charset.ofLabel?` — the set that a label names, ASCII case and the blanks around it ignored;
* `Charset.decode` — the text of octets in a set. Decoding never fails: faulty UTF-8 turns into
  U+FFFD, and windows-1252 gives every octet a character.
-/

namespace MailRouting.Text

/-- A character set that octets can be read in. -/
inductive Charset where
  | utf8
  | windows1252
  deriving DecidableEq, Repr

namespace Charset

/-- The labels of UTF-8. -/
def utf8Labels : List String :=
  ["unicode-1-1-utf-8", "unicode11utf8", "unicode20utf8", "utf-8", "utf8", "x-unicode20utf8"]

/-- The labels of windows-1252, those of ASCII and of Latin-1 among them. -/
def windows1252Labels : List String :=
  ["ansi_x3.4-1968", "ascii", "cp1252", "cp819", "csisolatin1", "ibm819", "iso-8859-1",
   "iso-ir-100", "iso8859-1", "iso88591", "iso_8859-1", "iso_8859-1:1987", "l1", "latin1",
   "us-ascii", "windows-1252", "x-cp1252"]

/-- The blanks that may stand around a label. -/
def isLabelBlank (c : Char) : Bool :=
  c == ' ' || c == '\t' || c == '\n' || c == '\x0c' || c == '\r'

/-- A label in lower case and without the blanks around it. -/
def normalLabel (s : List Char) : List Char :=
  asciiLower (((s.dropWhile isLabelBlank).reverse.dropWhile isLabelBlank).reverse)

/-- The character set that a label names, if it is one of the two. -/
def ofLabel? (s : List Char) : Option Charset :=
  let label := String.ofList (normalLabel s)
  if label ∈ utf8Labels then some .utf8
  else if label ∈ windows1252Labels then some .windows1252
  else none

/-- The characters of the octets 0x80 to 0x9F in windows-1252. -/
def windows1252High : List Nat :=
  [0x20AC, 0x81, 0x201A, 0x192, 0x201E, 0x2026, 0x2020, 0x2021, 0x2C6, 0x2030, 0x160, 0x2039,
   0x152, 0x8D, 0x17D, 0x8F, 0x90, 0x2018, 0x2019, 0x201C, 0x201D, 0x2022, 0x2013, 0x2014, 0x2DC,
   0x2122, 0x161, 0x203A, 0x153, 0x9D, 0x17E, 0x178]

/-- The character of one octet in windows-1252. -/
def windows1252Char (b : UInt8) : Char :=
  if 0x80 ≤ b ∧ b ≤ 0x9F then Char.ofNat (windows1252High.getD (b.toNat - 0x80) 0)
  else Char.ofNat b.toNat

/-- The text of octets in a character set. -/
def decode : Charset → List UInt8 → List Char
  | .utf8, bs => Utf8.decodeLossy bs
  | .windows1252, bs => bs.map windows1252Char

end Charset

end MailRouting.Text
