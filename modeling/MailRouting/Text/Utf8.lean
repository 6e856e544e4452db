/-!
# UTF-8

Text is read from octets in pieces: characters, and runs of octets that belong to no character.

* `encode`, `octetCount` — the octets of a text and their number;
* `pieces` — a list of octets cut into characters and faulty runs, a faulty run being the longest
  start of a well-formed sequence that the next octet breaks off (or one octet that starts none);
* `decode` — the text, or where the first fault lies and how long it is;
* `decodeLossy` — the text with U+FFFD in place of every faulty run.
-/

namespace MailRouting.Text.Utf8

/-- The octets of a text. -/
def encode (s : List Char) : List UInt8 :=
  s.flatMap String.utf8EncodeChar

/-- How many octets a text takes. -/
def octetCount : List Char → Nat
  | [] => 0
  | c :: s => c.utf8Size + octetCount s

/-- A character, or a run of octets that is none. -/
inductive Piece where
  | char (c : Char)
  /-- Octets that no character starts with, or that start one which the next octet breaks off. -/
  | invalid (octets : List UInt8)
  /-- The start of a character at the very end of the input. -/
  | cut (octets : List UInt8)
  deriving DecidableEq

/-- The octets a piece was read from. -/
def Piece.octets : Piece → List UInt8
  | .char c => String.utf8EncodeChar c
  | .invalid bs => bs
  | .cut bs => bs

/-- What an octet may start: how many octets follow, and the range of the first of them. -/
inductive Lead where
  | single
  | pair
  | triple (low high : UInt8)
  | quad (low high : UInt8)
  | none

/-- The kind of sequence that starts with the octet `b`. -/
def Lead.of (b : UInt8) : Lead :=
  if b < 0x80 then .single
  else if b < 0xC2 then .none
  else if b < 0xE0 then .pair
  else if b = 0xE0 then .triple 0xA0 0xBF
  else if b = 0xED then .triple 0x80 0x9F
  else if b < 0xF0 then .triple 0x80 0xBF
  else if b = 0xF0 then .quad 0x90 0xBF
  else if b < 0xF4 then .quad 0x80 0xBF
  else if b = 0xF4 then .quad 0x80 0x8F
  else .none

/-- The octets that continue a sequence. -/
def isTail (b : UInt8) : Bool :=
  0x80 ≤ b && b ≤ 0xBF

/-- The six payload bits of a continuing octet. -/
def tailBits (b : UInt8) : Nat :=
  b.toNat % 64

/-- The octets cut into characters and faulty runs. -/
def pieces : List UInt8 → List Piece
  | [] => []
  | a :: r₁ =>
    match Lead.of a with
    | .single => .char (Char.ofNat a.toNat) :: pieces r₁
    | .none => .invalid [a] :: pieces r₁
    | .pair =>
      match r₁ with
      | [] => [.cut [a]]
      | b :: r₂ =>
        if isTail b then .char (Char.ofNat (a.toNat % 32 * 64 + tailBits b)) :: pieces r₂
        else .invalid [a] :: pieces (b :: r₂)
    | .triple low high =>
      match r₁ with
      | [] => [.cut [a]]
      | b :: r₂ =>
        if low ≤ b && b ≤ high then
          match r₂ with
          | [] => [.cut [a, b]]
          | c :: r₃ =>
            if isTail c then
              .char (Char.ofNat ((a.toNat % 16 * 64 + tailBits b) * 64 + tailBits c)) :: pieces r₃
            else .invalid [a, b] :: pieces (c :: r₃)
        else .invalid [a] :: pieces (b :: r₂)
    | .quad low high =>
      match r₁ with
      | [] => [.cut [a]]
      | b :: r₂ =>
        if low ≤ b && b ≤ high then
          match r₂ with
          | [] => [.cut [a, b]]
          | c :: r₃ =>
            if isTail c then
              match r₃ with
              | [] => [.cut [a, b, c]]
              | d :: r₄ =>
                if isTail d then
                  .char (Char.ofNat
                    (((a.toNat % 8 * 64 + tailBits b) * 64 + tailBits c) * 64 + tailBits d))
                    :: pieces r₄
                else .invalid [a, b, c] :: pieces (d :: r₄)
            else .invalid [a, b] :: pieces (c :: r₃)
        else .invalid [a] :: pieces (b :: r₂)

/-- Why a list of octets is no text. -/
inductive Error where
  /-- After `index` octets of text come `width` octets that belong to no character. -/
  | invalid (index width : Nat)
  /-- The input ends inside the character that starts after `index` octets. -/
  | incomplete (index : Nat)
  deriving DecidableEq, Repr

/-- The fault in words. -/
def Error.message : Error → String
  | .invalid index width =>
    s!"invalid utf-8 sequence of {width} bytes from index {index}"
  | .incomplete index => s!"incomplete utf-8 byte sequence from index {index}"

/-- The characters of a list of pieces that starts after `index` octets, or its first fault. -/
def textOf (index : Nat) : List Piece → Except Error (List Char)
  | [] => .ok []
  | .char c :: rest => (textOf (index + c.utf8Size) rest).map (c :: ·)
  | .invalid bs :: _ => .error (.invalid index bs.length)
  | .cut _ :: _ => .error (.incomplete index)

/-- The text of a list of octets. -/
def decode (bs : List UInt8) : Except Error (List Char) :=
  textOf 0 (pieces bs)

/-- The text of a list of octets, U+FFFD standing for every faulty run. -/
def decodeLossy (bs : List UInt8) : List Char :=
  (pieces bs).map fun
    | .char c => c
    | .invalid _ => '\uFFFD'
    | .cut _ => '\uFFFD'

example : decode [0x41, 0xF0, 0x90, 0x8D] = .error (.incomplete 1) := by rfl

example : decode [0xC3, 0xA9, 0xE2, 0x82, 0x41] = .error (.invalid 2 2) := by rfl

example : decodeLossy [0xE2, 0x82, 0x41, 0xFF] = ['\uFFFD', 'A', '\uFFFD'] := by decide

end MailRouting.Text.Utf8
