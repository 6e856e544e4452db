import MailRouting.Proofs.Address.Bare
import MailRouting.Proofs.Text.Grammar

/-!
# Local parts by the grammar of RFC 5321

    Local-part     = Dot-string / Quoted-string
    Dot-string     = Atom *("." Atom)
    Atom           = 1*atext
    Quoted-string  = DQUOTE *(qtextSMTP / quoted-pairSMTP) DQUOTE
    qtextSMTP      = %d32-33 / %d35-91 / %d93-126
    quoted-pairSMTP = %d92 %d32-126

* `LocalPart.dotString`, `LocalPart.quotedString` — the two forms as languages;
* `LocalPart.quotedContent_flatten`, `LocalPart.quotedContent_iff_mem` — what stands between quotes,
  as a scan reads it and as a repetition;
* `LocalPart.checkDotString_eq_ok_iff_mem`, `LocalPart.checkQuotedString_eq_ok_iff_mem` — the checks
  accept these languages;
* `LocalPart.check_eq_ok_iff_mem` — a text is a local part if it has one of the forms and is short
  enough;
* `Address.ofParts_accepts_grammar` — for these texts, and no others, there is a mailbox.
-/

namespace MailRouting

open Computability
open Text (coded eq_of_mem_sign inRanges separated sign singleton_mem_sign)
open Text.Utf8 (octetCount)

namespace LocalPart

/-! ### The grammar -/

/-- Letters, digits, and the signs that mean nothing elsewhere in a mailbox. -/
def atextRanges : List Text.CodeRange :=
  [(65, 90), (97, 122), (48, 57), (33, 33), (35, 39), (42, 43), (45, 45), (47, 47), (61, 61),
    (63, 63), (94, 96), (123, 126)]

/-- One or more characters of that kind. -/
def atom : Language Char :=
  coded atextRanges * (coded atextRanges)∗

/-- Atoms with dots between them. -/
def dotString : Language Char :=
  separated '.' atom

/-- A character that stands for itself between quotes. -/
def qtextSMTP : Language Char :=
  coded [(32, 33), (35, 91), (93, 126)]

/-- A backslash and a character. -/
def quotedPairSMTP : Language Char :=
  sign '\\' * coded [(32, 126)]

/-- Characters and pairs between two quotes. -/
def quotedString : Language Char :=
  sign '"' * (qtextSMTP + quotedPairSMTP)∗ * sign '"'

/-! ### Classes of characters -/

theorem isAtomChar_eq_inRanges (c : Char) : isAtomChar c = inRanges atextRanges c.toNat :=
  Text.eq_inRanges_of_ascii (fun _ => ascii_of_isAtomChar) (by decide) (by decide) c

theorem isQuotedText_eq_inRanges (c : Char) :
    isQuotedText c = inRanges [(32, 33), (35, 91), (93, 126)] c.toNat :=
  Text.eq_inRanges_of_ascii (fun _ h => ascii_of_isQuotable (isQuotable_of_isQuotedText h))
    (by decide) (by decide) c

theorem isQuotable_eq_inRanges (c : Char) : isQuotable c = inRanges [(32, 126)] c.toNat :=
  Text.eq_inRanges_of_ascii (fun _ => ascii_of_isQuotable) (by decide) (by decide) c

variable {s : List Char}

/-! ### Dot-strings -/

theorem mem_atom_iff : s ∈ atom ↔ s ≠ [] ∧ ∀ c ∈ s, isAtomChar c = true := by
  rw [atom, Text.mem_coded_mul_kstar_iff]
  simp only [isAtomChar_eq_inRanges]

theorem checkDotString_eq_ok_iff_mem : checkDotString s = .ok () ↔ s ∈ dotString := by
  have hdot : ∀ w ∈ atom, '.' ∉ w := by
    intro w hw hmem
    have hatom := (mem_atom_iff.1 hw).2 '.' hmem
    revert hatom
    decide
  rw [dotString, Text.mem_separated_iff hdot, checkDotString_eq_ok_iff]
  simp only [mem_atom_iff]
  constructor
  · intro h
    exact h.2
  · intro h
    exact ⟨Text.edges_of_pieces fun piece hpiece => (h piece hpiece).1, h⟩

/-! ### Quoted strings -/

theorem singleton_mem_qtextSMTP {c : Char} (hc : isQuotedText c = true) : [c] ∈ qtextSMTP := by
  rw [isQuotedText_eq_inRanges] at hc
  exact Text.singleton_mem_coded_iff.2 hc

theorem pair_mem_quotedPairSMTP {c : Char} (hc : isQuotable c = true) :
    ['\\', c] ∈ quotedPairSMTP := by
  rw [isQuotable_eq_inRanges] at hc
  exact Language.append_mem_mul (singleton_mem_sign _) (Text.singleton_mem_coded_iff.2 hc)

/-- Characters and pairs, one after another, may stand between quotes. -/
theorem quotedContent_flatten {words : List (List Char)}
    (h : ∀ w ∈ words, w ∈ qtextSMTP + quotedPairSMTP) : QuotedContent words.flatten := by
  induction words with
  | nil => exact .nil
  | cons word words ih =>
    obtain ⟨hword, hrest⟩ := List.forall_mem_cons.1 h
    rw [List.flatten_cons]
    rcases hword with hchar | hpair
    · obtain ⟨c, hc, hrange⟩ := hchar
      rw [← isQuotedText_eq_inRanges] at hrange
      rw [hc]
      exact .text hrange (ih hrest)
    · obtain ⟨slash, hslash, quoted, hquoted, happend⟩ := Language.mem_mul.1 hpair
      obtain ⟨c, hc, hrange⟩ := hquoted
      rw [← isQuotable_eq_inRanges] at hrange
      rw [← happend, eq_of_mem_sign hslash, hc]
      exact .pair hrange (ih hrest)

theorem quotedContent_iff_mem : QuotedContent s ↔ s ∈ (qtextSMTP + quotedPairSMTP)∗ := by
  constructor
  · intro h
    induction h with
    | nil => exact Language.nil_mem_kstar _
    | @text c s hc _ ih =>
      have hword : [c] ∈ qtextSMTP + quotedPairSMTP := .inl (singleton_mem_qtextSMTP hc)
      exact Text.append_mem_kstar hword ih
    | @pair c s hc _ ih =>
      have hword : ['\\', c] ∈ qtextSMTP + quotedPairSMTP := .inr (pair_mem_quotedPairSMTP hc)
      exact Text.append_mem_kstar hword ih
  · intro h
    obtain ⟨words, hs, hwords⟩ := Language.mem_kstar.1 h
    rw [hs]
    exact quotedContent_flatten hwords

theorem checkQuotedString_eq_ok_iff_mem : checkQuotedString s = .ok () ↔ s ∈ quotedString := by
  rw [checkQuotedString_eq_ok_iff]
  constructor
  · intro h
    obtain ⟨content, hs, hcontent⟩ := h
    rw [hs]
    have hopen : ['"'] ++ content ∈ sign '"' * (qtextSMTP + quotedPairSMTP)∗ :=
      Language.append_mem_mul (singleton_mem_sign _) (quotedContent_iff_mem.1 hcontent)
    exact Language.append_mem_mul hopen (singleton_mem_sign _)
  · intro h
    obtain ⟨opening, hopening, closing, hclosing, happend⟩ := Language.mem_mul.1 h
    obtain ⟨quote, hquote, content, hcontent, hquoted⟩ := Language.mem_mul.1 hopening
    rw [eq_of_mem_sign hquote] at hquoted
    rw [eq_of_mem_sign hclosing, ← hquoted] at happend
    exact ⟨content, happend.symm, quotedContent_iff_mem.2 hcontent⟩

/-! ### Either form -/

/-- A quoted string starts with a quote, and no dot-string does. -/
theorem head?_of_mem_quotedString (h : s ∈ quotedString) : s.head? = some '"' := by
  obtain ⟨content, hs, _⟩ := checkQuotedString_eq_ok_iff.1 (checkQuotedString_eq_ok_iff_mem.2 h)
  rw [hs]
  rfl

theorem head?_ne_of_mem_dotString (h : s ∈ dotString) : s.head? ≠ some '"' := by
  intro hhead
  have hchar := forall_mem_of_checkDotString (checkDotString_eq_ok_iff_mem.2 h) '"'
    (List.mem_of_head? hhead)
  revert hchar
  decide

/-- A text is a local part exactly if it has one of the two forms, and 1 to 64 octets. -/
theorem check_eq_ok_iff_mem :
    check s = .ok () ↔ (1 ≤ octetCount s ∧ octetCount s ≤ 64) ∧
      (s ∈ dotString ∨ s ∈ quotedString) := by
  rw [check_eq_ok_iff, Text.Utf8.one_le_octetCount_iff, and_assoc]
  refine and_congr_right fun _ => and_congr_right fun _ => ?_
  constructor
  · intro h
    split at h
    · exact .inr (checkQuotedString_eq_ok_iff_mem.1 h)
    · exact .inl (checkDotString_eq_ok_iff_mem.1 h)
  · intro h
    rcases h with hdot | hquoted
    · rw [if_neg (head?_ne_of_mem_dotString hdot)]
      exact checkDotString_eq_ok_iff_mem.2 hdot
    · rw [if_pos (head?_of_mem_quotedString hquoted)]
      exact checkQuotedString_eq_ok_iff_mem.2 hquoted

end LocalPart

/-! ### Mailboxes from their parts -/

/-- **Which local parts there are.** A text makes a mailbox with a domain exactly if it takes 1 to
64 octets and is derived from one of the two forms: atoms with single dots between them, or
characters and pairs between two quotes. The mailbox has both parts as they were given. -/
theorem Address.ofParts_accepts_grammar (localPart : String) (domain : Domain) :
    ((∃ a, ofParts localPart domain = .ok a) ↔
      (1 ≤ localPart.utf8ByteSize ∧ localPart.utf8ByteSize ≤ 64) ∧
        (localPart.toList ∈ LocalPart.dotString ∨ localPart.toList ∈ LocalPart.quotedString)) ∧
    ∀ a, ofParts localPart domain = .ok a → a.localPart = localPart ∧ a.domain = domain := by
  have hsize : octetCount localPart.toList = localPart.utf8ByteSize := by
    rw [Text.Utf8.octetCount_eq_utf8ByteSize, String.ofList_toList]
  rw [← hsize, ← LocalPart.check_eq_ok_iff_mem]
  refine ⟨⟨?_, ?_⟩, ?_⟩
  · intro h
    obtain ⟨a, ha⟩ := h
    rw [← (ofParts_eq_ok_iff.1 ha).1]
    exact a.valid
  · intro h
    exact ⟨⟨localPart, domain, h⟩, ofParts_localPart_domain ⟨localPart, domain, h⟩⟩
  · intro a ha
    exact ofParts_eq_ok_iff.1 ha

end MailRouting
