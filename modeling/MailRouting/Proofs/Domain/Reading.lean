import MailRouting.Proofs.Address.Lowered
import MailRouting.Proofs.Text.Grammar
import MailRouting.Value.Codec

/-!
# Reading domains

* `DomainGrammar.label`, `DomainGrammar.name` — labels of letters, digits and hyphens, and names, as
  languages;
* `DomainGrammar.checkLabel_eq_ok_iff_mem`, `DomainGrammar.check_eq_ok_iff_mem` — the checks accept
  these languages;
* `Domain.parse_accepts_names` — the names that are read, and what is read of them;
* `DomainGrammar.isTagged_iff`, `DomainGrammar.checkLiteral_eq_ok_iff` — the three forms of a
  literal, one of which is among another;
* `Domain.equality_ignores_case` — texts are read as the same domain exactly if they are equal up to
  case, and a domain is read back from its own text.
-/

namespace MailRouting

open Computability
open Text (asciiLower coded equalIgnoringCase inRanges separated trim)
open Text.Utf8 (octetCount)

namespace DomainGrammar

/-! ### The grammar of names -/

/-- Letters, digits and the hyphen. -/
def labelRanges : List Text.CodeRange :=
  [(65, 90), (97, 122), (48, 57), (45, 45)]

/-- One or more letters, digits and hyphens, without a hyphen at either end. -/
def label : Language Char :=
  {w | w ∈ coded labelRanges * (coded labelRanges)∗ ∧
    w.head? ≠ some '-' ∧ w.getLast? ≠ some '-'}

/-- Labels with dots between them. -/
def name : Language Char :=
  separated '.' label

variable {s w : List Char}

theorem isLabelChar_eq_inRanges (c : Char) : isLabelChar c = inRanges labelRanges c.toNat :=
  Text.eq_inRanges_of_ascii (fun _ => ascii_of_isLabelChar) (by decide) (by decide) c

theorem mem_label_iff : w ∈ label ↔
    (w ≠ [] ∧ ∀ c ∈ w, isLabelChar c = true) ∧ w.head? ≠ some '-' ∧ w.getLast? ≠ some '-' := by
  show (w ∈ coded labelRanges * (coded labelRanges)∗ ∧ _) ↔ _
  rw [Text.mem_coded_mul_kstar_iff]
  simp only [isLabelChar_eq_inRanges]

/-- A character of a label that is no hyphen is a letter or a digit. -/
theorem isLetDig_of_isLabelChar {c : Char} (hc : isLabelChar c = true) (hne : c ≠ '-') :
    isLetDig c = true := by
  simpa [isLabelChar, hne] using hc

theorem ne_hyphen_of_isLetDig {c : Char} (hc : isLetDig c = true) : c ≠ '-' := by
  intro h
  rw [h] at hc
  revert hc
  decide

theorem checkLabel_eq_ok_iff_mem : checkLabel w = .ok () ↔ w ∈ label := by
  rw [checkLabel_eq_ok_iff, mem_label_iff]
  constructor
  · intro h
    obtain ⟨⟨first, hfirst, hfirstClass⟩, ⟨last, hlast, hlastClass⟩, hall⟩ := h
    refine ⟨⟨?_, hall⟩, ?_, ?_⟩
    · intro hnil
      rw [hnil] at hfirst
      cases hfirst
    · rw [hfirst, ne_eq, Option.some.injEq]
      exact ne_hyphen_of_isLetDig hfirstClass
    · rw [hlast, ne_eq, Option.some.injEq]
      exact ne_hyphen_of_isLetDig hlastClass
  · intro h
    obtain ⟨⟨hne, hall⟩, hhead, hend⟩ := h
    have hfirst : w.head? = some (w.head hne) := List.head?_eq_some_head hne
    have hlast : w.getLast? = some (w.getLast hne) := List.getLast?_eq_some_getLast hne
    rw [hfirst, ne_eq, Option.some.injEq] at hhead
    rw [hlast, ne_eq, Option.some.injEq] at hend
    refine ⟨⟨_, hfirst, ?_⟩, ⟨_, hlast, ?_⟩, hall⟩
    · exact isLetDig_of_isLabelChar (hall _ (List.head_mem hne)) hhead
    · exact isLetDig_of_isLabelChar (hall _ (List.getLast_mem hne)) hend

theorem checkName_eq_ok_iff_mem : checkName s = .ok () ↔ s ≠ [] ∧ s ∈ name := by
  have hdot : ∀ w ∈ label, '.' ∉ w := by
    intro w hw hmem
    have hclass := (mem_label_iff.1 hw).1.2 '.' hmem
    revert hclass
    decide
  rw [checkName_eq_ok_iff, name, Text.mem_separated_iff hdot]
  simp only [checkLabel_eq_ok_iff_mem]
  refine and_congr_right fun _ => ?_
  constructor
  · intro h
    exact h.2
  · intro h
    exact ⟨Text.edges_of_pieces fun piece hpiece => (mem_label_iff.1 (h piece hpiece)).1.1, h⟩

/-- A text that does not start with a bracket is a domain exactly if it is a name of 1 to 255
octets. -/
theorem check_eq_ok_iff_mem (h : s.head? ≠ some '[') :
    check s = .ok () ↔ (1 ≤ octetCount s ∧ octetCount s ≤ 255) ∧ s ∈ name := by
  rw [check, if_neg h, Text.Utf8.one_le_octetCount_iff]
  by_cases hlong : maxOctets < octetCount s
  · rw [if_pos hlong]
    refine iff_of_false nofun ?_
    intro hname
    exact absurd hname.1.2 (Nat.not_le_of_lt hlong)
  · rw [if_neg hlong, checkName_eq_ok_iff_mem, and_right_comm, iff_self_and]
    intro _
    exact Nat.le_of_not_lt hlong

/-! ### Address literals -/

variable {content : List Char}

/-- A tagged value is a tag and a value, neither empty, with a colon between them that is the first
one. -/
theorem isTagged_iff : isTagged content = true ↔
    ∃ tag value, content = tag ++ ':' :: value ∧ ':' ∉ tag ∧ tag ≠ [] ∧ value ≠ [] := by
  constructor
  · intro h
    unfold isTagged at h
    split at h
    · rename_i tag value hbreak
      obtain ⟨hcontent, htag⟩ := Text.eq_of_breakOn hbreak
      simp only [Bool.and_eq_true, Bool.not_eq_true', List.isEmpty_eq_false_iff] at h
      exact ⟨tag, value, hcontent, htag, h.1, h.2⟩
    · cases h
  · intro h
    obtain ⟨tag, value, hcontent, htag, hne, hne'⟩ := h
    rw [hcontent, isTagged, Text.breakOn_of_not_mem htag]
    simp [hne, hne']

/-- **Which literals there are.** Between the brackets stands an IPv4 address, an IPv6 address
behind the tag `IPv6`, or any tag and value. However an IPv6 address is told from other texts, if
only the empty text is none, it is a value behind a tag anyway; so nothing hangs on the case of its
tag. -/
theorem checkLiteral_eq_ok_iff {isIPv6 : List Char → Bool} (hnil : isIPv6 [] = false) :
    checkLiteral ('[' :: content ++ [']']) = .ok () ↔
      isIPv4 content = true ∨ (∃ value, content = "IPv6:".toList ++ value ∧ isIPv6 value = true) ∨
        isTagged content = true := by
  have hIPv6 : (∃ value, content = "IPv6:".toList ++ value ∧ isIPv6 value = true) →
      isTagged content = true := by
    intro h
    obtain ⟨value, hcontent, haddress⟩ := h
    refine isTagged_iff.2 ⟨"IPv6".toList, value, hcontent, by decide, by decide, ?_⟩
    intro hempty
    rw [hempty, hnil] at haddress
    cases haddress
  have hcheck : checkLiteral ('[' :: content ++ [']']) = .ok () ↔
      (isIPv4 content || isTagged content) = true := by
    rw [List.cons_append, checkLiteral, if_pos (List.getLast?_concat ..), List.dropLast_concat]
    dsimp only
    split
    · rename_i hform
      exact iff_of_true rfl hform
    · rename_i hform
      refine iff_of_false ?_ hform
      intro h
      cases h
  rw [hcheck, Bool.or_eq_true, or_iff_right_of_imp hIPv6]

end DomainGrammar

/-! ### Names -/

namespace Domain

variable {s₁ s₂ : String} {d : Domain}

theorem exists_parse_iff {s : String} :
    (∃ d, parse s = .ok d) ↔ DomainGrammar.check (trim s.toList) = .ok () := by
  constructor
  · intro h
    obtain ⟨d, hd⟩ := h
    exact (parse_eq_ok_iff.1 hd).1
  · intro h
    unfold parse
    dsimp only
    split
    · exact ⟨_, rfl⟩
    · rename_i e herror
      rw [h] at herror
      cases herror

/-- **Which names are read.** Let a text, blanks around it aside, not start with a bracket. It is
read as a domain exactly if it takes 1 to 255 octets and is a name: one or more labels with dots
between them, each of letters, digits and hyphens of ASCII, without a hyphen at either end. The
domain is that text in lower case. -/
theorem parse_accepts_names {s : String} (h : (trim s.toList).head? ≠ some '[') :
    ((∃ d, parse s = .ok d) ↔
      (1 ≤ (String.ofList (trim s.toList)).utf8ByteSize ∧
        (String.ofList (trim s.toList)).utf8ByteSize ≤ 255) ∧
      trim s.toList ∈ DomainGrammar.name) ∧
    ∀ d, parse s = .ok d → d.text = String.ofList (asciiLower (trim s.toList)) := by
  rw [← Text.Utf8.octetCount_eq_utf8ByteSize, ← DomainGrammar.check_eq_ok_iff_mem h]
  refine ⟨exists_parse_iff, ?_⟩
  intro d hd
  rw [← (parse_eq_ok_iff.1 hd).2, String.ofList_toList]

/-- Capitals, and blanks at both ends. -/
theorem parse_accepts_names_padded :
    (trim "\tMail-1.Example.COM \n".toList).head? ≠ some '[' ∧
      "Mail-1.Example.COM".toList ∈ DomainGrammar.name ∧
      (∃ d, parse "\tMail-1.Example.COM \n" = .ok d) ∧
      ∀ d, parse "\tMail-1.Example.COM \n" = .ok d → d.text = "mail-1.example.com" := by
  have hhead : (trim "\tMail-1.Example.COM \n".toList).head? ≠ some '[' := by decide
  obtain ⟨hnames, htext⟩ := parse_accepts_names hhead
  have hread : ∃ d, parse "\tMail-1.Example.COM \n" = .ok d :=
    ⟨⟨"mail-1.example.com", by rfl, by rfl⟩, by rfl⟩
  exact ⟨hhead, (hnames.1 hread).2, hread, htext⟩

/-! ### Case -/

/-- Of texts that are equal up to case, each is read as what the other one is read as. -/
theorem parse_eq_ok_iff_of_equal (h : equalIgnoringCase (trim s₁.toList) (trim s₂.toList) = true) :
    parse s₁ = .ok d ↔ parse s₂ = .ok d := by
  have hlower : asciiLower (trim s₁.toList) = asciiLower (trim s₂.toList) := beq_iff_eq.1 h
  rw [parse_eq_ok_iff, parse_eq_ok_iff, ← DomainGrammar.check_asciiLower_iff, hlower,
    DomainGrammar.check_asciiLower_iff]

/-- **When two texts name one domain.** Texts that, blanks around them aside, are equal up to the
case of ASCII letters are both read as the same domain, or both refused, be they names or literals.
Texts that are read as the same domain are equal in that way. And a domain that is read from a text
is read back from its own text, also after it has been written as a value. -/
theorem equality_ignores_case (s₁ s₂ : String) :
    (equalIgnoringCase (trim s₁.toList) (trim s₂.toList) = true →
      (∃ d, parse s₁ = .ok d ∧ parse s₂ = .ok d) ∨
        ∃ e₁ e₂, parse s₁ = .error e₁ ∧ parse s₂ = .error e₂) ∧
    (∀ d, parse s₁ = .ok d → parse s₂ = .ok d →
      equalIgnoringCase (trim s₁.toList) (trim s₂.toList) = true) ∧
    ∀ d, parse s₁ = .ok d → parse d.text = .ok d ∧ ofValue d.toValue = .ok d := by
  refine ⟨?_, ?_, ?_⟩
  · intro h
    cases h₁ : parse s₁ with
    | ok d => exact .inl ⟨d, rfl, (parse_eq_ok_iff_of_equal h).1 h₁⟩
    | error e₁ =>
      cases h₂ : parse s₂ with
      | ok d =>
        rw [(parse_eq_ok_iff_of_equal h).2 h₂] at h₁
        cases h₁
      | error e₂ => exact .inr ⟨e₁, e₂, rfl, rfl⟩
  · intro d h₁ h₂
    rw [equalIgnoringCase, ← (parse_eq_ok_iff.1 h₁).2, ← (parse_eq_ok_iff.1 h₂).2]
    exact beq_self_eq_true _
  · intro d _
    refine ⟨d.parse_text, ?_⟩
    show (parse d.text).mapError DecodeError.invalidAddress = _
    rw [d.parse_text]
    rfl

end Domain

end MailRouting
