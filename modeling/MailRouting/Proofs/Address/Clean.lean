import MailRouting.Proofs.Address.Written
import MailRouting.Proofs.Text.Lines

/-!
# The characters of domains

A domain name is clean text by its grammar: lower-case letters, digits, hyphens and dots. Of an
address literal only the brackets, an IPv4 address or the first colon are looked at, so that a value
behind a tag may hold any characters, line ends too.

* `DomainGrammar.isLiteralText` — the characters that RFC 5321 has between the brackets of a literal
  (`dcontent`);
* `Domain.Clean` — printable characters of ASCII, none of them a capital, and brackets at the two
  ends of a literal only;
* `Domain.clean_of_checkName`, `Domain.clean_literal_iff` — names are clean, and which literals are;
* `Domain.Clean.isLine_text` — a mailbox in a clean domain is written on one line;
* `Domain.clean_iff_of_parse` — which of the domains that are read are clean.
-/

namespace MailRouting

open Text (IsLine)

/-! ### Characters -/

namespace DomainGrammar

/-- Printable ASCII without the space, the brackets and the backslash. -/
def isLiteralText (c : Char) : Bool :=
  '!' ≤ c && c ≤ '~' && c != '[' && c != ']' && c != '\\'

theorem isLiteralText_iff {c : Char} :
    isLiteralText c = true ↔ (33 ≤ c.toNat ∧ c.toNat ≤ 126) ∧ c ∉ ['[', ']', '\\'] := by
  have hlow : '!' ≤ c ↔ 33 ≤ c.toNat := UInt32.le_iff_toNat_le
  have hhigh : c ≤ '~' ↔ c.toNat ≤ 126 := UInt32.le_iff_toNat_le
  simp only [isLiteralText, Bool.and_eq_true, decide_eq_true_eq, bne_iff_ne, hlow, hhigh,
    List.mem_cons, List.not_mem_nil, or_false, not_or, and_assoc]

theorem isLiteralText_of_isLabelChar {c : Char} (hc : isLabelChar c = true) :
    isLiteralText c = true :=
  Text.forall_ascii (P := fun c => isLabelChar c = true → isLiteralText c = true) (by decide)
    (ascii_of_isLabelChar hc) hc

theorem isLiteralText_toLower (c : Char) : isLiteralText c.toLower = isLiteralText c := by
  by_cases hc : c.toNat < 128
  · exact Text.forall_ascii (P := fun c => isLiteralText c.toLower = isLiteralText c) (by decide) hc
  · rw [Text.toLower_of_not_ascii hc]

/-- The characters that an IPv6 address is written with. -/
def isIPv6Char (c : Char) : Bool :=
  c.isDigit || c.toLower ∈ ['a', 'b', 'c', 'd', 'e', 'f'] || c ∈ [':', '.']

theorem isLiteralText_of_isDigit {c : Char} (hc : c.isDigit = true) : isLiteralText c = true :=
  isLiteralText_of_isLabelChar (by simp [isLabelChar, isLetDig, Char.isAlphanum, hc])

theorem isLiteralText_of_isIPv6Char {c : Char} (hc : isIPv6Char c = true) :
    isLiteralText c = true := by
  simp only [isIPv6Char, Bool.or_eq_true, decide_eq_true_eq] at hc
  rcases hc with (hdigit | hletter) | hmark
  · exact isLiteralText_of_isDigit hdigit
  · have hlower : ['a', 'b', 'c', 'd', 'e', 'f'].all isLiteralText = true := by decide
    rw [← isLiteralText_toLower]
    exact List.all_eq_true.1 hlower _ hletter
  · have hmarks : [':', '.'].all isLiteralText = true := by decide
    exact List.all_eq_true.1 hmarks _ hmark

/-- The characters of an IPv4 address are digits and dots. -/
theorem forall_mem_of_isIPv4 {content : List Char} (h : isIPv4 content = true) :
    ∀ c ∈ content, c = '.' ∨ c.isDigit = true := by
  intro c hc
  by_cases hdot : c = '.'
  · exact .inl hdot
  · obtain ⟨part, hpart, hmem⟩ := Text.exists_mem_splitOn hc hdot
    have hoctet : (decimalOctet? part).isSome = true := by
      rw [isIPv4, Bool.and_eq_true] at h
      exact List.all_eq_true.1 h.2 part hpart
    unfold decimalOctet? at hoctet
    split at hoctet
    · cases hoctet
    · rename_i hdigits
      simp only [Bool.or_eq_true, Bool.not_eq_true', not_or, Bool.not_eq_false] at hdigits
      exact .inr (List.all_eq_true.1 hdigits.2 c hmem)

end DomainGrammar

theorem Text.isUpper_of_toLower_eq {c : Char} (h : c.toLower = c) : c.isUpper = false := by
  by_cases hc : c.toNat < 128
  · exact forall_ascii (P := fun c => c.toLower = c → c.isUpper = false) (by decide) hc h
  · cases hupper : c.isUpper with
    | false => rfl
    | true =>
      have halphanum : c.isAlphanum = true := by
        show (c.isUpper || c.isLower || c.isDigit) = true
        rw [hupper]
        rfl
      exact absurd (LocalPart.ascii_of_isAlphanum halphanum) hc

/-! ### Clean domains -/

namespace Domain

variable {d : Domain}

/-- Printable characters of ASCII, none of them a space or a capital, and brackets and backslashes
nowhere but at the two ends of a literal. -/
structure Clean (d : Domain) : Prop where
  printable : ∀ c ∈ d.text.toList, 33 ≤ c.toNat ∧ c.toNat ≤ 126
  lower : ∀ c ∈ d.text.toList, c.isUpper = false
  marks : ∃ content, (d.text.toList = content ∨ d.text.toList = '[' :: content ++ [']']) ∧
    ∀ c ∈ content, c ∉ ['[', ']', '\\']

/-- No domain has a capital. -/
theorem isUpper_of_mem {c : Char} (hc : c ∈ d.text.toList) : c.isUpper = false := by
  have hlower : d.text.toList.map Char.toLower = d.text.toList.map id := by
    rw [List.map_id]
    exact d.lower
  exact Text.isUpper_of_toLower_eq (List.map_inj_left.1 hlower c hc)

/-- A name is clean. -/
theorem clean_of_checkName (h : DomainGrammar.checkName d.text.toList = .ok ()) : d.Clean := by
  have htext : ∀ c ∈ d.text.toList, DomainGrammar.isLiteralText c = true := by
    intro c hc
    rcases DomainGrammar.forall_mem_of_checkName h c hc with rfl | hlabel
    · decide
    · exact DomainGrammar.isLiteralText_of_isLabelChar hlabel
  exact ⟨fun c hc => (DomainGrammar.isLiteralText_iff.1 (htext c hc)).1, fun c => isUpper_of_mem,
    _, .inl rfl, fun c hc => (DomainGrammar.isLiteralText_iff.1 (htext c hc)).2⟩

/-- A literal is clean exactly if what stands between its brackets may stand there by RFC 5321. -/
theorem clean_literal_iff {content : List Char} (h : d.text.toList = '[' :: content ++ [']']) :
    d.Clean ↔ ∀ c ∈ content, DomainGrammar.isLiteralText c = true := by
  have hmem {c : Char} (hc : c ∈ content) : c ∈ d.text.toList := by
    rw [h]
    exact List.mem_append_left _ (List.mem_cons_of_mem _ hc)
  constructor
  · rintro ⟨hprintable, _, inner, hinner, hmarks⟩ c hc
    refine DomainGrammar.isLiteralText_iff.2 ⟨hprintable c (hmem hc), hmarks c ?_⟩
    rcases hinner with hwhole | hbrackets
    · rw [← hwhole]
      exact hmem hc
    · rw [h] at hbrackets
      have hinner : content = inner := by simpa using hbrackets
      rwa [← hinner]
  · intro hcontent
    refine ⟨fun c hc => ?_, fun c => isUpper_of_mem, content, .inr h, fun c hc =>
      (DomainGrammar.isLiteralText_iff.1 (hcontent c hc)).2⟩
    rw [h, List.mem_append, List.mem_cons, List.mem_singleton] at hc
    rcases hc with (rfl | hc) | rfl
    · decide
    · exact (DomainGrammar.isLiteralText_iff.1 (hcontent c hc)).1
    · decide

/-! ### Mailboxes -/

/-- A mailbox in a clean domain is written with printable characters of ASCII and spaces. -/
theorem Clean.forall_mem_text {a : Address} (h : a.domain.Clean) :
    ∀ c ∈ a.text.toList, 32 ≤ c.toNat ∧ c.toNat ≤ 126 := by
  intro c hc
  rw [Address.toList_text, List.mem_append, List.mem_cons] at hc
  rcases hc with hlocal | rfl | hdomain
  · have hquotable := LocalPart.forall_mem_quotable a.valid c hlocal
    rw [LocalPart.isQuotable, Bool.and_eq_true, decide_eq_true_eq, decide_eq_true_eq] at hquotable
    exact ⟨UInt32.le_iff_toNat_le.1 hquotable.1, UInt32.le_iff_toNat_le.1 hquotable.2⟩
  · decide
  · obtain ⟨hlow, hhigh⟩ := h.printable c hdomain
    exact ⟨Nat.le_of_succ_le hlow, hhigh⟩

/-- It stands on one line. -/
theorem Clean.isLine_text {a : Address} (h : a.domain.Clean) : IsLine a.text :=
  ⟨fun hcr => absurd (h.forall_mem_text _ hcr).1 (by decide),
    fun hlf => absurd (h.forall_mem_text _ hlf).1 (by decide)⟩

/-! ### Domains that were read -/

theorem toList_text_of_literal {input : String} {content : List Char} (h : parse input = .ok d)
    (hinput : Text.trim input.toList = '[' :: content ++ [']']) :
    d.text.toList = '[' :: Text.asciiLower content ++ [']'] := by
  rw [(parse_eq_ok_iff.1 h).2, hinput, Text.asciiLower, List.map_append]
  rfl

/-- **The characters of a domain.** Let a domain be read from a text, blanks around it aside. It has
no capitals. It is clean, every character printable, none a space, and brackets and backslashes
nowhere but at the ends of a literal, exactly if the text is no literal or has only such characters
between its brackets as RFC 5321 allows there. So names are clean, and so are literals of IPv4 and
IPv6 addresses. A mailbox in a clean domain is written on one line, without control characters. -/
theorem clean_iff_of_parse {input : String} (h : parse input = .ok d) :
    (d.Clean ↔ ∀ content, Text.trim input.toList = '[' :: content ++ [']'] →
      ∀ c ∈ content, DomainGrammar.isLiteralText c = true) ∧
    (∀ c ∈ d.text.toList, c.isUpper = false) ∧
    (d.isLiteral = false → d.Clean) ∧
    (∀ content, Text.trim input.toList = '[' :: content ++ [']'] →
      DomainGrammar.isIPv4 content = true → d.Clean) ∧
    (∀ value, Text.trim input.toList = '[' :: ("IPv6:".toList ++ value) ++ [']'] →
      (∀ c ∈ value, DomainGrammar.isIPv6Char c = true) → d.Clean) ∧
    (d.Clean → ∀ a : Address, a.domain = d →
      IsLine a.text ∧ ∀ c ∈ a.text.toList, 32 ≤ c.toNat ∧ c.toNat ≤ 126) := by
  have hliteral {content : List Char} (hinput : Text.trim input.toList = '[' :: content ++ [']']) :
      d.Clean ↔ ∀ c ∈ content, DomainGrammar.isLiteralText c = true := by
    rw [clean_literal_iff (toList_text_of_literal h hinput), Text.asciiLower, List.forall_mem_map]
    simp only [DomainGrammar.isLiteralText_toLower]
  have hname (hcheck : DomainGrammar.checkName (Text.trim input.toList) = .ok ()) : d.Clean := by
    refine clean_of_checkName ?_
    rw [(parse_eq_ok_iff.1 h).2]
    exact DomainGrammar.checkName_asciiLower_iff.2 hcheck
  refine ⟨⟨fun hclean content hinput => (hliteral hinput).1 hclean, fun hcontent => ?_⟩,
    fun c => isUpper_of_mem, fun hnot => ?_, fun content hinput hIPv4 => ?_,
    fun value hinput hvalue => ?_, ?_⟩
  · have hcheck := (parse_eq_ok_iff.1 h).1
    rcases DomainGrammar.literal_or_name hcheck with ⟨content, hinput⟩ | ⟨_, hcheck⟩
    · exact (hliteral hinput).2 (hcontent content hinput)
    · exact hname hcheck
  · rcases DomainGrammar.literal_or_name d.valid with ⟨content, htext⟩ | ⟨_, hcheck⟩
    · rw [isLiteral, htext] at hnot
      cases hnot
    · exact clean_of_checkName hcheck
  · refine (hliteral hinput).2 fun c hc => ?_
    rcases DomainGrammar.forall_mem_of_isIPv4 hIPv4 c hc with rfl | hdigit
    · decide
    · exact DomainGrammar.isLiteralText_of_isDigit hdigit
  · refine (hliteral hinput).2 fun c hc => ?_
    rcases List.mem_append.1 hc with htag | hc
    · have htags : "IPv6:".toList.all DomainGrammar.isLiteralText = true := by decide
      exact List.all_eq_true.1 htags c htag
    · exact DomainGrammar.isLiteralText_of_isIPv6Char (hvalue c hc)
  · rintro hclean a rfl
    exact ⟨hclean.isLine_text, hclean.forall_mem_text⟩

/-- An IPv6 address with capitals, and blanks around the literal. -/
theorem clean_iff_of_parse_loopback :
    ∃ d, parse " [IPv6:2001:DB8::1]\n" = .ok d ∧ d.text = "[ipv6:2001:db8::1]" ∧ d.Clean := by
  have hread : parse " [IPv6:2001:DB8::1]\n" =
      .ok ⟨"[ipv6:2001:db8::1]", by rfl, by rfl⟩ := by rfl
  obtain ⟨_, _, _, _, hIPv6, _⟩ := clean_iff_of_parse hread
  refine ⟨_, hread, rfl, hIPv6 "2001:DB8::1".toList (by decide) ?_⟩
  have hvalue : "2001:DB8::1".toList.all DomainGrammar.isIPv6Char = true := by decide
  exact List.all_eq_true.1 hvalue

/-- Line ends, a space, a bracket and a backslash behind a tag are accepted, so that a mailbox in
this domain goes on behind a line end. -/
theorem not_clean_of_parse :
    ∃ d, parse "[x:\r\nBcc: ]\\]" = .ok d ∧ d.text = "[x:\r\nbcc: ]\\]" ∧ ¬d.Clean ∧
      ∀ a : Address, a.domain = d → ¬IsLine a.text := by
  refine ⟨⟨"[x:\r\nbcc: ]\\]", by rfl, by rfl⟩, by rfl, rfl, fun hclean => ?_, ?_⟩
  · exact absurd (hclean.printable '\r' (by decide)).1 (by decide)
  · rintro a hdomain ⟨hcr, _⟩
    rw [Address.toList_text, hdomain] at hcr
    exact hcr (List.mem_append_right _ (by decide))

end Domain

end MailRouting
