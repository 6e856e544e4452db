import MailRouting.Proofs.Address.Case

/-!
# Reading written mailboxes back

* `AtScan.Passes`, `AtScan.passes_localPart` — the scan for the separating `@` goes over a local
  part as a whole, whatever stands between its quotes;
* `parse_append_at`, `parse_localPart` — what a local part names with an `@` and a domain after it,
  and that it names nothing alone;
* `Domain.parse_text`, `parse_text` — a domain is read back from its text, and so is a mailbox if it
  is not too long for a path;
* `octetCount_text_le_of_parse` — a mailbox that was read is not too long to be read again;
* `parse_lowercase_text` — in lower case, such a mailbox is read back as its folded form, unless its
  domain changes.
-/

namespace MailRouting

open Text (isBlank trim)
open Text.Utf8 (octetCount)

/-! ### The ends and the octets of a text -/

namespace Text

theorem octetCount_append (s t : List Char) :
    octetCount (s ++ t) = octetCount s + octetCount t := by
  induction s with
  | nil => exact (Nat.zero_add _).symm
  | cons c s ih =>
    rw [List.cons_append, octetCount, octetCount, ih, Nat.add_assoc]

theorem octetCount_le_of_sublist {s t : List Char} (h : s.Sublist t) :
    octetCount s ≤ octetCount t := by
  induction h with
  | slnil => exact Nat.le_refl _
  | cons c _ ih => exact Nat.le_trans ih (Nat.le_add_left _ _)
  | cons_cons c _ ih => exact Nat.add_le_add_left ih _

theorem trim_sublist (s : List Char) : (trim s).Sublist s := by
  have hend : (trimEnd (trimStart s)).Sublist (trimStart s) := by
    rw [trimEnd, ← List.reverse_sublist, List.reverse_reverse]
    exact List.dropWhile_sublist _
  exact hend.trans (List.dropWhile_sublist _)

/-- A text with no blank at either end is what is left when the blanks at its ends go. -/
theorem trim_of_ends {s : List Char} (hhead : ∀ c, s.head? = some c → isBlank c = false)
    (hlast : ∀ c, s.getLast? = some c → isBlank c = false) : trim s = s := by
  have hdrop {t : List Char} (h : ∀ c, t.head? = some c → isBlank c = false) :
      t.dropWhile isBlank = t := by
    cases t with
    | nil => rfl
    | cons c t => exact List.dropWhile_cons_of_neg (by rw [h c rfl]; exact Bool.false_ne_true)
  rw [trim, trimStart, hdrop hhead, trimEnd, hdrop (by simpa using hlast), List.reverse_reverse]

end Text

/-! ### The ends of local parts and domains -/

theorem LocalPart.not_blank_of_isAtomChar {c : Char} (hc : isAtomChar c = true) :
    isBlank c = false :=
  Text.forall_ascii (P := fun c => isAtomChar c = true → isBlank c = false) (by decide)
    (ascii_of_isAtomChar hc) hc

/-- A local part starts with a quote or with a character of an atom. -/
theorem LocalPart.head_of_check {s : List Char} (h : check s = .ok ()) :
    ∃ c rest, s = c :: rest ∧ (c = '"' ∨ isAtomChar c = true) := by
  obtain ⟨hne, _, hform⟩ := check_eq_ok_iff.1 h
  obtain ⟨c, rest, rfl⟩ := List.exists_cons_of_ne_nil hne
  refine ⟨c, rest, rfl, ?_⟩
  split at hform
  · rename_i hhead
    exact .inl (Option.some.inj hhead)
  · obtain ⟨hedge, _⟩ := checkDotString_eq_ok_iff.1 hform
    rcases forall_mem_of_checkDotString hform c List.mem_cons_self with rfl | hatom
    · exact absurd rfl hedge.1
    · exact .inr hatom

/-- A local part ends with a quote or with a character of an atom. -/
theorem LocalPart.last_of_check {s : List Char} (h : check s = .ok ()) {c : Char}
    (hlast : s.getLast? = some c) : c = '"' ∨ isAtomChar c = true := by
  obtain ⟨_, _, hform⟩ := check_eq_ok_iff.1 h
  split at hform
  · obtain ⟨content, rfl, _⟩ := checkQuotedString_eq_ok_iff.1 hform
    rw [List.getLast?_concat] at hlast
    exact .inl (Option.some.inj hlast).symm
  · obtain ⟨hedge, _⟩ := checkDotString_eq_ok_iff.1 hform
    rcases forall_mem_of_checkDotString hform c (List.mem_of_getLast? hlast) with rfl | hatom
    · exact absurd hlast hedge.2
    · exact .inr hatom

theorem LocalPart.not_blank_of_end {c : Char} (h : c = '"' ∨ isAtomChar c = true) :
    isBlank c = false := by
  rcases h with rfl | hatom
  · decide
  · exact not_blank_of_isAtomChar hatom

theorem DomainGrammar.not_blank_of_isLabelChar {c : Char} (hc : isLabelChar c = true) :
    isBlank c = false :=
  Text.forall_ascii (P := fun c => isLabelChar c = true → isBlank c = false) (by decide)
    (ascii_of_isLabelChar hc) hc

/-- A domain name is in lower case already. -/
theorem Domain.lowercase_of_checkName {d : Domain}
    (h : DomainGrammar.checkName d.text.toList = .ok ()) :
    Text.lowercase d.text.toList = d.text.toList := by
  rw [Text.lowercase_of_ascii (DomainGrammar.forall_mem_ascii_of_checkName h), d.lower]

theorem Domain.lowercase_of_not_literal {d : Domain} (h : d.isLiteral = false) :
    Text.lowercase d.text.toList = d.text.toList := by
  rcases DomainGrammar.literal_or_name d.valid with ⟨content, hcontent⟩ | ⟨_, hname⟩
  · rw [isLiteral, hcontent] at h
    cases h
  · exact lowercase_of_checkName hname

/-- Neither end of a domain in lower case is a blank. -/
theorem Domain.ends_lowercase (d : Domain) :
    (∀ c, (Text.lowercase d.text.toList).head? = some c → isBlank c = false) ∧
      ∃ c, (Text.lowercase d.text.toList).getLast? = some c ∧ isBlank c = false := by
  rcases DomainGrammar.literal_or_name d.valid with ⟨content, hcontent⟩ | ⟨_, hname⟩
  · obtain ⟨t, ht⟩ := Text.lowercase_brackets content
    rw [hcontent, ht]
    refine ⟨?_, ']', List.getLast?_concat .., by decide⟩
    rintro c ⟨⟩
    decide
  · rw [lowercase_of_checkName hname]
    obtain ⟨hne, ⟨hhead, hlast⟩, _⟩ := DomainGrammar.checkName_eq_ok_iff.1 hname
    have hink {c : Char} (hmem : c ∈ d.text.toList) (hdot : c ≠ '.') : isBlank c = false :=
      DomainGrammar.not_blank_of_isLabelChar
        ((DomainGrammar.forall_mem_of_checkName hname c hmem).resolve_left hdot)
    refine ⟨fun c hc => ?_, d.text.toList.getLast hne, List.getLast?_eq_some_getLast hne, ?_⟩
    · refine hink (List.mem_of_head? hc) ?_
      rintro rfl
      exact hhead hc
    · refine hink (List.getLast_mem hne) fun hdot => hlast ?_
      rw [List.getLast?_eq_some_getLast hne, hdot]

theorem Domain.trim_lowercase (d : Domain) :
    trim (Text.lowercase d.text.toList) = Text.lowercase d.text.toList := by
  obtain ⟨hhead, last, hlast, hblank⟩ := d.ends_lowercase
  refine Text.trim_of_ends hhead fun c hc => ?_
  rw [← Option.some.inj (hlast.symm.trans hc)]
  exact hblank

/-- A domain is read as its text without the blanks around it, the letters lowered. -/
theorem Domain.parse_eq_ok_iff {input : String} {d : Domain} :
    parse input = .ok d ↔ DomainGrammar.check (trim input.toList) = .ok () ∧
      d.text.toList = Text.asciiLower (trim input.toList) := by
  unfold parse
  dsimp only
  split
  · rename_i hcheck
    rw [and_iff_right hcheck, Except.ok.injEq]
    constructor
    · rintro rfl
      exact String.toList_ofList
    · intro htext
      refine eq_of_text_eq (String.toList_inj.1 ?_)
      rw [htext, String.toList_ofList]
  · rename_i e hcheck
    refine iff_of_false nofun fun h => ?_
    rw [hcheck] at h
    exact nomatch h.1

/-- A domain in lower case is read as that text. -/
theorem Domain.toList_text_of_parse_lowercase {d e : Domain}
    (h : parse (String.ofList (Text.lowercase d.text.toList)) = .ok e) :
    e.text.toList = Text.lowercase d.text.toList := by
  rw [(parse_eq_ok_iff.1 h).2, String.toList_ofList, d.trim_lowercase, Text.asciiLower_lowercase]

/-- A domain that lower case leaves as it is, is read back. -/
theorem Domain.parse_lowercase {d : Domain}
    (h : Text.lowercase d.text.toList = d.text.toList) :
    parse (String.ofList (Text.lowercase d.text.toList)) = .ok d := by
  rw [parse_eq_ok_iff, String.toList_ofList, d.trim_lowercase, h]
  exact ⟨d.valid, d.lower.symm⟩

/-- Neither end of a domain is a blank. -/
theorem Domain.ends_text (d : Domain) :
    (∀ c, d.text.toList.head? = some c → isBlank c = false) ∧
      ∃ c, d.text.toList.getLast? = some c ∧ isBlank c = false := by
  rcases DomainGrammar.literal_or_name d.valid with ⟨content, hcontent⟩ | ⟨_, hname⟩
  · rw [hcontent]
    refine ⟨?_, ']', List.getLast?_concat .., by decide⟩
    rintro c ⟨⟩
    decide
  · have hends := d.ends_lowercase
    rwa [lowercase_of_checkName hname] at hends

/-- A domain is read back from its text. -/
theorem Domain.parse_text (d : Domain) : parse d.text = .ok d := by
  obtain ⟨hhead, last, hlast, hblank⟩ := d.ends_text
  have htrim : trim d.text.toList = d.text.toList := by
    refine Text.trim_of_ends hhead fun c hc => ?_
    rw [← Option.some.inj (hlast.symm.trans hc)]
    exact hblank
  rw [parse_eq_ok_iff, htrim]
  exact ⟨d.valid, d.lower.symm⟩

/-! ### The scan for the separating sign -/

namespace Address

/-- Over the text `l`, the scan comes from `q` to `q'` and finds no `@` that separates. -/
def AtScan.Passes (q : AtScan) (l : List Char) (q' : AtScan) : Prop :=
  ∀ rest, splitAtSign q (l ++ rest) =
    (splitAtSign q' rest).map fun (before, after) => (l ++ before, after)

namespace AtScan

variable {q q' q'' : AtScan} {c : Char} {l l' : List Char}

theorem passes_nil (q : AtScan) : q.Passes [] q := by
  intro rest
  rw [List.nil_append]
  cases splitAtSign q rest <;> rfl

/-- One character that does not separate. -/
theorem passes_singleton (h : (c = '@' && q.separates) = false) : q.Passes [c] (q.step c) := by
  intro rest
  show (if (c = '@' && q.separates) = true then _ else _) = _
  rw [h]
  rfl

theorem Passes.append (h : q.Passes l q') (h' : q'.Passes l' q'') : q.Passes (l ++ l') q'' := by
  intro rest
  rw [List.append_assoc, h, h', Option.map_map]
  congr 1
  funext p
  exact congrArg (·, p.2) (List.append_assoc l l' p.1).symm

/-- Characters without a meaning for the scan. -/
theorem passes_of_plain (h : ∀ c ∈ l, c ∉ ['@', '"', '[', ']', '\\']) :
    AtScan.Passes {} l {} := by
  induction l with
  | nil => exact passes_nil {}
  | cons c l ih =>
    obtain ⟨hc, hl⟩ := List.forall_mem_cons.1 h
    simp only [List.mem_cons, List.not_mem_nil, or_false, not_or] at hc
    have hstep : AtScan.step {} c = {} := by simp [step, hc]
    have hpasses := passes_singleton (q := {}) (c := c) (by simp [hc])
    rw [hstep] at hpasses
    exact hpasses.append (ih hl)

/-- The scan between quotes. -/
def quoted : AtScan :=
  { inQuotes := true }

/-- Between quotes no sign separates, and an escaped character does not end them. -/
theorem passes_quotedContent (h : LocalPart.QuotedContent l) : quoted.Passes l quoted := by
  induction h with
  | nil => exact passes_nil quoted
  | @text c l hc _ ih =>
    have hsigns : c ≠ '"' ∧ c ≠ '\\' := by
      simp only [LocalPart.isQuotedText, Bool.and_eq_true, bne_iff_ne, ne_eq] at hc
      exact ⟨hc.1.2, hc.2⟩
    have hstep : quoted.step c = quoted := by simp [step, quoted, hsigns]
    have hpasses := passes_singleton (q := quoted) (c := c) (Bool.and_false _)
    rw [hstep] at hpasses
    exact hpasses.append ih
  | @pair c l _ _ ih =>
    have hstep : (quoted.step '\\').step c = quoted := by simp [step, quoted]
    have hslash := passes_singleton (q := quoted) (c := '\\') (Bool.and_false _)
    have hpasses := passes_singleton (q := quoted.step '\\') (c := c) (Bool.and_false _)
    rw [hstep] at hpasses
    exact hslash.append (hpasses.append ih)

/-- A local part, quoted or not, is passed as a whole. -/
theorem passes_localPart (h : LocalPart.check l = .ok ()) : AtScan.Passes {} l {} := by
  obtain ⟨_, _, hform⟩ := LocalPart.check_eq_ok_iff.1 h
  split at hform
  · obtain ⟨content, rfl, hcontent⟩ := LocalPart.checkQuotedString_eq_ok_iff.1 hform
    have hopen : AtScan.Passes {} ['"'] quoted := passes_singleton (by decide)
    have hclose : quoted.Passes ['"'] {} := passes_singleton (by decide)
    exact (hopen.append (passes_quotedContent hcontent)).append hclose
  · refine passes_of_plain fun c hc => ?_
    rcases LocalPart.forall_mem_of_checkDotString hform c hc with rfl | hatom
    · decide
    · exact Text.forall_ascii
        (P := fun c => LocalPart.isAtomChar c = true → c ∉ ['@', '"', '[', ']', '\\']) (by decide)
        (LocalPart.ascii_of_isAtomChar hatom) hatom

end AtScan

/-- The first separating `@` is the one after the local part. -/
theorem splitAtSign_append_at {l : List Char} (h : LocalPart.check l = .ok ()) (d : List Char) :
    splitAtSign {} (l ++ '@' :: d) = some (l, d) := by
  rw [AtScan.passes_localPart h]
  exact congrArg (fun before => some (before, d)) (List.append_nil l)

/-- In a local part no `@` separates. -/
theorem splitAtSign_localPart {l : List Char} (h : LocalPart.check l = .ok ()) :
    splitAtSign {} l = none := by
  rw [← List.append_nil l, AtScan.passes_localPart h]
  rfl

/-- The two sides of a separating `@`. -/
theorem eq_of_splitAtSign {q : AtScan} {s before after : List Char}
    (h : splitAtSign q s = some (before, after)) : s = before ++ '@' :: after := by
  induction s generalizing q before with
  | nil => cases h
  | cons c s ih =>
    rw [splitAtSign] at h
    split at h
    · rename_i hat
      rw [Bool.and_eq_true, decide_eq_true_eq] at hat
      cases h
      rw [hat.1]
      rfl
    · obtain ⟨⟨before', after'⟩, hsplit, hp⟩ := Option.map_eq_some_iff.1 h
      cases hp
      rw [ih hsplit]
      rfl

/-! ### Reading -/

/-- What a text names that has no blanks at its ends and is no path in brackets. -/
theorem parse_of_bare {c : Char} {s : List Char} (htrim : trim (c :: s) = c :: s) (hc : c ≠ '<') :
    parse (String.ofList (c :: s)) =
      if maxPathOctets < octetCount (c :: s) then .error .pathTooLong
      else ofMailboxText (c :: s) := by
  have hnull : c :: s ≠ ['<', '>'] := fun h => hc (List.cons.inj h).1
  unfold parse
  rw [String.toList_ofList, htrim]
  show (if maxPathOctets < octetCount (c :: s) then _ else if c :: s = ['<', '>'] then _ else _) = _
  rw [if_neg hnull]
  congr 1
  split
  · rename_i heq
    exact absurd (List.cons.inj heq).1 hc
  · rfl

theorem ne_bracket_of_head {c : Char} (h : c = '"' ∨ LocalPart.isAtomChar c = true) : c ≠ '<' := by
  rintro rfl
  rcases h with h | h
  · exact absurd h (by decide)
  · exact absurd h (by decide)

/-- What a local part names with an `@` and a text after it. -/
theorem parse_append_at {l d : List Char} (hl : LocalPart.check l = .ok ()) {c : Char}
    (hlast : d.getLast? = some c) (hc : isBlank c = false) :
    parse (String.ofList (l ++ '@' :: d)) =
      if maxPathOctets < octetCount (l ++ '@' :: d) then .error .pathTooLong
      else Domain.parse (String.ofList d) >>= ofParts (String.ofList l) := by
  obtain ⟨b, rest, rfl, hb⟩ := LocalPart.head_of_check hl
  have htrim : trim (b :: rest ++ '@' :: d) = b :: rest ++ '@' :: d := by
    refine Text.trim_of_ends ?_ fun c' hc' => ?_
    · rintro _ ⟨⟩
      exact LocalPart.not_blank_of_end hb
    · rw [List.getLast?_append, List.getLast?_cons, hlast] at hc'
      rw [← Option.some.inj hc']
      exact hc
  rw [List.cons_append] at htrim ⊢
  rw [parse_of_bare htrim (ne_bracket_of_head hb)]
  congr 1
  rw [← List.cons_append, ofMailboxText, splitAtSign_append_at hl]
  have hlength := (LocalPart.check_eq_ok_iff.1 hl).2.1
  exact if_neg (Nat.not_lt_of_le hlength)

/-- A mailbox is read back from its text, if that is not too long for a path. -/
theorem parse_text (a : Address) :
    parse a.text =
      if maxPathOctets < octetCount a.text.toList then .error .pathTooLong else .ok a := by
  obtain ⟨_, last, hlast, hblank⟩ := a.domain.ends_text
  have hparse := parse_append_at a.valid hlast hblank
  rw [← toList_text, String.ofList_toList, String.ofList_toList, String.ofList_toList,
    a.domain.parse_text] at hparse
  rw [hparse]
  congr 1
  exact a.ofParts_localPart_domain

/-- A local part alone is no mailbox. -/
theorem parse_localPart {l : List Char} (hl : LocalPart.check l = .ok ()) :
    parse (String.ofList l) = .error .missingAtSign := by
  have hlength := (LocalPart.check_eq_ok_iff.1 hl).2.1
  obtain ⟨b, rest, rfl, hb⟩ := LocalPart.head_of_check hl
  have htrim : trim (b :: rest) = b :: rest := by
    refine Text.trim_of_ends ?_ fun c hc =>
      LocalPart.not_blank_of_end (LocalPart.last_of_check hl hc)
    rintro _ ⟨⟩
    exact LocalPart.not_blank_of_end hb
  rw [parse_of_bare htrim (ne_bracket_of_head hb), ofMailboxText, splitAtSign_localPart hl]
  exact if_neg (Nat.not_lt_of_le (Nat.le_trans hlength (by decide)))

theorem parse_lowered (a : Address) : parse a.lowered = .error .missingAtSign := by
  have hparse := parse_localPart a.check_lowered
  rwa [String.ofList_toList] at hparse

/-! ### Mailboxes that were read -/

/-- The mailbox text of a path is a part of the path. -/
theorem afterRoute_sublist {b : Bool} {s t : List Char} (h : afterRoute b s = some t) :
    t.Sublist s := by
  induction s generalizing b t with
  | nil => cases h
  | cons c s ih =>
    rw [afterRoute] at h
    split at h
    · rename_i t' hrest
      cases h
      exact (ih hrest).cons c
    · split at h
      · cases h
        exact List.sublist_cons_self c s
      · cases h

theorem ofPathText_sublist {s t : List Char} (h : ofPathText s = .ok t) : t.Sublist s := by
  unfold ofPathText at h
  split at h
  · cases h
    refine List.Sublist.trans ?_ (List.dropLast_sublist s)
    cases hroute : afterRoute false s.dropLast with
    | none => exact List.Sublist.refl _
    | some t => exact afterRoute_sublist hroute
  · cases h

/-- The parts of a mailbox that is made of a local part and a domain that was read. -/
theorem parts_of_bind_ofParts {r : Except AddressError Domain} {s : String} {a : Address}
    (h : (r >>= ofParts s) = .ok a) : r = .ok a.domain ∧ a.localPart = s := by
  cases r with
  | error e => cases h
  | ok d =>
    have hparts : ofParts s d = .ok a := h
    unfold ofParts at hparts
    split at hparts
    · cases hparts
      exact ⟨rfl, rfl⟩
    · cases hparts

/-- The parts that a mailbox is read from. -/
theorem ofMailboxText_eq_ok {s : List Char} {a : Address} (h : ofMailboxText s = .ok a) :
    ∃ d, s = a.localPart.toList ++ '@' :: d ∧ Domain.parse (String.ofList d) = .ok a.domain := by
  unfold ofMailboxText at h
  split at h
  · cases h
  · rename_i l d hsplit
    split at h
    · cases h
    · obtain ⟨hdomain, hlocal⟩ := parts_of_bind_ofParts h
      rw [hlocal, String.toList_ofList]
      exact ⟨d, eq_of_splitAtSign hsplit, hdomain⟩

/-- A mailbox is read from a part of the text, which is not too long for a path. -/
theorem exists_mailboxText_of_parse {input : String} {a : Address} (h : parse input = .ok a) :
    ∃ s, octetCount s ≤ maxPathOctets ∧ ofMailboxText s = .ok a := by
  unfold parse at h
  dsimp only at h
  generalize trim input.toList = s at h
  split at h
  · cases h
  · split at h
    · cases h
    · rename_i hlength
      have hshort := Nat.le_of_not_lt hlength
      split at h
      · cases h
      · split at h
        · rename_i rest _ _
          cases hpath : ofPathText rest with
          | error e =>
            rw [hpath] at h
            cases h
          | ok t =>
            rw [hpath] at h
            have hsublist := (ofPathText_sublist hpath).cons '<'
            exact ⟨t, Nat.le_trans (Text.octetCount_le_of_sublist hsublist) hshort, h⟩
        · exact ⟨s, hshort, h⟩

/-- A mailbox that was read is not too long to be read again. -/
theorem octetCount_text_le_of_parse {input : String} {a : Address} (h : parse input = .ok a) :
    octetCount a.text.toList ≤ maxPathOctets := by
  obtain ⟨s, hshort, hs⟩ := exists_mailboxText_of_parse h
  obtain ⟨d, rfl, hdomain⟩ := ofMailboxText_eq_ok hs
  have hcount : octetCount a.domain.text.toList ≤ octetCount d := by
    rw [(Domain.parse_eq_ok_iff.1 hdomain).2, String.toList_ofList,
      DomainGrammar.octetCount_asciiLower]
    exact Text.octetCount_le_of_sublist (Text.trim_sublist d)
  rw [Text.octetCount_append] at hshort
  rw [toList_text, Text.octetCount_append]
  exact Nat.le_trans (Nat.add_le_add_left (Nat.add_le_add_left hcount _) _) hshort

/-- In lower case a mailbox that was read is read back as its folded form, if that leaves its domain
as it is. -/
theorem parse_lowercase_text {input : String} {a : Address} (h : parse input = .ok a)
    (hdomain : Text.lowercase a.domain.text.toList = a.domain.text.toList) :
    parse (String.ofList (Text.lowercase a.text.toList)) = .ok a.folded := by
  obtain ⟨_, c, hlast, hc⟩ := a.domain.ends_lowercase
  have hshort : octetCount (a.lowered.toList ++ '@' :: Text.lowercase a.domain.text.toList) ≤
      maxPathOctets := by
    have htext := octetCount_text_le_of_parse h
    rw [toList_text, Text.octetCount_append] at htext
    rwa [Text.octetCount_append, toList_lowered, DomainGrammar.octetCount_asciiLower, hdomain]
  rw [lowercase_toList_text, parse_append_at a.check_lowered hlast hc,
    if_neg (Nat.not_lt_of_le hshort), Domain.parse_lowercase hdomain, String.ofList_toList,
    a.folded_eq]
  simp only [bind, Except.bind]
  exact ofParts_of_check a.check_lowered

/-- What a mailbox in lower case is read back as lies in the domain in lower case. -/
theorem domain_of_parse_lowercase_text {a b : Address}
    (h : parse (String.ofList (Text.lowercase a.text.toList)) = .ok b) :
    b.domain.text.toList = Text.lowercase a.domain.text.toList := by
  obtain ⟨_, c, hlast, hc⟩ := a.domain.ends_lowercase
  rw [lowercase_toList_text, parse_append_at a.check_lowered hlast hc] at h
  split at h
  · cases h
  · exact Domain.toList_text_of_parse_lowercase (parts_of_bind_ofParts h).1

end Address

end MailRouting
