import MailRouting.Proofs.Address.Written

/-!
# Reading mailboxes in lower case

No sign that separates the parts of a mailbox is a letter, and neither is a blank. So it does not
matter whether the letters of a text are lowered before a mailbox is read from it or after that.

* `Text.trim_asciiLower`, `Address.afterRoute_asciiLower`, `Address.splitAtSign_asciiLower` — a text
  in lower case is cut where the text itself is;
* `Domain.parse_asciiLower_iff` — the same domain is read;
* `Address.ofMailboxText_eq_ok_iff`, `Address.mailboxText`, `Address.parse_eq_bind` — reading in two
  steps: the brackets and the source route go, and what is left is read at its `@`;
* `Address.parse_asciiLower_iff` — what is read is the folded form of the mailbox, and a text that
  names none names none in lower case.
-/

namespace MailRouting

open Text (asciiLower isBlank trim)
open Text.Utf8 (octetCount)

/-! ### Blanks -/

namespace Text

theorem isBlank_toLower (c : Char) : isBlank c.toLower = isBlank c := by
  by_cases hc : c.toNat < 128
  · exact forall_ascii (P := fun c => isBlank c.toLower = isBlank c) (by decide) hc
  · rw [toLower_of_not_ascii hc]

theorem dropWhile_isBlank_asciiLower (s : List Char) :
    (asciiLower s).dropWhile isBlank = asciiLower (s.dropWhile isBlank) := by
  have hsame : isBlank ∘ Char.toLower = isBlank := by
    funext c
    exact isBlank_toLower c
  rw [asciiLower, List.dropWhile_map, hsame, asciiLower]

theorem trim_asciiLower (s : List Char) : trim (asciiLower s) = asciiLower (trim s) := by
  have hreverse (t : List Char) : (asciiLower t).reverse = asciiLower t.reverse :=
    List.map_reverse.symm
  rw [trim, trim, trimStart, trimStart, trimEnd, trimEnd, dropWhile_isBlank_asciiLower, hreverse,
    dropWhile_isBlank_asciiLower, hreverse]

/-- A text without letters is the lower-case form of itself alone. -/
theorem asciiLower_eq_iff {s t : List Char} (ht : ∀ c ∈ t, c.isAlpha = false) :
    asciiLower s = t ↔ s = t := by
  induction t generalizing s with
  | nil => exact List.map_eq_nil_iff
  | cons c t ih =>
    obtain ⟨hc, hrest⟩ := List.forall_mem_cons.1 ht
    cases s with
    | nil => exact iff_of_false nofun nofun
    | cons d s =>
      rw [asciiLower, List.map_cons, ← asciiLower, List.cons.injEq, List.cons.injEq,
        toLower_eq_iff hc, ih hrest]

end Text

/-! ### Domains -/

/-- In lower case the same domain is read. -/
theorem Domain.parse_asciiLower_iff {s : List Char} {d : Domain} :
    parse (String.ofList (asciiLower s)) = .ok d ↔ parse (String.ofList s) = .ok d := by
  rw [parse_eq_ok_iff, parse_eq_ok_iff, String.toList_ofList, String.toList_ofList,
    Text.trim_asciiLower, DomainGrammar.check_asciiLower_iff, Text.asciiLower_asciiLower]

namespace Address

/-! ### Source routes -/

theorem afterRoute_asciiLower (inBrackets : Bool) (s : List Char) :
    afterRoute inBrackets (asciiLower s) = (afterRoute inBrackets s).map asciiLower := by
  have hopen : '['.isAlpha = false := by decide
  have hclose : ']'.isAlpha = false := by decide
  have hcolon : ':'.isAlpha = false := by decide
  induction s generalizing inBrackets with
  | nil => rfl
  | cons c s ih =>
    rw [asciiLower, List.map_cons, ← asciiLower, afterRoute, afterRoute]
    simp only [Text.toLower_eq_iff hopen, Text.toLower_eq_iff hclose, Text.toLower_eq_iff hcolon,
      ih]
    cases afterRoute (if c = '[' then true else if c = ']' then false else inBrackets) s with
    | some t => rfl
    | none =>
      show (if _ then _ else _) = Option.map asciiLower (if _ then _ else _)
      split <;> rfl

theorem ofPathText_asciiLower (s : List Char) :
    ofPathText (asciiLower s) = (ofPathText s).map asciiLower := by
  have hlast : (asciiLower s).getLast? = some '>' ↔ s.getLast? = some '>' :=
    Text.getLast?_asciiLower (by decide)
  have hdrop : (asciiLower s).dropLast = asciiLower s.dropLast := List.map_dropLast.symm
  unfold ofPathText
  simp only [hlast, hdrop, afterRoute_asciiLower]
  split
  · cases afterRoute false s.dropLast <;> rfl
  · rfl

/-! ### The separating sign -/

/-- A letter does to the scan what it does in lower case. -/
theorem AtScan.step_toLower (q : AtScan) (c : Char) : q.step c.toLower = q.step c := by
  have hslash : '\\'.isAlpha = false := by decide
  have hquote : '"'.isAlpha = false := by decide
  have hopen : '['.isAlpha = false := by decide
  have hclose : ']'.isAlpha = false := by decide
  simp only [step, Text.toLower_eq_iff hslash, Text.toLower_eq_iff hquote,
    Text.toLower_eq_iff hopen, Text.toLower_eq_iff hclose]

theorem splitAtSign_asciiLower (q : AtScan) (s : List Char) :
    splitAtSign q (asciiLower s) =
      (splitAtSign q s).map fun (before, after) => (asciiLower before, asciiLower after) := by
  have hat : '@'.isAlpha = false := by decide
  induction s generalizing q with
  | nil => rfl
  | cons c s ih =>
    rw [asciiLower, List.map_cons, ← asciiLower, splitAtSign, splitAtSign, q.step_toLower, ih]
    simp only [Text.toLower_eq_iff hat]
    split
    · rfl
    · rw [Option.map_map, Option.map_map]
      rfl

/-! ### Reading in two steps -/

/-- What a mailbox is read from at the separating `@`. -/
theorem ofMailboxText_eq_ok_iff {s : List Char} {a : Address} :
    ofMailboxText s = .ok a ↔
      ∃ l d, splitAtSign {} s = some (l, d) ∧ Domain.parse (String.ofList d) = .ok a.domain ∧
        a.localPart.toList = l := by
  constructor
  · intro h
    unfold ofMailboxText at h
    split at h
    · cases h
    · rename_i l d hsplit
      split at h
      · cases h
      · obtain ⟨hdomain, hlocal⟩ := parts_of_bind_ofParts h
        exact ⟨l, d, hsplit, hdomain, by rw [hlocal, String.toList_ofList]⟩
  · rintro ⟨_, d, hsplit, hdomain, rfl⟩
    have hlength := (LocalPart.check_eq_ok_iff.1 a.valid).2.1
    rw [ofMailboxText, hsplit]
    dsimp only
    rw [if_neg (Nat.not_lt_of_le hlength), hdomain, String.ofList_toList]
    exact a.ofParts_localPart_domain

/-- The text of the mailbox in a text that has no blanks at its ends, if that is not faulty. -/
def mailboxText (s : List Char) : Except AddressError (List Char) :=
  if s.isEmpty then .error .empty
  else if maxPathOctets < octetCount s then .error .pathTooLong
  else if s = ['<', '>'] then .error .nullSender
  else
    match s with
    | '<' :: rest => ofPathText rest
    | _ => .ok s

theorem parse_eq_bind (input : String) :
    parse input = mailboxText (trim input.toList) >>= ofMailboxText := by
  unfold parse mailboxText
  dsimp only
  generalize trim input.toList = s
  split
  · rfl
  · split
    · rfl
    · split
      · rfl
      · cases s with
        | nil => rfl
        | cons c rest =>
          by_cases hc : c = '<'
          · rw [hc]
            rfl
          · have hbare {β : Type} (f : List Char → β) (b : β) :
                (match c :: rest with | '<' :: rest => f rest | _ => b) = b := by
              split
              · next heq => exact absurd (List.cons.inj heq).1 hc
              · rfl
            exact (hbare _ _).trans (congrArg (· >>= ofMailboxText) (hbare _ (.ok _)).symm)

theorem mailboxText_asciiLower (s : List Char) :
    mailboxText (asciiLower s) = (mailboxText s).map asciiLower := by
  have hnull : asciiLower s = ['<', '>'] ↔ s = ['<', '>'] := Text.asciiLower_eq_iff (by simp)
  have hempty : (asciiLower s).isEmpty = s.isEmpty := List.isEmpty_map
  unfold mailboxText
  simp only [hempty, hnull, DomainGrammar.octetCount_asciiLower]
  split
  · rfl
  · split
    · rfl
    · split
      · rfl
      · split
        · rename_i rest hrest
          obtain ⟨c, tail, rfl, hc, rfl⟩ := List.map_eq_cons_iff.1 hrest
          rw [Text.toLower_eq_iff (by decide)] at hc
          rw [hc]
          exact ofPathText_asciiLower tail
        · rename_i hbare
          split
          · exact absurd rfl (hbare _)
          · rfl

/-! ### Reading in lower case -/

theorem toList_lowered_folded (a : Address) :
    a.folded.localPart.toList = asciiLower a.localPart.toList := by
  rw [folded_eq]
  exact a.toList_lowered

/-- A mailbox with the domain and the lowered local part of another one is its folded form. -/
theorem eq_folded {a b : Address} (hlocal : b.localPart.toList = asciiLower a.localPart.toList)
    (hdomain : b.domain = a.domain) : b = a.folded := by
  cases b
  rw [folded_eq, mk.injEq, ← String.toList_inj, toList_lowered]
  exact ⟨hlocal, hdomain⟩

theorem ofMailboxText_asciiLower_iff {s : List Char} {b : Address} :
    ofMailboxText (asciiLower s) = .ok b ↔ ∃ a, ofMailboxText s = .ok a ∧ b = a.folded := by
  constructor
  · intro h
    obtain ⟨_, _, hsplit, hdomain, hlocal⟩ := ofMailboxText_eq_ok_iff.1 h
    rw [splitAtSign_asciiLower] at hsplit
    obtain ⟨⟨l, d⟩, hparts, heq⟩ := Option.map_eq_some_iff.1 hsplit
    obtain ⟨rfl, rfl⟩ := Prod.mk.inj heq
    have hcheck : LocalPart.check (String.ofList l).toList = .ok () := by
      rw [String.toList_ofList, ← LocalPart.check_asciiLower_iff, ← hlocal]
      exact b.valid
    refine ⟨⟨String.ofList l, b.domain, hcheck⟩, ?_, eq_folded ?_ rfl⟩
    · refine ofMailboxText_eq_ok_iff.2 ⟨l, d, hparts, ?_, String.toList_ofList⟩
      exact Domain.parse_asciiLower_iff.1 hdomain
    · rw [hlocal, String.toList_ofList]
  · rintro ⟨a, h, rfl⟩
    obtain ⟨l, d, hsplit, hdomain, rfl⟩ := ofMailboxText_eq_ok_iff.1 h
    refine ofMailboxText_eq_ok_iff.2 ⟨_, asciiLower d, ?_, ?_, a.toList_lowered_folded⟩
    · rw [splitAtSign_asciiLower, hsplit]
      rfl
    · rw [a.domain_folded]
      exact Domain.parse_asciiLower_iff.2 hdomain

/-- In lower case a mailbox is read as its folded form, and what names no mailbox names none. -/
theorem parse_asciiLower_iff {input : String} {b : Address} :
    parse (String.ofList (asciiLower input.toList)) = .ok b ↔
      ∃ a, parse input = .ok a ∧ b = a.folded := by
  rw [parse_eq_bind, parse_eq_bind, String.toList_ofList, Text.trim_asciiLower,
    mailboxText_asciiLower]
  cases mailboxText (trim input.toList) with
  | error e => exact iff_of_false nofun nofun
  | ok s => exact ofMailboxText_asciiLower_iff

end Address

end MailRouting
