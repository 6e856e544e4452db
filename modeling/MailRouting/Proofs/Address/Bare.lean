import MailRouting.Proofs.Address.Lowered
import MailRouting.Value.Codec

/-!
# Mailboxes without brackets

A mailbox without brackets around it is written as a local part, an `@` and a domain. Quotes,
escapes, brackets and further `@` in these do not make it ambiguous: the scan for the separating `@`
goes over a local part as a whole, and what comes behind that sign does not matter to it.

* `Address.SplitsInto` — a text consists of a local part, an `@` and the text of a domain, and these
  are the parts of a mailbox;
* `SplitsInto.unique` — there is one such split at most;
* `parse_eq_ok_iff_of_bare` — what is read of a text without brackets;
* `Address.bare_mailbox_is_its_parts` — that, and that every mailbox is read back as it is written.
-/

namespace MailRouting.Address

open Text (trim)
open Text.Utf8 (octetCount)

/-! ### The parts of a text -/

/-- The text is a local part, an `@` and the text of a domain, and these make the mailbox. -/
def SplitsInto (s l d : List Char) (a : Address) : Prop :=
  s = l ++ '@' :: d ∧
    ∃ domain, Domain.parse (String.ofList d) = .ok domain ∧
      ofParts (String.ofList l) domain = .ok a

variable {s l l' d d' : List Char} {a : Address}

/-- A local part and a domain make the mailbox with these parts, and no other one. -/
theorem ofParts_eq_ok_iff {localPart : String} {domain : Domain} :
    ofParts localPart domain = .ok a ↔ a.localPart = localPart ∧ a.domain = domain := by
  constructor
  · intro h
    obtain ⟨hdomain, hlocal⟩ := parts_of_bind_ofParts (r := .ok domain) h
    exact ⟨hlocal, (Except.ok.inj hdomain).symm⟩
  · rintro ⟨rfl, rfl⟩
    exact a.ofParts_localPart_domain

theorem splitsInto_iff :
    SplitsInto s l d a ↔ s = l ++ '@' :: d ∧ a.localPart.toList = l ∧
      Domain.parse (String.ofList d) = .ok a.domain := by
  have hlocal : a.localPart = String.ofList l ↔ a.localPart.toList = l := by
    rw [← String.toList_inj, String.toList_ofList]
  refine and_congr_right fun _ => ?_
  rw [← hlocal]
  constructor
  · rintro ⟨domain, hdomain, hparts⟩
    obtain ⟨hlocal, rfl⟩ := ofParts_eq_ok_iff.1 hparts
    exact ⟨hlocal, hdomain⟩
  · rintro ⟨hlocal, hdomain⟩
    exact ⟨a.domain, hdomain, ofParts_eq_ok_iff.2 ⟨hlocal, rfl⟩⟩

/-- A text splits into a local part and what comes behind its `@` in one way at most. -/
theorem split_unique (hl : LocalPart.check l = .ok ()) (hl' : LocalPart.check l' = .ok ())
    (h : l ++ '@' :: d = l' ++ '@' :: d') : l = l' ∧ d = d' := by
  have hsplit := splitAtSign_append_at hl d
  rw [h, splitAtSign_append_at hl' d', Option.some.injEq, Prod.mk.injEq] at hsplit
  exact ⟨hsplit.1.symm, hsplit.2.symm⟩

theorem SplitsInto.check (h : SplitsInto s l d a) : LocalPart.check l = .ok () := by
  obtain ⟨_, rfl, _⟩ := splitsInto_iff.1 h
  exact a.valid

theorem SplitsInto.unique {a' : Address} (h : SplitsInto s l d a) (h' : SplitsInto s l' d' a') :
    l = l' ∧ d = d' ∧ a = a' := by
  obtain ⟨rfl, rfl⟩ := split_unique h.check h'.check (h.1.symm.trans h'.1)
  obtain ⟨domain, hdomain, hparts⟩ := h.2
  obtain ⟨_, hdomain', hparts'⟩ := h'.2
  cases hdomain.symm.trans hdomain'
  exact ⟨rfl, rfl, Except.ok.inj (hparts.symm.trans hparts')⟩

/-! ### Reading -/

theorem ofMailboxText_eq_ok_iff_splitsInto :
    ofMailboxText s = .ok a ↔ ∃ l d, SplitsInto s l d a := by
  rw [ofMailboxText_eq_ok_iff]
  refine exists₂_congr fun l d => ?_
  rw [splitsInto_iff]
  constructor
  · rintro ⟨hsplit, hdomain, hlocal⟩
    exact ⟨eq_of_splitAtSign hsplit, hlocal, hdomain⟩
  · rintro ⟨rfl, rfl, hdomain⟩
    exact ⟨splitAtSign_append_at a.valid d, hdomain, rfl⟩

/-- A text that is no path holds its mailbox as a whole, if it is not too long. -/
theorem mailboxText_eq_ok_iff_of_bare {t : List Char} (hbare : s.head? ≠ some '<') :
    mailboxText s = .ok t ↔ s ≠ [] ∧ octetCount s ≤ maxPathOctets ∧ t = s := by
  cases s with
  | nil => exact iff_of_false nofun fun h => h.1 rfl
  | cons c s =>
    have hc : c ≠ '<' := fun h => hbare (h ▸ rfl)
    have hnull : c :: s ≠ ['<', '>'] := fun h => hc (List.cons.inj h).1
    have hread : mailboxText (c :: s) =
        if maxPathOctets < octetCount (c :: s) then .error .pathTooLong else .ok (c :: s) := by
      rw [mailboxText, if_neg (by simp), if_neg hnull]
      exact fun _ heq => hc (List.cons.inj heq).1
    rw [hread, and_iff_right (List.cons_ne_nil c s)]
    split
    · next hlong => exact iff_of_false nofun fun h => Nat.not_le_of_lt hlong h.1
    · next hshort =>
      rw [and_iff_right (Nat.le_of_not_lt hshort), Except.ok.injEq]
      exact eq_comm

/-- What is read of a text that is no path, blanks around it ignored. -/
theorem parse_eq_ok_iff_of_bare {input : String} (hbare : (trim input.toList).head? ≠ some '<') :
    parse input = .ok a ↔
      octetCount (trim input.toList) ≤ maxPathOctets ∧
        ∃ l d, SplitsInto (trim input.toList) l d a := by
  rw [parse_eq_bind, ← ofMailboxText_eq_ok_iff_splitsInto]
  cases hread : mailboxText (trim input.toList) with
  | error e =>
    refine iff_of_false nofun fun ⟨hshort, hmailbox⟩ => ?_
    have hne : trim input.toList ≠ [] := by
      intro hnil
      rw [hnil] at hmailbox
      cases hmailbox
    cases hread.symm.trans ((mailboxText_eq_ok_iff_of_bare hbare).2 ⟨hne, hshort, rfl⟩)
  | ok t =>
    obtain ⟨_, hshort, rfl⟩ := (mailboxText_eq_ok_iff_of_bare hbare).1 hread
    exact (and_iff_right hshort).symm

/-! ### Reading what was written -/

/-- A mailbox whose text fits into a path is read back from it. -/
theorem parse_text_of_short (h : octetCount a.text.toList ≤ maxPathOctets) :
    parse a.text = .ok a := by
  rw [parse_text, if_neg (Nat.not_lt_of_le h)]

theorem ofValue_toValue_of_short (h : octetCount a.text.toList ≤ maxPathOctets) :
    ofValue a.toValue = .ok a := by
  show (parse a.text).mapError DecodeError.invalidAddress = .ok a
  rw [parse_text_of_short h]
  rfl

/-- A mailbox that was read is read again as it is written, and a text that is none stays none. -/
theorem parse_bind_parse_text (input : String) :
    (parse input >>= fun a => parse a.text) = parse input := by
  cases h : parse input with
  | error e => rfl
  | ok a => exact parse_text_of_short (octetCount_text_le_of_parse h)

/-- **Bare mailboxes.** A text that is no path is read as a mailbox exactly if, without the blanks
around it, it has at most 256 octets and is a local part, an `@` and the text of a domain; what is
read is the mailbox with these parts. A text splits in this way once at most, whatever quotes,
escapes, brackets and further `@` are in it. So every mailbox, however it was made, is read back
from its text if that has at most 256 octets, and as a value too; and to read, write and read again
is the same as to read once. -/
theorem bare_mailbox_is_its_parts {input : String}
    (hbare : (trim input.toList).head? ≠ some '<') :
    (∀ a, parse input = .ok a ↔
      octetCount (trim input.toList) ≤ 256 ∧ ∃ l d, SplitsInto (trim input.toList) l d a) ∧
    (∀ s l d a l' d' a', SplitsInto s l d a → SplitsInto s l' d' a' → l = l' ∧ d = d' ∧ a = a') ∧
    (∀ l d l' d', LocalPart.check l = .ok () → LocalPart.check l' = .ok () →
      l ++ '@' :: d = l' ++ '@' :: d' → l = l' ∧ d = d') ∧
    (∀ a : Address, octetCount a.text.toList ≤ 256 →
      parse a.text = .ok a ∧ ofValue a.toValue = .ok a) ∧
    ∀ text, (parse text >>= fun a => parse a.text) = parse text :=
  ⟨fun _ => parse_eq_ok_iff_of_bare hbare, fun _ _ _ _ _ _ _ => SplitsInto.unique,
    fun _ _ _ _ => split_unique, fun _ h => ⟨parse_text_of_short h, ofValue_toValue_of_short h⟩,
    parse_bind_parse_text⟩

/-- A quoted local part with an `@`, a bracket and escaped quotes in it, and a literal with an `@`
and brackets in it. -/
def markedMailbox : Address :=
  ⟨"\"a@[\\\"\\\\\"", ⟨"[tag:x@y]\"]", by rfl, by rfl⟩, by rfl⟩

theorem bare_mailbox_is_its_parts_marked :
    (trim " \"a@[\\\"\\\\\"@\t[Tag:x@y]\"] ".toList).head? ≠ some '<' ∧
      SplitsInto (trim " \"a@[\\\"\\\\\"@\t[Tag:x@y]\"] ".toList) "\"a@[\\\"\\\\\"".toList
        "\t[Tag:x@y]\"]".toList markedMailbox ∧
      parse " \"a@[\\\"\\\\\"@\t[Tag:x@y]\"] " = .ok markedMailbox := by
  have hbare : (trim " \"a@[\\\"\\\\\"@\t[Tag:x@y]\"] ".toList).head? ≠ some '<' := by decide
  have hsplit : SplitsInto (trim " \"a@[\\\"\\\\\"@\t[Tag:x@y]\"] ".toList) "\"a@[\\\"\\\\\"".toList
      "\t[Tag:x@y]\"]".toList markedMailbox := by
    rw [splitsInto_iff]
    exact ⟨by decide, by decide, by rfl⟩
  exact ⟨hbare, hsplit, ((bare_mailbox_is_its_parts hbare).1 _).2 ⟨by decide, _, _, hsplit⟩⟩

end MailRouting.Address
