import MailRouting.Message
import MailRouting.Proofs.Text.Occurrences

/-!
# The header section of a message

The header section of a message ends at its first blank line. Blank lines come in two kinds, one
ended by CR LF and one ended by LF, and a message can have both. A message is read up to the first
one of the first kind wherever it has one, so that a blank line of the other kind farther to the
front is passed over, and a part of the body is read as header fields.

* `Message.IsHeaderSection` — the octets before the first blank line, of whichever kind;
* `Message.isHeaderSection_untilBlankLine`, `IsHeaderSection.unique` — every message has one header
  section;
* `isHeaderSection_headerBytes_iff` — when the octets that are read are those;
* `Message.headerBlock_ends_at_first_blankLine_iff` — the same of the text that is read, and what
  else is in it.
-/

namespace MailRouting.Message

open Text.Utf8 (encode)

/-- The octets start with a blank line, of either kind. -/
def StartsBlankLine (s : List UInt8) : Prop :=
  blankLine <+: s ∨ bareBlankLine <+: s

instance (s : List UInt8) : Decidable (StartsBlankLine s) :=
  inferInstanceAs (Decidable (_ ∨ _))

/-- The octets before the first blank line, or all of them if there is none. -/
structure IsHeaderSection (m : Message) (head : List UInt8) : Prop where
  ends : ∃ rest, m.bytes = head ++ rest ∧ (rest = [] ∨ StartsBlankLine rest)
  first : ∀ x y, m.bytes = x ++ y → StartsBlankLine y → head.length ≤ x.length

/-! ### One header section -/

/-- The octets up to where a blank line starts. -/
def untilBlankLine : List UInt8 → List UInt8
  | [] => []
  | b :: rest => if StartsBlankLine (b :: rest) then [] else b :: untilBlankLine rest

theorem exists_untilBlankLine_append (s : List UInt8) :
    ∃ rest, s = untilBlankLine s ++ rest ∧ (rest = [] ∨ StartsBlankLine rest) := by
  induction s with
  | nil => exact ⟨[], rfl, .inl rfl⟩
  | cons b s ih =>
    rw [untilBlankLine]
    split
    · next hstart => exact ⟨b :: s, rfl, .inr hstart⟩
    · obtain ⟨rest, hs, hrest⟩ := ih
      exact ⟨rest, congrArg (b :: ·) hs, hrest⟩

theorem length_untilBlankLine_le {x y : List UInt8} (hy : StartsBlankLine y) :
    (untilBlankLine (x ++ y)).length ≤ x.length := by
  induction x with
  | nil =>
    cases y with
    | nil => exact Nat.le_refl 0
    | cons b y =>
      have hnil : untilBlankLine (b :: y) = [] := if_pos hy
      exact Nat.le_of_eq (congrArg List.length hnil)
  | cons b x ih =>
    rw [List.cons_append, untilBlankLine]
    split
    · exact Nat.zero_le _
    · exact Nat.succ_le_succ ih

variable {m : Message} {head head' : List UInt8}

theorem isHeaderSection_untilBlankLine (m : Message) :
    m.IsHeaderSection (untilBlankLine m.bytes) where
  ends := exists_untilBlankLine_append m.bytes
  first x y h hy := by
    rw [h]
    exact length_untilBlankLine_le hy

/-- No header section is longer than another one. -/
theorem IsHeaderSection.length_le (h : m.IsHeaderSection head) (h' : m.IsHeaderSection head') :
    head.length ≤ head'.length := by
  obtain ⟨rest', hbytes', hend'⟩ := h'.ends
  rcases hend' with rfl | hstart
  · obtain ⟨rest, hbytes, _⟩ := h.ends
    rw [List.append_nil] at hbytes'
    rw [← hbytes', hbytes, List.length_append]
    exact Nat.le_add_right _ _
  · exact h.first head' rest' hbytes' hstart

/-- A message has only one header section. -/
theorem IsHeaderSection.unique (h : m.IsHeaderSection head) (h' : m.IsHeaderSection head') :
    head = head' := by
  have hlength : head.length = head'.length := Nat.le_antisymm (h.length_le h') (h'.length_le h)
  obtain ⟨rest, hbytes, _⟩ := h.ends
  obtain ⟨rest', hbytes', _⟩ := h'.ends
  exact List.append_inj_left (hbytes.symm.trans hbytes') hlength

/-! ### The octets that are read -/

/-- Two line feeds in a row that start before a carriage return end before it. -/
theorem bareBlankLine_prefix_of_append {u w : List UInt8} (hu : u ≠ [])
    (h : bareBlankLine <+: u ++ 13 :: w) : bareBlankLine <+: u :=
  Text.prefix_of_prefix_append_cons (by decide) hu h

/-- Without a blank line of the first kind, a message is read up to its first blank line. -/
theorem isHeaderSection_headerBytes_of_none (h : Text.before blankLine m.bytes = none) :
    m.IsHeaderSection m.headerBytes := by
  have hnone : ¬blankLine <:+: m.bytes := (Text.before_eq_none_iff (by decide)).1 h
  have hlater {x y : List UInt8} (hxy : m.bytes = x ++ y) : ¬blankLine <+: y := fun hy =>
    hnone (hxy ▸ (hy.isInfix.trans (List.suffix_append x y).isInfix))
  unfold headerBytes
  rw [h]
  dsimp only
  cases hbare : Text.before bareBlankLine m.bytes with
  | none =>
    have hnoBare : ¬bareBlankLine <:+: m.bytes := (Text.before_eq_none_iff (by decide)).1 hbare
    refine ⟨⟨[], (List.append_nil _).symm, .inl rfl⟩, fun x y hxy hy => ?_⟩
    rcases hy with hy | hy
    · exact absurd hy (hlater hxy)
    · exact absurd (hxy ▸ (hy.isInfix.trans (List.suffix_append x y).isInfix)) hnoBare
  | some bs =>
    obtain ⟨rest, hrest⟩ := Text.prefix_of_before_eq_some hbare
    rw [List.append_assoc] at hrest
    refine ⟨⟨_, hrest.symm, .inr (.inr (List.prefix_append _ _))⟩, fun x y hxy hy => ?_⟩
    rcases hy with hy | hy
    · exact absurd hy (hlater hxy)
    · rw [hxy] at hbare
      exact Text.length_le_of_before_eq_some hbare hy

/-- A message is read up to its first blank line exactly if no two line feeds in a row stand before
its first blank line of CR LF. -/
theorem isHeaderSection_headerBytes_iff :
    m.IsHeaderSection m.headerBytes ↔
      ∀ bs, Text.before blankLine m.bytes = some bs → ¬bareBlankLine <:+: bs := by
  cases hblank : Text.before blankLine m.bytes with
  | none => exact iff_of_true (isHeaderSection_headerBytes_of_none hblank) nofun
  | some bs =>
    obtain ⟨rest, hrest⟩ := Text.prefix_of_before_eq_some hblank
    rw [List.append_assoc] at hrest
    have hread : m.headerBytes = bs := by rw [headerBytes, hblank]
    rw [hread]
    constructor
    · rintro hsection _ ⟨⟩ ⟨x, z, hbs⟩
      rw [List.append_assoc] at hbs
      rw [← hbs, List.append_assoc, List.append_assoc] at hrest
      have hlength := hsection.first x _ hrest.symm (.inr (List.prefix_append _ _))
      rw [← hbs, List.length_append, List.length_append] at hlength
      have htwo : bareBlankLine.length = 2 := rfl
      omega
    · intro hbare
      refine ⟨⟨_, hrest.symm, .inr (.inl (List.prefix_append _ _))⟩, fun x y hxy hy => ?_⟩
      rcases hy with hy | hy
      · rw [hxy] at hblank
        exact Text.length_le_of_before_eq_some hblank hy
      · -- a line feed before the end of `bs` has its second one before that end, too
        refine Nat.le_of_not_lt fun hlt => hbare bs rfl ?_
        have hprefix : x <+: bs := by
          have hx : x <+: m.bytes := ⟨y, hxy.symm⟩
          have hbs : bs <+: m.bytes := ⟨_, hrest⟩
          exact List.prefix_of_prefix_length_le hx hbs (Nat.le_of_lt hlt)
        obtain ⟨u, rfl⟩ := hprefix
        have hu : u ≠ [] := by
          rintro rfl
          simp at hlt
        rw [List.append_assoc, hxy] at hrest
        rw [← List.append_cancel_left hrest] at hy
        exact (bareBlankLine_prefix_of_append hu hy).isInfix.trans (List.suffix_append x u).isInfix

/-- No blank line of CR LF is read. -/
theorem not_blankLine_infix_headerBytes (m : Message) : ¬blankLine <:+: m.headerBytes := by
  unfold headerBytes
  cases hblank : Text.before blankLine m.bytes with
  | some bs => exact Text.not_infix_of_before_eq_some (by decide) hblank
  | none =>
    have hnone : ¬blankLine <:+: m.bytes := (Text.before_eq_none_iff (by decide)).1 hblank
    have hread : (Text.before bareBlankLine m.bytes).getD m.bytes <+: m.bytes := by
      cases hbare : Text.before bareBlankLine m.bytes with
      | none => exact List.prefix_rfl
      | some bs => exact (List.prefix_append bs _).trans (Text.prefix_of_before_eq_some hbare)
    exact fun h => hnone (h.trans hread.isInfix)

/-- What is read of a message that is not read as far as its first blank line goes on behind that
blank line, which is one of LF. -/
theorem exists_body_of_ne (h : m.IsHeaderSection head) (hne : head ≠ m.headerBytes) :
    ∃ body, m.headerBytes = head ++ bareBlankLine ++ body := by
  cases hblank : Text.before blankLine m.bytes with
  | none => exact absurd (h.unique (isHeaderSection_headerBytes_of_none hblank)) hne
  | some bs =>
    have hread : m.headerBytes = bs := by rw [headerBytes, hblank]
    obtain ⟨w, hw⟩ := Text.prefix_of_before_eq_some hblank
    rw [List.append_assoc] at hw
    obtain ⟨rest, hbytes, hend⟩ := h.ends
    have hle : head.length ≤ bs.length := h.first bs _ hw.symm (.inl (List.prefix_append _ _))
    obtain ⟨u, rfl⟩ : head <+: bs := List.prefix_of_prefix_length_le ⟨rest, hbytes.symm⟩ ⟨_, hw⟩ hle
    rw [hread] at hne
    have hu : u ≠ [] := by
      rintro rfl
      exact hne (List.append_nil head).symm
    rw [List.append_assoc, hbytes] at hw
    have hrest : u ++ 13 :: [10, 13, 10] ++ w = rest := by
      rw [List.append_assoc]
      exact List.append_cancel_left hw
    have hstart : StartsBlankLine rest := hend.resolve_left fun hnil => by simp [hnil] at hrest
    rcases hstart with hstart | hstart
    · -- a blank line of CR LF does not start before the first one
      rw [hbytes] at hblank
      have hlength := Text.length_le_of_before_eq_some hblank hstart
      rw [List.length_append] at hlength
      have hpos : 0 < u.length := List.length_pos_iff.2 hu
      omega
    · rw [← hrest, List.append_assoc] at hstart
      obtain ⟨body, rfl⟩ := bareBlankLine_prefix_of_append hu hstart
      exact ⟨body, by rw [hread, List.append_assoc]⟩

/-! ### The text that is read -/

/-- The text of the header section, as octets, is what is read of the message. -/
theorem encode_eq_headerBytes {text : List Char} (h : m.headerBlock = .ok text) :
    encode text = m.headerBytes := by
  unfold headerBlock at h
  cases hdecode : Text.Utf8.decode m.headerBytes with
  | error e =>
    rw [hdecode] at h
    cases h
  | ok t =>
    rw [hdecode] at h
    cases h
    exact Text.Utf8.decode_eq_ok_iff.1 hdecode

/-- **Where a header section ends.** The text that is read as the header section of a message is
what stands before its first blank line, of whichever kind, exactly if no two line feeds in a row
stand before the first blank line of CR LF, where there is one. A blank line of CR LF is never in
that text. If the text is not the header section, it goes on behind a blank line of LF, into the
body. -/
theorem headerBlock_ends_at_first_blankLine_iff {text : List Char} (h : m.headerBlock = .ok text) :
    (m.IsHeaderSection (encode text) ↔
      ∀ bs, Text.before blankLine m.bytes = some bs → ¬bareBlankLine <:+: bs) ∧
    ¬blankLine <:+: encode text ∧
    ∀ head, m.IsHeaderSection head → head ≠ encode text →
      ∃ body, encode text = head ++ bareBlankLine ++ body := by
  rw [encode_eq_headerBytes h]
  exact ⟨isHeaderSection_headerBytes_iff, m.not_blankLine_infix_headerBytes,
    fun _ => exists_body_of_ne⟩

/-- Two line feeds in a row behind the first blank line of CR LF belong to the body. -/
theorem headerBlock_ends_at_first_blankLine_mixedBody :
    (ofText "Subject: a\r\n\r\nbody\n\nmore").headerBlock = .ok "Subject: a".toList ∧
      (ofText "Subject: a\r\n\r\nbody\n\nmore").IsHeaderSection (encode "Subject: a".toList) := by
  have hblock :
      (ofText "Subject: a\r\n\r\nbody\n\nmore").headerBlock = .ok "Subject: a".toList := by
    rfl
  have hblank : Text.before blankLine (ofText "Subject: a\r\n\r\nbody\n\nmore").bytes =
      some (encode "Subject: a".toList) := by decide
  have hbare : Text.before bareBlankLine (encode "Subject: a".toList) = none := by decide
  refine ⟨hblock, (headerBlock_ends_at_first_blankLine_iff hblock).1.2 fun bs hbs => ?_⟩
  rw [hblank] at hbs
  cases hbs
  exact (Text.before_eq_none_iff (by decide)).1 hbare

/-- The body of this message starts behind two line feeds in a row, and a part of it is read as
header section, up to the blank line of CR LF in the body. -/
theorem body_read_up_to_blankLine :
    (ofText "Subject: a\n\nbody\r\n\r\nmore").headerBlock = .ok "Subject: a\n\nbody".toList ∧
      (ofText "Subject: a\n\nbody\r\n\r\nmore").IsHeaderSection (encode "Subject: a".toList) ∧
      ¬(ofText "Subject: a\n\nbody\r\n\r\nmore").IsHeaderSection
        (encode "Subject: a\n\nbody".toList) := by
  have huntil : untilBlankLine (ofText "Subject: a\n\nbody\r\n\r\nmore").bytes =
      encode "Subject: a".toList := by decide
  have hsection := isHeaderSection_untilBlankLine (ofText "Subject: a\n\nbody\r\n\r\nmore")
  rw [huntil] at hsection
  refine ⟨by rfl, hsection, fun h => ?_⟩
  exact absurd (hsection.unique h) (by decide)

end MailRouting.Message
