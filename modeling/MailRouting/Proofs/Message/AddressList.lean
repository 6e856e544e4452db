import MailRouting.Message.AddressList
import MailRouting.Proofs.Message.FieldText

/-!
# Address lists read back

A list of bare mailboxes with commas between them is read as these mailboxes, in order. An atom may
hold signs that encoded words are made of, but none that ends one.

* `read_spelled` — tokens that spell a list are read as the characters of the list;
* `IsMailboxChar`, `IsMailboxText` — the texts that need nothing around them in a list;
* `read_list` — the characters of a list of such texts are read as these texts;
* `wordsStayOpen_list` — no encoded word can end in such a list;
* `mailboxes_list` — so it lists these texts.
-/

namespace MailRouting

namespace AddressList

open FieldText (Segment Token Spells WordsStayOpen isBoundaryChar segmentsFrom)
open Text (isBlank trimEnd)

/-! ### Blanks as characters -/

/-- The reader stands between two mailboxes or inside a bare one. -/
inductive ListState.Plain : ListState → Prop where
  | start : Plain .start
  | bare (s : List Char) : Plain (.bare s)

/-- A sign that means something outside of a bare mailbox, other than a comma. -/
def isSign (c : Char) : Bool :=
  c ∈ ['"', '<', ';', ':', '(']

variable {q : ListState} {c : Char} {s t : List Char} {xs ys : List Item}

theorem read_start_blank (hc : isBlank c = true) (xs : List Item) :
    read false .start (.char c :: xs) = read false .start xs :=
  if_pos hc

theorem read_start_char (hblank : isBlank c = false) (hsign : isSign c = false)
    (xs : List Item) : read false .start (.char c :: xs) = read false (.bare [c]) xs := by
  simp only [isSign, List.mem_cons, List.not_mem_nil, or_false, decide_eq_false_iff_not,
    not_or] at hsign
  simp only [read, hblank, hsign, Bool.false_eq_true, if_false]

theorem read_bare_char (hcomma : c ≠ ',') (hsign : isSign c = false) (s : List Char)
    (xs : List Item) :
    read false (.bare s) (.char c :: xs) = read false (.bare (s ++ [c])) xs := by
  simp only [isSign, List.mem_cons, List.not_mem_nil, or_false, decide_eq_false_iff_not,
    not_or] at hsign
  simp only [read, hcomma, hsign, if_false]

theorem read_bare_comma (s : List Char) (xs : List Item) :
    read false (.bare s) (.char ',' :: xs) = andThen (trimEnd s) (read false .start xs) :=
  rfl

/-- One more character is read alike before two rests that are read alike. -/
theorem read_char_congr (hsign : isSign c = false)
    (h : ∀ q : ListState, q.Plain → read false q xs = read false q ys) (hq : q.Plain) :
    read false q (.char c :: xs) = read false q (.char c :: ys) := by
  cases hq with
  | start =>
    cases hblank : isBlank c with
    | true => rw [read_start_blank hblank, read_start_blank hblank, h _ .start]
    | false =>
      rw [read_start_char hblank hsign, read_start_char hblank hsign, h _ (.bare [c])]
  | bare s =>
    by_cases hcomma : c = ','
    · subst hcomma
      rw [read_bare_comma, read_bare_comma, h _ .start]
    · rw [read_bare_char hcomma hsign, read_bare_char hcomma hsign, h _ (.bare _)]

theorem read_chars_congr (hsign : ∀ c ∈ t, isSign c = false)
    (h : ∀ q : ListState, q.Plain → read false q xs = read false q ys) (hq : q.Plain) :
    read false q (t.map .char ++ xs) = read false q (t.map .char ++ ys) := by
  induction t generalizing q with
  | nil => exact h q hq
  | cons c t ih =>
    obtain ⟨hc, ht⟩ := List.forall_mem_cons.1 hsign
    exact read_char_congr hc (fun q hq => ih ht hq) hq

/-- Blanks are read alike as one item and as characters. -/
theorem read_blanks (ht : ∀ c ∈ t, isBlank c = true) (hq : q.Plain) (xs : List Item) :
    read false q (.blank t :: xs) = read false q (t.map .char ++ xs) := by
  have hmarks {c : Char} (hc : isBlank c = true) : c ≠ ',' ∧ isSign c = false := by
    constructor
    · rintro rfl
      exact absurd hc (by decide)
    · rw [isSign, decide_eq_false_iff_not]
      intro hmem
      have hsigns : ['"', '<', ';', ':', '('].all (fun d => !isBlank d) = true := by decide
      have hink := List.all_eq_true.1 hsigns c hmem
      rw [hc] at hink
      cases hink
  cases hq with
  | start =>
    show read false .start xs = _
    induction t with
    | nil => rfl
    | cons c t ih =>
      obtain ⟨hc, ht⟩ := List.forall_mem_cons.1 ht
      rw [List.map_cons, List.cons_append, read_start_blank hc, ← ih ht]
  | bare s =>
    show read false (.bare (s ++ t)) xs = _
    induction t generalizing s with
    | nil => rw [List.append_nil]; rfl
    | cons c t ih =>
      obtain ⟨hc, ht⟩ := List.forall_mem_cons.1 ht
      rw [List.map_cons, List.cons_append, read_bare_char (hmarks hc).1 (hmarks hc).2, ← ih ht,
        List.append_assoc]
      rfl

/-- Tokens that spell a text without signs are read as its characters. -/
theorem read_spelled {ts : List Token} (h : Spells ts s) (hsign : ∀ c ∈ s, isSign c = false)
    (hq : q.Plain) :
    read false q ((segmentsFrom .nothing ts).flatMap itemsOf) = read false q (s.map .char) := by
  induction h generalizing q with
  | nil => rfl
  | plain t _ ih =>
    obtain ⟨ht, hs⟩ := List.forall_mem_append.1 hsign
    rw [List.map_append]
    exact read_chars_congr ht (fun q hq => ih hs hq) hq
  | blank hblank _ ih =>
    obtain ⟨ht, hs⟩ := List.forall_mem_append.1 hsign
    rw [List.map_append, ← read_chars_congr ht (fun q hq => ih hs hq) hq]
    exact read_blanks hblank hq _

/-! ### Mailboxes without anything around them -/

/-- The character means nothing in a list, nor is it a boundary of encoded words. -/
def IsMailboxChar (c : Char) : Prop :=
  c.toNat < 128 ∧ isBoundaryChar c = false ∧ isSign c = false

instance (c : Char) : Decidable (IsMailboxChar c) :=
  inferInstanceAs (Decidable (_ ∧ _))

/-- The text can stand in a list as it is. -/
structure IsMailboxText (s : List Char) : Prop where
  at_mem : '@' ∈ s
  chars : ∀ c ∈ s, IsMailboxChar c
  last : s.getLast? ≠ some '='

theorem IsMailboxChar.not_blank (h : IsMailboxChar c) : isBlank c = false :=
  (Bool.or_eq_false_iff.1 h.2.1).1

theorem IsMailboxChar.ne_comma (h : IsMailboxChar c) : c ≠ ',' := by
  rintro rfl
  exact absurd h.2.1 (by decide)

theorem read_bare_chars (ht : ∀ c ∈ t, IsMailboxChar c) (s : List Char) (xs : List Item) :
    read false (.bare s) (t.map .char ++ xs) = read false (.bare (s ++ t)) xs := by
  induction t generalizing s with
  | nil => rw [List.append_nil]; rfl
  | cons c t ih =>
    obtain ⟨hc, ht⟩ := List.forall_mem_cons.1 ht
    rw [List.map_cons, List.cons_append, read_bare_char hc.ne_comma hc.2.2, ih ht,
      List.append_assoc]
    rfl

/-- From between two mailboxes, the reader goes into the next one. -/
theorem read_start_text (h : IsMailboxText s) (xs : List Item) :
    read false .start (s.map .char ++ xs) = read false (.bare s) xs := by
  obtain ⟨c, t, rfl⟩ := List.exists_cons_of_ne_nil (List.ne_nil_of_mem h.at_mem)
  obtain ⟨hc, ht⟩ := List.forall_mem_cons.1 h.chars
  rw [List.map_cons, List.cons_append, read_start_char hc.not_blank hc.2.2, read_bare_chars ht]
  rfl

/-- A mailbox that has been passed is the next one of the list. -/
theorem andThen_text (h : IsMailboxText s) (texts : List (List Char)) :
    andThen (trimEnd s) (.ok texts) = .ok (s :: texts) := by
  have htrim : trimEnd s = s := by
    show s.rdropWhile isBlank = s
    rw [List.rdropWhile_eq_self_iff]
    intro hne
    rw [(h.chars _ (List.getLast_mem hne)).not_blank]
    exact Bool.false_ne_true
  rw [htrim, andThen, mailbox, if_pos h.at_mem]
  rfl

/-- The mailboxes with a comma and a space between them. -/
def listText (texts : List (List Char)) : List Char :=
  List.intercalate [',', ' '] texts

/-- The characters of a list are read as its mailboxes, in order. -/
theorem read_list {texts : List (List Char)} (h : ∀ s ∈ texts, IsMailboxText s) :
    read false .start ((listText texts).map .char) = .ok texts := by
  induction texts with
  | nil => rfl
  | cons s texts ih =>
    obtain ⟨hs, hrest⟩ := List.forall_mem_cons.1 h
    cases texts with
    | nil =>
      have hread := read_start_text hs []
      rw [List.append_nil] at hread
      rw [listText, List.intercalate_singleton, hread]
      exact andThen_text hs []
    | cons t texts =>
      rw [listText, List.intercalate_cons_cons, List.append_assoc, List.map_append,
        read_start_text hs]
      show andThen (trimEnd s) (read false .start ((listText (t :: texts)).map .char)) = _
      rw [ih hrest, andThen_text hs]

/-! ### The line of a list -/

theorem listText_cons_cons (s t : List Char) (texts : List (List Char)) :
    listText (s :: t :: texts) = s ++ ',' :: ' ' :: listText (t :: texts) := by
  rw [listText, List.intercalate_cons_cons, List.append_assoc]
  rfl

/-- The characters of a list are those of its mailboxes, commas and spaces. -/
theorem forall_mem_listText {P : Char → Prop} {texts : List (List Char)}
    (h : ∀ s ∈ texts, ∀ c ∈ s, P c) (hcomma : P ',') (hspace : P ' ') :
    ∀ c ∈ listText texts, P c := by
  induction texts with
  | nil => exact fun c hc => absurd hc List.not_mem_nil
  | cons s texts ih =>
    obtain ⟨hs, hrest⟩ := List.forall_mem_cons.1 h
    cases texts with
    | nil => rwa [listText, List.intercalate_singleton]
    | cons t texts =>
      rw [listText_cons_cons, List.forall_mem_append, List.forall_mem_cons, List.forall_mem_cons]
      exact ⟨hs, hcomma, hspace, ih hrest⟩

/-- No encoded word can end in a list of mailboxes. -/
theorem wordsStayOpen_list {texts : List (List Char)} (h : ∀ s ∈ texts, IsMailboxText s) :
    WordsStayOpen (listText texts) := by
  have hchain {s : List Char} (hs : IsMailboxText s) :
      List.IsChain (fun c d => c = '=' → isBoundaryChar d = false) s :=
    List.Pairwise.isChain (List.pairwise_of_forall_mem_list fun _ _ d hd _ => (hs.chars d hd).2.1)
  induction texts with
  | nil => exact ⟨.nil, nofun⟩
  | cons s texts ih =>
    obtain ⟨hs, hrest⟩ := List.forall_mem_cons.1 h
    cases texts with
    | nil =>
      rw [listText, List.intercalate_singleton]
      exact ⟨hchain hs, hs.last⟩
    | cons t texts =>
      obtain ⟨hopen, hlast⟩ := ih hrest
      rw [listText_cons_cons]
      refine ⟨List.isChain_append.2 ⟨hchain hs, ?_, ?_⟩, ?_⟩
      · refine List.isChain_cons_cons.2 ⟨nofun, List.isChain_cons.2 ⟨fun _ _ => nofun, hopen⟩⟩
      · intro c hc d _ heq
        exact absurd (heq ▸ hc) hs.last
      · rw [List.getLast?_append, List.getLast?_cons, List.getLast?_cons]
        cases htail : (listText (t :: texts)).getLast? with
        | none => exact fun h => absurd (Option.some.inj h) (by decide)
        | some c => exact fun h => hlast (htail.trans h)

/-- A list starts with its first mailbox. -/
theorem exists_head_listText {texts : List (List Char)} (hne : texts ≠ [])
    (h : ∀ s ∈ texts, IsMailboxText s) : ∃ c t, listText texts = c :: t ∧ IsMailboxChar c := by
  obtain ⟨s, texts, rfl⟩ := List.exists_cons_of_ne_nil hne
  obtain ⟨hs, _⟩ := List.forall_mem_cons.1 h
  obtain ⟨c, t, rfl⟩ := List.exists_cons_of_ne_nil (List.ne_nil_of_mem hs.at_mem)
  have hc := hs.chars c List.mem_cons_self
  cases texts with
  | nil => exact ⟨c, t, List.intercalate_singleton .., hc⟩
  | cons s texts => exact ⟨c, _, listText_cons_cons .., hc⟩

/-- A list of mailboxes lists them, in order and however often they come. -/
theorem mailboxes_list {texts : List (List Char)} (hne : texts ≠ [])
    (h : ∀ s ∈ texts, IsMailboxText s) : mailboxes (listText texts) = .ok texts := by
  obtain ⟨c, t, hhead, hc⟩ := exists_head_listText hne h
  have hascii : ∀ c ∈ listText texts, c.toNat < 128 :=
    forall_mem_listText (fun s hs c hc => ((h s hs).chars c hc).1) (by decide) (by decide)
  have hlf : ∀ c ∈ listText texts, c ≠ '\n' := by
    refine forall_mem_listText (fun s hs c hc => ?_) (by decide) (by decide)
    rintro rfl
    exact absurd ((h s hs).chars _ hc).not_blank (by decide)
  have hsign : ∀ c ∈ listText texts, isSign c = false :=
    forall_mem_listText (fun s hs c hc => ((h s hs).chars c hc).2.2) (by decide) (by decide)
  have hspells : Spells (FieldText.tokens (listText texts)) (listText texts) := by
    refine FieldText.spells_tokens ?_ ?_ (fun hmem => hlf _ hmem rfl) hascii (wordsStayOpen_list h)
    · rw [hhead]
      rintro _ ⟨⟩
      exact hc.not_blank
    · rw [hhead]
      exact List.cons_ne_nil c t
  rw [mailboxes, items, FieldText.segments, read_spelled hspells hsign .start, read_list h]

end AddressList

/-! ### Addresses -/

/-- The local part of the address is a dot-string, and its domain a name. -/
structure Address.IsSimple (a : Address) : Prop where
  dotString : a.localPart.toList.head? ≠ some '"'
  name : a.domain.isLiteral = false

theorem LocalPart.isMailboxChar {c : Char} (h : c = '.' ∨ isAtomChar c = true) :
    AddressList.IsMailboxChar c := by
  rcases h with rfl | hatom
  · decide
  · exact Text.forall_ascii (P := fun c => isAtomChar c = true → AddressList.IsMailboxChar c)
      (by decide) (ascii_of_isAtomChar hatom) hatom

theorem DomainGrammar.isMailboxChar {c : Char} (h : c = '.' ∨ isLabelChar c = true) :
    AddressList.IsMailboxChar c ∧ c ≠ '=' := by
  rcases h with rfl | hlabel
  · decide
  · exact Text.forall_ascii
      (P := fun c => isLabelChar c = true → AddressList.IsMailboxChar c ∧ c ≠ '=')
      (by decide) (ascii_of_isLabelChar hlabel) hlabel

/-- Such an address needs nothing around it in a list. -/
theorem Address.IsSimple.isMailboxText {a : Address} (h : a.IsSimple) :
    AddressList.IsMailboxText a.text.toList := by
  have hlocal : ∀ c ∈ a.localPart.toList, AddressList.IsMailboxChar c := by
    obtain ⟨_, _, hform⟩ := LocalPart.check_eq_ok_iff.1 a.valid
    rw [if_neg h.dotString] at hform
    exact fun c hc => LocalPart.isMailboxChar (LocalPart.forall_mem_of_checkDotString hform c hc)
  have hdomain : ∀ c ∈ a.domain.text.toList, AddressList.IsMailboxChar c ∧ c ≠ '=' := by
    rcases DomainGrammar.literal_or_name a.domain.valid with ⟨content, hliteral⟩ | ⟨_, hname⟩
    · have hname := h.name
      rw [Domain.isLiteral, hliteral] at hname
      cases hname
    · intro c hc
      exact DomainGrammar.isMailboxChar (DomainGrammar.forall_mem_of_checkName hname c hc)
  rw [toList_text]
  refine ⟨List.mem_append_right _ List.mem_cons_self, ?_, fun hlast => ?_⟩
  · refine List.forall_mem_append.2 ⟨hlocal, List.forall_mem_cons.2 ⟨by decide, ?_⟩⟩
    exact fun c hc => (hdomain c hc).1
  · rw [List.getLast?_append_cons] at hlast
    rcases List.mem_cons.1 (List.mem_of_getLast? hlast) with hat | hmem
    · exact absurd hat (by decide)
    · exact (hdomain _ hmem).2 rfl

end MailRouting
