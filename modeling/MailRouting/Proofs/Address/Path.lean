import Mathlib.Data.List.TakeWhile
import MailRouting.Proofs.Address.Bare

/-!
# Mailboxes in paths

A path is a mailbox in brackets, with a source route before it or none. The route ends at the last
colon of the path that stands outside of square brackets. That colon is looked for without regard to
quotes, and a bracket is open until the next one that closes, so that a mailbox can have such a
colon itself: between the quotes of its local part, or behind a bracket inside a literal. Then a
part of the mailbox is taken for a route.

* `Address.pathText` — the path of a mailbox behind some relays;
* `Address.HasOpenColon`, `afterRoute_eq_none_iff` — a colon outside of brackets;
* `afterRoute_append` — the route of a path from those of its parts;
* `parse_pathText` — what is read of a path is what is read of the mailbox behind its last colon;
* `Address.parse_pathText_eq_ok_iff` — a mailbox is read from a path as it is without one exactly if
  it has no such colon.
-/

namespace MailRouting

open Text (trim isBlank asciiLower)
open Text.Utf8 (octetCount)

/-! ### Blanks at the ends of a text -/

namespace Text

theorem exists_append_dropWhile_isBlank (s : List Char) :
    ∃ x, s = x ++ s.dropWhile isBlank ∧ ∀ c ∈ x, isBlank c = true :=
  ⟨s.takeWhile isBlank, List.takeWhile_append_dropWhile.symm, fun _ hc => List.mem_takeWhile_imp hc⟩

/-- A text is its trimmed form with blanks around it. -/
theorem exists_append_trim (s : List Char) :
    ∃ x y, s = x ++ trim s ++ y ∧ (∀ c ∈ x, isBlank c = true) ∧ ∀ c ∈ y, isBlank c = true := by
  obtain ⟨x, hx, hblank⟩ := exists_append_dropWhile_isBlank s
  obtain ⟨y, hy, hblank'⟩ := exists_append_dropWhile_isBlank (s.dropWhile isBlank).reverse
  refine ⟨x, y.reverse, ?_, hblank, fun c hc => hblank' c (List.mem_reverse.1 hc)⟩
  have hend : s.dropWhile isBlank = trim s ++ y.reverse := by
    rw [trim, trimStart, trimEnd, ← List.reverse_append, ← hy, List.reverse_reverse]
  rw [List.append_assoc, ← hend]
  exact hx

/-- Nothing is left of a text exactly if it is blank. -/
theorem trim_eq_nil_iff {s : List Char} : trim s = [] ↔ ∀ c ∈ s, isBlank c = true := by
  constructor
  · intro h
    obtain ⟨x, y, hs, hx, hy⟩ := exists_append_trim s
    rw [h, List.append_nil] at hs
    rw [hs]
    exact List.forall_mem_append.2 ⟨hx, hy⟩
  · intro h
    rw [trim, trimStart, List.dropWhile_eq_nil_iff.2 h]
    rfl

/-- A sign that is no blank is as often in a text as in its trimmed form. -/
theorem count_trim {c : Char} (hc : isBlank c = false) (s : List Char) :
    (trim s).count c = s.count c := by
  have hnot {x : List Char} (hx : ∀ d ∈ x, isBlank d = true) : x.count c = 0 := by
    refine List.count_eq_zero.2 fun hmem => ?_
    rw [hx c hmem] at hc
    cases hc
  obtain ⟨x, y, hs, hx, hy⟩ := exists_append_trim s
  have hcount := congrArg (List.count c) hs
  rw [List.count_append, List.count_append, hnot hx, hnot hy, Nat.zero_add, Nat.add_zero] at hcount
  exact hcount.symm

theorem count_asciiLower {c : Char} (hc : c.isAlpha = false) (s : List Char) :
    (asciiLower s).count c = s.count c := by
  rw [asciiLower, List.count_eq_countP, List.countP_map, List.count_eq_countP]
  refine List.countP_congr fun d _ => ?_
  rw [Function.comp_apply, beq_iff_eq, beq_iff_eq, toLower_eq_iff hc]

end Text

namespace Address

/-! ### Paths -/

/-- A source route over some relays: an `@` before each, commas between them and a colon at the end;
nothing if there are none. -/
def routeText (relays : List String) : List Char :=
  if relays.isEmpty then []
  else List.intercalate [','] (relays.map fun relay => '@' :: relay.toList) ++ [':']

/-- The path of a mailbox behind some relays. -/
def pathText (relays : List String) (mailbox : List Char) : List Char :=
  '<' :: (routeText relays ++ mailbox) ++ ['>']

/-- The text names a domain that is no literal. -/
def IsRelay (relay : String) : Prop :=
  ∃ domain, Domain.parse relay = .ok domain ∧ domain.isLiteral = false

/-! ### Colons outside of brackets -/

/-- Behind the text no bracket is open: each one that opens is followed by one that closes. -/
def Closed (s : List Char) : Prop :=
  ∀ before after, s = before ++ '[' :: after → ']' ∈ after

/-- A colon of the text stands outside of brackets. -/
def HasOpenColon (s : List Char) : Prop :=
  ∃ before after, s = before ++ ':' :: after ∧ Closed before

/-- What a sign does to the brackets that are open. -/
def bracketStep (inBrackets : Bool) (c : Char) : Bool :=
  if c = '[' then true else if c = ']' then false else inBrackets

/-- Whether a bracket is open behind a text, if one was open before it or not. -/
def inBracketsAfter (inBrackets : Bool) (s : List Char) : Bool :=
  s.foldl bracketStep inBrackets

variable {b : Bool} {s t x y m : List Char}

theorem inBracketsAfter_append (b : Bool) (x y : List Char) :
    inBracketsAfter b (x ++ y) = inBracketsAfter (inBracketsAfter b x) y :=
  List.foldl_append

theorem inBracketsAfter_of_not_mem (h : '[' ∉ s) : inBracketsAfter false s = false := by
  induction s with
  | nil => rfl
  | cons c s ih =>
    rw [List.mem_cons, not_or] at h
    have hstep : bracketStep false c = false := by
      rw [bracketStep, if_neg (Ne.symm h.1)]
      split <;> rfl
    show inBracketsAfter (bracketStep false c) s = false
    rw [hstep, ih h.2]

/-- A bracket is open behind a text exactly if the last one in it opens, or if it has none and one
was open before. -/
theorem inBracketsAfter_eq_true_iff :
    inBracketsAfter b s = true ↔
      (b = true ∧ ']' ∉ s) ∨ ∃ before after, s = before ++ '[' :: after ∧ ']' ∉ after := by
  induction s generalizing b with
  | nil => simp [inBracketsAfter]
  | cons c s ih =>
    have hcut : (∃ before after, c :: s = before ++ '[' :: after ∧ ']' ∉ after) ↔
        (c = '[' ∧ ']' ∉ s) ∨ ∃ before after, s = before ++ '[' :: after ∧ ']' ∉ after := by
      constructor
      · rintro ⟨before, after, heq, hafter⟩
        cases before with
        | nil =>
          obtain ⟨rfl, rfl⟩ := List.cons.inj heq
          exact .inl ⟨rfl, hafter⟩
        | cons d before =>
          obtain ⟨rfl, rfl⟩ := List.cons.inj heq
          exact .inr ⟨before, after, rfl, hafter⟩
      · rintro (⟨rfl, hs⟩ | ⟨before, after, rfl, hafter⟩)
        · exact ⟨[], s, rfl, hs⟩
        · exact ⟨c :: before, after, rfl, hafter⟩
    show inBracketsAfter (bracketStep b c) s = true ↔ _
    rw [ih, hcut, List.mem_cons, not_or]
    by_cases hopen : c = '['
    · have hstep : bracketStep b c = true := if_pos hopen
      rw [hstep]
      grind
    · by_cases hclose : c = ']'
      · have hstep : bracketStep b c = false := by rw [bracketStep, if_neg hopen, if_pos hclose]
        rw [hstep]
        grind
      · have hstep : bracketStep b c = b := by rw [bracketStep, if_neg hopen, if_neg hclose]
        rw [hstep]
        grind

theorem inBracketsAfter_eq_false_iff : inBracketsAfter false s = false ↔ Closed s := by
  rw [← Bool.not_eq_true, inBracketsAfter_eq_true_iff]
  simp only [Bool.false_eq_true, false_and, false_or, not_exists, not_and, Decidable.not_not]
  rfl

/-! ### The end of a route -/

theorem afterRoute_cons (b : Bool) (c : Char) (s : List Char) :
    afterRoute b (c :: s) =
      (afterRoute (bracketStep b c) s).or (if c = ':' && !b then some s else none) := by
  rw [afterRoute]
  cases h : afterRoute (bracketStep b c) s <;> simp [bracketStep] at h ⊢ <;> simp [h]

/-- What follows a text decides where the last colon is, and else the text itself does. -/
theorem afterRoute_append (b : Bool) (x y : List Char) :
    afterRoute b (x ++ y) =
      (afterRoute (inBracketsAfter b x) y).or ((afterRoute b x).map (· ++ y)) := by
  induction x generalizing b with
  | nil => exact Option.or_none.symm
  | cons c x ih =>
    rw [List.cons_append, afterRoute_cons, afterRoute_cons, ih, Option.or_assoc, Option.map_or]
    congr 2
    split <;> rfl

theorem afterRoute_append_eq_none_iff :
    afterRoute b (x ++ y) = none ↔
      afterRoute (inBracketsAfter b x) y = none ∧ afterRoute b x = none := by
  rw [afterRoute_append, Option.or_eq_none_iff, Option.map_eq_none_iff]

theorem afterRoute_of_not_mem (h : ':' ∉ s) : afterRoute b s = none := by
  induction s generalizing b with
  | nil => rfl
  | cons c s ih =>
    rw [List.mem_cons, not_or] at h
    rw [afterRoute_cons, ih h.2, if_neg (by simp [Ne.symm h.1])]
    rfl

/-- A colon in a literal stands in brackets, if none of them closes before the end. -/
theorem afterRoute_literal {content : List Char} (h : ']' ∉ content) :
    afterRoute b ('[' :: content ++ [']']) = none := by
  have hinside : afterRoute true content = none := by
    induction content with
    | nil => rfl
    | cons c content ih =>
      rw [List.mem_cons, not_or] at h
      have hstep : bracketStep true c = true := by
        rw [bracketStep, if_neg (Ne.symm h.1)]
        split <;> rfl
      rw [afterRoute_cons, hstep, ih h.2, if_neg (by simp)]
      rfl
  have hopening : afterRoute b ('[' :: content) = none := by
    rw [afterRoute_cons, bracketStep, if_pos rfl, hinside]
    rfl
  exact afterRoute_append_eq_none_iff.2 ⟨rfl, hopening⟩

/-- A route ends nowhere exactly if no colon stands outside of brackets. -/
theorem afterRoute_eq_none_iff : afterRoute false s = none ↔ ¬HasOpenColon s := by
  have hgeneral (b : Bool) : afterRoute b s = none ↔
      ∀ before after, s = before ++ ':' :: after → inBracketsAfter b before = true := by
    induction s generalizing b with
    | nil => simp [afterRoute]
    | cons c s ih =>
      rw [afterRoute_cons, Option.or_eq_none_iff, ih]
      constructor
      · rintro ⟨hrest, hhere⟩ before after heq
        cases before with
        | nil =>
          obtain ⟨rfl, rfl⟩ := List.cons.inj heq
          simpa [inBracketsAfter] using hhere
        | cons d before =>
          obtain ⟨rfl, rfl⟩ := List.cons.inj heq
          exact hrest before after rfl
      · intro h
        refine ⟨fun before after heq => h (c :: before) after (congrArg (c :: ·) heq), ?_⟩
        rw [if_neg]
        rw [Bool.and_eq_true, decide_eq_true_eq, Bool.not_eq_true', not_and]
        rintro rfl
        exact Bool.not_eq_false _ ▸ h [] s rfl
  rw [hgeneral, HasOpenColon]
  simp only [← inBracketsAfter_eq_false_iff, not_exists, not_and, Bool.not_eq_false]

/-- A route is the front of a path, up to a colon. -/
theorem eq_of_afterRoute (h : afterRoute b s = some t) : ∃ x, s = x ++ ':' :: t := by
  induction s generalizing b with
  | nil => cases h
  | cons c s ih =>
    rw [afterRoute_cons, Option.or_eq_some_iff] at h
    rcases h with h | ⟨_, h⟩
    · obtain ⟨x, rfl⟩ := ih h
      exact ⟨c :: x, rfl⟩
    · split at h
      · next hcolon =>
        rw [Bool.and_eq_true, decide_eq_true_eq] at hcolon
        cases h
        exact ⟨[], congrArg (· :: t) hcolon.1⟩
      · cases h

/-! ### Routes of relays -/

/-- A relay has no opening bracket in its text. -/
theorem IsRelay.not_mem {relay : String} (h : IsRelay relay) : '[' ∉ relay.toList := by
  obtain ⟨domain, hparse, hliteral⟩ := h
  obtain ⟨hcheck, htext⟩ := Domain.parse_eq_ok_iff.1 hparse
  have hname : DomainGrammar.checkName (trim relay.toList) = .ok () := by
    rcases DomainGrammar.literal_or_name hcheck with ⟨content, hcontent⟩ | ⟨_, hname⟩
    · rw [Domain.isLiteral, htext, hcontent] at hliteral
      cases hliteral
    · exact hname
  intro hmem
  obtain ⟨x, y, hs, hx, hy⟩ := Text.exists_append_trim relay.toList
  rw [hs, List.mem_append, List.mem_append] at hmem
  rcases hmem with (hmem | hmem) | hmem
  · exact absurd (hx _ hmem) (by decide)
  · rcases DomainGrammar.forall_mem_of_checkName hname _ hmem with h | h
    · exact absurd h (by decide)
    · exact absurd h (by decide)
  · exact absurd (hy _ hmem) (by decide)

theorem not_mem_relayList {relays : List String} (h : ∀ relay ∈ relays, IsRelay relay) :
    '[' ∉ List.intercalate [','] (relays.map fun relay => '@' :: relay.toList) := by
  have hrelay {relay : String} (hrelay : IsRelay relay) : '[' ∉ '@' :: relay.toList := by
    rw [List.mem_cons, not_or]
    exact ⟨by decide, hrelay.not_mem⟩
  induction relays with
  | nil => exact List.not_mem_nil
  | cons relay relays ih =>
    obtain ⟨hhead, hrest⟩ := List.forall_mem_cons.1 h
    cases relays with
    | nil =>
      rw [List.map_singleton, List.intercalate_singleton]
      exact hrelay hhead
    | cons next relays =>
      have htail := ih hrest
      rw [List.map_cons] at htail
      rw [List.map_cons, List.map_cons, List.intercalate_cons_cons, List.mem_append,
        List.mem_append, List.mem_singleton, not_or, not_or]
      exact ⟨⟨hrelay hhead, by decide⟩, htail⟩

/-- A route is dropped from before a mailbox, and so is what is taken for one in the mailbox. -/
theorem getD_afterRoute_routeText {relays : List String} (h : ∀ relay ∈ relays, IsRelay relay)
    (m : List Char) :
    (afterRoute false (routeText relays ++ m)).getD (routeText relays ++ m) =
      (afterRoute false m).getD m := by
  unfold routeText
  split
  · rfl
  · have hclosed := inBracketsAfter_of_not_mem (not_mem_relayList h)
    have hcolon : afterRoute false [':'] = some [] := rfl
    rw [afterRoute_append, inBracketsAfter_append, afterRoute_append, hclosed, hcolon]
    show ((afterRoute false m).or (some m)).getD _ = _
    cases afterRoute false m <;> rfl

/-- What is read of a path that is not too long: the mailbox behind its last colon, where that
stands outside of brackets. -/
theorem parse_pathText {relays : List String} (hrelays : ∀ relay ∈ relays, IsRelay relay)
    (hm : m ≠ []) (hshort : octetCount (pathText relays m) ≤ maxPathOctets) :
    parse (String.ofList (pathText relays m)) = ofMailboxText ((afterRoute false m).getD m) := by
  have htrim : trim (pathText relays m) = pathText relays m := by
    refine Text.trim_of_ends ?_ fun c hc => ?_
    · rintro c ⟨⟩
      decide
    · rw [pathText, List.getLast?_concat] at hc
      rw [← Option.some.inj hc]
      decide
  have hnull : pathText relays m ≠ ['<', '>'] := by
    intro h
    have hlength := congrArg List.length h
    rw [pathText, List.length_append, List.length_cons, List.length_append] at hlength
    have hpos : 0 < m.length := List.length_pos_iff.2 hm
    have htwo : ['<', '>'].length = 2 := rfl
    have hone : ['>'].length = 1 := rfl
    omega
  have hpath : mailboxText (pathText relays m) = ofPathText (routeText relays ++ m ++ ['>']) := by
    unfold mailboxText
    rw [if_neg (by simp [pathText]), if_neg (Nat.not_lt_of_le hshort), if_neg hnull]
    rfl
  rw [parse_eq_bind, String.toList_ofList, htrim, hpath, ofPathText,
    if_pos (List.getLast?_concat ..), List.dropLast_concat]
  exact congrArg ofMailboxText (getD_afterRoute_routeText hrelays m)

/-! ### Mailboxes in paths -/

/-- Two cuts of a text before the same sign, one behind the other: the sign stands between them. -/
theorem mem_of_append_cons_eq {c : Char} {p q u d : List Char}
    (h : p ++ c :: (u ++ d) = q ++ c :: d) (hu : u ≠ []) : c ∈ u := by
  have hfront : (p ++ [c]) ++ u = q ++ [c] := by
    refine (List.append_left_inj d).1 ?_
    simpa only [List.append_assoc, List.cons_append, List.nil_append] using h
  have hlast := congrArg List.getLast? hfront
  rw [List.getLast?_concat, List.getLast?_append, List.getLast?_eq_some_getLast hu,
    Option.some_or, Option.some.injEq] at hlast
  exact hlast ▸ List.getLast_mem hu

/-- A domain is read from a text with as many `@` as it has. -/
theorem count_at_of_parse {e : List Char} {domain : Domain}
    (h : Domain.parse (String.ofList e) = .ok domain) :
    domain.text.toList.count '@' = e.count '@' := by
  rw [(Domain.parse_eq_ok_iff.1 h).2, Text.count_asciiLower (by decide), String.toList_ofList,
    Text.count_trim (by decide)]

/-- No mailbox is read from a part at the end of its text. -/
theorem SplitsInto.not_of_suffix {l d l' d' : List Char} {a : Address} (h : SplitsInto s l d a)
    (hs : s = x ++ t) (hx : x ≠ []) : ¬SplitsInto t l' d' a := by
  intro h'
  obtain ⟨rfl, rfl, hdomain⟩ := splitsInto_iff.1 h
  obtain ⟨rfl, rfl, hdomain'⟩ := splitsInto_iff.1 h'
  have hlonger : d'.length < d.length := by
    have hlength := congrArg List.length hs
    rw [List.length_append, List.length_append, List.length_append, List.length_cons,
      List.length_cons] at hlength
    have hpos : 0 < x.length := List.length_pos_iff.2 hx
    omega
  obtain ⟨u, rfl⟩ : d' <:+ d := by
    have hd : d <:+ a.localPart.toList ++ '@' :: d :=
      (List.suffix_cons '@' d).trans (List.suffix_append _ _)
    have hd' : d' <:+ a.localPart.toList ++ '@' :: d := by
      rw [hs]
      exact ((List.suffix_cons '@' d').trans (List.suffix_append _ _)).trans
        (List.suffix_append _ _)
    exact List.suffix_of_suffix_length_le hd' hd (Nat.le_of_lt hlonger)
  -- the `@` before the shorter domain stands in the longer one
  have hat : '@' ∈ u := by
    refine mem_of_append_cons_eq (hs.trans (List.append_assoc ..).symm) ?_
    rintro rfl
    exact Nat.lt_irrefl _ hlonger
  -- but both are the text of one domain, up to case and blanks at the ends
  have hcount : (u ++ d').count '@' = d'.count '@' :=
    (count_at_of_parse hdomain).symm.trans (count_at_of_parse hdomain')
  rw [List.count_append] at hcount
  have hpos : 0 < u.count '@' := List.count_pos_iff.2 hat
  omega

/-- A mailbox has no colon outside of brackets if its local part has none at all and its domain is a
name, or a literal in which no bracket closes before its end. -/
theorem SplitsInto.not_hasOpenColon {l d : List Char} {a : Address} (h : SplitsInto s l d a)
    (hlocal : ':' ∉ a.localPart.toList)
    (hdomain : ∀ content, a.domain.text.toList = '[' :: content ++ [']'] → ']' ∉ content) :
    ¬HasOpenColon s := by
  obtain ⟨rfl, rfl, hparse⟩ := splitsInto_iff.1 h
  obtain ⟨hcheck, htext⟩ := Domain.parse_eq_ok_iff.1 hparse
  rw [String.toList_ofList] at hcheck htext
  obtain ⟨x, y, hd, hx, hy⟩ := Text.exists_append_trim d
  have hblank {z : List Char} (hz : ∀ c ∈ z, isBlank c = true) : ':' ∉ z := fun hmem =>
    absurd (hz _ hmem) (by decide)
  have htrim (b : Bool) : afterRoute b (trim d) = none := by
    rcases DomainGrammar.literal_or_name hcheck with ⟨content, hcontent⟩ | ⟨_, hname⟩
    · have hlower : a.domain.text.toList = '[' :: asciiLower content ++ [']'] := by
        rw [htext, hcontent, asciiLower, List.map_append]
        rfl
      have hclose : ']' ∉ content := by
        refine fun hmem => hdomain _ hlower ?_
        exact List.mem_map.2 ⟨']', hmem, by decide⟩
      rw [hcontent]
      exact afterRoute_literal hclose
    · refine afterRoute_of_not_mem fun hmem => ?_
      rcases DomainGrammar.forall_mem_of_checkName hname _ hmem with h | h
      · exact absurd h (by decide)
      · exact absurd h (by decide)
  have hfront : ':' ∉ a.localPart.toList ++ '@' :: x := by
    rw [List.mem_append, List.mem_cons, not_or, not_or]
    exact ⟨hlocal, by decide, hblank hx⟩
  have hcut : a.localPart.toList ++ '@' :: d = a.localPart.toList ++ '@' :: x ++ trim d ++ y := by
    conv => lhs; rw [hd]
    simp only [List.append_assoc, List.cons_append]
  rw [← afterRoute_eq_none_iff, hcut, afterRoute_append_eq_none_iff, afterRoute_append_eq_none_iff]
  exact ⟨afterRoute_of_not_mem (hblank hy), htrim _, afterRoute_of_not_mem hfront⟩

/-- **Mailboxes in paths.** Let a mailbox be read from a text that is no path, and let this text
stand in a path behind a source route or none, the path not being too long. The same mailbox is read
from the path exactly if no colon of the text stands outside of brackets. So it is if the local part
has no colon at all, as every dot-string, and the domain is a name or a literal in which no bracket
closes before its end. Otherwise what is read is what the part of the text behind its last such
colon names, if anything. -/
theorem parse_pathText_eq_ok_iff {relays : List String} {a : Address}
    (htrim : trim m = m) (hbare : m.head? ≠ some '<') (hread : parse (String.ofList m) = .ok a)
    (hrelays : ∀ relay ∈ relays, IsRelay relay)
    (hshort : octetCount (pathText relays m) ≤ 256) :
    (parse (String.ofList (pathText relays m)) = .ok a ↔ ¬HasOpenColon m) ∧
    (':' ∉ a.localPart.toList →
      (∀ content, a.domain.text.toList = '[' :: content ++ [']'] → ']' ∉ content) →
        parse (String.ofList (pathText relays m)) = .ok a) ∧
    ∀ t, afterRoute false m = some t →
      parse (String.ofList (pathText relays m)) = ofMailboxText t := by
  have htoList : trim (String.ofList m).toList = m := by rw [String.toList_ofList, htrim]
  rw [parse_eq_ok_iff_of_bare (by rwa [htoList]), htoList] at hread
  obtain ⟨_, l, d, hsplit⟩ := hread
  have hm : m ≠ [] := by
    rw [hsplit.1]
    simp
  have hpath := parse_pathText hrelays hm hshort
  have hiff : parse (String.ofList (pathText relays m)) = .ok a ↔ ¬HasOpenColon m := by
    rw [hpath, ← afterRoute_eq_none_iff]
    cases hroute : afterRoute false m with
    | none => exact iff_of_true (ofMailboxText_eq_ok_iff_splitsInto.2 ⟨l, d, hsplit⟩) rfl
    | some t =>
      refine iff_of_false (fun hmailbox => ?_) nofun
      obtain ⟨l', d', hsplit'⟩ := ofMailboxText_eq_ok_iff_splitsInto.1 hmailbox
      obtain ⟨x, hx⟩ := eq_of_afterRoute hroute
      have hcut : m = (x ++ [':']) ++ t := by rw [hx, List.append_assoc, List.singleton_append]
      exact hsplit.not_of_suffix hcut (by simp) hsplit'
  refine ⟨hiff, fun hlocal hdomain => hiff.2 (hsplit.not_hasOpenColon hlocal hdomain), ?_⟩
  intro t ht
  rw [hpath, ht]
  rfl

/-- A colon and brackets between quotes, and a literal with colons, behind two relays. -/
theorem parse_pathText_eq_ok_iff_relayed :
    ∃ a, parse "\"a[:]b\"@[IPv6:::1]" = .ok a ∧
      IsRelay "relay.one" ∧ IsRelay " Relay-2.org" ∧
      String.ofList (pathText ["relay.one", " Relay-2.org"] "\"a[:]b\"@[IPv6:::1]".toList) =
        "<@relay.one,@ Relay-2.org:\"a[:]b\"@[IPv6:::1]>" ∧
      parse "<@relay.one,@ Relay-2.org:\"a[:]b\"@[IPv6:::1]>" = .ok a := by
  have hread : parse "\"a[:]b\"@[IPv6:::1]" =
      .ok ⟨"\"a[:]b\"", ⟨"[ipv6:::1]", by rfl, by rfl⟩, by rfl⟩ := by rfl
  have hrelay : IsRelay "relay.one" := ⟨⟨"relay.one", by rfl, by rfl⟩, by rfl, by decide⟩
  have hrelay' : IsRelay " Relay-2.org" := ⟨⟨"relay-2.org", by rfl, by rfl⟩, by rfl, by decide⟩
  have htext : String.ofList (pathText ["relay.one", " Relay-2.org"]
      "\"a[:]b\"@[IPv6:::1]".toList) = "<@relay.one,@ Relay-2.org:\"a[:]b\"@[IPv6:::1]>" := by
    decide
  have hclosed : ¬HasOpenColon "\"a[:]b\"@[IPv6:::1]".toList := by
    rw [← afterRoute_eq_none_iff]
    decide
  refine ⟨_, hread, hrelay, hrelay', htext, ?_⟩
  rw [← htext]
  refine (parse_pathText_eq_ok_iff (by decide) (by decide) ?_ ?_ (by decide)).1.2 hclosed
  · rwa [String.ofList_toList]
  · exact List.forall_mem_cons.2 ⟨hrelay, List.forall_mem_singleton.2 hrelay'⟩

/-- A colon between quotes is taken for the end of a route, and then the path names no mailbox. A
colon behind a bracket that closes inside a literal is, too, and then the path names another
mailbox. Neither path has a route. -/
theorem not_read_from_path :
    (parse "\"a:b\"@example.com" =
        .ok ⟨"\"a:b\"", ⟨"example.com", by rfl, by rfl⟩, by rfl⟩ ∧
      String.ofList (pathText [] "\"a:b\"@example.com".toList) = "<\"a:b\"@example.com>" ∧
      parse "<\"a:b\"@example.com>" = .error .missingAtSign) ∧
    parse "a@[x:y]:b@[z:w]" = .ok ⟨"a", ⟨"[x:y]:b@[z:w]", by rfl, by rfl⟩, by rfl⟩ ∧
      String.ofList (pathText [] "a@[x:y]:b@[z:w]".toList) = "<a@[x:y]:b@[z:w]>" ∧
      parse "<a@[x:y]:b@[z:w]>" = .ok ⟨"b", ⟨"[z:w]", by rfl, by rfl⟩, by rfl⟩ :=
  ⟨⟨by rfl, by decide, by rfl⟩, by rfl, by decide, by rfl⟩

end Address

end MailRouting
