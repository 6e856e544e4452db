import MailRouting.Address.Error
import MailRouting.Text.Ascii
import MailRouting.Text.Split
import MailRouting.Text.Utf8

/-!
# The grammar of domains

A domain is a name of letters, digits and hyphens, or an address literal in brackets:

    Domain          = sub-domain *("." sub-domain)
    sub-domain      = Let-dig [Ldh-str]
    address-literal = "[" ( IPv4-address / tag ":" value ) "]"

* `DomainGrammar.check` — the first fault of a text as a domain;
* `DomainGrammar.check_asciiLower` — lowering the letters of a domain leaves a domain.
-/

namespace MailRouting.DomainGrammar

open Text (asciiLower)

/-- The most octets that a domain may have. -/
def maxOctets : Nat := 255

/-! ### Domain names -/

/-- Letters and digits of ASCII. -/
def isLetDig (c : Char) : Bool :=
  c.isAlphanum

/-- The characters of a label. -/
def isLabelChar (c : Char) : Bool :=
  isLetDig c || c == '-'

/-- A label is one or more letters, digits and hyphens, without a hyphen at either end. -/
def checkLabel (label : List Char) : Except AddressError Unit :=
  match label.head?, label.getLast? with
  | some first, some last =>
    if !isLetDig first then .error (.invalidDomain (.labelStart first))
    else if !isLetDig last then .error (.invalidDomain (.labelEnd last))
    else
      match label.find? fun c => !isLabelChar c with
      | some c => .error (.invalidDomain (.labelCharacter c))
      | none => .ok ()
  | _, _ => .error (.invalidDomain .emptyLabel)

/-- The first fault among the labels of a name. -/
def checkLabels : List (List Char) → Except AddressError Unit
  | [] => .ok ()
  | label :: rest => do
    checkLabel label
    checkLabels rest

/-- A domain name is one or more labels with dots between them. -/
def checkName (name : List Char) : Except AddressError Unit :=
  if name.isEmpty then .error (.invalidDomain .empty)
  else if name.head? = some '.' ∨ name.getLast? = some '.' then .error (.invalidDomain .edgeDot)
  else checkLabels (Text.splitOn '.' name)

/-! ### Address literals -/

/-- The number that one to three decimal digits without leading zeros stand for, up to 255. -/
def decimalOctet? (digits : List Char) : Option Nat :=
  if digits.isEmpty || digits.length > 3 || !digits.all Char.isDigit then none
  else if digits.length > 1 && digits.head? = some '0' then none
  else
    let n := digits.foldl (fun n c => n * 10 + (c.toNat - '0'.toNat)) 0
    if n ≤ 255 then some n else none

/-- Four decimal octets with dots between them. -/
def isIPv4 (content : List Char) : Bool :=
  let parts := Text.splitOn '.' content
  parts.length == 4 && parts.all fun part => (decimalOctet? part).isSome

/-- A tag and a value, neither empty, with the first colon between them. -/
def isTagged (content : List Char) : Bool :=
  match Text.breakOn ':' content with
  | some (tag, value) => !tag.isEmpty && !value.isEmpty
  | none => false

/-- An address literal is an IPv4 address or a tagged value in brackets. An IPv6 address carries
the tag `IPv6`, so that every text which names one is a tagged value already. -/
def checkLiteral : List Char → Except AddressError Unit
  | '[' :: rest =>
    if rest.getLast? = some ']' then
      let content := rest.dropLast
      if isIPv4 content || isTagged content then .ok ()
      else .error (.invalidLiteral (.format (String.ofList content)))
    else .error (.invalidLiteral .unbracketed)
  | _ => .error (.invalidLiteral .unbracketed)

/-! ### Either form -/

/-- The first fault of a text as a domain. -/
def check (s : List Char) : Except AddressError Unit :=
  if maxOctets < Text.Utf8.octetCount s then .error .domainTooLong
  else if s.head? = some '[' then checkLiteral s
  else checkName s

/-! ### Lower case -/

theorem octetCount_asciiLower (s : List Char) :
    Text.Utf8.octetCount (asciiLower s) = Text.Utf8.octetCount s := by
  induction s with
  | nil => rfl
  | cons c s ih =>
    simp only [asciiLower, List.map_cons, Text.Utf8.octetCount, Text.utf8Size_toLower]
    exact congrArg (c.utf8Size + ·) ih

theorem isLabelChar_toLower (c : Char) : isLabelChar c.toLower = isLabelChar c := by
  have h : (c.toLower == '-') = (c == '-') := by
    rw [Bool.eq_iff_iff, beq_iff_eq, beq_iff_eq, Text.toLower_eq_iff (by decide)]
  simp only [isLabelChar, isLetDig, Text.isAlphanum_toLower, h]

theorem checkLabel_eq_ok_iff {label : List Char} :
    checkLabel label = .ok () ↔
      (∃ c, label.head? = some c ∧ isLetDig c = true) ∧
        (∃ c, label.getLast? = some c ∧ isLetDig c = true) ∧
          ∀ c ∈ label, isLabelChar c = true := by
  unfold checkLabel
  split
  · rename_i first last hfirst hlast
    simp only [hfirst, hlast, Option.some.injEq, exists_eq_left']
    split
    · simp_all
    · split
      · simp_all
      · split
        · rename_i c hc
          have h := List.find?_some hc
          have hmem := List.mem_of_find?_eq_some hc
          simp only [reduceCtorEq, false_iff, not_and]
          intro _ _ hall
          simp [hall c hmem] at h
        · rename_i hnone
          simp_all
  · rename_i hnone
    simp only [reduceCtorEq, false_iff, not_and]
    rintro ⟨c, hc, _⟩ ⟨d, hd, _⟩
    exact absurd hd (hnone c d hc)

theorem checkLabel_asciiLower_iff {label : List Char} :
    checkLabel (asciiLower label) = .ok () ↔ checkLabel label = .ok () := by
  have hend (o : Option Char) :
      (∃ c, o.map Char.toLower = some c ∧ isLetDig c = true) ↔
        ∃ c, o = some c ∧ isLetDig c = true := by
    cases o <;> simp [isLetDig, Text.isAlphanum_toLower]
  rw [checkLabel_eq_ok_iff, checkLabel_eq_ok_iff, asciiLower, List.head?_map, List.getLast?_map,
    hend, hend, List.forall_mem_map]
  simp only [isLabelChar_toLower]

theorem checkLabels_eq_ok_iff {labels : List (List Char)} :
    checkLabels labels = .ok () ↔ ∀ label ∈ labels, checkLabel label = .ok () := by
  induction labels with
  | nil => simp [checkLabels]
  | cons label rest ih =>
    rw [checkLabels]
    cases h : checkLabel label with
    | error e => simp [bind, Except.bind, h]
    | ok => simp [bind, Except.bind, h, ih]

/-- Lowering the letters of the pieces lowers the letters of the text. -/
theorem splitOn_asciiLower {sep : Char} (hsep : sep.isAlpha = false) (s : List Char) :
    Text.splitOn sep (asciiLower s) = (Text.splitOn sep s).map asciiLower := by
  induction s with
  | nil => rfl
  | cons c rest ih =>
    rw [asciiLower, List.map_cons, ← asciiLower, Text.splitOn, Text.splitOn, ih]
    simp only [Text.toLower_eq_iff hsep]
    by_cases h : c = sep
    · simp [h, asciiLower]
    · simp only [h, if_false]
      cases Text.splitOn sep rest <;> simp [asciiLower]

theorem checkName_asciiLower_iff {name : List Char} :
    checkName (asciiLower name) = .ok () ↔ checkName name = .ok () := by
  have hdotLetter : '.'.isAlpha = false := by decide
  have hempty : (asciiLower name).isEmpty = name.isEmpty := List.isEmpty_map
  have hlabels : checkLabels (Text.splitOn '.' (asciiLower name)) = .ok () ↔
      checkLabels (Text.splitOn '.' name) = .ok () := by
    rw [splitOn_asciiLower hdotLetter, checkLabels_eq_ok_iff, checkLabels_eq_ok_iff,
      List.forall_mem_map]
    simp only [checkLabel_asciiLower_iff]
  unfold checkName
  simp only [hempty, Text.head?_asciiLower hdotLetter, Text.getLast?_asciiLower hdotLetter]
  split
  · rfl
  · split
    · rfl
    · exact hlabels

/-- Digits are no letters, so that a number is one in lower case too, and nothing else is. -/
theorem decimalOctet?_asciiLower (digits : List Char) :
    decimalOctet? (asciiLower digits) = decimalOctet? digits := by
  by_cases hall : digits.all Char.isDigit = true
  · have hsame : asciiLower digits = digits := by
      rw [asciiLower, List.map_congr_left fun c hc =>
        Text.toLower_of_isDigit (List.all_eq_true.1 hall c hc), List.map_id']
    rw [hsame]
  · have hall' : ¬(asciiLower digits).all Char.isDigit = true := by
      simpa only [asciiLower, List.all_map, Function.comp_def, Text.isDigit_toLower] using hall
    unfold decimalOctet?
    simp only [Bool.not_eq_true] at hall hall'
    simp only [hall, hall', Bool.not_false, Bool.or_true, if_true]

theorem isIPv4_asciiLower (content : List Char) : isIPv4 (asciiLower content) = isIPv4 content := by
  unfold isIPv4
  simp only [splitOn_asciiLower (show '.'.isAlpha = false by decide), List.length_map, List.all_map,
    Function.comp_def, decimalOctet?_asciiLower]

theorem breakOn_asciiLower {mark : Char} (hmark : mark.isAlpha = false) (s : List Char) :
    Text.breakOn mark (asciiLower s) =
      (Text.breakOn mark s).map fun (before, after) => (asciiLower before, asciiLower after) := by
  induction s with
  | nil => rfl
  | cons c rest ih =>
    rw [asciiLower, List.map_cons, ← asciiLower, Text.breakOn, Text.breakOn, ih]
    simp only [Text.toLower_eq_iff hmark]
    by_cases h : c = mark
    · simp [h, asciiLower]
    · simp only [h, if_false]
      cases Text.breakOn mark rest <;> simp [asciiLower]

theorem isTagged_asciiLower (content : List Char) :
    isTagged (asciiLower content) = isTagged content := by
  unfold isTagged
  rw [breakOn_asciiLower (by decide)]
  cases Text.breakOn ':' content <;> simp [asciiLower]

theorem checkLiteral_asciiLower_iff {s : List Char} :
    checkLiteral (asciiLower s) = .ok () ↔ checkLiteral s = .ok () := by
  cases s with
  | nil => rfl
  | cons c rest =>
    by_cases hc : c = '['
    · have hdrop : (asciiLower rest).dropLast = asciiLower rest.dropLast :=
        List.map_dropLast.symm
      have hlast : (asciiLower rest).getLast? = some ']' ↔ rest.getLast? = some ']' :=
        Text.getLast?_asciiLower (by decide)
      subst hc
      show checkLiteral ('[' :: asciiLower rest) = .ok () ↔ _
      simp only [checkLiteral, hlast, hdrop, isIPv4_asciiLower, isTagged_asciiLower]
      split
      · split
        · rfl
        · exact iff_of_false nofun nofun
      · rfl
    · have hlower : c.toLower ≠ '[' := by
        rwa [ne_eq, Text.toLower_eq_iff (by decide)]
      show checkLiteral (c.toLower :: asciiLower rest) = .ok () ↔ _
      rw [checkLiteral.eq_2 _ fun _ h => hlower (List.cons.inj h).1,
        checkLiteral.eq_2 _ fun _ h => hc (List.cons.inj h).1]

/-- A text is a domain exactly if it is one in lower case. -/
theorem check_asciiLower_iff {s : List Char} :
    check (asciiLower s) = .ok () ↔ check s = .ok () := by
  have hbracketLetter : '['.isAlpha = false := by decide
  unfold check
  simp only [octetCount_asciiLower, Text.head?_asciiLower hbracketLetter]
  split
  · rfl
  · split
    · exact checkLiteral_asciiLower_iff
    · exact checkName_asciiLower_iff

/-- Lowering the letters of a domain leaves a domain. -/
theorem check_asciiLower {s : List Char} (h : check s = .ok ()) :
    check (asciiLower s) = .ok () :=
  check_asciiLower_iff.2 h

end MailRouting.DomainGrammar
