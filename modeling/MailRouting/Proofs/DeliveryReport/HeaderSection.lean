import MailRouting.DeliveryReport
import MailRouting.Proofs.Text.Lines

/-!
# The header section of a delivery report

A report quotes the decoded subject and the decoded `Message-ID` of the failed mail, which its
author chose. Encoded words can stand for any character, line ends too.

* `DeliveryReport.headerFields` — the fields that a report is to have, in order;
* `ofMail_eq_ok_iff` — what goes into a report;
* `Message.headerSectionLines` — the lines of the header section of a message;
* `headerSectionLines_mail_iff` — the header section of a report consists of these fields, one a
  line, exactly if the subject and the `Message-ID` that it quotes have no line end in them.
-/

namespace MailRouting

open Text (IsLine IsOctetLine isLine_append)
open Message (fieldLine)

/-- The lines of the header section: what stands before the first empty line. -/
def Message.headerSectionLines (m : Message) : Option (List (List UInt8)) :=
  (Text.before Message.blankLine m.bytes).map Text.lines

/-! ### Parts that have no line end -/

theorem isLine_getD {texts : List String} (h : ∀ s ∈ texts, IsLine s) (n : Nat) :
    IsLine (texts.getD n "") := by
  rw [List.getD_eq_getElem?_getD]
  cases hn : texts[n]? with
  | none => exact ⟨nofun, nofun⟩
  | some s => exact h s (List.mem_of_getElem? hn)

theorem isLine_toString (n : Nat) : IsLine (toString n) := by
  have hdigit : ∀ c ∈ (toString n).toList, c.isDigit = true := by
    intro c hc
    rw [Nat.toString_eq_repr, Nat.toList_repr] at hc
    exact Nat.isDigit_of_mem_toDigits (by decide) (by decide) hc
  refine ⟨fun h => ?_, fun h => ?_⟩
  · exact absurd (hdigit '\r' h) (by decide)
  · exact absurd (hdigit '\n' h) (by decide)

theorem Timestamp.isLine_twoDigits (n : Nat) : IsLine (twoDigits n) := by
  unfold twoDigits
  split
  · exact isLine_append.2 ⟨by decide, isLine_toString n⟩
  · exact isLine_toString n

theorem Timestamp.isLine_mailDate (t : Timestamp) : IsLine t.mailDate := by
  have hday : ∀ n, IsLine (dayNames.getD n "") := isLine_getD (by decide)
  have hmonth : ∀ n, IsLine (monthNames.getD n "") := isLine_getD (by decide)
  have hmarks : IsLine ", " ∧ IsLine " " ∧ IsLine ":" ∧ IsLine " +0000" := by decide
  simp only [mailDate, isLine_append, hday, hmonth, hmarks, isLine_toString, isLine_twoDigits,
    and_self]

theorem Ulid.sign_ne {x : Char} (hx : x ∉ alphabet) (n : Nat) : sign n ≠ x := by
  rintro rfl
  apply hx
  unfold sign
  rw [List.getD_eq_getElem?_getD]
  cases hn : alphabet[n]? with
  | none => decide
  | some c => exact List.mem_of_getElem? hn

theorem Ulid.not_mem_signs {x : Char} (hx : x ∉ alphabet) (n count : Nat) :
    x ∉ signs n count := by
  induction count generalizing n with
  | zero => exact List.not_mem_nil
  | succ count ih =>
    rw [signs, List.mem_append, List.mem_singleton, not_or]
    exact ⟨ih (n / 32), (sign_ne hx (n % 32)).symm⟩

theorem Ulid.isLine_text (id : Ulid) : IsLine id.text := by
  unfold text IsLine
  rw [String.toList_ofList]
  exact ⟨not_mem_signs (by decide) _ _, not_mem_signs (by decide) _ _⟩

namespace DeliveryReport

/-! ### What goes into a report -/

/-- A report is made of the failed mail's header section and two of its fields. -/
theorem ofMail_eq_ok_iff {failed : Mail} {sender bouncer : Address} {explanation host : String}
    {r : DeliveryReport} :
    ofMail failed sender explanation bouncer host = .ok r ↔
      ∃ headers subject failedId, failed.message.headerBlock = .ok headers ∧
        failed.message.subject = .ok subject ∧
        failed.message.header "Message-ID" = .ok failedId ∧
        r =
          { name := nameStart ++ failed.name
            bouncer, sender
            subject := subject.elim defaultSubject ("Re: " ++ ·)
            failedId, explanation
            recipients := failed.recipients
            host
            failedHeaders := String.ofList headers } := by
  unfold ofMail
  cases failed.message.headerBlock with
  | error e => simp [bind, Except.bind]
  | ok headers =>
    cases failed.message.subject with
    | error e => simp [bind, Except.bind]
    | ok subject =>
      cases failed.message.header "Message-ID" with
      | error e => simp [bind, Except.bind]
      | ok failedId => cases subject <;> simp [bind, Except.bind, pure, Except.pure, eq_comm]

/-! ### The fields and the octets -/

/-- The fields that a report is to have: name and value, in order. -/
def headerFields (r : DeliveryReport) (id : Ulid) (date : Timestamp) : List (String × String) :=
  [("Content-Type", "multipart/report; report-type=\"delivery-status\"; boundary=\"" ++
      boundary id ++ "\""),
    ("MIME-Version", "1.0"),
    ("From", "Mail Delivery System <" ++ r.bouncer.text ++ ">"),
    ("To", r.sender.text),
    ("Subject", r.subject),
    ("Date", date.mailDate),
    ("Message-ID", "<" ++ r.name ++ "@" ++ r.host ++ ">")] ++
  (r.failedId.map fun value => ("In-Reply-To", value)).toList ++
  [("Auto-Submitted", "auto-replied")]

/-- A field as it stands on its line. -/
def fieldText (f : String × String) : String :=
  f.1 ++ ": " ++ f.2

/-- The octets of a field on its line. -/
def fieldOctets (f : String × String) : List UInt8 :=
  Text.Utf8.encode (fieldText f).toList

theorem join_headerLines (r : DeliveryReport) (id : Ulid) (date : Timestamp) :
    String.join (r.headerLines id date) =
      String.join ((r.headerFields id date).map fun f => fieldLine f.1 f.2) := by
  cases h : r.failedId <;>
    simp [headerLines, headerFields, Message.optionalLine, h, String.join_cons]

/-- Lines of fields, in octets. -/
theorem encode_join_fieldLines (fields : List (String × String)) :
    Text.Utf8.encode (String.join (fields.map fun f => fieldLine f.1 f.2)).toList =
      (fields.map fieldOctets).flatMap (· ++ [13, 10]) := by
  induction fields with
  | nil => simp [Text.Utf8.encode, String.join_nil]
  | cons f fields ih =>
    rw [List.map_cons, List.map_cons, String.join_cons, String.toList_append,
      Text.Utf8.encode_append, ih, List.flatMap_cons, fieldLine, Message.line, String.toList_append,
      Text.Utf8.encode_append]
    rfl

/-- A report starts with its fields and an empty line. -/
theorem exists_bytes_mail (r : DeliveryReport) (id : Ulid) (date : Timestamp) :
    ∃ body, (r.mail id date).message.bytes =
      ((r.headerFields id date).map fieldOctets).flatMap (· ++ [13, 10]) ++ 13 :: 10 :: body := by
  obtain ⟨rest, hrest⟩ : ∃ rest,
      r.text id date = String.join (r.headerLines id date) ++ ("\r\n" ++ rest) := by
    simp only [text, Message.line, String.append_assoc, String.empty_append]
    exact ⟨_, rfl⟩
  have hcrlf : Text.Utf8.encode "\r\n".toList = [13, 10] := by decide
  refine ⟨Text.Utf8.encode rest.toList, ?_⟩
  simp only [mail, Message.ofText]
  rw [hrest, join_headerLines, String.toList_append, String.toList_append, Text.Utf8.encode_append,
    Text.Utf8.encode_append, encode_join_fieldLines, hcrlf, List.cons_append, List.cons_append,
    List.nil_append]

/-! ### When the header section is as it should be -/

/-- A field never is an empty line. -/
theorem fieldOctets_ne_nil (f : String × String) : fieldOctets f ≠ [] := by
  have h : (58 : UInt8) ∈ fieldOctets f := by
    refine (Text.Utf8.mem_encode_iff (x := ':') (by decide)).2 ?_
    simp [fieldText]
  exact List.ne_nil_of_mem h

theorem isLine_fieldText {name value : String} :
    IsLine (fieldText (name, value)) ↔ IsLine name ∧ IsLine value := by
  have hmark : IsLine ": " := by decide
  simp only [fieldText, isLine_append, hmark, and_true]

theorem isLine_boundary (id : Ulid) : IsLine (boundary id) :=
  isLine_append.2 ⟨by decide, id.isLine_text⟩

/-- The fields of a report have no line end in them if its parts have none. -/
theorem forall_headerFields_isLine {r : DeliveryReport} (id : Ulid) (date : Timestamp)
    (hname : IsLine r.name) (hhost : IsLine r.host) (hsender : IsLine r.sender.text)
    (hbouncer : IsLine r.bouncer.text) (hsubject : IsLine r.subject)
    (hfailedId : ∀ value, r.failedId = some value → IsLine value) :
    ∀ f ∈ r.headerFields id date, IsLine (fieldText f) := by
  have htype : IsLine ("multipart/report; report-type=\"delivery-status\"; boundary=\"" ++
      boundary id ++ "\"") := by
    simp only [isLine_append, isLine_boundary, and_true]
    decide
  have hfrom : IsLine ("Mail Delivery System <" ++ r.bouncer.text ++ ">") := by
    simp only [isLine_append, hbouncer, and_true]
    decide
  have hid : IsLine ("<" ++ r.name ++ "@" ++ r.host ++ ">") := by
    simp only [isLine_append, hname, hhost, and_true]
    decide
  intro f hf
  simp only [headerFields, List.mem_append, List.mem_cons, List.not_mem_nil, or_false,
    Option.mem_toList, Option.map_eq_some_iff] at hf
  rcases hf with ((rfl | rfl | rfl | rfl | rfl | rfl | rfl) | ⟨value, hvalue, rfl⟩) | rfl
  · exact isLine_fieldText.2 ⟨by decide, htype⟩
  · decide
  · exact isLine_fieldText.2 ⟨by decide, hfrom⟩
  · exact isLine_fieldText.2 ⟨by decide, hsender⟩
  · exact isLine_fieldText.2 ⟨by decide, hsubject⟩
  · exact isLine_fieldText.2 ⟨by decide, date.isLine_mailDate⟩
  · exact isLine_fieldText.2 ⟨by decide, hid⟩
  · exact isLine_fieldText.2 ⟨by decide, hfailedId value hvalue⟩
  · decide

/-- Fields without line ends in them are the lines of a section that starts with them. -/
theorem headerSectionLines_of_isLine {m : Message} {fields : List (String × String)}
    {body : List UInt8} (hne : fields ≠ [])
    (hbytes : m.bytes = (fields.map fieldOctets).flatMap (· ++ [13, 10]) ++ 13 :: 10 :: body)
    (hfields : ∀ f ∈ fields, IsLine (fieldText f)) :
    m.headerSectionLines = some (fields.map fieldOctets) := by
  have hlines : ∀ l ∈ fields.map fieldOctets, IsOctetLine l ∧ l ≠ [] := by
    intro l hl
    obtain ⟨f, hf, rfl⟩ := List.mem_map.1 hl
    exact ⟨Text.isOctetLine_encode.2 (hfields f hf), fieldOctets_ne_nil f⟩
  have hmap : fields.map fieldOctets ≠ [] := fun h => hne (List.map_eq_nil_iff.1 h)
  rw [Message.headerSectionLines, hbytes, Text.before_blankLine hmap hlines, Option.map_some,
    Text.lines_intercalate hmap fun l hl => (hlines l hl).1]

/-- The lines of a header section are the given fields only if these have no line end in them. -/
theorem isLine_of_headerSectionLines {m : Message} {fields : List (String × String)}
    (h : m.headerSectionLines = some (fields.map fieldOctets)) :
    ∀ f ∈ fields, IsLine (fieldText f) := by
  intro f hf
  obtain ⟨section_, _, hlines⟩ := Option.map_eq_some_iff.1 h
  have hmem : fieldOctets f ∈ Text.lines section_ := by
    rw [hlines]
    exact List.mem_map_of_mem hf
  exact Text.isOctetLine_encode.1 (Text.forall_mem_lines section_ _ hmem)

/-- The header section of a report is as it should be exactly if the subject and the `Message-ID`
in it have no line end in them. -/
theorem headerSectionLines_mail_iff {r : DeliveryReport} (id : Ulid) (date : Timestamp)
    (hname : IsLine r.name) (hhost : IsLine r.host) (hsender : IsLine r.sender.text)
    (hbouncer : IsLine r.bouncer.text) :
    (r.mail id date).message.headerSectionLines = some ((r.headerFields id date).map fieldOctets) ↔
      IsLine r.subject ∧ ∀ value, r.failedId = some value → IsLine value := by
  constructor
  · intro h
    have hfields := isLine_of_headerSectionLines h
    refine ⟨?_, fun value hvalue => ?_⟩
    · have hmem : ("Subject", r.subject) ∈ r.headerFields id date := by simp [headerFields]
      exact (isLine_fieldText.1 (hfields _ hmem)).2
    · have hmem : ("In-Reply-To", value) ∈ r.headerFields id date := by
        simp [headerFields, hvalue]
      exact (isLine_fieldText.1 (hfields _ hmem)).2
  · rintro ⟨hsubject, hfailedId⟩
    obtain ⟨body, hbody⟩ := r.exists_bytes_mail id date
    exact headerSectionLines_of_isLine (by simp [headerFields]) hbody
      (forall_headerFields_isLine id date hname hhost hsender hbouncer hsubject hfailedId)

end DeliveryReport

end MailRouting
