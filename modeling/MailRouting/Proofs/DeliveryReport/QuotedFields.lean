import Mathlib
import MailRouting.Proofs.DeliveryReport.HeaderSection

/-!
# What a failed mail puts into its report

* `ofMail_of_readAll` — the report on a mail from the fields of that mail;
* `report_header_section_iff` — the fields of a report, and when its header section consists of
  them, in terms of the failed mail;
* `subject_ends_header_section` — an encoded word in a subject can end the header section of the
  report, and the fields behind the subject are lost.
-/

namespace MailRouting

open Text (IsLine)

/-- The decoded value of the first field of a name. -/
def Field.valueOf? (fields : List Field) (name : String) : Option String :=
  (fields.find? (·.isNamed name)).map fun f => String.ofList f.text

/-- The fields that a header section is read as decide every look-up in it. -/
theorem Message.header_of_readAll {m : Message} {block : List Char} {fields : List Field}
    (hblock : m.headerBlock = .ok block) (hread : Field.readAll block = .ok fields)
    (name : String) : m.header name = .ok (Field.valueOf? fields name) := by
  have hfields : m.fields = .ok fields := by
    unfold Message.fields
    rw [hblock]
    show (Field.readAll block).mapError _ = _
    rw [hread]
    rfl
  unfold Message.header
  rw [hfields]
  rfl

namespace DeliveryReport

/-- A mail whose header section can be read gets a report, which quotes two of its fields. -/
theorem ofMail_of_readAll {failed : Mail} {block : List Char} {fields : List Field}
    (hblock : failed.message.headerBlock = .ok block) (hread : Field.readAll block = .ok fields)
    (sender bouncer : Address) (explanation host : String) :
    ofMail failed sender explanation bouncer host = .ok
      { name := nameStart ++ failed.name
        bouncer, sender
        subject := (Field.valueOf? fields "Subject").elim defaultSubject ("Re: " ++ ·)
        failedId := Field.valueOf? fields "Message-ID"
        explanation
        recipients := failed.recipients
        host
        failedHeaders := String.ofList block } :=
  ofMail_eq_ok_iff.2 ⟨block, _, _, hblock, Message.header_of_readAll hblock hread _,
    Message.header_of_readAll hblock hread _, rfl⟩

/-- **The header section of a report.** A report on a mail is to have the fields listed here, each
on one line, the one for the `Message-ID` of the mail only if it has one. If the names and addresses
that go into it have no line end in them, then its header section consists of these lines and
nothing else exactly if the decoded subject and the decoded `Message-ID` of the mail have no line
end in them either. -/
theorem report_header_section_iff {failed : Mail} {sender bouncer : Address}
    {explanation host : String} {r : DeliveryReport}
    (h : ofMail failed sender explanation bouncer host = .ok r) (hname : IsLine failed.name)
    (hhost : IsLine host) (hsender : IsLine sender.text) (hbouncer : IsLine bouncer.text)
    (id : Ulid) (date : Timestamp) :
    (∃ failedId, failed.message.header "Message-ID" = .ok failedId ∧
      (r.headerFields id date).map Prod.fst =
        ["Content-Type", "MIME-Version", "From", "To", "Subject", "Date", "Message-ID"] ++
          (failedId.map fun _ => "In-Reply-To").toList ++ ["Auto-Submitted"]) ∧
    ((r.mail id date).message.headerSectionLines =
        some ((r.headerFields id date).map fieldOctets) ↔
      (∀ subject, failed.message.subject = .ok (some subject) → IsLine subject) ∧
        ∀ failedId,
          failed.message.header "Message-ID" = .ok (some failedId) → IsLine failedId) := by
  obtain ⟨headers, subject, failedId, _, hsubject, hfailedId, hr⟩ := ofMail_eq_ok_iff.1 h
  have hrname : IsLine r.name := by
    have hmark : IsLine nameStart := by decide
    rw [hr]
    exact Text.isLine_append.2 ⟨hmark, hname⟩
  have hrsubject : IsLine r.subject ↔ ∀ s, subject = some s → IsLine s := by
    have hdefault : IsLine defaultSubject := by decide
    have hre : IsLine "Re: " := by decide
    rw [hr]
    cases subject with
    | none => simp [hdefault]
    | some subject => simp [Text.isLine_append, hre]
  have hrid : r.failedId = failedId := by rw [hr]
  refine ⟨⟨failedId, hfailedId, ?_⟩, ?_⟩
  · rw [headerFields, hrid]
    cases failedId <;> rfl
  · rw [headerSectionLines_mail_iff id date hrname (by rwa [hr]) (by rwa [hr]) (by rwa [hr]),
      hrsubject, hrid, hsubject, hfailedId]
    simp only [Except.ok.injEq]

/-! ### An ordinary mail -/

/-- The fields of a mail with a subject and a `Message-ID`. -/
def ordinaryFields : List Field :=
  [⟨"Subject".toList, "Hi".toList⟩, ⟨"Message-ID".toList, "<1@a>".toList⟩]

/-- A mail with a subject and a `Message-ID`. -/
def ordinaryMail : Mail :=
  { name := "m1", message := .ofText "Subject: Hi\r\nMessage-ID: <1@a>\r\n\r\nText" }

/-- The report on it. -/
def ordinaryReport : DeliveryReport :=
  { name := "replyTo-m1"
    bouncer := ⟨"postmaster", .localhost, rfl⟩
    sender := ⟨"sender", .localhost, rfl⟩
    subject := "Re: Hi"
    failedId := some "<1@a>"
    explanation := "Mailbox full"
    recipients := []
    host := "localhost"
    failedHeaders := "Subject: Hi\r\nMessage-ID: <1@a>" }

theorem headerBlock_ordinaryMail :
    ordinaryMail.message.headerBlock = .ok "Subject: Hi\r\nMessage-ID: <1@a>".toList := by rfl

theorem readAll_ordinaryMail :
    Field.readAll "Subject: Hi\r\nMessage-ID: <1@a>".toList = .ok ordinaryFields := by cbv

theorem valueOf?_ordinaryFields :
    Field.valueOf? ordinaryFields "Subject" = some "Hi" ∧
      Field.valueOf? ordinaryFields "Message-ID" = some "<1@a>" := by
  constructor <;> cbv

theorem ofMail_ordinaryMail :
    ofMail ordinaryMail ⟨"sender", .localhost, rfl⟩ "Mailbox full" ⟨"postmaster", .localhost, rfl⟩
      "localhost" = .ok ordinaryReport := by
  rw [ofMail_of_readAll headerBlock_ordinaryMail readAll_ordinaryMail, valueOf?_ordinaryFields.1,
    valueOf?_ordinaryFields.2]
  rfl

theorem report_header_section_ordinaryMail :
    ofMail ordinaryMail ⟨"sender", .localhost, rfl⟩ "Mailbox full" ⟨"postmaster", .localhost, rfl⟩
        "localhost" = .ok ordinaryReport ∧
      IsLine ordinaryMail.name ∧ IsLine "localhost" ∧
      IsLine (Address.text ⟨"sender", .localhost, rfl⟩) ∧
      IsLine (Address.text ⟨"postmaster", .localhost, rfl⟩) ∧
      ((ordinaryReport.mail ⟨0⟩ ⟨0⟩).message.headerSectionLines =
          some ((ordinaryReport.headerFields ⟨0⟩ ⟨0⟩).map fieldOctets) ↔
        (∀ subject, ordinaryMail.message.subject = .ok (some subject) → IsLine subject) ∧
          ∀ failedId, ordinaryMail.message.header "Message-ID" = .ok (some failedId) →
            IsLine failedId) := by
  have hsender : IsLine (Address.text ⟨"sender", .localhost, rfl⟩) := by decide
  have hbouncer : IsLine (Address.text ⟨"postmaster", .localhost, rfl⟩) := by decide
  exact ⟨ofMail_ordinaryMail, by decide, by decide, hsender, hbouncer,
    (report_header_section_iff ofMail_ordinaryMail (by decide) (by decide) hsender hbouncer
      ⟨0⟩ ⟨0⟩).2⟩

/-! ### A line end in an encoded word -/

/-- A mail whose subject is an encoded word for two line ends. -/
def injectingMail : Mail :=
  { name := "m1", message := .ofText "Subject: =?utf-8?Q?=0D=0A=0D=0A?=" }

/-- The field of that mail. -/
def injectingFields : List Field :=
  [⟨"Subject".toList, "=?utf-8?Q?=0D=0A=0D=0A?=".toList⟩]

/-- The report on it. -/
def injectedReport : DeliveryReport :=
  { name := "replyTo-m1"
    bouncer := ⟨"postmaster", .localhost, rfl⟩
    sender := ⟨"sender", .localhost, rfl⟩
    subject := "Re: \r\n\r\n"
    failedId := none
    explanation := "Mailbox full"
    recipients := []
    host := "localhost"
    failedHeaders := "Subject: =?utf-8?Q?=0D=0A=0D=0A?=" }

theorem ofMail_injectingMail :
    ofMail injectingMail ⟨"sender", .localhost, rfl⟩ "Mailbox full" ⟨"postmaster", .localhost, rfl⟩
      "localhost" = .ok injectedReport := by
  have hblock : injectingMail.message.headerBlock =
      .ok "Subject: =?utf-8?Q?=0D=0A=0D=0A?=".toList := by rfl
  have hread : Field.readAll "Subject: =?utf-8?Q?=0D=0A=0D=0A?=".toList = .ok injectingFields := by
    cbv
  have htokens : FieldText.tokens "=?utf-8?Q?=0D=0A=0D=0A?=".toList =
      [.blank [], .word "\r\n\r\n".toList, .blank []] := by cbv
  have hsubject : Field.valueOf? injectingFields "Subject" = some "\r\n\r\n" := by
    have hfind : injectingFields.find? (·.isNamed "Subject") =
        some ⟨"Subject".toList, "=?utf-8?Q?=0D=0A=0D=0A?=".toList⟩ := by rfl
    rw [Field.valueOf?, hfind, Option.map_some, Field.text, FieldText.segments, htokens]
    rfl
  have hid : Field.valueOf? injectingFields "Message-ID" = none := by rfl
  rw [ofMail_of_readAll hblock hread, hsubject, hid]
  rfl

/-- The header section of the report on that mail ends behind the subject: `Date`, `Message-ID` and
`Auto-Submitted` are no fields of it, although no name and no address has a line end in it. -/
theorem subject_ends_header_section :
    ofMail injectingMail ⟨"sender", .localhost, rfl⟩ "Mailbox full"
        ⟨"postmaster", .localhost, rfl⟩ "localhost" = .ok injectedReport ∧
      IsLine injectingMail.name ∧ IsLine "localhost" ∧
      IsLine (Address.text ⟨"sender", .localhost, rfl⟩) ∧
      IsLine (Address.text ⟨"postmaster", .localhost, rfl⟩) ∧
      ∀ id date, (injectedReport.mail id date).message.headerSectionLines =
        some (((injectedReport.headerFields id date).take 4 ++ [("Subject", "Re: ")]).map
          fieldOctets) := by
  refine ⟨ofMail_injectingMail, by decide, by decide, by decide, by decide, fun id date => ?_⟩
  obtain ⟨body, hbody⟩ := injectedReport.exists_bytes_mail id date
  have hsplit : injectedReport.headerFields id date =
      (injectedReport.headerFields id date).take 4 ++
        ("Subject", "Re: \r\n\r\n") :: (injectedReport.headerFields id date).drop 5 := by rfl
  have hsubject : fieldOctets ("Subject", "Re: \r\n\r\n") =
      fieldOctets ("Subject", "Re: ") ++ [13, 10, 13, 10] := by decide
  -- the first of the two line ends closes the line of the subject, the second one the section
  obtain ⟨rest, hrest⟩ : ∃ rest, (injectedReport.mail id date).message.bytes =
      (((injectedReport.headerFields id date).take 4 ++ [("Subject", "Re: ")]).map
        fieldOctets).flatMap (· ++ [13, 10]) ++ 13 :: 10 :: rest := by
    rw [hsplit] at hbody
    rw [hbody]
    simp only [List.map_append, List.map_cons, List.flatMap_append, List.flatMap_cons, hsubject,
      List.append_assoc, List.cons_append, List.nil_append]
    exact ⟨_, rfl⟩
  have hlines : ∀ f ∈ { injectedReport with subject := "Re: " }.headerFields id date,
      IsLine (fieldText f) :=
    forall_headerFields_isLine id date (by decide) (by decide) (by decide) (by decide) (by decide)
      nofun
  exact headerSectionLines_of_isLine (by simp) hrest fun f hf =>
    hlines f (List.mem_of_mem_take (i := 5) hf)

end DeliveryReport

end MailRouting
