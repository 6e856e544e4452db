import MailRouting.Clock
import MailRouting.Mail
import MailRouting.Message.Line

/-!
# Delivery reports

The report that tells the sender of a mail that it could not be delivered (RFC 3464): a message of
three parts, the explanation, the status of every recipient, and the header section of the failed
mail.

* `DeliveryReport` — what a report is made from;
* `DeliveryReport.ofMail` — the same with what is taken from the failed mail;
* `DeliveryReport.headerLines`, `DeliveryReport.parts`, `DeliveryReport.text` — the report as a
  text;
* `DeliveryReport.mail` — the report as a mail.
-/

namespace MailRouting

open Message (line fieldLine optionalLine)

/-- What goes into a report. -/
structure DeliveryReport where
  /-- The name of the report. -/
  name : String
  /-- The mailbox that the report comes from. -/
  bouncer : Address
  /-- The sender of the failed mail, to whom the report goes. -/
  sender : Address
  subject : String
  /-- The `Message-ID` of the failed mail, if it has one. -/
  failedId : Option String
  explanation : String
  /-- The recipients of the failed mail. -/
  recipients : List Address
  /-- The name of the host that reports. -/
  host : String
  /-- The header section of the failed mail. -/
  failedHeaders : String
  deriving DecidableEq, Repr

namespace DeliveryReport

/-- What the name of a report starts with; the name of the failed mail follows. -/
def nameStart : String := "replyTo-"

/-- The subject of a report on a mail without one. -/
def defaultSubject : String := "Delivery Status Notification (Failure)"

/-- What goes into the report on a mail, if its header section can be read. -/
def ofMail (failed : Mail) (sender : Address) (explanation : String) (bouncer : Address)
    (host : String) : Except MessageError DeliveryReport := do
  let headers ← failed.message.headerBlock
  let subject ← failed.message.subject
  let failedId ← failed.message.header "Message-ID"
  pure {
    name := nameStart ++ failed.name
    bouncer, sender
    subject := match subject with
      | some subject => "Re: " ++ subject
      | none => defaultSubject
    failedId, explanation
    recipients := failed.recipients
    host
    failedHeaders := String.ofList headers }

/-- The text that separates the parts. -/
def boundary (id : Ulid) : String :=
  "----=_Part_" ++ id.text

/-- The header section of the report, line by line. -/
def headerLines (r : DeliveryReport) (id : Ulid) (date : Timestamp) : List String :=
  [fieldLine "Content-Type" ("multipart/report; report-type=\"delivery-status\"; boundary=\"" ++
      boundary id ++ "\""),
    fieldLine "MIME-Version" "1.0",
    fieldLine "From" ("Mail Delivery System <" ++ r.bouncer.text ++ ">"),
    fieldLine "To" r.sender.text,
    fieldLine "Subject" r.subject,
    fieldLine "Date" date.mailDate,
    fieldLine "Message-ID" ("<" ++ r.name ++ "@" ++ r.host ++ ">"),
    optionalLine "In-Reply-To" r.failedId,
    fieldLine "Auto-Submitted" "auto-replied"]

/-- What one recipient's status says. -/
def recipientStatus (a : Address) : String :=
  line "" ++ fieldLine "Final-Recipient" ("rfc822; " ++ a.text) ++ fieldLine "Action" "failed" ++
    fieldLine "Status" "5.0.0"

/-- The status of the delivery: the reporting host, and a group of fields for every recipient. -/
def status (r : DeliveryReport) : String :=
  fieldLine "Reporting-MTA" ("dns; " ++ r.host) ++ String.join (r.recipients.map recipientStatus)

/-- A part of the report, from its separator on. -/
def part (id : Ulid) (contentType encoding content : String) : String :=
  line ("--" ++ boundary id) ++ fieldLine "Content-Type" contentType ++
    fieldLine "Content-Transfer-Encoding" encoding ++ line "" ++ line content

/-- The three parts of the report. -/
def parts (r : DeliveryReport) (id : Ulid) : List String :=
  [part id "text/plain; charset=utf-8" "8bit" r.explanation,
    part id "message/delivery-status" "7bit" r.status,
    part id "text/rfc822-headers" "8bit" r.failedHeaders]

/-- The report as a text. -/
def text (r : DeliveryReport) (id : Ulid) (date : Timestamp) : String :=
  String.join (r.headerLines id date) ++ line "" ++
    line "This is a multi-part message in MIME format." ++ line "" ++
    String.join (r.parts id) ++ line ("--" ++ boundary id ++ "--")

/-- The report as a mail: from nobody, so that it is never answered by a report itself, and to the
sender of the failed mail alone. -/
def mail (r : DeliveryReport) (id : Ulid) (date : Timestamp) : Mail :=
  { name := r.name
    sender := .null
    recipients := [r.sender]
    message := .ofText (r.text id date) }

end DeliveryReport

end MailRouting
