import MailRouting.Proofs.Context.Operation
import MailRouting.Proofs.Text.Occurrences

/-!
# Messages with another body

Nothing that routing reads of a message lies behind its first blank line.

* `Message.ofParts`, `Message.headerBytes_ofParts` — a message of a header section and a body, which
  is read up to where the body starts, whatever is in the body;
* `Message.header_congr`, `addresses_congr` and the others — what is read depends on these octets;
* `Routine.Exchange.withMessage` — the same exchange about a mail with another message;
* `RoutingContext.ends_sendMessage_withMessage` — sending such a message takes the same course;
* `Site.takeMail_fst_congr`, `RoutingContext.sendMessage_at_site` — and at a site it is answered
  alike;
* `Message.body_never_matters` — all of that about messages that differ in their bodies.
-/

namespace MailRouting

open Routine (Exchange)

/-! ### Reading -/

namespace Message

/-- The message with a header section and a body, and a blank line between them. -/
def ofParts (head body : List UInt8) : Message :=
  ⟨head ++ blankLine ++ body⟩

/-- A message is read up to the blank line behind its header section, if that one is the first. -/
theorem headerBytes_ofParts {head : List UInt8}
    (hhead : Text.before blankLine (head ++ blankLine) = some head) (body : List UInt8) :
    (ofParts head body).headerBytes = head := by
  unfold headerBytes ofParts
  rw [Text.before_append_right hhead]

section Congr

variable {m₁ m₂ : Message} (h : m₁.headerBytes = m₂.headerBytes)

include h

theorem headerBlock_congr : m₁.headerBlock = m₂.headerBlock := by
  unfold headerBlock
  rw [h]

theorem fields_congr : m₁.fields = m₂.fields := by
  unfold fields
  rw [headerBlock_congr h]

theorem headers_congr : m₁.headers = m₂.headers := by
  unfold headers
  rw [fields_congr h]

theorem header_congr (name : String) : m₁.header name = m₂.header name := by
  unfold header
  rw [fields_congr h]

theorem addresses_congr (name : String) : m₁.addresses name = m₂.addresses name := by
  unfold addresses
  rw [fields_congr h]

end Congr

end Message

section Congr

variable {m₁ m₂ : Message} (h : m₁.headerBytes = m₂.headerBytes)

include h

/-- The report on a mail tells nothing of the body. -/
theorem DeliveryReport.ofMail_congr (mail : Mail) (sender : Address) (explanation : String)
    (bouncer : Address) (host : String) :
    ofMail { mail with message := m₁ } sender explanation bouncer host =
      ofMail { mail with message := m₂ } sender explanation bouncer host := by
  unfold ofMail Message.subject
  dsimp only
  rw [Message.headerBlock_congr h, Message.header_congr h, Message.header_congr h]

theorem RoutingContext.bounceAs_congr (c : RoutingContext) (mail : Mail) (explanation : String)
    (bouncer : Option Address) :
    c.bounceAs { mail with message := m₁ } explanation bouncer =
      c.bounceAs { mail with message := m₂ } explanation bouncer := by
  unfold bounceAs sendReport
  simp only [DeliveryReport.ofMail_congr h mail]

theorem RoutingContext.envelopeOf_congr : envelopeOf m₁ = envelopeOf m₂ := by
  unfold envelopeOf
  simp only [Message.addresses_congr h]

end Congr

/-! ### Sending -/

/-- The exchange about the same mail, but with another message in it. -/
def Routine.Exchange.withMessage (m : Message) : Exchange → Exchange
  | ⟨.enqueue queue mail, answer⟩ => ⟨.enqueue queue { mail with message := m }, answer⟩
  | ⟨.enqueueDelayed queue mail delay, answer⟩ =>
    ⟨.enqueueDelayed queue { mail with message := m } delay, answer⟩
  | x => x

namespace RoutingContext

variable {c : RoutingContext} {m₁ m₂ : Message}

/-- A message is sent under a fresh name, with one call on the spool. -/
theorem ends_sendMessageToWithState_iff {sender : ReversePath} {recipients : List Address}
    {message : Message} {state : State} {xs : List Exchange} {a : Except SendError Unit} :
    (c.sendMessageToWithState sender recipients message state).Ends xs a ↔
      ∃ id answer, xs = [⟨.freshId, id⟩,
          ⟨.enqueue c.spool ((Mail.ofMessage id sender recipients message).sent state), answer⟩] ∧
        a = answer.mapError .queue := by
  constructor
  · rintro ⟨id, _, rfl, answer, _, rfl, rfl, rfl⟩
    exact ⟨id, answer, rfl, rfl⟩
  · rintro ⟨id, answer, rfl, rfl⟩
    exact ⟨id, _, rfl, answer, _, rfl, rfl, rfl⟩

/-- Another message with the same header section takes the same course: the same questions, except
for the message that is handed over, and the same result after the same answers. -/
theorem ends_sendMessage_withMessage (h : m₁.headerBytes = m₂.headerBytes) {xs : List Exchange}
    {a : Except SendError Unit} (hends : (c.sendMessage m₁).Ends xs a) :
    (c.sendMessage m₂).Ends (xs.map (Routine.Exchange.withMessage m₂)) a := by
  unfold sendMessage at hends ⊢
  rw [← envelopeOf_congr h]
  cases henvelope : envelopeOf m₁ with
  | error cause =>
    rw [henvelope] at hends
    obtain ⟨rfl, rfl⟩ := hends
    exact ⟨rfl, rfl⟩
  | ok envelope =>
    rw [henvelope] at hends
    obtain ⟨id, answer, rfl, rfl⟩ := ends_sendMessageToWithState_iff.1 hends
    exact ends_sendMessageToWithState_iff.2 ⟨id, answer, rfl, rfl⟩

end RoutingContext

/-! ### Sending at a site -/

/-- Whether a queue takes a mail does not depend on the mail. -/
theorem QueueStore.push_map_congr (s : QueueStore) (name : String) (now : Nat) (mail₁ mail₂ : Mail)
    (delay : Option Delay) :
    (s.push name now mail₁ delay).map (fun _ => ()) =
      (s.push name now mail₂ delay).map (fun _ => ()) := by
  unfold push MailQueue.push
  cases (s.queue name).capacity with
  | none => rfl
  | some capacity =>
    dsimp only
    split <;> rfl

namespace Site

theorem pushMail_fst (s : Site) (queue : String) (mail : Mail) (delay : Option Delay) :
    (s.pushMail queue mail delay).1 =
      (s.queues.push queue s.now mail delay).map (fun _ => ()) := by
  unfold pushMail
  cases s.queues.push queue s.now mail delay <;> rfl

theorem takeMail_fst_congr (s : Site) (queue : String) (mail₁ mail₂ : Mail)
    (delay : Option Delay) :
    (s.takeMail queue mail₁ delay).1 = (s.takeMail queue mail₂ delay).1 := by
  unfold takeMail serve
  dsimp only
  split
  · rfl
  · rw [pushMail_fst, pushMail_fst]
    exact QueueStore.push_map_congr _ queue _ mail₁ mail₂ delay

end Site

/-- Until the spool is asked to take a message, the site does not get to know it. -/
theorem RoutingContext.exists_run_sendMessageToWithState (c : RoutingContext) (s : Site)
    (sender : ReversePath) (recipients : List Address) (state : State) :
    ∃ (id : Ulid) (s' : Site), ∀ message,
      let mail := (Mail.ofMessage id sender recipients message).sent state
      let routine := c.sendMessageToWithState sender recipients message state
      routine.result Site.handler s = (s'.takeMail c.spool mail none).1.mapError .queue ∧
        routine.trace Site.handler s =
          [⟨.freshId, id⟩, ⟨.enqueue c.spool mail, (s'.takeMail c.spool mail none).1⟩] :=
  let entered := Site.note (.enter ⟨"enqueue", [("mail", Mail.generatedName s.freshId.1)]⟩)
    s.freshId.2
  let noted := Site.note (.event ⟨.debug, Log.contextTarget, "Enqueueing mail",
    [("state", state.name), ("recipients", toString recipients.length), ("delay", "None"),
      ("queue", c.spool)]⟩) entered
  ⟨s.freshId.1, noted, fun _ => ⟨rfl, rfl⟩⟩

/-- At a site, another message with the same header section is answered alike. -/
theorem RoutingContext.sendMessage_at_site {m₁ m₂ : Message} (h : m₁.headerBytes = m₂.headerBytes)
    (c : RoutingContext) (s : Site) :
    (s.perform (c.sendMessage m₂)).1 = (s.perform (c.sendMessage m₁)).1 ∧
      (c.sendMessage m₂).trace Site.handler s =
        ((c.sendMessage m₁).trace Site.handler s).map (Routine.Exchange.withMessage m₂) := by
  unfold sendMessage
  rw [← envelopeOf_congr h]
  cases envelopeOf m₁ with
  | error cause => exact ⟨rfl, rfl⟩
  | ok envelope =>
    obtain ⟨id, s', hrun⟩ :=
      c.exists_run_sendMessageToWithState s (.mailbox envelope.1) envelope.2 .root
    obtain ⟨hresult₁, htrace₁⟩ := hrun m₁
    obtain ⟨hresult₂, htrace₂⟩ := hrun m₂
    have hanswer := s'.takeMail_fst_congr c.spool
      ((Mail.ofMessage id (.mailbox envelope.1) envelope.2 m₂).sent .root)
      ((Mail.ofMessage id (.mailbox envelope.1) envelope.2 m₁).sent .root) none
    refine ⟨?_, ?_⟩
    · show (c.sendMessageToWithState _ _ m₂ _).result Site.handler s =
        (c.sendMessageToWithState _ _ m₁ _).result Site.handler s
      rw [hresult₁, hresult₂, hanswer]
    · show (c.sendMessageToWithState _ _ m₂ _).trace Site.handler s =
        ((c.sendMessageToWithState _ _ m₁ _).trace Site.handler s).map _
      rw [htrace₁, htrace₂, hanswer]
      rfl

/-! ### Two bodies -/

namespace Message

/-- **The body never matters.** Let a header section be followed by a blank line, the first in these
octets. Then two messages that differ only in what comes behind it, whatever that is, are read
alike: their header sections, fields and addresses are the same, or fail in the same way. So are the
reports on mail with them, and what is asked to send them back. Sending them asks the same, but for
the message that is handed over, and comes to the same result if it gets the same answers, which it
does at every site. -/
theorem body_never_matters {head : List UInt8}
    (hhead : Text.before blankLine (head ++ blankLine) = some head) (body₁ body₂ : List UInt8) :
    (ofParts head body₁).headerBytes = head ∧
    (ofParts head body₁).headerBlock = (ofParts head body₂).headerBlock ∧
    (ofParts head body₁).headers = (ofParts head body₂).headers ∧
    (∀ name, (ofParts head body₁).header name = (ofParts head body₂).header name) ∧
    (ofParts head body₁).subject = (ofParts head body₂).subject ∧
    (∀ name, (ofParts head body₁).addresses name = (ofParts head body₂).addresses name) ∧
    (∀ (mail : Mail) (sender : Address) (explanation : String) (bouncer : Address) (host : String),
      DeliveryReport.ofMail { mail with message := ofParts head body₁ } sender explanation bouncer
          host =
        DeliveryReport.ofMail { mail with message := ofParts head body₂ } sender explanation bouncer
          host) ∧
    (∀ (c : RoutingContext) (mail : Mail) (explanation : String) (bouncer : Option Address),
      c.bounceAs { mail with message := ofParts head body₁ } explanation bouncer =
        c.bounceAs { mail with message := ofParts head body₂ } explanation bouncer) ∧
    (∀ (c : RoutingContext) (xs : List Exchange) (a : Except SendError Unit),
      (c.sendMessage (ofParts head body₁)).Ends xs a →
        (c.sendMessage (ofParts head body₂)).Ends
          (xs.map (Routine.Exchange.withMessage (ofParts head body₂))) a) ∧
    (∀ (c : RoutingContext) (s : Site),
      (s.perform (c.sendMessage (ofParts head body₂))).1 =
          (s.perform (c.sendMessage (ofParts head body₁))).1 ∧
        (c.sendMessage (ofParts head body₂)).trace Site.handler s =
          ((c.sendMessage (ofParts head body₁)).trace Site.handler s).map
            (Routine.Exchange.withMessage (ofParts head body₂))) := by
  have hbytes₁ := headerBytes_ofParts hhead body₁
  have hbytes : (ofParts head body₁).headerBytes = (ofParts head body₂).headerBytes :=
    hbytes₁.trans (headerBytes_ofParts hhead body₂).symm
  exact ⟨hbytes₁, headerBlock_congr hbytes, headers_congr hbytes, header_congr hbytes,
    header_congr hbytes "Subject", addresses_congr hbytes,
    DeliveryReport.ofMail_congr hbytes, RoutingContext.bounceAs_congr hbytes,
    fun _ _ _ => RoutingContext.ends_sendMessage_withMessage hbytes,
    RoutingContext.sendMessage_at_site hbytes⟩

/-- A header section with an empty line in it that only LF ends, and with a CR where the blank line
behind it starts; nothing behind it, or two blank lines and octets of no text. -/
theorem body_never_matters_bareBlankLine :
    Text.before blankLine ([97, 10, 10, 98, 13] ++ blankLine) = some [97, 10, 10, 98, 13] ∧
    (ofParts [97, 10, 10, 98, 13] []).headerBlock = .ok "a\n\nb\r".toList ∧
    (ofParts [97, 10, 10, 98, 13] (blankLine ++ blankLine ++ [255])).headerBlock =
      .ok "a\n\nb\r".toList := by
  have hhead : Text.before blankLine ([97, 10, 10, 98, 13] ++ blankLine) =
      some [97, 10, 10, 98, 13] := by decide
  have hblock : (ofParts [97, 10, 10, 98, 13] []).headerBlock = .ok "a\n\nb\r".toList := by rfl
  obtain ⟨_, hsame, _⟩ := body_never_matters hhead [] (blankLine ++ blankLine ++ [255])
  exact ⟨hhead, hblock, hsame.symm.trans hblock⟩

end Message

end MailRouting
