import MailRouting.Proofs.Context.Dispatch
import MailRouting.Proofs.DeliveryReport.QuotedFields

/-!
# Mail that is sent back

A report on a mail goes to the sender of the mail, and nobody can be told about the report: it has
the null sender. So reports are not reported on, whatever happens to them.

* `Message.Unreadable`, `DeliveryReport.ofMail_eq_error_iff` — why a mail gets no report;
* `Mail.IsReport` — what a report is like, whatever the mail is like that it is on;
* `RoutingContext.ends_bounceAs_of_unanswered`, `ends_bounceAs_of_unreadable`,
  `ends_bounceAs_of_readable` — what is asked when a mail is sent back, case by case;
* `BouncesFrom` — runs that send back a mail and what came of it, and nothing else;
* `RoutingContext.bounce_never_loops` — the outcome in every case, and that such a run makes no
  more reports than it sends the mail itself back.
-/

namespace MailRouting

open Routine (Exchange)

/-! ### Mail that cannot be read -/

/-- The header section of the message is no text, or has no form. -/
inductive Message.Unreadable (m : Message) : MessageError → Prop
  | noText (cause : MessageError) (h : m.headerBlock = .error cause) : m.Unreadable cause
  | noForm (block : List Char) (fault : HeaderFault) (hblock : m.headerBlock = .ok block)
    (hread : Field.readAll block = .error fault) : m.Unreadable (.malformedHeader fault)

namespace Message

variable {m : Message} {cause : MessageError}

/-- What cannot be read has no field to look up. -/
theorem Unreadable.header_eq_error (h : m.Unreadable cause) (name : String) :
    m.header name = .error cause := by
  unfold header fields
  cases h with
  | noText _ h =>
    rw [h]
    rfl
  | noForm block fault hblock hread =>
    simp only [hblock, hread, bind, Except.bind, Except.mapError]

/-- Every message either cannot be read, or is read as its fields. -/
theorem unreadable_or_readAll (m : Message) :
    (∃ cause, m.Unreadable cause) ∨
      ∃ block fields, m.headerBlock = .ok block ∧ Field.readAll block = .ok fields := by
  cases hblock : m.headerBlock with
  | error cause => exact .inl ⟨cause, .noText cause hblock⟩
  | ok block =>
    cases hread : Field.readAll block with
    | error fault => exact .inl ⟨_, .noForm block fault hblock hread⟩
    | ok fields => exact .inr ⟨block, fields, rfl, hread⟩

end Message

namespace DeliveryReport

variable {failed : Mail} {sender bouncer : Address} {explanation host : String}

theorem ofMail_of_unreadable {cause : MessageError} (h : failed.message.Unreadable cause) :
    ofMail failed sender explanation bouncer host = .error cause := by
  have hsubject : failed.message.subject = .error cause := h.header_eq_error "Subject"
  unfold ofMail
  cases hblock : failed.message.headerBlock with
  | ok block => simp only [hsubject, bind, Except.bind]
  | error e =>
    cases h with
    | noText _ h =>
      rw [hblock] at h
      cases h
      rfl
    | noForm block fault h _ =>
      rw [hblock] at h
      cases h

/-- A mail gets no report exactly if it cannot be read, and the report's maker says why. -/
theorem ofMail_eq_error_iff {cause : MessageError} :
    ofMail failed sender explanation bouncer host = .error cause ↔
      failed.message.Unreadable cause := by
  refine ⟨fun h => ?_, ofMail_of_unreadable⟩
  rcases failed.message.unreadable_or_readAll with ⟨e, he⟩ | ⟨block, fields, hblock, hread⟩
  · rw [ofMail_of_unreadable he] at h
    exact Except.error.inj h ▸ he
  · rw [ofMail_of_readAll hblock hread] at h
    cases h

end DeliveryReport

/-! ### Reports -/

/-- The mail is a report to a sender on a mail of a name. -/
structure Mail.IsReport (failedName : String) (failedSender : Address) (m : Mail) : Prop where
  name_eq : m.name = "replyTo-" ++ failedName
  sender_eq : m.sender = .null
  recipients_eq : m.recipients = [failedSender]
  state_eq : m.state = .root
  attributes_eq : m.attributes.entries = [("sent-by-context", "true")]
  errorMessage_eq : m.errorMessage = none

/-- What the spool gets for a mail that is sent back is a report on it. -/
theorem DeliveryReport.isReport_sent {failed : Mail} {sender bouncer : Address}
    {explanation host : String} {r : DeliveryReport}
    (h : ofMail failed sender explanation bouncer host = .ok r) (id : Ulid) (date : Timestamp) :
    ((r.mail id date).sent .root).IsReport failed.name sender := by
  obtain ⟨_, _, _, _, _, _, rfl⟩ := ofMail_eq_ok_iff.1 h
  exact ⟨rfl, rfl, rfl, rfl, rfl, rfl⟩

namespace RoutingContext

variable {σ : Type} {c : RoutingContext} {mail : Mail} {explanation : String}
  {bouncer : Option Address}

/-! ### Sending one mail back -/

/-- A mail without a mailbox to answer is left alone: nothing is asked. -/
theorem ends_bounceAs_of_unanswered (hsender : mail.sender.address? = none) {xs : List Exchange}
    {a : Except BounceError Unit} (h : (c.bounceAs mail explanation bouncer).Ends xs a) :
    xs = [] ∧ a = .ok () := by
  unfold bounceAs at h
  rw [Routine.ends_inSpan_iff, hsender] at h
  exact h

/-- Nothing is asked for a mail that cannot be read, either. -/
theorem ends_bounceAs_of_unreadable {sender : Address} (hsender : mail.sender = .mailbox sender)
    {cause : MessageError} (hcause : mail.message.Unreadable cause) {xs : List Exchange}
    {a : Except BounceError Unit} (h : (c.bounceAs mail explanation bouncer).Ends xs a) :
    xs = [] ∧ a = .error (.unreadable mail.name cause) := by
  unfold bounceAs at h
  rw [Routine.ends_inSpan_iff, hsender] at h
  replace h : (c.sendReport mail sender explanation (bouncer.getD c.postmaster)).Ends xs a := h
  unfold sendReport at h
  rw [DeliveryReport.ofMail_of_unreadable hcause] at h
  exact h

/-- A mail that can be read gets a report, which is handed over once. -/
theorem ends_bounceAs_of_readable {sender : Address} (hsender : mail.sender = .mailbox sender)
    (hread : ∀ cause, ¬mail.message.Unreadable cause) {xs : List Exchange}
    {a : Except BounceError Unit} (h : (c.bounceAs mail explanation bouncer).Ends xs a) :
    ∃ report answer, report.IsReport mail.name sender ∧
      calls xs = [⟨⟨c.spool, report, none⟩, answer⟩] ∧ a = answer.mapError .queue := by
  unfold bounceAs at h
  rw [Routine.ends_inSpan_iff, hsender] at h
  have hreport := calls_of_ends_sendReport h
  split at hreport
  · next cause herror => exact absurd (DeliveryReport.ofMail_eq_error_iff.1 herror) (hread cause)
  · next r hr =>
    obtain ⟨id, date, answer, ha, hcalls⟩ := hreport
    exact ⟨_, answer, DeliveryReport.isReport_sent hr id date, hcalls, ha⟩

end RoutingContext

/-! ### Operations that send a mail back -/

/-- The mail that an operation sends back, if it does. -/
def Operation.bounced? : Operation → Option Mail
  | .bounce mail _ => some mail
  | .bounceAs mail _ _ => some mail
  | _ => none

/-- Mail is sent back in one way, whoever the report comes from. -/
theorem Operation.exists_task_of_bounced {c : RoutingContext} {op : Operation} {mail : Mail}
    (hop : op.bounced? = some mail) :
    ∃ explanation bouncer, op.task c = c.reportTask mail explanation bouncer := by
  cases op with
  | bounce failed explanation =>
    cases hop
    exact ⟨explanation, c.postmaster, rfl⟩
  | bounceAs failed explanation bouncer =>
    cases hop
    exact ⟨explanation, bouncer.getD c.postmaster, rfl⟩
  | _ => cases hop

/-! ### Runs that send back what came of sending back -/

/-- In every step of the run a mail is sent back: one that was known before, or one that an earlier
step handed to a queue. -/
inductive BouncesFrom : List Mail → List Record → Prop
  | nil (known : List Mail) : BouncesFrom known []
  | cons {known : List Mail} {r : Record} {rs : List Record} {mail : Mail} (hknown : mail ∈ known)
    (hr : r.operation.bounced? = some mail)
    (hrest : BouncesFrom (known ++ r.calls.map (·.call.mail)) rs) : BouncesFrom known (r :: rs)

/-- Of what is to be done with a mail that is sent back, only its report is handed over. -/
theorem RoutingContext.sender_of_reportTask {c : RoutingContext} {failed : Mail}
    {explanation : String} {bouncer : Address} {mail : Ulid → Timestamp → Mail}
    {delay : Option Delay} (h : c.reportTask failed explanation bouncer = .dispatch mail delay)
    (id : Ulid) (date : Timestamp) : (mail id date).sender = .null := by
  unfold reportTask at h
  split at h
  · cases h
  · cases h
  · split at h
    · cases h
    · obtain ⟨rfl, _⟩ := Task.dispatch.inj h
      rfl

namespace Record

variable {c : RoutingContext} {r : Record} {mail : Mail}

/-- A mail with the null sender makes no report when it is sent back. -/
theorem calls_of_bounced_null (h : r.Done c) (hr : r.operation.bounced? = some mail)
    (hsender : mail.sender = .null) : r.calls = [] ∧ r.answer = .ok () := by
  obtain ⟨explanation, bouncer, htask⟩ := Operation.exists_task_of_bounced (c := c) hr
  rw [RoutingContext.reportTask, hsender] at htask
  obtain ⟨op, calls, answer⟩ := r
  unfold Done at h
  dsimp only at h htask
  rw [htask] at h
  cases h
  exact ⟨rfl, rfl⟩

/-- A mail that is sent back makes one report at most, and the report has the null sender. -/
theorem calls_of_bounced (h : r.Done c) (hr : r.operation.bounced? = some mail) :
    r.calls.length ≤ 1 ∧ ∀ x ∈ r.calls, x.call.mail.sender = .null := by
  obtain ⟨explanation, bouncer, htask⟩ := Operation.exists_task_of_bounced (c := c) hr
  obtain ⟨op, calls, answer⟩ := r
  unfold Done at h
  dsimp only at h htask
  rw [htask] at h
  generalize hreport : c.reportTask mail explanation bouncer = task at h
  cases h with
  | suppressed => exact ⟨Nat.zero_le _, fun x hx => absurd hx List.not_mem_nil⟩
  | unreadable e => exact ⟨Nat.zero_le _, fun x hx => absurd hx List.not_mem_nil⟩
  | dispatch report delay id date answer =>
    refine ⟨Nat.le_refl _, fun x hx => ?_⟩
    rw [List.mem_singleton.1 hx]
    exact RoutingContext.sender_of_reportTask hreport id date

/-- In such a run, whatever is sent back apart from the first mail is left alone, and there are no
more calls than the first mail is sent back. What is known is the first mail, or has the null
sender. -/
theorem calls_of_bouncesFrom {known : List Mail} {rs : List Record}
    (hrs : BouncesFrom known rs) (hdone : ∀ r ∈ rs, r.Done c)
    (hknown : ∀ m ∈ known, m = mail ∨ m.sender = .null) :
    (∀ r ∈ rs, r.operation.bounced? ≠ some mail → r.calls = [] ∧ r.answer = .ok ()) ∧
    (rs.flatMap Record.calls).length ≤ rs.countP (·.operation.bounced? = some mail) := by
  induction hrs with
  | nil known => exact ⟨fun r hr => absurd hr List.not_mem_nil, Nat.le_refl 0⟩
  | @cons known r rs m hm hr hrest ih =>
    obtain ⟨hrdone, hrsdone⟩ := List.forall_mem_cons.1 hdone
    obtain ⟨hlength, hnull⟩ := calls_of_bounced hrdone hr
    have hknown' : ∀ m ∈ known ++ r.calls.map (·.call.mail), m = mail ∨ m.sender = .null := by
      intro m hm
      rcases List.mem_append.1 hm with hm | hm
      · exact hknown m hm
      · obtain ⟨x, hx, rfl⟩ := List.mem_map.1 hm
        exact .inr (hnull x hx)
    obtain ⟨hothers, hcount⟩ := ih hrsdone hknown'
    rw [List.flatMap_cons, List.length_append]
    by_cases hfirst : r.operation.bounced? = some mail
    · rw [List.countP_cons_of_pos (by simpa using hfirst)]
      refine ⟨List.forall_mem_cons.2 ⟨fun hne => absurd hfirst hne, hothers⟩, by omega⟩
    · have hmne : m ≠ mail := fun heq => hfirst (heq ▸ hr)
      have hquiet := calls_of_bounced_null hrdone hr ((hknown m hm).resolve_left hmne)
      rw [List.countP_cons_of_neg (by simpa using hfirst), hquiet.1]
      refine ⟨List.forall_mem_cons.2 ⟨fun _ => hquiet, hothers⟩, by simpa using hcount⟩

end Record

/-! ### Every bounce -/

namespace RoutingContext

/-- **Sending back ends.** A mail without a mailbox to answer is left alone, readable or not: the
context answers that all is well and asks nothing, so it does not matter whether the queue is up.
Otherwise, if the header section of the mail or a field of it cannot be read, the error names the
mail, and nothing is asked either. Otherwise the spool is called once, without a delay, to take a
report on the mail, and the answer is that of the spool. To send that report back asks nothing,
whoever does it and as often as it is done: in a run that sends back the mail and what came of it,
there are no more calls than the mail itself was sent back. -/
theorem bounce_never_loops {σ : Type} (c : RoutingContext) (h : Handler σ) (s : σ) (mail : Mail)
    (explanation : String) (bouncer : Option Address) :
    c.bounce mail explanation = c.bounceAs mail explanation none ∧
    (mail.sender.address? = none →
      (c.bounceAs mail explanation bouncer).trace h s = [] ∧
        (c.bounceAs mail explanation bouncer).result h s = .ok ()) ∧
    (∀ sender, mail.sender = .mailbox sender →
      (∀ cause, mail.message.Unreadable cause →
        (c.bounceAs mail explanation bouncer).trace h s = [] ∧
          (c.bounceAs mail explanation bouncer).result h s =
            .error (.unreadable mail.name cause)) ∧
      ((∀ cause, ¬mail.message.Unreadable cause) →
        ∃ report answer, report.IsReport mail.name sender ∧
          calls ((c.bounceAs mail explanation bouncer).trace h s) =
            [⟨⟨c.spool, report, none⟩, answer⟩] ∧
          (c.bounceAs mail explanation bouncer).result h s = answer.mapError .queue ∧
          ∀ (c' : RoutingContext) (explanation' : String) (bouncer' : Option Address) (s' : σ),
            (c'.bounceAs report explanation' bouncer').trace h s' = [] ∧
              (c'.bounceAs report explanation' bouncer').result h s' = .ok ())) ∧
    (∀ steps, BouncesFrom [mail] (c.history h steps s) →
      (∀ r ∈ c.history h steps s,
        r.operation.bounced? ≠ some mail → r.calls = [] ∧ r.answer = .ok ()) ∧
      ((c.history h steps s).flatMap Record.calls).length ≤
        (c.history h steps s).countP (·.operation.bounced? = some mail)) := by
  have hends := Routine.ends_trace_result h (c.bounceAs mail explanation bouncer) s
  refine ⟨rfl, fun hsender => ends_bounceAs_of_unanswered hsender hends, fun sender hsender =>
    ⟨fun cause hcause => ends_bounceAs_of_unreadable hsender hcause hends, fun hread => ?_⟩,
    fun steps hsteps => ?_⟩
  · obtain ⟨report, answer, hreport, hcalls, hanswer⟩ :=
      ends_bounceAs_of_readable hsender hread hends
    have hnull : report.sender.address? = none := by rw [hreport.sender_eq]; rfl
    exact ⟨report, answer, hreport, hcalls, hanswer, fun c' explanation' bouncer' s' =>
      ends_bounceAs_of_unanswered hnull (Routine.ends_trace_result h _ s')⟩
  · exact Record.calls_of_bouncesFrom hsteps (c.done_of_mem_history h steps s)
      fun m hm => .inl (List.mem_singleton.1 hm)

/-! ### A mail that is sent back twice, and its report once -/

/-- A mail to an unknown user. -/
def undeliverable : Mail :=
  { DeliveryReport.ordinaryMail with sender := .mailbox DeliveryReport.ordinaryReport.sender }

/-- The report that the spool gets on it first. -/
def undeliverableReport : Mail :=
  (DeliveryReport.ordinaryReport.mail ⟨0⟩ ⟨0⟩).sent .root

/-- The mail comes back, then its report does, then the mail once more. -/
def undeliverableRun : List (Step Site) :=
  [.operation (.bounce undeliverable "Mailbox full"),
    .operation (.bounceAs undeliverableReport "Unknown user" none),
    .operation (.bounce undeliverable "Mailbox full")]

/-- The context that gets them back. -/
def ordinaryContext : RoutingContext :=
  { config := {}, postmaster := DeliveryReport.ordinaryReport.bouncer }

/-- The site of that context: its queues have room for one mail. -/
def crowdedSite : Site :=
  { queues := { config := { capacity := some 1 } } }

theorem calls_undeliverable :
    calls (((Operation.bounce undeliverable "Mailbox full").perform ordinaryContext).trace
        Site.handler crowdedSite) =
      [⟨⟨"spool", undeliverableReport, none⟩, .ok ()⟩] := by
  show calls ((Except.mapError Refusal.bounce <$> Routine.inSpan _ (ordinaryContext.sendReport
    DeliveryReport.ordinaryMail ⟨"sender", .localhost, rfl⟩ "Mailbox full"
    ⟨"postmaster", .localhost, rfl⟩)).trace Site.handler crowdedSite) = _
  unfold sendReport
  rw [show DeliveryReport.ofMail _ _ _ _ ordinaryContext.config.reportingHost = _ from
    DeliveryReport.ofMail_ordinaryMail]
  rfl

theorem readable_undeliverable (cause : MessageError) :
    ¬undeliverable.message.Unreadable cause := by
  intro h
  cases DeliveryReport.ofMail_ordinaryMail.symm.trans (DeliveryReport.ofMail_of_unreadable h)

/-- The run sends back the mail and what came of it, and nothing else. -/
theorem bouncesFrom_undeliverable :
    BouncesFrom [undeliverable]
      (ordinaryContext.history Site.handler undeliverableRun crowdedSite) := by
  refine .cons List.mem_cons_self rfl (.cons ?_ rfl (.cons ?_ rfl (.nil _)))
  · refine List.mem_append_right _ ?_
    show undeliverableReport ∈ (calls (((Operation.bounce undeliverable "Mailbox full").perform
      ordinaryContext).trace Site.handler crowdedSite)).map (·.call.mail)
    rw [calls_undeliverable]
    exact List.mem_singleton_self _
  · exact List.mem_append_left _ (List.mem_append_left _ List.mem_cons_self)

theorem bounce_never_loops_undeliverable :
    (ordinaryContext.bounceAs { undeliverable with sender := .null } "Mailbox full" none).result
        Site.handler crowdedSite = .ok () ∧
    (ordinaryContext.bounceAs { undeliverable with message := ⟨[0xff]⟩ } "Mailbox full" none).result
        Site.handler crowdedSite = .error (.unreadable "m1" (.invalidUtf8 (.invalid 0 1))) ∧
    (∃ report answer, report.IsReport "m1" ⟨"sender", .localhost, rfl⟩ ∧
      calls ((ordinaryContext.bounceAs undeliverable "Mailbox full" none).trace Site.handler
        crowdedSite) = [⟨⟨"spool", report, none⟩, answer⟩]) ∧
    ((ordinaryContext.history Site.handler undeliverableRun crowdedSite).flatMap
        Record.calls).length ≤ 2 := by
  have hall (mail : Mail) := bounce_never_loops ordinaryContext Site.handler crowdedSite mail
    "Mailbox full" none
  obtain ⟨_, _, hanswered, hruns⟩ := hall undeliverable
  obtain ⟨report, answer, hreport, hcalls, _⟩ := (hanswered _ rfl).2 readable_undeliverable
  exact ⟨((hall { undeliverable with sender := .null }).2.1 rfl).2,
    (((hall { undeliverable with message := ⟨[0xff]⟩ }).2.2.1 _ rfl).1 _ (.noText _ rfl)).2,
    ⟨report, answer, hreport, hcalls⟩, (hruns undeliverableRun bouncesFrom_undeliverable).2⟩

end RoutingContext

end MailRouting
