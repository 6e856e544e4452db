import MailRouting.Site
import MailRouting.Proofs.Entries
import MailRouting.Proofs.Routine

/-!
# What a context does with its spool

A context has ten operations that can put mail into its spool. Each of them calls the queue once,
or not at all.

* `Operation`, `Operation.perform` — the operations, and their work;
* `Operation.task` — what an operation has to do: nothing, or to fail, or to hand over one mail;
* `calls` — the calls on queues among what was asked, with their answers;
* `Task.Done` — a task is done by these calls and this answer;
* `Operation.done_of_ends` — each operation does its task, whatever the queue answers.
-/

namespace MailRouting

open Routine (Exchange)

/-! ### Operations -/

/-- What a context can be asked to do that has to do with its spool. -/
inductive Operation where
  | enqueue (r : Dispatch)
  | sendMail (mail : Mail)
  | sendMailWithState (mail : Mail) (state : State)
  | sendMailDelayed (mail : Mail) (delay : Delay)
  | sendMailWithStateDelayed (mail : Mail) (state : State) (delay : Delay)
  | sendMessage (message : Message)
  | sendMessageTo (sender : ReversePath) (recipients : List Address) (message : Message)
  | sendMessageToWithState (sender : ReversePath) (recipients : List Address) (message : Message)
    (state : State)
  | bounce (mail : Mail) (explanation : String)
  | bounceAs (mail : Mail) (explanation : String) (bouncer : Option Address)

/-- The errors of all operations. -/
inductive Refusal where
  | queue (cause : QueueError)
  | bounce (cause : BounceError)
  | send (cause : SendError)
  deriving DecidableEq, Repr

/-- The error in words. -/
def Refusal.message : Refusal → String
  | .queue cause => cause.message
  | .bounce cause => cause.message
  | .send cause => cause.message

namespace Operation

/-- The work of an operation. -/
def perform (c : RoutingContext) : Operation → Routine (Except Refusal Unit)
  | .enqueue r => Except.mapError .queue <$> c.enqueue r
  | .sendMail mail => Except.mapError .queue <$> c.sendMail mail
  | .sendMailWithState mail state => Except.mapError .queue <$> c.sendMailWithState mail state
  | .sendMailDelayed mail delay => Except.mapError .queue <$> c.sendMailDelayed mail delay
  | .sendMailWithStateDelayed mail state delay =>
    Except.mapError .queue <$> c.sendMailWithStateDelayed mail state delay
  | .sendMessage message => Except.mapError .send <$> c.sendMessage message
  | .sendMessageTo sender recipients message =>
    Except.mapError .send <$> c.sendMessageTo sender recipients message
  | .sendMessageToWithState sender recipients message state =>
    Except.mapError .send <$> c.sendMessageToWithState sender recipients message state
  | .bounce mail explanation => Except.mapError .bounce <$> c.bounce mail explanation
  | .bounceAs mail explanation bouncer =>
    Except.mapError .bounce <$> c.bounceAs mail explanation bouncer

/-- How an operation passes on an error of the queue. -/
def refusal : Operation → QueueError → Refusal
  | .sendMessage _ | .sendMessageTo _ _ _ | .sendMessageToWithState _ _ _ _ =>
    fun e => .send (.queue e)
  | .bounce _ _ | .bounceAs _ _ _ => fun e => .bounce (.queue e)
  | _ => .queue

/-- An error of the queue that is passed on says the same as before. -/
theorem message_refusal (op : Operation) (e : QueueError) : (op.refusal e).message = e.message := by
  cases op <;> rfl

end Operation

/-! ### Tasks -/

/-- The mail in a state and with the note that every mail from a context bears. -/
def Mail.sent (m : Mail) (state : State) : Mail :=
  { m with state, attributes := m.attributes.insert "sent-by-context" "true" }

/-- A message in its envelope. -/
def Mail.ofMessage (id : Ulid) (sender : ReversePath) (recipients : List Address)
    (message : Message) : Mail :=
  { name := generatedName id, sender, recipients, message }

/-- What an operation has to do. -/
inductive Task where
  /-- Nothing, since there is nobody to answer. -/
  | suppressed
  /-- Nothing, since a message cannot be read. -/
  | unreadable (e : Refusal)
  /-- To hand over a mail, made with an identifier and the time, with a delay or without. -/
  | dispatch (mail : Ulid → Timestamp → Mail) (delay : Option Delay)

/-- To hand over a message in the envelope that its fields tell. -/
def Task.ofMessage (message : Message) : Task :=
  match RoutingContext.envelopeOf message with
  | .error cause => .unreadable (.send (.unreadable cause))
  | .ok (sender, recipients) =>
    .dispatch (fun id _ => (Mail.ofMessage id (.mailbox sender) recipients message).sent .root) none

/-- To send back a report on a mail, unless it has no sender. -/
def RoutingContext.reportTask (c : RoutingContext) (mail : Mail) (explanation : String)
    (bouncer : Address) : Task :=
  match mail.sender with
  | .unset => .suppressed
  | .null => .suppressed
  | .mailbox sender =>
    match DeliveryReport.ofMail mail sender explanation bouncer c.config.reportingHost with
    | .error cause => .unreadable (.bounce (.unreadable mail.name cause))
    | .ok report => .dispatch (fun id date => (report.mail id date).sent .root) none

/-- What an operation has to do. -/
def Operation.task (c : RoutingContext) : Operation → Task
  | .enqueue r => .dispatch (fun _ _ => r.mail.sent (r.state.getD r.mail.state)) r.delay
  | .sendMail mail => .dispatch (fun _ _ => mail.sent mail.state) none
  | .sendMailWithState mail state => .dispatch (fun _ _ => mail.sent state) none
  | .sendMailDelayed mail delay => .dispatch (fun _ _ => mail.sent mail.state) (some delay)
  | .sendMailWithStateDelayed mail state delay =>
    .dispatch (fun _ _ => mail.sent state) (some delay)
  | .sendMessage message => .ofMessage message
  | .sendMessageTo sender recipients message =>
    .dispatch (fun id _ => (Mail.ofMessage id sender recipients message).sent .root) none
  | .sendMessageToWithState sender recipients message state =>
    .dispatch (fun id _ => (Mail.ofMessage id sender recipients message).sent state) none
  | .bounce mail explanation => c.reportTask mail explanation c.postmaster
  | .bounceAs mail explanation bouncer =>
    c.reportTask mail explanation (bouncer.getD c.postmaster)

/-- Whatever is handed over bears the note of the context. -/
theorem Mail.get?_attributes_sent (m : Mail) (state : State) :
    (m.sent state).attributes.get? Dispatch.sentMark = some "true" := by
  show (m.attributes.insert Dispatch.sentMark "true").get? Dispatch.sentMark = _
  rw [Attributes.get?_insert, if_pos rfl]

/-- What a task hands over is a mail that is marked, in some state. -/
theorem Operation.exists_sent_of_task {c : RoutingContext} {op : Operation}
    {mail : Ulid → Timestamp → Mail} {delay : Option Delay} (h : op.task c = .dispatch mail delay)
    (id : Ulid) (date : Timestamp) : ∃ m state, mail id date = Mail.sent m state := by
  have hreport {failed : Mail} {explanation : String} {bouncer : Address}
      (h : c.reportTask failed explanation bouncer = .dispatch mail delay) :
      ∃ m state, mail id date = Mail.sent m state := by
    unfold RoutingContext.reportTask at h
    split at h
    · cases h
    · cases h
    · split at h
      · cases h
      · cases h
        exact ⟨_, _, rfl⟩
  cases op with
  | sendMessage message =>
    replace h : Task.ofMessage message = .dispatch mail delay := h
    unfold Task.ofMessage at h
    split at h
    · cases h
    · cases h
      exact ⟨_, _, rfl⟩
  | bounce failed explanation => exact hreport h
  | bounceAs failed explanation bouncer => exact hreport h
  | _ =>
    cases h
    exact ⟨_, _, rfl⟩

/-! ### Calls on queues -/

/-- A call on a queue, and what the queue answered. -/
structure AnsweredCall where
  call : QueueCall
  answer : Except QueueError Unit

/-- The call on a queue that an exchange is, if it is one. -/
def AnsweredCall.ofExchange? : Exchange → Option AnsweredCall
  | ⟨.enqueue queue mail, answer⟩ => some ⟨⟨queue, mail, none⟩, answer⟩
  | ⟨.enqueueDelayed queue mail delay, answer⟩ => some ⟨⟨queue, mail, some delay⟩, answer⟩
  | _ => none

/-- The calls on queues among what was asked, in order. -/
def calls (xs : List Exchange) : List AnsweredCall :=
  xs.filterMap AnsweredCall.ofExchange?

@[simp]
theorem calls_append (xs ys : List Exchange) : calls (xs ++ ys) = calls xs ++ calls ys :=
  List.filterMap_append

/-- A task is done by these calls and this answer. The third case holds with any answer of the
queue: it takes the mail, or its error is passed on. -/
inductive Task.Done (c : RoutingContext) (refusal : QueueError → Refusal) :
    Task → List AnsweredCall → Except Refusal Unit → Prop
  | suppressed : Done c refusal .suppressed [] (.ok ())
  | unreadable (e : Refusal) : Done c refusal (.unreadable e) [] (.error e)
  | dispatch (mail : Ulid → Timestamp → Mail) (delay : Option Delay) (id : Ulid) (date : Timestamp)
    (answer : Except QueueError Unit) :
    Done c refusal (.dispatch mail delay) [⟨⟨c.spool, mail id date, delay⟩, answer⟩]
      (answer.mapError refusal)

/-- All calls that a task needs are on the spool. -/
theorem Task.Done.queue_eq {c : RoutingContext} {refusal : QueueError → Refusal} {task : Task}
    {xs : List AnsweredCall} {a : Except Refusal Unit} (h : task.Done c refusal xs a) :
    ∀ x ∈ xs, x.call.queue = c.spool := by
  cases h with
  | suppressed => exact fun x hx => absurd hx List.not_mem_nil
  | unreadable e => exact fun x hx => absurd hx List.not_mem_nil
  | dispatch mail delay id date answer =>
    intro x hx
    rw [List.mem_singleton.1 hx]

/-! ### The parts of the operations -/

namespace RoutingContext

variable {c : RoutingContext} {xs : List Exchange}

theorem calls_of_ends_handOver {mail : Mail} {delay : Option Delay} {a : Except QueueError Unit}
    (h : (c.handOver mail delay).Ends xs a) : calls xs = [⟨⟨c.spool, mail, delay⟩, a⟩] := by
  cases delay with
  | none =>
    rw [Routine.ends_request_iff.1 h]
    rfl
  | some delay =>
    rw [Routine.ends_request_iff.1 h]
    rfl

/-- What goes to the spool is handed over once. -/
theorem calls_of_ends_enqueue {r : Dispatch} {a : Except QueueError Unit}
    (h : (c.enqueue r).Ends xs a) :
    calls xs = [⟨⟨c.spool, r.mail.sent (r.state.getD r.mail.state), r.delay⟩, a⟩] := by
  unfold enqueue at h
  rw [Routine.ends_inSpan_iff] at h
  exact calls_of_ends_handOver (Routine.ends_log_bind_iff.1 h)

/-- A message in its envelope is handed over once, under a name of its own. -/
theorem calls_of_ends_sendMessageToWithState {sender : ReversePath} {recipients : List Address}
    {message : Message} {state : State} {a : Except SendError Unit}
    (h : (c.sendMessageToWithState sender recipients message state).Ends xs a) :
    ∃ id answer, a = answer.mapError .queue ∧
      calls xs =
        [⟨⟨c.spool, (Mail.ofMessage id sender recipients message).sent state, none⟩, answer⟩] := by
  unfold sendMessageToWithState at h
  obtain ⟨ys, id, rest, rfl, hid, h⟩ := Routine.ends_bind_iff.1 h
  obtain ⟨zs, answer, _, rfl, henqueue, rfl, rfl⟩ := Routine.ends_bind_iff.1 h
  obtain rfl := Routine.ends_request_iff.1 hid
  refine ⟨id, answer, rfl, ?_⟩
  rw [List.append_nil, calls_append, calls_of_ends_enqueue henqueue]
  rfl

/-- A report is handed over once, and none is if the mail cannot be read. -/
theorem calls_of_ends_sendReport {mail : Mail} {sender bouncer : Address} {explanation : String}
    {a : Except BounceError Unit} (h : (c.sendReport mail sender explanation bouncer).Ends xs a) :
    match DeliveryReport.ofMail mail sender explanation bouncer c.config.reportingHost with
    | .error cause => a = .error (.unreadable mail.name cause) ∧ calls xs = []
    | .ok report => ∃ id date answer, a = answer.mapError .queue ∧
        calls xs = [⟨⟨c.spool, (report.mail id date).sent .root, none⟩, answer⟩] := by
  unfold sendReport at h
  cases hreport : DeliveryReport.ofMail mail sender explanation bouncer c.config.reportingHost with
  | error cause =>
    rw [hreport] at h
    obtain ⟨rfl, rfl⟩ := h
    exact ⟨rfl, rfl⟩
  | ok report =>
    rw [hreport] at h
    obtain ⟨ys, id, rest, rfl, hid, h⟩ := Routine.ends_bind_iff.1 (Routine.ends_log_bind_iff.1 h)
    obtain ⟨zs, date, rest, rfl, hdate, h⟩ := Routine.ends_bind_iff.1 h
    obtain ⟨ws, answer, _, rfl, henqueue, rfl, rfl⟩ := Routine.ends_bind_iff.1 h
    obtain rfl := Routine.ends_request_iff.1 hid
    obtain rfl := Routine.ends_request_iff.1 hdate
    refine ⟨id, date, answer, rfl, ?_⟩
    rw [List.append_nil, calls_append, calls_append, calls_of_ends_enqueue henqueue]
    rfl

end RoutingContext

/-! ### Every operation does its task -/

/-- An error that is passed on twice. -/
theorem mapError_mapError {ε ε' ε'' α : Type} (f : ε → ε') (g : ε' → ε'') (x : Except ε α) :
    (x.mapError f).mapError g = x.mapError fun e => g (f e) := by
  cases x <;> rfl

namespace Task

variable {c : RoutingContext} {xs : List Exchange} {a : Except Refusal Unit}

theorem done_enqueue {r : Dispatch} (h : (Except.mapError .queue <$> c.enqueue r).Ends xs a) :
    Done c .queue (.dispatch (fun _ _ => r.mail.sent (r.state.getD r.mail.state)) r.delay)
      (calls xs) a := by
  obtain ⟨answer, henqueue, rfl⟩ := Routine.ends_map_iff.1 h
  rw [RoutingContext.calls_of_ends_enqueue henqueue]
  exact .dispatch _ _ ⟨0⟩ ⟨0⟩ answer

theorem done_sendMessageToWithState {sender : ReversePath} {recipients : List Address}
    {message : Message} {state : State}
    (h : (Except.mapError .send <$>
      c.sendMessageToWithState sender recipients message state).Ends xs a) :
    Done c (fun e => .send (.queue e))
      (.dispatch (fun id _ => (Mail.ofMessage id sender recipients message).sent state) none)
      (calls xs) a := by
  obtain ⟨_, hsend, rfl⟩ := Routine.ends_map_iff.1 h
  obtain ⟨id, answer, rfl, hcalls⟩ := RoutingContext.calls_of_ends_sendMessageToWithState hsend
  rw [hcalls, mapError_mapError]
  exact .dispatch _ _ id ⟨0⟩ answer

theorem done_sendMessage {message : Message}
    (h : (Except.mapError .send <$> c.sendMessage message).Ends xs a) :
    Done c (fun e => .send (.queue e)) (.ofMessage message) (calls xs) a := by
  unfold RoutingContext.sendMessage at h
  unfold ofMessage
  cases henvelope : RoutingContext.envelopeOf message with
  | error cause =>
    rw [henvelope] at h
    obtain ⟨_, ⟨rfl, rfl⟩, rfl⟩ := Routine.ends_map_iff.1 h
    exact .unreadable _
  | ok envelope =>
    rw [henvelope] at h
    exact done_sendMessageToWithState h

theorem done_bounceAs {mail : Mail} {explanation : String} {bouncer : Option Address}
    (h : (Except.mapError .bounce <$> c.bounceAs mail explanation bouncer).Ends xs a) :
    Done c (fun e => .bounce (.queue e))
      (c.reportTask mail explanation (bouncer.getD c.postmaster)) (calls xs) a := by
  obtain ⟨b, hbounce, rfl⟩ := Routine.ends_map_iff.1 h
  unfold RoutingContext.bounceAs at hbounce
  rw [Routine.ends_inSpan_iff] at hbounce
  unfold RoutingContext.reportTask
  cases hsender : mail.sender with
  | unset =>
    rw [hsender] at hbounce
    obtain ⟨rfl, rfl⟩ := hbounce
    exact .suppressed
  | null =>
    rw [hsender] at hbounce
    obtain ⟨rfl, rfl⟩ := hbounce
    exact .suppressed
  | mailbox sender =>
    rw [hsender] at hbounce
    have hreport := RoutingContext.calls_of_ends_sendReport hbounce
    dsimp only
    split at hreport
    · obtain ⟨rfl, hcalls⟩ := hreport
      rw [hcalls]
      exact .unreadable _
    · obtain ⟨id, date, answer, rfl, hcalls⟩ := hreport
      rw [hcalls, mapError_mapError]
      exact .dispatch _ _ id date answer

end Task

/-- Every operation does its task, whatever is answered to what it asks. -/
theorem Operation.done_of_ends {c : RoutingContext} {op : Operation} {xs : List Exchange}
    {a : Except Refusal Unit} (h : (op.perform c).Ends xs a) :
    (op.task c).Done c op.refusal (calls xs) a := by
  cases op with
  | enqueue r => exact Task.done_enqueue h
  | sendMail mail => exact Task.done_enqueue h
  | sendMailWithState mail state => exact Task.done_enqueue h
  | sendMailDelayed mail delay => exact Task.done_enqueue h
  | sendMailWithStateDelayed mail state delay => exact Task.done_enqueue h
  | sendMessage message => exact Task.done_sendMessage h
  | sendMessageTo sender recipients message => exact Task.done_sendMessageToWithState h
  | sendMessageToWithState sender recipients message state =>
    exact Task.done_sendMessageToWithState h
  | bounce mail explanation => exact Task.done_bounceAs h
  | bounceAs mail explanation bouncer => exact Task.done_bounceAs h

end MailRouting
