import MailRouting.DeliveryReport
import MailRouting.LocalDelivery
import MailRouting.Text.Quoted

/-!
# The routing context

What processing stages work with: it answers questions about local delivery, sends reports back,
and puts mail into the spool queue.

* `ContextConfig`, `RoutingContext`, `RoutingContext.create` — a context and how one is made;
* `Dispatch`, `RoutingContext.enqueue` — the one way into the spool;
* `RoutingContext.bounceAs`, `sendMail`, `sendMessage` and the others — what takes that way.
-/

namespace MailRouting

/-! ### Making a context -/

/-- The settings of a context. -/
structure ContextConfig where
  /-- The mailbox that reports come from; the postmaster of the default domain if none is given. -/
  postmaster : Option String := none
  /-- The name of the host that reports. -/
  reportingHost : String := "localhost"
  /-- The name of the queue that mail goes to. -/
  spoolQueue : String := "spool"
  deriving DecidableEq, Repr

/-- Why a context cannot be made. -/
inductive ContextError where
  /-- The name of the spool queue is blank. -/
  | blankSpoolQueue
  | invalidPostmaster (value : String) (cause : AddressError)
  /-- No postmaster is given, and the default domain cannot be read. -/
  | resolution (cause : ResolutionError)
  deriving DecidableEq, Repr

/-- The error in words. -/
def ContextError.message : ContextError → String
  | .blankSpoolQueue => "Invalid configuration for spool_queue: queue name is empty"
  | .invalidPostmaster value cause => s!"Invalid postmaster address {value}: {cause.message}"
  | .resolution cause => "Cannot determine postmaster: " ++ cause.message

/-- A context: its settings and the mailbox that reports come from. -/
structure RoutingContext where
  config : ContextConfig
  postmaster : Address
  deriving DecidableEq, Repr

namespace RoutingContext

/-- The name and the version of the server. -/
def serverInfo : String := "courier-routing/0.0.1"

/-- The name of the queue that mail goes to. -/
def spool (c : RoutingContext) : String :=
  c.config.spoolQueue

/-- Writes into the log. -/
def log (level : Log.Level) (message : String) (fields : Log.Fields) : Routine Unit :=
  Routine.log ⟨level, Log.contextTarget, message, fields⟩

/-- The postmaster that the settings give, or that of the default domain. -/
def findPostmaster (config : ContextConfig) : ExceptT ContextError Routine Address :=
  match config.postmaster with
  | some value => ExceptT.mk (pure ((Address.parse value).mapError (.invalidPostmaster value)))
  | none => do
    let d ← ExceptT.adapt .resolution LocalDelivery.defaultDomain
    ExceptT.mk (pure ((Address.ofParts "postmaster" d).mapError
      (.invalidPostmaster ("postmaster@" ++ d.text))))

/-- Warns if the domain of the postmaster is not served here, or if that cannot be told. -/
def checkPostmaster (postmaster : Address) : Routine Unit := do
  match ← (LocalDelivery.isLocalServer postmaster.domain).run with
  | .ok true => pure ()
  | .ok false =>
    log .warn "The postmaster domain is not a local domain, bounces may loop"
      [("postmaster", postmaster.text)]
  | .error e =>
    log .warn "Could not check whether the postmaster domain is local"
      [("postmaster", postmaster.text), ("error", e.message)]

/-- Makes a context. A postmaster whose domain is not served here is no hindrance. -/
def create (config : ContextConfig) : ExceptT ContextError Routine RoutingContext := do
  if (Text.trim config.spoolQueue.toList).isEmpty then throw .blankSpoolQueue
  let postmaster ← findPostmaster config
  checkPostmaster postmaster
  let _ ← Routine.request (.createQueue config.spoolQueue)
  log .info "Routing context ready"
    [("postmaster", postmaster.text), ("spool", config.spoolQueue)]
  pure { config, postmaster }

end RoutingContext

/-! ### Dispatching mail -/

/-- A mail on its way to the spool, with the state it is to be in, if that is another one, and with
its delay, if it has one. -/
structure Dispatch where
  mail : Mail
  state : Option State := none
  delay : Option Delay := none
  deriving DecidableEq, Repr

/-- A delay as the log shows it. -/
def Delay.describe (d : Delay) : String :=
  "Delay \x7b amount: " ++ toString d.amount.toNat ++ ", unit: " ++ d.unit.name ++ " \x7d"

/-- A delay that may be missing as the log shows it. -/
def describeDelay : Option Delay → String
  | some d => "Some(" ++ d.describe ++ ")"
  | none => "None"

namespace Dispatch

/-- The note that every mail from a context bears. -/
def sentMark : String := "sent-by-context"

/-- The mail as the spool gets it. -/
def marked (r : Dispatch) : Mail :=
  ({ r.mail with state := r.state.getD r.mail.state }).setAttribute sentMark "true"

end Dispatch

/-- Why a mail was not answered by a report. -/
inductive BounceError where
  /-- The mail of that name cannot be read. -/
  | unreadable (name : String) (cause : MessageError)
  | queue (cause : QueueError)
  deriving DecidableEq, Repr

/-- The error in words. -/
def BounceError.message : BounceError → String
  | .unreadable name cause => s!"Cannot build bounce for {name}: {cause.message}"
  | .queue cause => cause.message

/-- Why a message was not sent. -/
inductive SendError where
  /-- The message does not tell its envelope. -/
  | unreadable (cause : MessageError)
  | queue (cause : QueueError)
  deriving DecidableEq, Repr

/-- The error in words. -/
def SendError.message : SendError → String
  | .unreadable cause => "Cannot build envelope from message: " ++ cause.message
  | .queue cause => cause.message

namespace RoutingContext

/-- Hands a mail to the spool. -/
def handOver (c : RoutingContext) (mail : Mail) : Option Delay → Routine (Except QueueError Unit)
  | some delay => Routine.request (.enqueueDelayed c.spool mail delay)
  | none => Routine.request (.enqueue c.spool mail)

/-- Puts a mail into the spool. Everything that sends takes this way, and the spool is asked
once. -/
def enqueue (c : RoutingContext) (r : Dispatch) : Routine (Except QueueError Unit) :=
  Routine.inSpan ⟨"enqueue", [("mail", r.mail.name)]⟩ do
    let mail := r.marked
    log .debug "Enqueueing mail"
      [("state", mail.state.name), ("recipients", toString mail.recipients.length),
        ("delay", describeDelay r.delay), ("queue", c.spool)]
    c.handOver mail r.delay

/-- Queues a mail in its state. -/
def sendMail (c : RoutingContext) (mail : Mail) : Routine (Except QueueError Unit) :=
  c.enqueue { mail }

/-- Queues a mail in another state. -/
def sendMailWithState (c : RoutingContext) (mail : Mail) (state : State) :
    Routine (Except QueueError Unit) :=
  c.enqueue { mail, state := some state }

/-- Queues a mail in its state and holds it back. -/
def sendMailDelayed (c : RoutingContext) (mail : Mail) (delay : Delay) :
    Routine (Except QueueError Unit) :=
  c.enqueue { mail, delay := some delay }

/-- Queues a mail in another state and holds it back. -/
def sendMailWithStateDelayed (c : RoutingContext) (mail : Mail) (state : State) (delay : Delay) :
    Routine (Except QueueError Unit) :=
  c.enqueue { mail, state := some state, delay := some delay }

/-! ### Reports -/

/-- Makes the report on a mail and puts it into the spool. -/
def sendReport (c : RoutingContext) (mail : Mail) (sender : Address) (explanation : String)
    (bouncer : Address) : Routine (Except BounceError Unit) := do
  match DeliveryReport.ofMail mail sender explanation bouncer c.config.reportingHost with
  | .error cause => pure (.error (.unreadable mail.name cause))
  | .ok report =>
    Routine.log ⟨.info, Log.reportTarget, "Generating bounce",
      [("mail", mail.name), ("sender", sender.text), ("bouncer", bouncer.text)]⟩
    let id : Ulid ← Routine.request .freshId
    let date : Timestamp ← Routine.request .currentTime
    let answer ← c.enqueue { mail := report.mail id date }
    pure (answer.mapError .queue)

/-- Sends a report on a mail back to its sender, from `bouncer` or else from the postmaster. A mail
whose sender is unset or null is not answered. -/
def bounceAs (c : RoutingContext) (mail : Mail) (explanation : String) (bouncer : Option Address) :
    Routine (Except BounceError Unit) :=
  Routine.inSpan ⟨"bounce_as", [("mail", mail.name)]⟩ do
    match mail.sender.address? with
    | some sender => c.sendReport mail sender explanation (bouncer.getD c.postmaster)
    | none =>
      log .info "Mail has no sender, not bouncing" [("sender", mail.sender.text)]
      pure (.ok ())

/-- Sends a report on a mail back to its sender, from the postmaster. -/
def bounce (c : RoutingContext) (mail : Mail) (explanation : String) :
    Routine (Except BounceError Unit) :=
  c.bounceAs mail explanation none

/-! ### Bare messages -/

/-- Queues a message with the given envelope and state. -/
def sendMessageToWithState (c : RoutingContext) (sender : ReversePath) (recipients : List Address)
    (message : Message) (state : State) : Routine (Except SendError Unit) := do
  let id : Ulid ← Routine.request .freshId
  let mail : Mail := { name := Mail.generatedName id, sender, recipients, message }
  let answer ← c.enqueue { mail, state := some state }
  pure (answer.mapError .queue)

/-- Queues a message with the given envelope. -/
def sendMessageTo (c : RoutingContext) (sender : ReversePath) (recipients : List Address)
    (message : Message) : Routine (Except SendError Unit) :=
  c.sendMessageToWithState sender recipients message .root

/-- The envelope that the fields of a message tell: the first mailbox of `From`, and those of `To`,
`Cc` and `Bcc`. -/
def envelopeOf (message : Message) : Except MessageError (Address × List Address) := do
  let senders ← message.addresses "From"
  match senders with
  | [] => throw (.missingField "From")
  | sender :: _ =>
    let recipients ← message.addresses "To"
    let copies ← message.addresses "Cc"
    let hiddenCopies ← message.addresses "Bcc"
    pure (sender, recipients ++ copies ++ hiddenCopies)

/-- Queues a message with the envelope that its fields tell. -/
def sendMessage (c : RoutingContext) (message : Message) : Routine (Except SendError Unit) :=
  match envelopeOf message with
  | .error cause => pure (.error (.unreadable cause))
  | .ok (sender, recipients) =>
    c.sendMessageToWithState (.mailbox sender) recipients message .root

/-! ### Diagnostics -/

/-- A text that may be missing, as diagnostics show it. -/
def describeText? : Option String → String
  | some s => "Some(" ++ Text.quote s ++ ")"
  | none => "None"

/-- The context as diagnostics show it. -/
def describe (c : RoutingContext) : String :=
  "RoutingContext \x7b postmaster: MailAddress \x7b local_part: " ++
    Text.quote c.postmaster.localPart ++ ", domain: Domain(" ++
    Text.quote c.postmaster.domain.text ++ ") \x7d, spool: " ++ Text.quote c.spool ++
    ", config: ContextConfig \x7b postmaster: " ++ describeText? c.config.postmaster ++
    ", reporting_mta: " ++ Text.quote c.config.reportingHost ++ ", spool_queue: " ++
    Text.quote c.config.spoolQueue ++ " \x7d, .. \x7d"

/-- Local delivery as diagnostics show it. -/
def describeDelivery : String :=
  "LocalResources \x7b .. \x7d"

end RoutingContext

end MailRouting
