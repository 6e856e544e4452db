import MailRouting.Authority
import MailRouting.Clock
import MailRouting.Log
import MailRouting.Queue

/-!
# Routines

Routing asks others: the domain list, the users, the mapping table, the queues, the clock. A
routine is such work as a tree: it asks, goes on with the answer whatever that is, writes into the
log, and ends with a result. What the answers are is left to a handler, so that statements about
routines hold for all that could answer.

* `Request`, `Request.Answer` — what can be asked, and what the answer to it is like;
* `Routine` — work that asks;
* `Handler`, `Routine.run` — something that answers, with a state of its own, and a run against it;
* `Routine.trace` — what a run asks, in order, and what it is answered.
-/

namespace MailRouting

/-- What a routine can ask. -/
inductive Request where
  /-- Whether a domain is served here. -/
  | containsDomain (domain : Domain)
  /-- The default domain. -/
  | defaultDomain
  /-- Whether a principal is a known user. -/
  | containsUser (principal : Principal)
  /-- The principal of a mailbox. -/
  | principalFor (address : Address)
  /-- The mappings of a mailbox, of some kinds only. -/
  | resolvedMappings (localPart : String) (domain : Domain) (kinds : List MappingKind)
  /-- The queue of a name is to be there. -/
  | createQueue (name : String)
  /-- A queue is to take a mail. -/
  | enqueue (queue : String) (mail : Mail)
  /-- A queue is to take a mail and hold it back. -/
  | enqueueDelayed (queue : String) (mail : Mail) (delay : Delay)
  /-- An identifier that was not given before. -/
  | freshId
  /-- The time. -/
  | currentTime

/-- The answers to a request. -/
def Request.Answer : Request → Type
  | .containsDomain _ => Except DomainListError Bool
  | .defaultDomain => Except DomainListError Domain
  | .containsUser _ => Except UsersError Bool
  | .principalFor _ => Except UsersError Principal
  | .resolvedMappings _ _ _ => Except MappingError (List Mapping)
  | .createQueue _ => Unit
  | .enqueue _ _ => Except QueueError Unit
  | .enqueueDelayed _ _ _ => Except QueueError Unit
  | .freshId => Ulid
  | .currentTime => Timestamp

/-- Work that asks and writes into the log before it ends with a result. -/
inductive Routine (α : Type) where
  | done (result : α)
  | ask (request : Request) (next : request.Answer → Routine α)
  | note (entry : Log.Entry) (next : Routine α)

namespace Routine

/-- Goes on with the result of a routine. -/
def bind : Routine α → (α → Routine β) → Routine β
  | .done a, f => f a
  | .ask r next, f => .ask r fun answer => (next answer).bind f
  | .note e next, f => .note e (next.bind f)

instance : Monad Routine where
  pure := .done
  bind := Routine.bind

/-- Asks once. -/
def request (r : Request) : Routine r.Answer :=
  .ask r .done

/-- Writes one event into the log. -/
def log (e : Log.Event) : Routine Unit :=
  .note (.event e) (.done ())

/-- Work inside a span of the log. -/
def inSpan (span : Log.Span) (p : Routine α) : Routine α :=
  .note (.enter span) (p.bind fun a => .note .leave (.done a))

end Routine

/-- Something that answers requests and keeps the log, with a state of type `σ`. -/
structure Handler (σ : Type) where
  answer : (r : Request) → σ → r.Answer × σ
  note : Log.Entry → σ → σ

namespace Routine

/-- Runs a routine against a handler. -/
def run (h : Handler σ) : Routine α → σ → α × σ
  | .done a, s => (a, s)
  | .ask r next, s =>
    let (answer, s) := h.answer r s
    (next answer).run h s
  | .note e next, s => next.run h (h.note e s)

/-- A request with its answer. -/
structure Exchange where
  request : Request
  answer : request.Answer

/-- What a run asks, in order, and what it is answered. -/
def trace (h : Handler σ) : Routine α → σ → List Exchange
  | .done _, _ => []
  | .ask r next, s =>
    let (answer, s) := h.answer r s
    ⟨r, answer⟩ :: (next answer).trace h s
  | .note e next, s => next.trace h (h.note e s)

/-- The result of a run. -/
def result (h : Handler σ) (p : Routine α) (s : σ) : α :=
  (p.run h s).1

end Routine

end MailRouting
