import Mathlib.Data.List.Forall2
import MailRouting.Proofs.Queue.Holdings

/-!
# Runs of a context

A run is a list of operations, and of changes between them that the context has no part in: a queue
goes down or comes back, or its mail is taken out. Nothing is said about when a queue refuses.

* `RoutingContext.history` — the operations of a run with their calls on queues and their answers;
* `SiteEvent`, `RoutingContext.siteHistory`, `taken` — runs at a site, where mail is also taken out
  of the spool;
* `Record.forall₂_spooled` — what queues took and which operations say so agree in order;
* `RoutingContext.parted_siteAfter` — no mail of the spool is lost or doubled;
* `RoutingContext.dispatch_exactly_once` — all of that about every run.
-/

namespace MailRouting

/-! ### Runs -/

/-- What happens in a run against something that answers with a state of type `σ`. -/
inductive Step (σ : Type) where
  | operation (op : Operation)
  | change (f : σ → σ)

/-- An operation with its calls on queues and its answer. -/
structure Record where
  operation : Operation
  calls : List AnsweredCall
  answer : Except Refusal Unit

namespace RoutingContext

variable {σ : Type}

/-- The state after a step. -/
def next (c : RoutingContext) (h : Handler σ) (s : σ) : Step σ → σ
  | .operation op => ((op.perform c).run h s).2
  | .change f => f s

/-- The operation of a step, if it is one. -/
def records (c : RoutingContext) (h : Handler σ) (s : σ) : Step σ → List Record
  | .operation op => [⟨op, calls ((op.perform c).trace h s), (op.perform c).result h s⟩]
  | .change _ => []

/-- The operations of a run, in order. -/
def history (c : RoutingContext) (h : Handler σ) : List (Step σ) → σ → List Record
  | [], _ => []
  | step :: rest, s => c.records h s step ++ c.history h rest (c.next h s step)

end RoutingContext

/-! ### Records -/

/-- Whether there is nobody to answer. -/
def Task.isSuppressed : Task → Bool
  | .suppressed => true
  | _ => false

/-- The call on the spool is the one that the task is to make. -/
def Task.Yields (c : RoutingContext) (call : QueueCall) : Task → Prop
  | .dispatch mail delay => ∃ id date, call = ⟨c.spool, mail id date, delay⟩
  | _ => False

/-- Every call that an operation is to make hands over a mail with the note of the context. -/
theorem Operation.marked_of_yields {c : RoutingContext} {op : Operation} {call : QueueCall}
    (h : (op.task c).Yields c call) :
    call.mail.attributes.get? Dispatch.sentMark = some "true" := by
  cases htask : op.task c with
  | suppressed =>
    rw [htask] at h
    exact h.elim
  | unreadable e =>
    rw [htask] at h
    exact h.elim
  | dispatch mail delay =>
    rw [htask] at h
    obtain ⟨id, date, rfl⟩ := h
    obtain ⟨m, state, hsent⟩ := Operation.exists_sent_of_task htask id date
    show (mail id date).attributes.get? Dispatch.sentMark = some "true"
    rw [hsent, Mail.get?_attributes_sent]

/-- The calls that queues took in a run, in order. -/
def spooled (rs : List Record) : List QueueCall :=
  accepted (rs.flatMap Record.calls)

theorem spooled_append (rs rs' : List Record) :
    spooled (rs ++ rs') = spooled rs ++ spooled rs' := by
  simp only [spooled, accepted, List.flatMap_append, List.filterMap_append]

namespace Record

variable {c : RoutingContext} {r : Record} {rs : List Record}

/-- The operation has done its task. -/
def Done (c : RoutingContext) (r : Record) : Prop :=
  (r.operation.task c).Done c r.operation.refusal r.calls r.answer

/-- Whether the operation says that a mail is in the spool. -/
def isSent (c : RoutingContext) (r : Record) : Bool :=
  r.answer.isOk && !(r.operation.task c).isSuppressed

/-- A queue took the mail of an operation that says so, and none of any other. -/
theorem forall₂_spooled_singleton (h : r.Done c) :
    List.Forall₂ (fun call r => (r.operation.task c).Yields c call) (spooled [r])
      ([r].filter (·.isSent c)) := by
  obtain ⟨op, calls, answer⟩ := r
  unfold Done at h
  dsimp only at h
  generalize htask : op.task c = task at h
  cases h with
  | suppressed =>
    have hsent : ¬ isSent c ⟨op, [], .ok ()⟩ := by simp [isSent, htask, Task.isSuppressed]
    rw [List.filter_cons_of_neg hsent]
    exact .nil
  | unreadable e =>
    rw [List.filter_cons_of_neg Bool.false_ne_true]
    exact .nil
  | dispatch mail delay id date answer =>
    cases answer with
    | error e =>
      rw [List.filter_cons_of_neg Bool.false_ne_true]
      exact .nil
    | ok u =>
      have hsent : isSent c ⟨op, [⟨⟨c.spool, mail id date, delay⟩, .ok u⟩],
          (Except.ok u).mapError op.refusal⟩ := by
        simp [isSent, htask, Task.isSuppressed, Except.mapError, Except.isOk, Except.toBool]
      have hyields : (op.task c).Yields c ⟨c.spool, mail id date, delay⟩ := by
        rw [htask]
        exact ⟨id, date, rfl⟩
      rw [List.filter_cons_of_pos hsent]
      exact .cons hyields .nil

/-- What queues took in a run and which operations say so agree, in order and one to one. -/
theorem forall₂_spooled (h : ∀ r ∈ rs, r.Done c) :
    List.Forall₂ (fun call r => (r.operation.task c).Yields c call) (spooled rs)
      (rs.filter (·.isSent c)) := by
  induction rs with
  | nil => exact .nil
  | cons r rs ih =>
    obtain ⟨hr, hrest⟩ := List.forall_mem_cons.1 h
    rw [← List.singleton_append, spooled_append, List.filter_append]
    exact List.rel_append (forall₂_spooled_singleton hr) (ih hrest)

end Record

namespace RoutingContext

variable {σ : Type} {c : RoutingContext}

theorem done_of_mem_records (h : Handler σ) (s : σ) (step : Step σ) :
    ∀ r ∈ c.records h s step, r.Done c := by
  cases step with
  | operation op =>
    intro r hr
    rw [List.mem_singleton.1 hr]
    exact op.done_of_ends (Routine.ends_trace_result h (op.perform c) s)
  | change f => exact fun r hr => absurd hr List.not_mem_nil

/-- Every operation of every run does its task. -/
theorem done_of_mem_history (h : Handler σ) (steps : List (Step σ)) (s : σ) :
    ∀ r ∈ c.history h steps s, r.Done c := by
  induction steps generalizing s with
  | nil => exact fun r hr => absurd hr List.not_mem_nil
  | cons step rest ih =>
    exact List.forall_mem_append.2 ⟨done_of_mem_records h s step, ih (c.next h s step)⟩

end RoutingContext

/-! ### Runs at a site -/

/-- What happens at a site. -/
inductive SiteEvent where
  | operation (op : Operation)
  /-- Somebody takes a mail out of the spool. -/
  | dequeue
  /-- Something that leaves the queues as they are: a service goes down or comes back, the time goes
  on, there are other settings. -/
  | elsewhere (f : Site → Site) (keeps : ∀ s, (f s).queues = s.queues)

namespace SiteEvent

/-- The step of a run that an event is. -/
def step (c : RoutingContext) : SiteEvent → Step Site
  | .operation op => .operation op
  | .dequeue => .change fun s => (s.dequeue c.spool).2
  | .elsewhere f _ => .change f

/-- The mail that an event takes out of the spool, if any. -/
def takes (c : RoutingContext) (s : Site) : SiteEvent → List Mail
  | .dequeue => (s.dequeue c.spool).1.toList
  | _ => []

end SiteEvent

namespace RoutingContext

/-- The operations of a run at a site, in order. -/
def siteHistory (c : RoutingContext) (events : List SiteEvent) (s : Site) : List Record :=
  c.history Site.handler (events.map (·.step c)) s

/-- The site after a run. -/
def siteAfter (c : RoutingContext) (events : List SiteEvent) (s : Site) : Site :=
  (events.map (·.step c)).foldl (c.next Site.handler) s

/-- The mails that were taken out of the spool in a run, in order. -/
def taken (c : RoutingContext) : List SiteEvent → Site → List Mail
  | [], _ => []
  | event :: rest, s => event.takes c s ++ c.taken rest (c.next Site.handler s (event.step c))

variable {c : RoutingContext}

/-- What the spool takes in an event comes behind what it held before, and what somebody takes out
of it goes. -/
theorem parted_next (event : SiteEvent) (s : Site) :
    Parted (event.takes c s) ((c.next Site.handler s (event.step c)).holds c.spool)
      (s.holds c.spool ++ (spooled (c.records Site.handler s (event.step c))).map (·.mail)) := by
  cases event with
  | operation op =>
    have hdone := op.done_of_ends (Routine.ends_trace_result Site.handler (op.perform c) s)
    have hholds := Site.holds_run (op.perform c) s c.spool
    rw [acceptedMails_eq_map hdone.queue_eq] at hholds
    have hspooled : spooled (c.records Site.handler s (.operation op)) =
        accepted (calls ((op.perform c).trace Site.handler s)) :=
      congrArg accepted (List.append_nil _)
    show Parted [] (((op.perform c).run Site.handler s).2.holds c.spool)
      (s.holds c.spool ++ (spooled (c.records Site.handler s (.operation op))).map (·.mail))
    rw [hspooled, ← hholds]
    exact .refl _
  | dequeue =>
    show Parted (s.dequeue c.spool).1.toList ((s.dequeue c.spool).2.holds c.spool)
      (s.holds c.spool ++ [])
    rw [List.append_nil]
    exact s.parted_dequeue c.spool
  | elsewhere f keeps =>
    show Parted [] ((f s).holds c.spool) (s.holds c.spool ++ [])
    rw [List.append_nil, Site.holds_of_queues_eq (keeps s)]
    exact .refl _

/-- In a run at a site no mail of the spool is lost and none is doubled. -/
theorem parted_siteAfter (events : List SiteEvent) (s : Site) :
    Parted (c.taken events s) ((c.siteAfter events s).holds c.spool)
      (s.holds c.spool ++ (spooled (c.siteHistory events s)).map (·.mail)) := by
  induction events generalizing s with
  | nil =>
    show Parted [] (s.holds c.spool) (s.holds c.spool ++ [])
    rw [List.append_nil]
    exact .refl _
  | cons event rest ih =>
    have hsplit : spooled (c.siteHistory (event :: rest) s) =
        spooled (c.records Site.handler s (event.step c)) ++
          spooled (c.siteHistory rest (c.next Site.handler s (event.step c))) :=
      spooled_append _ _
    rw [hsplit, List.map_append, ← List.append_assoc]
    exact (parted_next event s).trans (ih (c.next Site.handler s (event.step c)))

/-! ### Every run -/

/-- **Exactly once.** Whatever answers, and whatever happens between the operations of a run, each
operation does its task: it calls the spool once, or not at all if there is nobody to answer or a
message cannot be read, and it passes on what the queue answered. So the mails that the spool took
are those of the operations that say so, in order and once each, and they bear the note of the
context. An error of the queue that is passed on says the same as before. At a site, the mails taken
out of the spool and those left in it, in their order, are those that it held before and those that
it took. -/
theorem dispatch_exactly_once {σ : Type} (c : RoutingContext) (h : Handler σ)
    (steps : List (Step σ)) (s : σ) (events : List SiteEvent) (site : Site) :
    (∀ r ∈ c.history h steps s, r.Done c) ∧
    List.Forall₂ (fun call r => (r.operation.task c).Yields c call)
      (spooled (c.history h steps s)) ((c.history h steps s).filter (·.isSent c)) ∧
    (∀ call ∈ spooled (c.history h steps s),
      call.mail.attributes.get? Dispatch.sentMark = some "true") ∧
    (∀ (op : Operation) (e : QueueError), (op.refusal e).message = e.message) ∧
    Parted (c.taken events site) ((c.siteAfter events site).holds c.spool)
      (site.holds c.spool ++ (spooled (c.siteHistory events site)).map (·.mail)) := by
  have hdone := c.done_of_mem_history h steps s
  have hspooled := Record.forall₂_spooled hdone
  have hmarked := (List.forall₂_and_left _ _).1
    (hspooled.imp fun call r hyields => ⟨r.operation.marked_of_yields hyields, hyields⟩)
  exact ⟨hdone, hspooled, hmarked.1, Operation.message_refusal, parted_siteAfter events site⟩

/-- A run at a site whose spool has room for one mail. -/
def crowdedRun : List SiteEvent :=
  [.operation (.sendMail { name := "a" }),
    .operation (.sendMailDelayed { name := "b" } ⟨1, .hours⟩),
    .operation (.bounce { name := "c", sender := .null } "Mailbox full"),
    .dequeue,
    .elsewhere (·.takeDown .queues) fun _ => rfl,
    .operation (.sendMail { name := "d" }),
    .elsewhere (·.bringUp .queues) fun _ => rfl,
    .operation (.sendMailWithState { name := "e" } ⟨"sorted"⟩)]

-- the second mail finds the queue full, the third is not answered, the fourth finds it down
example :
    let c : RoutingContext := { config := {}, postmaster := ⟨"postmaster", .localhost, rfl⟩ }
    let site : Site := { queues := { config := { capacity := some 1 } } }
    (c.siteHistory crowdedRun site).map (fun r => (r.calls.length, r.answer)) =
        [(1, .ok ()), (1, .error (.queue (.full "spool" 1))), (0, .ok ()),
          (1, .error (.queue (.unavailable "spool" "queue is down"))), (1, .ok ())] ∧
      (spooled (c.siteHistory crowdedRun site)).map (·.mail.name) = ["a", "e"] ∧
      (c.taken crowdedRun site).map (·.name) = ["a"] := by
  exact ⟨rfl, rfl, rfl⟩

end RoutingContext

end MailRouting
