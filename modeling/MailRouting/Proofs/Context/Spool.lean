import MailRouting.Proofs.Queue.Locality

/-!
# What a context asks of queues

A context knows one queue, its spool. What is asked for when it is made, and in each of its
operations, whatever the answers are, is about that queue or about none.

* `Operation.asksOnly_perform` — an operation asks about the spool;
* `RoutingContext.asksOnly_findPostmaster`, `asksOnly_checkPostmaster` — what comes before the spool
  is asked for is about no queue;
* `RoutingContext.fst_perform_create` — which context is made depends on no queue;
* `RoutingContext.perform_create_cases` — a context that is made has its spool, and where none is
  made no queue was asked for.
-/

namespace MailRouting

variable {on : String → Prop}

/-! ### Operations -/

namespace RoutingContext

variable {c : RoutingContext}

theorem asksOnly_enqueue (h : on c.spool) (r : Dispatch) :
    (c.enqueue r).AsksOnly (Request.On on) := by
  refine Routine.AsksOnly.inSpan _ ?_
  show (c.handOver r.marked r.delay).AsksOnly (Request.On on)
  cases r.delay with
  | none => exact Routine.asksOnly_request (r := .enqueue c.spool r.marked) h
  | some delay => exact Routine.asksOnly_request (r := .enqueueDelayed c.spool r.marked delay) h

theorem asksOnly_sendReport (h : on c.spool) (mail : Mail) (sender : Address)
    (explanation : String) (bouncer : Address) :
    (c.sendReport mail sender explanation bouncer).AsksOnly (Request.On on) := by
  unfold sendReport
  cases DeliveryReport.ofMail mail sender explanation bouncer c.config.reportingHost with
  | error cause => trivial
  | ok report =>
    refine ⟨trivial, fun id => ⟨trivial, fun date => ?_⟩⟩
    exact (asksOnly_enqueue h _).bind fun _ => trivial

theorem asksOnly_bounceAs (h : on c.spool) (mail : Mail) (explanation : String)
    (bouncer : Option Address) :
    (c.bounceAs mail explanation bouncer).AsksOnly (Request.On on) := by
  refine Routine.AsksOnly.inSpan _ ?_
  cases mail.sender.address? with
  | none => trivial
  | some sender => exact asksOnly_sendReport h mail sender explanation _

theorem asksOnly_sendMessageToWithState (h : on c.spool) (sender : ReversePath)
    (recipients : List Address) (message : Message) (state : State) :
    (c.sendMessageToWithState sender recipients message state).AsksOnly (Request.On on) :=
  ⟨trivial, fun _ => (asksOnly_enqueue h _).bind fun _ => trivial⟩

theorem asksOnly_sendMessage (h : on c.spool) (message : Message) :
    (c.sendMessage message).AsksOnly (Request.On on) := by
  unfold sendMessage
  split
  · trivial
  · exact asksOnly_sendMessageToWithState h _ _ message .root

end RoutingContext

/-- Every operation asks about no queue but the spool. -/
theorem Operation.asksOnly_perform {c : RoutingContext} (h : on c.spool) (op : Operation) :
    (op.perform c).AsksOnly (Request.On on) := by
  cases op with
  | enqueue r => exact .map _ (c.asksOnly_enqueue h r)
  | sendMail mail => exact .map _ (c.asksOnly_enqueue h _)
  | sendMailWithState mail state => exact .map _ (c.asksOnly_enqueue h _)
  | sendMailDelayed mail delay => exact .map _ (c.asksOnly_enqueue h _)
  | sendMailWithStateDelayed mail state delay => exact .map _ (c.asksOnly_enqueue h _)
  | sendMessage message => exact .map _ (c.asksOnly_sendMessage h message)
  | sendMessageTo sender recipients message =>
    exact .map _ (c.asksOnly_sendMessageToWithState h sender recipients message .root)
  | sendMessageToWithState sender recipients message state =>
    exact .map _ (c.asksOnly_sendMessageToWithState h sender recipients message state)
  | bounce mail explanation => exact .map _ (c.asksOnly_bounceAs h mail explanation none)
  | bounceAs mail explanation bouncer =>
    exact .map _ (c.asksOnly_bounceAs h mail explanation bouncer)

/-! ### Making a context -/

namespace RoutingContext

theorem asksOnly_findPostmaster (config : ContextConfig) :
    (findPostmaster config).run.AsksOnly (Request.On on) := by
  unfold findPostmaster
  cases config.postmaster with
  | some value => trivial
  | none =>
    refine ⟨trivial, fun answer => ?_⟩
    cases answer with
    | error e => trivial
    | ok d => trivial

theorem asksOnly_checkPostmaster (postmaster : Address) :
    (checkPostmaster postmaster).AsksOnly (Request.On on) := by
  refine ⟨trivial, fun answer => ?_⟩
  cases answer with
  | error e => trivial
  | ok found => cases found <;> trivial

/-- A context that is made asks for its spool. -/
theorem asksOnly_create {config : ContextConfig} (h : on config.spoolQueue) :
    (create config).run.AsksOnly (Request.On on) := by
  unfold create
  split
  · trivial
  · show ((findPostmaster config).run >>= ExceptT.bindCont _).AsksOnly (Request.On on)
    refine (asksOnly_findPostmaster config).bind fun answer => ?_
    cases answer with
    | error e => trivial
    | ok postmaster =>
      show ((Except.ok <$> checkPostmaster postmaster) >>= ExceptT.bindCont _).AsksOnly _
      refine ((asksOnly_checkPostmaster postmaster).map _).bind fun answer => ?_
      cases answer with
      | error e => trivial
      | ok _ => exact ⟨h, fun _ => trivial⟩

variable {α β ε : Type}

/-- Work that may fail goes on from where its first part ends. -/
theorem perform_bind (p : ExceptT ε Routine α) (f : α → ExceptT ε Routine β) (s : Site) :
    s.perform (p >>= f).run = match s.perform p.run with
      | (.ok a, t) => t.perform (f a).run
      | (.error e, t) => (.error e, t) := by
  show (p.run >>= ExceptT.bindCont f).run Site.handler s = _
  rw [Routine.run_bind, Site.perform, Routine.result]
  generalize p.run.run Site.handler s = r
  obtain ⟨_ | _, t⟩ := r <;> rfl

theorem perform_lift_bind (p : Routine α) (f : α → ExceptT ε Routine β) (s : Site) :
    s.perform ((liftM p : ExceptT ε Routine α) >>= f).run =
      (s.perform p).2.perform (f (s.perform p).1).run := by
  rw [perform_bind]
  have hlift : s.perform (liftM p : ExceptT ε Routine α).run =
      (.ok (s.perform p).1, (s.perform p).2) := by
    show (p >>= fun a => Routine.done (Except.ok a)).run Site.handler s = _
    rw [Routine.run_bind]
    rfl
  rw [hlift]

/-- A routine that asks about no queue leaves them all as they are. -/
theorem queues_perform_of_apart {p : Routine α} (h : p.AsksOnly (Request.On fun _ => False))
    (s : Site) : (s.perform p).2.queues = s.queues :=
  ((Site.keepsTo_perform h).changedOn s).eq_of_forall_not fun _ => id

/-- Whether a context is made, and which one, does not depend on queues. -/
theorem fst_perform_create (config : ContextConfig) (s : Site) :
    (s.perform (create config).run).1 =
      if (Text.trim config.spoolQueue.toList).isEmpty then .error .blankSpoolQueue
      else (s.perform (findPostmaster config).run).1.map fun postmaster =>
        { config, postmaster } := by
  unfold create
  split
  · rfl
  · rw [perform_bind]
    generalize s.perform (findPostmaster config).run = r
    obtain ⟨e | postmaster, t⟩ := r
    · rfl
    · dsimp only
      rw [perform_lift_bind]
      rfl

theorem fst_perform_create_congr (config : ContextConfig) (s : Site) (queues : QueueStore) :
    (Site.perform { s with queues } (create config).run).1 =
      (s.perform (create config).run).1 := by
  have hfind := (Site.keepsTo_perform (asksOnly_findPostmaster config)).answer_eq
    (show Site.SameOn (fun _ => False) s { s with queues } from ⟨queues, rfl, nofun⟩)
  rw [fst_perform_create, fst_perform_create, hfind]

/-- Either no context is made, and no queue, or a context with its spool, which is made if it is
not there. -/
theorem perform_create_cases (config : ContextConfig) (s : Site) :
    (∃ e t, s.perform (create config).run = (.error e, t) ∧ t.queues = s.queues) ∨
      ∃ c t, s.perform (create config).run = (.ok c, t) ∧ c.config = config ∧
        t.queues = s.queues.ensure config.spoolQueue := by
  unfold create
  by_cases hblank : (Text.trim config.spoolQueue.toList).isEmpty
  · rw [if_pos hblank]
    exact .inl ⟨_, s, rfl, rfl⟩
  · rw [if_neg hblank, perform_bind]
    have hfind := queues_perform_of_apart (asksOnly_findPostmaster config) s
    generalize s.perform (findPostmaster config).run = r at hfind
    obtain ⟨e | postmaster, t⟩ := r
    · exact .inl ⟨e, t, rfl, hfind⟩
    · dsimp only at hfind ⊢
      have hcheck := queues_perform_of_apart (asksOnly_checkPostmaster postmaster) t
      rw [perform_lift_bind]
      refine .inr ⟨_, _, rfl, rfl, ?_⟩
      show (t.perform (checkPostmaster postmaster)).2.queues.ensure config.spoolQueue = _
      rw [hcheck, hfind]

end RoutingContext

end MailRouting
