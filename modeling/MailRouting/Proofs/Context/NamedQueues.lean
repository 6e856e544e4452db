import MailRouting.Proofs.Context.Spool

/-!
# Queues by name, and who uses them

One store of queues is used by many: contexts are made with it and dispatch into it, and others ask
it for a queue and look at it, fill it, empty it. All that is not a queue may be anything each time:
the time, the identifiers, the domains and the users, and which services are up.

* `QueueUse`, `UseAnswer`, `Moment` — what is done, what is answered, and where it is done;
* `QueueUse.keepsTo_perform`, `QueueUse.mem_names_perform_iff` — what is done keeps to the queue of
  one name, and that name comes in if it is asked for;
* `NamedQueues.run`, `NamedQueues.history` — a run, and what was answered in it;
* `NamedQueues.AgreesOn.run_filter` — what a run leaves and answers under a name is what the run of
  that name alone does;
* `NamedQueues.Kept.run` — the names after a run.
-/

namespace MailRouting

/-! ### What is done with queues -/

/-- What can be done with a queue that was asked for. -/
inductive QueueAction where
  | look
  | push (mail : Mail) (delay : Option Delay)
  | dequeue
  | clear

/-- What can be done with the queues of a store. -/
inductive QueueUse where
  | create (config : ContextConfig)
  | dispatch (context : RoutingContext) (op : Operation)
  /-- Somebody who has no context asks for a queue and does something with it. -/
  | call (queue : String) (action : QueueAction)

/-- What is answered. -/
inductive UseAnswer where
  | created (answer : Except ContextError RoutingContext)
  | dispatched (answer : Except Refusal Unit)
  /-- No such context was made. -/
  | noContext
  | seen (queue : MailQueue)
  | pushed (answer : Except QueueError Unit)
  | taken (mail : Option Mail)
  | cleared

/-- The context that was made, if one was. -/
def UseAnswer.context? : UseAnswer → Option RoutingContext
  | .created (.ok c) => some c
  | _ => none

namespace QueueUse

/-- The name that it is addressed to. -/
def name : QueueUse → String
  | .create config => config.spoolQueue
  | .dispatch c _ => c.spool
  | .call queue _ => queue

/-- What it comes to at a site. -/
def perform (use : QueueUse) (s : Site) : UseAnswer × Site :=
  match use with
  | .create config =>
    let (answer, s) := s.perform (RoutingContext.create config).run
    (.created answer, s)
  | .dispatch c op =>
    let (answer, s) := s.perform (op.perform c)
    (.dispatched answer, s)
  | .call queue .look =>
    let (q, s) := s.queue queue
    (.seen q, s)
  | .call queue (.push mail delay) =>
    let (answer, s) := s.pushMail queue mail delay
    (.pushed answer, s)
  | .call queue .dequeue =>
    let (mail, s) := s.dequeue queue
    (.taken mail, s)
  | .call queue .clear => (.cleared, { s with queues := s.queues.clear queue })

/-- Whatever is done, it keeps to the queue of the name that it is addressed to. -/
theorem keepsTo_perform {on : String → Prop} {use : QueueUse} (h : on use.name) :
    Site.KeepsTo on use.perform := by
  cases use with
  | create config =>
    exact (Site.keepsTo_perform (RoutingContext.asksOnly_create h)).map UseAnswer.created
  | dispatch c op => exact (Site.keepsTo_perform (op.asksOnly_perform h)).map UseAnswer.dispatched
  | call queue action =>
    cases action with
    | look => exact (Site.keepsTo_queue h).map UseAnswer.seen
    | push mail delay => exact (Site.keepsTo_pushMail h mail delay).map UseAnswer.pushed
    | dequeue => exact (Site.keepsTo_dequeue h).map UseAnswer.taken
    | clear => exact (Site.keepsTo_clear h).map fun _ => UseAnswer.cleared

/-- The name that the store was asked for: by a context that was made, or by somebody else. -/
def asked? : QueueUse → UseAnswer → Option String
  | .create config, .created (.ok _) => some config.spoolQueue
  | .call queue _, _ => some queue
  | _, _ => none

/-- A context that was made has the spool that was asked for. -/
theorem spool_of_made {use : QueueUse} {s : Site} {c : RoutingContext}
    (h : (use.perform s).1.context? = some c) :
    c.spool = use.name ∧ use.asked? (use.perform s).1 = some c.spool := by
  cases use with
  | create config =>
    rcases RoutingContext.perform_create_cases config s with
      ⟨e, t, hperform, _⟩ | ⟨c', t, hperform, rfl, _⟩
    · rw [perform, hperform] at h
      cases h
    · rw [perform, hperform] at h ⊢
      cases h
      exact ⟨rfl, rfl⟩
  | dispatch c op => cases h
  | call queue action => cases action <;> cases h

theorem asked?_create_of_not_made {config : ContextConfig} {answer : UseAnswer}
    (h : answer.context? = none) : (create config).asked? answer = none := by
  cases answer with
  | created answer =>
    cases answer with
    | ok c => cases h
    | error e => rfl
  | _ => rfl

/-- A queue that somebody asks for is there. -/
theorem mem_names_perform_call (queue : String) (action : QueueAction) (s : Site) :
    queue ∈ ((call queue action).perform s).2.queues.names := by
  cases action with
  | look => exact QueueStore.mem_names_set.2 (.inl rfl)
  | push mail delay =>
    show queue ∈ (s.pushMail queue mail delay).2.queues.names
    rw [Site.pushMail_eq_onQueue]
    exact QueueStore.mem_names_set.2 (.inl rfl)
  | dequeue =>
    show queue ∈ (s.dequeue queue).2.queues.names
    rw [Site.dequeue_eq_onQueue]
    exact QueueStore.mem_names_set.2 (.inl rfl)
  | clear => exact QueueStore.mem_names_set.2 (.inl rfl)

/-- A name comes in if it is asked for, and in no other way where the spools of contexts are
there. -/
theorem mem_names_perform_iff {use : QueueUse} {s : Site} {name : String}
    (hspool : ∀ c op, use = .dispatch c op → c.spool ∈ s.queues.names) :
    name ∈ (use.perform s).2.queues.names ↔
      name ∈ s.queues.names ∨ use.asked? (use.perform s).1 = some name := by
  have hkeeps : Site.KeepsTo (· = use.name) use.perform := keepsTo_perform rfl
  have hnames : name ∈ (use.perform s).2.queues.names ↔ _ := (hkeeps.changedOn s).mem_names_iff
  cases use with
  | create config =>
    rcases RoutingContext.perform_create_cases config s with
      ⟨e, t, hperform, hqueues⟩ | ⟨c, t, hperform, _, hqueues⟩
    · rw [perform, hperform]
      dsimp only
      rw [hqueues]
      exact (or_iff_left nofun).symm
    · rw [perform, hperform]
      dsimp only
      rw [hqueues, QueueStore.ensure, QueueStore.mem_names_set, or_comm]
      exact or_congr_right ⟨fun h => h ▸ rfl, fun h => (Option.some.inj h).symm⟩
  | dispatch c op =>
    have hthere := hspool c op rfl
    constructor
    · intro h
      rcases hnames.1 h with hname | ⟨rfl, _⟩
      · exact .inl hname
      · exact .inl hthere
    · rintro (hname | hname)
      · exact hnames.2 (.inl hname)
      · cases hname
  | call queue action =>
    refine hnames.trans (or_congr_right ⟨fun h => h.1 ▸ rfl, fun h => ?_⟩)
    exact ⟨(Option.some.inj h).symm, mem_names_perform_call queue action s⟩

end QueueUse

/-! ### Runs -/

/-- Something that is done, at a site whose queues do not matter. -/
structure Moment where
  around : Site
  use : QueueUse

/-- The name that it is addressed to. -/
def Moment.name (m : Moment) : String :=
  m.use.name

/-- A store of queues and the contexts that were made with it. -/
structure NamedQueues where
  queues : QueueStore
  contexts : List RoutingContext := []

namespace NamedQueues

/-- No queue was asked for, and no context made. -/
def ofConfig (config : QueueConfig) : NamedQueues :=
  { queues := { config } }

/-- Whether it can be done: who dispatches needs a context that was made. -/
def allows (x : NamedQueues) : QueueUse → Bool
  | .dispatch c _ => c ∈ x.contexts
  | _ => true

/-- The site with the queues of the store. -/
def site (x : NamedQueues) (m : Moment) : Site :=
  { m.around with queues := x.queues }

/-- What is answered, and what becomes of the store and the contexts. -/
def step (x : NamedQueues) (m : Moment) : UseAnswer × NamedQueues :=
  if x.allows m.use then
    let (answer, s) := m.use.perform (x.site m)
    (answer, { queues := s.queues, contexts := x.contexts ++ answer.context?.toList })
  else (.noContext, x)

/-- What a run leaves. -/
def run (x : NamedQueues) : List Moment → NamedQueues
  | [] => x
  | m :: rest => (x.step m).2.run rest

/-- What was done in a run, and what was answered, in order. -/
def history (x : NamedQueues) : List Moment → List (Moment × UseAnswer)
  | [] => []
  | m :: rest => (m, (x.step m).1) :: (x.step m).2.history rest

variable {x y z : NamedQueues} {m : Moment} {name : String}

theorem step_of_allows (h : x.allows m.use = true) :
    x.step m = ((m.use.perform (x.site m)).1,
      { queues := (m.use.perform (x.site m)).2.queues,
        contexts := x.contexts ++ (m.use.perform (x.site m)).1.context?.toList }) :=
  if_pos h

theorem step_of_not_allows (h : x.allows m.use = false) : x.step m = (.noContext, x) :=
  if_neg (ne_true_of_eq_false h)

/-! ### The part of one name -/

/-- The queue of a name is the same, and so are the contexts that dispatch into it. -/
structure AgreesOn (name : String) (x y : NamedQueues) : Prop where
  queue_eq : x.queues.queue name = y.queues.queue name
  mem_contexts_iff : ∀ c : RoutingContext, c.spool = name → (c ∈ x.contexts ↔ c ∈ y.contexts)

namespace AgreesOn

theorem refl (x : NamedQueues) : AgreesOn name x x :=
  ⟨rfl, fun _ _ => .rfl⟩

theorem trans (h : AgreesOn name x y) (h' : AgreesOn name y z) : AgreesOn name x z :=
  ⟨h.queue_eq.trans h'.queue_eq,
    fun c hc => (h.mem_contexts_iff c hc).trans (h'.mem_contexts_iff c hc)⟩

theorem allows_eq (h : AgreesOn m.name x y) : x.allows m.use = y.allows m.use := by
  obtain ⟨around, use⟩ := m
  cases use with
  | create config => rfl
  | dispatch c op => exact decide_eq_decide.2 (h.mem_contexts_iff c rfl)
  | call queue action => rfl

/-- What is done under a name comes to the same where the part of that name is the same. -/
theorem step (h : AgreesOn m.name x y) :
    (x.step m).1 = (y.step m).1 ∧ AgreesOn m.name (x.step m).2 (y.step m).2 := by
  cases hx : x.allows m.use with
  | false =>
    rw [step_of_not_allows hx, step_of_not_allows (h.allows_eq ▸ hx)]
    exact ⟨rfl, h⟩
  | true =>
    rw [step_of_allows hx, step_of_allows (h.allows_eq ▸ hx)]
    have hsites : Site.SameOn (· = m.use.name) (x.site m) (y.site m) :=
      ⟨y.queues, rfl, fun name hname => hname ▸ h.queue_eq.symm⟩
    have hkeeps : Site.KeepsTo (· = m.use.name) m.use.perform := QueueUse.keepsTo_perform rfl
    have hanswer := hkeeps.answer_eq hsites
    refine ⟨hanswer.symm, (hkeeps.queue_eq hsites rfl).symm, fun c hc => ?_⟩
    rw [hanswer, List.mem_append, List.mem_append, h.mem_contexts_iff c hc]

end AgreesOn

/-- What is done under another name leaves the part of a name as it is. -/
theorem agreesOn_step_of_ne (h : m.name ≠ name) (x : NamedQueues) :
    AgreesOn name (x.step m).2 x := by
  cases hx : x.allows m.use with
  | false =>
    rw [step_of_not_allows hx]
    exact .refl x
  | true =>
    rw [step_of_allows hx]
    have hkeeps : Site.KeepsTo (· = m.use.name) m.use.perform := QueueUse.keepsTo_perform rfl
    refine ⟨(hkeeps.changedOn (x.site m)).queue_eq h.symm, fun c hc => ?_⟩
    rw [List.mem_append, or_iff_left]
    intro hmade
    exact h ((QueueUse.spool_of_made (Option.mem_toList.1 hmade)).1.symm.trans hc)

/-- **One name at a time.** What a run leaves under a name, and what is answered to what is done
under it, is what the run of these alone leaves and answers. -/
theorem AgreesOn.run_filter (h : AgreesOn name x y) (ms : List Moment) :
    AgreesOn name (x.run ms) (y.run (ms.filter (·.name = name))) ∧
      (x.history ms).filter (·.1.name = name) = y.history (ms.filter (·.name = name)) := by
  induction ms generalizing x y with
  | nil => exact ⟨h, rfl⟩
  | cons m ms ih =>
    by_cases hname : m.name = name
    · subst hname
      obtain ⟨hanswer, hnext⟩ := h.step
      obtain ⟨hrun, hhistory⟩ := ih hnext
      rw [List.filter_cons_of_pos (by simp)]
      refine ⟨hrun, ?_⟩
      rw [history, history, List.filter_cons_of_pos (by simp), hanswer, hhistory]
    · obtain ⟨hrun, hhistory⟩ := ih ((agreesOn_step_of_ne hname x).trans h)
      rw [List.filter_cons_of_neg (by simpa using hname)]
      refine ⟨hrun, ?_⟩
      rw [history, List.filter_cons_of_neg (by simpa using hname), hhistory]

/-! ### The names -/

/-- The names that the store was asked for in a run, in order. -/
def askedNames (history : List (Moment × UseAnswer)) : List String :=
  history.filterMap fun e => e.1.use.asked? e.2

/-- The names stand in strict order, and the spool of every context is among them. -/
structure Kept (x : NamedQueues) : Prop where
  pairwise_names : x.queues.names.Pairwise (· < ·)
  spool_mem_names : ∀ c ∈ x.contexts, c.spool ∈ x.queues.names

theorem kept_ofConfig (config : QueueConfig) : (ofConfig config).Kept :=
  ⟨.nil, nofun⟩

/-- What is not done asks for nothing. -/
theorem asked?_noContext (use : QueueUse) (h : x.allows use = false) :
    use.asked? .noContext = none := by
  cases use with
  | call queue action => cases h
  | _ => rfl

/-- A name comes in with a step if it is asked for. -/
theorem Kept.mem_names_step_iff (hx : x.Kept) :
    name ∈ (x.step m).2.queues.names ↔
      name ∈ x.queues.names ∨ m.use.asked? (x.step m).1 = some name := by
  cases hallows : x.allows m.use with
  | false =>
    rw [step_of_not_allows hallows, asked?_noContext m.use hallows]
    exact (or_iff_left nofun).symm
  | true =>
    rw [step_of_allows hallows]
    refine QueueUse.mem_names_perform_iff (s := x.site m) fun c op huse => ?_
    rw [huse] at hallows
    exact hx.spool_mem_names c (of_decide_eq_true hallows)

theorem Kept.step (hx : x.Kept) (m : Moment) : (x.step m).2.Kept := by
  cases hallows : x.allows m.use with
  | false =>
    rw [step_of_not_allows hallows]
    exact hx
  | true =>
    have hkeeps : Site.KeepsTo (· = m.use.name) m.use.perform := QueueUse.keepsTo_perform rfl
    refine ⟨?_, fun c hc => hx.mem_names_step_iff.2 ?_⟩
    · rw [step_of_allows hallows]
      exact (hkeeps.changedOn (x.site m)).pairwise_names hx.pairwise_names
    · rw [step_of_allows hallows] at hc ⊢
      rcases List.mem_append.1 hc with hbefore | hmade
      · exact .inl (hx.spool_mem_names c hbefore)
      · exact .inr (QueueUse.spool_of_made (Option.mem_toList.1 hmade)).2

/-- After a run the names stand in strict order, and they are those that were there before and those
that were asked for. -/
theorem Kept.run (hx : x.Kept) (ms : List Moment) :
    (x.run ms).Kept ∧ ∀ name, name ∈ (x.run ms).queues.names ↔
      name ∈ x.queues.names ∨ name ∈ askedNames (x.history ms) := by
  induction ms generalizing x with
  | nil => exact ⟨hx, fun name => (or_iff_left nofun).symm⟩
  | cons m ms ih =>
    obtain ⟨hkept, hnames⟩ := ih (hx.step m)
    refine ⟨hkept, fun name => ?_⟩
    have hasked : name ∈ askedNames (x.history (m :: ms)) ↔
        m.use.asked? (x.step m).1 = some name ∨ name ∈ askedNames ((x.step m).2.history ms) := by
      rw [askedNames, askedNames, history, List.filterMap_cons]
      dsimp only
      cases m.use.asked? (x.step m).1 with
      | none => exact (or_iff_right nofun).symm
      | some queue => rw [List.mem_cons, Option.some.injEq, eq_comm]
    rw [hasked, ← or_assoc, ← hx.mem_names_step_iff]
    exact hnames name

end NamedQueues

end MailRouting
