import MailRouting.Proofs.Context.Operation

/-!
# Work that keeps to some queues

Some names are given. Work at a site keeps to their queues if it sets no other queue, and if its
answer and these queues would be the same with other queues in place of all the others.

* `QueueStore.ChangedOn`, `Site.SameOn` — only queues of these names were set, or are the same;
* `Site.KeepsTo` — work that keeps to the queues of these names;
* `KeepsTo.bind`, `KeepsTo.looking`, `KeepsTo.setting` — such work is made of such work;
* `Site.onQueue`, `keepsTo_onQueue` — what is done with one queue keeps to it;
* `Request.On`, `keepsTo_perform` — and so does a routine that asks about these queues only.
-/

namespace MailRouting

variable {on : String → Prop} {name : String}

/-! ### Two stores, and two sites -/

/-- What a store becomes if queues of some names are set, and no others. -/
inductive QueueStore.ChangedOn (on : String → Prop) (s : QueueStore) : QueueStore → Prop
  | refl : ChangedOn on s s
  | set {s' : QueueStore} {name : String} (h : ChangedOn on s s') (hname : on name)
    (q : MailQueue) : ChangedOn on s (s'.set name q)

namespace QueueStore.ChangedOn

variable {s s' s'' : QueueStore}

theorem trans (h : ChangedOn on s s') (h' : ChangedOn on s' s'') : ChangedOn on s s'' := by
  induction h' with
  | refl => exact h
  | set _ hname q ih => exact ih.set hname q

theorem config_eq (h : ChangedOn on s s') : s'.config = s.config := by
  induction h with
  | refl => rfl
  | set _ _ _ ih => exact ih

/-- The queues of the other names are as they were. -/
theorem queue_eq (h : ChangedOn on s s') (hname : ¬ on name) : s'.queue name = s.queue name := by
  induction h with
  | refl => rfl
  | set _ hset _ ih =>
    rw [queue_set, if_neg, ih]
    rintro rfl
    exact hname hset

theorem mem_names (h : ChangedOn on s s') (hname : name ∈ s.names) : name ∈ s'.names := by
  induction h with
  | refl => exact hname
  | set _ _ _ ih => exact mem_names_set.2 (.inr ih)

/-- No name comes in but these. -/
theorem on_or_mem_names (h : ChangedOn on s s') (hname : name ∈ s'.names) :
    on name ∨ name ∈ s.names := by
  induction h with
  | refl => exact .inr hname
  | set _ hset _ ih =>
    rcases mem_names_set.1 hname with rfl | hname
    · exact .inl hset
    · exact ih hname

/-- Where one queue may be set, no name comes in but that of this queue. -/
theorem mem_names_iff {only : String} (h : ChangedOn (· = only) s s') :
    name ∈ s'.names ↔ name ∈ s.names ∨ name = only ∧ only ∈ s'.names := by
  constructor
  · intro hname
    rcases h.on_or_mem_names hname with rfl | hbefore
    · exact .inr ⟨rfl, hname⟩
    · exact .inl hbefore
  · rintro (hname | ⟨rfl, hname⟩)
    · exact h.mem_names hname
    · exact hname

theorem pairwise_names (h : ChangedOn on s s') (hs : s.names.Pairwise (· < ·)) :
    s'.names.Pairwise (· < ·) := by
  induction h with
  | refl => exact hs
  | set _ _ _ ih => exact pairwise_names_set ih _ _

theorem eq_of_forall_not (h : ChangedOn on s s') (hon : ∀ name, ¬ on name) : s' = s := by
  cases h with
  | refl => rfl
  | set _ hset _ => exact absurd hset (hon _)

end QueueStore.ChangedOn

namespace Site

/-- Two sites that differ in the queues of other names at most. -/
def SameOn (on : String → Prop) (s t : Site) : Prop :=
  ∃ queues, t = { s with queues } ∧ ∀ name, on name → queues.queue name = s.queues.queue name

/-! ### Work -/

variable {α β ε : Type}

/-- Work that sets no queues but those of some names, and looks at no others. -/
structure KeepsTo (on : String → Prop) (w : Site → α × Site) : Prop where
  changedOn (s : Site) : s.queues.ChangedOn on (w s).2.queues
  answer_eq {s t : Site} : SameOn on s t → (w t).1 = (w s).1
  sameOn {s t : Site} : SameOn on s t → SameOn on (w s).2 (w t).2

namespace KeepsTo

variable {w : Site → α × Site}

/-- The queues that are kept to become the same. -/
theorem queue_eq {s t : Site} (h : KeepsTo on w) (hst : SameOn on s t) (hname : on name) :
    (w t).2.queues.queue name = (w s).2.queues.queue name := by
  obtain ⟨queues, heq, hsame⟩ := h.sameOn hst
  rw [heq]
  exact hsame name hname

/-- Work that has nothing to do with queues keeps to any. -/
theorem of_apart
    (h : ∀ s queues, w { s with queues } = ((w s).1, { (w s).2 with queues })) :
    KeepsTo on w := by
  have hqueues (s : Site) : (w s).2.queues = s.queues := congrArg (·.2.queues) (h s s.queues)
  constructor
  case changedOn =>
    intro s
    rw [hqueues]
    exact .refl
  case answer_eq =>
    rintro s _ ⟨queues, rfl, _⟩
    rw [h s queues]
  case sameOn =>
    rintro s _ ⟨queues, rfl, hsame⟩
    rw [h s queues]
    exact ⟨queues, rfl, fun name hname => by rw [hsame name hname, hqueues]⟩

/-- Work that is done one after the other. -/
theorem bind {f : α → Site → β × Site} (h : KeepsTo on w) (hrest : ∀ a, KeepsTo on (f a)) :
    KeepsTo on fun s => f (w s).1 (w s).2 where
  changedOn s := (h.changedOn s).trans ((hrest _).changedOn _)
  answer_eq hst := by rw [h.answer_eq hst, (hrest _).answer_eq (h.sameOn hst)]
  sameOn hst := by
    rw [h.answer_eq hst]
    exact (hrest _).sameOn (h.sameOn hst)

/-- Work whose answer is put in another way. -/
theorem map (f : α → β) (h : KeepsTo on w) : KeepsTo on fun s => (f (w s).1, (w s).2) :=
  h.bind (f := fun a s => (f a, s)) fun _ => of_apart fun _ _ => rfl

/-- Work after something that has nothing to do with queues. -/
theorem after {g : Site → Site} (hg : ∀ s queues, g { s with queues } = { g s with queues })
    (h : KeepsTo on w) : KeepsTo on fun s => w (g s) :=
  bind (w := fun s => ((), g s)) (of_apart fun s queues => Prod.ext rfl (hg s queues)) fun _ => h

/-- Work that depends on something which has nothing to do with queues. -/
theorem reading {γ : Type} {g : Site → γ} (hg : ∀ s queues, g { s with queues } = g s)
    {f : γ → Site → α × Site} (h : ∀ c, KeepsTo on (f c)) :
    KeepsTo on fun s => f (g s) s :=
  bind (w := fun s => (g s, s)) (of_apart fun s queues => Prod.ext (hg s queues) rfl) h

/-- Work that depends on a queue. -/
theorem looking (hname : on name) {f : MailQueue → Site → α × Site}
    (h : ∀ q, KeepsTo on (f q)) : KeepsTo on fun s => f (s.queues.queue name) s := by
  refine bind (w := fun s => (s.queues.queue name, s)) ⟨fun _ => .refl, ?_, id⟩ h
  rintro s _ ⟨queues, rfl, hsame⟩
  exact hsame name hname

/-- Work that ends with a queue being set. -/
theorem setting (hname : on name) (a : α) (q : MailQueue) :
    KeepsTo on fun s => (a, { s with queues := s.queues.set name q }) := by
  refine ⟨fun _ => .set .refl hname q, fun _ => rfl, ?_⟩
  rintro s _ ⟨queues, rfl, hsame⟩
  refine ⟨_, rfl, fun other hother => ?_⟩
  rw [QueueStore.queue_set, QueueStore.queue_set, hsame other hother]

/-- What a service answers, be it up or down. -/
theorem serve {f : Site → Except ε α × Site} (service : Service) (outage : ε)
    (h : KeepsTo on f) : KeepsTo on fun s => s.serve service outage f := by
  refine after (g := (·.count service)) (fun _ _ => rfl)
    (w := fun s => if s.isDown service then (.error outage, s) else f s) ?_
  refine reading (g := (·.isDown service)) (fun _ _ => rfl)
    (f := fun down s => if down then (.error outage, s) else f s) fun down => ?_
  cases down with
  | true => exact of_apart fun _ _ => rfl
  | false => exact h

end KeepsTo

end Site

/-! ### What is done with one queue -/

/-- The answer of a queue to a mail that is offered, and the queue after that. -/
def MailQueue.offer (now : Nat) (mail : Mail) (delay : Option Delay) (q : MailQueue) :
    Except QueueError Unit × MailQueue :=
  match q.push now mail delay with
  | .ok q' => (.ok (), q')
  | .error e => (.error e, q)

/-- The oldest mail of a queue that is ready, if any, and the queue without it. -/
def MailQueue.take (now : Nat) (q : MailQueue) : Option Mail × MailQueue :=
  match q.dequeue now with
  | some (mail, q') => (some mail, q')
  | none => (none, q)

namespace Site

/-- Does something with the queue of a name. -/
def onQueue (name : String) (f : MailQueue → α × MailQueue) (s : Site) : α × Site :=
  ((f (s.queues.queue name)).1,
    { s with queues := s.queues.set name (f (s.queues.queue name)).2 })

theorem dequeue_eq_onQueue (s : Site) (name : String) :
    s.dequeue name = s.onQueue name (MailQueue.take s.now) := by
  unfold dequeue QueueStore.dequeue onQueue MailQueue.take
  cases (s.queues.queue name).dequeue s.now <;> rfl

/-- A mail that a queue takes is noted in the log. -/
theorem pushMail_eq_onQueue (s : Site) (name : String) (mail : Mail) (delay : Option Delay) :
    s.pushMail name mail delay =
      let (answer, t) := s.onQueue name (MailQueue.offer s.now mail delay)
      (answer, t.noteEvents (if answer.isOk then [queuedEvent name mail delay] else [])) := by
  unfold pushMail QueueStore.push onQueue MailQueue.offer
  cases (s.queues.queue name).push s.now mail delay with
  | ok q => rfl
  | error e =>
    refine Prod.ext rfl ?_
    show _ = Site.noteEvents _ []
    rw [noteEvents, List.map_nil, List.append_nil]
    rfl

theorem keepsTo_onQueue (hname : on name) (f : Nat → MailQueue → α × MailQueue) :
    KeepsTo on fun s => s.onQueue name (f s.now) := by
  refine .reading (g := (·.now)) (fun _ _ => rfl) (f := fun now => onQueue name (f now)) ?_
  intro now
  exact .looking hname (f := fun q s =>
    ((f now q).1, { s with queues := s.queues.set name (f now q).2 }))
    fun q => .setting hname (f now q).1 (f now q).2

theorem keepsTo_queue (hname : on name) : KeepsTo on (·.queue name) :=
  keepsTo_onQueue hname fun _ q => (q, q)

theorem keepsTo_dequeue (hname : on name) : KeepsTo on (·.dequeue name) := by
  simp only [dequeue_eq_onQueue]
  exact keepsTo_onQueue hname MailQueue.take

theorem keepsTo_clear (hname : on name) :
    KeepsTo on fun s => ((), { s with queues := s.queues.clear name }) :=
  keepsTo_onQueue hname fun _ q => ((), q.clear)

theorem keepsTo_pushMail (hname : on name) (mail : Mail) (delay : Option Delay) :
    KeepsTo on (·.pushMail name mail delay) := by
  simp only [pushMail_eq_onQueue]
  refine (keepsTo_onQueue hname fun now => MailQueue.offer now mail delay).bind
    (f := fun answer t =>
      (answer, t.noteEvents (if answer.isOk then [queuedEvent name mail delay] else []))) ?_
  exact fun answer => .of_apart fun _ _ => rfl

theorem keepsTo_takeMail (hname : on name) (mail : Mail) (delay : Option Delay) :
    KeepsTo on (·.takeMail name mail delay) :=
  .serve .queues _ <| .after (g := fun s =>
    { s with queueCalls := s.queueCalls ++ [⟨name, mail, delay⟩] }) (fun _ _ => rfl)
      (keepsTo_pushMail hname mail delay)

end Site

/-! ### Routines -/

/-- The request is about none but these queues, or about no queue at all. -/
def Request.On (on : String → Prop) : Request → Prop
  | .createQueue name => on name
  | .enqueue queue _ => on queue
  | .enqueueDelayed queue _ _ => on queue
  | _ => True

namespace Site

theorem keepsTo_answer {r : Request} (h : r.On on) : KeepsTo on (answer r) := by
  cases r with
  | containsDomain d =>
    show KeepsTo on (·.containsDomain d)
    exact .serve .domains domainsOutage (.of_apart fun _ _ => rfl)
  | defaultDomain =>
    show KeepsTo on defaultDomain
    exact .serve .domains domainsOutage (.of_apart fun _ _ => rfl)
  | containsUser p =>
    show KeepsTo on (·.containsUser p)
    exact .serve .users usersOutage (.of_apart fun _ _ => rfl)
  | principalFor a =>
    show KeepsTo on (·.contextPrincipal a)
    refine .reading (g := (·.fullAddressPrincipals)) (fun _ _ => rfl)
      (f := fun full s => if full then (.ok (.ofAddress a), s) else s.principalFor a) fun full => ?_
    cases full with
    | true => exact .of_apart fun _ _ => rfl
    | false =>
      show KeepsTo on (·.principalFor a)
      exact .serve .users usersOutage (.of_apart fun _ _ => rfl)
  | resolvedMappings localPart d kinds =>
    show KeepsTo on (·.resolvedMappings localPart d kinds)
    exact .serve .mappings mappingsOutage (.of_apart fun _ _ => rfl)
  | createQueue queue =>
    refine (keepsTo_onQueue h fun _ q => ((), q)).bind (f := fun a s =>
      (a, { s with requestedQueues := s.requestedQueues ++ [queue] })) ?_
    exact fun _ => .of_apart fun _ _ => rfl
  | enqueue queue mail => exact keepsTo_takeMail h mail none
  | enqueueDelayed queue mail delay => exact keepsTo_takeMail h mail (some delay)
  | freshId => exact .of_apart fun _ _ => rfl
  | currentTime => exact .of_apart fun _ _ => rfl

/-- A routine keeps to the queues that it asks about on any course. -/
theorem keepsTo_perform {α : Type} {p : Routine α} (h : p.AsksOnly (Request.On on)) :
    KeepsTo on (·.perform p) := by
  induction p with
  | done a => exact .of_apart fun _ _ => rfl
  | ask r next ih => exact (keepsTo_answer h.1).bind fun a => ih a (h.2 a)
  | note e next ih => exact .after (g := note e) (fun _ _ => rfl) (ih h)

end Site

end MailRouting
