import MailRouting.Proofs.Context.Operation

/-!
# What the queues of a site hold

* `Parted` — what was taken out of a list and what is left of it;
* `MailQueue.mails_of_push`, `parted_of_dequeue` — a mail is added at the end, or one is taken out;
* `accepted` — the calls that queues took, among some calls;
* `Site.holds_answer`, `Site.holds_run` — one request, and a whole routine, add to a queue the mails
  that it took, and nothing else;
* `Site.parted_dequeue` — taking a mail out of a queue.
-/

namespace MailRouting

open Routine (Exchange)

/-! ### Taking out of a list -/

/-- A list consists of what was taken out of it and what is left, which stands in its old order. -/
structure Parted {α : Type} (taken left all : List α) : Prop where
  perm : (taken ++ left).Perm all
  sublist : left.Sublist all

namespace Parted

variable {α : Type} {taken taken' left left' all : List α}

theorem refl (all : List α) : Parted [] all all :=
  ⟨.refl all, .refl all⟩

/-- Taking out goes on after something was added at the end. -/
theorem trans {added : List α} (h : Parted taken left all)
    (h' : Parted taken' left' (left ++ added)) :
    Parted (taken ++ taken') left' (all ++ added) where
  perm := by
    have hall := h.perm.append_right added
    rw [List.append_assoc] at hall ⊢
    exact (h'.perm.append_left taken).trans hall
  sublist := h'.sublist.trans (h.sublist.append_right added)

end Parted

/-! ### Mails of a queue -/

namespace MailQueue

/-- The mails that a queue holds, in the order in which they came. -/
def mails (q : MailQueue) : List Mail :=
  q.items.map (·.mail)

/-- A mail that a queue takes comes last. -/
theorem mails_of_push {q q' : MailQueue} {now : Nat} {mail : Mail} {delay : Option Delay}
    (h : q.push now mail delay = .ok q') : q'.mails = q.mails ++ [mail] := by
  unfold push at h
  cases hcapacity : q.capacity with
  | none =>
    rw [hcapacity] at h
    cases h
    simp [mails]
  | some capacity =>
    rw [hcapacity] at h
    by_cases hfull : capacity ≤ q.size
    · simp [hfull] at h
    · simp only [hfull, if_false, Except.ok.injEq] at h
      rw [← h]
      simp [mails]

theorem parted_of_takeReady {now : Nat} {items rest : List QueueItem} {item : QueueItem}
    (h : takeReady now items = some (item, rest)) : Parted [item] rest items := by
  induction items generalizing item rest with
  | nil => simp [takeReady] at h
  | cons head items ih =>
    by_cases hready : head.isReady now
    · simp only [takeReady, hready, if_true, Option.some.injEq, Prod.mk.injEq] at h
      obtain ⟨rfl, rfl⟩ := h
      exact ⟨.refl _, List.sublist_cons_self _ _⟩
    · simp only [takeReady, hready] at h
      obtain ⟨⟨found, others⟩, htake, hpair⟩ := Option.map_eq_some_iff.1 h
      obtain ⟨rfl, rfl⟩ := Prod.mk.inj hpair
      have htail := ih htake
      exact ⟨(List.Perm.swap head found others).trans (htail.perm.cons head),
        htail.sublist.cons_cons head⟩

/-- A mail that is taken was held, and the others stay in their order. -/
theorem parted_of_dequeue {q q' : MailQueue} {now : Nat} {mail : Mail}
    (h : q.dequeue now = some (mail, q')) : Parted [mail] q'.mails q.mails := by
  obtain ⟨⟨item, rest⟩, htake, hpair⟩ := Option.map_eq_some_iff.1 h
  obtain ⟨rfl, rfl⟩ := Prod.mk.inj hpair
  have hitems := parted_of_takeReady htake
  exact ⟨hitems.perm.map QueueItem.mail, hitems.sublist.map QueueItem.mail⟩

end MailQueue

/-! ### Calls that a queue took -/

/-- The call, if the queue took its mail. -/
def AnsweredCall.accepted? (x : AnsweredCall) : Option QueueCall :=
  match x.answer with
  | .ok _ => some x.call
  | .error _ => none

/-- The calls that queues took, in order. -/
def accepted (xs : List AnsweredCall) : List QueueCall :=
  xs.filterMap AnsweredCall.accepted?

/-- The mails among them that a queue took. -/
def acceptedMails (name : String) (xs : List AnsweredCall) : List Mail :=
  ((accepted xs).filter (·.queue = name)).map (·.mail)

/-- Where all calls are on one queue, that queue took all that were taken. -/
theorem acceptedMails_eq_map {name : String} {xs : List AnsweredCall}
    (h : ∀ x ∈ xs, x.call.queue = name) : acceptedMails name xs = (accepted xs).map (·.mail) := by
  unfold acceptedMails
  rw [List.filter_eq_self.2]
  intro call hcall
  obtain ⟨x, hx, haccepted⟩ := List.mem_filterMap.1 hcall
  unfold AnsweredCall.accepted? at haccepted
  split at haccepted
  · cases haccepted
    exact decide_eq_true (h x hx)
  · cases haccepted

theorem acceptedMails_append (name : String) (xs ys : List AnsweredCall) :
    acceptedMails name (xs ++ ys) = acceptedMails name xs ++ acceptedMails name ys := by
  simp only [acceptedMails, accepted, List.filterMap_append, List.filter_append, List.map_append]

/-! ### Queues of a site -/

namespace Site

/-- The mails in the queue of a name. -/
def holds (s : Site) (name : String) : List Mail :=
  (s.queues.queue name).mails

theorem holds_of_queues_eq {s t : Site} (h : t.queues = s.queues) (name : String) :
    t.holds name = s.holds name := by
  unfold holds
  rw [h]

/-- What a service answers without touching the queues leaves them as they are. -/
theorem queues_serve {ε α : Type} {s : Site} {service : Service} {outage : ε}
    {f : Site → Except ε α × Site} (h : ∀ t, (f t).2.queues = t.queues) :
    (s.serve service outage f).2.queues = s.queues := by
  unfold serve
  by_cases hdown : (s.count service).isDown service
  · simp only [hdown, if_true]
    rfl
  · simp only [hdown]
    exact h _

theorem holds_pushMail (s : Site) (queue name : String) (mail : Mail) (delay : Option Delay) :
    (s.pushMail queue mail delay).2.holds name =
      s.holds name ++
        acceptedMails name [⟨⟨queue, mail, delay⟩, (s.pushMail queue mail delay).1⟩] := by
  unfold pushMail
  cases hpush : s.queues.push queue s.now mail delay with
  | error e =>
    show (s.queues.ensure queue |>.queue name).mails = s.holds name ++ []
    rw [QueueStore.queue_ensure, List.append_nil]
    rfl
  | ok queues =>
    unfold QueueStore.push at hpush
    cases hq : (s.queues.queue queue).push s.now mail delay with
    | error e => rw [hq] at hpush; cases hpush
    | ok q =>
      rw [hq] at hpush
      cases hpush
      show ((s.queues.set queue q).queue name).mails = _
      rw [QueueStore.queue_set]
      by_cases hname : name = queue
      · rw [if_pos hname, MailQueue.mails_of_push hq]
        simp [acceptedMails, accepted, AnsweredCall.accepted?, holds, hname]
      · rw [if_neg hname]
        simp [acceptedMails, accepted, AnsweredCall.accepted?, holds, Ne.symm hname]

theorem holds_takeMail (s : Site) (queue name : String) (mail : Mail) (delay : Option Delay) :
    (s.takeMail queue mail delay).2.holds name =
      s.holds name ++
        acceptedMails name [⟨⟨queue, mail, delay⟩, (s.takeMail queue mail delay).1⟩] := by
  unfold takeMail serve
  by_cases hdown : (s.count .queues).isDown .queues
  · simp only [hdown, if_true]
    exact (List.append_nil _).symm
  · simp only [hdown]
    exact holds_pushMail _ queue name mail delay

/-- A request adds to a queue the mail that it took with it, if any. -/
theorem holds_answer (r : Request) (s : Site) (name : String) :
    (answer r s).2.holds name =
      s.holds name ++ acceptedMails name (calls [⟨r, (answer r s).1⟩]) := by
  have hother (h : (answer r s).2.queues = s.queues)
      (hr : AnsweredCall.ofExchange? ⟨r, (answer r s).1⟩ = none) :
      (answer r s).2.holds name =
        s.holds name ++ acceptedMails name (calls [⟨r, (answer r s).1⟩]) := by
    rw [holds_of_queues_eq h, calls, List.filterMap_cons, hr]
    exact (List.append_nil _).symm
  cases r with
  | containsDomain d => exact hother (queues_serve fun _ => rfl) rfl
  | defaultDomain => exact hother (queues_serve fun _ => rfl) rfl
  | containsUser p => exact hother (queues_serve fun _ => rfl) rfl
  | principalFor a =>
    refine hother ?_ rfl
    show (s.contextPrincipal a).2.queues = s.queues
    unfold contextPrincipal
    split
    · rfl
    · exact queues_serve fun _ => rfl
  | resolvedMappings localPart d kinds => exact hother (queues_serve fun _ => rfl) rfl
  | createQueue queue =>
    show ((s.queues.ensure queue).queue name).mails = s.holds name ++ []
    rw [QueueStore.queue_ensure, List.append_nil]
    rfl
  | enqueue queue mail => exact holds_takeMail s queue name mail none
  | enqueueDelayed queue mail delay => exact holds_takeMail s queue name mail (some delay)
  | freshId => exact hother rfl rfl
  | currentTime => exact hother rfl rfl

/-- A routine adds to a queue the mails that it took meanwhile, in order. -/
theorem holds_run {α : Type} (p : Routine α) (s : Site) (name : String) :
    (p.run handler s).2.holds name =
      s.holds name ++ acceptedMails name (calls (p.trace handler s)) := by
  induction p generalizing s with
  | done a => exact (List.append_nil _).symm
  | ask r next ih =>
    have hstep := holds_answer r s name
    show ((next (answer r s).1).run handler (answer r s).2).2.holds name = s.holds name ++
      acceptedMails name
        (calls ([⟨r, (answer r s).1⟩] ++ (next (answer r s).1).trace handler (answer r s).2))
    rw [ih, hstep, calls_append, acceptedMails_append, List.append_assoc]
  | note e next ih => exact ih (note e s)

/-- A mail that is taken out of a queue was in it, and the others stay in their order. -/
theorem parted_dequeue (s : Site) (name : String) :
    Parted (s.dequeue name).1.toList ((s.dequeue name).2.holds name) (s.holds name) := by
  unfold dequeue QueueStore.dequeue
  cases hdequeue : (s.queues.queue name).dequeue s.now with
  | none =>
    show Parted [] ((s.queues.ensure name).queue name).mails (s.holds name)
    rw [QueueStore.queue_ensure]
    exact .refl _
  | some found =>
    obtain ⟨mail, q⟩ := found
    show Parted [mail] ((s.queues.set name q).queue name).mails (s.holds name)
    rw [QueueStore.queue_set, if_pos rfl]
    exact MailQueue.parted_of_dequeue hdequeue

end Site

end MailRouting
