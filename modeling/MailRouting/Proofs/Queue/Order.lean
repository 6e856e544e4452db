import MailRouting.Queue

/-!
# Order in a queue

A queue is watched while mail is queued and taken out: a book numbers every item that the queue
took, in the order in which they came, and notes the numbers of those that left it.

* `QueueEvent`, `QueueBook`, `WatchedQueue.run` — what happens to a queue, the book, and a run;
* `MailQueue.push_eq_error_iff`, `dequeue_eq_none_iff`, `dequeue_eq_some_iff` — when a mail is
  refused, and which one is taken out;
* `QueueItem.isReady_of_le`, `QueueItem.readyTime_of_undelayed` — a ready item stays ready, and one
  without delay is ready at once;
* `WatchedQueue.InOrder` — the items that are held are those of the book that did not leave;
* `WatchedQueue.order_is_kept` — so it is in every run.
-/

namespace MailRouting

/-! ### One call -/

namespace QueueItem

/-- What is ready stays ready. -/
theorem isReady_of_le {item : QueueItem} {now later : Nat} (h : item.isReady now = true)
    (hle : now ≤ later) : item.isReady later = true := by
  rw [isReady, decide_eq_true_eq] at h ⊢
  exact Nat.le_trans h hle

/-- The item was queued without a delay, or with a delay of nothing. -/
def Undelayed (item : QueueItem) : Prop :=
  ∀ d, item.delay = some d → d.amount = 0

theorem toNanoseconds_of_amount_eq_zero {d : Delay} (h : d.amount = 0) :
    d.duration.toNanoseconds = 0 := by
  obtain ⟨amount, unit⟩ := d
  cases h
  cases unit <;> rfl

/-- A mail that is not held back is ready when it is queued. -/
theorem readyTime_of_undelayed {delay : Option Delay} (h : ∀ d, delay = some d → d.amount = 0)
    (now : Nat) : readyTime now delay = now := by
  have hwait : (delay.map fun d => d.duration.toNanoseconds).getD 0 = 0 := by
    cases delay with
    | none => rfl
    | some d => exact toNanoseconds_of_amount_eq_zero (h d rfl)
  have hcentury : 0 < century := by decide
  unfold readyTime
  rw [hwait]
  dsimp only
  split
  · rfl
  · rw [if_neg (by omega)]

end QueueItem

namespace MailQueue

variable {q q' : MailQueue} {now : Nat} {mail : Mail} {delay : Option Delay}

/-- A mail is refused exactly if there is a capacity and that many items are held. -/
theorem push_eq_error_iff {e : QueueError} :
    q.push now mail delay = .error e ↔
      ∃ n, q.capacity = some n ∧ n ≤ q.size ∧ e = .full q.name n := by
  unfold push
  cases hcapacity : q.capacity with
  | none => exact iff_of_false nofun fun ⟨_, h, _⟩ => nomatch h
  | some n =>
    dsimp only
    by_cases hfull : n ≤ q.size
    · rw [if_pos hfull, Except.error.injEq]
      constructor
      · rintro rfl
        exact ⟨n, rfl, hfull, rfl⟩
      · rintro ⟨_, ⟨⟩, _, rfl⟩
        rfl
    · rw [if_neg hfull]
      exact iff_of_false nofun fun ⟨_, h, hle, _⟩ => hfull (Option.some.inj h ▸ hle)

/-- A mail that is not refused comes last. -/
theorem push_eq_ok_iff :
    q.push now mail delay = .ok q' ↔ (∀ n, q.capacity = some n → q.size < n) ∧
      q' = { q with items := q.items ++ [⟨mail, delay, QueueItem.readyTime now delay⟩] } := by
  unfold push
  cases hcapacity : q.capacity with
  | none =>
    rw [Except.ok.injEq, and_iff_right nofun]
    exact eq_comm
  | some n =>
    dsimp only
    by_cases hfull : n ≤ q.size
    · rw [if_pos hfull]
      exact iff_of_false nofun fun h => Nat.not_lt_of_le hfull (h.1 n rfl)
    · rw [if_neg hfull, Except.ok.injEq, and_iff_right]
      · exact eq_comm
      · rintro _ ⟨⟩
        exact Nat.lt_of_not_le hfull

theorem takeReady_eq_none_iff {items : List QueueItem} :
    takeReady now items = none ↔ ∀ item ∈ items, item.isReady now = false := by
  induction items with
  | nil => exact iff_of_true rfl nofun
  | cons item items ih =>
    rw [takeReady, List.forall_mem_cons]
    by_cases hready : item.isReady now = true
    · rw [if_pos hready, hready]
      exact iff_of_false nofun fun h => nomatch h.1
    · rw [if_neg hready, Option.map_eq_none_iff, ih, Bool.eq_false_iff]
      exact (and_iff_right hready).symm

/-- What is taken is ready, and nothing before it is. -/
theorem takeReady_eq_some_iff {items rest : List QueueItem} {item : QueueItem} :
    takeReady now items = some (item, rest) ↔
      ∃ before after, items = before ++ item :: after ∧ rest = before ++ after ∧
        item.isReady now = true ∧ ∀ x ∈ before, x.isReady now = false := by
  induction items generalizing rest with
  | nil => exact iff_of_false nofun fun ⟨before, _, h, _⟩ => by cases before <;> cases h
  | cons head items ih =>
    rw [takeReady]
    by_cases hready : head.isReady now = true
    · rw [if_pos hready, Option.some.injEq, Prod.mk.injEq]
      constructor
      · rintro ⟨rfl, rfl⟩
        exact ⟨[], items, rfl, rfl, hready, nofun⟩
      · rintro ⟨before, after, hitems, rfl, _, hbefore⟩
        cases before with
        | nil =>
          obtain ⟨rfl, rfl⟩ := List.cons.inj hitems
          exact ⟨rfl, rfl⟩
        | cons x before =>
          obtain ⟨rfl, _⟩ := List.cons.inj hitems
          rw [hbefore head List.mem_cons_self] at hready
          cases hready
    · rw [if_neg hready, Option.map_eq_some_iff]
      constructor
      · rintro ⟨⟨found, others⟩, htake, hpair⟩
        obtain ⟨rfl, rfl⟩ := Prod.mk.inj hpair
        obtain ⟨before, after, rfl, rfl, hfound, hbefore⟩ := ih.1 htake
        refine ⟨head :: before, after, rfl, rfl, hfound, List.forall_mem_cons.2 ⟨?_, hbefore⟩⟩
        exact Bool.eq_false_iff.2 hready
      · rintro ⟨before, after, hitems, rfl, hitem, hbefore⟩
        cases before with
        | nil =>
          obtain ⟨rfl, rfl⟩ := List.cons.inj hitems
          exact absurd hitem hready
        | cons x before =>
          obtain ⟨rfl, rfl⟩ := List.cons.inj hitems
          have hrest := (List.forall_mem_cons.1 hbefore).2
          exact ⟨(item, before ++ after), ih.2 ⟨before, after, rfl, rfl, hitem, hrest⟩, rfl⟩

/-- Nothing is taken out exactly if nothing that is held is ready. -/
theorem dequeue_eq_none_iff :
    q.dequeue now = none ↔ ∀ item ∈ q.items, item.isReady now = false := by
  rw [dequeue, Option.map_eq_none_iff, takeReady_eq_none_iff]

/-- The mail that is taken out is the oldest one that is ready, and no other one goes. -/
theorem dequeue_eq_some_iff :
    q.dequeue now = some (mail, q') ↔
      ∃ before item after, q.items = before ++ item :: after ∧ item.isReady now = true ∧
        (∀ x ∈ before, x.isReady now = false) ∧ mail = item.mail ∧
          q' = { q with items := before ++ after } := by
  rw [dequeue, Option.map_eq_some_iff]
  constructor
  · rintro ⟨⟨item, rest⟩, htake, hpair⟩
    obtain ⟨rfl, rfl⟩ := Prod.mk.inj hpair
    obtain ⟨before, after, hitems, rfl, hitem, hbefore⟩ := takeReady_eq_some_iff.1 htake
    exact ⟨before, item, after, hitems, hitem, hbefore, rfl, rfl⟩
  · rintro ⟨before, item, after, hitems, hitem, hbefore, rfl, rfl⟩
    exact ⟨(item, before ++ after),
      takeReady_eq_some_iff.2 ⟨before, after, hitems, rfl, hitem, hbefore⟩, rfl⟩

end MailQueue

/-! ### Events and the book -/

/-- What happens to a queue. -/
inductive QueueEvent where
  | enqueue (mail : Mail)
  | enqueueDelayed (mail : Mail) (delay : Delay)
  | dequeue
  | clear

/-- The book of a queue: the items that it took, the first one being number 0, and the numbers of
those that left it. -/
structure QueueBook where
  accepted : List QueueItem := []
  dequeued : List Nat := []
  cleared : List Nat := []

namespace QueueBook

/-- The numbers of the items that left. -/
def gone (b : QueueBook) : List Nat :=
  b.dequeued ++ b.cleared

/-- The items that did not leave, with their numbers. -/
def held (b : QueueBook) : List (QueueItem × Nat) :=
  b.accepted.zipIdx.filter fun p => p.2 ∉ b.gone

/-- The mail of a number. -/
def mail? (b : QueueBook) (i : Nat) : Option Mail :=
  b.accepted[i]?.map (·.mail)

/-- An item came. -/
def accept (b : QueueBook) (item : QueueItem) : QueueBook :=
  { b with accepted := b.accepted ++ [item] }

/-- The oldest item that was ready at time `now` was taken out. -/
def dequeue (b : QueueBook) (now : Nat) : QueueBook :=
  match b.held.find? fun p => p.1.isReady now with
  | some (_, i) => { b with dequeued := b.dequeued ++ [i] }
  | none => b

/-- All that was held was dropped. -/
def clear (b : QueueBook) : QueueBook :=
  { b with cleared := b.cleared ++ b.held.map (·.2) }

end QueueBook

/-- A queue, its book, and the mails that were taken out of it, in order. -/
structure WatchedQueue where
  queue : MailQueue
  book : QueueBook := {}
  delivered : List Mail := []

namespace WatchedQueue

/-- A mail was offered at time `now`; the answer is the queue with it, or a refusal. -/
def offer (w : WatchedQueue) (now : Nat) (mail : Mail) (delay : Option Delay) :
    Except QueueError MailQueue → WatchedQueue
  | .ok queue =>
    { w with queue, book := w.book.accept ⟨mail, delay, QueueItem.readyTime now delay⟩ }
  | .error _ => w

/-- What an event at time `now` leaves behind. -/
def next (w : WatchedQueue) (now : Nat) : QueueEvent → WatchedQueue
  | .enqueue mail => w.offer now mail none (w.queue.enqueue now mail)
  | .enqueueDelayed mail delay =>
    w.offer now mail (some delay) (w.queue.enqueueDelayed now mail delay)
  | .dequeue =>
    match w.queue.dequeue now with
    | some (mail, queue) => ⟨queue, w.book.dequeue now, w.delivered ++ [mail]⟩
    | none => w
  | .clear => { w with queue := w.queue.clear, book := w.book.clear }

/-- What a run of events, each at its time, leaves of an empty queue. -/
def run (name : String) (config : QueueConfig) (events : List (Nat × QueueEvent)) : WatchedQueue :=
  events.foldl (fun w e => w.next e.1 e.2) ⟨.ofConfig name config, {}, []⟩

end WatchedQueue

/-! ### What is held -/

namespace QueueBook

variable {b : QueueBook}

theorem mem_held_iff {item : QueueItem} {i : Nat} :
    (item, i) ∈ b.held ↔ b.accepted[i]? = some item ∧ i ∉ b.gone := by
  rw [held, List.mem_filter, List.mem_zipIdx_iff_getElem?, decide_eq_true_eq]

/-- What is held stands in the order of its numbers. -/
theorem pairwise_held (b : QueueBook) : b.held.Pairwise fun p p' => p.2 < p'.2 := by
  refine List.Pairwise.filter _ ?_
  rw [← List.pairwise_map (f := Prod.snd) (R := (· < ·)), List.zipIdx_map_snd]
  exact List.pairwise_lt_range'

/-- An item that comes is held, behind all others. -/
theorem held_accept (h : ∀ i ∈ b.gone, i < b.accepted.length) (item : QueueItem) :
    (b.accept item).held = b.held ++ [(item, b.accepted.length)] := by
  have hnew : b.accepted.length ∉ b.gone := fun hmem => Nat.lt_irrefl _ (h _ hmem)
  have hgone : (b.accept item).gone = b.gone := rfl
  rw [held, hgone, accept, List.zipIdx_append, List.filter_append, held]
  simp [hnew]

/-- The item that is taken out is held no longer. -/
theorem held_dequeue {now : Nat} {item : QueueItem} {i : Nat}
    {before after : List (QueueItem × Nat)}
    (h : b.held = before ++ (item, i) :: after) (hitem : item.isReady now = true)
    (hbefore : ∀ p ∈ before, p.1.isReady now = false) :
    b.dequeue now = { b with dequeued := b.dequeued ++ [i] } ∧
      (b.dequeue now).held = before ++ after := by
  have hfind : (b.held.find? fun p => p.1.isReady now) = some (item, i) :=
    List.find?_eq_some_iff_append.2 ⟨hitem, before, after, h, fun p hp => by simp [hbefore p hp]⟩
  have hdequeue : b.dequeue now = { b with dequeued := b.dequeued ++ [i] } := by
    rw [dequeue, hfind]
  refine ⟨hdequeue, ?_⟩
  -- no other item has the number
  have hpairwise := b.pairwise_held
  rw [h, List.pairwise_append, List.pairwise_cons] at hpairwise
  obtain ⟨_, ⟨hafter, _⟩, hcross⟩ := hpairwise
  have hsplit : (b.dequeue now).held = b.held.filter fun p => p.2 ≠ i := by
    rw [hdequeue, held, held, List.filter_filter]
    refine List.filter_congr fun p _ => ?_
    simp only [gone, List.mem_append, List.mem_singleton, ← Bool.decide_and]
    exact decide_eq_decide.2 (by grind)
  rw [hsplit, h, List.filter_append, List.filter_cons_of_neg (by simp),
    List.filter_eq_self.2, List.filter_eq_self.2]
  · exact fun p hp => decide_eq_true (Nat.ne_of_gt (hafter p hp))
  · exact fun p hp => decide_eq_true (Nat.ne_of_lt (hcross p hp _ List.mem_cons_self))

theorem held_clear (b : QueueBook) : b.clear.held = [] := by
  rw [held, List.filter_eq_nil_iff]
  rintro ⟨item, i⟩ hmem
  rw [decide_eq_true_eq, Decidable.not_not]
  have haccepted : b.accepted[i]? = some item := List.mem_zipIdx_iff_getElem?.1 hmem
  by_cases hgone : i ∈ b.gone
  · rcases List.mem_append.1 hgone with hd | hc
    · exact List.mem_append_left _ hd
    · exact List.mem_append_right _ (List.mem_append_left _ hc)
  · exact List.mem_append_right _ (List.mem_append_right _
      (List.mem_map_of_mem (f := Prod.snd) (mem_held_iff.2 ⟨haccepted, hgone⟩)))

end QueueBook

/-! ### The queue and its book -/

namespace WatchedQueue

variable {w : WatchedQueue} {config : QueueConfig}

/-- The queue and its book agree. Each number left at most once, either taken out or dropped. -/
structure InOrder (config : QueueConfig) (w : WatchedQueue) : Prop where
  capacity_eq : w.queue.capacity = config.capacity
  size_le : ∀ n, config.capacity = some n → w.queue.size ≤ n
  items_eq : w.queue.items = w.book.held.map (·.1)
  gone_lt : ∀ i ∈ w.book.gone, i < w.book.accepted.length
  nodup_gone : w.book.gone.Nodup
  delivered_eq : w.delivered.map some = w.book.dequeued.map w.book.mail?

theorem mail?_accept {b : QueueBook} {i : Nat} (h : i < b.accepted.length) (item : QueueItem) :
    (b.accept item).mail? i = b.mail? i := by
  rw [QueueBook.mail?, QueueBook.mail?, QueueBook.accept, List.getElem?_append_left h]

theorem InOrder.offer (h : w.InOrder config) (now : Nat) (mail : Mail) (delay : Option Delay) :
    (w.offer now mail delay (w.queue.push now mail delay)).InOrder config := by
  cases hpush : w.queue.push now mail delay with
  | error e => exact h
  | ok q =>
    obtain ⟨hroom, rfl⟩ := MailQueue.push_eq_ok_iff.1 hpush
    rw [h.capacity_eq] at hroom
    refine ⟨h.capacity_eq, fun n hn => ?_, ?_, fun i hi => ?_, h.nodup_gone, ?_⟩
    · show (w.queue.items ++ [_]).length ≤ n
      rw [List.length_append]
      exact hroom n hn
    · show w.queue.items ++ [_] = (w.book.accept _).held.map (·.1)
      rw [QueueBook.held_accept h.gone_lt, List.map_append, ← h.items_eq]
      rfl
    · show i < (w.book.accepted ++ [_]).length
      rw [List.length_append]
      exact Nat.lt_add_right 1 (h.gone_lt i hi)
    · show w.delivered.map some = w.book.dequeued.map (w.book.accept _).mail?
      rw [h.delivered_eq]
      exact List.map_congr_left fun i hi =>
        (mail?_accept (h.gone_lt i (List.mem_append_left _ hi)) _).symm

theorem InOrder.dequeue (h : w.InOrder config) (now : Nat) :
    (w.next now .dequeue).InOrder config := by
  unfold next
  dsimp only
  split
  · rename_i mail q hdequeue
    obtain ⟨before, item, after, hitems, hitem, hbefore, rfl, rfl⟩ :=
      MailQueue.dequeue_eq_some_iff.1 hdequeue
    -- the same cut through the numbered items
    rw [h.items_eq, List.map_eq_append_iff] at hitems
    obtain ⟨before, rest, hheld, rfl, hrest⟩ := hitems
    obtain ⟨⟨item, i⟩, after, rfl, rfl, rfl⟩ := List.map_eq_cons_iff.1 hrest
    have hi : w.book.accepted[i]? = some item ∧ i ∉ w.book.gone :=
      QueueBook.mem_held_iff.1 (hheld ▸ List.mem_append_right _ List.mem_cons_self)
    obtain ⟨hbook, hleft⟩ :=
      QueueBook.held_dequeue hheld hitem fun p hp => hbefore _ (List.mem_map_of_mem hp)
    have hperm : (w.book.dequeue now).gone.Perm (i :: w.book.gone) := by
      rw [hbook]
      show (w.book.dequeued ++ [i] ++ w.book.cleared).Perm _
      rw [List.append_assoc]
      exact List.perm_middle
    refine ⟨h.capacity_eq, fun n hn => ?_, ?_, fun j hj => ?_, ?_, ?_⟩
    · have hsize : w.queue.items.length ≤ n := h.size_le n hn
      rw [h.items_eq, hheld] at hsize
      show (before.map (·.1) ++ after.map (·.1)).length ≤ n
      simp only [List.length_map, List.length_append, List.length_cons] at hsize ⊢
      omega
    · show before.map (·.1) ++ after.map (·.1) = (w.book.dequeue now).held.map (·.1)
      rw [hleft, List.map_append]
    · rw [show (w.book.dequeue now).accepted = w.book.accepted by rw [hbook]]
      rcases List.mem_cons.1 (hperm.mem_iff.1 hj) with rfl | hj
      · exact (List.getElem?_eq_some_iff.1 hi.1).1
      · exact h.gone_lt j hj
    · exact hperm.nodup_iff.2 (List.nodup_cons.2 ⟨hi.2, h.nodup_gone⟩)
    · show (w.delivered ++ [item.mail]).map some = _
      have hmail : w.book.mail? i = some item.mail := by rw [QueueBook.mail?, hi.1]; rfl
      rw [hbook, List.map_append, h.delivered_eq, List.map_append, List.map_singleton,
        List.map_singleton, ← hmail]
      rfl
  · exact h

theorem InOrder.clear (h : w.InOrder config) (now : Nat) : (w.next now .clear).InOrder config := by
  have hmem {i : Nat} (hi : i ∈ w.book.held.map (·.2)) :
      i < w.book.accepted.length ∧ i ∉ w.book.gone := by
    obtain ⟨⟨item, j⟩, hp, rfl⟩ := List.mem_map.1 hi
    obtain ⟨haccepted, hgone⟩ := QueueBook.mem_held_iff.1 hp
    exact ⟨(List.getElem?_eq_some_iff.1 haccepted).1, hgone⟩
  have hgone : w.book.clear.gone = w.book.gone ++ w.book.held.map (·.2) :=
    (List.append_assoc ..).symm
  refine ⟨h.capacity_eq, fun n _ => Nat.zero_le n, ?_, fun i hi => ?_, ?_, h.delivered_eq⟩
  · show [] = w.book.clear.held.map (·.1)
    rw [QueueBook.held_clear]
    rfl
  · rcases List.mem_append.1 (hgone ▸ hi) with hi | hi
    · exact h.gone_lt i hi
    · exact (hmem hi).1
  · show w.book.clear.gone.Nodup
    rw [hgone, List.nodup_append]
    refine ⟨h.nodup_gone, ?_, fun i hi j hj hij => (hmem hj).2 (hij ▸ hi)⟩
    exact (List.pairwise_map.2 w.book.pairwise_held).imp Nat.ne_of_lt

/-- Whatever happens to a queue, it goes on to agree with its book. -/
theorem InOrder.next (h : w.InOrder config) (now : Nat) (event : QueueEvent) :
    (w.next now event).InOrder config := by
  cases event with
  | enqueue mail => exact h.offer now mail none
  | enqueueDelayed mail delay => exact h.offer now mail (some delay)
  | dequeue => exact h.dequeue now
  | clear => exact h.clear now

theorem inOrder_ofConfig (name : String) (config : QueueConfig) :
    InOrder config ⟨.ofConfig name config, {}, []⟩ :=
  ⟨rfl, fun n _ => Nat.zero_le n, rfl, nofun, .nil, rfl⟩

theorem inOrder_foldl (h : w.InOrder config) (events : List (Nat × QueueEvent)) :
    (events.foldl (fun w e => w.next e.1 e.2) w).InOrder config := by
  induction events generalizing w with
  | nil => exact h
  | cons e events ih => exact ih (h.next e.1 e.2)

/-! ### Items without delay -/

/-- What holds of all items of the book goes on to hold if it holds of every item that may come. -/
theorem forall_accepted_next {P : QueueItem → Prop} (h : ∀ item ∈ w.book.accepted, P item) {t : Nat}
    (hnew : ∀ mail delay, P ⟨mail, delay, QueueItem.readyTime t delay⟩) (event : QueueEvent) :
    ∀ item ∈ (w.next t event).book.accepted, P item := by
  have hoffer (mail : Mail) (delay : Option Delay) (r : Except QueueError MailQueue) :
      ∀ item ∈ (w.offer t mail delay r).book.accepted, P item := by
    cases r with
    | error e => exact h
    | ok q =>
      intro item hitem
      rcases List.mem_append.1 hitem with hold | hlast
      · exact h item hold
      · rw [List.mem_singleton.1 hlast]
        exact hnew mail delay
  cases event with
  | enqueue mail => exact hoffer mail none _
  | enqueueDelayed mail delay => exact hoffer mail (some delay) _
  | clear => exact h
  | dequeue =>
    unfold next
    dsimp only
    split
    · show ∀ item ∈ (w.book.dequeue t).accepted, P item
      unfold QueueBook.dequeue
      split <;> exact h
    · exact h

/-- While the clock does not go back, an item without delay is ready. -/
theorem undelayed_foldl {now : Nat}
    (h : ∀ item ∈ w.book.accepted, item.Undelayed → item.isReady now = true)
    {events : List (Nat × QueueEvent)} (hle : ∀ e ∈ events, e.1 ≤ now) :
    ∀ item ∈ (events.foldl (fun w e => w.next e.1 e.2) w).book.accepted,
      item.Undelayed → item.isReady now = true := by
  induction events generalizing w with
  | nil => exact h
  | cons e events ih =>
    obtain ⟨he, hrest⟩ := List.forall_mem_cons.1 hle
    refine ih (forall_accepted_next h (fun mail delay hnone => ?_) e.2) hrest
    rw [QueueItem.isReady, decide_eq_true_eq]
    show QueueItem.readyTime e.1 delay ≤ now
    rwa [QueueItem.readyTime_of_undelayed hnone]

/-! ### The order of what is taken out -/

/-- An item that another one overtakes is not ready at that moment. -/
theorem not_isReady_of_overtaken {now i j : Nat} {item : QueueItem}
    (hheld : (item, i) ∈ w.book.held)
    (hlt : i < j) (hnext : (w.next now .dequeue).book.dequeued = w.book.dequeued ++ [j]) :
    item.isReady now = false := by
  have hself {x : Nat} (h : w.book.dequeued = w.book.dequeued ++ [x]) : False := by
    have hlength := congrArg List.length h
    rw [List.length_append, List.length_singleton] at hlength
    omega
  unfold next at hnext
  dsimp only at hnext
  split at hnext
  · replace hnext : (w.book.dequeue now).dequeued = w.book.dequeued ++ [j] := hnext
    unfold QueueBook.dequeue at hnext
    split at hnext
    · rename_i found k hfind
      obtain rfl : k = j := List.singleton_inj.1 (List.append_cancel_left hnext)
      obtain ⟨_, before, after, hcut, hbefore⟩ := List.find?_eq_some_iff_append.1 hfind
      have hpairwise := w.book.pairwise_held
      rw [hcut, List.pairwise_append, List.pairwise_cons] at hpairwise
      rw [hcut, List.mem_append, List.mem_cons] at hheld
      rcases hheld with hmem | hmem | hmem
      · simpa using hbefore _ hmem
      · exact absurd (Prod.mk.inj hmem).2 (Nat.ne_of_lt hlt)
      · exact absurd (hpairwise.2.1.1 _ hmem) (Nat.not_lt_of_lt hlt)
    · exact (hself hnext).elim
  · exact (hself hnext).elim

/-! ### Every run -/

/-- **First in, first out.** After every run of an empty queue, of any capacity and at any times:
what is held are the items that the queue took, with their delays and in the order in which they
came, without those that were taken out or dropped; each of them left at most once; and the mails
that were taken out are those of the numbers in the book. A mail is refused exactly if the queue has
a capacity and holds that many items, which changes nothing, and it never holds more. What is taken
out next is the oldest item that is ready, or nothing exactly if none is ready, and nothing else
goes; so an item that is overtaken is not ready. What is ready stays ready, and an item without
delay is ready from the start. -/
theorem order_is_kept (name : String) (config : QueueConfig) (events : List (Nat × QueueEvent)) :
    let w := run name config events
    w.InOrder config ∧
    (∀ now mail e,
      (w.queue.enqueue now mail = .error e ↔
        ∃ n, config.capacity = some n ∧ n ≤ w.queue.size ∧ e = .full w.queue.name n) ∧
      ∀ delay, w.queue.enqueueDelayed now mail delay = .error e ↔
        ∃ n, config.capacity = some n ∧ n ≤ w.queue.size ∧ e = .full w.queue.name n) ∧
    (∀ now mail n, config.capacity = some n → n ≤ w.queue.size →
      w.next now (.enqueue mail) = w ∧ ∀ delay, w.next now (.enqueueDelayed mail delay) = w) ∧
    (∀ now, w.queue.dequeue now = none ↔ ∀ item ∈ w.queue.items, item.isReady now = false) ∧
    (∀ now mail q, w.queue.dequeue now = some (mail, q) ↔
      ∃ before item after, w.queue.items = before ++ item :: after ∧ item.isReady now = true ∧
        (∀ x ∈ before, x.isReady now = false) ∧ mail = item.mail ∧
          q = { w.queue with items := before ++ after }) ∧
    (∀ now i j item, (item, i) ∈ w.book.held → i < j →
      (w.next now .dequeue).book.dequeued = w.book.dequeued ++ [j] → item.isReady now = false) ∧
    (∀ (item : QueueItem) (now later : Nat), item.isReady now = true → now ≤ later →
      item.isReady later = true) ∧
    ∀ now, (∀ e ∈ events, e.1 ≤ now) →
      ∀ item ∈ w.queue.items, item.Undelayed → item.isReady now = true := by
  intro w
  have horder : w.InOrder config := inOrder_foldl (inOrder_ofConfig name config) events
  have hrefused (now : Nat) (mail : Mail) (delay : Option Delay) (e : QueueError) :
      w.queue.push now mail delay = .error e ↔
        ∃ n, config.capacity = some n ∧ n ≤ w.queue.size ∧ e = .full w.queue.name n := by
    rw [MailQueue.push_eq_error_iff, horder.capacity_eq]
  have hunchanged (now : Nat) (mail : Mail) (delay : Option Delay) (n : Nat)
      (hn : config.capacity = some n) (hfull : n ≤ w.queue.size) :
      w.offer now mail delay (w.queue.push now mail delay) = w := by
    rw [(hrefused now mail delay _).2 ⟨n, hn, hfull, rfl⟩]
    rfl
  refine ⟨horder, fun now mail e => ⟨hrefused now mail none e, fun delay => ?_⟩,
    fun now mail n hn hfull => ⟨hunchanged now mail none n hn hfull, fun delay => ?_⟩,
    fun now => MailQueue.dequeue_eq_none_iff, fun now mail q => MailQueue.dequeue_eq_some_iff,
    fun now i j item => not_isReady_of_overtaken,
    fun item now later => QueueItem.isReady_of_le, fun now hle item hitem => ?_⟩
  · exact hrefused now mail (some delay) e
  · exact hunchanged now mail (some delay) n hn hfull
  · rw [horder.items_eq] at hitem
    obtain ⟨⟨_, i⟩, hheld, rfl⟩ := List.mem_map.1 hitem
    have haccepted := List.mem_of_getElem? (QueueBook.mem_held_iff.1 hheld).1
    exact undelayed_foldl (w := ⟨.ofConfig name config, {}, []⟩) nofun hle _ haccepted

-- the first mail is overtaken while it is held back, and the third one finds the queue full
example :
    let w := run "spool" { capacity := some 2 }
      [(0, .enqueueDelayed { name := "a" } ⟨1, .seconds⟩), (1, .enqueue { name := "b" }),
        (2, .enqueue { name := "c" }), (3, .dequeue), (4, .enqueue { name := "d" }),
        (1000000000, .dequeue)]
    w.delivered.map (·.name) = ["b", "a"] ∧ w.book.dequeued = [1, 0] ∧
      w.queue.items.map (·.mail.name) = ["d"] := by
  decide

end WatchedQueue

end MailRouting
