import MailRouting.LocalDelivery
import MailRouting.Proofs.Routine

/-!
# The mailboxes of a list

A list of mailboxes is asked about mailbox by mailbox, each time from the state that the mailboxes
before it have left.

* `result_bind_of_ok`, `trace_bind_of_ok` and their like for failures — the run of a work that goes
  on after another one;
* `Inquiry`, `inquiries` — the questions about the mailboxes of a list;
* `localRecipients_eq_ok_iff`, `trace_localRecipients`, `localRecipients_of_failure` — what a list
  comes to, and what is asked for that.
-/

namespace MailRouting.LocalDelivery

open Routine (Exchange)

variable {σ α β ε : Type} {h : Handler σ} {s : σ}

/-! ### Runs of a work that may fail -/

theorem result_bind_of_error {p : Lookup α} {f : α → Lookup β} {e : ResolutionError}
    (hp : p.run.result h s = .error e) : (p >>= f).run.result h s = .error e := by
  show ((p.run >>= ExceptT.bindCont f).run h s).1 = _
  rw [Routine.run_bind, hp]
  rfl

theorem trace_bind_of_error {p : Lookup α} {f : α → Lookup β} {e : ResolutionError}
    (hp : p.run.result h s = .error e) : (p >>= f).run.trace h s = p.run.trace h s := by
  show (p.run >>= ExceptT.bindCont f).trace h s = _
  rw [Routine.trace_bind, hp]
  exact List.append_nil _

theorem result_bind_of_ok {p : Lookup α} {f : α → Lookup β} {a : α}
    (hp : p.run.result h s = .ok a) :
    (p >>= f).run.result h s = (f a).run.result h (p.run.run h s).2 := by
  show ((p.run >>= ExceptT.bindCont f).run h s).1 = _
  rw [Routine.run_bind, hp]
  rfl

theorem trace_bind_of_ok {p : Lookup α} {f : α → Lookup β} {a : α}
    (hp : p.run.result h s = .ok a) :
    (p >>= f).run.trace h s = p.run.trace h s ++ (f a).run.trace h (p.run.run h s).2 := by
  show (p.run >>= ExceptT.bindCont f).trace h s = _
  rw [Routine.trace_bind, hp]
  rfl

/-- Work whose result is changed in the end comes to the changed result, or fails as before. -/
theorem result_map (p : Lookup α) (g : α → β) (s : σ) :
    (p >>= fun a => pure (g a)).run.result h s = (p.run.result h s).map g := by
  cases hp : p.run.result h s with
  | error e => exact result_bind_of_error hp
  | ok a => exact result_bind_of_ok hp

theorem trace_map (p : Lookup α) (g : α → β) (s : σ) :
    (p >>= fun a => pure (g a)).run.trace h s = p.run.trace h s := by
  cases hp : p.run.result h s with
  | error e => exact trace_bind_of_error hp
  | ok a =>
    rw [trace_bind_of_ok hp]
    exact List.append_nil _

/-! ### Lists of mailboxes -/

/-- The questions about one mailbox of a list: what was asked, and what it came to. -/
structure Inquiry where
  address : Address
  asked : List Exchange
  answer : Except ResolutionError Bool

/-- Whether the mailbox was found to be delivered here. -/
def Inquiry.found (q : Inquiry) : Bool :=
  match q.answer with
  | .ok found => found
  | .error _ => false

/-- The questions about the mailboxes of a list, one mailbox after another: each time from the state
that the mailboxes before it have left. -/
def inquiries (h : Handler σ) : List Address → σ → List Inquiry
  | [], _ => []
  | a :: rest, s =>
    let p := (isLocalEmail (some a)).run
    ⟨a, p.trace h s, p.result h s⟩ :: inquiries h rest (p.run h s).2

variable {a : Address} {rest : List Address}

/-- The first mailbox of a list is asked about, and then the others. -/
theorem result_localRecipients_cons {found : Bool}
    (hfound : (isLocalEmail (some a)).run.result h s = .ok found) :
    (localRecipients (a :: rest)).run.result h s =
      ((localRecipients rest).run.result h ((isLocalEmail (some a)).run.run h s).2).map
        fun others => if found then a :: others else others :=
  (result_bind_of_ok hfound).trans (result_map _ _ _)

theorem trace_localRecipients_cons {found : Bool}
    (hfound : (isLocalEmail (some a)).run.result h s = .ok found) :
    (localRecipients (a :: rest)).run.trace h s =
      (isLocalEmail (some a)).run.trace h s ++
        (localRecipients rest).run.trace h ((isLocalEmail (some a)).run.run h s).2 := by
  show (isLocalEmail (some a) >>= _).run.trace h s = _
  rw [trace_bind_of_ok hfound, trace_map]

theorem map_address_inquiries (xs : List Address) (s : σ) :
    (inquiries h xs s).map (·.address) = xs := by
  induction xs generalizing s with
  | nil => rfl
  | cons a rest ih => exact congrArg (a :: ·) (ih _)

theorem map_eq_ok_iff {r : Except ε α} {g : α → β} {b : β} :
    r.map g = .ok b ↔ ∃ a, r = .ok a ∧ b = g a := by
  cases r <;> simp [Except.map, eq_comm]

/-- A list comes to mailboxes exactly if every question has an answer, and they are those of the
list that are delivered here. -/
theorem localRecipients_eq_ok_iff {xs ys : List Address} {s : σ} :
    (localRecipients xs).run.result h s = .ok ys ↔
      (∀ q ∈ inquiries h xs s, ∃ found, q.answer = .ok found) ∧
        ys = ((inquiries h xs s).filter (·.found)).map (·.address) := by
  induction xs generalizing ys s with
  | nil =>
    constructor
    · rintro ⟨⟩
      exact ⟨fun q hq => absurd hq List.not_mem_nil, rfl⟩
    · rintro ⟨-, rfl⟩
      rfl
  | cons a rest ih =>
    rw [inquiries, List.forall_mem_cons]
    cases hfound : (isLocalEmail (some a)).run.result h s with
    | error e =>
      have herror : (localRecipients (a :: rest)).run.result h s = .error e :=
        result_bind_of_error hfound
      rw [herror]
      constructor
      · rintro ⟨⟩
      · rintro ⟨⟨⟨found, hok⟩, -⟩, -⟩
        cases hok
    | ok found =>
      rw [result_localRecipients_cons hfound, map_eq_ok_iff]
      constructor
      · rintro ⟨others, hothers, rfl⟩
        obtain ⟨hall, rfl⟩ := ih.1 hothers
        refine ⟨⟨⟨found, rfl⟩, hall⟩, ?_⟩
        cases found <;> rfl
      · rintro ⟨⟨-, hall⟩, rfl⟩
        refine ⟨_, ih.2 ⟨hall, rfl⟩, ?_⟩
        cases found <;> rfl

/-- If every question has an answer, all of them are asked. -/
theorem trace_localRecipients {xs : List Address} {s : σ}
    (hall : ∀ q ∈ inquiries h xs s, ∃ found, q.answer = .ok found) :
    (localRecipients xs).run.trace h s = (inquiries h xs s).flatMap (·.asked) := by
  induction xs generalizing s with
  | nil => rfl
  | cons a rest ih =>
    rw [inquiries, List.forall_mem_cons] at hall
    obtain ⟨⟨found, hfound⟩, hrest⟩ := hall
    rw [trace_localRecipients_cons hfound, ih hrest, inquiries, List.flatMap_cons]

/-- The first failure is what a list comes to, and no mailbox after it is asked about. -/
theorem localRecipients_of_failure {xs : List Address} {s : σ} {before after : List Inquiry}
    {q : Inquiry} {e : ResolutionError} (hsplit : inquiries h xs s = before ++ q :: after)
    (hbefore : ∀ p ∈ before, ∃ found, p.answer = .ok found) (hq : q.answer = .error e) :
    (localRecipients xs).run.result h s = .error e ∧
      (localRecipients xs).run.trace h s = (before ++ [q]).flatMap (·.asked) := by
  induction xs generalizing s before with
  | nil =>
    have hne : before ++ q :: after ≠ [] :=
      List.append_ne_nil_of_right_ne_nil before (List.cons_ne_nil q after)
    exact absurd hsplit.symm hne
  | cons a rest ih =>
    cases before with
    | nil =>
      obtain ⟨rfl, -⟩ := List.cons.inj hsplit
      exact ⟨result_bind_of_error hq,
        (trace_bind_of_error hq).trans (List.append_nil _).symm⟩
    | cons p before =>
      obtain ⟨rfl, hrest⟩ := List.cons.inj hsplit
      obtain ⟨⟨found, hfound⟩, hbefore⟩ := List.forall_mem_cons.1 hbefore
      obtain ⟨hresult, htrace⟩ := ih hrest hbefore
      rw [result_localRecipients_cons hfound, trace_localRecipients_cons hfound, hresult, htrace]
      exact ⟨rfl, rfl⟩

end MailRouting.LocalDelivery
