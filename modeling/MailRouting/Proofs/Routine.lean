import MailRouting.Routine

/-!
# What a routine can come to

The course of a routine depends on the answers that it gets, and on nothing else. So what holds
whatever the answers are holds of every run, whoever answers.

* `Routine.Ends` — with some answers, the routine asks this, is answered that and ends so;
* `ends_trace_result` — every run is one of these courses;
* `ends_bind_iff`, `ends_inSpan_iff` — the courses of a routine from those of its parts;
* `ends_run_bind_iff` — the courses of work that may fail;
* `run_bind`, `trace_bind` — the runs of a routine from those of its parts;
* `AsksOnly` — on every course the routine asks nothing but requests of some kind.
-/

namespace MailRouting.Routine

variable {σ α β : Type}

/-- The routine can end with a result after the given exchanges. -/
def Ends : Routine α → List Exchange → α → Prop
  | .done b, xs, a => xs = [] ∧ a = b
  | .ask r next, xs, a => ∃ answer ys, xs = ⟨r, answer⟩ :: ys ∧ (next answer).Ends ys a
  | .note _ next, xs, a => next.Ends xs a

/-- Every run is a course that the routine can take. -/
theorem ends_trace_result (h : Handler σ) (p : Routine α) (s : σ) :
    p.Ends (p.trace h s) (p.result h s) := by
  induction p generalizing s with
  | done a => exact ⟨rfl, rfl⟩
  | ask r next ih => exact ⟨(h.answer r s).1, _, rfl, ih (h.answer r s).1 (h.answer r s).2⟩
  | note e next ih => exact ih (h.note e s)

/-! ### Parts of a routine -/

theorem ends_request_iff {r : Request} {xs : List Exchange} {a : r.Answer} :
    (request r).Ends xs a ↔ xs = [⟨r, a⟩] := by
  constructor
  · rintro ⟨answer, ys, rfl, rfl, rfl⟩
    rfl
  · rintro rfl
    exact ⟨a, [], rfl, rfl, rfl⟩

/-- What goes on with the result of a routine comes after it. -/
theorem ends_bind_iff {p : Routine α} {f : α → Routine β} {xs : List Exchange} {b : β} :
    (p >>= f).Ends xs b ↔ ∃ ys a zs, xs = ys ++ zs ∧ p.Ends ys a ∧ (f a).Ends zs b := by
  show (p.bind f).Ends xs b ↔ _
  induction p generalizing xs with
  | done a =>
    constructor
    · intro h
      exact ⟨[], a, xs, rfl, ⟨rfl, rfl⟩, h⟩
    · rintro ⟨_, _, zs, rfl, ⟨rfl, rfl⟩, h⟩
      exact h
  | ask r next ih =>
    constructor
    · rintro ⟨answer, tail, rfl, htail⟩
      obtain ⟨ys, a, zs, rfl, hnext, hf⟩ := (ih answer).1 htail
      exact ⟨⟨r, answer⟩ :: ys, a, zs, rfl, ⟨answer, ys, rfl, hnext⟩, hf⟩
    · rintro ⟨_, a, zs, rfl, ⟨answer, ys, rfl, hnext⟩, hf⟩
      exact ⟨answer, ys ++ zs, rfl, (ih answer).2 ⟨ys, a, zs, rfl, hnext, hf⟩⟩
  | note e next ih => exact ih

/-- What is only written into the log asks nothing. -/
theorem ends_log_bind_iff {e : Log.Event} {f : Unit → Routine β} {xs : List Exchange} {b : β} :
    (log e >>= f).Ends xs b ↔ (f ()).Ends xs b :=
  Iff.rfl

/-- A span around a routine changes nothing of its course. -/
theorem ends_inSpan_iff {span : Log.Span} {p : Routine α} {xs : List Exchange} {a : α} :
    (inSpan span p).Ends xs a ↔ p.Ends xs a := by
  show (p >>= fun a => Routine.note .leave (.done a)).Ends xs a ↔ _
  rw [ends_bind_iff]
  constructor
  · rintro ⟨ys, b, zs, rfl, hp, rfl, rfl⟩
    rwa [List.append_nil]
  · intro hp
    exact ⟨xs, a, [], (List.append_nil xs).symm, hp, rfl, rfl⟩

/-- A routine whose result is changed in the end. -/
theorem ends_map_iff {p : Routine α} {f : α → β} {xs : List Exchange} {b : β} :
    (f <$> p).Ends xs b ↔ ∃ a, p.Ends xs a ∧ b = f a := by
  show (p >>= fun a => pure (f a)).Ends xs b ↔ _
  rw [ends_bind_iff]
  constructor
  · rintro ⟨ys, a, zs, rfl, hp, rfl, rfl⟩
    exact ⟨a, by rwa [List.append_nil], rfl⟩
  · rintro ⟨a, hp, rfl⟩
    exact ⟨xs, a, [], (List.append_nil xs).symm, hp, rfl, rfl⟩

/-- A work that goes on after another one fails with it, or goes on with its result. -/
theorem ends_run_bind_iff {ε : Type} {p : ExceptT ε Routine α} {f : α → ExceptT ε Routine β}
    {xs : List Exchange} {r : Except ε β} :
    (p >>= f).run.Ends xs r ↔ (∃ e, p.run.Ends xs (.error e) ∧ r = .error e) ∨
      ∃ ys a zs, xs = ys ++ zs ∧ p.run.Ends ys (.ok a) ∧ (f a).run.Ends zs r := by
  show (p.run >>= ExceptT.bindCont f).Ends xs r ↔ _
  rw [ends_bind_iff]
  constructor
  · rintro ⟨ys, e | a, zs, rfl, hp, hf⟩
    · obtain ⟨rfl, rfl⟩ := hf
      rw [List.append_nil]
      exact .inl ⟨e, hp, rfl⟩
    · exact .inr ⟨ys, a, zs, rfl, hp, hf⟩
  · rintro (⟨e, hp, rfl⟩ | ⟨ys, a, zs, rfl, hp, hf⟩)
    · exact ⟨xs, .error e, [], (List.append_nil xs).symm, hp, rfl, rfl⟩
    · exact ⟨ys, .ok a, zs, rfl, hp, hf⟩

/-! ### Parts of a run -/

variable (h : Handler σ) (p : Routine α) (f : α → Routine β) (s : σ)

/-- A request is answered first, and the run goes on from there. -/
theorem run_ask (r : Request) (next : r.Answer → Routine α) :
    (Routine.ask r next).run h s = (next (h.answer r s).1).run h (h.answer r s).2 :=
  rfl

theorem trace_ask (r : Request) (next : r.Answer → Routine α) : (Routine.ask r next).trace h s =
    ⟨r, (h.answer r s).1⟩ :: (next (h.answer r s).1).trace h (h.answer r s).2 :=
  rfl

/-- What goes on with the result of a routine is run where that one ends. -/
theorem run_bind : (p >>= f).run h s = (f (p.result h s)).run h (p.run h s).2 := by
  show (p.bind f).run h s = _
  induction p generalizing s with
  | done a => rfl
  | ask r next ih => exact ih (h.answer r s).1 (h.answer r s).2
  | note e next ih => exact ih (h.note e s)

/-- What goes on with the result of a routine asks after it. -/
theorem trace_bind :
    (p >>= f).trace h s = p.trace h s ++ (f (p.result h s)).trace h (p.run h s).2 := by
  show (p.bind f).trace h s = _
  induction p generalizing s with
  | done a => rfl
  | ask r next ih =>
    exact congrArg (⟨r, (h.answer r s).1⟩ :: ·) (ih (h.answer r s).1 (h.answer r s).2)
  | note e next ih => exact ih (h.note e s)

/-! ### What is asked on every course -/

/-- Whatever the answers are, the routine asks only requests of some kind. -/
def AsksOnly (P : Request → Prop) : Routine α → Prop
  | .done _ => True
  | .ask r next => P r ∧ ∀ answer, (next answer).AsksOnly P
  | .note _ next => next.AsksOnly P

variable {P : Request → Prop} {p : Routine α} {f : α → Routine β}

theorem asksOnly_request {r : Request} (h : P r) : (request r).AsksOnly P :=
  ⟨h, fun _ => trivial⟩

theorem AsksOnly.bind (hp : p.AsksOnly P) (hf : ∀ a, (f a).AsksOnly P) :
    (p >>= f).AsksOnly P := by
  show (p.bind f).AsksOnly P
  induction p with
  | done a => exact hf a
  | ask r next ih => exact ⟨hp.1, fun answer => ih answer (hp.2 answer)⟩
  | note e next ih => exact ih hp

theorem AsksOnly.inSpan (span : Log.Span) (hp : p.AsksOnly P) : (inSpan span p).AsksOnly P :=
  hp.bind fun _ => trivial

theorem AsksOnly.map (g : α → β) (hp : p.AsksOnly P) : (g <$> p).AsksOnly P :=
  hp.bind fun _ => trivial

end MailRouting.Routine
