import Mathlib.Data.List.Forall2

/-!
# Lists of results that may fail

`List.mapM` in `Except` takes the results of a list in order and stops at the first failure.

* `exists_of_mem_of_mapM_eq_ok`, `exists_of_mapM_eq_ok_of_mem` — where it succeeds, every element
  has a result, and every result comes from an element;
* `exists_of_mapM_eq_error` — where it fails, an element fails in that way;
* `mapError_eq_ok_iff` — another error makes no success;
* `mapM_congr` — functions that agree on the elements have the same results;
* `Alike`, `alike_mapM` — two results that succeed alike or fail alike, and so for lists of them;
* `OkOr`, `mapM_eq_of_okOr` — a success or a failure of some kind, and a traversal that comes to one
  comes to the same by any function that agrees there.
-/

namespace MailRouting

variable {α β ε : Type} {f : α → Except ε β}

theorem mapM_cons_eq_ok_iff {x : α} {xs : List α} {ys : List β} :
    (x :: xs).mapM f = .ok ys ↔ ∃ y zs, f x = .ok y ∧ xs.mapM f = .ok zs ∧ ys = y :: zs := by
  rw [List.mapM_cons]
  cases hx : f x with
  | error e => simp [bind, Except.bind]
  | ok y =>
    cases hxs : xs.mapM f with
    | error e => simp [bind, Except.bind]
    | ok zs => simp [bind, Except.bind, pure, Except.pure, eq_comm]

theorem exists_of_mem_of_mapM_eq_ok {x : α} {xs : List α} {ys : List β} (h : xs.mapM f = .ok ys)
    (hx : x ∈ xs) : ∃ y ∈ ys, f x = .ok y := by
  induction xs generalizing ys with
  | nil => cases hx
  | cons x' xs ih =>
    obtain ⟨y, zs, hy, hzs, rfl⟩ := mapM_cons_eq_ok_iff.1 h
    rcases List.mem_cons.1 hx with rfl | hx
    · exact ⟨y, List.mem_cons_self, hy⟩
    · obtain ⟨y', hmem, hy'⟩ := ih hzs hx
      exact ⟨y', List.mem_cons_of_mem y hmem, hy'⟩

theorem exists_of_mapM_eq_ok_of_mem {y : β} {xs : List α} {ys : List β} (h : xs.mapM f = .ok ys)
    (hy : y ∈ ys) : ∃ x ∈ xs, f x = .ok y := by
  induction xs generalizing ys with
  | nil =>
    cases h
    cases hy
  | cons x xs ih =>
    obtain ⟨y', zs, hy', hzs, rfl⟩ := mapM_cons_eq_ok_iff.1 h
    rcases List.mem_cons.1 hy with rfl | hy
    · exact ⟨x, List.mem_cons_self, hy'⟩
    · obtain ⟨x', hmem, hx'⟩ := ih hzs hy
      exact ⟨x', List.mem_cons_of_mem x hmem, hx'⟩

theorem exists_of_mapM_eq_error {xs : List α} {e : ε} (h : xs.mapM f = .error e) :
    ∃ x ∈ xs, f x = .error e := by
  induction xs with
  | nil => cases h
  | cons x xs ih =>
    rw [List.mapM_cons] at h
    cases hx : f x with
    | error e' =>
      rw [hx] at h
      cases h
      exact ⟨x, List.mem_cons_self, hx⟩
    | ok y =>
      cases hxs : xs.mapM f with
      | error e' =>
        rw [hx, hxs] at h
        cases h
        obtain ⟨x', hmem, hx'⟩ := ih hxs
        exact ⟨x', List.mem_cons_of_mem x hmem, hx'⟩
      | ok ys =>
        rw [hx, hxs] at h
        cases h

/-- Under another error, a success stays what it is, and nothing else becomes one. -/
theorem mapError_eq_ok_iff {ε' : Type} {g : ε → ε'} {r : Except ε α} {x : α} :
    r.mapError g = .ok x ↔ r = .ok x := by
  cases r with
  | error e => exact iff_of_false nofun nofun
  | ok y =>
    rw [Except.mapError, Except.ok.injEq, Except.ok.injEq]

/-! ### Two traversals -/

theorem mapM_congr {g : α → Except ε β} {xs : List α} (h : ∀ x ∈ xs, g x = f x) :
    xs.mapM g = xs.mapM f := by
  induction xs with
  | nil => rfl
  | cons x xs ih =>
    obtain ⟨hx, hrest⟩ := List.forall_mem_cons.1 h
    rw [List.mapM_cons, List.mapM_cons, hx, ih hrest]

/-- Both succeed, with values in the relation `R`, or both fail, with errors in the relation `E`. -/
inductive Alike {γ : Type} (E : ε → ε → Prop) (R : β → γ → Prop) :
    Except ε β → Except ε γ → Prop where
  | ok {y : β} {z : γ} : R y z → Alike E R (.ok y) (.ok z)
  | error {e e' : ε} : E e e' → Alike E R (.error e) (.error e')

/-- Where the elements of a list come to the like, the lists of their results are alike. -/
theorem alike_mapM {γ : Type} {E : ε → ε → Prop} {R : β → γ → Prop} {g : α → Except ε γ}
    {xs : List α} (h : ∀ x ∈ xs, Alike E R (f x) (g x)) :
    Alike E (List.Forall₂ R) (xs.mapM f) (xs.mapM g) := by
  induction xs with
  | nil => exact .ok .nil
  | cons x xs ih =>
    obtain ⟨hx, hrest⟩ := List.forall_mem_cons.1 h
    have hxs := ih hrest
    rw [List.mapM_cons, List.mapM_cons]
    generalize f x = r, g x = r' at hx
    generalize xs.mapM f = rs, xs.mapM g = rs' at hxs
    cases hx with
    | error he => exact .error he
    | ok hy =>
      cases hxs with
      | error he => exact .error he
      | ok hys => exact .ok (.cons hy hys)

/-- A success, or a failure of some kind. -/
def OkOr (E : ε → Prop) : Except ε β → Prop
  | .ok _ => True
  | .error e => E e

theorem okOr_map_iff {γ : Type} {E : ε → Prop} {r : Except ε β} {g : β → γ} :
    OkOr E (r.map g) ↔ OkOr E r := by
  cases r <;> exact Iff.rfl

/-- Up to the first failure, and for that failure if it is of the kind, both functions agree. -/
theorem mapM_eq_of_okOr {E : ε → Prop} {g : α → Except ε β} {xs : List α}
    (h : ∀ x ∈ xs, OkOr E (f x) → g x = f x) (hxs : OkOr E (xs.mapM f)) :
    xs.mapM g = xs.mapM f := by
  induction xs with
  | nil => rfl
  | cons x xs ih =>
    obtain ⟨hx, hrest⟩ := List.forall_mem_cons.1 h
    rw [List.mapM_cons] at hxs
    rw [List.mapM_cons, List.mapM_cons]
    cases hfx : f x with
    | error e =>
      rw [hfx] at hxs hx
      rw [hx hxs]
      rfl
    | ok y =>
      rw [hfx] at hxs hx
      have htail : OkOr E (xs.mapM f) := by
        cases hfxs : xs.mapM f with
        | error e => rwa [hfxs] at hxs
        | ok ys => trivial
      rw [hx trivial, ih hrest htail]

end MailRouting
