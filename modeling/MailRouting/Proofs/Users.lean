import Mathlib.Data.Set.Card
import MailRouting.Proofs.Address.Path
import MailRouting.Proofs.LocalDelivery.Updates

/-!
# The users as a set of principals

Names come to the users in many spellings: a mailbox in brackets or bare, between blanks, in
capitals. What is held is the principal that a name stands for, and what a mailbox is looked up by
is its own principal.

* `UsersCall`, `Users.call` — the calls that change the users; `Users.Fits` — the names that fit the
  hosting mode;
* `Users.exists_invalidUsername_iff`, `Users.add_eq_error_iff`, `Users.remove_eq_error_iff` — when a
  call is refused, and why;
* `WatchedUsers`, `WatchedUsers.run` — users with the record of all calls and answers;
* `WatchedUsers.Present` — by the record, a name of this principal was added and none was removed
  since; `present_next_iff`, `contains_next_iff` — one call changes that as it changes the users;
* `WatchedUsers.Agrees`, `agrees_run` — after every run the users hold what is present;
* `WatchedUsers.is_set_of_principals` — what follows from that.
-/

namespace MailRouting

/-! ### Calls -/

/-- The calls that change the users. -/
inductive UsersCall where
  | add (name : String)
  | remove (name : String)

/-- The name that a call is about. -/
def UsersCall.name : UsersCall → String
  | .add name => name
  | .remove name => name

namespace Users

/-- The users after a call, or why it is refused. -/
def call (u : Users) : UsersCall → Except UsersError Users
  | .add name => u.add name
  | .remove name => u.remove name

/-- The users after a call, which changes nothing if it is refused. -/
def next (u : Users) (c : UsersCall) : Users :=
  match u.call c with
  | .ok u' => u'
  | .error _ => u

/-- The name fits the hosting mode: it is read as a mailbox, or else it has no `@` and is not
blank. -/
def Fits (u : Users) (name : String) : Prop :=
  if u.virtualHosting then ∃ a, Address.parse name = .ok a
  else '@' ∉ name.toList ∧ ∃ c ∈ name.toList, Text.isBlank c = false

variable {u u' : Users} {name : String} {p q : Principal} {e : UsersError} {c : UsersCall}

/-! ### Names -/

/-- A name has a principal, or the fault of the name is the answer. -/
theorem principalOfName_cases (u : Users) (name : String) :
    (u.Fits name ∧ ∃ p, u.principalOfName name = .ok p) ∨
      (¬u.Fits name ∧ ∃ fault, u.principalOfName name = .error (.invalidUsername name fault)) := by
  unfold Fits principalOfName
  cases u.virtualHosting with
  | true =>
    simp only [if_true]
    cases Address.parse name with
    | ok a => exact .inl ⟨⟨a, rfl⟩, _, rfl⟩
    | error cause => exact .inr ⟨by simp, _, rfl⟩
  | false =>
    simp only [Bool.false_eq_true, if_false]
    by_cases hat : '@' ∈ name.toList
    · rw [if_pos hat]
      exact .inr ⟨fun h => h.1 hat, _, rfl⟩
    · rw [if_neg hat]
      cases hblank : (Text.trim name.toList).isEmpty with
      | true =>
        refine .inr ⟨?_, _, rfl⟩
        intro h
        obtain ⟨_, c, hc, hink⟩ := h
        rw [List.isEmpty_iff, Text.trim_eq_nil_iff] at hblank
        rw [hblank c hc] at hink
        cases hink
      | false =>
        refine .inl ⟨⟨hat, ?_⟩, _, rfl⟩
        rw [List.isEmpty_eq_false_iff, ne_eq, Text.trim_eq_nil_iff] at hblank
        simpa using hblank

/-- The principal of a name hangs on the hosting mode alone. -/
theorem principalOfName_congr (h : u'.virtualHosting = u.virtualHosting) (name : String) :
    u'.principalOfName name = u.principalOfName name := by
  unfold principalOfName
  rw [h]

/-- Where users are mailboxes, a name in any spelling stands for the principal of every mailbox that
is equal to the one named up to case. -/
theorem principalOfName_of_parse {a b : Address} (hhosting : u.virtualHosting = true)
    (hparse : Address.parse name = .ok a) (hab : a.EqUpToCase b) :
    u.principalOfName name = .ok (u.principalFor b) := by
  rw [← (u.principalFor_congr hab).1, principalOfName, principalFor, if_pos hhosting, hparse,
    if_pos hhosting]

/-! ### Calls that are refused -/

theorem add_of_principal (h : u.principalOfName name = .ok p) :
    u.add name = if u.contains p then .error (.alreadyExists p)
      else .ok { u with principals := u.principals ++ [p] } := by
  unfold add
  rw [h]
  rfl

theorem remove_of_principal (h : u.principalOfName name = .ok p) :
    u.remove name = if u.contains p then .ok { u with principals := u.principals.erase p }
      else .error (.notFound p) := by
  unfold remove
  rw [h]
  rfl

theorem add_eq_error_iff (h : u.principalOfName name = .ok p) :
    u.add name = .error e ↔ u.contains p = true ∧ e = .alreadyExists p := by
  rw [add_of_principal h]
  cases u.contains p <;> simp [eq_comm]

theorem remove_eq_error_iff (h : u.principalOfName name = .ok p) :
    u.remove name = .error e ↔ ¬u.contains p = true ∧ e = .notFound p := by
  rw [remove_of_principal h]
  cases u.contains p <;> simp [eq_comm]

theorem call_of_invalid (h : u.principalOfName c.name = .error e) : u.call c = .error e := by
  cases c with
  | add name =>
    show u.add name = _
    unfold add
    rw [show u.principalOfName name = .error e from h]
    rfl
  | remove name =>
    show u.remove name = _
    unfold remove
    rw [show u.principalOfName name = .error e from h]
    rfl

/-- A call is refused for its name exactly if the name does not fit. -/
theorem exists_invalidUsername_iff :
    (∃ fault, u.call c = .error (.invalidUsername c.name fault)) ↔ ¬u.Fits c.name := by
  rcases u.principalOfName_cases c.name with ⟨hfits, p, hp⟩ | ⟨hnot, fault, hfault⟩
  · refine iff_of_false ?_ (not_not_intro hfits)
    intro h
    obtain ⟨fault, h⟩ := h
    cases c with
    | add name => cases ((add_eq_error_iff hp).1 h).2
    | remove name => cases ((remove_eq_error_iff hp).1 h).2
  · exact iff_of_true ⟨fault, call_of_invalid hfault⟩ hnot

theorem next_of_error (h : u.call c = .error e) : u.next c = u := by
  rw [next, h]

theorem next_of_ok (h : u.call c = .ok u') : u.next c = u' := by
  rw [next, h]

end Users

/-! ### The record of all calls -/

/-- A call and the answer to it. -/
structure UsersRecord where
  call : UsersCall
  answer : Except UsersError Unit

namespace UsersRecord

/-- A name of the principal was added. -/
def Adds (u : Users) (p : Principal) (r : UsersRecord) : Prop :=
  ∃ name, r = ⟨.add name, .ok ()⟩ ∧ u.principalOfName name = .ok p

/-- A name of the principal was removed. -/
def Removes (u : Users) (p : Principal) (r : UsersRecord) : Prop :=
  ∃ name, r = ⟨.remove name, .ok ()⟩ ∧ u.principalOfName name = .ok p

variable {u : Users} {p : Principal} {name : String} {answer : Except UsersError Unit}

@[simp]
theorem adds_add_iff : Adds u p ⟨.add name, .ok ()⟩ ↔ u.principalOfName name = .ok p := by
  simp [Adds]

@[simp]
theorem removes_remove_iff :
    Removes u p ⟨.remove name, .ok ()⟩ ↔ u.principalOfName name = .ok p := by
  simp [Removes]

@[simp]
theorem not_adds_remove : ¬Adds u p ⟨.remove name, answer⟩ := by
  simp [Adds]

@[simp]
theorem not_removes_add : ¬Removes u p ⟨.add name, answer⟩ := by
  simp [Removes]

/-- A call that is refused adds and removes nobody. -/
theorem not_changes_of_error (c : UsersCall) (e : UsersError) :
    ¬Adds u p ⟨c, .error e⟩ ∧ ¬Removes u p ⟨c, .error e⟩ := by
  simp [Adds, Removes]

/-- Some name was added. -/
def isAddition : UsersRecord → Bool
  | ⟨.add _, .ok _⟩ => true
  | _ => false

/-- Some name was removed. -/
def isRemoval : UsersRecord → Bool
  | ⟨.remove _, .ok _⟩ => true
  | _ => false

end UsersRecord

/-- Users, and the record of the calls on them. -/
structure WatchedUsers where
  users : Users
  log : List UsersRecord := []

namespace WatchedUsers

/-- One more call, and its answer. -/
def record (w : WatchedUsers) (c : UsersCall) : UsersRecord :=
  ⟨c, (w.users.call c).map fun _ => ()⟩

/-- The users after a call, which goes into the record. -/
def next (w : WatchedUsers) (c : UsersCall) : WatchedUsers :=
  ⟨w.users.next c, w.log ++ [w.record c]⟩

/-- The users after some calls, from none on. -/
def run (virtualHosting : Bool) (calls : List UsersCall) : WatchedUsers :=
  calls.foldl next ⟨{ virtualHosting }, []⟩

/-- A name of the principal was added, and none was removed since. -/
def Present (w : WatchedUsers) (p : Principal) : Prop :=
  ∃ before r after, w.log = before ++ r :: after ∧ r.Adds w.users p ∧
    ∀ x ∈ after, ¬x.Removes w.users p

/-- How many names were added. -/
def additions (w : WatchedUsers) : Nat :=
  w.log.countP (·.isAddition)

/-- How many names were removed. -/
def removals (w : WatchedUsers) : Nat :=
  w.log.countP (·.isRemoval)

variable {w : WatchedUsers} {c : UsersCall} {p q : Principal} {u' : Users} {name : String}

/-! ### One call -/

theorem virtualHosting_next (u : Users) (c : UsersCall) :
    (u.next c).virtualHosting = u.virtualHosting := by
  cases hcall : u.call c with
  | error e => rw [Users.next_of_error hcall]
  | ok u' =>
    rw [Users.next_of_ok hcall]
    cases c with
    | add name =>
      obtain ⟨p, _, _, hu'⟩ := Users.add_eq_ok_iff.1 hcall
      rw [← hu']
    | remove name =>
      obtain ⟨p, _, _, hu'⟩ := Users.remove_eq_ok_iff.1 hcall
      rw [← hu']

/-- What a name stands for is the same after a call. -/
theorem adds_next (r : UsersRecord) : r.Adds (w.users.next c) p ↔ r.Adds w.users p := by
  simp only [UsersRecord.Adds, Users.principalOfName_congr (virtualHosting_next w.users c)]

theorem removes_next (r : UsersRecord) : r.Removes (w.users.next c) p ↔ r.Removes w.users p := by
  simp only [UsersRecord.Removes, Users.principalOfName_congr (virtualHosting_next w.users c)]

/-- After one more call a principal is present that was added by it, or was present before and not
removed by it. -/
theorem present_next_iff : (w.next c).Present p ↔
    (w.record c).Adds w.users p ∨ (w.Present p ∧ ¬(w.record c).Removes w.users p) := by
  unfold Present
  simp only [next, adds_next, removes_next]
  constructor
  · intro h
    obtain ⟨before, r, after, hlog, hadds, hafter⟩ := h
    rcases List.eq_nil_or_concat after with hnil | ⟨after', last, hconcat⟩
    · rw [hnil] at hlog
      obtain ⟨_, hlast⟩ := List.append_inj' hlog rfl
      rw [List.singleton_inj.1 hlast]
      exact .inl hadds
    · rw [hconcat, List.concat_eq_append, ← List.cons_append, ← List.append_assoc] at hlog
      obtain ⟨hold, hlast⟩ := List.append_inj' hlog rfl
      rw [hconcat, List.concat_eq_append, List.forall_mem_append,
        List.forall_mem_singleton] at hafter
      rw [List.singleton_inj.1 hlast]
      exact .inr ⟨⟨before, r, after', hold, hadds, hafter.1⟩, hafter.2⟩
  · intro h
    rcases h with hadds | ⟨⟨before, r, after, hlog, hadds, hafter⟩, hnot⟩
    · exact ⟨w.log, w.record c, [], rfl, hadds, nofun⟩
    · refine ⟨before, r, after ++ [w.record c], ?_, hadds, ?_⟩
      · rw [hlog, List.append_assoc, List.cons_append]
      · exact List.forall_mem_append.2 ⟨hafter, List.forall_mem_singleton.2 hnot⟩

theorem record_of_error {e : UsersError} (h : w.users.call c = .error e) :
    w.record c = ⟨c, .error e⟩ := by
  rw [record, h]
  rfl

theorem record_of_ok (h : w.users.call c = .ok u') : w.record c = ⟨c, .ok ()⟩ := by
  rw [record, h]
  rfl

/-- The users change in the same way. -/
theorem contains_next_iff (hnodup : w.users.principals.Nodup) :
    (w.users.next c).contains p = true ↔ (w.record c).Adds w.users p ∨
      (w.users.contains p = true ∧ ¬(w.record c).Removes w.users p) := by
  cases hcall : w.users.call c with
  | error e =>
    obtain ⟨hadds, hremoves⟩ := UsersRecord.not_changes_of_error (u := w.users) (p := p) c e
    rw [Users.next_of_error hcall, record_of_error hcall, or_iff_right hadds, and_iff_left hremoves]
  | ok u' =>
    have hsame (q : Principal) : Except.ok q = (.ok p : Except UsersError Principal) ↔ p = q := by
      rw [Except.ok.injEq, eq_comm]
    rw [Users.next_of_ok hcall, record_of_ok hcall]
    cases c with
    | add name =>
      obtain ⟨q, hq, _, _, hcontains⟩ := Users.contains_add hcall
      rw [hcontains p, UsersRecord.adds_add_iff, hq, hsame q, or_comm,
        and_iff_left UsersRecord.not_removes_add]
    | remove name =>
      obtain ⟨q, hq, _, _, hcontains⟩ := Users.contains_remove hnodup hcall
      rw [hcontains p, UsersRecord.removes_remove_iff, hq, hsame q, and_comm,
        or_iff_right UsersRecord.not_adds_remove]

/-! ### Every run -/

/-- The users hold what is present by the record, each principal once, and their number is that of
the names added less that of the names removed. -/
structure Agrees (w : WatchedUsers) : Prop where
  nodup : w.users.principals.Nodup
  contains_iff : ∀ p, w.users.contains p = true ↔ w.Present p
  size_add : w.users.size + w.removals = w.additions

theorem nodup_next (h : w.users.principals.Nodup) : (w.users.next c).principals.Nodup := by
  cases hcall : w.users.call c with
  | error e => rwa [Users.next_of_error hcall]
  | ok u' =>
    rw [Users.next_of_ok hcall]
    cases c with
    | add name => exact Users.nodup_add h hcall
    | remove name => exact Users.nodup_remove h hcall

theorem additions_next (w : WatchedUsers) (c : UsersCall) :
    (w.next c).additions = w.additions + if (w.record c).isAddition then 1 else 0 := by
  rw [additions, next, List.countP_append, List.countP_singleton, additions]

theorem removals_next (w : WatchedUsers) (c : UsersCall) :
    (w.next c).removals = w.removals + if (w.record c).isRemoval then 1 else 0 := by
  rw [removals, next, List.countP_append, List.countP_singleton, removals]

/-- A call that is not refused changes the number of principals by one. -/
theorem size_add_next (h : w.users.size + w.removals = w.additions) :
    (w.next c).users.size + (w.next c).removals = (w.next c).additions := by
  rw [additions_next, removals_next]
  show (w.users.next c).size + _ = _
  cases hcall : w.users.call c with
  | error e =>
    rw [Users.next_of_error hcall, record_of_error hcall]
    cases c <;> exact h
  | ok u' =>
    rw [Users.next_of_ok hcall, record_of_ok hcall]
    cases c with
    | add name =>
      obtain ⟨p, _, _, hu'⟩ := Users.add_eq_ok_iff.1 hcall
      have hsize : u'.size = w.users.size + 1 := by
        rw [← hu', Users.size, List.length_append]
        rfl
      show u'.size + (w.removals + 0) = w.additions + 1
      omega
    | remove name =>
      obtain ⟨p, _, hmem, hu'⟩ := Users.remove_eq_ok_iff.1 hcall
      have hpos : 0 < w.users.size := List.length_pos_of_mem (Users.contains_iff.1 hmem)
      have hsize : u'.size = w.users.size - 1 := by
        rw [← hu', Users.size, List.length_erase_of_mem (Users.contains_iff.1 hmem)]
        rfl
      show u'.size + (w.removals + 1) = w.additions + 0
      omega

theorem Agrees.next (h : w.Agrees) (c : UsersCall) : (w.next c).Agrees where
  nodup := nodup_next h.nodup
  contains_iff := by
    intro p
    rw [present_next_iff, ← h.contains_iff p]
    exact contains_next_iff h.nodup
  size_add := size_add_next h.size_add

theorem agrees_foldl (h : w.Agrees) (calls : List UsersCall) : (calls.foldl next w).Agrees := by
  induction calls generalizing w with
  | nil => exact h
  | cons c calls ih => exact ih (h.next c)

theorem agrees_run (virtualHosting : Bool) (calls : List UsersCall) :
    (run virtualHosting calls).Agrees := by
  apply agrees_foldl
  refine ⟨List.nodup_nil, ?_, rfl⟩
  intro p
  refine iff_of_false (by simp [Users.contains]) ?_
  intro h
  obtain ⟨before, r, after, hlog, _⟩ := h
  simp at hlog

theorem virtualHosting_run (virtualHosting : Bool) (calls : List UsersCall) :
    (run virtualHosting calls).users.virtualHosting = virtualHosting := by
  have hfoldl (w : WatchedUsers) :
      (calls.foldl next w).users.virtualHosting = w.users.virtualHosting := by
    induction calls generalizing w with
    | nil => rfl
    | cons c calls ih => exact (ih (w.next c)).trans (virtualHosting_next w.users c)
  exact hfoldl _

/-- The number of users is that of the principals that are present. -/
theorem Agrees.size_eq_ncard (h : w.Agrees) : w.users.size = {p | w.Present p}.ncard := by
  have hset : {p | w.Present p} = ↑w.users.principals.toFinset := by
    ext p
    rw [Set.mem_ofPred_eq, ← h.contains_iff p, Users.contains_iff, List.coe_toFinset,
      Set.mem_ofPred_eq]
  rw [hset, Set.ncard_coe_finset, List.toFinset_card_of_nodup h.nodup, Users.size]

/-- **The users are a set of principals.** After every run of calls on no users, in either hosting
mode: a call is refused for its name exactly if the name does not fit the mode. A name that fits is
refused when it is added exactly if a name of its principal was added and none was removed since,
and when it is removed exactly if there is no such name; what is refused changes nothing. The number
of users is that of the principals so present, and that of the names added less that of the names
removed. A mailbox is found exactly if its principal is present. So, where users are mailboxes, all
spellings of mailboxes that are equal up to the case of the local part stand for one user, whom each
of these mailboxes is looked up by. -/
theorem is_set_of_principals (virtualHosting : Bool) (calls : List UsersCall) :
    let w := run virtualHosting calls
    let u := w.users
    u.virtualHosting = virtualHosting ∧
    (∀ c, (∃ fault, u.call c = .error (.invalidUsername c.name fault)) ↔ ¬u.Fits c.name) ∧
    (∀ name, u.Fits name → ∃ p, u.principalOfName name = .ok p ∧
      (∀ e, u.add name = .error e ↔ w.Present p ∧ e = .alreadyExists p) ∧
      ∀ e, u.remove name = .error e ↔ ¬w.Present p ∧ e = .notFound p) ∧
    (∀ c e, u.call c = .error e → u.next c = u) ∧
    (u.size = {p | w.Present p}.ncard ∧ u.size + w.removals = w.additions) ∧
    (∀ a, u.contains (u.principalFor a) = true ↔ w.Present (u.principalFor a)) ∧
    ∀ name a b, u.virtualHosting = true → Address.parse name = .ok a → a.EqUpToCase b →
      u.principalOfName name = .ok (u.principalFor b) := by
  intro w u
  have h : w.Agrees := agrees_run virtualHosting calls
  refine ⟨virtualHosting_run virtualHosting calls, fun c => Users.exists_invalidUsername_iff, ?_,
    fun c e => Users.next_of_error, ⟨h.size_eq_ncard, h.size_add⟩,
    fun a => h.contains_iff (u.principalFor a), fun name a b => Users.principalOfName_of_parse⟩
  intro name hfits
  rcases u.principalOfName_cases name with ⟨_, p, hp⟩ | ⟨hnot, _⟩
  · refine ⟨p, hp, ?_, ?_⟩
    · intro e
      rw [Users.add_eq_error_iff hp, h.contains_iff p]
    · intro e
      rw [Users.remove_eq_error_iff hp, h.contains_iff p]
  · exact absurd hfits hnot

-- one user in two spellings, and a name without a domain, which does not fit
example :
    (run true [.add " <Bob@MX>", .add "bob@mx", .add "bob"]).users.principals = [⟨"bob@mx"⟩] := by
  decide +kernel

end WatchedUsers

end MailRouting
