import MailRouting.Proofs.Users
import MailRouting.Value.Codec

/-!
# What is read from values

Domains and mailboxes are read from a value by the checks that make them. A principal is taken as it
stands, though every principal that is made from a name is in lower case.

* `Domain.ofValue_text_eq_ok_iff`, `Address.ofValue_text_eq_ok_iff` — a text is read from a value as
  it is read by itself;
* `Principal.IsCanonical`, `Principal.isCanonical_iff` — the principals that are made of their own
  text: those in lower case;
* `Principal.isCanonical_principalFor`, `WatchedUsers.isCanonical_of_contains` — the principals that
  mailboxes are looked up by are among them, and so are those of all users;
* `Principal.read_as_made_iff` — which texts are read as the principal that is made of them, and who
  is found by what is read.
-/

namespace MailRouting

/-! ### Domains and mailboxes -/

theorem Domain.ofValue_text_eq_ok_iff {s : String} {d : Domain} :
    ofValue (.text s) = .ok d ↔ parse s = .ok d :=
  mapError_eq_ok_iff

theorem Address.ofValue_text_eq_ok_iff {s : String} {a : Address} :
    ofValue (.text s) = .ok a ↔ parse s = .ok a :=
  mapError_eq_ok_iff

/-! ### Principals -/

namespace Principal

variable {p : Principal} {s : String}

/-- The principal is the one that is made of its own text. -/
def IsCanonical (p : Principal) : Prop :=
  ofName p.text = p

theorem isCanonical_iff : p.IsCanonical ↔ Text.lowercase p.text.toList = p.text.toList := by
  cases p with
  | mk text => rw [IsCanonical, ofName, mk.injEq, ← String.toList_inj, String.toList_ofList]

theorem isCanonical_ofName (name : String) : (ofName name).IsCanonical := by
  rw [isCanonical_iff, ofName, String.toList_ofList]
  exact Text.lowercase_lowercase name.toList

theorem ofValue_text (s : String) : ofValue (.text s) = .ok ⟨s⟩ :=
  rfl

/-- A principal that a mailbox is looked up by is canonical. -/
theorem isCanonical_principalFor (u : Users) (a : Address) : (u.principalFor a).IsCanonical := by
  unfold Users.principalFor
  split
  · exact isCanonical_ofName _
  · exact isCanonical_ofName _

theorem isCanonical_of_principalOfName {u : Users} {name : String}
    (h : u.principalOfName name = .ok p) : p.IsCanonical := by
  unfold Users.principalOfName at h
  split at h
  · split at h
    · obtain rfl := Except.ok.inj h
      exact isCanonical_ofName _
    · cases h
  · split at h
    · cases h
    · dsimp only at h
      split at h
      · cases h
      · obtain rfl := Except.ok.inj h
        exact isCanonical_ofName _

end Principal

/-- All users have canonical principals. -/
theorem WatchedUsers.isCanonical_of_contains {w : WatchedUsers} (h : w.Agrees) {p : Principal}
    (hp : w.users.contains p = true) : p.IsCanonical := by
  obtain ⟨_, r, _, _, ⟨name, _, hname⟩, _⟩ := (h.contains_iff p).1 hp
  exact Principal.isCanonical_of_principalOfName hname

open WatchedUsers (run) in
/-- **What is read is what is made, up to the case of principals.** From every text the same domain
is read, as a value, that is made of the text, and the same mailbox; but the principal that is read
is the one that is made of the text exactly if the text is in lower case. Every domain is read back
from its own text, and every principal that is made of a name, that a mailbox is looked up by, or
that users hold, is the one that is made of its own text; a principal that is read is so exactly if
it is in lower case. So, after every run of calls on users, a user is found by a principal that is
read exactly if the text is in lower case and the user is found by the principal that is made of
it. -/
theorem Principal.read_as_made_iff (s : String) (virtualHosting : Bool) (calls : List UsersCall) :
    (∀ d, Domain.ofValue (.text s) = .ok d ↔ Domain.parse s = .ok d) ∧
    (∀ a, Address.ofValue (.text s) = .ok a ↔ Address.parse s = .ok a) ∧
    ((∀ p, ofValue (.text s) = .ok p ↔ ofName s = p) ↔ Text.lowercase s.toList = s.toList) ∧
    (∀ d : Domain, Domain.parse d.text = .ok d) ∧
    (∀ name, (ofName name).IsCanonical) ∧
    (∀ (u : Users) a, (u.principalFor a).IsCanonical) ∧
    (∀ p, ofValue (.text s) = .ok p → (p.IsCanonical ↔ Text.lowercase s.toList = s.toList)) ∧
    let u := (run virtualHosting calls).users
    (∀ p, u.contains p = true → p.IsCanonical) ∧
    ∀ p, ofValue (.text s) = .ok p →
      (u.contains p = true ↔
        Text.lowercase s.toList = s.toList ∧ u.contains (ofName s) = true) := by
  have hcanonical (p : Principal) (hp : ofValue (.text s) = .ok p) :
      p.IsCanonical ↔ Text.lowercase s.toList = s.toList := by
    obtain rfl := Except.ok.inj hp
    exact isCanonical_iff
  have hheld (p : Principal) (hp : (run virtualHosting calls).users.contains p = true) :
      p.IsCanonical :=
    WatchedUsers.isCanonical_of_contains (WatchedUsers.agrees_run virtualHosting calls) hp
  refine ⟨fun d => Domain.ofValue_text_eq_ok_iff, fun a => Address.ofValue_text_eq_ok_iff, ?_,
    Domain.parse_text, isCanonical_ofName, isCanonical_principalFor, hcanonical, hheld, ?_⟩
  · rw [← hcanonical ⟨s⟩ (ofValue_text s), ofValue_text]
    constructor
    · intro h
      exact (h ⟨s⟩).1 rfl
    · intro h p
      rw [show ofName s = ⟨s⟩ from h, Except.ok.injEq]
  · intro p hp
    obtain rfl := Except.ok.inj hp
    constructor
    · intro hfound
      have hown : ofName s = ⟨s⟩ := hheld ⟨s⟩ hfound
      rw [hown]
      exact ⟨(hcanonical ⟨s⟩ hp).1 hown, hfound⟩
    · intro h
      obtain ⟨hlower, hfound⟩ := h
      have hown : ofName s = ⟨s⟩ := (hcanonical ⟨s⟩ hp).2 hlower
      rwa [hown] at hfound

/-- A principal with capitals is read as it stands, and the user of that name is not found by it. -/
theorem Principal.not_read_as_made_capitals :
    ofValue (.text "Bob@Example.com") = .ok ⟨"Bob@Example.com"⟩ ∧
      ofName "Bob@Example.com" = ⟨"bob@example.com"⟩ ∧
      ¬(∀ p, ofValue (.text "Bob@Example.com") = .ok p ↔ ofName "Bob@Example.com" = p) ∧
      ¬(⟨"Bob@Example.com"⟩ : Principal).IsCanonical ∧
      (WatchedUsers.run true [.add "Bob@Example.com"]).users.contains
        (ofName "Bob@Example.com") = true ∧
      (WatchedUsers.run true [.add "Bob@Example.com"]).users.contains ⟨"Bob@Example.com"⟩ =
        false := by
  have hmade : ofName "Bob@Example.com" = ⟨"bob@example.com"⟩ := by rfl
  have hdiffers : ofName "Bob@Example.com" ≠ ⟨"Bob@Example.com"⟩ := by
    rw [hmade]
    decide
  refine ⟨rfl, hmade, ?_, hdiffers, by decide +kernel, by decide +kernel⟩
  intro h
  exact hdiffers ((h ⟨"Bob@Example.com"⟩).1 rfl)

end MailRouting
