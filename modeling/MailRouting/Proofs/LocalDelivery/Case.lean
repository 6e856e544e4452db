import MailRouting.Proofs.LocalDelivery.Directory
import MailRouting.Proofs.Mapping.Case

/-!
# Local delivery and the case of local parts

* `SameAnswer` — the same truth value, or failures of the same authority;
* `Directory.mappedPrincipal_alike`, `Directory.isLocalEmail_alike` — mailboxes that are equal up to
  case have the same principal after the mappings, and are both delivered here or both not;
* `Site.routing_ignores_case` — nothing about the routing of a mailbox hangs on the case of its
  local part.
-/

namespace MailRouting

/-- The same truth value, or failures of the same authority. -/
abbrev SameAnswer : Except ResolutionError Bool → Except ResolutionError Bool → Prop :=
  Alike (fun e e' => e.authority = e'.authority) Eq

theorem SameAnswer.refl (r : Except ResolutionError Bool) : SameAnswer r r := by
  cases r with
  | ok b => exact .ok rfl
  | error e => exact .error rfl

/-- Only the same truth value is the same answer as a truth value. -/
theorem SameAnswer.eq_ok {r : Except ResolutionError Bool} {x : Bool} (h : SameAnswer r (.ok x)) :
    r = .ok x := by
  cases h with
  | ok hx => rw [hx]

theorem SameAnswer.eq_of_ok {x y : Bool} (h : SameAnswer (.ok x) (.ok y)) : x = y :=
  Except.ok.inj h.eq_ok

namespace Directory

variable {a b : Address}

/-- Mailboxes that are equal up to case have the same principal. -/
theorem principalOf_congr (v : Directory) (h : a.EqUpToCase b) :
    v.principalOf a = v.principalOf b := by
  obtain ⟨hprincipal, haddress⟩ := v.users.principalFor_congr h
  rw [principalOf, principalOf, hprincipal, haddress]

/-- Mappings of mailboxes that are equal up to case fail alike, or lead to such mailboxes. -/
theorem mappingsOf_alike (v : Directory) (h : a.EqUpToCase b) :
    Alike (fun e e' => e.authority = e'.authority) (List.Forall₂ Mapping.EqUpToCase)
      (v.mappingsOf a) (v.mappingsOf b) := by
  unfold mappingsOf
  by_cases hdown : Service.mappings ∈ v.down
  · rw [if_pos hdown, if_pos hdown]
    exact .error rfl
  · rw [if_neg hdown, if_neg hdown]
    have hresolve := v.mappings.resolveParts_alike MappingKind.all h
    generalize v.mappings.resolveParts a.localPart a.domain MappingKind.all = r,
      v.mappings.resolveParts b.localPart b.domain MappingKind.all = r' at hresolve
    cases hresolve with
    | ok hms => exact .ok hms
    | error _ => exact .error rfl

/-- The mailbox that mappings lead to, or else the mailbox itself, up to case. -/
theorem getD_firstAddress?_eqUpToCase {ms ns : List Mapping}
    (hms : List.Forall₂ Mapping.EqUpToCase ms ns) (h : a.EqUpToCase b) :
    ((firstAddress? ms).getD a).EqUpToCase ((firstAddress? ns).getD b) := by
  have hfirst := MappingTable.firstAddress?_alike hms
  generalize firstAddress? ms = first, firstAddress? ns = first' at hfirst
  cases hfirst with
  | none => exact h
  | some huv => exact huv

theorem mappedPrincipal_alike (v : Directory) (h : a.EqUpToCase b) :
    Alike (fun e e' => e.authority = e'.authority) Eq (v.mappedPrincipal a)
      (v.mappedPrincipal b) := by
  have hmappings := v.mappingsOf_alike h
  unfold mappedPrincipal
  generalize v.mappingsOf a = r, v.mappingsOf b = r' at hmappings
  cases hmappings with
  | error he => exact .error he
  | @ok ms ns hms =>
    show Alike _ _ (v.principalOf ((firstAddress? ms).getD a))
      (v.principalOf ((firstAddress? ns).getD b))
    rw [v.principalOf_congr (getD_firstAddress?_eqUpToCase hms h)]
    cases v.principalOf ((firstAddress? ns).getD b) with
    | ok principal => exact .ok rfl
    | error e => exact .error rfl

/-- Mailboxes that are equal up to case are both delivered here, or both not. -/
theorem isLocalEmail_alike (v : Directory) (h : a.EqUpToCase b) :
    SameAnswer (v.isLocalEmail a) (v.isLocalEmail b) := by
  have hprincipal := v.mappedPrincipal_alike h
  unfold isLocalEmail
  rw [h.1]
  cases v.containsDomain b.domain with
  | error e => exact .error rfl
  | ok found =>
    cases found with
    | false => exact .ok rfl
    | true =>
      show SameAnswer (v.mappedPrincipal a >>= v.containsUser)
        (v.mappedPrincipal b >>= v.containsUser)
      generalize v.mappedPrincipal a = r, v.mappedPrincipal b = r' at hprincipal
      cases hprincipal with
      | error he => exact .error he
      | ok hsame =>
        cases hsame
        exact SameAnswer.refl _

end Directory

namespace Site

/-- **Case does not matter.** At every site, mailboxes of one domain whose local parts differ in
case at most resolve alike, whatever kinds of mappings are followed: to mappings of the same kinds
and the same mailboxes up to case, or to the same error. They are both delivered here or both not,
or both questions fail at the same authority. The local part in lower case is a local part, so that
every mailbox has a folded form with it. -/
theorem routing_ignores_case (s : Site) (kinds : List MappingKind) {a b : Address}
    (h : a.EqUpToCase b) :
    MappingTable.ResolveAlike (s.mappings.resolveParts a.localPart a.domain kinds)
        (s.mappings.resolveParts b.localPart b.domain kinds) ∧
      SameAnswer (s.perform (LocalDelivery.isLocalEmail (some a)).run).1
        (s.perform (LocalDelivery.isLocalEmail (some b)).run).1 ∧
      ∀ x : Address, Address.ofParts x.lowered x.domain = .ok x.folded := by
  refine ⟨s.mappings.resolveParts_alike kinds h, ?_, fun x => ?_⟩
  · rw [(s.answers_isLocalEmail a).result_eq, (s.answers_isLocalEmail b).result_eq]
    exact s.directory.isLocalEmail_alike h
  · rw [x.folded_eq]
    exact Address.ofParts_of_check x.check_lowered

/-- A site with one user and three rules: the domain `localhost` moves to `[10.0.0.1]`, a team there
has the user for its member, and the user keeps the own mail. -/
def movedSite : Site :=
  { domains := .ofConfig {}
    users := { principals := [⟨"dave@localhost"⟩] }
    mappings :=
      { recursionLimit := 3
        entries :=
          [(.domain .localhost, [.domain ⟨"[10.0.0.1]", by rfl, by rfl⟩]),
            (.address ⟨"team", ⟨"[10.0.0.1]", by rfl, by rfl⟩, by rfl⟩,
              [.alias ⟨"Dave", .localhost, by rfl⟩]),
            (.address ⟨"dave", .localhost, by rfl⟩, [.address ⟨"DAVE", .localhost, by rfl⟩])] } }

theorem routing_ignores_case_movedSite :
    Address.EqUpToCase ⟨"TeAm", .localhost, by rfl⟩ ⟨"tEaM", .localhost, by rfl⟩ ∧
      MappingTable.ResolveAlike
        (movedSite.mappings.resolveParts "TeAm" .localhost MappingKind.all)
        (movedSite.mappings.resolveParts "tEaM" .localhost MappingKind.all) ∧
      SameAnswer
        (movedSite.perform
          (LocalDelivery.isLocalEmail (some ⟨"TeAm", .localhost, by rfl⟩)).run).1
        (movedSite.perform
          (LocalDelivery.isLocalEmail (some ⟨"tEaM", .localhost, by rfl⟩)).run).1 := by
  have h : Address.EqUpToCase ⟨"TeAm", .localhost, by rfl⟩ ⟨"tEaM", .localhost, by rfl⟩ :=
    ⟨rfl, rfl⟩
  obtain ⟨hresolve, hanswer, _⟩ := movedSite.routing_ignores_case MappingKind.all h
  exact ⟨h, hresolve, hanswer⟩

-- the rules are followed in both spellings, and the one mapping that comes out is as it was written
example :
    movedSite.mappings.resolveParts "TeAm" .localhost MappingKind.all =
        .ok [.address ⟨"DAVE", .localhost, by rfl⟩] ∧
      (movedSite.perform
        (LocalDelivery.isLocalEmail (some ⟨"TeAm", .localhost, by rfl⟩)).run).1 = .ok true :=
  ⟨rfl, rfl⟩

end Site

end MailRouting
