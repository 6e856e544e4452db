import MailRouting.Proofs.Address.Written
import MailRouting.Proofs.LocalDelivery.Case

/-!
# User names without a domain

A user name without an `@` stands for the mailbox of that local part in the default domain. Whether
it does as well as the whole mailbox hangs on what the mailbox consists of.

* `Directory.isLocalUser_localPart`, `Directory.isLocalUser_text` — the local part alone and the
  whole mailbox are answered like the mailbox;
* `Site.homeOf` — a site that delivers one mailbox;
* `Address.BareNameSuffices` — at every site with this default domain, both are answered alike;
* `Address.bareNameSuffices_iff` — that is so unless there is an `@` between the quotes of the local
  part, or the domain changes in lower case.
-/

namespace MailRouting

open LocalDelivery (isLocalEmail isLocalUser)

namespace Directory

variable {v : Directory} {a : Address}

/-- A user name with an `@` is read as a mailbox. -/
theorem isLocalUser_of_at {user : String} (hat : '@' ∈ user.toList) :
    v.isLocalUser user = match Address.parse (String.ofList (Text.lowercase user.toList)) with
      | .ok b => v.isLocalEmail b
      | .error _ => .ok false := by
  have hname : '@' ∈ (String.ofList (Text.lowercase user.toList)).toList := by
    rwa [String.toList_ofList, Text.at_mem_lowercase_iff]
  unfold isLocalUser userAddress
  rw [if_pos hname]
  generalize Address.parse (String.ofList (Text.lowercase user.toList)) = r
  cases r <;> rfl

/-- A local part without an `@` is answered like the mailbox in the default domain. -/
theorem isLocalUser_localPart (hdefault : v.domains.defaultDomain = a.domain)
    (hat : '@' ∉ a.localPart.toList) : v.isLocalUser a.localPart = v.isLocalEmail a.folded := by
  have hname : '@' ∉ a.lowered.toList := by rwa [a.at_mem_lowered_iff]
  have hparts : Address.ofParts a.lowered a.domain = .ok a.folded := by
    rw [a.folded_eq]
    exact Address.ofParts_of_check a.check_lowered
  unfold isLocalUser userAddress
  rw [← Address.lowered, if_neg hname, defaultDomain, serve, hdefault]
  by_cases hdown : Service.domains ∈ v.down
  · rw [if_pos hdown, isLocalEmail, containsDomain, serve, if_pos hdown]
    rfl
  · rw [if_neg hdown]
    simp only [bind, Except.bind, pure, Except.pure, hparts]

/-- A local part with an `@` is read as a mailbox and is none. -/
theorem isLocalUser_of_quoted_at (hat : '@' ∈ a.localPart.toList) :
    v.isLocalUser a.localPart = .ok false := by
  rw [isLocalUser_of_at hat, ← Address.lowered, a.parse_lowered]

/-- The whole mailbox is answered like the mailbox, if lower case leaves its domain as it is. -/
theorem isLocalUser_text {input : String} (hparse : Address.parse input = .ok a)
    (hdomain : Text.lowercase a.domain.text.toList = a.domain.text.toList) :
    v.isLocalUser a.text = v.isLocalEmail a.folded := by
  rw [isLocalUser_of_at a.at_mem_text, Address.parse_lowercase_text hparse hdomain]

end Directory

/-! ### A site with one user -/

/-- The site with the given default domain that delivers one mailbox and has no rules. -/
def Site.homeOf (d : Domain) (a : Address) : Site :=
  { domains := (DomainList.mk [d] d).register a.domain
    users := { principals := [.ofAddress a] } }

namespace Site

variable {d : Domain} {a b : Address}

theorem defaultDomain_homeOf : (homeOf d a).domains.defaultDomain = d := by
  unfold homeOf DomainList.register
  split <;> rfl

theorem contains_homeOf {e : Domain} :
    (homeOf d a).domains.contains e = true ↔ e = d ∨ e = a.domain := by
  unfold homeOf DomainList.register DomainList.contains
  rw [decide_eq_true_iff]
  split
  · rename_i hmem
    have hdomain : a.domain = d := List.mem_singleton.1 (of_decide_eq_true hmem)
    rw [List.mem_singleton, hdomain, or_self]
  · exact List.mem_cons.trans (or_congr_right List.mem_singleton)

/-- The one mailbox is delivered. -/
theorem isLocalEmail_homeOf : (homeOf d a).directory.isLocalEmail a = .ok true := by
  have hdomain : (homeOf d a).directory.containsDomain a.domain = .ok true :=
    congrArg Except.ok (contains_homeOf.2 (.inr rfl))
  have hmappings : (homeOf d a).directory.mappingsOf a = .ok [] := by
    show ((MappingTable.ofConfig {}).resolveParts a.localPart a.domain
      MappingKind.all).mapError _ = _
    rw [MappingTable.resolveParts, MappingTable.exploreParts, a.ofParts_localPart_domain]
    rfl
  have hprincipal : (homeOf d a).directory.mappedPrincipal a = .ok (.ofAddress a) := by
    rw [Directory.mappedPrincipal, hmappings]
    rfl
  rw [Directory.isLocalEmail, hdomain]
  show ((homeOf d a).directory.mappedPrincipal a >>= _) = _
  rw [hprincipal]
  exact congrArg Except.ok (decide_eq_true List.mem_cons_self)

/-- Mailboxes of a domain that is not served are not delivered. -/
theorem isLocalEmail_homeOf_of_foreign (hd : b.domain ≠ d) (ha : b.domain ≠ a.domain) :
    (homeOf d a).directory.isLocalEmail b = .ok false := by
  have hdomain : (homeOf d a).directory.containsDomain b.domain = .ok false := by
    refine congrArg Except.ok (Bool.eq_false_iff.2 fun h => ?_)
    exact (contains_homeOf.1 h).elim hd ha
  rw [Directory.isLocalEmail, hdomain]
  rfl

end Site

/-! ### When the bare name does -/

/-- At every site with this default domain the local part alone is answered like the whole
mailbox. -/
def Address.BareNameSuffices (a : Address) : Prop :=
  ∀ s : Site, s.users.virtualHosting = true → s.domains.defaultDomain = a.domain →
    SameAnswer (s.perform (isLocalUser (some a.localPart)).run).1
      (s.perform (isLocalUser (some a.text)).run).1

namespace Site

variable {s : Site} {a : Address}

theorem ne_empty_of_mem {c : Char} {user : String} (h : c ∈ user.toList) : user ≠ "" := by
  rintro rfl
  exact absurd h List.not_mem_nil

theorem perform_isLocalUser_localPart :
    (s.perform (isLocalUser (some a.localPart)).run).1 = s.directory.isLocalUser a.localPart := by
  obtain ⟨c, rest, hcons, _⟩ := LocalPart.head_of_check a.valid
  have hmem : c ∈ a.localPart.toList := hcons ▸ List.mem_cons_self
  exact (s.answers_isLocalUser (ne_empty_of_mem hmem)).result_eq

theorem perform_isLocalUser_text :
    (s.perform (isLocalUser (some a.text)).run).1 = s.directory.isLocalUser a.text :=
  (s.answers_isLocalUser (ne_empty_of_mem a.at_mem_text)).result_eq

end Site

/-- A local part with an `@` is read as a mailbox and is none, so that nobody is asked. -/
theorem LocalDelivery.trace_isLocalUser_of_quoted_at {σ : Type} {a : Address}
    (hat : '@' ∈ a.localPart.toList) (h : Handler σ) (s : σ) :
    (isLocalUser (some a.localPart)).run.trace h s = [] := by
  have haddress : userAddress a.lowered = pure (.error .missingAtSign) := by
    rw [userAddress, if_pos (a.at_mem_lowered_iff.2 hat), a.parse_lowered]
  rw [isLocalUser_of_ne_empty (Site.ne_empty_of_mem hat), ← Address.lowered, haddress]
  rfl

namespace Address

variable {input : String} {a : Address}

theorem bareNameSuffices_iff_forall :
    a.BareNameSuffices ↔
      ∀ s : Site, s.users.virtualHosting = true → s.domains.defaultDomain = a.domain →
        SameAnswer (s.directory.isLocalUser a.localPart) (s.directory.isLocalUser a.text) := by
  simp only [BareNameSuffices, Site.perform_isLocalUser_localPart, Site.perform_isLocalUser_text]

/-- With an `@` in the local part, the bare name does only if the whole mailbox in lower case is
none. -/
theorem bareNameSuffices_iff_of_at (hat : '@' ∈ a.localPart.toList) :
    a.BareNameSuffices ↔
      ∀ b, parse (String.ofList (Text.lowercase a.text.toList)) ≠ .ok b := by
  rw [bareNameSuffices_iff_forall]
  constructor
  · intro hsuffices b hb
    -- where `b` is delivered, the whole mailbox is answered with yes, and the bare name with no
    have hsame := hsuffices (.homeOf a.domain b) rfl Site.defaultDomain_homeOf
    rw [Directory.isLocalUser_of_quoted_at hat, Directory.isLocalUser_of_at a.at_mem_text,
      hb] at hsame
    have hfound : SameAnswer (.ok false)
        ((Site.homeOf a.domain b).directory.isLocalEmail b) := hsame
    rw [Site.isLocalEmail_homeOf] at hfound
    exact absurd hfound.eq_of_ok Bool.false_ne_true
  · intro hnone s _ _
    rw [Directory.isLocalUser_of_quoted_at hat, Directory.isLocalUser_of_at a.at_mem_text]
    split
    · rename_i b hb
      exact absurd hb (hnone b)
    · exact .refl _

/-- Without an `@` in the local part, the bare name does exactly if lower case leaves the domain as
it is. -/
theorem bareNameSuffices_iff_of_no_at (hparse : parse input = .ok a)
    (hat : '@' ∉ a.localPart.toList) :
    a.BareNameSuffices ↔ Text.lowercase a.domain.text.toList = a.domain.text.toList := by
  rw [bareNameSuffices_iff_forall]
  constructor
  · intro hsuffices
    -- where the folded form is delivered and no other domain is served, the bare name is answered
    -- with yes, and so the whole mailbox in lower case has to lie in that domain
    have hsame := hsuffices (.homeOf a.domain a.folded) rfl Site.defaultDomain_homeOf
    rw [Directory.isLocalUser_localPart Site.defaultDomain_homeOf hat, Site.isLocalEmail_homeOf,
      Directory.isLocalUser_of_at a.at_mem_text] at hsame
    cases hread : parse (String.ofList (Text.lowercase a.text.toList)) with
    | error e =>
      rw [hread] at hsame
      exact absurd hsame.eq_of_ok Bool.false_ne_true.symm
    | ok b =>
      rw [hread] at hsame
      have hfound : SameAnswer (.ok true)
          ((Site.homeOf a.domain a.folded).directory.isLocalEmail b) := hsame
      have hdomain : b.domain = a.domain := by
        by_contra hne
        have hfolded : b.domain ≠ a.folded.domain := by rwa [domain_folded]
        rw [Site.isLocalEmail_homeOf_of_foreign hne hfolded] at hfound
        exact absurd hfound.eq_of_ok Bool.false_ne_true.symm
      rw [← domain_of_parse_lowercase_text hread, hdomain]
  · intro hdomain s _ hdefault
    rw [Directory.isLocalUser_localPart hdefault hat, Directory.isLocalUser_text hparse hdomain]
    exact .refl _

/-- **When the bare name does.** Let a mailbox be read from a text. At all sites with virtual
hosting and its domain for their default one the local part alone is answered like the whole
mailbox, exactly if there is no `@` in the local part and lower case leaves the domain as it is (or
there is an `@`, and the whole mailbox in lower case is none either). A domain name is left as it
is, so that for the mailboxes of a domain name the `@` alone decides. A mailbox of the default
domain that is delivered is found under its local part exactly if there is no `@` in that; if there
is one, no authority is asked. -/
theorem bareNameSuffices_iff (hparse : parse input = .ok a) :
    (a.BareNameSuffices ↔
      if '@' ∈ a.localPart.toList then
        ∀ b, parse (String.ofList (Text.lowercase a.text.toList)) ≠ .ok b
      else Text.lowercase a.domain.text.toList = a.domain.text.toList) ∧
    (a.domain.isLiteral = false → (a.BareNameSuffices ↔ '@' ∉ a.localPart.toList)) ∧
    (∀ s : Site, s.domains.defaultDomain = a.domain →
      (s.perform (isLocalEmail (some a)).run).1 = .ok true →
        (s.perform (isLocalUser (some a.localPart)).run).1 =
          .ok (decide ('@' ∉ a.localPart.toList))) ∧
    ('@' ∈ a.localPart.toList →
      ∀ s, (isLocalUser (some a.localPart)).run.trace Site.handler s = []) := by
  by_cases hat : '@' ∈ a.localPart.toList
  · rw [if_pos hat, decide_eq_false (not_not_intro hat)]
    refine ⟨bareNameSuffices_iff_of_at hat, fun hliteral => ?_, fun s _ _ => ?_,
      fun _ s => LocalDelivery.trace_isLocalUser_of_quoted_at hat Site.handler s⟩
    · rw [bareNameSuffices_iff_of_at hat]
      have hread := parse_lowercase_text hparse (Domain.lowercase_of_not_literal hliteral)
      exact iff_of_false (fun hnone => hnone a.folded hread) (not_not_intro hat)
    · rw [Site.perform_isLocalUser_localPart, Directory.isLocalUser_of_quoted_at hat]
  · rw [if_neg hat, decide_eq_true hat]
    refine ⟨bareNameSuffices_iff_of_no_at hparse hat, fun hliteral => ?_,
      fun s hdefault hlocal => ?_, fun hat' => absurd hat' hat⟩
    · rw [bareNameSuffices_iff_of_no_at hparse hat]
      exact iff_of_true (Domain.lowercase_of_not_literal hliteral) hat
    · rw [(s.answers_isLocalEmail a).result_eq] at hlocal
      have hsame := s.directory.isLocalEmail_alike a.folded_eqUpToCase
      rw [hlocal] at hsame
      rw [Site.perform_isLocalUser_localPart, Directory.isLocalUser_localPart hdefault hat]
      exact hsame.eq_ok

theorem bareNameSuffices_bob :
    let bob : Address := ⟨"bob", .localhost, by rfl⟩
    parse "<bob@localhost>" = .ok bob ∧ bob.BareNameSuffices := by
  have hparse : parse "<bob@localhost>" = .ok ⟨"bob", .localhost, by rfl⟩ := by rfl
  exact ⟨hparse, ((bareNameSuffices_iff hparse).2.1 rfl).2 (by decide)⟩

/-- A mailbox with an `@` between the quotes of its local part. -/
def quotedAt : Address :=
  ⟨"\"a@b\"", .localhost, by rfl⟩

/-- At a site whose default domain is `localhost` the user of such a mailbox is found under the
whole mailbox and not under its local part. -/
theorem not_bareNameSuffices_quotedAt :
    parse "\"a@b\"@localhost" = .ok quotedAt ∧
      ∃ users, Users.add {} "\"a@b\"@localhost" = .ok users ∧
        let s : Site := { domains := .initial, users }
        (s.perform (isLocalUser (some "\"a@b\"@localhost")).run).1 = .ok true ∧
          (s.perform (isLocalUser (some "\"a@b\"")).run).1 = .ok false ∧
            ¬quotedAt.BareNameSuffices := by
  refine ⟨by rfl, ⟨true, [⟨"\"a@b\"@localhost"⟩]⟩, by rfl, by rfl, by rfl, fun hsuffices => ?_⟩
  have hsame := hsuffices { users := ⟨true, [⟨"\"a@b\"@localhost"⟩]⟩ } rfl rfl
  have hfound : SameAnswer (.ok false) (.ok true) := hsame
  exact absurd hfound.eq_of_ok Bool.false_ne_true

end Address

end MailRouting
