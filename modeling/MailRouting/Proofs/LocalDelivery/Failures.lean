import MailRouting.Proofs.LocalDelivery.Directory
import MailRouting.Proofs.LocalDelivery.Recipients
import MailRouting.Proofs.Text.Lowercase

/-!
# Failures of authorities

Whoever answers the questions about local delivery, with whatever state of its own: a failure ends
the work, and it is what the work comes to.

* `Routine.Exchange.failure?` — the failure that an answer is, under the name of its authority;
* `Reports` — nothing that was asked failed, or the last answer was the only failure and is the
  error that comes out;
* `Faithful` — work that asks only certain things and reports in every course; `Faithful.bind` puts
  two such works together;
* `defaultReads_of_ends_isLocalUser` — how often the default domain is asked for;
* `isLocalEmail_of_foreign` — what is asked about a mailbox of a domain that is not served;
* `failures_are_reported` — all of that about every run.
-/

namespace MailRouting

open Routine (Exchange)

/-! ### Answers that are failures -/

/-- The error of an answer, wrapped. -/
def wrappedError? {ε α : Type} (wrap : ε → ResolutionError) : Except ε α → Option ResolutionError
  | .ok _ => none
  | .error e => some (wrap e)

/-- The failure of an authority that an answer is, if it is one. -/
def Routine.Exchange.failure? : Exchange → Option ResolutionError
  | ⟨.containsDomain _, answer⟩ => wrappedError? .domains answer
  | ⟨.defaultDomain, answer⟩ => wrappedError? .domains answer
  | ⟨.containsUser _, answer⟩ => wrappedError? .users answer
  | ⟨.principalFor _, answer⟩ => wrappedError? .users answer
  | ⟨.resolvedMappings _ _ _, answer⟩ => wrappedError? .mappings answer
  | _ => none

/-- Whether it is the default domain that is asked for. -/
def Request.isDefaultDomain : Request → Bool
  | .defaultDomain => true
  | _ => false

namespace LocalDelivery

/-- Nothing that was asked failed and there is a result, or the last answer was a failure, no other
was, and it is the error that comes out. -/
def Reports {α : Type} (xs : List Exchange) : Except ResolutionError α → Prop
  | .ok _ => ∀ x ∈ xs, x.failure? = none
  | .error e => ∃ before x, xs = before ++ [x] ∧ (∀ y ∈ before, y.failure? = none) ∧
      x.failure? = some e

/-- In every course the work asks only what `P` admits, and reports what failed. -/
def Faithful (P : Request → Prop) {α : Type} (p : Lookup α) : Prop :=
  ∀ xs r, p.run.Ends xs r → (∀ x ∈ xs, P x.request) ∧ Reports xs r

variable {σ α β ε : Type} {h : Handler σ} {s : σ} {P P' : Request → Prop}

/-! ### Work that reports -/

/-- Work that asks nothing else either. -/
theorem Faithful.mono {p : Lookup α} (hp : Faithful P p) (h : ∀ r, P r → P' r) : Faithful P' p :=
  fun xs r hends => ⟨fun x hx => h x.request ((hp xs r hends).1 x hx), (hp xs r hends).2⟩

theorem Faithful.pure (a : α) : Faithful P (pure a : Lookup α) := by
  rintro xs r ⟨rfl, rfl⟩
  exact ⟨fun x hx => absurd hx List.not_mem_nil, fun x hx => absurd hx List.not_mem_nil⟩

theorem Faithful.logFinding (message : String) (fields : Log.Fields) :
    Faithful P (logFinding message fields) := by
  rintro xs r ⟨rfl, rfl⟩
  exact ⟨fun x hx => absurd hx List.not_mem_nil, fun x hx => absurd hx List.not_mem_nil⟩

/-- Work that goes on after work that reports. -/
theorem Faithful.bind {p : Lookup α} {f : α → Lookup β} (hp : Faithful P p)
    (hf : ∀ a, Faithful P (f a)) : Faithful P (p >>= f) := by
  intro xs r h
  rcases Routine.ends_run_bind_iff.1 h with ⟨e, hends, rfl⟩ | ⟨ys, a, zs, rfl, hends, hrest⟩
  · exact hp xs (.error e) hends
  · obtain ⟨hasked, hys⟩ := hp ys (.ok a) hends
    obtain ⟨hasked', hzs⟩ := hf a zs r hrest
    refine ⟨List.forall_mem_append.2 ⟨hasked, hasked'⟩, ?_⟩
    cases r with
    | ok b => exact List.forall_mem_append.2 ⟨hys, hzs⟩
    | error e =>
      obtain ⟨before, x, rfl, hbefore, hx⟩ := hzs
      exact ⟨ys ++ before, x, (List.append_assoc ys before [x]).symm,
        List.forall_mem_append.2 ⟨hys, hbefore⟩, hx⟩

/-- A question to one authority reports its failure under the name of the authority. -/
theorem Faithful.consult {wrap : ε → ResolutionError} {question : Routine (Except ε α)}
    (h : ∀ xs answer, question.Ends xs answer →
      ∃ x : Exchange, xs = [x] ∧ P x.request ∧ x.failure? = wrappedError? wrap answer) :
    Faithful P (consult wrap question) := by
  intro xs r hends
  obtain ⟨answer, hquestion, rfl⟩ := Routine.ends_map_iff.1
    (show (Except.mapError wrap <$> question).Ends xs r from hends)
  obtain ⟨x, rfl, hasked, hx⟩ := h xs answer hquestion
  refine ⟨List.forall_mem_singleton.2 hasked, ?_⟩
  cases answer with
  | ok a => exact List.forall_mem_singleton.2 hx
  | error e => exact ⟨[], x, rfl, fun y hy => absurd hy List.not_mem_nil, hx⟩

/-! ### The questions -/

/-- Anything but the default domain. -/
abbrev NotDefault (r : Request) : Prop :=
  r.isDefaultDomain = false

theorem faithful_containsDomain (d : Domain) : Faithful NotDefault (containsDomain d) :=
  .consult fun _ _ h => ⟨_, Routine.ends_request_iff.1 h, rfl, rfl⟩

theorem faithful_defaultDomain : Faithful (fun _ => True) defaultDomain :=
  .consult fun _ _ h => ⟨_, Routine.ends_request_iff.1 h, trivial, rfl⟩

theorem faithful_containsUser (p : Principal) : Faithful NotDefault (containsUser p) :=
  .consult fun _ _ h => ⟨_, Routine.ends_request_iff.1 h, rfl, rfl⟩

theorem faithful_principalOf (a : Address) : Faithful NotDefault (principalOf a) :=
  .consult fun _ _ h => ⟨_, Routine.ends_request_iff.1 h, rfl, rfl⟩

theorem faithful_mappingsOf (a : Address) : Faithful NotDefault (mappingsOf a) :=
  .consult fun _ _ h => ⟨_, Routine.ends_request_iff.1 h, rfl, rfl⟩

theorem faithful_isLocalServer (d : Domain) : Faithful NotDefault (isLocalServer d) :=
  (faithful_containsDomain d).bind fun found =>
    (Faithful.logFinding _ _).bind fun _ => .pure found

theorem faithful_isLocalEmail (a : Option Address) : Faithful NotDefault (isLocalEmail a) := by
  cases a with
  | none => exact .pure false
  | some a =>
    refine (faithful_isLocalServer a.domain).bind fun found => ?_
    cases found with
    | false => exact .pure false
    | true =>
      have hprincipal : Faithful NotDefault (mappedPrincipal a) :=
        (faithful_mappingsOf a).bind fun mappings => faithful_principalOf _
      refine hprincipal.bind fun principal => (faithful_containsUser principal).bind fun found => ?_
      exact (Faithful.logFinding _ _).bind fun _ => .pure found

theorem faithful_localRecipients (xs : List Address) :
    Faithful NotDefault (localRecipients xs) := by
  induction xs with
  | nil => exact .pure []
  | cons a rest ih =>
    exact (faithful_isLocalEmail (some a)).bind fun found => ih.bind fun others => .pure _

theorem faithful_ofUserAddress (name : String) (address : Except AddressError Address) :
    Faithful NotDefault (ofUserAddress name address) := by
  cases address with
  | ok a => exact faithful_isLocalEmail (some a)
  | error e => exact (Faithful.logFinding _ _).bind fun _ => .pure false

theorem faithful_userAddress (name : String) : Faithful (fun _ => True) (userAddress name) := by
  unfold userAddress
  split
  · exact .pure _
  · exact faithful_defaultDomain.bind fun d => .pure _

theorem faithful_isLocalUser (user : Option String) :
    Faithful (fun _ => True) (isLocalUser user) := by
  cases user with
  | none => exact .pure false
  | some user =>
    by_cases hempty : user = ""
    · rw [hempty, isLocalUser_empty]
      exact .pure false
    · rw [isLocalUser_of_ne_empty hempty]
      exact (faithful_userAddress _).bind fun address =>
        (faithful_ofUserAddress _ address).mono fun _ _ => trivial

/-! ### The default domain -/

/-- How often the default domain is asked for. -/
def defaultReads (xs : List Exchange) : Nat :=
  xs.countP (·.request.isDefaultDomain)

/-- Work that asks only for other things does not ask for the default domain. -/
theorem Faithful.defaultReads_eq {p : Lookup α} (hp : Faithful NotDefault p)
    {xs : List Exchange} {r : Except ResolutionError α} (h : p.run.Ends xs r) :
    defaultReads xs = 0 :=
  List.countP_eq_zero.2 fun x hx => Bool.eq_false_iff.1 ((hp xs r h).1 x hx)

theorem defaultReads_of_ends_defaultDomain {xs : List Exchange} {r : Except ResolutionError Domain}
    (h : defaultDomain.run.Ends xs r) : defaultReads xs = 1 := by
  obtain ⟨answer, hrequest, -⟩ := Routine.ends_map_iff.1
    (show (Except.mapError ResolutionError.domains <$> Routine.request .defaultDomain).Ends xs r
      from h)
  rw [Routine.ends_request_iff.1 hrequest]
  rfl

/-- The mailbox of a user name takes the default domain exactly if there is no `@`. -/
theorem defaultReads_of_ends_userAddress {name : String} {xs : List Exchange}
    {r : Except ResolutionError (Except AddressError Address)}
    (h : (userAddress name).run.Ends xs r) :
    defaultReads xs = if '@' ∈ name.toList then 0 else 1 := by
  unfold userAddress at h
  split at h <;> rename_i hat
  · obtain ⟨rfl, rfl⟩ := h
    exact (if_pos hat).symm
  · rw [if_neg hat]
    rcases Routine.ends_run_bind_iff.1 h with ⟨e, hends, rfl⟩ | ⟨ys, d, zs, rfl, hends, rfl, rfl⟩
    · exact defaultReads_of_ends_defaultDomain hends
    · rw [List.append_nil]
      exact defaultReads_of_ends_defaultDomain hends

/-- What comes after the mailbox of a user name takes the default domain no more. -/
theorem defaultReads_of_ends_ofUserAddress {name : String} {xs : List Exchange}
    {r : Except ResolutionError Bool}
    (h : (userAddress name >>= ofUserAddress name).run.Ends xs r) :
    defaultReads xs = if '@' ∈ name.toList then 0 else 1 := by
  rcases Routine.ends_run_bind_iff.1 h with ⟨e, hends, rfl⟩ | ⟨ys, address, zs, rfl, hends, hrest⟩
  · exact defaultReads_of_ends_userAddress hends
  · rw [defaultReads, List.countP_append, ← defaultReads, ← defaultReads,
      defaultReads_of_ends_userAddress hends,
      (faithful_ofUserAddress name address).defaultReads_eq hrest, Nat.add_zero]

/-- A user name takes the default domain exactly if it is not empty and has no `@`. -/
theorem defaultReads_of_ends_isLocalUser {user : String} {xs : List Exchange}
    {r : Except ResolutionError Bool} (h : (isLocalUser (some user)).run.Ends xs r) :
    defaultReads xs = if user ≠ "" ∧ '@' ∉ user.toList then 1 else 0 := by
  by_cases hempty : user = ""
  · rw [hempty, isLocalUser_empty] at h
    obtain ⟨rfl, -⟩ := h
    exact (if_neg fun hasked => hasked.1 hempty).symm
  · rw [isLocalUser_of_ne_empty hempty] at h
    generalize hname : String.ofList (Text.lowercase user.toList) = name at h
    rw [defaultReads_of_ends_ofUserAddress h, ← hname, String.toList_ofList]
    simp only [Text.at_mem_lowercase_iff, ne_eq, hempty, not_false_eq_true, true_and, ite_not]

/-! ### Every run -/

/-- A mailbox of a domain that is not served here is not asked about any further. -/
theorem isLocalEmail_of_foreign {a : Address}
    (hforeign : (h.answer (.containsDomain a.domain) s).1 = .ok false) :
    (isLocalEmail (some a)).run.trace h s = [⟨.containsDomain a.domain, .ok false⟩] ∧
      (isLocalEmail (some a)).run.result h s = .ok false := by
  have hanswer : (containsDomain a.domain).run.result h s = .ok false :=
    congrArg (Except.mapError ResolutionError.domains) hforeign
  have hasked : (containsDomain a.domain).run.trace h s =
      [⟨.containsDomain a.domain, .ok false⟩] :=
    congrArg (fun answer => [Exchange.mk (.containsDomain a.domain) answer]) hforeign
  have hserver : (isLocalServer a.domain).run.result h s = .ok false := result_bind_of_ok hanswer
  have hserverAsked : (isLocalServer a.domain).run.trace h s =
      [⟨.containsDomain a.domain, .ok false⟩] :=
    (trace_bind_of_ok hanswer).trans (congrArg (· ++ []) hasked)
  exact ⟨(trace_bind_of_ok hserver).trans (congrArg (· ++ []) hserverAsked),
    result_bind_of_ok hserver⟩

/-- A faithful work reports in every run, whoever answers. -/
theorem Faithful.reports {p : Lookup α} (hp : Faithful P p) (h : Handler σ) (s : σ) :
    Reports (p.run.trace h s) (p.run.result h s) :=
  (hp _ _ (Routine.ends_trace_result h p.run s)).2

/-- **No failure is masked.** Whoever answers, in whatever state: a question about local delivery
has a result only if everything that was asked had an answer, and otherwise nothing is asked after
the first failure, which comes out under the name of its authority. Without a user name or a mailbox
nothing is asked, a mailbox of a domain that is not served here costs one question, and the default
domain is asked for once if a user name is not empty and has no `@`, and in no other case. A list is
asked about mailbox by mailbox: it comes to its local mailboxes exactly if every question about one
has an answer, and otherwise to the first failure, with no question about any mailbox after that. -/
theorem failures_are_reported (h : Handler σ) (s : σ) :
    ((∀ d, Reports ((isLocalServer d).run.trace h s) ((isLocalServer d).run.result h s)) ∧
      (∀ u, Reports ((isLocalUser u).run.trace h s) ((isLocalUser u).run.result h s)) ∧
      (∀ a, Reports ((isLocalEmail a).run.trace h s) ((isLocalEmail a).run.result h s)) ∧
      ∀ xs, Reports ((localRecipients xs).run.trace h s) ((localRecipients xs).run.result h s)) ∧
    ((∀ u, u = none ∨ u = some "" →
        (isLocalUser u).run.trace h s = [] ∧ (isLocalUser u).run.result h s = .ok false) ∧
      ((isLocalEmail none).run.trace h s = [] ∧ (isLocalEmail none).run.result h s = .ok false) ∧
      ∀ a : Address, (h.answer (.containsDomain a.domain) s).1 = .ok false →
        (isLocalEmail (some a)).run.trace h s = [⟨.containsDomain a.domain, .ok false⟩] ∧
          (isLocalEmail (some a)).run.result h s = .ok false) ∧
    ((∀ u, defaultReads ((isLocalUser (some u)).run.trace h s) =
        if u ≠ "" ∧ '@' ∉ u.toList then 1 else 0) ∧
      (∀ d, defaultReads ((isLocalServer d).run.trace h s) = 0) ∧
      (∀ a, defaultReads ((isLocalEmail a).run.trace h s) = 0) ∧
      ∀ xs, defaultReads ((localRecipients xs).run.trace h s) = 0) ∧
    ∀ xs, (inquiries h xs s).map (·.address) = xs ∧
      (∀ ys, (localRecipients xs).run.result h s = .ok ys ↔
        (∀ q ∈ inquiries h xs s, ∃ found, q.answer = .ok found) ∧
          ys = ((inquiries h xs s).filter (·.found)).map (·.address)) ∧
      ((∀ q ∈ inquiries h xs s, ∃ found, q.answer = .ok found) →
        (localRecipients xs).run.trace h s = (inquiries h xs s).flatMap (·.asked)) ∧
      ∀ before q after e, inquiries h xs s = before ++ q :: after →
        (∀ p ∈ before, ∃ found, p.answer = .ok found) → q.answer = .error e →
          (localRecipients xs).run.result h s = .error e ∧
            (localRecipients xs).run.trace h s = (before ++ [q]).flatMap (·.asked) := by
  refine ⟨⟨fun d => (faithful_isLocalServer d).reports h s,
    fun u => (faithful_isLocalUser u).reports h s, fun a => (faithful_isLocalEmail a).reports h s,
    fun xs => (faithful_localRecipients xs).reports h s⟩, ⟨?_, ⟨rfl, rfl⟩,
    fun a => isLocalEmail_of_foreign⟩, ⟨fun u => ?_, fun d => ?_, fun a => ?_, fun xs => ?_⟩,
    fun xs => ⟨map_address_inquiries xs s, fun ys => localRecipients_eq_ok_iff,
      trace_localRecipients, fun before q after e => localRecipients_of_failure⟩⟩
  · rintro u (rfl | rfl) <;> exact ⟨rfl, rfl⟩
  · exact defaultReads_of_ends_isLocalUser (Routine.ends_trace_result h _ s)
  · exact (faithful_isLocalServer d).defaultReads_eq (Routine.ends_trace_result h _ s)
  · exact (faithful_isLocalEmail a).defaultReads_eq (Routine.ends_trace_result h _ s)
  · exact (faithful_localRecipients xs).defaultReads_eq (Routine.ends_trace_result h _ s)

/-- A site that serves `localhost`, with its mappings down. -/
def outageSite : Site :=
  { domains := .ofConfig {}, down := [.mappings] }

theorem failures_are_reported_outageSite :
    let eve : Address := ⟨"eve", ⟨"remote.com", by rfl, by rfl⟩, by rfl⟩
    let bob : Address := ⟨"bob", .localhost, by rfl⟩
    let p := (localRecipients [eve, bob, eve]).run
    p.result Site.handler outageSite = .error (.mappings Site.mappingsOutage) ∧
      p.trace Site.handler outageSite =
        [⟨.containsDomain eve.domain, .ok false⟩, ⟨.containsDomain .localhost, .ok true⟩,
          ⟨.resolvedMappings "bob" .localhost MappingKind.all, .error Site.mappingsOutage⟩] := by
  intro eve bob p
  obtain ⟨-, -, -, hlist⟩ := failures_are_reported Site.handler outageSite
  obtain ⟨-, -, -, hfailure⟩ := hlist [eve, bob, eve]
  exact hfailure [_] _ [_] _ rfl (List.forall_mem_singleton.2 ⟨false, rfl⟩) rfl

end LocalDelivery

end MailRouting
