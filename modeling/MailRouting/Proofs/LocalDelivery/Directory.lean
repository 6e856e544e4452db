import MailRouting.Proofs.Routine
import MailRouting.Site

/-!
# Local delivery at a site

What a site answers about local delivery hangs on a part of it that no question changes, and not on
its counts, its log or its queues.

* `LocalDelivery.isLocalUser_of_ne_empty` — the question about a user name in its two steps;
* `Directory`, `Site.directory` — that part: the domains, the users, the mappings, and what is down;
* `Directory.isLocalEmail`, `Directory.isLocalUser` — the answers, as functions of a directory;
* `Site.Answers` — a question has this answer at a site, and leaves the directory as it is;
* `Site.answers_isLocalEmail`, `Site.answers_isLocalUser` — the questions have the answers of the
  directory.
-/

namespace MailRouting

/-! ### The question about a user name -/

namespace LocalDelivery

/-- What is asked about a user name in lower case when it is known what mailbox it stands for. -/
def ofUserAddress (name : String) : Except AddressError Address → Lookup Bool
  | .ok a => isLocalEmail (some a)
  | .error e => do
    logFinding "Not a valid user name" [("user", name), ("err", e.message)]
    pure false

theorem isLocalUser_empty : isLocalUser (some "") = pure false :=
  rfl

theorem isLocalUser_of_ne_empty {user : String} (h : user ≠ "") :
    isLocalUser (some user) =
      userAddress (String.ofList (Text.lowercase user.toList)) >>=
        ofUserAddress (String.ofList (Text.lowercase user.toList)) := by
  have hempty : ¬user.isEmpty = true := by rwa [String.isEmpty_iff]
  rw [isLocalUser, if_neg hempty]
  generalize String.ofList (Text.lowercase user.toList) = name
  refine bind_congr fun address => ?_
  cases address <;> rfl

end LocalDelivery

/-! ### Directories -/

/-- What the answers of a site about local delivery hang on. -/
structure Directory where
  domains : DomainList
  users : Users
  mappings : MappingTable
  /-- Whether the whole mailbox is taken for its principal. -/
  fullAddressPrincipals : Bool
  /-- The services that are down. -/
  down : List Service

/-- The directory of a site. -/
def Site.directory (s : Site) : Directory :=
  ⟨s.domains, s.users, s.mappings, s.fullAddressPrincipals, s.down⟩

/-! ### The answers of a directory -/

namespace Directory

/-- The answer of a service, or the error of one that is down. -/
def serve (v : Directory) (service : Service) (outage : ResolutionError) (answer : α) :
    Except ResolutionError α :=
  if service ∈ v.down then .error outage else .ok answer

/-- Whether a domain is served here. -/
def containsDomain (v : Directory) (d : Domain) : Except ResolutionError Bool :=
  v.serve .domains (.domains Site.domainsOutage) (v.domains.contains d)

/-- The default domain. -/
def defaultDomain (v : Directory) : Except ResolutionError Domain :=
  v.serve .domains (.domains Site.domainsOutage) v.domains.defaultDomain

/-- Whether a principal is a known user. -/
def containsUser (v : Directory) (p : Principal) : Except ResolutionError Bool :=
  v.serve .users (.users Site.usersOutage) (v.users.contains p)

/-- The principal of a mailbox. -/
def principalOf (v : Directory) (a : Address) : Except ResolutionError Principal :=
  if v.fullAddressPrincipals then .ok (.ofAddress a)
  else v.serve .users (.users Site.usersOutage) (v.users.principalFor a)

/-- All mappings of a mailbox. -/
def mappingsOf (v : Directory) (a : Address) : Except ResolutionError (List Mapping) :=
  if .mappings ∈ v.down then .error (.mappings Site.mappingsOutage)
  else (v.mappings.resolveParts a.localPart a.domain MappingKind.all).mapError .mappings

/-- The principal of a mailbox after the mappings. -/
def mappedPrincipal (v : Directory) (a : Address) : Except ResolutionError Principal := do
  let mappings ← v.mappingsOf a
  v.principalOf ((firstAddress? mappings).getD a)

/-- Whether a mailbox is delivered here. -/
def isLocalEmail (v : Directory) (a : Address) : Except ResolutionError Bool := do
  if ← v.containsDomain a.domain then
    let principal ← v.mappedPrincipal a
    v.containsUser principal
  else pure false

/-- The mailbox that a user name in lower case stands for. -/
def userAddress (v : Directory) (name : String) :
    Except ResolutionError (Except AddressError Address) := do
  if '@' ∈ name.toList then pure (Address.parse name)
  else
    let d ← v.defaultDomain
    pure (Address.ofParts name d)

/-- Whether a user name, which is not empty, names a mailbox that is delivered here. -/
def isLocalUser (v : Directory) (user : String) : Except ResolutionError Bool := do
  match ← v.userAddress (String.ofList (Text.lowercase user.toList)) with
  | .ok a => v.isLocalEmail a
  | .error _ => pure false

end Directory

/-! ### Questions at a site -/

namespace Site

/-- The question has this answer at the site, and the directory is the same after it. -/
def Answers (s : Site) (p : Lookup α) (r : Except ResolutionError α) : Prop :=
  ∃ s', s.perform p.run = (r, s') ∧ s'.directory = s.directory

variable {s : Site} {p : Lookup α} {f : α → Lookup β}

theorem Answers.result_eq {r : Except ResolutionError α} (h : s.Answers p r) :
    (s.perform p.run).1 = r := by
  obtain ⟨s', hrun, _⟩ := h
  rw [hrun]

theorem answers_pure (a : α) : s.Answers (pure a : Lookup α) (.ok a) :=
  ⟨s, rfl, rfl⟩

theorem answers_logFinding (message : String) (fields : Log.Fields) :
    s.Answers (LocalDelivery.logFinding message fields) (.ok ()) :=
  ⟨s.note (.event ⟨.debug, Log.resourcesTarget, message, fields⟩), rfl, rfl⟩

/-- What goes on after a question is asked where that one left the site. -/
theorem Answers.bind {r : Except ResolutionError α} {g : α → Except ResolutionError β}
    (hp : s.Answers p r)
    (hf : ∀ a (s' : Site), s'.directory = s.directory → s'.Answers (f a) (g a)) :
    s.Answers (p >>= f) (r >>= g) := by
  obtain ⟨s', hrun, hsame⟩ := hp
  have hbind : s.perform (p >>= f).run = (ExceptT.bindCont f r).run handler s' := by
    show (p.run >>= ExceptT.bindCont f).run handler s = _
    rw [Routine.run_bind, Routine.result, show p.run.run handler s = (r, s') from hrun]
  cases r with
  | error e => exact ⟨s', hbind, hsame⟩
  | ok a =>
    obtain ⟨s'', hrun', hsame'⟩ := hf a s' hsame
    exact ⟨s'', hbind.trans hrun', hsame'.trans hsame⟩

/-! ### Questions to one service -/

/-- A service that is up answers, and one that is down fails; neither changes the directory. -/
theorem serve_eq {ε : Type} (service : Service) (outage : ε) (answer : Site → Except ε α × Site) :
    s.serve service outage answer =
      if service ∈ s.directory.down then (.error outage, s.count service)
      else answer (s.count service) := by
  by_cases hdown : service ∈ s.down
  · exact (if_pos (decide_eq_true hdown)).trans (if_pos hdown).symm
  · exact (if_neg fun h => hdown (of_decide_eq_true h)).trans (if_neg hdown).symm

theorem answers_containsDomain (s : Site) (d : Domain) :
    s.Answers (LocalDelivery.containsDomain d) (s.directory.containsDomain d) := by
  refine ⟨s.count .domains, ?_, rfl⟩
  show ((s.containsDomain d).1.mapError ResolutionError.domains, (s.containsDomain d).2) = _
  rw [Site.containsDomain, serve_eq, Directory.containsDomain, Directory.serve]
  split <;> rfl

theorem answers_defaultDomain (s : Site) :
    s.Answers LocalDelivery.defaultDomain s.directory.defaultDomain := by
  refine ⟨s.count .domains, ?_, rfl⟩
  show (s.defaultDomain.1.mapError ResolutionError.domains, s.defaultDomain.2) = _
  rw [Site.defaultDomain, serve_eq, Directory.defaultDomain, Directory.serve]
  split <;> rfl

theorem answers_containsUser (s : Site) (p : Principal) :
    s.Answers (LocalDelivery.containsUser p) (s.directory.containsUser p) := by
  refine ⟨s.count .users, ?_, rfl⟩
  show ((s.containsUser p).1.mapError ResolutionError.users, (s.containsUser p).2) = _
  rw [Site.containsUser, serve_eq, Directory.containsUser, Directory.serve]
  split <;> rfl

theorem answers_principalOf (s : Site) (a : Address) :
    s.Answers (LocalDelivery.principalOf a) (s.directory.principalOf a) := by
  have hrun : s.perform (LocalDelivery.principalOf a).run =
      ((s.contextPrincipal a).1.mapError .users, (s.contextPrincipal a).2) := rfl
  rw [contextPrincipal] at hrun
  by_cases hfull : s.fullAddressPrincipals = true
  · rw [if_pos hfull] at hrun
    refine ⟨s, hrun.trans ?_, rfl⟩
    rw [Directory.principalOf, if_pos (show s.directory.fullAddressPrincipals = true from hfull)]
    rfl
  · rw [if_neg hfull, principalFor, serve_eq] at hrun
    refine ⟨s.count .users, hrun.trans ?_, rfl⟩
    rw [Directory.principalOf, if_neg (show ¬s.directory.fullAddressPrincipals = true from hfull),
      Directory.serve]
    split <;> rfl

theorem answers_mappingsOf (s : Site) (a : Address) :
    s.Answers (LocalDelivery.mappingsOf a) (s.directory.mappingsOf a) := by
  have hrun : s.perform (LocalDelivery.mappingsOf a).run =
      ((s.resolvedMappings a.localPart a.domain MappingKind.all).1.mapError .mappings,
        (s.resolvedMappings a.localPart a.domain MappingKind.all).2) := rfl
  rw [resolvedMappings, serve_eq] at hrun
  unfold Directory.mappingsOf
  by_cases hdown : Service.mappings ∈ s.directory.down
  · rw [if_pos hdown] at hrun ⊢
    exact ⟨s.count .mappings, hrun, rfl⟩
  · rw [if_neg hdown] at hrun ⊢
    exact ⟨_, hrun, rfl⟩

/-! ### The questions of routing -/

theorem answers_isLocalServer (s : Site) (d : Domain) :
    s.Answers (LocalDelivery.isLocalServer d) (s.directory.containsDomain d) := by
  rw [← bind_pure (s.directory.containsDomain d)]
  refine (s.answers_containsDomain d).bind fun found s' _ => ?_
  exact (answers_logFinding _ _).bind fun _ _ _ => answers_pure found

theorem answers_mappedPrincipal (s : Site) (a : Address) :
    s.Answers (LocalDelivery.mappedPrincipal a) (s.directory.mappedPrincipal a) := by
  refine (s.answers_mappingsOf a).bind fun mappings s' hsame => ?_
  rw [← hsame]
  exact s'.answers_principalOf _

/-- The question about a mailbox has the answer of the directory. -/
theorem answers_isLocalEmail (s : Site) (a : Address) :
    s.Answers (LocalDelivery.isLocalEmail (some a)) (s.directory.isLocalEmail a) := by
  refine (s.answers_isLocalServer a.domain).bind fun found s' hsame => ?_
  cases found with
  | false => exact answers_pure false
  | true =>
    rw [← hsame]
    refine (s'.answers_mappedPrincipal a).bind fun principal s'' hsame' => ?_
    rw [← hsame', ← bind_pure (s''.directory.containsUser principal)]
    refine (s''.answers_containsUser principal).bind fun found _ _ => ?_
    exact (answers_logFinding _ _).bind fun _ _ _ => answers_pure found

theorem answers_userAddress (s : Site) (name : String) :
    s.Answers (LocalDelivery.userAddress name) (s.directory.userAddress name) := by
  unfold LocalDelivery.userAddress Directory.userAddress
  by_cases hat : '@' ∈ name.toList
  · rw [if_pos hat, if_pos hat]
    exact answers_pure _
  · rw [if_neg hat, if_neg hat]
    exact s.answers_defaultDomain.bind fun d _ _ => answers_pure _

/-- The question about a user name has the answer of the directory. -/
theorem answers_isLocalUser (s : Site) {user : String} (hne : user ≠ "") :
    s.Answers (LocalDelivery.isLocalUser (some user)) (s.directory.isLocalUser user) := by
  rw [LocalDelivery.isLocalUser_of_ne_empty hne]
  refine (s.answers_userAddress _).bind fun address s' hsame => ?_
  rw [← hsame]
  cases address with
  | ok a => exact s'.answers_isLocalEmail a
  | error e => exact (answers_logFinding _ _).bind fun _ _ _ => answers_pure false

end Site

end MailRouting
