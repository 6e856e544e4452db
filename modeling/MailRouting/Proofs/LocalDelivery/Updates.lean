import Mathlib.Data.List.Nodup
import MailRouting.Proofs.LocalDelivery.Directory
import MailRouting.Proofs.Mapping.Rules

/-!
# Local delivery when a site changes

What a change of the domains, the users or the mappings does to the answers about local delivery,
and which of them it leaves alone.

* `DomainList.contains_configure`, `DomainList.contains_add`, `DomainList.contains_remove` — what is
  registered after a change; `Users.contains_add`, `Users.contains_remove` — who is known after one;
* `Update`, `Site.update` — the changes of a site, and the site after one that is not refused;
* `Site.Reachable` — the sites that come about so; `Site.Reachable.kept` — no domain and no user is
  held twice there;
* `Site.LeadsTo` — a mailbox of a served domain has this principal after the mappings;
* `Site.localAnswer_congr` — what has to stay the same for an answer to stay the same;
* `Site.updates_change_their_own` — which answers a change reaches, and what becomes of them.
-/

namespace MailRouting

/-! ### Domains -/

namespace DomainList

variable {l l' : DomainList} {d e : Domain}

theorem contains_iff : l.contains d = true ↔ d ∈ l.registered :=
  decide_eq_true_iff

theorem contains_register (l : DomainList) (d e : Domain) :
    (l.register d).contains e = true ↔ l.contains e = true ∨ e = d := by
  unfold register
  by_cases h : l.contains d = true
  · rw [if_pos h]
    exact (or_iff_left_of_imp fun heq => heq ▸ h).symm
  · rw [if_neg h, contains_iff, contains_iff, List.mem_append, List.mem_singleton]

theorem nodup_register (h : l.registered.Nodup) (d : Domain) :
    (l.register d).registered.Nodup := by
  unfold register
  by_cases hd : l.contains d = true
  · rwa [if_pos hd]
  · rw [if_neg hd, ← List.concat_eq_append]
    exact h.concat fun hmem => hd (contains_iff.2 hmem)

theorem contains_foldl_register (ds : List Domain) (l : DomainList) (e : Domain) :
    (ds.foldl register l).contains e = true ↔ l.contains e = true ∨ e ∈ ds := by
  induction ds generalizing l with
  | nil => exact (or_iff_left List.not_mem_nil).symm
  | cons d ds ih => rw [List.foldl_cons, ih, contains_register, List.mem_cons, or_assoc]

theorem nodup_foldl_register (ds : List Domain) (h : l.registered.Nodup) :
    (ds.foldl register l).registered.Nodup := by
  induction ds generalizing l with
  | nil => exact h
  | cons d ds ih => exact ih (nodup_register h d)

/-- Settings register the default domain and all that they list, and unregister none. -/
theorem contains_configure (l : DomainList) (config : DomainListConfig) (e : Domain) :
    (l.configure config).contains e = true ↔
      l.contains e = true ∨ e = config.defaultDomain.getD l.defaultDomain ∨
        e ∈ config.domains := by
  unfold configure
  rw [contains_foldl_register, contains_register, or_assoc]
  rfl

theorem nodup_configure (h : l.registered.Nodup) (config : DomainListConfig) :
    (l.configure config).registered.Nodup := by
  refine nodup_foldl_register _ (nodup_register ?_ _)
  exact h

theorem add_eq_ok_iff :
    l.add d = .ok l' ↔
      l.contains d = false ∧ { l with registered := l.registered ++ [d] } = l' := by
  unfold add
  cases l.contains d with
  | true => exact iff_of_false nofun nofun
  | false => rw [if_neg Bool.false_ne_true, Except.ok.injEq, and_iff_right rfl]

theorem remove_eq_ok_iff :
    l.remove d = .ok l' ↔
      l.defaultDomain ≠ d ∧ l.contains d = true ∧
        { l with registered := l.registered.erase d } = l' := by
  unfold remove
  by_cases hdefault : l.defaultDomain = d
  · rw [if_pos hdefault]
    exact iff_of_false nofun fun h => h.1 hdefault
  · rw [if_neg hdefault, and_iff_right hdefault]
    cases l.contains d with
    | true => rw [if_pos rfl, Except.ok.injEq, and_iff_right rfl]
    | false => exact iff_of_false nofun nofun

theorem contains_add (h : l.add d = .ok l') (e : Domain) :
    l'.contains e = true ↔ l.contains e = true ∨ e = d := by
  obtain ⟨-, rfl⟩ := add_eq_ok_iff.1 h
  rw [contains_iff, contains_iff, List.mem_append, List.mem_singleton]

theorem contains_remove (hnodup : l.registered.Nodup) (h : l.remove d = .ok l') (e : Domain) :
    l'.contains e = true ↔ e ≠ d ∧ l.contains e = true := by
  obtain ⟨-, -, rfl⟩ := remove_eq_ok_iff.1 h
  rw [contains_iff, contains_iff, hnodup.mem_erase_iff]

theorem nodup_add (hnodup : l.registered.Nodup) (h : l.add d = .ok l') : l'.registered.Nodup := by
  obtain ⟨hnot, rfl⟩ := add_eq_ok_iff.1 h
  rw [← List.concat_eq_append]
  exact hnodup.concat (of_decide_eq_false hnot)

theorem nodup_remove (hnodup : l.registered.Nodup) (h : l.remove d = .ok l') :
    l'.registered.Nodup := by
  obtain ⟨-, -, rfl⟩ := remove_eq_ok_iff.1 h
  exact hnodup.erase d

end DomainList

/-! ### Users -/

namespace Users

variable {u u' : Users} {name : String} {q : Principal}

theorem contains_iff : u.contains q = true ↔ q ∈ u.principals :=
  decide_eq_true_iff

theorem add_eq_ok_iff :
    u.add name = .ok u' ↔
      ∃ p, u.principalOfName name = .ok p ∧ u.contains p = false ∧
        { u with principals := u.principals ++ [p] } = u' := by
  show (u.principalOfName name >>= fun p => _) = Except.ok u' ↔ _
  cases u.principalOfName name with
  | error e => exact iff_of_false nofun nofun
  | ok p =>
    show (if u.contains p = true then _ else _) = _ ↔ _
    cases hp : u.contains p with
    | true => exact iff_of_false nofun (by rintro ⟨_, ⟨⟩, hnot, _⟩; simp [hp] at hnot)
    | false =>
      rw [if_neg Bool.false_ne_true, Except.ok.injEq]
      refine ⟨fun h => ⟨p, rfl, hp, h⟩, ?_⟩
      rintro ⟨_, ⟨⟩, _, h⟩
      exact h

theorem remove_eq_ok_iff :
    u.remove name = .ok u' ↔
      ∃ p, u.principalOfName name = .ok p ∧ u.contains p = true ∧
        { u with principals := u.principals.erase p } = u' := by
  show (u.principalOfName name >>= fun p => _) = Except.ok u' ↔ _
  cases u.principalOfName name with
  | error e => exact iff_of_false nofun nofun
  | ok p =>
    show (if u.contains p = true then _ else _) = _ ↔ _
    cases hp : u.contains p with
    | false => exact iff_of_false nofun (by rintro ⟨_, ⟨⟩, hmem, _⟩; simp [hp] at hmem)
    | true =>
      rw [if_pos rfl, Except.ok.injEq]
      refine ⟨fun h => ⟨p, rfl, hp, h⟩, ?_⟩
      rintro ⟨_, ⟨⟩, _, h⟩
      exact h

/-- A name that is added was not known, and nobody else becomes known with it. -/
theorem contains_add (h : u.add name = .ok u') :
    ∃ p, u.principalOfName name = .ok p ∧ u.contains p = false ∧
      u'.virtualHosting = u.virtualHosting ∧
        ∀ q, u'.contains q = true ↔ u.contains q = true ∨ q = p := by
  obtain ⟨p, hp, hnot, rfl⟩ := add_eq_ok_iff.1 h
  refine ⟨p, hp, hnot, rfl, fun q => ?_⟩
  rw [contains_iff, contains_iff, List.mem_append, List.mem_singleton]

/-- A name that is removed was known, and nobody else is forgotten with it. -/
theorem contains_remove (hnodup : u.principals.Nodup) (h : u.remove name = .ok u') :
    ∃ p, u.principalOfName name = .ok p ∧ u.contains p = true ∧
      u'.virtualHosting = u.virtualHosting ∧
        ∀ q, u'.contains q = true ↔ q ≠ p ∧ u.contains q = true := by
  obtain ⟨p, hp, hmem, rfl⟩ := remove_eq_ok_iff.1 h
  refine ⟨p, hp, hmem, rfl, fun q => ?_⟩
  rw [contains_iff, contains_iff, hnodup.mem_erase_iff]

theorem nodup_add (hnodup : u.principals.Nodup) (h : u.add name = .ok u') :
    u'.principals.Nodup := by
  obtain ⟨p, -, hnot, rfl⟩ := add_eq_ok_iff.1 h
  rw [← List.concat_eq_append]
  exact hnodup.concat (of_decide_eq_false hnot)

theorem nodup_remove (hnodup : u.principals.Nodup) (h : u.remove name = .ok u') :
    u'.principals.Nodup := by
  obtain ⟨p, -, -, rfl⟩ := remove_eq_ok_iff.1 h
  exact hnodup.erase p

end Users

/-! ### Changes of a site -/

/-- A change of what a site serves, whom it knows or where it sends mail. -/
inductive Update where
  | configure (config : DomainListConfig)
  | addDomain (d : Domain)
  | removeDomain (d : Domain)
  | addUser (name : String)
  | removeUser (name : String)
  | changeMappings (c : MappingCall)

namespace Site

/-- The site after a change, if the change is not refused. -/
def update (s : Site) : Update → Option Site
  | .configure config => some (s.configureDomains config)
  | .addDomain d => (s.domains.add d).toOption.map fun domains => { s with domains }
  | .removeDomain d => (s.domains.remove d).toOption.map fun domains => { s with domains }
  | .addUser name => (s.users.add name).toOption.map fun users => { s with users }
  | .removeUser name => (s.users.remove name).toOption.map fun users => { s with users }
  | .changeMappings c => (s.mappings.call c).toOption.map fun mappings => { s with mappings }

variable {s s' : Site} {a : Address} {p : Principal}

/-- A change of one store that is not refused puts the new store into the place of the old one. -/
theorem map_toOption_eq_some_iff {ε : Type} {r : Except ε α} {put : α → Site} :
    r.toOption.map put = some s' ↔ ∃ store, r = .ok store ∧ put store = s' := by
  cases r with
  | error e => exact iff_of_false nofun nofun
  | ok store =>
    refine ⟨fun h => ⟨store, rfl, Option.some.inj h⟩, ?_⟩
    rintro ⟨_, ⟨⟩, rfl⟩
    rfl

/-- The sites that come about from new stores by changes, no service being down. -/
inductive Reachable : Site → Prop where
  /-- New stores: users of either kind, and mappings with any limit. -/
  | start {s : Site} (hdomains : s.domains = .initial) (husers : s.users.principals = [])
      (hmappings : s.mappings.entries = []) (hup : s.down = []) : Reachable s
  /-- A change that is not refused. -/
  | update {s s' : Site} (u : Update) (h : Reachable s) (hs : s.update u = some s') : Reachable s'
  /-- A question, or anything else that leaves the directory as it is. -/
  | elsewhere {s s' : Site} (h : Reachable s) (hsame : s'.directory = s.directory) : Reachable s'

/-- No domain is registered twice, no user is held twice, and no service is down. -/
structure Kept (s : Site) : Prop where
  domains : s.domains.registered.Nodup
  users : s.users.principals.Nodup
  up : s.down = []

theorem Kept.update (h : s.Kept) {u : Update} (hs : s.update u = some s') : s'.Kept := by
  cases u with
  | configure config =>
    obtain rfl := Option.some.inj hs
    exact ⟨DomainList.nodup_configure h.domains config, h.users, h.up⟩
  | addDomain d =>
    obtain ⟨domains, hadd, rfl⟩ := map_toOption_eq_some_iff.1 hs
    exact ⟨DomainList.nodup_add h.domains hadd, h.users, h.up⟩
  | removeDomain d =>
    obtain ⟨domains, hremove, rfl⟩ := map_toOption_eq_some_iff.1 hs
    exact ⟨DomainList.nodup_remove h.domains hremove, h.users, h.up⟩
  | addUser name =>
    obtain ⟨users, hadd, rfl⟩ := map_toOption_eq_some_iff.1 hs
    exact ⟨h.domains, Users.nodup_add h.users hadd, h.up⟩
  | removeUser name =>
    obtain ⟨users, hremove, rfl⟩ := map_toOption_eq_some_iff.1 hs
    exact ⟨h.domains, Users.nodup_remove h.users hremove, h.up⟩
  | changeMappings c =>
    obtain ⟨mappings, -, rfl⟩ := map_toOption_eq_some_iff.1 hs
    exact ⟨h.domains, h.users, h.up⟩

theorem Reachable.kept (h : s.Reachable) : s.Kept := by
  induction h with
  | start hdomains husers _ hup =>
    refine ⟨?_, husers ▸ List.nodup_nil, hup⟩
    rw [hdomains]
    exact List.nodup_singleton _
  | update u _ hs ih => exact ih.update hs
  | elsewhere _ hsame ih =>
    obtain ⟨hdomains, husers, -, -, hdown⟩ := Directory.mk.inj hsame
    exact ⟨hdomains ▸ ih.domains, husers ▸ ih.users, hdown.trans ih.up⟩

/-! ### The answer about a mailbox -/

/-- The answer to the question whether a mailbox is delivered here. -/
def localAnswer (s : Site) (a : Address) : Except ResolutionError Bool :=
  (s.perform (LocalDelivery.isLocalEmail (some a)).run).1

/-- The principal that contexts take for a mailbox when the users are up. -/
def takenPrincipal (s : Site) (a : Address) : Principal :=
  if s.fullAddressPrincipals then .ofAddress a else s.users.principalFor a

/-- The mailbox lies in a domain that is served here, it resolves, and `p` is its principal after
the mappings. -/
def LeadsTo (s : Site) (a : Address) (p : Principal) : Prop :=
  s.domains.contains a.domain = true ∧
    ∃ ms, s.mappings.resolveParts a.localPart a.domain MappingKind.all = .ok ms ∧
      s.takenPrincipal ((firstAddress? ms).getD a) = p

theorem localAnswer_eq (hup : s.down = []) (a : Address) :
    s.localAnswer a =
      if s.domains.contains a.domain then
        ((s.mappings.resolveParts a.localPart a.domain MappingKind.all).mapError .mappings).map
          fun ms => s.users.contains (s.takenPrincipal ((firstAddress? ms).getD a))
      else .ok false := by
  have hserves {α : Type} (service : Service) (outage : ResolutionError) (answer : α) :
      s.directory.serve service outage answer = .ok answer :=
    if_neg (show service ∉ s.down from hup ▸ List.not_mem_nil)
  have hprincipal (a : Address) : s.directory.principalOf a = .ok (s.takenPrincipal a) := by
    unfold Directory.principalOf takenPrincipal
    by_cases hfull : s.fullAddressPrincipals = true
    · rw [if_pos hfull, if_pos (show s.directory.fullAddressPrincipals = true from hfull)]
    · rw [if_neg hfull, if_neg (show ¬s.directory.fullAddressPrincipals = true from hfull), hserves]
      rfl
  have hmappings : s.directory.mappingsOf a =
      (s.mappings.resolveParts a.localPart a.domain MappingKind.all).mapError .mappings :=
    if_neg (show Service.mappings ∉ s.down from hup ▸ List.not_mem_nil)
  rw [localAnswer, (s.answers_isLocalEmail a).result_eq, Directory.isLocalEmail,
    Directory.containsDomain, hserves]
  show (if s.domains.contains a.domain = true then _ else _) = _
  rw [Directory.mappedPrincipal, hmappings]
  cases s.mappings.resolveParts a.localPart a.domain MappingKind.all with
  | error e => rfl
  | ok ms =>
    show (if _ then s.directory.principalOf _ >>= fun p => s.directory.containsUser p else _) = _
    rw [hprincipal]
    show (if _ then s.directory.containsUser _ else _) = _
    rw [Directory.containsUser, hserves]
    rfl

/-- No mailbox of a domain that is not served here is delivered here. -/
theorem localAnswer_of_not_served (hup : s.down = [])
    (h : ¬s.domains.contains a.domain = true) : s.localAnswer a = .ok false := by
  rw [localAnswer_eq hup, if_neg h]

/-- A mailbox that leads to a principal is delivered here if that is a known user. -/
theorem LeadsTo.localAnswer_eq (h : s.LeadsTo a p) (hup : s.down = []) :
    s.localAnswer a = .ok (s.users.contains p) := by
  obtain ⟨hserved, ms, hms, rfl⟩ := h
  rw [Site.localAnswer_eq hup, if_pos hserved, hms]
  rfl

/-- The answer about a mailbox stays the same when its domain stays served or not, and, if it is
served, the mappings and the way to take principals are the same and the principal that the mailbox
leads to stays known or not. -/
theorem localAnswer_congr (hup : s.down = []) (hup' : s'.down = [])
    (hserved : s'.domains.contains a.domain = true ↔ s.domains.contains a.domain = true)
    (hmappings : s.domains.contains a.domain = true → s'.mappings = s.mappings)
    (htaken : s'.takenPrincipal = s.takenPrincipal)
    (hknown : ∀ p, s.LeadsTo a p → (s'.users.contains p = true ↔ s.users.contains p = true)) :
    s'.localAnswer a = s.localAnswer a := by
  by_cases h : s.domains.contains a.domain = true
  · rw [localAnswer_eq hup, localAnswer_eq hup', if_pos h, if_pos (hserved.2 h), hmappings h,
      htaken]
    cases hms : s.mappings.resolveParts a.localPart a.domain MappingKind.all with
    | error e => rfl
    | ok ms => exact congrArg Except.ok (Bool.eq_iff_iff.2 (hknown _ ⟨h, ms, hms, rfl⟩))
  · rw [localAnswer_of_not_served hup h, localAnswer_of_not_served hup' (hserved.not.2 h)]

/-- Where only the domains change, the answers about those stay that are served before and after,
or not served before and after. -/
theorem localAnswer_of_domains (hup : s.down = []) {domains : DomainList}
    (hdomains : s'.directory = { s.directory with domains })
    (hserved : domains.contains a.domain = true ↔ s.domains.contains a.domain = true) :
    s'.localAnswer a = s.localAnswer a := by
  obtain ⟨rfl, husers, hmappings, hfull, hdown⟩ := Directory.mk.inj hdomains
  refine localAnswer_congr hup (hdown.trans hup) hserved (fun _ => hmappings) ?_ fun p _ => ?_
  · funext b
    rw [takenPrincipal, takenPrincipal, hfull, husers]
    rfl
  · rw [husers]
    rfl

/-- Where only the users change, the answers about the mailboxes stay that lead to a principal that
stays known or not. -/
theorem localAnswer_of_users (hup : s.down = []) {users : Users}
    (hhosting : users.virtualHosting = s.users.virtualHosting)
    (hknown : ∀ p, s.LeadsTo a p → (users.contains p = true ↔ s.users.contains p = true)) :
    ({ s with users } : Site).localAnswer a = s.localAnswer a := by
  refine localAnswer_congr hup hup Iff.rfl (fun _ => rfl) ?_ hknown
  funext b
  unfold takenPrincipal Users.principalFor
  rw [hhosting]

theorem leadsTo_of_users {users : Users} (hhosting : users.virtualHosting = s.users.virtualHosting)
    (h : s.LeadsTo a p) : ({ s with users } : Site).LeadsTo a p := by
  obtain ⟨hserved, ms, hms, rfl⟩ := h
  refine ⟨hserved, ms, hms, ?_⟩
  unfold takenPrincipal Users.principalFor
  rw [hhosting]

/-! ### One change -/

/-- A user that is added gets the mailboxes that lead to it, which nobody had, and no answer about
another mailbox changes. -/
theorem localAnswer_addUser (hup : s.down = []) {name : String}
    (hs : s.update (.addUser name) = some s') :
    ∃ p, s.users.principalOfName name = .ok p ∧
      (s.LeadsTo a p → s.localAnswer a = .ok false ∧ s'.localAnswer a = .ok true) ∧
      (¬s.LeadsTo a p → s'.localAnswer a = s.localAnswer a) := by
  obtain ⟨users, hadd, rfl⟩ := map_toOption_eq_some_iff.1 hs
  obtain ⟨p, hp, hnot, hhosting, hknown⟩ := Users.contains_add hadd
  refine ⟨p, hp, fun hlead => ⟨?_, ?_⟩, fun hlead => ?_⟩
  · rw [hlead.localAnswer_eq hup, hnot]
  · have hlead' : ({ s with users } : Site).LeadsTo a p := leadsTo_of_users hhosting hlead
    rw [hlead'.localAnswer_eq hup]
    exact congrArg Except.ok ((hknown p).2 (.inr rfl))
  · refine localAnswer_of_users hup hhosting fun q hq => (hknown q).trans (or_iff_left ?_)
    rintro rfl
    exact hlead hq

/-- A user that is removed loses the mailboxes that lead to it, and no answer about another mailbox
changes. -/
theorem localAnswer_removeUser (h : s.Kept) {name : String}
    (hs : s.update (.removeUser name) = some s') :
    ∃ p, s.users.principalOfName name = .ok p ∧
      (s.LeadsTo a p → s.localAnswer a = .ok true ∧ s'.localAnswer a = .ok false) ∧
      (¬s.LeadsTo a p → s'.localAnswer a = s.localAnswer a) := by
  obtain ⟨users, hremove, rfl⟩ := map_toOption_eq_some_iff.1 hs
  obtain ⟨p, hp, hmem, hhosting, hknown⟩ := Users.contains_remove h.users hremove
  refine ⟨p, hp, fun hlead => ⟨?_, ?_⟩, fun hlead => ?_⟩
  · rw [hlead.localAnswer_eq h.up, hmem]
  · have hlead' : ({ s with users } : Site).LeadsTo a p := leadsTo_of_users hhosting hlead
    have hgone : ¬users.contains p = true := fun hp => ((hknown p).1 hp).1 rfl
    rw [hlead'.localAnswer_eq h.up]
    exact congrArg Except.ok (Bool.eq_false_iff.2 hgone)
  · refine localAnswer_of_users h.up hhosting fun q hq => (hknown q).trans (and_iff_right ?_)
    rintro rfl
    exact hlead hq

/-- No mailbox of a domain that is removed is delivered here, and no answer about another domain's
mailboxes changes. -/
theorem localAnswer_removeDomain (h : s.Kept) {d : Domain}
    (hs : s.update (.removeDomain d) = some s') :
    (a.domain = d → s'.localAnswer a = .ok false) ∧
      (a.domain ≠ d → s'.localAnswer a = s.localAnswer a) := by
  obtain ⟨domains, hremove, rfl⟩ := map_toOption_eq_some_iff.1 hs
  have hcontains := DomainList.contains_remove h.domains hremove a.domain
  refine ⟨fun heq => ?_, fun hne => ?_⟩
  · exact localAnswer_of_not_served h.up fun hserved => (hcontains.1 hserved).1 heq
  · exact localAnswer_of_domains h.up rfl (hcontains.trans (and_iff_right hne))

/-- A domain that is added changes no answer about another domain's mailboxes. -/
theorem localAnswer_addDomain (hup : s.down = []) {d : Domain}
    (hs : s.update (.addDomain d) = some s') (hne : a.domain ≠ d) :
    s'.localAnswer a = s.localAnswer a := by
  obtain ⟨domains, hadd, rfl⟩ := map_toOption_eq_some_iff.1 hs
  exact localAnswer_of_domains hup rfl
    ((DomainList.contains_add hadd a.domain).trans (or_iff_left hne))

/-- Settings change only answers about the mailboxes of domains that they newly register. -/
theorem localAnswer_configure (hup : s.down = []) {config : DomainListConfig}
    (hs : s.update (.configure config) = some s') (hchanged : s'.localAnswer a ≠ s.localAnswer a) :
    ¬s.domains.contains a.domain = true ∧ s'.domains.contains a.domain = true := by
  obtain rfl := Option.some.inj hs
  have hstays (h : s.domains.contains a.domain = true) :
      (s.domains.configure config).contains a.domain = true :=
    (DomainList.contains_configure _ _ _).2 (.inl h)
  by_contra hold
  refine hchanged (localAnswer_of_domains hup rfl ⟨fun hnew => ?_, hstays⟩)
  by_contra hnot
  exact hold ⟨hnot, hnew⟩

/-- Mappings change no answer about the mailboxes of domains that are not served. -/
theorem localAnswer_changeMappings (hup : s.down = []) {c : MappingCall}
    (hs : s.update (.changeMappings c) = some s') (h : ¬s.domains.contains a.domain = true) :
    s'.localAnswer a = s.localAnswer a := by
  obtain ⟨mappings, -, rfl⟩ := map_toOption_eq_some_iff.1 hs
  exact localAnswer_congr hup hup Iff.rfl (fun hserved => absurd hserved h) rfl fun _ _ => Iff.rfl

/-! ### All changes -/

/-- **A change reaches its own answers only.** At every site that comes about by changes, and for
every mailbox: a user that is added or removed gains or loses exactly the mailboxes that lead to it;
a domain that is removed has no mailbox any more that is delivered here, whatever its mappings say,
and a domain that is added or removed leaves the answers about all others alone; settings reach only
the domains that they newly register; and mappings only the domains that are served. -/
theorem updates_change_their_own (h : s.Reachable) (a : Address) :
    (∀ name s', s.update (.addUser name) = some s' →
      ∃ p, s.users.principalOfName name = .ok p ∧
        (s.LeadsTo a p → s.localAnswer a = .ok false ∧ s'.localAnswer a = .ok true) ∧
        (¬s.LeadsTo a p → s'.localAnswer a = s.localAnswer a)) ∧
    (∀ name s', s.update (.removeUser name) = some s' →
      ∃ p, s.users.principalOfName name = .ok p ∧
        (s.LeadsTo a p → s.localAnswer a = .ok true ∧ s'.localAnswer a = .ok false) ∧
        (¬s.LeadsTo a p → s'.localAnswer a = s.localAnswer a)) ∧
    (∀ d s', s.update (.removeDomain d) = some s' →
      (a.domain = d → s'.localAnswer a = .ok false) ∧
        (a.domain ≠ d → s'.localAnswer a = s.localAnswer a)) ∧
    (∀ d s', s.update (.addDomain d) = some s' → a.domain ≠ d →
      s'.localAnswer a = s.localAnswer a) ∧
    (∀ config s', s.update (.configure config) = some s' →
      s'.localAnswer a ≠ s.localAnswer a →
        ¬s.domains.contains a.domain = true ∧ s'.domains.contains a.domain = true) ∧
    (∀ c s', s.update (.changeMappings c) = some s' → ¬s.domains.contains a.domain = true →
      s'.localAnswer a = s.localAnswer a) :=
  ⟨fun _ _ hs => localAnswer_addUser h.kept.up hs,
    fun _ _ hs => localAnswer_removeUser h.kept hs,
    fun _ _ hs => localAnswer_removeDomain h.kept hs,
    fun _ _ hs hne => localAnswer_addDomain h.kept.up hs hne,
    fun _ _ hs hchanged => localAnswer_configure h.kept.up hs hchanged,
    fun _ _ hs hnot => localAnswer_changeMappings h.kept.up hs hnot⟩

/-- A site of which `bob` at the default domain is the one user. -/
def bobSite : Site :=
  { users := { principals := [⟨"bob@localhost"⟩] } }

theorem updates_change_their_own_bobSite :
    bobSite.Reachable ∧ bobSite.LeadsTo ⟨"BOB", .localhost, by rfl⟩ ⟨"bob@localhost"⟩ ∧
      ∃ s', bobSite.update (.removeUser "Bob@LocalHost") = some s' ∧
        bobSite.localAnswer ⟨"BOB", .localhost, by rfl⟩ = .ok true ∧
          s'.localAnswer ⟨"BOB", .localhost, by rfl⟩ = .ok false := by
  have hreachable : bobSite.Reachable :=
    .update (s := {}) (.addUser "bob@localhost") (.start rfl rfl rfl rfl) rfl
  have hlead : bobSite.LeadsTo ⟨"BOB", .localhost, by rfl⟩ ⟨"bob@localhost"⟩ :=
    ⟨rfl, [], rfl, rfl⟩
  obtain ⟨-, hremove, -⟩ := updates_change_their_own hreachable ⟨"BOB", .localhost, by rfl⟩
  obtain ⟨p, hp, hown, -⟩ := hremove "Bob@LocalHost" {} rfl
  obtain rfl : ⟨"bob@localhost"⟩ = p := Except.ok.inj hp
  exact ⟨hreachable, hlead, {}, rfl, hown hlead⟩

end Site

end MailRouting
