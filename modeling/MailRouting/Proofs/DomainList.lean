import MailRouting.Proofs.LocalDelivery.Updates

/-!
# The default domain is always served

The list of domains holds the registered domains and the default one among them. These are changed
by different calls: settings move the default domain and leave the old one registered, and the other
calls register and unregister domains one by one.

* `DomainListCall`, `DomainList.call`, `DomainList.afterCalls` — the calls that change a list, and
  the list after some of them;
* `DomainList.Kept` — each domain is registered once, and the default one is registered;
  `Kept.call`, `kept_afterCalls` — every call keeps this, and so does every run;
* `DomainList.add_eq_error_iff`, `remove_eq_error_iff` — when a call is refused, and why;
* `DomainList.pairwise_sorted`, `mem_sorted_iff` — the registered domains in strict order;
* `DomainList.default_always_served` — all of that after every run.
-/

namespace MailRouting

/-- The calls that change a list of domains. -/
inductive DomainListCall where
  | configure (config : DomainListConfig)
  | add (d : Domain)
  | remove (d : Domain)

namespace DomainList

/-- The list after a call, or why it is refused. -/
def call (l : DomainList) : DomainListCall → Except DomainListError DomainList
  | .configure config => .ok (l.configure config)
  | .add d => l.add d
  | .remove d => l.remove d

/-- The list after a call, which changes nothing if it is refused. -/
def next (l : DomainList) (c : DomainListCall) : DomainList :=
  match l.call c with
  | .ok l' => l'
  | .error _ => l

/-- A new list, with settings or without. -/
def made : Option DomainListConfig → DomainList
  | some config => ofConfig config
  | none => initial

/-- The list after some calls on a new one. -/
def afterCalls (settings : Option DomainListConfig) (calls : List DomainListCall) : DomainList :=
  calls.foldl next (made settings)

variable {l l' : DomainList} {d : Domain} {e : DomainListError}

/-! ### What every call keeps -/

/-- Each domain is registered once, and the default one is registered. -/
structure Kept (l : DomainList) : Prop where
  nodup : l.registered.Nodup
  default : l.contains l.defaultDomain = true

theorem defaultDomain_register (l : DomainList) (d : Domain) :
    (l.register d).defaultDomain = l.defaultDomain := by
  unfold register
  split <;> rfl

theorem defaultDomain_foldl_register (ds : List Domain) (l : DomainList) :
    (ds.foldl register l).defaultDomain = l.defaultDomain := by
  induction ds generalizing l with
  | nil => rfl
  | cons d ds ih => rw [List.foldl_cons, ih, defaultDomain_register]

/-- Settings move the default domain if they name one. -/
theorem defaultDomain_configure (l : DomainList) (config : DomainListConfig) :
    (l.configure config).defaultDomain = config.defaultDomain.getD l.defaultDomain := by
  unfold configure
  rw [defaultDomain_foldl_register, defaultDomain_register]

theorem defaultDomain_of_add (h : l.add d = .ok l') : l'.defaultDomain = l.defaultDomain := by
  obtain ⟨_, hl'⟩ := add_eq_ok_iff.1 h
  rw [← hl']

theorem defaultDomain_of_remove (h : l.remove d = .ok l') : l'.defaultDomain = l.defaultDomain := by
  obtain ⟨_, _, hl'⟩ := remove_eq_ok_iff.1 h
  rw [← hl']

theorem kept_initial : Kept initial where
  nodup := List.nodup_singleton _
  default := by decide

/-- Wherever the settings move the default domain to, it is registered there. -/
theorem Kept.configure (h : l.Kept) (config : DomainListConfig) : (l.configure config).Kept where
  nodup := nodup_configure h.nodup config
  default := by
    rw [contains_configure, defaultDomain_configure]
    exact .inr (.inl rfl)

theorem Kept.add (h : l.Kept) (hadd : l.add d = .ok l') : l'.Kept where
  nodup := nodup_add h.nodup hadd
  default := by
    rw [contains_add hadd, defaultDomain_of_add hadd]
    exact .inl h.default

/-- What is unregistered is not the default domain. -/
theorem Kept.remove (h : l.Kept) (hremove : l.remove d = .ok l') : l'.Kept where
  nodup := nodup_remove h.nodup hremove
  default := by
    obtain ⟨hne, _⟩ := remove_eq_ok_iff.1 hremove
    rw [contains_remove h.nodup hremove, defaultDomain_of_remove hremove]
    exact ⟨hne, h.default⟩

theorem Kept.call (h : l.Kept) {c : DomainListCall} (hcall : l.call c = .ok l') : l'.Kept := by
  cases c with
  | configure config =>
    obtain rfl := Except.ok.inj hcall
    exact h.configure config
  | add d => exact h.add hcall
  | remove d => exact h.remove hcall

theorem Kept.next (h : l.Kept) (c : DomainListCall) : (l.next c).Kept := by
  unfold DomainList.next
  split
  · next l' hcall => exact h.call hcall
  · exact h

theorem kept_foldl (h : l.Kept) (calls : List DomainListCall) : (calls.foldl next l).Kept := by
  induction calls generalizing l with
  | nil => exact h
  | cons c calls ih => exact ih (h.next c)

theorem kept_afterCalls (settings : Option DomainListConfig) (calls : List DomainListCall) :
    (afterCalls settings calls).Kept := by
  cases settings with
  | none => exact kept_foldl kept_initial calls
  | some config => exact kept_foldl (kept_initial.configure config) calls

/-! ### Calls that are refused -/

theorem add_eq_error_iff : l.add d = .error e ↔ l.contains d = true ∧ e = .alreadyExists d := by
  unfold add
  cases l.contains d <;> simp [eq_comm]

theorem remove_eq_error_iff : l.remove d = .error e ↔
    (l.defaultDomain = d ∧ e = .defaultDomain d) ∨
      (l.defaultDomain ≠ d ∧ l.contains d = false ∧ e = .notFound d) := by
  unfold remove
  by_cases hdefault : l.defaultDomain = d
  · rw [if_pos hdefault, Except.error.injEq]
    simp only [hdefault, true_and, ne_eq, not_true, false_and, or_false]
    exact eq_comm
  · rw [if_neg hdefault]
    cases l.contains d with
    | true => simp [hdefault]
    | false => simp [hdefault, eq_comm]

theorem next_of_error {c : DomainListCall} (h : l.call c = .error e) : l.next c = l := by
  rw [next, h]

/-! ### The registered domains in order -/

theorem mem_sorted_iff : d ∈ l.sorted ↔ l.contains d = true := by
  rw [sorted, List.mem_mergeSort, contains_iff]

/-- No domain is registered twice, and different domains have different texts. -/
theorem pairwise_sorted (h : l.registered.Nodup) :
    l.sorted.Pairwise fun d e => d.text < e.text := by
  have hle : l.sorted.Pairwise fun d e => decide (d.text ≤ e.text) = true := by
    apply List.pairwise_mergeSort
    · intro a b c hab hbc
      apply decide_eq_true
      exact String.le_trans (of_decide_eq_true hab) (of_decide_eq_true hbc)
    · intro a b
      rw [Bool.or_eq_true]
      exact (String.le_total a.text b.text).imp decide_eq_true decide_eq_true
  have hnodup : l.sorted.Nodup := (List.mergeSort_perm _ _).nodup_iff.2 h
  refine (hle.and hnodup).imp ?_
  intro d e hde
  have htext : d.text ≠ e.text := by
    intro heq
    exact hde.2 (Domain.eq_of_text_eq heq)
  exact Std.lt_of_le_of_ne (of_decide_eq_true hde.1) htext

/-! ### Every run -/

/-- A domain that is registered is served, as far as the list can be read. -/
theorem isLocalServer_of_contains {s : Site} (hup : Service.domains ∉ s.down)
    (h : s.domains.contains d = true) :
    (s.perform (LocalDelivery.isLocalServer d).run).1 = .ok true := by
  have hserved : s.directory.containsDomain d = .ok (s.domains.contains d) := if_neg hup
  rw [(s.answers_isLocalServer d).result_eq, hserved, h]

/-- A former default domain stays registered when settings name another one, and it can be
unregistered from then on. -/
theorem exists_remove_former (h : l.Kept) {config : DomainListConfig}
    (hnew : config.defaultDomain = some d) (hne : d ≠ l.defaultDomain) :
    ∃ l', (l.configure config).remove l.defaultDomain = .ok l' := by
  have hdefault : (l.configure config).defaultDomain = d := by
    rw [defaultDomain_configure, hnew, Option.getD_some]
  have hregistered : (l.configure config).contains l.defaultDomain = true := by
    rw [contains_configure]
    exact .inl h.default
  refine ⟨_, remove_eq_ok_iff.2 ⟨?_, hregistered, rfl⟩⟩
  rwa [hdefault]

/-- **The default domain is always served.** After every run of calls on a new list, made with
settings or without: the default domain is registered, and so it is served wherever the list can be
read. The domains in order are strictly increasing and are those that are registered. A domain is
refused exactly if it is registered, and unregistering one exactly if it is the default domain or
not registered; what is refused changes nothing, and what is not refused registers or unregisters
that domain alone. Settings unregister none and move the default domain only if they name one, and
then the former one can be unregistered. -/
theorem default_always_served (settings : Option DomainListConfig)
    (calls : List DomainListCall) :
    let l := afterCalls settings calls
    l.contains l.defaultDomain = true ∧
    (∀ s : Site, s.domains = l → Service.domains ∉ s.down →
      (s.perform (LocalDelivery.isLocalServer l.defaultDomain).run).1 = .ok true) ∧
    (l.sorted.Pairwise (fun d e => d.text < e.text) ∧ ∀ d, d ∈ l.sorted ↔ l.contains d = true) ∧
    (∀ d e, l.add d = .error e ↔ l.contains d = true ∧ e = .alreadyExists d) ∧
    (∀ d e, l.remove d = .error e ↔
      (l.defaultDomain = d ∧ e = .defaultDomain d) ∨
        (l.defaultDomain ≠ d ∧ l.contains d = false ∧ e = .notFound d)) ∧
    (∀ c e, l.call c = .error e → l.next c = l) ∧
    (∀ d l', l.add d = .ok l' → l'.defaultDomain = l.defaultDomain ∧
      ∀ x, l'.contains x = true ↔ l.contains x = true ∨ x = d) ∧
    (∀ d l', l.remove d = .ok l' → l'.defaultDomain = l.defaultDomain ∧
      ∀ x, l'.contains x = true ↔ x ≠ d ∧ l.contains x = true) ∧
    ∀ config : DomainListConfig,
      (∀ x, (l.configure config).contains x = true ↔ l.contains x = true ∨
        x = config.defaultDomain.getD l.defaultDomain ∨ x ∈ config.domains) ∧
      (l.configure config).defaultDomain = config.defaultDomain.getD l.defaultDomain ∧
      ∀ d, config.defaultDomain = some d → d ≠ l.defaultDomain →
        ∃ l', (l.configure config).remove l.defaultDomain = .ok l' := by
  intro l
  have h : l.Kept := kept_afterCalls settings calls
  refine ⟨h.default, ?_, ⟨pairwise_sorted h.nodup, fun d => mem_sorted_iff⟩,
    fun d e => add_eq_error_iff, fun d e => remove_eq_error_iff, fun c e => next_of_error,
    ?_, ?_, ?_⟩
  · intro s hs hup
    apply isLocalServer_of_contains hup
    rw [hs]
    exact h.default
  · intro d l' hadd
    exact ⟨defaultDomain_of_add hadd, contains_add hadd⟩
  · intro d l' hremove
    exact ⟨defaultDomain_of_remove hremove, contains_remove h.nodup hremove⟩
  · intro config
    refine ⟨contains_configure l config, defaultDomain_configure l config, ?_⟩
    intro d hnew hne
    exact exists_remove_former h hnew hne

-- `localhost` can be unregistered when it is no longer the default domain, and the new one cannot
example :
    let mx : Domain := ⟨"mx.example", by rfl, by rfl⟩
    let l := afterCalls none
      [.remove .localhost, .configure { defaultDomain := some mx }, .remove .localhost, .remove mx]
    l.registered.map (·.text) = ["mx.example"] ∧ l.defaultDomain.text = "mx.example" := by
  decide

end DomainList

end MailRouting
