import Mathlib.Data.List.Nodup
import MailRouting.Proofs.Address.Case
import MailRouting.Proofs.Entries
import MailRouting.Proofs.Traversal

/-!
# Mapping tables as lists of rules

A mapping table keeps an entry a source. Seen from outside it is one list of rules, in the order in
which they were added.

* `MappingCall`, `MappingTable.call` — the calls that change a table;
* `RuleList` — the list, what a call does to it, and the mappings that it has for a source;
* `MappingTable.lookup_setEntry` — an entry that is replaced, and the entries of other sources;
* `MappingTable.Represents` — a table and a list of rules have the same mappings for every source;
* `MappingTable.alike_call` — a call does the same to both, or fails on both;
* `MappingTable.is_list_of_rules` — so it is after all calls, and what follows from it.
-/

namespace MailRouting

/-! ### Calls -/

/-- The calls that change a mapping table. -/
inductive MappingCall where
  | add (source : MappingSource) (m : Mapping)
  | remove (source : MappingSource) (m : Mapping)
  | addAlias (source user : Address)
  | addAddress (source target : Address)
  | addDomain (source target : Domain)
  | addError (source : Address) (message : String)

namespace MappingCall

/-- What the call is about. -/
def source : MappingCall → MappingSource
  | .add source _ => source
  | .remove source _ => source
  | .addAlias source _ => .address source
  | .addAddress source _ => .address source
  | .addDomain source _ => .domain source
  | .addError source _ => .address source

/-- The mapping that the call adds or removes. -/
def mapping : MappingCall → Mapping
  | .add _ m => m
  | .remove _ m => m
  | .addAlias _ user => .alias user
  | .addAddress _ target => .address target
  | .addDomain _ target => .domain target
  | .addError _ message => .error message

/-- Whether the call adds its mapping. -/
def adds : MappingCall → Bool
  | .remove _ _ => false
  | _ => true

/-- The source under which the mapping is kept. -/
def key (c : MappingCall) : MappingSource :=
  c.source.folded

end MappingCall

namespace MappingTable

/-- The table after a call, or why it is refused. -/
def call (t : MappingTable) : MappingCall → Except MappingError MappingTable
  | .add source m => t.add source m
  | .remove source m => t.remove source m
  | .addAlias source user => t.addAlias source user
  | .addAddress source target => t.addAddress source target
  | .addDomain source target => t.addDomain source target
  | .addError source message => t.addError source message

/-- The table after a call, which changes nothing if it is refused. -/
def next (t : MappingTable) (c : MappingCall) : MappingTable :=
  match t.call c with
  | .ok t' => t'
  | .error _ => t

/-- The table after some calls on an empty one. -/
def afterCalls (config : MappingConfig) (calls : List MappingCall) : MappingTable :=
  calls.foldl next (.ofConfig config)

theorem call_eq_add_or_remove (t : MappingTable) (c : MappingCall) :
    t.call c = if c.adds then t.add c.source c.mapping else t.remove c.source c.mapping := by
  cases c <;> rfl

end MappingTable

/-! ### Lists of rules -/

/-- Rules in the order in which they were added: a source in its folded form, and a mapping. -/
abbrev RuleList := List (MappingSource × Mapping)

namespace RuleList

/-- The rules after a call, or why it is refused: a rule is added at the end unless it is there, and
removed if it is there. -/
def call (rs : RuleList) (c : MappingCall) : Except MappingError RuleList :=
  if c.adds then
    if (c.key, c.mapping) ∈ rs then .error (.alreadyExists c.source)
    else .ok (rs ++ [(c.key, c.mapping)])
  else if (c.key, c.mapping) ∈ rs then .ok (rs.erase (c.key, c.mapping))
  else .error (.notFound c.source)

/-- The rules after a call, which changes nothing if it is refused. -/
def next (rs : RuleList) (c : MappingCall) : RuleList :=
  match rs.call c with
  | .ok rs' => rs'
  | .error _ => rs

/-- The rules after some calls, from none on. -/
def afterCalls (calls : List MappingCall) : RuleList :=
  calls.foldl next []

/-- The mappings of a source, in order. -/
def mappings (rs : RuleList) (key : MappingSource) : List Mapping :=
  (rs.filter fun r => r.1 = key).map (·.2)

/-- The mappings that apply to an address: its own if it has any, or else those of its domain. -/
def stored (rs : RuleList) (a : Address) : List Mapping :=
  if rs.mappings (.address a.folded) = [] then rs.mappings (.domain a.domain)
  else rs.mappings (.address a.folded)

variable {rs : RuleList} {key : MappingSource} {m : Mapping} {c d : MappingCall}

theorem call_add (rs : RuleList) (source : MappingSource) (m : Mapping) :
    rs.call (.add source m) =
      if (source.folded, m) ∈ rs then .error (.alreadyExists source)
      else .ok (rs ++ [(source.folded, m)]) :=
  if_pos rfl

theorem call_remove (rs : RuleList) (source : MappingSource) (m : Mapping) :
    rs.call (.remove source m) =
      if (source.folded, m) ∈ rs then .ok (rs.erase (source.folded, m))
      else .error (.notFound source) :=
  if_neg Bool.false_ne_true

theorem mappings_cons (r : MappingSource × Mapping) (rs : RuleList) (key : MappingSource) :
    mappings (r :: rs) key = if r.1 = key then r.2 :: rs.mappings key else rs.mappings key := by
  unfold mappings
  by_cases h : r.1 = key
  · rw [if_pos h, List.filter_cons_of_pos (by simpa using h), List.map_cons]
  · rw [if_neg h, List.filter_cons_of_neg (by simpa using h)]

theorem mem_mappings_iff : m ∈ rs.mappings key ↔ (key, m) ∈ rs := by
  induction rs with
  | nil => exact iff_of_false nofun nofun
  | cons r rs ih =>
    rw [mappings_cons, List.mem_cons, ← ih]
    obtain ⟨k, n⟩ := r
    by_cases h : k = key
    · subst h
      rw [if_pos rfl, List.mem_cons, Prod.mk.injEq, and_iff_right rfl]
    · rw [if_neg h, Prod.mk.injEq]
      exact (or_iff_right fun hmem => h hmem.1.symm).symm

theorem mappings_concat (rs : RuleList) (k key : MappingSource) (m : Mapping) :
    mappings (rs ++ [(k, m)]) key =
      if k = key then rs.mappings key ++ [m] else rs.mappings key := by
  have hlast := mappings_cons (k, m) [] key
  unfold mappings at hlast ⊢
  rw [List.filter_append, List.map_append, hlast]
  split
  · rfl
  · exact List.append_nil _

theorem mappings_erase (rs : RuleList) (k key : MappingSource) (m : Mapping) :
    mappings (rs.erase (k, m)) key =
      if k = key then (rs.mappings key).erase m else rs.mappings key := by
  induction rs with
  | nil => split <;> rfl
  | cons r rs ih =>
    obtain ⟨k', m'⟩ := r
    rw [List.erase_cons, mappings_cons]
    by_cases hr : (k', m') = (k, m)
    · obtain ⟨rfl, rfl⟩ := Prod.mk.inj hr
      rw [if_pos (beq_self_eq_true _)]
      by_cases hkey : k' = key
      · rw [if_pos hkey, if_pos hkey, List.erase_cons_head]
      · rw [if_neg hkey, if_neg hkey]
    · rw [if_neg (by simpa using hr), mappings_cons, ih]
      by_cases hkey : k = key
      · by_cases hkey' : k' = key
        · have hm : m' ≠ m := fun h => hr (by rw [hkey, hkey', h])
          simp only [if_pos hkey, if_pos hkey']
          rw [List.erase_cons_tail (by simpa using hm)]
        · simp only [if_pos hkey, if_neg hkey']
      · simp only [if_neg hkey]

/-- A call leaves the mappings of other sources alone. -/
theorem mappings_next_of_ne (h : c.key ≠ key) : (rs.next c).mappings key = rs.mappings key := by
  unfold next call
  by_cases hadds : c.adds = true
  · rw [if_pos hadds]
    split
    · rename_i hcall
      split at hcall
      · cases hcall
      · cases hcall
        rw [mappings_concat, if_neg h]
    · rfl
  · rw [if_neg hadds]
    split
    · rename_i hcall
      split at hcall
      · cases hcall
        rw [mappings_erase, if_neg h]
      · cases hcall
    · rfl

/-- Removing the only mapping of a source leaves none. -/
theorem mappings_remove_of_eq_singleton {source : MappingSource} (hkey : source.folded = key)
    (h : rs.mappings key = [m]) : (rs.next (.remove source m)).mappings key = [] := by
  subst hkey
  have hmem : (source.folded, m) ∈ rs :=
    mem_mappings_iff.1 (h ▸ List.mem_singleton_self m)
  rw [next, call_remove, if_pos hmem]
  dsimp only
  rw [mappings_erase, if_pos rfl, h, List.erase_cons_head]

/-- What a call does to the mappings of its source hangs on them alone. -/
theorem mappings_next_congr {rs' : RuleList} (h : rs.mappings c.key = rs'.mappings c.key) :
    (rs.call c).map (fun _ => ()) = (rs'.call c).map (fun _ => ()) ∧
      (rs.next c).mappings c.key = (rs'.next c).mappings c.key := by
  have hmem : (c.key, c.mapping) ∈ rs ↔ (c.key, c.mapping) ∈ rs' := by
    rw [← mem_mappings_iff, h, mem_mappings_iff]
  refine ⟨?_, ?_⟩
  · unfold call
    simp only [hmem]
    split <;> split <;> rfl
  · unfold next call
    simp only [hmem]
    by_cases hadds : c.adds = true <;> by_cases hrule : (c.key, c.mapping) ∈ rs'
    · simp only [hadds, hrule, if_true]
      exact h
    · simp only [hadds, hrule, if_true, if_false]
      rw [mappings_concat, mappings_concat, if_pos rfl, if_pos rfl, h]
    · simp only [hadds, hrule, if_true, Bool.false_eq_true, if_false]
      rw [mappings_erase, mappings_erase, if_pos rfl, if_pos rfl, h]
    · simp only [hadds, hrule, if_false, Bool.false_eq_true]
      exact h

theorem nodup_mappings (h : rs.Nodup) (key : MappingSource) : (rs.mappings key).Nodup := by
  refine List.Nodup.map_on (fun r hr r' hr' hsame => ?_) (h.filter _)
  have hkey := of_decide_eq_true (List.mem_filter.1 hr).2
  have hkey' := of_decide_eq_true (List.mem_filter.1 hr').2
  exact Prod.ext (hkey.trans hkey'.symm) hsame

/-- Calls about different sources can change places. -/
theorem next_comm (h : c.key ≠ d.key) (rs : RuleList) :
    ((rs.next c).call d).map (fun _ => ()) = (rs.call d).map (fun _ => ()) ∧
      ∀ key, ((rs.next c).next d).mappings key = ((rs.next d).next c).mappings key := by
  refine ⟨(mappings_next_congr (mappings_next_of_ne h)).1, fun key => ?_⟩
  by_cases hd : d.key = key
  · subst hd
    rw [(mappings_next_congr (mappings_next_of_ne h)).2, mappings_next_of_ne h]
  · rw [mappings_next_of_ne hd]
    by_cases hc : c.key = key
    · subst hc
      exact (mappings_next_congr (mappings_next_of_ne hd)).2.symm
    · rw [mappings_next_of_ne hc, mappings_next_of_ne hc, mappings_next_of_ne hd]

end RuleList

/-! ### Entries of a table -/

theorem MappingSource.folded_folded (source : MappingSource) :
    source.folded.folded = source.folded := by
  cases source with
  | address a =>
    exact congrArg MappingSource.address
      (Address.folded_eq_folded_iff.2 a.folded_eqUpToCase)
  | domain d => rfl

namespace MappingTable

variable {t t' : MappingTable} {rs : RuleList} {m : Mapping} {source : MappingSource}

/-- A list of mappings as an entry holds it: no mappings, no entry. -/
def asEntry (ms : List Mapping) : Option (List Mapping) :=
  if ms = [] then none else some ms

theorem getD_asEntry (ms : List Mapping) : (asEntry ms).getD [] = ms := by
  unfold asEntry
  split
  · rename_i h
    rw [h]
    rfl
  · rfl

theorem mem_keys_setEntry {k key : MappingSource} {ms : List Mapping}
    {entries : List (MappingSource × List Mapping)}
    (h : k ∈ (setEntry key ms entries).map (·.1)) : k = key ∨ k ∈ entries.map (·.1) := by
  induction entries with
  | nil =>
    unfold setEntry at h
    split at h
    · cases h
    · exact .inl (List.mem_singleton.1 h)
  | cons entry entries ih =>
    obtain ⟨k', ms'⟩ := entry
    unfold setEntry at h
    split at h
    · split at h
      · exact .inr (List.mem_cons_of_mem _ h)
      · rcases List.mem_cons.1 h with h | h
        · exact .inl h
        · exact .inr (List.mem_cons_of_mem _ h)
    · rcases List.mem_cons.1 h with rfl | h
      · exact .inr List.mem_cons_self
      · exact (ih h).imp_right (List.mem_cons_of_mem _)

theorem nodup_keys_setEntry {key : MappingSource} (ms : List Mapping)
    {entries : List (MappingSource × List Mapping)} (h : (entries.map (·.1)).Nodup) :
    ((setEntry key ms entries).map (·.1)).Nodup := by
  induction entries with
  | nil =>
    unfold setEntry
    split
    · exact .nil
    · exact List.pairwise_singleton _ key
  | cons entry entries ih =>
    obtain ⟨k, ms'⟩ := entry
    obtain ⟨hk, hrest⟩ := List.nodup_cons.1 h
    unfold setEntry
    split
    · rename_i hkey
      subst hkey
      split
      · exact hrest
      · exact List.nodup_cons.2 ⟨hk, hrest⟩
    · rename_i hkey
      refine List.nodup_cons.2 ⟨fun hmem => ?_, ih hrest⟩
      rcases mem_keys_setEntry hmem with heq | hmem
      · exact hkey heq
      · exact hk hmem

/-- Setting the mappings of a source leaves those of other sources alone. -/
theorem lookup_setEntry {entries : List (MappingSource × List Mapping)}
    (h : (entries.map (·.1)).Nodup) (key k : MappingSource) (ms : List Mapping) :
    (setEntry key ms entries).lookup k = if k = key then asEntry ms else entries.lookup k := by
  induction entries with
  | nil =>
    cases ms with
    | nil => split <;> rfl
    | cons m ms => exact lookup_cons_eq_ite k key (m :: ms) []
  | cons entry entries ih =>
    obtain ⟨k', ms'⟩ := entry
    obtain ⟨hk', hrest⟩ := List.nodup_cons.1 h
    unfold setEntry
    by_cases hkey : k' = key
    · subst hkey
      rw [if_pos rfl, lookup_cons_eq_ite]
      cases ms with
      | nil =>
        -- the entry goes, and no other one has its source
        show entries.lookup k =
          if k = k' then none else if k = k' then some ms' else entries.lookup k
        by_cases hk : k = k'
        · subst hk
          rw [if_pos rfl, List.lookup_eq_none_iff]
          intro p hp
          rw [bne_iff_ne]
          rintro rfl
          exact hk' (List.mem_map.2 ⟨p, hp, rfl⟩)
        · rw [if_neg hk, if_neg hk]
      | cons m ms =>
        refine (lookup_cons_eq_ite k k' (m :: ms) entries).trans ?_
        split <;> rfl
    · rw [if_neg hkey, lookup_cons_eq_ite, ih hrest, lookup_cons_eq_ite]
      by_cases hk : k = k'
      · subst hk
        rw [if_pos rfl, if_pos rfl, if_neg hkey]
      · rw [if_neg hk, if_neg hk]

/-! ### The table and the list -/

/-- The table and the list have the same mappings for every source. No rule is there twice, and all
sources are in their folded form. -/
structure Represents (t : MappingTable) (rs : RuleList) : Prop where
  entry_eq : ∀ key, t.entry? key = asEntry (rs.mappings key)
  nodup_keys : (t.entries.map (·.1)).Nodup
  nodup_rules : rs.Nodup
  folded_eq : ∀ r ∈ rs, r.1.folded = r.1

theorem Represents.getD_entry? (h : t.Represents rs) (key : MappingSource) :
    (t.entry? key).getD [] = rs.mappings key := by
  rw [h.entry_eq, getD_asEntry]

/-- Both go on to have the same mappings if those of one source are replaced in both. -/
theorem Represents.set (h : t.Represents rs) {rs' : RuleList} {key : MappingSource}
    {ms : List Mapping} (hms : ∀ k, rs'.mappings k = if key = k then ms else rs.mappings k)
    (hnodup : rs'.Nodup) (hfolded : ∀ r ∈ rs', r.1.folded = r.1) :
    (t.set key ms).Represents rs' := by
  refine ⟨fun k => ?_, nodup_keys_setEntry ms h.nodup_keys, hnodup, hfolded⟩
  have hset : entry? (t.set key ms) k = if k = key then asEntry ms else t.entry? k :=
    lookup_setEntry h.nodup_keys key k ms
  rw [hset, h.entry_eq, hms]
  by_cases hk : k = key
  · rw [if_pos hk, if_pos hk.symm]
  · rw [if_neg hk, if_neg (Ne.symm hk)]

/-- A call does the same to both, or is refused by both for the same reason. -/
theorem alike_call (h : t.Represents rs) (c : MappingCall) :
    Alike Eq Represents (t.call c) (rs.call c) := by
  have hmem : c.mapping ∈ rs.mappings c.key ↔ (c.key, c.mapping) ∈ rs := RuleList.mem_mappings_iff
  have hgetD : (t.entry? c.source.folded).getD [] = rs.mappings c.key := h.getD_entry? c.key
  rw [call_eq_add_or_remove, RuleList.call]
  by_cases hadds : c.adds = true
  · rw [if_pos hadds, if_pos hadds, add, hgetD]
    by_cases hrule : (c.key, c.mapping) ∈ rs
    · rw [if_pos (hmem.2 hrule), if_pos hrule]
      exact .error rfl
    · rw [if_neg (mt hmem.1 hrule), if_neg hrule]
      refine .ok (h.set (fun k => ?_) ?_ fun r hr => ?_)
      · show _ = if c.key = k then _ else _
        rw [RuleList.mappings_concat]
        split
        · rename_i hk
          rw [hk]
        · rfl
      · refine List.nodup_append.2 ⟨h.nodup_rules, List.pairwise_singleton _ _, ?_⟩
        rintro r hr _ hlast rfl
        exact hrule (List.mem_singleton.1 hlast ▸ hr)
      · rcases List.mem_append.1 hr with hr | hr
        · exact h.folded_eq r hr
        · rw [List.mem_singleton.1 hr]
          exact c.source.folded_folded
  · rw [if_neg hadds, if_neg hadds, remove, hgetD]
    by_cases hrule : (c.key, c.mapping) ∈ rs
    · rw [if_pos (hmem.2 hrule), if_pos hrule]
      refine .ok (h.set (fun k => ?_) ?_ fun r hr => h.folded_eq r (List.mem_of_mem_erase hr))
      · show _ = if c.key = k then _ else _
        rw [RuleList.mappings_erase]
        split
        · rename_i hk
          rw [hk]
        · rfl
      · exact h.nodup_rules.erase _
    · rw [if_neg (mt hmem.1 hrule), if_neg hrule]
      exact .error rfl

theorem Represents.next (h : t.Represents rs) (c : MappingCall) :
    (t.next c).Represents (rs.next c) := by
  have hcall := alike_call h c
  unfold MappingTable.next RuleList.next
  generalize t.call c = r, rs.call c = r' at hcall
  cases hcall with
  | ok h' => exact h'
  | error _ => exact h

theorem Represents.map_call (h : t.Represents rs) (c : MappingCall) :
    (t.call c).map (fun _ => ()) = (rs.call c).map (fun _ => ()) := by
  have hcall := alike_call h c
  generalize t.call c = r, rs.call c = r' at hcall
  cases hcall with
  | ok _ => rfl
  | error he => exact congrArg Except.error he

theorem represents_ofConfig (config : MappingConfig) : (ofConfig config).Represents [] :=
  ⟨fun _ => rfl, .nil, .nil, nofun⟩

theorem represents_foldl (h : t.Represents rs) (calls : List MappingCall) :
    (calls.foldl MappingTable.next t).Represents (calls.foldl RuleList.next rs) := by
  induction calls generalizing t rs with
  | nil => exact h
  | cons c calls ih => exact ih (h.next c)

/-! ### What follows -/

theorem Represents.stored_eq (h : t.Represents rs) (a : Address) : t.stored a = rs.stored a := by
  unfold stored RuleList.stored
  rw [h.entry_eq, h.getD_entry?]
  unfold asEntry
  split <;> rename_i heq <;> split at heq
  · cases heq
  · rename_i hne
    rw [if_neg hne, Option.some.inj heq]
  · rename_i hnil
    rw [if_pos hnil]
  · cases heq

/-- Tables that stand for lists with the same mappings have the same mappings. -/
theorem Represents.entry?_congr {rs' : RuleList} (h : t.Represents rs) (h' : t'.Represents rs')
    {key : MappingSource} (hkey : rs.mappings key = rs'.mappings key) :
    t.entry? key = t'.entry? key := by
  rw [h.entry_eq, h'.entry_eq, hkey]

theorem stored_congr (h : ∀ key, t.entry? key = t'.entry? key) (a : Address) :
    t.stored a = t'.stored a := by
  unfold stored
  rw [h, h]

/-- An entry holds the mappings of its source, which are some and each of them once. -/
theorem Represents.entry_of_mem (h : t.Represents rs) {key : MappingSource} {ms : List Mapping}
    (hmem : (key, ms) ∈ t.entries) : key.folded = key ∧ ms ≠ [] ∧ ms.Nodup := by
  obtain ⟨before, after, hentries⟩ := List.append_of_mem hmem
  have hkeys := h.nodup_keys
  rw [hentries, List.map_append, List.nodup_append] at hkeys
  have hentry : t.entry? key = some ms := by
    refine List.lookup_eq_some_iff.2 ⟨before, after, hentries, fun p hp => ?_⟩
    rw [bne_iff_ne]
    exact (hkeys.2.2 _ (List.mem_map_of_mem hp) _ List.mem_cons_self).symm
  rw [h.entry_eq] at hentry
  unfold asEntry at hentry
  split at hentry
  · cases hentry
  · rename_i hne
    obtain rfl := Option.some.inj hentry
    obtain ⟨m, hm⟩ := List.exists_mem_of_ne_nil _ hne
    exact ⟨h.folded_eq _ (RuleList.mem_mappings_iff.1 hm), hne,
      RuleList.nodup_mappings h.nodup_rules key⟩

/-- Removing what was added brings every mapping back. -/
theorem Represents.remove_of_add (h : t.Represents rs) (hadd : t.add source m = .ok t') :
    ∃ t'', t'.remove source m = .ok t'' ∧ ∀ key, t''.entry? key = t.entry? key := by
  have hadded := alike_call h (.add source m)
  rw [show t.call (.add source m) = .ok t' from hadd, RuleList.call_add] at hadded
  by_cases hold : (source.folded, m) ∈ rs
  · rw [if_pos hold] at hadded
    cases hadded
  · rw [if_neg hold] at hadded
    cases hadded with
    | ok h' =>
      have hback : (rs ++ [(source.folded, m)]).erase (source.folded, m) = rs := by
        rw [List.erase_append_right _ hold, List.erase_cons_head, List.append_nil]
      have hremoved := alike_call h' (.remove source m)
      rw [RuleList.call_remove, if_pos (List.mem_append_right _ (List.mem_singleton_self _)),
        hback] at hremoved
      generalize hr : t'.call (.remove source m) = r at hremoved
      cases hremoved with
      | ok h'' => exact ⟨_, hr, fun key => h''.entry?_congr h rfl⟩

/-- Calls about different sources can change places. -/
theorem Represents.next_comm (h : t.Represents rs) {c d : MappingCall} (hkeys : c.key ≠ d.key) :
    ((t.next c).call d).map (fun _ => ()) = (t.call d).map (fun _ => ()) ∧
      ∀ key, entry? ((t.next c).next d) key = entry? ((t.next d).next c) key := by
  obtain ⟨hcall, hmappings⟩ := RuleList.next_comm hkeys rs
  refine ⟨?_, fun key => ?_⟩
  · rw [(h.next c).map_call, hcall, h.map_call]
  · exact ((h.next c).next d).entry?_congr ((h.next d).next c) (hmappings key)

/-- **A table is a list of rules.** After all calls on an empty table, of the six kinds and in any
order, it stands for the list of rules that the same calls make: a further call succeeds or fails on
both, for the same reason, and the mappings that apply to an address are those that the list has for
the address in lower case, in order, or those for its domain if there are none. Every source in the
table is in its folded form, stands there once, and has some mappings, each of them once. So the
rules of a domain apply again when the last mapping of an address goes; removing what was added
brings all back as it was; and calls about different sources can change places. -/
theorem is_list_of_rules (config : MappingConfig) (calls : List MappingCall) :
    let t := afterCalls config calls
    let rs := RuleList.afterCalls calls
    (∀ c, (t.call c).map (fun _ => ()) = (rs.call c).map (fun _ => ())) ∧
    (∀ a, t.stored a = rs.stored a) ∧
    (t.entries.map (·.1)).Nodup ∧
    (∀ key ms, (key, ms) ∈ t.entries → key.folded = key ∧ ms ≠ [] ∧ ms.Nodup) ∧
    (∀ a m t', t.remove (.address a) m = .ok t' → rs.mappings (.address a.folded) = [m] →
      t'.stored a = rs.mappings (.domain a.domain)) ∧
    (∀ source m t', t.add source m = .ok t' →
      ∃ t'', t'.remove source m = .ok t'' ∧ ∀ a, t''.stored a = t.stored a) ∧
    ∀ c d : MappingCall, c.key ≠ d.key →
      ((t.next c).call d).map (fun _ => ()) = (t.call d).map (fun _ => ()) ∧
      ((t.next d).call c).map (fun _ => ()) = (t.call c).map (fun _ => ()) ∧
      ∀ a, stored ((t.next c).next d) a = stored ((t.next d).next c) a := by
  intro t rs
  have h : t.Represents rs := represents_foldl (represents_ofConfig config) calls
  refine ⟨h.map_call, h.stored_eq, h.nodup_keys, fun key ms => h.entry_of_mem,
    fun a m t' hremove hlast => ?_, fun source m t' hadd => ?_, fun c d hkeys => ?_⟩
  · have hnext : t.next (.remove (.address a) m) = t' := by
      rw [next, show t.call (.remove (.address a) m) = .ok t' from hremove]
    have hown : (rs.next (.remove (.address a) m)).mappings (.address a.folded) = [] :=
      RuleList.mappings_remove_of_eq_singleton rfl hlast
    have hdomain : (rs.next (.remove (.address a) m)).mappings (.domain a.domain) =
        rs.mappings (.domain a.domain) := RuleList.mappings_next_of_ne nofun
    rw [← hnext, (h.next _).stored_eq, RuleList.stored, if_pos hown, hdomain]
  · obtain ⟨t'', hremove, hback⟩ := h.remove_of_add hadd
    exact ⟨t'', hremove, stored_congr hback⟩
  · obtain ⟨hd, hsame⟩ := h.next_comm hkeys
    exact ⟨hd, (h.next_comm hkeys.symm).1, stored_congr hsame⟩

end MappingTable

end MailRouting
