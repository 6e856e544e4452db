import MailRouting.Proofs.Context.NamedQueues

/-!
# Queues through handles

Who asks for a queue is given a handle and keeps it: a context that of its spool, others that of the
queue that they asked for. A pool makes a queue when its name is asked for first, and gives the same
handle from then on. Nobody who holds a handle says the name again.

* `QueuePool.handle`, `QueuePool.see`, `QueuePool.through` — the handle for a name, the queue behind
  it, and what is done with that queue;
* `QueuePool.Shows` — behind the handles of a pool are the queues of a store;
* `HeldQueues.step`, `HeldQueues.run`, `HeldQueues.history` — contexts and others that go through
  the handles they hold;
* `HeldQueues.Shows.step`, `HeldQueues.Mirrors.run` — a step, and a run, come to the same as by
  name;
* `HeldQueues.shared_by_name_and_isolated` — queues are shared by name, and isolated otherwise.
-/

namespace MailRouting

/-! ### A pool of queues -/

/-- The queues that were made, and the handle that is given for a name: the place of its queue. -/
structure QueuePool where
  config : QueueConfig := {}
  made : List MailQueue := []
  handles : List (String × Nat) := []

namespace QueuePool

/-- The handle for a name. A queue is made if none was given before. -/
def handle (p : QueuePool) (name : String) : Nat × QueuePool :=
  match p.handles.lookup name with
  | some h => (h, p)
  | none => (p.made.length,
      { p with
        made := p.made ++ [.ofConfig name p.config]
        handles := (name, p.made.length) :: p.handles })

/-- The queue behind a handle. -/
def see (p : QueuePool) (h : Nat) : Option MailQueue :=
  p.made[h]?

/-- All names that a handle was given for, sorted. -/
def names (p : QueuePool) : List String :=
  (p.handles.map (·.1)).mergeSort

/-- A store that has the queue behind a handle, under a name, and no other. -/
def only (p : QueuePool) (h : Nat) (name : String) : QueueStore :=
  { config := p.config, queues := (p.see h).toList.map (name, ·) }

/-- Does something with the queue behind a handle: at a site that has no other queue. -/
def through (p : QueuePool) (h : Nat) (m : Moment) : UseAnswer × QueuePool :=
  let (answer, s) := m.use.perform { m.around with queues := p.only h m.name }
  (answer, { p with made := p.made.set h (s.queues.queue m.name) })

variable {p : QueuePool} {s s' : QueueStore} {name other : String} {h : Nat}

/-- Behind the handles of a pool are the queues of a store, each name having a handle of its own. -/
structure Shows (p : QueuePool) (s : QueueStore) : Prop where
  config_eq : p.config = s.config
  see_eq : ∀ {name h}, p.handles.lookup name = some h → p.see h = some (s.queue name)
  queue_eq : ∀ {name}, p.handles.lookup name = none → s.queue name = .ofConfig name s.config
  injective : ∀ {name name' h}, p.handles.lookup name = some h →
    p.handles.lookup name' = some h → name = name'
  nodup_handles : (p.handles.map (·.1)).Nodup

namespace Shows

theorem congr (hp : p.Shows s) (hconfig : s'.config = s.config)
    (hqueue : ∀ name, s'.queue name = s.queue name) : p.Shows s' where
  config_eq := hp.config_eq.trans hconfig.symm
  see_eq hlookup := (hp.see_eq hlookup).trans (congrArg some (hqueue _).symm)
  queue_eq hlookup := by rw [hqueue, hconfig, hp.queue_eq hlookup]
  injective := hp.injective
  nodup_handles := hp.nodup_handles

theorem lt_length (hp : p.Shows s) (hlookup : p.handles.lookup name = some h) :
    h < p.made.length :=
  (List.getElem?_eq_some_iff.1 (hp.see_eq hlookup)).1

end Shows

theorem mem_keys_iff : name ∈ p.handles.map (·.1) ↔ (p.handles.lookup name).isSome := by
  rw [List.mem_map, List.lookup_isSome_iff]
  exact exists_congr fun entry => and_congr_right fun _ => eq_comm.trans beq_iff_eq.symm

theorem lookup_handle (p : QueuePool) (name other : String) :
    (p.handle name).2.handles.lookup other =
      if other = name then some (p.handle name).1 else p.handles.lookup other := by
  unfold handle
  cases hlookup : p.handles.lookup name with
  | some h =>
    dsimp only
    split
    · next heq => rw [heq, hlookup]
    · rfl
  | none => exact lookup_cons_eq_ite other name p.made.length p.handles

theorem isSome_lookup_handle :
    ((p.handle name).2.handles.lookup other).isSome ↔
      (p.handles.lookup other).isSome ∨ some name = some other := by
  rw [lookup_handle, Option.some.injEq]
  split
  · next heq => exact iff_of_true rfl (.inr heq.symm)
  · next hne => exact (or_iff_left (Ne.symm hne)).symm

/-- A handle that was given stays the handle of its name. -/
theorem lookup_handle_of_lookup (hlookup : p.handles.lookup other = some h) :
    (p.handle name).2.handles.lookup other = some h := by
  rw [lookup_handle]
  split
  · next heq =>
    subst heq
    rw [handle, hlookup]
  · exact hlookup

theorem Shows.handle (hp : p.Shows s) (name : String) : (p.handle name).2.Shows s := by
  unfold QueuePool.handle
  cases hname : p.handles.lookup name with
  | some h => exact hp
  | none =>
    dsimp only
    constructor
    case config_eq => exact hp.config_eq
    case see_eq =>
      intro other h hlookup
      dsimp only at hlookup
      rw [lookup_cons_eq_ite] at hlookup
      show (p.made ++ [_])[h]? = _
      split at hlookup
      · next heq =>
        cases hlookup
        rw [heq, List.getElem?_concat_length, hp.queue_eq hname, hp.config_eq]
      · rw [List.getElem?_append_left (hp.lt_length hlookup)]
        exact hp.see_eq hlookup
    case queue_eq =>
      intro other hlookup
      dsimp only at hlookup
      rw [lookup_cons_eq_ite] at hlookup
      split at hlookup
      · cases hlookup
      · exact hp.queue_eq hlookup
    case injective =>
      intro a b h ha hb
      dsimp only at ha hb
      rw [lookup_cons_eq_ite] at ha hb
      split at ha <;> split at hb
      · next hna hnb => exact hna.trans hnb.symm
      · cases ha
        exact absurd (hp.lt_length hb) (Nat.lt_irrefl _)
      · cases hb
        exact absurd (hp.lt_length ha) (Nat.lt_irrefl _)
      · exact hp.injective ha hb
    case nodup_handles =>
      refine List.nodup_cons.2 ⟨fun hmem => ?_, hp.nodup_handles⟩
      rw [mem_keys_iff, hname] at hmem
      cases hmem

theorem Shows.queue_only (hp : p.Shows s) (hlookup : p.handles.lookup name = some h) :
    (p.only h name).queue name = s.queue name := by
  unfold only
  rw [hp.see_eq hlookup]
  show (List.lookup name [(name, s.queue name)]).getD _ = _
  rw [List.lookup_cons_self]
  rfl

/-- What is done through the handle of a name comes to what it comes to by name. -/
theorem Shows.through {m : Moment} (hp : p.Shows s) (hlookup : p.handles.lookup m.name = some h) :
    (p.through h m).1 = (m.use.perform { m.around with queues := s }).1 ∧
      (p.through h m).2.Shows (m.use.perform { m.around with queues := s }).2.queues := by
  have hkeeps : Site.KeepsTo (· = m.use.name) m.use.perform := QueueUse.keepsTo_perform rfl
  have hsites : Site.SameOn (· = m.use.name) { m.around with queues := s }
      { m.around with queues := p.only h m.name } :=
    ⟨_, rfl, fun name hname => hname ▸ hp.queue_only hlookup⟩
  have hchanged := hkeeps.changedOn { m.around with queues := s }
  have hqueue := hkeeps.queue_eq hsites rfl
  refine ⟨hkeeps.answer_eq hsites, ?_⟩
  constructor
  case config_eq => exact hp.config_eq.trans hchanged.config_eq.symm
  case see_eq =>
    intro other h' hother
    show (p.made.set h _)[h']? = _
    by_cases hname : other = m.name
    · subst hname
      obtain rfl := Option.some.inj (hlookup.symm.trans hother)
      rw [List.getElem?_set_self (hp.lt_length hlookup)]
      exact congrArg some hqueue
    · have hne : h ≠ h' := fun heq => hname (hp.injective hother (heq ▸ hlookup))
      rw [List.getElem?_set_ne hne, hchanged.queue_eq hname]
      exact hp.see_eq hother
  case queue_eq =>
    intro other hother
    have hname : other ≠ m.name := fun heq => nomatch (heq ▸ hother).symm.trans hlookup
    rw [hchanged.queue_eq hname, hchanged.config_eq]
    exact hp.queue_eq hother
  case injective => exact hp.injective
  case nodup_handles => exact hp.nodup_handles

/-- The names of a pool are those of a store if the same ones were asked for. -/
theorem Shows.names_eq (hp : p.Shows s) (hpairwise : s.names.Pairwise (· < ·))
    (hmem : ∀ name, name ∈ s.names ↔ (p.handles.lookup name).isSome) : p.names = s.names := by
  have hnodup : s.names.Nodup :=
    hpairwise.imp fun {a b} (hlt : a < b) (heq : a = b) => String.lt_irrefl b (heq ▸ hlt)
  have hperm : (p.handles.map (·.1)).Perm s.names :=
    (List.perm_ext_iff_of_nodup hp.nodup_handles hnodup).2 fun name =>
      mem_keys_iff.trans (hmem name).symm
  have hsorted : p.names.Pairwise (· ≤ ·) := by
    refine (List.pairwise_mergeSort (fun a b c hab hbc => ?_) (fun a b => ?_) _).imp
      of_decide_eq_true
    · exact decide_eq_true (String.le_trans (of_decide_eq_true hab) (of_decide_eq_true hbc))
    · rw [Bool.or_eq_true, decide_eq_true_eq, decide_eq_true_eq]
      exact String.le_total a b
  exact ((List.mergeSort_perm _ _).trans hperm).eq_of_pairwise
    (fun _ _ _ _ => String.le_antisymm) hsorted (hpairwise.imp Std.le_of_lt)

end QueuePool

/-! ### Who holds handles -/

/-- Who was given a handle. -/
inductive Holder where
  | context (c : RoutingContext)
  | caller (queue : String)
  deriving DecidableEq

/-- The name that the handle was given for. -/
def Holder.name : Holder → String
  | .context c => c.spool
  | .caller queue => queue

/-- A pool of queues, and all handles that were given out, in order. -/
structure HeldQueues where
  pool : QueuePool
  held : List (Holder × Nat) := []

namespace HeldQueues

/-- No queue was asked for, and no handle is held. -/
def ofConfig (config : QueueConfig) : HeldQueues :=
  { pool := { config } }

/-- The handles that somebody holds. -/
def handlesOf (x : HeldQueues) (who : Holder) : List Nat :=
  (x.held.filter (·.1 = who)).map (·.2)

/-- Somebody asks the pool for a handle and keeps it. -/
def receive (x : HeldQueues) (who : Holder) : Nat × HeldQueues :=
  let (h, pool) := x.pool.handle who.name
  (h, { pool, held := x.held ++ [(who, h)] })

/-- Something is done through a handle. -/
def through (x : HeldQueues) (h : Nat) (m : Moment) : UseAnswer × HeldQueues :=
  let (answer, pool) := x.pool.through h m
  (answer, { x with pool })

/-- What is answered, and what becomes of the pool and the handles. A context that is made asks for
its spool, and it dispatches through the handle that it was given then. Who has no context goes
through any of the handles that were given for the name before, or asks anew. -/
def step (x : HeldQueues) (m : Moment) (choice : Nat) : UseAnswer × HeldQueues :=
  match m.use with
  | .create _ =>
    let answer := (m.use.perform { m.around with queues := { config := x.pool.config } }).1
    match answer.context? with
    | some c => (answer, (x.receive (.context c)).2)
    | none => (answer, x)
  | .dispatch c _ =>
    let handles := x.handlesOf (.context c)
    match handles[choice % handles.length]? with
    | some h => x.through h m
    | none => (.noContext, x)
  | .call queue _ =>
    match (x.handlesOf (.caller queue))[choice]? with
    | some h => x.through h m
    | none =>
      let (h, x) := x.receive (.caller queue)
      x.through h m

/-- What a run leaves, with a choice of handles at each step. -/
def run (x : HeldQueues) : List (Moment × Nat) → HeldQueues
  | [] => x
  | (m, choice) :: rest => (x.step m choice).2.run rest

/-- What was done in a run, and what was answered, in order. -/
def history (x : HeldQueues) : List (Moment × Nat) → List (Moment × UseAnswer)
  | [] => []
  | (m, choice) :: rest => (m, (x.step m choice).1) :: (x.step m choice).2.history rest

variable {x : HeldQueues} {y : NamedQueues} {who : Holder} {m : Moment} {choice h : Nat}

theorem mem_handlesOf_iff : h ∈ x.handlesOf who ↔ (who, h) ∈ x.held := by
  unfold handlesOf
  rw [List.mem_map]
  constructor
  · rintro ⟨⟨who', h'⟩, hmem, rfl⟩
    obtain ⟨hheld, hwho⟩ := List.mem_filter.1 hmem
    rwa [← of_decide_eq_true hwho]
  · intro hheld
    exact ⟨(who, h), List.mem_filter.2 ⟨hheld, decide_eq_true rfl⟩, rfl⟩

/-- The pool shows the queues of the store, every handle is the one of its name, and the contexts
are those that hold one. -/
structure Shows (x : HeldQueues) (y : NamedQueues) : Prop where
  pool : x.pool.Shows y.queues
  lookup_of_held : ∀ {who h}, (who, h) ∈ x.held → x.pool.handles.lookup who.name = some h
  mem_contexts_iff : ∀ c, c ∈ y.contexts ↔ ∃ h, (.context c, h) ∈ x.held

theorem shows_ofConfig (config : QueueConfig) : (ofConfig config).Shows (.ofConfig config) where
  pool := ⟨rfl, nofun, fun _ => rfl, nofun, .nil⟩
  lookup_of_held := nofun
  mem_contexts_iff _ := iff_of_false nofun nofun

namespace Shows

theorem lookup_receive (hx : x.Shows y) {other : Holder} (who : Holder)
    (hheld : (other, h) ∈ (x.receive who).2.held) :
    (x.receive who).2.pool.handles.lookup other.name = some h := by
  rcases List.mem_append.1 hheld with hbefore | hnew
  · exact QueuePool.lookup_handle_of_lookup (hx.lookup_of_held hbefore)
  · obtain ⟨rfl, rfl⟩ := Prod.mk.inj (List.mem_singleton.1 hnew)
    exact (QueuePool.lookup_handle _ _ _).trans (if_pos rfl)

/-- A caller who is given a handle changes nothing that can be seen. -/
theorem receive_caller (hx : x.Shows y) (queue : String) :
    (x.receive (.caller queue)).2.Shows y where
  pool := hx.pool.handle queue
  lookup_of_held := hx.lookup_receive (.caller queue)
  mem_contexts_iff c := by
    rw [hx.mem_contexts_iff c]
    refine exists_congr fun h => (List.mem_append.trans (or_iff_left ?_)).symm
    exact fun hnew => nomatch (Prod.mk.inj (List.mem_singleton.1 hnew)).1

/-- A context that is given the handle of its spool is one of the contexts. -/
theorem receive_context (hx : x.Shows y) (c : RoutingContext) :
    (x.receive (.context c)).2.Shows
      { queues := y.queues.ensure c.spool, contexts := y.contexts ++ [c] } where
  pool := (hx.pool.handle c.spool).congr rfl fun name => QueueStore.queue_ensure _ _ _
  lookup_of_held := hx.lookup_receive (.context c)
  mem_contexts_iff c' := by
    rw [List.mem_append, List.mem_singleton, hx.mem_contexts_iff c']
    constructor
    · rintro (⟨h, hheld⟩ | rfl)
      · exact ⟨h, List.mem_append_left _ hheld⟩
      · exact ⟨_, List.mem_append_right _ List.mem_cons_self⟩
    · rintro ⟨h, hheld⟩
      rcases List.mem_append.1 hheld with hbefore | hnew
      · exact .inl ⟨h, hbefore⟩
      · exact .inr (Holder.context.inj (Prod.mk.inj (List.mem_singleton.1 hnew)).1)

/-- What is done through the handle of its name comes to the same as by name. -/
theorem through (hx : x.Shows y) (hlookup : x.pool.handles.lookup m.name = some h)
    (hallows : y.allows m.use = true) (hmade : ∀ s, (m.use.perform s).1.context? = none) :
    (x.through h m).1 = (y.step m).1 ∧ (x.through h m).2.Shows (y.step m).2 := by
  obtain ⟨hanswer, hpool⟩ := hx.pool.through hlookup
  rw [NamedQueues.step_of_allows hallows]
  refine ⟨hanswer, hpool, hx.lookup_of_held, ?_⟩
  rw [hmade]
  intro c
  rw [Option.toList_none, List.append_nil]
  exact hx.mem_contexts_iff c

/-- A context is made in both or in neither, and holds the handle of its spool. -/
theorem step_create (hx : x.Shows y) {config : ContextConfig} (hm : m.use = .create config) :
    (x.step m choice).1 = (y.step m).1 ∧ (x.step m choice).2.Shows (y.step m).2 := by
  obtain ⟨around, use⟩ := m
  subst hm
  have hanswer : ((QueueUse.create config).perform
      { around with queues := { config := x.pool.config } }).1 =
        .created ((y.site ⟨around, .create config⟩).perform (RoutingContext.create config).run).1 :=
    congrArg UseAnswer.created (RoutingContext.fst_perform_create_congr config
      (y.site ⟨around, .create config⟩) { config := x.pool.config })
  rw [NamedQueues.step_of_allows rfl]
  unfold HeldQueues.step
  dsimp only
  rw [hanswer, QueueUse.perform]
  rcases RoutingContext.perform_create_cases config (y.site ⟨around, .create config⟩) with
    ⟨e, t, hperform, hqueues⟩ | ⟨c, t, hperform, rfl, hqueues⟩
  · rw [hperform]
    dsimp only [UseAnswer.context?]
    rw [hqueues, Option.toList_none, List.append_nil]
    exact ⟨rfl, hx⟩
  · rw [hperform]
    dsimp only [UseAnswer.context?]
    rw [hqueues, Option.toList_some]
    exact ⟨rfl, hx.receive_context c⟩

/-- One step through handles comes to the same as by name, whichever handles are chosen. -/
theorem step (hx : x.Shows y) (m : Moment) (choice : Nat) :
    (x.step m choice).1 = (y.step m).1 ∧ (x.step m choice).2.Shows (y.step m).2 := by
  obtain ⟨around, use⟩ := m
  cases use with
  | create config => exact hx.step_create rfl
  | dispatch c op =>
    unfold HeldQueues.step
    dsimp only
    split
    · next h hget =>
      have hheld := mem_handlesOf_iff.1 (List.mem_of_getElem? hget)
      have hcontext := (hx.mem_contexts_iff c).2 ⟨h, hheld⟩
      exact hx.through (hx.lookup_of_held hheld) (decide_eq_true hcontext) fun _ => rfl
    · next hget =>
      have hcontext : c ∉ y.contexts := by
        rw [hx.mem_contexts_iff]
        rintro ⟨h, hheld⟩
        have hlength := List.length_pos_of_mem (mem_handlesOf_iff.2 hheld)
        exact absurd (Nat.mod_lt choice hlength)
          (Nat.not_lt_of_le (List.getElem?_eq_none_iff.1 hget))
      have hallows : y.allows (.dispatch c op) = false := decide_eq_false hcontext
      rw [NamedQueues.step_of_not_allows hallows]
      exact ⟨rfl, hx⟩
  | call queue action =>
    have hmade (s : Site) : ((QueueUse.call queue action).perform s).1.context? = none := by
      cases action <;> rfl
    unfold HeldQueues.step
    dsimp only
    split
    · next h hget =>
      have hheld := mem_handlesOf_iff.1 (List.mem_of_getElem? hget)
      exact hx.through (hx.lookup_of_held hheld) rfl hmade
    · have hheld : (.caller queue, (x.receive (.caller queue)).1) ∈
          (x.receive (.caller queue)).2.held := List.mem_append_right _ List.mem_cons_self
      exact (hx.receive_caller queue).through (hx.lookup_receive _ hheld) rfl hmade

/-- A name comes in if it is asked for. -/
theorem isSome_lookup_step (hx : x.Shows y) {name : String} :
    ((x.step m choice).2.pool.handles.lookup name).isSome ↔
      (x.pool.handles.lookup name).isSome ∨ m.use.asked? (x.step m choice).1 = some name := by
  obtain ⟨around, use⟩ := m
  cases use with
  | create config =>
    unfold HeldQueues.step
    dsimp only
    split
    · next c hmade =>
      dsimp only
      rw [(QueueUse.spool_of_made hmade).2]
      exact QueuePool.isSome_lookup_handle
    · next hmade =>
      dsimp only
      rw [QueueUse.asked?_create_of_not_made hmade]
      exact (or_iff_left nofun).symm
  | dispatch c op =>
    refine Iff.trans (Iff.of_eq ?_) (or_iff_left nofun).symm
    unfold HeldQueues.step
    dsimp only
    split <;> rfl
  | call queue action =>
    unfold HeldQueues.step
    dsimp only
    split
    · next h hget =>
      -- a handle was given for that name before
      have hlookup := hx.lookup_of_held (mem_handlesOf_iff.1 (List.mem_of_getElem? hget))
      refine (or_iff_left_of_imp fun hname => ?_).symm
      cases hname
      exact Option.isSome_of_eq_some hlookup
    · exact QueuePool.isSome_lookup_handle

end Shows

/-- A pool and a store that came about in the same way. -/
structure Mirrors (x : HeldQueues) (y : NamedQueues) : Prop where
  shows : x.Shows y
  kept : y.Kept
  mem_names_iff : ∀ name, name ∈ y.queues.names ↔ (x.pool.handles.lookup name).isSome

theorem mirrors_ofConfig (config : QueueConfig) : (ofConfig config).Mirrors (.ofConfig config) :=
  ⟨shows_ofConfig config, NamedQueues.kept_ofConfig config, fun _ => iff_of_false nofun nofun⟩

namespace Mirrors

theorem step (hx : x.Mirrors y) (m : Moment) (choice : Nat) :
    (x.step m choice).1 = (y.step m).1 ∧ (x.step m choice).2.Mirrors (y.step m).2 := by
  obtain ⟨hanswer, hnext⟩ := hx.shows.step m choice
  refine ⟨hanswer, hnext, hx.kept.step m, fun name => ?_⟩
  rw [hx.kept.mem_names_step_iff, hx.shows.isSome_lookup_step, hx.mem_names_iff, hanswer]

/-- A run through handles comes to the same as by name. -/
theorem run (hx : x.Mirrors y) (turns : List (Moment × Nat)) :
    x.history turns = y.history (turns.map (·.1)) ∧
      (x.run turns).Mirrors (y.run (turns.map (·.1))) := by
  induction turns generalizing x y with
  | nil => exact ⟨rfl, hx⟩
  | cons turn turns ih =>
    obtain ⟨m, choice⟩ := turn
    obtain ⟨hanswer, hnext⟩ := hx.step m choice
    obtain ⟨hhistory, hrun⟩ := ih hnext
    refine ⟨?_, hrun⟩
    rw [List.map_cons, history, NamedQueues.history, hanswer, hhistory]

end Mirrors

/-- **Shared by name, isolated otherwise.** Start with a pool that made no queue, and let contexts
be made, let them dispatch through their handles, and let others go through handles that they were
given or ask for, in any order and each time around whatever else. Two handles are the same exactly
if they were given for the same name. What is seen through one, and all that is answered, is what a
store of queues by name has and answers. There the queue of a name, and all answers to what is
addressed to that name, refusals among them, are those of the run of these alone. And the names of
the pool are those of the store, in strict order, and just those that a context that was made or
somebody else has asked for. -/
theorem shared_by_name_and_isolated (config : QueueConfig) (turns : List (Moment × Nat)) :
    let x := (ofConfig config).run turns
    let y := NamedQueues.ofConfig config
    let moments := turns.map (·.1)
    (∀ p ∈ x.held, ∀ p' ∈ x.held, p.1.name = p'.1.name ↔ p.2 = p'.2) ∧
    (∀ p ∈ x.held, x.pool.see p.2 = some ((y.run moments).queues.queue p.1.name)) ∧
    (ofConfig config).history turns = y.history moments ∧
    (∀ name, (y.run moments).queues.queue name =
        (y.run (moments.filter (·.name = name))).queues.queue name ∧
      (y.history moments).filter (·.1.name = name) =
        y.history (moments.filter (·.name = name))) ∧
    x.pool.names = (y.run moments).queues.names ∧
    (y.run moments).queues.names.Pairwise (· < ·) ∧
    ∀ name, name ∈ (y.run moments).queues.names ↔
      name ∈ NamedQueues.askedNames (y.history moments) := by
  intro x y moments
  obtain ⟨hhistory, hmirrors⟩ := (mirrors_ofConfig config).run turns
  obtain ⟨hkept, hnames⟩ := (NamedQueues.kept_ofConfig config).run moments
  have hlookup {p : Holder × Nat} (hp : p ∈ x.held) := hmirrors.shows.lookup_of_held hp
  refine ⟨fun p hp p' hp' => ⟨fun hname => ?_, fun hhandle => ?_⟩, fun p hp => ?_, hhistory,
    fun name => ?_, ?_, hkept.pairwise_names, fun name => ?_⟩
  · exact Option.some.inj ((hlookup hp).symm.trans (hname ▸ hlookup hp'))
  · exact hmirrors.shows.pool.injective (hlookup hp) (hhandle ▸ hlookup hp')
  · exact hmirrors.shows.pool.see_eq (hlookup hp)
  · have hsame : NamedQueues.AgreesOn name y y := .refl y
    obtain ⟨hrun, hfilter⟩ := hsame.run_filter moments
    exact ⟨hrun.queue_eq, hfilter⟩
  · exact hmirrors.shows.pool.names_eq hkept.pairwise_names hmirrors.mem_names_iff
  · exact (hnames name).trans (or_iff_right nofun)

-- two contexts share a spool for one mail, and a caller fills a queue of another name
example :
    let turns : List (Moment × Nat) :=
      [(⟨{}, .create {}⟩, 0), (⟨{}, .call "audit" (.push { name := "a" } none)⟩, 0),
        (⟨{}, .create {}⟩, 0), (⟨{}, .call "spool" (.push { name := "b" } none)⟩, 0)]
    let x := (ofConfig { capacity := some 1 }).run turns
    x.held.map (·.2) = [0, 1, 0, 0] ∧ x.pool.made.map (·.size) = [1, 1] := by
  exact ⟨rfl, rfl⟩

end HeldQueues

end MailRouting
