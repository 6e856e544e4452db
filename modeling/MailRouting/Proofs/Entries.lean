import MailRouting.Mail
import MailRouting.Queue.Store

/-!
# Entries by name

The notes of a mail and the queues of a store are lists of entries in the order of their names.

* `insertByName`, `lookup_insertByName` — setting an entry, for entries of any kind;
* `Attributes.get?_insert` — a note that is set, and the notes of other names;
* `QueueStore.queue_set` — a queue that is set, and the queues of other names;
* `QueueStore.queue_ensure` — making sure that a queue is there changes none;
* `QueueStore.mem_names_set`, `pairwise_names_set` — the names of a store stay in strict order.
-/

namespace MailRouting

/-- The entries with one added, or replaced if the name has one. -/
def insertByName {α : Type} (key : String) (a : α) : List (String × α) → List (String × α)
  | [] => [(key, a)]
  | (k, b) :: rest =>
    if key < k then (key, a) :: (k, b) :: rest
    else if key = k then (key, a) :: rest
    else (k, b) :: insertByName key a rest

theorem lookup_cons_eq_ite {κ α : Type} [BEq κ] [LawfulBEq κ] [DecidableEq κ] (name key : κ) (a : α)
    (entries : List (κ × α)) :
    ((key, a) :: entries).lookup name = if name = key then some a else entries.lookup name := by
  rw [List.lookup_cons]
  by_cases h : name = key
  · rw [if_pos h, beq_iff_eq.2 h]
  · rw [if_neg h, beq_eq_false_iff_ne.2 h]

theorem lookup_insertByName {α : Type} (key name : String) (a : α) (entries : List (String × α)) :
    (insertByName key a entries).lookup name =
      if name = key then some a else entries.lookup name := by
  induction entries with
  | nil => exact lookup_cons_eq_ite name key a []
  | cons entry rest ih =>
    obtain ⟨k, b⟩ := entry
    unfold insertByName
    by_cases hlt : key < k
    · rw [if_pos hlt, lookup_cons_eq_ite]
    · by_cases heq : key = k
      · subst heq
        rw [if_neg hlt, if_pos rfl, lookup_cons_eq_ite, lookup_cons_eq_ite]
        split <;> rfl
      · rw [if_neg hlt, if_neg heq, lookup_cons_eq_ite, ih, lookup_cons_eq_ite]
        by_cases hk : name = k
        · have hne : name ≠ key := fun h => heq (h.symm.trans hk)
          rw [if_pos hk, if_pos hk, if_neg hne]
        · rw [if_neg hk, if_neg hk]

/-- Every name that had an entry has one, and so has the name that was set. -/
theorem mem_keys_insertByName {α : Type} {key name : String} {a : α} {entries : List (String × α)} :
    name ∈ (insertByName key a entries).map (·.1) ↔ name = key ∨ name ∈ entries.map (·.1) := by
  induction entries with
  | nil => rw [insertByName, List.map_cons, List.mem_cons]
  | cons entry rest ih =>
    obtain ⟨k, b⟩ := entry
    unfold insertByName
    by_cases hlt : key < k
    · rw [if_pos hlt, List.map_cons, List.mem_cons]
    · by_cases heq : key = k
      · subst heq
        rw [if_neg hlt, if_pos rfl, List.map_cons, List.map_cons, List.mem_cons, ← or_assoc,
          or_self]
      · rw [if_neg hlt, if_neg heq, List.map_cons, List.map_cons, List.mem_cons, List.mem_cons, ih,
          or_left_comm]

/-- Entries in the strict order of their names stay so. -/
theorem pairwise_keys_insertByName {α : Type} {key : String} {a : α} {entries : List (String × α)}
    (h : (entries.map (·.1)).Pairwise (· < ·)) :
    ((insertByName key a entries).map (·.1)).Pairwise (· < ·) := by
  induction entries with
  | nil => exact List.pairwise_singleton _ _
  | cons entry rest ih =>
    obtain ⟨k, b⟩ := entry
    obtain ⟨hk, hrest⟩ := List.pairwise_cons.1 h
    unfold insertByName
    by_cases hlt : key < k
    · rw [if_pos hlt]
      refine List.pairwise_cons.2 ⟨fun name hname => ?_, h⟩
      rcases List.mem_cons.1 hname with rfl | hname
      · exact hlt
      · exact String.lt_trans hlt (hk name hname)
    · by_cases heq : key = k
      · subst heq
        rwa [if_neg hlt, if_pos rfl]
      · have hgt : k < key := Std.lt_of_le_of_ne (String.not_lt.1 hlt) (Ne.symm heq)
        rw [if_neg hlt, if_neg heq]
        refine List.pairwise_cons.2 ⟨fun name hname => ?_, ih hrest⟩
        rcases mem_keys_insertByName.1 hname with rfl | hname
        · exact hgt
        · exact hk name hname

/-! ### Notes -/

namespace Attributes

theorem insertEntry_eq_insertByName (key value : String) (entries : List (String × String)) :
    insertEntry key value entries = insertByName key value entries := by
  induction entries with
  | nil => rfl
  | cons entry rest ih => rw [insertEntry, insertByName, ih]

/-- Setting a note leaves those of other names alone. -/
theorem get?_insert (a : Attributes) (key name value : String) :
    (a.insert key value).get? name = if name = key then some value else a.get? name := by
  unfold get? insert
  rw [insertEntry_eq_insertByName, lookup_insertByName]

end Attributes

/-! ### Queues -/

namespace QueueStore

theorem setEntry_eq_insertByName (key : String) (q : MailQueue)
    (queues : List (String × MailQueue)) : setEntry key q queues = insertByName key q queues := by
  induction queues with
  | nil => rfl
  | cons entry rest ih => rw [setEntry, insertByName, ih]

/-- Setting a queue leaves those of other names alone. -/
theorem queue_set (s : QueueStore) (key name : String) (q : MailQueue) :
    (s.set key q).queue name = if name = key then q else s.queue name := by
  unfold queue set
  rw [setEntry_eq_insertByName, lookup_insertByName]
  split <;> rfl

/-- Making sure that a queue is there changes no queue. -/
theorem queue_ensure (s : QueueStore) (key name : String) :
    (s.ensure key).queue name = s.queue name := by
  unfold ensure
  rw [queue_set]
  split
  · next h => rw [h]
  · rfl

theorem mem_names_set {s : QueueStore} {key name : String} {q : MailQueue} :
    name ∈ (s.set key q).names ↔ name = key ∨ name ∈ s.names := by
  unfold names set
  rw [setEntry_eq_insertByName, mem_keys_insertByName]

theorem pairwise_names_set {s : QueueStore} (h : s.names.Pairwise (· < ·)) (key : String)
    (q : MailQueue) : (s.set key q).names.Pairwise (· < ·) := by
  unfold names set
  rw [setEntry_eq_insertByName]
  exact pairwise_keys_insertByName h

end QueueStore

end MailRouting
