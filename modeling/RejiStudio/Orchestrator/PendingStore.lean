import Mathlib.Data.List.AList
import RejiStudio.Orchestrator.Action

/-!
# The store of pending actions

A map from action ids to entries in which every entry is filed under the id of
its own action.  The removals of the source (one id, a list of ids, everything)
are related to the ids they take out by permutations.
-/

namespace RejiStudio.Orchestrator

/-- `PendingEntry`: `created` is an instant in nanoseconds. -/
structure PendingEntry where
  action : RjAction
  ruleId : String
  created : Nat
  deriving DecidableEq

def pendingTtl : Nat := 30 * 1000000000

/-- `now.duration_since(created)` saturates at zero. -/
def PendingEntry.expired (now : Nat) (entry : PendingEntry) : Bool :=
  decide (pendingTtl ≤ now - entry.created)

structure PendingStore where
  entries : AList fun _ : UInt32 => PendingEntry
  keyed : ∀ id entry, entries.lookup id = some entry → entry.action.id = id

namespace PendingStore

def empty : PendingStore := ⟨∅, by simp⟩

def keys (store : PendingStore) : List UInt32 := store.entries.keys

def lookup (store : PendingStore) (id : UInt32) : Option PendingEntry :=
  store.entries.lookup id

def values (store : PendingStore) : List PendingEntry :=
  store.entries.entries.map Sigma.snd

@[simp]
theorem keys_empty : empty.keys = [] := rfl

theorem keys_nodup (store : PendingStore) : store.keys.Nodup := store.entries.keys_nodup

theorem mem_keys_iff {store : PendingStore} {id : UInt32} :
    id ∈ store.keys ↔ ∃ entry, store.lookup id = some entry := by
  rw [keys, ← AList.mem_keys, ← AList.lookup_isSome, Option.isSome_iff_exists]
  rfl

theorem id_of_lookup {store : PendingStore} {id : UInt32} {entry : PendingEntry}
    (found : store.lookup id = some entry) : entry.action.id = id :=
  store.keyed id entry found

theorem values_ids (store : PendingStore) :
    store.values.map (fun entry => entry.action.id) = store.keys := by
  rw [values, keys, AList.keys, List.keys, List.map_map]
  apply List.map_congr_left
  rintro ⟨id, entry⟩ membership
  exact store.keyed id entry (AList.mem_lookup_iff.mpr membership)

def insert (store : PendingStore) (entry : PendingEntry) : PendingStore where
  entries := store.entries.insert entry.action.id entry
  keyed := by
    intro id found lookup
    by_cases same : id = entry.action.id
    · subst same
      rw [AList.lookup_insert] at lookup
      cases lookup
      rfl
    · rw [AList.lookup_insert_ne same] at lookup
      exact store.keyed id found lookup

@[simp]
theorem lookup_insert (store : PendingStore) (entry : PendingEntry) :
    (store.insert entry).lookup entry.action.id = some entry :=
  AList.lookup_insert _

theorem lookup_insert_ne {store : PendingStore} {entry : PendingEntry} {id : UInt32}
    (different : id ≠ entry.action.id) : (store.insert entry).lookup id = store.lookup id :=
  AList.lookup_insert_ne different

/-- What is found after an insertion is the new entry, or an old one under another id. -/
theorem lookup_insert_cases {store : PendingStore} {entry found : PendingEntry} {id : UInt32}
    (present : (store.insert entry).lookup id = some found) :
    (id = entry.action.id ∧ found = entry) ∨
    (id ≠ entry.action.id ∧ store.lookup id = some found) := by
  by_cases same : id = entry.action.id
  · subst same
    rw [lookup_insert] at present
    exact .inl ⟨rfl, (Option.some.inj present).symm⟩
  · rw [lookup_insert_ne same] at present
    exact .inr ⟨same, present⟩

theorem keys_insert (store : PendingStore) (entry : PendingEntry) :
    (store.insert entry).keys = entry.action.id :: store.keys.erase entry.action.id :=
  AList.keys_insert _

theorem keys_insert_of_notMem {store : PendingStore} {entry : PendingEntry}
    (absent : entry.action.id ∉ store.keys) :
    (store.insert entry).keys = entry.action.id :: store.keys := by
  rw [keys_insert, List.erase_of_not_mem absent]

def remove (store : PendingStore) (id : UInt32) : PendingStore × Option PendingEntry :=
  (⟨store.entries.erase id, by
    intro other entry lookup
    by_cases same : other = id
    · subst same
      simp at lookup
    · rw [AList.lookup_erase_ne same] at lookup
      exact store.keyed other entry lookup⟩, store.lookup id)

@[simp]
theorem remove_snd (store : PendingStore) (id : UInt32) :
    (store.remove id).2 = store.lookup id := rfl

@[simp]
theorem keys_remove (store : PendingStore) (id : UInt32) :
    (store.remove id).1.keys = store.keys.erase id :=
  AList.keys_erase _ _

theorem lookup_remove_ne {store : PendingStore} {id other : UInt32} (different : other ≠ id) :
    (store.remove id).1.lookup other = store.lookup other :=
  AList.lookup_erase_ne different

theorem lookup_of_lookup_remove {store : PendingStore} {id other : UInt32} {entry : PendingEntry}
    (found : (store.remove id).1.lookup other = some entry) : store.lookup other = some entry := by
  by_cases same : other = id
  · subst same
    have erased : (store.remove other).1.lookup other = none := AList.lookup_erase _ _
    rw [erased] at found
    cases found
  · rwa [lookup_remove_ne same] at found

theorem keys_perm_remove {store : PendingStore} {id : UInt32} {entry : PendingEntry}
    (found : store.lookup id = some entry) :
    store.keys.Perm (entry.action.id :: (store.remove id).1.keys) := by
  rw [id_of_lookup found, keys_remove]
  exact List.perm_cons_erase (mem_keys_iff.mpr ⟨entry, found⟩)

theorem remove_of_lookup_none {store : PendingStore} {id : UInt32}
    (absent : store.lookup id = none) : (store.remove id).1.keys = store.keys := by
  rw [keys_remove, List.erase_of_not_mem]
  rw [mem_keys_iff, absent]
  simp

/-- Take out a list of ids; the entries that were there come back in that order. -/
def removeAll : List UInt32 → PendingStore → PendingStore × List PendingEntry
  | [], store => (store, [])
  | id :: ids, store =>
      let (smaller, removed) := store.remove id
      let (rest, entries) := removeAll ids smaller
      (rest, removed.toList ++ entries)

theorem keys_perm_removeAll (ids : List UInt32) (store : PendingStore) :
    store.keys.Perm ((store.removeAll ids).1.keys ++
      (store.removeAll ids).2.map fun entry => entry.action.id) := by
  induction ids generalizing store with
  | nil => simp [removeAll]
  | cons id ids inductionHypothesis =>
      have rest := inductionHypothesis (store.remove id).1
      cases found : store.lookup id with
      | none =>
          rw [remove_of_lookup_none found] at rest
          simpa [removeAll, found] using rest
      | some entry =>
          refine (keys_perm_remove found).trans ((rest.cons _).trans ?_)
          simpa [removeAll, found] using List.perm_middle.symm

theorem lookup_removeAll_of_notMem {ids : List UInt32} {store : PendingStore} {id : UInt32}
    (kept : id ∉ ids) : (store.removeAll ids).1.lookup id = store.lookup id := by
  induction ids generalizing store with
  | nil => rfl
  | cons head rest inductionHypothesis =>
      obtain ⟨different, keptRest⟩ := not_or.mp (List.mem_cons.not.mp kept)
      exact (inductionHypothesis keptRest).trans (lookup_remove_ne different)

theorem lookup_of_lookup_removeAll {ids : List UInt32} {store : PendingStore} {id : UInt32}
    {entry : PendingEntry} (found : (store.removeAll ids).1.lookup id = some entry) :
    store.lookup id = some entry := by
  induction ids generalizing store with
  | nil => exact found
  | cons head rest inductionHypothesis => exact lookup_of_lookup_remove (inductionHypothesis found)

/-- The ids a sweep that read its clock at `now` collects. -/
def expiredIds (store : PendingStore) (now : Nat) : List UInt32 :=
  (store.entries.entries.filter fun entry => entry.2.expired now).map Sigma.fst

theorem expiredIds_sublist (store : PendingStore) (now : Nat) :
    (store.expiredIds now).Sublist store.keys :=
  List.filter_sublist.map Sigma.fst

theorem mem_expiredIds_iff {store : PendingStore} {now : Nat} {id : UInt32} :
    id ∈ store.expiredIds now ↔
      ∃ entry, store.lookup id = some entry ∧ entry.expired now = true := by
  simp only [expiredIds, List.mem_map, List.mem_filter]
  constructor
  · rintro ⟨⟨other, entry⟩, ⟨membership, expired⟩, rfl⟩
    exact ⟨entry, AList.mem_lookup_iff.mpr membership, expired⟩
  · rintro ⟨entry, found, expired⟩
    exact ⟨⟨id, entry⟩, ⟨AList.mem_lookup_iff.mp found, expired⟩, rfl⟩

end PendingStore

end RejiStudio.Orchestrator
