import RejiStudio.Lib.CyclicIds
import RejiStudio.Lib.Machine
import RejiStudio.Orchestrator.Monitor

/-!
# Action ids from several threads

`next_action_id` takes a number from an atomic counter, and a second one if the first was
zero.  The steps of the calls come in any order.
-/

namespace RejiStudio.Orchestrator

open RejiStudio.Lib

/-- `NEXT_ACTION_ID`, and the threads that read zero and go on to the second `fetch_add`.
The last three fields are history: the calls that began, what every `fetch_add` read and
what the calls returned. -/
structure ActionIds (Thread : Type) where
  counter : UInt32
  skipping : List Thread
  calls : Nat
  reads : List UInt32
  returned : List (Thread × UInt32)

namespace ActionIds

variable {Thread : Type}

def start (counter : UInt32) : ActionIds Thread := ⟨counter, [], 0, [], []⟩

/-- `fetch_add(1)`, which wraps. -/
def fetchAdd (state : ActionIds Thread) : ActionIds Thread :=
  { state with
    counter := state.counter + 1
    reads := state.reads ++ [state.counter] }

/-- The next `fetch_add` of a thread: that of a new call, or the second of the one it is
in. -/
def step [DecidableEq Thread] : Machine (ActionIds Thread) Thread
  | state, thread =>
      if thread ∈ state.skipping then
        some { state.fetchAdd with
          skipping := state.skipping.erase thread
          returned := state.returned ++ [(thread, state.counter)] }
      else if state.counter = 0 then
        some { state.fetchAdd with
          skipping := thread :: state.skipping
          calls := state.calls + 1 }
      else
        some { state.fetchAdd with
          calls := state.calls + 1
          returned := state.returned ++ [(thread, state.counter)] }

/-- A thread goes on to its second `fetch_add`, or begins a call and reads zero or an id. -/
theorem step_cases [DecidableEq Thread] {state next : ActionIds Thread} {thread : Thread}
    (stepped : state.step thread = some next) :
    (thread ∈ state.skipping ∧ next = { state.fetchAdd with
      skipping := state.skipping.erase thread
      returned := state.returned ++ [(thread, state.counter)] }) ∨
    (state.counter = 0 ∧ next = { state.fetchAdd with
      skipping := thread :: state.skipping
      calls := state.calls + 1 }) ∨
    (state.counter ≠ 0 ∧ next = { state.fetchAdd with
      calls := state.calls + 1
      returned := state.returned ++ [(thread, state.counter)] }) := by
  by_cases inside : thread ∈ state.skipping
  · rw [step, if_pos inside] at stepped
    exact .inl ⟨inside, (Option.some.inj stepped).symm⟩
  · rw [step, if_neg inside] at stepped
    by_cases zero : state.counter = 0
    · rw [if_pos zero] at stepped
      exact .inr (.inl ⟨zero, (Option.some.inj stepped).symm⟩)
    · rw [if_neg zero] at stepped
      exact .inr (.inr ⟨zero, (Option.some.inj stepped).symm⟩)

theorem call_eq_nextActionId [DecidableEq Thread] {state : ActionIds Thread} {thread : Thread}
    (outside : thread ∉ state.skipping) :
    ∃ steps finish, (∀ other ∈ steps, other = thread) ∧
      Machine.exec step state steps = some finish ∧
      finish.returned = state.returned ++ [(thread, (nextActionId state.counter).1)] ∧
      finish.counter = (nextActionId state.counter).2 ∧ finish.skipping = state.skipping := by
  unfold nextActionId
  by_cases zero : state.counter = 0
  · rw [if_pos zero]
    refine ⟨[thread, thread], { state.fetchAdd.fetchAdd with
      calls := state.calls + 1
      returned := state.returned ++ [(thread, state.counter + 1)] }, by simp, ?_, rfl, ?_, rfl⟩
    · simp [step, outside, zero, fetchAdd]
    · simp only [fetchAdd, zero]
      rfl
  · rw [if_neg zero]
    refine ⟨[thread], { state.fetchAdd with
      calls := state.calls + 1
      returned := state.returned ++ [(thread, state.counter)] }, by simp, ?_, rfl, rfl, rfl⟩
    simp [step, outside, zero]

/-! ## The invariant -/

/-- The counter went through its values, and every second `fetch_add` was preceded by one
that read zero. -/
structure Invariant (counter : UInt32) (state : ActionIds Thread) : Prop where
  value : state.counter.toNat = (counter.toNat + state.reads.length) % 2 ^ 32
  reads : state.reads.map (fun read => read.toNat + 1) =
    cyclicIds (2 ^ 32) counter.toNat state.reads.length
  returned : (state.returned.map Prod.snd).Sublist state.reads
  nonzero : 0 ∉ state.returned.map Prod.snd
  began : state.calls ≤ state.reads.length
  skips : state.reads.length + state.skipping.length ≤ state.calls + state.reads.count 0

theorem invariant_start (counter : UInt32) :
    (start counter : ActionIds Thread).Invariant counter where
  value := by
    have bound := counter.toNat_lt
    exact (Nat.mod_eq_of_lt bound).symm
  reads := rfl
  returned := .slnil
  nonzero := nofun
  began := Nat.le_refl _
  skips := Nat.le_refl _

theorem Invariant.nodup_reads {counter : UInt32} {state : ActionIds Thread}
    (invariant : state.Invariant counter) (round : state.reads.length ≤ 2 ^ 32) :
    state.reads.Nodup := by
  apply List.Nodup.of_map fun read : UInt32 => read.toNat + 1
  rw [invariant.reads]
  exact (nodup_cyclicIds_iff (by decide)).mpr round

/-- As long as so few calls began, the counter has not come round. -/
theorem Invariant.round {counter : UInt32} {state : ActionIds Thread}
    (invariant : state.Invariant counter) (few : state.calls < 2 ^ 32 - 1)
    (round : state.reads.length ≤ 2 ^ 32) : state.reads.length + 1 ≤ 2 ^ 32 := by
  have once := List.nodup_iff_count_le_one.mp (invariant.nodup_reads round) 0
  have skips := invariant.skips
  omega

theorem Invariant.fetch {counter : UInt32} {state : ActionIds Thread}
    (invariant : state.Invariant counter) :
    (state.counter + 1).toNat = (counter.toNat + (state.reads ++ [state.counter]).length) % 2 ^ 32 ∧
      (state.reads ++ [state.counter]).map (fun read => read.toNat + 1) =
        cyclicIds (2 ^ 32) counter.toNat (state.reads ++ [state.counter]).length := by
  rw [List.length_append, List.length_singleton]
  constructor
  · rw [UInt32.toNat_add, UInt32.toNat_one, invariant.value, Nat.mod_add_mod, Nat.add_assoc]
  · rw [List.map_append, invariant.reads, cyclicIds_append, List.map_singleton, invariant.value]
    rfl

/-- The second `fetch_add` of a call does not read zero again within the round. -/
theorem Invariant.second_ne_zero {counter : UInt32} {state : ActionIds Thread} {thread : Thread}
    (invariant : state.Invariant counter) (inside : thread ∈ state.skipping)
    (distinct : (state.reads ++ [state.counter]).Nodup) : state.counter ≠ 0 := by
  intro zero
  have present := List.length_pos_of_mem inside
  have skips := invariant.skips
  have began := invariant.began
  have seen : 0 < state.reads.count 0 := by omega
  have once := List.nodup_iff_count_le_one.mp distinct 0
  rw [List.count_append, zero, List.count_singleton_self] at once
  omega

/-- Every step keeps the invariant while the counter has not come round. -/
theorem Invariant.step [DecidableEq Thread] {counter : UInt32} {state next : ActionIds Thread}
    {thread : Thread} (invariant : state.Invariant counter)
    (round : state.reads.length + 1 ≤ 2 ^ 32) (stepped : state.step thread = some next) :
    next.Invariant counter ∧ next.reads.length = state.reads.length + 1 := by
  obtain ⟨value, reads⟩ := invariant.fetch
  have size : (state.reads ++ [state.counter]).length = state.reads.length + 1 := List.length_append
  have distinct : (state.reads ++ [state.counter]).Nodup := by
    apply List.Nodup.of_map fun read : UInt32 => read.toNat + 1
    rw [reads]
    exact (nodup_cyclicIds_iff (by decide)).mpr (size ▸ round)
  have counted : (state.reads ++ [state.counter]).count 0 =
      state.reads.count 0 + [state.counter].count 0 := List.count_append
  have began := invariant.began
  have skips := invariant.skips
  have handed : (state.returned.map Prod.snd ++ [state.counter]).Sublist
      (state.reads ++ [state.counter]) := invariant.returned.append (.refl _)
  rcases step_cases stepped with ⟨inside, rfl⟩ | ⟨zero, rfl⟩ | ⟨nonzero, rfl⟩
  · have nonzero := invariant.second_ne_zero inside distinct
    have erased := List.length_erase_of_mem inside
    have present := List.length_pos_of_mem inside
    refine ⟨⟨value, reads, ?_, ?_, ?_, ?_⟩, size⟩
    · rw [List.map_append]
      exact handed
    · rw [List.map_append, List.mem_append, not_or]
      exact ⟨invariant.nonzero, fun last => nonzero (List.mem_singleton.mp last).symm⟩
    · dsimp only [fetchAdd]
      omega
    · dsimp only [fetchAdd]
      omega
  · have one : [state.counter].count 0 = 1 := by
      rw [zero]
      rfl
    refine ⟨⟨value, reads, ?_, invariant.nonzero, ?_, ?_⟩, size⟩
    · exact invariant.returned.trans (List.sublist_append_left _ _)
    · dsimp only [fetchAdd]
      omega
    · dsimp only [fetchAdd]
      rw [List.length_cons]
      omega
  · refine ⟨⟨value, reads, ?_, ?_, ?_, ?_⟩, size⟩
    · rw [List.map_append]
      exact handed
    · rw [List.map_append, List.mem_append, not_or]
      exact ⟨invariant.nonzero, fun last => nonzero (List.mem_singleton.mp last).symm⟩
    · dsimp only [fetchAdd]
      omega
    · dsimp only [fetchAdd]
      omega

theorem step_calls [DecidableEq Thread] {state next : ActionIds Thread} {thread : Thread}
    (stepped : state.step thread = some next) : state.calls ≤ next.calls := by
  rcases step_cases stepped with ⟨_, rfl⟩ | ⟨_, rfl⟩ | ⟨_, rfl⟩
  · exact Nat.le_refl _
  · exact Nat.le_succ _
  · exact Nat.le_succ _

/-- In every interleaving of fewer than `2 ^ 32 - 1` calls the ids are distinct, and none is
zero. -/
theorem returned_ids_distinct [DecidableEq Thread] {counter : UInt32} {steps : List Thread}
    {state : ActionIds Thread}
    (executed : Machine.exec step (start counter) steps = some state)
    (few : state.calls < 2 ^ 32 - 1) :
    (state.returned.map Prod.snd).Nodup ∧ 0 ∉ state.returned.map Prod.snd := by
  have kept : state.calls < 2 ^ 32 - 1 →
      state.Invariant counter ∧ state.reads.length ≤ 2 ^ 32 := by
    refine Machine.exec_invariant
      (fun state thread next
        (holds : state.calls < 2 ^ 32 - 1 → state.Invariant counter ∧ state.reads.length ≤ 2 ^ 32)
        (stepped : state.step thread = some next) => ?_)
      (fun _ => ⟨invariant_start counter, Nat.zero_le _⟩) executed
    intro fewer
    have earlier := Nat.lt_of_le_of_lt (step_calls stepped) fewer
    obtain ⟨invariant, bound⟩ := holds earlier
    have round := invariant.round earlier bound
    obtain ⟨after, size⟩ := invariant.step round stepped
    exact ⟨after, by omega⟩
  obtain ⟨invariant, bound⟩ := kept few
  exact ⟨(invariant.nodup_reads bound).sublist invariant.returned, invariant.nonzero⟩

/-- Two threads at the wrap: the first reads zero, and the second takes an id before the
first goes on. -/
theorem returned_ids_distinct_wrap :
    ∃ state : ActionIds Bool,
      Machine.exec step (start 4294967295) [true, true, false, true] = some state ∧
      state.returned = [(true, 4294967295), (false, 1), (true, 2)] ∧
      (state.returned.map Prod.snd).Nodup ∧ 0 ∉ state.returned.map Prod.snd := by
  have observed : (Machine.exec step (start 4294967295 : ActionIds Bool)
      [true, true, false, true]).map (fun state => (state.calls, state.returned)) =
      some (3, [(true, 4294967295), (false, 1), (true, 2)]) := by
    decide +kernel
  obtain ⟨state, executed, seen⟩ := Option.map_eq_some_iff.mp observed
  obtain ⟨calls, returned⟩ := Prod.mk.inj seen
  exact ⟨state, executed, returned, returned_ids_distinct executed (by omega)⟩

end ActionIds

end RejiStudio.Orchestrator
