import Mathlib.Data.List.Count
import Mathlib.Data.List.Perm.Basic
import RejiStudio.Lib.Machine
import RejiStudio.Orchestrator.PendingActions

/-!
# Runs over the pending store

A run interleaves the calls of the foreign-function boundary.  A ledger keeps
what the stores forget: which ids were enqueued, and where each removed id went.
Every step conserves the ids, so a pending action has one fate at any time.
-/

namespace RejiStudio.Orchestrator

open RejiStudio.Lib

structure Ledger where
  enqueued : List UInt32
  automatic : List UInt32
  dequeued : List RjAction
  rejected : List UInt32
  invalidated : List UInt32
  deriving DecidableEq

namespace Ledger

def empty : Ledger := ⟨[], [], [], [], []⟩

/-- The code that `rj_action_reject` returned decides. -/
def recordRejected (ledger : Ledger) (id : UInt32) (code : Int32) : Ledger :=
  if code = 1 then { ledger with rejected := id :: ledger.rejected } else ledger

def recordAutomatic (ledger : Ledger) (id : UInt32) (accepted : Bool) : Ledger :=
  if accepted then { ledger with automatic := id :: ledger.automatic } else ledger

structure Extends (later earlier : Ledger) : Prop where
  rejected : earlier.rejected ⊆ later.rejected
  invalidated : earlier.invalidated ⊆ later.invalidated

theorem Extends.refl (ledger : Ledger) : ledger.Extends ledger :=
  ⟨List.Subset.refl _, List.Subset.refl _⟩

theorem Extends.trans {latest later earlier : Ledger} (second : latest.Extends later)
    (first : later.Extends earlier) : latest.Extends earlier :=
  ⟨List.Subset.trans first.rejected second.rejected,
    List.Subset.trans first.invalidated second.invalidated⟩

theorem recordRejected_extends (ledger : Ledger) (id : UInt32) (code : Int32) :
    (ledger.recordRejected id code).Extends ledger := by
  unfold recordRejected
  split
  · exact ⟨List.subset_cons_self _ _, List.Subset.refl _⟩
  · exact Extends.refl _

theorem recordAutomatic_extends (ledger : Ledger) (id : UInt32) (accepted : Bool) :
    (ledger.recordAutomatic id accepted).Extends ledger := by
  unfold recordAutomatic
  split
  · exact ⟨List.Subset.refl _, List.Subset.refl _⟩
  · exact Extends.refl _

/-- `next_action_id` has not handed this id out before, and never hands out zero. -/
def Fresh (ledger : Ledger) (id : UInt32) : Prop :=
  id ≠ 0 ∧ id ∉ ledger.enqueued ++ ledger.automatic

instance (ledger : Ledger) (id : UInt32) : Decidable (ledger.Fresh id) :=
  inferInstanceAs (Decidable (_ ∧ _))

end Ledger

structure PendingRun where
  ffi : FfiState
  ledger : Ledger

/-- One step of one thread; `resume` continues a call that left the lock. -/
inductive FfiAction where
  | enqueuePending (action : RjAction) (ruleId : String) (explanation : Explanation)
  | enqueueAction (action : RjAction)
  | approve (id : UInt32)
  | reject (id : UInt32)
  | sweepExpiredPending
  | setHealingMode (mode : UInt32)
  | dequeue
  | dequeueEvent
  | resume (index : Nat)
  | elapse (duration : Nat)

namespace PendingRun

def start (mode : UInt32) (ruleEngineLoaded : Bool) (clock : Nat) : PendingRun :=
  ⟨FfiState.init mode ruleEngineLoaded clock, Ledger.empty⟩

def step : Machine PendingRun FfiAction
  | run, .enqueuePending action ruleId explanation =>
      if run.ledger.Fresh action.id then
        some ⟨run.ffi.enqueuePending action ruleId explanation,
          { run.ledger with enqueued := action.id :: run.ledger.enqueued }⟩
      else
        none
  | run, .enqueueAction action =>
      if run.ledger.Fresh action.id then
        let (ffi, accepted) := run.ffi.enqueueAction action
        some ⟨ffi, run.ledger.recordAutomatic action.id accepted⟩
      else
        none
  | run, .approve id => some ⟨(run.ffi.rjActionApprove id).1, run.ledger⟩
  | run, .reject id =>
      let (ffi, code) := run.ffi.rjActionReject id
      some ⟨ffi, run.ledger.recordRejected id code⟩
  | run, .sweepExpiredPending => some ⟨run.ffi.sweepExpiredPending, run.ledger⟩
  | run, .setHealingMode mode => some ⟨(run.ffi.rjSetHealingMode mode).1, run.ledger⟩
  | run, .dequeue =>
      let (ffi, action) := run.ffi.rjActionDequeue
      some ⟨ffi, { run.ledger with dequeued := run.ledger.dequeued ++ action.toList }⟩
  | run, .dequeueEvent => some ⟨run.ffi.rjActionEventDequeue.1, run.ledger⟩
  | run, .resume index =>
      (run.ffi.resume index).map fun (ffi, entries) =>
        ⟨ffi, { run.ledger with
          invalidated := run.ledger.invalidated ++ entries.map fun entry => entry.action.id }⟩
  | run, .elapse duration =>
      some ⟨{ run.ffi with clock := run.ffi.clock + duration }, run.ledger⟩

/-- Every id that ever entered the action queue, taken out again or not. -/
def everQueued (run : PendingRun) : List UInt32 :=
  (run.ledger.dequeued ++ run.ffi.actionQueue.items).map RjAction.id

/-! ## Conservation of ids -/

/-- Ids are handed out once, and each one is in as many places as it was handed
out. -/
structure Balanced (run : PendingRun) : Prop where
  nodup : (run.ledger.enqueued ++ run.ledger.automatic).Nodup
  balance : ∀ id, (run.ledger.enqueued ++ run.ledger.automatic).count id =
    run.ffi.pendingActions.keys.count id + run.everQueued.count id +
      run.ledger.rejected.count id + run.ledger.invalidated.count id

theorem start_balanced (mode : UInt32) (ruleEngineLoaded : Bool) (clock : Nat) :
    (start mode ruleEngineLoaded clock).Balanced where
  nodup := List.nodup_nil
  balance := fun _ => rfl

theorem Balanced.of_same_stores {run next : PendingRun} (balanced : run.Balanced)
    (pending : next.ffi.pendingActions.keys.Perm run.ffi.pendingActions.keys)
    (queue : next.ffi.actionQueue = run.ffi.actionQueue) (ledger : next.ledger = run.ledger) :
    next.Balanced where
  nodup := ledger ▸ balanced.nodup
  balance := by
    intro id
    rw [everQueued, ledger, queue, pending.count_eq]
    exact balanced.balance id

theorem Balanced.not_pending {run : PendingRun} (balanced : run.Balanced) {id : UInt32}
    (fresh : run.ledger.Fresh id) : id ∉ run.ffi.pendingActions.keys := by
  intro membership
  have absent : (run.ledger.enqueued ++ run.ledger.automatic).count id = 0 :=
    List.count_eq_zero.mpr fresh.2
  have present := List.count_pos_iff.mpr membership
  have balance := balanced.balance id
  omega

theorem enqueuePending_balanced {run : PendingRun} (balanced : run.Balanced)
    {action : RjAction} (fresh : run.ledger.Fresh action.id) (ruleId : String)
    (explanation : Explanation) :
    Balanced ⟨run.ffi.enqueuePending action ruleId explanation,
      { run.ledger with enqueued := action.id :: run.ledger.enqueued }⟩ where
  nodup := List.nodup_cons.mpr ⟨fresh.2, balanced.nodup⟩
  balance := by
    intro id
    have stored : (run.ffi.enqueuePending action ruleId explanation).pendingActions.keys =
        action.id :: run.ffi.pendingActions.keys :=
      PendingStore.keys_insert_of_notMem (balanced.not_pending fresh)
    have balance := balanced.balance id
    simp only [stored, List.cons_append, List.count_cons]
    simp only [everQueued] at balance ⊢
    simp only [FfiState.enqueuePending, FfiState.continueWith, FfiState.publish]
    omega

theorem enqueueAction_balanced {run : PendingRun} (balanced : run.Balanced)
    {action : RjAction} (fresh : run.ledger.Fresh action.id) :
    Balanced ⟨(run.ffi.enqueueAction action).1,
      run.ledger.recordAutomatic action.id (run.ffi.enqueueAction action).2⟩ := by
  obtain ⟨pending, ⟨accepted, items⟩ | ⟨dropped, queue⟩⟩ := run.ffi.enqueueAction_cases action
  · rw [accepted, Ledger.recordAutomatic, if_pos rfl]
    refine ⟨?_, ?_⟩
    · exact List.nodup_middle.mpr (List.nodup_cons.mpr ⟨fresh.2, balanced.nodup⟩)
    · intro id
      have balance := balanced.balance id
      simp only [everQueued, List.map_append, List.count_append] at balance
      simp only [everQueued, pending, items, List.map_append, List.count_append,
        List.count_cons, List.map_cons, List.map_nil, List.count_nil]
      omega
  · refine balanced.of_same_stores (by rw [pending]) queue ?_
    simp [Ledger.recordAutomatic, dropped]

theorem approve_balanced {run : PendingRun} (balanced : run.Balanced) (id : UInt32) :
    Balanced ⟨(run.ffi.rjActionApprove id).1, run.ledger⟩ := by
  rcases run.ffi.rjActionApprove_cases id with
    ⟨_, unchanged⟩ | ⟨entry, queue, found, pushed, pending, moved, _⟩ |
    ⟨entry, found, _, putBack⟩
  · rw [unchanged]
    exact balanced
  · refine ⟨balanced.nodup, ?_⟩
    intro other
    have balance := balanced.balance other
    have taken := (PendingStore.keys_perm_remove found).count_eq other
    have items := (BoundedQueue.push_eq_some_iff.mp pushed).2
    simp only [everQueued, List.map_append, List.count_append] at balance
    simp only [everQueued, pending, moved, items, List.map_append, List.count_append,
      List.map_cons, List.map_nil, List.count_cons, List.count_nil] at taken ⊢
    omega
  · rw [putBack]
    refine balanced.of_same_stores ?_ rfl rfl
    have sameId : entry.action.id = id := PendingStore.id_of_lookup found
    have absent : entry.action.id ∉ (run.ffi.pendingActions.remove id).1.keys := by
      rw [sameId, PendingStore.keys_remove]
      exact run.ffi.pendingActions.keys_nodup.not_mem_erase
    exact (List.Perm.of_eq (PendingStore.keys_insert_of_notMem absent)).trans
      (PendingStore.keys_perm_remove found).symm

theorem reject_balanced {run : PendingRun} (balanced : run.Balanced) (id : UInt32) :
    Balanced ⟨(run.ffi.rjActionReject id).1,
      run.ledger.recordRejected id (run.ffi.rjActionReject id).2⟩ := by
  rcases run.ffi.rjActionReject_cases id with
    ⟨_, unchanged⟩ | ⟨entry, found, pending, queue, code⟩
  · rw [unchanged]
    exact balanced
  · rw [code, Ledger.recordRejected, if_pos rfl]
    refine ⟨balanced.nodup, ?_⟩
    intro other
    have balance := balanced.balance other
    have taken := (PendingStore.keys_perm_remove found).count_eq other
    rw [PendingStore.id_of_lookup found] at taken
    simp only [everQueued] at balance
    simp only [everQueued, pending, queue, List.count_cons] at taken ⊢
    omega

theorem dequeue_balanced {run : PendingRun} (balanced : run.Balanced) :
    Balanced ⟨run.ffi.rjActionDequeue.1,
      { run.ledger with dequeued := run.ledger.dequeued ++ run.ffi.rjActionDequeue.2.toList }⟩
    where
  nodup := balanced.nodup
  balance := by
    intro id
    obtain ⟨items, pending⟩ := run.ffi.rjActionDequeue_items
    have balance := balanced.balance id
    rw [everQueued, items] at balance
    rw [everQueued, pending, List.append_assoc]
    exact balance

theorem resume_balanced {run : PendingRun} (balanced : run.Balanced) {index : Nat}
    {ffi : FfiState} {entries : List PendingEntry}
    (resumed : run.ffi.resume index = some (ffi, entries)) :
    Balanced ⟨ffi, { run.ledger with
      invalidated := run.ledger.invalidated ++ entries.map fun entry => entry.action.id }⟩ where
  nodup := balanced.nodup
  balance := by
    intro id
    obtain ⟨queue, taken⟩ := FfiState.resume_stores resumed
    have balance := balanced.balance id
    have counts := taken.count_eq id
    simp only [everQueued, List.count_append] at balance
    simp only [everQueued, queue, List.count_append] at counts ⊢
    omega

theorem step_balanced {run next : PendingRun} {action : FfiAction}
    (balanced : run.Balanced) (stepped : step run action = some next) : next.Balanced := by
  cases action with
  | enqueuePending action ruleId explanation =>
      simp only [step] at stepped
      split at stepped
      next fresh =>
        cases stepped
        exact enqueuePending_balanced balanced fresh ruleId explanation
      next => cases stepped
  | enqueueAction action =>
      simp only [step] at stepped
      split at stepped
      next fresh =>
        cases stepped
        exact enqueueAction_balanced balanced fresh
      next => cases stepped
  | approve id =>
      cases stepped
      exact approve_balanced balanced id
  | reject id =>
      cases stepped
      exact reject_balanced balanced id
  | sweepExpiredPending =>
      cases stepped
      exact balanced.of_same_stores (List.Perm.refl _) rfl rfl
  | setHealingMode mode =>
      cases stepped
      obtain ⟨pending, queue⟩ := run.ffi.rjSetHealingMode_stores mode
      exact balanced.of_same_stores (by rw [pending]) queue rfl
  | dequeue =>
      cases stepped
      exact dequeue_balanced balanced
  | dequeueEvent =>
      cases stepped
      obtain ⟨pending, queue⟩ := run.ffi.rjActionEventDequeue_stores
      exact balanced.of_same_stores (by rw [pending]) queue rfl
  | resume index =>
      obtain ⟨⟨ffi, entries⟩, resumed, rfl⟩ := Option.map_eq_some_iff.mp stepped
      exact resume_balanced balanced resumed
  | elapse duration =>
      cases stepped
      exact balanced.of_same_stores (List.Perm.refl _) rfl rfl

theorem exec_balanced {mode : UInt32} {ruleEngineLoaded : Bool} {clock : Nat}
    {actions : List FfiAction} {run : PendingRun}
    (executed : Machine.exec step (start mode ruleEngineLoaded clock) actions = some run) :
    run.Balanced :=
  Machine.exec_invariant (fun _ _ _ balanced stepped => step_balanced balanced stepped)
    (start_balanced mode ruleEngineLoaded clock) executed

/-! ## Fates -/

inductive Fate where
  | pending
  | moved
  | rejected
  | invalidated
  deriving DecidableEq, Repr

def tally (run : PendingRun) (id : UInt32) : Fate → Nat
  | .pending => run.ffi.pendingActions.keys.count id
  | .moved => run.everQueued.count id
  | .rejected => run.ledger.rejected.count id
  | .invalidated => run.ledger.invalidated.count id

theorem Balanced.tally_sum_le_one {run : PendingRun} (balanced : run.Balanced) (id : UInt32) :
    run.tally id .pending + run.tally id .moved + run.tally id .rejected +
      run.tally id .invalidated ≤ 1 := by
  have balance := balanced.balance id
  have once := List.nodup_iff_count_le_one.mp balanced.nodup id
  simp only [tally]
  omega

theorem Balanced.tally_sum_eq_one {run : PendingRun} (balanced : run.Balanced) {id : UInt32}
    (enqueued : id ∈ run.ledger.enqueued) :
    run.tally id .pending + run.tally id .moved + run.tally id .rejected +
      run.tally id .invalidated = 1 := by
  have balance := balanced.balance id
  have once : (run.ledger.enqueued ++ run.ledger.automatic).count id = 1 :=
    List.count_eq_one_of_mem balanced.nodup (List.mem_append_left _ enqueued)
  simp only [tally]
  omega

theorem Balanced.one_fate {run : PendingRun} (balanced : run.Balanced) {id : UInt32}
    (enqueued : id ∈ run.ledger.enqueued) :
    ∃ fate, ∀ other, run.tally id other = if other = fate then 1 else 0 := by
  have sum := balanced.tally_sum_eq_one enqueued
  have somewhere : ∃ fate, run.tally id fate = 1 := by
    by_contra nowhere
    push Not at nowhere
    have notPending := nowhere .pending
    have notMoved := nowhere .moved
    have notRejected := nowhere .rejected
    have notInvalidated := nowhere .invalidated
    omega
  obtain ⟨fate, here⟩ := somewhere
  refine ⟨fate, fun other => ?_⟩
  cases fate <;> cases other <;> simp <;> omega

theorem step_extends {run next : PendingRun} {action : FfiAction}
    (stepped : step run action = some next) : next.ledger.Extends run.ledger := by
  cases action with
  | enqueuePending action ruleId explanation =>
      simp only [step] at stepped
      split at stepped <;> cases stepped
      exact ⟨List.Subset.refl _, List.Subset.refl _⟩
  | enqueueAction action =>
      simp only [step] at stepped
      split at stepped <;> cases stepped
      exact Ledger.recordAutomatic_extends _ _ _
  | reject id =>
      cases stepped
      exact Ledger.recordRejected_extends _ _ _
  | resume index =>
      obtain ⟨⟨ffi, entries⟩, _, rfl⟩ := Option.map_eq_some_iff.mp stepped
      exact ⟨List.Subset.refl _, List.subset_append_left _ _⟩
  | _ =>
      cases stepped
      exact ⟨List.Subset.refl _, List.Subset.refl _⟩

theorem exec_extends {run later : PendingRun} {actions : List FfiAction}
    (executed : Machine.exec step run actions = some later) :
    later.ledger.Extends run.ledger :=
  Machine.exec_relates (fun _ => True) (fun earlier next => next.ledger.Extends earlier.ledger)
    (fun _ => Ledger.Extends.refl _) (fun _ _ _ first second => second.trans first)
    (fun _ _ _ _ stepped => ⟨trivial, step_extends stepped⟩) trivial executed

/-- A rejected or invalidated id is out of the action queue for good. -/
theorem Balanced.not_everQueued {run : PendingRun} (balanced : run.Balanced) {id : UInt32}
    (closed : id ∈ run.ledger.rejected ∨ id ∈ run.ledger.invalidated) :
    id ∉ run.everQueued := by
  intro membership
  have atMostOne := balanced.tally_sum_le_one id
  have queued := List.count_pos_iff.mpr membership
  simp only [tally] at atMostOne
  rcases closed with rejected | invalidated
  · have positive := List.count_pos_iff.mpr rejected
    omega
  · have positive := List.count_pos_iff.mpr invalidated
    omega

/-- From any start and under any interleaving, an action that was enqueued as
pending has exactly one fate, a closed fate never leads back to the action queue,
and an approval that meets a full action queue keeps the entry, refreshed, for a
later approval. -/
theorem pendingAction_exactlyOnce (mode : UInt32) (ruleEngineLoaded : Bool) (clock : Nat)
    (actions : List FfiAction) (run : PendingRun)
    (executed : Machine.exec step (start mode ruleEngineLoaded clock) actions = some run) :
    (∀ id ∈ run.ledger.enqueued,
      ∃ fate, ∀ other, run.tally id other = if other = fate then 1 else 0) ∧
    (∀ id, id ∈ run.ledger.rejected ∨ id ∈ run.ledger.invalidated →
      ∀ more later, Machine.exec step run more = some later → id ∉ later.everQueued) ∧
    (∀ id entry, run.ffi.pendingActions.lookup id = some entry →
      run.ffi.actionQueue.items.length = 64 →
      ∃ refused, step run (.approve id) = some refused ∧
        (run.ffi.rjActionApprove id).2 = 0 ∧
        refused.ffi.actionQueue = run.ffi.actionQueue ∧
        refused.ffi.pendingActions.lookup id =
          some { entry with created := run.ffi.clock } ∧
        (∀ now, now < run.ffi.clock + pendingTtl →
          (refused.ffi.sweepSection now).1.pendingActions.lookup id =
            some { entry with created := run.ffi.clock }) ∧
        ∀ more later, Machine.exec step refused more = some later →
          id ∈ later.ffi.pendingActions.keys → later.ffi.actionQueue.items.length < 64 →
          (later.ffi.rjActionApprove id).2 = 1 ∧
            ∃ approved, step later (.approve id) = some approved ∧ id ∈ approved.everQueued) := by
  have balanced := exec_balanced executed
  refine ⟨fun id enqueued => balanced.one_fate enqueued, ?_, ?_⟩
  · intro id closed more later continued
    have extends_ := exec_extends continued
    have laterBalanced := Machine.exec_invariant
      (fun _ _ _ balanced stepped => step_balanced balanced stepped) balanced continued
    apply laterBalanced.not_everQueued
    rcases closed with rejected | invalidated
    · exact .inl (extends_.rejected rejected)
    · exact .inr (extends_.invalidated invalidated)
  · intro id entry found full
    obtain ⟨code, queue, refreshed⟩ := FfiState.rjActionApprove_of_full found full
    refine ⟨_, rfl, code, queue, refreshed, ?_, ?_⟩
    · intro now early
      exact FfiState.sweepSection_keeps refreshed early
    · intro more later _ pending room
      obtain ⟨other, present⟩ := PendingStore.mem_keys_iff.mp pending
      obtain ⟨approved, items⟩ := FfiState.rjActionApprove_of_room present room
      refine ⟨approved, _, rfl, ?_⟩
      simp [everQueued, items, PendingStore.id_of_lookup present]

theorem pendingAction_exactlyOnce_rejected :
    ∃ run, Machine.exec step (start 1 true 0)
        [.enqueuePending ⟨7, .bitrateReduce, 500, 0, 0⟩ "frame_drop" Explanation.none,
          .resume 0, .reject 7, .approve 7] = some run ∧
      (∃ fate, ∀ other, run.tally 7 other = if other = fate then 1 else 0) ∧
      run.tally 7 .rejected = 1 ∧
      ∀ more later, Machine.exec step run more = some later → 7 ∉ later.everQueued := by
  refine ⟨_, rfl, ?_⟩
  have exactlyOnce := pendingAction_exactlyOnce 1 true 0
    [.enqueuePending ⟨7, .bitrateReduce, 500, 0, 0⟩ "frame_drop" Explanation.none,
      .resume 0, .reject 7, .approve 7] _ rfl
  exact ⟨exactlyOnce.1 7 (by decide), by decide, exactlyOnce.2.1 7 (by decide)⟩

end PendingRun

end RejiStudio.Orchestrator
