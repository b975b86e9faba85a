import RejiStudio.Lib.BoundedQueue
import RejiStudio.Orchestrator.PendingStore

/-!
# Pending actions at the foreign-function boundary

Each function is split where the source releases the lock of the pending store:
a call that continues after its critical section stays in `calls` and is
resumed later, so other calls can run in between.
-/

namespace RejiStudio.Orchestrator

open RejiStudio.Lib

def rejectCooldown : Nat := 120 * 1000000000

/-- Work a call does, one item after the other, once it has left the lock. -/
inductive Notice where
  | applyCooldown (ruleId : String)
  | enqueueUiEvent (event : RjActionEvent)
  | emitHealingEvent (event : RjActionEvent)
  | logActionOutcome (action : RjAction) (ruleId : String) (outcome : UInt32)
  | emitModeChanged (mode : UInt32)
  deriving DecidableEq

/-- A call in flight that does not hold the lock. -/
inductive Call where
  /-- `sweep_expired_pending` has read its clock. -/
  | sweepExpiredPending (now : Nat)
  /-- `rj_set_healing_mode` has swapped the mode. -/
  | clearPendingOnModeChange (mode : UInt32)
  | notify (notices : List Notice)
  deriving DecidableEq

inductive Published where
  | cooldown (ruleId : String) (until_ : Nat)
  | healingEvent (event : RjActionEvent)
  | modeChanged (mode : UInt32)
  | logHealing (record : HealingLogRecord)
  deriving DecidableEq

/-- The initialised `FfiState`, with the healing mode and the monotonic clock. -/
structure FfiState where
  pendingActions : PendingStore
  actionQueue : BoundedQueue RjAction 64
  uiEventQueue : BoundedQueue RjActionEvent 64
  droppedActionsCount : Nat
  droppedUiEventsCount : Nat
  healingMode : UInt32
  ruleEngineLoaded : Bool
  clock : Nat
  calls : List Call
  published : List Published

namespace FfiState

def init (mode : UInt32) (ruleEngineLoaded : Bool) (clock : Nat) : FfiState where
  pendingActions := PendingStore.empty
  actionQueue := BoundedQueue.empty
  uiEventQueue := BoundedQueue.empty
  droppedActionsCount := 0
  droppedUiEventsCount := 0
  healingMode := mode
  ruleEngineLoaded := ruleEngineLoaded
  clock := clock
  calls := []
  published := []

def publish (state : FfiState) (item : Published) : FfiState :=
  { state with published := state.published ++ [item] }

def logActionOutcome (state : FfiState) (a : RjAction) (ruleId : String) (outcome : UInt32) :
    FfiState :=
  state.publish (.logHealing (actionOutcomeRecord a ruleId outcome state.healingMode))

/-- The event goes to the WebSocket channel first, then evicts the oldest queued
event if the queue is full. -/
def enqueueUiEvent (state : FfiState) (event : RjActionEvent) : FfiState :=
  let (queue, evicted) := state.uiEventQueue.forcePush event
  { state.publish (.healingEvent event) with
    uiEventQueue := queue
    droppedUiEventsCount := state.droppedUiEventsCount + evicted.toList.length }

def applyCooldown (state : FfiState) (ruleId : String) : FfiState :=
  if state.ruleEngineLoaded then
    state.publish (.cooldown ruleId (state.clock + rejectCooldown))
  else
    state

def perform (state : FfiState) : Notice → FfiState
  | .applyCooldown ruleId => state.applyCooldown ruleId
  | .enqueueUiEvent event => state.enqueueUiEvent event
  | .emitHealingEvent event => state.publish (.healingEvent event)
  | .logActionOutcome action ruleId outcome => state.logActionOutcome action ruleId outcome
  | .emitModeChanged mode => state.publish (.modeChanged mode)

def continueWith (state : FfiState) (call : Call) : FfiState :=
  { state with calls := state.calls ++ [call] }

def enqueuePending (state : FfiState) (action : RjAction) (ruleId : String)
    (explanation : Explanation) : FfiState :=
  let logged :=
    state.publish (.logHealing (pendingRecord action ruleId explanation state.healingMode))
  let stored :=
    { logged with
      pendingActions := logged.pendingActions.insert ⟨action, ruleId, logged.clock⟩ }
  stored.continueWith (.notify [.enqueueUiEvent (.approvalEvent action explanation)])

def enqueueAction (state : FfiState) (action : RjAction) : FfiState × Bool :=
  match state.actionQueue.push action with
  | some queue => ({ state with actionQueue := queue }, true)
  | none => ({ state with droppedActionsCount := state.droppedActionsCount + 1 }, false)

def rjActionDequeue (state : FfiState) : FfiState × Option RjAction :=
  match state.actionQueue.pop with
  | some (action, queue) => ({ state with actionQueue := queue }, some action)
  | none => (state, none)

def rjActionEventDequeue (state : FfiState) : FfiState × Option RjActionEvent :=
  match state.uiEventQueue.pop with
  | some (event, queue) => ({ state with uiEventQueue := queue }, some event)
  | none => (state, none)

/-- The lock is held from the removal to the push, and to the push-back when the
action queue is full. -/
def rjActionApprove (state : FfiState) (actionId : UInt32) : FfiState × Int32 :=
  match state.pendingActions.remove actionId with
  | (_, none) => (state, 0)
  | (pending, some entry) =>
      match state.actionQueue.push entry.action with
      | some queue =>
          (({ state with pendingActions := pending, actionQueue := queue }).logActionOutcome
            entry.action entry.ruleId outcomeApplied, 1)
      | none =>
          ({ state with
              pendingActions := pending.insert ⟨entry.action, entry.ruleId, state.clock⟩ }, 0)

def rjActionReject (state : FfiState) (actionId : UInt32) : FfiState × Int32 :=
  match state.pendingActions.remove actionId with
  | (_, none) => (state, 0)
  | (pending, some entry) =>
      (({ state with pendingActions := pending }).continueWith (.notify
        [.applyCooldown entry.ruleId,
          .emitHealingEvent (.invalidatedEvent entry.action),
          .logActionOutcome entry.action entry.ruleId outcomeRejected]), 1)

/-- What `sweep_expired_pending` and `clear_pending_on_mode_change` do for each
entry they dropped. -/
def invalidationNotices (entries : List PendingEntry) : List Notice :=
  entries.flatMap fun entry =>
    [.enqueueUiEvent (.invalidatedEvent entry.action),
      .logActionOutcome entry.action entry.ruleId outcomeInvalidated]

def sweepExpiredPending (state : FfiState) : FfiState :=
  state.continueWith (.sweepExpiredPending state.clock)

/-- The critical section of `sweep_expired_pending`. -/
def sweepSection (state : FfiState) (now : Nat) : FfiState × List PendingEntry :=
  let (pending, expired) :=
    state.pendingActions.removeAll (state.pendingActions.expiredIds now)
  ({ state with pendingActions := pending }, expired)

def rjSetHealingMode (state : FfiState) (mode : UInt32) : FfiState × Bool :=
  if mode > 3 then
    (state, false)
  else if state.healingMode ≠ mode then
    (({ state with healingMode := mode }).continueWith (.clearPendingOnModeChange mode), true)
  else
    ({ state with healingMode := mode }, true)

/-- The critical section of `clear_pending_on_mode_change`. -/
def clearSection (state : FfiState) : FfiState × List PendingEntry :=
  ({ state with pendingActions := PendingStore.empty }, state.pendingActions.values)

/-- Run the next piece of the call at `index`; the entries it invalidated come
back with the state. -/
def resume (state : FfiState) (index : Nat) : Option (FfiState × List PendingEntry) :=
  match state.calls[index]? with
  | none => none
  | some (.sweepExpiredPending now) =>
      let (swept, expired) := state.sweepSection now
      some ({ swept with
        calls := state.calls.set index (.notify (invalidationNotices expired)) }, expired)
  | some (.clearPendingOnModeChange mode) =>
      let (cleared, drained) := state.clearSection
      some ({ cleared with
        calls := state.calls.set index
          (.notify (invalidationNotices drained ++ [.emitModeChanged mode])) }, drained)
  | some (.notify (notice :: rest)) =>
      some ({ state.perform notice with calls := state.calls.set index (.notify rest) }, [])
  | some (.notify []) => some ({ state with calls := state.calls.eraseIdx index }, [])

/-! ## What each function does to the two stores -/

theorem perform_stores (state : FfiState) (notice : Notice) :
    (state.perform notice).pendingActions = state.pendingActions ∧
      (state.perform notice).actionQueue = state.actionQueue := by
  cases notice with
  | applyCooldown ruleId =>
      by_cases loaded : state.ruleEngineLoaded <;> simp [perform, applyCooldown, loaded, publish]
  | enqueueUiEvent event => exact ⟨rfl, rfl⟩
  | emitHealingEvent event => exact ⟨rfl, rfl⟩
  | logActionOutcome action ruleId outcome => exact ⟨rfl, rfl⟩
  | emitModeChanged mode => exact ⟨rfl, rfl⟩

/-- An approval finds nothing, moves the action, or puts it back refreshed. -/
theorem rjActionApprove_cases (state : FfiState) (id : UInt32) :
    (state.pendingActions.lookup id = none ∧ state.rjActionApprove id = (state, 0)) ∨
    (∃ entry queue, state.pendingActions.lookup id = some entry ∧
      state.actionQueue.push entry.action = some queue ∧
      (state.rjActionApprove id).1.pendingActions = (state.pendingActions.remove id).1 ∧
      (state.rjActionApprove id).1.actionQueue = queue ∧
      (state.rjActionApprove id).2 = 1) ∨
    (∃ entry, state.pendingActions.lookup id = some entry ∧
      state.actionQueue.push entry.action = none ∧
      state.rjActionApprove id =
        ({ state with
            pendingActions := (state.pendingActions.remove id).1.insert
              ⟨entry.action, entry.ruleId, state.clock⟩ }, 0)) := by
  cases found : state.pendingActions.lookup id with
  | none =>
      refine .inl ⟨rfl, ?_⟩
      simp [rjActionApprove, PendingStore.remove, found]
  | some entry =>
      cases pushed : state.actionQueue.push entry.action with
      | some queue =>
          refine .inr (.inl ⟨entry, queue, rfl, pushed, ?_⟩)
          simp [rjActionApprove, PendingStore.remove, found, pushed, logActionOutcome, publish]
      | none =>
          refine .inr (.inr ⟨entry, rfl, pushed, ?_⟩)
          simp [rjActionApprove, PendingStore.remove, found, pushed]

theorem rjActionApprove_of_room {state : FfiState} {id : UInt32} {entry : PendingEntry}
    (found : state.pendingActions.lookup id = some entry)
    (room : state.actionQueue.items.length < 64) :
    (state.rjActionApprove id).2 = 1 ∧
      (state.rjActionApprove id).1.actionQueue.items =
        state.actionQueue.items ++ [entry.action] := by
  rcases state.rjActionApprove_cases id with
    ⟨absent, _⟩ | ⟨other, queue, present, pushed, _, moved, code⟩ | ⟨other, _, refused, _⟩
  · rw [found] at absent
    cases absent
  · rw [found] at present
    cases present
    rw [moved]
    exact ⟨code, (BoundedQueue.push_eq_some_iff.mp pushed).2⟩
  · have full := BoundedQueue.push_eq_none_iff.mp refused
    omega

theorem rjActionApprove_of_full {state : FfiState} {id : UInt32} {entry : PendingEntry}
    (found : state.pendingActions.lookup id = some entry)
    (full : state.actionQueue.items.length = 64) :
    (state.rjActionApprove id).2 = 0 ∧
      (state.rjActionApprove id).1.actionQueue = state.actionQueue ∧
      (state.rjActionApprove id).1.pendingActions.lookup id =
        some { entry with created := state.clock } := by
  rcases state.rjActionApprove_cases id with
    ⟨absent, _⟩ | ⟨other, queue, _, pushed, _⟩ | ⟨other, present, _, putBack⟩
  · rw [found] at absent
    cases absent
  · have room := (BoundedQueue.push_eq_some_iff.mp pushed).1
    omega
  · rw [found] at present
    cases present
    rw [putBack]
    refine ⟨rfl, rfl, ?_⟩
    have inserted := PendingStore.lookup_insert (state.pendingActions.remove id).1
      ⟨entry.action, entry.ruleId, state.clock⟩
    simpa only [PendingStore.id_of_lookup found] using inserted

/-- A sweep whose clock is within the lifetime of an entry keeps the entry. -/
theorem sweepSection_keeps {state : FfiState} {id : UInt32} {entry : PendingEntry} {now : Nat}
    (found : state.pendingActions.lookup id = some entry)
    (early : now < entry.created + pendingTtl) :
    (state.sweepSection now).1.pendingActions.lookup id = some entry := by
  have kept : id ∉ state.pendingActions.expiredIds now := by
    rw [PendingStore.mem_expiredIds_iff]
    rintro ⟨other, present, expired⟩
    rw [found] at present
    cases present
    have late := of_decide_eq_true expired
    have positive : 0 < pendingTtl := by decide
    omega
  exact (PendingStore.lookup_removeAll_of_notMem kept).trans found

theorem rjActionReject_cases (state : FfiState) (id : UInt32) :
    (state.pendingActions.lookup id = none ∧ state.rjActionReject id = (state, 0)) ∨
    (∃ entry, state.pendingActions.lookup id = some entry ∧
      (state.rjActionReject id).1.pendingActions = (state.pendingActions.remove id).1 ∧
      (state.rjActionReject id).1.actionQueue = state.actionQueue ∧
      (state.rjActionReject id).2 = 1) := by
  cases found : state.pendingActions.lookup id with
  | none =>
      refine .inl ⟨rfl, ?_⟩
      simp [rjActionReject, PendingStore.remove, found]
  | some entry =>
      refine .inr ⟨entry, rfl, ?_⟩
      simp [rjActionReject, PendingStore.remove, found, continueWith]

/-- A resumed call takes the entries it reports out of the store and leaves the
action queue alone. -/
theorem resume_stores {state next : FfiState} {index : Nat} {entries : List PendingEntry}
    (resumed : state.resume index = some (next, entries)) :
    next.actionQueue = state.actionQueue ∧
      state.pendingActions.keys.Perm
        (next.pendingActions.keys ++ entries.map fun entry => entry.action.id) := by
  unfold resume at resumed
  split at resumed
  next => cases resumed
  next now _ =>
    cases resumed
    exact ⟨rfl, PendingStore.keys_perm_removeAll _ _⟩
  next mode _ =>
    cases resumed
    refine ⟨rfl, ?_⟩
    simp only [PendingStore.values_ids, PendingStore.keys_empty]
    exact List.Perm.refl _
  next notice rest _ =>
    cases resumed
    obtain ⟨pending, queue⟩ := state.perform_stores notice
    refine ⟨queue, ?_⟩
    simp [pending]
  next =>
    cases resumed
    exact ⟨rfl, by simp⟩

theorem rjActionDequeue_items (state : FfiState) :
    state.actionQueue.items =
        state.rjActionDequeue.2.toList ++ state.rjActionDequeue.1.actionQueue.items ∧
      state.rjActionDequeue.1.pendingActions = state.pendingActions := by
  unfold rjActionDequeue
  cases popped : state.actionQueue.pop with
  | none => simp
  | some pair =>
      obtain ⟨action, queue⟩ := pair
      simpa using BoundedQueue.pop_eq_some_iff.mp popped

theorem rjActionEventDequeue_stores (state : FfiState) :
    state.rjActionEventDequeue.1.pendingActions = state.pendingActions ∧
      state.rjActionEventDequeue.1.actionQueue = state.actionQueue := by
  unfold rjActionEventDequeue
  split <;> exact ⟨rfl, rfl⟩

theorem rjSetHealingMode_stores (state : FfiState) (mode : UInt32) :
    (state.rjSetHealingMode mode).1.pendingActions = state.pendingActions ∧
      (state.rjSetHealingMode mode).1.actionQueue = state.actionQueue := by
  unfold rjSetHealingMode
  repeat' split
  all_goals exact ⟨rfl, rfl⟩

theorem enqueueAction_cases (state : FfiState) (action : RjAction) :
    (state.enqueueAction action).1.pendingActions = state.pendingActions ∧
      (((state.enqueueAction action).2 = true ∧
          (state.enqueueAction action).1.actionQueue.items =
            state.actionQueue.items ++ [action]) ∨
        ((state.enqueueAction action).2 = false ∧
          (state.enqueueAction action).1.actionQueue = state.actionQueue)) := by
  unfold enqueueAction
  cases pushed : state.actionQueue.push action with
  | none => simp
  | some queue => simpa using (BoundedQueue.push_eq_some_iff.mp pushed).2

/-! ## The clock and the calls -/

theorem perform_clock (state : FfiState) (notice : Notice) :
    (state.perform notice).clock = state.clock := by
  cases notice with
  | applyCooldown ruleId =>
      by_cases loaded : state.ruleEngineLoaded <;> simp [perform, applyCooldown, loaded, publish]
  | enqueueUiEvent event => rfl
  | emitHealingEvent event => rfl
  | logActionOutcome action ruleId outcome => rfl
  | emitModeChanged mode => rfl

theorem resume_clock {state next : FfiState} {index : Nat} {entries : List PendingEntry}
    (resumed : state.resume index = some (next, entries)) : next.clock = state.clock := by
  unfold resume at resumed
  split at resumed
  next => cases resumed
  next now _ =>
    cases resumed
    rfl
  next mode _ =>
    cases resumed
    rfl
  next notice rest _ =>
    cases resumed
    exact state.perform_clock notice
  next =>
    cases resumed
    rfl

theorem rjActionApprove_clock (state : FfiState) (id : UInt32) :
    (state.rjActionApprove id).1.clock = state.clock := by
  unfold rjActionApprove
  split
  · rfl
  · split <;> rfl

theorem rjActionReject_clock (state : FfiState) (id : UInt32) :
    (state.rjActionReject id).1.clock = state.clock := by
  unfold rjActionReject
  split <;> rfl

theorem rjSetHealingMode_clock (state : FfiState) (mode : UInt32) :
    (state.rjSetHealingMode mode).1.clock = state.clock := by
  unfold rjSetHealingMode
  repeat' split
  all_goals rfl

end FfiState

end RejiStudio.Orchestrator
