import Mathlib.Data.List.Count
import RejiStudio.Orchestrator.CallFrames
import RejiStudio.Orchestrator.Outflow

/-!
# What is reported as applied

An action has three sinks: the queue of the actuator, the healing log and the events of
the WebSocket clients.  The queue can refuse, and the routing looks at that for a warning
only; an approval logs after the queue has taken the action.
-/

namespace RejiStudio.Orchestrator

open RejiStudio.Lib

/-! ## Reports -/

/-- The type of the vendor event that `healing_vendor_event` makes of an event. -/
inductive HealingVendorEvent where
  | healingActionInvalidated
  | healingActionPending
  | healingActionApplied
  deriving DecidableEq

def healingVendorEvent (ev : RjActionEvent) : HealingVendorEvent :=
  if ev.kind = rjActionEventInvalidated then .healingActionInvalidated
  else if ev.requireApproval = 1 then .healingActionPending
  else .healingActionApplied

def appliedRecord : Published → Option UInt32
  | .logHealing record => if record.outcome = outcomeApplied then some record.actionId else none
  | _ => none

def appliedEvent : Published → Option UInt32
  | .healingEvent event =>
      if healingVendorEvent event = .healingActionApplied then some event.id else none
  | _ => none

def appliedRecords (ffi : FfiState) : List UInt32 := ffi.published.filterMap appliedRecord

def appliedEvents (ffi : FfiState) : List UInt32 := ffi.published.filterMap appliedEvent

/-- The threads, with the ids of the actions that the action queue has accepted. -/
structure AppliedRun where
  threads : Threads
  accepted : List UInt32

def joined (before after : Threads) : List UInt32 :=
  (after.ffi.actionQueue.items.drop before.ffi.actionQueue.items.length).map RjAction.id

namespace AppliedRun

def start (mode : UInt32) (rules : Option ParsedRules) (clock : Nat) : AppliedRun :=
  ⟨.start mode rules clock, []⟩

def step : Machine AppliedRun ThreadAction
  | run, action =>
      (run.threads.step action).map fun threads =>
        ⟨threads, run.accepted ++ joined run.threads threads⟩

/-- Every action that is reported as applied was accepted by the queue.  Ids are reused
when the counter wraps, so reports and acceptances of an id are counted. -/
structure ReportsAccepted (run : AppliedRun) : Prop where
  records : ∀ id, (appliedRecords run.threads.ffi).count id ≤ run.accepted.count id
  events : ∀ id, (appliedEvents run.threads.ffi).count id ≤ run.accepted.count id

/-- An action that is not held for approval finds room in the queue. -/
def RoomToRoute (run : AppliedRun) (action : ThreadAction) : Prop :=
  action = .advance → run.threads.automaticNext.isSome = true →
    run.threads.ffi.actionQueue.items.length < 64

instance (run : AppliedRun) (action : ThreadAction) : Decidable (run.RoomToRoute action) :=
  match action with
  | .advance =>
      decidable_of_iff (run.threads.automaticNext.isSome = true →
        run.threads.ffi.actionQueue.items.length < 64) (by simp [RoomToRoute])
  | .receiveSystem _ | .receiveMedia _ | .tick | .approve _ | .reject _ | .setHealingMode _
  | .setActionAutoApprove _ _ | .reloadRules _ | .updateBitrateState _ _ | .dequeue
  | .dequeueEvent | .resume _ | .elapse _ => isTrue nofun

end AppliedRun

/-! ## Notices -/

def Notice.reportsApplied : Notice → Bool
  | .enqueueUiEvent event | .emitHealingEvent event =>
      healingVendorEvent event = .healingActionApplied
  | .logActionOutcome _ _ outcome => outcome = outcomeApplied
  | .applyCooldown _ | .emitModeChanged _ => false

def Call.notices : Call → List Notice
  | .notify notices => notices
  | .sweepExpiredPending _ | .clearPendingOnModeChange _ => []

def MonitorPhase.notices : MonitorPhase → List Notice
  | .notifying notices => notices
  | _ => []

def Silent (notices : List Notice) : Prop := ∀ notice ∈ notices, notice.reportsApplied = false

theorem silent_invalidationNotices (entries : List PendingEntry) :
    Silent (FfiState.invalidationNotices entries) := by
  intro notice member
  obtain ⟨entry, -, listed⟩ := List.mem_flatMap.mp member
  rcases List.mem_cons.mp listed with rfl | later
  · rfl
  · rw [List.mem_singleton.mp later]
    rfl

namespace FfiState

/-- A call that reports nothing as applied and leaves the action queue alone. -/
structure Unreported (before after : FfiState) : Prop where
  records : appliedRecords after = appliedRecords before
  events : appliedEvents after = appliedEvents before
  dropped : after.droppedActionsCount = before.droppedActionsCount
  queue : after.actionQueue = before.actionQueue

def Quiet (state : FfiState) : Prop := ∀ call ∈ state.calls, Silent call.notices

theorem Quiet.of_eq {before after : FfiState} (quiet : before.Quiet)
    (calls : after.calls = before.calls) : after.Quiet := by
  intro call member
  rw [calls] at member
  exact quiet call member

theorem Unreported.of_eq {before after : FfiState} (published : after.published = before.published)
    (dropped : after.droppedActionsCount = before.droppedActionsCount)
    (queue : after.actionQueue = before.actionQueue) : before.Unreported after :=
  ⟨congrArg (List.filterMap appliedRecord) published,
    congrArg (List.filterMap appliedEvent) published, dropped, queue⟩

theorem unreported_publish {state : FfiState} {item : Published}
    (record : appliedRecord item = none) (event : appliedEvent item = none) :
    state.Unreported (state.publish item) := by
  refine ⟨?_, ?_, rfl, rfl⟩
  · simp [appliedRecords, publish, record]
  · simp [appliedEvents, publish, event]

theorem unreported_perform {state : FfiState} {notice : Notice}
    (silent : notice.reportsApplied = false) : state.Unreported (state.perform notice) := by
  cases notice with
  | applyCooldown ruleId =>
      simp only [perform, applyCooldown]
      split
      · exact unreported_publish rfl rfl
      · exact .of_eq rfl rfl rfl
  | enqueueUiEvent event | emitHealingEvent event =>
      have other := of_decide_eq_false silent
      have published := @unreported_publish state (.healingEvent event) rfl (if_neg other)
      exact ⟨published.records, published.events, rfl, rfl⟩
  | logActionOutcome action ruleId outcome =>
      have other := of_decide_eq_false silent
      exact unreported_publish (if_neg other) rfl
  | emitModeChanged mode => exact unreported_publish rfl rfl

theorem quiet_perform {state : FfiState} (quiet : state.Quiet) (notice : Notice) :
    (state.perform notice).Quiet := by
  cases notice with
  | applyCooldown ruleId =>
      simp only [perform, applyCooldown]
      split <;> exact quiet
  | enqueueUiEvent event | emitHealingEvent event | emitModeChanged mode
  | logActionOutcome action ruleId outcome => exact quiet

theorem quiet_continueWith {state : FfiState} (quiet : state.Quiet) {call : Call}
    (silent : Silent call.notices) : (state.continueWith call).Quiet := by
  intro other member
  rcases List.mem_append.mp member with old | new
  · exact quiet other old
  · rw [List.mem_singleton.mp new]
    exact silent

theorem quiet_set {state after : FfiState} (quiet : state.Quiet) {index : Nat} {call : Call}
    (calls : after.calls = state.calls.set index call) (silent : Silent call.notices) :
    after.Quiet := by
  intro other member
  rw [calls] at member
  rcases List.mem_or_eq_of_mem_set member with old | rfl
  · exact quiet other old
  · exact silent

theorem resume_reports {state next : FfiState} {index : Nat} {entries : List PendingEntry}
    (quiet : state.Quiet) (resumed : state.resume index = some (next, entries)) :
    state.Unreported next ∧ next.Quiet := by
  unfold resume at resumed
  split at resumed
  next => cases resumed
  next now found =>
    cases resumed
    exact ⟨.of_eq rfl rfl rfl, quiet_set quiet rfl (silent_invalidationNotices _)⟩
  next mode found =>
    cases resumed
    refine ⟨.of_eq rfl rfl rfl, quiet_set quiet rfl ?_⟩
    intro notice member
    rcases List.mem_append.mp member with old | new
    · exact silent_invalidationNotices _ notice old
    · rw [List.mem_singleton.mp new]
      rfl
  next notice rest found =>
    cases resumed
    have silent := quiet _ (List.mem_of_getElem? found)
    have performed := @unreported_perform state notice (silent notice List.mem_cons_self)
    refine ⟨⟨performed.records, performed.events, performed.dropped, performed.queue⟩, ?_⟩
    refine quiet_set quiet rfl ?_
    intro other member
    exact silent other (List.mem_cons_of_mem _ member)
  next found =>
    cases resumed
    refine ⟨.of_eq rfl rfl rfl, ?_⟩
    intro call member
    exact quiet call (List.mem_of_mem_eraseIdx member)

/-- A rejection, a new mode and a stored action report nothing as applied. -/
theorem rjActionReject_reports {state : FfiState} (quiet : state.Quiet) (id : UInt32) :
    state.Unreported (state.rjActionReject id).1 ∧ (state.rjActionReject id).1.Quiet := by
  unfold rjActionReject
  split
  · exact ⟨.of_eq rfl rfl rfl, quiet⟩
  · refine ⟨.of_eq rfl rfl rfl, quiet_continueWith quiet ?_⟩
    intro notice member
    simp only [Call.notices, List.mem_cons, List.not_mem_nil, or_false] at member
    rcases member with rfl | rfl | rfl <;> rfl

theorem rjSetHealingMode_reports {state : FfiState} (quiet : state.Quiet) (mode : UInt32) :
    state.Unreported (state.rjSetHealingMode mode).1 ∧
      (state.rjSetHealingMode mode).1.Quiet := by
  rcases state.rjSetHealingMode_cases mode with ⟨_, same⟩ | ⟨_, same⟩ | ⟨_, same⟩
  · rw [same]
    exact ⟨.of_eq rfl rfl rfl, quiet⟩
  · rw [same]
    exact ⟨.of_eq rfl rfl rfl, quiet⟩
  · rw [same]
    exact ⟨.of_eq rfl rfl rfl, quiet_continueWith quiet (List.forall_mem_nil _)⟩

theorem enqueuePending_reports {state : FfiState} (quiet : state.Quiet) (action : RjAction)
    (ruleId : String) (explanation : Explanation) :
    state.Unreported (state.enqueuePending action ruleId explanation) ∧
      (state.enqueuePending action ruleId explanation).Quiet := by
  have published := @unreported_publish state
    (.logHealing (pendingRecord action ruleId explanation state.healingMode)) rfl rfl
  refine ⟨⟨published.records, published.events, rfl, rfl⟩, quiet_continueWith quiet ?_⟩
  intro notice member
  rw [List.mem_singleton.mp member]
  rfl

/-- An action that goes to the actuator is reported whether the queue took it or not. -/
theorem enqueueAction_reports (state : FfiState) (routed : RoutedAction) (mode : HealingMode) :
    let after := ((state.enqueueUiEvent (.infoEvent routed.rj routed.explanation)).enqueueAction
      routed.rj).1.publish (.logHealing
        { pendingRecord routed.rj routed.ruleId routed.explanation mode.toUInt32 with
          outcome := outcomeApplied })
    appliedRecords after = appliedRecords state ++ [routed.rj.id] ∧
      appliedEvents after = appliedEvents state ++ [routed.rj.id] ∧
      after.calls = state.calls ∧
      ((state.actionQueue.items.length < 64 ∧
          after.actionQueue.items = state.actionQueue.items ++ [routed.rj] ∧
          after.droppedActionsCount = state.droppedActionsCount) ∨
        (¬state.actionQueue.items.length < 64 ∧ after.actionQueue = state.actionQueue ∧
          after.droppedActionsCount = state.droppedActionsCount + 1)) := by
  have two : ∀ (report : Published → Option UInt32) (items : List Published)
      (first second : Published), (items ++ [first] ++ [second]).filterMap report =
        items.filterMap report ++ [first, second].filterMap report := by
    intro report items first second
    rw [List.append_assoc, List.filterMap_append]
    rfl
  unfold enqueueAction enqueueUiEvent
  dsimp only [publish]
  cases pushed : state.actionQueue.push routed.rj with
  | some queue =>
      obtain ⟨room, items⟩ := BoundedQueue.push_eq_some_iff.mp pushed
      exact ⟨two _ _ _ _, two _ _ _ _, rfl, .inl ⟨room, items, rfl⟩⟩
  | none =>
      have full := BoundedQueue.push_eq_none_iff.mp pushed
      exact ⟨two _ _ _ _, two _ _ _ _, rfl, .inr ⟨by omega, rfl, rfl⟩⟩

theorem rjActionDequeue_reports (state : FfiState) :
    (appliedRecords state.rjActionDequeue.1 = appliedRecords state ∧
      appliedEvents state.rjActionDequeue.1 = appliedEvents state ∧
      state.rjActionDequeue.1.droppedActionsCount = state.droppedActionsCount) ∧
      state.rjActionDequeue.1.calls = state.calls := by
  unfold rjActionDequeue
  split <;> exact ⟨⟨rfl, rfl, rfl⟩, rfl⟩

theorem rjActionApprove_reports {state : FfiState} (quiet : state.Quiet) (id : UInt32) :
    (state.rjActionApprove id).1.Quiet ∧
      (state.Unreported (state.rjActionApprove id).1 ∨
        ∃ action : RjAction,
          appliedRecords (state.rjActionApprove id).1 = appliedRecords state ++ [action.id] ∧
          appliedEvents (state.rjActionApprove id).1 = appliedEvents state ∧
          (state.rjActionApprove id).1.droppedActionsCount = state.droppedActionsCount ∧
          (state.rjActionApprove id).1.actionQueue.items =
            state.actionQueue.items ++ [action]) := by
  unfold rjActionApprove
  split
  · exact ⟨quiet, .inl (.of_eq rfl rfl rfl)⟩
  next pending entry _ =>
    split
    next queue pushed =>
      refine ⟨quiet, .inr ⟨entry.action, ?_, ?_, rfl, (BoundedQueue.push_eq_some_iff.mp pushed).2⟩⟩
      · simp [appliedRecords, logActionOutcome, publish, appliedRecord, actionOutcomeRecord]
      · simp [appliedEvents, logActionOutcome, publish, appliedEvent]
    next => exact ⟨quiet, .inl (.of_eq rfl rfl rfl)⟩

end FfiState

namespace Threads

/-- A step that reports nothing as applied and puts nothing into the action queue. -/
structure Unreported (before after : Threads) : Prop where
  ffi : before.ffi.Unreported after.ffi
  calls : after.ffi.Quiet
  phase : Silent after.phase.notices

/-- A piece of the monitor task that sends no action past the approval. -/
theorem advance_unreported {state next : Threads} (calls : state.ffi.Quiet)
    (phase : Silent state.phase.notices) (advanced : state.advance = some next)
    (waits : state.automaticNext = none) : state.Unreported next := by
  have nothing : Silent [] := List.forall_mem_nil _
  cases advance_cases advanced with
  | swept now => exact ⟨.of_eq rfl rfl rfl, calls, silent_invalidationNotices _⟩
  | notified notice rest notifying =>
      rw [notifying] at phase
      obtain ⟨first, others⟩ := List.forall_mem_cons.mp phase
      exact ⟨FfiState.unreported_perform first, FfiState.quiet_perform calls notice, others⟩
  | evaluated mode =>
      have same := state.collectRuleActions_ffi mode
      exact ⟨.of_eq (congrArg FfiState.published same)
        (congrArg FfiState.droppedActionsCount same) (congrArg FfiState.actionQueue same),
        calls.of_eq (congrArg FfiState.calls same), nothing⟩
  | routed mode routed rest routing =>
      have approval : requiresApproval mode
          (categoryAutoApprove state.actionAutoApprove routed.rj.actionType) = true := by
        by_contra automatic
        simp [automaticNext, routing, automatic] at waits
      obtain ⟨ffi, quiet⟩ :=
        FfiState.enqueuePending_reports calls routed.rj routed.ruleId routed.explanation
      simp only [route, approval, if_true]
      exact ⟨ffi, quiet, nothing⟩
  | handledSystem | handledMedia | stopped | began | calibrated | predicted | adapted
  | finished => exact ⟨.of_eq rfl rfl rfl, calls, nothing⟩

/-- A piece of the monitor task that sends an action past the approval. -/
theorem advance_of_automaticNext {state next : Threads} {routed : RoutedAction}
    (advanced : state.advance = some next) (automatic : state.automaticNext = some routed) :
    ∃ mode rest, next =
      { state with
        ffi := ((state.ffi.enqueueUiEvent (.infoEvent routed.rj routed.explanation)).enqueueAction
          routed.rj).1.publish (.logHealing
            { pendingRecord routed.rj routed.ruleId routed.explanation mode.toUInt32 with
              outcome := outcomeApplied })
        phase := .routing mode rest } := by
  unfold automaticNext at automatic
  split at automatic
  next mode head rest routing =>
    obtain ⟨past, same⟩ := Option.ite_none_left_eq_some.mp automatic
    cases same
    simp only [advance, routing, Option.some.injEq] at advanced
    refine ⟨mode, rest, ?_⟩
    rw [← advanced, route, if_neg past]
  next => cases automatic

theorem step_unreported {state next : Threads} {action : ThreadAction} (calls : state.ffi.Quiet)
    (phase : Silent state.phase.notices) (stepped : state.step action = some next)
    (monitor : action ≠ .advance) (actuator : action ≠ .dequeue)
    (user : ∀ id, action ≠ .approve id) : state.Unreported next := by
  have quietPhase : Silent next.phase.notices := by
    rcases step_cases stepped with ⟨advancing, _⟩ | ⟨index, _, resumed⟩ | ⟨parsed, _, rfl⟩ |
      ⟨_, _, _, outside⟩
    · exact absurd advancing monitor
    · obtain ⟨⟨ffi, entries⟩, _, rfl⟩ := Option.map_eq_some_iff.mp resumed
      exact phase
    · exact phase
    · rcases outside.phase with same | ⟨_, begins⟩
      · rw [same]
        exact phase
      · generalize next.phase = taken at begins
        cases begins <;> exact List.forall_mem_nil _
  have reports : state.ffi.Unreported next.ffi ∧ next.ffi.Quiet := by
    have moved := step_ffi stepped monitor
    generalize next.ffi = after at moved
    cases moved with
    | same | reloaded | elapsed => exact ⟨.of_eq rfl rfl rfl, calls⟩
    | approved id => exact absurd rfl (user id)
    | rejected id => exact FfiState.rjActionReject_reports calls id
    | modeSet mode => exact FfiState.rjSetHealingMode_reports calls mode
    | dequeued => exact absurd rfl actuator
    | eventDequeued =>
        unfold FfiState.rjActionEventDequeue
        split <;> exact ⟨.of_eq rfl rfl rfl, calls⟩
    | resumed index after entries resumed => exact FfiState.resume_reports calls resumed
  exact ⟨reports.1, reports.2, quietPhase⟩

end Threads

namespace AppliedRun

/-! ## Accounting -/

/-- Each acceptance is reported, and the reports without an acceptance are the dropped
actions. -/
structure Accounting (run : AppliedRun) : Prop where
  records : ∀ id, run.accepted.count id ≤ (appliedRecords run.threads.ffi).count id
  events : ∀ id,
    (appliedEvents run.threads.ffi).count id ≤ (appliedRecords run.threads.ffi).count id
  total : (appliedRecords run.threads.ffi).length =
    run.accepted.length + run.threads.ffi.droppedActionsCount
  calls : run.threads.ffi.Quiet
  phase : Silent run.threads.phase.notices

theorem accounting_start (mode : UInt32) (rules : Option ParsedRules) (clock : Nat) :
    (start mode rules clock).Accounting where
  records := fun _ => Nat.le_refl _
  events := fun _ => Nat.le_refl _
  total := rfl
  calls := List.forall_mem_nil _
  phase := List.forall_mem_nil _

/-- The reports are accepted actions as long as no action was dropped. -/
theorem Accounting.reportsAccepted_iff {run : AppliedRun} (accounting : run.Accounting) :
    run.ReportsAccepted ↔ run.threads.ffi.droppedActionsCount = 0 := by
  have total := accounting.total
  constructor
  · intro accepted
    have within : (appliedRecords run.threads.ffi).Subperm run.accepted :=
      List.subperm_ext_iff.mpr fun id _ => accepted.records id
    have bound := within.length_le
    omega
  · intro none_
    have within : run.accepted.Subperm (appliedRecords run.threads.ffi) :=
      List.subperm_ext_iff.mpr fun id _ => accounting.records id
    have same := (within.perm_of_length_le (by omega)).count_eq
    refine ⟨fun id => (same id).ge, fun id => ?_⟩
    rw [same id]
    exact accounting.events id

/-- What a step adds: `reported` to the log, `shown` to the events, `taken` to the
queue, and the rest is dropped. -/
theorem Accounting.extend {run next : AppliedRun} (accounting : run.Accounting)
    {reported shown taken : List UInt32}
    (records : appliedRecords next.threads.ffi = appliedRecords run.threads.ffi ++ reported)
    (events : appliedEvents next.threads.ffi = appliedEvents run.threads.ffi ++ shown)
    (accepted : next.accepted = run.accepted ++ taken)
    (shownReported : shown.Sublist reported) (takenReported : taken.Sublist reported)
    (dropped : next.threads.ffi.droppedActionsCount + taken.length =
      run.threads.ffi.droppedActionsCount + reported.length)
    (calls : next.threads.ffi.Quiet) (phase : Silent next.threads.phase.notices) :
    next.Accounting where
  records := by
    intro id
    rw [records, accepted, List.count_append, List.count_append]
    exact Nat.add_le_add (accounting.records id) (takenReported.count_le id)
  events := by
    intro id
    rw [records, events, List.count_append, List.count_append]
    exact Nat.add_le_add (accounting.events id) (shownReported.count_le id)
  total := by
    have total := accounting.total
    rw [records, accepted, List.length_append, List.length_append]
    omega
  calls := calls
  phase := phase

theorem joined_of_same {before after : Threads}
    (same : after.ffi.actionQueue.items = before.ffi.actionQueue.items) :
    joined before after = [] := by
  rw [joined, same, List.drop_length]
  rfl

theorem joined_of_append {before after : Threads} {action : RjAction}
    (appended : after.ffi.actionQueue.items = before.ffi.actionQueue.items ++ [action]) :
    joined before after = [action.id] := by
  rw [joined, appended, List.drop_left]
  rfl

theorem Accounting.unreported {run : AppliedRun} (accounting : run.Accounting) {next : Threads}
    (kept : run.threads.Unreported next) :
    (⟨next, run.accepted ++ joined run.threads next⟩ : AppliedRun).Accounting ∧
      next.ffi.droppedActionsCount = run.threads.ffi.droppedActionsCount := by
  have nothing := joined_of_same (congrArg BoundedQueue.items kept.ffi.queue)
  refine ⟨@Accounting.extend run _ accounting [] [] [] ?_ ?_ ?_ (List.Sublist.refl _)
    (List.Sublist.refl _) ?_ kept.calls kept.phase, kept.ffi.dropped⟩
  · rw [kept.ffi.records, List.append_nil]
  · rw [kept.ffi.events, List.append_nil]
  · rw [nothing]
  · exact congrArg (· + 0) kept.ffi.dropped

/-- A step keeps the accounts, and drops an action exactly when it routes one without
room. -/
theorem step_accounting {run next : AppliedRun} {action : ThreadAction}
    (accounting : run.Accounting) (stepped : run.step action = some next) :
    next.Accounting ∧
      (next.threads.ffi.droppedActionsCount = 0 ↔
        run.threads.ffi.droppedActionsCount = 0 ∧ run.RoomToRoute action) := by
  obtain ⟨threads, moved, rfl⟩ := Option.map_eq_some_iff.mp stepped
  have kept : run.RoomToRoute action →
      (⟨threads, run.accepted ++ joined run.threads threads⟩ : AppliedRun).Accounting ∧
        threads.ffi.droppedActionsCount = run.threads.ffi.droppedActionsCount →
      (⟨threads, run.accepted ++ joined run.threads threads⟩ : AppliedRun).Accounting ∧
        (threads.ffi.droppedActionsCount = 0 ↔
          run.threads.ffi.droppedActionsCount = 0 ∧ run.RoomToRoute action) := by
    rintro room ⟨accounted, same⟩
    exact ⟨accounted, by rw [same]; simp [room]⟩
  cases action with
  | advance =>
      cases automatic : run.threads.automaticNext with
      | none =>
          refine kept ?_ (accounting.unreported
            (Threads.advance_unreported accounting.calls accounting.phase moved automatic))
          intro _ sends
          rw [automatic] at sends
          cases sends
      | some routed =>
          obtain ⟨mode, rest, rfl⟩ := Threads.advance_of_automaticNext moved automatic
          obtain ⟨records, events, calls, outcome⟩ :=
            run.threads.ffi.enqueueAction_reports routed mode
          have quiet := accounting.calls.of_eq calls
          have condition : run.RoomToRoute .advance ↔
              run.threads.ffi.actionQueue.items.length < 64 := by
            simp [RoomToRoute, automatic]
          rw [condition]
          rcases outcome with ⟨room, items, dropped⟩ | ⟨full, queue, dropped⟩
          · have taken : joined run.threads { run.threads with
                ffi := _, phase := .routing mode rest } = [routed.rj.id] := joined_of_append items
            refine ⟨accounting.extend records events (congrArg (run.accepted ++ ·) taken)
              (List.Sublist.refl _) (List.Sublist.refl _) (congrArg (· + 1) dropped) quiet
              (List.forall_mem_nil _), ?_⟩
            simp [room, dropped]
          · have taken : joined run.threads { run.threads with
                ffi := _, phase := .routing mode rest } = [] :=
              joined_of_same (congrArg BoundedQueue.items queue)
            refine ⟨accounting.extend records events (congrArg (run.accepted ++ ·) taken)
              (List.Sublist.refl _) (List.nil_sublist _) dropped quiet
              (List.forall_mem_nil _), ?_⟩
            simp [full, dropped]
  | dequeue =>
      cases moved
      have shorter : joined run.threads
          { run.threads with ffi := run.threads.ffi.rjActionDequeue.1 } = [] := by
        have items := congrArg List.length run.threads.ffi.rjActionDequeue_items.1
        rw [List.length_append] at items
        rw [joined, List.drop_eq_nil_of_le (by simp only; omega)]
        rfl
      obtain ⟨ffi, calls⟩ := run.threads.ffi.rjActionDequeue_reports
      refine kept nofun ⟨accounting.extend ?_ ?_ (congrArg (run.accepted ++ ·) shorter)
        (List.Sublist.refl []) (List.Sublist.refl []) ?_ (accounting.calls.of_eq calls)
        accounting.phase, ffi.2.2⟩
      · rw [ffi.1, List.append_nil]
      · rw [ffi.2.1, List.append_nil]
      · exact congrArg (· + 0) ffi.2.2
  | approve id =>
      cases moved
      obtain ⟨quiet, unreported | ⟨action, records, events, dropped, items⟩⟩ :=
        FfiState.rjActionApprove_reports accounting.calls id
      · exact kept nofun (accounting.unreported ⟨unreported, quiet, accounting.phase⟩)
      · have taken : joined run.threads
            { run.threads with ffi := (run.threads.ffi.rjActionApprove id).1 } = [action.id] :=
          joined_of_append items
        refine kept nofun ⟨accounting.extend records (events.trans (List.append_nil _).symm)
          (congrArg (run.accepted ++ ·) taken) (List.nil_sublist _) (List.Sublist.refl _)
          (congrArg (· + 1) dropped) quiet accounting.phase, dropped⟩
  | _ =>
      exact kept nofun (accounting.unreported
        (Threads.step_unreported accounting.calls accounting.phase moved nofun nofun nofun))

/-- In every run, what is reported as applied was accepted exactly if no action was sent to
a full queue. -/
theorem reportsAccepted_iff_roomToRoute {mode : UInt32} {rules : Option ParsedRules}
    {clock : Nat} {actions : List ThreadAction} {finish : AppliedRun}
    (executed : Machine.exec step (start mode rules clock) actions = some finish) :
    finish.ReportsAccepted ↔
      Machine.Along step RoomToRoute (start mode rules clock) actions := by
  have initially := accounting_start mode rules clock
  have accounting : finish.Accounting :=
    Machine.exec_invariant (fun _ _ _ accounted stepped => (step_accounting accounted stepped).1)
      initially executed
  have good := Machine.good_iff_along
    (fun _ _ _ accounted stepped => step_accounting accounted stepped) initially executed
  rw [accounting.reportsAccepted_iff, good]
  exact and_iff_right rfl

def alwaysDue : ParsedRules where
  rules :=
    [{ id := "always_due"
       condition := "cpu_load_pct>=0".toList
       action := "scale_resolution"
       params := []
       modes := ["auto-pilot"] }]
  hysteresisMs := 0

def automaticTick : List ThreadAction :=
  .elapse 1000000000 :: .tick :: List.replicate 8 .advance

theorem reportsAccepted_iff_twoTicks :
    ∃ run, Machine.exec step (start 0 (some alwaysDue) 0) (automaticTick ++ automaticTick) =
        some run ∧
      (run.ReportsAccepted ↔ Machine.Along step RoomToRoute (start 0 (some alwaysDue) 0)
        (automaticTick ++ automaticTick)) := by
  have ended : (Machine.exec step (start 0 (some alwaysDue) 0)
      (automaticTick ++ automaticTick)).map AppliedRun.accepted = some [1, 2] := by
    decide +kernel
  obtain ⟨run, executed, -⟩ := Option.map_eq_some_iff.mp ended
  exact ⟨run, executed, reportsAccepted_iff_roomToRoute executed⟩

/-- The actuator takes nothing for sixty-five ticks: the last action is logged and announced
as applied, and is in no queue. -/
theorem dropped_action_reported :
    ∃ run, Machine.exec step (start 0 (some alwaysDue) 0)
        (List.replicate 65 automaticTick).flatten = some run ∧
      65 ∈ appliedRecords run.threads.ffi ∧ 65 ∈ appliedEvents run.threads.ffi ∧
      65 ∉ run.accepted ∧ ¬run.ReportsAccepted := by
  have ended : (Machine.exec step (start 0 (some alwaysDue) 0)
      (List.replicate 65 automaticTick).flatten).map (fun run =>
        ((appliedRecords run.threads.ffi).contains 65,
          (appliedEvents run.threads.ffi).contains 65, run.accepted.contains 65)) =
      some (true, true, false) := by
    decide +kernel
  obtain ⟨run, executed, observed⟩ := Option.map_eq_some_iff.mp ended
  simp only [Prod.mk.injEq, List.contains_eq_mem, decide_eq_true_eq, decide_eq_false_iff_not]
    at observed
  obtain ⟨record, event, dropped⟩ := observed
  refine ⟨run, executed, record, event, dropped, ?_⟩
  intro reported
  have counted := reported.records 65
  rw [List.count_eq_zero.mpr dropped] at counted
  exact absurd (List.count_pos_iff.mpr record) (by omega)

end AppliedRun

end RejiStudio.Orchestrator
