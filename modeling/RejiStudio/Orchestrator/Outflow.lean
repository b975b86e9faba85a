import RejiStudio.Orchestrator.Threads

/-!
# What the orchestrator hands to the pipeline

Healing events leave through the broadcast channel of the monitor, actions through
the action queue: routed past the approval, or moved there by an approval.
-/

namespace RejiStudio.Orchestrator

open RejiStudio.Lib

def MonitorPhase.reduces : MonitorPhase → Bool
  | .handlingSystem (.gpuUsage ratio) => single (98 / 100) ≤ ratio
  | .predicting _ => true
  | _ => false

namespace Threads

/-- The action that the next piece of the monitor task sends past the approval. -/
def automaticNext (state : Threads) : Option RoutedAction :=
  match state.phase with
  | .routing mode (routed :: _) =>
      if requiresApproval mode
          (categoryAutoApprove state.actionAutoApprove routed.rj.actionType) = true then
        none
      else some routed
  | _ => none

def reducesNext (state : Threads) : Bool :=
  match state.phase with
  | .handlingSystem (.gpuUsage ratio) => state.monitor.gpuFires ratio state.ffi.clock
  | .predicting _ => state.monitor.dropTrendFires state.ffi.clock
  | _ => false

theorem phase_reduces_of_reducesNext {state : Threads} (reduces : state.reducesNext = true) :
    state.phase.reduces = true := by
  unfold reducesNext at reduces
  split at reduces
  next ratio phase =>
    rw [phase]
    simp only [HealingMonitor.gpuFires, Bool.and_eq_true] at reduces
    exact reduces.1
  next mode phase =>
    rw [phase]
    rfl
  next => cases reduces

theorem advance_healing {state next : Threads} (advanced : state.advance = some next) :
    ∃ triggers : List HealingTrigger,
      next.healing = state.healing.sendAll (triggers.map HealingTrigger.event) ∧
        ∀ trigger ∈ triggers, trigger.event.reduces = true → state.reducesNext = true := by
  cases advance_cases advanced with
  | handledSystem event phase =>
      refine ⟨_, rfl, ?_⟩
      intro trigger emitted reduces
      obtain ⟨ratio, rfl, fires⟩ :=
        HealingMonitor.handleSystem_reduces (Option.mem_toList.mp emitted) reduces
      rw [reducesNext, phase]
      exact fires
  | handledMedia event phase =>
      refine ⟨_, rfl, ?_⟩
      intro trigger emitted reduces
      rw [HealingMonitor.handleMedia_reduces (Option.mem_toList.mp emitted)] at reduces
      cases reduces
  | predicted mode phase =>
      refine ⟨_, rfl, ?_⟩
      intro trigger emitted reduces
      rw [reducesNext, phase]
      exact HealingMonitor.evaluatePredictive_reduces emitted reduces
  | adapted mode phase =>
      refine ⟨_, rfl, ?_⟩
      intro trigger emitted reduces
      rw [HealingMonitor.evaluateAdaptive_reduces (Option.mem_toList.mp emitted)] at reduces
      cases reduces
  | evaluated mode => exact ⟨[], state.collectRuleActions_healing mode, nofun⟩
  | routed =>
      refine ⟨[], ?_, nofun⟩
      simp only [route]
      split <;> rfl
  | swept | notified | stopped | began | calibrated | finished => exact ⟨[], rfl, nofun⟩

theorem mem_healing_of_step {state next : Threads} {action : ThreadAction}
    (stepped : state.step action = some next) {event : HealingEvent}
    (unread : event ∈ next.healing.unread) :
    event ∈ state.healing.unread ∨
      (action = .advance ∧ (event.reduces = true → state.reducesNext = true) ∧
        ∃ trigger : HealingTrigger, event = trigger.event) := by
  rcases step_cases stepped with ⟨rfl, advanced⟩ | ⟨index, _, resumed⟩ | ⟨parsed, _, rfl⟩ |
    ⟨_, _, _, outside⟩
  · obtain ⟨triggers, sent, silent⟩ := advance_healing advanced
    rw [sent] at unread
    rcases Broadcast.mem_unread_sendAll unread with old | new
    · exact .inl old
    · obtain ⟨trigger, emitted, rfl⟩ := List.mem_map.mp new
      exact .inr ⟨rfl, silent trigger emitted, trigger, rfl⟩
  · obtain ⟨⟨ffi, entries⟩, _, rfl⟩ := Option.map_eq_some_iff.mp resumed
    exact .inl unread
  · exact .inl unread
  · rw [outside.healing] at unread
    exact .inl unread

theorem mem_actionQueue_of_advance {state next : Threads} (advanced : state.advance = some next)
    {action : RjAction} (queued : action ∈ next.ffi.actionQueue.items) :
    action ∈ state.ffi.actionQueue.items ∨
      ∃ routed, state.automaticNext = some routed ∧ action = routed.rj := by
  rcases advance_ffi advanced with same | ⟨now, _, same⟩ | ⟨notice, rest, _, same⟩ |
    ⟨mode, routed, rest, routing, rfl⟩
  · rw [same] at queued
    exact .inl queued
  · rw [same] at queued
    exact .inl queued
  · rw [same, (state.ffi.perform_stores notice).2] at queued
    exact .inl queued
  · simp only [route] at queued
    split at queued
    next => exact .inl queued
    next automatic =>
      rcases (FfiState.enqueueAction_cases
        (state.ffi.enqueueUiEvent (.infoEvent routed.rj routed.explanation)) routed.rj).2 with
        ⟨_, items⟩ | ⟨_, same⟩
      · have joined : action ∈ state.ffi.actionQueue.items ++ [routed.rj] := items ▸ queued
        rcases List.mem_append.mp joined with old | new
        · exact .inl old
        · refine .inr ⟨routed, ?_, List.mem_singleton.mp new⟩
          simp [automaticNext, routing, automatic]
      · left
        have dropped := congrArg BoundedQueue.items same
        exact dropped ▸ queued

/-- An action in the queue was there before, goes past the approval, or is moved
there by an approval that succeeds. -/
theorem mem_actionQueue_of_step {state next : Threads} {step : ThreadAction}
    (stepped : state.step step = some next) {action : RjAction}
    (queued : action ∈ next.ffi.actionQueue.items) :
    action ∈ state.ffi.actionQueue.items ∨
      (step = .advance ∧ ∃ routed, state.automaticNext = some routed ∧ action = routed.rj) ∨
      (∃ id entry, step = .approve id ∧ (state.ffi.rjActionApprove id).2 = 1 ∧
        state.ffi.pendingActions.lookup id = some entry ∧ action = entry.action) := by
  by_cases monitor : step = .advance
  · subst monitor
    rcases mem_actionQueue_of_advance stepped queued with old | automatic
    · exact .inl old
    · exact .inr (.inl ⟨rfl, automatic⟩)
  · have moved := step_ffi stepped monitor
    generalize next.ffi = after at moved queued
    cases moved with
    | same | reloaded | elapsed => exact .inl queued
    | approved id =>
        rcases state.ffi.rjActionApprove_cases id with
          ⟨_, same⟩ | ⟨entry, queue, found, pushed, _, moved, code⟩ | ⟨entry, found, _, same⟩
        · rw [same] at queued
          exact .inl queued
        · rw [moved, (BoundedQueue.push_eq_some_iff.mp pushed).2] at queued
          rcases List.mem_append.mp queued with old | new
          · exact .inl old
          · exact .inr (.inr ⟨id, entry, rfl, code, found, List.mem_singleton.mp new⟩)
        · rw [same] at queued
          exact .inl queued
    | rejected id =>
        rcases state.ffi.rjActionReject_cases id with ⟨_, same⟩ | ⟨_, _, _, same, _⟩
        · rw [same] at queued
          exact .inl queued
        · rw [same] at queued
          exact .inl queued
    | modeSet mode =>
        rw [(state.ffi.rjSetHealingMode_stores mode).2] at queued
        exact .inl queued
    | dequeued =>
        left
        rw [(state.ffi.rjActionDequeue_items).1]
        exact List.mem_append_right _ queued
    | eventDequeued =>
        rw [(state.ffi.rjActionEventDequeue_stores).2] at queued
        exact .inl queued
    | resumed index after entries resumed =>
        rw [(FfiState.resume_stores resumed).1] at queued
        exact .inl queued

end Threads

end RejiStudio.Orchestrator
