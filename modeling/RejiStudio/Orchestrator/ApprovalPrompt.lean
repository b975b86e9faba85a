import RejiStudio.Lib.Machine
import RejiStudio.Orchestrator.PendingActions

/-!
# The approval prompt of the window

The window polls one event at a time and shows the last action that asks for approval in
the one place that the overlay has for it.  A countdown that other messages start hides the
overlay.  The calls at the boundary run one after the other here, each to its end.
-/

namespace RejiStudio.Orchestrator

open RejiStudio.Lib

namespace RjActionEvent

def shows (event : RjActionEvent) : Bool := event.kind ≠ rjActionEventInvalidated

def asks (event : RjActionEvent) : Bool := event.shows && event.requireApproval ≠ 0

end RjActionEvent

/-! ## The overlay -/

/-- `HealingOverlay` with the prompt that its list holds; `countdown` has the remaining
milliseconds while the timer runs. -/
structure HealingOverlay where
  prompt : Option UInt32
  visible : Bool
  countdown : Option Nat
  deriving DecidableEq

namespace HealingOverlay

def start : HealingOverlay := ⟨none, false, none⟩

def showApprovalPrompt (overlay : HealingOverlay) (id : UInt32) : HealingOverlay :=
  { overlay with prompt := some id, visible := true }

def onActionEvent (overlay : HealingOverlay) (event : RjActionEvent) : HealingOverlay :=
  if event.requireApproval ≠ 0 then overlay.showApprovalPrompt event.id
  else { overlay with visible := true, countdown := some 3000 }

/-- `clearApprovalPrompt` and the message of two seconds after it. -/
def closePrompt (overlay : HealingOverlay) : HealingOverlay :=
  { overlay with prompt := none, countdown := some 2000 }

def currentActionId (overlay : HealingOverlay) : UInt32 := overlay.prompt.getD 0

def onActionInvalidated (overlay : HealingOverlay) (id : UInt32) : HealingOverlay :=
  if id = overlay.currentActionId then overlay.closePrompt else overlay

/-- `pollHealingActions` behind the dequeue. -/
def handle (overlay : HealingOverlay) (event : RjActionEvent) : HealingOverlay :=
  if event.kind = rjActionEventInvalidated then overlay.onActionInvalidated event.id
  else overlay.onActionEvent event

def showMessage (overlay : HealingOverlay) (timeoutMs : Nat) : HealingOverlay :=
  { overlay with visible := true, countdown := some timeoutMs }

def hide (overlay : HealingOverlay) : HealingOverlay := { overlay with visible := false }

def onTick (overlay : HealingOverlay) (remaining : Nat) : HealingOverlay :=
  if remaining ≤ 1000 then { overlay with countdown := none }.hide
  else { overlay with countdown := some (remaining - 1000) }

end HealingOverlay

/-! ## Calls that run to their end -/

namespace FfiState

def finishCall (state : FfiState) : Call → FfiState
  | .sweepExpiredPending now =>
      let (swept, expired) := state.sweepSection now
      (invalidationNotices expired).foldl perform swept
  | .clearPendingOnModeChange mode =>
      let (cleared, drained) := state.clearSection
      (invalidationNotices drained ++ [Notice.emitModeChanged mode]).foldl perform cleared
  | .notify notices => notices.foldl perform state

def finishCalls (state : FfiState) : FfiState :=
  state.calls.foldl finishCall { state with calls := [] }

end FfiState

structure PromptView where
  ffi : FfiState
  overlay : HealingOverlay

inductive PromptAction where
  | enqueuePending (action : RjAction) (ruleId : String) (explanation : Explanation)
  /-- The event of an action that needs no approval. -/
  | enqueueInfo (action : RjAction) (explanation : Explanation)
  | enqueueAction (action : RjAction)
  | dequeueAction
  | sweepExpiredPending
  | setHealingMode (mode : UInt32)
  | elapse (nanos : Nat)
  | poll
  /-- The user checks the box of the prompt. -/
  | check
  | reject
  /-- The button that undoes also hides the overlay. -/
  | undo
  | showMessage (timeoutMs : Nat)
  | tick

namespace PromptView

def start (mode : UInt32) (ruleEngineLoaded : Bool) (clock : Nat) : PromptView :=
  ⟨FfiState.init mode ruleEngineLoaded clock, HealingOverlay.start⟩

def poll (view : PromptView) : PromptView :=
  match view.ffi.rjActionEventDequeue with
  | (ffi, some event) => ⟨ffi, view.overlay.handle event⟩
  | (ffi, none) => ⟨ffi, view.overlay⟩

/-- The slots of `actionApproved` run before the prompt is cleared, whatever they return. -/
def check (view : PromptView) (id : UInt32) : PromptView :=
  ⟨(view.ffi.rjActionApprove id).1.finishCalls, view.overlay.closePrompt⟩

def reject (view : PromptView) (id : UInt32) : PromptView :=
  if id = 0 then view
  else ⟨(view.ffi.rjActionReject id).1.finishCalls, view.overlay.closePrompt⟩

def step : Machine PromptView PromptAction
  | view, .enqueuePending action ruleId explanation =>
      some { view with ffi := (view.ffi.enqueuePending action ruleId explanation).finishCalls }
  | view, .enqueueInfo action explanation =>
      some { view with ffi := view.ffi.enqueueUiEvent (.infoEvent action explanation) }
  | view, .enqueueAction action => some { view with ffi := (view.ffi.enqueueAction action).1 }
  | view, .dequeueAction => some { view with ffi := view.ffi.rjActionDequeue.1 }
  | view, .sweepExpiredPending =>
      some { view with ffi := view.ffi.sweepExpiredPending.finishCalls }
  | view, .setHealingMode mode =>
      some { view with ffi := (view.ffi.rjSetHealingMode mode).1.finishCalls }
  | view, .elapse nanos =>
      some { view with ffi := { view.ffi with clock := view.ffi.clock + nanos } }
  | view, .poll => some view.poll
  | view, .check =>
      match view.overlay with
      | ⟨some id, true, _⟩ => some (view.check id)
      | _ => none
  | view, .reject =>
      match view.overlay with
      | ⟨some id, true, _⟩ => some (view.reject id)
      | _ => none
  | view, .undo => if view.overlay.visible then some { view with overlay := view.overlay.hide }
      else none
  | view, .showMessage timeoutMs =>
      some { view with overlay := view.overlay.showMessage timeoutMs }
  | view, .tick =>
      view.overlay.countdown.map fun remaining =>
        { view with overlay := view.overlay.onTick remaining }

/-! ## Agreement -/

def waiting (view : PromptView) : List RjActionEvent := view.ffi.uiEventQueue.items

def pending (view : PromptView) : List UInt32 := view.ffi.pendingActions.keys

def drained (view : PromptView) : HealingOverlay := view.waiting.foldl .handle view.overlay

/-- A prompt is for a pending action, and every pending action is in a prompt that can be
seen. -/
structure Agrees (view : PromptView) : Prop where
  pending : ∀ id, view.drained.prompt = some id → id ∈ view.pending
  prompted : ∀ id ∈ view.pending, view.drained.prompt = some id ∧ view.drained.visible = true

end PromptView

/-! ## The prompt that events lead to -/

def promptStep (prompt : Option UInt32) (event : RjActionEvent) : Option UInt32 :=
  if event.asks then some event.id
  else if event.shows then prompt
  else if prompt = some event.id then none
  else prompt

def promptAfter (prompt : Option UInt32) (events : List RjActionEvent) : Option UInt32 :=
  events.foldl promptStep prompt

@[simp]
theorem promptStep_approvalEvent (prompt : Option UInt32) (action : RjAction)
    (explanation : Explanation) :
    promptStep prompt (.approvalEvent action explanation) = some action.id := rfl

@[simp]
theorem promptStep_infoEvent (prompt : Option UInt32) (action : RjAction)
    (explanation : Explanation) :
    promptStep prompt (.infoEvent action explanation) = prompt := rfl

@[simp]
theorem promptStep_invalidatedEvent (prompt : Option UInt32) (action : RjAction) :
    promptStep prompt (.invalidatedEvent action) =
      if prompt = some action.id then none else prompt := rfl

theorem promptAfter_append (prompt : Option UInt32) (first second : List RjActionEvent) :
    promptAfter prompt (first ++ second) = promptAfter (promptAfter prompt first) second :=
  List.foldl_append

theorem promptAfter_concat (prompt : Option UInt32) (events : List RjActionEvent)
    (last : RjActionEvent) :
    promptAfter prompt (events ++ [last]) = promptStep (promptAfter prompt events) last :=
  promptAfter_append prompt events [last]

theorem promptAfter_of_asks {events : List RjActionEvent}
    (asks : ∃ event ∈ events, event.asks = true) (prompt other : Option UInt32) :
    promptAfter prompt events = promptAfter other events := by
  induction events generalizing prompt other with
  | nil =>
      obtain ⟨event, member, -⟩ := asks
      cases member
  | cons event rest inductionHypothesis =>
      by_cases later : ∃ event ∈ rest, event.asks = true
      · exact inductionHypothesis later _ _
      · have now : event.asks = true := by
          obtain ⟨asking, member, asked⟩ := asks
          rcases List.mem_cons.mp member with rfl | behind
          · exact asked
          · exact absurd ⟨asking, behind, asked⟩ later
        simp only [promptAfter, List.foldl_cons, promptStep, now, if_true]

theorem promptAfter_of_not_asks {events : List RjActionEvent}
    (silent : ∀ event ∈ events, event.asks ≠ true) (prompt : Option UInt32) :
    promptAfter prompt events = none ∨ promptAfter prompt events = prompt := by
  induction events generalizing prompt with
  | nil => exact .inr rfl
  | cons event rest inductionHypothesis =>
      obtain ⟨head, tail⟩ := List.forall_mem_cons.mp silent
      have step : promptStep prompt event = none ∨ promptStep prompt event = prompt := by
        rw [promptStep, if_neg head]
        split
        · exact .inr rfl
        · split
          · exact .inl rfl
          · exact .inr rfl
      change promptAfter (promptStep prompt event) rest = none ∨ _
      rcases inductionHypothesis tail (promptStep prompt event) with closed | kept
      · exact .inl closed
      · rw [← show promptAfter (promptStep prompt event) rest = promptAfter prompt (event :: rest)
          from rfl, kept]
        exact step

namespace HealingOverlay

theorem onActionInvalidated_prompt (overlay : HealingOverlay) (id : UInt32) :
    (overlay.onActionInvalidated id).prompt =
      if overlay.prompt = some id then none else overlay.prompt := by
  unfold onActionInvalidated currentActionId
  cases prompt : overlay.prompt with
  | none => by_cases same : id = 0 <;> simp [same, prompt, closePrompt]
  | some shown => by_cases same : id = shown <;> simp [same, prompt, closePrompt, eq_comm]

theorem onActionInvalidated_visible (overlay : HealingOverlay) (id : UInt32) :
    (overlay.onActionInvalidated id).visible = overlay.visible := by
  unfold onActionInvalidated
  split <;> rfl

theorem handle_prompt (overlay : HealingOverlay) (event : RjActionEvent) :
    (overlay.handle event).prompt = promptStep overlay.prompt event := by
  unfold handle promptStep RjActionEvent.asks RjActionEvent.shows
  by_cases gone : event.kind = rjActionEventInvalidated
  · simp [gone, onActionInvalidated_prompt]
  · by_cases approval : event.requireApproval = 0 <;>
      simp [gone, approval, onActionEvent, showApprovalPrompt]

theorem handle_visible (overlay : HealingOverlay) (event : RjActionEvent) :
    (overlay.handle event).visible = (overlay.visible || event.shows) := by
  unfold handle RjActionEvent.shows
  by_cases gone : event.kind = rjActionEventInvalidated
  · simp [gone, onActionInvalidated_visible]
  · by_cases approval : event.requireApproval = 0 <;>
      simp [gone, approval, onActionEvent, showApprovalPrompt]

theorem foldl_handle (overlay : HealingOverlay) (events : List RjActionEvent) :
    (events.foldl handle overlay).prompt = promptAfter overlay.prompt events ∧
      (events.foldl handle overlay).visible =
        (overlay.visible || events.any RjActionEvent.shows) := by
  induction events generalizing overlay with
  | nil => simp [promptAfter]
  | cons event rest inductionHypothesis =>
      obtain ⟨prompt, visible⟩ := inductionHypothesis (overlay.handle event)
      rw [handle_prompt] at prompt
      rw [handle_visible] at visible
      refine ⟨prompt, ?_⟩
      rw [List.foldl_cons, visible, List.any_cons, Bool.or_assoc]

end HealingOverlay

/-! ## The queue of events -/

namespace FfiState

def keptEvents (state : FfiState) : List RjActionEvent :=
  if state.uiEventQueue.items.length < 64 then state.uiEventQueue.items
  else state.uiEventQueue.items.tail

theorem enqueueUiEvent_items (state : FfiState) (event : RjActionEvent) :
    (state.enqueueUiEvent event).uiEventQueue.items = state.keptEvents ++ [event] := by
  have same : (state.enqueueUiEvent event).uiEventQueue =
      (state.uiEventQueue.forcePush event).1 := rfl
  rw [same, BoundedQueue.forcePush_items (by decide), keptEvents]

/-! ## What a whole call does -/

theorem finishCalls_idle {state : FfiState} (idle : state.calls = []) :
    state.finishCalls = state := by
  unfold finishCalls
  rw [idle]
  obtain ⟨⟩ := state
  cases idle
  rfl

theorem finishCalls_single {state : FfiState} {call : Call} (single : state.calls = [call]) :
    state.finishCalls = finishCall { state with calls := [] } call := by
  unfold finishCalls
  rw [single]
  rfl

theorem foldl_perform_frame (notices : List Notice) (state : FfiState) :
    (notices.foldl perform state).pendingActions = state.pendingActions ∧
      (notices.foldl perform state).calls = state.calls := by
  induction notices generalizing state with
  | nil => exact ⟨rfl, rfl⟩
  | cons notice rest inductionHypothesis =>
      obtain ⟨pending, calls⟩ := inductionHypothesis (state.perform notice)
      have own : (state.perform notice).calls = state.calls := by
        cases notice with
        | applyCooldown ruleId =>
            by_cases loaded : state.ruleEngineLoaded <;>
              simp [perform, applyCooldown, loaded, publish]
        | enqueueUiEvent event => rfl
        | emitHealingEvent event => rfl
        | logActionOutcome action ruleId outcome => rfl
        | emitModeChanged mode => rfl
      exact ⟨pending.trans (state.perform_stores notice).1, calls.trans own⟩

theorem foldl_perform_silent {notices : List Notice} {state : FfiState}
    (silent : ∀ notice ∈ notices, ∀ event, notice ≠ .enqueueUiEvent event) :
    (notices.foldl perform state).uiEventQueue = state.uiEventQueue := by
  induction notices generalizing state with
  | nil => rfl
  | cons notice rest inductionHypothesis =>
      obtain ⟨head, tail⟩ := List.forall_mem_cons.mp silent
      have own : (state.perform notice).uiEventQueue = state.uiEventQueue := by
        cases notice with
        | applyCooldown ruleId =>
            by_cases loaded : state.ruleEngineLoaded <;>
              simp [perform, applyCooldown, loaded, publish]
        | enqueueUiEvent event => exact absurd rfl (head event)
        | emitHealingEvent event => rfl
        | logActionOutcome action ruleId outcome => rfl
        | emitModeChanged mode => rfl
      exact (@inductionHypothesis (state.perform notice) tail).trans own

theorem enqueuePending_finished {state : FfiState} (idle : state.calls = []) (action : RjAction)
    (ruleId : String) (explanation : Explanation) :
    let finished := (state.enqueuePending action ruleId explanation).finishCalls
    finished.pendingActions = state.pendingActions.insert ⟨action, ruleId, state.clock⟩ ∧
      finished.uiEventQueue.items =
        state.keptEvents ++ [.approvalEvent action explanation] ∧
      finished.calls = [] := by
  have single : (state.enqueuePending action ruleId explanation).calls =
      [.notify [.enqueueUiEvent (.approvalEvent action explanation)]] := by
    change state.calls ++ _ = _
    rw [idle]
    rfl
  simp only [finishCalls_single single, finishCall, List.foldl_cons, List.foldl_nil, perform]
  exact ⟨rfl, enqueueUiEvent_items _ _, rfl⟩

theorem invalidated_events {state : FfiState} {entries : List PendingEntry} {more : List Notice}
    (silent : ∀ notice ∈ more, ∀ event, notice ≠ .enqueueUiEvent event) :
    (entries = [] → ((invalidationNotices entries ++ more).foldl perform state).uiEventQueue =
        state.uiEventQueue) ∧
      ∀ entry, entries = [entry] →
        ((invalidationNotices entries ++ more).foldl perform state).uiEventQueue.items =
          state.keptEvents ++ [.invalidatedEvent entry.action] := by
  constructor
  · rintro rfl
    exact foldl_perform_silent silent
  · rintro entry rfl
    have split_ : invalidationNotices [entry] ++ more =
        .enqueueUiEvent (.invalidatedEvent entry.action) ::
          (.logActionOutcome entry.action entry.ruleId outcomeInvalidated :: more) := rfl
    rw [split_, List.foldl_cons, foldl_perform_silent]
    · exact enqueueUiEvent_items _ _
    · exact List.forall_mem_cons.mpr ⟨by simp, silent⟩

theorem sweep_finished {state : FfiState} (idle : state.calls = []) :
    let swept := state.pendingActions.removeAll (state.pendingActions.expiredIds state.clock)
    let finished := state.sweepExpiredPending.finishCalls
    finished.pendingActions = swept.1 ∧ finished.calls = [] ∧
      (swept.2 = [] → finished.uiEventQueue = state.uiEventQueue) ∧
      ∀ entry, swept.2 = [entry] → finished.uiEventQueue.items =
        state.keptEvents ++ [.invalidatedEvent entry.action] := by
  have single : state.sweepExpiredPending.calls = [.sweepExpiredPending state.clock] := by
    change state.calls ++ _ = _
    rw [idle]
    rfl
  intro swept finished
  have same : finished = (invalidationNotices swept.2 ++ []).foldl perform
      { state with pendingActions := swept.1, calls := [] } := by
    rw [List.append_nil]
    exact finishCalls_single single
  rw [same]
  obtain ⟨pending, calls⟩ := foldl_perform_frame (invalidationNotices swept.2 ++ [])
    { state with pendingActions := swept.1, calls := [] }
  exact ⟨pending, calls, invalidated_events (by simp)⟩

theorem setHealingMode_finished {state : FfiState} (idle : state.calls = []) (mode : UInt32) :
    let finished := (state.rjSetHealingMode mode).1.finishCalls
    finished.calls = [] ∧
      if mode ≤ 3 ∧ mode ≠ state.healingMode then
        finished.pendingActions = PendingStore.empty ∧
          (state.pendingActions.values = [] → finished.uiEventQueue = state.uiEventQueue) ∧
          ∀ entry, state.pendingActions.values = [entry] → finished.uiEventQueue.items =
            state.keptEvents ++ [.invalidatedEvent entry.action]
      else
        finished.pendingActions = state.pendingActions ∧
          finished.uiEventQueue = state.uiEventQueue := by
  intro finished
  by_cases bad : mode > 3
  · have same : finished = state := by
      change (state.rjSetHealingMode mode).1.finishCalls = state
      rw [rjSetHealingMode, if_pos bad]
      exact finishCalls_idle idle
    rw [same, if_neg fun good => absurd good.1 (UInt32.not_le.mpr bad)]
    exact ⟨idle, rfl, rfl⟩
  · by_cases changed : state.healingMode ≠ mode
    · have single : (state.rjSetHealingMode mode).1.calls = [.clearPendingOnModeChange mode] := by
        rw [rjSetHealingMode, if_neg bad, if_pos changed]
        change state.calls ++ _ = _
        rw [idle]
        rfl
      have same : finished =
          (invalidationNotices state.pendingActions.values ++
            [Notice.emitModeChanged mode]).foldl perform
          { state with
            healingMode := mode
            pendingActions := PendingStore.empty
            calls := [] } := by
        have run := finishCalls_single single
        rw [rjSetHealingMode, if_neg bad, if_pos changed] at run
        change (state.rjSetHealingMode mode).1.finishCalls = _
        rw [rjSetHealingMode, if_neg bad, if_pos changed]
        exact run
      rw [same, if_pos ⟨UInt32.not_lt.mp bad, Ne.symm changed⟩]
      obtain ⟨pending, calls⟩ := foldl_perform_frame
        (invalidationNotices state.pendingActions.values ++ [Notice.emitModeChanged mode])
        { state with
          healingMode := mode
          pendingActions := PendingStore.empty
          calls := [] }
      refine ⟨calls, pending, invalidated_events ?_⟩
      simp
    · have kept : state.healingMode = mode := not_not.mp changed
      have same : finished = { state with healingMode := mode } := by
        change (state.rjSetHealingMode mode).1.finishCalls = _
        rw [rjSetHealingMode, if_neg bad, if_neg changed]
        exact finishCalls_idle idle
      rw [same, if_neg fun both => both.2 kept.symm]
      exact ⟨idle, rfl, rfl⟩

theorem rjActionApprove_finished {state : FfiState} (idle : state.calls = []) (id : UInt32) :
    let finished := (state.rjActionApprove id).1.finishCalls
    finished.calls = [] ∧ finished.uiEventQueue = state.uiEventQueue ∧
      finished.pendingActions.keys =
        if id ∈ state.pendingActions.keys then
          if state.actionQueue.items.length < 64 then state.pendingActions.keys.erase id
          else id :: (state.pendingActions.keys.erase id).erase id
        else state.pendingActions.keys := by
  have kept : (state.rjActionApprove id).1.calls = state.calls ∧
      (state.rjActionApprove id).1.uiEventQueue = state.uiEventQueue := by
    unfold rjActionApprove
    split
    next => exact ⟨rfl, rfl⟩
    next => split <;> exact ⟨rfl, rfl⟩
  intro finished
  have same : finished = (state.rjActionApprove id).1 := finishCalls_idle (kept.1.trans idle)
  rw [same]
  refine ⟨kept.1.trans idle, kept.2, ?_⟩
  rcases state.rjActionApprove_cases id with
    ⟨absent, unchanged⟩ | ⟨entry, queue, found, pushed, moved, -⟩ | ⟨entry, found, full, putBack⟩
  · rw [unchanged, if_neg]
    simp [PendingStore.mem_keys_iff, absent]
  · have room := (BoundedQueue.push_eq_some_iff.mp pushed).1
    rw [moved, PendingStore.keys_remove,
      if_pos (PendingStore.mem_keys_iff.mpr ⟨entry, found⟩), if_pos room]
  · have crowded := BoundedQueue.push_eq_none_iff.mp full
    rw [putBack, if_pos (PendingStore.mem_keys_iff.mpr ⟨entry, found⟩),
      if_neg (by omega)]
    rw [PendingStore.keys_insert, PendingStore.keys_remove, PendingStore.id_of_lookup found]

theorem rjActionReject_finished {state : FfiState} (idle : state.calls = []) (id : UInt32) :
    let finished := (state.rjActionReject id).1.finishCalls
    finished.calls = [] ∧ finished.uiEventQueue = state.uiEventQueue ∧
      finished.pendingActions.keys = state.pendingActions.keys.erase id := by
  intro finished
  cases found : state.pendingActions.lookup id with
  | none =>
      have unchanged : (state.rjActionReject id).1 = state := by
        simp [rjActionReject, PendingStore.remove, found]
      have same : finished = state := by
        change (state.rjActionReject id).1.finishCalls = state
        rw [unchanged]
        exact finishCalls_idle idle
      rw [same, List.erase_of_not_mem]
      · exact ⟨idle, rfl, rfl⟩
      · simp [PendingStore.mem_keys_iff, found]
  | some entry =>
      have notices : (state.rjActionReject id).1 =
          ({ state with pendingActions := (state.pendingActions.remove id).1 }).continueWith
            (.notify [.applyCooldown entry.ruleId,
              .emitHealingEvent (.invalidatedEvent entry.action),
              .logActionOutcome entry.action entry.ruleId outcomeRejected]) := by
        simp [rjActionReject, PendingStore.remove, found]
      have single : (state.rjActionReject id).1.calls =
          [.notify [.applyCooldown entry.ruleId,
            .emitHealingEvent (.invalidatedEvent entry.action),
            .logActionOutcome entry.action entry.ruleId outcomeRejected]] := by
        rw [notices]
        change state.calls ++ _ = _
        rw [idle]
        rfl
      have run : finished = _ := finishCalls_single single
      rw [run, notices]
      obtain ⟨pending, calls⟩ := foldl_perform_frame
        [.applyCooldown entry.ruleId, .emitHealingEvent (.invalidatedEvent entry.action),
          .logActionOutcome entry.action entry.ruleId outcomeRejected]
        { state with pendingActions := (state.pendingActions.remove id).1, calls := [] }
      refine ⟨calls, foldl_perform_silent ?_, ?_⟩
      · simp
      · exact (congrArg PendingStore.keys pending).trans (PendingStore.keys_remove _ _)

end FfiState

namespace PromptView

/-! ## One step -/

theorem polls_drain (view : PromptView) :
    ∃ next, Machine.exec step view (List.replicate view.waiting.length .poll) = some next ∧
      next.waiting = [] ∧ next.overlay = view.drained ∧ next.pending = view.pending := by
  generalize events : view.waiting = waiting
  induction waiting generalizing view with
  | nil =>
      refine ⟨view, rfl, events, ?_, rfl⟩
      rw [drained, events]
      rfl
  | cons event rest inductionHypothesis =>
      have bounded : (event :: rest).length ≤ 64 := by
        rw [← events]
        exact view.ffi.uiEventQueue.bounded
      have popped : view.ffi.uiEventQueue.pop = some (event, ⟨rest, Nat.le_of_succ_le bounded⟩) :=
        BoundedQueue.pop_eq_some_iff.mpr events
      have polled : view.poll =
          ⟨{ view.ffi with uiEventQueue := ⟨rest, Nat.le_of_succ_le bounded⟩ },
            view.overlay.handle event⟩ := by
        rw [poll, FfiState.rjActionEventDequeue, popped]
      obtain ⟨next, executed, empty, overlay, pending⟩ :=
        inductionHypothesis view.poll (by rw [polled]; rfl)
      refine ⟨next, executed, empty, ?_, ?_⟩
      · rw [overlay, drained, drained, polled, events]
        rfl
      · rw [pending, polled]
        rfl

theorem drained_prompt (view : PromptView) :
    view.drained.prompt = promptAfter view.overlay.prompt view.waiting :=
  (HealingOverlay.foldl_handle _ _).1

theorem drained_visible (view : PromptView) :
    view.drained.visible = (view.overlay.visible || view.waiting.any RjActionEvent.shows) :=
  (HealingOverlay.foldl_handle _ _).2

theorem agrees_iff (view : PromptView) :
    view.Agrees ↔ view.pending = view.drained.prompt.toList ∧
      (view.pending ≠ [] → view.drained.visible = true) := by
  have nodup : view.pending.Nodup := view.ffi.pendingActions.keys_nodup
  constructor
  · rintro ⟨pending, prompted⟩
    constructor
    · cases prompt : view.drained.prompt with
      | none =>
          refine List.eq_nil_iff_forall_not_mem.mpr fun id member => ?_
          cases prompt.symm.trans (prompted id member).1
      | some id =>
          have only : ∀ other ∈ view.pending, other = id := by
            intro other member
            exact Option.some.inj ((prompted other member).1.symm.trans prompt)
          have member := pending id prompt
          cases keys : view.pending with
          | nil => simp [keys] at member
          | cons head rest =>
              rw [keys] at only nodup
              obtain ⟨rfl, others⟩ := List.forall_mem_cons.mp only
              have none_ : rest = [] := by
                refine List.eq_nil_iff_forall_not_mem.mpr fun other later => ?_
                exact (List.nodup_cons.mp nodup).1 (others other later ▸ later)
              rw [none_]
              rfl
    · intro some_
      obtain ⟨id, member⟩ := List.exists_mem_of_ne_nil _ some_
      exact (prompted id member).2
  · rintro ⟨same, visible⟩
    refine ⟨?_, ?_⟩
    · intro id prompt
      rw [same, prompt]
      exact List.mem_singleton.mpr rfl
    · intro id member
      refine ⟨?_, visible (List.ne_nil_of_mem member)⟩
      rw [same] at member
      exact Option.mem_toList.mp member

/-- The event that a push evicts leaves the prompt that the rest leads to. -/
def EvictionKeeps (view : PromptView) (prompt : Option UInt32) : Prop :=
  promptAfter view.overlay.prompt view.ffi.keptEvents = prompt

def KeepsAgreement (view : PromptView) : PromptAction → Prop
  | .enqueuePending action _ _ => ∀ id ∈ view.pending, id = action.id
  | .enqueueInfo _ _ => view.EvictionKeeps view.drained.prompt
  | .sweepExpiredPending =>
      ∀ id ∈ view.ffi.pendingActions.expiredIds view.ffi.clock,
        view.EvictionKeeps none ∨ view.EvictionKeeps (some id)
  | .setHealingMode mode =>
      mode ≤ 3 ∧ mode ≠ view.ffi.healingMode →
        ∀ id ∈ view.pending, view.EvictionKeeps none ∨ view.EvictionKeeps (some id)
  | .check =>
      ∀ id, view.overlay.prompt = some id → id ∈ view.pending →
        (view.ffi.actionQueue.items.length < 64 ↔ ∀ event ∈ view.waiting, event.asks ≠ true)
  | .reject =>
      ∀ id, view.overlay.prompt = some id → id ∈ view.pending → id ≠ 0 →
        ∀ event ∈ view.waiting, event.asks ≠ true
  | .undo => view.pending ≠ [] → ∃ event ∈ view.waiting, event.shows = true
  | .tick =>
      ∀ remaining, view.overlay.countdown = some remaining → remaining ≤ 1000 →
        view.pending ≠ [] → ∃ event ∈ view.waiting, event.shows = true
  | _ => True

theorem agrees_iff_after (view : PromptView) :
    view.Agrees ↔
      view.pending = (promptAfter view.overlay.prompt view.waiting).toList ∧
        (view.pending ≠ [] →
          (view.overlay.visible || view.waiting.any RjActionEvent.shows) = true) := by
  rw [agrees_iff, drained_prompt, drained_visible]

theorem agrees_congr {view next : PromptView} (pending : next.pending = view.pending)
    (waiting : next.waiting = view.waiting) (prompt : next.overlay.prompt = view.overlay.prompt)
    (visible : next.overlay.visible = view.overlay.visible) : next.Agrees ↔ view.Agrees := by
  rw [agrees_iff_after, agrees_iff_after, pending, waiting, prompt, visible]

theorem agrees_ffi {view : PromptView} {ffi : FfiState}
    (stored : ffi.pendingActions = view.ffi.pendingActions)
    (queue : ffi.uiEventQueue = view.ffi.uiEventQueue) :
    Agrees { view with ffi := ffi } ↔ view.Agrees :=
  agrees_congr (congrArg PendingStore.keys stored) (congrArg BoundedQueue.items queue) rfl rfl

theorem Agrees.pending_eq {view : PromptView} (agrees : view.Agrees) :
    view.pending = (promptAfter view.overlay.prompt view.waiting).toList :=
  ((agrees_iff_after view).mp agrees).1

theorem agrees_enqueuePending {view : PromptView} (idle : view.ffi.calls = [])
    (agrees : view.Agrees) (action : RjAction) (ruleId : String) (explanation : Explanation) :
    Agrees { view with ffi := (view.ffi.enqueuePending action ruleId explanation).finishCalls } ↔
      ∀ id ∈ view.pending, id = action.id := by
  obtain ⟨stored, queued, -⟩ :=
    FfiState.enqueuePending_finished idle action ruleId explanation
  have shown : (RjActionEvent.approvalEvent action explanation).shows = true := rfl
  rw [agrees_iff_after]
  simp only [waiting, queued, promptAfter_concat, promptStep_approvalEvent, List.any_append,
    List.any_cons, shown, Bool.true_or, Bool.or_true, implies_true, and_true, Option.toList_some]
  rw [pending, stored, PendingStore.keys_insert, List.cons.injEq, and_iff_right rfl]
  change view.pending.erase action.id = [] ↔ _
  rw [agrees.pending_eq]
  cases promptAfter view.overlay.prompt view.waiting with
  | none => simp
  | some id => by_cases same : id = action.id <;> simp [same]

theorem toList_eq_toList_iff {first second : Option UInt32} :
    first.toList = second.toList ↔ second = first := by
  cases first <;> cases second <;> simp [eq_comm]

theorem agrees_enqueueInfo {view : PromptView} (agrees : view.Agrees) (action : RjAction)
    (explanation : Explanation) :
    Agrees { view with ffi := view.ffi.enqueueUiEvent (.infoEvent action explanation) } ↔
      view.EvictionKeeps view.drained.prompt := by
  have queued := view.ffi.enqueueUiEvent_items (.infoEvent action explanation)
  have shown : (RjActionEvent.infoEvent action explanation).shows = true := rfl
  rw [agrees_iff_after, drained_prompt]
  simp only [waiting, queued, promptAfter_concat, promptStep_infoEvent, List.any_append,
    List.any_cons, shown, Bool.true_or, Bool.or_true, implies_true, and_true]
  change view.pending = _ ↔ _
  rw [agrees.pending_eq, toList_eq_toList_iff]
  rfl

/-- The only pending action leaves the store, and its event is queued. -/
theorem agrees_invalidated {view next : PromptView} {action : RjAction}
    (overlay : next.overlay = view.overlay) (emptied : next.pending = [])
    (queued : next.waiting = view.ffi.keptEvents ++ [.invalidatedEvent action]) :
    next.Agrees ↔ view.EvictionKeeps none ∨ view.EvictionKeeps (some action.id) := by
  rw [agrees_iff_after, overlay, emptied, queued, promptAfter_concat,
    promptStep_invalidatedEvent]
  unfold EvictionKeeps
  cases promptAfter view.overlay.prompt view.ffi.keptEvents with
  | none => simp
  | some id => by_cases same : id = action.id <;> simp [same]

theorem agrees_sweep {view : PromptView} (idle : view.ffi.calls = []) (agrees : view.Agrees) :
    Agrees { view with ffi := view.ffi.sweepExpiredPending.finishCalls } ↔
      ∀ id ∈ view.ffi.pendingActions.expiredIds view.ffi.clock,
        view.EvictionKeeps none ∨ view.EvictionKeeps (some id) := by
  obtain ⟨stored, -, unchanged, queued⟩ := FfiState.sweep_finished idle
  have sublist := view.ffi.pendingActions.expiredIds_sublist view.ffi.clock
  have keys := agrees.pending_eq
  change view.ffi.pendingActions.keys = _ at keys
  have whole : view.ffi.pendingActions.expiredIds view.ffi.clock = [] ∨
      ∃ id, view.ffi.pendingActions.expiredIds view.ffi.clock = [id] ∧
        view.ffi.pendingActions.keys = [id] := by
    cases prompt : promptAfter view.overlay.prompt view.waiting with
    | none =>
        rw [keys, prompt] at sublist
        exact .inl (List.sublist_nil.mp sublist)
    | some id =>
        rw [keys, prompt] at sublist
        rcases List.sublist_singleton.mp sublist with none_ | one
        · exact .inl none_
        · exact .inr ⟨id, one, keys.trans (by rw [prompt]; rfl)⟩
  rcases whole with none_ | ⟨id, one, only⟩
  · rw [none_] at stored unchanged ⊢
    rw [agrees_ffi stored (unchanged rfl)]
    exact ⟨fun _ => nofun, fun _ => agrees⟩
  · obtain ⟨entry, found⟩ :=
      PendingStore.mem_keys_iff.mp (show id ∈ view.ffi.pendingActions.keys by simp [only])
    rw [one] at stored queued ⊢
    rw [List.forall_mem_singleton, ← PendingStore.id_of_lookup found]
    refine agrees_invalidated rfl ?_ ?_
    · refine (congrArg PendingStore.keys stored).trans ?_
      change ((view.ffi.pendingActions.remove id).1).keys = []
      rw [PendingStore.keys_remove, only, List.erase_cons_head]
    · apply queued entry
      simp [PendingStore.removeAll, found]

theorem agrees_setHealingMode {view : PromptView} (idle : view.ffi.calls = [])
    (agrees : view.Agrees) (mode : UInt32) :
    Agrees { view with ffi := (view.ffi.rjSetHealingMode mode).1.finishCalls } ↔
      (mode ≤ 3 ∧ mode ≠ view.ffi.healingMode →
        ∀ id ∈ view.pending, view.EvictionKeeps none ∨ view.EvictionKeeps (some id)) := by
  obtain ⟨-, effect⟩ := FfiState.setHealingMode_finished idle mode
  by_cases clears : mode ≤ 3 ∧ mode ≠ view.ffi.healingMode
  · rw [if_pos clears] at effect
    obtain ⟨stored, unchanged, queued⟩ := effect
    rw [imp_iff_right clears]
    have ids : view.ffi.pendingActions.values.map (fun entry => entry.action.id) = view.pending :=
      view.ffi.pendingActions.values_ids
    rw [agrees.pending_eq] at ids ⊢
    cases prompt : promptAfter view.overlay.prompt view.waiting with
    | none =>
        rw [prompt] at ids
        have nothing := List.map_eq_nil_iff.mp ids
        have keys : view.pending = [] := by rw [agrees.pending_eq, prompt]; rfl
        have same : Agrees { view with
            ffi := (view.ffi.rjSetHealingMode mode).1.finishCalls } ↔ view.Agrees :=
          agrees_congr ((congrArg PendingStore.keys stored).trans keys.symm)
            (congrArg BoundedQueue.items (unchanged nothing)) rfl rfl
        rw [same]
        exact ⟨fun _ => nofun, fun _ => agrees⟩
    | some id =>
        rw [prompt] at ids
        obtain ⟨entry, one, own⟩ := List.map_eq_singleton_iff.mp ids
        rw [Option.toList_some, List.forall_mem_singleton, ← own]
        exact agrees_invalidated rfl (congrArg PendingStore.keys stored) (queued entry one)
  · rw [if_neg clears] at effect
    rw [agrees_ffi effect.1 effect.2]
    exact ⟨fun _ both => absurd both clears, fun _ => agrees⟩

/-- The prompt is closed, and the event that would open it again is still waiting or not. -/
theorem agrees_closed {view next : PromptView} {id : UInt32} (agrees : view.Agrees)
    (pending : id ∈ view.pending)
    (overlay : next.overlay = view.overlay.closePrompt) (queued : next.waiting = view.waiting) :
    (next.pending = [] → (next.Agrees ↔ ∀ event ∈ view.waiting, event.asks ≠ true)) ∧
      (next.pending = [id] → (next.Agrees ↔ ¬ ∀ event ∈ view.waiting, event.asks ≠ true)) := by
  have keys := agrees.pending_eq
  have prompt : promptAfter view.overlay.prompt view.waiting = some id := by
    rw [keys] at pending
    exact Option.mem_toList.mp pending
  have after := agrees_iff_after next
  rw [overlay, queued] at after
  change next.Agrees ↔ next.pending = (promptAfter none view.waiting).toList ∧ _ at after
  rw [after]
  by_cases asks : ∃ event ∈ view.waiting, event.asks = true
  · have later : promptAfter none view.waiting = some id :=
      (promptAfter_of_asks asks _ _).trans prompt
    obtain ⟨event, member, asking⟩ := asks
    have comes : (view.overlay.closePrompt.visible ||
        view.waiting.any RjActionEvent.shows) = true := by
      rw [Bool.or_eq_true_iff, List.any_eq_true]
      exact .inr ⟨event, member, (Bool.and_eq_true_iff.mp asking).1⟩
    have noisy : ¬ ∀ event ∈ view.waiting, event.asks ≠ true :=
      fun silent => silent event member asking
    rw [later]
    constructor
    · intro emptied
      rw [emptied]
      exact iff_of_false (fun both => nomatch both.1) noisy
    · intro kept
      exact iff_of_true ⟨kept, fun _ => comes⟩ noisy
  · have silent : ∀ event ∈ view.waiting, event.asks ≠ true := by
      intro event member asking
      exact asks ⟨event, member, asking⟩
    have closed : promptAfter none view.waiting = none := by
      rcases promptAfter_of_not_asks silent none with closed | closed <;> exact closed
    rw [closed]
    constructor
    · intro emptied
      exact iff_of_true ⟨emptied, fun some_ => absurd emptied some_⟩ silent
    · intro kept
      rw [kept]
      exact iff_of_false (fun both => nomatch both.1) (not_not.mpr silent)

theorem agrees_closed_stale {view next : PromptView} {id : UInt32} (agrees : view.Agrees)
    (shown : view.overlay.prompt = some id) (gone : id ∉ view.pending)
    (overlay : next.overlay = view.overlay.closePrompt) (queued : next.waiting = view.waiting)
    (same : next.pending = view.pending) : next.Agrees := by
  obtain ⟨keys, visible⟩ := (agrees_iff_after view).mp agrees
  rw [agrees_iff_after, overlay, queued, same]
  refine ⟨?_, visible⟩
  rw [keys, toList_eq_toList_iff]
  change promptAfter none view.waiting = _
  by_cases asks : ∃ event ∈ view.waiting, event.asks = true
  · exact promptAfter_of_asks asks _ _
  · have silent : ∀ event ∈ view.waiting, event.asks ≠ true := by
      intro event member asking
      exact asks ⟨event, member, asking⟩
    have closed : promptAfter none view.waiting = none := by
      rcases promptAfter_of_not_asks silent none with closed | closed <;> exact closed
    rw [closed]
    rcases promptAfter_of_not_asks silent view.overlay.prompt with none_ | kept
    · exact none_.symm
    · rw [keys, kept, shown] at gone
      exact absurd (List.mem_singleton.mpr rfl) gone

theorem Agrees.only {view : PromptView} {id : UInt32} (agrees : view.Agrees)
    (pending : id ∈ view.pending) : view.pending = [id] := by
  have whole := agrees.pending_eq
  rw [whole] at pending
  rw [whole, Option.mem_toList.mp pending]
  rfl

theorem agrees_check {view : PromptView} {id : UInt32} (idle : view.ffi.calls = [])
    (agrees : view.Agrees) (shown : view.overlay.prompt = some id) :
    (view.check id).Agrees ↔
      (id ∈ view.pending → (view.ffi.actionQueue.items.length < 64 ↔
        ∀ event ∈ view.waiting, event.asks ≠ true)) := by
  obtain ⟨-, queue, keys⟩ := FfiState.rjActionApprove_finished idle id
  have queued : (view.check id).waiting = view.waiting := congrArg BoundedQueue.items queue
  change (view.check id).pending = if id ∈ view.pending then _ else view.pending at keys
  by_cases pending : id ∈ view.pending
  · have only := agrees.only pending
    obtain ⟨emptied, kept⟩ := agrees_closed agrees pending rfl queued
    rw [if_pos pending] at keys
    rw [imp_iff_right pending]
    change (view.check id).pending = if _ then view.pending.erase id
      else id :: (view.pending.erase id).erase id at keys
    rw [only, List.erase_cons_head, List.erase_nil] at keys
    by_cases room : view.ffi.actionQueue.items.length < 64
    · rw [if_pos room] at keys
      rw [emptied keys, iff_true_left room]
    · rw [if_neg room] at keys
      rw [kept keys, iff_false_left room]
  · rw [if_neg pending] at keys
    exact iff_of_true (agrees_closed_stale agrees shown pending rfl queued keys)
      fun member => absurd member pending

theorem agrees_reject {view : PromptView} {id : UInt32} (idle : view.ffi.calls = [])
    (agrees : view.Agrees) (shown : view.overlay.prompt = some id) :
    (view.reject id).Agrees ↔
      (id ∈ view.pending → id ≠ 0 → ∀ event ∈ view.waiting, event.asks ≠ true) := by
  unfold reject
  by_cases zero : id = 0
  · rw [if_pos zero]
    exact iff_of_true agrees fun _ positive => absurd zero positive
  · rw [if_neg zero]
    obtain ⟨-, queue, keys⟩ := FfiState.rjActionReject_finished idle id
    have queued : waiting ⟨(view.ffi.rjActionReject id).1.finishCalls,
        view.overlay.closePrompt⟩ = view.waiting := congrArg BoundedQueue.items queue
    change _ = view.pending.erase id at keys
    by_cases pending : id ∈ view.pending
    · rw [agrees.only pending, List.erase_cons_head] at keys
      rw [imp_iff_right pending, imp_iff_right zero]
      exact (agrees_closed agrees pending rfl queued).1 keys
    · rw [List.erase_of_not_mem pending] at keys
      exact iff_of_true (agrees_closed_stale agrees shown pending rfl queued keys)
        fun member => absurd member pending

theorem agrees_poll (view : PromptView) : view.poll.Agrees ↔ view.Agrees := by
  unfold poll FfiState.rjActionEventDequeue
  cases popped : view.ffi.uiEventQueue.pop with
  | none => rfl
  | some pair =>
      obtain ⟨event, rest⟩ := pair
      have items := BoundedQueue.pop_eq_some_iff.mp popped
      rw [agrees_iff_after, agrees_iff_after]
      simp only [pending, waiting, items, HealingOverlay.handle_prompt,
        HealingOverlay.handle_visible, List.any_cons, Bool.or_assoc]
      rfl

theorem agrees_hidden {view next : PromptView} (agrees : view.Agrees)
    (hidden : next.overlay.visible = false) (prompt : next.overlay.prompt = view.overlay.prompt)
    (same : next.ffi = view.ffi) :
    next.Agrees ↔ (view.pending ≠ [] → ∃ event ∈ view.waiting, event.shows = true) := by
  have stored : next.pending = view.pending := by rw [pending, pending, same]
  have queued : next.waiting = view.waiting := by rw [waiting, waiting, same]
  rw [agrees_iff_after, hidden, prompt, stored, queued, Bool.false_or, List.any_eq_true]
  exact and_iff_right agrees.pending_eq

theorem agrees_tick {view : PromptView} (agrees : view.Agrees) (remaining : Nat) :
    Agrees { view with overlay := view.overlay.onTick remaining } ↔
      (remaining ≤ 1000 → view.pending ≠ [] → ∃ event ∈ view.waiting, event.shows = true) := by
  unfold HealingOverlay.onTick
  by_cases last : remaining ≤ 1000
  · rw [if_pos last, imp_iff_right last]
    apply agrees_hidden agrees <;> rfl
  · rw [if_neg last]
    have same : Agrees { view with
        overlay := { view.overlay with countdown := some (remaining - 1000) } } ↔ view.Agrees :=
      agrees_congr rfl rfl rfl rfl
    rw [same]
    exact iff_of_true agrees fun early => absurd early last

theorem agrees_showMessage {view : PromptView} (agrees : view.Agrees) (timeoutMs : Nat) :
    Agrees { view with overlay := view.overlay.showMessage timeoutMs } := by
  rw [agrees_iff_after]
  exact ⟨agrees.pending_eq, fun _ => rfl⟩

theorem step_idle {view next : PromptView} {action : PromptAction} (idle : view.ffi.calls = [])
    (stepped : step view action = some next) : next.ffi.calls = [] := by
  cases action <;> simp only [step] at stepped
  case enqueuePending action ruleId explanation =>
    cases stepped
    exact (FfiState.enqueuePending_finished idle action ruleId explanation).2.2
  case sweepExpiredPending =>
    cases stepped
    exact (FfiState.sweep_finished idle).2.1
  case setHealingMode mode =>
    cases stepped
    exact (FfiState.setHealingMode_finished idle mode).1
  case enqueueInfo action explanation =>
    cases stepped
    exact idle
  case enqueueAction action =>
    cases stepped
    unfold FfiState.enqueueAction
    split <;> exact idle
  case dequeueAction =>
    cases stepped
    unfold FfiState.rjActionDequeue
    split <;> exact idle
  case elapse nanos =>
    cases stepped
    exact idle
  case poll =>
    cases stepped
    unfold poll FfiState.rjActionEventDequeue
    cases view.ffi.uiEventQueue.pop <;> exact idle
  case check =>
    split at stepped <;> cases stepped
    exact (FfiState.rjActionApprove_finished idle _).1
  case reject =>
    split at stepped <;> cases stepped
    unfold reject
    split
    next => exact idle
    next => exact (FfiState.rjActionReject_finished idle _).1
  case undo =>
    split at stepped <;> cases stepped
    exact idle
  case showMessage timeoutMs =>
    cases stepped
    exact idle
  case tick =>
    obtain ⟨remaining, _, rfl⟩ := Option.map_eq_some_iff.mp stepped
    exact idle

theorem step_agrees {view next : PromptView} {action : PromptAction} (idle : view.ffi.calls = [])
    (agrees : view.Agrees) (stepped : step view action = some next) :
    next.Agrees ↔ view.KeepsAgreement action := by
  cases action <;> simp only [step] at stepped
  case enqueuePending action ruleId explanation =>
    cases stepped
    exact agrees_enqueuePending idle agrees action ruleId explanation
  case enqueueInfo action explanation =>
    cases stepped
    exact agrees_enqueueInfo agrees action explanation
  case sweepExpiredPending =>
    cases stepped
    exact agrees_sweep idle agrees
  case setHealingMode mode =>
    cases stepped
    exact agrees_setHealingMode idle agrees mode
  case enqueueAction action =>
    cases stepped
    refine iff_of_true ((agrees_ffi ?_ ?_).mpr agrees) trivial <;>
      unfold FfiState.enqueueAction <;> split <;> rfl
  case dequeueAction =>
    cases stepped
    refine iff_of_true ((agrees_ffi ?_ ?_).mpr agrees) trivial <;>
      unfold FfiState.rjActionDequeue <;> split <;> rfl
  case elapse nanos =>
    cases stepped
    refine iff_of_true ((agrees_ffi ?_ ?_).mpr agrees) trivial <;> rfl
  case poll =>
    cases stepped
    exact iff_of_true ((agrees_poll view).mpr agrees) trivial
  case check =>
    split at stepped <;> cases stepped
    next id countdown overlay =>
      have shown : view.overlay.prompt = some id := by rw [overlay]
      simp only [agrees_check idle agrees shown, KeepsAgreement, shown, Option.some.injEq,
        forall_eq']
  case reject =>
    split at stepped <;> cases stepped
    next id countdown overlay =>
      have shown : view.overlay.prompt = some id := by rw [overlay]
      simp only [agrees_reject idle agrees shown, KeepsAgreement, shown, Option.some.injEq,
        forall_eq']
  case undo =>
    split at stepped <;> cases stepped
    apply agrees_hidden agrees <;> rfl
  case showMessage timeoutMs =>
    cases stepped
    exact iff_of_true (agrees_showMessage agrees timeoutMs) trivial
  case tick =>
    obtain ⟨remaining, running, rfl⟩ := Option.map_eq_some_iff.mp stepped
    simp only [agrees_tick agrees, KeepsAgreement, running, Option.some.injEq, forall_eq']

/-! ## Runs -/

theorem agrees_start (mode : UInt32) (ruleEngineLoaded : Bool) (clock : Nat) :
    (start mode ruleEngineLoaded clock).Agrees :=
  ⟨nofun, nofun⟩

/-- In every run, the prompt and the store agree after every step exactly if every step keeps
their agreement. -/
theorem agrees_throughout_iff {mode : UInt32} {ruleEngineLoaded : Bool} {clock : Nat}
    {actions : List PromptAction} {finish : PromptView}
    (executed : Machine.exec step (start mode ruleEngineLoaded clock) actions = some finish) :
    Machine.Along step (fun view action => ∀ next, step view action = some next → next.Agrees)
        (start mode ruleEngineLoaded clock) actions ↔
      Machine.Along step KeepsAgreement (start mode ruleEngineLoaded clock) actions := by
  have advances : ∀ view action next, view.ffi.calls = [] → view.Agrees →
      step view action = some next →
      next.ffi.calls = [] ∧ (next.Agrees ↔ view.KeepsAgreement action) := by
    intro view action next idle agrees stepped
    exact ⟨step_idle idle stepped, step_agrees idle agrees stepped⟩
  exact Machine.along_after_iff advances rfl (agrees_start mode ruleEngineLoaded clock) executed

def bitrateAction (id : UInt32) : RjAction := ⟨id, .bitrateReduce, 2500, 0, 0⟩

def approvalRun : List PromptAction :=
  [.enqueuePending (bitrateAction 1) "bitrate" .none, .poll, .check]

theorem agrees_throughout_iff_approvalRun :
    ∃ view, Machine.exec step (start 1 true 0) approvalRun = some view ∧
      (Machine.Along step (fun view action => ∀ next, step view action = some next → next.Agrees)
          (start 1 true 0) approvalRun ↔
        Machine.Along step KeepsAgreement (start 1 true 0) approvalRun) :=
  ⟨_, rfl, agrees_throughout_iff rfl⟩

/-- An approval that finds the action queue full closes the prompt of an action that stays
pending, and the second of two pending actions takes the prompt of the first. -/
theorem prompt_lost :
    (∃ view, Machine.exec step (start 1 true 0)
        (List.replicate 64 (.enqueueAction (bitrateAction 2)) ++ approvalRun) = some view ∧
      view.waiting = [] ∧ view.pending = [1] ∧ view.overlay.prompt = none ∧ ¬ view.Agrees) ∧
    ∃ view, Machine.exec step (start 1 true 0)
        [.enqueuePending (bitrateAction 1) "bitrate" .none, .poll,
          .enqueuePending (bitrateAction 2) "bitrate" .none, .poll] = some view ∧
      view.waiting = [] ∧ view.pending = [2, 1] ∧ view.overlay.prompt = some 2 ∧
        ¬ view.Agrees := by
  have crowded : (Machine.exec step (start 1 true 0)
      (List.replicate 64 (.enqueueAction (bitrateAction 2)) ++ approvalRun)).map
        (fun view => (view.waiting, view.pending, view.overlay.prompt)) =
      some ([], [1], none) := by
    decide +kernel
  have replaced : (Machine.exec step (start 1 true 0)
      [.enqueuePending (bitrateAction 1) "bitrate" .none, .poll,
        .enqueuePending (bitrateAction 2) "bitrate" .none, .poll]).map
        (fun view => (view.waiting, view.pending, view.overlay.prompt)) =
      some ([], [2, 1], some 2) := by
    decide +kernel
  obtain ⟨first, firstExecuted, firstFields⟩ := Option.map_eq_some_iff.mp crowded
  obtain ⟨second, secondExecuted, secondFields⟩ := Option.map_eq_some_iff.mp replaced
  simp only [Prod.mk.injEq] at firstFields secondFields
  obtain ⟨firstWaiting, firstPending, firstPrompt⟩ := firstFields
  obtain ⟨secondWaiting, secondPending, secondPrompt⟩ := secondFields
  refine ⟨⟨first, firstExecuted, firstWaiting, firstPending, firstPrompt, ?_⟩,
    second, secondExecuted, secondWaiting, secondPending, secondPrompt, ?_⟩
  · intro agrees
    have shown := (agrees.prompted 1 (by simp [firstPending])).1
    rw [drained, firstWaiting, List.foldl_nil, firstPrompt] at shown
    cases shown
  · intro agrees
    have shown := (agrees.prompted 1 (by simp [secondPending])).1
    rw [drained, secondWaiting, List.foldl_nil, secondPrompt] at shown
    cases shown

end PromptView

end RejiStudio.Orchestrator
