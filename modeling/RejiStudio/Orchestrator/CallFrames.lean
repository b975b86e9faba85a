import Mathlib.Data.List.Induction
import RejiStudio.Orchestrator.Threads

/-!
# What leaves the mode and the pending store alone

`rj_set_healing_mode` swaps the mode and then clears the store.  Every other call
keeps the mode, the calls that set it and the rules of the stored entries; only the
routing of the monitor task stores an action.
-/

namespace RejiStudio.Orchestrator

open RejiStudio.Lib

/-- The mode that a call of `rj_set_healing_mode` in flight has set. -/
def Call.settingMode : Call → Option UInt32
  | .sweepExpiredPending _ => none
  | .clearPendingOnModeChange mode => some mode
  | .notify notices =>
      match notices.getLast? with
      | some (.emitModeChanged mode) => some mode
      | _ => none

/-- The call has swapped the mode and not cleared the store yet. -/
def Call.isClear : Call → Bool
  | .clearPendingOnModeChange _ => true
  | _ => false

namespace FfiState

/-- The calls of `rj_set_healing_mode` that have not returned. -/
def settingModes (state : FfiState) : List UInt32 := state.calls.filterMap Call.settingMode

def clearing (state : FfiState) : Bool := state.calls.any Call.isClear

/-- The mode and its calls stay, and the entries of the store were there before. -/
structure Keeps (before after : FfiState) : Prop where
  healingMode : after.healingMode = before.healingMode
  settingModes : after.settingModes = before.settingModes
  clearing : after.clearing = before.clearing
  inherited : ∀ id entry, after.pendingActions.lookup id = some entry →
    ∃ earlier, before.pendingActions.lookup id = some earlier ∧ earlier.ruleId = entry.ruleId

theorem Keeps.of_eq {before after : FfiState} (healingMode : after.healingMode = before.healingMode)
    (calls : after.calls = before.calls) (pending : after.pendingActions = before.pendingActions) :
    before.Keeps after where
  healingMode := healingMode
  settingModes := congrArg (List.filterMap Call.settingMode) calls
  clearing := congrArg (List.any · Call.isClear) calls
  inherited := fun _ entry found => ⟨entry, pending ▸ found, rfl⟩

theorem Keeps.refl (state : FfiState) : state.Keeps state := .of_eq rfl rfl rfl

theorem Keeps.empty {before after : FfiState} (kept : before.Keeps after)
    (empty : before.pendingActions.keys = []) : after.pendingActions.keys = [] := by
  rw [List.eq_nil_iff_forall_not_mem]
  intro id member
  obtain ⟨entry, found⟩ := PendingStore.mem_keys_iff.mp member
  obtain ⟨earlier, present, _⟩ := kept.inherited id entry found
  have stored := PendingStore.mem_keys_iff.mpr ⟨earlier, present⟩
  rw [empty] at stored
  cases stored

theorem settingModes_continueWith (state : FfiState) (call : Call) :
    (state.continueWith call).settingModes = state.settingModes ++ call.settingMode.toList := by
  cases mode : call.settingMode <;> simp [settingModes, FfiState.continueWith, mode]

theorem clearing_continueWith (state : FfiState) (call : Call) :
    (state.continueWith call).clearing = (state.clearing || call.isClear) := by
  simp [clearing, FfiState.continueWith]

/-- A call that has nothing to do with the mode joins the calls in flight. -/
theorem Keeps.continueWith {before after : FfiState} (kept : before.Keeps after) {call : Call}
    (noMode : call.settingMode = none) (noClear : call.isClear = false) :
    before.Keeps (after.continueWith call) where
  healingMode := kept.healingMode
  settingModes := by
    rw [settingModes_continueWith, noMode, kept.settingModes]
    exact List.append_nil _
  clearing := by
    rw [clearing_continueWith, noClear, kept.clearing]
    exact Bool.or_false _
  inherited := kept.inherited

theorem keeps_perform (state : FfiState) (notice : Notice) :
    state.Keeps (state.perform notice) := by
  cases notice with
  | applyCooldown ruleId =>
      by_cases loaded : state.ruleEngineLoaded = true <;>
        simp only [perform, applyCooldown, loaded] <;> exact .of_eq rfl rfl rfl
  | enqueueUiEvent event => exact .of_eq rfl rfl rfl
  | emitHealingEvent event => exact .of_eq rfl rfl rfl
  | logActionOutcome action ruleId outcome => exact .of_eq rfl rfl rfl
  | emitModeChanged mode => exact .of_eq rfl rfl rfl

theorem keeps_enqueueAction (state : FfiState) (action : RjAction) :
    state.Keeps (state.enqueueAction action).1 := by
  unfold enqueueAction
  split <;> exact .of_eq rfl rfl rfl

theorem keeps_rjActionApprove (state : FfiState) (id : UInt32) :
    state.Keeps (state.rjActionApprove id).1 := by
  unfold rjActionApprove
  cases found : state.pendingActions.lookup id with
  | none =>
      simp only [PendingStore.remove, found]
      exact Keeps.refl state
  | some entry =>
      simp only [PendingStore.remove, found]
      split
      · exact ⟨rfl, rfl, rfl, fun _ other present =>
          ⟨other, PendingStore.lookup_of_lookup_remove present, rfl⟩⟩
      · refine ⟨rfl, rfl, rfl, ?_⟩
        intro otherId other present
        rcases PendingStore.lookup_insert_cases present with ⟨rfl, rfl⟩ | ⟨_, kept⟩
        · refine ⟨entry, ?_, rfl⟩
          rw [PendingStore.id_of_lookup found]
          exact found
        · exact ⟨other, PendingStore.lookup_of_lookup_remove kept, rfl⟩

theorem keeps_rjActionReject (state : FfiState) (id : UInt32) :
    state.Keeps (state.rjActionReject id).1 := by
  unfold rjActionReject
  cases found : state.pendingActions.lookup id with
  | none =>
      simp only [PendingStore.remove, found]
      exact Keeps.refl state
  | some entry =>
      simp only [PendingStore.remove, found]
      apply Keeps.continueWith
      · exact ⟨rfl, rfl, rfl, fun _ other present =>
          ⟨other, PendingStore.lookup_of_lookup_remove present, rfl⟩⟩
      · rfl
      · rfl

theorem keeps_sweepSection (state : FfiState) (now : Nat) :
    state.Keeps (state.sweepSection now).1 where
  healingMode := rfl
  settingModes := rfl
  clearing := rfl
  inherited := fun _ entry found =>
    ⟨entry, PendingStore.lookup_of_lookup_removeAll found, rfl⟩

theorem keeps_rjActionDequeue (state : FfiState) : state.Keeps state.rjActionDequeue.1 := by
  unfold rjActionDequeue
  split <;> exact .of_eq rfl rfl rfl

theorem keeps_rjActionEventDequeue (state : FfiState) :
    state.Keeps state.rjActionEventDequeue.1 := by
  unfold rjActionEventDequeue
  split <;> exact .of_eq rfl rfl rfl

/-! ## Calls in flight -/

theorem not_clearing_of_settingModes_nil {calls : List Call}
    (none_ : calls.filterMap Call.settingMode = []) : calls.any Call.isClear = false := by
  rw [List.any_eq_false]
  intro call member clear
  have unset := List.filterMap_eq_nil_iff.mp none_ call member
  cases call with
  | sweepExpiredPending now => cases clear
  | clearPendingOnModeChange mode => cases unset
  | notify notices => cases clear

theorem settingMode_invalidationNotices (entries : List PendingEntry) :
    (Call.notify (invalidationNotices entries)).settingMode = none := by
  induction entries using List.reverseRecOn with
  | nil => rfl
  | append_singleton entries entry inductionHypothesis =>
      simp [Call.settingMode, invalidationNotices]

theorem settingMode_clearNotices (entries : List PendingEntry) (mode : UInt32) :
    (Call.notify (invalidationNotices entries ++ [.emitModeChanged mode])).settingMode =
      some mode := by
  simp [Call.settingMode]

theorem split_calls {calls : List Call} {index : Nat} {call : Call}
    (found : calls[index]? = some call) :
    ∃ left right, calls = left ++ call :: right ∧
      (∀ next, calls.set index next = left ++ next :: right) ∧
      calls.eraseIdx index = left ++ right := by
  obtain ⟨bound, rfl⟩ := List.getElem?_eq_some_iff.mp found
  refine ⟨calls.take index, calls.drop (index + 1), ?_, ?_, List.eraseIdx_eq_take_drop_succ _ _⟩
  · rw [List.getElem_cons_drop, List.take_append_drop]
  · intro next
    rw [List.set_eq_take_append_cons_drop, if_pos bound]

/-- A call that moves on keeps the modes being set if it keeps its own. -/
theorem settingModes_set {calls : List Call} {index : Nat} {call next : Call}
    (found : calls[index]? = some call) (same : next.settingMode = call.settingMode) :
    (calls.set index next).filterMap Call.settingMode = calls.filterMap Call.settingMode := by
  obtain ⟨left, right, started, set, -⟩ := split_calls found
  rw [set, started]
  simp only [List.filterMap_append, List.filterMap_cons, same]

theorem Keeps.setCall {state middle : FfiState} (kept : state.Keeps middle) {index : Nat}
    {call next : Call} (found : state.calls[index]? = some call)
    (settingMode : next.settingMode = call.settingMode) (isClear : next.isClear = call.isClear) :
    state.Keeps { middle with calls := state.calls.set index next } where
  healingMode := kept.healingMode
  inherited := kept.inherited
  settingModes := settingModes_set found settingMode
  clearing := by
    obtain ⟨left, right, started, set, -⟩ := split_calls found
    simp only [FfiState.clearing, set]
    rw [started]
    simp only [List.any_append, List.any_cons, isClear]

theorem keeps_eraseCall {state : FfiState} {index : Nat} {call : Call}
    (found : state.calls[index]? = some call)
    (noMode : call.settingMode = none) (noClear : call.isClear = false) :
    state.Keeps { state with calls := state.calls.eraseIdx index } := by
  obtain ⟨left, right, started, -, erased⟩ := split_calls found
  refine ⟨rfl, ?_, ?_, fun _ entry present => ⟨entry, present, rfl⟩⟩
  · simp only [settingModes, erased]
    simp [started, noMode]
  · simp only [clearing, erased]
    simp [started, noClear]

/-- The mode is refused, set already, or swapped with the store still to be cleared. -/
theorem rjSetHealingMode_cases (state : FfiState) (mode : UInt32) :
    (mode > 3 ∧ (state.rjSetHealingMode mode).1 = state) ∨
    (state.healingMode = mode ∧ (state.rjSetHealingMode mode).1 = state) ∨
    (state.healingMode ≠ mode ∧ (state.rjSetHealingMode mode).1 =
      ({ state with healingMode := mode }).continueWith (.clearPendingOnModeChange mode)) := by
  unfold rjSetHealingMode
  by_cases unknown : mode > 3
  · exact .inl ⟨unknown, by simp [unknown]⟩
  · by_cases same : state.healingMode = mode
    · subst same
      exact .inr (.inl ⟨rfl, by simp [unknown]⟩)
    · exact .inr (.inr ⟨same, by simp [unknown, same]⟩)

/-- The mode with which the next piece of a call makes `rj_set_healing_mode` return. -/
def returningMode (state : FfiState) (index : Nat) : Option UInt32 :=
  match state.calls[index]? with
  | some (.notify [.emitModeChanged mode]) => some mode
  | _ => none

/-- A piece of a call keeps the mode and its calls, clears the store, or is the
last piece of `rj_set_healing_mode`. -/
theorem resume_cases {state next : FfiState} {index : Nat} {entries : List PendingEntry}
    (resumed : state.resume index = some (next, entries)) :
    (state.returningMode index = none ∧ state.Keeps next) ∨
    (state.returningMode index = none ∧ next.healingMode = state.healingMode ∧
      next.settingModes = state.settingModes ∧ next.pendingActions.keys = []) ∨
    (∃ mode left right, state.returningMode index = some mode ∧
      next.healingMode = state.healingMode ∧ next.pendingActions = state.pendingActions ∧
      state.calls = left ++ .notify [.emitModeChanged mode] :: right ∧
      next.calls = left ++ .notify [] :: right) := by
  unfold resume at resumed
  split at resumed
  next => cases resumed
  next now found =>
    cases resumed
    refine .inl ⟨by simp [returningMode, found], ?_⟩
    apply (keeps_sweepSection state now).setCall found
    · exact settingMode_invalidationNotices _
    · rfl
  next mode found =>
    cases resumed
    refine .inr (.inl ⟨by simp [returningMode, found], rfl, ?_, rfl⟩)
    exact settingModes_set found (settingMode_clearNotices _ mode)
  next notice rest found =>
    cases resumed
    cases rest with
    | cons second rest =>
        refine .inl ⟨by simp [returningMode, found], ?_⟩
        apply (keeps_perform state notice).setCall found
        · simp only [Call.settingMode, List.getLast?_cons_cons]
        · rfl
    | nil =>
        by_cases emits : ∃ mode, notice = .emitModeChanged mode
        · obtain ⟨mode, rfl⟩ := emits
          obtain ⟨left, right, started, set, -⟩ := split_calls found
          refine .inr (.inr ⟨mode, left, right, ?_, rfl, rfl, started, set _⟩)
          simp [returningMode, found]
        · have silent : (Call.notify [notice]).settingMode = none ∧
              state.returningMode index = none := by
            cases notice <;> simp_all [Call.settingMode, returningMode]
          refine .inl ⟨silent.2, (keeps_perform state notice).setCall found ?_ rfl⟩
          exact silent.1.symm
  next found =>
    cases resumed
    exact .inl ⟨by simp [returningMode, found], keeps_eraseCall found rfl rfl⟩

end FfiState

namespace Threads

/-- The action that the next piece of the monitor task stores for approval. -/
def storedNext (state : Threads) : Option RoutedAction :=
  match state.phase with
  | .routing mode (routed :: _) =>
      if requiresApproval mode
          (categoryAutoApprove state.actionAutoApprove routed.rj.actionType) = true then
        some routed
      else none
  | _ => none

theorem keeps_route {state : Threads} {mode : HealingMode} {routed : RoutedAction}
    (automatic : requiresApproval mode
      (categoryAutoApprove state.actionAutoApprove routed.rj.actionType) = false) :
    state.ffi.Keeps (state.route mode routed).ffi := by
  have queued := FfiState.keeps_enqueueAction
    (state.ffi.enqueueUiEvent (.infoEvent routed.rj routed.explanation)) routed.rj
  simp only [route, automatic, Bool.false_eq_true, if_false]
  exact ⟨queued.healingMode, queued.settingModes, queued.clearing, queued.inherited⟩

/-- A routed action leaves the mode and its calls alone, also when it is stored. -/
theorem route_mode (state : Threads) (mode : HealingMode) (routed : RoutedAction) :
    (state.route mode routed).ffi.healingMode = state.ffi.healingMode ∧
      (state.route mode routed).ffi.settingModes = state.ffi.settingModes ∧
      (state.route mode routed).ffi.clearing = state.ffi.clearing := by
  cases approval : requiresApproval mode
      (categoryAutoApprove state.actionAutoApprove routed.rj.actionType) with
  | false =>
      have kept := keeps_route approval
      exact ⟨kept.healingMode, kept.settingModes, kept.clearing⟩
  | true =>
      simp only [route, approval, if_true, FfiState.enqueuePending,
        FfiState.settingModes_continueWith, FfiState.clearing_continueWith]
      exact ⟨rfl, List.append_nil _, Bool.or_false _⟩

theorem keeps_advance {state next : Threads} (advanced : state.advance = some next)
    (silent : state.storedNext = none) : state.ffi.Keeps next.ffi := by
  rcases advance_ffi advanced with same | ⟨now, _, same⟩ | ⟨notice, rest, _, same⟩ |
    ⟨mode, routed, rest, routing, rfl⟩
  · rw [same]
    exact FfiState.Keeps.refl state.ffi
  · rw [same]
    exact FfiState.keeps_sweepSection state.ffi now
  · rw [same]
    exact FfiState.keeps_perform state.ffi notice
  · apply keeps_route
    simpa [storedNext, routing] using silent

theorem advance_mode {state next : Threads} (advanced : state.advance = some next) :
    next.ffi.healingMode = state.ffi.healingMode ∧
      next.ffi.settingModes = state.ffi.settingModes ∧
      next.ffi.clearing = state.ffi.clearing := by
  rcases advance_ffi advanced with same | ⟨now, _, same⟩ | ⟨notice, rest, _, same⟩ |
    ⟨mode, routed, rest, _, rfl⟩
  · rw [same]
    exact ⟨rfl, rfl, rfl⟩
  · rw [same]
    exact ⟨rfl, rfl, rfl⟩
  · have kept := FfiState.keeps_perform state.ffi notice
    rw [same]
    exact ⟨kept.healingMode, kept.settingModes, kept.clearing⟩
  · exact state.route_mode mode routed

/-- The action that is stored goes under its id; the other entries stay. -/
theorem advance_of_storedNext {state next : Threads} {routed : RoutedAction}
    (advanced : state.advance = some next) (stored : state.storedNext = some routed) :
    next.ffi.pendingActions = state.ffi.pendingActions.insert
      ⟨routed.rj, routed.ruleId, state.ffi.clock⟩ := by
  unfold storedNext at stored
  split at stored
  next mode head rest routing =>
    obtain ⟨approval, same⟩ := Option.ite_none_right_eq_some.mp stored
    cases same
    simp only [advance, routing, Option.some.injEq] at advanced
    cases advanced
    simp only [route, approval, if_true]
    rfl
  next => cases stored

/-- Apart from the monitor task, the calls in flight and a new mode, a step keeps the mode
and stores nothing. -/
theorem keeps_step {state next : Threads} {action : ThreadAction}
    (stepped : state.step action = some next) (notAdvance : action ≠ .advance)
    (notResume : ∀ index, action ≠ .resume index)
    (notSet : ∀ mode, action ≠ .setHealingMode mode) : state.ffi.Keeps next.ffi := by
  have moved := step_ffi stepped notAdvance
  generalize next.ffi = after at moved ⊢
  cases moved with
  | same => exact FfiState.Keeps.refl _
  | reloaded | elapsed => exact .of_eq rfl rfl rfl
  | approved id => exact FfiState.keeps_rjActionApprove _ id
  | rejected id => exact FfiState.keeps_rjActionReject _ id
  | dequeued => exact FfiState.keeps_rjActionDequeue _
  | eventDequeued => exact FfiState.keeps_rjActionEventDequeue _
  | modeSet mode => exact absurd rfl (notSet mode)
  | resumed index => exact absurd rfl (notResume index)

/-- Apart from the monitor task, the entries of the store were there before. -/
theorem step_inherited {state next : Threads} {action : ThreadAction}
    (stepped : state.step action = some next) (other : action ≠ .advance) {id : UInt32}
    {entry : PendingEntry} (found : next.ffi.pendingActions.lookup id = some entry) :
    ∃ earlier, state.ffi.pendingActions.lookup id = some earlier ∧
      earlier.ruleId = entry.ruleId := by
  cases action with
  | resume index =>
      obtain ⟨⟨ffi, entries⟩, resumed, rfl⟩ := Option.map_eq_some_iff.mp stepped
      rcases FfiState.resume_cases resumed with ⟨_, kept⟩ | ⟨_, _, _, empty⟩ |
        ⟨_, _, _, _, _, pending, _⟩
      · exact kept.inherited _ entry found
      · have member := PendingStore.mem_keys_iff.mpr ⟨entry, found⟩
        rw [empty] at member
        cases member
      · rw [pending] at found
        exact ⟨entry, found, rfl⟩
  | setHealingMode mode =>
      cases stepped
      rw [(state.ffi.rjSetHealingMode_stores mode).1] at found
      exact ⟨entry, found, rfl⟩
  | _ => exact (keeps_step stepped other nofun nofun).inherited _ entry found

theorem step_healingMode {state next : Threads} {action : ThreadAction}
    (stepped : state.step action = some next) (other : ∀ mode, action ≠ .setHealingMode mode) :
    next.ffi.healingMode = state.ffi.healingMode := by
  cases action with
  | advance => exact (advance_mode stepped).1
  | resume index =>
      obtain ⟨⟨ffi, entries⟩, resumed, rfl⟩ := Option.map_eq_some_iff.mp stepped
      rcases FfiState.resume_cases resumed with ⟨_, kept⟩ | ⟨_, same, _⟩ | ⟨_, _, _, _, same, _⟩
      · exact kept.healingMode
      · exact same
      · exact same
  | _ => exact (keeps_step stepped nofun nofun other).healingMode

end Threads

end RejiStudio.Orchestrator
