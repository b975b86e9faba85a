import RejiStudio.Lib.Broadcast
import RejiStudio.Lib.Machine
import RejiStudio.Orchestrator.Monitor
import RejiStudio.Orchestrator.PendingActions

/-!
# The threads of the orchestrator

The monitor task moves in small steps and keeps between them what it has read, so
the calls of the user interface can come at any point of a tick.  The rule engine
is behind a mutex: an evaluation, a cooldown, an installed threshold and a reload
are one step each.
-/

namespace RejiStudio.Orchestrator

open RejiStudio.Lib

/-- Where the monitor task is.  From `calibrating` on it works with the mode that
it read at the start of the tick. -/
inductive MonitorPhase where
  | selecting
  | handlingSystem (event : SystemEvent)
  | handlingMedia (event : MediaEvent)
  | sweeping (now : Nat)
  | notifying (notices : List Notice)
  | calibrating (mode : HealingMode)
  | predicting (mode : HealingMode)
  | adapting (mode : HealingMode)
  | evaluating (mode : HealingMode)
  | routing (mode : HealingMode) (actions : List RoutedAction)
  deriving DecidableEq

def MonitorPhase.mode : MonitorPhase → Option HealingMode
  | .calibrating mode | .predicting mode | .adapting mode | .evaluating mode
  | .routing mode _ => some mode
  | _ => none

structure Threads where
  ffi : FfiState
  ruleEngine : Option RuleEngine
  monitor : HealingMonitor
  phase : MonitorPhase
  healing : Broadcast HealingEvent 64
  actionAutoApprove : UInt32
  currentBitrateKbps : UInt32
  originalBitrateKbps : UInt32
  nextActionId : UInt32

namespace Threads

def start (mode : UInt32) (rules : Option ParsedRules) (clock : Nat) : Threads where
  ffi := FfiState.init mode rules.isSome clock
  ruleEngine := rules.map RuleEngine.new
  monitor := .subscribe clock
  phase := .selecting
  healing := .empty
  actionAutoApprove := 0
  currentBitrateKbps := 0
  originalBitrateKbps := 0
  nextActionId := 1

def emit (state : Threads) (triggers : List HealingTrigger) : Threads :=
  { state with healing := state.healing.sendAll (triggers.map HealingTrigger.event) }

/-- `collect_rule_actions`: outside the manual mode the installed engine evaluates
its rules, and the actions that pass the filter get their ids. -/
def collectRuleActions (state : Threads) (mode : HealingMode) :
    Threads × List RoutedAction :=
  match mode, state.ruleEngine with
  | .manual, _ | _, none => (state, [])
  | _, some engine =>
      let (evaluated, actions) :=
        engine.evaluate state.monitor.currentMetrics mode.modeStr state.ffi.clock
      let (counter, routed) :=
        assignIds state.nextActionId
          (actions.filter (routes mode state.currentBitrateKbps state.originalBitrateKbps))
      ({ state with ruleEngine := some evaluated, nextActionId := counter }, routed)

/-- One action of `evaluate_rule_engine`: it waits for approval, or goes to the
actuator at once. -/
def route (state : Threads) (mode : HealingMode) (routed : RoutedAction) : Threads :=
  if requiresApproval mode
      (categoryAutoApprove state.actionAutoApprove routed.rj.actionType) = true then
    { state with
      ffi := state.ffi.enqueuePending routed.rj routed.ruleId routed.explanation }
  else
    let announced := state.ffi.enqueueUiEvent (.infoEvent routed.rj routed.explanation)
    { state with
      ffi := (announced.enqueueAction routed.rj).1.publish (.logHealing
        { pendingRecord routed.rj routed.ruleId routed.explanation mode.toUInt32 with
          outcome := outcomeApplied }) }

/-- `finalize_calibration`: the threshold goes to the engine that is installed. -/
def finalizeCalibration (installed : Option RuleEngine) (threshold : Option Int32) :
    Option RuleEngine :=
  match threshold with
  | some value => installed.map (·.setCalibratedThreshold "memory_usage_pct".toList value)
  | none => installed

def advance (state : Threads) : Option Threads :=
  match state.phase with
  | .selecting => none
  | .handlingSystem event =>
      let (monitor, trigger) := state.monitor.handleSystem event state.ffi.clock
      some ({ state with monitor := monitor, phase := .selecting }.emit trigger.toList)
  | .handlingMedia event =>
      let (monitor, trigger) := state.monitor.handleMedia event state.ffi.clock
      some ({ state with monitor := monitor, phase := .selecting }.emit trigger.toList)
  | .sweeping now =>
      let (swept, expired) := state.ffi.sweepSection now
      some { state with ffi := swept, phase := .notifying (FfiState.invalidationNotices expired) }
  | .notifying (notice :: rest) =>
      some { state with ffi := state.ffi.perform notice, phase := .notifying rest }
  | .notifying [] =>
      match HealingMode.fromRaw state.ffi.healingMode with
      | .manual => some { state with phase := .selecting }
      | mode => some { state with phase := .calibrating mode }
  | .calibrating mode =>
      let (monitor, threshold) :=
        state.monitor.calibrationTick (state.ffi.clock - state.monitor.calibrationStarted)
      some { state with
        monitor := monitor
        ruleEngine := finalizeCalibration state.ruleEngine threshold
        phase := .predicting mode }
  | .predicting mode =>
      let (monitor, triggers) := state.monitor.evaluatePredictive state.ffi.clock
      some ({ state with monitor := monitor, phase := .adapting mode }.emit triggers)
  | .adapting mode =>
      let (monitor, trigger) := state.monitor.evaluateAdaptive mode state.ffi.clock
      some ({ state with monitor := monitor, phase := .evaluating mode }.emit trigger.toList)
  | .evaluating mode =>
      let (evaluated, routed) := state.collectRuleActions mode
      some { evaluated with phase := .routing mode routed }
  | .routing mode (routed :: rest) =>
      some { state.route mode routed with phase := .routing mode rest }
  | .routing _ [] => some { state with phase := .selecting }

/-- `rj_reload_rules` after the file was read: the new engine adopts the
calibration of the old one. -/
def rjReloadRules (state : Threads) (parsed : ParsedRules) : Threads :=
  let engine :=
    match state.ruleEngine with
    | some old => (RuleEngine.new parsed).adoptCalibration old
    | none => RuleEngine.new parsed
  { state with
    ruleEngine := some engine
    ffi := { state.ffi with ruleEngineLoaded := true } }

/-- The cooldown that the next piece of a call applies, if that is its work. -/
def nextCooldown (state : Threads) (index : Nat) : Option String :=
  match state.ffi.calls[index]? with
  | some (.notify (.applyCooldown ruleId :: _)) => some ruleId
  | _ => none

/-- The next piece of a call in flight; a cooldown goes to the installed engine. -/
def resume (state : Threads) (index : Nat) : Option Threads :=
  (state.ffi.resume index).map fun (ffi, _) =>
    { state with
      ffi := ffi
      ruleEngine :=
        match state.nextCooldown index with
        | some ruleId =>
            state.ruleEngine.map (·.applyCooldown ruleId (state.ffi.clock + rejectCooldown))
        | none => state.ruleEngine }

/-- `rj_set_action_auto_approve`; an unknown category is refused. -/
def rjSetActionAutoApprove (state : Threads) (category : UInt32) (enabled : Bool) :
    Threads :=
  if 2 < category then state
  else if enabled then
    { state with actionAutoApprove := state.actionAutoApprove ||| (1 <<< category) }
  else
    { state with actionAutoApprove := state.actionAutoApprove &&& ~~~(1 <<< category) }

end Threads

inductive ThreadAction where
  | receiveSystem (event : SystemEvent)
  | receiveMedia (event : MediaEvent)
  | tick
  | advance
  | approve (id : UInt32)
  | reject (id : UInt32)
  | setHealingMode (mode : UInt32)
  | setActionAutoApprove (category : UInt32) (enabled : Bool)
  /-- A file that was read and validated. -/
  | reloadRules (parsed : ParsedRules)
  | updateBitrateState (currentKbps originalKbps : UInt32)
  | dequeue
  | dequeueEvent
  | resume (index : Nat)
  | elapse (duration : Nat)

namespace Threads

/-- The mode that `HealingMode::current` returns. -/
def currentMode (state : Threads) : HealingMode := .fromRaw state.ffi.healingMode

def step : Machine Threads ThreadAction
  | state, .receiveSystem event =>
      if state.phase = .selecting then
        if state.currentMode = .manual then some state
        else some { state with phase := .handlingSystem event }
      else none
  | state, .receiveMedia event =>
      if state.phase = .selecting then
        if state.currentMode = .manual then some state
        else some { state with phase := .handlingMedia event }
      else none
  | state, .tick =>
      if state.phase = .selecting then
        some { state with phase := .sweeping state.ffi.clock }
      else none
  | state, .advance => state.advance
  | state, .approve id => some { state with ffi := (state.ffi.rjActionApprove id).1 }
  | state, .reject id => some { state with ffi := (state.ffi.rjActionReject id).1 }
  | state, .setHealingMode mode =>
      some { state with ffi := (state.ffi.rjSetHealingMode mode).1 }
  | state, .setActionAutoApprove category enabled =>
      some (state.rjSetActionAutoApprove category enabled)
  | state, .reloadRules parsed =>
      if ∀ rule ∈ parsed.rules, rule.Valid then some (state.rjReloadRules parsed) else none
  | state, .updateBitrateState currentKbps originalKbps =>
      some { state with
        currentBitrateKbps := currentKbps
        originalBitrateKbps := originalKbps }
  | state, .dequeue => some { state with ffi := state.ffi.rjActionDequeue.1 }
  | state, .dequeueEvent => some { state with ffi := state.ffi.rjActionEventDequeue.1 }
  | state, .resume index => state.resume index
  | state, .elapse duration =>
      some { state with ffi := { state.ffi with clock := state.ffi.clock + duration } }

/-! ## What a piece of the monitor task does -/

/-- The manual mode evaluates nothing; otherwise the installed engine evaluates its
rules with the metrics of the moment. -/
theorem collectRuleActions_cases (state : Threads) (mode : HealingMode) :
    state.collectRuleActions mode = (state, []) ∨
      ∃ engine, state.ruleEngine = some engine ∧
        (state.collectRuleActions mode).1 = { state with
          ruleEngine := some
            (engine.evaluate state.monitor.currentMetrics mode.modeStr state.ffi.clock).1
          nextActionId := (state.collectRuleActions mode).1.nextActionId } ∧
        ((state.collectRuleActions mode).2.map RoutedAction.ruleId).Sublist
          ((engine.evaluate state.monitor.currentMetrics mode.modeStr
            state.ffi.clock).2.map Action.ruleId) := by
  unfold collectRuleActions
  split
  next => exact .inl rfl
  next => exact .inl rfl
  next engine _ installed =>
    refine .inr ⟨engine, installed, rfl, ?_⟩
    simp only [ruleIds_assignIds]
    exact List.filter_sublist.map Action.ruleId

/-- The evaluation reaches the engine and the counter of action ids only. -/
theorem collectRuleActions_eq (state : Threads) (mode : HealingMode) :
    (state.collectRuleActions mode).1 = { state with
      ruleEngine := (state.collectRuleActions mode).1.ruleEngine
      nextActionId := (state.collectRuleActions mode).1.nextActionId } := by
  rcases state.collectRuleActions_cases mode with same | ⟨engine, installed, same, _⟩
  · rw [same]
  · rw [same]

@[simp]
theorem collectRuleActions_ffi (state : Threads) (mode : HealingMode) :
    (state.collectRuleActions mode).1.ffi = state.ffi := by
  rw [collectRuleActions_eq]

@[simp]
theorem collectRuleActions_monitor (state : Threads) (mode : HealingMode) :
    (state.collectRuleActions mode).1.monitor = state.monitor := by
  rw [collectRuleActions_eq]

@[simp]
theorem collectRuleActions_healing (state : Threads) (mode : HealingMode) :
    (state.collectRuleActions mode).1.healing = state.healing := by
  rw [collectRuleActions_eq]

/-- The pieces of the monitor task, each with the phase that it takes up. -/
inductive Advanced (state : Threads) : Threads → Prop
  | handledSystem (event : SystemEvent) (phase : state.phase = .handlingSystem event) :
      Advanced state ({ state with
        monitor := (state.monitor.handleSystem event state.ffi.clock).1
        phase := .selecting }.emit
          (state.monitor.handleSystem event state.ffi.clock).2.toList)
  | handledMedia (event : MediaEvent) (phase : state.phase = .handlingMedia event) :
      Advanced state ({ state with
        monitor := (state.monitor.handleMedia event state.ffi.clock).1
        phase := .selecting }.emit
          (state.monitor.handleMedia event state.ffi.clock).2.toList)
  | swept (now : Nat) (phase : state.phase = .sweeping now) :
      Advanced state { state with
        ffi := (state.ffi.sweepSection now).1
        phase := .notifying (FfiState.invalidationNotices (state.ffi.sweepSection now).2) }
  | notified (notice : Notice) (rest : List Notice)
      (phase : state.phase = .notifying (notice :: rest)) :
      Advanced state { state with
        ffi := state.ffi.perform notice
        phase := .notifying rest }
  | stopped (phase : state.phase = .notifying [])
      (manual : HealingMode.fromRaw state.ffi.healingMode = .manual) :
      Advanced state { state with phase := .selecting }
  | began (phase : state.phase = .notifying [])
      (works : HealingMode.fromRaw state.ffi.healingMode ≠ .manual) :
      Advanced state
        { state with phase := .calibrating (HealingMode.fromRaw state.ffi.healingMode) }
  | calibrated (mode : HealingMode) (phase : state.phase = .calibrating mode) :
      Advanced state { state with
        monitor := (state.monitor.calibrationTick
          (state.ffi.clock - state.monitor.calibrationStarted)).1
        ruleEngine := finalizeCalibration state.ruleEngine
          (state.monitor.calibrationTick
            (state.ffi.clock - state.monitor.calibrationStarted)).2
        phase := .predicting mode }
  | predicted (mode : HealingMode) (phase : state.phase = .predicting mode) :
      Advanced state ({ state with
        monitor := (state.monitor.evaluatePredictive state.ffi.clock).1
        phase := .adapting mode }.emit
          (state.monitor.evaluatePredictive state.ffi.clock).2)
  | adapted (mode : HealingMode) (phase : state.phase = .adapting mode) :
      Advanced state ({ state with
        monitor := (state.monitor.evaluateAdaptive mode state.ffi.clock).1
        phase := .evaluating mode }.emit
          (state.monitor.evaluateAdaptive mode state.ffi.clock).2.toList)
  | evaluated (mode : HealingMode) (phase : state.phase = .evaluating mode) :
      Advanced state { (state.collectRuleActions mode).1 with
        phase := .routing mode (state.collectRuleActions mode).2 }
  | routed (mode : HealingMode) (routed : RoutedAction) (rest : List RoutedAction)
      (phase : state.phase = .routing mode (routed :: rest)) :
      Advanced state { state.route mode routed with phase := .routing mode rest }
  | finished (mode : HealingMode) (phase : state.phase = .routing mode []) :
      Advanced state { state with phase := .selecting }

theorem advance_cases {state next : Threads} (advanced : state.advance = some next) :
    state.Advanced next := by
  unfold advance at advanced
  split at advanced
  case h_1 => cases advanced
  case h_2 event phase =>
    cases advanced
    exact .handledSystem event phase
  case h_3 event phase =>
    cases advanced
    exact .handledMedia event phase
  case h_4 now phase =>
    cases advanced
    exact .swept now phase
  case h_5 notice rest phase =>
    cases advanced
    exact .notified notice rest phase
  case h_6 phase =>
    split at advanced
    next manual =>
      cases advanced
      exact .stopped phase manual
    next works =>
      cases advanced
      exact .began phase works
  case h_7 mode phase =>
    cases advanced
    exact .calibrated mode phase
  case h_8 mode phase =>
    cases advanced
    exact .predicted mode phase
  case h_9 mode phase =>
    cases advanced
    exact .adapted mode phase
  case h_10 mode phase =>
    cases advanced
    exact .evaluated mode phase
  case h_11 mode routed rest phase =>
    cases advanced
    exact .routed mode routed rest phase
  case h_12 mode phase =>
    cases advanced
    exact .finished mode phase

/-- The pieces that reach the stores: the sweep, its notices and the routing. -/
theorem advance_ffi {state next : Threads} (advanced : state.advance = some next) :
    next.ffi = state.ffi ∨
    (∃ now, state.phase = .sweeping now ∧ next.ffi = (state.ffi.sweepSection now).1) ∨
    (∃ notice rest, state.phase = .notifying (notice :: rest) ∧
      next.ffi = state.ffi.perform notice) ∨
    (∃ mode routed rest, state.phase = .routing mode (routed :: rest) ∧
      next = { state.route mode routed with phase := .routing mode rest }) := by
  cases advance_cases advanced with
  | swept now phase => exact .inr (.inl ⟨now, phase, rfl⟩)
  | notified notice rest phase => exact .inr (.inr (.inl ⟨notice, rest, phase, rfl⟩))
  | routed mode routed rest phase => exact .inr (.inr (.inr ⟨mode, routed, rest, phase, rfl⟩))
  | evaluated mode => exact .inl (state.collectRuleActions_ffi mode)
  | handledSystem | handledMedia | stopped | began | calibrated | predicted | adapted
  | finished => exact .inl rfl

/-- The pieces that reach the rule engine: the end of the calibration and the
evaluation. -/
theorem advance_ruleEngine {state next : Threads} (advanced : state.advance = some next) :
    next.ruleEngine = state.ruleEngine ∨
    (∃ mode, state.phase = .calibrating mode ∧
      next.ruleEngine = finalizeCalibration state.ruleEngine
        (state.monitor.calibrationTick
          (state.ffi.clock - state.monitor.calibrationStarted)).2) ∨
    (∃ mode engine, state.phase = .evaluating mode ∧ state.ruleEngine = some engine ∧
      next.ruleEngine = some
        (engine.evaluate state.monitor.currentMetrics mode.modeStr state.ffi.clock).1) := by
  cases advance_cases advanced with
  | calibrated mode phase => exact .inr (.inl ⟨mode, phase, rfl⟩)
  | evaluated mode phase =>
      rcases state.collectRuleActions_cases mode with same | ⟨engine, installed, same, _⟩
      · exact .inl (congrArg (fun collected => collected.1.ruleEngine) same)
      · have evaluated := congrArg Threads.ruleEngine same
        exact .inr (.inr ⟨mode, engine, phase, installed, evaluated⟩)
  | routed =>
      left
      simp only [route]
      split <;> rfl
  | handledSystem | handledMedia | swept | notified | stopped | began | predicted | adapted
  | finished => exact .inl rfl

theorem advance_monitor {state next : Threads} (advanced : state.advance = some next) :
    (∃ event, state.phase = .handlingSystem event ∧
      next.monitor = (state.monitor.handleSystem event state.ffi.clock).1) ∨
    (∃ event, state.phase = .handlingMedia event ∧
      next.monitor = (state.monitor.handleMedia event state.ffi.clock).1) ∨
    (∃ mode, state.phase = .calibrating mode ∧
      next.monitor = (state.monitor.calibrationTick
        (state.ffi.clock - state.monitor.calibrationStarted)).1) ∨
    (next.monitor.currentMetrics = state.monitor.currentMetrics ∧
      next.monitor.calibrationDone = state.monitor.calibrationDone) := by
  cases advance_cases advanced with
  | handledSystem event phase => exact .inl ⟨event, phase, rfl⟩
  | handledMedia event phase => exact .inr (.inl ⟨event, phase, rfl⟩)
  | calibrated mode phase => exact .inr (.inr (.inl ⟨mode, phase, rfl⟩))
  | predicted => exact .inr (.inr (.inr (state.monitor.evaluatePredictive_fields _)))
  | adapted mode => exact .inr (.inr (.inr (state.monitor.evaluateAdaptive_fields mode _)))
  | evaluated mode =>
      have same := state.collectRuleActions_monitor mode
      exact .inr (.inr (.inr ⟨congrArg HealingMonitor.currentMetrics same,
        congrArg HealingMonitor.calibrationDone same⟩))
  | routed =>
      refine .inr (.inr (.inr ?_))
      simp only [route]
      split <;> exact ⟨rfl, rfl⟩
  | swept | notified | stopped | began | finished => exact .inr (.inr (.inr ⟨rfl, rfl⟩))

theorem advance_clock {state next : Threads} (advanced : state.advance = some next) :
    next.ffi.clock = state.ffi.clock := by
  rcases advance_ffi advanced with same | ⟨now, _, same⟩ | ⟨notice, rest, _, same⟩ |
    ⟨mode, routed, rest, _, rfl⟩
  · rw [same]
  · rw [same]
    rfl
  · rw [same, FfiState.perform_clock]
  · simp only [route, FfiState.enqueueAction]
    repeat' split
    all_goals rfl

theorem resume_clock {state next : Threads} {index : Nat}
    (resumed : state.resume index = some next) : next.ffi.clock = state.ffi.clock := by
  obtain ⟨⟨ffi, entries⟩, moved, rfl⟩ := Option.map_eq_some_iff.mp resumed
  exact FfiState.resume_clock moved

/-- The rest of a tick works with the mode of the tick, which is read once. -/
theorem advance_phase_mode {state next : Threads} {mode : HealingMode}
    (advanced : state.advance = some next) (works : next.phase.mode = some mode) :
    state.phase.mode = some mode ∨ mode = .fromRaw state.ffi.healingMode := by
  cases advance_cases advanced with
  | began =>
      cases works
      exact .inr rfl
  | calibrated mode phase | predicted mode phase | adapted mode phase | evaluated mode phase
  | routed mode routed rest phase =>
      cases works
      exact .inl (by rw [phase]; rfl)
  | handledSystem | handledMedia | swept | notified | stopped | finished => cases works

/-- What a step outside the monitor task does to the stores: a call of the user
interface, a piece of one, or the passing of time. -/
inductive FfiStepped (ffi : FfiState) : ThreadAction → FfiState → Prop
  | same (action : ThreadAction) : FfiStepped ffi action ffi
  | reloaded (parsed : ParsedRules) :
      FfiStepped ffi (.reloadRules parsed) { ffi with ruleEngineLoaded := true }
  | approved (id : UInt32) : FfiStepped ffi (.approve id) (ffi.rjActionApprove id).1
  | rejected (id : UInt32) : FfiStepped ffi (.reject id) (ffi.rjActionReject id).1
  | modeSet (mode : UInt32) :
      FfiStepped ffi (.setHealingMode mode) (ffi.rjSetHealingMode mode).1
  | dequeued : FfiStepped ffi .dequeue ffi.rjActionDequeue.1
  | eventDequeued : FfiStepped ffi .dequeueEvent ffi.rjActionEventDequeue.1
  | resumed (index : Nat) (after : FfiState) (entries : List PendingEntry)
      (resumed : ffi.resume index = some (after, entries)) :
      FfiStepped ffi (.resume index) after
  | elapsed (duration : Nat) :
      FfiStepped ffi (.elapse duration) { ffi with clock := ffi.clock + duration }

theorem step_ffi {state next : Threads} {action : ThreadAction}
    (stepped : state.step action = some next) (other : action ≠ .advance) :
    FfiStepped state.ffi action next.ffi := by
  cases action with
  | advance => exact absurd rfl other
  | receiveSystem event | receiveMedia event =>
      obtain ⟨_, received⟩ := Option.ite_none_right_eq_some.mp stepped
      split at received <;> cases received <;> exact .same _
  | tick =>
      obtain ⟨_, ticked⟩ := Option.ite_none_right_eq_some.mp stepped
      cases ticked
      exact .same _
  | approve id =>
      cases stepped
      exact .approved id
  | reject id =>
      cases stepped
      exact .rejected id
  | setHealingMode mode =>
      cases stepped
      exact .modeSet mode
  | setActionAutoApprove category enabled =>
      cases stepped
      unfold rjSetActionAutoApprove
      repeat' split
      all_goals exact .same _
  | reloadRules parsed =>
      obtain ⟨_, reloaded⟩ := Option.ite_none_right_eq_some.mp stepped
      cases reloaded
      exact .reloaded parsed
  | updateBitrateState current original =>
      cases stepped
      exact .same _
  | dequeue =>
      cases stepped
      exact .dequeued
  | dequeueEvent =>
      cases stepped
      exact .eventDequeued
  | resume index =>
      obtain ⟨⟨ffi, entries⟩, resumed, rfl⟩ := Option.map_eq_some_iff.mp stepped
      exact .resumed index ffi entries resumed
  | elapse duration =>
      cases stepped
      exact .elapsed duration

theorem step_clock {state next : Threads} {action : ThreadAction}
    (stepped : state.step action = some next) : state.ffi.clock ≤ next.ffi.clock := by
  by_cases monitor : action = .advance
  · subst monitor
    exact (advance_clock stepped).ge
  · have moved := step_ffi stepped monitor
    generalize next.ffi = after at moved ⊢
    cases moved with
    | same | reloaded => exact le_rfl
    | approved id => exact (state.ffi.rjActionApprove_clock id).ge
    | rejected id => exact (state.ffi.rjActionReject_clock id).ge
    | modeSet mode => exact (state.ffi.rjSetHealingMode_clock mode).ge
    | dequeued =>
        simp only [FfiState.rjActionDequeue]
        split <;> exact le_rfl
    | eventDequeued =>
        simp only [FfiState.rjActionEventDequeue]
        split <;> exact le_rfl
    | resumed index after entries resumed => exact (FfiState.resume_clock resumed).ge
    | elapsed duration => exact Nat.le_add_right _ _

/-! ## What a step outside the monitor task does -/

/-- The work that the monitor task takes up when it waits; the manual mode discards
events. -/
inductive Begins (state : Threads) : ThreadAction → MonitorPhase → Prop
  | system (event : SystemEvent) (handles : state.currentMode ≠ .manual) :
      Begins state (.receiveSystem event) (.handlingSystem event)
  | media (event : MediaEvent) (handles : state.currentMode ≠ .manual) :
      Begins state (.receiveMedia event) (.handlingMedia event)
  | sweep : Begins state .tick (.sweeping state.ffi.clock)

theorem Begins.mode {state : Threads} {action : ThreadAction} {phase : MonitorPhase}
    (begins : state.Begins action phase) : phase.mode = none := by
  cases begins <;> rfl

/-- The user interface, the pipeline and time leave the monitor task where it is, or
give it an event or a tick to take up. -/
structure Outside (state : Threads) (action : ThreadAction) (next : Threads) : Prop where
  ruleEngine : next.ruleEngine = state.ruleEngine
  monitor : next.monitor = state.monitor
  healing : next.healing = state.healing
  phase : next.phase = state.phase ∨ state.phase = .selecting ∧ state.Begins action next.phase

/-- Every step is one of the monitor task, a piece of a call, a reload, or outside. -/
theorem step_cases {state next : Threads} {action : ThreadAction}
    (stepped : state.step action = some next) :
    (action = .advance ∧ state.advance = some next) ∨
    (∃ index, action = .resume index ∧ state.resume index = some next) ∨
    (∃ parsed, action = .reloadRules parsed ∧ next = state.rjReloadRules parsed) ∨
    (action ≠ .advance ∧ (∀ index, action ≠ .resume index) ∧
      (∀ parsed, action ≠ .reloadRules parsed) ∧ state.Outside action next) := by
  cases action with
  | advance => exact .inl ⟨rfl, stepped⟩
  | resume index => exact .inr (.inl ⟨index, rfl, stepped⟩)
  | reloadRules parsed =>
      obtain ⟨_, reloaded⟩ := Option.ite_none_right_eq_some.mp stepped
      cases reloaded
      exact .inr (.inr (.inl ⟨parsed, rfl, rfl⟩))
  | receiveSystem event =>
      refine .inr (.inr (.inr ⟨nofun, nofun, nofun, ?_⟩))
      obtain ⟨selecting, received⟩ := Option.ite_none_right_eq_some.mp stepped
      split at received
      next =>
        cases received
        exact ⟨rfl, rfl, rfl, .inl rfl⟩
      next handles =>
        cases received
        exact ⟨rfl, rfl, rfl, .inr ⟨selecting, .system event handles⟩⟩
  | receiveMedia event =>
      refine .inr (.inr (.inr ⟨nofun, nofun, nofun, ?_⟩))
      obtain ⟨selecting, received⟩ := Option.ite_none_right_eq_some.mp stepped
      split at received
      next =>
        cases received
        exact ⟨rfl, rfl, rfl, .inl rfl⟩
      next handles =>
        cases received
        exact ⟨rfl, rfl, rfl, .inr ⟨selecting, .media event handles⟩⟩
  | tick =>
      refine .inr (.inr (.inr ⟨nofun, nofun, nofun, ?_⟩))
      obtain ⟨selecting, ticked⟩ := Option.ite_none_right_eq_some.mp stepped
      cases ticked
      exact ⟨rfl, rfl, rfl, .inr ⟨selecting, .sweep⟩⟩
  | setActionAutoApprove category enabled =>
      cases stepped
      refine .inr (.inr (.inr ⟨nofun, nofun, nofun, ?_⟩))
      unfold rjSetActionAutoApprove
      repeat' split
      all_goals exact ⟨rfl, rfl, rfl, .inl rfl⟩
  | approve id | reject id | setHealingMode mode | updateBitrateState current original
  | dequeue | dequeueEvent | elapse duration =>
      cases stepped
      exact .inr (.inr (.inr ⟨nofun, nofun, nofun, rfl, rfl, rfl, .inl rfl⟩))

/-- No step gives the monitor task another mode than the current one. -/
theorem step_phase_mode {state next : Threads} {action : ThreadAction} {mode : HealingMode}
    (stepped : state.step action = some next) (works : next.phase.mode = some mode) :
    state.phase.mode = some mode ∨ mode = state.currentMode := by
  rcases step_cases stepped with ⟨_, advanced⟩ | ⟨index, _, resumed⟩ | ⟨parsed, _, rfl⟩ |
    ⟨_, _, _, outside⟩
  · exact advance_phase_mode advanced works
  · obtain ⟨⟨ffi, entries⟩, _, rfl⟩ := Option.map_eq_some_iff.mp resumed
    exact .inl works
  · exact .inl works
  · rcases outside.phase with same | ⟨_, begins⟩
    · exact .inl (same ▸ works)
    · rw [begins.mode] at works
      cases works

end Threads

end RejiStudio.Orchestrator
