import RejiStudio.Orchestrator.Outflow

/-!
# The cooldowns of the layers

Each emission of the monitor checks the cooldown of a layer and records it.  The layer is
the one that the emission names, so emissions of one layer are spaced by its cooldown.
-/

namespace RejiStudio.Orchestrator

open RejiStudio.Lib

def HealingTrigger.layer : HealingTrigger → HealingLayer
  | .cpuCritical | .sourceDisconnected | .frameDropped | .encodeError => .reactive
  | .gpuUsage | .memUsage | .cpuTrend | .frameDropTrend => .predictive
  | .diskWarning | .sourceReconnected | .thresholdCalibrated => .adaptive

/-! ## Emissions of one piece of work -/

/-- Emissions at one instant, each checked against the cooldown of its layer and recorded
before the next one. -/
inductive Fires (now : Nat) : CooldownTracker → List HealingTrigger → CooldownTracker → Prop
  | done (tracker : CooldownTracker) : Fires now tracker [] tracker
  | fired {tracker final : CooldownTracker} {trigger : HealingTrigger}
      {rest : List HealingTrigger} (ready : tracker.canFire trigger.layer now = true)
      (later : Fires now (tracker.record trigger.layer now) rest final) :
      Fires now tracker (trigger :: rest) final

theorem Fires.append {now : Nat} {first second third : CooldownTracker}
    {earlier later : List HealingTrigger} (left : Fires now first earlier second)
    (right : Fires now second later third) : Fires now first (earlier ++ later) third := by
  induction left with
  | done => exact right
  | fired ready _ inductionHypothesis => exact .fired ready (inductionHypothesis right)

namespace HealingMonitor

theorem fire_fires {monitor : HealingMonitor} {tracker : CooldownTracker}
    {layer : HealingLayer} {trigger : HealingTrigger} (same : monitor.cooldown = tracker)
    (named : trigger.layer = layer) (now : Nat) :
    Fires now tracker (monitor.fire layer trigger now).2.toList
      (monitor.fire layer trigger now).1.cooldown := by
  subst same named
  unfold fire
  split
  next ready => exact .fired ready (.done _)
  next => exact .done _

theorem handleSystem_fires (monitor : HealingMonitor) (event : SystemEvent) (now : Nat) :
    Fires now monitor.cooldown (monitor.handleSystem event now).2.toList
      (monitor.handleSystem event now).1.cooldown := by
  unfold handleSystem
  cases event with
  | cpuUsage ratio =>
      dsimp only
      split
      · exact fire_fires (by rfl) (by rfl) now
      · split <;> exact .done _
  | gpuUsage ratio | memUsage ratio =>
      dsimp only
      split
      · exact fire_fires (by rfl) (by rfl) now
      · exact .done _
  | diskWarning freeMb => exact fire_fires (by rfl) (by rfl) now
  | networkStats rttMs lossPct => exact .done _

theorem handleMedia_fires (monitor : HealingMonitor) (event : MediaEvent) (now : Nat) :
    Fires now monitor.cooldown (monitor.handleMedia event now).2.toList
      (monitor.handleMedia event now).1.cooldown := by
  unfold handleMedia
  cases event with
  | sourceDisconnected sourceId | sourceReconnected sourceId | encodeError code =>
      exact fire_fires (by rfl) (by rfl) now
  | frameDropped count =>
      dsimp only
      split
      · exact fire_fires (by rfl) (by rfl) now
      · exact .done _
  | frameDropPct pct => exact .done _

/-- The trend of dropped frames comes after the CPU trend and finds its cooldown. -/
theorem evaluatePredictive_fires (monitor : HealingMonitor) (now : Nat) :
    Fires now monitor.cooldown (monitor.evaluatePredictive now).2
      (monitor.evaluatePredictive now).1.cooldown := by
  have drops : ∀ (watched : HealingMonitor) (cpu : Option HealingTrigger),
      Fires now monitor.cooldown cpu.toList watched.cooldown →
      Fires now monitor.cooldown
        (cpu.toList ++ (watched.fire .predictive .frameDropTrend now).2.toList)
        (watched.fire .predictive .frameDropTrend now).1.cooldown :=
    fun watched _ before => before.append (fire_fires (by rfl) (by rfl) now)
  unfold evaluatePredictive
  cases monitor.trend.cpuHighSince with
  | none =>
      dsimp only
      split
      · exact drops monitor none (.done _)
      · exact .done _
  | some start =>
      have cpu := @fire_fires monitor _ _ .cpuTrend rfl rfl now
      dsimp only
      split
      · split
        · exact drops { (monitor.fire .predictive .cpuTrend now).1 with
            trend.cpuHighSince := none } _ cpu
        · exact cpu
      · split
        · exact drops monitor none (.done _)
        · exact .done _

theorem evaluateAdaptive_fires (monitor : HealingMonitor) (mode : HealingMode) (now : Nat) :
    Fires now monitor.cooldown (monitor.evaluateAdaptive mode now).2.toList
      (monitor.evaluateAdaptive mode now).1.cooldown := by
  cases mode with
  | coPilot | manual => exact .done _
  | autoPilot | assist =>
      dsimp only [evaluateAdaptive]
      split
      · exact fire_fires (by rfl) (by rfl) now
      · exact .done _

theorem calibrationTick_cooldown (monitor : HealingMonitor) (elapsed : Nat) :
    (monitor.calibrationTick elapsed).1.cooldown = monitor.cooldown := by
  unfold calibrationTick
  split
  · rfl
  · dsimp only
    split <;> rfl

end HealingMonitor

/-- The monitor task is past the check of the mode of an event or a tick. -/
def MonitorPhase.works : MonitorPhase → Bool
  | .selecting | .sweeping _ | .notifying _ => false
  | _ => true

namespace Threads

def emittedNext (state : Threads) : List HealingTrigger :=
  match state.phase with
  | .handlingSystem event => (state.monitor.handleSystem event state.ffi.clock).2.toList
  | .handlingMedia event => (state.monitor.handleMedia event state.ffi.clock).2.toList
  | .predicting _ => (state.monitor.evaluatePredictive state.ffi.clock).2
  | .adapting mode => (state.monitor.evaluateAdaptive mode state.ffi.clock).2.toList
  | .selecting | .sweeping _ | .notifying _ | .calibrating _ | .evaluating _ | .routing _ _ => []

theorem advance_emits {state next : Threads} (advanced : state.advance = some next) :
    next.healing = state.healing.sendAll (state.emittedNext.map HealingTrigger.event) ∧
      Fires state.ffi.clock state.monitor.cooldown state.emittedNext next.monitor.cooldown := by
  unfold emittedNext
  cases advance_cases advanced with
  | handledSystem event phase =>
      rw [phase]
      exact ⟨rfl, state.monitor.handleSystem_fires event _⟩
  | handledMedia event phase =>
      rw [phase]
      exact ⟨rfl, state.monitor.handleMedia_fires event _⟩
  | predicted mode phase =>
      rw [phase]
      exact ⟨rfl, state.monitor.evaluatePredictive_fires _⟩
  | adapted mode phase =>
      rw [phase]
      exact ⟨rfl, state.monitor.evaluateAdaptive_fires mode _⟩
  | evaluated mode phase =>
      rw [phase]
      refine ⟨state.collectRuleActions_healing mode, ?_⟩
      have same := congrArg HealingMonitor.cooldown (state.collectRuleActions_monitor mode)
      exact same.symm ▸ .done _
  | calibrated mode phase =>
      rw [phase]
      refine ⟨rfl, ?_⟩
      have same := state.monitor.calibrationTick_cooldown
        (state.ffi.clock - state.monitor.calibrationStarted)
      exact same.symm ▸ .done _
  | routed mode routed rest phase =>
      rw [phase]
      simp only [route]
      split <;> exact ⟨rfl, .done _⟩
  | swept now phase | notified notice rest phase | stopped phase | began phase
  | finished mode phase =>
      rw [phase]
      exact ⟨rfl, .done _⟩

end Threads

/-! ## Runs -/

structure Emission where
  trigger : HealingTrigger
  instant : Nat
  mode : HealingMode
  deriving DecidableEq

/-- The threads, the mode that was last read for an event or a tick, and every emission. -/
structure EmissionRun where
  threads : Threads
  modeRead : HealingMode
  emissions : List Emission

namespace EmissionRun

def start (mode : UInt32) (rules : Option ParsedRules) (clock : Nat) : EmissionRun :=
  ⟨.start mode rules clock, .fromRaw mode, []⟩

/-- `handle_system`, `handle_media` and a tick past its sweep read the mode. -/
def readMode (run : EmissionRun) : ThreadAction → HealingMode
  | .receiveSystem _ | .receiveMedia _ => run.threads.currentMode
  | .advance => if run.threads.phase = .notifying [] then run.threads.currentMode else run.modeRead
  | _ => run.modeRead

def emitted (run : EmissionRun) : ThreadAction → List Emission
  | .advance => run.threads.emittedNext.map fun trigger =>
      ⟨trigger, run.threads.ffi.clock, run.modeRead⟩
  | _ => []

def step : Machine EmissionRun ThreadAction
  | run, action =>
      (run.threads.step action).map fun threads =>
        ⟨threads, run.readMode action, run.emissions ++ run.emitted action⟩

def Spaced (first second : Emission) : Prop :=
  first.trigger.layer = second.trigger.layer →
    first.instant + CooldownTracker.duration first.trigger.layer ≤ second.instant

structure Covered (tracker : CooldownTracker) (emissions : List Emission) : Prop where
  recorded : ∀ emission ∈ emissions, ∃ last, tracker.last emission.trigger.layer = some last ∧
    emission.instant ≤ last
  spaced : emissions.Pairwise Spaced

theorem Covered.fired {tracker : CooldownTracker} {emissions : List Emission}
    (covered : Covered tracker emissions) {trigger : HealingTrigger} {now : Nat}
    (ready : tracker.canFire trigger.layer now = true) (mode : HealingMode) :
    Covered (tracker.record trigger.layer now) (emissions ++ [⟨trigger, now, mode⟩]) := by
  have past : ∀ emission ∈ emissions, Spaced emission ⟨trigger, now, mode⟩ := by
    intro emission member same
    obtain ⟨last, recorded, before⟩ := covered.recorded emission member
    rw [same] at recorded ⊢
    simp only [CooldownTracker.canFire, recorded, decide_eq_true_eq] at ready
    exact Nat.le_trans (Nat.add_le_add_right before _) ready
  constructor
  · intro emission member
    by_cases same : emission.trigger.layer = trigger.layer
    · refine ⟨now, ?_, ?_⟩
      · rw [CooldownTracker.record, same]
        exact Function.update_self _ _ _
      · rcases List.mem_append.mp member with old | new
        · exact Nat.le_trans (Nat.le_add_right _ _) (past emission old same)
        · rw [List.mem_singleton.mp new]
    · rcases List.mem_append.mp member with old | new
      · obtain ⟨last, recorded, before⟩ := covered.recorded emission old
        refine ⟨last, ?_, before⟩
        exact (Function.update_of_ne same _ _).trans recorded
      · rw [List.mem_singleton.mp new] at same
        exact absurd rfl same
  · rw [List.pairwise_append]
    refine ⟨covered.spaced, List.pairwise_singleton _ _, ?_⟩
    intro emission member other new
    rw [List.mem_singleton.mp new]
    exact past emission member

theorem Covered.fires {now : Nat} {tracker final : CooldownTracker}
    {triggers : List HealingTrigger} (fires : Fires now tracker triggers final)
    {emissions : List Emission} (covered : Covered tracker emissions) (mode : HealingMode) :
    Covered final (emissions ++ triggers.map fun trigger => ⟨trigger, now, mode⟩) := by
  induction fires generalizing emissions with
  | done =>
      rw [List.map_nil, List.append_nil]
      exact covered
  | fired ready _ inductionHypothesis =>
      have later := inductionHypothesis (covered.fired ready mode)
      rw [List.append_assoc] at later
      exact later

/-- The emissions are covered, are what the channel was sent, and none comes from a mode
read as manual. -/
structure Invariant (run : EmissionRun) : Prop where
  covered : Covered run.threads.monitor.cooldown run.emissions
  sent : run.threads.healing =
    Broadcast.empty.sendAll (run.emissions.map fun emission => emission.trigger.event)
  active : ∀ emission ∈ run.emissions, emission.mode ≠ .manual
  working : run.threads.phase.works = true → run.modeRead ≠ .manual

theorem invariant_start (mode : UInt32) (rules : Option ParsedRules) (clock : Nat) :
    (start mode rules clock).Invariant where
  covered := ⟨List.forall_mem_nil _, .nil⟩
  sent := rfl
  active := List.forall_mem_nil _
  working := nofun

theorem advance_works {state next : Threads} (advanced : state.advance = some next)
    (works : next.phase.works = true) :
    state.phase.works = true ∧ state.phase ≠ .notifying [] ∨
      state.phase = .notifying [] ∧ state.currentMode ≠ .manual := by
  cases Threads.advance_cases advanced with
  | began phase active => exact .inr ⟨phase, active⟩
  | calibrated mode phase | predicted mode phase | adapted mode phase | evaluated mode phase
  | routed mode routed rest phase =>
      rw [phase]
      exact .inl ⟨rfl, nofun⟩
  | handledSystem | handledMedia | swept | notified | stopped | finished => cases works

theorem Invariant.advance {run : EmissionRun} (invariant : run.Invariant) {threads : Threads}
    (advanced : run.threads.advance = some threads) :
    Invariant ⟨threads, run.readMode .advance, run.emissions ++ run.emitted .advance⟩ := by
  obtain ⟨healing, fires⟩ := Threads.advance_emits advanced
  refine ⟨invariant.covered.fires fires run.modeRead, ?_, ?_, ?_⟩
  · simp only [emitted, List.map_append, List.map_map, Broadcast.sendAll_append,
      ← invariant.sent]
    exact healing
  · intro emission member
    rcases List.mem_append.mp member with old | new
    · exact invariant.active emission old
    · obtain ⟨trigger, emits, rfl⟩ := List.mem_map.mp new
      apply invariant.working
      unfold Threads.emittedNext at emits
      cases phase : run.threads.phase with
      | selecting | sweeping _ | notifying _ => simp [phase] at emits
      | _ => rfl
  · intro works
    rcases advance_works advanced works with ⟨before, other⟩ | ⟨phase, active⟩
    · simp only [readMode, if_neg other]
      exact invariant.working before
    · simp only [readMode, if_pos phase]
      exact active

/-- A step that leaves the monitor, its channel and the mode it works with alone. -/
theorem Invariant.quiet {run : EmissionRun} (invariant : run.Invariant) {threads : Threads}
    {mode : HealingMode} (monitor : threads.monitor = run.threads.monitor)
    (healing : threads.healing = run.threads.healing)
    (working : threads.phase.works = true → mode ≠ .manual) :
    Invariant ⟨threads, mode, run.emissions ++ []⟩ := by
  rw [List.append_nil]
  exact ⟨monitor ▸ invariant.covered, healing.trans invariant.sent, invariant.active, working⟩

theorem Invariant.step {run next : EmissionRun} {action : ThreadAction}
    (invariant : run.Invariant) (stepped : run.step action = some next) : next.Invariant := by
  obtain ⟨threads, moved, rfl⟩ := Option.map_eq_some_iff.mp stepped
  rcases Threads.step_cases moved with ⟨rfl, advanced⟩ | ⟨index, rfl, resumed⟩ |
    ⟨parsed, rfl, rfl⟩ | ⟨notAdvance, _, _, outside⟩
  · exact invariant.advance advanced
  · obtain ⟨⟨ffi, entries⟩, _, rfl⟩ := Option.map_eq_some_iff.mp resumed
    exact invariant.quiet rfl rfl invariant.working
  · exact invariant.quiet rfl rfl invariant.working
  · have silent : run.emitted action = [] := by
      cases action with
      | advance => exact absurd rfl notAdvance
      | _ => rfl
    simp only [silent]
    apply invariant.quiet outside.monitor outside.healing
    intro works
    rcases outside.phase with same | ⟨_, begins⟩
    · rw [same] at works
      cases action with
      | advance => exact absurd rfl notAdvance
      | receiveSystem event | receiveMedia event =>
          obtain ⟨selecting, _⟩ := Option.ite_none_right_eq_some.mp moved
          rw [selecting] at works
          cases works
      | _ => exact invariant.working works
    · generalize threads.phase = phase at begins works
      cases begins with
      | system event active => exact active
      | media event active => exact active
      | sweep => cases works

/-- In every run the emissions, which are all that the channel was sent, are spaced by the
cooldown of their layer, and none follows a mode read as manual. -/
theorem emissions_spaced_by_layer {mode : UInt32} {rules : Option ParsedRules} {clock : Nat}
    {actions : List ThreadAction} {run : EmissionRun}
    (executed : Machine.exec step (start mode rules clock) actions = some run) :
    run.emissions.Pairwise Spaced ∧
      (∀ emission ∈ run.emissions, emission.mode ≠ .manual) ∧
      run.threads.healing =
        Broadcast.empty.sendAll (run.emissions.map fun emission => emission.trigger.event) := by
  have invariant : run.Invariant :=
    Machine.exec_invariant (fun _ _ _ invariant stepped => invariant.step stepped)
      (invariant_start mode rules clock) executed
  exact ⟨invariant.covered.spaced, invariant.active, invariant.sent⟩

/-- Two disk warnings with the cooldown between them, and one in the manual mode. -/
def diskWarnings : List ThreadAction :=
  [.receiveSystem (.diskWarning 100), .advance, .elapse (60 * 1000000000),
    .receiveSystem (.diskWarning 90), .advance, .elapse (60 * 1000000000),
    .receiveSystem (.diskWarning 80), .advance, .setHealingMode 3,
    .elapse (120 * 1000000000), .receiveSystem (.diskWarning 70)]

theorem emissions_spaced_diskWarnings :
    ∃ run, Machine.exec step (start 0 none 0) diskWarnings = some run ∧
      run.emissions = [⟨.diskWarning, 0, .autoPilot⟩,
        ⟨.diskWarning, 120 * 1000000000, .autoPilot⟩] ∧
      run.emissions.Pairwise Spaced := by
  have ended : (Machine.exec step (start 0 none 0) diskWarnings).map EmissionRun.emissions =
      some [⟨.diskWarning, 0, .autoPilot⟩, ⟨.diskWarning, 120 * 1000000000, .autoPilot⟩] := by
    decide +kernel
  obtain ⟨run, executed, emissions⟩ := Option.map_eq_some_iff.mp ended
  exact ⟨run, executed, emissions, (emissions_spaced_by_layer executed).1⟩

end EmissionRun

end RejiStudio.Orchestrator
