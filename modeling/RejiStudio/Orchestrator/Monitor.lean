import RejiStudio.Orchestrator.Calibration
import RejiStudio.Orchestrator.Healing
import RejiStudio.Orchestrator.Metrics
import RejiStudio.Orchestrator.Rules

/-!
# The healing monitor

One task handles system events, media events and a periodic tick.  Events and
trends emit healing events, at most one per layer and cooldown; the tick
evaluates the rules and routes the actions they produce.
-/

namespace RejiStudio.Orchestrator

open RejiStudio.Lib

inductive HealingMode where
  | autoPilot
  | coPilot
  | assist
  | manual
  deriving DecidableEq, Repr

/-- The code stores the mode as a word; other words never get in. -/
def HealingMode.fromRaw (v : UInt32) : HealingMode :=
  if v = 0 then .autoPilot
  else if v = 1 then .coPilot
  else if v = 2 then .assist
  else if v = 3 then .manual
  else .coPilot

/-- `as u32`. -/
def HealingMode.toUInt32 : HealingMode → UInt32
  | .autoPilot => 0
  | .coPilot => 1
  | .assist => 2
  | .manual => 3

/-- The name in rule files; the manual mode evaluates no rule. -/
def HealingMode.modeStr : HealingMode → String
  | .autoPilot => "auto-pilot"
  | .coPilot => "co-pilot"
  | .assist => "assist"
  | .manual => ""

inductive HealingLayer where
  | reactive
  | predictive
  | adaptive
  deriving DecidableEq, Repr

structure HealingThresholds where
  cpuHigh : Rat
  cpuCritical : Rat
  bitrateDropPct : Rat
  frameDropRate : UInt32
  eventCountThreshold : UInt32
  deriving DecidableEq

namespace HealingThresholds

def new : HealingThresholds where
  cpuHigh := single (75 / 100)
  cpuCritical := single (92 / 100)
  bitrateDropPct := single (18 / 100)
  frameDropRate := 8
  eventCountThreshold := 3

def adjustForSession (thresholds : HealingThresholds) (cpu : Rat) : HealingThresholds :=
  { thresholds with
    cpuHigh := max (min thresholds.cpuHigh (single (cpu * single (97 / 100)))) (single (55 / 100))
    bitrateDropPct :=
      min (single (thresholds.bitrateDropPct + single (1 / 100))) (single (25 / 100)) }

end HealingThresholds

/-- When each layer last emitted; instants are in nanoseconds. -/
structure CooldownTracker where
  last : HealingLayer → Option Nat

namespace CooldownTracker

def new : CooldownTracker := ⟨fun _ => none⟩

def duration : HealingLayer → Nat
  | .reactive => 20 * 1000000000
  | .predictive => 60 * 1000000000
  | .adaptive => 120 * 1000000000

def canFire (tracker : CooldownTracker) (layer : HealingLayer) (now : Nat) : Bool :=
  match tracker.last layer with
  | some last => last + duration layer ≤ now
  | none => true

def record (tracker : CooldownTracker) (layer : HealingLayer) (now : Nat) : CooldownTracker :=
  ⟨Function.update tracker.last layer (some now)⟩

end CooldownTracker

structure TrendState where
  cpuHighSince : Option Nat
  recentFrameDrops : UInt32
  lastCpu : Rat

structure HealingMonitor where
  thresholds : HealingThresholds
  cooldown : CooldownTracker
  trend : TrendState
  currentMetrics : RuleMetrics
  calibrator : BaselineCalibrator
  calibrationStarted : Nat
  calibrationDone : Bool

namespace HealingMonitor

def subscribe (now : Nat) : HealingMonitor where
  thresholds := .new
  cooldown := .new
  trend := ⟨none, 0, 0⟩
  currentMetrics := .default
  calibrator := .new
  calibrationStarted := now
  calibrationDone := false

/-- Emit for a layer unless its cooldown runs. -/
def fire (monitor : HealingMonitor) (layer : HealingLayer) (trigger : HealingTrigger)
    (now : Nat) : HealingMonitor × Option HealingTrigger :=
  if monitor.cooldown.canFire layer now then
    ({ monitor with cooldown := monitor.cooldown.record layer now }, some trigger)
  else
    (monitor, none)

def trackCpuTrend (monitor : HealingMonitor) (now : Nat) : HealingMonitor :=
  { monitor with trend.cpuHighSince := some (monitor.trend.cpuHighSince.getD now) }

def handleSystem (monitor : HealingMonitor) (event : SystemEvent) (now : Nat) :
    HealingMonitor × Option HealingTrigger :=
  let received :=
    { monitor with currentMetrics := monitor.currentMetrics.applySystem event }
  match event with
  | .cpuUsage ratio =>
      let measured := { received with trend.lastCpu := ratio }
      if monitor.thresholds.cpuCritical ≤ ratio then
        measured.fire .reactive .cpuCritical now
      else if monitor.thresholds.cpuHigh ≤ ratio then
        (measured.trackCpuTrend now, none)
      else
        ({ measured with trend.cpuHighSince := none }, none)
  | .gpuUsage ratio =>
      if single (98 / 100) ≤ ratio then received.fire .predictive .gpuUsage now
      else (received, none)
  | .memUsage ratio =>
      if single (96 / 100) ≤ ratio then received.fire .predictive .memUsage now
      else (received, none)
  | .diskWarning _ => received.fire .adaptive .diskWarning now
  | .networkStats _ _ => (received, none)

def handleMedia (monitor : HealingMonitor) (event : MediaEvent) (now : Nat) :
    HealingMonitor × Option HealingTrigger :=
  let received :=
    { monitor with currentMetrics := monitor.currentMetrics.applyMedia event }
  match event with
  | .sourceDisconnected _ => received.fire .reactive .sourceDisconnected now
  | .sourceReconnected _ => received.fire .adaptive .sourceReconnected now
  | .frameDropped count =>
      let drops := monitor.trend.recentFrameDrops.toNat + count.toNat
      let counted :=
        { received with trend.recentFrameDrops := UInt32.ofNat (min drops (2 ^ 32 - 1)) }
      if monitor.thresholds.frameDropRate ≤ count then
        counted.fire .reactive .frameDropped now
      else
        (counted, none)
  | .frameDropPct _ => (received, none)
  | .encodeError _ => received.fire .reactive .encodeError now

/-- `calibration_tick`: the threshold to install is returned when the window ends
with enough samples. -/
def calibrationTick (monitor : HealingMonitor) (elapsed : Nat) :
    HealingMonitor × Option Int32 :=
  if monitor.calibrationDone then
    (monitor, none)
  else
    let memPct := monitor.currentMetrics.memoryUsagePct
    let calibrator :=
      if 0 < memPct then monitor.calibrator.observe memPct else monitor.calibrator
    if calibrationWindow ≤ elapsed then
      ({ monitor with calibrator := calibrator, calibrationDone := true },
        match calibrator.finalize with
        | .calibrated threshold => some threshold
        | .cancelled _ => none)
    else
      ({ monitor with calibrator := calibrator }, none)

def evaluatePredictive (monitor : HealingMonitor) (now : Nat) :
    HealingMonitor × List HealingTrigger :=
  let (watched, cpu) :=
    match monitor.trend.cpuHighSince with
    | some start =>
        if 4 * 1000000000 ≤ now - start ∧ monitor.cooldown.canFire .predictive now = true then
          let (fired, trigger) := monitor.fire .predictive .cpuTrend now
          ({ fired with trend.cpuHighSince := none }, trigger)
        else
          (monitor, none)
    | none => (monitor, none)
  if watched.thresholds.eventCountThreshold ≤ watched.trend.recentFrameDrops then
    let (fired, drops) := watched.fire .predictive .frameDropTrend now
    ({ fired with trend.recentFrameDrops := 0 }, cpu.toList ++ drops.toList)
  else
    (watched, cpu.toList)

def evaluateAdaptive (monitor : HealingMonitor) (mode : HealingMode) (now : Nat) :
    HealingMonitor × Option HealingTrigger :=
  match mode with
  | .coPilot | .manual => (monitor, none)
  | .autoPilot | .assist =>
      let adjusted := monitor.thresholds.adjustForSession monitor.trend.lastCpu
      if adjusted.cpuHigh < monitor.thresholds.cpuHigh then
        let (fired, trigger) := monitor.fire .adaptive .thresholdCalibrated now
        ({ fired with thresholds := adjusted }, trigger)
      else
        (monitor, none)

/-! ## What the monitor keeps -/

theorem fire_fields (monitor : HealingMonitor) (layer : HealingLayer) (trigger : HealingTrigger)
    (now : Nat) :
    (monitor.fire layer trigger now).1.currentMetrics = monitor.currentMetrics ∧
      (monitor.fire layer trigger now).1.calibrationDone = monitor.calibrationDone := by
  unfold fire
  split <;> exact ⟨rfl, rfl⟩

theorem handleSystem_fields (monitor : HealingMonitor) (event : SystemEvent) (now : Nat) :
    (monitor.handleSystem event now).1.currentMetrics =
        monitor.currentMetrics.applySystem event ∧
      (monitor.handleSystem event now).1.calibrationDone = monitor.calibrationDone := by
  unfold handleSystem
  cases event with
  | cpuUsage ratio =>
      dsimp only
      split
      · exact fire_fields _ _ _ _
      · split <;> exact ⟨rfl, rfl⟩
  | gpuUsage ratio =>
      dsimp only
      split
      · exact fire_fields _ _ _ _
      · exact ⟨rfl, rfl⟩
  | memUsage ratio =>
      dsimp only
      split
      · exact fire_fields _ _ _ _
      · exact ⟨rfl, rfl⟩
  | diskWarning freeMb => exact fire_fields _ _ _ _
  | networkStats rttMs lossPct => exact ⟨rfl, rfl⟩

theorem handleMedia_fields (monitor : HealingMonitor) (event : MediaEvent) (now : Nat) :
    (monitor.handleMedia event now).1.currentMetrics = monitor.currentMetrics.applyMedia event ∧
      (monitor.handleMedia event now).1.calibrationDone = monitor.calibrationDone := by
  unfold handleMedia
  cases event with
  | sourceDisconnected sourceId => exact fire_fields _ _ _ _
  | sourceReconnected sourceId => exact fire_fields _ _ _ _
  | frameDropped count =>
      dsimp only
      split
      · exact fire_fields _ _ _ _
      · exact ⟨rfl, rfl⟩
  | frameDropPct pct => exact ⟨rfl, rfl⟩
  | encodeError code => exact fire_fields _ _ _ _

theorem evaluatePredictive_fields (monitor : HealingMonitor) (now : Nat) :
    (monitor.evaluatePredictive now).1.currentMetrics = monitor.currentMetrics ∧
      (monitor.evaluatePredictive now).1.calibrationDone = monitor.calibrationDone := by
  have fields := fire_fields
  unfold evaluatePredictive
  cases monitor.trend.cpuHighSince with
  | none =>
      dsimp only
      split
      · exact fields _ _ _ _
      · exact ⟨rfl, rfl⟩
  | some start =>
      by_cases fires :
          4 * 1000000000 ≤ now - start ∧ monitor.cooldown.canFire .predictive now = true
      · simp only [fires, and_self, if_true]
        split <;> simp [fields]
      · simp only [fires, if_false]
        split <;> simp [fields]

theorem evaluateAdaptive_fields (monitor : HealingMonitor) (mode : HealingMode) (now : Nat) :
    (monitor.evaluateAdaptive mode now).1.currentMetrics = monitor.currentMetrics ∧
      (monitor.evaluateAdaptive mode now).1.calibrationDone = monitor.calibrationDone := by
  have fields := fire_fields
  cases mode with
  | coPilot => exact ⟨rfl, rfl⟩
  | manual => exact ⟨rfl, rfl⟩
  | autoPilot =>
      dsimp only [evaluateAdaptive]
      split <;> simp [fields]
  | assist =>
      dsimp only [evaluateAdaptive]
      split <;> simp [fields]

/-- A threshold is returned once: the tick that returns it ends the calibration. -/
theorem calibrationTick_fields (monitor : HealingMonitor) (elapsed : Nat) :
    (monitor.calibrationTick elapsed).1.currentMetrics = monitor.currentMetrics ∧
      (monitor.calibrationDone = true → monitor.calibrationTick elapsed = (monitor, none)) ∧
      ((monitor.calibrationTick elapsed).2.isSome = true →
        (monitor.calibrationTick elapsed).1.calibrationDone = true) := by
  unfold calibrationTick
  by_cases done : monitor.calibrationDone = true
  · simp [done]
  · simp only [done]
    by_cases ended : calibrationWindow ≤ elapsed <;> simp [ended]

/-! ## What asks for another bitrate -/

/-- The GPU is at its limit and the cooldown of the predictive layer is over. -/
def gpuFires (monitor : HealingMonitor) (ratio : Rat) (now : Nat) : Bool :=
  decide (single (98 / 100) ≤ ratio) && monitor.cooldown.canFire .predictive now

def cpuTrendFires (monitor : HealingMonitor) (now : Nat) : Bool :=
  monitor.trend.cpuHighSince.any fun start =>
    decide (4 * 1000000000 ≤ now - start) && monitor.cooldown.canFire .predictive now

def dropTrendFires (monitor : HealingMonitor) (now : Nat) : Bool :=
  decide (monitor.thresholds.eventCountThreshold ≤ monitor.trend.recentFrameDrops) &&
    monitor.cooldown.canFire .predictive now && !monitor.cpuTrendFires now

theorem canFire_record (tracker : CooldownTracker) (layer : HealingLayer) (now : Nat) :
    (tracker.record layer now).canFire layer now = false := by
  simp only [CooldownTracker.canFire, CooldownTracker.record, Function.update_self]
  have positive : 0 < CooldownTracker.duration layer := by
    cases layer <;> decide
  exact decide_eq_false (by omega)

theorem fire_trigger {monitor : HealingMonitor} {layer : HealingLayer}
    {trigger fired : HealingTrigger} {now : Nat}
    (emitted : (monitor.fire layer trigger now).2 = some fired) :
    fired = trigger ∧ monitor.cooldown.canFire layer now = true := by
  unfold fire at emitted
  split at emitted
  next fires =>
    cases emitted
    exact ⟨rfl, fires⟩
  next => cases emitted

/-- Of the system events only a GPU at its limit asks for another bitrate. -/
theorem handleSystem_reduces {monitor : HealingMonitor} {event : SystemEvent} {now : Nat}
    {trigger : HealingTrigger} (emitted : (monitor.handleSystem event now).2 = some trigger)
    (reduces : trigger.event.reduces = true) :
    ∃ ratio, event = .gpuUsage ratio ∧ monitor.gpuFires ratio now = true := by
  unfold handleSystem at emitted
  cases event with
  | gpuUsage ratio =>
      dsimp only at emitted
      split at emitted
      next limit =>
        have fires : monitor.cooldown.canFire .predictive now = true := (fire_trigger emitted).2
        exact ⟨ratio, rfl, by simp [gpuFires, limit, fires]⟩
      next => cases emitted
  | cpuUsage ratio =>
      dsimp only at emitted
      split at emitted
      next =>
        rw [(fire_trigger emitted).1] at reduces
        cases reduces
      next => split at emitted <;> cases emitted
  | memUsage ratio =>
      dsimp only at emitted
      split at emitted
      next =>
        rw [(fire_trigger emitted).1] at reduces
        cases reduces
      next => cases emitted
  | diskWarning freeMb =>
      rw [(fire_trigger emitted).1] at reduces
      cases reduces
  | networkStats rttMs lossPct => cases emitted

theorem handleMedia_reduces {monitor : HealingMonitor} {event : MediaEvent} {now : Nat}
    {trigger : HealingTrigger} (emitted : (monitor.handleMedia event now).2 = some trigger) :
    trigger.event.reduces = false := by
  unfold handleMedia at emitted
  cases event with
  | frameDropped count =>
      dsimp only at emitted
      split at emitted
      next =>
        rw [(fire_trigger emitted).1]
        rfl
      next => cases emitted
  | frameDropPct pct => cases emitted
  | sourceDisconnected sourceId | sourceReconnected sourceId | encodeError code =>
      rw [(fire_trigger emitted).1]
      rfl

/-- In a tick only a trend of dropped frames asks for another bitrate. -/
theorem evaluatePredictive_reduces {monitor : HealingMonitor} {now : Nat}
    {trigger : HealingTrigger} (emitted : trigger ∈ (monitor.evaluatePredictive now).2)
    (reduces : trigger.event.reduces = true) : monitor.dropTrendFires now = true := by
  have ofDrops : monitor.cpuTrendFires now = false →
      trigger ∈ (if monitor.thresholds.eventCountThreshold ≤ monitor.trend.recentFrameDrops then
        (monitor.fire .predictive .frameDropTrend now).2.toList else []) →
      monitor.dropTrendFires now = true := by
    intro noCpu drops
    split at drops
    next trend =>
      have fires := (fire_trigger (Option.mem_toList.mp drops)).2
      simp [dropTrendFires, trend, fires, noCpu]
    next => cases drops
  unfold evaluatePredictive at emitted
  cases high : monitor.trend.cpuHighSince with
  | none =>
      simp only [high] at emitted
      refine ofDrops (by simp [cpuTrendFires, high]) ?_
      split at emitted
      next trend =>
        rw [if_pos trend]
        exact emitted
      next => cases emitted
  | some start =>
      by_cases fires :
        4 * 1000000000 ≤ now - start ∧ monitor.cooldown.canFire .predictive now = true
      · -- the cooldown is taken, so the dropped frames emit nothing
        simp only [high, fires, and_self, if_true, fire] at emitted
        split at emitted
        · simp only [canFire_record, Bool.false_eq_true, if_false, Option.toList_some,
            Option.toList_none, List.append_nil, List.mem_singleton] at emitted
          subst emitted
          cases reduces
        · cases List.mem_singleton.mp emitted
          cases reduces
      · simp only [high, fires, if_false] at emitted
        refine ofDrops (by simpa [cpuTrendFires, high] using fires) ?_
        split at emitted
        next trend =>
          rw [if_pos trend]
          exact emitted
        next => cases emitted

theorem evaluateAdaptive_reduces {monitor : HealingMonitor} {mode : HealingMode} {now : Nat}
    {trigger : HealingTrigger} (emitted : (monitor.evaluateAdaptive mode now).2 = some trigger) :
    trigger.event.reduces = false := by
  cases mode with
  | coPilot | manual => cases emitted
  | autoPilot | assist =>
      dsimp only [evaluateAdaptive] at emitted
      split at emitted
      next =>
        rw [(fire_trigger emitted).1]
        rfl
      next => cases emitted

end HealingMonitor

/-! ## Routing the actions of the rules -/

structure RoutedAction where
  rj : RjAction
  ruleId : String
  explanation : Explanation
  deriving DecidableEq

def recoveryHasDeficit (currentKbps originalKbps : UInt32) : Bool :=
  0 < currentKbps && 0 < originalKbps && currentKbps < originalKbps

/-- The filter of `collect_rule_actions_with_bitrate`. -/
def routes (mode : HealingMode) (currentKbps originalKbps : UInt32) (action : Action) : Bool :=
  !(action.actionType == .bitrateRecover && !recoveryHasDeficit currentKbps originalKbps) &&
    !(mode == .assist && !action.isCritical)

/-- The id handed out and the counter after it; zero is skipped. -/
def nextActionId (counter : UInt32) : UInt32 × UInt32 :=
  if counter = 0 then (counter + 1, counter + 2) else (counter, counter + 1)

def assignIds : UInt32 → List Action → UInt32 × List RoutedAction
  | counter, [] => (counter, [])
  | counter, action :: rest =>
      let (id, next) := nextActionId counter
      let (finished, routed) := assignIds next rest
      (finished,
        { rj := ⟨id, action.actionType, action.param1, action.param2, 0⟩
          ruleId := action.ruleId
          explanation := action.explanation } :: routed)

def requiresApproval (mode : HealingMode) (categoryAuto : Bool) : Bool :=
  mode == .coPilot && !categoryAuto

def ActionType.category : ActionType → Option UInt32
  | .bitrateReduce | .bitrateRecover => some 0
  | .scaleResolution | .restoreResolution => some 1
  | .capFps | .restoreFps => some 2
  | .logOnly => none

def categoryAutoApprove (mask : UInt32) (actionType : ActionType) : Bool :=
  match actionType.category with
  | none => true
  | some category => (mask &&& (1 <<< category)) != 0

theorem ruleIds_assignIds (counter : UInt32) (actions : List Action) :
    (assignIds counter actions).2.map RoutedAction.ruleId = actions.map Action.ruleId := by
  induction actions generalizing counter with
  | nil => rfl
  | cons action rest inductionHypothesis =>
      exact congrArg (action.ruleId :: ·) (inductionHypothesis _)

end RejiStudio.Orchestrator
