import RejiStudio.Orchestrator.Threads

/-!
# What becomes of a calibrated threshold

The end of the calibration writes the threshold into the engine that is installed
then, once and for all.  A reload hands the table on from engine to engine, so the
threshold lasts as long as there was an engine to write it into.
-/

namespace RejiStudio.Orchestrator

open RejiStudio.Lib

namespace Threads

def finalizes (state : Threads) : ThreadAction → Option Int32
  | .advance =>
      match state.phase with
      | .calibrating _ =>
          (state.monitor.calibrationTick (state.ffi.clock - state.monitor.calibrationStarted)).2
      | _ => none
  | _ => none

/-- A tick that ends the calibration writes the threshold into the installed engine. -/
theorem advance_of_finalizes {state next : Threads} {threshold : Int32}
    (advanced : state.advance = some next)
    (finalized : state.finalizes .advance = some threshold) :
    next.monitor.calibrationDone = true ∧
      next.ruleEngine =
        state.ruleEngine.map (·.setCalibratedThreshold "memory_usage_pct".toList threshold) := by
  cases phase : state.phase with
  | calibrating mode =>
      have tick := state.monitor.calibrationTick_fields
        (state.ffi.clock - state.monitor.calibrationStarted)
      simp only [finalizes, phase] at finalized
      simp only [advance, phase, finalizeCalibration, finalized, Option.some.injEq] at advanced
      cases advanced
      exact ⟨tick.2.2 (by rw [finalized]; rfl), rfl⟩
  | _ => simp [finalizes, phase] at finalized

theorem advance_of_calibrationDone {state next : Threads} {engine : RuleEngine}
    (advanced : state.advance = some next)
    (done : state.monitor.calibrationDone = true) (installed : state.ruleEngine = some engine) :
    next.monitor.calibrationDone = true ∧
      ∃ after, next.ruleEngine = some after ∧ after.calibration = engine.calibration := by
  have idle := (state.monitor.calibrationTick_fields
    (state.ffi.clock - state.monitor.calibrationStarted)).2.1 done
  constructor
  · rcases advance_monitor advanced with ⟨event, _, same⟩ | ⟨event, _, same⟩ |
      ⟨mode, _, same⟩ | ⟨_, same⟩
    · rw [same, (state.monitor.handleSystem_fields event _).2, done]
    · rw [same, (state.monitor.handleMedia_fields event _).2, done]
    · rw [same, idle, done]
    · rw [same, done]
  · rcases advance_ruleEngine advanced with same | ⟨mode, _, same⟩ | ⟨mode, other, _, present, same⟩
    · exact ⟨engine, same.trans installed, rfl⟩
    · rw [idle, finalizeCalibration] at same
      exact ⟨engine, same.trans installed, rfl⟩
    · rw [installed] at present
      cases present
      exact ⟨_, same, (engine.evaluate_frame _ _ _).2.1⟩

/-- After the calibration every step keeps the table, a reload by handing it on. -/
theorem step_calibration {state next : Threads} {action : ThreadAction} {engine : RuleEngine}
    (stepped : state.step action = some next)
    (done : state.monitor.calibrationDone = true) (installed : state.ruleEngine = some engine) :
    next.monitor.calibrationDone = true ∧
      ∃ after, next.ruleEngine = some after ∧ after.calibration = engine.calibration := by
  rcases step_cases stepped with ⟨_, advanced⟩ | ⟨index, _, resumed⟩ | ⟨parsed, _, rfl⟩ |
    ⟨_, _, _, outside⟩
  · exact advance_of_calibrationDone advanced done installed
  · obtain ⟨⟨ffi, entries⟩, _, rfl⟩ := Option.map_eq_some_iff.mp resumed
    refine ⟨done, ?_⟩
    dsimp only
    split
    · rw [installed]
      exact ⟨_, rfl, rfl⟩
    · exact ⟨engine, installed, rfl⟩
  · refine ⟨done, _, rfl, ?_⟩
    rw [installed]
    rfl
  · refine ⟨?_, engine, outside.ruleEngine.trans installed, rfl⟩
    rw [outside.monitor]
    exact done

end Threads

structure CalibrationRun where
  threads : Threads
  calibrated : Option Int32

namespace CalibrationRun

def start (mode : UInt32) (rules : Option ParsedRules) (clock : Nat) : CalibrationRun :=
  ⟨.start mode rules clock, none⟩

def step : Machine CalibrationRun ThreadAction
  | run, action =>
      (run.threads.step action).map fun threads =>
        ⟨threads, (run.threads.finalizes action).orElse fun _ => run.calibrated⟩

def FinalizesInstalled (run : CalibrationRun) (action : ThreadAction) : Prop :=
  (run.threads.finalizes action).isSome = true → run.threads.ruleEngine.isSome = true

instance (run : CalibrationRun) (action : ThreadAction) :
    Decidable (run.FinalizesInstalled action) :=
  inferInstanceAs (Decidable (_ → _))

/-- The installed engine knows the threshold, and there will be no other. -/
def Invariant (run : CalibrationRun) : Prop :=
  ∀ threshold, run.calibrated = some threshold →
    run.threads.monitor.calibrationDone = true ∧
      ∃ engine, run.threads.ruleEngine = some engine ∧
        engine.calibration "memory_usage_pct".toList = some threshold

theorem invariant_start (mode : UInt32) (rules : Option ParsedRules) (clock : Nat) :
    (start mode rules clock).Invariant := nofun

theorem Invariant.step {run next : CalibrationRun} {action : ThreadAction}
    (invariant : run.Invariant) (ok : run.FinalizesInstalled action)
    (stepped : run.step action = some next) : next.Invariant := by
  obtain ⟨threads, moved, rfl⟩ := Option.map_eq_some_iff.mp stepped
  intro threshold calibrated
  cases finalized : run.threads.finalizes action with
  | none =>
      simp only [finalized, Option.orElse_none] at calibrated
      obtain ⟨done, engine, installed, known⟩ := invariant threshold calibrated
      obtain ⟨still, after, present, same⟩ := Threads.step_calibration moved done installed
      exact ⟨still, after, present, same ▸ known⟩
  | some value =>
      simp only [finalized, Option.orElse_some, Option.some.injEq] at calibrated
      subst calibrated
      have present := ok (Option.isSome_of_eq_some finalized)
      obtain ⟨engine, installed⟩ := Option.isSome_iff_exists.mp present
      cases action with
      | advance =>
          obtain ⟨done, written⟩ := Threads.advance_of_finalizes moved finalized
          rw [installed] at written
          exact ⟨done, _, written, engine.setCalibratedThreshold_calibration _ _⟩
      | _ => cases finalized

/-- Whatever engine is installed after the calibration, its conditions compare the
memory usage with the calibrated threshold. -/
theorem calibration_is_kept (mode : UInt32) (rules : Option ParsedRules) (clock : Nat)
    (actions : List ThreadAction) (run : CalibrationRun)
    (ok : Machine.Along step FinalizesInstalled (start mode rules clock) actions)
    (executed : Machine.exec step (start mode rules clock) actions = some run)
    (threshold : Int32) (calibrated : run.calibrated = some threshold) :
    ∀ engine, run.threads.ruleEngine = some engine →
      ∀ literal, effectiveThreshold "memory_usage_pct".toList literal engine.calibration =
        (threshold, true) := by
  have invariant := Machine.exec_invariant_along
    (fun _ _ _ invariant ok stepped => Invariant.step invariant ok stepped)
    (invariant_start mode rules clock) ok executed
  obtain ⟨_, installed, present, known⟩ := invariant threshold calibrated
  intro engine sameEngine literal
  rw [present] at sameEngine
  cases sameEngine
  simp only [effectiveThreshold, known]

/-- The monitor receives a memory usage and evaluates; three seconds pass. -/
def memoryTick (pct : UInt32) : List ThreadAction :=
  [.receiveSystem (.memUsage (ratioOfPercent pct)), .advance, .tick] ++
    List.replicate 7 .advance ++ [.elapse (3 * 1000000000)]

/-- Three minutes of a memory usage around 61 percent, and the tick that ends them. -/
def calibrationSession : List ThreadAction :=
  (List.range 61).flatMap fun i => memoryTick (if i % 2 = 0 then 60 else 62)

def memoryRules : ParsedRules := ⟨[memoryPressure], 10000⟩

/-- The file is reloaded after the calibration. -/
theorem calibration_is_kept_reloaded :
    ∃ run, Machine.exec step (start 1 (some memoryRules) 0)
        (calibrationSession ++ [.reloadRules memoryRules]) = some run ∧
      ∀ engine, run.threads.ruleEngine = some engine →
        effectiveThreshold "memory_usage_pct".toList 85 engine.calibration = (64, true) := by
  have ok : Machine.Along step FinalizesInstalled (start 1 (some memoryRules) 0)
      (calibrationSession ++ [.reloadRules memoryRules]) := by
    decide +kernel
  have ended : (Machine.exec step (start 1 (some memoryRules) 0)
      (calibrationSession ++ [.reloadRules memoryRules])).map calibrated = some (some 64) := by
    decide +kernel
  obtain ⟨run, executed, finalized⟩ := Option.map_eq_some_iff.mp ended
  refine ⟨run, executed, ?_⟩
  intro engine installed
  exact calibration_is_kept 1 _ 0 _ run ok executed 64 finalized engine installed 85

/-- The file does not load at the start and is reloaded after the calibration: the
threshold is lost. -/
theorem calibration_without_engine_is_lost :
    ∃ run, Machine.exec step (start 1 none 0)
        (calibrationSession ++ [.reloadRules memoryRules]) = some run ∧
      run.calibrated = some 64 ∧
      ∃ engine, run.threads.ruleEngine = some engine ∧
        effectiveThreshold "memory_usage_pct".toList 85 engine.calibration = (85, false) := by
  have ended : (Machine.exec step (start 1 none 0)
      (calibrationSession ++ [.reloadRules memoryRules])).map (fun run =>
        (run.calibrated, run.threads.ruleEngine.map fun engine =>
          effectiveThreshold "memory_usage_pct".toList 85 engine.calibration)) =
      some (some 64, some (85, false)) := by
    decide +kernel
  obtain ⟨run, executed, observed⟩ := Option.map_eq_some_iff.mp ended
  obtain ⟨finalized, threshold⟩ := Prod.mk.inj observed
  obtain ⟨engine, installed, literal⟩ := Option.map_eq_some_iff.mp threshold
  exact ⟨run, executed, finalized, engine, installed, literal⟩

end CalibrationRun

end RejiStudio.Orchestrator
