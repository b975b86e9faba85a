import Mathlib.Analysis.Real.Sqrt
import Mathlib.Algebra.Order.Round
import Mathlib.Tactic.Linarith
import RejiStudio.Lib.OnlineStatistics
import RejiStudio.Orchestrator.Threads

/-!
# What the calibration learns

The calibrator holds the moments and the extremes of the samples it saw, in any order.
The ticks feed it the loads that are not zero, up to the tick that finds the window
over; that tick reads the outcome, and no other does.
-/

namespace RejiStudio.Orchestrator

open RejiStudio.Lib

theorem countP_range'_le (top : Int) (start size : Nat) :
    (((List.range' start size).countP fun candidate : Nat => (candidate : Int) ≤ top : Nat) : Int) =
      max 0 (min (size : Int) (top + 1 - start)) := by
  induction size generalizing start with
  | zero => simp
  | succ size inductionHypothesis =>
      rw [List.range'_succ, List.countP_cons]
      push_cast
      rw [inductionHypothesis]
      split
      next reached =>
        have reached := of_decide_eq_true reached
        push_cast
        omega
      next missed =>
        have missed : ¬ (start : Int) ≤ top := fun reached => missed (decide_eq_true reached)
        push_cast
        omega

namespace BaselineCalibrator

def learn (samples : List UInt32) : BaselineCalibrator := samples.foldl observe new

def moments (calibrator : BaselineCalibrator) : Moments Rat :=
  ⟨calibrator.count, calibrator.mean, calibrator.m2⟩

def values (samples : List UInt32) : List Rat := samples.map fun value => (value.toNat : Rat)

theorem learn_append (samples : List UInt32) (value : UInt32) :
    learn (samples ++ [value]) = (learn samples).observe value := by
  rw [learn, List.foldl_append]
  rfl

theorem moments_observe (calibrator : BaselineCalibrator) (value : UInt32) :
    (calibrator.observe value).moments = calibrator.moments.observe (value.toNat : Rat) := rfl

theorem moments_learn (samples : List UInt32) :
    (learn samples).moments = Moments.ofList (values samples) := by
  rw [← Moments.foldl_observe]
  induction samples using List.reverseRecOn with
  | nil => rfl
  | append_singleton samples value inductionHypothesis =>
      rw [learn_append, moments_observe, inductionHypothesis, values, values, List.map_append,
        List.foldl_append]
      rfl

theorem count_learn (samples : List UInt32) : (learn samples).count = samples.length := by
  have same := congrArg Moments.count (moments_learn samples)
  exact same.trans (List.length_map ..)

theorem mean_learn (samples : List UInt32) :
    (learn samples).mean * samples.length = (values samples).sum := by
  have same : (learn samples).mean = _ := congrArg Moments.mean (moments_learn samples)
  have size : (values samples).length = samples.length := List.length_map ..
  rw [same, ← size]
  exact Moments.mean_mul_length _

theorem m2_learn (samples : List UInt32) :
    (learn samples).m2 = Moments.deviations (values samples) (learn samples).mean := by
  have same := moments_learn samples
  have mean : (learn samples).mean = _ := congrArg Moments.mean same
  have m2 : (learn samples).m2 = _ := congrArg Moments.m2 same
  rw [m2, mean]
  rfl

theorem m2_learn_nonneg (samples : List UInt32) : 0 ≤ (learn samples).m2 := by
  rw [m2_learn]
  exact Moments.deviations_nonneg _ _

/-! ## The extremes -/

theorem min_learn_eq (samples : List UInt32) :
    (learn samples).min = samples.foldl (keepBest (· < ·)) 4294967295 := by
  rw [learn]
  exact (List.foldl_hom BaselineCalibrator.min fun _ _ => rfl).symm

theorem max_learn_eq (samples : List UInt32) :
    (learn samples).max = samples.foldl (keepBest (· > ·)) 0 := by
  rw [learn]
  exact (List.foldl_hom BaselineCalibrator.max fun _ _ => rfl).symm

/-- The least sample; nothing is above the word to begin with. -/
theorem min_learn {samples : List UInt32} (nonempty : samples ≠ []) :
    (∀ value ∈ samples, (learn samples).min ≤ value) ∧ (learn samples).min ∈ samples := by
  have irrefl : ∀ x : UInt32, ¬ x < x := UInt32.lt_irrefl
  have transitive : ∀ x y z : UInt32, x < y → y < z → x < z := fun _ _ _ => UInt32.lt_trans
  rw [min_learn_eq]
  constructor
  · intro value membership
    exact UInt32.not_lt.mp ((foldl_keepBest _ irrefl transitive _ samples).1 value membership)
  · apply foldl_keepBest_mem _ irrefl transitive _ nonempty
    intro value above
    have above := UInt32.le_iff_toNat_le.mp (UInt32.not_lt.mp above)
    exact UInt32.toNat_inj.mp (Nat.le_antisymm (Nat.le_of_lt_succ value.toNat_lt) above)

theorem max_learn {samples : List UInt32} (nonempty : samples ≠ []) :
    (∀ value ∈ samples, value ≤ (learn samples).max) ∧ (learn samples).max ∈ samples := by
  have irrefl : ∀ x : UInt32, ¬ x > x := UInt32.lt_irrefl
  have transitive : ∀ x y z : UInt32, x > y → y > z → x > z :=
    fun _ _ _ above below => UInt32.lt_trans below above
  rw [max_learn_eq]
  constructor
  · intro value membership
    exact UInt32.not_lt.mp ((foldl_keepBest _ irrefl transitive _ samples).1 value membership)
  · apply foldl_keepBest_mem _ irrefl transitive _ nonempty
    intro value below
    exact UInt32.le_antisymm (UInt32.not_lt.mp below) UInt32.zero_le

theorem max_eq_min_iff {samples : List UInt32} (nonempty : samples ≠ []) :
    (learn samples).max = (learn samples).min ↔
      ∀ x ∈ samples, ∀ y ∈ samples, x = y := by
  obtain ⟨least, minMember⟩ := min_learn nonempty
  obtain ⟨greatest, maxMember⟩ := max_learn nonempty
  constructor
  · intro same x xMember y yMember
    have squeezed : ∀ value ∈ samples, value = (learn samples).min := fun value membership =>
      UInt32.le_antisymm (same ▸ greatest value membership) (least value membership)
    rw [squeezed x xMember, squeezed y yMember]
  · intro constant
    exact constant _ maxMember _ minMember

theorem learn_perm {samples other : List UInt32} (same : samples.Perm other) :
    learn samples = learn other := by
  have moments : (learn samples).moments = (learn other).moments := by
    rw [moments_learn, moments_learn]
    exact Moments.ofList_perm (same.map _)
  have least : (learn samples).min = (learn other).min := by
    rw [min_learn_eq, min_learn_eq]
    apply same.foldl_eq'
    intro x _ y _ best
    simp only [keepBest, UInt32.lt_iff_toNat_lt, ← UInt32.toNat_inj]
    grind
  have greatest : (learn samples).max = (learn other).max := by
    rw [max_learn_eq, max_learn_eq]
    apply same.foldl_eq'
    intro x _ y _ best
    simp only [keepBest, gt_iff_lt, UInt32.lt_iff_toNat_lt, ← UInt32.toNat_inj]
    grind
  have count : (learn samples).count = (learn other).count := congrArg Moments.count moments
  have mean : (learn samples).mean = (learn other).mean := congrArg Moments.mean moments
  have m2 : (learn samples).m2 = (learn other).m2 := congrArg Moments.m2 moments
  cases learned : learn samples
  cases relearned : learn other
  simp only [learned, relearned] at count mean m2 least greatest
  rw [count, mean, m2, least, greatest]

theorem threshold_of_finalize {calibrator : BaselineCalibrator} {threshold : Int32}
    (finalized : calibrator.finalize = .calibrated threshold) :
    threshold = calibrator.threshold := by
  rw [finalize] at finalized
  split at finalized
  · contradiction
  · split at finalized
    · contradiction
    · cases finalized
      rfl

theorem finalize_calibrated_iff (samples : List UInt32) :
    (∃ threshold, (learn samples).finalize = .calibrated threshold) ↔
      minSamples ≤ samples.length ∧ ∃ x ∈ samples, ∃ y ∈ samples, x ≠ y := by
  rw [finalize, count_learn]
  split
  next few =>
    constructor
    · exact nofun
    · intro enough
      exact absurd enough.1 (Nat.not_le.mpr few)
  next enough =>
    have nonempty : samples ≠ [] := by
      rintro rfl
      exact enough (by decide)
    split
    next constant =>
      constructor
      · exact nofun
      · rintro ⟨_, x, xMember, y, yMember, differ⟩
        exact absurd ((max_eq_min_iff nonempty).mp constant x xMember y yMember) differ
    next varied =>
      constructor
      · intro _
        refine ⟨Nat.not_lt.mp enough, ?_⟩
        have differ := mt (max_eq_min_iff nonempty).mpr varied
        push Not at differ
        exact differ
      · intro _
        exact ⟨_, rfl⟩

/-! ## The threshold -/

theorem reaches_iff {calibrator : BaselineCalibrator} (nonneg : 0 ≤ calibrator.m2)
    (bound : Rat) :
    calibrator.Reaches bound ↔
      (bound : Real) ≤ calibrator.mean + 3 * √(calibrator.m2 / calibrator.count) := by
  have variance : (0 : Real) ≤ calibrator.m2 / calibrator.count := by
    have cast : (0 : Real) ≤ calibrator.m2 := by exact_mod_cast nonneg
    exact div_nonneg cast (Nat.cast_nonneg _)
  have spread := Real.sqrt_nonneg ((calibrator.m2 : Real) / calibrator.count)
  have squares : (bound - calibrator.mean) ^ 2 ≤ 9 * (calibrator.m2 / calibrator.count) ↔
      ((bound : Real) - calibrator.mean) ^ 2 ≤
        (3 * √(calibrator.m2 / calibrator.count)) ^ 2 := by
    rw [mul_pow, Real.sq_sqrt variance]
    norm_num
    exact_mod_cast Iff.rfl
  rw [Reaches, squares]
  constructor
  · rintro (below | within)
    · have cast : (bound : Real) ≤ calibrator.mean := by exact_mod_cast below
      linarith
    · have close := abs_le.mp (abs_le_of_sq_le_sq within (by positivity))
      linarith
  · intro reached
    rcases le_or_gt bound calibrator.mean with below | above
    · exact .inl below
    · have cast : (calibrator.mean : Real) < bound := by exact_mod_cast above
      apply Or.inr
      apply pow_le_pow_left₀
      · linarith
      · linarith

theorem reached_le (calibrator : BaselineCalibrator) :
    ((List.range' 51 45).countP fun candidate : Nat =>
      calibrator.Reaches ((candidate : Rat) - 1 / 2)) ≤ 45 := by
  apply Nat.le_trans List.countP_le_length
  exact Nat.le_of_eq List.length_range'

theorem threshold_toInt (calibrator : BaselineCalibrator) :
    calibrator.threshold.toInt =
      50 + (List.range' 51 45).countP fun candidate : Nat =>
        calibrator.Reaches ((candidate : Rat) - 1 / 2) := by
  have few := calibrator.reached_le
  rw [threshold, Int32.toInt_ofNat_of_lt (by omega)]
  push_cast
  rfl

theorem threshold_bounds (calibrator : BaselineCalibrator) :
    50 ≤ calibrator.threshold.toInt ∧ calibrator.threshold.toInt ≤ 95 := by
  have few := calibrator.reached_le
  rw [threshold_toInt]
  omega

theorem threshold_eq_clamp {calibrator : BaselineCalibrator} (nonneg : 0 ≤ calibrator.m2) :
    calibrator.threshold.toInt =
      Max.max 50 (Min.min 95
        (round ((calibrator.mean : Real) + 3 * √(calibrator.m2 / calibrator.count)))) := by
  have candidates : ∀ candidate : Nat, calibrator.Reaches ((candidate : Rat) - 1 / 2) ↔
      (candidate : Int) ≤
        round ((calibrator.mean : Real) + 3 * √(calibrator.m2 / calibrator.count)) := by
    intro candidate
    rw [reaches_iff nonneg, round_eq, Int.le_floor]
    push_cast
    constructor <;> intro reached <;> linarith
  have counted := countP_range'_le
    (round ((calibrator.mean : Real) + 3 * √(calibrator.m2 / calibrator.count))) 51 45
  simp only [threshold_toInt, candidates, counted]
  omega

end BaselineCalibrator

/-! ## The ticks -/

/-- What a tick brings to the calibration: the load, and the time since the start. -/
structure CalibrationTick where
  memPct : UInt32
  elapsed : Nat

def CalibrationTick.ends (tick : CalibrationTick) : Bool :=
  decide (calibrationWindow ≤ tick.elapsed)

/-- The loads that are not zero, up to the first tick that finds the window over. -/
def calibrationSamples (ticks : List CalibrationTick) : List UInt32 :=
  ((ticks.take (ticks.findIdx CalibrationTick.ends + 1)).map (·.memPct)).filter (0 < ·)

theorem calibrationSamples_cons (tick : CalibrationTick) (ticks : List CalibrationTick) :
    calibrationSamples (tick :: ticks) =
      [tick.memPct].filter (0 < ·) ++ if tick.ends then [] else calibrationSamples ticks := by
  have parts : ∀ taken : List CalibrationTick,
      ((tick :: taken).map (·.memPct)).filter (0 < ·) =
        [tick.memPct].filter (0 < ·) ++ (taken.map (·.memPct)).filter (0 < ·) := fun taken => by
    rw [List.map_cons, ← List.filter_append]
    rfl
  rw [calibrationSamples, List.findIdx_cons, List.take_succ_cons, parts]
  cases ended : tick.ends with
  | true => rfl
  | false => rfl

def CalibrationOutcome.threshold? : CalibrationOutcome → Option Int32
  | .calibrated threshold => some threshold
  | .cancelled _ => none

namespace HealingMonitor

/-- `calibration_tick`, with the outcome that `finalize_calibration` finds when it is
called. -/
def calibrationStep (monitor : HealingMonitor) (tick : CalibrationTick) :
    HealingMonitor × Option CalibrationOutcome :=
  if monitor.calibrationDone then
    (monitor, none)
  else
    let calibrator :=
      if 0 < tick.memPct then monitor.calibrator.observe tick.memPct else monitor.calibrator
    if calibrationWindow ≤ tick.elapsed then
      ({ monitor with calibrator := calibrator, calibrationDone := true },
        some calibrator.finalize)
    else
      ({ monitor with calibrator := calibrator }, none)

theorem calibrationTick_eq (monitor : HealingMonitor) (elapsed : Nat) :
    monitor.calibrationTick elapsed =
      ((monitor.calibrationStep ⟨monitor.currentMetrics.memoryUsagePct, elapsed⟩).1,
        (monitor.calibrationStep
          ⟨monitor.currentMetrics.memoryUsagePct, elapsed⟩).2.bind (·.threshold?)) := by
  unfold calibrationTick calibrationStep
  split
  · rfl
  · dsimp only
    split
    · rfl
    · rfl

def afterTicks (monitor : HealingMonitor) (ticks : List CalibrationTick) : HealingMonitor :=
  ticks.foldl (fun monitor tick => (monitor.calibrationStep tick).1) monitor

theorem calibrationStep_of_done {monitor : HealingMonitor}
    (done : monitor.calibrationDone = true) (tick : CalibrationTick) :
    monitor.calibrationStep tick = (monitor, none) := by
  rw [calibrationStep, if_pos done]

theorem afterTicks_of_done {monitor : HealingMonitor} (done : monitor.calibrationDone = true)
    (ticks : List CalibrationTick) : monitor.afterTicks ticks = monitor := by
  induction ticks with
  | nil => rfl
  | cons tick ticks inductionHypothesis =>
      rw [afterTicks, List.foldl_cons, calibrationStep_of_done done]
      exact inductionHypothesis

theorem afterTicks_append (monitor : HealingMonitor) (ticks later : List CalibrationTick) :
    monitor.afterTicks (ticks ++ later) = (monitor.afterTicks ticks).afterTicks later :=
  List.foldl_append

theorem calibrationStep_of_pending {monitor : HealingMonitor}
    (pending : monitor.calibrationDone = false) (tick : CalibrationTick) :
    (monitor.calibrationStep tick).1.calibrator =
        ([tick.memPct].filter (0 < ·)).foldl BaselineCalibrator.observe monitor.calibrator ∧
      (monitor.calibrationStep tick).1.calibrationDone = tick.ends ∧
      (monitor.calibrationStep tick).2 =
        if tick.ends then some (monitor.calibrationStep tick).1.calibrator.finalize else none := by
  have sample : ([tick.memPct].filter (0 < ·)).foldl BaselineCalibrator.observe
      monitor.calibrator =
        if 0 < tick.memPct then monitor.calibrator.observe tick.memPct
        else monitor.calibrator := by
    by_cases load : 0 < tick.memPct <;> simp [load]
  rw [sample, calibrationStep, pending, if_neg Bool.false_ne_true]
  by_cases closed : calibrationWindow ≤ tick.elapsed
  · simp [CalibrationTick.ends, closed]
  · simp [CalibrationTick.ends, closed]

/-- What the ticks leave in the calibrator, and whether one of them ended the window. -/
theorem afterTicks_of_pending {monitor : HealingMonitor}
    (pending : monitor.calibrationDone = false) (ticks : List CalibrationTick) :
    (monitor.afterTicks ticks).calibrator =
        (calibrationSamples ticks).foldl BaselineCalibrator.observe monitor.calibrator ∧
      (monitor.afterTicks ticks).calibrationDone = ticks.any CalibrationTick.ends := by
  induction ticks generalizing monitor with
  | nil => exact ⟨rfl, pending⟩
  | cons tick ticks inductionHypothesis =>
      obtain ⟨observed, done, _⟩ := calibrationStep_of_pending pending tick
      rw [calibrationSamples_cons, List.foldl_append, ← observed, List.any_cons, ← done]
      rw [afterTicks, List.foldl_cons, ← afterTicks]
      cases ended : tick.ends with
      | true =>
          rw [afterTicks_of_done (done.trans ended), done, ended]
          exact ⟨rfl, rfl⟩
      | false =>
          rw [done, ended, Bool.false_or]
          exact inductionHypothesis (done.trans ended)

/-- The outcome is read at the first tick that finds the window over, and at no other. -/
theorem calibrationStep_outcome {monitor : HealingMonitor}
    (pending : monitor.calibrationDone = false) {ticks : List CalibrationTick} {index : Nat}
    {tick : CalibrationTick} (found : ticks[index]? = some tick) :
    ((monitor.afterTicks (ticks.take index)).calibrationStep tick).2 =
      if index = ticks.findIdx CalibrationTick.ends then
        some (monitor.afterTicks ticks).calibrator.finalize
      else none := by
  obtain ⟨bound, at_⟩ := List.getElem?_eq_some_iff.mp found
  have earlier := (afterTicks_of_pending pending (ticks.take index)).2
  have first : (ticks.take index).any CalibrationTick.ends = true ↔
      ticks.findIdx CalibrationTick.ends < index := by
    rw [List.any_eq_true, ← List.findIdx_lt_length, List.findIdx_take, List.length_take]
    omega
  by_cases closed : ticks.findIdx CalibrationTick.ends < index
  · rw [calibrationStep_of_done (earlier.trans (first.mpr closed)), if_neg closed.ne']
  · have waiting : (monitor.afterTicks (ticks.take index)).calibrationDone = false := by
      rw [earlier]
      exact Bool.eq_false_iff.mpr (mt first.mp closed)
    obtain ⟨_, done, outcome⟩ := calibrationStep_of_pending waiting tick
    rw [outcome]
    cases ended : tick.ends with
    | true =>
        have here : index = ticks.findIdx CalibrationTick.ends := by
          apply Nat.le_antisymm (Nat.le_of_not_lt closed)
          apply Nat.le_of_not_lt
          intro below
          have still := List.not_of_lt_findIdx below
          rw [at_, ended] at still
          exact Bool.noConfusion still
        have split_ : ticks = ticks.take index ++ tick :: ticks.drop (index + 1) := by
          rw [← at_, List.cons_getElem_drop_succ, List.take_append_drop]
        have last : monitor.afterTicks ticks =
            ((monitor.afterTicks (ticks.take index)).calibrationStep tick).1 := by
          conv_lhs => rw [split_, afterTicks_append]
          exact afterTicks_of_done (done.trans ended) _
        rw [if_pos rfl, if_pos here, last]
    | false =>
        have elsewhere : index ≠ ticks.findIdx CalibrationTick.ends := by
          rintro rfl
          have reached := List.findIdx_getElem (w := bound)
          rw [at_, ended] at reached
          exact Bool.noConfusion reached
        rw [if_neg Bool.false_ne_true, if_neg elsewhere]

end HealingMonitor

/-- The calibrator holds the moments of the samples, of all the ticks up to the one that
ends the window, in any order; that tick alone reads the outcome. -/
theorem calibration_exact_once (now : Nat) (ticks : List CalibrationTick) :
    let monitor := (HealingMonitor.subscribe now).afterTicks ticks
    let calibrator := monitor.calibrator
    let samples := calibrationSamples ticks
    let values := samples.map fun value => (value.toNat : Rat)
    calibrator = samples.foldl BaselineCalibrator.observe .new ∧
      calibrator.count = samples.length ∧
      calibrator.mean * samples.length = values.sum ∧
      calibrator.m2 = (values.map fun x => (x - calibrator.mean) ^ 2).sum ∧
      0 ≤ calibrator.m2 ∧
      (∀ other : List UInt32, other.Perm samples →
        other.foldl BaselineCalibrator.observe .new = calibrator) ∧
      (∀ (index : Nat) (tick : CalibrationTick), ticks[index]? = some tick →
        (((HealingMonitor.subscribe now).afterTicks (ticks.take index)).calibrationStep tick).2 =
          if index = ticks.findIdx CalibrationTick.ends then some calibrator.finalize
          else none) ∧
      ((∃ threshold, calibrator.finalize = .calibrated threshold) ↔
        60 ≤ samples.length ∧ ∃ x ∈ samples, ∃ y ∈ samples, x ≠ y) ∧
      ∀ threshold : Int32, calibrator.finalize = .calibrated threshold →
        50 ≤ threshold ∧ threshold ≤ 95 := by
  intro monitor calibrator samples values
  have pending : (HealingMonitor.subscribe now).calibrationDone = false := rfl
  have learned : calibrator = BaselineCalibrator.learn samples :=
    (HealingMonitor.afterTicks_of_pending pending ticks).1
  refine ⟨learned, ?_, ?_, ?_, ?_, ?_, ?_, ?_, ?_⟩
  · rw [learned]
    exact BaselineCalibrator.count_learn samples
  · rw [learned]
    exact BaselineCalibrator.mean_learn samples
  · rw [learned]
    exact BaselineCalibrator.m2_learn samples
  · rw [learned]
    exact BaselineCalibrator.m2_learn_nonneg samples
  · intro other same
    exact (BaselineCalibrator.learn_perm same).trans learned.symm
  · intro index tick found
    exact HealingMonitor.calibrationStep_outcome pending found
  · rw [learned]
    exact BaselineCalibrator.finalize_calibrated_iff samples
  · intro threshold finalized
    have same := BaselineCalibrator.threshold_of_finalize finalized
    have bounds := calibrator.threshold_bounds
    rw [same, Int32.le_iff_toInt_le, Int32.le_iff_toInt_le]
    exact bounds

/-! ## The ticks of the monitor task -/

namespace HealingMonitor

def SameLearning (before after : HealingMonitor) : Prop :=
  after.calibrator = before.calibrator ∧ after.calibrationDone = before.calibrationDone ∧
    after.calibrationStarted = before.calibrationStarted

theorem SameLearning.refl (monitor : HealingMonitor) : monitor.SameLearning monitor :=
  ⟨rfl, rfl, rfl⟩

theorem fire_learning (monitor : HealingMonitor) (layer : HealingLayer)
    (trigger : HealingTrigger) (now : Nat) :
    monitor.SameLearning (monitor.fire layer trigger now).1 := by
  unfold fire
  split <;> exact ⟨rfl, rfl, rfl⟩

theorem handleSystem_learning (monitor : HealingMonitor) (event : SystemEvent) (now : Nat) :
    monitor.SameLearning (monitor.handleSystem event now).1 := by
  unfold handleSystem
  cases event with
  | cpuUsage ratio =>
      dsimp only
      split
      · exact fire_learning _ _ _ _
      · split <;> exact ⟨rfl, rfl, rfl⟩
  | gpuUsage ratio =>
      dsimp only
      split
      · exact fire_learning _ _ _ _
      · exact ⟨rfl, rfl, rfl⟩
  | memUsage ratio =>
      dsimp only
      split
      · exact fire_learning _ _ _ _
      · exact ⟨rfl, rfl, rfl⟩
  | diskWarning freeMb => exact fire_learning _ _ _ _
  | networkStats rttMs lossPct => exact ⟨rfl, rfl, rfl⟩

theorem handleMedia_learning (monitor : HealingMonitor) (event : MediaEvent) (now : Nat) :
    monitor.SameLearning (monitor.handleMedia event now).1 := by
  unfold handleMedia
  cases event with
  | sourceDisconnected sourceId => exact fire_learning _ _ _ _
  | sourceReconnected sourceId => exact fire_learning _ _ _ _
  | frameDropped count =>
      dsimp only
      split
      · exact fire_learning _ _ _ _
      · exact ⟨rfl, rfl, rfl⟩
  | frameDropPct pct => exact ⟨rfl, rfl, rfl⟩
  | encodeError code => exact fire_learning _ _ _ _

theorem evaluatePredictive_learning (monitor : HealingMonitor) (now : Nat) :
    monitor.SameLearning (monitor.evaluatePredictive now).1 := by
  have fields := fire_learning
  simp only [SameLearning] at fields
  unfold evaluatePredictive SameLearning
  cases monitor.trend.cpuHighSince with
  | none =>
      dsimp only
      split
      · exact fields _ _ _ _
      · exact ⟨rfl, rfl, rfl⟩
  | some start =>
      by_cases fires :
          4 * 1000000000 ≤ now - start ∧ monitor.cooldown.canFire .predictive now = true
      · simp only [fires, and_self, if_true]
        split <;> simp [fields]
      · simp only [fires, if_false]
        split <;> simp [fields]

theorem evaluateAdaptive_learning (monitor : HealingMonitor) (mode : HealingMode) (now : Nat) :
    monitor.SameLearning (monitor.evaluateAdaptive mode now).1 := by
  cases mode with
  | coPilot | manual => exact .refl monitor
  | autoPilot | assist =>
      dsimp only [evaluateAdaptive]
      split
      · exact fire_learning _ _ _ _
      · exact .refl monitor

/-- A tick reads the calibrator and whether the window is over, and moves only these. -/
theorem calibrationStep_learning {monitor other : HealingMonitor}
    (calibrator : other.calibrator = monitor.calibrator)
    (done : other.calibrationDone = monitor.calibrationDone) (tick : CalibrationTick) :
    (other.calibrationStep tick).1.calibrator = (monitor.calibrationStep tick).1.calibrator ∧
      (other.calibrationStep tick).1.calibrationDone =
        (monitor.calibrationStep tick).1.calibrationDone ∧
      (other.calibrationStep tick).1.calibrationStarted = other.calibrationStarted := by
  unfold calibrationStep
  rw [calibrator, done]
  split
  · exact ⟨calibrator, done, rfl⟩
  · dsimp only
    split
    · exact ⟨rfl, rfl, rfl⟩
    · exact ⟨rfl, rfl, rfl⟩

end HealingMonitor

namespace Threads

/-- A step ticks the calibration by the time since the start, or leaves it alone. -/
theorem step_learning {state next : Threads} {action : ThreadAction}
    (stepped : state.step action = some next) :
    next.monitor = (state.monitor.calibrationStep
        ⟨state.monitor.currentMetrics.memoryUsagePct,
          state.ffi.clock - state.monitor.calibrationStarted⟩).1 ∨
      state.monitor.SameLearning next.monitor := by
  rcases step_cases stepped with ⟨_, advanced⟩ | ⟨index, _, resumed⟩ | ⟨parsed, _, rfl⟩ |
    ⟨_, _, _, outside⟩
  · cases advance_cases advanced with
    | calibrated =>
        have same := state.monitor.calibrationTick_eq
          (state.ffi.clock - state.monitor.calibrationStarted)
        exact .inl (congrArg Prod.fst same)
    | handledSystem event => exact .inr (state.monitor.handleSystem_learning event _)
    | handledMedia event => exact .inr (state.monitor.handleMedia_learning event _)
    | predicted => exact .inr (state.monitor.evaluatePredictive_learning _)
    | adapted mode => exact .inr (state.monitor.evaluateAdaptive_learning mode _)
    | evaluated mode =>
        apply Or.inr
        have same := state.collectRuleActions_monitor mode
        change state.monitor.SameLearning (state.collectRuleActions mode).1.monitor
        rw [same]
        exact .refl _
    | routed =>
        apply Or.inr
        simp only [route]
        split <;> exact .refl _
    | swept | notified | stopped | began | finished => exact .inr (.refl _)
  · obtain ⟨_, _, rfl⟩ := Option.map_eq_some_iff.mp resumed
    exact .inr (.refl _)
  · exact .inr (.refl _)
  · rw [outside.monitor]
    exact .inr (.refl _)

/-- What the calibration of the threads holds is what some ticks, later and later, leave
in a fresh monitor. -/
def Learned (clock : Nat) (state : Threads) : Prop :=
  clock ≤ state.ffi.clock ∧ state.monitor.calibrationStarted = clock ∧
    ∃ ticks : List CalibrationTick,
      ticks.Pairwise (fun earlier later => earlier.elapsed ≤ later.elapsed) ∧
      (∀ tick ∈ ticks, tick.elapsed ≤ state.ffi.clock - clock) ∧
      state.monitor.calibrator = ((HealingMonitor.subscribe clock).afterTicks ticks).calibrator ∧
      state.monitor.calibrationDone =
        ((HealingMonitor.subscribe clock).afterTicks ticks).calibrationDone

theorem learned_start (mode : UInt32) (rules : Option ParsedRules) (clock : Nat) :
    (start mode rules clock).Learned clock :=
  ⟨Nat.le_refl _, rfl, [], .nil, nofun, rfl, rfl⟩

theorem Learned.step {clock : Nat} {state next : Threads} {action : ThreadAction}
    (learned : state.Learned clock) (stepped : state.step action = some next) :
    next.Learned clock := by
  obtain ⟨began, started, ticks, sorted, past, calibrator, done⟩ := learned
  have later := step_clock stepped
  rcases step_learning stepped with ticked | ⟨sameCalibrator, sameDone, sameStarted⟩
  · generalize tick_eq : CalibrationTick.mk state.monitor.currentMetrics.memoryUsagePct
      (state.ffi.clock - state.monitor.calibrationStarted) = tick at ticked
    have elapsed : tick.elapsed = state.ffi.clock - clock := by
      rw [← tick_eq, started]
    obtain ⟨stepCalibrator, stepDone, stepStarted⟩ :=
      HealingMonitor.calibrationStep_learning calibrator done tick
    refine ⟨Nat.le_trans began later, by rw [ticked, stepStarted, started], ticks ++ [tick], ?_, ?_,
      ?_, ?_⟩
    · apply List.pairwise_append.mpr
      refine ⟨sorted, List.pairwise_singleton _ _, ?_⟩
      intro earlier membership last here
      rw [List.mem_singleton.mp here, elapsed]
      exact past earlier membership
    · intro seen membership
      rcases List.mem_append.mp membership with earlier | last
      · have bound := past seen earlier
        omega
      · rw [List.mem_singleton.mp last, elapsed]
        omega
    · rw [ticked, stepCalibrator, HealingMonitor.afterTicks_append]
      rfl
    · rw [ticked, stepDone, HealingMonitor.afterTicks_append]
      rfl
  · refine ⟨Nat.le_trans began later, sameStarted.trans started, ticks, sorted, ?_,
      sameCalibrator.trans calibrator, sameDone.trans done⟩
    intro tick membership
    have bound := past tick membership
    omega

/-- In every run the calibration is one of ticks whose times never go back. -/
theorem exec_learned {mode : UInt32} {rules : Option ParsedRules} {clock : Nat}
    {actions : List ThreadAction} {state : Threads}
    (ran : Machine.exec step (start mode rules clock) actions = some state) :
    state.Learned clock :=
  Machine.exec_invariant (fun _ _ _ learned stepped => learned.step stepped)
    (learned_start mode rules clock) ran

end Threads

end RejiStudio.Orchestrator
