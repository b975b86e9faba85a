import Mathlib.Data.Int.Order.Basic
import RejiStudio.Orchestrator.ConditionLeaves
import RejiStudio.Orchestrator.ConditionNormalForm

/-!
# Conditions under a calibrated threshold

The calibrated threshold takes the place of every number that the memory usage is compared
with, whatever the comparison.  A disjunct stays satisfiable when its comparisons of the
memory usage agree with one side of a common threshold.
-/

namespace RejiStudio.Orchestrator

open RejiStudio.Lib

def memoryName : List Char := "memory_usage_pct".toList

def calibratedTable (threshold : Int32) : CalibrationTable :=
  Function.update CalibrationTable.empty memoryName (some threshold)

structure RuleMetrics.InRange (metrics : RuleMetrics) : Prop where
  frameDropPct : metrics.frameDropPct.toNat ≤ 100
  memoryUsagePct : metrics.memoryUsagePct.toNat ≤ 100
  cpuLoadPct : metrics.cpuLoadPct.toNat ≤ 100
  gpuLoadPct : metrics.gpuLoadPct.toNat ≤ 100
  networkLossPct : metrics.networkLossPct.toNat ≤ 100

/-- The comparison of a leaf that compares the memory usage with a number. -/
def memoryComparison (leaf : List Char) : Option Comparison :=
  match findComparison leaf with
  | none => none
  | some (op, before, after) =>
      if Text.trim before = memoryName ∧ (Text.parseInt32 (Text.trim after)).isSome = true then
        some op
      else none

def Comparison.admits (side : Ordering) : Comparison → Bool
  | ge => side ≠ .lt
  | le => side ≠ .gt
  | gt => side = .gt
  | lt => side = .lt
  | eq => side = .eq

/-- All comparisons of the memory usage are true on one side of a common threshold. -/
def OneSided (leaves : List (List Char)) : Prop :=
  ∃ side, ∀ leaf ∈ leaves, ∀ op, memoryComparison leaf = some op → op.admits side = true

theorem Comparison.holds_eq_admits (op : Comparison) (value threshold : Int32) :
    op.holds value threshold = op.admits (compare value.toInt threshold.toInt) := by
  rw [Bool.eq_iff_iff, op.holds_iff]
  rcases lt_trichotomy value.toInt threshold.toInt with below | same | above
  · rw [compare_lt_iff_lt.mpr below]
    cases op <;> simp [Comparison.Relates, admits] <;> omega
  · rw [compare_eq_iff_eq.mpr same]
    cases op <;> simp [Comparison.Relates, admits, same]
  · rw [compare_gt_iff_gt.mpr above]
    cases op <;> simp [Comparison.Relates, admits] <;> omega

/-! ## Comparisons under the table -/

theorem metricValueAndId_memory (metrics : RuleMetrics) :
    metricValueAndId memoryName metrics = some (metrics.memoryUsagePct.toInt32, 3) := by
  have notFrameDrop : memoryName ≠ "frame_drop_pct".toList := by decide +kernel
  have notGpuTemp : memoryName ≠ "gpu_temp_c".toList := by decide +kernel
  have notCpuTemp : memoryName ≠ "cpu_temp_c".toList := by decide +kernel
  have memory : memoryName = "memory_usage_pct".toList := rfl
  rw [metricValueAndId, if_neg notFrameDrop, if_neg notGpuTemp, if_neg notCpuTemp, if_pos memory]

/-- The other metrics do not depend on the memory usage. -/
theorem metricValueAndId_other {name : List Char} (other : name ≠ memoryName)
    (metrics : RuleMetrics) (usage : UInt32) :
    metricValueAndId name { metrics with memoryUsagePct := usage } =
      metricValueAndId name metrics := by
  have different : ¬name = "memory_usage_pct".toList := other
  simp only [metricValueAndId, if_neg different]

theorem leafHolds_of_memoryComparison {leaf : List Char} {op : Comparison}
    (compares : memoryComparison leaf = some op) (metrics : RuleMetrics) (threshold : Int32) :
    leafHolds metrics (calibratedTable threshold) leaf =
      op.holds metrics.memoryUsagePct.toInt32 threshold := by
  unfold memoryComparison at compares
  cases found : findComparison leaf with
  | none => simp [found] at compares
  | some parts =>
      obtain ⟨first, before, after⟩ := parts
      rw [found] at compares
      obtain ⟨⟨name, number⟩, same⟩ := Option.ite_none_right_eq_some.mp compares
      cases same
      obtain ⟨literal, parsed⟩ := Option.isSome_iff_exists.mp number
      simp [leafHolds, evalSingleCondition, found, name, parsed, metricValueAndId_memory,
        effectiveThreshold, calibratedTable]

/-- Any other leaf depends neither on the threshold nor on the memory usage. -/
theorem leafHolds_of_other {leaf : List Char} (other : memoryComparison leaf = none)
    (metrics : RuleMetrics) (threshold : Int32) (usage : UInt32) :
    leafHolds { metrics with memoryUsagePct := usage } (calibratedTable threshold) leaf =
      leafHolds metrics .empty leaf := by
  unfold memoryComparison at other
  cases found : findComparison leaf with
  | none => simp [leafHolds, evalSingleCondition, found]
  | some parts =>
      obtain ⟨op, before, after⟩ := parts
      rw [found] at other
      cases parsed : Text.parseInt32 (Text.trim after) with
      | none => simp [leafHolds, evalSingleCondition, found, parsed]
      | some literal =>
          have name : Text.trim before ≠ memoryName := by
            intro same
            simp [same, parsed] at other
          simp only [leafHolds, evalSingleCondition, found, parsed,
            metricValueAndId_other name, effectiveThreshold, calibratedTable,
            Function.update_of_ne name]

/-! ## Conditions under the table -/

theorem exists_usage {threshold : Int32} (lower : 50 ≤ threshold.toInt)
    (upper : threshold.toInt ≤ 95) (side : Ordering) :
    ∃ usage : UInt32, usage.toNat ≤ 100 ∧
      compare usage.toInt32.toInt threshold.toInt = side := by
  have small : ∀ n : Nat, n ≤ 100 → (UInt32.ofNat n).toNat = n ∧
      (UInt32.ofNat n).toInt32.toInt = n := by
    intro n bound
    have value : (UInt32.ofNat n).toNat = n := by
      rw [UInt32.toNat_ofNat']
      omega
    refine ⟨value, ?_⟩
    rw [toInt_toInt32, value]
    omega
  cases side with
  | lt =>
      obtain ⟨value, signed⟩ := small 0 (by omega)
      exact ⟨UInt32.ofNat 0, by omega, by rw [signed, compare_lt_iff_lt]; omega⟩
  | eq =>
      obtain ⟨value, signed⟩ := small threshold.toInt.toNat (by omega)
      exact ⟨UInt32.ofNat threshold.toInt.toNat, by omega,
        by rw [signed, compare_eq_iff_eq]; omega⟩
  | gt =>
      obtain ⟨value, signed⟩ := small 100 (by omega)
      exact ⟨UInt32.ofNat 100, by omega, by rw [signed, compare_gt_iff_gt]; omega⟩

/-- Metrics with another memory usage satisfy the calibrated comparisons. -/
theorem exists_calibrated {leaves : List (List Char)} (oneSided : OneSided leaves)
    {metrics : RuleMetrics} (inRange : metrics.InRange)
    (others : ∀ leaf ∈ leaves, memoryComparison leaf = none →
      leafHolds metrics .empty leaf = true)
    {threshold : Int32} (lower : 50 ≤ threshold.toInt) (upper : threshold.toInt ≤ 95) :
    ∃ calibrated : RuleMetrics, calibrated.InRange ∧
      leaves.all (leafHolds calibrated (calibratedTable threshold)) = true := by
  obtain ⟨side, admitted⟩ := oneSided
  obtain ⟨usage, bound, onSide⟩ := exists_usage lower upper side
  refine ⟨{ metrics with memoryUsagePct := usage }, { inRange with memoryUsagePct := bound }, ?_⟩
  rw [List.all_eq_true]
  intro leaf member
  cases compares : memoryComparison leaf with
  | none =>
      rw [leafHolds_of_other compares]
      exact others leaf member compares
  | some op =>
      rw [leafHolds_of_memoryComparison compares, op.holds_eq_admits, onSide]
      exact admitted leaf member op compares

/-- Comparisons that hold under the table are true on the side of the memory usage. -/
theorem oneSided_of_calibrated {leaves : List (List Char)} {metrics : RuleMetrics}
    {threshold : Int32}
    (holds : leaves.all (leafHolds metrics (calibratedTable threshold)) = true) :
    OneSided leaves ∧ ∀ leaf ∈ leaves, memoryComparison leaf = none →
      leafHolds metrics .empty leaf = true := by
  rw [List.all_eq_true] at holds
  constructor
  · refine ⟨compare metrics.memoryUsagePct.toInt32.toInt threshold.toInt, ?_⟩
    intro leaf member op compares
    have held := holds leaf member
    rwa [leafHolds_of_memoryComparison compares, op.holds_eq_admits] at held
  · intro leaf member other
    rw [← leafHolds_of_other other metrics threshold metrics.memoryUsagePct]
    exact holds leaf member

/-- A condition that some metrics in range satisfy, in a disjunct whose comparisons of the
memory usage are all true on one side of a common threshold, is satisfied by some metrics in
range under every calibrated threshold; and under a calibrated threshold only conditions with
such a disjunct, whose other comparisons some metrics in range satisfy, are satisfied by
any. -/
theorem calibrated_satisfiable (condition : List Char) (threshold : Int32)
    (lower : 50 ≤ threshold.toInt) (upper : threshold.toInt ≤ 95) :
    (∀ leaves ∈ conditionLeaves condition, OneSided leaves →
      ∀ metrics : RuleMetrics, metrics.InRange →
        leaves.all (leafHolds metrics .empty) = true →
        evalConditionCalibrated condition metrics .empty = true ∧
        ∃ calibrated : RuleMetrics, calibrated.InRange ∧
          evalConditionCalibrated condition calibrated (calibratedTable threshold) = true) ∧
    ((∃ calibrated : RuleMetrics, calibrated.InRange ∧
        evalConditionCalibrated condition calibrated (calibratedTable threshold) = true) ↔
      ∃ leaves ∈ conditionLeaves condition, OneSided leaves ∧
        ∃ metrics : RuleMetrics, metrics.InRange ∧
          ∀ leaf ∈ leaves, memoryComparison leaf = none →
            leafHolds metrics .empty leaf = true) := by
  have satisfied : ∀ leaves ∈ conditionLeaves condition, OneSided leaves →
      ∀ metrics : RuleMetrics, metrics.InRange →
        (∀ leaf ∈ leaves, memoryComparison leaf = none →
          leafHolds metrics .empty leaf = true) →
        ∃ calibrated : RuleMetrics, calibrated.InRange ∧
          evalConditionCalibrated condition calibrated (calibratedTable threshold) = true := by
    intro leaves member oneSided metrics inRange others
    obtain ⟨calibrated, calibratedRange, holds⟩ :=
      exists_calibrated oneSided inRange others lower upper
    refine ⟨calibrated, calibratedRange, ?_⟩
    rw [evalConditionCalibrated_eq_leaves, List.any_eq_true]
    exact ⟨leaves, member, holds⟩
  refine ⟨?_, ?_, ?_⟩
  · intro leaves member oneSided metrics inRange holds
    constructor
    · rw [evalConditionCalibrated_eq_leaves, List.any_eq_true]
      exact ⟨leaves, member, holds⟩
    · apply satisfied leaves member oneSided metrics inRange
      intro leaf inside _
      exact List.all_eq_true.mp holds leaf inside
  · rintro ⟨calibrated, calibratedRange, holds⟩
    rw [evalConditionCalibrated_eq_leaves, List.any_eq_true] at holds
    obtain ⟨leaves, member, all⟩ := holds
    obtain ⟨oneSided, others⟩ := oneSided_of_calibrated all
    exact ⟨leaves, member, oneSided, calibrated, calibratedRange, others⟩
  · rintro ⟨leaves, member, oneSided, metrics, inRange, others⟩
    exact satisfied leaves member oneSided metrics inRange others

def memoryBand : List Char := "memory_usage_pct >= 60 && memory_usage_pct < 80".toList

theorem calibrated_satisfiable_pressure :
    ∃ calibrated : RuleMetrics, calibrated.InRange ∧
      evalConditionCalibrated "memory_usage_pct > 85".toList calibrated (calibratedTable 70) =
        true := by
  have inRange : RuleMetrics.InRange { RuleMetrics.default with memoryUsagePct := 90 } := by
    constructor <;> decide
  have leaves : conditionLeaves "memory_usage_pct > 85".toList =
      [["memory_usage_pct > 85".toList]] := by
    decide +kernel
  have oneSided : OneSided ["memory_usage_pct > 85".toList] := by
    refine ⟨.gt, ?_⟩
    intro leaf member op compares
    rw [List.mem_singleton.mp member] at compares
    have read : memoryComparison "memory_usage_pct > 85".toList = some .gt := by decide +kernel
    cases read.symm.trans compares
    rfl
  exact ((calibrated_satisfiable "memory_usage_pct > 85".toList 70 (by decide) (by decide)).1
    _ (by rw [leaves]; exact List.mem_singleton.mpr rfl) oneSided
    { RuleMetrics.default with memoryUsagePct := 90 } inRange (by decide +kernel)).2

/-- A calibrated threshold empties the band. -/
theorem memoryBand_unsatisfiable :
    (∃ metrics : RuleMetrics, metrics.InRange ∧
      evalConditionCalibrated memoryBand metrics .empty = true) ∧
    ∀ metrics : RuleMetrics,
      evalConditionCalibrated memoryBand metrics (calibratedTable 85) = false := by
  have leaves : conditionLeaves memoryBand =
      [["memory_usage_pct >= 60".toList, "memory_usage_pct < 80".toList]] := by
    decide +kernel
  have low : memoryComparison "memory_usage_pct >= 60".toList = some .ge := by decide +kernel
  have high : memoryComparison "memory_usage_pct < 80".toList = some .lt := by decide +kernel
  constructor
  · refine ⟨{ RuleMetrics.default with memoryUsagePct := 70 }, ?_, by decide +kernel⟩
    constructor <;> decide
  · intro metrics
    rw [evalConditionCalibrated_eq_leaves, leaves]
    simp only [List.any_cons, List.any_nil, List.all_cons, List.all_nil, Bool.and_true,
      Bool.or_false, leafHolds_of_memoryComparison low, leafHolds_of_memoryComparison high,
      Comparison.holds_eq_admits]
    cases compare metrics.memoryUsagePct.toInt32.toInt (85 : Int32).toInt <;> rfl

end RejiStudio.Orchestrator
