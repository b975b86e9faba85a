import RejiStudio.Lib.Delimited
import RejiStudio.Orchestrator.Condition

/-!
# The comparisons of a condition

The evaluator splits a condition at its operators, the explanation looks for its first
comparison.  Both work on one list of comparisons.
-/

namespace RejiStudio.Orchestrator

open RejiStudio.Lib

variable {metrics : RuleMetrics} {calib : CalibrationTable}

def disjuncts (condition : List Char) : List (List Char) :=
  Text.split orOperator orOperator_nonempty (Text.trim condition)

def conjuncts (part : List Char) : List (List Char) :=
  (Text.split andOperator andOperator_nonempty (Text.trim part)).map Text.trim

def conditionLeaves (condition : List Char) : List (List (List Char)) :=
  (disjuncts condition).map conjuncts

def leafHolds (metrics : RuleMetrics) (calib : CalibrationTable) (leaf : List Char) : Bool :=
  match evalSingleCondition leaf metrics calib with
  | .ok result => result
  | .error _ => false

theorem conjuncts_trim (part : List Char) : conjuncts (Text.trim part) = conjuncts part := by
  simp [conjuncts]

/-! ## The evaluator -/

theorem eval_comparison {text : List Char}
    (noOr : Text.contains orOperator text = false)
    (noAnd : Text.contains andOperator text = false) :
    evalConditionCalibrated text metrics calib = leafHolds metrics calib (Text.trim text) := by
  have whole := evalConditionCalibrated_eq text metrics calib
  have trimmedOr := Text.contains_eq_false_of_infix (Text.trim_infix text) noOr
  have trimmedAnd := Text.contains_eq_false_of_infix (Text.trim_infix text) noAnd
  rw [if_neg (by simp [trimmedOr]), if_neg (by simp [trimmedAnd])] at whole
  exact whole

theorem eval_conjuncts {part : List Char} (noOr : Text.contains orOperator part = false) :
    evalConditionCalibrated part metrics calib =
      (conjuncts part).all (leafHolds metrics calib) := by
  have trimmedOr := Text.contains_eq_false_of_infix (Text.trim_infix part) noOr
  unfold conjuncts
  rw [List.all_map]
  cases conjunction : Text.contains andOperator (Text.trim part) with
  | true =>
      rw [evalConditionCalibrated_eq, if_neg (by simp [trimmedOr]), if_pos conjunction]
      rw [Bool.eq_iff_iff, List.all_eq_true, List.all_eq_true]
      apply forall₂_congr
      intro piece member
      obtain ⟨pieceAnd, inside⟩ := Text.contains_of_mem_split member
      have pieceOr := Text.contains_eq_false_of_infix inside trimmedOr
      have leaf : evalConditionCalibrated (Text.trim piece) metrics calib =
          leafHolds metrics calib (Text.trim (Text.trim piece)) :=
        eval_comparison (Text.contains_eq_false_of_infix (Text.trim_infix piece) pieceOr)
          (Text.contains_eq_false_of_infix (Text.trim_infix piece) pieceAnd)
      rw [leaf, Text.trim_trim, Function.comp_apply]
  | false =>
      have leaf : evalConditionCalibrated part metrics calib =
          leafHolds metrics calib (Text.trim part) := by
        have whole := evalConditionCalibrated_eq part metrics calib
        rw [if_neg (by simp [trimmedOr]), if_neg (by simp [conjunction])] at whole
        exact whole
      rw [leaf, Text.split_of_lacking conjunction]
      simp

theorem evalConditionCalibrated_eq_leaves (condition : List Char) (metrics : RuleMetrics)
    (calib : CalibrationTable) :
    evalConditionCalibrated condition metrics calib =
      (conditionLeaves condition).any fun leaves => leaves.all (leafHolds metrics calib) := by
  unfold conditionLeaves disjuncts
  rw [List.any_map]
  cases disjunction : Text.contains orOperator (Text.trim condition) with
  | true =>
      rw [evalConditionCalibrated_eq, if_pos disjunction]
      rw [Bool.eq_iff_iff, List.any_eq_true, List.any_eq_true]
      apply exists_congr
      intro part
      apply and_congr_right
      intro member
      have lacks := (Text.contains_of_mem_split member).1
      have trimmed := Text.contains_eq_false_of_infix (Text.trim_infix part) lacks
      rw [eval_conjuncts trimmed, conjuncts_trim, Function.comp_apply]
  | false =>
      have conjunction : evalConditionCalibrated condition metrics calib =
          evalConditionCalibrated (Text.trim condition) metrics calib := by
        rw [evalConditionCalibrated_eq condition, evalConditionCalibrated_eq (Text.trim condition),
          Text.trim_trim]
      rw [conjunction, eval_conjuncts disjunction, Text.split_of_lacking disjunction]
      simp

/-! ## The first comparison -/

theorem firstLeaf_eq (condition : List Char) :
    firstLeaf condition =
      match Text.splitFirst orOperator (Text.trim condition) with
      | some (before, _) => firstLeaf before
      | none =>
          match Text.splitFirst andOperator (Text.trim condition) with
          | some (before, _) => firstLeaf before
          | none => Text.trim condition := by
  rw [firstLeaf]
  split
  next found => rw [found]
  next absent =>
    rw [absent]
    split
    next found => rw [found]
    next lacking => rw [lacking]

theorem splitFirst_trim_of_lacking {pattern text : List Char}
    (lacks : Text.contains pattern text = false) :
    Text.splitFirst pattern (Text.trim text) = none := by
  have trimmed := Text.contains_eq_false_of_infix (Text.trim_infix text) lacks
  rwa [Text.contains, Option.isSome_eq_false_iff, Option.isNone_iff_eq_none] at trimmed

/-- Without `||` the first comparison is the first of the conjunction. -/
theorem conjuncts_eq_firstLeaf {part : List Char}
    (noOr : Text.contains orOperator part = false) :
    ∃ rest, conjuncts part = firstLeaf part :: rest := by
  unfold conjuncts
  rw [firstLeaf_eq, splitFirst_trim_of_lacking noOr]
  cases found : Text.splitFirst andOperator (Text.trim part) with
  | none =>
      rw [Text.split_of_absent found]
      exact ⟨[], by simp⟩
  | some pair =>
      obtain ⟨before, after⟩ := pair
      have inside : before <:+: Text.trim part := by
        rw [Text.eq_of_splitFirst found, List.append_assoc]
        exact (List.prefix_append _ _).isInfix
      have beforeOr := Text.contains_eq_false_of_infix (inside.trans (Text.trim_infix part)) noOr
      have beforeAnd := Text.contains_before andOperator_nonempty found
      have leaf : firstLeaf before = Text.trim before := by
        rw [firstLeaf_eq, splitFirst_trim_of_lacking beforeOr,
          splitFirst_trim_of_lacking beforeAnd]
      rw [Text.split_of_found found]
      dsimp only
      rw [leaf]
      exact ⟨_, rfl⟩

theorem conditionLeaves_eq_firstLeaf (condition : List Char) :
    ∃ rest others, conditionLeaves condition = (firstLeaf condition :: rest) :: others := by
  unfold conditionLeaves disjuncts
  cases found : Text.splitFirst orOperator (Text.trim condition) with
  | none =>
      have lacks : Text.contains orOperator (Text.trim condition) = false := by
        rw [Text.contains, found]
        rfl
      obtain ⟨rest, same⟩ := conjuncts_eq_firstLeaf lacks
      have leaf : firstLeaf (Text.trim condition) = firstLeaf condition := by
        rw [firstLeaf_eq, firstLeaf_eq condition, Text.trim_trim]
      rw [Text.split_of_absent found, List.map_singleton, same, leaf]
      exact ⟨rest, [], rfl⟩
  | some pair =>
      obtain ⟨before, after⟩ := pair
      obtain ⟨rest, same⟩ :=
        conjuncts_eq_firstLeaf (Text.contains_before orOperator_nonempty found)
      have leaf : firstLeaf condition = firstLeaf before := by
        rw [firstLeaf_eq, found]
      rw [Text.split_of_found found, List.map_cons, same, leaf]
      exact ⟨rest, _, rfl⟩

/-! ## The explanation -/

theorem metricValueAndId_ne_none {metricName : List Char} {value : Int32} {metricId : UInt32}
    (found : metricValueAndId metricName metrics = some (value, metricId)) :
    metricId ≠ metricIdNone := by
  have numbered : ∀ entry ∈ metricWords, (entry.2 metrics).2 ≠ metricIdNone := by
    simp [metricWords, metricIdNone]
  rw [metricValueAndId_eq_lookup] at found
  obtain ⟨word, listed, read⟩ := Option.map_eq_some_iff.mp found
  have known : (word metrics).2 ≠ metricIdNone :=
    numbered (metricName, word) (mem_of_lookup listed)
  rwa [read] at known

/-- A comparison is explained exactly when it can be evaluated, and by the words that the
evaluation compares. -/
theorem explanationForCalibrated_cases (condition : List Char) (metrics : RuleMetrics)
    (calib : CalibrationTable) :
    (∃ message, evalSingleCondition (firstLeaf condition) metrics calib = .error message ∧
      explanationForCalibrated condition metrics calib = .none) ∨
    ∃ op before after literal value metricId,
      findComparison (firstLeaf condition) = some (op, before, after) ∧
      Text.parseInt32 (Text.trim after) = some literal ∧
      metricValueAndId (Text.trim before) metrics = some (value, metricId) ∧
      evalSingleCondition (firstLeaf condition) metrics calib =
        .ok (op.holds value (effectiveThreshold (Text.trim before) literal calib).1) ∧
      explanationForCalibrated condition metrics calib =
        { metricId := metricId
          currentValue := value
          thresholdValue := (effectiveThreshold (Text.trim before) literal calib).1
          calibrated := (effectiveThreshold (Text.trim before) literal calib).2 } := by
  unfold explanationForCalibrated evalSingleCondition parseLeaf
  cases comparison : findComparison (firstLeaf condition) with
  | none => exact .inl ⟨_, rfl, by simp⟩
  | some found =>
      obtain ⟨op, before, after⟩ := found
      cases parsed : Text.parseInt32 (Text.trim after) with
      | none => exact .inl ⟨"Invalid threshold: ".toList ++ Text.trim after, by simp [parsed]⟩
      | some literal =>
          cases known : metricValueAndId (Text.trim before) metrics with
          | none =>
              exact .inl ⟨"Unknown metric: ".toList ++ Text.trim before, by simp [parsed, known]⟩
          | some reading =>
              obtain ⟨value, metricId⟩ := reading
              refine .inr ⟨op, before, after, literal, value, metricId, rfl, parsed, known, ?_⟩
              simp [parsed, known]

/-- Without `||` the first comparison is one of those that have to hold. -/
theorem leafHolds_firstLeaf {condition : List Char} {metrics : RuleMetrics}
    {calib : CalibrationTable} (noOr : Text.contains orOperator condition = false)
    (holds : evalConditionCalibrated condition metrics calib = true) :
    leafHolds metrics calib (firstLeaf condition) = true := by
  obtain ⟨rest, same⟩ := conjuncts_eq_firstLeaf noOr
  rw [eval_conjuncts noOr, same, List.all_cons, Bool.and_eq_true] at holds
  exact holds.1

/-- An explanation names a metric exactly when its comparison evaluates, and then it carries
the value, the threshold and the flag of that evaluation; for a condition without `||` that
holds, the explained comparison holds. -/
theorem explanation_agrees (condition : List Char) (metrics : RuleMetrics)
    (calib : CalibrationTable) :
    let leaf := firstLeaf condition
    let explanation := explanationForCalibrated condition metrics calib
    (explanation.metricId ≠ metricIdNone ↔
      ∃ result, evalSingleCondition leaf metrics calib = .ok result) ∧
    (explanation.metricId ≠ metricIdNone →
      ∃ op before after literal, findComparison leaf = some (op, before, after) ∧
        Text.parseInt32 (Text.trim after) = some literal ∧
        metricValueAndId (Text.trim before) metrics =
          some (explanation.currentValue, explanation.metricId) ∧
        effectiveThreshold (Text.trim before) literal calib =
          (explanation.thresholdValue, explanation.calibrated) ∧
        evalSingleCondition leaf metrics calib =
          .ok (op.holds explanation.currentValue explanation.thresholdValue)) ∧
    (Text.contains orOperator condition = false →
      evalConditionCalibrated condition metrics calib = true →
      ∃ op before after, findComparison leaf = some (op, before, after) ∧
        op.holds explanation.currentValue explanation.thresholdValue = true) := by
  intro leaf explanation
  rcases explanationForCalibrated_cases condition metrics calib with
    ⟨message, failed, unexplained⟩ |
    ⟨op, before, after, literal, value, metricId, comparison, parsed, known, evaluated, explained⟩
  · have noMetric : explanation.metricId = metricIdNone := congrArg Explanation.metricId unexplained
    refine ⟨⟨fun named => absurd noMetric named, ?_⟩, fun named => absurd noMetric named, ?_⟩
    · rintro ⟨result, evaluated⟩
      rw [failed] at evaluated
      cases evaluated
    · intro noOr holds
      have first := leafHolds_firstLeaf noOr holds
      rw [leafHolds, failed] at first
      cases first
  · have fields : explanation = _ := explained
    rw [fields]
    refine ⟨⟨fun _ => ⟨_, evaluated⟩, fun _ => metricValueAndId_ne_none known⟩, ?_, ?_⟩
    · intro _
      exact ⟨op, before, after, literal, comparison, parsed, known, rfl, evaluated⟩
    · intro noOr holds
      have first := leafHolds_firstLeaf noOr holds
      rw [leafHolds, evaluated] at first
      exact ⟨op, before, after, comparison, first⟩

end RejiStudio.Orchestrator
