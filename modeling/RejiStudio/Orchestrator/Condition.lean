import RejiStudio.Lib.Text
import RejiStudio.Orchestrator.Action

/-!
# Rule conditions

A condition is text: comparisons of a metric with a number, joined by `&&` and
`||`, without parentheses.  A comparison that cannot be read counts as false.  A
calibrated threshold takes the place of the number in the text.
-/

namespace RejiStudio.Orchestrator

open RejiStudio.Lib

structure RuleMetrics where
  frameDropPct : UInt32
  gpuTempC : Int16
  cpuTempC : Int16
  memoryUsagePct : UInt32
  cpuLoadPct : UInt32
  gpuLoadPct : UInt32
  networkRttMs : UInt16
  networkLossPct : UInt8
  deriving DecidableEq

def RuleMetrics.default : RuleMetrics := ⟨0, 0, 0, 0, 0, 0, 0, 0⟩

abbrev CalibrationTable := List Char → Option Int32

def CalibrationTable.empty : CalibrationTable := fun _ => none

def effectiveThreshold (metricName : List Char) (literal : Int32) (calib : CalibrationTable) :
    Int32 × Bool :=
  match calib metricName with
  | some threshold => (threshold, true)
  | none => (literal, false)

/-- The value of a metric, as the signed word that is compared, and its id. -/
def metricValueAndId (metricName : List Char) (metrics : RuleMetrics) : Option (Int32 × UInt32) :=
  if metricName = "frame_drop_pct".toList then some (metrics.frameDropPct.toInt32, 0)
  else if metricName = "gpu_temp_c".toList then some (metrics.gpuTempC.toInt32, 1)
  else if metricName = "cpu_temp_c".toList then some (metrics.cpuTempC.toInt32, 2)
  else if metricName = "memory_usage_pct".toList then some (metrics.memoryUsagePct.toInt32, 3)
  else if metricName = "cpu_load_pct".toList then some (metrics.cpuLoadPct.toInt32, 4)
  else if metricName = "gpu_load_pct".toList then some (metrics.gpuLoadPct.toInt32, 5)
  else if metricName = "network_rtt_ms".toList then
    some (metrics.networkRttMs.toUInt32.toInt32, 6)
  else if metricName = "network_loss_pct".toList then
    some (metrics.networkLossPct.toUInt32.toInt32, 7)
  else none

inductive Comparison where
  | ge
  | le
  | gt
  | lt
  | eq
  deriving DecidableEq, Repr

namespace Comparison

def text : Comparison → List Char
  | ge => ">=".toList
  | le => "<=".toList
  | gt => ">".toList
  | lt => "<".toList
  | eq => "==".toList

def all : List Comparison := [ge, le, gt, lt, eq]

def holds : Comparison → Int32 → Int32 → Bool
  | ge, value, threshold => threshold ≤ value
  | le, value, threshold => value ≤ threshold
  | gt, value, threshold => threshold < value
  | lt, value, threshold => value < threshold
  | eq, value, threshold => value == threshold

end Comparison

/-- The first comparison that occurs anywhere, with the text on both sides. -/
def findComparison (cond : List Char) : Option (Comparison × List Char × List Char) :=
  Comparison.all.findSome? fun op =>
    (Text.splitFirst op.text cond).map fun (before, after) => (op, before, after)

def parseLeaf (cond : List Char) : Option (List Char × Int32) :=
  match findComparison cond with
  | none => none
  | some (_, before, after) =>
      (Text.parseInt32 (Text.trim after)).map fun threshold => (Text.trim before, threshold)

def evalSingleCondition (cond : List Char) (metrics : RuleMetrics) (calib : CalibrationTable) :
    Except (List Char) Bool :=
  match findComparison cond with
  | none => .error ("Cannot parse condition: ".toList ++ cond)
  | some (op, before, after) =>
      let metricName := Text.trim before
      let thresholdText := Text.trim after
      match Text.parseInt32 thresholdText with
      | none => .error ("Invalid threshold: ".toList ++ thresholdText)
      | some literal =>
          match metricValueAndId metricName metrics with
          | none => .error ("Unknown metric: ".toList ++ metricName)
          | some (metricValue, _) =>
              .ok (op.holds metricValue (effectiveThreshold metricName literal calib).1)

def orOperator : List Char := ['|', '|']

def andOperator : List Char := ['&', '&']

theorem orOperator_nonempty : orOperator ≠ [] := List.cons_ne_nil _ _

theorem andOperator_nonempty : andOperator ≠ [] := List.cons_ne_nil _ _

/-- A trimmed piece of a trimmed text that was really split is shorter. -/
theorem length_trim_lt_of_mem_split {pattern : List Char} {nonempty : pattern ≠ []}
    {text piece : List Char} (occurs : Text.contains pattern (Text.trim text) = true)
    (membership : piece ∈ Text.split pattern nonempty (Text.trim text)) :
    (Text.trim piece).length < text.length := by
  have shorter := Text.length_lt_of_mem_split occurs membership
  have trimmedPiece := Text.length_trim_le piece
  have trimmedText := Text.length_trim_le text
  omega

def evalConditionCalibrated (condition : List Char) (metrics : RuleMetrics)
    (calib : CalibrationTable) : Bool :=
  if _disjunction : Text.contains orOperator (Text.trim condition) = true then
    (Text.split orOperator orOperator_nonempty (Text.trim condition)).attach.any fun part =>
      evalConditionCalibrated (Text.trim part.1) metrics calib
  else if _conjunction : Text.contains andOperator (Text.trim condition) = true then
    (Text.split andOperator andOperator_nonempty (Text.trim condition)).attach.all fun part =>
      evalConditionCalibrated (Text.trim part.1) metrics calib
  else
    match evalSingleCondition (Text.trim condition) metrics calib with
    | .ok result => result
    | .error _ => false
termination_by condition.length
decreasing_by
  · exact length_trim_lt_of_mem_split _disjunction part.2
  · exact length_trim_lt_of_mem_split _conjunction part.2

theorem evalConditionCalibrated_eq (condition : List Char) (metrics : RuleMetrics)
    (calib : CalibrationTable) :
    evalConditionCalibrated condition metrics calib =
      if Text.contains orOperator (Text.trim condition) = true then
        (Text.split orOperator orOperator_nonempty (Text.trim condition)).any fun part =>
          evalConditionCalibrated (Text.trim part) metrics calib
      else if Text.contains andOperator (Text.trim condition) = true then
        (Text.split andOperator andOperator_nonempty (Text.trim condition)).all fun part =>
          evalConditionCalibrated (Text.trim part) metrics calib
      else
        match evalSingleCondition (Text.trim condition) metrics calib with
        | .ok result => result
        | .error _ => false := by
  rw [evalConditionCalibrated]
  simp only [dite_eq_ite]
  congr 1
  · simp
  · congr 1
    simp

def evalCondition (condition : List Char) (metrics : RuleMetrics) : Bool :=
  evalConditionCalibrated condition metrics .empty

def firstLeaf (condition : List Char) : List Char :=
  match _disjunction : Text.splitFirst orOperator (Text.trim condition) with
  | some (before, _) => firstLeaf before
  | none =>
      match _conjunction : Text.splitFirst andOperator (Text.trim condition) with
      | some (before, _) => firstLeaf before
      | none => Text.trim condition
termination_by condition.length
decreasing_by
  · have length := Text.length_splitFirst _disjunction
    have trimmed := Text.length_trim_le condition
    have positive : 0 < orOperator.length := by decide
    omega
  · have length := Text.length_splitFirst _conjunction
    have trimmed := Text.length_trim_le condition
    have positive : 0 < andOperator.length := by decide
    omega

/-- The first comparison explains the action, with the threshold in force. -/
def explanationForCalibrated (condition : List Char) (metrics : RuleMetrics)
    (calib : CalibrationTable) : Explanation :=
  match parseLeaf (firstLeaf condition) with
  | none => .none
  | some (metricName, literal) =>
      match metricValueAndId metricName metrics with
      | none => .none
      | some (currentValue, metricId) =>
          let (thresholdValue, calibrated) := effectiveThreshold metricName literal calib
          { metricId, currentValue, thresholdValue, calibrated }

example :
    evalCondition "frame_drop_pct >= 5 && frame_drop_pct <= 10 || cpu_load_pct > 90".toList
      { RuleMetrics.default with cpuLoadPct := 91 } = true := by decide +kernel

/-! ## The table of metrics -/

theorem lookup_cons_eq {Entry : Type} (name key : List Char) (entry : Entry)
    (rest : List (List Char × Entry)) :
    ((key, entry) :: rest).lookup name = if name = key then some entry else rest.lookup name := by
  rw [List.lookup_cons]
  by_cases same : name = key
  · simp [same]
  · rw [beq_eq_false_iff_ne.mpr same, if_neg same]

theorem mem_of_lookup {Entry : Type} {name : List Char} {entry : Entry}
    {table : List (List Char × Entry)} (found : table.lookup name = some entry) :
    (name, entry) ∈ table := by
  obtain ⟨before, after, rfl, -⟩ := List.lookup_eq_some_iff.mp found
  exact List.mem_append_right before List.mem_cons_self

def metricWords : List (List Char × (RuleMetrics → Int32 × UInt32)) :=
  [("frame_drop_pct".toList, fun metrics => (metrics.frameDropPct.toInt32, 0)),
    ("gpu_temp_c".toList, fun metrics => (metrics.gpuTempC.toInt32, 1)),
    ("cpu_temp_c".toList, fun metrics => (metrics.cpuTempC.toInt32, 2)),
    ("memory_usage_pct".toList, fun metrics => (metrics.memoryUsagePct.toInt32, 3)),
    ("cpu_load_pct".toList, fun metrics => (metrics.cpuLoadPct.toInt32, 4)),
    ("gpu_load_pct".toList, fun metrics => (metrics.gpuLoadPct.toInt32, 5)),
    ("network_rtt_ms".toList, fun metrics => (metrics.networkRttMs.toUInt32.toInt32, 6)),
    ("network_loss_pct".toList, fun metrics => (metrics.networkLossPct.toUInt32.toInt32, 7))]

theorem metricValueAndId_eq_lookup (name : List Char) (metrics : RuleMetrics) :
    metricValueAndId name metrics = (metricWords.lookup name).map (· metrics) := by
  simp only [metricValueAndId, metricWords, lookup_cons_eq, List.lookup_nil,
    apply_ite (Option.map fun word : RuleMetrics → Int32 × UInt32 => word metrics),
    Option.map_some, Option.map_none]

end RejiStudio.Orchestrator
