import Mathlib.Data.List.Perm.Basic
import RejiStudio.Orchestrator.Condition
import RejiStudio.Ws.Value

/-!
# The rule engine

Rules turn metrics into actions.  A rule stays silent while a cooldown of its id
runs or its last trigger is too recent; both are kept by the engine and not by
the rule file.
-/

namespace RejiStudio.Orchestrator

open RejiStudio.Lib RejiStudio.Ws

structure Action where
  ruleId : String
  actionType : ActionType
  param1 : Int32
  param2 : Int32
  requireApproval : Bool
  logOnly : Bool
  isCritical : Bool
  explanation : Explanation
  deriving DecidableEq

structure Rule where
  id : String
  condition : List Char
  action : String
  params : List (String × Value)
  modes : List String

structure ParsedRules where
  rules : List Rule
  hysteresisMs : UInt64

def actionTypeFromStr (action : String) : Option ActionType :=
  if action = "bitrate_reduce" then some .bitrateReduce
  else if action = "bitrate_recover" then some .bitrateRecover
  else if action = "scale_resolution" then some .scaleResolution
  else if action = "restore_resolution" then some .restoreResolution
  else if action = "cap_fps" then some .capFps
  else if action = "restore_fps" then some .restoreFps
  else if action = "log_only" then some .logOnly
  else none

/-- What `parse_rules_content` checks of every rule. -/
def Rule.Valid (rule : Rule) : Prop :=
  rule.id ≠ "" ∧ rule.condition ≠ [] ∧ rule.action ≠ "" ∧
    (actionTypeFromStr rule.action).isSome = true

instance (rule : Rule) : Decidable rule.Valid := inferInstanceAs (Decidable (_ ∧ _))

/-- The mutex-protected part of `RuleEngine` that `evaluate` works on; instants
are in nanoseconds. -/
structure RuleEngine where
  rules : List Rule
  hysteresisMs : UInt64
  lastTrigger : String → Option Nat
  cooldownUntil : String → Option Nat
  calibration : CalibrationTable

/-- `as i32` of a floating point number saturates. -/
def saturateInt32 (value : Int) : Int32 :=
  Int32.ofInt (max (-2 ^ 31) (min value (2 ^ 31 - 1)))

/-- `scale_factor` in thousandths; a rule without one keeps the full resolution. -/
def scaleParam (params : List (String × Value)) : Int32 :=
  let scale := ((params.lookup "scale_factor").bind Value.asF64).getD 1
  saturateInt32 (roundHalfAway (roundRational doublePrecision (scale * 1000)))

/-- A parameter that is not an integer counts as missing. -/
def intParam (params : List (String × Value)) (key : String) : Int32 :=
  (((params.lookup key).bind Value.asI64).getD 0).toInt32

def createAction (rule : Rule) (metrics : RuleMetrics) (calib : CalibrationTable) :
    Except String Action :=
  match actionTypeFromStr rule.action with
  | none => .error ("Unknown action: " ++ rule.action)
  | some actionType =>
      let isCritical := rule.action == "bitrate_reduce" || rule.action == "scale_resolution"
      .ok {
        ruleId := rule.id
        actionType := actionType
        param1 :=
          match actionType with
          | .scaleResolution | .restoreResolution => scaleParam rule.params
          | .bitrateReduce | .bitrateRecover | .capFps | .restoreFps | .logOnly =>
              intParam rule.params "step_kbps"
        param2 := intParam rule.params "fps_limit"
        requireApproval := !isCritical
        logOnly := actionType == .logOnly
        isCritical := isCritical
        explanation := explanationForCalibrated rule.condition metrics calib }

theorem ruleId_of_createAction {rule : Rule} {metrics : RuleMetrics} {calib : CalibrationTable}
    {action : Action} (created : createAction rule metrics calib = .ok action) :
    action.ruleId = rule.id := by
  unfold createAction at created
  split at created
  next => cases created
  next =>
    cases created
    rfl

/-! ## Conflicting actions -/

def ActionType.priority : ActionType → Nat
  | .bitrateReduce => 0
  | .capFps => 1
  | .scaleResolution => 2
  | .bitrateRecover => 3
  | .restoreFps => 4
  | .restoreResolution => 5
  | .logOnly => 6

def ActionType.opposite : ActionType → Option ActionType
  | .bitrateRecover => some .bitrateReduce
  | .restoreFps => some .capFps
  | .restoreResolution => some .scaleResolution
  | .bitrateReduce | .scaleResolution | .capFps | .logOnly => none

def resolveConflicts (actions : List Action) : List Action :=
  (actions.filter fun action =>
    match action.actionType.opposite with
    | some opposite => !actions.any fun other => other.actionType == opposite
    | none => true).mergeSort fun first second =>
      first.actionType.priority ≤ second.actionType.priority

theorem mem_of_mem_resolveConflicts {actions : List Action} {action : Action}
    (membership : action ∈ resolveConflicts actions) : action ∈ actions :=
  List.mem_of_mem_filter (List.mem_mergeSort.mp membership)

theorem resolveConflicts_perm_sublist (actions : List Action) :
    ∃ kept, kept.Sublist actions ∧ (resolveConflicts actions).Perm kept :=
  ⟨_, List.filter_sublist, List.mergeSort_perm _ _⟩

namespace RuleEngine

/-- `RuleEngine::new` on a file that was read: nothing of another engine. -/
def new (parsed : ParsedRules) : RuleEngine where
  rules := parsed.rules
  hysteresisMs := parsed.hysteresisMs
  lastTrigger := fun _ => none
  cooldownUntil := fun _ => none
  calibration := .empty

def adoptCalibration (engine source : RuleEngine) : RuleEngine :=
  { engine with calibration := source.calibration }

def setCalibratedThreshold (engine : RuleEngine) (metric : List Char) (threshold : Int32) :
    RuleEngine :=
  { engine with calibration := Function.update engine.calibration metric (some threshold) }

theorem setCalibratedThreshold_calibration (engine : RuleEngine) (metric : List Char)
    (threshold : Int32) :
    (engine.setCalibratedThreshold metric threshold).calibration metric = some threshold :=
  Function.update_self _ _ _

def applyCooldown (engine : RuleEngine) (ruleId : String) (until_ : Nat) : RuleEngine :=
  { engine with cooldownUntil := Function.update engine.cooldownUntil ruleId (some until_) }

def recordTrigger (engine : RuleEngine) (ruleId : String) (now : Nat) : RuleEngine :=
  { engine with lastTrigger := Function.update engine.lastTrigger ruleId (some now) }

theorem recordTrigger_lastTrigger (engine : RuleEngine) (ruleId : String) (now : Nat) :
    (engine.recordTrigger ruleId now).lastTrigger ruleId = some now :=
  Function.update_self _ _ _

theorem recordTrigger_lastTrigger_ne {engine : RuleEngine} {ruleId other : String} {now : Nat}
    (different : other ≠ ruleId) :
    (engine.recordTrigger ruleId now).lastTrigger other = engine.lastTrigger other :=
  Function.update_of_ne different _ _

def inCooldown (engine : RuleEngine) (now : Nat) (ruleId : String) : Bool :=
  match engine.cooldownUntil ruleId with
  | some until_ => now < until_
  | none => false

/-- Whole milliseconds since the last trigger are compared. -/
def inHysteresis (engine : RuleEngine) (now : Nat) (ruleId : String) : Bool :=
  0 < engine.hysteresisMs.toNat &&
    match engine.lastTrigger ruleId with
    | some last => (now - last) / 1000000 < engine.hysteresisMs.toNat
    | none => false

/-- No reading of the GPU temperature: a value of zero stands for missing data. -/
def lacksGpuTemp (metrics : RuleMetrics) (rule : Rule) : Bool :=
  metrics.gpuTempC == 0 && Text.contains "gpu_temp_c".toList rule.condition

/-- The checks that `evaluate` makes before it creates the action of a rule. -/
def due (engine : RuleEngine) (metrics : RuleMetrics) (mode : String) (now : Nat)
    (rule : Rule) : Bool :=
  rule.modes.contains mode &&
    !engine.inCooldown now rule.id &&
    !engine.inHysteresis now rule.id &&
    !lacksGpuTemp metrics rule &&
    evalConditionCalibrated rule.condition metrics engine.calibration

/-- The loop over the rules; a rule without an action is skipped. -/
def evaluateRules (metrics : RuleMetrics) (mode : String) (now : Nat) :
    List Rule → RuleEngine → RuleEngine × List Action
  | [], engine => (engine, [])
  | rule :: rest, engine =>
      if engine.due metrics mode now rule then
        match createAction rule metrics engine.calibration with
        | .error _ => evaluateRules metrics mode now rest engine
        | .ok action =>
            let (finished, actions) :=
              evaluateRules metrics mode now rest (engine.recordTrigger rule.id now)
            (finished, action :: actions)
      else
        evaluateRules metrics mode now rest engine

def evaluate (engine : RuleEngine) (metrics : RuleMetrics) (mode : String) (now : Nat) :
    RuleEngine × List Action :=
  let (finished, actions) := evaluateRules metrics mode now engine.rules engine
  (finished, resolveConflicts actions)

/-! ## What an evaluation does -/

theorem not_inCooldown_of_due {engine : RuleEngine} {metrics : RuleMetrics} {mode : String}
    {now : Nat} {rule : Rule} (due : engine.due metrics mode now rule = true) :
    engine.inCooldown now rule.id = false := by
  simp only [RuleEngine.due, Bool.and_eq_true, Bool.not_eq_true'] at due
  exact due.1.1.1.2

theorem not_inHysteresis_of_due {engine : RuleEngine} {metrics : RuleMetrics} {mode : String}
    {now : Nat} {rule : Rule} (due : engine.due metrics mode now rule = true) :
    engine.inHysteresis now rule.id = false := by
  simp only [RuleEngine.due, Bool.and_eq_true, Bool.not_eq_true'] at due
  exact due.1.1.2

theorem gap_of_not_inHysteresis {engine : RuleEngine} {now last : Nat} {ruleId : String}
    (silent : engine.inHysteresis now ruleId = false)
    (triggered : engine.lastTrigger ruleId = some last) (past : last ≤ now) :
    last + engine.hysteresisMs.toNat * 1000000 ≤ now := by
  simp only [inHysteresis, triggered, Bool.and_eq_false_iff, decide_eq_false_iff_not] at silent
  rcases silent with none_ | elapsed
  · omega
  · have whole := Nat.div_mul_le_self (now - last) 1000000
    omega

/-- One step of the loop: the rule is passed over, or it is due, triggers and puts
its action first. -/
theorem evaluateRules_cons (metrics : RuleMetrics) (mode : String) (now : Nat) (rule : Rule)
    (rest : List Rule) (engine : RuleEngine) :
    evaluateRules metrics mode now (rule :: rest) engine =
        evaluateRules metrics mode now rest engine ∨
      ∃ action, engine.due metrics mode now rule = true ∧ action.ruleId = rule.id ∧
        evaluateRules metrics mode now (rule :: rest) engine =
          ((evaluateRules metrics mode now rest (engine.recordTrigger rule.id now)).1,
            action :: (evaluateRules metrics mode now rest
              (engine.recordTrigger rule.id now)).2) := by
  rw [evaluateRules]
  by_cases due : engine.due metrics mode now rule = true
  · cases created : createAction rule metrics engine.calibration with
    | error message => exact .inl (by simp [due])
    | ok action =>
        refine .inr ⟨action, due, ruleId_of_createAction created, ?_⟩
        simp [due]
  · exact .inl (by simp [due])

theorem not_inCooldown_of_mem_evaluateRules {metrics : RuleMetrics} {mode : String} {now : Nat}
    {rules : List Rule} {engine : RuleEngine} {action : Action}
    (membership : action ∈ (evaluateRules metrics mode now rules engine).2) :
    engine.inCooldown now action.ruleId = false := by
  induction rules generalizing engine with
  | nil => cases membership
  | cons rule rest inductionHypothesis =>
      rcases evaluateRules_cons metrics mode now rule rest engine with
        same | ⟨created, due, ruleId, same⟩
      · rw [same] at membership
        exact inductionHypothesis membership
      · rw [same] at membership
        rcases List.mem_cons.mp membership with rfl | later
        · rw [ruleId]
          exact not_inCooldown_of_due due
        · have passed := inductionHypothesis later
          exact passed

/-- A trigger that is too recent keeps the actions of its rule out of an evaluation. -/
theorem not_inHysteresis_of_mem_evaluateRules {metrics : RuleMetrics} {mode : String} {now : Nat}
    {rules : List Rule} {engine : RuleEngine} {action : Action}
    (membership : action ∈ (evaluateRules metrics mode now rules engine).2) :
    engine.inHysteresis now action.ruleId = false := by
  induction rules generalizing engine with
  | nil => cases membership
  | cons rule rest inductionHypothesis =>
      rcases evaluateRules_cons metrics mode now rule rest engine with
        same | ⟨created, due, ruleId, same⟩
      · rw [same] at membership
        exact inductionHypothesis membership
      · rw [same] at membership
        by_cases sameRule : action.ruleId = rule.id
        · rw [sameRule]
          exact not_inHysteresis_of_due due
        · rcases List.mem_cons.mp membership with rfl | later
          · exact absurd ruleId sameRule
          · have passed := inductionHypothesis later
            rwa [inHysteresis, recordTrigger_lastTrigger_ne sameRule] at passed

theorem evaluateRules_lastTrigger (metrics : RuleMetrics) (mode : String) (now : Nat)
    (rules : List Rule) (engine : RuleEngine) (ruleId : String) :
    ((evaluateRules metrics mode now rules engine).1.lastTrigger ruleId = some now ∨
        (evaluateRules metrics mode now rules engine).1.lastTrigger ruleId =
          engine.lastTrigger ruleId) ∧
      ∀ action ∈ (evaluateRules metrics mode now rules engine).2, action.ruleId = ruleId →
        (evaluateRules metrics mode now rules engine).1.lastTrigger ruleId = some now := by
  induction rules generalizing engine with
  | nil => exact ⟨.inr rfl, nofun⟩
  | cons rule rest inductionHypothesis =>
      rcases evaluateRules_cons metrics mode now rule rest engine with
        same | ⟨created, due, createdId, same⟩
      · rw [same]
        exact inductionHypothesis engine
      · rw [same]
        obtain ⟨kept, recorded⟩ := inductionHypothesis (engine.recordTrigger rule.id now)
        by_cases sameRule : ruleId = rule.id
        · subst sameRule
          rw [recordTrigger_lastTrigger, or_self] at kept
          exact ⟨.inl kept, fun _ _ _ => kept⟩
        · rw [recordTrigger_lastTrigger_ne sameRule] at kept
          refine ⟨kept, ?_⟩
          intro action membership actionId
          rcases List.mem_cons.mp membership with rfl | later
          · exact absurd (actionId.symm.trans createdId) sameRule
          · exact recorded action later actionId

/-- With a hysteresis a rule id triggers at most once in an evaluation. -/
theorem evaluateRules_ruleIds_nodup {metrics : RuleMetrics} {mode : String} {now : Nat}
    {rules : List Rule} {engine : RuleEngine} (positive : 0 < engine.hysteresisMs.toNat) :
    ((evaluateRules metrics mode now rules engine).2.map Action.ruleId).Nodup := by
  induction rules generalizing engine with
  | nil => exact List.nodup_nil
  | cons rule rest inductionHypothesis =>
      rcases evaluateRules_cons metrics mode now rule rest engine with
        same | ⟨created, due, createdId, same⟩
      · rw [same]
        exact inductionHypothesis positive
      · rw [same, List.map_cons, List.nodup_cons, createdId]
        refine ⟨?_, inductionHypothesis positive⟩
        intro again
        obtain ⟨action, later, sameRule⟩ := List.mem_map.mp again
        have passed := not_inHysteresis_of_mem_evaluateRules later
        rw [sameRule, inHysteresis, recordTrigger_lastTrigger] at passed
        simp [recordTrigger, positive] at passed

theorem evaluate_ruleIds_nodup {engine : RuleEngine} {metrics : RuleMetrics} {mode : String}
    {now : Nat} (positive : 0 < engine.hysteresisMs.toNat) :
    ((engine.evaluate metrics mode now).2.map Action.ruleId).Nodup := by
  obtain ⟨kept, sublist, permuted⟩ :=
    resolveConflicts_perm_sublist (evaluateRules metrics mode now engine.rules engine).2
  have nodup : ((evaluateRules metrics mode now engine.rules engine).2.map Action.ruleId).Nodup :=
    evaluateRules_ruleIds_nodup positive
  exact ((permuted.map Action.ruleId).nodup_iff).mpr (nodup.sublist (sublist.map Action.ruleId))

theorem not_inCooldown_of_mem_evaluate {engine : RuleEngine} {metrics : RuleMetrics}
    {mode : String} {now : Nat} {action : Action}
    (membership : action ∈ (engine.evaluate metrics mode now).2) :
    engine.inCooldown now action.ruleId = false :=
  not_inCooldown_of_mem_evaluateRules (mem_of_mem_resolveConflicts membership)

theorem evaluateRules_frame (metrics : RuleMetrics) (mode : String) (now : Nat)
    (rules : List Rule) (engine : RuleEngine) :
    (evaluateRules metrics mode now rules engine).1 =
      { engine with
        lastTrigger := (evaluateRules metrics mode now rules engine).1.lastTrigger } := by
  induction rules generalizing engine with
  | nil => rfl
  | cons rule rest inductionHypothesis =>
      rcases evaluateRules_cons metrics mode now rule rest engine with same | ⟨_, _, _, same⟩
      · rw [same]
        exact inductionHypothesis engine
      · rw [same]
        exact inductionHypothesis (engine.recordTrigger rule.id now)

theorem evaluate_frame (engine : RuleEngine) (metrics : RuleMetrics) (mode : String)
    (now : Nat) :
    (engine.evaluate metrics mode now).1.cooldownUntil = engine.cooldownUntil ∧
      (engine.evaluate metrics mode now).1.calibration = engine.calibration ∧
      (engine.evaluate metrics mode now).1.hysteresisMs = engine.hysteresisMs ∧
      (engine.evaluate metrics mode now).1.rules = engine.rules := by
  have frame := evaluateRules_frame metrics mode now engine.rules engine
  simp only [evaluate]
  rw [frame]
  exact ⟨rfl, rfl, rfl, rfl⟩

end RuleEngine

/-! ## Rules of the template file -/

def memoryPressure : Rule where
  id := "memory_pressure"
  condition := "memory_usage_pct > 85".toList
  action := "scale_resolution"
  params := [("scale_factor", .float 0x3FD0000000000000)]
  modes := ["auto-pilot", "co-pilot", "assist"]

def frameDropHigh : Rule where
  id := "frame_drop_high"
  condition := "frame_drop_pct > 10".toList
  action := "bitrate_reduce"
  params := [("step_kbps", .posInt 500)]
  modes := ["auto-pilot", "co-pilot", "assist"]

def templateRules : ParsedRules := ⟨[frameDropHigh], 10000⟩

end RejiStudio.Orchestrator
