import Mathlib.Tactic.Common

/-!
# Adaptation actions, user-interface events and healing-log records

The records that cross the orchestrator's foreign-function boundary, with the
event constructors that read them.
-/

namespace RejiStudio.Orchestrator

/-- `RjActionType`, a `repr(u32)` enumeration. -/
inductive ActionType where
  | bitrateReduce
  | bitrateRecover
  | scaleResolution
  | restoreResolution
  | capFps
  | restoreFps
  | logOnly
  deriving DecidableEq, Repr

/-- The discriminant that `as u32` reads. -/
def ActionType.toUInt32 : ActionType → UInt32
  | .bitrateReduce => 0
  | .bitrateRecover => 1
  | .scaleResolution => 2
  | .restoreResolution => 3
  | .capFps => 4
  | .restoreFps => 5
  | .logOnly => 6

inductive MetricId where
  | frameDropPct
  | gpuTempC
  | cpuTempC
  | memoryUsagePct
  | cpuLoadPct
  | gpuLoadPct
  | networkRttMs
  | networkLossPct
  | metricNone
  deriving DecidableEq, Repr

def metricIdNone : UInt32 := 8

/-- An unknown code becomes `metricNone`. -/
def MetricId.fromRaw (v : UInt32) : MetricId :=
  if v = 0 then .frameDropPct
  else if v = 1 then .gpuTempC
  else if v = 2 then .cpuTempC
  else if v = 3 then .memoryUsagePct
  else if v = 4 then .cpuLoadPct
  else if v = 5 then .gpuLoadPct
  else if v = 6 then .networkRttMs
  else if v = 7 then .networkLossPct
  else .metricNone

structure Explanation where
  metricId : UInt32
  currentValue : Int32
  thresholdValue : Int32
  calibrated : Bool
  deriving DecidableEq

def Explanation.none : Explanation := ⟨metricIdNone, 0, 0, false⟩

structure RjAction where
  id : UInt32
  actionType : ActionType
  param1 : Int32
  param2 : Int32
  canary : UInt32
  deriving DecidableEq

/-- A notification for the user interface; it never carries the action itself. -/
structure RjActionEvent where
  id : UInt32
  actionType : ActionType
  param1 : Int32
  param2 : Int32
  requireApproval : UInt32
  kind : UInt32
  metricId : MetricId
  currentValue : Int32
  thresholdValue : Int32
  calibrated : UInt32
  deriving DecidableEq

def rjActionEventNew : UInt32 := 0

def rjActionEventInvalidated : UInt32 := 1

namespace RjActionEvent

def infoEvent (a : RjAction) (expl : Explanation) : RjActionEvent where
  id := a.id
  actionType := a.actionType
  param1 := a.param1
  param2 := a.param2
  requireApproval := 0
  kind := rjActionEventNew
  metricId := MetricId.fromRaw expl.metricId
  currentValue := expl.currentValue
  thresholdValue := expl.thresholdValue
  calibrated := if expl.calibrated then 1 else 0

def approvalEvent (a : RjAction) (expl : Explanation) : RjActionEvent :=
  { infoEvent a expl with requireApproval := 1 }

def invalidatedEvent (a : RjAction) : RjActionEvent where
  id := a.id
  actionType := a.actionType
  param1 := a.param1
  param2 := a.param2
  requireApproval := 0
  kind := rjActionEventInvalidated
  metricId := .metricNone
  currentValue := 0
  thresholdValue := 0
  calibrated := 0

end RjActionEvent

def outcomeApplied : UInt32 := 0
def outcomePending : UInt32 := 1
def outcomeRejected : UInt32 := 2
def outcomeInvalidated : UInt32 := 3

/-- One row of the append-only healing log, without its wall-clock column. -/
structure HealingLogRecord where
  actionId : UInt32
  ruleId : String
  metricId : UInt32
  currentValue : Int32
  threshold : Int32
  actionType : UInt32
  outcome : UInt32
  mode : UInt32
  deriving DecidableEq

def pendingRecord (action : RjAction) (ruleId : String) (explanation : Explanation)
    (mode : UInt32) : HealingLogRecord where
  actionId := action.id
  ruleId := ruleId
  metricId := explanation.metricId
  currentValue := explanation.currentValue
  threshold := explanation.thresholdValue
  actionType := action.actionType.toUInt32
  outcome := outcomePending
  mode := mode

def actionOutcomeRecord (a : RjAction) (ruleId : String) (outcome mode : UInt32) :
    HealingLogRecord where
  actionId := a.id
  ruleId := ruleId
  metricId := metricIdNone
  currentValue := 0
  threshold := 0
  actionType := a.actionType.toUInt32
  outcome := outcome
  mode := mode

end RejiStudio.Orchestrator
