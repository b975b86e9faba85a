import Mathlib.Tactic.Common

/-!
# Healing events and the commands made of them

The healing monitor emits events; the command writer turns some of them into
commands for the pipeline.  Whether an emission fires depends on metrics,
cooldowns and modes; the target it carries does not.
-/

namespace RejiStudio.Orchestrator

inductive HealingEvent where
  | activateFallback
  | bypassPlugin (pluginId : UInt32)
  | reduceBitrate (targetKbps : UInt32)
  | reducePreviewFps (targetFps : UInt32)
  | lightenCodec
  | restoreNormal
  deriving DecidableEq

inductive HealingTrigger where
  | cpuCritical
  | gpuUsage
  | memUsage
  | diskWarning
  | sourceDisconnected
  | sourceReconnected
  | frameDropped
  | encodeError
  | cpuTrend
  | frameDropTrend
  | thresholdCalibrated
  deriving DecidableEq

def reducedBitrateKbps : UInt32 := 3500

def HealingTrigger.event : HealingTrigger → HealingEvent
  | .cpuCritical => .lightenCodec
  | .gpuUsage => .reduceBitrate 4000
  | .memUsage => .reducePreviewFps 24
  | .diskWarning => .activateFallback
  | .sourceDisconnected => .activateFallback
  | .sourceReconnected => .restoreNormal
  | .frameDropped => .reducePreviewFps 20
  | .encodeError => .bypassPlugin 0
  | .cpuTrend => .lightenCodec
  | .frameDropTrend => .reduceBitrate reducedBitrateKbps
  | .thresholdCalibrated => .restoreNormal

/-- `RJ_CMD_*`. -/
inductive CmdType where
  | sceneSwitch
  | bitrateSet
  | previewFps
  deriving DecidableEq

structure RjCommand where
  cmdType : CmdType
  paramU32 : UInt32
  deriving DecidableEq

def HealingEvent.toCommand : HealingEvent → Option RjCommand
  | .reduceBitrate targetKbps => some ⟨.bitrateSet, targetKbps⟩
  | .reducePreviewFps targetFps => some ⟨.previewFps, targetFps⟩
  | .lightenCodec | .activateFallback => some ⟨.sceneSwitch, 0⟩
  | .bypassPlugin _ | .restoreNormal => none

def HealingEvent.reduces : HealingEvent → Bool
  | .reduceBitrate _ => true
  | _ => false

theorem HealingEvent.reduces_of_toCommand {event : HealingEvent} {command : RjCommand}
    (written : event.toCommand = some command) (bitrateSet : command.cmdType = .bitrateSet) :
    event.reduces = true := by
  cases event with
  | reduceBitrate targetKbps => rfl
  | reducePreviewFps targetFps | lightenCodec | activateFallback =>
      cases written
      cases bitrateSet
  | bypassPlugin pluginId | restoreNormal => cases written

/-- The only targets of a reduction are the two constants of the monitor. -/
theorem HealingTrigger.bitrateSet_target {trigger : HealingTrigger} {command : RjCommand}
    (written : trigger.event.toCommand = some command)
    (bitrateSet : command.cmdType = .bitrateSet) :
    command.paramU32 = 4000 ∨ command.paramU32 = reducedBitrateKbps := by
  cases trigger <;> cases written <;> simp_all

end RejiStudio.Orchestrator
