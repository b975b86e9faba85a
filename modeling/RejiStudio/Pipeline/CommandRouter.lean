import RejiStudio.Lib.BoundedQueue
import RejiStudio.Lib.Machine
import RejiStudio.Orchestrator.Action
import RejiStudio.Orchestrator.Healing
import RejiStudio.Pipeline.BitratePolicy

/-!
# Commands and frame commands between three threads

The command writer fills the command queue, the action thread reads the bitrate
and pushes an absolute target into the frame-command ring, and the frame thread
drains both at the start of every frame.  A run of the machine interleaves the
atomic accesses of the three.
-/

namespace RejiStudio.Pipeline

open RejiStudio.Lib RejiStudio.Orchestrator

/-- The part of `Pipeline::Config` that the bitrate depends on. -/
structure Config where
  fps : UInt32
  bitrateKbps : UInt32
  minBitrateKbps : UInt32
  originalBitrateKbps : UInt32
  deriving DecidableEq

structure FrameCmd where
  actionType : ActionType
  param1 : Int32
  deriving DecidableEq

structure Load where
  action : RjAction
  current : UInt32
  deriving DecidableEq

/-- A slot of the ring.  `load` is history: the code keeps only the command. -/
structure QueuedFrameCmd where
  cmd : FrameCmd
  load : Load
  deriving DecidableEq

def kCmdDrainMax : Nat := 8

/-- One slot of `kFrameCmdCap = 16` stays empty. -/
def frameCmdCapacity : Nat := 15

/-- `ArrayQueue::new(64)`. -/
def commandQueueCapacity : Nat := 64

/-- Where the frame thread is in `drain_and_apply`.  In `ring`, `head` slots were
visible when the head was loaded and `tail` of them are applied; the slots stay
occupied until the tail is stored. -/
inductive FrameThread where
  | idle
  | draining (cmdBuf : List RjCommand)
  | applying (cmdBuf : List RjCommand)
  | ring (head tail : Nat)
  deriving DecidableEq

/-- The part of `Pipeline::Impl` that the three threads share. -/
structure Impl where
  cfg : Config
  bitrateKbps : UInt32
  encoder : Bool
  commandQueue : BoundedQueue RjCommand commandQueueCapacity
  frameCmds : BoundedQueue QueuedFrameCmd frameCmdCapacity
  actionThread : Option Load
  frameThread : FrameThread
  deriving DecidableEq

def Impl.initialized (cfgIn : Config) (encoder : Bool) : Impl where
  cfg := { cfgIn with
    originalBitrateKbps := cfgIn.bitrateKbps
    minBitrateKbps := reduceFloorForTarget cfgIn.minBitrateKbps cfgIn.bitrateKbps }
  bitrateKbps := cfgIn.bitrateKbps
  encoder := encoder
  commandQueue := BoundedQueue.empty
  frameCmds := BoundedQueue.empty
  actionThread := none
  frameThread := .idle

/-- `Pipeline::init`.  `platformReady` says that COM, the frame pacer and the
source came up; without an encoder the pipeline runs in preview-only mode. -/
def init (cfgIn : Config) (platformReady encoder : Bool) : Option Impl :=
  if cfgIn.fps = 0 then none
  else if platformReady then some (Impl.initialized cfgIn encoder)
  else none

theorem eq_initialized_of_init {cfgIn : Config} {platformReady encoder : Bool} {start : Impl}
    (accepted : init cfgIn platformReady encoder = some start) :
    start = Impl.initialized cfgIn encoder := by
  unfold init at accepted
  split at accepted
  · cases accepted
  · obtain ⟨-, reached⟩ := Option.ite_none_right_eq_some.mp accepted
    exact (Option.some.inj reached).symm

/-- `Pipeline::apply_action` with the bitrate it read: the frame command it
pushes, if any, and what it returns. -/
def applyAction (cfg : Config) (current : UInt32) (action : RjAction) :
    Option FrameCmd × Bool :=
  match action.actionType with
  | .bitrateReduce =>
      let newBitrate := max (reduceStepBitrate current action.param1) cfg.minBitrateKbps
      (some ⟨.bitrateReduce, newBitrate.toInt32⟩, true)
  | .bitrateRecover =>
      let target := cfg.originalBitrateKbps
      if current < target then
        let newBitrate := min (recoverStepBitrate current action.param1) target
        (some ⟨.bitrateRecover, newBitrate.toInt32⟩, true)
      else
        (none, false)
  | .scaleResolution => (some ⟨.scaleResolution, action.param1⟩, true)
  | .restoreResolution => (some ⟨.restoreResolution, action.param1⟩, true)
  | .capFps => (some ⟨.capFps, action.param1⟩, true)
  | .restoreFps | .logOnly => (none, false)

namespace Impl

def applyFrameCmd (s : Impl) (cmd : FrameCmd) : Impl :=
  if s.encoder then
    match cmd.actionType with
    | .bitrateReduce | .bitrateRecover =>
        if 0 < cmd.param1 then { s with bitrateKbps := cmd.param1.toUInt32 } else s
    | .scaleResolution | .restoreResolution | .capFps | .restoreFps | .logOnly => s
  else s

def applyCommand (s : Impl) (c : RjCommand) : Impl :=
  match c.cmdType with
  | .bitrateSet =>
      if s.encoder = true ∧ 0 < c.paramU32 then { s with bitrateKbps := c.paramU32 } else s
  | .sceneSwitch | .previewFps => s

/-- The rest of `apply_action` on the action thread: the command goes into the
ring, and is lost when the ring is full. -/
def pushFrameCmd (s : Impl) (load : Load) : Impl :=
  match (applyAction s.cfg load.current load.action).1 with
  | none => { s with actionThread := none }
  | some cmd =>
      { s with
        frameCmds := (s.frameCmds.push ⟨cmd, load⟩).getD s.frameCmds
        actionThread := none }

def nextCommand (s : Impl) : Option RjCommand :=
  match s.frameThread with
  | .applying (command :: _) => some command
  | _ => none

/-- The next visible slot of the ring that is not applied. -/
def nextFrameCmd (s : Impl) : Option QueuedFrameCmd :=
  match s.frameThread with
  | .ring head tail => if tail < head then s.frameCmds.items[tail]? else none
  | _ => none

end Impl

inductive RouterAction where
  /-- The monitor emits, the command writer pushes. -/
  | emit (trigger : HealingTrigger)
  /-- The action thread dequeues an action and reads the bitrate. -/
  | loadBitrate (action : RjAction)
  | pushFrameCmd
  | startDrain
  | popCommand
  | endDrain
  | applyCommand
  | loadHead
  | applyFrameCmd
  | storeTail
  /-- Later in a frame, recovery may lose the encoder or get one back. -/
  | setEncoder (encoder : Bool)

namespace Impl

def step : Machine Impl RouterAction
  | s, .emit trigger =>
      match trigger.event.toCommand with
      | none => some s
      | some command =>
          some { s with commandQueue := (s.commandQueue.push command).getD s.commandQueue }
  | s, .loadBitrate action =>
      if s.actionThread = none then
        some { s with actionThread := some ⟨action, s.bitrateKbps⟩ }
      else none
  | s, .pushFrameCmd => s.actionThread.map s.pushFrameCmd
  | s, .startDrain =>
      if s.frameThread = .idle then some { s with frameThread := .draining [] } else none
  | s, .popCommand =>
      match s.frameThread with
      | .draining cmdBuf =>
          if cmdBuf.length < kCmdDrainMax then
            s.commandQueue.pop.map fun (command, commandQueue) =>
              { s with
                commandQueue := commandQueue
                frameThread := .draining (cmdBuf ++ [command]) }
          else none
      | _ => none
  | s, .endDrain =>
      match s.frameThread with
      | .draining cmdBuf =>
          if cmdBuf.length = kCmdDrainMax ∨ s.commandQueue.items = [] then
            some { s with frameThread := .applying cmdBuf }
          else none
      | _ => none
  | s, .applyCommand =>
      match s.frameThread with
      | .applying (command :: rest) =>
          some { s.applyCommand command with frameThread := .applying rest }
      | _ => none
  | s, .loadHead =>
      if s.frameThread = .applying [] then
        some { s with frameThread := .ring s.frameCmds.items.length 0 }
      else none
  | s, .applyFrameCmd =>
      match s.frameThread with
      | .ring head tail =>
          s.nextFrameCmd.map fun queued =>
            { s.applyFrameCmd queued.cmd with frameThread := .ring head (tail + 1) }
      | _ => none
  | s, .storeTail =>
      match s.frameThread with
      | .ring head tail =>
          if tail = head then
            some { s with
              frameCmds := s.frameCmds.drop tail
              frameThread := .idle }
          else none
      | _ => none
  | s, .setEncoder encoder =>
      if s.frameThread = .idle then some { s with encoder := encoder } else none

/-! ## What a step does -/

theorem applyCommand_frame (s : Impl) (c : RjCommand) :
    s.applyCommand c = { s with bitrateKbps := (s.applyCommand c).bitrateKbps } := by
  unfold applyCommand
  split
  · split <;> rfl
  all_goals rfl

theorem applyFrameCmd_frame (s : Impl) (cmd : FrameCmd) :
    s.applyFrameCmd cmd = { s with bitrateKbps := (s.applyFrameCmd cmd).bitrateKbps } := by
  unfold applyFrameCmd
  split
  · split
    · split <;> rfl
    · split <;> rfl
    all_goals rfl
  · rfl

inductive Stepped (s : Impl) : RouterAction → Impl → Prop
  | silent (trigger : HealingTrigger) (ignored : trigger.event.toCommand = none) :
      Stepped s (.emit trigger) s
  | written (trigger : HealingTrigger) (command : RjCommand)
      (written : trigger.event.toCommand = some command) :
      Stepped s (.emit trigger)
        { s with commandQueue := (s.commandQueue.push command).getD s.commandQueue }
  | loaded (action : RjAction) (free : s.actionThread = none) :
      Stepped s (.loadBitrate action)
        { s with actionThread := some ⟨action, s.bitrateKbps⟩ }
  | pushed (load : Load) (loaded : s.actionThread = some load) :
      Stepped s .pushFrameCmd (s.pushFrameCmd load)
  | started (idle : s.frameThread = .idle) :
      Stepped s .startDrain { s with frameThread := .draining [] }
  | popped (cmdBuf : List RjCommand) (command : RjCommand)
      (commandQueue : BoundedQueue RjCommand commandQueueCapacity)
      (phase : s.frameThread = .draining cmdBuf) (room : cmdBuf.length < kCmdDrainMax)
      (taken : s.commandQueue.items = command :: commandQueue.items) :
      Stepped s .popCommand
        { s with
          commandQueue := commandQueue
          frameThread := .draining (cmdBuf ++ [command]) }
  | drained (cmdBuf : List RjCommand) (phase : s.frameThread = .draining cmdBuf)
      (done : cmdBuf.length = kCmdDrainMax ∨ s.commandQueue.items = []) :
      Stepped s .endDrain { s with frameThread := .applying cmdBuf }
  | applied (command : RjCommand) (rest : List RjCommand)
      (phase : s.frameThread = .applying (command :: rest))
      (isNext : s.nextCommand = some command) :
      Stepped s .applyCommand
        { s with
          bitrateKbps := (s.applyCommand command).bitrateKbps
          frameThread := .applying rest }
  | headLoaded (phase : s.frameThread = .applying []) :
      Stepped s .loadHead { s with frameThread := .ring s.frameCmds.items.length 0 }
  | slotApplied (head tail : Nat) (queued : QueuedFrameCmd)
      (phase : s.frameThread = .ring head tail) (isNext : s.nextFrameCmd = some queued) :
      Stepped s .applyFrameCmd
        { s with
          bitrateKbps := (s.applyFrameCmd queued.cmd).bitrateKbps
          frameThread := .ring head (tail + 1) }
  | tailStored (count : Nat) (phase : s.frameThread = .ring count count) :
      Stepped s .storeTail
        { s with
          frameCmds := s.frameCmds.drop count
          frameThread := .idle }
  | encoderSet (encoder : Bool) (idle : s.frameThread = .idle) :
      Stepped s (.setEncoder encoder) { s with encoder := encoder }

theorem step_cases {s next : Impl} {action : RouterAction}
    (stepped : step s action = some next) : s.Stepped action next := by
  cases action with
  | emit trigger =>
      simp only [step] at stepped
      split at stepped
      next ignored =>
        cases stepped
        exact .silent trigger ignored
      next command written =>
        cases stepped
        exact .written trigger command written
  | loadBitrate action =>
      obtain ⟨free, reached⟩ := Option.ite_none_right_eq_some.mp stepped
      cases reached
      exact .loaded action free
  | pushFrameCmd =>
      obtain ⟨load, loaded, rfl⟩ := Option.map_eq_some_iff.mp stepped
      exact .pushed load loaded
  | startDrain =>
      obtain ⟨idle, reached⟩ := Option.ite_none_right_eq_some.mp stepped
      cases reached
      exact .started idle
  | popCommand =>
      simp only [step] at stepped
      split at stepped
      next cmdBuf phase =>
        obtain ⟨room, popped⟩ := Option.ite_none_right_eq_some.mp stepped
        obtain ⟨⟨command, commandQueue⟩, taken, rfl⟩ := Option.map_eq_some_iff.mp popped
        exact .popped cmdBuf command commandQueue phase room
          (BoundedQueue.pop_eq_some_iff.mp taken)
      next => cases stepped
  | endDrain =>
      simp only [step] at stepped
      split at stepped
      next cmdBuf phase =>
        obtain ⟨done, reached⟩ := Option.ite_none_right_eq_some.mp stepped
        cases reached
        exact .drained cmdBuf phase done
      next => cases stepped
  | applyCommand =>
      simp only [step] at stepped
      split at stepped
      next command rest phase =>
        rw [applyCommand_frame] at stepped
        cases stepped
        exact .applied command rest phase (by simp [nextCommand, phase])
      next => cases stepped
  | loadHead =>
      obtain ⟨phase, reached⟩ := Option.ite_none_right_eq_some.mp stepped
      cases reached
      exact .headLoaded phase
  | applyFrameCmd =>
      simp only [step] at stepped
      split at stepped
      next head tail phase =>
        obtain ⟨queued, isNext, reached⟩ := Option.map_eq_some_iff.mp stepped
        rw [applyFrameCmd_frame] at reached
        cases reached
        exact .slotApplied head tail queued phase isNext
      next => cases stepped
  | storeTail =>
      simp only [step] at stepped
      split at stepped
      next head tail phase =>
        obtain ⟨rfl, reached⟩ := Option.ite_none_right_eq_some.mp stepped
        cases reached
        exact .tailStored tail phase
      next => cases stepped
  | setEncoder encoder =>
      obtain ⟨idle, reached⟩ := Option.ite_none_right_eq_some.mp stepped
      cases reached
      exact .encoderSet encoder idle

end Impl

end RejiStudio.Pipeline
