import RejiStudio.Orchestrator.CallFrames
import RejiStudio.Orchestrator.Outflow
import RejiStudio.Pipeline.BitrateBounds

/-!
# From the monitor to the encoder

The orchestrator's threads, the command writer, the action thread and the frame
thread in one machine.  Healing events go through the broadcast channel, the command
writer and the command queue; actions go through the action queue, the action thread
and the frame-command ring.
-/

namespace RejiStudio.Pipeline

open RejiStudio.Lib RejiStudio.Orchestrator

inductive CommandWriter where
  | receiving
  | writing (command : RjCommand)
  | stopped
  deriving DecidableEq

structure HealingPath where
  threads : Threads
  writer : CommandWriter
  pipeline : Impl

namespace HealingPath

def start (mode : UInt32) (rules : Option ParsedRules) (clock : Nat) (pipeline : Impl) :
    HealingPath :=
  ⟨.start mode rules clock, .receiving, pipeline⟩

/-- The command writer receives one event; without an event it waits. -/
def receive (path : HealingPath) : Option HealingPath :=
  if path.writer = .receiving then
    let threads := { path.threads with healing := path.threads.healing.recv.1 }
    match path.threads.healing.recv.2 with
    | .empty => none
    | .lagged => some { path with threads := threads, writer := .stopped }
    | .message event =>
        match event.toCommand with
        | some command => some { path with threads := threads, writer := .writing command }
        | none => some { path with threads := threads }
  else none

/-- The command writer pushes; a full queue drops the command. -/
def write (path : HealingPath) : Option HealingPath :=
  match path.writer with
  | .writing command =>
      some { path with
        writer := .receiving
        pipeline := { path.pipeline with
          commandQueue :=
            (path.pipeline.commandQueue.push command).getD path.pipeline.commandQueue } }
  | _ => none

def dequeue (path : HealingPath) : Option HealingPath :=
  match path.threads.ffi.rjActionDequeue with
  | (_, none) => none
  | (ffi, some action) =>
      (path.pipeline.step (.loadBitrate action)).map fun pipeline =>
        { path with threads := { path.threads with ffi := ffi }, pipeline := pipeline }

end HealingPath

namespace Impl

def appliedBitrate (s : Impl) : RouterAction → Option UInt32
  | .applyCommand =>
      match s.nextCommand with
      | some command =>
          if command.cmdType = .bitrateSet ∧ s.encoder = true ∧ 0 < command.paramU32 then
            some command.paramU32
          else none
      | none => none
  | .applyFrameCmd =>
      match s.nextFrameCmd with
      | some queued =>
          if (queued.cmd.actionType = .bitrateReduce ∨ queued.cmd.actionType = .bitrateRecover) ∧
              s.encoder = true ∧ 0 < queued.cmd.param1 then
            some queued.cmd.param1.toUInt32
          else none
      | none => none
  | _ => none

end Impl

inductive PathAction where
  | thread (action : ThreadAction)
  | receive
  | write
  | dequeue
  | router (action : RouterAction)

namespace HealingPath

def report (threads : Threads) (cfg : Config) : Option UInt32 → Threads
  | some bitrate =>
      { threads with
        currentBitrateKbps := bitrate
        originalBitrateKbps := cfg.originalBitrateKbps }
  | none => threads

/-- The queues between the threads are filled and emptied by their owners only. -/
def step : Machine HealingPath PathAction
  | path, .thread action =>
      match action with
      | .dequeue | .updateBitrateState _ _ => none
      | action => (path.threads.step action).map fun threads => { path with threads := threads }
  | path, .receive => path.receive
  | path, .write => path.write
  | path, .dequeue => path.dequeue
  | path, .router action =>
      match action with
      | .emit _ | .loadBitrate _ => none
      | action =>
          (path.pipeline.step action).map fun pipeline =>
            { path with
              threads := report path.threads path.pipeline.cfg
                (path.pipeline.appliedBitrate action)
              pipeline := pipeline }

end HealingPath

/-! ## What is on its way -/

namespace Impl

/-- The commands that the frame thread has not applied. -/
def commands (s : Impl) : List RjCommand := s.commandQueue.items ++ s.frameThread.cmdBuf

def actions (s : Impl) : List RjAction :=
  s.actionThread.toList.map Load.action ++ s.frameCmds.items.map fun queued => queued.load.action

def Traced (s : Impl) : Prop :=
  ∀ queued ∈ s.frameCmds.items, queued.cmd.actionType = queued.load.action.actionType

theorem mem_commands_of_step {s next : Impl} {action : RouterAction}
    (stepped : step s action = some next) (noEmit : ∀ trigger, action ≠ .emit trigger) :
    next.commands ⊆ s.commands := by
  cases step_cases stepped with
  | silent trigger | written trigger => exact absurd rfl (noEmit trigger)
  | loaded | encoderSet => exact List.Subset.refl _
  | pushed load loaded =>
      unfold pushFrameCmd
      split <;> exact List.Subset.refl _
  | started phase | drained cmdBuf phase | headLoaded phase | slotApplied head tail queued phase
  | tailStored count phase => simp [commands, phase, FrameThread.cmdBuf]
  | popped cmdBuf command commandQueue phase room taken =>
      simp only [commands, taken, phase, FrameThread.cmdBuf]
      intro member membership
      simp only [List.mem_append, List.mem_cons, List.not_mem_nil, or_false] at membership ⊢
      tauto
  | applied command rest phase isNext =>
      intro member membership
      simp only [commands, phase, FrameThread.cmdBuf, List.mem_append, List.mem_cons]
        at membership ⊢
      tauto

theorem actions_of_step {s next : Impl} {action : RouterAction}
    (stepped : step s action = some next) :
    (next.actionThread = s.actionThread ∧ next.frameCmds = s.frameCmds) ∨
    (∃ loaded, action = .loadBitrate loaded ∧ s.actionThread = none ∧
      next.actionThread = some ⟨loaded, s.bitrateKbps⟩ ∧ next.frameCmds = s.frameCmds) ∨
    (∃ load, action = .pushFrameCmd ∧ s.actionThread = some load ∧ next = s.pushFrameCmd load) ∨
    (∃ count, action = .storeTail ∧ next.actionThread = s.actionThread ∧
      next.frameCmds = s.frameCmds.drop count) := by
  cases step_cases stepped with
  | loaded loaded free => exact .inr (.inl ⟨loaded, rfl, free, rfl, rfl⟩)
  | pushed load loaded => exact .inr (.inr (.inl ⟨load, rfl, loaded, rfl⟩))
  | tailStored count phase => exact .inr (.inr (.inr ⟨count, rfl, rfl, rfl⟩))
  | silent | written | started | popped | drained | applied | headLoaded | slotApplied
  | encoderSet => exact .inl ⟨rfl, rfl⟩

theorem mem_actions_of_step {s next : Impl} {action : RouterAction}
    (stepped : step s action = some next) {member : RjAction} (membership : member ∈ next.actions) :
    member ∈ s.actions ∨ action = .loadBitrate member := by
  rcases actions_of_step stepped with ⟨thread, ring⟩ | ⟨loaded, rfl, free, thread, ring⟩ |
    ⟨load, _, loaded, rfl⟩ | ⟨count, _, thread, ring⟩
  · simp only [actions, thread, ring] at membership ⊢
    exact .inl membership
  · simp only [actions, thread, ring, free, Option.toList_some, Option.toList_none,
      List.map_cons, List.map_nil, List.nil_append, List.mem_append, List.mem_singleton]
      at membership ⊢
    rcases membership with rfl | old
    · exact .inr rfl
    · exact .inl old
  · left
    unfold pushFrameCmd at membership
    split at membership
    next =>
      simp only [actions, Option.toList_none, List.map_nil, List.nil_append] at membership
      exact List.mem_append_right _ membership
    next cmd _ =>
      simp only [actions, Option.toList_none, List.map_nil, List.nil_append] at membership
      obtain ⟨queued, filled, rfl⟩ := List.mem_map.mp membership
      rcases BoundedQueue.mem_push_getD filled with old | rfl
      · exact List.mem_append_right _ (List.mem_map_of_mem old)
      · exact List.mem_append_left _ (by simp [loaded])
  · simp only [actions, thread, ring, BoundedQueue.items_drop, List.mem_append, List.mem_map]
      at membership ⊢
    left
    rcases membership with held | ⟨queued, kept, same⟩
    · exact .inl held
    · exact .inr ⟨queued, List.mem_of_mem_drop kept, same⟩

theorem Traced.step {s next : Impl} {action : RouterAction} (traced : s.Traced)
    (stepped : Impl.step s action = some next) : next.Traced := by
  rcases actions_of_step stepped with ⟨_, ring⟩ | ⟨_, _, _, _, ring⟩ | ⟨load, _, _, rfl⟩ |
    ⟨count, _, _, ring⟩
  · rw [Traced, ring]
    exact traced
  · rw [Traced, ring]
    exact traced
  · unfold pushFrameCmd
    split
    next => exact traced
    next cmd pushed =>
      intro queued filled
      rcases BoundedQueue.mem_push_getD filled with old | rfl
      · exact traced queued old
      · exact applyAction_actionType pushed
  · rw [Traced, ring]
    exact fun queued kept => traced queued (List.mem_of_mem_drop kept)

theorem mem_commands_of_nextCommand {s : Impl} {command : RjCommand}
    (next : s.nextCommand = some command) : command ∈ s.commands :=
  List.mem_append_right _ (mem_cmdBuf_of_nextCommand next)

/-- The bitrate changes when a command or a frame command for it is applied. -/
theorem step_bitrate_changed {s next : Impl} {action : RouterAction}
    (stepped : step s action = some next) (changed : next.bitrateKbps ≠ s.bitrateKbps) :
    (action = .applyCommand ∧ ∃ command, s.nextCommand = some command ∧
      command.cmdType = .bitrateSet) ∨
    (action = .applyFrameCmd ∧ ∃ queued, s.nextFrameCmd = some queued ∧
      (queued.cmd.actionType = .bitrateReduce ∨ queued.cmd.actionType = .bitrateRecover)) := by
  rw [(step_bitrate stepped).2] at changed
  cases action with
  | applyCommand =>
      obtain ⟨command, isNext⟩ := step_nextCommand stepped
      simp only [bitrateAfter, isNext, applyCommand_bitrate] at changed
      split at changed
      next applies => exact .inl ⟨rfl, command, isNext, applies.1⟩
      next => exact absurd rfl changed
  | applyFrameCmd =>
      obtain ⟨queued, isNext⟩ := step_nextFrameCmd stepped
      simp only [bitrateAfter, isNext, applyFrameCmd_bitrate] at changed
      split at changed
      next applies => exact .inr ⟨rfl, queued, isNext, applies.2.1⟩
      next => exact absurd rfl changed
  | emit | loadBitrate | pushFrameCmd | startDrain | popCommand | endDrain | loadHead | storeTail
  | setEncoder => exact absurd rfl changed

end Impl

namespace HealingPath

def commands (path : HealingPath) : List RjCommand :=
  (match path.writer with
    | .writing command => [command]
    | _ => []) ++ path.pipeline.commands

def actions (path : HealingPath) : List RjAction :=
  path.threads.ffi.actionQueue.items ++ path.pipeline.actions

/-! ## What a step does to it -/

theorem step_thread {path next : HealingPath} {action : ThreadAction}
    (stepped : path.step (.thread action) = some next) :
    path.threads.step action = some next.threads ∧ next.writer = path.writer ∧
      next.pipeline = path.pipeline := by
  simp only [step] at stepped
  split at stepped
  next => cases stepped
  next => cases stepped
  next =>
    obtain ⟨threads, moved, rfl⟩ := Option.map_eq_some_iff.mp stepped
    exact ⟨moved, rfl, rfl⟩

/-- The frame thread and the action thread leave the queues of the orchestrator alone. -/
theorem step_router {path next : HealingPath} {action : RouterAction}
    (stepped : path.step (.router action) = some next) :
    Impl.step path.pipeline action = some next.pipeline ∧
      (∀ trigger, action ≠ .emit trigger) ∧ (∀ loaded, action ≠ .loadBitrate loaded) ∧
      next.writer = path.writer ∧
      next.threads =
        report path.threads path.pipeline.cfg (path.pipeline.appliedBitrate action) := by
  simp only [step] at stepped
  split at stepped
  next => cases stepped
  next => cases stepped
  next noEmit noLoad =>
    obtain ⟨pipeline, moved, rfl⟩ := Option.map_eq_some_iff.mp stepped
    exact ⟨moved, fun trigger same => noEmit trigger same, fun loaded same => noLoad loaded same,
      rfl, rfl⟩

theorem report_frame (threads : Threads) (cfg : Config) (applied : Option UInt32) :
    (report threads cfg applied).ffi = threads.ffi ∧
      (report threads cfg applied).healing = threads.healing ∧
      (report threads cfg applied).phase = threads.phase ∧
      (report threads cfg applied).actionAutoApprove = threads.actionAutoApprove := by
  cases applied <;> exact ⟨rfl, rfl, rfl, rfl⟩

theorem step_receive {path next : HealingPath} (stepped : path.step .receive = some next) :
    path.writer = .receiving ∧ next.pipeline = path.pipeline ∧
      next.threads = { path.threads with healing := path.threads.healing.recv.1 } ∧
      (next.writer = .receiving ∨ next.writer = .stopped ∨
        ∃ event command, event ∈ path.threads.healing.unread ∧
          event.toCommand = some command ∧ next.writer = .writing command) := by
  obtain ⟨receiving, received⟩ := Option.ite_none_right_eq_some.mp stepped
  refine ⟨receiving, ?_⟩
  split at received
  next => cases received
  next =>
    cases received
    exact ⟨rfl, rfl, .inr (.inl rfl)⟩
  next event message =>
    have unread : event ∈ path.threads.healing.unread := by
      rw [(Broadcast.mem_unread_of_recv message).1]
      exact List.mem_cons_self
    split at received
    next command written =>
      cases received
      exact ⟨rfl, rfl, .inr (.inr ⟨event, command, unread, written, rfl⟩)⟩
    next =>
      cases received
      exact ⟨rfl, rfl, .inl receiving⟩

theorem step_write {path next : HealingPath} (stepped : path.step .write = some next) :
    ∃ command, path.writer = .writing command ∧ next.writer = .receiving ∧
      next.threads = path.threads ∧
      next.pipeline = { path.pipeline with
        commandQueue :=
          (path.pipeline.commandQueue.push command).getD path.pipeline.commandQueue } := by
  simp only [step, write] at stepped
  split at stepped
  next command writing =>
    cases stepped
    exact ⟨command, writing, rfl, rfl, rfl⟩
  next => cases stepped

theorem step_dequeue {path next : HealingPath} (stepped : path.step .dequeue = some next) :
    ∃ action, path.threads.ffi.rjActionDequeue.2 = some action ∧
      Impl.step path.pipeline (.loadBitrate action) = some next.pipeline ∧
      next.writer = path.writer ∧
      next.threads = { path.threads with ffi := path.threads.ffi.rjActionDequeue.1 } := by
  simp only [step, dequeue] at stepped
  split at stepped
  next => cases stepped
  next ffi action dequeued =>
    obtain ⟨pipeline, moved, rfl⟩ := Option.map_eq_some_iff.mp stepped
    exact ⟨action, by rw [dequeued], moved, rfl, by rw [dequeued]⟩

/-- A step is one of the orchestrator, or it reaches neither the monitor task nor the
mode nor the pending store. -/
theorem step_threads {path next : HealingPath} {action : PathAction}
    (stepped : path.step action = some next) :
    (∃ call, action = .thread call ∧ path.threads.step call = some next.threads) ∨
    (next.threads.phase = path.threads.phase ∧
      path.threads.ffi.Keeps next.threads.ffi) := by
  cases action with
  | thread call => exact .inl ⟨call, rfl, (step_thread stepped).1⟩
  | receive =>
      obtain ⟨_, _, threads, _⟩ := step_receive stepped
      rw [threads]
      exact .inr ⟨rfl, FfiState.Keeps.refl _⟩
  | write =>
      obtain ⟨_, _, _, threads, _⟩ := step_write stepped
      rw [threads]
      exact .inr ⟨rfl, FfiState.Keeps.refl _⟩
  | dequeue =>
      obtain ⟨_, _, _, _, threads⟩ := step_dequeue stepped
      rw [threads]
      exact .inr ⟨rfl, FfiState.keeps_rjActionDequeue _⟩
  | router action =>
      obtain ⟨_, _, _, _, threads⟩ := step_router stepped
      obtain ⟨ffi, _, phase, _⟩ :=
        report_frame path.threads path.pipeline.cfg (path.pipeline.appliedBitrate action)
      rw [threads, phase, ffi]
      exact .inr ⟨rfl, FfiState.Keeps.refl _⟩

theorem step_phase_mode {path next : HealingPath} {action : PathAction} {mode : HealingMode}
    (stepped : path.step action = some next) (works : next.threads.phase.mode = some mode) :
    path.threads.phase.mode = some mode ∨ mode = path.threads.currentMode := by
  rcases step_threads stepped with ⟨call, rfl, moved⟩ | ⟨phase, _⟩
  · exact Threads.step_phase_mode moved works
  · rw [phase] at works
    exact .inl works

/-- What a step does to the pipeline is a step of the pipeline, or a push of the
command writer. -/
theorem step_pipeline {path next : HealingPath} {action : PathAction}
    (stepped : path.step action = some next) :
    next.pipeline = path.pipeline ∨
    (∃ command, next.pipeline = { path.pipeline with
      commandQueue :=
        (path.pipeline.commandQueue.push command).getD path.pipeline.commandQueue }) ∨
    (∃ loaded, action = .dequeue ∧
      Impl.step path.pipeline (.loadBitrate loaded) = some next.pipeline) ∨
    (∃ access, action = .router access ∧
      Impl.step path.pipeline access = some next.pipeline) := by
  cases action with
  | thread call => exact .inl (step_thread stepped).2.2
  | receive => exact .inl (step_receive stepped).2.1
  | write =>
      obtain ⟨command, _, _, _, pushed⟩ := step_write stepped
      exact .inr (.inl ⟨command, pushed⟩)
  | dequeue =>
      obtain ⟨loaded, _, moved, _⟩ := step_dequeue stepped
      exact .inr (.inr (.inl ⟨loaded, rfl, moved⟩))
  | router access => exact .inr (.inr (.inr ⟨access, rfl, (step_router stepped).1⟩))

theorem traced_of_step {path next : HealingPath} {action : PathAction}
    (stepped : path.step action = some next) (traced : path.pipeline.Traced) :
    next.pipeline.Traced := by
  rcases step_pipeline stepped with same | ⟨command, pushed⟩ | ⟨loaded, _, moved⟩ |
    ⟨access, _, moved⟩
  · rw [same]
    exact traced
  · rw [pushed]
    exact traced
  · exact traced.step moved
  · exact traced.step moved

theorem mem_events_of_step {path next : HealingPath} {action : PathAction}
    (stepped : path.step action = some next) {event : HealingEvent}
    (unread : event ∈ next.threads.healing.unread) :
    event ∈ path.threads.healing.unread ∨
      (action = .thread .advance ∧
        (event.reduces = true → path.threads.reducesNext = true) ∧
        ∃ trigger : HealingTrigger, event = trigger.event) := by
  cases action with
  | thread action =>
      rcases Threads.mem_healing_of_step (step_thread stepped).1 unread with
        old | ⟨rfl, emits, emitted⟩
      · exact .inl old
      · exact .inr ⟨rfl, emits, emitted⟩
  | receive =>
      obtain ⟨_, _, threads, _⟩ := step_receive stepped
      rw [threads] at unread
      exact .inl ((Broadcast.unread_recv_sublist _).subset unread)
  | write =>
      obtain ⟨_, _, _, threads, _⟩ := step_write stepped
      rw [threads] at unread
      exact .inl unread
  | dequeue =>
      obtain ⟨_, _, _, _, threads⟩ := step_dequeue stepped
      rw [threads] at unread
      exact .inl unread
  | router action =>
      obtain ⟨_, _, _, _, threads⟩ := step_router stepped
      rw [threads, (report_frame _ _ _).2.1] at unread
      exact .inl unread

theorem mem_commands_of_step {path next : HealingPath} {action : PathAction}
    (stepped : path.step action = some next) {command : RjCommand}
    (membership : command ∈ next.commands) :
    command ∈ path.commands ∨
      ∃ event ∈ path.threads.healing.unread, event.toCommand = some command := by
  cases action with
  | thread action =>
      obtain ⟨_, writer, pipeline⟩ := step_thread stepped
      simp only [commands, writer, pipeline] at membership
      exact .inl membership
  | receive =>
      obtain ⟨receiving, pipeline, _, writer⟩ := step_receive stepped
      simp only [commands, receiving, pipeline] at membership ⊢
      rcases writer with same | stopped | ⟨event, written, unread, made, writing⟩
      · rw [same] at membership
        exact .inl membership
      · rw [stopped] at membership
        exact .inl membership
      · rw [writing] at membership
        rcases List.mem_append.mp membership with new | old
        · cases List.mem_singleton.mp new
          exact .inr ⟨event, unread, made⟩
        · exact .inl old
  | write =>
      obtain ⟨written, writing, receiving, _, pipeline⟩ := step_write stepped
      simp only [commands, writing, receiving, pipeline, Impl.commands, List.nil_append]
        at membership ⊢
      left
      rcases List.mem_append.mp membership with queued | buffered
      · rcases BoundedQueue.mem_push_getD queued with old | rfl
        · simp [old]
        · simp
      · simp [buffered]
  | dequeue =>
      obtain ⟨_, _, moved, writer, _⟩ := step_dequeue stepped
      simp only [commands, writer] at membership ⊢
      rcases List.mem_append.mp membership with held | passed
      · exact .inl (List.mem_append_left _ held)
      · exact .inl (List.mem_append_right _ (Impl.mem_commands_of_step moved (by simp) passed))
  | router action =>
      obtain ⟨moved, noEmit, _, writer, _⟩ := step_router stepped
      simp only [commands, writer] at membership ⊢
      rcases List.mem_append.mp membership with held | passed
      · exact .inl (List.mem_append_left _ held)
      · exact .inl (List.mem_append_right _ (Impl.mem_commands_of_step moved noEmit passed))

structure Unprompted (path : HealingPath) : Prop where
  events : ∀ event ∈ path.threads.healing.unread, event.reduces = false
  commands : ∀ command ∈ path.commands, command.cmdType ≠ .bitrateSet

/-- None comes on its way unless the monitor task asks for it. -/
theorem Unprompted.step {path next : HealingPath} {action : PathAction}
    (unprompted : path.Unprompted) (stepped : path.step action = some next)
    (silent : action = .thread .advance → path.threads.reducesNext = false) :
    next.Unprompted where
  events := by
    intro event unread
    rcases mem_events_of_step stepped unread with old | ⟨advancing, reducing, _⟩
    · exact unprompted.events event old
    · by_contra reduces
      have asks := reducing (Bool.eq_true_of_not_eq_false reduces)
      rw [silent advancing] at asks
      cases asks
  commands := by
    intro command sent bitrateSet
    rcases mem_commands_of_step stepped sent with old | ⟨event, unread, written⟩
    · exact unprompted.commands command old bitrateSet
    · have reduces := HealingEvent.reduces_of_toCommand written bitrateSet
      rw [unprompted.events event unread] at reduces
      cases reduces

/-- An action on its way is older, goes past the approval, or is approved. -/
theorem mem_actions_of_step {path next : HealingPath} {step : PathAction}
    (stepped : path.step step = some next) {action : RjAction}
    (membership : action ∈ next.actions) :
    action ∈ path.actions ∨
      (step = .thread .advance ∧
        ∃ routed, path.threads.automaticNext = some routed ∧ action = routed.rj) ∨
      (∃ id entry, step = .thread (.approve id) ∧ (path.threads.ffi.rjActionApprove id).2 = 1 ∧
        path.threads.ffi.pendingActions.lookup id = some entry ∧ action = entry.action) := by
  cases step with
  | thread step =>
      obtain ⟨moved, _, pipeline⟩ := step_thread stepped
      simp only [actions, pipeline] at membership ⊢
      rcases List.mem_append.mp membership with queued | passed
      · rcases Threads.mem_actionQueue_of_step moved queued with
          old | ⟨rfl, automatic⟩ | ⟨id, entry, rfl, approved⟩
        · exact .inl (List.mem_append_left _ old)
        · exact .inr (.inl ⟨rfl, automatic⟩)
        · exact .inr (.inr ⟨id, entry, rfl, approved⟩)
      · exact .inl (List.mem_append_right _ passed)
  | receive =>
      obtain ⟨_, pipeline, threads, _⟩ := step_receive stepped
      simp only [actions, pipeline, threads] at membership
      exact .inl membership
  | write =>
      obtain ⟨_, _, _, threads, pipeline⟩ := step_write stepped
      simp only [actions, pipeline, threads] at membership
      exact .inl membership
  | dequeue =>
      obtain ⟨taken, dequeued, moved, _, threads⟩ := step_dequeue stepped
      have items := (path.threads.ffi.rjActionDequeue_items).1
      rw [dequeued] at items
      simp only [actions, threads, items] at membership ⊢
      left
      rcases List.mem_append.mp membership with queued | passed
      · exact List.mem_append_left _ (List.mem_append_right _ queued)
      · rcases Impl.mem_actions_of_step moved passed with old | same
        · exact List.mem_append_right _ old
        · cases same
          exact List.mem_append_left _ (List.mem_append_left _ (by simp))
  | router action =>
      obtain ⟨moved, _, noLoad, _, threads⟩ := step_router stepped
      simp only [actions, threads, (report_frame _ _ _).1] at membership ⊢
      left
      rcases List.mem_append.mp membership with queued | passed
      · exact List.mem_append_left _ queued
      · rcases Impl.mem_actions_of_step moved passed with old | same
        · exact List.mem_append_right _ old
        · exact absurd same (noLoad _)

end HealingPath

end RejiStudio.Pipeline
