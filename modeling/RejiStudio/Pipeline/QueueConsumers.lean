import RejiStudio.Pipeline.HealingPath
import RejiStudio.Ws.StreamFlags

/-!
# The tasks behind the command channels

The command writer and the task for WebSocket commands each read a broadcast channel
whose sender lives as long as the process.  Both take any error of a receive for the end
of the channel, so a lag, which the monitor's own receives ride out, ends their loops.
-/

namespace RejiStudio.Pipeline

open RejiStudio.Lib RejiStudio.Orchestrator

/-- The healing path and the path of the WebSocket commands, side by side. -/
structure Consumers where
  path : HealingPath
  flow : Ws.StreamFlow

inductive ConsumerAction where
  | path (action : PathAction)
  | flow (action : Ws.StreamAction)

namespace Consumers

variable (platform : Ws.Platform)

def start (mode : UInt32) (rules : Option ParsedRules) (clock : Nat) (pipeline : Impl)
    (ws : Ws.WsState) : Consumers :=
  ⟨.start mode rules clock pipeline, .start ws⟩

def step : Machine Consumers ConsumerAction
  | consumers, .path action =>
      (consumers.path.step action).map fun path => { consumers with path := path }
  | consumers, .flow action =>
      (Ws.StreamFlow.step platform consumers.flow action).map fun flow =>
        { consumers with flow := flow }

structure InLoops (consumers : Consumers) : Prop where
  writer : consumers.path.writer ≠ .stopped
  commandTask : consumers.flow.commandTask ≠ .ended

def Survives (consumers : Consumers) (action : ConsumerAction) : Prop :=
  ∀ next, step platform consumers action = some next → next.InLoops

/-- No receive of a task finds that messages were overwritten since its last one. -/
def KeepsUp (consumers : Consumers) : ConsumerAction → Prop
  | .path .receive => consumers.path.threads.healing.lagged = false
  | .flow .receiveCommand => consumers.flow.cmdTx.lagged = false
  | _ => True

instance (consumers : Consumers) (action : ConsumerAction) :
    Decidable (consumers.KeepsUp action) :=
  match action with
  | .path .receive | .flow .receiveCommand => inferInstanceAs (Decidable (_ = _))
  | .path (.thread _) | .path .write | .path .dequeue | .path (.router _)
  | .flow (.request _ _ _ _ _) | .flow (.legacy _) | .flow .storeStartedAt | .flow .pushCommand
  | .flow .initPipeline | .flow .dequeue | .flow .call | .flow .startStream | .flow .stopStream
  | .flow .storeStreamActive | .flow (.environment _) => isTrue trivial

end Consumers

/-! ## The command writer -/

theorem HealingPath.step_stopped {path next : HealingPath} {action : PathAction}
    (stepped : path.step action = some next) (running : path.writer ≠ .stopped) :
    next.writer = .stopped ↔ action = .receive ∧ path.threads.healing.lagged = true := by
  cases action with
  | thread call =>
      rw [(step_thread stepped).2.1]
      simp [running]
  | write =>
      obtain ⟨_, _, receiving, _⟩ := step_write stepped
      simp [receiving]
  | dequeue =>
      obtain ⟨_, _, _, same, _⟩ := step_dequeue stepped
      rw [same]
      simp [running]
  | router action =>
      obtain ⟨_, _, _, same, _⟩ := step_router stepped
      rw [same]
      simp [running]
  | receive =>
      obtain ⟨receiving, received⟩ := Option.ite_none_right_eq_some.mp stepped
      unfold Broadcast.recv at received
      cases lagged : path.threads.healing.lagged with
      | true =>
          simp only [lagged, if_true] at received
          cases received
          simp
      | false =>
          simp only [lagged, Bool.false_eq_true, if_false] at received
          cases unread : path.threads.healing.unread with
          | nil =>
              rw [unread] at received
              exact absurd received nofun
          | cons event rest =>
              rw [unread] at received
              dsimp only at received
              cases written : event.toCommand with
              | none =>
                  rw [written] at received
                  cases received
                  simp [receiving]
              | some command =>
                  rw [written] at received
                  cases received
                  simp

namespace Consumers

variable {platform : Ws.Platform}

/-! ## The task for WebSocket commands -/

theorem flag_running {flow : Ws.StreamFlow} (waiting : flow.commandTask = .waiting)
    (cmd : String) : (flow.flag cmd).commandTask ≠ .ended := by
  unfold Ws.StreamFlow.flag
  split
  · exact nofun
  · exact nofun
  · exact nofun
  · exact nofun
  · rw [waiting]
    exact nofun

theorem receiveCommand_ended {flow next : Ws.StreamFlow}
    (received : flow.receiveCommand = some next) :
    next.commandTask = .ended ↔ flow.cmdTx.lagged = true := by
  obtain ⟨waiting, arrived⟩ := Option.ite_none_right_eq_some.mp received
  unfold Broadcast.recv at arrived
  cases lagged : flow.cmdTx.lagged with
  | true =>
      simp only [lagged, if_true] at arrived
      cases arrived
      exact iff_of_true rfl rfl
  | false =>
      simp only [lagged, Bool.false_eq_true, if_false] at arrived
      refine iff_of_false ?_ Bool.false_ne_true
      cases unread : flow.cmdTx.unread with
      | nil =>
          rw [unread] at arrived
          exact absurd arrived nofun
      | cons cmd rest =>
          rw [unread] at arrived
          cases arrived
          exact @flag_running { flow with cmdTx := ⟨rest, false⟩ } waiting cmd

/-- Only a receive after a lag ends the task, and it never comes back. -/
theorem flow_ended {flow next : Ws.StreamFlow} {action : Ws.StreamAction}
    (stepped : Ws.StreamFlow.step platform flow action = some next) :
    next.commandTask = .ended ↔ flow.commandTask = .ended ∨
      (action = .receiveCommand ∧ flow.cmdTx.lagged = true) := by
  have unchanged : next.commandTask = flow.commandTask → action ≠ .receiveCommand →
      (next.commandTask = .ended ↔ flow.commandTask = .ended ∨
        (action = .receiveCommand ∧ flow.cmdTx.lagged = true)) := by
    intro same other
    rw [same]
    exact ⟨.inl, fun ended => ended.resolve_right fun received => other received.1⟩
  cases action with
  | request requestType requestId requestData wsIncoming wsOutgoing =>
      cases stepped
      exact unchanged (Ws.StreamFlow.publish_commandTask _ _) (by simp)
  | legacy text =>
      cases stepped
      exact unchanged (Ws.StreamFlow.publish_commandTask _ _) (by simp)
  | receiveCommand =>
      obtain ⟨waiting, _⟩ := Option.ite_none_right_eq_some.mp stepped
      rw [receiveCommand_ended stepped]
      simp [waiting]
  | storeStartedAt =>
      simp only [Ws.StreamFlow.step, Ws.StreamFlow.storeStartedAt] at stepped
      split at stepped
      next active flagged =>
        cases stepped
        cases active <;> simp [Ws.StreamFlow.stamp, flagged]
      next => cases stepped
  | pushCommand =>
      simp only [Ws.StreamFlow.step, Ws.StreamFlow.pushCommand] at stepped
      split at stepped
      next code passing =>
        split at stepped
        next queue _ =>
          cases stepped
          simp [passing]
        next =>
          cases stepped
          simp [passing]
      next => cases stepped
  | initPipeline | dequeue | call | startStream | stopStream | storeStreamActive
  | environment =>
      have same := Ws.StreamFlow.step_sameTask platform stepped trivial
      exact unchanged same.commandTask (by simp)

/-! ## Both tasks -/

/-- The step lemma: while both tasks are in their loops, they survive the actions that
keep up. -/
theorem inLoops_iff_keepsUp {consumers next : Consumers} {action : ConsumerAction}
    (inLoops : consumers.InLoops) (stepped : step platform consumers action = some next) :
    next.InLoops ↔ consumers.KeepsUp action := by
  cases action with
  | path action =>
      obtain ⟨path, moved, rfl⟩ := Option.map_eq_some_iff.mp stepped
      have stops := HealingPath.step_stopped moved inLoops.writer
      constructor
      · intro survives
        cases action with
        | receive =>
            apply Bool.eq_false_iff.mpr
            intro lagged
            exact survives.writer (stops.mpr ⟨rfl, lagged⟩)
        | thread | write | dequeue | router => trivial
      · intro keepsUp
        refine ⟨fun stopped => ?_, inLoops.commandTask⟩
        obtain ⟨rfl, lagged⟩ := stops.mp stopped
        exact absurd (keepsUp.symm.trans lagged) nofun
  | flow action =>
      obtain ⟨flow, moved, rfl⟩ := Option.map_eq_some_iff.mp stepped
      have ends := flow_ended moved
      constructor
      · intro survives
        cases action with
        | receiveCommand =>
            apply Bool.eq_false_iff.mpr
            intro lagged
            exact survives.commandTask (ends.mpr (.inr ⟨rfl, lagged⟩))
        | request | legacy | storeStartedAt | pushCommand | initPipeline | dequeue | call
        | startStream | stopStream | storeStreamActive | environment => trivial
      · intro keepsUp
        refine ⟨inLoops.writer, fun ended => ?_⟩
        obtain ⟨rfl, lagged⟩ := (ends.mp ended).resolve_left inLoops.commandTask
        exact absurd (keepsUp.symm.trans lagged) nofun

/-- In every run the tasks stay in their loops exactly when each of their receives
keeps up. -/
theorem consumers_survive_iff_keepUp {mode : UInt32} {rules : Option ParsedRules} {clock : Nat}
    {pipeline : Impl} {ws : Ws.WsState} {actions : List ConsumerAction} {finish : Consumers}
    (executed :
      Machine.exec (step platform) (start mode rules clock pipeline ws) actions = some finish) :
    Machine.Along (step platform) KeepsUp (start mode rules clock pipeline ws) actions ↔
      Machine.Along (step platform) (Survives platform) (start mode rules clock pipeline ws)
        actions := by
  have initially : (start mode rules clock pipeline ws).InLoops := ⟨nofun, nofun⟩
  have advances : ∀ (consumers : Consumers) (action : ConsumerAction) (next : Consumers),
      True → consumers.InLoops → step platform consumers action = some next →
        True ∧ (next.InLoops ↔ consumers.KeepsUp action) :=
    fun _ _ _ _ inLoops stepped => ⟨trivial, inLoops_iff_keepsUp inLoops stepped⟩
  exact (Machine.along_after_iff advances trivial initially executed).symm

/-! ## What the loops are for -/

/-- A writer in its loop hands the next healing command to the pipeline. -/
theorem healing_command_forwarded {consumers : Consumers} {event : HealingEvent}
    {command : RjCommand} {queue : BoundedQueue RjCommand commandQueueCapacity}
    (waiting : consumers.path.writer = .receiving)
    (unread : consumers.path.threads.healing = ⟨[event], false⟩)
    (converted : event.toCommand = some command)
    (room : consumers.path.pipeline.commandQueue.push command = some queue) :
    ∃ finish, Machine.exec (step platform) consumers [.path .receive, .path .write] =
        some finish ∧ finish.path.pipeline.commandQueue = queue := by
  simp [step, HealingPath.step, HealingPath.receive, HealingPath.write, waiting, unread,
    Broadcast.recv, converted, room]

/-- So does the task for WebSocket commands with the next start or stop. -/
theorem stream_command_forwarded {consumers : Consumers} {cmd : String} {code : Int32}
    {queue : BoundedQueue (Int32 × Int32) 32}
    (known : (cmd, code) = ("stream_start", 1) ∨ (cmd, code) = ("stream_stop", 2))
    (waiting : consumers.flow.commandTask = .waiting)
    (unread : consumers.flow.cmdTx = ⟨[cmd], false⟩)
    (room : consumers.flow.ws.wsCommandQueue.push (code, 0) = some queue) :
    ∃ finish, Machine.exec (step platform) consumers
        [.flow .receiveCommand, .flow .storeStartedAt, .flow .pushCommand] = some finish ∧
      finish.flow.ws.wsCommandQueue = queue := by
  rcases known with start | stop
  · cases start
    simp [step, Ws.StreamFlow.step, Ws.StreamFlow.receiveCommand, Ws.StreamFlow.flag,
      Ws.StreamFlow.storeStartedAt, Ws.StreamFlow.stamp, Ws.StreamFlow.pushCommand, waiting,
      unread, Broadcast.recv, room]
  · cases stop
    simp [step, Ws.StreamFlow.step, Ws.StreamFlow.receiveCommand, Ws.StreamFlow.flag,
      Ws.StreamFlow.storeStartedAt, Ws.StreamFlow.stamp, Ws.StreamFlow.pushCommand, waiting,
      unread, Broadcast.recv, room]

theorem ended_stays {consumers finish : Consumers} {actions : List ConsumerAction}
    (ended : consumers.flow.commandTask = .ended)
    (executed : Machine.exec (step platform) consumers actions = some finish) :
    finish.flow.commandTask = .ended := by
  have preserved : ∀ (consumers : Consumers) (action : ConsumerAction) (next : Consumers),
      consumers.flow.commandTask = .ended → step platform consumers action = some next →
        next.flow.commandTask = .ended := by
    intro consumers action next ended stepped
    cases action with
    | path action =>
        obtain ⟨_, _, rfl⟩ := Option.map_eq_some_iff.mp stepped
        exact ended
    | flow action =>
        obtain ⟨flow, moved, rfl⟩ := Option.map_eq_some_iff.mp stepped
        exact (flow_ended moved).mpr (.inl ended)
  exact Machine.exec_invariant preserved ended executed

def startRequest : ConsumerAction := .flow (.request "StartStream" "1" .null 0 0)

def withCmdTx (consumers : Consumers) (cmdTx : Broadcast String 64) : Consumers :=
  { consumers with flow := { consumers.flow with cmdTx := cmdTx } }

theorem step_startRequest {consumers : Consumers}
    (running : consumers.flow.commandTask ≠ .ended) :
    step platform consumers startRequest =
      some (consumers.withCmdTx (consumers.flow.cmdTx.send "stream_start")) := by
  have dispatched : Ws.dispatchRequest platform "StartStream" "1" .null consumers.flow.ws 0 0 =
      ⟨Ws.requestResponseOk "StartStream" "1" (.object []), some "stream_start", none⟩ := rfl
  simp [step, startRequest, Ws.StreamFlow.step, Ws.StreamFlow.request, dispatched,
    Ws.StreamFlow.publish, running, withCmdTx]

theorem exec_startRequests {consumers : Consumers}
    (running : consumers.flow.commandTask ≠ .ended) (count : Nat) :
    Machine.exec (step platform) consumers (List.replicate count startRequest) =
      some (consumers.withCmdTx
        (consumers.flow.cmdTx.sendAll (List.replicate count "stream_start"))) := by
  induction count generalizing consumers with
  | zero => rfl
  | succ count inductionHypothesis =>
      rw [List.replicate_succ, Machine.exec_cons, step_startRequest running, Option.bind_some]
      exact inductionHypothesis running

/-- Any burst of requests that the channel does not hold ends the task. -/
theorem burst_ends_commandTask {consumers : Consumers}
    (waiting : consumers.flow.commandTask = .waiting)
    (bounded : consumers.flow.cmdTx.unread.length ≤ 64) {count : Nat}
    (burst : 64 < consumers.flow.cmdTx.unread.length + count) :
    ∃ finish, Machine.exec (step platform) consumers
        (List.replicate count startRequest ++ [.flow .receiveCommand]) = some finish ∧
      finish.flow.commandTask = .ended := by
  have running : consumers.flow.commandTask ≠ .ended := by
    rw [waiting]
    exact nofun
  have lagged : (consumers.flow.cmdTx.sendAll (List.replicate count "stream_start")).lagged =
      true := by
    refine Broadcast.lagged_sendAll_of_burst ?_ bounded
    rw [List.length_replicate]
    exact burst
  rw [Machine.exec_append, exec_startRequests running]
  simp [step, Ws.StreamFlow.step, Ws.StreamFlow.receiveCommand, withCmdTx, waiting,
    Broadcast.recv, lagged]

def idle : Consumers :=
  start 0 none 0 (Impl.initialized ⟨60, 6000, 1000, 0⟩ true) (Ws.StreamFlow.serverAt 5000)

def twoRequests : List ConsumerAction :=
  [startRequest, .flow .receiveCommand, .flow .storeStartedAt, .flow .pushCommand,
    .flow (.request "StopStream" "2" .null 0 0), .flow .receiveCommand, .flow .storeStartedAt,
    .flow .pushCommand]

theorem consumers_survive_twoRequests :
    ∃ finish, Machine.exec (step Ws.StreamFlow.silentPlatform) idle twoRequests = some finish ∧
      finish.flow.ws.wsCommandQueue.items = [(1, 0), (2, 0)] ∧
      Machine.Along (step Ws.StreamFlow.silentPlatform) (Survives Ws.StreamFlow.silentPlatform)
        idle twoRequests := by
  have observed : (Machine.exec (step Ws.StreamFlow.silentPlatform) idle twoRequests).map
      (fun finish => finish.flow.ws.wsCommandQueue.items) = some [(1, 0), (2, 0)] := by
    decide +kernel
  obtain ⟨finish, executed, queued⟩ := Option.map_eq_some_iff.mp observed
  have keepsUp : Machine.Along (step Ws.StreamFlow.silentPlatform) KeepsUp idle twoRequests := by
    decide +kernel
  exact ⟨finish, executed, queued, (consumers_survive_iff_keepUp executed).mp keepsUp⟩

/-- After sixty-five requests the task is gone for good. -/
theorem burst_of_requests_ends_task :
    ∃ finish, Machine.exec (step Ws.StreamFlow.silentPlatform) idle
        (List.replicate 65 startRequest ++ [.flow .receiveCommand]) = some finish ∧
      ¬ finish.InLoops ∧
      ∀ later last, Machine.exec (step Ws.StreamFlow.silentPlatform) finish later = some last →
        last.flow.commandTask = .ended := by
  have within : idle.flow.cmdTx.unread.length ≤ 64 := Nat.zero_le _
  obtain ⟨finish, executed, ended⟩ :=
    @burst_ends_commandTask Ws.StreamFlow.silentPlatform idle rfl within 65 (by decide)
  refine ⟨finish, executed, fun inLoops => inLoops.commandTask ended, ?_⟩
  intro later last continued
  exact ended_stays ended continued

end Consumers

end RejiStudio.Pipeline
