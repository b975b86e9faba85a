import RejiStudio.Lib.Broadcast
import RejiStudio.Lib.Machine
import RejiStudio.Ws.Server

/-!
# Three copies of the streaming flag

The pipeline, the user interface and the WebSocket server each keep a flag of their
own.  The server sets its flag when it passes a command on, the user interface when a
call of the pipeline returns, and neither hears of the other.
-/

namespace RejiStudio.Ws

open RejiStudio.Lib

/-- `process_stream_cmd`: the flags of the server and the code for the pipeline. -/
def processStreamCmd (cmd : String) (state : WsState) : WsState × Option Int32 :=
  match cmd with
  | "stream_start" =>
      ({ state with
        streamingActive := true
        streamStartedAtMs := state.nowEpochMs }, some 1)
  | "stream_stop" =>
      ({ state with
        streamingActive := false
        streamStartedAtMs := 0 }, some 2)
  | "scene_cut" => (state, some 3)
  | "scene_fade" => (state, some 4)
  | _ => (state, none)

def outputDuration (state : WsState) : UInt64 :=
  if state.streamingActive then
    UInt64.ofNat (state.nowEpochMs.toNat - state.streamStartedAtMs.toNat)
  else 0

theorem dispatchRequest_outputDuration (platform : Platform) (requestId : String)
    (requestData : Value) (state : WsState) (wsIncoming wsOutgoing : Nat) :
    (((dispatchRequest platform "GetStreamStatus" requestId requestData state wsIncoming
      wsOutgoing).response.d.get "responseData").bind (·.get "outputDuration")) =
      some (.posInt (outputDuration state)) := rfl

inductive Controller where
  | ui
  | ws
  deriving DecidableEq

/-- Where the slots of the user interface are: between the return of a call of the
pipeline and the store of `stream_active_`, or outside. -/
inductive UiThread where
  | idle
  | started
  | stopped
  deriving DecidableEq

/-- Where the task behind the command channel is; `flagged` is between the two stores of
`process_stream_cmd`, `passing` before the push. -/
inductive CommandTask where
  | ended
  | waiting
  | flagged (active : Bool)
  | passing (code : Int32)
  deriving DecidableEq

def streamCode (command : Int32 × Int32) : Option Bool :=
  if command.1 = 1 then some true
  else if command.1 = 2 then some false
  else none

def CommandTask.pending : CommandTask → List Bool
  | .flagged active => [active]
  | .passing code => (streamCode (code, 0)).toList
  | _ => []

/-- `lastCall`, `dropped`, `startedAt` and `redundant` are history. -/
structure StreamFlow where
  ws : WsState
  cmdTx : Broadcast String 64
  commandTask : CommandTask
  initialized : Bool
  /-- The frame thread's command, before the call. -/
  taken : Option Bool
  streaming : Bool
  uiThread : UiThread
  streamActive : Bool
  /-- Whose call reached the flag of the pipeline last. -/
  lastCall : Option Controller
  /-- The queue had no room for the server's last stream command. -/
  dropped : Bool
  /-- When the start was processed that set the flag of the server. -/
  startedAt : UInt64
  /-- The server processed another start since. -/
  redundant : Bool

/-- One step of a client, the server, the frame thread or the user interface. -/
inductive StreamAction where
  | request (requestType requestId : String) (requestData : Value) (wsIncoming wsOutgoing : Nat)
  | legacy (text : String)
  | receiveCommand
  | storeStartedAt
  | pushCommand
  | initPipeline
  | dequeue
  | call
  | startStream
  | stopStream
  | storeStreamActive
  /-- The rest of the shared state changes, the clock included. -/
  | environment (state : WsState)

namespace StreamFlow

variable (platform : Platform)

def start (ws : WsState) : StreamFlow where
  ws := { ws with
    streamingActive := false
    streamStartedAtMs := 0
    wsCommandQueue := .empty }
  cmdTx := .empty
  commandTask := .waiting
  initialized := false
  taken := none
  streaming := false
  uiThread := .idle
  streamActive := false
  lastCall := none
  dropped := false
  startedAt := 0
  redundant := false

def publish (flow : StreamFlow) : Option String → StreamFlow
  | some cmd =>
      if flow.commandTask = .ended then flow else { flow with cmdTx := flow.cmdTx.send cmd }
  | none => flow

/-- A request, as far as the channels go; a full queue drops a scene command. -/
def request (flow : StreamFlow) (requestType requestId : String) (requestData : Value)
    (wsIncoming wsOutgoing : Nat) : StreamFlow :=
  let dispatched :=
    dispatchRequest platform requestType requestId requestData flow.ws wsIncoming wsOutgoing
  let queue :=
    match dispatched.sceneCommand with
    | some command => (flow.ws.wsCommandQueue.push command).getD flow.ws.wsCommandQueue
    | none => flow.ws.wsCommandQueue
  { flow with ws := { flow.ws with wsCommandQueue := queue } }.publish dispatched.cmdTx

/-- `process_stream_cmd` up to its first store. -/
def flag (flow : StreamFlow) (cmd : String) : StreamFlow :=
  match cmd with
  | "stream_start" =>
      { flow with
        ws := { flow.ws with streamingActive := true }
        commandTask := .flagged true
        dropped := false
        redundant := flow.ws.streamingActive }
  | "stream_stop" =>
      { flow with
        ws := { flow.ws with streamingActive := false }
        commandTask := .flagged false
        dropped := false }
  | "scene_cut" => { flow with commandTask := .passing 3 }
  | "scene_fade" => { flow with commandTask := .passing 4 }
  | _ => flow

/-- The rest of `process_stream_cmd`. -/
def stamp (flow : StreamFlow) (active : Bool) : StreamFlow :=
  if active then
    { flow with
      ws := { flow.ws with streamStartedAtMs := flow.ws.nowEpochMs }
      commandTask := .passing 1
      startedAt := if flow.redundant then flow.startedAt else flow.ws.nowEpochMs }
  else
    { flow with
      ws := { flow.ws with streamStartedAtMs := 0 }
      commandTask := .passing 2 }

def receiveCommand (flow : StreamFlow) : Option StreamFlow :=
  if flow.commandTask = .waiting then
    match flow.cmdTx.recv with
    | (_, .empty) => none
    | (_, .lagged) =>
        some { flow with
          cmdTx := .empty
          commandTask := .ended }
    | (cmdTx, .message cmd) => some ({ flow with cmdTx := cmdTx }.flag cmd)
  else none

def storeStartedAt (flow : StreamFlow) : Option StreamFlow :=
  match flow.commandTask with
  | .flagged active => some (flow.stamp active)
  | _ => none

def pushCommand (flow : StreamFlow) : Option StreamFlow :=
  match flow.commandTask with
  | .passing code =>
      match flow.ws.wsCommandQueue.push (code, 0) with
      | some queue =>
          some { flow with
            ws := { flow.ws with wsCommandQueue := queue }
            commandTask := .waiting }
      | none =>
          some { flow with
            commandTask := .waiting
            dropped := flow.dropped || (streamCode (code, 0)).isSome }
  | _ => none

def dequeue (flow : StreamFlow) : Option StreamFlow :=
  if flow.initialized ∧ flow.taken = none then
    flow.ws.wsCommandQueue.pop.map fun (command, queue) =>
      { flow with
        ws := { flow.ws with wsCommandQueue := queue }
        taken := streamCode command }
  else none

/-- The exchange in `start_stream` and `stop_stream`. -/
def exchange (flow : StreamFlow) (caller : Controller) (active : Bool) : StreamFlow :=
  { flow with
    streaming := active
    lastCall := some caller }

def call (flow : StreamFlow) : Option StreamFlow :=
  flow.taken.map fun active => { flow.exchange .ws active with taken := none }

/-- `MainWindow::startStream` up to the return of the pipeline. -/
def startStream (flow : StreamFlow) : StreamFlow :=
  if flow.streamActive then flow
  else if flow.initialized then { flow.exchange .ui true with uiThread := .started }
  else flow

/-- `MainWindow::stopStream` up to the return of the pipeline. -/
def stopStream (flow : StreamFlow) : StreamFlow :=
  if flow.streamActive then { flow.exchange .ui false with uiThread := .stopped }
  else flow

def storeStreamActive (flow : StreamFlow) : Option StreamFlow :=
  match flow.uiThread with
  | .idle => none
  | .started =>
      some { flow with
        streamActive := true
        uiThread := .idle }
  | .stopped =>
      some { flow with
        streamActive := false
        uiThread := .idle }

def step : Machine StreamFlow StreamAction
  | flow, .request requestType requestId requestData wsIncoming wsOutgoing =>
      some (flow.request platform requestType requestId requestData wsIncoming wsOutgoing)
  | flow, .legacy text => some (flow.publish (legacyCmd platform text))
  | flow, .receiveCommand => flow.receiveCommand
  | flow, .storeStartedAt => flow.storeStartedAt
  | flow, .pushCommand => flow.pushCommand
  | flow, .initPipeline => some { flow with initialized := true }
  | flow, .dequeue => flow.dequeue
  | flow, .call => flow.call
  | flow, .startStream => if flow.uiThread = .idle then some flow.startStream else none
  | flow, .stopStream => if flow.uiThread = .idle then some flow.stopStream else none
  | flow, .storeStreamActive => flow.storeStreamActive
  | flow, .environment state =>
      some { flow with ws := { state with
        streamingActive := flow.ws.streamingActive
        streamStartedAtMs := flow.ws.streamStartedAtMs
        wsCommandQueue := flow.ws.wsCommandQueue } }

structure Drained (flow : StreamFlow) : Prop where
  cmdTx : flow.cmdTx.unread = []
  commandTask : flow.commandTask = .waiting ∨ flow.commandTask = .ended
  wsCommandQueue : flow.ws.wsCommandQueue.items = []
  taken : flow.taken = none
  uiThread : flow.uiThread = .idle

theorem flag_processStreamCmd {flow : StreamFlow} (waiting : flow.commandTask = .waiting)
    (cmd : String) :
    let flagged := flow.flag cmd
    let processed := flagged.storeStartedAt.getD flagged
    processed.ws = (processStreamCmd cmd flow.ws).1 ∧
      processed.commandTask =
        ((processStreamCmd cmd flow.ws).2.map CommandTask.passing).getD .waiting := by
  dsimp only
  unfold flag processStreamCmd
  split
  · exact ⟨rfl, rfl⟩
  · exact ⟨rfl, rfl⟩
  · exact ⟨rfl, rfl⟩
  · exact ⟨rfl, rfl⟩
  · unfold storeStartedAt
    rw [waiting]
    exact ⟨rfl, waiting⟩

/-! ## Steps outside the task -/

theorem publish_commandTask (flow : StreamFlow) (cmd : Option String) :
    (flow.publish cmd).commandTask = flow.commandTask := by
  cases cmd with
  | none => rfl
  | some cmd =>
      rw [publish]
      split_ifs <;> rfl

structure SameTask (before after : StreamFlow) : Prop where
  cmdTx : after.cmdTx = before.cmdTx
  commandTask : after.commandTask = before.commandTask
  streamingActive : after.ws.streamingActive = before.ws.streamingActive

/-- The steps of the pipeline, of the user interface and of the environment. -/
def Outside : StreamAction → Prop
  | .request _ _ _ _ _ | .legacy _ | .receiveCommand | .storeStartedAt | .pushCommand => False
  | _ => True

theorem step_sameTask {flow next : StreamFlow} {action : StreamAction}
    (stepped : step platform flow action = some next) (outside : Outside action) :
    flow.SameTask next := by
  cases action with
  | request | legacy | receiveCommand | storeStartedAt | pushCommand => cases outside
  | initPipeline =>
      cases stepped
      exact ⟨rfl, rfl, rfl⟩
  | dequeue =>
      obtain ⟨_, taken⟩ := Option.ite_none_right_eq_some.mp stepped
      obtain ⟨_, _, rfl⟩ := Option.map_eq_some_iff.mp taken
      exact ⟨rfl, rfl, rfl⟩
  | call =>
      obtain ⟨_, _, rfl⟩ := Option.map_eq_some_iff.mp stepped
      exact ⟨rfl, rfl, rfl⟩
  | startStream =>
      obtain ⟨_, called⟩ := Option.ite_none_right_eq_some.mp stepped
      cases called
      unfold startStream
      split_ifs <;> exact ⟨rfl, rfl, rfl⟩
  | stopStream =>
      obtain ⟨_, called⟩ := Option.ite_none_right_eq_some.mp stepped
      cases called
      unfold stopStream
      split_ifs <;> exact ⟨rfl, rfl, rfl⟩
  | storeStreamActive =>
      rw [step, storeStreamActive] at stepped
      split at stepped <;> cases stepped <;> exact ⟨rfl, rfl, rfl⟩
  | environment state =>
      cases stepped
      exact ⟨rfl, rfl, rfl⟩

/-! ## The invariant -/

/-- What the commands on their way to the pipeline ask of the stream, the oldest first. -/
def pendingStream (flow : StreamFlow) : List Bool :=
  flow.taken.toList ++ flow.ws.wsCommandQueue.items.filterMap streamCode ++
    flow.commandTask.pending

structure ServerInvariant (flow : StreamFlow) : Prop where
  pending : ∀ active, flow.pendingStream.getLast? = some active →
    flow.ws.streamingActive = active
  called : flow.pendingStream = [] → flow.lastCall = some .ws →
    flow.streaming = flow.ws.streamingActive
  silent : flow.pendingStream = [] → flow.lastCall = none → flow.ws.streamingActive = false

def uiFlag (flow : StreamFlow) : Bool :=
  match flow.uiThread with
  | .idle => flow.streamActive
  | .started => true
  | .stopped => false

structure Invariant (flow : StreamFlow) : Prop where
  server : flow.dropped = false → flow.ServerInvariant
  ui : flow.lastCall = some .ui → flow.streaming = flow.uiFlag
  silent : flow.lastCall = none → flow.streaming = false ∧ flow.uiFlag = false
  duration : flow.ws.streamingActive = true → flow.redundant = false →
    flow.commandTask ≠ .flagged true → flow.ws.streamStartedAtMs = flow.startedAt
  flagged : ∀ active, flow.commandTask = .flagged active → flow.ws.streamingActive = active

theorem invariant_start (ws : WsState) : (start ws).Invariant where
  server := fun _ => ⟨nofun, nofun, fun _ _ => rfl⟩
  ui := nofun
  silent := fun _ => ⟨rfl, rfl⟩
  duration := nofun
  flagged := nofun

structure SameFlags (before after : StreamFlow) : Prop where
  streamingActive : after.ws.streamingActive = before.ws.streamingActive
  streamStartedAtMs : after.ws.streamStartedAtMs = before.ws.streamStartedAtMs
  pendingStream : after.pendingStream = before.pendingStream
  streaming : after.streaming = before.streaming
  uiFlag : after.uiFlag = before.uiFlag
  lastCall : after.lastCall = before.lastCall
  dropped : after.dropped = before.dropped
  startedAt : after.startedAt = before.startedAt
  redundant : after.redundant = before.redundant
  flagged : ∀ active, after.commandTask = .flagged active ↔ before.commandTask = .flagged active

theorem SameFlags.trans {first second third : StreamFlow} (before : first.SameFlags second)
    (after : second.SameFlags third) : first.SameFlags third where
  streamingActive := after.streamingActive.trans before.streamingActive
  streamStartedAtMs := after.streamStartedAtMs.trans before.streamStartedAtMs
  pendingStream := after.pendingStream.trans before.pendingStream
  streaming := after.streaming.trans before.streaming
  uiFlag := after.uiFlag.trans before.uiFlag
  lastCall := after.lastCall.trans before.lastCall
  dropped := after.dropped.trans before.dropped
  startedAt := after.startedAt.trans before.startedAt
  redundant := after.redundant.trans before.redundant
  flagged := fun active => (after.flagged active).trans (before.flagged active)

theorem Invariant.keep {before after : StreamFlow} (invariant : before.Invariant)
    (same : before.SameFlags after) : after.Invariant where
  server := by
    intro kept
    rw [same.dropped] at kept
    obtain ⟨pending, called, silent⟩ := invariant.server kept
    refine ⟨?_, ?_, ?_⟩
    · rw [same.pendingStream, same.streamingActive]
      exact pending
    · rw [same.pendingStream, same.lastCall, same.streaming, same.streamingActive]
      exact called
    · rw [same.pendingStream, same.lastCall, same.streamingActive]
      exact silent
  ui := by
    rw [same.lastCall, same.streaming, same.uiFlag]
    exact invariant.ui
  silent := by
    rw [same.lastCall, same.streaming, same.uiFlag]
    exact invariant.silent
  duration := by
    rw [same.streamingActive, same.redundant, same.streamStartedAtMs, same.startedAt, Ne,
      same.flagged true]
    exact invariant.duration
  flagged := by
    intro active now
    rw [same.streamingActive]
    exact invariant.flagged active ((same.flagged active).mp now)

/-! ## Steps that keep the flags -/

theorem publish_sameFlags (flow : StreamFlow) (cmd : Option String) :
    flow.SameFlags (flow.publish cmd) := by
  unfold publish
  split
  · split <;> exact ⟨rfl, rfl, rfl, rfl, rfl, rfl, rfl, rfl, rfl, fun _ => Iff.rfl⟩
  · exact ⟨rfl, rfl, rfl, rfl, rfl, rfl, rfl, rfl, rfl, fun _ => Iff.rfl⟩

theorem streamCode_of_request {requestType requestId : String} {requestData : Value}
    {state : WsState} {wsIncoming wsOutgoing : Nat} {command : Int32 × Int32}
    (pushes : (dispatchRequest platform requestType requestId requestData state wsIncoming
      wsOutgoing).sceneCommand = some command) : streamCode command = none := by
  unfold dispatchRequest at pushes
  split at pushes
  case h_7 =>
    dsimp only at pushes
    split at pushes
    · cases pushes
      rfl
    · cases pushes
  all_goals cases pushes

theorem filterMap_push {queue next : BoundedQueue (Int32 × Int32) 32} {command : Int32 × Int32}
    (pushed : queue.push command = some next) :
    next.items.filterMap streamCode =
      queue.items.filterMap streamCode ++ (streamCode command).toList := by
  rw [(BoundedQueue.push_eq_some_iff.mp pushed).2, List.filterMap_append]
  cases asks : streamCode command <;> simp [asks]

theorem request_sameFlags (flow : StreamFlow) (requestType requestId : String)
    (requestData : Value) (wsIncoming wsOutgoing : Nat) :
    flow.SameFlags
      (flow.request platform requestType requestId requestData wsIncoming wsOutgoing) := by
  refine SameFlags.trans ?_ (publish_sameFlags _ _)
  refine ⟨rfl, rfl, ?_, rfl, rfl, rfl, rfl, rfl, rfl, fun _ => Iff.rfl⟩
  dsimp only [pendingStream]
  split
  next command pushes =>
    cases pushed : flow.ws.wsCommandQueue.push command with
    | none => rfl
    | some queue =>
        rw [Option.getD_some, filterMap_push pushed, streamCode_of_request platform pushes,
          Option.toList_none, List.append_nil]
  next => rfl

theorem dequeue_sameFlags {flow next : StreamFlow} (dequeued : flow.dequeue = some next) :
    flow.SameFlags next := by
  unfold dequeue at dequeued
  obtain ⟨⟨_, free⟩, taken⟩ := Option.ite_none_right_eq_some.mp dequeued
  obtain ⟨⟨command, queue⟩, popped, rfl⟩ := Option.map_eq_some_iff.mp taken
  refine ⟨rfl, rfl, ?_, rfl, rfl, rfl, rfl, rfl, rfl, fun _ => Iff.rfl⟩
  dsimp only [pendingStream]
  rw [free, BoundedQueue.pop_eq_some_iff.mp popped, List.filterMap_cons]
  cases streamCode command <;> simp

theorem storeStreamActive_sameFlags {flow next : StreamFlow}
    (stored : flow.storeStreamActive = some next) : flow.SameFlags next := by
  unfold storeStreamActive at stored
  split at stored
  next => cases stored
  next started =>
    cases stored
    have same : true = flow.uiFlag := by rw [uiFlag, started]
    exact ⟨rfl, rfl, rfl, rfl, same, rfl, rfl, rfl, rfl, fun _ => Iff.rfl⟩
  next stopped =>
    cases stored
    have same : false = flow.uiFlag := by rw [uiFlag, stopped]
    exact ⟨rfl, rfl, rfl, rfl, same, rfl, rfl, rfl, rfl, fun _ => Iff.rfl⟩

/-! ## The task of the server -/

theorem ServerInvariant.of_pending {flow : StreamFlow} {earlier : List Bool} {active : Bool}
    (pending : flow.pendingStream = earlier ++ [active])
    (flag : flow.ws.streamingActive = active) : flow.ServerInvariant where
  pending := by
    intro last latest
    rw [pending, List.getLast?_concat, Option.some.injEq] at latest
    rw [flag, latest]
  called := by
    intro empty
    simp [pending] at empty
  silent := by
    intro empty
    simp [pending] at empty

theorem passing_sameFlags {flow : StreamFlow} (waiting : flow.commandTask = .waiting)
    {code : Int32} (scene : streamCode (code, 0) = none) :
    flow.SameFlags { flow with commandTask := .passing code } := by
  refine ⟨rfl, rfl, ?_, rfl, rfl, rfl, rfl, rfl, rfl, ?_⟩
  · dsimp only [pendingStream]
    rw [waiting, CommandTask.pending, scene]
    rfl
  · simp [waiting]

theorem Invariant.flag {flow : StreamFlow} (invariant : flow.Invariant)
    (waiting : flow.commandTask = .waiting) (cmd : String) : (flow.flag cmd).Invariant := by
  unfold StreamFlow.flag
  split
  · exact ⟨fun _ => .of_pending rfl rfl, invariant.ui, invariant.silent,
      fun _ _ other => absurd rfl other, fun active now => by cases now; rfl⟩
  · exact ⟨fun _ => .of_pending rfl rfl, invariant.ui, invariant.silent, nofun,
      fun active now => by cases now; rfl⟩
  · exact invariant.keep (passing_sameFlags waiting (by decide))
  · exact invariant.keep (passing_sameFlags waiting (by decide))
  · exact invariant

theorem Invariant.receiveCommand {flow next : StreamFlow} (invariant : flow.Invariant)
    (received : flow.receiveCommand = some next) : next.Invariant := by
  unfold StreamFlow.receiveCommand at received
  obtain ⟨waiting, arrived⟩ := Option.ite_none_right_eq_some.mp received
  split at arrived
  next => cases arrived
  next =>
    cases arrived
    refine invariant.keep ⟨rfl, rfl, ?_, rfl, rfl, rfl, rfl, rfl, rfl, ?_⟩
    · dsimp only [pendingStream]
      rw [waiting]
      rfl
    · simp [waiting]
  next cmdTx cmd _ =>
    cases arrived
    have read : ({ flow with cmdTx := cmdTx } : StreamFlow).Invariant :=
      invariant.keep ⟨rfl, rfl, rfl, rfl, rfl, rfl, rfl, rfl, rfl, fun _ => Iff.rfl⟩
    exact read.flag waiting cmd

theorem stamp_pendingStream {flow : StreamFlow} {active : Bool}
    (flagged : flow.commandTask = .flagged active) :
    (flow.stamp active).pendingStream = flow.pendingStream := by
  unfold pendingStream
  rw [flagged]
  cases active <;> rfl

theorem Invariant.storeStartedAt {flow next : StreamFlow} (invariant : flow.Invariant)
    (stored : flow.storeStartedAt = some next) : next.Invariant := by
  unfold StreamFlow.storeStartedAt at stored
  split at stored
  next active flagged =>
    have pending := stamp_pendingStream flagged
    have flag := invariant.flagged active flagged
    cases stored
    have server : flow.dropped = false → (flow.stamp active).ServerInvariant := by
      intro kept
      obtain ⟨current, called, silent⟩ := invariant.server kept
      rw [← pending] at current called silent
      cases active <;> exact ⟨current, called, silent⟩
    cases active with
    | true =>
        exact ⟨server, invariant.ui, invariant.silent,
          fun _ first _ => (if_neg (ne_true_of_eq_false first)).symm, nofun⟩
    | false =>
        exact ⟨server, invariant.ui, invariant.silent,
          fun on _ _ => absurd (flag.symm.trans on) Bool.false_ne_true, nofun⟩
  next => cases stored

theorem Invariant.pushCommand {flow next : StreamFlow} (invariant : flow.Invariant)
    (pushes : flow.pushCommand = some next) : next.Invariant := by
  unfold StreamFlow.pushCommand at pushes
  split at pushes
  next code passing =>
    split at pushes
    next queue pushed =>
      cases pushes
      refine invariant.keep ⟨rfl, rfl, ?_, rfl, rfl, rfl, rfl, rfl, rfl, ?_⟩
      · dsimp only [pendingStream]
        rw [filterMap_push pushed, passing]
        simp [CommandTask.pending]
      · simp [passing]
    next full =>
      cases pushes
      cases asks : streamCode (code, 0) with
      | none =>
          refine invariant.keep ⟨rfl, rfl, ?_, rfl, rfl, rfl, ?_, rfl, rfl, ?_⟩
          · dsimp only [pendingStream]
            rw [passing, CommandTask.pending, asks]
            rfl
          · simp
          · simp [passing]
      | some active =>
          have duration : flow.commandTask ≠ .flagged true := by simp [passing]
          refine ⟨?_, invariant.ui, invariant.silent, ?_, nofun⟩
          · intro kept
            simp at kept
          · exact fun on first _ => invariant.duration on first duration
  next => cases pushes

/-! ## The calls -/

/-- The call for the oldest command leaves the flag to what the next ones ask for. -/
theorem Invariant.call {flow next : StreamFlow} (invariant : flow.Invariant)
    (called : flow.call = some next) : next.Invariant := by
  obtain ⟨active, taken, rfl⟩ := Option.map_eq_some_iff.mp called
  refine ⟨?_, nofun, nofun, invariant.duration, invariant.flagged⟩
  intro kept
  have server := invariant.server kept
  have oldest : flow.pendingStream =
      active :: pendingStream { flow.exchange .ws active with taken := none } := by
    unfold pendingStream
    rw [taken]
    rfl
  refine ⟨?_, ?_, nofun⟩
  · intro last pending
    apply server.pending last
    rw [oldest, List.getLast?_cons, pending]
    rfl
  · intro empty _
    have only : flow.pendingStream.getLast? = some active := by
      rw [oldest, empty]
      rfl
    exact (server.pending active only).symm

theorem ServerInvariant.exchange {flow : StreamFlow} (server : flow.ServerInvariant)
    (active : Bool) (uiThread : UiThread) :
    ServerInvariant { flow.exchange .ui active with uiThread := uiThread } where
  pending := server.pending
  called := nofun
  silent := nofun

theorem Invariant.startStream {flow : StreamFlow} (invariant : flow.Invariant) :
    flow.startStream.Invariant := by
  unfold StreamFlow.startStream
  split
  · exact invariant
  · split
    · exact ⟨fun kept => (invariant.server kept).exchange true .started, fun _ => rfl, nofun,
        invariant.duration, invariant.flagged⟩
    · exact invariant

theorem Invariant.stopStream {flow : StreamFlow} (invariant : flow.Invariant) :
    flow.stopStream.Invariant := by
  unfold StreamFlow.stopStream
  split
  · exact ⟨fun kept => (invariant.server kept).exchange false .stopped, fun _ => rfl, nofun,
      invariant.duration, invariant.flagged⟩
  · exact invariant

theorem Invariant.step {flow next : StreamFlow} {action : StreamAction}
    (invariant : flow.Invariant) (stepped : StreamFlow.step platform flow action = some next) :
    next.Invariant := by
  cases action with
  | request requestType requestId requestData wsIncoming wsOutgoing =>
      cases stepped
      exact invariant.keep (request_sameFlags platform _ _ _ _ _ _)
  | legacy text =>
      cases stepped
      exact invariant.keep (publish_sameFlags _ _)
  | receiveCommand => exact invariant.receiveCommand stepped
  | storeStartedAt => exact invariant.storeStartedAt stepped
  | pushCommand => exact invariant.pushCommand stepped
  | initPipeline =>
      cases stepped
      exact invariant.keep ⟨rfl, rfl, rfl, rfl, rfl, rfl, rfl, rfl, rfl, fun _ => Iff.rfl⟩
  | dequeue => exact invariant.keep (dequeue_sameFlags stepped)
  | call => exact invariant.call stepped
  | startStream =>
      obtain ⟨_, returned⟩ := Option.ite_none_right_eq_some.mp stepped
      cases returned
      exact invariant.startStream
  | stopStream =>
      obtain ⟨_, returned⟩ := Option.ite_none_right_eq_some.mp stepped
      cases returned
      exact invariant.stopStream
  | storeStreamActive => exact invariant.keep (storeStreamActive_sameFlags stepped)
  | environment state =>
      cases stepped
      exact invariant.keep ⟨rfl, rfl, rfl, rfl, rfl, rfl, rfl, rfl, rfl, fun _ => Iff.rfl⟩

theorem invariant_of_exec {ws : WsState} {actions : List StreamAction} {flow : StreamFlow}
    (executed : Machine.exec (step platform) (start ws) actions = some flow) :
    flow.Invariant :=
  Machine.exec_invariant (fun _ _ _ invariant stepped => invariant.step platform stepped)
    (invariant_start ws) executed

namespace Drained

theorem pendingStream {flow : StreamFlow} (drained : flow.Drained) :
    flow.pendingStream = [] := by
  have task : flow.commandTask.pending = [] := by
    rcases drained.commandTask with waiting | ended
    · rw [waiting]
      rfl
    · rw [ended]
      rfl
  rw [StreamFlow.pendingStream, drained.taken, drained.wsCommandQueue, task]
  rfl

theorem uiFlag {flow : StreamFlow} (drained : flow.Drained) :
    flow.uiFlag = flow.streamActive := by
  rw [StreamFlow.uiFlag, drained.uiThread]

theorem notFlagged {flow : StreamFlow} (drained : flow.Drained) (active : Bool) :
    flow.commandTask ≠ .flagged active := by
  rcases drained.commandTask with waiting | ended
  · simp [waiting]
  · simp [ended]

end Drained

theorem outputDuration_inactive {state : WsState} (inactive : state.streamingActive = false) :
    outputDuration state = 0 := if_neg (ne_true_of_eq_false inactive)

theorem Invariant.outputDuration {flow : StreamFlow} (invariant : flow.Invariant)
    (drained : flow.Drained) (active : flow.ws.streamingActive = true)
    (first : flow.redundant = false) :
    outputDuration flow.ws =
      UInt64.ofNat (flow.ws.nowEpochMs.toNat - flow.startedAt.toNat) := by
  rw [Ws.outputDuration, if_pos active,
    invariant.duration active first (drained.notFlagged true)]

/-- Once nothing is on its way, the flag of the pipeline is the copy of the controller
whose call came last, and the three agree when the two copies do. -/
theorem streaming_agrees_once_drained {ws : WsState} {actions : List StreamAction}
    {flow : StreamFlow}
    (executed : Machine.exec (step platform) (start ws) actions = some flow)
    (drained : flow.Drained) :
    (flow.lastCall = some .ui → flow.streaming = flow.streamActive) ∧
    (flow.dropped = false → flow.lastCall = some .ws →
      flow.streaming = flow.ws.streamingActive) ∧
    (flow.dropped = false →
      ((flow.streaming = flow.streamActive ∧ flow.streaming = flow.ws.streamingActive) ↔
        flow.streamActive = flow.ws.streamingActive)) ∧
    (flow.ws.streamingActive = false → outputDuration flow.ws = 0) ∧
    (flow.ws.streamingActive = true → flow.redundant = false →
      outputDuration flow.ws =
        UInt64.ofNat (flow.ws.nowEpochMs.toNat - flow.startedAt.toNat)) := by
  have invariant := invariant_of_exec platform executed
  have ui := invariant.ui
  have silent := invariant.silent
  rw [drained.uiFlag] at ui silent
  have served : flow.dropped = false → flow.lastCall = some .ws →
      flow.streaming = flow.ws.streamingActive :=
    fun kept => (invariant.server kept).called drained.pendingStream
  refine ⟨ui, served, ?_, outputDuration_inactive, invariant.outputDuration drained⟩
  intro kept
  constructor
  · rintro ⟨first, second⟩
    exact first.symm.trans second
  · intro same
    cases last : flow.lastCall with
    | none =>
        obtain ⟨stopped, idle⟩ := silent last
        have inactive := (invariant.server kept).silent drained.pendingStream last
        exact ⟨stopped.trans idle.symm, stopped.trans inactive.symm⟩
    | some caller =>
        cases caller with
        | ui => exact ⟨ui last, (ui last).trans same⟩
        | ws => exact ⟨(served kept last).trans same.symm, served kept last⟩

def silentPlatform : Platform where
  parseJson := fun _ => none
  parseMsgpack := fun _ => none
  renderJson := fun _ => none
  renderMsgpack := fun _ => none
  sha256B64 := id
  defaultHash := fun _ => 0

def serverAt (nowEpochMs : UInt64) : WsState where
  password := none
  streamingActive := false
  streamStartedAtMs := 0
  sceneNames := []
  currentSceneIdx := 0
  wsCommandQueue := BoundedQueue.empty
  cpu := 0
  fps := 0
  frameDrops := 0
  processMemoryMb := 0
  availableDiskMb := 0
  nowEpochMs := nowEpochMs

def startByRequest : List StreamAction :=
  [.request "StartStream" "1" .null 0 0, .receiveCommand, .storeStartedAt, .pushCommand,
    .dequeue, .call]

instance (flow : StreamFlow) : Decidable flow.Drained :=
  decidable_of_iff (flow.cmdTx.unread = [] ∧
      (flow.commandTask = .waiting ∨ flow.commandTask = .ended) ∧
      flow.ws.wsCommandQueue.items = [] ∧ flow.taken = none ∧ flow.uiThread = .idle)
    ⟨fun ⟨cmdTx, task, queue, taken, uiThread⟩ => ⟨cmdTx, task, queue, taken, uiThread⟩,
      fun ⟨cmdTx, task, queue, taken, uiThread⟩ => ⟨cmdTx, task, queue, taken, uiThread⟩⟩

theorem streaming_agrees_after_request :
    ∃ flow, Machine.exec (step silentPlatform) (start (serverAt 5000))
        (.initPipeline :: startByRequest ++ [.environment (serverAt 9000)]) = some flow ∧
      flow.streaming = true ∧ flow.ws.streamingActive = true ∧
      outputDuration flow.ws = 4000 := by
  have ended : (Machine.exec (step silentPlatform) (start (serverAt 5000))
      (.initPipeline :: startByRequest ++ [.environment (serverAt 9000)])).map
        (fun flow => (decide (flow.Drained ∧ flow.lastCall = some .ws), flow.dropped,
          flow.streaming, flow.redundant, flow.ws.nowEpochMs, flow.startedAt)) =
      some (true, false, true, false, 9000, 5000) := by
    decide +kernel
  obtain ⟨flow, executed, observed⟩ := Option.map_eq_some_iff.mp ended
  simp only [Prod.mk.injEq, decide_eq_true_eq] at observed
  obtain ⟨⟨drained, last⟩, kept, streaming, first, now, since⟩ := observed
  obtain ⟨_, served, _, _, duration⟩ :=
    streaming_agrees_once_drained silentPlatform executed drained
  have active : flow.ws.streamingActive = true := (served kept last).symm.trans streaming
  refine ⟨flow, executed, streaming, active, ?_⟩
  rw [duration active first, now, since]
  rfl

/-- A start by the user interface never reaches the server, and another StartStream
makes the duration count anew. -/
theorem uiStart_unknown_to_server :
    (Machine.exec (step silentPlatform) (start (serverAt 5000))
      [.initPipeline, .startStream, .storeStreamActive]).map
        (fun flow => (decide flow.Drained, flow.streaming, flow.streamActive,
          flow.ws.streamingActive)) =
      some (true, true, true, false) ∧
    (Machine.exec (step silentPlatform) (start (serverAt 5000))
      (.initPipeline :: startByRequest ++ [.environment (serverAt 9000)] ++
        startByRequest)).map
        (fun flow => (decide flow.Drained, flow.startedAt, flow.ws.nowEpochMs,
          outputDuration flow.ws)) =
      some (true, 5000, 9000, 0) := by
  constructor <;> decide +kernel

end StreamFlow

end RejiStudio.Ws
