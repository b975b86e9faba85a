import RejiStudio.Lib.BoundedQueue
import RejiStudio.Ws.ObsProtocol

/-!
# Messages of a WebSocket session

The classification of client messages and the work done for one of them.  A
connection logs what it hands to its socket and to the command channels.
-/

namespace RejiStudio.Ws

open RejiStudio.Lib

def rjWsCmdSetScene : Int32 := 5

/-- The shared `WsState`, with the readings that responses take from the metrics,
the operating system and the clock. -/
structure WsState where
  password : Option String
  streamingActive : Bool
  streamStartedAtMs : UInt64
  sceneNames : List String
  currentSceneIdx : UInt32
  wsCommandQueue : BoundedQueue (Int32 × Int32) 32
  cpu : UInt64
  fps : UInt64
  frameDrops : UInt64
  processMemoryMb : UInt64
  availableDiskMb : UInt64
  nowEpochMs : UInt64

inductive WireMode where
  | json
  | msgpack
  deriving DecidableEq, Repr

/-- A WebSocket frame from the client; `failed` is an error or the end of the
stream. -/
inductive ClientFrame where
  | text (text : String)
  | binary (bytes : List UInt8)
  | ping
  | pong
  | close
  | failed
  deriving DecidableEq, Repr

inductive Message where
  | text (text : String)
  | binary (bytes : List UInt8)
  deriving DecidableEq, Repr

inductive Outgoing where
  | envelope (env : WsEnvelope) (message : Message)
  | event (message : Message)
  | close (code : UInt16) (reason : String)

inductive ClientMsg where
  | identify (rpc : Option UInt64) (authentication : Option String)
  | request (requestType requestId : String) (requestData : Value)
  | obs
  | legacy

structure PendingAuth where
  salt : String
  challenge : String
  password : String
  deriving DecidableEq

structure Session where
  identified : Bool
  authenticated : Bool
  auth : Option PendingAuth
  incomingMessages : Nat
  outgoingMessages : Nat
  deriving DecidableEq

/-- One connection: `sends` are the outcomes of the socket's sends, which succeed
once the list is used up. -/
structure Connection where
  wireMode : WireMode
  session : Session
  state : WsState
  deadlineFired : Bool
  running : Bool
  sends : List Bool
  sent : List Outgoing
  cmdTx : List String
  sceneCommands : List (Int32 × Int32)

/-! ## Classification -/

/-- The common part of both formats: only the low byte of the opcode counts. -/
def classifyValue (v : Value) : ClientMsg :=
  match (v.get "op").bind Value.asU64 with
  | some op =>
      if op.toUInt8 = ObsOp.identify then
        .identify ((v.get "d").bind (·.get "rpcVersion") |>.bind Value.asU64)
          ((v.get "d").bind (·.get "authentication") |>.bind Value.asStr)
      else if op.toUInt8 = ObsOp.request then
        .request
          (((v.get "d").bind (·.get "requestType") |>.bind Value.asStr).getD "")
          (((v.get "d").bind (·.get "requestId") |>.bind Value.asStr).getD "")
          (((v.get "d").bind (·.get "requestData")).getD .null)
      else
        .obs
  | none => .legacy

/-- Text that is not JSON takes the legacy path. -/
def classify (platform : Platform) (text : String) : ClientMsg :=
  match platform.parseJson text with
  | some v => classifyValue v
  | none => .legacy

/-! ## Requests -/

structure Dispatched where
  response : WsEnvelope
  cmdTx : Option String
  sceneCommand : Option (Int32 × Int32)

def zeroFloat : Value := .float 0

def sceneEntry (platform : Platform) (index : Nat) (name : String) : Value :=
  .object
    [("sceneIndex", .ofNat index), ("sceneName", .string name),
      ("sceneUuid", .string (pseudoUuid platform name))]

def dispatchRequest (platform : Platform) (requestType requestId : String) (requestData : Value)
    (state : WsState) (wsIncoming wsOutgoing : Nat) : Dispatched :=
  let ok data := requestResponseOk requestType requestId data
  match requestType with
  | "GetVersion" =>
      ⟨ok (.object
        [("obsWebSocketVersion", .string obsWsVersion),
          ("rpcVersion", .posInt rpcVersion.toUInt64),
          ("platform", .string "windows"),
          ("rejiStudioVersion", .string "0.1.0")]), none, none⟩
  | "GetStats" =>
      ⟨ok (.object
        [("cpuUsage", .float state.cpu),
          ("memoryUsage", .float state.processMemoryMb),
          ("availableDiskSpace", .float state.availableDiskMb),
          ("activeFps", .float state.fps),
          ("averageFrameRenderTime", zeroFloat),
          ("renderSkippedFrames", .ofNat 0),
          ("renderTotalFrames", .ofNat 0),
          ("outputSkippedFrames", .posInt state.frameDrops),
          ("outputTotalFrames", .ofNat 0),
          ("webSocketSessionIncomingMessages", .ofNat wsIncoming),
          ("webSocketSessionOutgoingMessages", .ofNat wsOutgoing)]), none, none⟩
  | "StartStream" => ⟨ok (.object []), some "stream_start", none⟩
  | "StopStream" => ⟨ok (.object []), some "stream_stop", none⟩
  | "GetStreamStatus" =>
      let durationMs : UInt64 :=
        if state.streamingActive then
          UInt64.ofNat (state.nowEpochMs.toNat - state.streamStartedAtMs.toNat)
        else 0
      ⟨ok (.object
        [("outputActive", .bool state.streamingActive),
          ("outputReconnecting", .bool false),
          ("outputTimecode", .string (formatTimecode durationMs)),
          ("outputDuration", .posInt durationMs),
          ("outputCongestion", zeroFloat),
          ("outputBytes", .ofNat 0),
          ("outputSkippedFrames", .posInt state.frameDrops),
          ("outputTotalFrames", .ofNat 0)]), none, none⟩
  | "GetSceneList" =>
      let curName := state.sceneNames.getD state.currentSceneIdx.toNat ""
      let scenes := state.sceneNames.reverse.mapIdx (sceneEntry platform)
      ⟨ok (.object
        [("currentProgramSceneName", .string curName),
          ("currentProgramSceneUuid", .string (pseudoUuid platform curName)),
          ("currentPreviewSceneName", .null),
          ("currentPreviewSceneUuid", .null),
          ("scenes", .array scenes)]), none, none⟩
  | "SetCurrentProgramScene" =>
      let sceneName := ((requestData.get "sceneName").bind Value.asStr).getD ""
      match state.sceneNames.findIdx? (· == sceneName) with
      | some idx => ⟨ok (.object []), none, some (rjWsCmdSetScene, Int32.ofNat idx)⟩
      | none =>
          ⟨requestResponseErr requestType requestId RequestStatus.resourceNotFound
            "Scene not found", none, none⟩
  | _ =>
      ⟨requestResponseErr requestType requestId RequestStatus.unknownRequestType
        "Unknown request type", none, none⟩

def legacyCmd (platform : Platform) (text : String) : Option String :=
  match platform.parseJson text with
  | none => none
  | some v =>
      let cmd := ((v.index "cmd").asStr).getD ""
      if cmd ∈ ["stream_start", "stream_stop", "scene_cut", "scene_fade"] then some cmd else none

/-! ## One message -/

def encode (platform : Platform) (mode : WireMode) (env : WsEnvelope) : Option Message :=
  match mode with
  | .json => (platform.renderJson env.toValue).map Message.text
  | .msgpack => (platform.renderMsgpack env.toValue).map Message.binary

namespace Connection

variable (platform : Platform)

def send (connection : Connection) (frame : Outgoing) : Bool × Connection :=
  (connection.sends.headD true,
    { connection with
      sends := connection.sends.tail, sent := connection.sent ++ [frame] })

def sendEnv (connection : Connection) (env : WsEnvelope) : Bool × Connection :=
  match encode platform connection.wireMode env with
  | some message => connection.send (.envelope env message)
  | none => (false, connection)

/-- The outcome of sending a Close frame is ignored. -/
def closeWith (connection : Connection) (code : UInt16) (reason : String) : Connection :=
  (connection.send (.close code reason)).2

def countOutgoing (connection : Connection) : Connection :=
  { connection with session :=
    { connection.session with outgoingMessages := connection.session.outgoingMessages + 1 } }

def identifyAccepted (session : Session) (authentication : Option String) : Bool :=
  match session.auth with
  | none => true
  | some pending =>
      match authentication with
      | some resp => verifyAuth platform pending.password pending.salt pending.challenge resp
      | none => false

def passIdentify (connection : Connection) : Bool × Connection :=
  let authenticated := connection.session.authenticated || connection.session.auth.isSome
  let passed := { connection with session :=
    { connection.session with authenticated := authenticated } }
  match passed.sendEnv platform identified with
  | (false, failed) => (false, failed)
  | (true, sent) =>
      (true, { sent.countOutgoing with
        session := { sent.countOutgoing.session with identified := true } })

/-- A second Identify is ignored; a refused one closes the connection. -/
def processIdentify (connection : Connection) (authentication : Option String) :
    Bool × Connection :=
  if connection.session.identified then
    (true, connection)
  else if identifyAccepted platform connection.session authentication then
    connection.passIdentify platform
  else
    (false, connection.closeWith CloseCode.authenticationFailed "Authentication failed")

/-- The command channel and the scene queue, to which the request may add. -/
def publish (connection : Connection) (dispatched : Dispatched) : Connection :=
  let queue := match dispatched.sceneCommand with
    | some command =>
        (connection.state.wsCommandQueue.push command).getD connection.state.wsCommandQueue
    | none => connection.state.wsCommandQueue
  { connection with
    cmdTx := connection.cmdTx ++ dispatched.cmdTx.toList
    sceneCommands := connection.sceneCommands ++ dispatched.sceneCommand.toList
    state := { connection.state with wsCommandQueue := queue } }

def processRequest (connection : Connection) (requestType requestId : String)
    (requestData : Value) : Bool × Connection :=
  let dispatched := dispatchRequest platform requestType requestId requestData connection.state
    connection.session.incomingMessages connection.session.outgoingMessages
  match (connection.publish dispatched).sendEnv platform dispatched.response with
  | (false, failed) => (false, failed)
  | (true, sent) => (true, sent.countOutgoing)

/-- `rawText` is present on the JSON wire only. -/
def processLegacy (connection : Connection) (rawText : Option String) : Connection :=
  match rawText.bind (legacyCmd platform) with
  | some cmd => { connection with cmdTx := connection.cmdTx ++ [cmd] }
  | none => connection

def countIncoming (connection : Connection) : Connection :=
  { connection with session :=
    { connection.session with incomingMessages := connection.session.incomingMessages + 1 } }

/-- `process_client_msg` past the guard for sessions that are not authenticated. -/
def processAllowed (connection : Connection) (msg : ClientMsg) (rawText : Option String) :
    Bool × Connection :=
  match msg with
  | .identify _ authentication => connection.processIdentify platform authentication
  | .request requestType requestId requestData =>
      connection.processRequest platform requestType requestId requestData
  | .obs => (true, connection)
  | .legacy => (true, connection.processLegacy platform rawText)

def isIdentify : ClientMsg → Bool
  | .identify _ _ => true
  | _ => false

/-- `process_client_msg`; `false` ends the session. -/
def processClientMsg (connection : Connection) (msg : ClientMsg) (rawText : Option String) :
    Bool × Connection :=
  let counted := connection.countIncoming
  if !counted.session.authenticated && !isIdentify msg then
    (false, counted.closeWith CloseCode.notIdentified "Not identified")
  else
    counted.processAllowed platform msg rawText

end Connection

end RejiStudio.Ws
