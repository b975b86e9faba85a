import Mathlib.Data.List.Forall2
import RejiStudio.Lib.Machine
import RejiStudio.Ws.Server

/-!
# The authentication gate of a connection

The select loop of `handle_socket`, one event at a time.  A connection that saw a
password stays locked until an Identify verifies against that password.
-/

namespace RejiStudio.Ws

open RejiStudio.Lib

/-- What the select loop wakes up for.  `environment` is any change that the rest
of the program makes to the shared state. -/
inductive SocketEvent where
  | broadcast (data : Option String)
  | receive (frame : ClientFrame)
  | identifyDeadline
  | environment (state : WsState)

inductive Received where
  | message (msg : ClientMsg) (rawText : Option String)
  | ignored
  | violation

def received (platform : Platform) (mode : WireMode) : ClientFrame → Received
  | .text text =>
      match mode with
      | .msgpack => .violation
      | .json => .message (classify platform text) (some text)
  | .binary bytes =>
      match mode with
      | .json => .violation
      | .msgpack =>
          match platform.parseMsgpack bytes with
          | some v => .message (classifyValue v) none
          | none => .violation
  | .ping => .ignored
  | .pong => .ignored
  | .close => .violation
  | .failed => .violation

namespace Connection

variable (platform : Platform)

def stop (connection : Connection) : Connection := { connection with running := false }

def proceed : Bool × Connection → Connection
  | (true, connection) => connection
  | (false, connection) => connection.stop

/-- `handle_socket` up to the loop: the password is read once, and an empty one
counts as none. -/
def accept (mode : WireMode) (state : WsState) (salt challenge : String) (sends : List Bool) :
    Connection :=
  match state.password.filter (· ≠ "") with
  | some pw =>
      let session : Session := ⟨false, false, some ⟨salt, challenge, pw⟩, 0, 1⟩
      let connection : Connection := ⟨mode, session, state, false, true, sends, [], [], []⟩
      proceed (connection.sendEnv platform (helloWithAuth challenge salt))
  | none =>
      let session : Session := ⟨false, true, none, 0, 1⟩
      let connection : Connection := ⟨mode, session, state, false, true, sends, [], [], []⟩
      proceed (connection.sendEnv platform hello)

/-- The payload of a broadcast event on this wire; messages without `op` stay off
the msgpack wire. -/
def eventMessage (mode : WireMode) (data : String) : Option Message :=
  match mode with
  | .json => some (.text data)
  | .msgpack =>
      (((platform.parseJson data).filter fun v => (v.get "op").isSome).bind
        platform.renderMsgpack).map Message.binary

def forwardEvent (connection : Connection) (data : Option String) : Connection :=
  if !connection.session.authenticated then connection else
  match data.bind (eventMessage platform connection.wireMode) with
  | none => connection
  | some message =>
      match connection.send (.event message) with
      | (false, failed) => failed.stop
      | (true, sent) => sent.countOutgoing

def receive (connection : Connection) (frame : ClientFrame) : Connection :=
  match received platform connection.wireMode frame with
  | .message msg rawText => proceed (connection.processClientMsg platform msg rawText)
  | .ignored => connection
  | .violation => connection.stop

def step : Machine Connection SocketEvent
  | connection, event =>
      if connection.running then
        match event with
        | .broadcast data => some (connection.forwardEvent platform data)
        | .receive frame => some (connection.receive platform frame)
        | .identifyDeadline =>
            if !connection.session.identified && !connection.deadlineFired then
              some { connection with deadlineFired := true }
            else
              none
        | .environment state => some { connection with state := state }
      else
        none

end Connection

def Outgoing.IsHelloOrClose : Outgoing → Prop
  | .envelope env _ => env.op = ObsOp.hello
  | .event _ => False
  | .close _ _ => True

/-- An Identify whose authentication string verifies against `pending`. -/
def Verifies (platform : Platform) (mode : WireMode) (pending : PendingAuth) :
    SocketEvent → Prop
  | .receive frame => ∃ rpc resp rawText,
      received platform mode frame = .message (.identify rpc (some resp)) rawText ∧
        verifyAuth platform pending.password pending.salt pending.challenge resp = true
  | _ => False

namespace Connection

variable {platform : Platform}

theorem step_cases {connection next : Connection} {event : SocketEvent}
    (stepped : step platform connection event = some next) :
    connection.running = true ∧
      ((∃ data, event = .broadcast data ∧ next = connection.forwardEvent platform data) ∨
        (∃ frame, event = .receive frame ∧ next = connection.receive platform frame) ∨
        (event = .identifyDeadline ∧ (!connection.session.identified &&
          !connection.deadlineFired) = true ∧ next = { connection with deadlineFired := true }) ∨
        ∃ state, event = .environment state ∧ next = { connection with state := state }) := by
  unfold step at stepped
  obtain ⟨running, happened⟩ := Option.ite_none_right_eq_some.mp stepped
  refine ⟨running, ?_⟩
  cases event with
  | broadcast data => exact .inl ⟨data, rfl, (Option.some.inj happened).symm⟩
  | receive frame => exact .inr (.inl ⟨frame, rfl, (Option.some.inj happened).symm⟩)
  | identifyDeadline =>
      obtain ⟨due, fired⟩ := Option.ite_none_right_eq_some.mp happened
      exact .inr (.inr (.inl ⟨rfl, due, (Option.some.inj fired).symm⟩))
  | environment state =>
      exact .inr (.inr (.inr ⟨state, rfl, (Option.some.inj happened).symm⟩))

theorem step_receive {connection next : Connection} {frame : ClientFrame}
    (stepped : step platform connection (.receive frame) = some next) :
    next = connection.receive platform frame := by
  obtain ⟨_, ⟨_, impossible, _⟩ | ⟨_, same, rfl⟩ | ⟨impossible, _⟩ | ⟨_, impossible, _⟩⟩ :=
    step_cases stepped
  · cases impossible
  · cases same
    rfl
  · cases impossible
  · cases impossible

/-! ## The locked session -/

structure Locked (mode : WireMode) (pending : PendingAuth) (connection : Connection) : Prop where
  wireMode : connection.wireMode = mode
  notIdentified : connection.session.identified = false
  notAuthenticated : connection.session.authenticated = false
  auth : connection.session.auth = some pending
  sent : ∀ frame ∈ connection.sent, frame.IsHelloOrClose
  cmdTx : connection.cmdTx = []
  sceneCommands : connection.sceneCommands = []

theorem Locked.stop {mode : WireMode} {pending : PendingAuth} {connection : Connection}
    (locked : connection.Locked mode pending) : connection.stop.Locked mode pending :=
  ⟨locked.wireMode, locked.notIdentified, locked.notAuthenticated, locked.auth, locked.sent,
    locked.cmdTx, locked.sceneCommands⟩

theorem Locked.send {mode : WireMode} {pending : PendingAuth} {connection : Connection}
    (locked : connection.Locked mode pending) {frame : Outgoing} (allowed : frame.IsHelloOrClose) :
    (connection.send frame).2.Locked mode pending where
  wireMode := locked.wireMode
  notIdentified := locked.notIdentified
  notAuthenticated := locked.notAuthenticated
  auth := locked.auth
  sent := by
    intro other membership
    rcases List.mem_append.mp membership with earlier | last
    · exact locked.sent other earlier
    · obtain rfl := List.mem_singleton.mp last
      exact allowed
  cmdTx := locked.cmdTx
  sceneCommands := locked.sceneCommands

theorem Locked.countIncoming {mode : WireMode} {pending : PendingAuth} {connection : Connection}
    (locked : connection.Locked mode pending) : connection.countIncoming.Locked mode pending :=
  ⟨locked.wireMode, locked.notIdentified, locked.notAuthenticated, locked.auth, locked.sent,
    locked.cmdTx, locked.sceneCommands⟩

theorem Locked.sendEnv {mode : WireMode} {pending : PendingAuth} {connection : Connection}
    (locked : connection.Locked mode pending) {env : WsEnvelope} (isHello : env.op = ObsOp.hello) :
    (connection.sendEnv platform env).2.Locked mode pending := by
  unfold Connection.sendEnv
  split
  · exact locked.send isHello
  · exact locked

theorem Locked.proceed {mode : WireMode} {pending : PendingAuth} {result : Bool × Connection}
    (locked : result.2.Locked mode pending) : (proceed result).Locked mode pending := by
  obtain ⟨_ | _, connection⟩ := result
  · exact locked.stop
  · exact locked

theorem accept_locked (mode : WireMode) {state : WsState} {password : String}
    (stored : state.password = some password) (nonempty : password ≠ "")
    (salt challenge : String) (sends : List Bool) :
    (accept platform mode state salt challenge sends).Locked mode ⟨salt, challenge, password⟩ := by
  have snapshot : state.password.filter (· ≠ "") = some password := by
    simp [stored, nonempty]
  have fresh : Locked mode ⟨salt, challenge, password⟩
      ⟨mode, ⟨false, false, some ⟨salt, challenge, password⟩, 0, 1⟩, state, false, true, sends,
        [], [], []⟩ :=
    ⟨rfl, rfl, rfl, rfl, by simp, rfl, rfl⟩
  simp only [accept, snapshot]
  exact (fresh.sendEnv rfl).proceed

/-- A locked session answers any message with a Close, but for an Identify that
verifies. -/
theorem Locked.processClientMsg {mode : WireMode} {pending : PendingAuth}
    {connection : Connection} (locked : connection.Locked mode pending) (msg : ClientMsg)
    (rawText : Option String)
    (unverified : ∀ rpc resp, msg = .identify rpc (some resp) →
      verifyAuth platform pending.password pending.salt pending.challenge resp = false) :
    connection.processClientMsg platform msg rawText =
      (false, connection.countIncoming.closeWith
        (if isIdentify msg then CloseCode.authenticationFailed else CloseCode.notIdentified)
        (if isIdentify msg then "Authentication failed" else "Not identified")) := by
  have counted := locked.countIncoming
  have notAuthenticated := counted.notAuthenticated
  cases msg with
  | identify rpc authentication =>
      simp only [Connection.processClientMsg, isIdentify, notAuthenticated, Bool.not_true,
        Bool.and_false, Bool.false_eq_true, if_false, if_true, processAllowed, processIdentify,
        identifyAccepted, counted.notIdentified, counted.auth]
      cases authentication with
      | none => rfl
      | some resp => simp [unverified rpc resp rfl]
  | request requestType requestId requestData =>
      simp [Connection.processClientMsg, isIdentify, notAuthenticated]
  | obs => simp [Connection.processClientMsg, isIdentify, notAuthenticated]
  | legacy => simp [Connection.processClientMsg, isIdentify, notAuthenticated]

theorem Locked.receive {mode : WireMode} {pending : PendingAuth} {connection : Connection}
    (locked : connection.Locked mode pending) {frame : ClientFrame}
    (unverified : ¬Verifies platform mode pending (.receive frame)) :
    (connection.receive platform frame).Locked mode pending := by
  unfold Connection.receive
  rw [locked.wireMode]
  split
  next msg rawText arrived =>
    have rejected : ∀ rpc resp, msg = .identify rpc (some resp) →
        verifyAuth platform pending.password pending.salt pending.challenge resp = false := by
      intro rpc resp isIdentify
      by_contra verified
      subst isIdentify
      exact unverified ⟨rpc, resp, rawText, arrived, by simpa using verified⟩
    rw [locked.processClientMsg msg rawText rejected]
    have closed : Outgoing.IsHelloOrClose (.close
      (if isIdentify msg then CloseCode.authenticationFailed else CloseCode.notIdentified)
      (if isIdentify msg then "Authentication failed" else "Not identified")) := trivial
    exact (locked.countIncoming.send closed).stop
  next => exact locked
  next => exact locked.stop

theorem step_locked {mode : WireMode} {pending : PendingAuth} {connection next : Connection}
    {event : SocketEvent} (locked : connection.Locked mode pending)
    (unverified : ¬Verifies platform mode pending event)
    (stepped : step platform connection event = some next) : next.Locked mode pending := by
  obtain ⟨_, ⟨data, rfl, rfl⟩ | ⟨frame, rfl, rfl⟩ | ⟨rfl, _, rfl⟩ | ⟨state, rfl, rfl⟩⟩ :=
    step_cases stepped
  · simpa [forwardEvent, locked.notAuthenticated] using locked
  · exact locked.receive unverified
  · exact ⟨locked.wireMode, locked.notIdentified, locked.notAuthenticated, locked.auth,
      locked.sent, locked.cmdTx, locked.sceneCommands⟩
  · exact ⟨locked.wireMode, locked.notIdentified, locked.notAuthenticated, locked.auth,
      locked.sent, locked.cmdTx, locked.sceneCommands⟩

theorem exec_locked {mode : WireMode} {pending : PendingAuth} {connection finish : Connection}
    {events : List SocketEvent} (locked : connection.Locked mode pending)
    (unverified : ∀ event ∈ events, ¬Verifies platform mode pending event)
    (executed : Machine.exec (step platform) connection events = some finish) :
    finish.Locked mode pending := by
  induction events generalizing connection with
  | nil =>
      cases executed
      exact locked
  | cons event rest inductionHypothesis =>
      obtain ⟨next, stepped, continued⟩ := Machine.exec_cons_eq_some executed
      exact inductionHypothesis (step_locked locked (unverified event List.mem_cons_self) stepped)
        (fun later membership => unverified later (List.mem_cons_of_mem _ membership)) continued

/-! ## Sessions accepted without a password -/

structure Unguarded (connection : Connection) : Prop where
  authenticated : connection.session.authenticated = true
  auth : connection.session.auth = none
  noClose : ∀ code reason, Outgoing.close code reason ∉ connection.sent

theorem Unguarded.of_same {connection next : Connection} (unguarded : connection.Unguarded)
    (authenticated : next.session.authenticated = connection.session.authenticated)
    (auth : next.session.auth = connection.session.auth)
    (sent : next.sent = connection.sent) : next.Unguarded :=
  ⟨authenticated.trans unguarded.authenticated, auth.trans unguarded.auth,
    sent ▸ unguarded.noClose⟩

theorem Unguarded.send {connection : Connection} (unguarded : connection.Unguarded)
    {frame : Outgoing} (notClose : ∀ code reason, frame ≠ .close code reason) :
    (connection.send frame).2.Unguarded where
  authenticated := unguarded.authenticated
  auth := unguarded.auth
  noClose := by
    intro code reason membership
    rcases List.mem_append.mp membership with earlier | last
    · exact unguarded.noClose code reason earlier
    · exact notClose code reason (List.mem_singleton.mp last).symm

theorem Unguarded.sendEnv {connection : Connection} (unguarded : connection.Unguarded)
    (platform : Platform) (env : WsEnvelope) : (connection.sendEnv platform env).2.Unguarded := by
  unfold Connection.sendEnv
  split
  · exact unguarded.send nofun
  · exact unguarded

theorem Unguarded.proceed {result : Bool × Connection} (unguarded : result.2.Unguarded) :
    (Connection.proceed result).Unguarded := by
  obtain ⟨_ | _, connection⟩ := result
  · exact unguarded.of_same rfl rfl rfl
  · exact unguarded

theorem accept_unguarded (mode : WireMode) {state : WsState}
    (noPassword : state.password = none ∨ state.password = some "")
    (salt challenge : String) (sends : List Bool) :
    (accept platform mode state salt challenge sends).Unguarded := by
  have snapshot : state.password.filter (· ≠ "") = none := by
    rcases noPassword with absent | empty
    · rw [absent]
      rfl
    · rw [empty]
      rfl
  have fresh : Unguarded
      ⟨mode, ⟨false, true, none, 0, 1⟩, state, false, true, sends, [], [], []⟩ :=
    ⟨rfl, rfl, by simp⟩
  simp only [accept, snapshot]
  exact (fresh.sendEnv platform hello).proceed

theorem Unguarded.passIdentify {connection : Connection} (unguarded : connection.Unguarded)
    (platform : Platform) : (connection.passIdentify platform).2.Unguarded := by
  have passed : Unguarded { connection with session :=
      { connection.session with
        authenticated := connection.session.authenticated || connection.session.auth.isSome } } :=
    ⟨by simp [unguarded.authenticated], unguarded.auth, unguarded.noClose⟩
  have sent := passed.sendEnv platform identified
  unfold Connection.passIdentify
  dsimp only
  split <;> rename_i after outcome <;> rw [outcome] at sent
  · exact sent
  · exact sent.of_same rfl rfl rfl

theorem Unguarded.processIdentify {connection : Connection} (unguarded : connection.Unguarded)
    (authentication : Option String) :
    (connection.processIdentify platform authentication).2.Unguarded := by
  simp only [Connection.processIdentify, identifyAccepted, unguarded.auth, if_true]
  split
  · exact unguarded
  · exact unguarded.passIdentify platform

theorem Unguarded.processRequest {connection : Connection} (unguarded : connection.Unguarded)
    (requestType requestId : String) (requestData : Value) :
    (connection.processRequest platform requestType requestId requestData).2.Unguarded := by
  set dispatched := dispatchRequest platform requestType requestId requestData connection.state
    connection.session.incomingMessages connection.session.outgoingMessages with dispatchedEq
  have published : (connection.publish dispatched).Unguarded := unguarded.of_same rfl rfl rfl
  have sent := published.sendEnv platform dispatched.response
  unfold Connection.processRequest
  rw [← dispatchedEq]
  dsimp only
  split <;> rename_i after outcome <;> rw [outcome] at sent
  · exact sent
  · exact sent.of_same rfl rfl rfl

theorem Unguarded.processClientMsg {connection : Connection} (unguarded : connection.Unguarded)
    (msg : ClientMsg) (rawText : Option String) :
    (connection.processClientMsg platform msg rawText).2.Unguarded := by
  have counted : connection.countIncoming.Unguarded := unguarded.of_same rfl rfl rfl
  simp only [Connection.processClientMsg, counted.authenticated, Bool.not_true, Bool.false_and,
    Bool.false_eq_true, if_false]
  cases msg with
  | identify rpc authentication => exact counted.processIdentify authentication
  | request requestType requestId requestData => exact counted.processRequest _ _ _
  | obs => exact counted
  | legacy =>
      simp only [processAllowed, processLegacy]
      split
      · exact counted.of_same rfl rfl rfl
      · exact counted

theorem step_unguarded {connection next : Connection} {event : SocketEvent}
    (unguarded : connection.Unguarded) (stepped : step platform connection event = some next) :
    next.Unguarded := by
  obtain ⟨_, ⟨data, rfl, rfl⟩ | ⟨frame, rfl, rfl⟩ | ⟨rfl, _, rfl⟩ | ⟨state, rfl, rfl⟩⟩ :=
    step_cases stepped
  · simp only [forwardEvent, unguarded.authenticated, Bool.not_true, Bool.false_eq_true, if_false]
    split
    next => exact unguarded
    next message _ =>
      have notClose : ∀ code reason, Outgoing.event message ≠ .close code reason := nofun
      have sent := unguarded.send notClose
      split <;> rename_i after outcome <;> rw [outcome] at sent
      · exact sent.of_same rfl rfl rfl
      · exact sent.of_same rfl rfl rfl
  · unfold Connection.receive
    split
    · exact (unguarded.processClientMsg _ _).proceed
    · exact unguarded
    · exact unguarded.of_same rfl rfl rfl
  · exact unguarded.of_same rfl rfl rfl
  · exact unguarded.of_same rfl rfl rfl

/-! ## Later changes of the password -/

def withPassword (connection : Connection) (password : Option String) : Connection :=
  { connection with state := { connection.state with password := password } }

def mapPassword (password : Option String) (result : Bool × Connection) : Bool × Connection :=
  (result.1, result.2.withPassword password)

theorem sendEnv_withPassword (connection : Connection) (password : Option String)
    (env : WsEnvelope) :
    (connection.withPassword password).sendEnv platform env =
      mapPassword password (connection.sendEnv platform env) := by
  have sameMode : (connection.withPassword password).wireMode = connection.wireMode := rfl
  unfold Connection.sendEnv
  rw [sameMode]
  cases encode platform connection.wireMode env <;> rfl

theorem passIdentify_withPassword (connection : Connection) (password : Option String) :
    (connection.withPassword password).passIdentify platform =
      mapPassword password (connection.passIdentify platform) := by
  unfold Connection.passIdentify
  dsimp only
  set passed : Connection := { connection with session :=
    { connection.session with
      authenticated := connection.session.authenticated || connection.session.auth.isSome } }
  change (match (passed.withPassword password).sendEnv platform identified with
    | (false, failed) => (false, failed)
    | (true, sent) => (true, { sent.countOutgoing with
        session := { sent.countOutgoing.session with identified := true } })) = _
  rw [sendEnv_withPassword]
  obtain ⟨_ | _, after⟩ := passed.sendEnv platform identified <;> rfl

theorem processIdentify_withPassword (connection : Connection) (password : Option String)
    (authentication : Option String) :
    (connection.withPassword password).processIdentify platform authentication =
      mapPassword password (connection.processIdentify platform authentication) := by
  unfold Connection.processIdentify
  rw [passIdentify_withPassword]
  by_cases identified : connection.session.identified = true
  · rw [if_pos identified, if_pos (show (connection.withPassword password).session.identified =
      true from identified)]
    rfl
  · rw [if_neg identified, if_neg (show ¬(connection.withPassword password).session.identified =
      true from identified)]
    by_cases accepted : identifyAccepted platform connection.session authentication = true
    · rw [if_pos accepted, if_pos (show identifyAccepted platform
        (connection.withPassword password).session authentication = true from accepted)]
    · rw [if_neg accepted, if_neg (show ¬identifyAccepted platform
        (connection.withPassword password).session authentication = true from accepted)]
      rfl

theorem processRequest_withPassword (connection : Connection) (password : Option String)
    (requestType requestId : String) (requestData : Value) :
    (connection.withPassword password).processRequest platform requestType requestId requestData =
      mapPassword password
        (connection.processRequest platform requestType requestId requestData) := by
  unfold Connection.processRequest
  dsimp only
  set dispatched := dispatchRequest platform requestType requestId requestData connection.state
    connection.session.incomingMessages connection.session.outgoingMessages
  change (match ((connection.publish dispatched).withPassword password).sendEnv platform
      dispatched.response with
    | (false, failed) => (false, failed)
    | (true, sent) => (true, sent.countOutgoing)) = _
  rw [sendEnv_withPassword]
  obtain ⟨_ | _, after⟩ :=
    (connection.publish dispatched).sendEnv platform dispatched.response <;> rfl

theorem processClientMsg_withPassword (connection : Connection) (password : Option String)
    (msg : ClientMsg) (rawText : Option String) :
    (connection.withPassword password).processClientMsg platform msg rawText =
      mapPassword password (connection.processClientMsg platform msg rawText) := by
  have allowed : (connection.countIncoming.withPassword password).processAllowed platform msg
      rawText = mapPassword password
        (connection.countIncoming.processAllowed platform msg rawText) := by
    cases msg with
    | identify rpc authentication => exact processIdentify_withPassword _ _ _
    | request requestType requestId requestData => exact processRequest_withPassword _ _ _ _ _
    | obs => rfl
    | legacy =>
        simp only [processAllowed, processLegacy, mapPassword]
        cases rawText.bind (legacyCmd platform) <;> rfl
  unfold Connection.processClientMsg
  dsimp only
  change (if (!connection.session.authenticated && !isIdentify msg) = true then _
    else (connection.countIncoming.withPassword password).processAllowed platform msg rawText) =
      mapPassword password
        (if (!connection.session.authenticated && !isIdentify msg) = true then _ else _)
  rw [allowed]
  split <;> rfl

theorem proceed_mapPassword (password : Option String) (result : Bool × Connection) :
    proceed (mapPassword password result) = (proceed result).withPassword password := by
  obtain ⟨_ | _, connection⟩ := result <;> rfl

theorem receive_withPassword (connection : Connection) (password : Option String)
    (frame : ClientFrame) :
    (connection.withPassword password).receive platform frame =
      (connection.receive platform frame).withPassword password := by
  unfold Connection.receive
  change (match received platform connection.wireMode frame with
    | .message msg rawText =>
        proceed ((connection.withPassword password).processClientMsg platform msg rawText)
    | .ignored => connection.withPassword password
    | .violation => (connection.withPassword password).stop) = _
  cases received platform connection.wireMode frame with
  | message msg rawText =>
      dsimp only
      rw [processClientMsg_withPassword, proceed_mapPassword]
  | ignored => rfl
  | violation => rfl

theorem forwardEvent_withPassword (connection : Connection) (password : Option String)
    (data : Option String) :
    (connection.withPassword password).forwardEvent platform data =
      (connection.forwardEvent platform data).withPassword password := by
  unfold Connection.forwardEvent
  change (if (!connection.session.authenticated) = true then _ else
    match data.bind (eventMessage platform connection.wireMode) with
    | none => _
    | some _ => _) = _
  split
  · rfl
  · cases data.bind (eventMessage platform connection.wireMode) with
    | none => rfl
    | some message =>
        dsimp only [Connection.send, withPassword]
        cases connection.sends.headD true <;> rfl

/-- The same event, but for the password that a change of the shared state
leaves. -/
def SameButPassword : SocketEvent → SocketEvent → Prop
  | .environment state, .environment other =>
      ∃ password, other = { state with password := password }
  | event, other => other = event

theorem step_withPassword {connection next : Connection} {event other : SocketEvent}
    (same : SameButPassword event other) (password : Option String)
    (stepped : step platform connection event = some next) :
    ∃ later, step platform (connection.withPassword password) other =
      some (next.withPassword later) := by
  obtain ⟨running, ⟨data, rfl, rfl⟩ | ⟨frame, rfl, rfl⟩ | ⟨rfl, due, rfl⟩ | ⟨state, rfl, rfl⟩⟩ :=
    step_cases stepped
  · obtain rfl : other = .broadcast data := by cases other <;> exact same
    refine ⟨password, ?_⟩
    rw [← forwardEvent_withPassword]
    exact if_pos running
  · obtain rfl : other = .receive frame := by cases other <;> exact same
    refine ⟨password, ?_⟩
    rw [← receive_withPassword]
    exact if_pos running
  · obtain rfl : other = .identifyDeadline := by cases other <;> exact same
    exact ⟨password, (if_pos running).trans (if_pos due)⟩
  · cases other with
    | environment changed =>
        obtain ⟨later, rfl⟩ := same
        exact ⟨later, if_pos running⟩
    | broadcast data => cases same
    | receive frame => cases same
    | identifyDeadline => cases same

theorem exec_withPassword {connection finish : Connection} {events others : List SocketEvent}
    (same : List.Forall₂ SameButPassword events others) (password : Option String)
    (executed : Machine.exec (step platform) connection events = some finish) :
    ∃ later, Machine.exec (step platform) (connection.withPassword password) others =
      some (finish.withPassword later) := by
  induction same generalizing connection password with
  | nil =>
      cases executed
      exact ⟨password, rfl⟩
  | cons sameHead _ inductionHypothesis =>
      obtain ⟨next, stepped, continued⟩ := Machine.exec_cons_eq_some executed
      obtain ⟨middle, otherStep⟩ := step_withPassword sameHead password stepped
      obtain ⟨later, rest⟩ := inductionHypothesis middle continued
      exact ⟨later, by rw [Machine.exec_cons, otherStep]; exact rest⟩

/-! ## The gate -/

theorem Locked.receive_closes {mode : WireMode} {pending : PendingAuth}
    {connection next : Connection} {frame : ClientFrame} {msg : ClientMsg}
    {rawText : Option String} (locked : connection.Locked mode pending)
    (arrived : received platform mode frame = .message msg rawText)
    (unverified : ∀ rpc resp, msg = .identify rpc (some resp) →
      verifyAuth platform pending.password pending.salt pending.challenge resp = false)
    (stepped : step platform connection (.receive frame) = some next) :
    next.running = false ∧
      next.sent = connection.sent ++ [.close
        (if isIdentify msg then CloseCode.authenticationFailed else CloseCode.notIdentified)
        (if isIdentify msg then "Authentication failed" else "Not identified")] := by
  rw [step_receive stepped]
  simp only [Connection.receive, locked.wireMode, arrived,
    locked.processClientMsg msg rawText unverified]
  exact ⟨rfl, rfl⟩

/-- While no Identify verified against the password that was stored when the
connection was accepted, only Hello and Close are sent and no command is published;
a message other than Identify closes the session with 4007, an Identify without the
right string with 4009, a control frame is ignored, and a frame of the wrong kind or
an undecodable one ends the session without a code.  Later changes of the password
are irrelevant, and without a password no Close is ever sent. -/
theorem authentication_gate (platform : Platform) (mode : WireMode) (state : WsState)
    (salt challenge : String) (sends : List Bool) (events : List SocketEvent)
    (connection : Connection)
    (executed : Machine.exec (step platform) (accept platform mode state salt challenge sends)
      events = some connection) :
    (∀ password, state.password = some password → password ≠ "" →
      (∀ event ∈ events, ¬Verifies platform mode ⟨salt, challenge, password⟩ event) →
      (∀ frame ∈ connection.sent, frame.IsHelloOrClose) ∧
      connection.cmdTx = [] ∧ connection.sceneCommands = [] ∧
      ∀ frame next, step platform connection (.receive frame) = some next →
        (∀ msg rawText, received platform mode frame = .message msg rawText →
          (isIdentify msg = false →
            next.running = false ∧
              next.sent = connection.sent ++ [.close 4007 "Not identified"]) ∧
          (∀ rpc authentication, msg = .identify rpc authentication →
            (∀ resp, authentication = some resp →
              verifyAuth platform password salt challenge resp = false) →
            next.running = false ∧
              next.sent = connection.sent ++ [.close 4009 "Authentication failed"])) ∧
        (received platform mode frame = .ignored → next = connection) ∧
        (received platform mode frame = .violation → next = connection.stop)) ∧
    (∀ others, List.Forall₂ SameButPassword events others →
      ∃ other, Machine.exec (step platform) (accept platform mode state salt challenge sends)
          others = some other ∧
        other.session = connection.session ∧ other.sent = connection.sent ∧
        other.cmdTx = connection.cmdTx ∧ other.sceneCommands = connection.sceneCommands ∧
        other.running = connection.running) ∧
    (state.password = none ∨ state.password = some "" →
      ∀ code reason, Outgoing.close code reason ∉ connection.sent) := by
  refine ⟨?_, ?_, ?_⟩
  · intro password stored nonempty unverified
    have locked := exec_locked (accept_locked mode stored nonempty salt challenge sends)
      unverified executed
    refine ⟨locked.sent, locked.cmdTx, locked.sceneCommands, ?_⟩
    intro frame next stepped
    refine ⟨?_, ?_, ?_⟩
    · intro msg rawText arrived
      refine ⟨?_, ?_⟩
      · intro notIdentify
        have noIdentify : ∀ rpc resp, msg = .identify rpc (some resp) →
            verifyAuth platform password salt challenge resp = false := by
          rintro rpc resp rfl
          cases notIdentify
        simpa [notIdentify, CloseCode.notIdentified] using
          locked.receive_closes arrived noIdentify stepped
      · rintro rpc authentication rfl refused
        have refusedIdentify : ∀ other resp,
            ClientMsg.identify rpc authentication = .identify other (some resp) →
            verifyAuth platform password salt challenge resp = false := by
          intro other resp same
          cases same
          exact refused resp rfl
        exact locked.receive_closes arrived refusedIdentify stepped
    · intro ignored
      rw [step_receive stepped]
      simp only [Connection.receive, locked.wireMode, ignored]
    · intro violation
      rw [step_receive stepped]
      simp only [Connection.receive, locked.wireMode, violation]
  · intro others same
    obtain ⟨later, replayed⟩ := exec_withPassword same
      (accept platform mode state salt challenge sends).state.password executed
    exact ⟨_, replayed, rfl, rfl, rfl, rfl, rfl⟩
  · intro noPassword
    have unguarded := Machine.exec_invariant
      (fun _ _ _ unguarded stepped => step_unguarded unguarded stepped)
      (accept_unguarded mode noPassword salt challenge sends) executed
    exact unguarded.noClose

def handshakePlatform : Platform where
  parseJson := fun text =>
    if text = "\x7b\"cmd\":\"stream_start\"\x7d" then
      some (.object [("cmd", .string "stream_start")])
    else
      none
  parseMsgpack := fun _ => none
  renderJson := fun _ =>
    some ("\x7b\"op\":0,\"d\":\x7b\"authentication\":\x7b\"challenge\":\"c2\"," ++
      "\"salt\":\"c1\"\x7d,\"obsWebSocketVersion\":\"5.0.0-reji-compat\"," ++
      "\"rpcVersion\":1\x7d\x7d")
  renderMsgpack := fun _ => none
  sha256B64 := id
  defaultHash := fun _ => 0

def guardedState : WsState where
  password := some "hunter2"
  streamingActive := false
  streamStartedAtMs := 0
  sceneNames := []
  currentSceneIdx := 0
  wsCommandQueue := BoundedQueue.empty
  cpu := 0
  fps := 0
  frameDrops := 0
  processMemoryMb := 0
  availableDiskMb := 0
  nowEpochMs := 0

theorem authentication_gate_legacyCommand :
    ∃ connection, Machine.exec (step handshakePlatform)
        (accept handshakePlatform .json guardedState "c1" "c2" [])
        [.environment { guardedState with password := none },
          .receive (.text "\x7b\"cmd\":\"stream_start\"\x7d")] = some connection ∧
      connection.running = false ∧ connection.cmdTx = [] ∧
      ∀ frame ∈ connection.sent, frame.IsHelloOrClose := by
  refine ⟨_, rfl, rfl, ?_⟩
  have gate := (authentication_gate handshakePlatform .json guardedState "c1" "c2" []
    [.environment { guardedState with password := none },
      .receive (.text "\x7b\"cmd\":\"stream_start\"\x7d")] _ rfl).1 "hunter2" rfl (by decide) (by
        intro event membership verified
        simp only [List.mem_cons, List.not_mem_nil, or_false] at membership
        rcases membership with rfl | rfl
        · exact verified
        · obtain ⟨rpc, resp, rawText, arrived, _⟩ := verified
          cases arrived)
  exact ⟨gate.2.1, gate.1⟩

/-- A ping before authentication is no Identify and does not end the session. -/
theorem ping_before_identify_keeps_session :
    ¬∀ (platform : Platform) (mode : WireMode) (state : WsState) (salt challenge : String)
      (sends : List Bool) (password : String) (frame : ClientFrame) (next : Connection),
      state.password = some password → password ≠ "" →
      step platform (accept platform mode state salt challenge sends) (.receive frame) =
        some next →
      (∀ rpc authentication rawText,
        received platform mode frame ≠ .message (.identify rpc authentication) rawText) →
      next.running = false ∧ ∃ reason, Outgoing.close 4007 reason ∈ next.sent := by
  intro everyMessageCloses
  have closed := everyMessageCloses handshakePlatform .json guardedState "c1" "c2" [] "hunter2"
    .ping _ rfl (by decide) rfl nofun
  cases closed.1

end Connection

end RejiStudio.Ws
