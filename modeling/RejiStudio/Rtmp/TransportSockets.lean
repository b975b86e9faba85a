import RejiStudio.Rtmp.SocketLife

/-!
# The sockets over the life of a transport

`RtmpTransport` from `init` to its destructor.  The server's part of a connection is a list of
steps: what the client sends in answer, the number of a created stream, the start of the
publication, the ends of the connection that `RTMP_Close` follows, and the error to `connect`
that makes the client connect once more.
-/

namespace RejiStudio.Rtmp

open RejiStudio.Lib

/-- A step of the handshake and of the `connect` behind it. -/
inductive HandshakeStep
  | write (chunks : Nat)
  | closed
  deriving DecidableEq

/-- What the outside world answers to one `RTMP_Connect`. -/
structure Connection where
  host : Bool
  port : Int32
  resolution : Except Int32 (List Candidate)
  handshake : List HandshakeStep

/-- What `PublisherAuth` reads in the description of an error: no `authmod`, a demand that is
refused, one for the user's name, or one for the answer to a challenge. -/
inductive AuthDemand
  | other
  | refused
  | named
  | challenged
  deriving DecidableEq

/-- A step of the negotiation, as far as the socket sees it.  An error to `connect` comes with
what the server does in the connection that `HandleInvoke` opens in answer. -/
inductive NegotiationStep
  | write (chunks : Nat)
  | created (id : Int32) (chunks : Nat)
  | playing
  | closed
  | error (demand : AuthDemand) (connection : Connection) (negotiation : List NegotiationStep)

/-- What the outside world answers to an `init`; `prepared` is false where the URL, the stream
or the memory is refused before the connection. -/
structure Endpoint where
  prepared : Bool
  unpublishWrites : Nat
  connection : Connection
  negotiation : List NegotiationStep

namespace SocketSession

def shake : HandshakeStep → SocketSession → Bool × SocketSession
  | .write chunks, session => sendPacket close chunks session
  | .closed, session => (false, session.close)

def connect1 : List HandshakeStep → SocketSession → Bool × SocketSession
  | [], session => (true, session)
  | step :: rest, session =>
      if (shake step session).1 then connect1 rest (shake step session).2
      else (false, (shake step session).2.close)

def rtmpConnect (connection : Connection) (session : SocketSession) : Bool × SocketSession :=
  let (result, ctx, net) :=
    (HappyEyeballs.create.setBindAddr false).connect connection.host connection.port
      connection.resolution session.net
  if result = 0 then
    let joined : SocketSession := ⟨{ session.link with sbSocket := ctx.getSocketFd }, net⟩
    if joined.isConnected ∧ (connect1 connection.handshake joined).1 then
      connect1 connection.handshake joined
    else if joined.isConnected then (false, (connect1 connection.handshake joined).2.close)
    else (false, joined.close)
  else (false, ({ session with net := net } : SocketSession).close)

def publisherAuth : AuthDemand → SocketSession → Bool × SocketSession
  | .other, session => (false, session)
  | .refused, session => (false, { session with link := { session.link with pubClean := true } })
  | .named, session => (true, session)
  | .challenged, session =>
      (true, { session with link := { session.link with pubClate := true } })

/-- `RTMP_Close` before the client connects once more. -/
def closeToReconnect (session : SocketSession) : SocketSession :=
  let closed := session.close
  if closed.link.pubClate then { closed with link := { closed.link with pubClean := true } }
  else closed

mutual

/-- The part of `HandleInvoke` and its siblings that reaches the socket. -/
def perform : NegotiationStep → SocketSession → SocketSession
  | .write chunks, session => (sendPacket close chunks session).2
  | .created id chunks, session =>
      let numbered :=
        { session with
          link :=
            { session.link with
              streams := session.link.streams.set session.link.curStreamIdx id } }
      let after := (sendPacket close chunks numbered).2
      { after with link := { after.link with curStreamIdx := after.link.curStreamIdx + 1 } }
  | .playing, session => { session with link := { session.link with playing := true } }
  | .closed, session => session.close
  | .error demand connection negotiation, session =>
      if session.link.featureWrite then
        let (again, asked) := publisherAuth demand session
        if again then
          let (joined, connected) := rtmpConnect connection asked.closeToReconnect
          if joined then connectStream negotiation connected else connected
        else asked
      else session

/-- The loop of `RTMP_ConnectStream`, which ends early when nothing can be read. -/
def connectStream : List NegotiationStep → SocketSession → SocketSession
  | [], session => session
  | step :: rest, session =>
      if session.link.playing = false ∧ session.isConnected then
        connectStream rest (perform step session)
      else session

end

end SocketSession

/-- `RtmpTransport`: `handle_` with its `RTMP`. -/
structure TransportSockets where
  net : Net
  handle : Option RtmpLink

inductive SocketCall
  | init (endpoint : Endpoint)
  | send (chunks : Nat)
  | shutdown
  | destroy

namespace TransportSockets

def start (sends : List Bool) : TransportSockets := ⟨Net.start sends, none⟩

/-- The `RTMP` of `RTMP_Init` and `RTMP_AddStream`. -/
def newLink (unpublishWrites : Nat) : RtmpLink where
  sbSocket := none
  streams := [-1]
  curStreamIdx := 0
  featureWrite := true
  pubClean := false
  pubClate := false
  unpublishWrites := unpublishWrites
  playing := false

/-- `RtmpTransport::init` with `rj_rtmp_init`. -/
def init (endpoint : Endpoint) (transport : TransportSockets) : TransportSockets :=
  match transport.handle with
  | some _ => transport
  | none =>
      if endpoint.prepared then
        let connected := SocketSession.rtmpConnect endpoint.connection
          ⟨newLink endpoint.unpublishWrites, transport.net⟩
        if connected.1 then
          let streamed := SocketSession.connectStream endpoint.negotiation connected.2
          if streamed.link.playing then ⟨streamed.net, some streamed.link⟩
          else ⟨streamed.close.net, none⟩
        else ⟨connected.2.net, none⟩
      else transport

/-- `rj_rtmp_send` and `rj_rtmp_send_audio`: the writes of their tags, while they succeed. -/
def send (chunks : Nat) (transport : TransportSockets) : TransportSockets :=
  match transport.handle with
  | none => transport
  | some link =>
      let session : SocketSession := ⟨link, transport.net⟩
      if session.isConnected then
        let sent := (SocketSession.sendPacket SocketSession.close chunks session).2
        ⟨sent.net, some sent.link⟩
      else transport

def shutdown (transport : TransportSockets) : TransportSockets :=
  match transport.handle with
  | none => transport
  | some link =>
      let closed := SocketSession.close ⟨link, transport.net⟩
      ⟨closed.net, some closed.link⟩

/-- `~RtmpTransport`. -/
def destroy (transport : TransportSockets) : TransportSockets :=
  match transport.handle with
  | none => transport
  | some link => ⟨(SocketSession.close ⟨link, transport.net⟩).net, none⟩

def step : Machine TransportSockets SocketCall
  | transport, .init endpoint => some (transport.init endpoint)
  | transport, .send chunks => some (transport.send chunks)
  | transport, .shutdown => some transport.shutdown
  | transport, .destroy => some transport.destroy

end TransportSockets

namespace SocketSession

/-- The session's socket is open and every other one has been closed; no socket is closed twice
as long as no send fails. -/
structure Accounted (session : SocketSession) : Prop where
  fresh : HappyEyeballs.Fresh session.net
  held : ∀ socket, session.link.sbSocket = some socket →
    socket < session.net.opened ∧ session.net.closes socket = 0
  closed : ∀ socket < session.net.opened, session.link.sbSocket ≠ some socket →
    0 < session.net.closes socket
  once : session.net.sendErrors = 0 ↔ ∀ socket, session.net.closes socket ≤ 1

section Accounting

variable {session after : SocketSession} {socket : Nat}

theorem Accounted.live (accounted : Accounted session)
    (held : session.link.sbSocket = some socket) : Live socket session :=
  ⟨held, (accounted.held socket held).2⟩

/-- What happens to the fields that are not the socket does not count. -/
theorem Accounted.of_same (accounted : Accounted session)
    (socketEq : after.link.sbSocket = session.link.sbSocket) (netEq : after.net = session.net) :
    Accounted after where
  fresh := by
    rw [netEq]
    exact accounted.fresh
  held := by
    rw [netEq, socketEq]
    exact accounted.held
  closed := by
    rw [netEq, socketEq]
    exact accounted.closed
  once := by
    rw [netEq]
    exact accounted.once

theorem Accounted.idle (accounted : Accounted session)
    (released : session.link.sbSocket = none) (idle : Idle session after) : Accounted after :=
  accounted.of_same (idle.released.trans released.symm) idle.net

theorem Accounted.carried (accounted : Accounted session) (carried : Carried socket session after)
    (held : session.link.sbSocket = some socket) : Accounted after where
  fresh := by
    intro other above
    rw [carried.closes]
    exact accounted.fresh other (carried.opened ▸ above)
  held := by
    intro other heldAfter
    rw [carried.opened, carried.closes]
    apply accounted.held other
    rw [held, ← carried.live.held]
    exact heldAfter
  closed := by
    intro other below notHeld
    rw [carried.closes]
    apply accounted.closed other (carried.opened ▸ below)
    rw [held, ← carried.live.held]
    exact notHeld
  once := by
    rw [carried.sendErrors, carried.closes]
    exact accounted.once

theorem Accounted.ended (accounted : Accounted session) {errors : Nat}
    (held : session.link.sbSocket = some socket) (ended : Ended socket session after errors)
    (closed : 0 < after.net.closes socket)
    (counted : errors = 0 ∧ after.net.closes socket = 1 ∨
      errors = 1 ∧ 2 ≤ after.net.closes socket) : Accounted after := by
  obtain ⟨opened, unclosed⟩ := accounted.held socket held
  constructor
  case fresh =>
    intro other above
    have aboveBefore : session.net.opened ≤ other := ended.opened ▸ above
    have different : other ≠ socket := Nat.ne_of_gt (Nat.lt_of_lt_of_le opened aboveBefore)
    rw [ended.others other different]
    exact accounted.fresh other aboveBefore
  case held =>
    intro other heldAfter
    rw [ended.released] at heldAfter
    cases heldAfter
  case closed =>
    intro other below _
    by_cases same : other = socket
    · rw [same]
      exact closed
    · rw [ended.others other same]
      apply accounted.closed other (ended.opened ▸ below)
      rw [held]
      intro equal
      exact same (Option.some.inj equal).symm
  case once =>
    rw [ended.sendErrors]
    rcases counted with ⟨errorsEq, onceHere⟩ | ⟨errorsEq, twice⟩
    · rw [errorsEq, Nat.add_zero, accounted.once]
      constructor
      · intro before other
        by_cases same : other = socket
        · rw [same, onceHere]
        · rw [ended.others other same]
          exact before other
      · intro later other
        by_cases same : other = socket
        · rw [same, unclosed]
          exact Nat.zero_le 1
        · rw [← ended.others other same]
          exact later other
    · rw [errorsEq]
      constructor
      · intro noError
        exact absurd noError (Nat.succ_ne_zero _)
      · intro all
        exact absurd (all socket) (Nat.not_le.mpr twice)

theorem Accounted.broken (accounted : Accounted session)
    (held : session.link.sbSocket = some socket) (broken : Broken socket session after) :
    Accounted after :=
  accounted.ended held broken.ended (Nat.lt_of_lt_of_le Nat.zero_lt_two broken.twice)
    (Or.inr ⟨rfl, broken.twice⟩)

theorem Accounted.close (accounted : Accounted session) : Accounted session.close := by
  cases held : session.link.sbSocket with
  | none => exact accounted.idle held ((close_closer 0).idle session held)
  | some socket =>
      rcases close_live (accounted.live held) with ⟨ended, once⟩ | broken
      · exact accounted.ended held ended (by rw [once]; exact Nat.one_pos) (Or.inl ⟨rfl, once⟩)
      · exact accounted.broken held broken

theorem close_released : session.close.link.sbSocket = none := by
  cases held : session.link.sbSocket with
  | none => exact ((close_closer 0).idle session held).released
  | some socket =>
      unfold SocketSession.close rtmpClose
      split
      case isTrue => rfl
      case isFalse => rfl

theorem Accounted.sendPacket (accounted : Accounted session) (chunks : Nat) :
    Accounted (sendPacket SocketSession.close chunks session).2 := by
  cases held : session.link.sbSocket with
  | none => exact accounted.idle held (sendPacket_idle (close_closer 0) held chunks)
  | some socket =>
      rcases sendPacket_live (close_closer _) (accounted.live held)
        (Nat.lt_succ_self session.published) chunks with carried | broken
      · exact accounted.carried carried held
      · exact accounted.broken held broken

theorem Accounted.shake (accounted : Accounted session) (step : HandshakeStep) :
    Accounted (shake step session).2 := by
  cases step with
  | write chunks => exact accounted.sendPacket chunks
  | closed => exact accounted.close

theorem Accounted.connect1 (accounted : Accounted session) (steps : List HandshakeStep) :
    Accounted (connect1 steps session).2 := by
  induction steps generalizing session with
  | nil => exact accounted
  | cons step rest inductionHypothesis =>
      unfold SocketSession.connect1
      split
      case isTrue => exact inductionHypothesis (accounted.shake step)
      case isFalse => exact (accounted.shake step).close

/-- The sockets of the candidates that did not answer are accounted for. -/
theorem Accounted.spent (accounted : Accounted session) (released : session.link.sbSocket = none)
    {spent : Net} (gone : HappyEyeballs.Spent session.net spent) :
    Accounted { session with net := spent } where
  fresh := gone.fresh
  held := by
    intro socket held
    rw [show session.link.sbSocket = none from released] at held
    cases held
  closed := by
    intro socket below _
    by_cases before : socket < session.net.opened
    · change 0 < spent.closes socket
      rw [gone.below.closes socket before]
      apply accounted.closed socket before
      rw [released]
      exact (Option.some_ne_none socket).symm
    · change 0 < spent.closes socket
      rw [gone.closed socket (Nat.le_of_not_lt before) below]
      exact Nat.one_pos
  once := by
    change spent.sendErrors = 0 ↔ ∀ socket, spent.closes socket ≤ 1
    rw [gone.below.sendErrors, accounted.once]
    constructor
    · intro before socket
      by_cases old : socket < session.net.opened
      · rw [gone.below.closes socket old]
        exact before socket
      · by_cases new : socket < spent.opened
        · exact (gone.closed socket (Nat.le_of_not_lt old) new).le
        · rw [gone.fresh socket (Nat.le_of_not_lt new)]
          exact Nat.zero_le 1
    · intro later socket
      by_cases old : socket < session.net.opened
      · rw [← gone.below.closes socket old]
        exact later socket
      · rw [accounted.fresh socket (Nat.le_of_not_lt old)]
        exact Nat.zero_le 1

theorem Accounted.joined (accounted : Accounted session)
    (released : session.link.sbSocket = none) :
    Accounted ⟨{ session.link with sbSocket := some session.net.opened }, session.net.socket⟩ where
  fresh := fun socket above => accounted.fresh socket (Nat.le_of_succ_le above)
  held := by
    intro socket held
    obtain rfl : session.net.opened = socket := Option.some.inj held
    exact ⟨Nat.lt_succ_self _, accounted.fresh _ (Nat.le_refl _)⟩
  closed := by
    intro socket below notHeld
    have old : socket < session.net.opened := by
      apply Nat.lt_of_le_of_ne (Nat.le_of_lt_succ below)
      rintro rfl
      exact notHeld rfl
    apply accounted.closed socket old
    rw [released]
    exact (Option.some_ne_none socket).symm
  once := accounted.once

theorem Accounted.rtmpConnect (accounted : Accounted session)
    (released : session.link.sbSocket = none) (connection : Connection) :
    Accounted (rtmpConnect connection session).2 := by
  unfold SocketSession.rtmpConnect
  rcases HappyEyeballs.connect_outcome (HappyEyeballs.create.setBindAddr false) connection.host
    connection.port connection.resolution accounted.fresh with
    ⟨code, err, spent, failed, gone, result⟩ | ⟨address, spent, gone, result⟩
  · rw [result]
    dsimp only
    rw [if_neg failed]
    exact (accounted.spent released gone).close
  · rw [result]
    have joined := (accounted.spent released gone).joined released
    dsimp only
    rw [if_pos rfl]
    split
    case isTrue => exact joined.connect1 connection.handshake
    case isFalse =>
        split
        case isTrue => exact (joined.connect1 connection.handshake).close
        case isFalse => exact joined.close

theorem rtmpConnect_released {connection : Connection}
    (failed : ¬ (rtmpConnect connection session).1 = true) :
    (rtmpConnect connection session).2.link.sbSocket = none := by
  unfold SocketSession.rtmpConnect at failed ⊢
  obtain ⟨attempt, attemptEq⟩ : ∃ attempt, attempt =
      (HappyEyeballs.create.setBindAddr false).connect connection.host connection.port
        connection.resolution session.net := ⟨_, rfl⟩
  rw [← attemptEq] at failed ⊢
  obtain ⟨result, ctx, net⟩ := attempt
  dsimp only at failed ⊢
  split
  case isFalse => exact close_released
  case isTrue answered =>
      rw [if_pos answered] at failed
      split
      case isTrue joined =>
          rw [if_pos joined] at failed
          exact absurd joined.2 failed
      case isFalse =>
          split
          case isTrue => exact close_released
          case isFalse => exact close_released

theorem Accounted.closeToReconnect (accounted : Accounted session) :
    Accounted session.closeToReconnect ∧ session.closeToReconnect.link.sbSocket = none := by
  unfold SocketSession.closeToReconnect
  dsimp only
  split
  case isTrue => exact ⟨accounted.close.of_same rfl rfl, close_released⟩
  case isFalse => exact ⟨accounted.close, close_released⟩

theorem Accounted.publisherAuth (accounted : Accounted session) (demand : AuthDemand) :
    Accounted (publisherAuth demand session).2 := by
  cases demand with
  | other => exact accounted
  | refused => exact accounted.of_same rfl rfl
  | named => exact accounted
  | challenged => exact accounted.of_same rfl rfl

-- A step may hold a whole negotiation of its own, so the two inductions go together.
mutual

theorem Accounted.perform {session : SocketSession} (accounted : Accounted session)
    (step : NegotiationStep) : Accounted (perform step session) := by
  cases step with
  | write chunks =>
      unfold SocketSession.perform
      exact accounted.sendPacket chunks
  | created id chunks =>
      unfold SocketSession.perform
      have numbered : Accounted { session with link := { session.link with
          streams := session.link.streams.set session.link.curStreamIdx id } } :=
        accounted.of_same rfl rfl
      exact (numbered.sendPacket chunks).of_same rfl rfl
  | playing =>
      unfold SocketSession.perform
      exact accounted.of_same rfl rfl
  | closed =>
      unfold SocketSession.perform
      exact accounted.close
  | error demand connection negotiation =>
      unfold SocketSession.perform
      have asked := accounted.publisherAuth demand
      have connected := asked.closeToReconnect.1.rtmpConnect asked.closeToReconnect.2 connection
      split
      case isFalse => exact accounted
      case isTrue =>
          dsimp only
          split
          case isFalse => exact asked
          case isTrue =>
              split
              case isTrue => exact connected.connectStream negotiation
              case isFalse => exact connected

theorem Accounted.connectStream {session : SocketSession} (accounted : Accounted session)
    (steps : List NegotiationStep) : Accounted (connectStream steps session) := by
  cases steps with
  | nil =>
      unfold SocketSession.connectStream
      exact accounted
  | cons step rest =>
      unfold SocketSession.connectStream
      split
      case isTrue => exact (accounted.perform step).connectStream rest
      case isFalse => exact accounted

end

end Accounting

end SocketSession

namespace TransportSockets

/-- A transport as a session; without a handle it is one that has no socket. -/
def session (transport : TransportSockets) : SocketSession :=
  ⟨transport.handle.getD (newLink 0), transport.net⟩

theorem init_accounted {transport : TransportSockets} (endpoint : Endpoint)
    (accounted : transport.session.Accounted) :
    (transport.init endpoint).session.Accounted := by
  unfold TransportSockets.init
  cases handle : transport.handle with
  | some link => exact accounted
  | none =>
      have empty : SocketSession.Accounted
          ⟨newLink endpoint.unpublishWrites, transport.net⟩ := by
        apply accounted.of_same
        · rw [session, handle]
          rfl
        · rfl
      have connected := empty.rtmpConnect rfl endpoint.connection
      dsimp only
      split
      case isFalse => exact accounted
      case isTrue =>
          split
          case isFalse failed =>
              exact connected.of_same (SocketSession.rtmpConnect_released failed).symm rfl
          case isTrue =>
              have streamed := connected.connectStream endpoint.negotiation
              split
              case isTrue => exact streamed
              case isFalse => exact streamed.close.of_same SocketSession.close_released.symm rfl

theorem send_accounted {transport : TransportSockets} (chunks : Nat)
    (accounted : transport.session.Accounted) : (transport.send chunks).session.Accounted := by
  unfold TransportSockets.send
  cases handle : transport.handle with
  | none => exact accounted
  | some link =>
      have held : SocketSession.Accounted ⟨link, transport.net⟩ := by
        rw [session, handle] at accounted
        exact accounted
      dsimp only
      split
      case isTrue => exact held.sendPacket chunks
      case isFalse => exact accounted

theorem closing_accounted {transport : TransportSockets}
    (accounted : transport.session.Accounted) :
    transport.shutdown.session.Accounted ∧ transport.destroy.session.Accounted := by
  unfold TransportSockets.shutdown TransportSockets.destroy
  cases handle : transport.handle with
  | none => exact ⟨accounted, accounted⟩
  | some link =>
      have held : SocketSession.Accounted ⟨link, transport.net⟩ := by
        rw [session, handle] at accounted
        exact accounted
      exact ⟨held.close, held.close.of_same SocketSession.close_released.symm rfl⟩

theorem step_accounted (transport : TransportSockets) (call : SocketCall)
    (next : TransportSockets) (accounted : transport.session.Accounted)
    (stepped : step transport call = some next) : next.session.Accounted := by
  cases call with
  | init endpoint =>
      cases stepped
      exact init_accounted endpoint accounted
  | send chunks =>
      cases stepped
      exact send_accounted chunks accounted
  | shutdown =>
      cases stepped
      exact (closing_accounted accounted).1
  | destroy =>
      cases stepped
      exact (closing_accounted accounted).2

theorem start_accounted (sends : List Bool) : (start sends).session.Accounted where
  fresh := fun _ _ => rfl
  held := by
    intro socket held
    cases held
  closed := fun socket below => absurd below (Nat.not_lt_zero socket)
  once := ⟨fun _ _ => Nat.zero_le 1, fun _ => rfl⟩

/-- In every state of every run the transport's socket is open, any other socket that was opened
has been closed, and no socket is closed twice exactly as long as no send has failed. -/
theorem sockets_accounted (sends : List Bool) (calls : List SocketCall)
    (finish : TransportSockets) (executed : Machine.exec step (start sends) calls = some finish) :
    (∀ socket, finish.handle.bind (·.sbSocket) = some socket →
        socket < finish.net.opened ∧ finish.net.closes socket = 0) ∧
      (∀ socket < finish.net.opened, finish.handle.bind (·.sbSocket) ≠ some socket →
        0 < finish.net.closes socket) ∧
      ((∀ socket, finish.net.closes socket ≤ 1) ↔ finish.net.sendErrors = 0) := by
  have accounted : finish.session.Accounted :=
    Machine.exec_invariant step_accounted (start_accounted sends) executed
  have sameSocket : finish.handle.bind (·.sbSocket) = finish.session.link.sbSocket := by
    rw [session]
    cases finish.handle with
    | none => rfl
    | some link => rfl
  rw [sameSocket]
  exact ⟨accounted.held, accounted.closed, accounted.once.symm⟩

/-- A server behind the second of two addresses that challenges the publisher at first. -/
def challengingServer : Endpoint where
  prepared := true
  unpublishWrites := 1
  connection :=
    { host := true
      port := 1935
      resolution := .ok [⟨6, none, none, some 10065⟩, ⟨4, none, none, none⟩]
      handshake := [.write 1, .write 1, .write 3] }
  negotiation :=
    [.error .challenged
      { host := true
        port := 1935
        resolution := .ok [⟨4, none, none, none⟩]
        handshake := [.write 1, .write 1, .write 3] }
      [.write 4, .created 1 2, .playing]]

/-- The second write of the second `send` fails: the socket is closed by that write, on the way
through the one stream, and by `RTMP_Close`. -/
def failedSend : List SocketCall :=
  [.init challengingServer, .send 2, .send 2, .shutdown, .destroy]

theorem sockets_accounted_failedSend :
    ∃ finish,
      Machine.exec step (start (List.replicate 19 true ++ [false])) failedSend = some finish ∧
        finish.handle = none ∧ finish.net.opened = 3 ∧ finish.net.sendErrors = 1 ∧
        finish.net.closes 0 = 1 ∧ finish.net.closes 1 = 1 ∧ finish.net.closes 2 = 3 ∧
        ((∀ socket, finish.net.closes socket ≤ 1) ↔ finish.net.sendErrors = 0) := by
  refine ⟨_, rfl, by decide +kernel, by decide +kernel, by decide +kernel, by decide +kernel,
    by decide +kernel, by decide +kernel, ?_⟩
  exact (@sockets_accounted (List.replicate 19 true ++ [false]) failedSend _ rfl).2.2

end TransportSockets

end RejiStudio.Rtmp
