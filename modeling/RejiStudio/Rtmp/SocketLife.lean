import RejiStudio.Lib.Machine
import RejiStudio.Rtmp.HappyEyeballs

/-!
# The socket of an RTMP connection

The calls of `RtmpTransport` down to `closesocket`.  `RTMPSockBuf_Close` leaves the socket's
number in place, and a send that fails closes it before `RTMP_Close` does the same on the way
through the published streams.  An answer of `send` stands for one `WriteN`; what the messages
say and what the server answers are choices of the environment.
-/

namespace RejiStudio.Rtmp

open RejiStudio.Lib

/-- What `RTMP_Close` reads of an `RTMP`.  `unpublishWrites` counts the chunks of an
`FCUnpublish`, and is 0 when the play path does not fit; `pubClean` and `pubClate` are flags of
the publisher's authentication. -/
structure RtmpLink where
  sbSocket : Option Nat
  streams : List Int32
  curStreamIdx : Nat
  featureWrite : Bool
  pubClean : Bool
  pubClate : Bool
  unpublishWrites : Nat
  playing : Bool
  deriving DecidableEq

/-- An `RTMP` with the sockets of the process. -/
structure SocketSession where
  link : RtmpLink
  net : Net

namespace SocketSession

def isConnected (session : SocketSession) : Bool := session.link.sbSocket.isSome

def sockBufSend (session : SocketSession) : Bool × SocketSession :=
  match session.link.sbSocket with
  | none => (false, session)
  | some socket =>
      if 0 < session.net.closes socket then (false, session)
      else
        match session.net.sends with
        | [] => (true, session)
        | ok :: rest =>
            (ok,
              { session with
                net :=
                  { session.net with
                    sends := rest
                    sendErrors := session.net.sendErrors + if ok then 0 else 1 } })

def sockBufClose (session : SocketSession) : SocketSession :=
  match session.link.sbSocket with
  | none => session
  | some socket => { session with net := session.net.closesocket socket }

/-- `WriteN`, with `RTMP_Close` as an argument. -/
def writeN (close : SocketSession → SocketSession) (session : SocketSession) :
    Bool × SocketSession :=
  if session.sockBufSend.1 then session.sockBufSend
  else (false, close session.sockBufSend.2.sockBufClose)

def sendPacket (close : SocketSession → SocketSession) : Nat → SocketSession →
    Bool × SocketSession
  | 0, session => (true, session)
  | chunks + 1, session =>
      if (writeN close session).1 then sendPacket close chunks (writeN close session).2
      else writeN close session

def clearStream (idx : Nat) (session : SocketSession) : SocketSession :=
  { session with link := { session.link with streams := session.link.streams.set idx 0 } }

/-- One turn of the loop of `RTMP_Close`: `FCUnpublish` and `deleteStream` for a stream that the
server has given a number. -/
def closeStream (close : SocketSession → SocketSession) (idx : Nat) (session : SocketSession) :
    SocketSession :=
  match session.link.streams[idx]? with
  | none => session
  | some id =>
      if 0 < id then
        let cleared := session.clearStream idx
        let unpublished :=
          if cleared.link.featureWrite then
            (sendPacket close cleared.link.unpublishWrites cleared).2
          else cleared
        (sendPacket close 1 unpublished).2
      else session

/-- The loop of `RTMP_Close`; past the last stream a turn does nothing. -/
def closeStreams (close : SocketSession → SocketSession) : Nat → Nat → SocketSession →
    SocketSession
  | 0, _, session => session
  | turns + 1, idx, session => closeStreams close turns (idx + 1) (closeStream close idx session)

/-- What `RTMP_Close` resets.  A publisher keeps its streams, without their numbers, until its
authentication is over. -/
def reset (session : SocketSession) : SocketSession :=
  let forgets := !session.link.featureWrite || session.link.pubClean
  { session with
    link :=
      { session.link with
        sbSocket := none
        streams := if forgets then [] else session.link.streams.map fun _ => -1
        curStreamIdx := if forgets then 0 else session.link.curStreamIdx
        playing := false } }

/-- `RTMP_Close`, where the first argument bounds how deep it calls itself. -/
def rtmpClose : Nat → SocketSession → SocketSession
  | 0, session => session
  | depth + 1, session =>
      if session.isConnected then
        (closeStreams (rtmpClose depth) session.link.streams.length 0 session).sockBufClose.reset
      else session.reset

def close (session : SocketSession) : SocketSession :=
  rtmpClose (session.link.streams.length + 1) session

def published (session : SocketSession) : Nat :=
  session.link.streams.countP fun id => decide (0 < id)

structure Live (socket : Nat) (session : SocketSession) : Prop where
  held : session.link.sbSocket = some socket
  opened : session.net.closes socket = 0

structure Dead (socket : Nat) (session : SocketSession) : Prop where
  held : session.link.sbSocket = some socket
  closed : 0 < session.net.closes socket

/-- A session without a socket that leaves the sockets of the process as they were. -/
structure Idle (before after : SocketSession) : Prop where
  released : after.link.sbSocket = none
  net : after.net = before.net

/-- The session has let go of its socket; other sockets are as they were. -/
structure Ended (socket : Nat) (before after : SocketSession) (errors : Nat) : Prop where
  released : after.link.sbSocket = none
  opened : after.net.opened = before.net.opened
  others : ∀ other, other ≠ socket → after.net.closes other = before.net.closes other
  sendErrors : after.net.sendErrors = before.net.sendErrors + errors

structure Carried (socket : Nat) (before after : SocketSession) : Prop where
  live : Live socket after
  opened : after.net.opened = before.net.opened
  closes : after.net.closes = before.net.closes
  sendErrors : after.net.sendErrors = before.net.sendErrors
  published : after.published ≤ before.published

theorem Idle.refl {session : SocketSession} (released : session.link.sbSocket = none) :
    Idle session session := ⟨released, rfl⟩

theorem Idle.trans {first second third : SocketSession} (before : Idle first second)
    (after : Idle second third) : Idle first third :=
  ⟨after.released, after.net.trans before.net⟩

theorem Ended.idle {socket : Nat} {first second third : SocketSession} {errors : Nat}
    (before : Ended socket first second errors) (after : Idle second third) :
    Ended socket first third errors where
  released := after.released
  opened := by rw [after.net, before.opened]
  others := by
    intro other different
    rw [after.net, before.others other different]
  sendErrors := by rw [after.net, before.sendErrors]

theorem Carried.refl {socket : Nat} {session : SocketSession} (live : Live socket session) :
    Carried socket session session := ⟨live, rfl, rfl, rfl, Nat.le_refl _⟩

theorem Carried.trans {socket : Nat} {first second third : SocketSession}
    (before : Carried socket first second) (after : Carried socket second third) :
    Carried socket first third where
  live := after.live
  opened := after.opened.trans before.opened
  closes := after.closes.trans before.closes
  sendErrors := after.sendErrors.trans before.sendErrors
  published := after.published.trans before.published

theorem Carried.ended {socket : Nat} {first second third : SocketSession} {errors : Nat}
    (before : Carried socket first second) (after : Ended socket second third errors) :
    Ended socket first third errors where
  released := after.released
  opened := after.opened.trans before.opened
  others := by
    intro other different
    rw [after.others other different, before.closes]
  sendErrors := by rw [after.sendErrors, before.sendErrors]

structure Buried (socket : Nat) (before after : SocketSession) : Prop where
  ended : Ended socket before after 0
  again : before.net.closes socket < after.net.closes socket

structure Broken (socket : Nat) (before after : SocketSession) : Prop where
  ended : Ended socket before after 1
  twice : 2 ≤ after.net.closes socket

/-- A close: exactly once where no send failed. -/
def Closed (socket : Nat) (before after : SocketSession) : Prop :=
  (Ended socket before after 0 ∧ after.net.closes socket = 1) ∨ Broken socket before after

/-- What `RTMP_Close` does to a session without an open socket, as long as fewer than `bound`
streams are published. -/
structure Closer (bound : Nat) (close : SocketSession → SocketSession) : Prop where
  idle : ∀ session, session.link.sbSocket = none → Idle session (close session)
  dead : ∀ socket session, Dead socket session → session.published < bound →
    Buried socket session (close session)

section Closers

variable {bound socket : Nat} {close : SocketSession → SocketSession} {session : SocketSession}

theorem sockBufClose_idle (released : session.link.sbSocket = none) :
    session.sockBufClose = session := by
  unfold sockBufClose
  rw [released]

theorem sockBufSend_idle (released : session.link.sbSocket = none) :
    session.sockBufSend = (false, session) := by
  unfold sockBufSend
  rw [released]

theorem sockBufSend_dead (dead : Dead socket session) :
    session.sockBufSend = (false, session) := by
  unfold sockBufSend
  rw [dead.held]
  exact if_pos dead.closed

theorem sockBufClose_held (held : session.link.sbSocket = some socket) :
    Dead socket session.sockBufClose ∧
      session.sockBufClose.net.closes socket = session.net.closes socket + 1 ∧
      session.sockBufClose.link = session.link ∧
      session.sockBufClose.net.opened = session.net.opened ∧
      session.sockBufClose.net.sendErrors = session.net.sendErrors ∧
      ∀ other, other ≠ socket →
        session.sockBufClose.net.closes other = session.net.closes other := by
  have result : session.sockBufClose = { session with net := session.net.closesocket socket } := by
    unfold sockBufClose
    rw [held]
  have counted : session.sockBufClose.net.closes socket = session.net.closes socket + 1 := by
    rw [result]
    exact Function.update_self _ _ _
  refine ⟨⟨?_, ?_⟩, counted, ?_, ?_, ?_, ?_⟩
  · rw [result]
    exact held
  · rw [counted]
    exact Nat.succ_pos _
  · rw [result]
  · rw [result]
    rfl
  · rw [result]
    rfl
  · intro other different
    rw [result]
    exact Function.update_of_ne different _ _

theorem writeN_idle (closer : Closer bound close) (released : session.link.sbSocket = none) :
    (writeN close session).1 = false ∧ Idle session (writeN close session).2 := by
  unfold writeN
  rw [sockBufSend_idle released, if_neg Bool.false_ne_true, sockBufClose_idle released]
  exact ⟨rfl, closer.idle session released⟩

theorem sendPacket_idle (closer : Closer bound close) (released : session.link.sbSocket = none)
    (chunks : Nat) : Idle session (sendPacket close chunks session).2 := by
  cases chunks with
  | zero => exact Idle.refl released
  | succ chunks =>
      obtain ⟨failed, idle⟩ := writeN_idle closer released
      unfold sendPacket
      rw [if_neg (by rw [failed]; exact Bool.false_ne_true)]
      exact idle

theorem closeStream_idle (closer : Closer bound close)
    (released : session.link.sbSocket = none) (idx : Nat) :
    Idle session (closeStream close idx session) := by
  unfold closeStream
  cases session.link.streams[idx]? with
  | none => exact Idle.refl released
  | some id =>
      dsimp only
      split
      case isFalse => exact Idle.refl released
      case isTrue =>
          have cleared : (session.clearStream idx).link.sbSocket = none := released
          split
          case isTrue =>
              have first := sendPacket_idle closer cleared
                (session.clearStream idx).link.unpublishWrites
              have second := sendPacket_idle closer first.released 1
              exact ⟨second.released, second.net.trans first.net⟩
          case isFalse =>
              have only := sendPacket_idle closer cleared 1
              exact ⟨only.released, only.net⟩

theorem closeStreams_idle (closer : Closer bound close) (turns idx : Nat)
    (released : session.link.sbSocket = none) :
    Idle session (closeStreams close turns idx session) := by
  induction turns generalizing idx session with
  | zero => exact Idle.refl released
  | succ turns inductionHypothesis =>
      have turn := closeStream_idle closer released idx
      exact turn.trans (inductionHypothesis (idx + 1) turn.released)

theorem writeN_dead (closer : Closer bound close) (dead : Dead socket session)
    (within : session.published < bound) :
    (writeN close session).1 = false ∧ Buried socket session (writeN close session).2 := by
  obtain ⟨closedDead, counted, linkEq, openedEq, errorsEq, others⟩ := sockBufClose_held dead.held
  have fewer : session.sockBufClose.published < bound := by
    rw [published, linkEq]
    exact within
  have buried := closer.dead socket _ closedDead fewer
  unfold writeN
  rw [sockBufSend_dead dead, if_neg Bool.false_ne_true]
  refine ⟨rfl, ?_, ?_⟩
  case refine_1 =>
    constructor
    case released => exact buried.ended.released
    case opened => exact buried.ended.opened.trans openedEq
    case others =>
        intro other different
        exact (buried.ended.others other different).trans (others other different)
    case sendErrors => exact buried.ended.sendErrors.trans (congrArg (· + 0) errorsEq)
  case refine_2 =>
    calc
      session.net.closes socket < session.sockBufClose.net.closes socket := by
        rw [counted]
        exact Nat.lt_succ_self _
      _ < (close session.sockBufClose).net.closes socket := buried.again

theorem Ended.of_net {first second third : SocketSession} {errors : Nat}
    (same : first.net = second.net) (ended : Ended socket first third errors) :
    Ended socket second third errors where
  released := ended.released
  opened := by rw [← same, ended.opened]
  others := by
    intro other different
    rw [← same, ended.others other different]
  sendErrors := by rw [← same, ended.sendErrors]

theorem Buried.of_net {first second third : SocketSession} (same : first.net = second.net)
    (buried : Buried socket first third) : Buried socket second third where
  ended := buried.ended.of_net same
  again := by
    rw [← same]
    exact buried.again

theorem Buried.idle {first second third : SocketSession} (before : Buried socket first second)
    (after : Idle second third) : Buried socket first third where
  ended := before.ended.idle after
  again := by
    rw [after.net]
    exact before.again

theorem sendPacket_dead (closer : Closer bound close) (dead : Dead socket session)
    (within : session.published < bound) (chunks : Nat) :
    (sendPacket close chunks session).2 = session ∧ chunks = 0 ∨
      Buried socket session (sendPacket close chunks session).2 := by
  cases chunks with
  | zero => exact Or.inl ⟨rfl, rfl⟩
  | succ chunks =>
      obtain ⟨failed, buried⟩ := writeN_dead closer dead within
      refine Or.inr ?_
      unfold sendPacket
      rw [if_neg (by rw [failed]; exact Bool.false_ne_true)]
      exact buried

theorem published_clearStream {idx : Nat} {id : Int32}
    (found : session.link.streams[idx]? = some id) (positive : 0 < id) :
    (session.clearStream idx).published + 1 = session.published := by
  obtain ⟨inside, idEq⟩ := List.getElem?_eq_some_iff.mp found
  have present : 0 < session.published :=
    List.countP_pos_iff.mpr ⟨id, List.mem_of_getElem? found, decide_eq_true positive⟩
  have counted : (session.clearStream idx).published = session.published -
      (if decide (0 < session.link.streams[idx]) = true then 1 else 0) +
      (if decide ((0 : Int32) < 0) = true then 1 else 0) := List.countP_set inside
  rw [idEq, if_pos (decide_eq_true positive), if_neg (by decide)] at counted
  rw [counted]
  exact Nat.succ_pred_eq_of_pos present

theorem closeStream_dead (closer : Closer bound close) (dead : Dead socket session)
    (within : session.published ≤ bound) (idx : Nat) :
    closeStream close idx session = session ∨
      Buried socket session (closeStream close idx session) := by
  unfold closeStream
  cases found : session.link.streams[idx]? with
  | none => exact Or.inl rfl
  | some id =>
      dsimp only
      split
      case isFalse => exact Or.inl rfl
      case isTrue positive =>
          have fewer : (session.clearStream idx).published < bound :=
            Nat.lt_of_lt_of_le
              (Nat.lt_of_succ_le (published_clearStream found positive).le) within
          have cleared : Dead socket (session.clearStream idx) := ⟨dead.held, dead.closed⟩
          refine Or.inr ?_
          have last : Buried socket (session.clearStream idx)
              (sendPacket close 1 (session.clearStream idx)).2 := by
            rcases sendPacket_dead closer cleared fewer 1 with ⟨_, absurdity⟩ | buried
            · cases absurdity
            · exact buried
          have sockets : (session.clearStream idx).net = session.net := rfl
          apply Buried.of_net sockets
          split
          case isFalse => exact last
          case isTrue =>
              rcases sendPacket_dead closer cleared fewer
                (session.clearStream idx).link.unpublishWrites with ⟨same, _⟩ | buried
              · rw [same]
                exact last
              · exact buried.idle (sendPacket_idle closer buried.ended.released 1)

theorem closeStreams_dead (closer : Closer bound close) (turns idx : Nat)
    (dead : Dead socket session) (within : session.published ≤ bound) :
    closeStreams close turns idx session = session ∨
      Buried socket session (closeStreams close turns idx session) := by
  induction turns generalizing idx with
  | zero => exact Or.inl rfl
  | succ turns inductionHypothesis =>
      unfold closeStreams
      rcases closeStream_dead closer dead within idx with same | buried
      · rw [same]
        exact inductionHypothesis (idx + 1)
      · exact Or.inr (buried.idle (closeStreams_idle closer turns (idx + 1)
          buried.ended.released))

theorem rtmpClose_idle (depth : Nat) (released : session.link.sbSocket = none) :
    Idle session (rtmpClose depth session) := by
  cases depth with
  | zero => exact Idle.refl released
  | succ depth =>
      have apart : session.isConnected = false := by
        rw [isConnected, released]
        rfl
      unfold rtmpClose
      rw [if_neg (by rw [apart]; exact Bool.false_ne_true)]
      exact ⟨rfl, rfl⟩

theorem rtmpClose_closer (depth : Nat) : Closer depth (rtmpClose depth) := by
  induction depth with
  | zero =>
      refine ⟨fun session released => rtmpClose_idle 0 released, ?_⟩
      intro socket session _ within
      exact absurd within (Nat.not_lt_zero _)
  | succ depth inductionHypothesis =>
      refine ⟨fun session released => rtmpClose_idle (depth + 1) released, ?_⟩
      intro socket session dead within
      have connected : session.isConnected = true := by
        rw [isConnected, dead.held]
        rfl
      unfold rtmpClose
      rw [if_pos connected]
      rcases closeStreams_dead inductionHypothesis session.link.streams.length 0 dead
        (Nat.le_of_lt_succ within) with same | buried
      · rw [same]
        obtain ⟨_, counted, _, openedEq, errorsEq, others⟩ := sockBufClose_held dead.held
        exact ⟨⟨rfl, openedEq, others, errorsEq⟩,
          Nat.lt_of_lt_of_eq (Nat.lt_succ_self _) counted.symm⟩
      · rw [sockBufClose_idle buried.ended.released]
        exact ⟨⟨rfl, buried.ended.opened, buried.ended.others, buried.ended.sendErrors⟩,
          buried.again⟩

theorem Carried.broken {first second third : SocketSession}
    (before : Carried socket first second) (after : Broken socket second third) :
    Broken socket first third := ⟨before.ended after.ended, after.twice⟩

theorem Broken.idle {first second third : SocketSession} (before : Broken socket first second)
    (after : Idle second third) : Broken socket first third where
  ended := before.ended.idle after
  twice := by
    rw [after.net]
    exact before.twice

/-- What an operation makes of an open socket: it is kept, or a send failed and it is closed
twice. -/
def Weathered (socket : Nat) (before after : SocketSession) : Prop :=
  Carried socket before after ∨ Broken socket before after

theorem sockBufSend_live (live : Live socket session) :
    Carried socket session session.sockBufSend.2 ∧ session.sockBufSend.1 = true ∨
      session.sockBufSend.1 = false ∧ Live socket session.sockBufSend.2 ∧
        session.sockBufSend.2.published = session.published ∧
        session.sockBufSend.2.net.opened = session.net.opened ∧
        session.sockBufSend.2.net.closes = session.net.closes ∧
        session.sockBufSend.2.net.sendErrors = session.net.sendErrors + 1 := by
  have stillOpen : ¬ 0 < session.net.closes socket := by
    rw [live.opened]
    exact Nat.lt_irrefl 0
  unfold sockBufSend
  rw [live.held]
  dsimp only
  rw [if_neg stillOpen]
  cases session.net.sends with
  | nil => exact Or.inl ⟨Carried.refl live, rfl⟩
  | cons ok rest =>
      cases ok with
      | true => exact Or.inl ⟨⟨⟨live.held, live.opened⟩, rfl, rfl, rfl, Nat.le_refl _⟩, rfl⟩
      | false => exact Or.inr ⟨rfl, ⟨live.held, live.opened⟩, rfl, rfl, rfl, rfl⟩

theorem writeN_live (closer : Closer bound close) (live : Live socket session)
    (within : session.published < bound) :
    (writeN close session).1 = true ∧ Carried socket session (writeN close session).2 ∨
      (writeN close session).1 = false ∧ Broken socket session (writeN close session).2 := by
  unfold writeN
  rcases sockBufSend_live live with
    ⟨carried, sent⟩ | ⟨failed, after, publishedEq, openedEq, closesEq, errorsEq⟩
  · refine Or.inl ?_
    rw [if_pos sent]
    exact ⟨sent, carried⟩
  · refine Or.inr ?_
    rw [if_neg (by rw [failed]; exact Bool.false_ne_true)]
    obtain ⟨dead, counted, linkEq, openedSame, errorsSame, others⟩ := sockBufClose_held after.held
    have fewer : session.sockBufSend.2.sockBufClose.published < bound := by
      rw [published, linkEq, ← published, publishedEq]
      exact within
    have buried := closer.dead socket _ dead fewer
    refine ⟨rfl, ?_, ?_⟩
    case refine_1 =>
      constructor
      case released => exact buried.ended.released
      case opened => rw [buried.ended.opened, openedSame, openedEq]
      case others =>
          intro other different
          rw [buried.ended.others other different, others other different, closesEq]
      case sendErrors => rw [buried.ended.sendErrors, errorsSame, errorsEq]
    case refine_2 =>
      calc
        2 = session.sockBufSend.2.sockBufClose.net.closes socket + 1 := by
          rw [counted, after.opened]
        _ ≤ (close session.sockBufSend.2.sockBufClose).net.closes socket := buried.again

theorem sendPacket_live (closer : Closer bound close) (live : Live socket session)
    (within : session.published < bound) (chunks : Nat) :
    Weathered socket session (sendPacket close chunks session).2 := by
  induction chunks generalizing session with
  | zero => exact Or.inl (Carried.refl live)
  | succ chunks inductionHypothesis =>
      unfold sendPacket
      rcases writeN_live closer live within with ⟨sent, carried⟩ | ⟨failed, broken⟩
      · rw [if_pos sent]
        have fewer := Nat.lt_of_le_of_lt carried.published within
        rcases inductionHypothesis carried.live fewer with later | later
        · exact Or.inl (carried.trans later)
        · exact Or.inr (carried.broken later)
      · rw [if_neg (by rw [failed]; exact Bool.false_ne_true)]
        exact Or.inr broken

theorem clearStream_carried (live : Live socket session) {idx : Nat} {id : Int32}
    (found : session.link.streams[idx]? = some id) (positive : 0 < id) :
    Carried socket session (session.clearStream idx) where
  live := ⟨live.held, live.opened⟩
  opened := rfl
  closes := rfl
  sendErrors := rfl
  published := Nat.le_of_succ_le (published_clearStream found positive).le

theorem closeStream_live (closer : Closer bound close) (live : Live socket session)
    (within : session.published ≤ bound) (idx : Nat) :
    Weathered socket session (closeStream close idx session) := by
  unfold closeStream
  cases found : session.link.streams[idx]? with
  | none => exact Or.inl (Carried.refl live)
  | some id =>
      dsimp only
      split
      case isFalse => exact Or.inl (Carried.refl live)
      case isTrue positive =>
          have cleared := clearStream_carried live found positive
          have fewer : (session.clearStream idx).published < bound :=
            Nat.lt_of_lt_of_le
              (Nat.lt_of_succ_le (published_clearStream found positive).le) within
          split
          case isFalse =>
              rcases sendPacket_live closer cleared.live fewer 1 with later | later
              · exact Or.inl (cleared.trans later)
              · exact Or.inr (cleared.broken later)
          case isTrue =>
              rcases sendPacket_live closer cleared.live fewer
                (session.clearStream idx).link.unpublishWrites with first | first
              · have still := Nat.lt_of_le_of_lt first.published fewer
                rcases sendPacket_live closer first.live still 1 with later | later
                · exact Or.inl (cleared.trans (first.trans later))
                · exact Or.inr (cleared.broken (first.broken later))
              · exact Or.inr (cleared.broken
                  (first.idle (sendPacket_idle closer first.ended.released 1)))

theorem closeStreams_live (closer : Closer bound close) (turns idx : Nat)
    (live : Live socket session) (within : session.published ≤ bound) :
    Weathered socket session (closeStreams close turns idx session) := by
  induction turns generalizing idx session with
  | zero => exact Or.inl (Carried.refl live)
  | succ turns inductionHypothesis =>
      unfold closeStreams
      rcases closeStream_live closer live within idx with carried | broken
      · have fewer := carried.published.trans within
        rcases inductionHypothesis (idx + 1) carried.live fewer with later | later
        · exact Or.inl (carried.trans later)
        · exact Or.inr (carried.broken later)
      · exact Or.inr (broken.idle (closeStreams_idle closer turns (idx + 1)
          broken.ended.released))

/-- Closing an open connection closes its socket once, unless a farewell could not be sent. -/
theorem rtmpClose_live (depth : Nat) (live : Live socket session)
    (within : session.published ≤ depth) :
    Closed socket session (rtmpClose (depth + 1) session) := by
  have connected : session.isConnected = true := by
    rw [isConnected, live.held]
    rfl
  unfold rtmpClose
  rw [if_pos connected]
  rcases closeStreams_live (rtmpClose_closer depth) session.link.streams.length 0 live within
    with carried | broken
  · obtain ⟨_, counted, _, openedEq, errorsEq, others⟩ := sockBufClose_held carried.live.held
    refine Or.inl ⟨⟨rfl, ?_, ?_, ?_⟩, ?_⟩
    · exact openedEq.trans carried.opened
    · intro other different
      exact (others other different).trans (congrFun carried.closes other)
    · exact errorsEq.trans carried.sendErrors
    · exact counted.trans (congrArg (· + 1) carried.live.opened)
  · rw [sockBufClose_idle broken.ended.released]
    exact Or.inr ⟨⟨rfl, broken.ended.opened, broken.ended.others, broken.ended.sendErrors⟩,
      broken.twice⟩

theorem published_le_length : session.published ≤ session.link.streams.length :=
  List.countP_le_length

theorem close_closer (bound : Nat) : Closer bound SocketSession.close where
  idle := fun session released => rtmpClose_idle _ released
  dead := by
    intro socket session dead _
    exact (rtmpClose_closer _).dead socket session dead (Nat.lt_succ_of_le published_le_length)

theorem close_live (live : Live socket session) : Closed socket session session.close :=
  rtmpClose_live _ live published_le_length

end Closers

end SocketSession

end RejiStudio.Rtmp
