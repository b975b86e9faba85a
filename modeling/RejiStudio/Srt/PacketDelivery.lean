import RejiStudio.Pipeline.MetricsCollector
import RejiStudio.Srt.ConnectionLoss

/-!
# Delivery of packets

A packet of the encoder goes through `on_packet`, the output subsystem and the transport to
`send_internal`, which hands it to the library in one message or not at all.  What is not
handed over is counted as a dropped frame.
-/

namespace RejiStudio.Srt

open RejiStudio.Lib RejiStudio.Pipeline

/-- The sample that `send_internal` pushes; its other fields are constant. -/
structure MetricPush where
  timestampUs : UInt64
  bitrateKbps : UInt32
  deriving DecidableEq

/-- What the outside answers during one send: the error of `srt_sendmsg2`, and the file
time of the system in units of 100 ns. -/
structure SendAnswers where
  error : Option SrtError
  fileTime : UInt64
  deriving DecidableEq

/-- An output with the fields that only the sender uses.  The messages that the library took,
the pushes and the reports of a loss are history. -/
structure Sender where
  impl : Impl
  bytesSinceLastPush : UInt64
  lastMetricPushUs : Int64
  delivered : List (List UInt8)
  pushes : List MetricPush
  losses : List LossReason
  deriving DecidableEq

namespace Sender

def notifyConnectionLost (sender : Sender) (reason : LossReason) : Sender :=
  if sender.impl.notifiedLost then sender
  else
    { sender with
      impl := { sender.impl with notifiedLost := true }
      losses := sender.losses ++ [reason] }

/-- Microseconds since 1970, zero before that. -/
def unixUs (fileTime : UInt64) : UInt64 :=
  if 116444736000000000 < fileTime then (fileTime - 116444736000000000) / 10 else 0

def countBytes (sender : Sender) (size : Nat) (fileTime : UInt64) : Sender :=
  let tsUs := unixUs fileTime
  let bytes := sender.bytesSinceLastPush + UInt64.ofNat size
  let elapsedUs := tsUs.toInt64 - sender.lastMetricPushUs
  if 1000000 ≤ elapsedUs then
    { sender with
      bytesSinceLastPush := 0
      lastMetricPushUs := tsUs.toInt64
      pushes := sender.pushes ++ [⟨tsUs, (bytes * 8000 / elapsedUs.toUInt64).toUInt32⟩] }
  else { sender with bytesSinceLastPush := bytes }

/-- A send that failed: a full buffer drops the packet, a lost connection is reported. -/
def sendFailed (sender : Sender) (error : SrtError) : Sender :=
  if error.lost then
    let lost := { sender with impl := { sender.impl with connected := false } }
    if lost.impl.shuttingDown then lost
    else lost.notifyConnectionLost .srtSendmsgConnectionLost
  else sender

/-- `send_internal`; a null pointer is `none`. -/
def sendInternal (sender : Sender) (data : Option (List UInt8)) (answers : SendAnswers) :
    Bool × Sender :=
  if !sender.impl.initialized then (false, sender)
  else if sender.impl.shuttingDown then (false, sender)
  else
    match data with
    | none => (false, sender)
    | some bytes =>
        if bytes.length = 0 ∨ maxPayloadBytes < bytes.length then (false, sender)
        else if !sender.impl.connected then (false, sender)
        else if sender.impl.socket = none then (false, sender)
        else
          match answers.error with
          | some error => (false, sender.sendFailed error)
          | none =>
              (true, { sender with delivered := sender.delivered ++ [bytes] }.countBytes
                bytes.length answers.fileTime)

/-- `SrtTransport::send`, through `send_packet`. -/
def send (sender : Sender) (data : Option (List UInt8)) (answers : SendAnswers) :
    Bool × Sender := sender.sendInternal data answers

def isConnected (sender : Sender) : Bool := sender.impl.connected

end Sender

/-- `OutputSubsystem` over SRT, with the transport that `transport_atomic_` points to. -/
structure OutputSubsystem where
  transportAtomic : Option Sender
  deriving DecidableEq

def sehSrtSend (out : Sender) (data : Option (List UInt8)) (answers : SendAnswers) :
    Int × Sender :=
  ((if (out.send data answers).1 then 0 else 1), (out.send data answers).2)

/-- `OutputSubsystem::send`; no active output and no connection are no drop. -/
def OutputSubsystem.send (output : OutputSubsystem) (data : Option (List UInt8))
    (answers : SendAnswers) : Bool × OutputSubsystem :=
  match output.transportAtomic with
  | none => (true, output)
  | some out =>
      if !out.isConnected then (true, output)
      else
        ((sehSrtSend out data answers).1 == 0, ⟨some (sehSrtSend out data answers).2⟩)

/-- What `on_packet` uses: the flag, the output, and the two counts of drops. -/
structure PacketSink where
  streaming : Bool
  output : OutputSubsystem
  frameDrops : UInt32
  collector : MetricsCollector
  deriving DecidableEq

/-- `on_packet`, from the check of `streaming` to the count of drops. -/
def PacketSink.onPacket (sink : PacketSink) (data : Option (List UInt8))
    (answers : SendAnswers) : PacketSink :=
  if !sink.streaming then sink
  else
    let collector := sink.collector.recordFrame
    let (sent, output) := sink.output.send data answers
    if sent then { sink with output, collector }
    else
      { sink with
        output
        frameDrops := sink.frameDrops + 1
        collector := collector.recordFrameDrop }

structure Sender.Established (sender : Sender) : Prop where
  initialized : sender.impl.initialized = true
  running : sender.impl.shuttingDown = false
  connected : sender.impl.connected = true
  socket : sender.impl.socket ≠ none

namespace PacketSink

structure Established (sink : PacketSink) : Prop where
  streaming : sink.streaming = true
  output : ∃ sender, sink.output.transportAtomic = some sender ∧ sender.Established

def delivered (sink : PacketSink) : List (List UInt8) :=
  sink.output.transportAtomic.elim [] Sender.delivered

def accepting (fileTime : UInt64) : SendAnswers := ⟨none, fileTime⟩

/-- All bytes of the packet reach the library, the send returns true, and no drop is
counted. -/
structure Delivers (sink : PacketSink) (packet : List UInt8) (fileTime : UInt64) : Prop where
  returned : (sink.output.send (some packet) (accepting fileTime)).1 = true
  bytes : (sink.onPacket (some packet) (accepting fileTime)).delivered.flatten =
    sink.delivered.flatten ++ packet
  frameDrops : (sink.onPacket (some packet) (accepting fileTime)).frameDrops = sink.frameDrops
  totalDrops : (sink.onPacket (some packet) (accepting fileTime)).collector.totalDrops =
    sink.collector.totalDrops

def step : Machine PacketSink (List UInt8 × UInt64) := fun sink packet =>
  some (sink.onPacket (some packet.1) (accepting packet.2))

end PacketSink

theorem Sender.countBytes_frame (sender : Sender) (size : Nat) (fileTime : UInt64) :
    (sender.countBytes size fileTime).impl = sender.impl ∧
      (sender.countBytes size fileTime).delivered = sender.delivered := by
  unfold countBytes
  dsimp only
  split <;> exact ⟨rfl, rfl⟩

/-- The size of a message that `send_internal` hands to the library. -/
def FitsMessage (packet : List UInt8) : Prop :=
  1 ≤ packet.length ∧ packet.length ≤ maxPayloadBytes

instance (packet : List UInt8) : Decidable (FitsMessage packet) :=
  inferInstanceAs (Decidable (_ ∧ _))

theorem not_fitsMessage_iff {packet : List UInt8} :
    ¬FitsMessage packet ↔ packet.length = 0 ∨ maxPayloadBytes < packet.length := by
  rw [FitsMessage]
  omega

namespace Sender

variable {sender : Sender} {packet : List UInt8}

theorem sendInternal_of_fits (established : sender.Established) (fits : FitsMessage packet)
    (fileTime : UInt64) :
    sender.sendInternal (some packet) (PacketSink.accepting fileTime) =
      (true, { sender with delivered := sender.delivered ++ [packet] }.countBytes
        packet.length fileTime) := by
  have size : ¬(packet.length = 0 ∨ maxPayloadBytes < packet.length) := by
    rwa [← not_fitsMessage_iff, not_not]
  unfold sendInternal
  rw [if_neg (by simp [established.initialized]), if_neg (by simp [established.running])]
  dsimp only
  rw [if_neg size, if_neg (by simp [established.connected]), if_neg established.socket]
  rfl

theorem sendInternal_of_not_fits (unfit : ¬FitsMessage packet) (answers : SendAnswers) :
    sender.sendInternal (some packet) answers = (false, sender) := by
  unfold sendInternal
  split
  next => rfl
  next =>
    split
    next => rfl
    next => exact if_pos (not_fitsMessage_iff.mp unfit)

end Sender

namespace PacketSink

variable {sink : PacketSink} {packet : List UInt8} {fileTime : UInt64}

theorem send_eq {sender : Sender} (active : sink.output.transportAtomic = some sender)
    (connected : sender.impl.connected = true) (answers : SendAnswers) :
    sink.output.send (some packet) answers =
      ((sender.sendInternal (some packet) answers).1,
        ⟨some (sender.sendInternal (some packet) answers).2⟩) := by
  unfold OutputSubsystem.send
  rw [active]
  dsimp only
  rw [if_neg (by simp [Sender.isConnected, connected]), sehSrtSend, Sender.send]
  have code : ∀ sent : Bool, ((if sent then (0 : Int) else 1) == 0) = sent := by decide
  rw [code]

theorem onPacket_eq (streaming : sink.streaming = true) (answers : SendAnswers) :
    sink.onPacket (some packet) answers =
      if (sink.output.send (some packet) answers).1 then
        { sink with
          output := (sink.output.send (some packet) answers).2
          collector := sink.collector.recordFrame }
      else
        { sink with
          output := (sink.output.send (some packet) answers).2
          frameDrops := sink.frameDrops + 1
          collector := sink.collector.recordFrame.recordFrameDrop } := by
  unfold onPacket
  rw [if_neg (by simp [streaming])]

/-- A packet that fits in a message is delivered and not counted. -/
theorem delivers_of_fits (established : sink.Established) (fits : FitsMessage packet) :
    sink.Delivers packet fileTime ∧
      (sink.onPacket (some packet) (accepting fileTime)).Established := by
  obtain ⟨sender, active, ready⟩ := established.output
  obtain ⟨kept, messages⟩ :=
    { sender with delivered := sender.delivered ++ [packet] }.countBytes_frame
      packet.length fileTime
  have sent := @send_eq sink packet sender active ready.connected (accepting fileTime)
  rw [sender.sendInternal_of_fits ready fits fileTime] at sent
  have received := @onPacket_eq sink packet established.streaming (accepting fileTime)
  rw [sent, if_pos rfl] at received
  constructor
  · refine ⟨by rw [sent], ?_, by rw [received], by rw [received]; rfl⟩
    rw [received, delivered, delivered, active]
    dsimp only [Option.elim]
    rw [messages]
    simp
  · rw [received]
    refine ⟨established.streaming, _, rfl, ?_⟩
    constructor <;> rw [kept]
    · exact ready.initialized
    · exact ready.running
    · exact ready.connected
    · exact ready.socket

/-- A packet that does not is refused and counted in both counts. -/
theorem onPacket_of_not_fits (established : sink.Established) (unfit : ¬FitsMessage packet) :
    (sink.output.send (some packet) (accepting fileTime)).1 = false ∧
      sink.onPacket (some packet) (accepting fileTime) =
        { sink with
          frameDrops := sink.frameDrops + 1
          collector := sink.collector.recordFrame.recordFrameDrop } := by
  obtain ⟨sender, active, ready⟩ := established.output
  have sent := @send_eq sink packet sender active ready.connected (accepting fileTime)
  rw [sender.sendInternal_of_not_fits unfit (accepting fileTime), ← active] at sent
  rw [onPacket_eq established.streaming, sent]
  exact ⟨rfl, if_neg Bool.false_ne_true⟩

theorem delivers_iff (established : sink.Established) :
    (sink.Delivers packet fileTime ↔ FitsMessage packet) ∧
      (sink.onPacket (some packet) (accepting fileTime)).Established := by
  by_cases fits : FitsMessage packet
  · obtain ⟨delivers, remains⟩ := delivers_of_fits established fits
    exact ⟨iff_of_true delivers fits, remains⟩
  · obtain ⟨refused, counted⟩ := @onPacket_of_not_fits sink packet fileTime established fits
    constructor
    · refine iff_of_false ?_ fits
      intro delivers
      rw [delivers.returned] at refused
      cases refused
    · rw [counted]
      exact ⟨established.streaming, established.output⟩

/-- A library that takes every message is given all packets, and none is counted as a drop,
exactly if they all fit in one message. -/
theorem packets_delivered_iff (sink : PacketSink) (established : sink.Established)
    (packets : List (List UInt8 × UInt64)) :
    Machine.Along step (fun sink packet => sink.Delivers packet.1 packet.2) sink packets ↔
      ∀ packet ∈ packets, 1 ≤ packet.1.length ∧ packet.1.length ≤ maxPayloadBytes := by
  induction packets generalizing sink with
  | nil => simp [Machine.Along]
  | cons packet rest inductionHypothesis =>
      obtain ⟨same, remains⟩ := @delivers_iff sink packet.1 packet.2 established
      have later := inductionHypothesis _ remains
      rw [List.forall_mem_cons, ← later, ← FitsMessage, ← same]
      simp [Machine.Along, step]

def calling : PacketSink where
  streaming := true
  output := ⟨some {
    impl := { Session.dialling with connected := true, initialized := true }
    bytesSinceLastPush := 0
    lastMetricPushUs := 0
    delivered := []
    pushes := []
    losses := [] }⟩
  frameDrops := 0
  collector := .create 0

theorem calling_established : calling.Established :=
  ⟨rfl, _, rfl, ⟨rfl, rfl, rfl, nofun⟩⟩

def fittingPackets : List (List UInt8 × UInt64) :=
  [([0, 0, 0, 1, 0x65, 0x88], 0), (List.replicate 1456 0xFF, 333333)]

theorem packets_delivered_calling :
    Machine.Along step (fun sink packet => sink.Delivers packet.1 packet.2) calling
        fittingPackets ↔
      ∀ packet ∈ fittingPackets,
        1 ≤ packet.1.length ∧ packet.1.length ≤ maxPayloadBytes :=
  packets_delivered_iff calling calling_established fittingPackets

/-- A packet of 1457 bytes: nothing reaches the library, and a drop is counted. -/
theorem frame_of_1457_bytes_dropped :
    calling.Established ∧
      ((calling.output.send (some (List.replicate 1457 0xFF)) (accepting 0)).1 = false ∧
        (calling.onPacket (some (List.replicate 1457 0xFF)) (accepting 0)).delivered = [] ∧
        (calling.onPacket (some (List.replicate 1457 0xFF)) (accepting 0)).frameDrops = 1 ∧
        (calling.onPacket (some (List.replicate 1457 0xFF)) (accepting 0)).collector.totalDrops
          = 1) ∧
      ¬calling.Delivers (List.replicate 1457 0xFF) 0 := by
  have unfit : ¬FitsMessage (List.replicate 1457 0xFF) := by
    rw [FitsMessage, List.length_replicate]
    decide
  obtain ⟨refused, counted⟩ :=
    @onPacket_of_not_fits calling (List.replicate 1457 0xFF) 0 calling_established unfit
  refine ⟨calling_established, ⟨refused, by rw [counted]; rfl, by rw [counted]; rfl,
    by rw [counted]; rfl⟩, ?_⟩
  intro delivers
  rw [delivers.returned] at refused
  cases refused

end PacketSink

end RejiStudio.Srt
