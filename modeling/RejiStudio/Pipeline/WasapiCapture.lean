import RejiStudio.Lib.GuardedLedger
import RejiStudio.Pipeline.CapturePackets

/-!
# The audio capture and its supervisor

`WasapiCapture` keeps a supervisor thread, which opens the device when a capture is asked for,
takes its packets and opens it anew when it changes or fails.  The owner starts, stops and
shuts down at any time, and the system reports changes of the devices on threads of its own;
the flags between them are read one by one.  The answers of the system are choices of the
environment.  The levels and the processor load, which are only logged or reported, are left
out.
-/

namespace RejiStudio.Pipeline

open RejiStudio.Lib

namespace Wasapi

inductive Cell where
  | com
  | enumerator
  | notifyClient
  | wakeEvent
  | audioEvent
  | supervisorCom
  | mmcss
  | device
  | audioClient
  | captureClient
  | mixFormat
  deriving DecidableEq

structure Config where
  exclusiveMode : Bool
  sampleRate : UInt32
  channels : UInt32
  bitDepth : UInt32
  bufferMs : UInt32
  loopback : Bool
  deviceId : String

/-- What the engine keeps of a `WAVEFORMATEX`. -/
structure Format where
  sampleRate : UInt32
  channels : UInt32
  bits : UInt32
  isFloat : Bool
  deriving DecidableEq

inductive ClientCall where
  | start
  | stop
  | nextPacketSize
  | getBuffer (frames : Option UInt32)
  | releaseBuffer (frames : UInt32)
  deriving DecidableEq

namespace Config

/-- The tests of `init`. -/
def Accepted (cfg : Config) : Prop :=
  ¬ (cfg.channels = 0 ∨ kMaxChannels < cfg.channels) ∧
    ¬ (cfg.sampleRate < 8000 ∨ 192000 < cfg.sampleRate) ∧
    (cfg.bitDepth = 16 ∨ cfg.bitDepth = 32) ∧
    ¬ (cfg.bufferMs = 0 ∨ 1000 < cfg.bufferMs)

instance decidableAccepted (cfg : Config) : Decidable cfg.Accepted :=
  inferInstanceAs (Decidable (¬ _ ∧ ¬ _ ∧ _ ∧ ¬ _))

def format (cfg : Config) : Format := ⟨cfg.sampleRate, cfg.channels, cfg.bitDepth, false⟩

end Config

/-! ## The engine -/

/-- The handles and the format of the device.  `streaming` is the audio client that was started
and not stopped; it, `strayed`, a call through a null pointer, and `log` are history. -/
structure Engine where
  ledger : Ledger Cell Unit
  loop : CaptureLoop
  actualBits : UInt32
  actualIsFloat : Bool
  bufferFrames : UInt32
  streaming : Option Nat
  strayed : Bool
  log : List ClientCall

inductive ExclusiveAnswer where
  | ok
  | notAligned
  | failed
  deriving DecidableEq

structure OpenAnswer where
  chosenDevice : Bool := true
  defaultDevice : Bool := true
  activate : Bool := true
  exclusive : ExclusiveAnswer := .failed
  alignedSize : Bool := true
  activateAligned : Bool := true
  exclusiveAligned : Bool := true
  activateShared : Bool := true
  shared : Bool := true
  mixFormat : Option Format := none
  activateMix : Bool := true
  mix : Bool := true
  eventHandle : Bool := true
  service : Bool := true
  bufferSize : Option UInt32 := some 480

namespace Engine

def has (engine : Engine) (cell : Cell) : Bool := (engine.ledger.cells cell).isSome

def use (engine : Engine) (cell : Cell) : Engine :=
  if engine.has cell then engine else { engine with strayed := true }

def reset (engine : Engine) (cell : Cell) : Engine :=
  { engine with ledger := engine.ledger.release Guarded.sameOwner cell }

/-- `&ptr` gives back what the pointer holds, and the call may put something there. -/
def renew (engine : Engine) (cell : Cell) (made : Bool) : Engine :=
  let released := engine.ledger.release Guarded.sameOwner cell
  { engine with ledger := if made then released.create Guarded.sameOwner cell else released }

def note (engine : Engine) (call : ClientCall) : Engine :=
  { engine with log := engine.log ++ [call] }

/-- The first lines of `open_device_and_init_engine`: the device that was chosen, or the
default one. -/
def findDevice (cfg : Config) (answer : OpenAnswer) (engine : Engine) : Bool × Engine :=
  let engine := engine.use .enumerator
  if cfg.deviceId ≠ "" then
    let chosen := engine.renew .device answer.chosenDevice
    if answer.chosenDevice then (true, chosen)
    else (answer.defaultDevice, (chosen.reset .device).renew .device answer.defaultDevice)
  else (answer.defaultDevice, engine.renew .device answer.defaultDevice)

def activate (engine : Engine) (made : Bool) : Engine :=
  (engine.use .device).renew .audioClient made

/-- The first strategy; the answer is whether the client is initialised. -/
def initExclusive (cfg : Config) (answer : OpenAnswer) (engine : Engine) : Bool × Engine :=
  if cfg.exclusiveMode ∧ cfg.loopback = false then
    let engine := engine.use .audioClient
    match answer.exclusive with
    | .ok => (true, engine)
    | .failed => (false, engine)
    | .notAligned =>
        let engine := engine.use .audioClient
        if answer.alignedSize then
          let engine := (engine.reset .audioClient).activate answer.activateAligned
          if answer.activateAligned then (answer.exclusiveAligned, engine.use .audioClient)
          else (false, engine)
        else (false, engine)
  else (false, engine)

/-- The second strategy; `none` says that the function gives up. -/
def initShared (answer : OpenAnswer) (engine : Engine) : Option Bool × Engine :=
  if engine.has .audioClient then (some answer.shared, engine.use .audioClient)
  else
    let engine := engine.activate answer.activateShared
    if answer.activateShared then (some answer.shared, engine.use .audioClient)
    else (none, engine)

def initMix (answer : OpenAnswer) (engine : Engine) : Bool × Engine :=
  let engine := engine.use .audioClient
  match answer.mixFormat with
  | none => (false, engine)
  | some _ =>
      let engine := ((engine.renew .mixFormat true).reset .audioClient).activate answer.activateMix
      if answer.activateMix then (answer.mix, engine.use .audioClient) else (false, engine)

def initClient (cfg : Config) (answer : OpenAnswer) (engine : Engine) : Option Format × Engine :=
  match engine.initExclusive cfg answer with
  | (true, engine) => (some cfg.format, engine)
  | (false, engine) =>
      match engine.initShared answer with
      | (none, engine) => (none, engine)
      | (some true, engine) => (some cfg.format, engine)
      | (some false, engine) =>
          match engine.initMix answer with
          | (true, engine) => (answer.mixFormat, engine)
          | (false, engine) => (none, engine)

def setFormat (engine : Engine) (used : Format) : Engine :=
  { engine with
    loop := { engine.loop with
      actualChannels := used.channels
      actualSampleRate := used.sampleRate }
    actualBits := used.bits
    actualIsFloat := used.isFloat }

/-- The last lines of `open_device_and_init_engine`. -/
def connect (answer : OpenAnswer) (engine : Engine) : Bool × Engine :=
  let engine := (engine.use .audioClient).use .audioEvent
  if answer.eventHandle then
    let engine := (engine.use .audioClient).renew .captureClient answer.service
    if answer.service then
      let engine := engine.use .audioClient
      match answer.bufferSize with
      | some frames => (true, { engine with bufferFrames := frames })
      | none => (true, engine)
    else (false, engine)
  else (false, engine)

/-- `open_device_and_init_engine`. -/
def openDevice (cfg : Config) (answer : OpenAnswer) (engine : Engine) : Bool × Engine :=
  match engine.findDevice cfg answer with
  | (false, engine) => (false, engine)
  | (true, engine) =>
      let engine := engine.activate answer.activate
      if answer.activate then
        match engine.initClient cfg answer with
        | (none, engine) => (false, engine)
        | (some used, engine) => (engine.setFormat used).connect answer
      else (false, engine)

/-- `audio_client_->Start()`. -/
def startClient (engine : Engine) (ok : Bool) : Engine :=
  let engine := engine.use .audioClient
  if ok then
    { engine.note .start with
      streaming := (engine.ledger.cells .audioClient).map Resource.id }
  else engine

/-- `seh_audio_stop`. -/
def stopClient (engine : Engine) : Engine :=
  if engine.has .audioClient then { engine.note .stop with streaming := none } else engine

/-- `release_engine`, without its two flags. -/
def release (engine : Engine) : Engine :=
  { engine.stopClient with
    ledger := engine.stopClient.ledger.releaseAll Guarded.sameOwner
      [.captureClient, .audioClient, .device, .mixFormat] }

/-- What `shutdown` gives back once the thread has ended. -/
def teardown (engine : Engine) : Engine :=
  { engine with
    ledger := engine.ledger.releaseAll Guarded.sameOwner
      [.captureClient, .audioClient, .device, .notifyClient, .enumerator, .mixFormat, .wakeEvent,
        .audioEvent, .com] }

end Engine

/-! ## The object and its thread -/

/-- Where the supervisor thread is.  In `releasing` and `rejecting` it has a packet of so many
frames; in `returned` it is back from `capture_loop`. -/
inductive Point where
  | entry
  | top
  | requested
  | dirty
  | engine
  | loopStop
  | loopRequested
  | loopDirty
  | waiting
  | packetSize
  | getBuffer
  | releasing (frames : UInt32)
  | rejecting (frames : UInt32)
  | returned (ok : Bool)
  | check
  | leaving
  | ended
  deriving DecidableEq

inductive WaitAnswer where
  | audio
  | woken
  | timedOut
  | failed
  deriving DecidableEq

inductive BufferAnswer (Sample : Type) where
  | packet (packet : CapturePacket Sample)
  | invalidated
  | failed

structure Answer (Sample : Type) where
  com : Bool := true
  mmcss : Bool := true
  openDevice : OpenAnswer := {}
  start : Bool := true
  wait : WaitAnswer := .audio
  packetSize : Option UInt32 := some 480
  buffer : BufferAnswer Sample := .failed
  released : Bool := true
  now : Int := 0

inductive ComAnswer where
  | ok
  | changedMode
  | failed
  deriving DecidableEq

/-- Whether the callbacks of `init` are given, and what the system answers. -/
structure InitAnswer where
  callbacks : Bool := true
  com : ComAnswer := .ok
  enumerator : Bool := true
  notifyClient : Bool := true
  registered : Bool := true
  wakeEvent : Bool := true
  audioEvent : Bool := true
  thread : Bool := true
  deriving DecidableEq

structure Got (Sample : Type) where
  packet : CapturePacket Sample
  channels : UInt32
  sampleRate : UInt32

/-- `WasapiCapture` with its thread; `notifies` says that the notification client knows its
owner, `joining` that `shutdown` waits for the thread.  The packets that were got, the calls of
the callback, the reported drops and the reported losses are history. -/
structure Capture (Sample : Type) where
  cfg : Config
  engine : Engine
  initialized : Bool
  startRequested : Bool
  stopThread : Bool
  running : Bool
  deviceDirty : Bool
  engineActive : Bool
  notifies : Bool
  joining : Bool
  lastMetricUs : Int
  supervisor : Option Point
  got : List (Got Sample)
  delivered : List (PushArgs Sample)
  reported : List UInt32
  lost : List String

inductive Action (Sample : Type) where
  | init (cfg : Config) (answer : InitAnswer)
  | start
  | stop
  /-- `shutdown` up to the join. -/
  | shutdown
  /-- The rest of `shutdown`. -/
  | joined
  | deviceChange (reason : String)
  | supervise (answer : Answer Sample)

def kMetricPeriodUs : Int := 1000000

variable {Sample : Type}

namespace Capture

def new (cfg : Config) : Capture Sample where
  cfg := cfg
  engine := ⟨Ledger.empty, ⟨0, 0, 0, 0⟩, 0, false, 0, none, false, []⟩
  initialized := false
  startRequested := false
  stopThread := false
  running := false
  deviceDirty := false
  engineActive := false
  notifies := false
  joining := false
  lastMetricUs := 0
  supervisor := none
  got := []
  delivered := []
  reported := []
  lost := []

/-- The end of `shutdown`. -/
def teardown (capture : Capture Sample) : Capture Sample :=
  { capture with
    engine := capture.engine.teardown
    initialized := false
    notifies := false
    joining := false
    supervisor := none }

/-- `shutdown` of an object without a thread. -/
def abort (capture : Capture Sample) : Capture Sample :=
  { capture with stopThread := true, startRequested := false }.teardown

def withEngine (capture : Capture Sample) (engine : Engine) : Capture Sample :=
  { capture with engine := engine }

/-- The notification client and the two events; both events are tried before either is
tested. -/
def initNotify (capture : Capture Sample) (answer : InitAnswer) : Capture Sample :=
  let capture := capture.withEngine (capture.engine.renew .notifyClient answer.notifyClient)
  if answer.notifyClient = false then capture.abort
  else
    let capture := { capture.withEngine (capture.engine.use .enumerator) with notifies := true }
    if answer.registered = false then capture.abort
    else
      let capture := capture.withEngine
        ((capture.engine.renew .wakeEvent answer.wakeEvent).renew .audioEvent answer.audioEvent)
      if answer.wakeEvent = false ∨ answer.audioEvent = false then capture.abort
      else
        let capture := { capture with stopThread := false }
        if answer.thread = false then capture.abort
        else { capture with initialized := true, supervisor := some .entry }

/-- `init` behind `CoInitializeEx`. -/
def initParts (capture : Capture Sample) (com : Bool) (answer : InitAnswer) : Capture Sample :=
  let capture := capture.withEngine (capture.engine.renew .com com)
  let capture := capture.withEngine (capture.engine.renew .enumerator answer.enumerator)
  if answer.enumerator = false then capture.abort else capture.initNotify answer

def init (capture : Capture Sample) (cfg : Config) (answer : InitAnswer) : Capture Sample :=
  if capture.initialized then capture
  else if answer.callbacks = false then capture
  else if ¬ cfg.Accepted then capture
  else
    let capture := { capture with cfg := cfg }
    match answer.com with
    | .failed => capture
    | .ok => capture.initParts true answer
    | .changedMode => capture.initParts false answer

def start (capture : Capture Sample) : Capture Sample :=
  if capture.initialized then { capture with startRequested := true } else capture

def stop (capture : Capture Sample) : Capture Sample :=
  if capture.initialized then { capture with startRequested := false } else capture

/-- `on_device_change`, called by the notification client as long as it knows its owner. -/
def onDeviceChange (capture : Capture Sample) (reason : String) : Option (Capture Sample) :=
  if capture.notifies then
    some { capture with deviceDirty := true, lost := capture.lost ++ [reason] }
  else none

def releaseEngine (capture : Capture Sample) : Capture Sample :=
  { capture with
    engine := capture.engine.release
    engineActive := false
    running := false }

def publishMetrics (capture : Capture Sample) (now : Int) : Capture Sample :=
  if now - capture.lastMetricUs < kMetricPeriodUs then capture
  else
    { capture with
      lastMetricUs := now
      reported := capture.reported ++ [capture.engine.loop.frameDrops]
      engine := { capture.engine with loop := { capture.engine.loop with frameDrops := 0 } } }

def moveTo (capture : Capture Sample) (point : Point) : Capture Sample :=
  { capture with supervisor := some point }

def startEngine (capture : Capture Sample) (answer : Answer Sample) : Capture Sample :=
  match capture.engine.openDevice capture.cfg answer.openDevice with
  | (false, engine) => (capture.withEngine engine).moveTo .top
  | (true, engine) =>
      let capture := capture.withEngine (engine.startClient answer.start)
      if answer.start then
        { capture with engineActive := true, running := true }.moveTo .loopStop
      else capture.releaseEngine.moveTo .top

/-- `seh_get_buffer` and the callback, up to the release of the packet. -/
def takePacket (capture : Capture Sample) (answer : BufferAnswer Sample) : Capture Sample :=
  let engine := capture.engine.use .captureClient
  match answer with
  | .packet packet =>
      let (loop, callback) := engine.loop.packet packet
      let got := Got.mk packet engine.loop.actualChannels engine.loop.actualSampleRate
      let taken := { capture with
        engine := { engine.note (.getBuffer (some packet.frames)) with loop := loop }
        got := capture.got ++ [got] }
      match callback with
      | some args =>
          { taken with delivered := capture.delivered ++ [args] }.moveTo (.releasing packet.frames)
      | none => taken.moveTo (.rejecting packet.frames)
  | .invalidated =>
      { capture.withEngine (engine.note (.getBuffer none)) with
        lost := capture.lost ++ ["audio-device-invalidated"] }.moveTo (.returned false)
  | .failed => (capture.withEngine (engine.note (.getBuffer none))).moveTo (.returned false)

def supervise (capture : Capture Sample) (answer : Answer Sample) : Point → Option (Capture Sample)
  | .entry =>
      let engine := (capture.engine.renew .supervisorCom answer.com).renew .mmcss answer.mmcss
      some ((capture.withEngine engine).moveTo .top)
  | .top => some (capture.moveTo (if capture.stopThread then .leaving else .requested))
  | .requested => some (capture.moveTo (if capture.startRequested then .dirty else .top))
  | .dirty =>
      some ((if capture.deviceDirty then { capture with deviceDirty := false }.releaseEngine
        else capture).moveTo .engine)
  | .engine =>
      some (if capture.engineActive then capture.moveTo .loopStop else capture.startEngine answer)
  | .loopStop =>
      some (capture.moveTo (if capture.stopThread then .returned true else .loopRequested))
  | .loopRequested =>
      some (capture.moveTo (if capture.startRequested then .loopDirty else .returned true))
  | .loopDirty => some (capture.moveTo (if capture.deviceDirty then .returned true else .waiting))
  | .waiting =>
      match answer.wait with
      | .timedOut => some ((capture.publishMetrics answer.now).moveTo .loopStop)
      | .woken => some (capture.moveTo .loopStop)
      | .failed => some (capture.moveTo (.returned false))
      | .audio => some (capture.moveTo .packetSize)
  | .packetSize =>
      let engine := capture.engine.use .captureClient
      let asked := capture.withEngine (engine.note .nextPacketSize)
      match answer.packetSize with
      | some size =>
          if 0 < size then some (asked.moveTo .getBuffer)
          else some ((asked.publishMetrics answer.now).moveTo .loopStop)
      | none => some ((asked.publishMetrics answer.now).moveTo .loopStop)
  | .getBuffer => some (capture.takePacket answer.buffer)
  | .releasing frames =>
      let engine := capture.engine.use .captureClient
      some ((capture.withEngine (engine.note (.releaseBuffer frames))).moveTo
        (if answer.released then .packetSize else .returned false))
  | .rejecting frames =>
      let engine := capture.engine.use .captureClient
      some ((capture.withEngine (engine.note (.releaseBuffer frames))).moveTo (.returned false))
  | .returned ok => some ((if ok then capture else capture.releaseEngine).moveTo .check)
  | .check =>
      some ((if capture.startRequested then capture else capture.releaseEngine).moveTo .top)
  | .leaving =>
      let engine := capture.releaseEngine.engine
      some ((capture.releaseEngine.withEngine
        ((engine.reset .supervisorCom).reset .mmcss)).moveTo .ended)
  | .ended => none

/-- The calls of the owner's thread come one after the other, but `start` and `stop` may come
from another thread. -/
def step : Machine (Capture Sample) (Action Sample)
  | capture, .init cfg answer => if capture.joining then none else some (capture.init cfg answer)
  | capture, .start => some capture.start
  | capture, .stop => some capture.stop
  | capture, .shutdown =>
      if capture.joining then none
      else some { capture with stopThread := true, startRequested := false, joining := true }
  | capture, .joined =>
      if capture.joining ∧ (capture.supervisor = none ∨ capture.supervisor = some .ended) then
        some capture.teardown
      else none
  | capture, .deviceChange reason => capture.onDeviceChange reason
  | capture, .supervise answer =>
      capture.supervisor.bind fun point => capture.supervise answer point

end Capture

end Wasapi

end RejiStudio.Pipeline
