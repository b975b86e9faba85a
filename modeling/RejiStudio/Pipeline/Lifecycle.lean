import RejiStudio.Pipeline.StreamSession
import RejiStudio.Recovery.RunFrame

/-!
# The life of a pipeline

`Pipeline::init` sets the parts up one after the other and may fail at any of them.
`Pipeline::shutdown` tears them down under `std::call_once`, also when `init` calls it
on its way out.  The counters of the timer and of COM are history.
-/

namespace RejiStudio.Pipeline

open RejiStudio.Lib RejiStudio.Recovery

/-- What `CoInitializeEx` returns. -/
inductive ComResult where
  | ok
  | changedMode
  | failed
  deriving DecidableEq

/-- A capture with the COM initialisations that it and its thread give back at the end. -/
structure RunningAudio where
  capture : WasapiCapture
  comInits : Nat
  deriving DecidableEq

/-- What `init` reads of its `Config`. -/
structure LifecycleConfig where
  fps : UInt32
  bitrateKbps : UInt32
  audioEnabled : Bool
  rtmp : Bool
  deriving DecidableEq

/-- Whether the guarded parts of `shutdown` run without an exception. -/
structure ShutdownAnswers where
  subsystems : Bool
  uninitCom : Bool
  deriving DecidableEq

/-- What the system answers to `init`.  A transport and a capture come with the COM
initialisations that they keep; a part that fails has given its own back. -/
structure InitAnswers where
  com : ComResult
  timer : Bool
  qpc : Bool
  frame : RecoveryOutcome
  transport : Option Nat
  audio : Option Nat
  actionCom : Bool
  shutdown : ShutdownAnswers
  deriving DecidableEq

/-- `Pipeline` with its `Impl`. -/
structure Lifecycle where
  /-- `impl_` is not null. -/
  impl : Bool
  shutdownOnce : Bool
  initialized : Bool
  streaming : Bool
  timerSet : Bool
  comOwned : Bool
  /-- Source, encoder and what `run_frame` keeps. -/
  frame : Recovery.Impl
  extBridge : Bool
  transport : Option Nat
  transportAtomic : Bool
  audio : Option RunningAudio
  /-- The action thread, with its `com_ok`. -/
  actionThread : Option Bool
  metricsThread : Bool
  timerBegins : Nat
  timerEnds : Nat
  comInits : Nat
  comUninits : Nat

inductive LifecycleAction where
  | init (config : LifecycleConfig) (answers : InitAnswers)
  | startStream
  | stopStream
  /-- `commands` are those of the WebSocket server: true starts the stream. -/
  | runFrame (commands : List Bool) (tick : Tick)
  | shutdown (answers : ShutdownAnswers)

namespace Lifecycle

def start (wgcSupported : Bool) : Lifecycle where
  impl := false
  shutdownOnce := false
  initialized := false
  streaming := false
  timerSet := false
  comOwned := false
  frame := {
    sub := .blank wgcSupported
    repeatTex := none
    reinitTrigger := ⟨false, 0⟩
    previewSeq := 0
    fps := 0 }
  extBridge := false
  transport := none
  transportAtomic := false
  audio := none
  actionThread := none
  metricsThread := false
  timerBegins := 0
  timerEnds := 0
  comInits := 0
  comUninits := 0

def audioCom (pipe : Lifecycle) : Nat := (pipe.audio.map RunningAudio.comInits).getD 0

def comHeld (pipe : Lifecycle) : Nat :=
  pipe.comOwned.toNat + pipe.transport.getD 0 + pipe.audioCom +
    (pipe.actionThread.getD false).toNat

/-- What `shutdown` runs once, in the order of its text as far as order matters: each
part is released, with the COM initialisations it holds. -/
def teardown (pipe : Lifecycle) : Lifecycle :=
  { pipe with
    shutdownOnce := true
    streaming := false
    transportAtomic := false
    actionThread := none
    metricsThread := false
    audio := none
    transport := none
    frame := { pipe.frame with
      sub := { pipe.frame.sub with
        encoder := none
        source := pipe.frame.sub.source.shutdown }
      repeatTex := none }
    extBridge := false
    timerSet := false
    timerEnds := pipe.timerEnds + pipe.timerSet.toNat
    comOwned := false
    comUninits := pipe.comUninits + pipe.comHeld
    initialized := false }

def shutdown (pipe : Lifecycle) (answers : ShutdownAnswers) : Bool × Lifecycle :=
  if pipe.impl then
    if pipe.shutdownOnce then (true, pipe)
    else (answers.subsystems && (!pipe.comOwned || answers.uninitCom), pipe.teardown)
  else (true, pipe)

/-- `MetricsSubsystem::init`; a thread that is assigned over a running one terminates
the process. -/
def initMetrics (pipe : Lifecycle) : Option Lifecycle :=
  if pipe.metricsThread then none else some { pipe with metricsThread := true }

/-- `CoInitializeEx` on the thread of the caller. -/
def initCom (pipe : Lifecycle) (result : ComResult) : Lifecycle :=
  { pipe with
    comOwned := result = .ok
    comInits := pipe.comInits + (decide (result = .ok)).toNat }

def beginTimer (pipe : Lifecycle) (ok : Bool) : Lifecycle :=
  if ok then { pipe with timerSet := true, timerBegins := pipe.timerBegins + 1 } else pipe

def initSource (pipe : Lifecycle) (outcome : InitOutcome) : Lifecycle × Bool :=
  match { pipe.frame.sub with source := .initial }.initSource outcome with
  | (sub, ok) => ({ pipe with frame := { pipe.frame with sub := sub } }, ok)

def initBridge (pipe : Lifecycle) : Lifecycle :=
  if pipe.frame.sub.source.isDxgi then { pipe with extBridge := true } else pipe

def initEncoder (pipe : Lifecycle) (config : LifecycleConfig) (ok : Bool) : Lifecycle :=
  match pipe.frame.sub.source.capture with
  | none => pipe
  | some capture =>
      let sub := { pipe.frame.sub with width := capture.width, height := capture.height }
      let sub := (sub.reinitEncoder capture.device
        (sub.encoderConfig config.fps config.bitrateKbps) ok).1
      { pipe with frame := { pipe.frame with sub := sub } }

/-- `OutputSubsystem::init`. -/
def initOutput (pipe : Lifecycle) (transport : Option Nat) : Lifecycle :=
  { pipe with
    transport := transport
    comInits := pipe.comInits + transport.getD 0
    comUninits := pipe.comUninits + pipe.transport.getD 0 }

/-- `AudioSubsystem::init`. -/
def initAudio (pipe : Lifecycle) (audio : Option Nat) : Lifecycle :=
  { pipe with
    audio := audio.map fun comInits => ⟨⟨true, false⟩, comInits⟩
    comInits := pipe.comInits + audio.getD 0
    comUninits := pipe.comUninits + pipe.audioCom }

/-- `CommandRouter::start`. -/
def startRouter (pipe : Lifecycle) (comOk : Bool) : Option Lifecycle :=
  if pipe.actionThread.isSome then none
  else some { pipe with
    actionThread := some comOk
    comInits := pipe.comInits + comOk.toNat }

/-- `init` behind the source: nothing is fatal any more. -/
def initParts (pipe : Lifecycle) (config : LifecycleConfig) (answers : InitAnswers) :
    Lifecycle :=
  let pipe := (pipe.initBridge.initEncoder config answers.frame.encoderInit).initOutput
    answers.transport
  if config.audioEnabled && config.rtmp then pipe.initAudio answers.audio else pipe

/-- `init` behind COM. -/
def initRest (pipe : Lifecycle) (config : LifecycleConfig) (answers : InitAnswers) :
    Option (Bool × Lifecycle) :=
  let pipe := pipe.beginTimer answers.timer
  if answers.qpc then
    match pipe.initSource answers.frame.sourceInit with
    | (pipe, false) => some (false, (pipe.shutdown answers.shutdown).2)
    | (pipe, true) =>
        ((pipe.initParts config answers).startRouter answers.actionCom).map fun pipe =>
          (true, { pipe with initialized := true })
  else some (false, (pipe.shutdown answers.shutdown).2)

/-- `none` when the process is terminated. -/
def init (pipe : Lifecycle) (config : LifecycleConfig) (answers : InitAnswers) :
    Option (Bool × Lifecycle) :=
  let pipe := { pipe with impl := true }
  if pipe.initialized then some (true, pipe)
  else if config.fps = 0 then some (false, pipe)
  else
    pipe.initMetrics.bind fun pipe =>
      let pipe := { pipe with frame := { pipe.frame with fps := config.fps } }
      if answers.com = .failed then some (false, pipe)
      else (pipe.initCom answers.com).initRest config answers

def startStream (pipe : Lifecycle) : Bool × Lifecycle :=
  if pipe.impl && pipe.initialized then
    if pipe.streaming then (true, pipe)
    else
      (true, { pipe with
        streaming := true
        transportAtomic := pipe.transport.isSome
        audio := pipe.audio.map fun audio => { audio with capture := audio.capture.start.2 } })
  else (false, pipe)

def stopStream (pipe : Lifecycle) : Bool × Lifecycle :=
  if pipe.impl then
    if pipe.streaming then
      (true, { pipe with
        streaming := false
        transportAtomic := false
        audio := pipe.audio.map fun audio => { audio with capture := audio.capture.stop.2 } })
    else (true, pipe)
  else (false, pipe)

def runFrame (pipe : Lifecycle) (commands : List Bool) (tick : Tick) : Bool × Lifecycle :=
  if pipe.impl = true ∧ pipe.frame.sub.source.capture ≠ none then
    let drained := commands.foldl (fun pipe active =>
      if active then pipe.startStream.2 else pipe.stopStream.2) pipe
    (true, { drained with frame := (drained.frame.runFrame tick).1 })
  else (false, pipe)

def step : Machine Lifecycle LifecycleAction
  | pipe, .init config answers => (pipe.init config answers).map Prod.snd
  | pipe, .startStream => some pipe.startStream.2
  | pipe, .stopStream => some pipe.stopStream.2
  | pipe, .runFrame commands tick => some (pipe.runFrame commands tick).2
  | pipe, .shutdown answers => some (pipe.shutdown answers).2

structure Clean (pipe : Lifecycle) : Prop where
  initialized : pipe.initialized = false
  source : pipe.frame.sub.source.capture = none
  encoder : pipe.frame.sub.encoder = none
  extBridge : pipe.extBridge = false
  transport : pipe.transport = none
  audio : pipe.audio = none
  actionThread : pipe.actionThread = none
  metricsThread : pipe.metricsThread = false
  timer : pipe.timerBegins = pipe.timerEnds
  com : pipe.comInits = pipe.comUninits

/-- Whenever `shutdown` returns after the step, the pipeline is clean. -/
def ShutdownCleanAfter (pipe : Lifecycle) (action : LifecycleAction) : Prop :=
  ∀ next, step pipe action = some next →
    ∀ answers, (next.shutdown answers).2.Clean

/-- No `init` that gets past its guards comes after the teardown. -/
def InitBeforeTeardown (pipe : Lifecycle) : LifecycleAction → Prop
  | .init config _ =>
      pipe.initialized = false → config.fps ≠ 0 → pipe.shutdownOnce = false
  | _ => True

instance (pipe : Lifecycle) (action : LifecycleAction) :
    Decidable (pipe.InitBeforeTeardown action) := by
  unfold InitBeforeTeardown
  split <;> infer_instance

/-! ## The invariant -/

/-- Between the first call and the teardown: what was taken is what is to be given
back. -/
structure Open (pipe : Lifecycle) : Prop where
  impl : pipe.impl = true
  shutdownOnce : pipe.shutdownOnce = false
  timer : pipe.timerBegins = pipe.timerEnds + pipe.timerSet.toNat
  com : pipe.comInits = pipe.comUninits + pipe.comHeld

/-- A pipeline that is not initialised has neither the timer nor COM. -/
def Idle (pipe : Lifecycle) : Prop :=
  pipe.initialized = false → pipe.timerSet = false ∧ pipe.comOwned = false

structure Shut (pipe : Lifecycle) : Prop where
  clean : pipe.Clean
  idle : pipe.timerSet = false ∧ pipe.comOwned = false
  torn : pipe.impl = true → pipe.shutdownOnce = true

def Invariant (pipe : Lifecycle) : Prop := pipe.Open ∧ pipe.Idle ∨ pipe.Shut

theorem invariant_start (wgcSupported : Bool) : (start wgcSupported).Invariant :=
  .inr ⟨⟨rfl, rfl, rfl, rfl, rfl, rfl, rfl, rfl, rfl, rfl⟩, ⟨rfl, rfl⟩, nofun⟩

theorem Open.teardown {pipe : Lifecycle} (opened : pipe.Open) : pipe.teardown.Shut where
  clean := ⟨rfl, rfl, rfl, rfl, rfl, rfl, rfl, rfl, opened.timer, opened.com⟩
  idle := ⟨rfl, rfl⟩
  torn := fun _ => rfl

theorem Open.shutdown {pipe : Lifecycle} (opened : pipe.Open) (answers : ShutdownAnswers) :
    (pipe.shutdown answers).2.Shut := by
  unfold Lifecycle.shutdown
  rw [if_pos opened.impl, if_neg (Bool.eq_false_iff.mp opened.shutdownOnce)]
  exact opened.teardown

theorem shutdown_of_torn {pipe : Lifecycle}
    (torn : pipe.impl = true → pipe.shutdownOnce = true) (answers : ShutdownAnswers) :
    (pipe.shutdown answers).2 = pipe := by
  unfold Lifecycle.shutdown
  split
  next called => rw [if_pos (torn called)]
  next => rfl

theorem Invariant.shutdown {pipe : Lifecycle} (invariant : pipe.Invariant)
    (answers : ShutdownAnswers) : (pipe.shutdown answers).2.Shut := by
  rcases invariant with ⟨opened, _⟩ | shut
  · exact opened.shutdown answers
  · rw [shutdown_of_torn shut.torn]
    exact shut

/-! ## The parts of `init` -/

theorem comHeld_shut {pipe : Lifecycle} (shut : pipe.Shut) : pipe.comHeld = 0 := by
  have audio : pipe.audioCom = 0 := by rw [audioCom, shut.clean.audio]; rfl
  rw [comHeld, shut.idle.2, shut.clean.transport, audio, shut.clean.actionThread]
  rfl

theorem Invariant.called {pipe : Lifecycle} (invariant : pipe.Invariant) :
    Invariant { pipe with impl := true } := by
  rcases invariant with ⟨opened, idle⟩ | shut
  · exact .inl ⟨⟨rfl, opened.shutdownOnce, opened.timer, opened.com⟩, idle⟩
  · have clean := shut.clean
    cases pipe.shutdownOnce with
    | true =>
        exact .inr ⟨⟨clean.initialized, clean.source, clean.encoder, clean.extBridge,
          clean.transport, clean.audio, clean.actionThread, clean.metricsThread, clean.timer,
          clean.com⟩, shut.idle, fun _ => rfl⟩
    | false =>
        refine .inl ⟨⟨rfl, rfl, ?_, ?_⟩, fun _ => shut.idle⟩
        · dsimp only
          rw [shut.idle.1]
          exact clean.timer
        · change pipe.comInits = pipe.comUninits + pipe.comHeld
          rw [comHeld_shut shut]
          exact clean.com

theorem Open.initCom {pipe : Lifecycle} (opened : pipe.Open) (free : pipe.comOwned = false)
    (result : ComResult) : (pipe.initCom result).Open := by
  refine ⟨opened.impl, opened.shutdownOnce, opened.timer, ?_⟩
  have com := opened.com
  simp only [comHeld, free, Bool.toNat_false] at com
  simp only [Lifecycle.initCom, comHeld, audioCom] at com ⊢
  cases result <;> simp <;> omega

theorem Open.beginTimer {pipe : Lifecycle} (opened : pipe.Open) (unset : pipe.timerSet = false)
    (ok : Bool) : (pipe.beginTimer ok).Open := by
  unfold Lifecycle.beginTimer
  split
  · refine ⟨opened.impl, opened.shutdownOnce, ?_, opened.com⟩
    have timer := opened.timer
    rw [unset] at timer
    exact congrArg (· + 1) timer
  · exact opened

theorem Open.withFrame {pipe : Lifecycle} (opened : pipe.Open) (frame : Recovery.Impl)
    (extBridge : Bool) :
    Open { pipe with
      frame := frame
      extBridge := extBridge } :=
  ⟨opened.impl, opened.shutdownOnce, opened.timer, opened.com⟩

theorem Open.initSource {pipe : Lifecycle} (opened : pipe.Open) (outcome : InitOutcome) :
    (pipe.initSource outcome).1.Open :=
  opened.withFrame _ pipe.extBridge

theorem Open.initBridge {pipe : Lifecycle} (opened : pipe.Open) : pipe.initBridge.Open := by
  unfold Lifecycle.initBridge
  split
  · exact opened.withFrame pipe.frame true
  · exact opened

theorem Open.initEncoder {pipe : Lifecycle} (opened : pipe.Open) (config : LifecycleConfig)
    (ok : Bool) : (pipe.initEncoder config ok).Open := by
  unfold Lifecycle.initEncoder
  split
  · exact opened
  · exact opened.withFrame _ pipe.extBridge

theorem Open.initOutput {pipe : Lifecycle} (opened : pipe.Open) (transport : Option Nat) :
    (pipe.initOutput transport).Open := by
  refine ⟨opened.impl, opened.shutdownOnce, opened.timer, ?_⟩
  have com := opened.com
  simp only [Lifecycle.initOutput, comHeld, audioCom] at com ⊢
  omega

theorem Open.initAudio {pipe : Lifecycle} (opened : pipe.Open) (audio : Option Nat) :
    (pipe.initAudio audio).Open := by
  refine ⟨opened.impl, opened.shutdownOnce, opened.timer, ?_⟩
  have held : ((audio.map fun comInits => (⟨⟨true, false⟩, comInits⟩ : RunningAudio)).map
      RunningAudio.comInits).getD 0 = audio.getD 0 := by
    cases audio <;> rfl
  have com := opened.com
  simp only [Lifecycle.initAudio, comHeld, audioCom, held] at com ⊢
  omega

theorem Open.initParts {pipe : Lifecycle} (opened : pipe.Open) (config : LifecycleConfig)
    (answers : InitAnswers) : (pipe.initParts config answers).Open := by
  have output := (opened.initBridge.initEncoder config answers.frame.encoderInit).initOutput
    answers.transport
  unfold Lifecycle.initParts
  dsimp only
  split
  · exact output.initAudio answers.audio
  · exact output

theorem Open.startRouter {pipe next : Lifecycle} (opened : pipe.Open) {comOk : Bool}
    (started : pipe.startRouter comOk = some next) : next.Open := by
  unfold Lifecycle.startRouter at started
  split at started
  next => cases started
  next absent =>
    cases started
    refine ⟨opened.impl, opened.shutdownOnce, opened.timer, ?_⟩
    have none : pipe.actionThread = none := Option.not_isSome_iff_eq_none.mp absent
    have com := opened.com
    simp only [comHeld, audioCom, none, Option.getD_none, Bool.toNat_false,
      Option.getD_some] at com ⊢
    omega

theorem Open.initRest {pipe : Lifecycle} (opened : pipe.Open) (unset : pipe.timerSet = false)
    {config : LifecycleConfig} {answers : InitAnswers} {result : Bool × Lifecycle}
    (ran : pipe.initRest config answers = some result) : result.2.Invariant := by
  have timed := opened.beginTimer unset answers.timer
  unfold Lifecycle.initRest at ran
  dsimp only at ran
  split at ran
  · have sourced := timed.initSource answers.frame.sourceInit
    split at ran
    next failed initialised =>
      rw [initialised] at sourced
      cases ran
      exact .inr (sourced.shutdown answers.shutdown)
    next ready initialised =>
      rw [initialised] at sourced
      obtain ⟨routed, started, rfl⟩ := Option.map_eq_some_iff.mp ran
      have all := (sourced.initParts config answers).startRouter started
      exact .inl ⟨⟨all.impl, all.shutdownOnce, all.timer, all.com⟩, nofun⟩
  · cases ran
    exact .inr (timed.shutdown answers.shutdown)

/-- `init` is undone by its own failure, or leaves what `shutdown` can undo. -/
theorem Invariant.init {pipe : Lifecycle} (invariant : pipe.Invariant)
    {config : LifecycleConfig} {answers : InitAnswers} {result : Bool × Lifecycle}
    (inTime : pipe.initialized = false → config.fps ≠ 0 → pipe.shutdownOnce = false)
    (ran : pipe.init config answers = some result) : result.2.Invariant := by
  have called := invariant.called
  unfold Lifecycle.init at ran
  dsimp only at ran
  split at ran
  next =>
    cases ran
    exact called
  next notInitialized =>
    split at ran
    next =>
      cases ran
      exact called
    next fps =>
      have first := inTime (Bool.eq_false_iff.mpr notInitialized) fps
      rcases called with ⟨opened, idle⟩ | shut
      · have ⟨unset, free⟩ := idle (Bool.eq_false_iff.mpr notInitialized)
        obtain ⟨polling, polls, ran⟩ := Option.bind_eq_some_iff.mp ran
        unfold initMetrics at polls
        split at polls
        next => cases polls
        next =>
          cases polls
          dsimp only at ran
          -- Neither the thread nor the configuration is under the balance.
          have polled : Open { pipe with
              impl := true
              metricsThread := true
              frame := { pipe.frame with fps := config.fps } } :=
            ⟨rfl, opened.shutdownOnce, opened.timer, opened.com⟩
          split at ran
          next =>
            cases ran
            exact .inl ⟨polled, fun _ => ⟨unset, free⟩⟩
          next => exact (polled.initCom free answers.com).initRest unset ran
      · exact absurd (shut.torn rfl) (Bool.eq_false_iff.mp first)

/-! ## The other calls -/

/-- The flag and the capture of a stream are not under the balance. -/
theorem Invariant.withStream {pipe : Lifecycle} (invariant : pipe.Invariant)
    (streaming transportAtomic : Bool) (toggle : WasapiCapture → WasapiCapture) :
    Invariant { pipe with
      streaming := streaming
      transportAtomic := transportAtomic
      audio := pipe.audio.map fun audio => { audio with capture := toggle audio.capture } } := by
  rcases invariant with ⟨opened, idle⟩ | shut
  · have audio : (pipe.audio.map fun audio =>
        ({ audio with capture := toggle audio.capture } : RunningAudio)).map
          RunningAudio.comInits = pipe.audio.map RunningAudio.comInits := by
      cases pipe.audio <;> rfl
    refine .inl ⟨⟨opened.impl, opened.shutdownOnce, opened.timer, ?_⟩, idle⟩
    have com := opened.com
    simp only [comHeld, audioCom, audio] at com ⊢
    exact com
  · have clean := shut.clean
    have audio : (pipe.audio.map fun audio =>
        ({ audio with capture := toggle audio.capture } : RunningAudio)) = none := by
      rw [clean.audio]
      rfl
    exact .inr ⟨⟨clean.initialized, clean.source, clean.encoder, clean.extBridge,
      clean.transport, audio, clean.actionThread, clean.metricsThread, clean.timer, clean.com⟩,
      shut.idle, shut.torn⟩

theorem Invariant.startStream {pipe : Lifecycle} (invariant : pipe.Invariant) :
    pipe.startStream.2.Invariant := by
  unfold Lifecycle.startStream
  split
  · split
    · exact invariant
    · exact invariant.withStream true pipe.transport.isSome fun capture => capture.start.2
  · exact invariant

theorem Invariant.stopStream {pipe : Lifecycle} (invariant : pipe.Invariant) :
    pipe.stopStream.2.Invariant := by
  unfold Lifecycle.stopStream
  split
  · split
    · exact invariant.withStream false false fun capture => capture.stop.2
    · exact invariant
  · exact invariant

/-- Starting and stopping the stream leave the capture of the desktop alone. -/
theorem stream_frame (pipe : Lifecycle) :
    pipe.startStream.2.frame = pipe.frame ∧ pipe.stopStream.2.frame = pipe.frame := by
  constructor
  · unfold Lifecycle.startStream
    split
    · split <;> rfl
    · rfl
  · unfold Lifecycle.stopStream
    split
    · split <;> rfl
    · rfl

theorem Invariant.commands {pipe : Lifecycle} (invariant : pipe.Invariant)
    (commands : List Bool) :
    (commands.foldl (fun pipe active =>
      if active then pipe.startStream.2 else pipe.stopStream.2) pipe).Invariant ∧
    (commands.foldl (fun pipe active =>
      if active then pipe.startStream.2 else pipe.stopStream.2) pipe).frame = pipe.frame := by
  induction commands generalizing pipe with
  | nil => exact ⟨invariant, rfl⟩
  | cons active rest inductionHypothesis =>
      rw [List.foldl_cons]
      cases active with
      | true =>
          obtain ⟨kept, frame⟩ := inductionHypothesis invariant.startStream
          exact ⟨kept, frame.trans pipe.stream_frame.1⟩
      | false =>
          obtain ⟨kept, frame⟩ := inductionHypothesis invariant.stopStream
          exact ⟨kept, frame.trans pipe.stream_frame.2⟩

theorem Invariant.runFrame {pipe : Lifecycle} (invariant : pipe.Invariant)
    (commands : List Bool) (tick : Tick) : (pipe.runFrame commands tick).2.Invariant := by
  unfold Lifecycle.runFrame
  split
  next captures =>
    obtain ⟨kept, frame⟩ := invariant.commands commands
    rcases kept with ⟨opened, idle⟩ | shut
    · exact .inl ⟨opened.withFrame _ _, idle⟩
    · exact absurd (frame ▸ shut.clean.source) captures.2
  next => exact invariant

theorem Invariant.step {pipe next : Lifecycle} {action : LifecycleAction}
    (invariant : pipe.Invariant) (inTime : pipe.InitBeforeTeardown action)
    (stepped : step pipe action = some next) : next.Invariant := by
  cases action with
  | init config answers =>
      obtain ⟨result, ran, rfl⟩ := Option.map_eq_some_iff.mp stepped
      exact invariant.init inTime ran
  | startStream =>
      cases stepped
      exact invariant.startStream
  | stopStream =>
      cases stepped
      exact invariant.stopStream
  | runFrame commands tick =>
      cases stepped
      exact invariant.runFrame commands tick
  | shutdown answers =>
      cases stepped
      exact .inr (invariant.shutdown answers)

/-! ## An `init` after the teardown -/

structure Stranded (pipe : Lifecycle) : Prop where
  shutdownOnce : pipe.shutdownOnce = true
  metricsThread : pipe.metricsThread = true

theorem Stranded.shutdown {pipe : Lifecycle} (stranded : pipe.Stranded)
    (answers : ShutdownAnswers) : (pipe.shutdown answers).2.Stranded := by
  rw [shutdown_of_torn fun _ => stranded.shutdownOnce]
  exact stranded

theorem Stranded.initParts {pipe : Lifecycle} (stranded : pipe.Stranded)
    (config : LifecycleConfig) (answers : InitAnswers) :
    (pipe.initParts config answers).Stranded := by
  have bridged : pipe.initBridge.Stranded := by
    unfold initBridge
    split
    · exact ⟨stranded.shutdownOnce, stranded.metricsThread⟩
    · exact stranded
  have encoded : (pipe.initBridge.initEncoder config answers.frame.encoderInit).Stranded := by
    unfold initEncoder
    split
    · exact bridged
    · exact ⟨bridged.shutdownOnce, bridged.metricsThread⟩
  unfold Lifecycle.initParts
  dsimp only
  split
  · exact ⟨encoded.shutdownOnce, encoded.metricsThread⟩
  · exact ⟨encoded.shutdownOnce, encoded.metricsThread⟩

theorem Stranded.initRest {pipe : Lifecycle} (stranded : pipe.Stranded)
    {config : LifecycleConfig} {answers : InitAnswers} {result : Bool × Lifecycle}
    (ran : pipe.initRest config answers = some result) : result.2.Stranded := by
  have timed : (pipe.beginTimer answers.timer).Stranded := by
    unfold beginTimer
    split
    · exact ⟨stranded.shutdownOnce, stranded.metricsThread⟩
    · exact stranded
  unfold Lifecycle.initRest at ran
  dsimp only at ran
  split at ran
  · have sourced : ((pipe.beginTimer answers.timer).initSource
        answers.frame.sourceInit).1.Stranded :=
      ⟨timed.shutdownOnce, timed.metricsThread⟩
    split at ran
    next failed initialised =>
      rw [initialised] at sourced
      cases ran
      exact sourced.shutdown answers.shutdown
    next ready initialised =>
      rw [initialised] at sourced
      obtain ⟨routed, started, rfl⟩ := Option.map_eq_some_iff.mp ran
      have parts := sourced.initParts config answers
      unfold startRouter at started
      split at started
      next => cases started
      next =>
        cases started
        exact ⟨parts.shutdownOnce, parts.metricsThread⟩
  · cases ran
    exact timed.shutdown answers.shutdown

/-- What `init` sets up after the teardown stays, whether it fails or not. -/
theorem stranded_of_late {pipe : Lifecycle} {config : LifecycleConfig} {answers : InitAnswers}
    {result : Bool × Lifecycle} (late : pipe.shutdownOnce = true)
    (notInitialized : pipe.initialized = false) (fps : config.fps ≠ 0)
    (ran : pipe.init config answers = some result) : result.2.Stranded := by
  unfold Lifecycle.init at ran
  dsimp only at ran
  rw [if_neg (Bool.eq_false_iff.mp notInitialized), if_neg fps] at ran
  obtain ⟨polling, polls, ran⟩ := Option.bind_eq_some_iff.mp ran
  unfold initMetrics at polls
  split at polls
  next => cases polls
  next =>
    cases polls
    dsimp only at ran
    split at ran
    next =>
      cases ran
      exact ⟨late, rfl⟩
    next =>
      have polled : Stranded (initCom { pipe with
          impl := true
          metricsThread := true
          frame := { pipe.frame with fps := config.fps } } answers.com) :=
        ⟨late, rfl⟩
      exact polled.initRest ran

theorem initBeforeTeardown_iff {pipe next : Lifecycle} {action : LifecycleAction}
    (invariant : pipe.Invariant) (stepped : step pipe action = some next) :
    pipe.InitBeforeTeardown action ↔ pipe.ShutdownCleanAfter action := by
  constructor
  · intro inTime after stepped answers
    exact ((invariant.step inTime stepped).shutdown answers).clean
  · intro clean
    unfold InitBeforeTeardown
    split
    next config answers =>
      intro notInitialized fps
      cases late : pipe.shutdownOnce with
      | false => rfl
      | true =>
          obtain ⟨result, ran, rfl⟩ := Option.map_eq_some_iff.mp stepped
          have stranded := stranded_of_late late notInitialized fps ran
          have stopped := (clean result.2 stepped ⟨true, true⟩).metricsThread
          rw [(stranded.shutdown ⟨true, true⟩).metricsThread] at stopped
          cases stopped
    next => trivial

/-! ## Whole runs -/

/-- Along a run `shutdown` leaves the pipeline clean whenever it returns, exactly if no
`init` gets past its guards after the teardown. -/
theorem shutdown_clean_iff {wgcSupported : Bool} {actions : List LifecycleAction}
    {pipe : Lifecycle} (executed : Machine.exec step (start wgcSupported) actions = some pipe) :
    Machine.Along step InitBeforeTeardown (start wgcSupported) actions ↔
      Machine.Along step ShutdownCleanAfter (start wgcSupported) actions := by
  have preserved : ∀ (pipe : Lifecycle) (action : LifecycleAction) (next : Lifecycle),
      pipe.Invariant → pipe.InitBeforeTeardown action → step pipe action = some next →
      next.Invariant :=
    fun _ _ _ invariant inTime stepped => invariant.step inTime stepped
  have agree : ∀ (pipe : Lifecycle) (action : LifecycleAction) (next : Lifecycle),
      pipe.Invariant → step pipe action = some next →
      (pipe.InitBeforeTeardown action ↔ pipe.ShutdownCleanAfter action) :=
    fun _ _ _ invariant stepped => initBeforeTeardown_iff invariant stepped
  exact Machine.along_congr preserved agree (invariant_start wgcSupported) executed

/-- Every call succeeds; the transport and the capture keep COM initialisations. -/
def allSucceeds : InitAnswers where
  com := .ok
  timer := true
  qpc := true
  frame := ⟨⟨true, 1920, 1080, true⟩, true⟩
  transport := some 1
  audio := some 2
  actionCom := true
  shutdown := ⟨true, true⟩

def noSource : InitAnswers :=
  { allSucceeds with frame := ⟨⟨false, 0, 0, false⟩, false⟩ }

def streamingConfig : LifecycleConfig := ⟨60, 6000, true, true⟩

/-- A session with a lost device, a second `shutdown`, and a call that a guard stops. -/
def onePipeline : List LifecycleAction :=
  [.init streamingConfig allSucceeds, .startStream,
    .runFrame [false, true] (healthyTick [1] (some (1920, 1080, 87)) false),
    .shutdown ⟨false, true⟩, .shutdown ⟨true, true⟩, .startStream,
    .init { streamingConfig with fps := 0 } allSucceeds]

theorem shutdown_clean_iff_onePipeline :
    ∃ pipe, Machine.exec step (start false) onePipeline = some pipe ∧
      pipe.timerEnds = 1 ∧ pipe.comUninits = 5 ∧
      Machine.Along step ShutdownCleanAfter (start false) onePipeline := by
  have inTime : Machine.Along step InitBeforeTeardown (start false) onePipeline := by
    decide
  have observed : (Machine.exec step (start false) onePipeline).map
      (fun pipe => (pipe.timerEnds, pipe.comUninits)) = some (1, 5) := by
    decide
  obtain ⟨pipe, executed, seen⟩ := Option.map_eq_some_iff.mp observed
  simp only [Prod.mk.injEq] at seen
  exact ⟨pipe, executed, seen.1, seen.2, (shutdown_clean_iff executed).mp inTime⟩

/-- `init` fails and tears down, and the second one succeeds. -/
def secondAttempt : List LifecycleAction :=
  [.init streamingConfig noSource, .init streamingConfig allSucceeds, .shutdown ⟨true, true⟩]

theorem second_attempt_survives_shutdown :
    ∃ pipe, Machine.exec step (start false) secondAttempt = some pipe ∧
      ¬pipe.Clean ∧ pipe.initialized = true ∧ pipe.metricsThread = true ∧
      pipe.actionThread = some true ∧ pipe.transport = some 1 ∧
      pipe.frame.sub.encoder.isSome = true ∧ pipe.timerBegins = 2 ∧ pipe.timerEnds = 1 := by
  have observed : (Machine.exec step (start false) secondAttempt).map
      (fun pipe => (pipe.initialized, pipe.metricsThread, pipe.actionThread, pipe.transport,
        pipe.frame.sub.encoder.isSome, pipe.timerBegins, pipe.timerEnds)) =
      some (true, true, some true, some 1, true, 2, 1) := rfl
  obtain ⟨pipe, executed, seen⟩ := Option.map_eq_some_iff.mp observed
  simp only [Prod.mk.injEq] at seen
  obtain ⟨initialized, polls, acts, sends, encodes, begins, ends⟩ := seen
  refine ⟨pipe, executed, ?_, initialized, polls, acts, sends, encodes, begins, ends⟩
  intro clean
  rw [clean.initialized] at initialized
  cases initialized

end Lifecycle

end RejiStudio.Pipeline
