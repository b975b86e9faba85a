import RejiStudio.Recovery.Source

/-!
# Device-loss recovery

`RecoveryCoordinator::handle_device_lost` rebuilds the source after its device is
removed, and on the DXGI path the encoder and the published size with it.
-/

namespace RejiStudio.Recovery

/-- `EncodeSubsystem::Config`. -/
structure EncoderConfig where
  width : UInt32
  height : UInt32
  fpsNum : UInt32
  fpsDen : UInt32
  bitrateKbps : UInt32
  maxBitrateKbps : UInt32
  deriving DecidableEq

/-- An encoder that was initialised on `device`. -/
structure Encoder where
  device : Device
  config : EncoderConfig
  deriving DecidableEq

/-- What recovery works on: source, encoder, the two atomics, and the devices that
exist and are removed.  `wgcSupported` is a property of the system. -/
structure Subsystems where
  wgcSupported : Bool
  source : Source
  encoder : Option Encoder
  width : UInt32
  height : UInt32
  devices : Nat
  removed : List Device

structure RecoveryOutcome where
  sourceInit : InitOutcome
  encoderInit : Bool
  deriving DecidableEq

namespace Subsystems

/-- `source.init()` on the platform, which knows one or two more devices after a
success. -/
def initSource (sub : Subsystems) (outcome : InitOutcome) : Subsystems × Bool :=
  match sub.source.init sub.wgcSupported sub.devices outcome with
  | (source, true) =>
      ({ sub with source := source, devices := devicesAfter sub.wgcSupported sub.devices }, true)
  | (source, false) => ({ sub with source := source }, false)

/-- `EncodeSubsystem::reinit`. -/
def reinitEncoder (sub : Subsystems) (device : Device) (config : EncoderConfig) (ok : Bool) :
    Subsystems × Bool :=
  if ok then ({ sub with encoder := some ⟨device, config⟩ }, true)
  else ({ sub with encoder := none }, false)

def encoderConfig (sub : Subsystems) (fps bitrateKbps : UInt32) : EncoderConfig where
  width := sub.width
  height := sub.height
  fpsNum := fps
  fpsDen := 1
  bitrateKbps := bitrateKbps
  maxBitrateKbps := bitrateKbps + bitrateKbps / 4

def recoverWgc (sub : Subsystems) (outcome : RecoveryOutcome) : Subsystems × Bool :=
  match sub.source.device with
  | none => (sub, false)
  | some device =>
      if device ∈ sub.removed then
        { sub with source := sub.source.shutdown }.initSource outcome.sourceInit
      else (sub, false)

/-- The DXGI path: encoder and source down, then source, size and encoder up. -/
def recoverDxgi (sub : Subsystems) (fps bitrateKbps : UInt32) (outcome : RecoveryOutcome) :
    Subsystems × Bool :=
  match sub.source.device with
  | none => (sub, false)
  | some device =>
      if device ∈ sub.removed then
        match { sub with encoder := none, source := sub.source.shutdown }.initSource
            outcome.sourceInit with
        | (sub, false) => (sub, false)
        | (sub, true) =>
            match sub.source.capture with
            | none => (sub, true)
            | some capture =>
                let sub := { sub with width := capture.width, height := capture.height }
                sub.reinitEncoder capture.device (sub.encoderConfig fps bitrateKbps)
                  outcome.encoderInit
      else (sub, false)

def handleDeviceLost (sub : Subsystems) (fps bitrateKbps : UInt32) (outcome : RecoveryOutcome) :
    Subsystems × Bool :=
  if sub.source.isDxgi then sub.recoverDxgi fps bitrateKbps outcome
  else sub.recoverWgc outcome

def blank (wgcSupported : Bool) : Subsystems where
  wgcSupported := wgcSupported
  source := .initial
  encoder := none
  width := 0
  height := 0
  devices := 0
  removed := []

/-- The source and encoder part of `Pipeline::init`; without a source there is no
pipeline, without an encoder it runs in preview-only mode. -/
def startup (wgcSupported : Bool) (fps bitrateKbps : UInt32) (outcome : RecoveryOutcome) :
    Option Subsystems :=
  match (blank wgcSupported).initSource outcome.sourceInit with
  | (_, false) => none
  | (sub, true) =>
      match sub.source.capture with
      | none => some sub
      | some capture =>
          let sub := { sub with width := capture.width, height := capture.height }
          some (sub.reinitEncoder capture.device (sub.encoderConfig fps bitrateKbps)
            outcome.encoderInit).1

/-- Source and devices after a successful `source.init()`. -/
def rebuilt (sub : Subsystems) (outcome : InitOutcome) : Subsystems :=
  { sub with
    source := { sub.source with
      capture := some (createCapture sub.wgcSupported sub.devices outcome)
      streak := 0
      inits := sub.source.inits + 1 }
    devices := devicesAfter sub.wgcSupported sub.devices }

def tornDown (sub : Subsystems) (capture : Capture) : Subsystems :=
  { sub with
    source := { sub.source with capture := none }
    encoder := if capture.isWgc then sub.encoder else none }

def followed (sub : Subsystems) (fps bitrateKbps : UInt32) (outcome : RecoveryOutcome) :
    Subsystems :=
  let capture := createCapture sub.wgcSupported sub.devices outcome.sourceInit
  let sized := { sub.rebuilt outcome.sourceInit with
    width := capture.width, height := capture.height }
  { sized with
    encoder := if outcome.encoderInit then
        some ⟨capture.device, sized.encoderConfig fps bitrateKbps⟩
      else none }

theorem initSource_of_ok (sub : Subsystems) (outcome : InitOutcome)
    (ok : outcome.ok = true) : sub.initSource outcome = (sub.rebuilt outcome, true) := by
  simp [initSource, Source.init, ok, rebuilt]

theorem initSource_of_failed (sub : Subsystems) (outcome : InitOutcome)
    (failed : outcome.ok = false) :
    sub.initSource outcome =
      ({ sub with source := { sub.source with capture := none } }, false) := by
  simp [initSource, Source.init, failed]

theorem startup_eq (wgcSupported : Bool) (fps bitrateKbps : UInt32)
    (outcome : RecoveryOutcome) :
    startup wgcSupported fps bitrateKbps outcome =
      if outcome.sourceInit.ok then
        some ((blank wgcSupported).followed fps bitrateKbps outcome)
      else none := by
  cases initialised : outcome.sourceInit.ok with
  | false => simp [startup, initSource_of_failed _ _ initialised]
  | true =>
      cases encoder : outcome.encoderInit <;>
        simp [startup, initSource_of_ok _ _ initialised, rebuilt, followed, reinitEncoder,
          encoderConfig, encoder]

theorem handleDeviceLost_cases (sub : Subsystems) (fps bitrateKbps : UInt32)
    (outcome : RecoveryOutcome) :
    (sub.handleDeviceLost fps bitrateKbps outcome = (sub, false) ∧
      ∀ capture, sub.source.capture = some capture → capture.device ∉ sub.removed) ∨
    ∃ capture, sub.source.capture = some capture ∧ capture.device ∈ sub.removed ∧
      ((outcome.sourceInit.ok = false ∧
          sub.handleDeviceLost fps bitrateKbps outcome = (sub.tornDown capture, false)) ∨
        (outcome.sourceInit.ok = true ∧ capture.isWgc = true ∧
          sub.handleDeviceLost fps bitrateKbps outcome =
            (sub.rebuilt outcome.sourceInit, true)) ∨
        (outcome.sourceInit.ok = true ∧ capture.isWgc = false ∧
          sub.handleDeviceLost fps bitrateKbps outcome =
            (sub.followed fps bitrateKbps outcome, outcome.encoderInit))) := by
  cases held : sub.source.capture with
  | none =>
      left
      simp [handleDeviceLost, recoverWgc, Source.isDxgi, Source.device, held]
  | some capture =>
      by_cases lost : capture.device ∈ sub.removed
      · right
        refine ⟨capture, rfl, lost, ?_⟩
        have dxgi : sub.source.isDxgi = !capture.isWgc := by simp [Source.isDxgi, held]
        have device : sub.source.device = some capture.device := by
          simp [Source.device, held]
        cases kind : capture.isWgc with
        | true =>
            have taken : sub.handleDeviceLost fps bitrateKbps outcome =
                { sub with source := sub.source.shutdown }.initSource outcome.sourceInit := by
              simp [handleDeviceLost, recoverWgc, dxgi, kind, device, lost]
            cases initialised : outcome.sourceInit.ok with
            | false =>
                rw [taken, initSource_of_failed _ _ initialised]
                simp [tornDown, kind, Source.shutdown]
            | true =>
                rw [taken, initSource_of_ok _ _ initialised]
                simp [rebuilt, Source.shutdown]
        | false =>
            cases initialised : outcome.sourceInit.ok with
            | false =>
                simp [handleDeviceLost, recoverDxgi, dxgi, kind, device, lost,
                  initSource_of_failed _ _ initialised, tornDown, Source.shutdown]
            | true =>
                cases encoder : outcome.encoderInit <;>
                  simp [handleDeviceLost, recoverDxgi, dxgi, kind, device, lost,
                    initSource_of_ok _ _ initialised, followed, rebuilt, Source.shutdown,
                    reinitEncoder, encoderConfig, encoder]
      · left
        simp [handleDeviceLost, recoverWgc, recoverDxgi, Source.device, held, lost]

structure DevicesExist (sub : Subsystems) : Prop where
  display : ∀ capture, sub.source.capture = some capture → capture.frameDevice < sub.devices
  capture : ∀ capture, sub.source.capture = some capture → capture.device < sub.devices
  encoder : ∀ encoder, sub.encoder = some encoder → encoder.device < sub.devices

def Agrees (sub : Subsystems) : Prop :=
  ∃ capture encoder, sub.source.capture = some capture ∧ sub.encoder = some encoder ∧
    encoder.device = capture.device ∧
    encoder.config.width = capture.width ∧ encoder.config.height = capture.height ∧
    sub.width = capture.width ∧ sub.height = capture.height

theorem followed_agrees (sub : Subsystems) (fps bitrateKbps : UInt32)
    (outcome : RecoveryOutcome) (encoderInit : outcome.encoderInit = true) :
    (sub.followed fps bitrateKbps outcome).Agrees := by
  simp [Agrees, followed, rebuilt, encoderInit, encoderConfig]

/-- The encoder of the lost device is not the one of the rebuilt source. -/
theorem rebuilt_disagrees (sub : Subsystems) (exist : sub.DevicesExist)
    (outcome : InitOutcome) : ¬(sub.rebuilt outcome).Agrees := by
  rintro ⟨capture, encoder, rebuiltCapture, kept, sameDevice, -⟩
  have created : createCapture sub.wgcSupported sub.devices outcome = capture :=
    Option.some.inj rebuiltCapture
  have older : encoder.device < sub.devices := exist.encoder encoder kept
  have newer : sub.devices ≤ capture.device := by
    rw [← created]
    exact (devices_le_createCapture _ _ _).1
  rw [sameDevice] at older
  exact Nat.not_lt.mpr newer older

/-- After a recovery that returned true, encoder, source and published size agree
exactly when the lost source was a DXGI source. -/
theorem handleDeviceLost_agrees (sub : Subsystems) (exist : sub.DevicesExist)
    (fps bitrateKbps : UInt32) (outcome : RecoveryOutcome)
    (recovered : (sub.handleDeviceLost fps bitrateKbps outcome).2 = true) :
    (sub.handleDeviceLost fps bitrateKbps outcome).1.Agrees ↔ sub.source.isDxgi = true := by
  obtain ⟨unchanged, -⟩ | ⟨capture, held, -, failed | rebuilt | followed⟩ :=
    sub.handleDeviceLost_cases fps bitrateKbps outcome
  · simp [unchanged] at recovered
  · simp [failed.2] at recovered
  · obtain ⟨-, kind, result⟩ := rebuilt
    rw [result]
    simp [Source.isDxgi, held, kind, rebuilt_disagrees sub exist]
  · obtain ⟨-, kind, result⟩ := followed
    rw [result] at recovered ⊢
    simp [Source.isDxgi, held, kind, followed_agrees sub fps bitrateKbps outcome recovered]

/-- A 1080p pipeline with two devices whose capture device is removed. -/
def removedAt1080p (wgcSupported : Bool) (capture : Capture) : Subsystems where
  wgcSupported := wgcSupported
  source := { Source.initial with capture := some capture, inits := 1 }
  encoder := some ⟨capture.device, ⟨1920, 1080, 60, 1, 6000, 7500⟩⟩
  width := 1920
  height := 1080
  devices := 2
  removed := [capture.device]

theorem handleDeviceLost_agrees_dxgi :
    let lost := removedAt1080p false (.dxgi 0 1 false 1920 1080)
    let outcome : RecoveryOutcome := ⟨⟨true, 2560, 1440, false⟩, true⟩
    (lost.handleDeviceLost 60 6000 outcome).1.Agrees ↔ lost.source.isDxgi = true := by
  apply handleDeviceLost_agrees
  · constructor <;> simp [removedAt1080p, Capture.device, Capture.frameDevice]
  · decide

/-- The WGC path answers true and leaves the encoder on the removed device. -/
theorem wgc_recovery_keeps_lost_encoder :
    ¬∀ (sub : Subsystems) (fps bitrateKbps : UInt32) (outcome : RecoveryOutcome),
      sub.DevicesExist → sub.encoder ≠ none →
      (sub.handleDeviceLost fps bitrateKbps outcome).2 = true →
      (sub.handleDeviceLost fps bitrateKbps outcome).1.Agrees := by
  intro consistent
  obtain ⟨capture, encoder, held, kept, sameDevice, -⟩ :=
    consistent (removedAt1080p true (.wgc 0 1920 1080)) 60 6000
      ⟨⟨true, 1920, 1080, false⟩, true⟩
      (by constructor <;> simp [removedAt1080p, Capture.device, Capture.frameDevice])
      (by decide) (by decide)
  have newDevice : capture = .wgc 2 1920 1080 := Option.some.inj held.symm
  have oldDevice : encoder.device = 0 := by
    rw [← Option.some.inj kept]
    rfl
  rw [newDevice, oldDevice] at sameDevice
  exact absurd sameDevice (by decide)

end Subsystems

end RejiStudio.Recovery
