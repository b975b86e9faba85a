import Mathlib.Algebra.Order.Ring.Int
import Mathlib.Tactic.Common

/-!
# The desktop source

`ExistingDesktopSource` owns a capture of the desktop and the staging ring of its
preview.  A device is known by its identity: every creation gives a new one.
-/

namespace RejiStudio.Recovery

abbrev Device := Nat

/-- An `ID3D11Texture2D` with what `GetDevice` and `GetDesc` say. -/
structure Texture where
  device : Device
  width : UInt32
  height : UInt32
  format : UInt32
  deriving DecidableEq

/-- The two implementations of `IScreenCapture` after a successful `init`.  The
DXGI pipeline has a context on the display adapter and one on the encode adapter,
with a device of its own each, also when the adapters are the same. -/
inductive Capture where
  | wgc (device : Device) (width height : UInt32)
  | dxgi (display encode : Device) (sameAdapter : Bool) (width height : UInt32)
  deriving DecidableEq

namespace Capture

def width : Capture → UInt32
  | .wgc _ width _ => width
  | .dxgi _ _ _ width _ => width

def height : Capture → UInt32
  | .wgc _ _ height => height
  | .dxgi _ _ _ _ height => height

def device : Capture → Device
  | .wgc device _ _ => device
  | .dxgi _ encode _ _ _ => encode

/-- The device of the textures that `next_frame` returns: on one adapter the
resource manager works on the display device alone, across adapters it uploads to
the encode device. -/
def frameDevice : Capture → Device
  | .wgc device _ _ => device
  | .dxgi display encode sameAdapter _ _ => if sameAdapter then display else encode

def isWgc : Capture → Bool
  | .wgc _ _ _ => true
  | .dxgi _ _ _ _ _ => false

theorem device_eq_frameDevice_of_wgc {capture : Capture} (wgc : capture.isWgc = true) :
    capture.device = capture.frameDevice := by
  cases capture with
  | wgc device width height => rfl
  | dxgi display encode sameAdapter width height => simp [isWgc] at wgc

end Capture

/-- A frame, or a texture that is kept from tick to tick.  `madeAt` is history: the
number of initialisations of the source when the frame, or the frame that the
texture was created for, was captured.  The code keeps the texture only. -/
structure Kept where
  texture : Texture
  madeAt : Nat
  deriving DecidableEq

/-- One slot of `wgc_staging_` and `wgc_staging_valid_`. -/
structure StagingSlot where
  texture : Option Kept
  valid : Bool
  deriving DecidableEq

def StagingSlot.resized (slot : StagingSlot) (tex : Texture) : Bool :=
  match slot.texture with
  | some kept => kept.texture.width ≠ tex.width || kept.texture.height ≠ tex.height
  | none => false

scoped instance twoSlots : NeZero 2 := ⟨by decide⟩

/-- `inits` counts the successful initialisations; `streak` is an `int` in the source. -/
structure Source where
  capture : Option Capture
  streak : Nat
  wgcStaging : Fin 2 → StagingSlot
  wgcWriteIdx : Fin 2
  inits : Nat

inductive SourceState where
  | uninitialized
  | running
  | needsReinit
  deriving DecidableEq

def kNullStreakReinitThreshold : Nat := 60

structure InitOutcome where
  ok : Bool
  width : UInt32
  height : UInt32
  sameAdapter : Bool
  deriving DecidableEq

/-- `IScreenCapture::create` and a successful `init`, when `devices` devices exist;
WGC is preferred where the system has it. -/
def createCapture (wgcSupported : Bool) (devices : Nat) (outcome : InitOutcome) : Capture :=
  if wgcSupported then .wgc devices outcome.width outcome.height
  else .dxgi devices (devices + 1) outcome.sameAdapter outcome.width outcome.height

/-- The number of devices after `createCapture`. -/
def devicesAfter (wgcSupported : Bool) (devices : Nat) : Nat :=
  if wgcSupported then devices + 1 else devices + 2

theorem isWgc_createCapture (wgcSupported : Bool) (devices : Nat) (outcome : InitOutcome) :
    (createCapture wgcSupported devices outcome).isWgc = wgcSupported := by
  cases wgcSupported <;> rfl

/-- A capture is created on devices that did not exist before. -/
theorem devices_le_createCapture (wgcSupported : Bool) (devices : Nat)
    (outcome : InitOutcome) :
    devices ≤ (createCapture wgcSupported devices outcome).device ∧
      devices ≤ (createCapture wgcSupported devices outcome).frameDevice := by
  cases wgcSupported <;> cases adapters : outcome.sameAdapter <;>
    simp [createCapture, Capture.device, Capture.frameDevice, adapters]

theorem createCapture_lt_devicesAfter (wgcSupported : Bool) (devices : Nat)
    (outcome : InitOutcome) :
    (createCapture wgcSupported devices outcome).device < devicesAfter wgcSupported devices ∧
      (createCapture wgcSupported devices outcome).frameDevice <
        devicesAfter wgcSupported devices := by
  cases wgcSupported <;> cases adapters : outcome.sameAdapter <;>
    simp [createCapture, devicesAfter, Capture.device, Capture.frameDevice, adapters]

theorem devices_le_devicesAfter (wgcSupported : Bool) (devices : Nat) :
    devices ≤ devicesAfter wgcSupported devices := by
  cases wgcSupported <;> simp [devicesAfter]

inductive UseKind where
  | encode
  | copyTarget
  | map
  deriving DecidableEq

/-- A use of a texture, with `metadata().device` at that moment. -/
structure Use where
  kind : UseKind
  texture : Texture
  current : Option Device
  deriving DecidableEq

/-- The results of the calls of `emit_wgc_preview`. -/
structure EmitOutcome where
  createTexture : Fin 2 → Bool
  map : Bool

namespace Source

def initial : Source where
  capture := none
  streak := 0
  wgcStaging := fun _ => ⟨none, false⟩
  wgcWriteIdx := 0
  inits := 0

def init (s : Source) (wgcSupported : Bool) (devices : Nat) (outcome : InitOutcome) :
    Source × Bool :=
  if outcome.ok then
    ({ s with
      capture := some (createCapture wgcSupported devices outcome)
      streak := 0
      inits := s.inits + 1 }, true)
  else ({ s with capture := none }, false)

def shutdown (s : Source) : Source := { s with capture := none }

def device (s : Source) : Option Device := s.capture.map Capture.device

def isDxgi (s : Source) : Bool :=
  match s.capture with
  | some capture => !capture.isWgc
  | none => false

def isWgc (s : Source) : Bool :=
  match s.capture with
  | some capture => capture.isWgc
  | none => false

def state (s : Source) : SourceState :=
  if s.capture = none then .uninitialized
  else if kNullStreakReinitThreshold ≤ s.streak then .needsReinit
  else .running

/-- `next_frame` of a source with a capture; `desc` is the description of the
frame that arrived, if one did. -/
def nextFrame (s : Source) (capture : Capture) (desc : Option (UInt32 × UInt32 × UInt32)) :
    Source × Option Kept :=
  match desc with
  | some (width, height, format) =>
      ({ s with streak := 0 }, some ⟨⟨capture.frameDevice, width, height, format⟩, s.inits⟩)
  | none => ({ s with streak := s.streak + 1 }, none)

/-- The ring after the size check: both slots go when one has another size. -/
def checkedStaging (s : Source) (tex : Texture) : Fin 2 → StagingSlot :=
  if (s.wgcStaging 0).resized tex || (s.wgcStaging 1).resized tex then
    fun _ => ⟨none, false⟩
  else s.wgcStaging

/-- Missing slots are created on the device of `tex`. -/
def filledStaging (s : Source) (tex : Kept) (outcome : EmitOutcome) : Fin 2 → StagingSlot :=
  fun i =>
    let slot := s.checkedStaging tex.texture i
    if slot.texture = none ∧ outcome.createTexture i = true then
      { slot with texture := some tex }
    else slot

/-- `emit_wgc_preview`: copy into one slot, map the other. -/
def emitWgcPreview (s : Source) (tex : Kept) (outcome : EmitOutcome) :
    Source × List Use × Bool :=
  let staging := s.filledStaging tex outcome
  let w := s.wgcWriteIdx
  let r := w + 1
  match (staging w).texture, (staging r).texture with
  | some target, some earlier =>
      let written := { staging w with valid := true }
      let mapped := (staging r).valid
      ({ s with
        wgcStaging := fun i => if i = w then written else staging i
        wgcWriteIdx := r },
      ⟨.copyTarget, target.texture, s.device⟩ ::
        (if mapped then [⟨.map, earlier.texture, s.device⟩] else []),
      mapped && outcome.map)
  | _, _ => ({ s with wgcStaging := staging }, [], false)

end Source

/-- `ReinitTriggerPolicy`: one trigger on entering `needsReinit`, then one in every
`kRearmPeriodFrames` frames. -/
structure ReinitTriggerPolicy where
  wasNeedsReinit : Bool
  framesSinceTrigger : Nat
  deriving DecidableEq

def kRearmPeriodFrames : Nat := kNullStreakReinitThreshold

def ReinitTriggerPolicy.onState (policy : ReinitTriggerPolicy) (state : SourceState) :
    ReinitTriggerPolicy × Bool :=
  if state ≠ .needsReinit then (⟨false, 0⟩, false)
  else if policy.wasNeedsReinit = false then (⟨true, 0⟩, true)
  else if kRearmPeriodFrames ≤ policy.framesSinceTrigger + 1 then (⟨true, 0⟩, true)
  else (⟨true, policy.framesSinceTrigger + 1⟩, false)

end RejiStudio.Recovery
