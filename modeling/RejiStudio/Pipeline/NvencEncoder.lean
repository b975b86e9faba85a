import RejiStudio.Lib.Machine
import RejiStudio.Pipeline.ActionEncoding

/-!
# The setters of the encoder

`set_bitrate`, `set_resolution` and `set_fps_limit` edit the saved parameters and hand all
of them to `nvEncReconfigureEncoder`.  Whether the driver takes them is a choice of the
environment.
-/

namespace RejiStudio.Pipeline

open RejiStudio.Lib

/-- The part of `NvencEncoder::Config` that the setters work with. -/
structure NvencConfig where
  width : UInt32
  height : UInt32
  fpsNum : UInt32
  fpsDen : UInt32
  bitrateKbps : UInt32
  maxBitrateKbps : UInt32
  deriving DecidableEq

/-- `rcParams` of `NV_ENC_CONFIG`. -/
structure RcParams where
  averageBitRate : UInt32
  maxBitRate : UInt32
  vbvBufferSize : UInt32
  vbvInitialDelay : UInt32
  deriving DecidableEq

structure InitializeParams where
  encodeWidth : UInt32
  encodeHeight : UInt32
  maxEncodeWidth : UInt32
  maxEncodeHeight : UInt32
  darWidth : UInt32
  darHeight : UInt32
  frameRateNum : UInt32
  frameRateDen : UInt32
  deriving DecidableEq

/-- The state of an encoder.  `accepted` is history: the parameters that the driver took
last. -/
structure NvencEncoder where
  config : NvencConfig
  savedCfg : RcParams
  savedInit : InitializeParams
  origWidth : UInt32
  origHeight : UInt32
  initialized : Bool
  accepted : RcParams × InitializeParams
  deriving DecidableEq

def vbvBits (bitrateKbps : UInt32) : UInt32 := bitrateKbps * 1000

/-- The rates that `set_bitrate` saves. -/
def RcParams.ofKbps (kbps : UInt32) : RcParams where
  averageBitRate := kbps * 1000
  maxBitRate := kbps * 1000
  vbvBufferSize := vbvBits kbps
  vbvInitialDelay := vbvBits kbps

abbrev Scaling := UInt32 → Rat → UInt32

def singleScaling : Scaling := fun dimension scale =>
  UInt32.ofNat (single (single dimension.toNat * scale)).floor.toNat

def exactScaling : Scaling := fun dimension scale =>
  UInt32.ofNat (dimension.toNat * scale).floor.toNat

namespace NvencEncoder

/-- `NvencEncoder::init` with a driver that is there; `accepts` is the answer of
`nvEncInitializeEncoder` and of what comes behind it. -/
def init (cfg : NvencConfig) (accepts : Bool) : Option NvencEncoder :=
  if cfg.fpsNum = 0 then none else
  let savedCfg : RcParams :=
    { averageBitRate := cfg.bitrateKbps * 1000
      maxBitRate := cfg.maxBitrateKbps * 1000
      vbvBufferSize := vbvBits cfg.bitrateKbps
      vbvInitialDelay := vbvBits cfg.bitrateKbps }
  let savedInit : InitializeParams :=
    { encodeWidth := cfg.width
      encodeHeight := cfg.height
      maxEncodeWidth := cfg.width
      maxEncodeHeight := cfg.height
      darWidth := cfg.width
      darHeight := cfg.height
      frameRateNum := cfg.fpsNum
      frameRateDen := cfg.fpsDen }
  if accepts then
    some
      { config := cfg
        savedCfg := savedCfg
        savedInit := savedInit
        origWidth := cfg.width
        origHeight := cfg.height
        initialized := true
        accepted := (savedCfg, savedInit) }
  else none

/-- `nvEncReconfigureEncoder` takes the saved parameters as a whole. -/
def reconfigured (e : NvencEncoder) : NvencEncoder :=
  { e with accepted := (e.savedCfg, e.savedInit) }

def setBitrate (e : NvencEncoder) (kbps : UInt32) (accepts : Bool) : Bool × NvencEncoder :=
  if e.initialized = false then (false, e) else
  let edited := { e with savedCfg := .ofKbps kbps }
  if accepts then
    let taken := edited.reconfigured
    (true, { taken with config := { taken.config with bitrateKbps := kbps } })
  else (false, edited)

def setResolution (scaling : Scaling) (e : NvencEncoder) (scaleFactor : Rat) (accepts : Bool) :
    Bool × NvencEncoder :=
  if e.initialized = false ∨ scaleFactor ≤ 0 then (false, e) else
  let newWidth := scaling e.origWidth scaleFactor
  let newHeight := scaling e.origHeight scaleFactor
  if newWidth < 128 ∨ newHeight < 128 then (false, e) else
  let (newWidth, newHeight) :=
    if newWidth > e.origWidth ∨ newHeight > e.origHeight then (e.origWidth, e.origHeight)
    else (newWidth, newHeight)
  let edited := { e with
    savedInit := { e.savedInit with
      encodeWidth := newWidth
      encodeHeight := newHeight
      maxEncodeWidth := e.origWidth
      maxEncodeHeight := e.origHeight } }
  if accepts then
    let taken := edited.reconfigured
    (true, { taken with config := { taken.config with width := newWidth, height := newHeight } })
  else (false, edited)

/-- The limit is written into `config` before the driver is asked. -/
def setFpsLimit (e : NvencEncoder) (fps : UInt32) (accepts : Bool) : Bool × NvencEncoder :=
  if e.initialized = false ∨ fps < 1 ∨ 120 < fps then (false, e) else
  let edited := { e with
    config := { e.config with fpsNum := fps }
    savedInit := { e.savedInit with frameRateNum := fps, frameRateDen := 1 } }
  if accepts then (true, edited.reconfigured) else (false, edited)

def perform (scaling : Scaling) (e : NvencEncoder) (op : EncoderOperation) (accepts : Bool) :
    Bool × NvencEncoder :=
  match op with
  | .setBitrate kbps => e.setBitrate kbps accepts
  | .setResolution scale => setResolution scaling e scale accepts
  | .setFpsLimit fps => e.setFpsLimit fps accepts

def step (scaling : Scaling) : Machine NvencEncoder (EncoderOperation × Bool)
  | e, (op, accepts) => some (e.perform scaling op accepts).2

/-! ## What a call does -/

def targetSize (scaling : Scaling) (e : NvencEncoder) (scale : Rat) : UInt32 × UInt32 :=
  if scaling e.origWidth scale > e.origWidth ∨ scaling e.origHeight scale > e.origHeight then
    (e.origWidth, e.origHeight)
  else
    (scaling e.origWidth scale, scaling e.origHeight scale)

def Reaches (scaling : Scaling) (e : NvencEncoder) : EncoderOperation → Prop
  | .setBitrate _ => e.initialized = true
  | .setResolution scale => e.initialized = true ∧ 0 < scale ∧
      128 ≤ scaling e.origWidth scale ∧ 128 ≤ scaling e.origHeight scale
  | .setFpsLimit fps => e.initialized = true ∧ 1 ≤ fps ∧ fps ≤ 120

def Saved (scaling : Scaling) (e : NvencEncoder) : EncoderOperation → Prop
  | .setBitrate kbps => e.savedCfg = .ofKbps kbps
  | .setResolution scale =>
      (e.savedInit.encodeWidth, e.savedInit.encodeHeight) = e.targetSize scaling scale ∧
        e.savedInit.maxEncodeWidth = e.origWidth ∧ e.savedInit.maxEncodeHeight = e.origHeight
  | .setFpsLimit fps =>
      e.config.fpsNum = fps ∧ e.savedInit.frameRateNum = fps ∧ e.savedInit.frameRateDen = 1

def edited (scaling : Scaling) (e : NvencEncoder) : EncoderOperation → NvencEncoder
  | .setBitrate kbps => { e with savedCfg := .ofKbps kbps }
  | .setResolution scale =>
      { e with savedInit := { e.savedInit with
          encodeWidth := (e.targetSize scaling scale).1
          encodeHeight := (e.targetSize scaling scale).2
          maxEncodeWidth := e.origWidth
          maxEncodeHeight := e.origHeight } }
  | .setFpsLimit fps =>
      { e with
        config := { e.config with fpsNum := fps }
        savedInit := { e.savedInit with frameRateNum := fps, frameRateDen := 1 } }

def recorded (scaling : Scaling) (e : NvencEncoder) : EncoderOperation → NvencConfig
  | .setBitrate kbps => { e.config with bitrateKbps := kbps }
  | .setResolution scale =>
      { e.config with
        width := (e.targetSize scaling scale).1
        height := (e.targetSize scaling scale).2 }
  | .setFpsLimit fps => { e.config with fpsNum := fps }

theorem perform_cases (scaling : Scaling) (e : NvencEncoder) (op : EncoderOperation)
    (accepts : Bool) :
    (¬e.Reaches scaling op ∧ e.perform scaling op accepts = (false, e)) ∨
    (e.Reaches scaling op ∧ accepts = false ∧
      e.perform scaling op accepts = (false, e.edited scaling op)) ∨
    (e.Reaches scaling op ∧ accepts = true ∧
      e.perform scaling op accepts =
        (true, { (e.edited scaling op).reconfigured with config := e.recorded scaling op })) := by
  cases op with
  | setBitrate kbps =>
      dsimp only [perform]
      unfold setBitrate
      split
      next blank => exact .inl ⟨by simp [Reaches, blank], rfl⟩
      next ready =>
        have reaches : e.Reaches scaling (.setBitrate kbps) :=
          Bool.eq_true_of_not_eq_false ready
        cases accepts with
        | false => exact .inr (.inl ⟨reaches, rfl, rfl⟩)
        | true => exact .inr (.inr ⟨reaches, rfl, rfl⟩)
  | setResolution scale =>
      dsimp only [perform]
      unfold setResolution
      split
      next blank =>
        refine .inl ⟨?_, rfl⟩
        rintro ⟨ready, positive, -⟩
        rcases blank with blank | negative
        · rw [ready] at blank
          cases blank
        · exact absurd positive (Rat.not_lt.mpr negative)
      next ready =>
        dsimp only
        split
        next small =>
          refine .inl ⟨?_, rfl⟩
          rintro ⟨-, -, wide, high⟩
          rcases small with narrow | low
          · exact absurd wide (UInt32.not_le.mpr narrow)
          · exact absurd high (UInt32.not_le.mpr low)
        next large =>
          simp only [not_or, Bool.not_eq_false, Rat.not_le, UInt32.not_lt] at ready large
          have reaches : e.Reaches scaling (.setResolution scale) :=
            ⟨ready.1, ready.2, large.1, large.2⟩
          cases accepts with
          | false => exact .inr (.inl ⟨reaches, rfl, rfl⟩)
          | true => exact .inr (.inr ⟨reaches, rfl, rfl⟩)
  | setFpsLimit fps =>
      dsimp only [perform]
      unfold setFpsLimit
      split
      next blank =>
        refine .inl ⟨?_, rfl⟩
        rintro ⟨ready, least, most⟩
        rcases blank with blank | below | above
        · rw [ready] at blank
          cases blank
        · exact absurd least (UInt32.not_le.mpr below)
        · exact absurd most (UInt32.not_le.mpr above)
      next ready =>
        simp only [not_or, Bool.not_eq_false, UInt32.not_lt] at ready
        have reaches : e.Reaches scaling (.setFpsLimit fps) := ready
        cases accepts with
        | false => exact .inr (.inl ⟨reaches, rfl, rfl⟩)
        | true => exact .inr (.inr ⟨reaches, rfl, rfl⟩)

/-- The edits change nothing exactly where their values are saved already. -/
theorem edited_unchanged_iff (scaling : Scaling) (e : NvencEncoder) (op : EncoderOperation) :
    ((e.edited scaling op).config = e.config ∧ (e.edited scaling op).savedCfg = e.savedCfg ∧
      (e.edited scaling op).savedInit = e.savedInit) ↔ e.Saved scaling op := by
  cases op with
  | setBitrate kbps =>
      dsimp only [edited, Saved]
      constructor
      · rintro ⟨-, same, -⟩
        exact same.symm
      · intro same
        exact ⟨rfl, same.symm, rfl⟩
  | setResolution scale =>
      dsimp only [edited, Saved]
      constructor
      · rintro ⟨-, -, same⟩
        rw [← same]
        exact ⟨rfl, rfl, rfl⟩
      · rintro ⟨size, maxWidth, maxHeight⟩
        refine ⟨rfl, rfl, ?_⟩
        rw [← size, ← maxWidth, ← maxHeight]
  | setFpsLimit fps =>
      dsimp only [edited, Saved]
      constructor
      · rintro ⟨sameConfig, -, sameInit⟩
        refine ⟨?_, ?_, ?_⟩
        · rw [← sameConfig]
        · rw [← sameInit]
        · rw [← sameInit]
      · rintro ⟨rfl, frameRateNum, frameRateDen⟩
        refine ⟨rfl, rfl, ?_⟩
        nth_rewrite 1 [← frameRateNum]
        rw [← frameRateDen]

/-! ## Failed calls -/

/-- A call that returns false leaves `config` and both saved structures as they are. -/
def Atomic (scaling : Scaling) (e : NvencEncoder) (call : EncoderOperation × Bool) : Prop :=
  (e.perform scaling call.1 call.2).1 = false →
    (e.perform scaling call.1 call.2).2.config = e.config ∧
      (e.perform scaling call.1 call.2).2.savedCfg = e.savedCfg ∧
      (e.perform scaling call.1 call.2).2.savedInit = e.savedInit

/-- A call that the driver refuses is turned down before, or asks for nothing new. -/
def Harmless (scaling : Scaling) (e : NvencEncoder) (call : EncoderOperation × Bool) : Prop :=
  call.2 = false → e.Reaches scaling call.1 → e.Saved scaling call.1

theorem atomic_iff (scaling : Scaling) (e : NvencEncoder) (call : EncoderOperation × Bool) :
    e.Atomic scaling call ↔ e.Harmless scaling call := by
  obtain ⟨op, accepts⟩ := call
  dsimp only [Atomic, Harmless]
  rcases e.perform_cases scaling op accepts with
    ⟨refused, outcome⟩ | ⟨reaches, rfl, outcome⟩ | ⟨-, rfl, outcome⟩
  · rw [outcome]
    exact iff_of_true (fun _ => ⟨rfl, rfl, rfl⟩) fun _ reaches => absurd reaches refused
  · rw [outcome, forall_prop_of_true rfl, forall_prop_of_true rfl, forall_prop_of_true reaches]
    exact e.edited_unchanged_iff scaling op
  · rw [outcome]
    exact iff_of_true nofun nofun

def InStep (e : NvencEncoder) : Prop := e.accepted = (e.savedCfg, e.savedInit)

theorem init_inStep {cfg : NvencConfig} {accepts : Bool} {e : NvencEncoder}
    (built : init cfg accepts = some e) : e.InStep := by
  unfold init at built
  split at built
  · cases built
  · dsimp only at built
    split at built
    · cases built
      rfl
    · cases built

/-- As long as failed calls change nothing, no later call submits what the driver refused. -/
theorem perform_inStep {scaling : Scaling} {e : NvencEncoder} {call : EncoderOperation × Bool}
    (inStep : e.InStep) (ok : e.Harmless scaling call) :
    (e.perform scaling call.1 call.2).2.InStep := by
  obtain ⟨op, accepts⟩ := call
  dsimp only [Harmless] at ok
  rcases e.perform_cases scaling op accepts with
    ⟨-, outcome⟩ | ⟨reaches, rfl, outcome⟩ | ⟨-, rfl, outcome⟩
  · rw [outcome]
    exact inStep
  · obtain ⟨-, sameCfg, sameInit⟩ := (e.edited_unchanged_iff scaling op).mpr (ok rfl reaches)
    have sameAccepted : (e.edited scaling op).accepted = e.accepted := by cases op <;> rfl
    rw [outcome, InStep, sameCfg, sameInit, sameAccepted]
    exact inStep
  · rw [outcome]
    rfl

/-- A run in which every refused call asked for nothing new ends in step with the driver. -/
theorem exec_inStep {scaling : Scaling} {start finish : NvencEncoder}
    {calls : List (EncoderOperation × Bool)} (inStep : start.InStep)
    (along : Machine.Along (step scaling) (Harmless scaling) start calls)
    (executed : Machine.exec (step scaling) start calls = some finish) : finish.InStep :=
  Machine.exec_invariant_along
    (fun _ _ _ inStep ok stepped => by
      cases stepped
      exact perform_inStep inStep ok)
    inStep along executed

end NvencEncoder

end RejiStudio.Pipeline
