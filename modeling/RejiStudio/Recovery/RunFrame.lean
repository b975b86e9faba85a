import RejiStudio.Lib.Machine
import RejiStudio.Recovery.RecoveryCoordinator

/-!
# The frame loop

`Pipeline::run_frame` as far as it touches source, encoder and the two texture
caches: the copy that null ticks repeat and the staging ring of the preview.  A tick
carries everything that the platform decides in it.
-/

namespace RejiStudio.Recovery

open RejiStudio.Lib

/-- The part of `Pipeline::Impl` that `run_frame` carries from tick to tick. -/
structure Impl where
  sub : Subsystems
  repeatTex : Option Kept
  reinitTrigger : ReinitTriggerPolicy
  previewSeq : UInt32
  fps : UInt32

/-- What happens around one call of `run_frame`: devices that are removed before it,
the callback and the bitrate in force, the frame that arrives, and the results of the
calls that are made. -/
structure Tick where
  lost : List Device
  previewCb : Bool
  bitrateKbps : UInt32
  frame : Option (UInt32 × UInt32 × UInt32)
  copyTexture : Bool
  copyContext : Bool
  encode : Bool
  recovery : RecoveryOutcome
  emit : EmitOutcome

/-- The textures that a tick used, what `handle_device_lost` returned if it was
called, and what `run_frame` returned. -/
structure Report where
  uses : List Use
  recovery : Option Bool
  ran : Bool

namespace Source

theorem emitWgcPreview_capture (s : Source) (tex : Kept) (outcome : EmitOutcome) :
    (s.emitWgcPreview tex outcome).1 =
      { s with
        wgcStaging := (s.emitWgcPreview tex outcome).1.wgcStaging
        wgcWriteIdx := (s.emitWgcPreview tex outcome).1.wgcWriteIdx } := by
  simp only [emitWgcPreview]
  split <;> rfl

theorem emitWgcPreview_streak (s : Source) (tex : Kept) (outcome : EmitOutcome) :
    (s.emitWgcPreview tex outcome).1.streak = s.streak := by
  rw [emitWgcPreview_capture]

end Source

/-- The same capture, encoder and devices; a preview or another null frame makes no
difference to that. -/
structure Subsystems.Like (sub other : Subsystems) : Prop where
  capture : other.source.capture = sub.source.capture
  inits : other.source.inits = sub.source.inits
  encoder : other.encoder = sub.encoder
  devices : other.devices = sub.devices
  removed : other.removed = sub.removed
  wgcSupported : other.wgcSupported = sub.wgcSupported

theorem Subsystems.Like.refl (sub : Subsystems) : sub.Like sub :=
  ⟨rfl, rfl, rfl, rfl, rfl, rfl⟩

theorem Subsystems.Like.trans {first second third : Subsystems} (one : first.Like second)
    (two : second.Like third) : first.Like third where
  capture := two.capture.trans one.capture
  inits := two.inits.trans one.inits
  encoder := two.encoder.trans one.encoder
  devices := two.devices.trans one.devices
  removed := two.removed.trans one.removed
  wgcSupported := two.wgcSupported.trans one.wgcSupported

def healthyTick (lost : List Device) (frame : Option (UInt32 × UInt32 × UInt32))
    (encode : Bool) : Tick where
  lost := lost
  previewCb := true
  bitrateKbps := 6000
  frame := frame
  copyTexture := true
  copyContext := true
  encode := encode
  recovery := ⟨⟨true, 1920, 1080, false⟩, true⟩
  emit := ⟨fun _ => true, true⟩

namespace Impl

def init (wgcSupported : Bool) (fps bitrateKbps : UInt32) (outcome : RecoveryOutcome) :
    Option Impl :=
  (Subsystems.startup wgcSupported fps bitrateKbps outcome).map fun sub =>
    { sub, repeatTex := none, reinitTrigger := ⟨false, 0⟩, previewSeq := 0, fps }

def withLost (s : Impl) (lost : List Device) : Impl :=
  { s with sub := { s.sub with removed := lost ++ s.sub.removed } }

/-- `copy_for_repeat`: the kept copy afterwards and the copy to encode.  The
comparison is of size, format and device, all there is to a `Texture`. -/
def copyForRepeat (s : Impl) (tick : Tick) (tex : Kept) : Option Kept × Option Kept :=
  let kept := s.repeatTex.filter fun kept => kept.texture = tex.texture
  let created := if kept = none ∧ tick.copyTexture = true then some tex else kept
  (created, if tick.copyContext then created else none)

/-- The call of `handle_device_lost`. -/
def recover (s : Impl) (tick : Tick) : Impl × Bool :=
  match s.sub.handleDeviceLost s.fps tick.bitrateKbps tick.recovery with
  | (sub, recovered) => ({ s with sub := sub }, recovered)

/-- `encode_frame`, which takes a missing encoder as success, and the recovery after
a failure. -/
def encodeFrame (s : Impl) (tick : Tick) (tex : Texture) : Impl × Report :=
  let use : Use := ⟨.encode, tex, s.sub.source.device⟩
  if s.sub.encoder.isNone || tick.encode then (s, ⟨[use], none, true⟩)
  else
    match s.recover tick with
    | (s, recovered) => (s, ⟨[use], some recovered, true⟩)

def preview (s : Impl) (tick : Tick) (tex : Kept) : Impl × List Use :=
  if tick.previewCb && s.sub.source.isWgc then
    if s.previewSeq % 2 = 0 then
      match s.sub.source.emitWgcPreview tex tick.emit with
      | (source, uses, _) =>
          ({ s with sub := { s.sub with source := source }
                    previewSeq := s.previewSeq + 1 }, uses)
    else ({ s with previewSeq := s.previewSeq + 1 }, [])
  else (s, [])

/-- The branch of `run_frame` with a frame. -/
def freshFrame (s : Impl) (tick : Tick) (tex : Kept) : Impl × Report :=
  match s.copyForRepeat tick tex with
  | (kept, copy) =>
      let copied := copy.toList.map fun copy => ⟨.copyTarget, copy.texture, s.sub.source.device⟩
      match { s with repeatTex := kept }.encodeFrame tick (copy.getD tex).texture with
      | (s, report) =>
          match s.preview tick tex with
          | (s, shown) => (s, { report with uses := copied ++ report.uses ++ shown })

def repeatFrame (s : Impl) (tick : Tick) : Impl × Report :=
  match s.repeatTex with
  | some kept => s.encodeFrame tick kept.texture
  | none => (s, ⟨[], none, true⟩)

/-- The branch of `run_frame` without a frame: a lost capture is recovered unless a
recovery was tried in this tick. -/
def nullFrame (s : Impl) (tick : Tick) (reinitEdge : Bool) : Impl × Report :=
  match s.repeatFrame tick with
  | (s, report) =>
      if reinitEdge && report.recovery.isNone then
        match s.recover tick with
        | (s, recovered) => (s, { report with recovery := some recovered })
      else (s, report)

/-- The state after `next_frame` and the trigger, with the frame and the edge. -/
def captured (s : Impl) (capture : Capture) (tick : Tick) : Impl × Option Kept × Bool :=
  match s.sub.source.nextFrame capture tick.frame with
  | (source, frame) =>
      match s.reinitTrigger.onState source.state with
      | (trigger, reinitEdge) =>
          ({ s with sub := { s.sub with source := source }, reinitTrigger := trigger },
            frame, reinitEdge)

def runFrame (s : Impl) (tick : Tick) : Impl × Report :=
  let s := s.withLost tick.lost
  match s.sub.source.capture with
  | none => (s, ⟨[], none, false⟩)
  | some capture =>
      match s.captured capture tick with
      | (s, some tex, _) => s.freshFrame tick tex
      | (s, none, reinitEdge) => s.nullFrame tick reinitEdge

/-- The frame loop as a machine; only a device that exists can be removed. -/
def step : Machine Impl Tick := fun s tick =>
  if ∀ device ∈ tick.lost, device < s.sub.devices then some (s.runFrame tick).1 else none

theorem step_eq_some {s next : Impl} {tick : Tick} (stepped : step s tick = some next) :
    (∀ device ∈ tick.lost, device < s.sub.devices) ∧ (s.runFrame tick).1 = next := by
  obtain ⟨known, ran⟩ := Option.ite_none_right_eq_some.mp stepped
  exact ⟨known, Option.some.inj ran⟩

theorem captured_state (s : Impl) (capture : Capture) (tick : Tick) :
    (s.captured capture tick).1 =
      { s with
        sub := { s.sub with
          source := { s.sub.source with
            streak := (s.captured capture tick).1.sub.source.streak } }
        reinitTrigger := (s.captured capture tick).1.reinitTrigger } := by
  cases arrived : tick.frame <;> simp [captured, Source.nextFrame, arrived]

theorem runFrame_down (s : Impl) (tick : Tick) (down : s.sub.source.capture = none) :
    s.runFrame tick = (s.withLost tick.lost, ⟨[], none, false⟩) := by
  simp [runFrame, withLost, down]

theorem runFrame_fresh (s : Impl) (tick : Tick) {capture : Capture} {width height format : UInt32}
    (held : s.sub.source.capture = some capture)
    (arrived : tick.frame = some (width, height, format)) :
    s.runFrame tick = ((s.withLost tick.lost).captured capture tick).1.freshFrame tick
      ⟨⟨capture.frameDevice, width, height, format⟩, s.sub.source.inits⟩ := by
  simp [runFrame, withLost, held, captured, Source.nextFrame, arrived]

theorem runFrame_null (s : Impl) (tick : Tick) {capture : Capture}
    (held : s.sub.source.capture = some capture) (absent : tick.frame = none) :
    s.runFrame tick = ((s.withLost tick.lost).captured capture tick).1.nullFrame tick
      ((s.withLost tick.lost).captured capture tick).2.2 := by
  simp [runFrame, withLost, held, captured, Source.nextFrame, absent]

theorem captured_like (s : Impl) (capture : Capture) (tick : Tick) :
    s.sub.Like (s.captured capture tick).1.sub := by
  rw [captured_state]
  exact ⟨rfl, rfl, rfl, rfl, rfl, rfl⟩

theorem preview_like (s : Impl) (tick : Tick) (tex : Kept) :
    s.sub.Like (s.preview tick tex).1.sub := by
  simp only [preview]
  split
  · split
    · rw [Source.emitWgcPreview_capture]
      exact ⟨rfl, rfl, rfl, rfl, rfl, rfl⟩
    · exact ⟨rfl, rfl, rfl, rfl, rfl, rfl⟩
  · exact ⟨rfl, rfl, rfl, rfl, rfl, rfl⟩

/-- Without an encoder, or when it takes the frame, nothing else happens. -/
theorem encodeFrame_of_ok (s : Impl) (tick : Tick) (tex : Texture)
    (ok : (s.sub.encoder.isNone || tick.encode) = true) :
    s.encodeFrame tick tex = (s, ⟨[⟨.encode, tex, s.sub.source.device⟩], none, true⟩) := by
  simp only [encodeFrame, ok, if_true]

theorem encodeFrame_of_failed (s : Impl) (tick : Tick) (tex : Texture)
    (failed : (s.sub.encoder.isNone || tick.encode) = false) :
    s.encodeFrame tick tex =
      ((s.recover tick).1,
        ⟨[⟨.encode, tex, s.sub.source.device⟩], some (s.recover tick).2, true⟩) := by
  simp [encodeFrame, failed]

theorem encodeFrame_uses (s : Impl) (tick : Tick) (tex : Texture) :
    (s.encodeFrame tick tex).2.uses = [⟨.encode, tex, s.sub.source.device⟩] := by
  cases result : s.sub.encoder.isNone || tick.encode with
  | true => rw [encodeFrame_of_ok _ _ _ result]
  | false => rw [encodeFrame_of_failed _ _ _ result]

theorem nullFrame_cases (s : Impl) (tick : Tick) (reinitEdge : Bool) :
    (s.nullFrame tick reinitEdge).2.uses = (s.repeatFrame tick).2.uses ∧
      (((s.nullFrame tick reinitEdge).1 = s ∧
          (s.nullFrame tick reinitEdge).2.recovery = none) ∨
        ((s.nullFrame tick reinitEdge).1 = (s.recover tick).1 ∧
          (s.nullFrame tick reinitEdge).2.recovery = some (s.recover tick).2)) := by
  have repeated : (s.repeatFrame tick).1 = s ∧ (s.repeatFrame tick).2.recovery = none ∨
      (s.repeatFrame tick).1 = (s.recover tick).1 ∧
        (s.repeatFrame tick).2.recovery = some (s.recover tick).2 := by
    cases kept : s.repeatTex with
    | none => simp [repeatFrame, kept]
    | some kept' =>
        cases result : s.sub.encoder.isNone || tick.encode with
        | true => simp [repeatFrame, kept, encodeFrame_of_ok _ _ _ result]
        | false => simp [repeatFrame, kept, encodeFrame_of_failed _ _ _ result]
  obtain ⟨same, untried⟩ | ⟨recovered, tried⟩ := repeated
  · cases reinitEdge with
    | true => simp [nullFrame, same, untried]
    | false => simp [nullFrame, same, untried]
  · simp [nullFrame, recovered, tried]

theorem freshFrame_cases (s : Impl) (tick : Tick) (tex : Kept) :
    let copied := { s with repeatTex := (s.copyForRepeat tick tex).1 }
    ((s.freshFrame tick tex).2.recovery = none ∧
        s.sub.Like (s.freshFrame tick tex).1.sub) ∨
      ((s.freshFrame tick tex).2.recovery = some (copied.recover tick).2 ∧
        (copied.recover tick).1.sub.Like (s.freshFrame tick tex).1.sub) := by
  intro copied
  cases result : s.sub.encoder.isNone || tick.encode with
  | true =>
      left
      have encoded := copied.encodeFrame_of_ok tick ((s.copyForRepeat tick tex).2.getD tex).texture
        result
      simp only [freshFrame]
      rw [encoded]
      exact ⟨rfl, copied.preview_like tick tex⟩
  | false =>
      right
      have encoded := copied.encodeFrame_of_failed tick
        ((s.copyForRepeat tick tex).2.getD tex).texture result
      simp only [freshFrame]
      rw [encoded]
      exact ⟨rfl, (copied.recover tick).1.preview_like tick tex⟩

/-- What a tick does to source and encoder: nothing, or one recovery. -/
theorem runFrame_sub (s : Impl) (tick : Tick) :
    ((s.runFrame tick).2.recovery = none ∧
        (s.withLost tick.lost).sub.Like (s.runFrame tick).1.sub) ∨
      ∃ before : Impl, (s.withLost tick.lost).sub.Like before.sub ∧
        (s.runFrame tick).2.recovery = some (before.recover tick).2 ∧
        (before.recover tick).1.sub.Like (s.runFrame tick).1.sub := by
  cases held : s.sub.source.capture with
  | none =>
      left
      rw [s.runFrame_down tick held]
      exact ⟨rfl, rfl, rfl, rfl, rfl, rfl, rfl⟩
  | some capture =>
      have like := (s.withLost tick.lost).captured_like capture tick
      cases arrived : tick.frame with
      | none =>
          rw [s.runFrame_null tick held arrived]
          obtain ⟨-, ⟨same, untried⟩ | ⟨recovered, tried⟩⟩ := nullFrame_cases _ tick _
          · left
            rw [same]
            exact ⟨untried, like⟩
          · right
            refine ⟨_, like, tried, ?_⟩
            rw [recovered]
            exact Subsystems.Like.refl _
      | some desc =>
          obtain ⟨width, height, format⟩ := desc
          rw [s.runFrame_fresh tick held arrived]
          obtain ⟨untried, same⟩ | ⟨tried, recovered⟩ := freshFrame_cases _ tick _
          · exact Or.inl ⟨untried, like.trans same⟩
          · exact Or.inr ⟨_, ⟨like.capture, like.inits, like.encoder, like.devices,
              like.removed, like.wgcSupported⟩, tried, recovered⟩

/-! ## The streak -/

theorem recover_streak_le (s : Impl) (tick : Tick) :
    (s.recover tick).1.sub.source.streak ≤ s.sub.source.streak := by
  have result : (s.recover tick).1.sub =
      (s.sub.handleDeviceLost s.fps tick.bitrateKbps tick.recovery).1 := rfl
  rw [result]
  obtain ⟨unchanged, -⟩ | ⟨capture, -, -, failed | rebuilt | followed⟩ :=
    s.sub.handleDeviceLost_cases s.fps tick.bitrateKbps tick.recovery
  · rw [unchanged]
  · rw [failed.2]
    exact Nat.le_refl _
  · rw [rebuilt.2.2]
    exact Nat.zero_le _
  · rw [followed.2.2]
    exact Nat.zero_le _

theorem encodeFrame_streak_le (s : Impl) (tick : Tick) (tex : Texture) :
    (s.encodeFrame tick tex).1.sub.source.streak ≤ s.sub.source.streak := by
  cases result : s.sub.encoder.isNone || tick.encode with
  | true =>
      rw [encodeFrame_of_ok _ _ _ result]
  | false =>
      rw [encodeFrame_of_failed _ _ _ result]
      exact recover_streak_le s tick

theorem preview_streak (s : Impl) (tick : Tick) (tex : Kept) :
    (s.preview tick tex).1.sub.source.streak = s.sub.source.streak := by
  unfold preview
  split
  case isTrue =>
      split
      case isTrue => exact s.sub.source.emitWgcPreview_streak tex tick.emit
      case isFalse => rfl
  case isFalse => rfl

theorem freshFrame_streak_le (s : Impl) (tick : Tick) (tex : Kept) :
    (s.freshFrame tick tex).1.sub.source.streak ≤ s.sub.source.streak := by
  unfold freshFrame
  dsimp only
  rw [preview_streak]
  exact encodeFrame_streak_le { s with repeatTex := (s.copyForRepeat tick tex).1 } tick _

theorem nullFrame_streak_le (s : Impl) (tick : Tick) (reinitEdge : Bool) :
    (s.nullFrame tick reinitEdge).1.sub.source.streak ≤ s.sub.source.streak := by
  obtain ⟨-, ⟨unchanged, -⟩ | ⟨recovered, -⟩⟩ := s.nullFrame_cases tick reinitEdge
  · rw [unchanged]
  · rw [recovered]
    exact recover_streak_le s tick

theorem captured_streak_le (s : Impl) (capture : Capture) (tick : Tick) :
    (s.captured capture tick).1.sub.source.streak ≤ s.sub.source.streak + 1 := by
  cases arrived : tick.frame <;> simp [captured, Source.nextFrame, arrived]

theorem runFrame_streak_le (s : Impl) (tick : Tick) :
    (s.runFrame tick).1.sub.source.streak ≤ s.sub.source.streak + 1 := by
  cases held : s.sub.source.capture with
  | none =>
      rw [runFrame_down s tick held]
      exact Nat.le_succ _
  | some capture =>
      have counted := (s.withLost tick.lost).captured_streak_le capture tick
      cases arrived : tick.frame with
      | none =>
          rw [runFrame_null s tick held arrived]
          exact Nat.le_trans (nullFrame_streak_le _ tick _) counted
      | some desc =>
          obtain ⟨width, height, format⟩ := desc
          rw [runFrame_fresh s tick held arrived]
          exact Nat.le_trans (freshFrame_streak_le _ tick _) counted

theorem step_streak_le (s : Impl) (tick : Tick) (next : Impl) (stepped : step s tick = some next) :
    next.sub.source.streak ≤ s.sub.source.streak + 1 := by
  obtain ⟨-, rfl⟩ := step_eq_some stepped
  exact runFrame_streak_le s tick

/-- The `int` of the source counts every null frame of fewer than 2^31 ticks. -/
theorem streak_defined {wgcSupported : Bool} {fps bitrateKbps : UInt32} {outcome : RecoveryOutcome}
    {start finish : Impl} (started : init wgcSupported fps bitrateKbps outcome = some start)
    {ticks : List Tick} (executed : Machine.exec step start ticks = some finish)
    (short : ticks.length < 2147483648) : finish.sub.source.streak < 2147483648 := by
  have counted : finish.sub.source.streak ≤ start.sub.source.streak + ticks.length :=
    Machine.exec_measure_le step_streak_le executed
  have fresh : start.sub.source.streak = 0 := by
    rw [init, Subsystems.startup_eq] at started
    split at started
    · cases started
      rfl
    · cases started
  omega

end Impl

end RejiStudio.Recovery
