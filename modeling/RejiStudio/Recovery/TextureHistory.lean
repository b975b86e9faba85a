import RejiStudio.Recovery.RunFrame

/-!
# The history of devices and textures

A texture that was made for a frame of the current initialisation lives where the
frames of the source live, and one that was made earlier lives on a device that
recovery has replaced.  That holds in every state of every run, and after a recovery
only devices that are new are in use.
-/

namespace RejiStudio.Recovery

open RejiStudio.Lib RejiStudio.Lib.Machine

namespace Subsystems

/-- The devices in use and those removed exist, and the capture is of the kind the
system has. -/
structure Sane (sub : Subsystems) : Prop where
  exist : sub.DevicesExist
  removed : ∀ device ∈ sub.removed, device < sub.devices
  kind : ∀ capture, sub.source.capture = some capture → capture.isWgc = sub.wgcSupported

/-- What the history of a kept texture says about its device. -/
structure Tracks (sub : Subsystems) (kept : Kept) : Prop where
  made : kept.madeAt ≤ sub.source.inits
  known : kept.texture.device < sub.devices
  current : ∀ capture, sub.source.capture = some capture →
    kept.madeAt = sub.source.inits → kept.texture.device = capture.frameDevice
  replaced : ∀ capture, sub.source.capture = some capture →
    kept.madeAt ≠ sub.source.inits →
    kept.texture.device ≠ capture.device ∧ kept.texture.device ≠ capture.frameDevice

variable {sub : Subsystems} {kept : Kept}

theorem Tracks.like {other : Subsystems} (tracked : sub.Tracks kept) (like : sub.Like other) :
    other.Tracks kept := by
  constructor
  · rw [like.inits]
    exact tracked.made
  · rw [like.devices]
    exact tracked.known
  · rw [like.capture, like.inits]
    exact tracked.current
  · rw [like.capture, like.inits]
    exact tracked.replaced

/-- Of a WGC source, history and device say the same. -/
theorem Tracks.device_iff (tracked : sub.Tracks kept) {capture : Capture}
    (held : sub.source.capture = some capture) (wgc : capture.isWgc = true) :
    kept.texture.device = capture.device ↔ kept.madeAt = sub.source.inits := by
  constructor
  · intro same
    by_contra differs
    exact (tracked.replaced capture held differs).1 same
  · intro current
    rw [Capture.device_eq_frameDevice_of_wgc wgc]
    exact tracked.current capture held current

theorem Sane.like {other : Subsystems} (sane : sub.Sane) (like : sub.Like other) :
    other.Sane := by
  refine ⟨⟨?_, ?_, ?_⟩, ?_, ?_⟩
  · rw [like.capture, like.devices]
    exact sane.exist.display
  · rw [like.capture, like.devices]
    exact sane.exist.capture
  · rw [like.encoder, like.devices]
    exact sane.exist.encoder
  · rw [like.removed, like.devices]
    exact sane.removed
  · rw [like.capture, like.wgcSupported]
    exact sane.kind

/-- A rebuilt source works on devices that no earlier texture lives on. -/
theorem Tracks.rebuilt (tracked : sub.Tracks kept) (outcome : InitOutcome) :
    (sub.rebuilt outcome).Tracks kept where
  made := Nat.le_succ_of_le tracked.made
  known := Nat.lt_of_lt_of_le tracked.known (devices_le_devicesAfter _ _)
  current := by
    intro capture _ sameInit
    exact absurd (sameInit ▸ tracked.made) (Nat.not_succ_le_self _)
  replaced := by
    intro capture created _
    cases created
    have new := devices_le_createCapture sub.wgcSupported sub.devices outcome
    exact ⟨Nat.ne_of_lt (Nat.lt_of_lt_of_le tracked.known new.1),
      Nat.ne_of_lt (Nat.lt_of_lt_of_le tracked.known new.2)⟩

theorem Tracks.tornDown (tracked : sub.Tracks kept) (capture : Capture) :
    (sub.tornDown capture).Tracks kept where
  made := tracked.made
  known := tracked.known
  current := by
    intro other held
    exact absurd held (by simp [Subsystems.tornDown])
  replaced := by
    intro other held
    exact absurd held (by simp [Subsystems.tornDown])

theorem Tracks.followed (tracked : sub.Tracks kept) (fps bitrateKbps : UInt32)
    (outcome : RecoveryOutcome) : (sub.followed fps bitrateKbps outcome).Tracks kept :=
  have rebuilt := tracked.rebuilt outcome.sourceInit
  ⟨rebuilt.made, rebuilt.known, rebuilt.current, rebuilt.replaced⟩

theorem Tracks.handleDeviceLost (tracked : sub.Tracks kept) (fps bitrateKbps : UInt32)
    (outcome : RecoveryOutcome) :
    (sub.handleDeviceLost fps bitrateKbps outcome).1.Tracks kept := by
  obtain ⟨unchanged, -⟩ | ⟨capture, -, -, ⟨-, failed⟩ | ⟨-, -, rebuilt⟩ | ⟨-, -, followed⟩⟩ :=
    sub.handleDeviceLost_cases fps bitrateKbps outcome
  · rwa [unchanged]
  · rw [failed]
    exact tracked.tornDown capture
  · rw [rebuilt]
    exact tracked.rebuilt outcome.sourceInit
  · rw [followed]
    exact tracked.followed fps bitrateKbps outcome

theorem Sane.rebuilt (sane : sub.Sane) (outcome : InitOutcome) : (sub.rebuilt outcome).Sane := by
  have grown := devices_le_devicesAfter sub.wgcSupported sub.devices
  have below := createCapture_lt_devicesAfter sub.wgcSupported sub.devices outcome
  refine ⟨⟨?_, ?_, ?_⟩, ?_, ?_⟩
  · rintro capture ⟨⟩
    exact below.2
  · rintro capture ⟨⟩
    exact below.1
  · intro encoder held
    exact Nat.lt_of_lt_of_le (sane.exist.encoder encoder held) grown
  · intro device lost
    exact Nat.lt_of_lt_of_le (sane.removed device lost) grown
  · rintro capture ⟨⟩
    apply isWgc_createCapture

theorem Sane.tornDown (sane : sub.Sane) (capture : Capture) : (sub.tornDown capture).Sane := by
  refine ⟨⟨?_, ?_, ?_⟩, sane.removed, ?_⟩
  · rintro other ⟨⟩
  · rintro other ⟨⟩
  · intro encoder held
    apply sane.exist.encoder encoder
    simp only [Subsystems.tornDown] at held
    split at held
    · exact held
    · cases held
  · rintro other ⟨⟩

theorem Sane.followed (sane : sub.Sane) (fps bitrateKbps : UInt32)
    (outcome : RecoveryOutcome) : (sub.followed fps bitrateKbps outcome).Sane := by
  have rebuilt := sane.rebuilt outcome.sourceInit
  refine ⟨⟨rebuilt.exist.display, rebuilt.exist.capture, ?_⟩, rebuilt.removed, rebuilt.kind⟩
  intro encoder held
  simp only [Subsystems.followed] at held
  split at held
  · cases held
    exact (createCapture_lt_devicesAfter _ _ _).1
  · cases held

theorem Sane.handleDeviceLost (sane : sub.Sane) (fps bitrateKbps : UInt32)
    (outcome : RecoveryOutcome) : (sub.handleDeviceLost fps bitrateKbps outcome).1.Sane := by
  obtain ⟨unchanged, -⟩ | ⟨capture, -, -, ⟨-, failed⟩ | ⟨-, -, rebuilt⟩ | ⟨-, -, followed⟩⟩ :=
    sub.handleDeviceLost_cases fps bitrateKbps outcome
  · rwa [unchanged]
  · rw [failed]
    exact sane.tornDown capture
  · rw [rebuilt]
    exact sane.rebuilt outcome.sourceInit
  · rw [followed]
    exact sane.followed fps bitrateKbps outcome

theorem handleDeviceLost_wgcStaging (sub : Subsystems) (fps bitrateKbps : UInt32)
    (outcome : RecoveryOutcome) :
    (sub.handleDeviceLost fps bitrateKbps outcome).1.source.wgcStaging =
      sub.source.wgcStaging := by
  obtain ⟨result, -⟩ | ⟨capture, -, -, ⟨-, result⟩ | ⟨-, -, result⟩ | ⟨-, -, result⟩⟩ :=
    sub.handleDeviceLost_cases fps bitrateKbps outcome <;>
  rw [result] <;> rfl

end Subsystems

namespace Source

/-- A slot of the ring holds what it held before or the frame's own copy. -/
theorem filledStaging_texture (s : Source) (tex kept : Kept) (outcome : EmitOutcome) (i : Fin 2)
    (held : (s.filledStaging tex outcome i).texture = some kept) :
    (s.checkedStaging tex.texture i).texture = some kept ∨
      ((s.checkedStaging tex.texture i).texture = none ∧ kept = tex) := by
  simp only [filledStaging] at held
  split at held
  next created => exact Or.inr ⟨created.1, (Option.some.inj held).symm⟩
  next => exact Or.inl held

theorem checkedStaging_texture (s : Source) (tex : Texture) (kept : Kept) (i : Fin 2)
    (held : (s.checkedStaging tex i).texture = some kept) :
    (s.wgcStaging i).texture = some kept := by
  simp only [checkedStaging] at held
  split at held
  · cases held
  · exact held

theorem emitWgcPreview_texture (s : Source) (tex kept : Kept) (outcome : EmitOutcome)
    (i : Fin 2) (held : ((s.emitWgcPreview tex outcome).1.wgcStaging i).texture = some kept) :
    (s.wgcStaging i).texture = some kept ∨ kept = tex := by
  have filled : (s.filledStaging tex outcome i).texture = some kept := by
    simp only [emitWgcPreview] at held
    split at held
    · simp only at held
      split at held
      next written => rwa [written]
      next => exact held
    · exact held
  obtain checked | ⟨-, new⟩ := s.filledStaging_texture tex kept outcome i filled
  · exact Or.inl (s.checkedStaging_texture tex.texture kept i checked)
  · exact Or.inr new

end Source

/-- Only devices from `floor` on are in use. -/
structure Subsystems.Since (sub : Subsystems) (floor : Nat) : Prop where
  devices : floor ≤ sub.devices
  capture : ∀ capture, sub.source.capture = some capture → floor ≤ capture.device

namespace Subsystems

theorem Since.like {sub other : Subsystems} {floor : Nat} (since : sub.Since floor)
    (like : sub.Like other) : other.Since floor := by
  constructor
  · rw [like.devices]
    exact since.devices
  · rw [like.capture]
    exact since.capture

theorem since_rebuilt {sub : Subsystems} {floor : Nat} (devices : floor ≤ sub.devices)
    (outcome : InitOutcome) : (sub.rebuilt outcome).Since floor := by
  constructor
  · exact Nat.le_trans devices (devices_le_devicesAfter _ _)
  · rintro capture ⟨⟩
    exact Nat.le_trans devices (devices_le_createCapture _ _ _).1

theorem Since.handleDeviceLost {sub : Subsystems} {floor : Nat} (since : sub.Since floor)
    (fps bitrateKbps : UInt32) (outcome : RecoveryOutcome) :
    (sub.handleDeviceLost fps bitrateKbps outcome).1.Since floor := by
  have rebuilt := since_rebuilt since.devices outcome.sourceInit
  obtain ⟨result, -⟩ | ⟨capture, -, -, ⟨-, result⟩ | ⟨-, -, result⟩ | ⟨-, -, result⟩⟩ :=
    sub.handleDeviceLost_cases fps bitrateKbps outcome <;>
  rw [result]
  · exact since
  · exact ⟨since.devices, by rintro other ⟨⟩⟩
  · exact rebuilt
  · exact ⟨rebuilt.devices, rebuilt.capture⟩

/-- A recovery that answers true puts the source on a device that is new. -/
theorem since_of_recovered {sub : Subsystems} {fps bitrateKbps : UInt32}
    {outcome : RecoveryOutcome}
    (recovered : (sub.handleDeviceLost fps bitrateKbps outcome).2 = true) :
    (sub.handleDeviceLost fps bitrateKbps outcome).1.Since sub.devices := by
  have rebuilt := since_rebuilt (Nat.le_refl sub.devices) outcome.sourceInit
  obtain ⟨result, -⟩ | ⟨capture, -, -, ⟨-, result⟩ | ⟨-, -, result⟩ | ⟨-, -, result⟩⟩ :=
    sub.handleDeviceLost_cases fps bitrateKbps outcome <;>
  rw [result] at recovered ⊢
  · cases recovered
  · cases recovered
  · exact rebuilt
  · exact ⟨rebuilt.devices, rebuilt.capture⟩

end Subsystems

/-- The device of every kept texture is the one its history says. -/
structure Impl.Tracked (s : Impl) : Prop where
  sane : s.sub.Sane
  repeatTex : ∀ kept, s.repeatTex = some kept → s.sub.Tracks kept
  staging : ∀ i kept, (s.sub.source.wgcStaging i).texture = some kept → s.sub.Tracks kept

namespace Impl

variable {s : Impl}

theorem preview_repeatTex (s : Impl) (tick : Tick) (tex : Kept) :
    (s.preview tick tex).1.repeatTex = s.repeatTex := by
  simp only [preview]
  split
  · split <;> rfl
  · rfl

theorem preview_staging (s : Impl) (tick : Tick) (tex kept : Kept) (i : Fin 2)
    (held : ((s.preview tick tex).1.sub.source.wgcStaging i).texture = some kept) :
    (s.sub.source.wgcStaging i).texture = some kept ∨ kept = tex := by
  simp only [preview] at held
  split at held
  · split at held
    · exact Source.emitWgcPreview_texture _ _ _ _ _ held
    · exact Or.inl held
  · exact Or.inl held

/-- The invariant stays when source, encoder and devices do and the caches too. -/
theorem Tracked.like {other : Impl} (tracked : s.Tracked) (like : s.sub.Like other.sub)
    (repeatTex : other.repeatTex = s.repeatTex)
    (staging : other.sub.source.wgcStaging = s.sub.source.wgcStaging) : other.Tracked := by
  refine ⟨tracked.sane.like like, ?_, ?_⟩
  · intro kept held
    rw [repeatTex] at held
    exact (tracked.repeatTex kept held).like like
  · intro i kept held
    rw [staging] at held
    exact (tracked.staging i kept held).like like

theorem Tracked.withLost (tracked : s.Tracked) {lost : List Device}
    (known : ∀ device ∈ lost, device < s.sub.devices) : (s.withLost lost).Tracked where
  sane := by
    refine ⟨⟨tracked.sane.exist.display, tracked.sane.exist.capture,
      tracked.sane.exist.encoder⟩, ?_, tracked.sane.kind⟩
    intro device removed
    obtain new | old := List.mem_append.mp removed
    · exact known device new
    · exact tracked.sane.removed device old
  repeatTex := by
    intro kept held
    have known := tracked.repeatTex kept held
    exact ⟨known.made, known.known, known.current, known.replaced⟩
  staging := by
    intro i kept held
    have known := tracked.staging i kept held
    exact ⟨known.made, known.known, known.current, known.replaced⟩

theorem Tracked.recover (tracked : s.Tracked) (tick : Tick) : (s.recover tick).1.Tracked where
  sane := tracked.sane.handleDeviceLost _ _ _
  repeatTex := by
    intro kept held
    exact (tracked.repeatTex kept held).handleDeviceLost _ _ _
  staging := by
    intro i kept held
    simp only [Impl.recover, Subsystems.handleDeviceLost_wgcStaging] at held
    exact (tracked.staging i kept held).handleDeviceLost _ _ _

theorem Tracked.tracks_frame (tracked : s.Tracked) {capture : Capture}
    (held : s.sub.source.capture = some capture) (width height format : UInt32) :
    s.sub.Tracks ⟨⟨capture.frameDevice, width, height, format⟩, s.sub.source.inits⟩ where
  made := Nat.le_refl _
  known := tracked.sane.exist.display capture held
  current := by
    intro other held' _
    rw [held] at held'
    cases held'
    rfl
  replaced := by
    intro other _ differs
    exact absurd rfl differs

/-- The copy to encode looks like the frame, and it was kept before or is new. -/
theorem copyForRepeat_spec (s : Impl) (tick : Tick) (tex : Kept) :
    ((s.copyForRepeat tick tex).2.getD tex).texture = tex.texture ∧
      ∀ kept, (s.copyForRepeat tick tex).1 = some kept ∨ (s.copyForRepeat tick tex).2 = some kept →
        kept.texture = tex.texture ∧ (s.repeatTex = some kept ∨ kept = tex) := by
  have created : ∀ kept, (s.copyForRepeat tick tex).1 = some kept →
      kept.texture = tex.texture ∧ (s.repeatTex = some kept ∨ kept = tex) := by
    intro kept held
    simp only [copyForRepeat] at held
    split at held
    next => cases held; exact ⟨rfl, Or.inr rfl⟩
    next =>
      obtain ⟨old, same⟩ := Option.filter_eq_some_iff.mp held
      exact ⟨of_decide_eq_true same, Or.inl old⟩
  have copied : ∀ kept, (s.copyForRepeat tick tex).2 = some kept →
      (s.copyForRepeat tick tex).1 = some kept := by
    intro kept held
    simp only [copyForRepeat] at held ⊢
    split at held
    · exact held
    · cases held
  constructor
  · cases held : (s.copyForRepeat tick tex).2 with
    | none => rfl
    | some kept => exact (created kept (copied kept held)).1
  · rintro kept (held | held)
    · exact created kept held
    · exact created kept (copied kept held)

theorem Tracked.encodeFrame (tracked : s.Tracked) (tick : Tick) (tex : Texture) :
    (s.encodeFrame tick tex).1.Tracked := by
  cases result : s.sub.encoder.isNone || tick.encode with
  | true => rwa [encodeFrame_of_ok _ _ _ result]
  | false =>
      rw [encodeFrame_of_failed _ _ _ result]
      exact tracked.recover tick

theorem tracks_encodeFrame {tex : Kept} (frame : s.sub.Tracks tex) (tick : Tick)
    (encoded : Texture) : (s.encodeFrame tick encoded).1.sub.Tracks tex := by
  cases result : s.sub.encoder.isNone || tick.encode with
  | true => rwa [encodeFrame_of_ok _ _ _ result]
  | false =>
      rw [encodeFrame_of_failed _ _ _ result]
      exact frame.handleDeviceLost _ _ _

theorem Tracked.nullFrame (tracked : s.Tracked) (tick : Tick) (reinitEdge : Bool) :
    (s.nullFrame tick reinitEdge).1.Tracked := by
  obtain ⟨-, ⟨same, -⟩ | ⟨recovered, -⟩⟩ := s.nullFrame_cases tick reinitEdge
  · rwa [same]
  · rw [recovered]
    exact tracked.recover tick

theorem Tracked.preview (tracked : s.Tracked) (tick : Tick) {tex : Kept}
    (frame : s.sub.Tracks tex) : (s.preview tick tex).1.Tracked := by
  have like := s.preview_like tick tex
  refine ⟨tracked.sane.like like, ?_, ?_⟩
  · intro kept held
    apply Subsystems.Tracks.like _ like
    apply tracked.repeatTex kept
    rwa [preview_repeatTex] at held
  · intro i kept held
    apply Subsystems.Tracks.like _ like
    obtain old | rfl := s.preview_staging tick tex kept i held
    · exact tracked.staging i kept old
    · exact frame

theorem Tracked.copied (tracked : s.Tracked) (tick : Tick) {tex : Kept}
    (frame : s.sub.Tracks tex) :
    { s with repeatTex := (s.copyForRepeat tick tex).1 }.Tracked := by
  refine ⟨tracked.sane, ?_, tracked.staging⟩
  intro kept held
  obtain ⟨-, old | rfl⟩ := (s.copyForRepeat_spec tick tex).2 kept (Or.inl held)
  · exact tracked.repeatTex kept old
  · exact frame

theorem Tracked.freshFrame (tracked : s.Tracked) (tick : Tick) {tex : Kept}
    (frame : s.sub.Tracks tex) : (s.freshFrame tick tex).1.Tracked := by
  have copied := tracked.copied tick frame
  apply (copied.encodeFrame tick _).preview tick
  exact @tracks_encodeFrame { s with repeatTex := (s.copyForRepeat tick tex).1 } tex frame tick _

theorem Tracked.runFrame (tracked : s.Tracked) {tick : Tick}
    (known : ∀ device ∈ tick.lost, device < s.sub.devices) :
    (s.runFrame tick).1.Tracked := by
  have lost := tracked.withLost known
  cases held : s.sub.source.capture with
  | none =>
      rw [s.runFrame_down tick held]
      exact lost
  | some capture =>
      have like := (s.withLost tick.lost).captured_like capture tick
      have captured : ((s.withLost tick.lost).captured capture tick).1.Tracked := by
        apply lost.like like <;> rw [captured_state]
      cases arrived : tick.frame with
      | none =>
          rw [s.runFrame_null tick held arrived]
          exact captured.nullFrame tick _
      | some desc =>
          obtain ⟨width, height, format⟩ := desc
          rw [s.runFrame_fresh tick held arrived]
          apply captured.freshFrame tick
          exact (lost.tracks_frame held width height format).like like

theorem Tracked.init {wgcSupported : Bool} {fps bitrateKbps : UInt32}
    {outcome : RecoveryOutcome} {start : Impl}
    (started : Impl.init wgcSupported fps bitrateKbps outcome = some start) :
    start.Tracked := by
  obtain ⟨sub, set, rfl⟩ := Option.map_eq_some_iff.mp started
  rw [Subsystems.startup_eq] at set
  obtain ⟨-, made⟩ := Option.ite_none_right_eq_some.mp set
  cases made
  have blank : (Subsystems.blank wgcSupported).Sane := by
    refine ⟨⟨?_, ?_, ?_⟩, ?_, ?_⟩ <;> rintro _ ⟨⟩
  refine ⟨blank.followed fps bitrateKbps outcome, ?_, ?_⟩
  · rintro kept ⟨⟩
  · rintro i kept ⟨⟩

theorem Tracked.step (s : Impl) (tick : Tick) (next : Impl) (tracked : s.Tracked)
    (stepped : Impl.step s tick = some next) : next.Tracked := by
  obtain ⟨known, rfl⟩ := step_eq_some stepped
  exact tracked.runFrame known

theorem since_runFrame {s : Impl} {floor : Nat} (since : s.sub.Since floor) (tick : Tick) :
    (s.runFrame tick).1.sub.Since floor := by
  have lost : (s.withLost tick.lost).sub.Since floor := ⟨since.devices, since.capture⟩
  obtain ⟨-, like⟩ | ⟨before, same, -, like⟩ := s.runFrame_sub tick
  · exact lost.like like
  · exact ((lost.like same).handleDeviceLost _ _ _).like like

/-- In a tick that recovers, the source moves to a device that is new. -/
theorem since_of_recovery {s : Impl} {tick : Tick}
    (recovered : (s.runFrame tick).2.recovery = some true) :
    (s.runFrame tick).1.sub.Since s.sub.devices := by
  obtain ⟨untried, -⟩ | ⟨before, same, tried, like⟩ := s.runFrame_sub tick
  · rw [untried] at recovered
    cases recovered
  · have answered : (before.recover tick).2 = true := by
      rw [recovered] at tried
      exact (Option.some.inj tried).symm
    have moved := Subsystems.since_of_recovered answered
    rw [same.devices] at moved
    exact moved.like like

def startAt1080p (wgcSupported : Bool) : Impl where
  sub := (Subsystems.blank wgcSupported).followed 60 6000 ⟨⟨true, 1920, 1080, false⟩, true⟩
  repeatTex := none
  reinitTrigger := ⟨false, 0⟩
  previewSeq := 0
  fps := 60

theorem init_startAt1080p (wgcSupported : Bool) :
    Impl.init wgcSupported 60 6000 ⟨⟨true, 1920, 1080, false⟩, true⟩ =
      some (startAt1080p wgcSupported) := by
  cases wgcSupported <;> rfl

end Impl

end RejiStudio.Recovery
