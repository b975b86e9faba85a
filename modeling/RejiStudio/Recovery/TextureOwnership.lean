import RejiStudio.Recovery.TextureHistory

/-!
# Texture ownership

A tick uses textures of the source's device exactly when the frames live on it and
what the tick takes from the caches is recent.  The copy that null ticks repeat and
the staging ring outlive the source, so both can be older.
-/

namespace RejiStudio.Recovery

open RejiStudio.Lib RejiStudio.Lib.Machine

namespace Source

def StagingReady (s : Source) (tex : Texture) (outcome : EmitOutcome) : Prop :=
  ∀ i, (s.checkedStaging tex i).texture ≠ none ∨ outcome.createTexture i = true

theorem filledStaging_ne_none (s : Source) (tex : Kept) (outcome : EmitOutcome) (i : Fin 2) :
    (s.filledStaging tex outcome i).texture ≠ none ↔
      (s.checkedStaging tex.texture i).texture ≠ none ∨ outcome.createTexture i = true := by
  by_cases missing : (s.checkedStaging tex.texture i).texture = none <;>
    by_cases created : outcome.createTexture i = true <;>
    simp [filledStaging, missing, created]

theorem filledStaging_valid (s : Source) (tex : Kept) (outcome : EmitOutcome) (i : Fin 2) :
    (s.filledStaging tex outcome i).valid = (s.checkedStaging tex.texture i).valid := by
  simp only [filledStaging]
  split <;> rfl

/-- The ring has two slots, the one to write and the other. -/
theorem slot_cases (w i : Fin 2) : i = w ∨ i = w + 1 := by
  revert w i
  decide

/-- A slot with a texture is on `device`. -/
def SlotOn (slot : StagingSlot) (device : Device) : Prop :=
  ∀ kept, slot.texture = some kept → kept.texture.device = device

/-- A preview uses textures of the source's device unless both slots are ready and
one that it uses lives elsewhere. -/
theorem emitWgcPreview_owned {s : Source} {capture : Capture} (held : s.capture = some capture)
    (tex : Kept) (outcome : EmitOutcome) :
    (∀ use ∈ (s.emitWgcPreview tex outcome).2.1, use.current = some use.texture.device) ↔
      (s.StagingReady tex.texture outcome →
        SlotOn (s.filledStaging tex outcome s.wgcWriteIdx) capture.device ∧
          ((s.filledStaging tex outcome (s.wgcWriteIdx + 1)).valid = true →
            SlotOn (s.filledStaging tex outcome (s.wgcWriteIdx + 1)) capture.device)) := by
  have ready : s.StagingReady tex.texture outcome ↔
      (s.filledStaging tex outcome s.wgcWriteIdx).texture ≠ none ∧
        (s.filledStaging tex outcome (s.wgcWriteIdx + 1)).texture ≠ none := by
    simp only [StagingReady, ← filledStaging_ne_none]
    constructor
    · intro all
      exact ⟨all _, all _⟩
    · rintro ⟨writes, reads⟩ i
      obtain rfl | rfl := slot_cases s.wgcWriteIdx i
      · exact writes
      · exact reads
  have device : s.device = some capture.device := by simp [Source.device, held]
  rw [ready]
  cases writes : (s.filledStaging tex outcome s.wgcWriteIdx).texture with
  | none => simp [emitWgcPreview, writes]
  | some target =>
      cases reads : (s.filledStaging tex outcome (s.wgcWriteIdx + 1)).texture with
      | none => simp [emitWgcPreview, writes, reads]
      | some earlier =>
          cases valid : (s.filledStaging tex outcome (s.wgcWriteIdx + 1)).valid <;>
            simp [emitWgcPreview, writes, reads, valid, device, SlotOn, eq_comm]

end Source

def StagingSlot.Recent (slot : StagingSlot) (inits : Nat) : Prop :=
  ∀ kept, slot.texture = some kept → kept.madeAt = inits

namespace Impl

variable {s : Impl}

/-- Every texture that the tick uses lives on the device the source then has. -/
def TextureOwned (s : Impl) (tick : Tick) : Prop :=
  ∀ use ∈ (s.runFrame tick).2.uses, use.current = some use.texture.device

/-- The encoder fails on a removed device, so the source is initialised again before
the tick is over. -/
def RecoversEarly (s : Impl) (tick : Tick) (capture : Capture) : Prop :=
  s.sub.encoder ≠ none ∧ tick.encode = false ∧ capture.device ∈ s.sub.removed

def PreviewDue (s : Impl) (tick : Tick) (capture : Capture) (tex : Texture) : Prop :=
  tick.previewCb = true ∧ s.previewSeq % 2 = 0 ∧ capture.isWgc = true ∧
    s.sub.source.StagingReady tex tick.emit ∧
    (s.RecoversEarly tick capture → tick.recovery.sourceInit.ok = true)

/-- The slots that the preview takes from the ring are of the current initialisation. -/
def RingRecent (s : Impl) (tex : Texture) : Prop :=
  let ring := s.sub.source.checkedStaging tex
  let w := s.sub.source.wgcWriteIdx
  (ring w).Recent s.sub.source.inits ∧
    ((ring (w + 1)).valid = true → (ring (w + 1)).Recent s.sub.source.inits)

/-- Frames live on the device of the source, and whatever the tick takes from a cache
was made since the source was last initialised. -/
def Timely (s : Impl) (tick : Tick) : Prop :=
  let s := s.withLost tick.lost
  ∀ capture, s.sub.source.capture = some capture →
    match tick.frame with
    | some (width, height, format) =>
        let tex : Texture := ⟨capture.frameDevice, width, height, format⟩
        capture.frameDevice = capture.device ∧
          (s.PreviewDue tick capture tex → ¬s.RecoversEarly tick capture ∧ s.RingRecent tex)
    | none =>
        ∀ kept, s.repeatTex = some kept →
          kept.madeAt = s.sub.source.inits ∧ capture.frameDevice = capture.device

theorem preview_owned (s : Impl) (tick : Tick) (tex : Kept) {capture : Capture}
    (held : s.sub.source.capture = some capture) :
    (∀ use ∈ (s.preview tick tex).2, use.current = some use.texture.device) ↔
      (tick.previewCb = true → s.previewSeq % 2 = 0 → capture.isWgc = true →
        s.sub.source.StagingReady tex.texture tick.emit →
        let ring := s.sub.source.filledStaging tex tick.emit
        let w := s.sub.source.wgcWriteIdx
        Source.SlotOn (ring w) capture.device ∧
          ((ring (w + 1)).valid = true → Source.SlotOn (ring (w + 1)) capture.device)) := by
  have kind : s.sub.source.isWgc = capture.isWgc := by simp [Source.isWgc, held]
  have emitted := Source.emitWgcPreview_owned held tex tick.emit
  by_cases shown : tick.previewCb = true ∧ capture.isWgc = true
  · by_cases due : s.previewSeq % 2 = 0
    · simpa [preview, kind, shown, due] using emitted
    · simp [preview, kind, shown, due]
  · have skipped : (tick.previewCb && capture.isWgc) = false := by
      simpa using shown
    simp only [preview, kind, skipped]
    simp only [Bool.false_eq_true, if_false, List.not_mem_nil, false_implies, implies_true,
      true_iff]
    intro callback _ wgc
    exact absurd ⟨callback, wgc⟩ shown

/-- With a frame of the current initialisation, a slot is on the device of a WGC source
exactly when what it held is recent. -/
theorem slotOn_iff_recent (tracked : s.Tracked) {capture : Capture}
    (held : s.sub.source.capture = some capture) (wgc : capture.isWgc = true) {tex : Kept}
    (frame : s.sub.Tracks tex) (current : tex.madeAt = s.sub.source.inits)
    (outcome : EmitOutcome) (i : Fin 2) :
    Source.SlotOn (s.sub.source.filledStaging tex outcome i) capture.device ↔
      (s.sub.source.checkedStaging tex.texture i).Recent s.sub.source.inits := by
  constructor
  · intro onDevice kept checked
    have known := tracked.staging i kept (Source.checkedStaging_texture _ _ _ _ checked)
    apply (known.device_iff held wgc).mp
    apply onDevice kept
    simp [Source.filledStaging, checked]
  · intro recent kept filled
    obtain checked | ⟨-, rfl⟩ := Source.filledStaging_texture _ _ _ _ _ filled
    · have known := tracked.staging i kept (Source.checkedStaging_texture _ _ _ _ checked)
      exact (known.device_iff held wgc).mpr (recent kept checked)
    · exact (frame.device_iff held wgc).mpr current

/-- After an initialisation in the same tick no slot is on the new device. -/
theorem not_slotOn_of_older (tracked : s.Tracked) {capture : Capture}
    (held : s.sub.source.capture = some capture) {tex : Kept} (frame : s.sub.Tracks tex)
    (older : tex.madeAt < s.sub.source.inits)
    (allOlder : ∀ i kept, (s.sub.source.wgcStaging i).texture = some kept →
      kept.madeAt < s.sub.source.inits)
    {outcome : EmitOutcome} (ready : s.sub.source.StagingReady tex.texture outcome) (i : Fin 2) :
    ¬Source.SlotOn (s.sub.source.filledStaging tex outcome i) capture.device := by
  intro onDevice
  have filled := (Source.filledStaging_ne_none s.sub.source tex outcome i).mpr (ready i)
  obtain ⟨kept, present⟩ := Option.ne_none_iff_exists'.mp filled
  have elsewhere : kept.texture.device ≠ capture.device := by
    obtain checked | ⟨-, rfl⟩ := Source.filledStaging_texture _ _ _ _ _ present
    · have inRing := Source.checkedStaging_texture _ _ _ _ checked
      have past := allOlder i kept inRing
      exact ((tracked.staging i kept inRing).replaced capture held (Nat.ne_of_lt past)).1
    · exact (frame.replaced capture held (Nat.ne_of_lt older)).1
  exact elsewhere (onDevice kept present)

/-- A frame of a source with a capture, that was not initialised in the tick. -/
theorem preview_owned_of_current (tracked : s.Tracked) (tick : Tick) {capture : Capture}
    (held : s.sub.source.capture = some capture) {tex : Kept} (frame : s.sub.Tracks tex)
    (current : tex.madeAt = s.sub.source.inits) :
    (∀ use ∈ (s.preview tick tex).2, use.current = some use.texture.device) ↔
      (tick.previewCb = true → s.previewSeq % 2 = 0 → capture.isWgc = true →
        s.sub.source.StagingReady tex.texture tick.emit → s.RingRecent tex.texture) := by
  rw [s.preview_owned tick tex held]
  refine forall_congr' fun callback => forall_congr' fun due => forall_congr' fun wgc =>
    forall_congr' fun ready => ?_
  simp only [slotOn_iff_recent tracked held wgc frame current, Source.filledStaging_valid]
  rfl

theorem preview_owned_of_older (tracked : s.Tracked) (tick : Tick) {capture : Capture}
    (held : s.sub.source.capture = some capture) {tex : Kept} (frame : s.sub.Tracks tex)
    (older : tex.madeAt < s.sub.source.inits)
    (allOlder : ∀ i kept, (s.sub.source.wgcStaging i).texture = some kept →
      kept.madeAt < s.sub.source.inits) :
    (∀ use ∈ (s.preview tick tex).2, use.current = some use.texture.device) ↔
      (tick.previewCb = true → s.previewSeq % 2 = 0 → capture.isWgc = true →
        ¬s.sub.source.StagingReady tex.texture tick.emit) := by
  rw [s.preview_owned tick tex held]
  refine forall_congr' fun callback => forall_congr' fun due => forall_congr' fun wgc =>
    forall_congr' fun ready => ?_
  have elsewhere := not_slotOn_of_older tracked held frame older allOlder ready
  simp [elsewhere]

theorem freshFrame_uses (s : Impl) (tick : Tick) (tex : Kept) :
    (∀ use ∈ (s.freshFrame tick tex).2.uses, use.current = some use.texture.device) ↔
      s.sub.source.device = some tex.texture.device ∧
        ∀ use ∈ (({ s with repeatTex := (s.copyForRepeat tick tex).1 }.encodeFrame tick
            ((s.copyForRepeat tick tex).2.getD tex).texture).1.preview tick tex).2,
          use.current = some use.texture.device := by
  have looks := s.copyForRepeat_spec tick tex
  have copied : ∀ copy, (s.copyForRepeat tick tex).2 = some copy →
      copy.texture = tex.texture := fun copy held => (looks.2 copy (Or.inr held)).1
  have uses : (s.freshFrame tick tex).2.uses =
      ((s.copyForRepeat tick tex).2.toList.map fun copy =>
          ⟨.copyTarget, copy.texture, s.sub.source.device⟩) ++
        [⟨.encode, tex.texture, s.sub.source.device⟩] ++
        (({ s with repeatTex := (s.copyForRepeat tick tex).1 }.encodeFrame tick
            ((s.copyForRepeat tick tex).2.getD tex).texture).1.preview tick tex).2 := by
    simp only [freshFrame, encodeFrame_uses, looks.1]
  rw [uses]
  simp only [List.mem_append, List.mem_map, List.mem_singleton, or_imp, forall_and, forall_eq,
    forall_exists_index, and_imp, Option.mem_toList]
  constructor
  · rintro ⟨⟨-, encoded⟩, shown⟩
    exact ⟨encoded, shown⟩
  · rintro ⟨encoded, shown⟩
    refine ⟨⟨?_, encoded⟩, shown⟩
    rintro _ copy held rfl
    rw [copied copy held]
    exact encoded

theorem preview_after_rebuild (tracked : s.Tracked) (tick : Tick) {capture : Capture}
    (held : s.sub.source.capture = some capture) {tex : Kept} (frame : s.sub.Tracks tex)
    (rebuilt : (s.recover tick).1.sub.source =
      (s.sub.rebuilt tick.recovery.sourceInit).source) :
    (∀ use ∈ ((s.recover tick).1.preview tick tex).2,
        use.current = some use.texture.device) ↔
      (tick.previewCb = true → s.previewSeq % 2 = 0 → capture.isWgc = true →
        ¬s.sub.source.StagingReady tex.texture tick.emit) := by
  have held' : (s.recover tick).1.sub.source.capture =
      some (createCapture s.sub.wgcSupported s.sub.devices tick.recovery.sourceInit) := by
    rw [rebuilt]
    rfl
  have later : (s.recover tick).1.sub.source.inits = s.sub.source.inits + 1 := by
    rw [rebuilt]
    rfl
  have sameRing : (s.recover tick).1.sub.source.wgcStaging = s.sub.source.wgcStaging := by
    rw [rebuilt]
    rfl
  have sameKind : (createCapture s.sub.wgcSupported s.sub.devices
      tick.recovery.sourceInit).isWgc = capture.isWgc := by
    rw [isWgc_createCapture, tracked.sane.kind capture held]
  have sameReady : (s.recover tick).1.sub.source.StagingReady tex.texture tick.emit ↔
      s.sub.source.StagingReady tex.texture tick.emit := by
    simp only [Source.StagingReady, Source.checkedStaging, sameRing]
  have older : ∀ kept, s.sub.Tracks kept → kept.madeAt < (s.recover tick).1.sub.source.inits := by
    intro kept known
    rw [later]
    exact Nat.lt_succ_of_le known.made
  rw [preview_owned_of_older (tracked.recover tick) tick held' (frame.handleDeviceLost _ _ _)
    (older tex frame), sameKind, sameReady]
  · rfl
  · intro i kept present
    rw [sameRing] at present
    exact older kept (tracked.staging i kept present)

/-- The preview after encoding, with the recovery that may have come in between. -/
theorem preview_after_encode (tracked : s.Tracked) (tick : Tick) {capture : Capture}
    (held : s.sub.source.capture = some capture) {tex : Kept} (frame : s.sub.Tracks tex)
    (current : tex.madeAt = s.sub.source.inits) (encoded : Texture) :
    (∀ use ∈ ((s.encodeFrame tick encoded).1.preview tick tex).2,
        use.current = some use.texture.device) ↔
      (s.PreviewDue tick capture tex.texture →
        ¬s.RecoversEarly tick capture ∧ s.RingRecent tex.texture) := by
  cases result : s.sub.encoder.isNone || tick.encode with
  | true =>
      have calm : ¬s.RecoversEarly tick capture := by
        rintro ⟨encoder, failed, -⟩
        simp_all
      rw [encodeFrame_of_ok _ _ _ result,
        preview_owned_of_current tracked tick held frame current]
      simp only [PreviewDue, calm, not_false_eq_true, true_and, and_imp, false_implies,
        forall_const]
  | false =>
      rw [encodeFrame_of_failed _ _ _ result]
      have broken : s.sub.encoder ≠ none ∧ tick.encode = false := by
        simpa [Option.isSome_iff_ne_none] using result
      obtain ⟨unchanged, healthy⟩ | ⟨lost, held', removed, recovery⟩ :=
        s.sub.handleDeviceLost_cases s.fps tick.bitrateKbps tick.recovery
      · have calm : ¬s.RecoversEarly tick capture := fun early => healthy capture held early.2.2
        have same : (s.recover tick).1 = s := by simp [recover, unchanged]
        rw [same, preview_owned_of_current tracked tick held frame current]
        simp only [PreviewDue, calm, not_false_eq_true, true_and, and_imp, false_implies,
          forall_const]
      · obtain rfl : capture = lost := Option.some.inj (held.symm.trans held')
        have early : s.RecoversEarly tick capture := ⟨broken.1, broken.2, removed⟩
        obtain ⟨failed, result⟩ | ⟨ok, -, result⟩ | ⟨ok, -, result⟩ := recovery
        · have down : (s.recover tick).1.sub.source.isWgc = false := by
            simp [recover, result, Subsystems.tornDown, Source.isWgc]
          simp [preview, down, PreviewDue, early, failed]
        all_goals
          have source : (s.recover tick).1.sub.source =
              (s.sub.rebuilt tick.recovery.sourceInit).source := by
            simp [recover, result, Subsystems.followed]
          rw [preview_after_rebuild tracked tick held frame source]
          simp only [PreviewDue, early, ok, not_true_eq_false, false_and, imp_false, not_and,
            forall_const]

theorem freshFrame_owned (tracked : s.Tracked) (tick : Tick) {capture : Capture}
    (held : s.sub.source.capture = some capture) (width height format : UInt32) :
    (∀ use ∈ (s.freshFrame tick ⟨⟨capture.frameDevice, width, height, format⟩,
        s.sub.source.inits⟩).2.uses, use.current = some use.texture.device) ↔
      capture.frameDevice = capture.device ∧
        (s.PreviewDue tick capture ⟨capture.frameDevice, width, height, format⟩ →
          ¬s.RecoversEarly tick capture ∧
            s.RingRecent ⟨capture.frameDevice, width, height, format⟩) := by
  have frame := tracked.tracks_frame held width height format
  have device : s.sub.source.device = some capture.device := by simp [Source.device, held]
  rw [freshFrame_uses, device, Option.some.injEq, eq_comm,
    preview_after_encode (tracked.copied tick frame) tick held frame rfl]
  rfl

theorem nullFrame_owned (tracked : s.Tracked) (tick : Tick) {capture : Capture}
    (held : s.sub.source.capture = some capture) (reinitEdge : Bool) :
    (∀ use ∈ (s.nullFrame tick reinitEdge).2.uses, use.current = some use.texture.device) ↔
      ∀ kept, s.repeatTex = some kept →
        kept.madeAt = s.sub.source.inits ∧ capture.frameDevice = capture.device := by
  have device : s.sub.source.device = some capture.device := by simp [Source.device, held]
  rw [(s.nullFrame_cases tick reinitEdge).1]
  cases copy : s.repeatTex with
  | none => simp [repeatFrame, copy]
  | some kept =>
      have known := tracked.repeatTex kept copy
      simp only [repeatFrame, copy, encodeFrame_uses, device, List.mem_singleton, forall_eq,
        Option.some.injEq, forall_eq']
      constructor
      · intro same
        have recent : kept.madeAt = s.sub.source.inits := by
          by_contra differs
          exact (known.replaced capture held differs).1 same.symm
        exact ⟨recent, (known.current capture held recent).symm.trans same.symm⟩
      · rintro ⟨recent, same⟩
        rw [known.current capture held recent, same]

/-- One tick: the textures that it uses are of the source's device exactly when they
are recent. -/
theorem textureOwned_iff_timely (tracked : s.Tracked) {tick : Tick}
    (known : ∀ device ∈ tick.lost, device < s.sub.devices) :
    s.TextureOwned tick ↔ s.Timely tick := by
  have lost := tracked.withLost known
  cases held : s.sub.source.capture with
  | none => simp [TextureOwned, s.runFrame_down tick held, Timely, withLost, held]
  | some capture =>
      have like := (s.withLost tick.lost).captured_like capture tick
      have held' := like.capture.trans held
      have captured : ((s.withLost tick.lost).captured capture tick).1.Tracked := by
        apply lost.like like <;> rw [captured_state]
      have sameState := (s.withLost tick.lost).captured_state capture tick
      have only : ∀ other, (s.withLost tick.lost).sub.source.capture = some other ↔
          other = capture := by
        intro other
        simp [withLost, held, eq_comm]
      simp only [Timely, only, forall_eq]
      cases arrived : tick.frame with
      | none =>
          rw [TextureOwned, s.runFrame_null tick held arrived,
            nullFrame_owned captured tick held', sameState]
      | some desc =>
          obtain ⟨width, height, format⟩ := desc
          have owned := freshFrame_owned captured tick held' width height format
          rw [TextureOwned, s.runFrame_fresh tick held arrived]
          rw [sameState] at owned ⊢
          exact owned

theorem preview_current (s : Impl) (tick : Tick) (tex : Kept) :
    ∀ use ∈ (s.preview tick tex).2, use.current = s.sub.source.device := by
  intro use used
  simp only [preview] at used
  split at used
  · split at used
    · simp only [Source.emitWgcPreview] at used
      split at used
      · simp only [List.mem_cons] at used
        obtain rfl | used := used
        · rfl
        · split at used
          · rw [List.mem_singleton] at used
            rw [used]
          · cases used
      · cases used
    · cases used
  · cases used

theorem device_like {sub other : Subsystems} (like : sub.Like other) :
    other.source.device = sub.source.device := by
  rw [Source.device, Source.device, like.capture]

/-- What a tick uses is compared with the device before it or after its recovery. -/
theorem runFrame_current (s : Impl) (tick : Tick) :
    ∀ use ∈ (s.runFrame tick).2.uses,
      use.current = s.sub.source.device ∨
        use.current = (s.runFrame tick).1.sub.source.device := by
  intro use used
  cases held : s.sub.source.capture with
  | none =>
      rw [s.runFrame_down tick held] at used
      cases used
  | some capture =>
      have like := (s.withLost tick.lost).captured_like capture tick
      have before : ((s.withLost tick.lost).captured capture tick).1.sub.source.device =
          s.sub.source.device := by
        have same := device_like like
        exact same
      cases arrived : tick.frame with
      | none =>
          rw [s.runFrame_null tick held arrived, (nullFrame_cases _ tick _).1] at used
          simp only [repeatFrame] at used
          split at used
          · rw [encodeFrame_uses, List.mem_singleton] at used
            left
            rw [used, before]
          · cases used
      | some desc =>
          obtain ⟨width, height, format⟩ := desc
          rw [s.runFrame_fresh tick held arrived] at used ⊢
          simp only [freshFrame, encodeFrame_uses, List.mem_append, List.mem_map,
            List.mem_singleton] at used
          obtain (⟨copy, -, rfl⟩ | rfl) | shown := used
          · exact Or.inl before
          · exact Or.inl before
          · right
            rw [preview_current _ _ _ _ shown]
            exact (device_like (preview_like _ _ _)).symm

def RetiresLost (s : Impl) (ticks : List Tick) : Prop :=
  ∀ before tick after middle next lost,
    ticks = before ++ tick :: after → exec step s before = some middle →
    step middle tick = some next → (middle.runFrame tick).2.recovery = some true →
    middle.sub.source.device = some lost →
    Along step (fun s tick => ∀ use ∈ (s.runFrame tick).2.uses, use.texture.device ≠ lost)
      next after

theorem retiresLost_of_owned {s : Impl} (tracked : s.Tracked) {ticks : List Tick}
    (owned : Along step TextureOwned s ticks) : s.RetiresLost ticks := by
  rintro before tick after middle next lost rfl executed stepped recovered device
  have middleTracked : middle.Tracked := exec_invariant Tracked.step tracked executed
  have older : lost < middle.sub.devices := by
    obtain ⟨capture, held, rfl⟩ := Option.map_eq_some_iff.mp device
    exact middleTracked.sane.exist.capture capture held
  have later := ((along_append.mp owned).2 middle executed).2 next stepped
  obtain ⟨-, rfl⟩ := step_eq_some stepped
  have since := since_of_recovery recovered
  have kept : ∀ s tick next, s.sub.Since middle.sub.devices →
      Impl.step s tick = some next → next.sub.Since middle.sub.devices := by
    intro s tick next known stepped
    obtain ⟨-, rfl⟩ := step_eq_some stepped
    exact since_runFrame known tick
  apply Along.imp kept _ since later
  intro s tick known usesOwned use used onLost
  have current := usesOwned use used
  have newer : ∀ device, use.current = some device → middle.sub.devices ≤ device := by
    intro device at_
    obtain same | same := s.runFrame_current tick use used <;>
      rw [same] at at_ <;>
      obtain ⟨capture, held, rfl⟩ := Option.map_eq_some_iff.mp at_
    · exact known.capture capture held
    · exact (since_runFrame known tick).capture capture held
  rw [onLost] at current
  exact Nat.not_le.mpr older (newer lost current)

/-- In every run of the frame loop the textures in use are of the source's device, and
devices that recovery replaced are out of use, exactly when all ticks are timely. -/
theorem textures_owned_iff_timely {wgcSupported : Bool} {fps bitrateKbps : UInt32}
    {outcome : RecoveryOutcome} {start finish : Impl} {ticks : List Tick}
    (started : Impl.init wgcSupported fps bitrateKbps outcome = some start)
    (executed : exec step start ticks = some finish) :
    (Along step TextureOwned start ticks ∧ start.RetiresLost ticks) ↔
      Along step Timely start ticks := by
  have tracked := Tracked.init started
  have same : Along step TextureOwned start ticks ↔ Along step Timely start ticks :=
    along_congr (fun s tick next known _ => Tracked.step s tick next known)
      (fun s tick next known stepped =>
        textureOwned_iff_timely known (step_eq_some stepped).1) tracked executed
  rw [← same]
  constructor
  · exact And.left
  · intro owned
    exact ⟨owned, retiresLost_of_owned tracked owned⟩

instance (s : Impl) (tick : Tick) : Decidable (s.TextureOwned tick) :=
  inferInstanceAs (Decidable (∀ use ∈ (s.runFrame tick).2.uses, _))

/-- A frame, a null tick, and one that finds the device lost. -/
theorem textures_owned_iff_timely_wgc :
    Along step Timely (startAt1080p true)
      [healthyTick [] (some (1920, 1080, 87)) true, healthyTick [] none true,
        healthyTick [0] none false] := by
  have executed : ∃ finish, exec step (startAt1080p true)
      [healthyTick [] (some (1920, 1080, 87)) true, healthyTick [] none true,
        healthyTick [0] none false] = some finish := ⟨_, rfl⟩
  obtain ⟨finish, executed⟩ := executed
  apply (textures_owned_iff_timely (init_startAt1080p true) executed).mp
  exact ⟨by decide, retiresLost_of_owned (Tracked.init (init_startAt1080p true)) (by decide)⟩

/-- After the recovery the next null tick encodes the copy on the lost device. -/
theorem null_tick_repeats_lost_texture :
    ¬∀ (wgcSupported : Bool) (fps bitrateKbps : UInt32) (outcome : RecoveryOutcome)
      (start : Impl), Impl.init wgcSupported fps bitrateKbps outcome = some start →
      ∀ ticks finish, exec step start ticks = some finish →
        Along step TextureOwned start ticks := by
  intro owned
  have repeated := owned true 60 6000 _ (startAt1080p true) (init_startAt1080p true)
    [healthyTick [] (some (1920, 1080, 87)) true, healthyTick [0] none false,
      healthyTick [] none true] _ rfl
  exact absurd repeated (by decide)

end Impl

end RejiStudio.Recovery
