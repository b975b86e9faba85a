import RejiStudio.Pipeline.AudioSessions

/-!
# What the capture hands to the audio ring

`capture_loop` cuts a packet to the frames that its scratch buffer takes and gives it on
with all its channels; the ring takes up to so many samples.
-/

namespace RejiStudio.Pipeline

open RejiStudio.Lib

def kMaxFrames : UInt32 := 8192

def kMaxChannels : UInt32 := 8

/-- A packet of the device; the samples are those that `convert_to_float` leaves in the
scratch buffer. -/
structure CapturePacket (Sample : Type) where
  frames : UInt32
  scratch : Nat → Sample
  ptsUs : Int64

structure CaptureLoop where
  actualChannels : UInt32
  actualSampleRate : UInt32
  overrunCount : UInt32
  frameDrops : UInt32

variable {Sample : Type}

namespace CaptureLoop

/-- One packet: the call of the callback, or none where the loop gives up. -/
def packet (capture : CaptureLoop) (packet : CapturePacket Sample) :
    CaptureLoop × Option (PushArgs Sample) :=
  let (counted, frames) :=
    if kMaxFrames < packet.frames then
      ({ capture with
        overrunCount := capture.overrunCount + 1
        frameDrops := capture.frameDrops + 1 }, kMaxFrames)
    else (capture, packet.frames)
  if capture.actualChannels = 0 ∨ kMaxChannels < capture.actualChannels then
    (counted, none)
  else
    (counted, some {
      samples := some packet.scratch
      frames := frames
      channels := capture.actualChannels
      sampleRate := capture.actualSampleRate
      ptsUs := packet.ptsUs })

def samples (capture : CaptureLoop) (packet : CapturePacket Sample) : Nat :=
  min packet.frames.toNat 8192 * capture.actualChannels.toNat

theorem packet_spec {capture : CaptureLoop} {packet : CapturePacket Sample}
    {args : PushArgs Sample} (delivered : (capture.packet packet).2 = some args) :
    args.samples = some packet.scratch ∧ args.count.toNat = capture.samples packet ∧
      1 ≤ capture.actualChannels.toNat ∧ capture.actualChannels.toNat ≤ 8 := by
  unfold CaptureLoop.packet at delivered
  have cut : (if kMaxFrames < packet.frames then
      ({ capture with
        overrunCount := capture.overrunCount + 1
        frameDrops := capture.frameDrops + 1 }, kMaxFrames)
      else (capture, packet.frames)).2.toNat = min packet.frames.toNat 8192 := by
    split
    next long =>
      have long := UInt32.lt_iff_toNat_lt.mp long
      exact (Nat.min_eq_right (Nat.le_of_lt long)).symm
    next short =>
      have short := UInt32.le_iff_toNat_le.mp (UInt32.not_lt.mp short)
      exact (Nat.min_eq_left short).symm
  generalize (if kMaxFrames < packet.frames then
      ({ capture with
        overrunCount := capture.overrunCount + 1
        frameDrops := capture.frameDrops + 1 }, kMaxFrames)
      else (capture, packet.frames)) = clamped at cut delivered
  obtain ⟨counted, frames⟩ := clamped
  dsimp only at cut delivered
  split at delivered
  next => cases delivered
  next supported =>
    cases delivered
    obtain ⟨present, few⟩ := not_or.mp supported
    refine ⟨rfl, ?_, ?_, ?_⟩
    · rw [PushArgs.toNat_count, samples, ← cut]
    · apply Nat.pos_of_ne_zero
      intro zero
      exact present (UInt32.toNat_inj.mp zero)
    · exact UInt32.le_iff_toNat_le.mp (UInt32.not_lt.mp few)

/-- What is delivered lies in the scratch buffer of `kMaxFrames * kMaxChannels` samples. -/
theorem samples_le_scratch {capture : CaptureLoop} {packet : CapturePacket Sample}
    {args : PushArgs Sample} (delivered : (capture.packet packet).2 = some args) :
    args.count.toNat ≤ kMaxFrames.toNat * kMaxChannels.toNat := by
  obtain ⟨_, count, _, few⟩ := packet_spec delivered
  rw [count]
  exact Nat.mul_le_mul (Nat.min_le_right _ _) few

/-- The ring takes a packet as valid if its samples are at least one and at most 8192. -/
theorem accepted_iff {capture : CaptureLoop} {packet : CapturePacket Sample}
    {args : PushArgs Sample} (delivered : (capture.packet packet).2 = some args) :
    args.accepted?.isSome = true ↔
      1 ≤ capture.samples packet ∧ capture.samples packet ≤ 8192 := by
  obtain ⟨present, count, _, _⟩ := packet_spec delivered
  have zero : args.count = 0 ↔ capture.samples packet = 0 := by
    rw [← count, ← UInt64.toNat_inj]
    rfl
  have long : kMaxSamplesPerChunk < args.count ↔ 8192 < capture.samples packet := by
    rw [UInt64.lt_iff_toNat_lt, count]
    rfl
  rw [PushArgs.accepted?, present]
  dsimp only
  split
  next invalid =>
    rw [zero, long] at invalid
    constructor
    · exact nofun
    · intro fits
      omega
  next valid =>
    rw [zero, long] at valid
    constructor
    · intro _
      omega
    · intro _
      rfl

end CaptureLoop

/-! ## One call of `push` -/

namespace AudioRing

variable {ring next : AudioRing Sample}

theorem Refines.full_iff {model : Model Sample} (refines : Refines ring model) :
    kCapacity ≤ ring.tail - ring.head ↔ ring.consumed.length + 16 ≤ ring.accepted.length := by
  have order := Nat.le_trans refines.invariant.released refines.invariant.current
  have size := toNat_sub_counters order refines.invariant.bounded
  have taken : model.taken.length = model.current := by
    rw [refines.invariant.taken, List.length_take, refines.invariant.accepted]
    exact Nat.min_eq_left refines.invariant.current
  have capacity : kCapacity.toNat = 16 := rfl
  have bounded := refines.invariant.bounded
  rw [UInt64.le_iff_toNat_le, refines.tail, refines.head, size, capacity, refines.accepted,
    refines.consumed, taken, refines.invariant.accepted, refines.current]
  omega

/-- The frame thread does not touch what the capture thread is at. -/
theorem consumer_keeps {action : AudioRingAction Sample}
    (consumes : action = .consume ∨ action = .consumer)
    (stepped : AudioRing.step ring action = some next) :
    next.producer = ring.producer ∧ next.returned = ring.returned := by
  rcases consumes with rfl | rfl
  · simp only [AudioRing.step] at stepped
    split at stepped <;> cases stepped
    exact ⟨rfl, rfl⟩
  · simp only [AudioRing.step, consumerStep] at stepped
    split at stepped
    next => cases stepped
    next => split at stepped <;> cases stepped <;> exact ⟨rfl, rfl⟩
    next => split at stepped <;> cases stepped <;> exact ⟨rfl, rfl⟩

theorem consumer_accepted {action : AudioRingAction Sample}
    (consumes : action = .consume ∨ action = .consumer)
    (stepped : AudioRing.step ring action = some next) : next.accepted = ring.accepted := by
  rcases consumes with rfl | rfl
  · simp only [AudioRing.step] at stepped
    split at stepped <;> cases stepped
    rfl
  · simp only [AudioRing.step, consumerStep] at stepped
    split at stepped
    next => cases stepped
    next => split at stepped <;> cases stepped <;> rfl
    next => split at stepped <;> cases stepped <;> rfl

def Progress (args : PushArgs Sample) (returned : List PushOutcome) (ring : AudioRing Sample) :
    Prop :=
  match ring.producer with
  | .idle =>
      ring.returned = returned ++
        [if args.accepted?.isSome then .accepted else .rejectedInvalid]
  | .rejecting => args.accepted?.isSome = false ∧ ring.returned = returned
  | .entered _ | .tailLoaded _ _ =>
      args.accepted?.isSome = true ∧ ring.returned = returned ∧
        ring.accepted.length < ring.consumed.length + 16
  | .writing _ _ _ => args.accepted?.isSome = true ∧ ring.returned = returned
  | .dropping => False

theorem Progress.producer {args : PushArgs Sample} {returned : List PushOutcome}
    (sound : ring.Sound) (progress : Progress args returned ring)
    (stepped : AudioRing.step ring .producer = some next) : Progress args returned next := by
  obtain ⟨model, refines⟩ := sound
  have agrees := refines.producer
  have full := refines.full_iff
  simp only [AudioRing.step, producerStep] at stepped
  unfold Progress at progress
  unfold ProducerAgrees at agrees
  split at stepped
  next => cases stepped
  next rejecting =>
    rw [rejecting] at progress
    cases stepped
    simp only [Progress, progress.1, progress.2]
    rfl
  next chunk entered =>
    rw [entered] at progress
    cases stepped
    exact progress
  next chunk tail loaded =>
    rw [loaded] at progress agrees
    obtain ⟨valid, same, room⟩ := progress
    rw [agrees.2] at stepped
    rw [if_neg (mt full.mp (Nat.not_le.mpr room))] at stepped
    cases stepped
    exact ⟨valid, same⟩
  next dropping =>
    rw [dropping] at progress
    exact progress.elim
  next chunk tail write left writing =>
    rw [writing] at progress
    cases stepped
    exact progress
  next chunk tail writing =>
    rw [writing] at progress
    cases stepped
    simp only [Progress, progress.1, progress.2]
    rfl

theorem Progress.consumer {args : PushArgs Sample} {returned : List PushOutcome}
    {action : AudioRingAction Sample} (consumes : action = .consume ∨ action = .consumer)
    (progress : Progress args returned ring)
    (stepped : AudioRing.step ring action = some next) : Progress args returned next := by
  obtain ⟨producer, same⟩ := consumer_keeps consumes stepped
  have accepted := consumer_accepted consumes stepped
  have consumed := (step_grows stepped).2
  unfold Progress at progress ⊢
  rw [producer, same, accepted]
  split at progress
  next => exact progress
  next => exact progress
  next => exact ⟨progress.1, progress.2.1, by omega⟩
  next => exact ⟨progress.1, progress.2.1, by omega⟩
  next => exact progress
  next => exact progress

/-- A call that finds room returns whether its arguments are valid, whatever the frame
thread does meanwhile. -/
theorem push_outcome {after : AudioRing Sample} {args : PushArgs Sample}
    {actions : List (AudioRingAction Sample)} (sound : ring.Sound) (idle : ring.producer = .idle)
    (room : ring.tail - ring.head < kCapacity)
    (during : ∀ action ∈ actions, ∀ other, action ≠ .push other)
    (executed : Machine.exec AudioRing.step ring (.push args :: actions) = some after)
    (returned : after.producer = .idle) :
    after.returned = ring.returned ++
      [if args.accepted?.isSome then .accepted else .rejectedInvalid] := by
  obtain ⟨entered, pushed, rest⟩ := Machine.exec_cons_eq_some executed
  have begun : Progress args ring.returned entered := by
    obtain ⟨model, refines⟩ := sound
    have free := mt refines.full_iff.mpr (UInt64.not_le.mpr room)
    simp only [AudioRing.step, idle] at pushed
    split at pushed
    next invalid =>
      cases pushed
      exact ⟨by rw [invalid]; rfl, rfl⟩
    next chunk valid =>
      cases pushed
      exact ⟨by rw [valid]; rfl, rfl, Nat.lt_of_not_le free⟩
  have progress : after.Sound ∧ Progress args ring.returned after :=
    Machine.exec_invariant_along
      (fun ring action next (holds : ring.Sound ∧ Progress args _ ring)
          (quiet : ∀ other, action ≠ .push other) stepped => by
        refine ⟨holds.1.step stepped, ?_⟩
        cases action with
        | push other => exact absurd rfl (quiet other)
        | producer => exact holds.2.producer holds.1 stepped
        | consume => exact holds.2.consumer (.inl rfl) stepped
        | consumer => exact holds.2.consumer (.inr rfl) stepped)
      ⟨sound.step pushed, begun⟩ (Machine.along_of_forall during) rest
  have outcome := progress.2
  rw [Progress, returned] at outcome
  exact outcome

def Returns (ring : AudioRing Sample) : Prop :=
  ∃ count after, Machine.exec AudioRing.step ring (List.replicate count .producer) = some after ∧
    after.producer = .idle

theorem Returns.here (idle : ring.producer = .idle) : ring.Returns := ⟨0, ring, rfl, idle⟩

theorem Returns.later (stepped : ring.producerStep = some next) (returns : next.Returns) :
    ring.Returns := by
  obtain ⟨count, after, executed, idle⟩ := returns
  have stepped : AudioRing.step ring .producer = some next := stepped
  refine ⟨count + 1, after, ?_, idle⟩
  rw [List.replicate_succ, Machine.exec_cons, stepped]
  exact executed

theorem returns_of_writing {chunk : AudioChunk Sample} {tail : UInt64}
    {left : List (AudioSlot Sample → AudioSlot Sample)}
    (writing : ring.producer = .writing chunk tail left) : ring.Returns := by
  induction left generalizing ring with
  | nil =>
      apply Returns.later (by rw [producerStep, writing])
      exact .here rfl
  | cons write left inductionHypothesis =>
      apply Returns.later (by rw [producerStep, writing])
      exact inductionHypothesis rfl

theorem returns_of_dropping (dropping : ring.producer = .dropping) : ring.Returns := by
  apply Returns.later (by rw [producerStep, dropping])
  exact .here rfl

theorem returns_of_tailLoaded {chunk : AudioChunk Sample} {tail : UInt64}
    (loaded : ring.producer = .tailLoaded chunk tail) : ring.Returns := by
  by_cases full : kCapacity ≤ tail - ring.head
  · apply Returns.later (by rw [producerStep, loaded]; exact if_pos full)
    exact returns_of_dropping rfl
  · apply Returns.later (by rw [producerStep, loaded]; exact if_neg full)
    exact returns_of_writing rfl

theorem producer_returns (ring : AudioRing Sample) : ring.Returns := by
  cases point : ring.producer with
  | idle => exact .here point
  | rejecting =>
      apply Returns.later (by rw [producerStep, point])
      exact .here rfl
  | entered chunk =>
      apply Returns.later (by rw [producerStep, point])
      exact returns_of_tailLoaded rfl
  | tailLoaded chunk tail => exact returns_of_tailLoaded point
  | dropping => exact returns_of_dropping point
  | writing chunk tail left => exact returns_of_writing point

/-- With room in the ring, a packet that the capture delivers is accepted exactly if it
has at least one and at most 8192 samples; any other is rejected as invalid. -/
theorem captured_outcome_iff {slots : Nat → AudioSlot Sample}
    {history actions : List (AudioRingAction Sample)} {ring after : AudioRing Sample}
    {capture : CaptureLoop} {packet : CapturePacket Sample} {args : PushArgs Sample}
    (reached : Machine.exec AudioRing.step (new slots) history = some ring)
    (idle : ring.producer = .idle) (room : ring.tail - ring.head < kCapacity)
    (delivered : (capture.packet packet).2 = some args)
    (during : ∀ action ∈ actions, ∀ other, action ≠ .push other)
    (executed : Machine.exec AudioRing.step ring (.push args :: actions) = some after)
    (returned : after.producer = .idle) :
    (after.returned = ring.returned ++ [.accepted] ↔
        1 ≤ capture.samples packet ∧ capture.samples packet ≤ 8192) ∧
      (after.returned = ring.returned ++ [.rejectedInvalid] ↔
        ¬ (1 ≤ capture.samples packet ∧ capture.samples packet ≤ 8192)) := by
  have sound : ring.Sound :=
    Machine.exec_invariant (fun _ _ _ sound stepped => sound.step stepped) (sound_new slots) reached
  rw [push_outcome sound idle room during executed returned, List.append_cancel_left_eq,
    List.append_cancel_left_eq, ← CaptureLoop.accepted_iff delivered]
  cases args.accepted?.isSome with
  | true => exact ⟨⟨fun _ => rfl, fun _ => rfl⟩, ⟨nofun, fun invalid => absurd rfl invalid⟩⟩
  | false => exact ⟨⟨nofun, nofun⟩, ⟨fun _ => nofun, fun _ => rfl⟩⟩

def producerIdle (ring : AudioRing Sample) : Bool :=
  match ring.producer with
  | .idle => true
  | _ => false

theorem producer_of_producerIdle {ring : AudioRing Sample} (idle : ring.producerIdle = true) :
    ring.producer = .idle := by
  unfold producerIdle at idle
  split at idle
  next here => exact here
  next => cases idle

def emptyRing : AudioRing Nat := new fun _ => ⟨0, 0, 0, 0, 0, fun _ => 0⟩

def stereoCapture : CaptureLoop := ⟨2, 48000, 0, 0⟩

def twoFrames : CapturePacket Nat := ⟨2, fun i => i, 0⟩

theorem captured_outcome_iff_twoFrames :
    ∃ args after, (stereoCapture.packet twoFrames).2 = some args ∧
      Machine.exec AudioRing.step emptyRing (.push args :: List.replicate 12 .producer) =
        some after ∧
      after.returned = [.accepted] := by
  have observed : (stereoCapture.packet twoFrames).2.bind (fun args =>
      (Machine.exec AudioRing.step emptyRing (.push args :: List.replicate 12 .producer)).map
        fun after => after.producerIdle) = some true := by
    decide +kernel
  obtain ⟨args, delivered, pushed⟩ := Option.bind_eq_some_iff.mp observed
  obtain ⟨after, executed, idle⟩ := Option.map_eq_some_iff.mp pushed
  have during : ∀ action ∈ List.replicate 12 AudioRingAction.producer,
      ∀ other : PushArgs Nat, action ≠ .push other := by
    intro action membership other
    rw [List.eq_of_mem_replicate membership]
    exact nofun
  have returned := producer_of_producerIdle idle
  have reached : Machine.exec AudioRing.step (new fun _ => ⟨0, 0, 0, 0, 0, fun _ => 0⟩) [] =
      some emptyRing := rfl
  have outcome := captured_outcome_iff reached rfl (by decide) delivered during executed returned
  exact ⟨args, after, delivered, executed, outcome.1.mpr (by decide)⟩

def fullPacket : CapturePacket Nat := ⟨8192, fun i => i, 0⟩

/-- The empty ring rejects a stereo packet of 8192 frames, which the capture delivers
whole. -/
theorem full_packet_is_rejected :
    ∃ args after, (stereoCapture.packet fullPacket).2 = some args ∧
      args.frames = fullPacket.frames ∧ emptyRing.tail - emptyRing.head < kCapacity ∧
      Machine.exec AudioRing.step emptyRing [.push args, .producer] = some after ∧
      after.returned = [.rejectedInvalid] := by
  have observed : (stereoCapture.packet fullPacket).2.bind (fun args =>
      (Machine.exec AudioRing.step emptyRing [.push args, .producer]).map
        fun after => (args.frames, after.returned)) = some (8192, [.rejectedInvalid]) := by
    decide +kernel
  obtain ⟨args, delivered, pushed⟩ := Option.bind_eq_some_iff.mp observed
  obtain ⟨after, executed, seen⟩ := Option.map_eq_some_iff.mp pushed
  obtain ⟨frames, returned⟩ := Prod.mk.inj seen
  exact ⟨args, after, delivered, frames, by decide, executed, returned⟩

end AudioRing

end RejiStudio.Pipeline
