import Mathlib.Data.List.Count
import RejiStudio.Lib.SpscRing

/-!
# The audio ring

The capture thread pushes chunks, the frame thread consumes them.  A step is one
atomic access or one copied word of the two functions, in any order.
-/

namespace RejiStudio.Pipeline

open RejiStudio.Lib

def kCapacity : UInt64 := 16

def kMaxSamplesPerChunk : UInt64 := 8192

def kMask : UInt64 := kCapacity - 1

/-- `AudioRing::Slot`. -/
structure AudioSlot (Sample : Type) where
  ptsUs : Int64
  frames : UInt32
  channels : UInt32
  sampleRate : UInt32
  count : UInt32
  data : Nat → Sample

structure AudioChunk (Sample : Type) where
  samples : List Sample
  frames : UInt32
  channels : UInt32
  sampleRate : UInt32
  ptsUs : Int64
  whole : samples.length = frames.toNat * channels.toNat

/-- The arguments of `push`, with the memory behind `samples`; `none` is the null pointer. -/
structure PushArgs (Sample : Type) where
  samples : Option (Nat → Sample)
  frames : UInt32
  channels : UInt32
  sampleRate : UInt32
  ptsUs : Int64

variable {Sample : Type}

namespace PushArgs

def count (args : PushArgs Sample) : UInt64 := args.frames.toUInt64 * args.channels.toUInt64

theorem toNat_count (args : PushArgs Sample) :
    args.count.toNat = args.frames.toNat * args.channels.toNat := by
  have small : args.frames.toNat * args.channels.toNat < 2 ^ 32 * 2 ^ 32 :=
    Nat.mul_lt_mul'' args.frames.toNat_lt args.channels.toNat_lt
  simp only [count, UInt64.toNat_mul, UInt32.toNat_toUInt64]
  exact Nat.mod_eq_of_lt small

/-- The samples that `push` copies. -/
def chunk (args : PushArgs Sample) (samples : Nat → Sample) : AudioChunk Sample where
  samples := (List.range args.count.toNat).map samples
  frames := args.frames
  channels := args.channels
  sampleRate := args.sampleRate
  ptsUs := args.ptsUs
  whole := by rw [List.length_map, List.length_range, toNat_count]

/-- The chunk of a call that is not rejected as invalid. -/
def accepted? (args : PushArgs Sample) : Option (AudioChunk Sample) :=
  match args.samples with
  | none => none
  | some samples =>
      if args.count = 0 ∨ kMaxSamplesPerChunk < args.count then none
      else some (args.chunk samples)

end PushArgs

inductive AudioGlimpse (Sample : Type) where
  | blank
  | gotFrames (frames : UInt32)
  | gotChannels (frames channels : UInt32)
  | gotSampleRate (frames channels sampleRate : UInt32)
  | gotPts (frames channels sampleRate : UInt32) (ptsUs : Int64) (samples : List Sample)

namespace AudioChunk

/-- The assignments of `push`, then the words of its `memcpy`. -/
def writes (chunk : AudioChunk Sample) : List (AudioSlot Sample → AudioSlot Sample) :=
  [fun slot => { slot with ptsUs := chunk.ptsUs },
    fun slot => { slot with frames := chunk.frames },
    fun slot => { slot with channels := chunk.channels },
    fun slot => { slot with sampleRate := chunk.sampleRate },
    fun slot => { slot with count := chunk.samples.length.toUInt32 }] ++
    chunk.samples.zipIdx.map fun (sample, i) slot =>
      { slot with data := Function.update slot.data i sample }

def silent : AudioChunk Sample := ⟨[], 0, 0, 0, 0, rfl⟩

end AudioChunk

namespace AudioGlimpse

def next : AudioGlimpse Sample → Option (AudioSlot Sample → AudioGlimpse Sample)
  | .blank => some fun slot => .gotFrames slot.frames
  | .gotFrames frames => some fun slot => .gotChannels frames slot.channels
  | .gotChannels frames channels =>
      some fun slot => .gotSampleRate frames channels slot.sampleRate
  | .gotSampleRate frames channels sampleRate =>
      some fun slot => .gotPts frames channels sampleRate slot.ptsUs []
  | .gotPts frames channels sampleRate ptsUs samples =>
      if samples.length < frames.toNat * channels.toNat then
        some fun slot =>
          .gotPts frames channels sampleRate ptsUs (samples ++ [slot.data samples.length])
      else
        none

/-- The chunk that `fn` was called with. -/
def finish : AudioGlimpse Sample → AudioChunk Sample
  | .gotPts frames channels sampleRate ptsUs samples =>
      if whole : samples.length = frames.toNat * channels.toNat then
        ⟨samples, frames, channels, sampleRate, ptsUs, whole⟩
      else
        .silent
  | _ => .silent

end AudioGlimpse

def audioCodec : SlotCodec (AudioSlot Sample) (AudioChunk Sample) (AudioGlimpse Sample) where
  writes := AudioChunk.writes
  blank := .blank
  next := AudioGlimpse.next
  finish := AudioGlimpse.finish

/-- Copying samples changes nothing but the data, which holds them afterwards. -/
theorem fill_samples (samples : List Sample) (offset : Nat) (slot : AudioSlot Sample) :
    SlotCodec.fill slot ((samples.zipIdx offset).map fun (sample, i) slot =>
        { slot with data := Function.update slot.data i sample }) =
      { slot with
        data := fun i => if offset ≤ i then samples.getD (i - offset) (slot.data i)
          else slot.data i } := by
  induction samples generalizing offset slot with
  | nil => simp [SlotCodec.fill]
  | cons sample rest inductionHypothesis =>
      rw [List.zipIdx_cons, List.map_cons]
      refine (inductionHypothesis (offset + 1)
        { slot with data := Function.update slot.data offset sample }).trans ?_
      congr 1
      funext i
      dsimp only
      rcases Nat.lt_trichotomy i offset with below | rfl | above
      · rw [if_neg (by omega), if_neg (by omega), Function.update_of_ne (by omega)]
      · rw [if_neg (by omega), if_pos (Nat.le_refl _), Function.update_self, Nat.sub_self]
        rfl
      · rw [if_pos (by omega), if_pos (by omega), Function.update_of_ne (by omega)]
        obtain ⟨distance, rfl⟩ := Nat.exists_eq_add_of_lt above
        have inRest : offset + distance + 1 - (offset + 1) = distance := by omega
        have inWhole : offset + distance + 1 - offset = distance + 1 := by omega
        rw [inRest, inWhole]
        rfl

/-- A slot with a chunk gives its fields and samples to whoever reads it. -/
theorem held_fields {slot : AudioSlot Sample} {chunk : AudioChunk Sample}
    (holds : audioCodec.Holds slot chunk) :
    slot.frames = chunk.frames ∧ slot.channels = chunk.channels ∧
      slot.sampleRate = chunk.sampleRate ∧ slot.ptsUs = chunk.ptsUs ∧
      ∀ i, (inside : i < chunk.samples.length) → slot.data i = chunk.samples[i] := by
  obtain ⟨before, rfl⟩ := holds
  have filled := fill_samples chunk.samples 0 (SlotCodec.fill before
    [fun slot : AudioSlot Sample => { slot with ptsUs := chunk.ptsUs },
      fun slot => { slot with frames := chunk.frames },
      fun slot => { slot with channels := chunk.channels },
      fun slot => { slot with sampleRate := chunk.sampleRate },
      fun slot => { slot with count := chunk.samples.length.toUInt32 }])
  have whole : SlotCodec.fill before (audioCodec.writes chunk) = _ :=
    (SlotCodec.fill_append _ _ _).trans filled
  rw [whole]
  refine ⟨rfl, rfl, rfl, rfl, ?_⟩
  intro i inside
  simp [inside]

def Consistent (chunk : AudioChunk Sample) : AudioGlimpse Sample → Prop
  | .blank => True
  | .gotFrames frames => frames = chunk.frames
  | .gotChannels frames channels => frames = chunk.frames ∧ channels = chunk.channels
  | .gotSampleRate frames channels sampleRate =>
      frames = chunk.frames ∧ channels = chunk.channels ∧ sampleRate = chunk.sampleRate
  | .gotPts frames channels sampleRate ptsUs samples =>
      frames = chunk.frames ∧ channels = chunk.channels ∧ sampleRate = chunk.sampleRate ∧
        ptsUs = chunk.ptsUs ∧ samples = chunk.samples.take samples.length

theorem consistent_of_seen {slot : AudioSlot Sample} {chunk : AudioChunk Sample}
    {glimpse : AudioGlimpse Sample} (holds : audioCodec.Holds slot chunk)
    (seen : audioCodec.Seen slot glimpse) : Consistent chunk glimpse := by
  obtain ⟨frames, channels, sampleRate, ptsUs, data⟩ := held_fields holds
  induction seen with
  | blank => trivial
  | @read glimpse look _ nextLook consistent =>
      cases glimpse with
      | blank =>
          cases nextLook
          exact frames
      | gotFrames gotFrames =>
          cases nextLook
          exact ⟨consistent, channels⟩
      | gotChannels gotFrames gotChannels =>
          cases nextLook
          exact ⟨consistent.1, consistent.2, sampleRate⟩
      | gotSampleRate gotFrames gotChannels gotRate =>
          cases nextLook
          exact ⟨consistent.1, consistent.2.1, consistent.2.2, ptsUs, rfl⟩
      | gotPts gotFrames gotChannels gotRate gotPts samples =>
          obtain ⟨sameFrames, sameChannels, sameRate, samePts, prefix_⟩ := consistent
          obtain ⟨short, equal⟩ := Option.ite_none_right_eq_some.mp nextLook
          cases equal
          have inside : samples.length < chunk.samples.length := by
            rw [chunk.whole, ← sameFrames, ← sameChannels]
            exact short
          refine ⟨sameFrames, sameChannels, sameRate, samePts, ?_⟩
          rw [data _ inside, List.length_append, List.length_singleton,
            ← List.take_append_getElem inside, ← prefix_]

theorem audioCodec_lawful : (@audioCodec Sample).Lawful where
  readsBack := by
    intro slot chunk glimpse holds seen complete
    have consistent := consistent_of_seen holds seen
    cases glimpse with
    | blank => cases complete
    | gotFrames => cases complete
    | gotChannels => cases complete
    | gotSampleRate => cases complete
    | gotPts frames channels sampleRate ptsUs samples =>
        obtain ⟨rfl, rfl, rfl, rfl, prefix_⟩ := consistent
        have long : chunk.samples.length ≤ samples.length := by
          rw [chunk.whole]
          by_contra short
          rw [show audioCodec.next _ = AudioGlimpse.next _ from rfl, AudioGlimpse.next,
            if_pos (Nat.lt_of_not_le short)] at complete
          cases complete
        rw [List.take_of_length_le long] at prefix_
        subst prefix_
        exact dif_pos chunk.whole

/-! ## The ring -/

/-- What a call of `push` did. -/
inductive PushOutcome where
  | accepted
  | droppedFull
  | rejectedInvalid
  deriving DecidableEq

/-- Where the capture thread is in `push`; what it keeps is what it has read. -/
inductive AudioProducer (Sample : Type) where
  | idle
  | rejecting
  | entered (chunk : AudioChunk Sample)
  | tailLoaded (chunk : AudioChunk Sample) (tail : UInt64)
  | dropping
  | writing (chunk : AudioChunk Sample) (tail : UInt64)
      (left : List (AudioSlot Sample → AudioSlot Sample))

/-- Where the frame thread is in `consume`. -/
inductive AudioConsumer (Sample : Type) where
  | idle
  | headLoaded (head : UInt64)
  | reading (head : UInt64) (glimpse : AudioGlimpse Sample)

/-- `AudioRing` between its two threads.  `returned`, `accepted` and `consumed` are
history. -/
structure AudioRing (Sample : Type) where
  slots : Nat → AudioSlot Sample
  head : UInt64
  tail : UInt64
  droppedFull : UInt32
  rejectedInvalid : UInt32
  producer : AudioProducer Sample
  consumer : AudioConsumer Sample
  returned : List PushOutcome
  accepted : List (AudioChunk Sample)
  consumed : List (AudioChunk Sample)

inductive AudioRingAction (Sample : Type) where
  | push (args : PushArgs Sample)
  | producer
  | consume
  | consumer

namespace AudioRing

def new (slots : Nat → AudioSlot Sample) : AudioRing Sample :=
  ⟨slots, 0, 0, 0, 0, .idle, .idle, [], [], []⟩

/-- The next access of `push`. -/
def producerStep (ring : AudioRing Sample) : Option (AudioRing Sample) :=
  match ring.producer with
  | .idle => none
  | .rejecting =>
      some { ring with
        rejectedInvalid := ring.rejectedInvalid + 1
        producer := .idle
        returned := ring.returned ++ [.rejectedInvalid] }
  | .entered chunk => some { ring with producer := .tailLoaded chunk ring.tail }
  | .tailLoaded chunk tail =>
      if kCapacity ≤ tail - ring.head then
        some { ring with producer := .dropping }
      else
        some { ring with producer := .writing chunk tail chunk.writes }
  | .dropping =>
      some { ring with
        droppedFull := ring.droppedFull + 1
        producer := .idle
        returned := ring.returned ++ [.droppedFull] }
  | .writing chunk tail (write :: left) =>
      let index := (tail &&& kMask).toNat
      some { ring with
        slots := Function.update ring.slots index (write (ring.slots index))
        producer := .writing chunk tail left }
  | .writing chunk tail [] =>
      some { ring with
        tail := tail + 1
        producer := .idle
        returned := ring.returned ++ [.accepted]
        accepted := ring.accepted ++ [chunk] }

/-- The next access of `consume`. -/
def consumerStep (ring : AudioRing Sample) : Option (AudioRing Sample) :=
  match ring.consumer with
  | .idle => none
  | .headLoaded head =>
      if head = ring.tail then
        some { ring with consumer := .idle }
      else
        some { ring with consumer := .reading head .blank }
  | .reading head glimpse =>
      match glimpse.next with
      | some look =>
          some { ring with consumer := .reading head (look (ring.slots (head &&& kMask).toNat)) }
      | none =>
          some { ring with
            head := head + 1
            consumer := .idle
            consumed := ring.consumed ++ [glimpse.finish] }

def step : Machine (AudioRing Sample) (AudioRingAction Sample)
  | ring, .push args =>
      match ring.producer with
      | .idle =>
          match args.accepted? with
          | none => some { ring with producer := .rejecting }
          | some chunk => some { ring with producer := .entered chunk }
      | _ => none
  | ring, .producer => ring.producerStep
  | ring, .consume =>
      match ring.consumer with
      | .idle => some { ring with consumer := .headLoaded ring.head }
      | _ => none
  | ring, .consumer => ring.consumerStep

/-! ## Simulation by the general ring -/

abbrev Model (Sample : Type) :=
  SpscRing (AudioSlot Sample) (AudioChunk Sample) (AudioGlimpse Sample)

def ProducerAgrees (ring : AudioRing Sample) (model : Model Sample) : Prop :=
  match ring.producer with
  | .idle | .rejecting | .entered _ | .dropping => model.producer = .idle
  | .tailLoaded _ tail => model.producer = .idle ∧ tail = ring.tail
  | .writing chunk tail left => model.producer = .writing chunk left ∧ tail = ring.tail

def ConsumerAgrees (ring : AudioRing Sample) (model : Model Sample) : Prop :=
  match ring.consumer with
  | .idle => model.consumer = .idle
  | .headLoaded head => model.consumer = .idle ∧ head = ring.head
  | .reading head glimpse => (∃ limit, model.consumer = .reading limit glimpse) ∧ head = ring.head

structure Refines (ring : AudioRing Sample) (model : Model Sample) : Prop where
  slots : ring.slots = model.slots
  head : ring.head = UInt64.ofNat model.released
  tail : ring.tail = UInt64.ofNat model.pushed
  current : model.current = model.released
  accepted : ring.accepted = model.accepted
  consumed : ring.consumed = model.taken
  producer : ProducerAgrees ring model
  consumer : ConsumerAgrees ring model
  invariant : model.Invariant audioCodec 16 16

theorem toNat_sub_counters {released pushed : Nat} (order : released ≤ pushed)
    (near : pushed ≤ released + 16) :
    (UInt64.ofNat pushed - UInt64.ofNat released).toNat = pushed - released := by
  rw [UInt64.toNat_sub]
  simp only [UInt64.toNat_ofNat']
  omega

theorem toNat_and_kMask (counter : Nat) :
    (UInt64.ofNat counter &&& kMask).toNat = counter % 16 := by
  have mask : kMask.toNat = 2 ^ 4 - 1 := rfl
  rw [UInt64.toNat_and, mask, Nat.and_two_pow_sub_one_eq_mod, UInt64.toNat_ofNat']
  omega

theorem counter_ne {released pushed : Nat} (order : released ≤ pushed)
    (near : pushed ≤ released + 16) :
    UInt64.ofNat released = UInt64.ofNat pushed ↔ released = pushed := by
  constructor
  · intro same
    have zero := toNat_sub_counters order near
    rw [same, UInt64.sub_self] at zero
    simp at zero
    omega
  · rintro rfl
    rfl

abbrev modelStep : Machine (Model Sample) (RingAction (AudioChunk Sample)) :=
  SpscRing.step audioCodec 16 16

abbrev Matched (model : Model Sample) (next : AudioRing Sample) : Prop :=
  model.Reaches audioCodec 16 16 next.Refines

variable {ring next : AudioRing Sample} {model : Model Sample}

theorem Refines.matched (action : RingAction (AudioChunk Sample)) {modelNext : Model Sample}
    (invariant : model.Invariant audioCodec 16 16)
    (moved : modelStep model action = some modelNext)
    (refines : modelNext.Invariant audioCodec 16 16 → Refines next modelNext) :
    Matched model next :=
  .by_step audioCodec_lawful (Nat.le_refl _) invariant moved refines

theorem new_refines (slots : Nat → AudioSlot Sample) :
    Refines (new slots) (SpscRing.empty slots) where
  slots := rfl
  head := rfl
  tail := rfl
  current := rfl
  accepted := rfl
  consumed := rfl
  producer := rfl
  consumer := rfl
  invariant := SpscRing.invariant_empty slots

theorem producerStep_matched (refines : Refines ring model)
    (stepped : ring.producerStep = some next) : Matched model next := by
  have order := Nat.le_trans refines.invariant.released refines.invariant.current
  have near := refines.invariant.bounded
  have agrees := refines.producer
  unfold ProducerAgrees at agrees
  unfold producerStep at stepped
  split at stepped
  next => cases stepped
  next rejecting =>
    rw [rejecting] at agrees
    cases stepped
    exact SpscRing.Reaches.here { refines with producer := agrees, consumer := refines.consumer }
  next chunk entered =>
    rw [entered] at agrees
    cases stepped
    exact SpscRing.Reaches.here
      { refines with producer := ⟨agrees, rfl⟩, consumer := refines.consumer }
  next chunk tail loaded =>
    rw [loaded] at agrees
    obtain ⟨idle, sameTail⟩ := agrees
    split at stepped
    next =>
      cases stepped
      exact SpscRing.Reaches.here { refines with producer := idle, consumer := refines.consumer }
    next room =>
      cases stepped
      have free : model.pushed - model.released < 16 := by
        have difference := toNat_sub_counters order near
        rw [← refines.tail, ← refines.head, ← sameTail] at difference
        have small : (tail - ring.head).toNat < kCapacity.toNat :=
          UInt64.lt_iff_toNat_lt.mp (UInt64.not_le.mp room)
        rw [difference] at small
        exact small
      refine Refines.matched (.claim chunk) refines.invariant
        (by simp only [modelStep, SpscRing.step, idle, if_pos free]; rfl) fun invariant => ?_
      exact { refines with
        producer := ⟨rfl, sameTail⟩, consumer := refines.consumer, invariant := invariant }
  next dropping =>
    rw [dropping] at agrees
    cases stepped
    exact SpscRing.Reaches.here { refines with producer := agrees, consumer := refines.consumer }
  next chunk tail write left writing =>
    rw [writing] at agrees
    obtain ⟨modelWriting, sameTail⟩ := agrees
    cases stepped
    have index : (tail &&& kMask).toNat = model.pushed % 16 := by
      rw [sameTail, refines.tail, toNat_and_kMask]
    refine Refines.matched .write refines.invariant
      (by simp only [modelStep, SpscRing.step, modelWriting]; rfl) fun invariant => ?_
    exact { refines with
      slots := by dsimp only; rw [index, refines.slots]
      producer := ⟨rfl, sameTail⟩
      consumer := refines.consumer
      invariant := invariant }
  next chunk tail writing =>
    rw [writing] at agrees
    obtain ⟨modelWriting, sameTail⟩ := agrees
    cases stepped
    refine Refines.matched .publish refines.invariant
      (by simp only [modelStep, SpscRing.step, modelWriting]; rfl) fun invariant => ?_
    exact { refines with
      tail := by
        dsimp only
        rw [sameTail, refines.tail, UInt64.ofNat_add]
        rfl
      accepted := by rw [refines.accepted]
      producer := rfl
      consumer := refines.consumer
      invariant := invariant }

theorem consumerStep_matched (refines : Refines ring model)
    (stepped : ring.consumerStep = some next) : Matched model next := by
  have order := Nat.le_trans refines.invariant.released refines.invariant.current
  have near := refines.invariant.bounded
  have agrees := refines.consumer
  unfold ConsumerAgrees at agrees
  unfold consumerStep at stepped
  split at stepped
  next => cases stepped
  next head loaded =>
    rw [loaded] at agrees
    obtain ⟨idle, sameHead⟩ := agrees
    have apart : head = ring.tail ↔ model.released = model.pushed := by
      rw [sameHead, refines.head, refines.tail]
      exact counter_ne order near
    split at stepped
    next =>
      cases stepped
      exact SpscRing.Reaches.here { refines with producer := refines.producer, consumer := idle }
    next differs =>
      cases stepped
      have behind : model.current < model.pushed := by
        have different := mt apart.mpr differs
        rw [refines.current]
        omega
      have opened : Machine.exec modelStep model [.load, .open_] =
          some { model with consumer := .reading model.pushed .blank } := by
        simp [modelStep, SpscRing.step, idle, behind]
        rfl
      refine .by_exec audioCodec_lawful (Nat.le_refl _) refines.invariant opened
        fun invariant => ?_
      exact { refines with
        producer := refines.producer
        consumer := ⟨⟨_, rfl⟩, sameHead⟩
        invariant := invariant }
  next head glimpse reading =>
    rw [reading] at agrees
    obtain ⟨⟨limit, modelReading⟩, sameHead⟩ := agrees
    split at stepped
    next look nextLook =>
      cases stepped
      have index : (head &&& kMask).toNat = model.current % 16 := by
        rw [sameHead, refines.head, toNat_and_kMask, refines.current]
      have codecNext : audioCodec.next glimpse = some look := nextLook
      refine Refines.matched .read refines.invariant
        (by simp only [modelStep, SpscRing.step, modelReading, codecNext]; rfl) fun invariant => ?_
      exact { refines with
        producer := refines.producer
        consumer := ⟨⟨limit, by rw [index, refines.slots]⟩, sameHead⟩
        invariant := invariant }
    next complete =>
      cases stepped
      have codecNext : audioCodec.next glimpse = none := complete
      have released : Machine.exec modelStep model [.take, .release] =
          some { model with
            current := model.current + 1
            released := model.current + 1
            taken := model.taken ++ [glimpse.finish]
            consumer := .idle } := by
        simp [modelStep, SpscRing.step, modelReading, codecNext]
        rfl
      refine .by_exec audioCodec_lawful (Nat.le_refl _) refines.invariant released
        fun invariant => ?_
      exact { refines with
        head := by
          dsimp only
          rw [sameHead, refines.head, refines.current, UInt64.ofNat_add]
          rfl
        current := rfl
        consumed := by rw [refines.consumed]
        producer := refines.producer
        consumer := rfl
        invariant := invariant }

theorem step_matched {action : AudioRingAction Sample} (refines : Refines ring model)
    (stepped : step ring action = some next) : Matched model next := by
  cases action with
  | push args =>
      simp only [step] at stepped
      split at stepped
      next idle =>
        have agrees : model.producer = .idle := by
          have agrees := refines.producer
          unfold ProducerAgrees at agrees
          rwa [idle] at agrees
        split at stepped <;> cases stepped <;>
          exact SpscRing.Reaches.here
            { refines with producer := agrees, consumer := refines.consumer }
      next => cases stepped
  | producer => exact producerStep_matched refines stepped
  | consume =>
      simp only [step] at stepped
      split at stepped
      next idle =>
        have agrees : model.consumer = .idle := by
          have agrees := refines.consumer
          unfold ConsumerAgrees at agrees
          rwa [idle] at agrees
        cases stepped
        exact SpscRing.Reaches.here
          { refines with producer := refines.producer, consumer := ⟨agrees, rfl⟩ }
      next => cases stepped
  | consumer => exact consumerStep_matched refines stepped

/-! ## The counters -/

structure Counted (ring : AudioRing Sample) : Prop where
  accepted : ring.returned.count .accepted = ring.accepted.length
  droppedFull : ring.droppedFull = UInt32.ofNat (ring.returned.count .droppedFull)
  rejectedInvalid : ring.rejectedInvalid = UInt32.ofNat (ring.returned.count .rejectedInvalid)

theorem step_counted {action : AudioRingAction Sample} (counted : Counted ring)
    (stepped : step ring action = some next) : Counted next := by
  obtain ⟨accepted, droppedFull, rejectedInvalid⟩ := counted
  cases action with
  | push args =>
      simp only [step] at stepped
      split at stepped
      next => split at stepped <;> cases stepped <;> exact ⟨accepted, droppedFull, rejectedInvalid⟩
      next => cases stepped
  | producer =>
      simp only [step, producerStep] at stepped
      split at stepped
      next => cases stepped
      next =>
        cases stepped
        constructor <;> simp [accepted, droppedFull, rejectedInvalid]
      next =>
        cases stepped
        exact ⟨accepted, droppedFull, rejectedInvalid⟩
      next =>
        split at stepped <;> cases stepped <;> exact ⟨accepted, droppedFull, rejectedInvalid⟩
      next =>
        cases stepped
        constructor <;> simp [accepted, droppedFull, rejectedInvalid]
      next =>
        cases stepped
        exact ⟨accepted, droppedFull, rejectedInvalid⟩
      next =>
        cases stepped
        constructor <;> simp [accepted, droppedFull, rejectedInvalid]
  | consume =>
      simp only [step] at stepped
      split at stepped <;> cases stepped
      exact ⟨accepted, droppedFull, rejectedInvalid⟩
  | consumer =>
      simp only [step, consumerStep] at stepped
      split at stepped
      next => cases stepped
      next =>
        split at stepped <;> cases stepped <;> exact ⟨accepted, droppedFull, rejectedInvalid⟩
      next =>
        split at stepped <;> cases stepped <;> exact ⟨accepted, droppedFull, rejectedInvalid⟩

theorem length_returned (returned : List PushOutcome) :
    returned.length = returned.count .accepted + returned.count .droppedFull +
      returned.count .rejectedInvalid := by
  induction returned with
  | nil => rfl
  | cons outcome rest inductionHypothesis =>
      cases outcome <;> simp [inductionHypothesis] <;> omega

/-- In every interleaving of one producer and one consumer: what was consumed is a
prefix of what was accepted and at most sixteen chunks behind it, a slot is not
written while it is read, and every completed call was counted. -/
theorem audioRing_refines_fifo (slots : Nat → AudioSlot Sample)
    (actions : List (AudioRingAction Sample)) (ring : AudioRing Sample)
    (executed : Machine.exec step (new slots) actions = some ring) :
    ring.consumed <+: ring.accepted ∧
    ring.accepted.length ≤ ring.consumed.length + 16 ∧
    (∀ chunk tail left head glimpse, ring.producer = .writing chunk tail left →
      ring.consumer = .reading head glimpse → tail &&& kMask ≠ head &&& kMask) ∧
    (ring.returned.count .droppedFull < 4294967296 →
      ring.returned.count .rejectedInvalid < 4294967296 →
      ring.returned.length =
        ring.accepted.length + ring.droppedFull.toNat + ring.rejectedInvalid.toNat) := by
  obtain ⟨_, model, _, refines⟩ := Machine.exec_simulates (@Refines Sample)
    (fun _ _ _ _ refines stepped => step_matched refines stepped) (new_refines slots) executed
  have counted := Machine.exec_invariant
    (fun _ _ _ counted stepped => step_counted counted stepped)
    (Counted.mk rfl rfl rfl : Counted (new slots)) executed
  refine ⟨?_, ?_, ?_, ?_⟩
  · rw [refines.accepted, refines.consumed]
    exact refines.invariant.taken_prefix
  · rw [refines.accepted, refines.consumed]
    exact refines.invariant.outstanding_le
  · intro chunk tail left head glimpse writing reading same
    have producer := refines.producer
    have consumer := refines.consumer
    rw [ProducerAgrees, writing] at producer
    rw [ConsumerAgrees, reading] at consumer
    obtain ⟨modelWriting, rfl⟩ := producer
    obtain ⟨⟨limit, modelReading⟩, rfl⟩ := consumer
    have inside := refines.invariant.consumerOk
    rw [SpscRing.ConsumerOk, modelReading] at inside
    have free := refines.invariant.writing_slot_free (Nat.le_refl _) modelWriting
      (Nat.le_of_eq refines.current.symm) (Nat.lt_of_lt_of_le inside.1 inside.2.1)
    have indices := congrArg UInt64.toNat same
    rw [refines.tail, refines.head, toNat_and_kMask, toNat_and_kMask, ← refines.current]
      at indices
    exact free indices.symm
  · intro dropped rejected
    rw [length_returned, counted.accepted, counted.droppedFull, counted.rejectedInvalid]
    simp only [UInt32.toNat_ofNat', Nat.mod_eq_of_lt dropped, Nat.mod_eq_of_lt rejected]

def stereoFrame : PushArgs Nat := ⟨some (· + 5), 1, 2, 48000, 0⟩

/-- A frame is pushed and a call rejected; the next push writes while the first frame
is read. -/
def overlappingCalls : List (AudioRingAction Nat) :=
  .push stereoFrame :: List.replicate 10 .producer ++
    [.push { stereoFrame with samples := none }, .producer] ++
    [.push stereoFrame, .consume, .consumer] ++
    (List.replicate 6 [.producer, .consumer]).flatten

theorem audioRing_refines_fifo_overlapping :
    ∃ ring, Machine.exec step (new fun _ => ⟨0, 0, 0, 0, 0, fun _ => 0⟩) overlappingCalls =
        some ring ∧
      ring.accepted.map AudioChunk.samples = [[5, 6]] ∧
      ring.returned = [.accepted, .rejectedInvalid] ∧
      ring.consumed <+: ring.accepted ∧
      ring.returned.length =
        ring.accepted.length + ring.droppedFull.toNat + ring.rejectedInvalid.toNat := by
  have observed : (Machine.exec step (new fun _ => ⟨0, 0, 0, 0, 0, fun _ => 0⟩)
      overlappingCalls).map (fun ring => (ring.accepted.map AudioChunk.samples, ring.returned)) =
      some ([[5, 6]], [.accepted, .rejectedInvalid]) := by
    decide
  obtain ⟨ring, executed, outcome⟩ := Option.map_eq_some_iff.mp observed
  obtain ⟨accepted, returned⟩ := Prod.mk.inj outcome
  obtain ⟨inOrder, _, _, counted⟩ := audioRing_refines_fifo _ overlappingCalls ring executed
  exact ⟨ring, executed, accepted, returned, inOrder,
    counted (by rw [returned]; decide) (by rw [returned]; decide)⟩

end AudioRing

end RejiStudio.Pipeline
