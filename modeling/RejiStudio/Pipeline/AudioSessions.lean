import RejiStudio.Pipeline.AudioRing
import RejiStudio.Pipeline.FirstPacket

/-!
# Audio across sessions

The capture thread pushes into the audio ring while it is in its loop, which it leaves
some time after `stop_stream`.  The frame thread drains the ring in the packet callback,
while the stream is on.  Nothing that starts or stops the stream touches the ring.
-/

namespace RejiStudio.Pipeline

open RejiStudio.Lib

/-- Where the frame thread is: outside the packet callback, past its test of the flag, in
the loop of `drain`, or in the function that `consume` calls, with a chunk that is encoded
or not. -/
inductive DrainPoint where
  | idle
  | packet
  | draining
  | consuming (encodes : Bool)
  deriving DecidableEq

/-- A frame that went out: the chunk that was being encoded, which chunk of the ring that
is, and the counters of the ring when the session began. -/
structure SentAudio (Sample : Type) where
  chunk : AudioChunk Sample
  index : Nat
  acceptedAtStart : Nat
  consumedAtStart : Nat

/-- The stream, the capture thread, the ring and `AudioEncodeBridge`.  The last three
fields are history. -/
structure AudioSessions (Sample : Type) where
  session : StreamSession
  /-- The capture thread is in `capture_loop`. -/
  capturing : Bool
  ring : AudioRing Sample
  sampleRate : UInt32
  channels : UInt32
  enabled : Bool
  encoderReady : Bool
  encoderFailed : Bool
  ascSent : Bool
  frame : DrainPoint
  acceptedAtStart : Nat
  consumedAtStart : Nat
  sent : List (SentAudio Sample)

inductive AudioSessionsAction (Sample : Type) where
  | session (action : SessionAction)
  /-- The capture thread enters or leaves its loop. -/
  | captureLoop (active : Bool)
  | push (args : PushArgs Sample)
  | producer
  /-- `on_packet` up to the test of the flag. -/
  | packet
  /-- `drain` up to its loop, with the answers of the encoder and of the transport. -/
  | drain (encoderInit ascTaken ascRetaken : Bool)
  | consume
  | consumer
  /-- The test of the format in the function that `consume` calls. -/
  | checkFormat
  /-- `on_aac`, with the answer of the transport. -/
  | onAac (ok : Bool)
  /-- The function returns, and `consume` stores the head. -/
  | storeHead

def formatMatches (chunkChannels chunkSampleRate channels sampleRate : UInt32) : Bool :=
  chunkChannels = channels ∧ chunkSampleRate = sampleRate

def ascRetryNeeded (encoderReady ascSent : Bool) : Bool := encoderReady && !ascSent

namespace StreamSession

def begins (session : StreamSession) : SessionAction → Bool
  | .startStream _ => session.initialized && !session.streaming
  | _ => false

end StreamSession

variable {Sample : Type}

namespace AudioRing

variable {ring next : AudioRing Sample}

def Sound (ring : AudioRing Sample) : Prop := ∃ model, Refines ring model

theorem sound_new (slots : Nat → AudioSlot Sample) : (new slots).Sound :=
  ⟨_, new_refines slots⟩

theorem Sound.step {action : AudioRingAction Sample} (sound : ring.Sound)
    (stepped : AudioRing.step ring action = some next) : next.Sound := by
  obtain ⟨model, refines⟩ := sound
  obtain ⟨_, after, _, refined⟩ := step_matched refines stepped
  exact ⟨after, refined⟩

theorem Sound.consumed_prefix_accepted (sound : ring.Sound) : ring.consumed <+: ring.accepted := by
  obtain ⟨model, refines⟩ := sound
  rw [refines.accepted, refines.consumed]
  exact refines.invariant.taken_prefix

theorem Sound.outstanding_le (sound : ring.Sound) :
    ring.accepted.length ≤ ring.consumed.length + 16 := by
  obtain ⟨model, refines⟩ := sound
  rw [refines.accepted, refines.consumed]
  exact refines.invariant.outstanding_le

theorem Sound.finish_eq {head : UInt64} {glimpse : AudioGlimpse Sample} (sound : ring.Sound)
    (reading : ring.consumer = .reading head glimpse) (complete : glimpse.next = none) :
    ring.accepted[ring.consumed.length]? = some glimpse.finish := by
  have stepped : AudioRing.step ring .consumer = some { ring with
      head := head + 1
      consumer := .idle
      consumed := ring.consumed ++ [glimpse.finish] } := by
    change ring.consumerStep = _
    rw [consumerStep, reading]
    dsimp only
    rw [complete]
  obtain ⟨rest, accepted⟩ := (sound.step stepped).consumed_prefix_accepted
  dsimp only at accepted
  rw [← accepted, List.append_assoc, List.getElem?_append_right (Nat.le_refl _), Nat.sub_self]
  rfl

theorem step_grows {action : AudioRingAction Sample}
    (stepped : AudioRing.step ring action = some next) :
    ring.accepted <+: next.accepted ∧ ring.consumed.length ≤ next.consumed.length := by
  cases action with
  | push args =>
      simp only [AudioRing.step] at stepped
      split at stepped
      next => split at stepped <;> cases stepped <;> exact ⟨List.prefix_rfl, Nat.le_refl _⟩
      next => cases stepped
  | producer =>
      simp only [AudioRing.step, producerStep] at stepped
      split at stepped
      next => cases stepped
      next =>
        cases stepped
        exact ⟨List.prefix_rfl, Nat.le_refl _⟩
      next =>
        cases stepped
        exact ⟨List.prefix_rfl, Nat.le_refl _⟩
      next => split at stepped <;> cases stepped <;> exact ⟨List.prefix_rfl, Nat.le_refl _⟩
      next =>
        cases stepped
        exact ⟨List.prefix_rfl, Nat.le_refl _⟩
      next =>
        cases stepped
        exact ⟨List.prefix_rfl, Nat.le_refl _⟩
      next =>
        cases stepped
        exact ⟨List.prefix_append _ _, Nat.le_refl _⟩
  | consume =>
      simp only [AudioRing.step] at stepped
      split at stepped <;> cases stepped
      exact ⟨List.prefix_rfl, Nat.le_refl _⟩
  | consumer =>
      simp only [AudioRing.step, consumerStep] at stepped
      split at stepped
      next => cases stepped
      next => split at stepped <;> cases stepped <;> exact ⟨List.prefix_rfl, Nat.le_refl _⟩
      next =>
        split at stepped
        next =>
          cases stepped
          exact ⟨List.prefix_rfl, Nat.le_refl _⟩
        next =>
          cases stepped
          refine ⟨List.prefix_rfl, ?_⟩
          dsimp only
          rw [List.length_append]
          exact Nat.le_add_right _ _

/-- The capture thread does not touch the consumer. -/
theorem push_consumer {args : PushArgs Sample}
    (stepped : AudioRing.step ring (.push args) = some next) : next.consumer = ring.consumer := by
  simp only [AudioRing.step] at stepped
  split at stepped
  next => split at stepped <;> cases stepped <;> rfl
  next => cases stepped

theorem producer_consumer (stepped : AudioRing.step ring .producer = some next) :
    next.consumer = ring.consumer := by
  simp only [AudioRing.step, producerStep] at stepped
  split at stepped
  case h_1 => cases stepped
  case h_4 => split at stepped <;> cases stepped <;> rfl
  all_goals cases stepped; rfl

end AudioRing

namespace AudioSessions

/-- After `configure`. -/
def start (session : StreamSession) (slots : Nat → AudioSlot Sample)
    (sampleRate channels : UInt32) : AudioSessions Sample where
  session := session
  capturing := false
  ring := .new slots
  sampleRate := sampleRate
  channels := channels
  enabled := true
  encoderReady := false
  encoderFailed := false
  ascSent := false
  frame := .idle
  acceptedAtStart := 0
  consumedAtStart := 0
  sent := []

def moveRing (audio : AudioSessions Sample) (action : AudioRingAction Sample) :
    Option (AudioSessions Sample) :=
  (AudioRing.step audio.ring action).map fun ring => { audio with ring := ring }

def stepSession (audio : AudioSessions Sample) (action : SessionAction) :
    Option (AudioSessions Sample) :=
  if action.thread = .frame ∧ audio.frame ≠ .idle then none
  else
    (StreamSession.step audio.session action).map fun session =>
      if audio.session.begins action then
        { audio with
          session := session
          acceptedAtStart := audio.ring.accepted.length
          consumedAtStart := audio.ring.consumed.length }
      else { audio with session := session }

/-- `WasapiCapture` looks at the request to enter the loop; it leaves between two
callbacks, when it sees the request gone or for a fault of the device. -/
def captureLoop (audio : AudioSessions Sample) (active : Bool) : Option (AudioSessions Sample) :=
  if active then
    match audio.session.audio with
    | some ⟨true, true⟩ => some { audio with capturing := true }
    | _ => none
  else
    match audio.ring.producer with
    | .idle => some { audio with capturing := false }
    | _ => none

/-- `on_audio_capture` and `AudioEncodeBridge::push`. -/
def push (audio : AudioSessions Sample) (args : PushArgs Sample) :
    Option (AudioSessions Sample) :=
  if audio.capturing then
    if audio.enabled then audio.moveRing (.push args) else some audio
  else none

def packet (audio : AudioSessions Sample) : Option (AudioSessions Sample) :=
  if audio.frame = .idle ∧ audio.session.calls .frame = [] then
    some { audio with frame := if audio.session.streaming then .packet else .idle }
  else none

/-- `send_asc_if_ready`. -/
def sendAsc (audio : AudioSessions Sample) (ascTaken : Bool) : AudioSessions Sample :=
  { audio with ascSent := audio.session.transportAtomic.isSome && ascTaken }

def ensureEncoder (audio : AudioSessions Sample) (encoderInit ascTaken : Bool) :
    Bool × AudioSessions Sample :=
  if audio.encoderReady then (true, audio)
  else if audio.encoderFailed then (false, audio)
  else if encoderInit then (true, { audio.sendAsc ascTaken with encoderReady := true })
  else (false, { audio with encoderFailed := true })

def drain (audio : AudioSessions Sample) (encoderInit ascTaken ascRetaken : Bool) :
    Option (AudioSessions Sample) :=
  if audio.frame = .packet then
    if audio.enabled then
      match audio.ensureEncoder encoderInit ascTaken with
      | (false, audio) => some { audio with frame := .idle }
      | (true, audio) =>
          let audio := if ascRetryNeeded audio.encoderReady audio.ascSent then
              audio.sendAsc ascRetaken
            else audio
          some { audio with frame := .draining }
    else some { audio with frame := .idle }
  else none

/-- The next access of `consume` up to the call of the function; an empty ring ends the
loop. -/
def consumer (audio : AudioSessions Sample) : Option (AudioSessions Sample) :=
  match audio.frame, audio.ring.consumer with
  | .draining, .headLoaded head =>
      (audio.moveRing .consumer).map fun moved =>
        if head = audio.ring.tail then { moved with frame := .idle } else moved
  | .draining, .reading _ glimpse =>
      if glimpse.next.isSome then audio.moveRing .consumer else none
  | _, _ => none

/-- A chunk of another format is not encoded and turns the audio off. -/
def checkFormat (audio : AudioSessions Sample) : Option (AudioSessions Sample) :=
  match audio.frame, audio.ring.consumer with
  | .draining, .reading _ glimpse =>
      if glimpse.next.isSome then none
      else if formatMatches glimpse.finish.channels glimpse.finish.sampleRate audio.channels
          audio.sampleRate then
        some { audio with frame := .consuming true }
      else
        some { audio with
          enabled := false
          frame := .consuming false }
  | _, _ => none

def onAac (audio : AudioSessions Sample) (ok : Bool) : Option (AudioSessions Sample) :=
  match audio.frame, audio.ring.consumer with
  | .consuming true, .reading _ glimpse =>
      if audio.session.transportAtomic.isSome && ok then
        some { audio with
          sent := audio.sent ++ [{
            chunk := glimpse.finish
            index := audio.ring.consumed.length
            acceptedAtStart := audio.acceptedAtStart
            consumedAtStart := audio.consumedAtStart }] }
      else some audio
  | _, _ => none

def storeHead (audio : AudioSessions Sample) : Option (AudioSessions Sample) :=
  match audio.frame with
  | .consuming _ =>
      (audio.moveRing .consumer).map fun moved => { moved with frame := .draining }
  | _ => none

def step : Machine (AudioSessions Sample) (AudioSessionsAction Sample)
  | audio, .session action => audio.stepSession action
  | audio, .captureLoop active => audio.captureLoop active
  | audio, .push args => audio.push args
  | audio, .producer => audio.moveRing .producer
  | audio, .packet => audio.packet
  | audio, .drain encoderInit ascTaken ascRetaken =>
      audio.drain encoderInit ascTaken ascRetaken
  | audio, .consume => if audio.frame = .draining then audio.moveRing .consume else none
  | audio, .consumer => audio.consumer
  | audio, .checkFormat => audio.checkFormat
  | audio, .onAac ok => audio.onAac ok
  | audio, .storeHead => audio.storeHead

end AudioSessions

/-! ## The invariant -/

/-- The frame belongs to a chunk that was accepted after the session began, or that was
one of the at most sixteen chunks in the ring at that moment. -/
structure SentAudio.Accounted (accepted : List (AudioChunk Sample)) (frame : SentAudio Sample) :
    Prop where
  chunk : accepted[frame.index]? = some frame.chunk
  since : frame.acceptedAtStart ≤ frame.index ∨
    frame.consumedAtStart ≤ frame.index ∧ frame.index < frame.acceptedAtStart ∧
      frame.acceptedAtStart ≤ frame.consumedAtStart + 16

theorem SentAudio.Accounted.grows {accepted more : List (AudioChunk Sample)}
    {frame : SentAudio Sample} (accounted : frame.Accounted accepted)
    (grows : accepted <+: more) : frame.Accounted more := by
  refine ⟨?_, accounted.since⟩
  obtain ⟨rest, rfl⟩ := grows
  obtain ⟨inside, _⟩ := List.getElem?_eq_some_iff.mp accounted.chunk
  rw [List.getElem?_append_left inside]
  exact accounted.chunk

namespace AudioSessions

/-- The function that `consume` calls has a whole chunk before it. -/
def Complete (frame : DrainPoint) (ring : AudioRing Sample) : Prop :=
  ∀ encodes, frame = .consuming encodes →
    ∃ head glimpse, ring.consumer = .reading head glimpse ∧ glimpse.next = none

structure Invariant (audio : AudioSessions Sample) : Prop where
  ring : audio.ring.Sound
  complete : Complete audio.frame audio.ring
  consumedAtStart : audio.consumedAtStart ≤ audio.ring.consumed.length
  acceptedAtStart : audio.acceptedAtStart ≤ audio.consumedAtStart + 16
  accounted : ∀ frame ∈ audio.sent, frame.Accounted audio.ring.accepted
  recent : ∀ frame ∈ audio.sent, frame.index ≤ audio.ring.consumed.length
  inOrder : (audio.sent.map SentAudio.index).Pairwise (· ≤ ·)

theorem invariant_start (session : StreamSession) (slots : Nat → AudioSlot Sample)
    (sampleRate channels : UInt32) : (start session slots sampleRate channels).Invariant where
  ring := AudioRing.sound_new slots
  complete := nofun
  consumedAtStart := Nat.le_refl _
  acceptedAtStart := Nat.zero_le _
  accounted := nofun
  recent := nofun
  inOrder := .nil

theorem Invariant.withRing {audio : AudioSessions Sample} (invariant : audio.Invariant)
    {action : AudioRingAction Sample} {ring : AudioRing Sample}
    (stepped : AudioRing.step audio.ring action = some ring) {frame : DrainPoint}
    (complete : Complete frame ring) :
    Invariant { audio with
      ring := ring
      frame := frame } where
  ring := invariant.ring.step stepped
  complete := complete
  consumedAtStart := Nat.le_trans invariant.consumedAtStart (AudioRing.step_grows stepped).2
  acceptedAtStart := invariant.acceptedAtStart
  accounted := by
    intro frame member
    exact (invariant.accounted frame member).grows (AudioRing.step_grows stepped).1
  recent := by
    intro frame member
    exact Nat.le_trans (invariant.recent frame member) (AudioRing.step_grows stepped).2
  inOrder := invariant.inOrder

theorem Invariant.untouched {audio other : AudioSessions Sample} (invariant : audio.Invariant)
    (same : other = { audio with
      session := other.session
      capturing := other.capturing
      enabled := other.enabled
      encoderReady := other.encoderReady
      encoderFailed := other.encoderFailed
      ascSent := other.ascSent
      frame := other.frame })
    (complete : Complete other.frame audio.ring) : other.Invariant := by
  rw [same]
  exact ⟨invariant.ring, complete, invariant.consumedAtStart, invariant.acceptedAtStart,
    invariant.accounted, invariant.recent, invariant.inOrder⟩

theorem Invariant.stepSession {audio next : AudioSessions Sample} {action : SessionAction}
    (invariant : audio.Invariant) (stepped : audio.stepSession action = some next) :
    next.Invariant := by
  unfold AudioSessions.stepSession at stepped
  split at stepped
  next => cases stepped
  next =>
    obtain ⟨session, _, rfl⟩ := Option.map_eq_some_iff.mp stepped
    split
    next =>
      exact ⟨invariant.ring, invariant.complete, Nat.le_refl _, invariant.ring.outstanding_le,
        invariant.accounted, invariant.recent, invariant.inOrder⟩
    next => exact invariant.untouched rfl invariant.complete

theorem Invariant.captureLoop {audio next : AudioSessions Sample} {active : Bool}
    (invariant : audio.Invariant) (stepped : audio.captureLoop active = some next) :
    next.Invariant := by
  unfold AudioSessions.captureLoop at stepped
  split at stepped
  · split at stepped
    next =>
      cases stepped
      exact invariant.untouched rfl invariant.complete
    next => cases stepped
  · split at stepped
    next =>
      cases stepped
      exact invariant.untouched rfl invariant.complete
    next => cases stepped

theorem Invariant.push {audio next : AudioSessions Sample} {args : PushArgs Sample}
    (invariant : audio.Invariant) (stepped : audio.push args = some next) :
    next.Invariant := by
  unfold AudioSessions.push at stepped
  split at stepped
  · split at stepped
    · obtain ⟨ring, moved, rfl⟩ := Option.map_eq_some_iff.mp stepped
      refine invariant.withRing moved ?_
      intro encodes consuming
      rw [AudioRing.push_consumer moved]
      exact invariant.complete encodes consuming
    · cases stepped
      exact invariant
  · cases stepped

theorem Invariant.producer {audio next : AudioSessions Sample} (invariant : audio.Invariant)
    (stepped : audio.moveRing .producer = some next) : next.Invariant := by
  obtain ⟨ring, moved, rfl⟩ := Option.map_eq_some_iff.mp stepped
  refine invariant.withRing moved ?_
  intro encodes consuming
  rw [AudioRing.producer_consumer moved]
  exact invariant.complete encodes consuming

theorem Invariant.packet {audio next : AudioSessions Sample} (invariant : audio.Invariant)
    (stepped : audio.packet = some next) : next.Invariant := by
  obtain ⟨_, tested⟩ := Option.ite_none_right_eq_some.mp stepped
  cases tested
  refine invariant.untouched rfl ?_
  intro encodes consuming
  dsimp only at consuming
  split at consuming <;> cases consuming

theorem Invariant.drain {audio next : AudioSessions Sample} {encoderInit ascTaken ascRetaken : Bool}
    (invariant : audio.Invariant)
    (stepped : audio.drain encoderInit ascTaken ascRetaken = some next) : next.Invariant := by
  obtain ⟨_, begun⟩ := Option.ite_none_right_eq_some.mp stepped
  split at begun
  · have ensured : ∀ ready after, audio.ensureEncoder encoderInit ascTaken = (ready, after) →
        after = { audio with
          encoderReady := after.encoderReady
          encoderFailed := after.encoderFailed
          ascSent := after.ascSent } := by
      intro ready after result
      unfold ensureEncoder at result
      split at result
      · cases result
        rfl
      · split at result
        · cases result
          rfl
        · split at result <;> cases result <;> rfl
    split at begun
    next after result =>
      cases begun
      rw [ensured _ _ result]
      exact invariant.untouched rfl nofun
    next after result =>
      cases begun
      rw [ensured _ _ result]
      split <;> exact invariant.untouched rfl nofun
  · cases begun
    exact invariant.untouched rfl nofun

theorem Invariant.consumer {audio next : AudioSessions Sample} (invariant : audio.Invariant)
    (stepped : audio.consumer = some next) : next.Invariant := by
  unfold AudioSessions.consumer at stepped
  split at stepped
  next head draining loaded =>
    obtain ⟨after, moved, rfl⟩ := Option.map_eq_some_iff.mp stepped
    obtain ⟨ring, ringMoved, rfl⟩ := Option.map_eq_some_iff.mp moved
    split
    next => exact invariant.withRing ringMoved nofun
    next =>
      refine invariant.withRing ringMoved ?_
      rw [draining]
      exact nofun
  next draining reading =>
    split at stepped
    next =>
      obtain ⟨ring, ringMoved, rfl⟩ := Option.map_eq_some_iff.mp stepped
      refine invariant.withRing ringMoved ?_
      rw [draining]
      exact nofun
    next => cases stepped
  next => cases stepped

theorem Invariant.checkFormat {audio next : AudioSessions Sample} (invariant : audio.Invariant)
    (stepped : audio.checkFormat = some next) : next.Invariant := by
  unfold AudioSessions.checkFormat at stepped
  split at stepped
  next head glimpse draining reading =>
    split at stepped
    next => cases stepped
    next complete =>
      have whole : ∀ point : DrainPoint, Complete point audio.ring :=
        fun _ _ _ => ⟨head, glimpse, reading, Option.not_isSome_iff_eq_none.mp complete⟩
      split at stepped <;> cases stepped <;> exact invariant.untouched rfl (whole _)
  next => cases stepped

/-- What is sent is the next chunk of the ring, which was not consumed before the session
began. -/
theorem Invariant.onAac {audio next : AudioSessions Sample} {ok : Bool}
    (invariant : audio.Invariant) (stepped : audio.onAac ok = some next) : next.Invariant := by
  unfold AudioSessions.onAac at stepped
  split at stepped
  next head glimpse consuming reading =>
    split at stepped
    next =>
      cases stepped
      obtain ⟨_, _, sameReading, complete⟩ := invariant.complete true consuming
      cases reading.symm.trans sameReading
      have accounted : SentAudio.Accounted audio.ring.accepted {
          chunk := glimpse.finish
          index := audio.ring.consumed.length
          acceptedAtStart := audio.acceptedAtStart
          consumedAtStart := audio.consumedAtStart } := by
        refine ⟨invariant.ring.finish_eq reading complete, ?_⟩
        rcases Nat.lt_or_ge audio.ring.consumed.length audio.acceptedAtStart with before | after
        · exact .inr ⟨invariant.consumedAtStart, before, invariant.acceptedAtStart⟩
        · exact .inl after
      refine ⟨invariant.ring, invariant.complete, invariant.consumedAtStart,
        invariant.acceptedAtStart, ?_, ?_, ?_⟩
      · intro frame member
        rcases List.mem_append.mp member with earlier | last
        · exact invariant.accounted frame earlier
        · rw [List.mem_singleton.mp last]
          exact accounted
      · intro frame member
        rcases List.mem_append.mp member with earlier | last
        · exact invariant.recent frame earlier
        · cases List.mem_singleton.mp last
          exact Nat.le_refl _
      · dsimp only
        rw [List.map_append]
        refine List.pairwise_append.mpr ⟨invariant.inOrder, List.pairwise_singleton _ _, ?_⟩
        intro earlier member last lastMember
        obtain ⟨frame, sent, rfl⟩ := List.mem_map.mp member
        rw [List.mem_singleton.mp lastMember]
        exact invariant.recent frame sent
    next =>
      cases stepped
      exact invariant
  next => cases stepped

theorem Invariant.storeHead {audio next : AudioSessions Sample} (invariant : audio.Invariant)
    (stepped : audio.storeHead = some next) : next.Invariant := by
  unfold AudioSessions.storeHead at stepped
  split at stepped
  next =>
    obtain ⟨after, moved, rfl⟩ := Option.map_eq_some_iff.mp stepped
    obtain ⟨ring, ringMoved, rfl⟩ := Option.map_eq_some_iff.mp moved
    exact invariant.withRing ringMoved nofun
  next => cases stepped

theorem Invariant.step {audio next : AudioSessions Sample} {action : AudioSessionsAction Sample}
    (invariant : audio.Invariant) (stepped : step audio action = some next) :
    next.Invariant := by
  cases action with
  | session action => exact invariant.stepSession stepped
  | captureLoop active => exact invariant.captureLoop stepped
  | push args => exact invariant.push stepped
  | producer => exact invariant.producer stepped
  | packet => exact invariant.packet stepped
  | drain encoderInit ascTaken ascRetaken => exact invariant.drain stepped
  | consume =>
      obtain ⟨draining, loads⟩ := Option.ite_none_right_eq_some.mp stepped
      obtain ⟨ring, moved, rfl⟩ := Option.map_eq_some_iff.mp loads
      refine invariant.withRing moved ?_
      rw [draining]
      exact nofun
  | consumer => exact invariant.consumer stepped
  | checkFormat => exact invariant.checkFormat stepped
  | onAac ok => exact invariant.onAac stepped
  | storeHead => exact invariant.storeHead stepped

/-! ## Whole runs -/

/-- Every frame that is sent belongs to a chunk accepted after its session began, or to one
of the at most sixteen chunks that the ring held then; the chunks are sent in the order in
which they were accepted, so what was left comes first. -/
theorem sent_audio_accounted {session : StreamSession} {slots : Nat → AudioSlot Sample}
    {sampleRate channels : UInt32} {actions : List (AudioSessionsAction Sample)}
    {audio : AudioSessions Sample}
    (executed : Machine.exec step (start session slots sampleRate channels) actions =
      some audio) :
    (∀ frame ∈ audio.sent, frame.Accounted audio.ring.accepted) ∧
      (audio.sent.map SentAudio.index).Pairwise (· ≤ ·) := by
  have invariant : audio.Invariant :=
    Machine.exec_invariant (fun _ _ _ invariant stepped => invariant.step stepped)
      (invariant_start session slots sampleRate channels) executed
  exact ⟨invariant.accounted, invariant.inOrder⟩

def oneFrame (sample : Bool) : PushArgs Bool where
  samples := some fun _ => sample
  frames := 1
  channels := 2
  sampleRate := 48000
  ptsUs := 0

def startByUi : List (AudioSessionsAction Bool) :=
  [.session (.startStream .ui), .session (.advance .ui), .session (.advance .ui),
    .session (.advance .ui)]

def stopByUi : List (AudioSessionsAction Bool) :=
  [.session (.stopStream .ui), .session (.advance .ui), .session (.advance .ui)]

def pushOne (sample : Bool) : List (AudioSessionsAction Bool) :=
  .push (oneFrame sample) :: List.replicate 10 .producer

def drainOne : List (AudioSessionsAction Bool) :=
  [.packet, .drain true true true, .consume] ++ List.replicate 7 .consumer ++
    [.checkFormat, .onAac true, .storeHead]

/-- One chunk is pushed in the first session, one after it, by a capture thread that has not
seen the stop yet; there is no packet before the second session. -/
def leftOver : List (AudioSessionsAction Bool) :=
  startByUi ++ [.captureLoop true] ++ pushOne false ++ stopByUi ++ pushOne true ++
    startByUi ++ drainOne

def quiet : AudioSessions Bool :=
  start (.start true (some 1) true) (fun _ => ⟨0, 0, 0, 0, 0, fun _ => false⟩) 48000 2

/-- What the first session left behind is sent in the second. -/
theorem left_over_is_sent :
    ∃ audio, Machine.exec step quiet leftOver = some audio ∧
      ∃ frame ∈ audio.sent, frame.index < frame.acceptedAtStart := by
  have observed : (Machine.exec step quiet leftOver).map
      (fun audio => audio.sent.map fun frame => (frame.index, frame.acceptedAtStart)) =
      some [(0, 2)] := by
    decide +kernel
  obtain ⟨audio, executed, seen⟩ := Option.map_eq_some_iff.mp observed
  obtain ⟨frame, member, marks⟩ := List.mem_map.mp (seen ▸ List.mem_cons_self)
  refine ⟨audio, executed, frame, member, ?_⟩
  rw [(Prod.mk.inj marks).1, (Prod.mk.inj marks).2]
  decide

/-- Both chunks that were left behind are sent, the older one first. -/
theorem sent_audio_accounted_leftOver :
    ∃ audio, Machine.exec step quiet (leftOver ++ drainOne.drop 2 ++ pushOne true) =
        some audio ∧
      (∀ frame ∈ audio.sent, frame.Accounted audio.ring.accepted) ∧
      (audio.sent.map SentAudio.index).Pairwise (· ≤ ·) := by
  have observed : (Machine.exec step quiet (leftOver ++ drainOne.drop 2 ++ pushOne true)).map
      (fun audio => audio.sent.length) = some 2 := by
    decide +kernel
  obtain ⟨audio, executed, _⟩ := Option.map_eq_some_iff.mp observed
  exact ⟨audio, executed, sent_audio_accounted executed⟩

end AudioSessions

end RejiStudio.Pipeline
