import RejiStudio.Pipeline.AudioSessions

/-!
# The gate on the format of the audio

A chunk that differs from the configured format turns the audio off.  The flag is read
where a drain begins, not in its loop, so the drain that met the chunk goes on with what
the ring still holds.
-/

namespace RejiStudio.Pipeline

open RejiStudio.Lib

variable {Sample : Type}

namespace AudioSessions

/-- The chunk that the function called by `consume` is about to test. -/
def met (audio : AudioSessions Sample) : Option (AudioChunk Sample) :=
  match audio.frame, audio.ring.consumer with
  | .draining, .reading _ glimpse => if glimpse.next.isSome then none else some glimpse.finish
  | _, _ => none

def fits (audio : AudioSessions Sample) (chunk : AudioChunk Sample) : Bool :=
  formatMatches chunk.channels chunk.sampleRate audio.channels audio.sampleRate

def configure (audio : AudioSessions Sample) (sampleRate channels : UInt32) :
    AudioSessions Sample :=
  { audio with
    sampleRate := sampleRate
    channels := channels
    enabled := true }

theorem checkFormat_eq (audio : AudioSessions Sample) :
    audio.checkFormat = audio.met.map fun chunk =>
      if audio.fits chunk then { audio with frame := .consuming true }
      else { audio with
        enabled := false
        frame := .consuming false } := by
  unfold checkFormat met
  cases audio.frame with
  | draining =>
      cases audio.ring.consumer with
      | reading head glimpse =>
          dsimp only
          cases glimpse.next.isSome with
          | true => rfl
          | false =>
              simp only [Bool.false_eq_true, if_false, Option.map_some, fits]
              exact (apply_ite some ..).symm
      | idle | headLoaded => rfl
  | idle | packet | consuming => rfl

theorem met_draining {audio : AudioSessions Sample} {chunk : AudioChunk Sample}
    (meets : audio.met = some chunk) : audio.frame = .draining := by
  unfold met at meets
  split at meets
  next draining _ => exact draining
  next => cases meets

end AudioSessions

def AudioSessionsAction.beginsDrain : AudioSessionsAction Sample → Bool
  | .drain .. => true
  | _ => false

namespace AudioSessions

inductive Moves (audio : AudioSessions Sample) (action : AudioSessionsAction Sample) :
    DrainPoint → Prop
  | stays (elsewhere : action.beginsDrain = false) : Moves audio action audio.frame
  | leaves : Moves audio action .idle
  | packet (idle : audio.frame = .idle) (elsewhere : action.beginsDrain = false) :
      Moves audio action .packet
  | begins (enabled : audio.enabled = true) (drains : action.beginsDrain = true) :
      Moves audio action .draining
  | resumes (encodes : Bool) (consuming : audio.frame = .consuming encodes)
      (elsewhere : action.beginsDrain = false) : Moves audio action .draining

theorem ensureEncoder_enabled (audio : AudioSessions Sample) (encoderInit ascTaken : Bool) :
    (audio.ensureEncoder encoderInit ascTaken).2.enabled = audio.enabled := by
  unfold ensureEncoder
  repeat' split
  all_goals rfl

theorem drain_moves {audio next : AudioSessions Sample} {encoderInit ascTaken ascRetaken : Bool}
    (drained : audio.drain encoderInit ascTaken ascRetaken = some next) :
    next.enabled = audio.enabled ∧
      Moves audio (.drain encoderInit ascTaken ascRetaken) next.frame := by
  have ensured := audio.ensureEncoder_enabled encoderInit ascTaken
  obtain ⟨_, begun⟩ := Option.ite_none_right_eq_some.mp drained
  split at begun
  next enabled =>
    generalize audio.ensureEncoder encoderInit ascTaken = result at ensured begun
    obtain ⟨ready, after⟩ := result
    cases ready with
    | false =>
        cases begun
        exact ⟨ensured, .leaves⟩
    | true =>
        cases begun
        refine ⟨?_, .begins enabled rfl⟩
        dsimp only
        split <;> exact ensured
  next =>
    cases begun
    exact ⟨rfl, .leaves⟩

theorem step_moves {audio next : AudioSessions Sample} {action : AudioSessionsAction Sample}
    (stepped : step audio action = some next) (elsewhere : action ≠ .checkFormat) :
    next.enabled = audio.enabled ∧ Moves audio action next.frame := by
  cases action with
  | session action =>
      simp only [step, stepSession] at stepped
      split at stepped
      next => cases stepped
      next =>
        obtain ⟨session, _, rfl⟩ := Option.map_eq_some_iff.mp stepped
        split <;> exact ⟨rfl, .stays rfl⟩
  | captureLoop active =>
      simp only [step, captureLoop] at stepped
      split at stepped
      · split at stepped <;> cases stepped
        exact ⟨rfl, .stays rfl⟩
      · split at stepped <;> cases stepped
        exact ⟨rfl, .stays rfl⟩
  | push args =>
      simp only [step, push] at stepped
      split at stepped
      · split at stepped
        · obtain ⟨ring, _, rfl⟩ := Option.map_eq_some_iff.mp stepped
          exact ⟨rfl, .stays rfl⟩
        · cases stepped
          exact ⟨rfl, .stays rfl⟩
      · cases stepped
  | producer =>
      obtain ⟨ring, _, rfl⟩ := Option.map_eq_some_iff.mp stepped
      exact ⟨rfl, .stays rfl⟩
  | packet =>
      obtain ⟨waits, tested⟩ := Option.ite_none_right_eq_some.mp stepped
      cases tested
      refine ⟨rfl, ?_⟩
      dsimp only
      split
      · exact .packet waits.1 rfl
      · exact .leaves
  | drain encoderInit ascTaken ascRetaken => exact drain_moves stepped
  | consume =>
      obtain ⟨_, loads⟩ := Option.ite_none_right_eq_some.mp stepped
      obtain ⟨ring, _, rfl⟩ := Option.map_eq_some_iff.mp loads
      exact ⟨rfl, .stays rfl⟩
  | consumer =>
      simp only [step, consumer] at stepped
      split at stepped
      next =>
        obtain ⟨after, moved, rfl⟩ := Option.map_eq_some_iff.mp stepped
        obtain ⟨ring, _, rfl⟩ := Option.map_eq_some_iff.mp moved
        split
        · exact ⟨rfl, .leaves⟩
        · exact ⟨rfl, .stays rfl⟩
      next =>
        obtain ⟨_, moved⟩ := Option.ite_none_right_eq_some.mp stepped
        obtain ⟨ring, _, rfl⟩ := Option.map_eq_some_iff.mp moved
        exact ⟨rfl, .stays rfl⟩
      next => cases stepped
  | checkFormat => exact absurd rfl elsewhere
  | onAac ok =>
      simp only [step, onAac] at stepped
      split at stepped
      next =>
        split at stepped <;> cases stepped <;> exact ⟨rfl, .stays rfl⟩
      next => cases stepped
  | storeHead =>
      simp only [step, storeHead] at stepped
      split at stepped
      next encodes consuming =>
        obtain ⟨after, moved, rfl⟩ := Option.map_eq_some_iff.mp stepped
        obtain ⟨ring, _, rfl⟩ := Option.map_eq_some_iff.mp moved
        exact ⟨rfl, .resumes encodes consuming rfl⟩
      next => cases stepped

end AudioSessions

/-- The audio, and what was met: a chunk of another format since the bridge was
configured, and one in the drain that runs. -/
structure FormatGate (Sample : Type) where
  audio : AudioSessions Sample
  mismatched : Bool
  drainMismatched : Bool

inductive FormatGateAction (Sample : Type) where
  | audio (action : AudioSessionsAction Sample)
  | configure (sampleRate channels : UInt32)

namespace FormatGate

def start (session : StreamSession) (slots : Nat → AudioSlot Sample)
    (sampleRate channels : UInt32) : FormatGate Sample :=
  ⟨.start session slots sampleRate channels, false, false⟩

def mismatches (gate : FormatGate Sample) : AudioSessionsAction Sample → Bool
  | .checkFormat => gate.audio.met.any fun chunk => !gate.audio.fits chunk
  | _ => false

def encodes (gate : FormatGate Sample) : FormatGateAction Sample → Bool
  | .audio .checkFormat => gate.audio.met.any gate.audio.fits
  | _ => false

def sends : FormatGateAction Sample → Bool
  | .audio (.onAac _) => true
  | _ => false

def step : Machine (FormatGate Sample) (FormatGateAction Sample)
  | gate, .audio action =>
      (AudioSessions.step gate.audio action).map fun audio =>
        { audio := audio
          mismatched := gate.mismatched || gate.mismatches action
          drainMismatched := !action.beginsDrain && gate.drainMismatched || gate.mismatches action }
  | gate, .configure sampleRate channels =>
      if gate.audio.frame = .idle then
        some { gate with
          audio := gate.audio.configure sampleRate channels
          mismatched := false }
      else none

def Silent (gate : FormatGate Sample) (action : FormatGateAction Sample) : Prop :=
  gate.mismatched = true → gate.encodes action = false ∧ sends action = false

/-- No chunk of the configured format comes after another one in the same drain. -/
def Separated (gate : FormatGate Sample) (action : FormatGateAction Sample) : Prop :=
  gate.drainMismatched = true → gate.encodes action = false

instance (gate : FormatGate Sample) (action : FormatGateAction Sample) :
    Decidable (gate.Silent action) :=
  inferInstanceAs (Decidable (_ → _))

instance (gate : FormatGate Sample) (action : FormatGateAction Sample) :
    Decidable (gate.Separated action) :=
  inferInstanceAs (Decidable (_ → _))

/-- With the audio off after another format, the frame thread is outside the loop of
`drain`, or in that of the drain that met it. -/
structure Invariant (gate : FormatGate Sample) : Prop where
  off : gate.mismatched = true → gate.audio.enabled = false
  point : gate.mismatched = true → gate.audio.frame = .idle ∨ gate.audio.frame = .packet ∨
    gate.drainMismatched = true ∧
      (gate.audio.frame = .draining ∨ gate.audio.frame = .consuming false)
  current : gate.drainMismatched = true → gate.audio.frame ≠ .idle → gate.audio.frame ≠ .packet →
    gate.mismatched = true

theorem invariant_start (session : StreamSession) (slots : Nat → AudioSlot Sample)
    (sampleRate channels : UInt32) : (start session slots sampleRate channels).Invariant :=
  ⟨nofun, nofun, nofun⟩

/-- While a chunk is tested the two histories agree. -/
theorem Invariant.draining {gate : FormatGate Sample} (invariant : gate.Invariant)
    (draining : gate.audio.frame = .draining) :
    gate.mismatched = true ↔ gate.drainMismatched = true := by
  constructor
  · intro mismatched
    rcases invariant.point mismatched with idle | packet | ⟨same, _⟩
    · rw [draining] at idle
      contradiction
    · rw [draining] at packet
      contradiction
    · exact same
  · intro same
    apply invariant.current same
    · rw [draining]
      exact nofun
    · rw [draining]
      exact nofun

theorem Invariant.checkFormat {gate next : FormatGate Sample} (invariant : gate.Invariant)
    (separated : gate.Separated (.audio .checkFormat))
    (stepped : gate.step (.audio .checkFormat) = some next) : next.Invariant := by
  obtain ⟨audio, checked, rfl⟩ := Option.map_eq_some_iff.mp stepped
  have checked : gate.audio.checkFormat = some audio := checked
  rw [AudioSessions.checkFormat_eq] at checked
  obtain ⟨chunk, meets, rfl⟩ := Option.map_eq_some_iff.mp checked
  have agree := invariant.draining (AudioSessions.met_draining meets)
  simp only [Separated, encodes, meets, Option.any_some] at separated
  simp only [mismatches, meets, Option.any_some, AudioSessionsAction.beginsDrain, Bool.not_false,
    Bool.true_and]
  cases fits : gate.audio.fits chunk with
  | true =>
      rw [fits] at separated
      have clean : gate.drainMismatched = false :=
        Bool.eq_false_iff.mpr fun met => Bool.noConfusion (separated met)
      have open_ : gate.mismatched = false :=
        Bool.eq_false_iff.mpr fun met => Bool.noConfusion (clean.symm.trans (agree.mp met))
      simp only [clean, open_, Bool.not_true, Bool.or_false]
      exact ⟨nofun, nofun, nofun⟩
  | false =>
      simp only [Bool.not_false, Bool.or_true]
      exact ⟨fun _ => rfl, fun _ => .inr (.inr ⟨rfl, .inr rfl⟩), fun _ _ _ => rfl⟩

theorem Invariant.step {gate next : FormatGate Sample} {action : FormatGateAction Sample}
    (invariant : gate.Invariant) (separated : gate.Separated action)
    (stepped : gate.step action = some next) : next.Invariant := by
  cases action with
  | configure sampleRate channels =>
      obtain ⟨idle, configured⟩ := Option.ite_none_right_eq_some.mp stepped
      cases configured
      exact ⟨nofun, nofun, fun _ busy => absurd idle busy⟩
  | audio action =>
      by_cases checks : action = .checkFormat
      · subst checks
        exact invariant.checkFormat separated stepped
      · obtain ⟨audio, moved, rfl⟩ := Option.map_eq_some_iff.mp stepped
        obtain ⟨enabled, moves⟩ := AudioSessions.step_moves moved checks
        have quiet : gate.mismatches action = false := by
          cases action with
          | checkFormat => exact absurd rfl checks
          | _ => rfl
        simp only [quiet, Bool.or_false]
        refine ⟨fun mismatched => enabled.trans (invariant.off mismatched), ?_, ?_⟩
        · intro mismatched
          dsimp only at mismatched ⊢
          generalize audio.frame = frame at moves ⊢
          cases moves with
          | stays elsewhere =>
              rw [elsewhere]
              exact invariant.point mismatched
          | leaves => exact .inl rfl
          | packet => exact .inr (.inl rfl)
          | begins on => exact absurd on (by rw [invariant.off mismatched]; exact nofun)
          | resumes encodes consuming elsewhere =>
              rw [elsewhere]
              rcases invariant.point mismatched with idle | packet | ⟨same, _⟩
              · rw [consuming] at idle
                contradiction
              · rw [consuming] at packet
                contradiction
              · exact .inr (.inr ⟨same, .inl rfl⟩)
        · intro same busy received
          dsimp only at same busy received ⊢
          generalize audio.frame = frame at moves busy received
          cases moves with
          | stays elsewhere =>
              rw [elsewhere] at same
              exact invariant.current same busy received
          | leaves => exact absurd rfl busy
          | packet => exact absurd rfl received
          | begins _ drains =>
              rw [drains] at same
              contradiction
          | resumes encodes consuming elsewhere =>
              rw [elsewhere] at same
              apply invariant.current same
              · rw [consuming]
                exact nofun
              · rw [consuming]
                exact nofun

theorem Invariant.silent_iff {gate next : FormatGate Sample} {action : FormatGateAction Sample}
    (invariant : gate.Invariant) (stepped : gate.step action = some next) :
    gate.Separated action ↔ gate.Silent action := by
  unfold Separated Silent
  cases action with
  | configure sampleRate channels => exact ⟨fun _ _ => ⟨rfl, rfl⟩, fun _ _ => rfl⟩
  | audio action =>
      cases action with
      | checkFormat =>
          obtain ⟨audio, checked, _⟩ := Option.map_eq_some_iff.mp stepped
          have checked : gate.audio.checkFormat = some audio := checked
          rw [AudioSessions.checkFormat_eq] at checked
          obtain ⟨chunk, meets, _⟩ := Option.map_eq_some_iff.mp checked
          rw [invariant.draining (AudioSessions.met_draining meets)]
          constructor
          · intro separated same
            exact ⟨separated same, rfl⟩
          · intro silent same
            exact (silent same).1
      | onAac ok =>
          obtain ⟨audio, handed, _⟩ := Option.map_eq_some_iff.mp stepped
          refine ⟨fun _ mismatched => absurd ?_ (Bool.false_ne_true), fun _ _ => rfl⟩
          have handed : gate.audio.onAac ok = some audio := handed
          unfold AudioSessions.onAac at handed
          split at handed
          next consuming _ =>
            have point := invariant.point mismatched
            simp [consuming] at point
          next => cases handed
      | _ => exact ⟨fun _ _ => ⟨rfl, rfl⟩, fun _ _ => rfl⟩

/-- Audio stays off after a chunk of another format exactly in the runs where no drain
that met one meets a chunk of the configured format after it. -/
theorem silent_iff_separated {session : StreamSession} {slots : Nat → AudioSlot Sample}
    {sampleRate channels : UInt32} {actions : List (FormatGateAction Sample)}
    {finish : FormatGate Sample}
    (executed : Machine.exec step (start session slots sampleRate channels) actions =
      some finish) :
    Machine.Along step Silent (start session slots sampleRate channels) actions ↔
      Machine.Along step Separated (start session slots sampleRate channels) actions := by
  have congruent := Machine.along_congr
    (fun _ _ _ (invariant : Invariant _) separated stepped => invariant.step separated stepped)
    (fun _ _ _ invariant stepped => invariant.silent_iff stepped)
    (invariant_start session slots sampleRate channels) executed
  exact congruent.symm

def monoFrame : PushArgs Bool where
  samples := some fun _ => false
  frames := 1
  channels := 1
  sampleRate := 48000
  ptsUs := 0

def monoFirst : List (AudioSessionsAction Bool) :=
  AudioSessions.startByUi ++ [.captureLoop true] ++
    .push monoFrame :: List.replicate 9 .producer

def drainMono : List (AudioSessionsAction Bool) :=
  [.packet, .drain true true true, .consume] ++ List.replicate 6 .consumer ++
    [.checkFormat, .storeHead]

def stereoBehindMono : List (FormatGateAction Bool) :=
  List.map .audio (monoFirst ++ AudioSessions.pushOne true ++ drainMono ++
    AudioSessions.drainOne.drop 2)

def stereoGate : FormatGate Bool :=
  start (.start true (some 1) true) (fun _ => ⟨0, 0, 0, 0, 0, fun _ => false⟩) 48000 2

/-- The stereo chunk is encoded and sent after the mono one. -/
theorem stereo_behind_mono_is_sent :
    ∃ finish, Machine.exec step stereoGate stereoBehindMono = some finish ∧
      finish.mismatched = true ∧ finish.audio.enabled = false ∧ finish.audio.sent.length = 1 ∧
      ¬ Machine.Along step Silent stereoGate stereoBehindMono := by
  have observed : (Machine.exec step stereoGate stereoBehindMono).map
      (fun gate => (gate.mismatched, gate.audio.enabled, gate.audio.sent.length)) =
      some (true, false, 1) := by
    decide +kernel
  have loud : ¬ Machine.Along step Silent stereoGate stereoBehindMono := by
    decide +kernel
  obtain ⟨finish, executed, seen⟩ := Option.map_eq_some_iff.mp observed
  obtain ⟨mismatched, rest⟩ := Prod.mk.inj seen
  obtain ⟨enabled, sent⟩ := Prod.mk.inj rest
  exact ⟨finish, executed, mismatched, enabled, sent, loud⟩

/-- The stereo chunk comes first; after the mono one the drain ends, and neither a push
nor a packet does anything. -/
def monoBehindStereo : List (FormatGateAction Bool) :=
  List.map .audio (AudioSessions.startByUi ++ [.captureLoop true] ++
    AudioSessions.pushOne true ++ .push monoFrame :: List.replicate 9 .producer ++
    AudioSessions.drainOne ++ drainMono.drop 2 ++
    [.consume, .consumer, .push (AudioSessions.oneFrame false), .packet, .drain true true true])

theorem silent_iff_separated_monoBehindStereo :
    ∃ finish, Machine.exec step stereoGate monoBehindStereo = some finish ∧
      finish.mismatched = true ∧ finish.audio.frame = .idle ∧ finish.audio.sent.length = 1 ∧
      Machine.Along step Silent stereoGate monoBehindStereo := by
  have observed : (Machine.exec step stereoGate monoBehindStereo).map
      (fun gate => (gate.mismatched, gate.audio.frame, gate.audio.sent.length)) =
      some (true, .idle, 1) := by
    decide +kernel
  have separated : Machine.Along step Separated stereoGate monoBehindStereo := by
    decide +kernel
  obtain ⟨finish, executed, seen⟩ := Option.map_eq_some_iff.mp observed
  obtain ⟨mismatched, rest⟩ := Prod.mk.inj seen
  obtain ⟨frame, sent⟩ := Prod.mk.inj rest
  exact ⟨finish, executed, mismatched, frame, sent,
    (silent_iff_separated executed).mpr separated⟩

end FormatGate

end RejiStudio.Pipeline
