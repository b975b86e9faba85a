import RejiStudio.Pipeline.FirstPacket

/-!
# Requests for an IDR frame

`start_stream` and the cadence ask for an IDR frame through one flag.
`EncodeSubsystem::encode_frame` exchanges the flag before NVENC gets the frame, and
NVENC may fail.  The cadence does not ask twice before it has seen a key frame.
-/

namespace RejiStudio.Pipeline

open RejiStudio.Lib

namespace IdrCadence

def Armed (cadence : IdrCadence) : Prop :=
  ∀ nowPtsUs, ¬nowPtsUs - cadence.lastKeyframePtsUs < cadence.intervalUs →
    (cadence.shouldForceIdr nowPtsUs).1 = true

def Blocked (cadence : IdrCadence) : Prop :=
  ∀ nowPtsUs, (cadence.shouldForceIdr nowPtsUs).1 = false

theorem armed_iff {cadence : IdrCadence} :
    cadence.Armed ↔ cadence.haveEpoch = true ∧ cadence.pending = false := by
  unfold Armed shouldForceIdr
  constructor
  · intro armed
    have elapsed : ¬cadence.lastKeyframePtsUs + cadence.intervalUs -
        cadence.lastKeyframePtsUs < cadence.intervalUs := by
      rw [Int64.add_comm, Int64.add_sub_cancel]
      exact Int64.lt_irrefl
    have asked := armed _ elapsed
    rw [if_neg elapsed] at asked
    cases epoch : cadence.haveEpoch <;> cases pending : cadence.pending <;>
      simp [epoch, pending] at asked ⊢
  · rintro ⟨epoch, notPending⟩ nowPtsUs elapsed
    simp [epoch, notPending, elapsed]

theorem blocked_iff {cadence : IdrCadence} : cadence.Blocked ↔ ¬cadence.Armed := by
  rw [armed_iff]
  constructor
  · rintro blocked ⟨epoch, notPending⟩
    have asked := armed_iff.mpr ⟨epoch, notPending⟩
      (cadence.intervalUs + cadence.lastKeyframePtsUs)
    rw [Int64.add_sub_cancel, blocked] at asked
    exact absurd (asked Int64.lt_irrefl) Bool.false_ne_true
  · intro notArmed nowPtsUs
    unfold shouldForceIdr
    cases epoch : cadence.haveEpoch <;> cases pending : cadence.pending <;>
      simp_all

theorem armed_onKeyframe (cadence : IdrCadence) (ptsUs : Int64) :
    (cadence.onKeyframe ptsUs).Armed :=
  armed_iff.mpr ⟨rfl, rfl⟩

theorem shouldForceIdr_silent {cadence : IdrCadence} {nowPtsUs : Int64}
    (silent : (cadence.shouldForceIdr nowPtsUs).1 = false) :
    (cadence.shouldForceIdr nowPtsUs).2 = cadence := by
  unfold shouldForceIdr at silent ⊢
  split
  · rfl
  · split
    · rfl
    · simp_all

end IdrCadence

namespace StreamSession

def requests (session : StreamSession) : SessionAction → Bool
  | .advance thread => (session.calls thread).head? = some .requestIdr
  | _ => false

theorem step_forceIdr {session next : StreamSession} {action : SessionAction}
    (stepped : step session action = some next) :
    next.forceIdr = (session.forceIdr || session.requests action) := by
  cases action with
  | startStream thread =>
      obtain ⟨_, called⟩ := Option.ite_none_right_eq_some.mp stepped
      cases called
      rw [(session.startStream_idle thread).1]
      exact (Bool.or_false _).symm
  | stopStream thread =>
      obtain ⟨_, called⟩ := Option.ite_none_right_eq_some.mp stepped
      cases called
      rw [(session.stopStream_idle thread).1]
      exact (Bool.or_false _).symm
  | advance thread =>
      change session.advance thread = some next at stepped
      unfold advance at stepped
      split at stepped
      next => cases stepped
      next effect rest calls =>
        cases stepped
        cases effect <;> simp [requests, calls, perform]

end StreamSession

/-- Where the frame thread is: between two frames, in NVENC with the request it took, or
in the callback of a packet. -/
inductive EncodePoint where
  | idle
  | encoding (ptsUs : Int64) (forceIdr : Bool)
  | callback (forceIdr : Bool)
  deriving DecidableEq

/-- What `encode_one` comes to: an error, success with no packet (NVENC wants more input,
or the bitstream is empty), or a packet. -/
inductive EncodeOutcome where
  | failed
  | withoutPacket
  | packet (isKeyframe : Bool)
  deriving DecidableEq

/-- `unserved` is history. -/
structure IdrFlow where
  session : StreamSession
  encoder : Bool
  idrCadence : IdrCadence
  frame : EncodePoint
  /-- No forced encode has succeeded since the last request. -/
  unserved : Bool

inductive IdrAction where
  | session (action : SessionAction)
  /-- `run_frame` has a frame to encode, a new one or the last one again. -/
  | encodeFrame (ptsUs : Int64)
  | encodeOne (outcome : EncodeOutcome)
  /-- The callback is done. -/
  | ret
  /-- A new encoder for a device that was lost. -/
  | reinit (ok : Bool)
  deriving DecidableEq

namespace IdrFlow

def start (session : StreamSession) (encoder : Bool) : IdrFlow where
  session := session
  encoder := encoder
  idrCadence := .start
  frame := .idle
  unserved := session.forceIdr

def stepSession (flow : IdrFlow) (action : SessionAction) : Option IdrFlow :=
  if action.thread = .frame ∧ flow.frame ≠ .idle then none
  else
    (StreamSession.step flow.session action).map fun session =>
      { flow with
        session := session
        unserved := flow.unserved || flow.session.requests action }

def requestIdr (flow : IdrFlow) : IdrFlow :=
  { flow with
    session := { flow.session with forceIdr := true }
    unserved := true }

def maybeForceIdr (flow : IdrFlow) (ptsUs : Int64) : IdrFlow :=
  let (force, idrCadence) := flow.idrCadence.shouldForceIdr ptsUs
  let asked := { flow with idrCadence := idrCadence }
  if force then asked.requestIdr else asked

/-- `EncodeSubsystem::encode_frame` up to the encoder. -/
def encodeFrame (flow : IdrFlow) (ptsUs : Int64) : IdrFlow :=
  if flow.encoder then
    { flow with
      session := { flow.session with forceIdr := false }
      frame := .encoding ptsUs flow.session.forceIdr }
  else flow

/-- `encode_frame` returns true. -/
def encoded (flow : IdrFlow) (forceIdr : Bool) : IdrFlow :=
  { flow with
    frame := .idle
    unserved := flow.unserved && (!forceIdr || flow.session.forceIdr) }

def encodeOne (flow : IdrFlow) (outcome : EncodeOutcome) : Option IdrFlow :=
  match flow.frame with
  | .encoding ptsUs forceIdr =>
      match outcome with
      | .failed => some { flow with frame := .idle }
      | .withoutPacket => some (flow.encoded forceIdr)
      | .packet isKeyframe =>
          some { flow with
            idrCadence :=
              if isKeyframe then flow.idrCadence.onKeyframe ptsUs else flow.idrCadence
            frame := .callback forceIdr }
  | _ => none

def ret (flow : IdrFlow) : Option IdrFlow :=
  match flow.frame with
  | .callback forceIdr => some (flow.encoded forceIdr)
  | _ => none

def step : Machine IdrFlow IdrAction
  | flow, .session action => flow.stepSession action
  | flow, .encodeFrame ptsUs =>
      if flow.frame = .idle ∧ flow.session.calls .frame = [] then
        some ((flow.maybeForceIdr ptsUs).encodeFrame ptsUs)
      else none
  | flow, .encodeOne outcome => flow.encodeOne outcome
  | flow, .ret => flow.ret
  | flow, .reinit ok => if flow.frame = .idle then some { flow with encoder := ok } else none

def forced (flow : IdrFlow) : Bool :=
  match flow.frame with
  | .idle => false
  | .encoding _ forceIdr => forceIdr
  | .callback forceIdr => forceIdr

/-- A request that no forced encode has served is outstanding, with the encoder, or asked
again by the cadence once its interval has elapsed. -/
def RequestKept (flow : IdrFlow) : Prop :=
  flow.unserved = true →
    flow.session.forceIdr = true ∨ flow.forced = true ∨ flow.idrCadence.Armed

def RequestKeptAfter (flow : IdrFlow) (action : IdrAction) : Prop :=
  ∀ next, step flow action = some next → next.RequestKept

/-- NVENC fails on a forced frame only when there is another request, or when the cadence
knows a key frame and has not asked since. -/
def FailureCovered (flow : IdrFlow) : IdrAction → Prop
  | .encodeOne .failed =>
      flow.forced = true → flow.session.forceIdr = true ∨
        flow.idrCadence.haveEpoch = true ∧ flow.idrCadence.pending = false
  | _ => True

instance (flow : IdrFlow) (action : IdrAction) : Decidable (flow.FailureCovered action) := by
  unfold FailureCovered
  split <;> infer_instance

/-! ## One tick -/

theorem tick_eq (flow : IdrFlow) (ptsUs : Int64) :
    (flow.maybeForceIdr ptsUs).encodeFrame ptsUs =
      { flow with
        session := { flow.session with
          forceIdr := !flow.encoder &&
            (flow.session.forceIdr || (flow.idrCadence.shouldForceIdr ptsUs).1) }
        idrCadence := (flow.idrCadence.shouldForceIdr ptsUs).2
        frame :=
          if flow.encoder then
            .encoding ptsUs
              (flow.session.forceIdr || (flow.idrCadence.shouldForceIdr ptsUs).1)
          else flow.frame
        unserved := flow.unserved || (flow.idrCadence.shouldForceIdr ptsUs).1 } := by
  unfold maybeForceIdr
  generalize flow.idrCadence.shouldForceIdr ptsUs = answer
  obtain ⟨asked, cadence⟩ := answer
  cases asked <;> cases present : flow.encoder <;>
    simp [encodeFrame, requestIdr]

/-- A request that is outstanding, or due by the cadence, goes with the frame. -/
theorem tick_forced {flow : IdrFlow} {ptsUs : Int64} (present : flow.encoder = true)
    (due : flow.session.forceIdr = true ∨ (flow.idrCadence.shouldForceIdr ptsUs).1 = true) :
    ((flow.maybeForceIdr ptsUs).encodeFrame ptsUs).frame = .encoding ptsUs true := by
  rw [tick_eq]
  dsimp only
  rw [if_pos present]
  rcases due with outstanding | asked
  · rw [outstanding, Bool.true_or]
  · rw [asked, Bool.or_true]

/-! ## The invariant -/

/-- The history knows every request that is under way. -/
structure Invariant (flow : IdrFlow) : Prop where
  outstanding : flow.session.forceIdr = true → flow.unserved = true
  taken : flow.forced = true → flow.unserved = true

theorem invariant_start (session : StreamSession) (encoder : Bool) :
    (start session encoder).Invariant :=
  ⟨id, nofun⟩

theorem requestKept_start (session : StreamSession) (encoder : Bool) :
    (start session encoder).RequestKept :=
  .inl

/-- Between two frames the encoder has no request. -/
theorem forced_idle {flow : IdrFlow} (idle : flow.frame = .idle) : flow.forced = false := by
  rw [forced, idle]

theorem Invariant.encoded {flow : IdrFlow} (invariant : flow.Invariant) (forceIdr : Bool) :
    (flow.encoded forceIdr).Invariant where
  outstanding := by
    intro outstanding
    dsimp only [IdrFlow.encoded] at outstanding ⊢
    rw [invariant.outstanding outstanding, outstanding, Bool.or_true, Bool.and_true]
  taken := nofun

/-- After success a request counts as unserved only if it is a later one. -/
theorem RequestKept.encoded {flow : IdrFlow} (kept : flow.RequestKept) :
    (flow.encoded flow.forced).RequestKept := by
  intro unserved
  obtain ⟨before, later⟩ := (Bool.and_eq_true _ _).mp unserved
  rcases kept before with outstanding | forced | armed
  · exact .inl outstanding
  · rw [forced, Bool.not_true, Bool.false_or] at later
    exact .inl later
  · exact .inr (.inr armed)

theorem Invariant.stepSession {flow next : IdrFlow} {action : SessionAction}
    (invariant : flow.Invariant) (stepped : flow.stepSession action = some next) :
    next.Invariant := by
  unfold IdrFlow.stepSession at stepped
  split at stepped
  next => cases stepped
  next =>
    obtain ⟨session, called, rfl⟩ := Option.map_eq_some_iff.mp stepped
    constructor
    · intro outstanding
      dsimp only at outstanding ⊢
      rw [StreamSession.step_forceIdr called, Bool.or_eq_true] at outstanding
      rw [Bool.or_eq_true]
      exact outstanding.imp invariant.outstanding id
    · intro taken
      exact (Bool.or_eq_true _ _).mpr (.inl (invariant.taken taken))

theorem RequestKept.stepSession {flow next : IdrFlow} {action : SessionAction}
    (kept : flow.RequestKept) (stepped : flow.stepSession action = some next) :
    next.RequestKept := by
  unfold IdrFlow.stepSession at stepped
  split at stepped
  next => cases stepped
  next =>
    obtain ⟨session, called, rfl⟩ := Option.map_eq_some_iff.mp stepped
    intro unserved
    dsimp only at unserved ⊢
    rw [StreamSession.step_forceIdr called, Bool.or_eq_true]
    rcases (Bool.or_eq_true _ _).mp unserved with before | requests
    · exact (kept before).imp .inl id
    · exact .inl (.inr requests)

theorem Invariant.tick {flow : IdrFlow} (invariant : flow.Invariant) (ptsUs : Int64) :
    ((flow.maybeForceIdr ptsUs).encodeFrame ptsUs).Invariant := by
  have due : (flow.session.forceIdr || (flow.idrCadence.shouldForceIdr ptsUs).1) = true →
      (flow.unserved || (flow.idrCadence.shouldForceIdr ptsUs).1) = true := by
    rw [Bool.or_eq_true, Bool.or_eq_true]
    exact Or.imp invariant.outstanding id
  rw [tick_eq]
  constructor
  · intro outstanding
    exact due ((Bool.and_eq_true _ _).mp outstanding).2
  · intro taken
    unfold forced at taken
    dsimp only at taken ⊢
    cases present : flow.encoder with
    | true =>
        rw [if_pos present] at taken
        exact due taken
    | false =>
        rw [if_neg (Bool.eq_false_iff.mp present)] at taken
        rw [invariant.taken taken, Bool.true_or]

theorem RequestKept.tick {flow : IdrFlow} (kept : flow.RequestKept) (idle : flow.frame = .idle)
    (ptsUs : Int64) : ((flow.maybeForceIdr ptsUs).encodeFrame ptsUs).RequestKept := by
  intro unserved
  cases due : flow.session.forceIdr || (flow.idrCadence.shouldForceIdr ptsUs).1 with
  | true =>
      cases present : flow.encoder with
      | true =>
          have frame := tick_forced present ((Bool.or_eq_true _ _).mp due)
          refine .inr (.inl ?_)
          rw [forced, frame]
      | false =>
          rw [tick_eq]
          dsimp only
          rw [due, present]
          exact .inl rfl
  | false =>
      -- Nothing is due, so only the cadence can have kept the request.
      obtain ⟨notOutstanding, silent⟩ := Bool.or_eq_false_iff.mp due
      rw [tick_eq] at unserved ⊢
      dsimp only at unserved ⊢
      rw [silent, Bool.or_false] at unserved
      rw [IdrCadence.shouldForceIdr_silent silent]
      rcases kept unserved with outstanding | taken | armed
      · exact absurd outstanding (Bool.eq_false_iff.mp notOutstanding)
      · rw [forced_idle idle] at taken
        cases taken
      · exact .inr (.inr armed)

theorem Invariant.encodeOne {flow next : IdrFlow} {outcome : EncodeOutcome}
    (invariant : flow.Invariant) (encodes : flow.encodeOne outcome = some next) :
    next.Invariant := by
  have taken := invariant.taken
  unfold IdrFlow.encodeOne at encodes
  split at encodes
  next ptsUs forceIdr encoding =>
    rw [forced, encoding] at taken
    cases outcome with
    | failed =>
        cases encodes
        exact ⟨invariant.outstanding, nofun⟩
    | withoutPacket =>
        cases encodes
        exact invariant.encoded forceIdr
    | packet isKeyframe =>
        cases encodes
        exact ⟨invariant.outstanding, taken⟩
  next => cases encodes

theorem RequestKept.encodeOne {flow next : IdrFlow} {outcome : EncodeOutcome}
    (kept : flow.RequestKept) (covered : flow.FailureCovered (.encodeOne outcome))
    (encodes : flow.encodeOne outcome = some next) : next.RequestKept := by
  unfold IdrFlow.encodeOne at encodes
  split at encodes
  next ptsUs forceIdr encoding =>
    have forcedFrame : flow.forced = forceIdr := by rw [forced, encoding]
    cases outcome with
    | failed =>
        cases encodes
        intro unserved
        rcases kept unserved with outstanding | taken | armed
        · exact .inl outstanding
        · exact (covered taken).imp id fun ready => .inr (IdrCadence.armed_iff.mpr ready)
        · exact .inr (.inr armed)
    | withoutPacket =>
        cases encodes
        rw [← forcedFrame]
        exact kept.encoded
    | packet isKeyframe =>
        cases encodes
        intro unserved
        rcases kept unserved with outstanding | taken | armed
        · exact .inl outstanding
        · exact .inr (.inl (forcedFrame.symm.trans taken))
        · refine .inr (.inr ?_)
          cases isKeyframe with
          | true => exact IdrCadence.armed_onKeyframe _ _
          | false => exact armed
  next => cases encodes

/-- A failure that takes the request along leaves the cadence to ask again. -/
theorem covered_of_kept {flow : IdrFlow} {next : IdrFlow} (invariant : flow.Invariant)
    (failed : flow.encodeOne .failed = some next) (kept : next.RequestKept) :
    flow.FailureCovered (.encodeOne .failed) := by
  intro taken
  unfold IdrFlow.encodeOne at failed
  split at failed
  next =>
    cases failed
    rcases kept (invariant.taken taken) with outstanding | none | armed
    · exact .inl outstanding
    · cases none
    · exact .inr (IdrCadence.armed_iff.mp armed)
  next => cases failed

theorem Invariant.ret {flow next : IdrFlow} (invariant : flow.Invariant)
    (returns : flow.ret = some next) : next.Invariant := by
  unfold IdrFlow.ret at returns
  split at returns
  next forceIdr _ =>
    cases returns
    exact invariant.encoded forceIdr
  next => cases returns

theorem RequestKept.ret {flow next : IdrFlow} (kept : flow.RequestKept)
    (returns : flow.ret = some next) : next.RequestKept := by
  unfold IdrFlow.ret at returns
  split at returns
  next forceIdr point =>
    cases returns
    have forcedFrame : flow.forced = forceIdr := by rw [forced, point]
    rw [← forcedFrame]
    exact kept.encoded
  next => cases returns

theorem Invariant.step {flow next : IdrFlow} {action : IdrAction} (invariant : flow.Invariant)
    (stepped : step flow action = some next) : next.Invariant := by
  cases action with
  | session action => exact invariant.stepSession stepped
  | encodeFrame ptsUs =>
      obtain ⟨_, ticked⟩ := Option.ite_none_right_eq_some.mp stepped
      cases ticked
      exact invariant.tick ptsUs
  | encodeOne outcome => exact invariant.encodeOne stepped
  | ret => exact invariant.ret stepped
  | reinit ok =>
      obtain ⟨_, renewed⟩ := Option.ite_none_right_eq_some.mp stepped
      cases renewed
      exact ⟨invariant.outstanding, invariant.taken⟩

/-- A step loses no request, except by a failure that nothing covers. -/
theorem RequestKept.step {flow next : IdrFlow} {action : IdrAction} (kept : flow.RequestKept)
    (covered : flow.FailureCovered action) (stepped : step flow action = some next) :
    next.RequestKept := by
  cases action with
  | session action => exact kept.stepSession stepped
  | encodeFrame ptsUs =>
      obtain ⟨⟨idle, _⟩, ticked⟩ := Option.ite_none_right_eq_some.mp stepped
      cases ticked
      exact kept.tick idle ptsUs
  | encodeOne outcome => exact kept.encodeOne covered stepped
  | ret => exact kept.ret stepped
  | reinit ok =>
      obtain ⟨_, renewed⟩ := Option.ite_none_right_eq_some.mp stepped
      cases renewed
      exact kept

theorem failureCovered_iff {flow next : IdrFlow} {action : IdrAction}
    (invariant : flow.Invariant) (kept : flow.RequestKept)
    (stepped : step flow action = some next) :
    flow.FailureCovered action ↔ flow.RequestKeptAfter action := by
  constructor
  · intro covered after stepped
    exact kept.step covered stepped
  · intro keptAfter
    unfold FailureCovered
    split
    next => exact covered_of_kept invariant stepped (keptAfter next stepped)
    next => trivial

/-! ## Whole runs -/

/-- Along a run no request is lost exactly if every failure on a forced frame is covered:
by another request, or by a cadence that can ask again. -/
theorem idr_request_kept_iff {session : StreamSession} {encoder : Bool}
    {actions : List IdrAction} {flow : IdrFlow}
    (executed : Machine.exec step (start session encoder) actions = some flow) :
    Machine.Along step FailureCovered (start session encoder) actions ↔
      Machine.Along step RequestKeptAfter (start session encoder) actions := by
  have preserved : ∀ (flow : IdrFlow) (action : IdrAction) (next : IdrFlow),
      flow.Invariant ∧ flow.RequestKept → flow.FailureCovered action →
      step flow action = some next → next.Invariant ∧ next.RequestKept :=
    fun _ _ _ holds covered stepped => ⟨holds.1.step stepped, holds.2.step covered stepped⟩
  have agree : ∀ (flow : IdrFlow) (action : IdrAction) (next : IdrFlow),
      flow.Invariant ∧ flow.RequestKept → step flow action = some next →
      (flow.FailureCovered action ↔ flow.RequestKeptAfter action) :=
    fun _ _ _ holds stepped => failureCovered_iff holds.1 holds.2 stepped
  exact Machine.along_congr preserved agree
    ⟨invariant_start session encoder, requestKept_start session encoder⟩ executed

/-- NVENC fails on the frame that `start_stream` asked for.  The cadence knows the key
frame at 0 and asks again once its interval has elapsed. -/
def renewedRequest : List IdrAction :=
  [.encodeFrame 0, .encodeOne (.packet true), .ret, .session (.startStream .ui),
    .session (.advance .ui), .encodeFrame 1000000, .encodeOne .failed, .encodeFrame 3000000]

theorem idr_request_kept_iff_renewed :
    ∃ flow, Machine.exec step (start (StreamSession.start true (some 1) true) true)
        renewedRequest = some flow ∧
      flow.frame = .encoding 3000000 true ∧
      Machine.Along step RequestKeptAfter
        (start (StreamSession.start true (some 1) true) true) renewedRequest := by
  have covered : Machine.Along step FailureCovered
      (start (StreamSession.start true (some 1) true) true) renewedRequest := by
    decide
  have observed : (Machine.exec step (start (StreamSession.start true (some 1) true) true)
      renewedRequest).map frame = some (.encoding 3000000 true) := by
    decide
  obtain ⟨flow, executed, again⟩ := Option.map_eq_some_iff.mp observed
  exact ⟨flow, executed, again, (idr_request_kept_iff executed).mp covered⟩

/-! ## A request that is lost -/

/-- Until NVENC hands over a key frame, a cadence that has asked does not ask again. -/
theorem step_blocked {flow next : IdrFlow} {action : IdrAction}
    (blocked : flow.idrCadence.Blocked) (noKey : action ≠ .encodeOne (.packet true))
    (stepped : step flow action = some next) : next.idrCadence.Blocked := by
  cases action with
  | session action =>
      change flow.stepSession action = some next at stepped
      unfold stepSession at stepped
      split at stepped
      next => cases stepped
      next =>
        obtain ⟨session, _, rfl⟩ := Option.map_eq_some_iff.mp stepped
        exact blocked
  | encodeFrame ptsUs =>
      obtain ⟨_, ticked⟩ := Option.ite_none_right_eq_some.mp stepped
      cases ticked
      rw [tick_eq]
      dsimp only
      rw [IdrCadence.shouldForceIdr_silent (blocked ptsUs)]
      exact blocked
  | encodeOne outcome =>
      change flow.encodeOne outcome = some next at stepped
      unfold encodeOne at stepped
      split at stepped
      next =>
        cases outcome with
        | failed =>
            cases stepped
            exact blocked
        | withoutPacket =>
            cases stepped
            exact blocked
        | packet isKeyframe =>
            cases stepped
            cases isKeyframe with
            | true => exact absurd rfl noKey
            | false => exact blocked
      next => cases stepped
  | ret =>
      change flow.ret = some next at stepped
      unfold ret at stepped
      split at stepped
      next =>
        cases stepped
        exact blocked
      next => cases stepped
  | reinit ok =>
      obtain ⟨_, renewed⟩ := Option.ite_none_right_eq_some.mp stepped
      cases renewed
      exact blocked

theorem exec_blocked {flow finish : IdrFlow} {actions : List IdrAction}
    (blocked : flow.idrCadence.Blocked)
    (noKey : ∀ action ∈ actions, action ≠ .encodeOne (.packet true))
    (executed : Machine.exec step flow actions = some finish) :
    finish.idrCadence.Blocked := by
  have preserved : ∀ (flow : IdrFlow) (action : IdrAction) (next : IdrFlow),
      flow.idrCadence.Blocked → action ≠ .encodeOne (.packet true) →
      step flow action = some next → next.idrCadence.Blocked :=
    fun _ _ _ => step_blocked
  exact Machine.exec_invariant_along preserved blocked (Machine.along_of_forall noKey) executed

/-- The cadence asks 3 s after the key frame, and NVENC fails on the frame that carries
the request. -/
def failedFallback : List IdrAction :=
  [.encodeFrame 0, .encodeOne (.packet true), .ret, .encodeFrame 3000000, .encodeOne .failed]

/-- The request is gone, and the cadence is silent until a key frame comes by itself. -/
theorem failed_fallback_is_lost :
    ∃ flow, Machine.exec step (start (StreamSession.start true (some 1) true) true)
        failedFallback = some flow ∧
      ¬flow.RequestKept ∧
      (∀ actions finish, (∀ action ∈ actions, action ≠ .encodeOne (.packet true)) →
        Machine.exec step flow actions = some finish → finish.idrCadence.Blocked) ∧
      (∃ later, Machine.exec step flow [.encodeFrame 10000000] = some later ∧
        later.frame = .encoding 10000000 false) := by
  have observed : (Machine.exec step (start (StreamSession.start true (some 1) true) true)
      failedFallback).map (fun flow => (flow.unserved, flow.session.forceIdr, flow.forced,
        flow.idrCadence, (Machine.exec step flow [.encodeFrame 10000000]).map frame)) =
      some (true, false, false, ⟨3000000, 0, true, true⟩,
        some (.encoding 10000000 false)) := by
    decide
  obtain ⟨flow, executed, seen⟩ := Option.map_eq_some_iff.mp observed
  simp only [Prod.mk.injEq] at seen
  obtain ⟨unserved, notOutstanding, notForced, cadence, later⟩ := seen
  have notArmed : ¬flow.idrCadence.Armed := by
    rw [IdrCadence.armed_iff, cadence]
    decide
  refine ⟨flow, executed, ?_, ?_, Option.map_eq_some_iff.mp later⟩
  · intro kept
    rcases kept unserved with outstanding | forced | armed
    · exact Bool.eq_false_iff.mp notOutstanding outstanding
    · exact Bool.eq_false_iff.mp notForced forced
    · exact notArmed armed
  · intro actions finish noKey continued
    exact exec_blocked (IdrCadence.blocked_iff.mpr notArmed) noKey continued

end IdrFlow

end RejiStudio.Pipeline
