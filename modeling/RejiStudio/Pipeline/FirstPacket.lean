import RejiStudio.Pipeline.StreamSession

/-!
# The first packet of a session

The frame thread encodes a frame and runs the packet callback inside the encoder, while
the calls that start and stop the stream go on.  `start_stream` sets the flag, asks for
an IDR frame and publishes the transport, in this order.
-/

namespace RejiStudio.Pipeline

open RejiStudio.Lib

/-- `IdrCadence`, a fallback by time since the last key frame. -/
structure IdrCadence where
  intervalUs : Int64
  lastKeyframePtsUs : Int64
  haveEpoch : Bool
  pending : Bool
  deriving DecidableEq

namespace IdrCadence

def start : IdrCadence := ⟨3000000, 0, false, false⟩

def onKeyframe (cadence : IdrCadence) (ptsUs : Int64) : IdrCadence :=
  { cadence with
    lastKeyframePtsUs := ptsUs
    haveEpoch := true
    pending := false }

def shouldForceIdr (cadence : IdrCadence) (nowPtsUs : Int64) : Bool × IdrCadence :=
  if !cadence.haveEpoch || cadence.pending then (false, cadence)
  else if nowPtsUs - cadence.lastKeyframePtsUs < cadence.intervalUs then (false, cadence)
  else (true, { cadence with pending := true })

end IdrCadence

namespace SessionAction

def thread : SessionAction → StreamThread
  | .startStream thread => thread
  | .stopStream thread => thread
  | .advance thread => thread

end SessionAction

namespace StreamSession

def publishes (session : StreamSession) : SessionAction → Bool
  | .advance thread =>
      match session.calls thread with
      | .setStreaming true :: _ => session.transport.isSome
      | _ => false
  | _ => false

theorem startStream_idle (session : StreamSession) (thread : StreamThread) :
    (session.startStream thread).2.forceIdr = session.forceIdr ∧
      (session.startStream thread).2.transportAtomic = session.transportAtomic := by
  unfold startStream
  split
  · split <;> exact ⟨rfl, rfl⟩
  · exact ⟨rfl, rfl⟩

theorem stopStream_idle (session : StreamSession) (thread : StreamThread) :
    (session.stopStream thread).2.forceIdr = session.forceIdr ∧
      (session.stopStream thread).2.transportAtomic = session.transportAtomic := by
  unfold stopStream
  split <;> exact ⟨rfl, rfl⟩

/-- The calls never take back a request for an IDR frame, and the pointer is new only
when the step publishes it. -/
theorem step_requests {session next : StreamSession} {action : SessionAction}
    (stepped : step session action = some next) :
    (session.forceIdr = true → next.forceIdr = true) ∧
      (next.transportAtomic.isSome = true →
        session.publishes action = true ∨ session.transportAtomic.isSome = true) := by
  cases action with
  | startStream thread =>
      obtain ⟨_, called⟩ := Option.ite_none_right_eq_some.mp stepped
      cases called
      obtain ⟨sameRequest, samePointer⟩ := session.startStream_idle thread
      rw [sameRequest, samePointer]
      exact ⟨id, .inr⟩
  | stopStream thread =>
      obtain ⟨_, called⟩ := Option.ite_none_right_eq_some.mp stepped
      cases called
      obtain ⟨sameRequest, samePointer⟩ := session.stopStream_idle thread
      rw [sameRequest, samePointer]
      exact ⟨id, .inr⟩
  | advance thread =>
      change session.advance thread = some next at stepped
      unfold advance at stepped
      dsimp only [publishes]
      split at stepped
      next => cases stepped
      next effect rest calls =>
        cases stepped
        rw [calls]
        cases effect with
        | requestIdr => exact ⟨fun _ => rfl, .inr⟩
        | audio active => exact ⟨id, .inr⟩
        | setStreaming active =>
            cases active with
            | true => exact ⟨id, .inl⟩
            | false => exact ⟨id, nofun⟩

end StreamSession

/-- Where the frame thread is: outside the encoder, past the exchange of the request,
or in the callback of a packet, before the test of the flag, past it, or with the
pointer loaded. -/
inductive FramePoint where
  | idle
  | encoding (ptsUs : Int64) (forceIdr : Bool)
  | packet (ptsUs : Int64) (isKeyframe : Bool)
  | checked (isKeyframe : Bool)
  | loaded (out : Option Nat) (isKeyframe : Bool)
  deriving DecidableEq

/-- `awaiting` and `firstPackets` are history. -/
structure PacketFlow where
  session : StreamSession
  encoder : Bool
  /-- How many pictures NVENC has got so far. -/
  pictures : Nat
  idrCadence : IdrCadence
  frame : FramePoint
  /-- No packet was handed over since the transport was published. -/
  awaiting : Bool
  /-- The first packet after each publication: whether it is a key frame. -/
  firstPackets : List Bool

inductive PacketAction where
  | session (action : SessionAction)
  | encodeFrame (ptsUs : Int64)
  | encodePicture
  | checkStreaming
  | loadTransport
  /-- `connected` is the answer of the transport. -/
  | send (connected : Bool)
  /-- A new encoder for a device that was lost. -/
  | reinit (ok : Bool)
  deriving DecidableEq

namespace PacketFlow

def start (session : StreamSession) (encoder : Bool) : PacketFlow where
  session := session
  encoder := encoder
  pictures := 0
  idrCadence := .start
  frame := .idle
  awaiting := false
  firstPackets := []

def stepSession (flow : PacketFlow) (action : SessionAction) : Option PacketFlow :=
  if action.thread = .frame ∧ flow.frame ≠ .idle then none
  else
    (StreamSession.step flow.session action).map fun session =>
      { flow with
        session := session
        awaiting := flow.awaiting || flow.session.publishes action }

/-- `maybe_force_idr` and `EncodeSubsystem::encode_frame` up to the encoder. -/
def encodeFrame (flow : PacketFlow) (ptsUs : Int64) : Option PacketFlow :=
  if flow.frame = .idle ∧ flow.session.calls .frame = [] then
    let (force, idrCadence) := flow.idrCadence.shouldForceIdr ptsUs
    let forceIdr := flow.session.forceIdr || force
    if flow.encoder then
      some { flow with
        session := { flow.session with forceIdr := false }
        idrCadence := idrCadence
        frame := .encoding ptsUs forceIdr }
    else
      some { flow with
        session := { flow.session with forceIdr := forceIdr }
        idrCadence := idrCadence }
  else none

variable (nvEncode : Nat → Bool → Option Bool)

/-- `encode_one`: NVENC fails, or answers with a packet. -/
def encodePicture (flow : PacketFlow) : Option PacketFlow :=
  match flow.frame with
  | .encoding ptsUs forceIdr =>
      some { flow with
        pictures := flow.pictures + 1
        frame :=
          match nvEncode flow.pictures forceIdr with
          | some isKeyframe => .packet ptsUs isKeyframe
          | none => .idle }
  | _ => none

/-- `on_packet` up to the test of the flag. -/
def checkStreaming (flow : PacketFlow) : Option PacketFlow :=
  match flow.frame with
  | .packet ptsUs isKeyframe =>
      some { flow with
        idrCadence := if isKeyframe then flow.idrCadence.onKeyframe ptsUs else flow.idrCadence
        frame := if flow.session.streaming then .checked isKeyframe else .idle }
  | _ => none

/-- `OutputSubsystem::send` up to the load of the pointer. -/
def loadTransport (flow : PacketFlow) : Option PacketFlow :=
  match flow.frame with
  | .checked isKeyframe =>
      some { flow with frame := .loaded flow.session.transportAtomic isKeyframe }
  | _ => none

/-- The rest of `send`: a packet goes to a transport that is connected. -/
def send (flow : PacketFlow) (connected : Bool) : Option PacketFlow :=
  match flow.frame with
  | .loaded out isKeyframe =>
      if out.isSome && connected then
        some { flow with
          frame := .idle
          awaiting := false
          firstPackets :=
            if flow.awaiting then flow.firstPackets ++ [isKeyframe] else flow.firstPackets }
      else some { flow with frame := .idle }
  | _ => none

def step : Machine PacketFlow PacketAction
  | flow, .session action => flow.stepSession action
  | flow, .encodeFrame ptsUs => flow.encodeFrame ptsUs
  | flow, .encodePicture => flow.encodePicture nvEncode
  | flow, .checkStreaming => flow.checkStreaming
  | flow, .loadTransport => flow.loadTransport
  | flow, .send connected => flow.send connected
  | flow, .reinit ok => if flow.frame = .idle then some { flow with encoder := ok } else none

/-- The next packet that finds the transport is that of an IDR frame: the request is not
consumed yet, or its frame has not passed the load of the pointer. -/
def keyFrameNext (flow : PacketFlow) : Bool :=
  match flow.frame with
  | .idle => flow.session.forceIdr
  | .encoding _ forceIdr => forceIdr
  | .packet _ isKeyframe => isKeyframe
  | .checked isKeyframe => isKeyframe
  | .loaded out isKeyframe => if out.isSome then isKeyframe else flow.session.forceIdr

def Waits (flow : PacketFlow) : Prop :=
  flow.awaiting = true ∧ flow.session.transportAtomic.isSome = true

def pictureLost (flow : PacketFlow) : Bool :=
  match flow.frame with
  | .encoding _ forceIdr => (nvEncode flow.pictures forceIdr).isNone
  | _ => false

/-- The transport is published ahead of the IDR frame, and that frame is not lost before
it is handed over, unless there is another request. -/
def KeyFrameKept (flow : PacketFlow) : PacketAction → Prop
  | .session action => flow.session.publishes action = true → flow.keyFrameNext = true
  | .encodePicture =>
      flow.Waits → flow.pictureLost nvEncode = false ∨ flow.session.forceIdr = true
  | .checkStreaming =>
      flow.Waits → flow.session.streaming = true ∨ flow.session.forceIdr = true
  | .send connected => flow.Waits → connected = true ∨ flow.session.forceIdr = true
  | _ => True

instance (flow : PacketFlow) : Decidable flow.Waits := inferInstanceAs (Decidable (_ ∧ _))

instance (flow : PacketFlow) (action : PacketAction) :
    Decidable (flow.KeyFrameKept nvEncode action) := by
  cases action <;> dsimp only [KeyFrameKept] <;> infer_instance

/-! ## The invariant -/

structure Invariant (flow : PacketFlow) : Prop where
  next : flow.Waits → flow.keyFrameNext = true
  loaded : flow.awaiting = true → ∀ pointer isKeyframe,
    flow.frame = .loaded (some pointer) isKeyframe → isKeyframe = true
  first : ∀ isKeyframe ∈ flow.firstPackets, isKeyframe = true

theorem invariant_start (session : StreamSession) (encoder : Bool) :
    (start session encoder).Invariant where
  next := fun ⟨awaiting, _⟩ => nomatch awaiting
  loaded := nofun
  first := nofun

theorem keyFrameNext_of_request {flow : PacketFlow} {session : StreamSession}
    (requests : flow.session.forceIdr = true → session.forceIdr = true)
    (next : flow.keyFrameNext = true) (awaiting : Bool) :
    keyFrameNext { flow with
      session := session
      awaiting := awaiting } = true := by
  unfold keyFrameNext at next ⊢
  dsimp only
  split at next
  case h_1 => exact requests next
  case h_5 =>
    split at next
    next present =>
      rw [if_pos present]
      exact next
    next absent =>
      rw [if_neg absent]
      exact requests next
  all_goals exact next

theorem loaded_key {flow : PacketFlow} {pointer : Nat} {isKeyframe : Bool}
    (next : flow.keyFrameNext = true)
    (loaded : flow.frame = .loaded (some pointer) isKeyframe) : isKeyframe = true := by
  unfold keyFrameNext at next
  rw [loaded] at next
  exact next

theorem Invariant.stepSession {flow after : PacketFlow} {action : SessionAction}
    (invariant : flow.Invariant)
    (kept : flow.session.publishes action = true → flow.keyFrameNext = true)
    (stepped : flow.stepSession action = some after) : after.Invariant := by
  unfold PacketFlow.stepSession at stepped
  split at stepped
  next => cases stepped
  next =>
    obtain ⟨session, called, rfl⟩ := Option.map_eq_some_iff.mp stepped
    obtain ⟨requests, pointer⟩ := StreamSession.step_requests called
    have key : (flow.awaiting || flow.session.publishes action) = true →
        flow.awaiting = true ∨ flow.keyFrameNext = true := by
      intro awaiting
      exact ((Bool.or_eq_true _ _).mp awaiting).imp id kept
    refine ⟨?_, ?_, invariant.first⟩
    · rintro ⟨awaiting, published⟩
      apply keyFrameNext_of_request requests
      rcases pointer published with publishes | already
      · exact kept publishes
      · rcases key awaiting with before | next
        · exact invariant.next ⟨before, already⟩
        · exact next
    · intro awaiting pointer isKeyframe loaded
      rcases key awaiting with before | next
      · exact invariant.loaded before pointer isKeyframe loaded
      · exact loaded_key next loaded

/-- The frame thread between two frames: the request decides. -/
theorem Invariant.idle {flow : PacketFlow} (first : ∀ isKeyframe ∈ flow.firstPackets,
      isKeyframe = true) (idle : flow.frame = .idle)
    (requested : flow.Waits → flow.session.forceIdr = true) : flow.Invariant where
  next := by
    intro waits
    rw [keyFrameNext, idle]
    exact requested waits
  loaded := by
    intro _ pointer isKeyframe loaded
    rw [idle] at loaded
    cases loaded
  first := first

theorem Invariant.encodeFrame {flow after : PacketFlow} (invariant : flow.Invariant)
    {ptsUs : Int64} (encodes : flow.encodeFrame ptsUs = some after) : after.Invariant := by
  unfold PacketFlow.encodeFrame at encodes
  obtain ⟨⟨idle, _⟩, begun⟩ := Option.ite_none_right_eq_some.mp encodes
  have requested : flow.Waits → flow.session.forceIdr = true := by
    intro waits
    have next := invariant.next waits
    rw [keyFrameNext, idle] at next
    exact next
  dsimp only at begun
  split at begun
  next =>
    cases begun
    refine ⟨?_, nofun, invariant.first⟩
    intro waits
    dsimp only [keyFrameNext]
    rw [requested waits, Bool.true_or]
  next =>
    cases begun
    refine .idle invariant.first idle ?_
    intro waits
    dsimp only
    rw [requested waits, Bool.true_or]

theorem Invariant.encodePicture {flow after : PacketFlow} (invariant : flow.Invariant)
    (idrHonoured : ∀ picture, nvEncode picture true ≠ some false)
    (kept : flow.KeyFrameKept nvEncode .encodePicture)
    (encodes : flow.encodePicture nvEncode = some after) : after.Invariant := by
  dsimp only [KeyFrameKept, pictureLost] at kept
  unfold PacketFlow.encodePicture at encodes
  split at encodes
  next ptsUs forceIdr encoding =>
    cases encodes
    rw [encoding] at kept
    cases answer : nvEncode flow.pictures forceIdr with
    | none =>
        refine .idle invariant.first rfl ?_
        intro waits
        exact (kept waits).resolve_left (by simp [answer])
    | some isKeyframe =>
        refine ⟨?_, nofun, invariant.first⟩
        intro waits
        have forced := invariant.next waits
        rw [keyFrameNext, encoding] at forced
        dsimp only at forced
        rw [forced] at answer
        cases isKeyframe with
        | true => rfl
        | false => exact absurd answer (idrHonoured flow.pictures)
  next => cases encodes

theorem Invariant.checkStreaming {flow after : PacketFlow} (invariant : flow.Invariant)
    (kept : flow.Waits → flow.session.streaming = true ∨ flow.session.forceIdr = true)
    (checks : flow.checkStreaming = some after) : after.Invariant := by
  unfold PacketFlow.checkStreaming at checks
  split at checks
  next ptsUs isKeyframe packet =>
    cases checks
    cases streaming : flow.session.streaming with
    | false =>
        refine .idle invariant.first rfl ?_
        intro waits
        exact (kept waits).resolve_left (by simp [streaming])
    | true =>
        refine ⟨?_, nofun, invariant.first⟩
        intro waits
        have next := invariant.next waits
        rw [keyFrameNext, packet] at next
        exact next
  next => cases checks

theorem Invariant.loadTransport {flow after : PacketFlow} (invariant : flow.Invariant)
    (loads : flow.loadTransport = some after) : after.Invariant := by
  unfold PacketFlow.loadTransport at loads
  split at loads
  next isKeyframe checked =>
    cases loads
    have key : flow.Waits → isKeyframe = true := by
      intro waits
      have next := invariant.next waits
      rw [keyFrameNext, checked] at next
      exact next
    refine ⟨?_, ?_, invariant.first⟩
    · intro waits
      dsimp only [keyFrameNext]
      rw [if_pos waits.2]
      exact key waits
    · intro awaiting pointer sameKey loaded
      injection loaded with published same
      subst same
      refine key ⟨awaiting, ?_⟩
      rw [published]
      rfl
  next => cases loads

theorem Invariant.send {flow after : PacketFlow} {connected : Bool}
    (invariant : flow.Invariant)
    (kept : flow.Waits → connected = true ∨ flow.session.forceIdr = true)
    (sends : flow.send connected = some after) : after.Invariant := by
  unfold PacketFlow.send at sends
  split at sends
  next out isKeyframe loaded =>
    split at sends
    next handed =>
      obtain ⟨present, _⟩ := (Bool.and_eq_true _ _).mp handed
      obtain ⟨pointer, rfl⟩ := Option.isSome_iff_exists.mp present
      cases sends
      refine .idle ?_ rfl (fun waits => nomatch waits.1)
      intro other member
      dsimp only at member
      split at member
      next awaiting =>
        rcases List.mem_append.mp member with earlier | now
        · exact invariant.first other earlier
        · rw [List.mem_singleton.mp now]
          exact invariant.loaded awaiting pointer isKeyframe loaded
      next => exact invariant.first other member
    next kept' =>
      cases sends
      refine .idle invariant.first rfl ?_
      intro waits
      rcases kept waits with answered | requested
      · have next := invariant.next waits
        rw [keyFrameNext, loaded] at next
        dsimp only at next
        rw [answered, Bool.and_true] at kept'
        rw [if_neg kept'] at next
        exact next
      · exact requested
  next => cases sends

theorem Invariant.step {flow after : PacketFlow} {action : PacketAction}
    (invariant : flow.Invariant) (idrHonoured : ∀ picture, nvEncode picture true ≠ some false)
    (kept : flow.KeyFrameKept nvEncode action)
    (stepped : PacketFlow.step nvEncode flow action = some after) : after.Invariant := by
  cases action with
  | session action => exact invariant.stepSession kept stepped
  | encodeFrame ptsUs => exact invariant.encodeFrame stepped
  | encodePicture => exact invariant.encodePicture nvEncode idrHonoured kept stepped
  | checkStreaming => exact invariant.checkStreaming kept stepped
  | loadTransport => exact invariant.loadTransport stepped
  | send connected => exact invariant.send kept stepped
  | reinit ok =>
      obtain ⟨_, replaced⟩ := Option.ite_none_right_eq_some.mp stepped
      cases replaced
      exact ⟨invariant.next, invariant.loaded, invariant.first⟩

/-- Every session starts with a key frame if the transport is published ahead of the IDR
frame and that frame is not lost; NVENC makes an IDR frame when it is told to. -/
theorem first_packet_is_keyframe {initialized audio encoder : Bool} {transport : Option Nat}
    {actions : List PacketAction} {flow : PacketFlow}
    (idrHonoured : ∀ picture, nvEncode picture true ≠ some false)
    (executed : Machine.exec (step nvEncode)
      (start (.start initialized transport audio) encoder) actions = some flow)
    (kept : Machine.Along (step nvEncode) (KeyFrameKept nvEncode)
      (start (.start initialized transport audio) encoder) actions) :
    ∀ isKeyframe ∈ flow.firstPackets, isKeyframe = true :=
  (Machine.exec_invariant_along
    (fun _ _ _ invariant kept stepped => invariant.step nvEncode idrHonoured kept stepped)
    (invariant_start _ encoder) kept executed).first

def gop120 (picture : Nat) (forceIdr : Bool) : Option Bool :=
  some (forceIdr || picture % 120 == 0)

def frameThrough (ptsUs : Int64) : List PacketAction :=
  [.encodeFrame ptsUs, .encodePicture, .checkStreaming, .loadTransport, .send true]

def consumedRequest : List PacketAction :=
  [.encodeFrame 0, .encodePicture, .checkStreaming,
    .session (.startStream .ui), .session (.advance .ui)] ++ frameThrough 16667 ++
    [.session (.advance .ui), .session (.advance .ui)] ++ frameThrough 33333

/-- The IDR frame finds no transport, and the next frame is the first to be handed over. -/
theorem consumedRequest_starts_without_keyframe :
    (Machine.exec (step gop120) (start (.start true (some 1) true) true)
      consumedRequest).map (·.firstPackets) = some [false] := by
  decide +kernel

def keptRequest : List PacketAction :=
  [.encodeFrame 0, .encodePicture, .checkStreaming,
    .session (.startStream .ui), .session (.advance .ui), .session (.advance .ui)] ++
    frameThrough 16667 ++ [.session (.advance .ui)] ++ frameThrough 33333

theorem keptRequest_starts_with_keyframe :
    ∃ flow, Machine.exec (step gop120) (start (.start true (some 1) true) true)
        keptRequest = some flow ∧ flow.firstPackets.length = 1 ∧
      ∀ isKeyframe ∈ flow.firstPackets, isKeyframe = true := by
  have idrHonoured : ∀ picture, gop120 picture true ≠ some false := by
    intro picture
    simp [gop120]
  have kept : Machine.Along (step gop120) (KeyFrameKept gop120)
      (start (.start true (some 1) true) true) keptRequest := by
    decide +kernel
  have ended : (Machine.exec (step gop120) (start (.start true (some 1) true) true)
      keptRequest).map (·.firstPackets.length) = some 1 := by
    decide +kernel
  obtain ⟨flow, executed, one⟩ := Option.map_eq_some_iff.mp ended
  exact ⟨flow, executed, one, first_packet_is_keyframe gop120 idrHonoured executed kept⟩

end PacketFlow

end RejiStudio.Pipeline
