import Mathlib.Logic.Function.Basic
import RejiStudio.Lib.Machine

/-!
# Starting and stopping the stream

`start_stream` and `stop_stream` exchange a flag and then work through their side
effects.  Both may run on the thread of the user interface and on the frame thread at
the same time.
-/

namespace RejiStudio.Pipeline

open RejiStudio.Lib

/-- `WasapiCapture`, as far as `start` and `stop` go. -/
structure WasapiCapture where
  initialized : Bool
  startRequested : Bool
  deriving DecidableEq

namespace WasapiCapture

def start (capture : WasapiCapture) : Bool × WasapiCapture :=
  if capture.initialized then
    (!capture.startRequested, { capture with startRequested := true })
  else (false, capture)

def stop (capture : WasapiCapture) : Bool × WasapiCapture :=
  if capture.initialized then
    (capture.startRequested, { capture with startRequested := false })
  else (false, capture)

end WasapiCapture

inductive StreamThread where
  | ui
  | frame
  deriving DecidableEq

def StreamThread.other : StreamThread → StreamThread
  | .ui => .frame
  | .frame => .ui

theorem StreamThread.other_ne (thread : StreamThread) : thread.other ≠ thread := by
  cases thread <;> decide

/-- The side effects of the two calls, in the subsystems for encoding, output and
audio. -/
inductive SideEffect where
  | requestIdr
  | setStreaming (active : Bool)
  | audio (active : Bool)
  deriving DecidableEq

structure StreamSession where
  initialized : Bool
  streaming : Bool
  forceIdr : Bool
  /-- The address of the transport, if there is one. -/
  transport : Option Nat
  transportAtomic : Option Nat
  audio : Option WasapiCapture
  /-- The side effects that the call on each thread is yet to have. -/
  calls : StreamThread → List SideEffect

inductive SessionAction where
  | startStream (thread : StreamThread)
  | stopStream (thread : StreamThread)
  | advance (thread : StreamThread)
  deriving DecidableEq

namespace StreamSession

/-- After `Pipeline::init`. -/
def start (initialized : Bool) (transport : Option Nat) (audio : Bool) : StreamSession where
  initialized := initialized
  streaming := false
  forceIdr := false
  transport := transport
  transportAtomic := none
  audio := if audio then some ⟨true, false⟩ else none
  calls := fun _ => []

def startStream (session : StreamSession) (thread : StreamThread) : Bool × StreamSession :=
  if session.initialized then
    if session.streaming then (true, session)
    else
      (true, { session with
        streaming := true
        calls := Function.update session.calls thread
          [.requestIdr, .setStreaming true, .audio true] })
  else (false, session)

def stopStream (session : StreamSession) (thread : StreamThread) : Bool × StreamSession :=
  if session.streaming then
    (true, { session with
      streaming := false
      calls := Function.update session.calls thread [.setStreaming false, .audio false] })
  else (true, session)

def perform (session : StreamSession) : SideEffect → StreamSession
  | .requestIdr => { session with forceIdr := true }
  | .setStreaming active =>
      { session with transportAtomic := if active then session.transport else none }
  | .audio active =>
      { session with audio := session.audio.map fun capture =>
          if active then capture.start.2 else capture.stop.2 }

def advance (session : StreamSession) (thread : StreamThread) : Option StreamSession :=
  match session.calls thread with
  | [] => none
  | effect :: rest =>
      some { session.perform effect with calls := Function.update session.calls thread rest }

def step : Machine StreamSession SessionAction
  | session, .startStream thread =>
      if session.calls thread = [] then some (session.startStream thread).2 else none
  | session, .stopStream thread =>
      if session.calls thread = [] then some (session.stopStream thread).2 else none
  | session, .advance thread => session.advance thread

/-- The flag has the value that the call has set, or the call that changed it since is
yet to have its own effect of the kind. -/
def UpToDate (session : StreamSession) (thread : StreamThread) (effect : Bool → SideEffect)
    (active : Bool) : Prop :=
  active = session.streaming ∨ effect session.streaming ∈ session.calls thread.other

/-- No side effect on the transport or on the audio comes after that of a later call. -/
def InOrder (session : StreamSession) : SessionAction → Prop
  | .advance thread =>
      match session.calls thread with
      | .setStreaming active :: _ => session.UpToDate thread .setStreaming active
      | .audio active :: _ => session.UpToDate thread .audio active
      | _ => True
  | _ => True

instance (session : StreamSession) (thread : StreamThread) (effect : Bool → SideEffect)
    (active : Bool) : Decidable (session.UpToDate thread effect active) :=
  inferInstanceAs (Decidable (_ ∨ _))

instance (session : StreamSession) (action : SessionAction) :
    Decidable (session.InOrder action) := by
  cases action with
  | startStream thread => exact isTrue trivial
  | stopStream thread => exact isTrue trivial
  | advance thread =>
      unfold InOrder
      dsimp only
      split <;> infer_instance

/-! ## The invariant -/

def Pending (session : StreamSession) (effect : Bool → SideEffect) : Prop :=
  ∃ thread, effect session.streaming ∈ session.calls thread

structure Invariant (session : StreamSession) : Prop where
  transport :
    session.transportAtomic = (if session.streaming then session.transport else none) ∨
      session.Pending .setStreaming
  initialized : ∀ capture, session.audio = some capture → capture.initialized = true
  audio : (∀ capture, session.audio = some capture →
    capture.startRequested = session.streaming) ∨ session.Pending .audio

theorem invariant_start (initialized : Bool) (transport : Option Nat) (audio : Bool) :
    (start initialized transport audio).Invariant where
  transport := .inl rfl
  initialized := by
    cases audio with
    | false => exact nofun
    | true => rintro _ ⟨⟩; rfl
  audio := by
    cases audio with
    | false => exact .inl nofun
    | true => exact .inl (by rintro _ ⟨⟩; rfl)

theorem Invariant.startStream {session : StreamSession} (invariant : session.Invariant)
    (thread : StreamThread) : (session.startStream thread).2.Invariant := by
  unfold StreamSession.startStream
  split
  · split
    · exact invariant
    · exact ⟨.inr ⟨thread, by simp⟩, invariant.initialized, .inr ⟨thread, by simp⟩⟩
  · exact invariant

theorem Invariant.stopStream {session : StreamSession} (invariant : session.Invariant)
    (thread : StreamThread) : (session.stopStream thread).2.Invariant := by
  unfold StreamSession.stopStream
  split
  · exact ⟨.inr ⟨thread, by simp⟩, invariant.initialized, .inr ⟨thread, by simp⟩⟩
  · exact invariant

theorem mem_calls_advance {session : StreamSession} {thread : StreamThread}
    {effect wanted : SideEffect} {rest : List SideEffect}
    (calls : session.calls thread = effect :: rest) (other : wanted ≠ effect)
    (pending : ∃ any, wanted ∈ session.calls any) :
    ∃ any, wanted ∈ Function.update session.calls thread rest any := by
  obtain ⟨any, member⟩ := pending
  refine ⟨any, ?_⟩
  by_cases same : any = thread
  · subst same
    rw [calls] at member
    rw [Function.update_self]
    exact (List.mem_cons.mp member).resolve_left other
  · rw [Function.update_of_ne same]
    exact member

theorem pending_of_late {session : StreamSession} {thread : StreamThread}
    {effect : Bool → SideEffect} {active : Bool} {rest : List SideEffect}
    (upToDate : session.UpToDate thread effect active) (late : active ≠ session.streaming) :
    ∃ any, effect session.streaming ∈ Function.update session.calls thread rest any := by
  refine ⟨thread.other, ?_⟩
  rw [Function.update_of_ne thread.other_ne]
  exact upToDate.resolve_left late

theorem Invariant.advance {session next : StreamSession} {thread : StreamThread}
    (invariant : session.Invariant) (inOrder : session.InOrder (.advance thread))
    (advanced : session.advance thread = some next) : next.Invariant := by
  unfold StreamSession.advance at advanced
  dsimp only [InOrder] at inOrder
  split at advanced
  next => cases advanced
  next effect rest calls =>
    cases advanced
    rw [calls] at inOrder
    cases effect with
    | requestIdr =>
        refine ⟨?_, invariant.initialized, ?_⟩
        · exact invariant.transport.imp id (mem_calls_advance calls nofun)
        · exact invariant.audio.imp id (mem_calls_advance calls nofun)
    | setStreaming active =>
        refine ⟨?_, invariant.initialized, ?_⟩
        · by_cases late : active = session.streaming
          · subst late
            exact .inl rfl
          · exact .inr (pending_of_late inOrder late)
        · exact invariant.audio.imp id (mem_calls_advance calls nofun)
    | audio active =>
        refine ⟨?_, ?_, ?_⟩
        · exact invariant.transport.imp id (mem_calls_advance calls nofun)
        · intro capture found
          obtain ⟨before, present, rfl⟩ := Option.map_eq_some_iff.mp found
          have initialized := invariant.initialized before present
          cases active <;> simp [WasapiCapture.start, WasapiCapture.stop, initialized]
        · by_cases late : active = session.streaming
          · refine .inl ?_
            intro capture found
            obtain ⟨before, present, rfl⟩ := Option.map_eq_some_iff.mp found
            have initialized := invariant.initialized before present
            subst late
            dsimp only [perform]
            cases session.streaming <;>
              simp [WasapiCapture.start, WasapiCapture.stop, initialized]
          · exact .inr (pending_of_late inOrder late)

theorem Invariant.step {session next : StreamSession} {action : SessionAction}
    (invariant : session.Invariant) (inOrder : session.InOrder action)
    (stepped : StreamSession.step session action = some next) : next.Invariant := by
  cases action with
  | startStream thread =>
      obtain ⟨_, called⟩ := Option.ite_none_right_eq_some.mp stepped
      cases called
      exact invariant.startStream thread
  | stopStream thread =>
      obtain ⟨_, called⟩ := Option.ite_none_right_eq_some.mp stepped
      cases called
      exact invariant.stopStream thread
  | advance thread => exact invariant.advance inOrder stepped

theorem not_pending {session : StreamSession} (returned : ∀ thread, session.calls thread = [])
    (effect : Bool → SideEffect) : ¬session.Pending effect := by
  rintro ⟨thread, member⟩
  rw [returned thread] at member
  cases member

/-- Once the calls have returned, the flag, the published pointer and the audio agree,
unless a side effect came after that of a later call. -/
theorem parts_agree_once_returned {initialized audio : Bool} {transport : Option Nat}
    {actions : List SessionAction} {session : StreamSession}
    (executed : Machine.exec step (start initialized transport audio) actions = some session)
    (inOrder : Machine.Along step InOrder (start initialized transport audio) actions)
    (returned : ∀ thread, session.calls thread = []) :
    (∀ pointer, session.transport = some pointer →
      (session.streaming = true ↔ session.transportAtomic = some pointer)) ∧
    (∀ capture, session.audio = some capture →
      (session.streaming = true ↔ capture.startRequested = true)) := by
  have invariant : session.Invariant :=
    Machine.exec_invariant_along
      (fun _ _ _ invariant inOrder stepped => invariant.step inOrder stepped)
      (invariant_start initialized transport audio) inOrder executed
  have published := invariant.transport.resolve_right (not_pending returned _)
  have started := invariant.audio.resolve_right (not_pending returned _)
  constructor
  · intro pointer present
    rw [published, present]
    cases session.streaming <;> simp
  · intro capture present
    rw [started capture present]

/-- A stop whose side effects all come before those of the start it ended. -/
def overtakenStart : List SessionAction :=
  [.startStream .ui, .stopStream .frame, .advance .frame, .advance .frame, .advance .ui,
    .advance .ui, .advance .ui]

theorem overtakenStart_disagrees :
    ∃ session, Machine.exec step (start true (some 1) true) overtakenStart = some session ∧
      (∀ thread, session.calls thread = []) ∧ session.streaming = false ∧
      session.transport = some 1 ∧ session.transportAtomic = some 1 ∧
      session.audio = some ⟨true, true⟩ :=
  ⟨_, rfl, fun thread => by cases thread <;> rfl, rfl, rfl, rfl, rfl⟩

/-- The start goes on after the stop has changed the flag, but the stop comes last. -/
def stopWithinStart : List SessionAction :=
  [.startStream .ui, .advance .ui, .stopStream .frame, .advance .ui, .advance .frame,
    .advance .ui, .advance .frame]

theorem parts_agree_after_stopWithinStart :
    ∃ session, Machine.exec step (start true (some 1) true) stopWithinStart = some session ∧
      session.streaming = false ∧ session.transportAtomic ≠ some 1 ∧
      ∀ capture, session.audio = some capture → capture.startRequested = false := by
  have inOrder : Machine.Along step InOrder (start true (some 1) true) stopWithinStart := by
    decide
  have ended : (Machine.exec step (start true (some 1) true) stopWithinStart).map
      (fun session => (session.streaming, session.transport, session.calls .ui,
        session.calls .frame)) = some (false, some 1, [], []) := rfl
  obtain ⟨session, executed, observed⟩ := Option.map_eq_some_iff.mp ended
  simp only [Prod.mk.injEq] at observed
  obtain ⟨stopped, present, ui, frame⟩ := observed
  have returned : ∀ thread, session.calls thread = [] := by
    intro thread
    cases thread with
    | ui => exact ui
    | frame => exact frame
  obtain ⟨published, started⟩ := parts_agree_once_returned executed inOrder returned
  have notStreaming := ne_true_of_eq_false stopped
  refine ⟨session, executed, stopped, ?_, ?_⟩
  · exact fun same => notStreaming ((published 1 present).mpr same)
  · intro capture configured
    exact Bool.eq_false_iff.mpr fun requested =>
      notStreaming ((started capture configured).mpr requested)

end StreamSession

end RejiStudio.Pipeline
