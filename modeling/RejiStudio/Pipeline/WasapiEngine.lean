import RejiStudio.Pipeline.WasapiOpening

/-!
# The handles of the audio capture

Wherever the thread is when the capture is stopped or the device changes: a stream that was
started is stopped before its client is given back, and a capture without a thread has given
everything back once.
-/

namespace RejiStudio.Pipeline

open RejiStudio.Lib

namespace Wasapi

/-! ## The invariant -/

def baseCells : List Cell := [.enumerator, .wakeEvent, .audioEvent]

/-- The thread is in `capture_loop`, or just back from it. -/
def Point.inLoop : Point → Bool
  | .loopStop | .loopRequested | .loopDirty | .waiting | .packetSize | .getBuffer => true
  | .releasing _ | .rejecting _ | .returned _ => true
  | _ => false

def Point.outstanding : Point → Option UInt32
  | .releasing frames | .rejecting frames => some frames
  | _ => none

variable {Sample : Type}

namespace Capture

structure Invariant (capture : Capture Sample) : Prop where
  sound : capture.engine.Sound
  based : capture.supervisor ≠ none → ∀ cell ∈ baseCells, capture.engine.has cell = true
  active : capture.engineActive = true →
    capture.engine.has .audioClient = true ∧ capture.engine.has .captureClient = true
  running : capture.running = capture.engineActive
  streaming : capture.engine.streaming =
    if capture.engineActive then (capture.engine.ledger.cells .audioClient).map Resource.id
    else none
  inLoop : ∀ point, capture.supervisor = some point → point.inLoop = true →
    capture.engineActive = true
  ended : capture.supervisor = some .ended → capture.engineActive = false ∧
    capture.engine.has .supervisorCom = false ∧ capture.engine.has .mmcss = false
  vacant : capture.supervisor = none →
    capture.engineActive = false ∧ ∀ cell, capture.engine.has cell = false
  initialized : capture.initialized = capture.supervisor.isSome

variable {capture next : Capture Sample}

theorem invariant_new (cfg : Config) : (new cfg : Capture Sample).Invariant where
  sound := ⟨Ledger.balanced_empty, rfl⟩
  based := fun thread => absurd rfl thread
  active := fun active => absurd active Bool.false_ne_true
  running := rfl
  streaming := rfl
  inLoop := by
    intro point absent
    cases absent
  ended := by
    intro absent
    cases absent
  vacant := fun _ => ⟨rfl, fun _ => rfl⟩
  initialized := rfl

/-- Flags that the invariant does not speak of, and the history. -/
theorem Invariant.congr {other : Capture Sample} (invariant : capture.Invariant)
    (engine : other.engine = capture.engine) (supervisor : other.supervisor = capture.supervisor)
    (active : other.engineActive = capture.engineActive)
    (running : other.running = capture.running)
    (initialized : other.initialized = capture.initialized) : other.Invariant := by
  constructor
  case sound =>
    rw [engine]
    exact invariant.sound
  case based =>
    rw [engine, supervisor]
    exact invariant.based
  case active =>
    rw [engine, active]
    exact invariant.active
  case running =>
    rw [running, active]
    exact invariant.running
  case streaming =>
    rw [engine, active]
    exact invariant.streaming
  case inLoop =>
    rw [supervisor, active]
    exact invariant.inLoop
  case ended =>
    rw [supervisor, active, engine]
    exact invariant.ended
  case vacant =>
    rw [supervisor, active, engine]
    exact invariant.vacant
  case initialized =>
    rw [initialized, supervisor]
    exact invariant.initialized

theorem Invariant.initialized_of {point : Point} (invariant : capture.Invariant)
    (here : capture.supervisor = some point) : capture.initialized = true := by
  rw [invariant.initialized, here]
  rfl

theorem Invariant.moveTo {point target : Point} (invariant : capture.Invariant)
    (here : capture.supervisor = some point) (going : target ≠ .ended)
    (inLoop : target.inLoop = true → capture.engineActive = true) :
    (capture.moveTo target).Invariant where
  sound := invariant.sound
  based := by
    intro _
    apply invariant.based
    rw [here]
    exact Option.some_ne_none point
  active := invariant.active
  running := invariant.running
  streaming := invariant.streaming
  inLoop := by
    intro other there
    cases there
    exact inLoop
  ended := by
    intro there
    cases there
    exact absurd rfl going
  vacant := by
    intro absent
    cases absent
  initialized := invariant.initialized_of here

theorem Invariant.stay {point target : Point} (invariant : capture.Invariant)
    (here : capture.supervisor = some point) (active : capture.engineActive = true)
    (inside : target.inLoop = true) : (capture.moveTo target).Invariant := by
  apply invariant.moveTo here
  · rintro rfl
    exact absurd inside (by decide)
  · exact fun _ => active

theorem Invariant.withEngine {engine : Engine} (invariant : capture.Invariant)
    (ledger : engine.ledger = capture.engine.ledger)
    (streaming : engine.streaming = capture.engine.streaming)
    (strayed : engine.strayed = capture.engine.strayed) :
    (capture.withEngine engine).Invariant := by
  have has : ∀ cell, engine.has cell = capture.engine.has cell := by
    intro cell
    unfold Engine.has
    rw [ledger]
  constructor
  case sound =>
    refine ⟨?_, strayed.trans invariant.sound.straight⟩
    change Ledger.Balanced _ _ engine.ledger
    rw [ledger]
    exact invariant.sound.balanced
  case based =>
    intro thread cell base
    exact (has cell).trans (invariant.based thread cell base)
  case active =>
    intro active
    obtain ⟨client, captureClient⟩ := invariant.active active
    exact ⟨(has _).trans client, (has _).trans captureClient⟩
  case running => exact invariant.running
  case streaming =>
    change engine.streaming = if _ then (engine.ledger.cells .audioClient).map _ else _
    rw [streaming, ledger]
    exact invariant.streaming
  case inLoop => exact invariant.inLoop
  case ended =>
    intro there
    obtain ⟨idle, com, mmcss⟩ := invariant.ended there
    exact ⟨idle, (has _).trans com, (has _).trans mmcss⟩
  case vacant =>
    intro absent
    obtain ⟨idle, empty⟩ := invariant.vacant absent
    exact ⟨idle, fun cell => (has cell).trans (empty cell)⟩
  case initialized => exact invariant.initialized

theorem Invariant.release_streaming (invariant : capture.Invariant) :
    capture.engine.release.streaming = none := by
  change capture.engine.stopClient.streaming = none
  unfold Engine.stopClient
  split
  next => rfl
  next absent =>
    rw [invariant.streaming, if_neg]
    intro active
    exact absent (invariant.active active).1

theorem Invariant.releaseEngine {point target : Point} (invariant : capture.Invariant)
    (here : capture.supervisor = some point) (outside : target.inLoop = false)
    (going : target ≠ .ended) : (capture.releaseEngine.moveTo target).Invariant where
  sound := invariant.sound.release
  based := by
    intro _ cell base
    have before := invariant.based (by rw [here]; exact Option.some_ne_none point) cell base
    refine (capture.engine.has_release cell).trans ?_
    rw [if_neg]
    · exact before
    · intro device
      revert base device
      cases cell <;> decide
  active := fun active => absurd active Bool.false_ne_true
  running := rfl
  streaming := invariant.release_streaming
  inLoop := by
    intro other there
    cases there
    intro inside
    exact absurd (inside.symm.trans outside) (by decide)
  ended := by
    intro there
    cases there
    exact absurd rfl going
  vacant := by
    intro absent
    cases absent
  initialized := invariant.initialized_of here

/-! ## The owner's calls -/

structure Preparing (capture : Capture Sample) : Prop where
  sound : capture.engine.Sound
  thread : capture.engine.has .supervisorCom = false ∧ capture.engine.has .mmcss = false
  idle : capture.engineActive = false
  stopped : capture.running = false
  streaming : capture.engine.streaming = none

theorem Invariant.preparing (invariant : capture.Invariant) (thread : capture.supervisor = none) :
    capture.Preparing := by
  obtain ⟨idle, empty⟩ := invariant.vacant thread
  refine ⟨invariant.sound, ⟨empty _, empty _⟩, idle, invariant.running.trans idle, ?_⟩
  rw [invariant.streaming, idle]
  rfl

theorem Preparing.renew (preparing : capture.Preparing) {cell : Cell}
    (owners : cell ≠ .supervisorCom ∧ cell ≠ .mmcss) (made : Bool) :
    (capture.withEngine (capture.engine.renew cell made)).Preparing := by
  refine ⟨preparing.sound.renew cell made, ⟨?_, ?_⟩, preparing.idle, preparing.stopped,
    preparing.streaming⟩
  · refine (capture.engine.has_renew cell .supervisorCom made).trans ?_
    rw [if_neg owners.1.symm]
    exact preparing.thread.1
  · refine (capture.engine.has_renew cell .mmcss made).trans ?_
    rw [if_neg owners.2.symm]
    exact preparing.thread.2

theorem Preparing.teardown (preparing : capture.Preparing) : capture.teardown.Invariant where
  sound := preparing.sound.teardown
  based := fun thread => absurd rfl thread
  active := fun active => absurd (active.symm.trans preparing.idle) (by decide)
  running := preparing.stopped.trans preparing.idle.symm
  streaming := by
    change capture.engine.streaming = if capture.engineActive then _ else _
    rw [preparing.idle]
    exact preparing.streaming
  inLoop := by
    intro point absent
    cases absent
  ended := by
    intro absent
    cases absent
  vacant := fun _ => ⟨preparing.idle, Engine.has_teardown preparing.thread⟩
  initialized := rfl

theorem Preparing.abort (preparing : capture.Preparing) : capture.abort.Invariant := by
  apply @Preparing.teardown _ { capture with stopThread := true, startRequested := false }
  exact ⟨preparing.sound, preparing.thread, preparing.idle, preparing.stopped,
    preparing.streaming⟩

theorem Preparing.initNotify (preparing : capture.Preparing)
    (enumerator : capture.engine.has .enumerator = true) (answer : InitAnswer) :
    (capture.initNotify answer).Invariant := by
  have notified := preparing.renew (by decide : Cell.notifyClient ≠ .supervisorCom ∧ _)
    answer.notifyClient
  have there : (capture.engine.renew .notifyClient answer.notifyClient).has .enumerator = true := by
    rw [Engine.has_renew, if_neg (by decide)]
    exact enumerator
  unfold Capture.initNotify
  dsimp only
  generalize madeEq : capture.engine.renew .notifyClient answer.notifyClient = made
    at notified there ⊢
  split
  next => exact notified.abort
  next =>
    change (if answer.registered = false then _ else _ : Capture Sample).Invariant
    simp only [withEngine, Engine.use_of_has there]
    have known : Preparing { capture with engine := made, notifies := true } :=
      ⟨notified.sound, notified.thread, notified.idle, notified.stopped, notified.streaming⟩
    split
    next => exact known.abort
    next =>
      have events := (known.renew (by decide : Cell.wakeEvent ≠ .supervisorCom ∧ _)
        answer.wakeEvent).renew (by decide : Cell.audioEvent ≠ .supervisorCom ∧ _)
        answer.audioEvent
      split
      next => exact events.abort
      next all =>
        rw [not_or, Bool.not_eq_false, Bool.not_eq_false] at all
        have ready : Preparing
            { capture with
              engine := (made.renew .wakeEvent answer.wakeEvent).renew .audioEvent answer.audioEvent
              notifies := true
              stopThread := false } :=
          ⟨events.sound, events.thread, events.idle, events.stopped, events.streaming⟩
        split
        next => exact ready.abort
        next =>
          constructor
          case sound => exact ready.sound
          case based =>
            intro _ cell base
            change ((made.renew .wakeEvent answer.wakeEvent).renew .audioEvent
              answer.audioEvent).has cell = true
            rw [Engine.has_renew, Engine.has_renew, all.1, all.2]
            simp only [baseCells, List.mem_cons, List.not_mem_nil, or_false] at base
            rcases base with rfl | rfl | rfl
            · exact there
            · rfl
            · rfl
          case active => exact fun active => absurd (active.symm.trans ready.idle) (by decide)
          case running => exact ready.stopped.trans ready.idle.symm
          case streaming =>
            refine ready.streaming.trans ?_
            rw [if_neg]
            intro active
            exact absurd (active.symm.trans ready.idle) (by decide)
          case inLoop =>
            intro point there inside
            cases there
            exact absurd inside (by decide)
          case ended =>
            intro there
            cases there
          case vacant =>
            intro absent
            cases absent
          case initialized => rfl

theorem Preparing.initParts (preparing : capture.Preparing) (com : Bool) (answer : InitAnswer) :
    (capture.initParts com answer).Invariant := by
  have both := (preparing.renew (by decide : Cell.com ≠ .supervisorCom ∧ _) com).renew
    (by decide : Cell.enumerator ≠ .supervisorCom ∧ _) answer.enumerator
  unfold Capture.initParts
  dsimp only
  split
  next => exact both.abort
  next made =>
    rw [Bool.not_eq_false] at made
    apply both.initNotify
    refine (Engine.has_renew _ _ _ _).trans ?_
    rw [if_pos rfl]
    exact made

theorem Invariant.init (invariant : capture.Invariant) (cfg : Config) (answer : InitAnswer) :
    (capture.init cfg answer).Invariant := by
  unfold Capture.init
  cases initialized : capture.initialized with
  | true => exact invariant
  | false =>
      have thread : capture.supervisor = none := by
        rw [← Option.not_isSome_iff_eq_none, ← invariant.initialized, initialized]
        exact Bool.false_ne_true
      have begun : Invariant { capture with cfg := cfg } :=
        @Invariant.congr _ capture { capture with cfg := cfg } invariant rfl rfl rfl rfl rfl
      have preparing := begun.preparing thread
      rw [if_neg Bool.false_ne_true]
      split
      next => exact invariant
      next =>
        split
        next => exact invariant
        next =>
          rw [initialized] at begun preparing
          dsimp only
          split
          next => exact begun
          next => exact preparing.initParts true answer
          next => exact preparing.initParts false answer

/-! ## The thread's steps -/

theorem Invariant.present {point : Point} (invariant : capture.Invariant)
    (here : capture.supervisor = some point) {cell : Cell} (base : cell ∈ baseCells) :
    capture.engine.has cell = true := by
  apply invariant.based _ cell base
  rw [here]
  exact Option.some_ne_none point

theorem Invariant.entry (invariant : capture.Invariant) (here : capture.supervisor = some .entry)
    (com mmcss : Bool) :
    ((capture.withEngine ((capture.engine.renew .supervisorCom com).renew .mmcss mmcss)).moveTo
      .top).Invariant := by
  have kept : ∀ cell, cell ≠ .supervisorCom ∧ cell ≠ .mmcss →
      ((capture.engine.renew .supervisorCom com).renew .mmcss mmcss).has cell =
        capture.engine.has cell := by
    intro cell others
    rw [Engine.has_renew, Engine.has_renew, if_neg others.2, if_neg others.1]
  constructor
  case sound => exact (invariant.sound.renew _ _).renew _ _
  case based =>
    intro _ cell base
    refine (kept cell ?_).trans (invariant.present here base)
    revert base
    cases cell <;> decide
  case active =>
    intro active
    obtain ⟨client, captureClient⟩ := invariant.active active
    exact ⟨(kept _ (by decide)).trans client, (kept _ (by decide)).trans captureClient⟩
  case running => exact invariant.running
  case streaming =>
    refine invariant.streaming.trans ?_
    have same : ((capture.engine.renew .supervisorCom com).renew .mmcss mmcss).ledger.cells
        .audioClient = capture.engine.ledger.cells .audioClient := by
      cases com <;> cases mmcss <;>
        simp [Engine.renew, Ledger.create_cells, Ledger.release_cells]
    change _ = if capture.engineActive then
      (((capture.engine.renew .supervisorCom com).renew .mmcss mmcss).ledger.cells
        .audioClient).map _ else _
    rw [same]
  case inLoop =>
    intro point there inside
    cases there
    exact absurd inside (by decide)
  case ended =>
    intro there
    cases there
  case vacant =>
    intro absent
    cases absent
  case initialized => exact invariant.initialized_of here

theorem Invariant.leaving (invariant : capture.Invariant)
    (here : capture.supervisor = some .leaving) :
    ((capture.releaseEngine.withEngine ((capture.releaseEngine.engine.reset .supervisorCom).reset
      .mmcss)).moveTo .ended).Invariant := by
  have released : (capture.releaseEngine.moveTo .top).Invariant :=
    invariant.releaseEngine here rfl (by decide)
  constructor
  case sound => exact (released.sound.reset _).reset _
  case based =>
    intro _ cell base
    change ((capture.engine.release.reset .supervisorCom).reset .mmcss).has cell = true
    rw [Engine.has_reset, Engine.has_reset, if_neg, if_neg]
    · exact released.present rfl base
    · rintro rfl
      exact absurd base (by decide)
    · rintro rfl
      exact absurd base (by decide)
  case active => exact fun active => absurd active Bool.false_ne_true
  case running => rfl
  case streaming => exact invariant.release_streaming
  case inLoop =>
    intro point there inside
    cases there
    exact absurd inside (by decide)
  case ended =>
    intro _
    refine ⟨rfl, ?_, ?_⟩
    · change ((capture.engine.release.reset .supervisorCom).reset .mmcss).has _ = false
      rw [Engine.has_reset, if_neg (by decide), Engine.has_reset, if_pos rfl]
    · change ((capture.engine.release.reset .supervisorCom).reset .mmcss).has _ = false
      rw [Engine.has_reset, if_pos rfl]
  case vacant =>
    intro absent
    cases absent
  case initialized => exact invariant.initialized_of here

theorem Invariant.opened {engine : Engine} (invariant : capture.Invariant)
    (here : capture.supervisor = some .engine) (idle : capture.engineActive = false)
    (opened : Engine.Opened capture.engine engine) :
    (capture.withEngine engine).Invariant := by
  constructor
  case sound => exact opened.sound
  case based =>
    intro _ cell base
    refine (opened.others cell ?_).trans (invariant.present here base)
    revert base
    cases cell <;> decide
  case active => exact fun active => absurd (active.symm.trans idle) (by decide)
  case running => exact invariant.running
  case streaming =>
    refine (opened.streaming.trans invariant.streaming).trans ?_
    change (if capture.engineActive then _ else none) = if capture.engineActive then _ else none
    rw [idle]
    rfl
  case inLoop => exact invariant.inLoop
  case ended =>
    intro there
    cases here.symm.trans there
  case vacant =>
    intro absent
    cases here.symm.trans absent
  case initialized => exact invariant.initialized

theorem Invariant.startEngine (invariant : capture.Invariant)
    (here : capture.supervisor = some .engine) (idle : capture.engineActive = false)
    (answer : Answer Sample) : (capture.startEngine answer).Invariant := by
  have spec := @Engine.openDevice_spec capture.engine capture.cfg answer.openDevice invariant.sound
    (invariant.present here (by decide)) (invariant.present here (by decide))
  unfold Capture.startEngine
  generalize capture.engine.openDevice capture.cfg answer.openDevice = outcome at spec ⊢
  obtain ⟨ok, engine⟩ := outcome
  obtain ⟨opened, clients⟩ := spec
  have kept := invariant.opened here idle opened
  cases ok with
  | false => exact kept.moveTo here (by decide) (fun inside => absurd inside (by decide))
  | true =>
      obtain ⟨client, captureClient⟩ := clients rfl
      dsimp only at kept client captureClient ⊢
      unfold Engine.startClient
      rw [Engine.use_of_has client]
      cases answer.start with
      | false => exact kept.releaseEngine here rfl (by decide)
      | true =>
          constructor
          case sound => exact ⟨kept.sound.balanced, kept.sound.straight⟩
          case based =>
            intro _
            apply kept.based
            change capture.supervisor ≠ none
            rw [here]
            exact Option.some_ne_none _
          case active => exact fun _ => ⟨client, captureClient⟩
          case running => rfl
          case streaming => rfl
          case inLoop => exact fun _ _ _ => rfl
          case ended =>
            intro there
            cases there
          case vacant =>
            intro absent
            cases absent
          case initialized => exact invariant.initialized_of here

theorem Invariant.publishMetrics (invariant : capture.Invariant) (now : Int) :
    (capture.publishMetrics now).Invariant := by
  unfold Capture.publishMetrics
  split
  · exact invariant
  · have quiet := @Invariant.withEngine _ capture
      { capture.engine with loop := { capture.engine.loop with frameDrops := 0 } } invariant
      rfl rfl rfl
    exact quiet.congr rfl rfl rfl rfl rfl

theorem Invariant.note (invariant : capture.Invariant) (call : ClientCall) :
    (capture.withEngine (capture.engine.note call)).Invariant :=
  @Invariant.withEngine _ capture (capture.engine.note call) invariant rfl rfl rfl

theorem Invariant.takePacket (invariant : capture.Invariant)
    (here : capture.supervisor = some .getBuffer) (answer : BufferAnswer Sample) :
    (capture.takePacket answer).Invariant := by
  have active := invariant.inLoop _ here rfl
  unfold Capture.takePacket
  rw [Engine.use_of_has (invariant.active active).2]
  cases answer with
  | packet packet =>
      dsimp only
      generalize capture.engine.loop.packet packet = outcome
      obtain ⟨loop, callback⟩ := outcome
      have counted := @Invariant.withEngine _ capture
        { capture.engine.note (.getBuffer (some packet.frames)) with loop := loop } invariant
        rfl rfl rfl
      cases callback with
      | none =>
          have moved := counted.stay here active (Eq.refl (Point.rejecting packet.frames).inLoop)
          exact moved.congr rfl rfl rfl rfl rfl
      | some args =>
          have moved := counted.stay here active (Eq.refl (Point.releasing packet.frames).inLoop)
          exact moved.congr rfl rfl rfl rfl rfl
  | invalidated =>
      have noted := invariant.note (.getBuffer none)
      have moved := noted.stay here active (Eq.refl (Point.returned false).inLoop)
      exact moved.congr rfl rfl rfl rfl rfl
  | failed => exact (invariant.note (.getBuffer none)).stay here active rfl

inductive Moved (capture : Capture Sample) (answer : Answer Sample) :
    Point → Capture Sample → Prop where
  | entered : Moved capture answer .entry ((capture.withEngine
      ((capture.engine.renew .supervisorCom answer.com).renew .mmcss answer.mmcss)).moveTo .top)
  | went {point target : Point} : point.outstanding = none → target.outstanding = none →
      target ≠ .ended → (target.inLoop = true → capture.engineActive = true) →
      Moved capture answer point (capture.moveTo target)
  | asked {target : Point} : target.outstanding = none → target.inLoop = true →
      capture.engineActive = true → Moved capture answer .packetSize
        ((capture.withEngine (capture.engine.note .nextPacketSize)).moveTo target)
  | handedBack {point target : Point} {frames : UInt32} : point.outstanding = some frames →
      target.outstanding = none → target.inLoop = true → capture.engineActive = true →
      Moved capture answer point
        ((capture.withEngine (capture.engine.note (.releaseBuffer frames))).moveTo target)
  | published {point : Point} {next : Capture Sample} : Moved capture answer point next →
      Moved capture answer point (next.publishMetrics answer.now)
  | released {point target : Point} : point.outstanding = none → target.outstanding = none →
      target.inLoop = false → target ≠ .ended →
      Moved capture answer point (capture.releaseEngine.moveTo target)
  | cleaned : Moved capture answer .dirty
      (({ capture with deviceDirty := false } : Capture Sample).releaseEngine.moveTo .engine)
  | started : capture.engineActive = false →
      Moved capture answer .engine (capture.startEngine answer)
  | took : Moved capture answer .getBuffer (capture.takePacket answer.buffer)
  | left : Moved capture answer .leaving ((capture.releaseEngine.withEngine
      ((capture.releaseEngine.engine.reset .supervisorCom).reset .mmcss)).moveTo .ended)

theorem Moved.outside {answer : Answer Sample} {point target : Point}
    (free : point.outstanding = none) (stillFree : target.outstanding = none)
    (going : target ≠ .ended) (outside : target.inLoop = false) :
    Moved capture answer point (capture.moveTo target) := by
  apply Moved.went free stillFree going
  intro inside
  exact absurd (inside.symm.trans outside) (by decide)

theorem Moved.inside {answer : Answer Sample} {point target : Point}
    (free : point.outstanding = none) (stillFree : target.outstanding = none)
    (inside : target.inLoop = true) (active : capture.engineActive = true) :
    Moved capture answer point (capture.moveTo target) := by
  apply Moved.went free stillFree
  · rintro rfl
    exact absurd inside (by decide)
  · exact fun _ => active

theorem publishMetrics_moveTo (capture : Capture Sample) (now : Int) (target : Point) :
    (capture.moveTo target).publishMetrics now = (capture.publishMetrics now).moveTo target := by
  unfold Capture.publishMetrics Capture.moveTo
  dsimp only
  split
  · rfl
  · rfl

theorem supervise_moved {point : Point} {answer : Answer Sample} (invariant : capture.Invariant)
    (here : capture.supervisor = some point)
    (stepped : capture.supervise answer point = some next) : Moved capture answer point next := by
  have active := invariant.inLoop point here
  -- the calls of the loop go to a client that is there
  have client : point.inLoop = true → capture.engine.use .captureClient = capture.engine :=
    fun inside => Engine.use_of_has (invariant.active (active inside)).2
  cases point with
  | entry =>
      cases stepped
      exact .entered
  | top =>
      cases stepped
      split
      · exact .outside rfl rfl (by decide) rfl
      · exact .outside rfl rfl (by decide) rfl
  | requested =>
      cases stepped
      split
      · exact .outside rfl rfl (by decide) rfl
      · exact .outside rfl rfl (by decide) rfl
  | dirty =>
      cases stepped
      split
      · exact .cleaned
      · exact .outside rfl rfl (by decide) rfl
  | engine =>
      cases stepped
      split
      next running => exact .inside rfl rfl rfl running
      next idle => exact .started (Bool.not_eq_true _ ▸ idle)
  | loopStop =>
      cases stepped
      split
      · exact .inside rfl rfl rfl (active rfl)
      · exact .inside rfl rfl rfl (active rfl)
  | loopRequested =>
      cases stepped
      split
      · exact .inside rfl rfl rfl (active rfl)
      · exact .inside rfl rfl rfl (active rfl)
  | loopDirty =>
      cases stepped
      split
      · exact .inside rfl rfl rfl (active rfl)
      · exact .inside rfl rfl rfl (active rfl)
  | waiting =>
      unfold Capture.supervise at stepped
      dsimp only at stepped
      split at stepped
      next =>
        cases stepped
        rw [← publishMetrics_moveTo]
        exact .published (.inside rfl rfl rfl (active rfl))
      next =>
        cases stepped
        exact .inside rfl rfl rfl (active rfl)
      next =>
        cases stepped
        exact .inside rfl rfl rfl (active rfl)
      next =>
        cases stepped
        exact .inside rfl rfl rfl (active rfl)
  | packetSize =>
      have flushed := Moved.published (@Moved.asked _ capture answer .loopStop rfl rfl (active rfl))
      rw [publishMetrics_moveTo] at flushed
      unfold Capture.supervise at stepped
      dsimp only at stepped
      rw [client rfl] at stepped
      split at stepped
      next =>
        split at stepped
        next =>
          cases stepped
          exact .asked rfl rfl (active rfl)
        next =>
          cases stepped
          exact flushed
      next =>
        cases stepped
        exact flushed
  | getBuffer =>
      cases stepped
      exact .took
  | releasing frames =>
      unfold Capture.supervise at stepped
      dsimp only at stepped
      rw [client rfl] at stepped
      cases stepped
      split
      · exact .handedBack rfl rfl rfl (active rfl)
      · exact .handedBack rfl rfl rfl (active rfl)
  | rejecting frames =>
      unfold Capture.supervise at stepped
      dsimp only at stepped
      rw [client rfl] at stepped
      cases stepped
      exact .handedBack rfl rfl rfl (active rfl)
  | returned ok =>
      cases stepped
      split
      · exact .outside rfl rfl (by decide) rfl
      · exact .released rfl rfl rfl (by decide)
  | check =>
      cases stepped
      split
      · exact .outside rfl rfl (by decide) rfl
      · exact .released rfl rfl rfl (by decide)
  | leaving =>
      cases stepped
      exact .left
  | ended => cases stepped

theorem Invariant.supervise {point : Point} {answer : Answer Sample}
    (invariant : capture.Invariant) (here : capture.supervisor = some point)
    (stepped : capture.supervise answer point = some next) : next.Invariant := by
  have moved := supervise_moved invariant here stepped
  clear stepped
  induction moved with
  | entered => exact invariant.entry here answer.com answer.mmcss
  | went _ _ going inLoop => exact invariant.moveTo here going inLoop
  | asked _ inside active => exact (invariant.note .nextPacketSize).stay here active inside
  | handedBack _ _ inside active =>
      exact (invariant.note (.releaseBuffer _)).stay here active inside
  | published _ kept => exact (kept here).publishMetrics answer.now
  | released _ _ outside going => exact invariant.releaseEngine here outside going
  | cleaned =>
      exact (invariant.releaseEngine here rfl (by decide : Point.engine ≠ .ended)).congr
        rfl rfl rfl rfl rfl
  | started idle => exact invariant.startEngine here idle answer
  | took => exact invariant.takePacket here answer.buffer
  | left => exact invariant.leaving here

theorem Invariant.joined (invariant : capture.Invariant)
    (finished : capture.supervisor = none ∨ capture.supervisor = some .ended) :
    capture.teardown.Invariant := by
  rcases finished with none_ | ended
  · exact (invariant.preparing none_).teardown
  · obtain ⟨idle, com, mmcss⟩ := invariant.ended ended
    apply Preparing.teardown
    refine ⟨invariant.sound, ⟨com, mmcss⟩, idle, invariant.running.trans idle, ?_⟩
    rw [invariant.streaming, idle]
    rfl

theorem Invariant.step {action : Action Sample} (invariant : capture.Invariant)
    (stepped : Capture.step capture action = some next) : next.Invariant := by
  cases action with
  | init cfg answer =>
      rw [Capture.step, Option.ite_none_left_eq_some, Option.some.injEq] at stepped
      rw [← stepped.2]
      exact invariant.init cfg answer
  | start =>
      cases stepped
      unfold Capture.start
      split
      · exact invariant.congr rfl rfl rfl rfl rfl
      · exact invariant
  | stop =>
      cases stepped
      unfold Capture.stop
      split
      · exact invariant.congr rfl rfl rfl rfl rfl
      · exact invariant
  | shutdown =>
      rw [Capture.step, Option.ite_none_left_eq_some, Option.some.injEq] at stepped
      rw [← stepped.2]
      exact invariant.congr rfl rfl rfl rfl rfl
  | joined =>
      rw [Capture.step, Option.ite_none_right_eq_some, Option.some.injEq] at stepped
      obtain ⟨⟨-, finished⟩, rfl⟩ := stepped
      exact invariant.joined finished
  | deviceChange reason =>
      rw [Capture.step, Capture.onDeviceChange, Option.ite_none_right_eq_some,
        Option.some.injEq] at stepped
      rw [← stepped.2]
      exact invariant.congr rfl rfl rfl rfl rfl
  | supervise answer =>
      obtain ⟨point, here, moved⟩ := Option.bind_eq_some_iff.mp stepped
      exact invariant.supervise here moved

/-! ## Whole runs -/

/-- In every interleaving of the owner, the thread and the reports of the system: no handle is
given back twice and none is lost, nothing is called through a null pointer, a stream that runs
is that of the client in its cell, `is_running` says that there is one, and without a thread
everything that was ever taken has been given back. -/
theorem wasapi_handles_conserved {cfg : Config} {actions : List (Action Sample)}
    {capture : Capture Sample} (executed : Machine.exec step (new cfg) actions = some capture) :
    (∀ id, capture.engine.ledger.releases id ≤ 1) ∧
      (∀ id < capture.engine.ledger.created, capture.engine.ledger.releases id = 0 →
        ∃ cell resource, capture.engine.ledger.cells cell = some resource ∧ resource.id = id) ∧
      capture.engine.strayed = false ∧
      (∀ id, capture.engine.streaming = some id → ∃ client,
        capture.engine.ledger.cells .audioClient = some client ∧ client.id = id) ∧
      capture.running = capture.engine.streaming.isSome ∧
      (capture.supervisor = none → capture.engine.ledger.Settled) := by
  have invariant : capture.Invariant := Machine.exec_invariant
    (fun _ _ _ invariant stepped => invariant.step stepped) (invariant_new cfg) executed
  have balanced := invariant.sound.balanced
  refine ⟨?_, ?_, invariant.sound.straight, ?_, ?_, ?_⟩
  · intro id
    rcases Nat.lt_or_ge id capture.engine.ledger.created with made | ahead
    · by_cases held : Ledger.Held (fun _ => True) capture.engine.ledger id
      · rw [(balanced.held id held).2]
        exact Nat.zero_le 1
      · exact Nat.le_of_eq (balanced.gone id made held)
    · rw [balanced.ahead id ahead]
      exact Nat.zero_le 1
  · intro id made unreleased
    by_contra nowhere
    have gone := balanced.gone id made ?_
    · omega
    · rintro ⟨cell, resource, -, content, sameId⟩
      exact nowhere ⟨cell, resource, content, sameId⟩
  · intro id streaming
    rw [invariant.streaming] at streaming
    split at streaming
    next => exact Option.map_eq_some_iff.mp streaming
    next => cases streaming
  · rw [invariant.streaming, invariant.running]
    cases active : capture.engineActive with
    | false => rfl
    | true =>
        rw [if_pos rfl, Option.isSome_map]
        exact (invariant.active active).1.symm
  · intro thread
    apply balanced.settled_iff.mpr
    intro cell _
    exact Option.not_isSome_iff_eq_none.mp
      (Bool.not_eq_true _ ▸ (invariant.vacant thread).2 cell)

def microphone : Config := ⟨true, 48000, 2, 16, 10, false, "headset"⟩

/-- The device answers that its buffer is not aligned; its client is made anew and refused in
the exclusive mode.  A packet is taken, the device changes behind it, the next one has no
capture client, and the capture is shut down. -/
def changedDevice : List (Action Bool) :=
  [.init microphone {}, .start] ++
    List.replicate 4 (.supervise {}) ++
    [.supervise { openDevice := { exclusive := .notAligned, exclusiveAligned := false } }] ++
    List.replicate 5 (.supervise {}) ++
    [.supervise { buffer := .packet ⟨480, fun _ => true, 0⟩ }, .deviceChange "device-removed"] ++
    [.supervise {}, .supervise { packetSize := none }] ++
    List.replicate 8 (.supervise {}) ++
    [.supervise { openDevice := { service := false } }, .shutdown, .supervise {}, .supervise {},
      .joined]

theorem wasapi_handles_conserved_changedDevice :
    ∃ capture, Machine.exec step (new microphone) changedDevice = some capture ∧
      capture.delivered.length = 1 ∧ capture.engine.ledger.created = 13 ∧
      capture.engine.strayed = false ∧ capture.engine.ledger.Settled := by
  have observed : (Machine.exec step (new microphone) changedDevice).map (fun capture =>
      (capture.delivered.length, capture.engine.ledger.created, capture.supervisor)) =
      some (1, 13, none) := by
    decide +kernel
  obtain ⟨capture, executed, outcome⟩ := Option.map_eq_some_iff.mp observed
  obtain ⟨delivered, rest⟩ := Prod.mk.inj outcome
  obtain ⟨created, thread⟩ := Prod.mk.inj rest
  obtain ⟨-, -, straight, -, -, settled⟩ := wasapi_handles_conserved executed
  exact ⟨capture, executed, delivered, created, straight, settled thread⟩

end Capture

end Wasapi

end RejiStudio.Pipeline
