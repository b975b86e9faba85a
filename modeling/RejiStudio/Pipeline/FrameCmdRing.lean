import RejiStudio.Lib.SpscRing
import RejiStudio.Pipeline.CommandRouter

/-!
# The frame-command ring

`push_frame_cmd` on the action thread and the drain loop of `drain_and_apply` on the
frame thread, one access after the other in any order.  The indices wrap at the
capacity, one slot stays free, and the new tail is stored once for a whole batch.
-/

namespace RejiStudio.Pipeline

open RejiStudio.Lib RejiStudio.Orchestrator

def kFrameCmdCap : UInt32 := 16

inductive FrameCmdGlimpse where
  | blank
  | gotActionType (actionType : ActionType)
  | gotParam1 (cmd : FrameCmd)

def FrameCmd.writes (cmd : FrameCmd) : List (FrameCmd → FrameCmd) :=
  [fun slot => { slot with actionType := cmd.actionType },
    fun slot => { slot with param1 := cmd.param1 }]

def FrameCmdGlimpse.next : FrameCmdGlimpse → Option (FrameCmd → FrameCmdGlimpse)
  | .blank => some fun slot => .gotActionType slot.actionType
  | .gotActionType actionType => some fun slot => .gotParam1 ⟨actionType, slot.param1⟩
  | .gotParam1 _ => none

def FrameCmdGlimpse.finish : FrameCmdGlimpse → FrameCmd
  | .gotParam1 cmd => cmd
  | .blank | .gotActionType _ => ⟨.logOnly, 0⟩

def frameCmdCodec : SlotCodec FrameCmd FrameCmd FrameCmdGlimpse where
  writes := FrameCmd.writes
  blank := .blank
  next := FrameCmdGlimpse.next
  finish := FrameCmdGlimpse.finish

theorem eq_of_holds {slot cmd : FrameCmd} (holds : frameCmdCodec.Holds slot cmd) :
    slot = cmd := by
  obtain ⟨before, rfl⟩ := holds
  rfl

def FrameCmdGlimpse.Consistent (cmd : FrameCmd) : FrameCmdGlimpse → Prop
  | .blank => True
  | .gotActionType actionType => actionType = cmd.actionType
  | .gotParam1 read => read = cmd

theorem consistent_of_seen_cmd {cmd : FrameCmd} {glimpse : FrameCmdGlimpse}
    (seen : frameCmdCodec.Seen cmd glimpse) : glimpse.Consistent cmd := by
  induction seen with
  | blank => trivial
  | @read earlier look _ nextLook consistent =>
      cases earlier with
      | blank =>
          cases nextLook
          rfl
      | gotActionType actionType =>
          cases nextLook
          rw [show actionType = cmd.actionType from consistent]
          rfl
      | gotParam1 read => cases nextLook

theorem frameCmdCodec_lawful : frameCmdCodec.Lawful where
  readsBack := by
    intro slot cmd glimpse holds seen complete
    rw [eq_of_holds holds] at seen
    have consistent := consistent_of_seen_cmd seen
    cases glimpse with
    | blank => cases complete
    | gotActionType actionType => cases complete
    | gotParam1 read => exact consistent

/-! ## The ring -/

/-- Where the action thread is in `push_frame_cmd`. -/
inductive FrameCmdProducer where
  | idle
  | entered (cmd : FrameCmd)
  | headLoaded (cmd : FrameCmd) (head : UInt32)
  | writing (cmd : FrameCmd) (head : UInt32) (left : List (FrameCmd → FrameCmd))

inductive FrameCmdConsumer where
  | idle
  | tailLoaded (tail : UInt32)
  | draining (tail head : UInt32)
  | applying (tail head : UInt32) (glimpse : FrameCmdGlimpse)

/-- The ring between its two threads.  `returned`, `accepted` and `applied` are history. -/
structure FrameCmdRing where
  frameCmdBuf : Nat → FrameCmd
  frameCmdHead : UInt32
  frameCmdTail : UInt32
  producer : FrameCmdProducer
  consumer : FrameCmdConsumer
  returned : List Bool
  accepted : List FrameCmd
  applied : List FrameCmd

inductive FrameCmdAction where
  | push (cmd : FrameCmd)
  | producer
  | drain
  | consumer

namespace FrameCmdRing

def start (frameCmdBuf : Nat → FrameCmd) : FrameCmdRing :=
  ⟨frameCmdBuf, 0, 0, .idle, .idle, [], [], []⟩

/-- The next access of `push_frame_cmd`. -/
def producerStep (ring : FrameCmdRing) : Option FrameCmdRing :=
  match ring.producer with
  | .idle => none
  | .entered cmd => some { ring with producer := .headLoaded cmd ring.frameCmdHead }
  | .headLoaded cmd head =>
      if (head + 1) % kFrameCmdCap = ring.frameCmdTail then
        some { ring with producer := .idle, returned := ring.returned ++ [false] }
      else
        some { ring with producer := .writing cmd head cmd.writes }
  | .writing cmd head (write :: left) =>
      some { ring with
        frameCmdBuf := Function.update ring.frameCmdBuf head.toNat
          (write (ring.frameCmdBuf head.toNat))
        producer := .writing cmd head left }
  | .writing cmd head [] =>
      some { ring with
        frameCmdHead := (head + 1) % kFrameCmdCap
        producer := .idle
        returned := ring.returned ++ [true]
        accepted := ring.accepted ++ [cmd] }

def consumerStep (ring : FrameCmdRing) : Option FrameCmdRing :=
  match ring.consumer with
  | .idle => none
  | .tailLoaded tail => some { ring with consumer := .draining tail ring.frameCmdHead }
  | .draining tail head =>
      if tail ≠ head then
        some { ring with consumer := .applying tail head .blank }
      else
        some { ring with frameCmdTail := tail, consumer := .idle }
  | .applying tail head glimpse =>
      match glimpse.next with
      | some look =>
          some { ring with consumer := .applying tail head (look (ring.frameCmdBuf tail.toNat)) }
      | none =>
          some { ring with
            consumer := .draining ((tail + 1) % kFrameCmdCap) head
            applied := ring.applied ++ [glimpse.finish] }

def step : Machine FrameCmdRing FrameCmdAction
  | ring, .push cmd =>
      match ring.producer with
      | .idle => some { ring with producer := .entered cmd }
      | _ => none
  | ring, .producer => ring.producerStep
  | ring, .drain =>
      match ring.consumer with
      | .idle => some { ring with consumer := .tailLoaded ring.frameCmdTail }
      | _ => none
  | ring, .consumer => ring.consumerStep

/-! ## Simulation by the general ring -/

abbrev Model := SpscRing FrameCmd FrameCmd FrameCmdGlimpse

abbrev modelStep : Machine Model (RingAction FrameCmd) := SpscRing.step frameCmdCodec 16 15

def index (counter : Nat) : UInt32 := UInt32.ofNat (counter % 16)

theorem toNat_index (counter : Nat) : (index counter).toNat = counter % 16 := by
  rw [index, UInt32.toNat_ofNat']
  omega

theorem index_succ (counter : Nat) :
    (index counter + 1) % kFrameCmdCap = index (counter + 1) := by
  apply UInt32.toNat_inj.mp
  have cap : kFrameCmdCap.toNat = 16 := rfl
  rw [UInt32.toNat_mod, UInt32.toNat_add, toNat_index, toNat_index, cap, UInt32.toNat_one]
  omega

/-- Indices tell counters apart that are less than the capacity apart. -/
theorem index_eq_iff {first second : Nat} (order : first ≤ second) (near : second < first + 16) :
    index first = index second ↔ first = second := by
  constructor
  · intro same
    have residues := congrArg UInt32.toNat same
    rw [toNat_index, toNat_index] at residues
    omega
  · rintro rfl
    rfl

def ProducerAgrees (ring : FrameCmdRing) (model : Model) : Prop :=
  match ring.producer with
  | .idle | .entered _ => model.producer = .idle
  | .headLoaded _ head => model.producer = .idle ∧ head = ring.frameCmdHead
  | .writing cmd head left => model.producer = .writing cmd left ∧ head = ring.frameCmdHead

def ConsumerAgrees (ring : FrameCmdRing) (model : Model) : Prop :=
  match ring.consumer with
  | .idle => model.consumer = .idle
  | .tailLoaded tail => model.consumer = .idle ∧ tail = index model.current
  | .draining tail head => ∃ limit, model.consumer = .draining limit ∧
      tail = index model.current ∧ head = index limit
  | .applying tail head glimpse => ∃ limit, model.consumer = .reading limit glimpse ∧
      tail = index model.current ∧ head = index limit

structure Refines (ring : FrameCmdRing) (model : Model) : Prop where
  frameCmdBuf : ring.frameCmdBuf = model.slots
  frameCmdHead : ring.frameCmdHead = index model.pushed
  frameCmdTail : ring.frameCmdTail = index model.released
  accepted : ring.accepted = model.accepted
  applied : ring.applied = model.taken
  producer : ProducerAgrees ring model
  consumer : ConsumerAgrees ring model
  invariant : model.Invariant frameCmdCodec 16 15

abbrev Matched (model : Model) (next : FrameCmdRing) : Prop :=
  model.Reaches frameCmdCodec 16 15 next.Refines

variable {ring next : FrameCmdRing} {model : Model}

theorem Refines.matched (action : RingAction FrameCmd) {modelNext : Model}
    (invariant : model.Invariant frameCmdCodec 16 15)
    (moved : modelStep model action = some modelNext)
    (refines : modelNext.Invariant frameCmdCodec 16 15 → Refines next modelNext) :
    Matched model next :=
  .by_step frameCmdCodec_lawful (by decide) invariant moved refines

theorem start_refines (frameCmdBuf : Nat → FrameCmd) :
    Refines (start frameCmdBuf) (SpscRing.empty frameCmdBuf) where
  frameCmdBuf := rfl
  frameCmdHead := rfl
  frameCmdTail := rfl
  accepted := rfl
  applied := rfl
  producer := rfl
  consumer := rfl
  invariant := SpscRing.invariant_empty frameCmdBuf

theorem producerStep_matched (refines : Refines ring model)
    (stepped : ring.producerStep = some next) : Matched model next := by
  have order := Nat.le_trans refines.invariant.released refines.invariant.current
  have near := refines.invariant.bounded
  have agrees := refines.producer
  unfold ProducerAgrees at agrees
  unfold producerStep at stepped
  split at stepped
  next => cases stepped
  next cmd entered =>
    rw [entered] at agrees
    cases stepped
    exact SpscRing.Reaches.here
      { refines with producer := ⟨agrees, rfl⟩, consumer := refines.consumer }
  next cmd head loaded =>
    rw [loaded] at agrees
    obtain ⟨idle, sameHead⟩ := agrees
    split at stepped
    next =>
      cases stepped
      exact SpscRing.Reaches.here
        { refines with producer := idle, consumer := refines.consumer }
    next notFull =>
      cases stepped
      have room : model.pushed - model.released < 15 := by
        by_contra full
        apply notFull
        rw [sameHead, refines.frameCmdHead, refines.frameCmdTail, index_succ]
        apply UInt32.toNat_inj.mp
        rw [toNat_index, toNat_index]
        omega
      refine Refines.matched (.claim cmd) refines.invariant
        (by simp only [modelStep, SpscRing.step, idle, if_pos room]; rfl) fun invariant => ?_
      exact { refines with
        producer := ⟨rfl, sameHead⟩, consumer := refines.consumer, invariant := invariant }
  next cmd head write left writing =>
    rw [writing] at agrees
    obtain ⟨modelWriting, sameHead⟩ := agrees
    cases stepped
    have position : head.toNat = model.pushed % 16 := by
      rw [sameHead, refines.frameCmdHead, toNat_index]
    refine Refines.matched .write refines.invariant
      (by simp only [modelStep, SpscRing.step, modelWriting]; rfl) fun invariant => ?_
    exact { refines with
      frameCmdBuf := by dsimp only; rw [position, refines.frameCmdBuf]
      producer := ⟨rfl, sameHead⟩
      consumer := refines.consumer
      invariant := invariant }
  next cmd head writing =>
    rw [writing] at agrees
    obtain ⟨modelWriting, sameHead⟩ := agrees
    cases stepped
    refine Refines.matched .publish refines.invariant
      (by simp only [modelStep, SpscRing.step, modelWriting]; rfl) fun invariant => ?_
    exact { refines with
      frameCmdHead := by
        dsimp only
        rw [sameHead, refines.frameCmdHead, index_succ]
      accepted := by rw [refines.accepted]
      producer := rfl
      consumer := refines.consumer
      invariant := invariant }

theorem consumerStep_matched (refines : Refines ring model)
    (stepped : ring.consumerStep = some next) : Matched model next := by
  have bounded := refines.invariant.bounded
  have released := refines.invariant.released
  have inside := refines.invariant.consumerOk
  unfold SpscRing.ConsumerOk at inside
  have agrees := refines.consumer
  unfold ConsumerAgrees at agrees
  unfold consumerStep at stepped
  split at stepped
  next => cases stepped
  next tail loaded =>
    rw [loaded] at agrees
    obtain ⟨idle, sameTail⟩ := agrees
    cases stepped
    refine Refines.matched .load refines.invariant
      (by simp only [modelStep, SpscRing.step, idle]; rfl) fun invariant => ?_
    exact { refines with
      producer := refines.producer
      consumer := ⟨_, rfl, sameTail, refines.frameCmdHead⟩
      invariant := invariant }
  next tail head draining =>
    rw [draining] at agrees
    obtain ⟨limit, modelDraining, sameTail, sameHead⟩ := agrees
    rw [modelDraining] at inside
    obtain ⟨behind, loaded⟩ := inside
    have apart : tail = head ↔ model.current = limit := by
      rw [sameTail, sameHead]
      exact index_eq_iff behind (by omega)
    split at stepped
    next differs =>
      cases stepped
      have more : model.current < limit := Nat.lt_of_le_of_ne behind (mt apart.mpr differs)
      refine Refines.matched .open_ refines.invariant
        (by simp only [modelStep, SpscRing.step, modelDraining, if_pos more]; rfl)
        fun invariant => ?_
      exact { refines with
        producer := refines.producer
        consumer := ⟨limit, rfl, sameTail, sameHead⟩
        invariant := invariant }
    next =>
      cases stepped
      refine Refines.matched .release refines.invariant
        (by simp only [modelStep, SpscRing.step, modelDraining]; rfl) fun invariant => ?_
      exact { refines with
        frameCmdTail := sameTail
        producer := refines.producer
        consumer := rfl
        invariant := invariant }
  next tail head glimpse applying =>
    rw [applying] at agrees
    obtain ⟨limit, modelReading, sameTail, sameHead⟩ := agrees
    split at stepped
    next look nextLook =>
      cases stepped
      have position : tail.toNat = model.current % 16 := by
        rw [sameTail, toNat_index]
      have codecNext : frameCmdCodec.next glimpse = some look := nextLook
      refine Refines.matched .read refines.invariant
        (by simp only [modelStep, SpscRing.step, modelReading, codecNext]; rfl)
        fun invariant => ?_
      exact { refines with
        producer := refines.producer
        consumer := ⟨limit, by rw [position, refines.frameCmdBuf], sameTail, sameHead⟩
        invariant := invariant }
    next complete =>
      cases stepped
      have codecNext : frameCmdCodec.next glimpse = none := complete
      refine Refines.matched .take refines.invariant
        (by simp only [modelStep, SpscRing.step, modelReading, codecNext]; rfl)
        fun invariant => ?_
      exact { refines with
        applied := by rw [refines.applied]; rfl
        producer := refines.producer
        consumer := ⟨limit, rfl, by rw [sameTail, index_succ], sameHead⟩
        invariant := invariant }

theorem step_matched {action : FrameCmdAction} (refines : Refines ring model)
    (stepped : step ring action = some next) : Matched model next := by
  cases action with
  | push cmd =>
      simp only [step] at stepped
      split at stepped
      next idle =>
        have agrees := refines.producer
        unfold ProducerAgrees at agrees
        rw [idle] at agrees
        cases stepped
        exact SpscRing.Reaches.here
          { refines with producer := agrees, consumer := refines.consumer }
      next => cases stepped
  | producer => exact producerStep_matched refines stepped
  | drain =>
      simp only [step] at stepped
      split at stepped
      next idle =>
        have agrees := refines.consumer
        unfold ConsumerAgrees at agrees
        rw [idle] at agrees
        have inside := refines.invariant.consumerOk
        rw [SpscRing.ConsumerOk, agrees] at inside
        cases stepped
        refine SpscRing.Reaches.here
          { refines with producer := refines.producer, consumer := ⟨agrees, ?_⟩ }
        rw [refines.frameCmdTail, show model.released = model.current from inside]
      next => cases stepped
  | consumer => exact consumerStep_matched refines stepped

/-! ## Positions and slots -/

theorem Refines.applied_prefix (refines : Refines ring model) :
    ring.applied <+: ring.accepted := by
  rw [refines.accepted, refines.applied]
  exact refines.invariant.taken_prefix

theorem Refines.released_le (refines : Refines ring model) :
    model.released ≤ ring.applied.length := by
  have released := refines.invariant.released
  have current := refines.invariant.current
  rw [refines.applied, refines.invariant.taken, List.length_take, refines.invariant.accepted]
  omega

/-- A push writes the slot of the next position, which holds no command that is yet to be
applied. -/
theorem Refines.writing_slot (refines : Refines ring model) {cmd : FrameCmd} {head : UInt32}
    {left : List (FrameCmd → FrameCmd)} (writing : ring.producer = .writing cmd head left) :
    head.toNat = ring.accepted.length % 16 ∧
      ∀ k, ring.applied.length ≤ k → k < ring.accepted.length → k % 16 ≠ head.toNat := by
  have producer := refines.producer
  rw [ProducerAgrees, writing] at producer
  obtain ⟨modelWriting, rfl⟩ := producer
  rw [refines.frameCmdHead, toNat_index, refines.accepted, refines.invariant.accepted]
  refine ⟨rfl, ?_⟩
  intro k later published
  exact refines.invariant.writing_slot_free (by decide) modelWriting
    (Nat.le_trans refines.released_le later) published

theorem Refines.applying_slot (refines : Refines ring model) {tail head : UInt32}
    {glimpse : FrameCmdGlimpse} (applying : ring.consumer = .applying tail head glimpse) :
    tail.toNat = ring.applied.length % 16 := by
  have consumer := refines.consumer
  have current := refines.invariant.current
  rw [ConsumerAgrees, applying] at consumer
  obtain ⟨limit, -, sameTail, -⟩ := consumer
  rw [sameTail, toNat_index, refines.applied, refines.invariant.taken, List.length_take,
    refines.invariant.accepted, Nat.min_eq_left current]

/-! ## Runs -/

/-- The action thread has passed the check and not yet returned. -/
def Passed (ring : FrameCmdRing) : Prop :=
  ∃ cmd head left, ring.producer = .writing cmd head left

/-- Only a push that passed the check touches the ring, and it is not rejected any more. -/
theorem producerStep_frame (stepped : ring.producerStep = some next) :
    (¬ring.Passed →
      next = { ring with producer := next.producer, returned := next.returned }) ∧
    (ring.Passed → next.returned = ring.returned ∨ next.returned = ring.returned ++ [true]) := by
  unfold producerStep at stepped
  split at stepped
  next => cases stepped
  next cmd entered =>
    cases stepped
    refine ⟨fun _ => rfl, ?_⟩
    rintro ⟨_, _, _, writing⟩
    rw [entered] at writing
    cases writing
  next cmd head loaded =>
    have notPassed : ¬ring.Passed := by
      rintro ⟨_, _, _, writing⟩
      rw [loaded] at writing
      cases writing
    split at stepped <;> cases stepped <;>
      exact ⟨fun _ => rfl, fun passed => absurd passed notPassed⟩
  next cmd head write left writing =>
    cases stepped
    exact ⟨fun notPassed => absurd ⟨_, _, _, writing⟩ notPassed, fun _ => .inl rfl⟩
  next cmd head writing =>
    cases stepped
    exact ⟨fun notPassed => absurd ⟨_, _, _, writing⟩ notPassed, fun _ => .inr rfl⟩

/-- In every interleaving of the two threads: the applied commands are a prefix of the
accepted ones, at most one less than the capacity behind them; a push changes nothing
before it passes the check and is rejected only there; and the slot of an accepted
command keeps it until it is applied. -/
theorem frameCmdRing_refines_fifo (frameCmdBuf : Nat → FrameCmd)
    (actions : List FrameCmdAction) (ring : FrameCmdRing)
    (executed : Machine.exec step (start frameCmdBuf) actions = some ring) :
    ring.applied <+: ring.accepted ∧
    ring.accepted.length ≤ ring.applied.length + (kFrameCmdCap.toNat - 1) ∧
    (∀ next, step ring .producer = some next →
      (¬ring.Passed →
        next = { ring with producer := next.producer, returned := next.returned }) ∧
      (next.returned = ring.returned ++ [false] → ¬ring.Passed)) ∧
    (∀ k cmd, ring.applied.length ≤ k → ring.accepted[k]? = some cmd →
      ring.frameCmdBuf (k % kFrameCmdCap.toNat) = cmd) ∧
    ∀ cmd head left, ring.producer = .writing cmd head left →
      ∀ k, ring.applied.length ≤ k → k < ring.accepted.length →
        k % kFrameCmdCap.toNat ≠ head.toNat := by
  obtain ⟨_, model, _, refines⟩ := Machine.exec_simulates Refines
    (fun _ _ _ _ refines stepped => step_matched refines stepped) (start_refines frameCmdBuf)
    executed
  have invariant := refines.invariant
  refine ⟨?_, ?_, ?_, ?_, ?_⟩
  · exact refines.applied_prefix
  · rw [refines.accepted, refines.applied]
    exact invariant.outstanding_le
  · intro next stepped
    obtain ⟨unpassed, passed⟩ := producerStep_frame stepped
    refine ⟨unpassed, ?_⟩
    intro rejected has
    rcases passed has with same | accepted
    · have lengths := congrArg List.length (same.symm.trans rejected)
      simp at lengths
    · have last := List.append_cancel_left (accepted.symm.trans rejected)
      cases last
  · intro k cmd later present
    rw [refines.accepted] at present
    rw [refines.frameCmdBuf]
    exact eq_of_holds (invariant.held k cmd (Nat.le_trans refines.released_le later) present)
  · intro cmd head left writing
    exact (refines.writing_slot writing).2

/-- Two pushes; the drain sees the first and applies it while the second is written. -/
def drainBetweenPushes : List FrameCmdAction :=
  [.push ⟨.bitrateReduce, 4500⟩, .producer, .producer, .producer, .producer, .producer,
    .push ⟨.capFps, 30⟩, .producer, .drain, .consumer, .producer, .consumer, .producer, .consumer,
    .producer, .consumer, .producer, .consumer]

theorem frameCmdRing_refines_fifo_between :
    ∃ ring, Machine.exec step (start fun _ => ⟨.logOnly, 0⟩) drainBetweenPushes = some ring ∧
      ring.accepted = [⟨.bitrateReduce, 4500⟩, ⟨.capFps, 30⟩] ∧
      ring.applied = [⟨.bitrateReduce, 4500⟩] ∧
      ring.frameCmdBuf (1 % kFrameCmdCap.toNat) = ⟨.capFps, 30⟩ := by
  have observed : (Machine.exec step (start fun _ => ⟨.logOnly, 0⟩) drainBetweenPushes).map
      (fun ring => (ring.accepted, ring.applied)) =
      some ([⟨.bitrateReduce, 4500⟩, ⟨.capFps, 30⟩], [⟨.bitrateReduce, 4500⟩]) := by
    decide
  obtain ⟨ring, executed, outcome⟩ := Option.map_eq_some_iff.mp observed
  obtain ⟨accepted, applied⟩ := Prod.mk.inj outcome
  obtain ⟨_, _, _, kept, _⟩ := frameCmdRing_refines_fifo _ drainBetweenPushes ring executed
  exact ⟨ring, executed, accepted, applied,
    kept 1 _ (by rw [applied]; decide) (by rw [accepted]; rfl)⟩

end FrameCmdRing

end RejiStudio.Pipeline
