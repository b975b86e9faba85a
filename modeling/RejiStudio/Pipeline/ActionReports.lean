import RejiStudio.Pipeline.ActionEncoding
import RejiStudio.Pipeline.FrameCmdRing

/-!
# What `apply_action` reports

The action thread calls `apply_action` again and again, the frame thread drains the ring
meanwhile.  A call decides what it returns before `push_frame_cmd` has looked for a free
slot, and does not look at the answer.
-/

namespace RejiStudio.Pipeline

open RejiStudio.Lib RejiStudio.Orchestrator

/-- A call of `apply_action` up to the push: the action, the bitrate read for it, and the
value of the `return` behind the push. -/
structure ActionCall where
  action : RjAction
  current : UInt32
  returned : Bool

structure ActionReport extends ActionCall where
  accepted : Option FrameCmd

/-- The ring with the calls of the action thread.  `slotCall` says for which call a slot was
last claimed and `applied` from which call a command came; both and `reports` are history. -/
structure ActionCalls where
  cfg : Config
  ring : FrameCmdRing
  call : Option ActionCall
  reports : List ActionReport
  slotCall : Nat → Nat
  applied : List (Nat × FrameCmd)

inductive ActionCallStep where
  /-- `apply_action` up to the push. -/
  | applyAction (action : RjAction) (current : UInt32)
  /-- The next access of `push_frame_cmd`; the last one returns. -/
  | producer
  | drain
  | consumer

namespace ActionCalls

def start (cfg : Config) (frameCmdBuf : Nat → FrameCmd) : ActionCalls :=
  ⟨cfg, FrameCmdRing.start frameCmdBuf, none, [], fun _ => 0, []⟩

/-- The action thread behind one access of `push_frame_cmd`. -/
def afterAccess (s : ActionCalls) (call : ActionCall) (ring : FrameCmdRing) : ActionCalls :=
  match ring.producer with
  | .idle =>
      { s with
        ring := ring
        call := none
        reports := s.reports ++
          [⟨call, (ring.accepted.drop s.ring.accepted.length).head?⟩] }
  | .entered _ | .headLoaded _ _ => { s with ring := ring }
  | .writing _ head _ =>
      { s with
        ring := ring
        slotCall := Function.update s.slotCall head.toNat s.reports.length }

/-- The commands applied by one access of the drain loop, with the call they came from. -/
def newlyApplied (s : ActionCalls) (ring : FrameCmdRing) : List (Nat × FrameCmd) :=
  match s.ring.consumer with
  | .applying tail _ _ =>
      (ring.applied.drop s.ring.applied.length).map fun cmd => (s.slotCall tail.toNat, cmd)
  | .idle | .tailLoaded _ | .draining _ _ => []

def step : Machine ActionCalls ActionCallStep
  | s, .applyAction action current =>
      match s.call with
      | some _ => none
      | none =>
          match Pipeline.applyAction s.cfg current action with
          | (none, returned) =>
              some { s with reports := s.reports ++ [⟨⟨action, current, returned⟩, none⟩] }
          | (some cmd, returned) =>
              (FrameCmdRing.step s.ring (.push cmd)).map fun ring =>
                { s with ring := ring, call := some ⟨action, current, returned⟩ }
  | s, .producer =>
      s.call.bind fun call => s.ring.producerStep.map fun ring => s.afterAccess call ring
  | s, .drain => (FrameCmdRing.step s.ring .drain).map fun ring => { s with ring := ring }
  | s, .consumer =>
      s.ring.consumerStep.map fun ring =>
        { s with ring := ring, applied := s.applied ++ s.newlyApplied ring }

def encoderOperations (s : ActionCalls) : List (Nat × EncoderOperation) :=
  s.applied.filterMap fun (number, cmd) => cmd.encoderOperation.map fun op => (number, op)

end ActionCalls

def ActionReport.Honest (cfg : Config) (report : ActionReport) : Prop :=
  report.returned = true ↔ ∃ cmd,
    (applyAction cfg report.current report.action).1 = some cmd ∧ report.accepted = some cmd

namespace ActionCalls

/-- Every call reported honestly, and none that returned false reached the encoder. -/
structure Honest (s : ActionCalls) : Prop where
  reports : ∀ report ∈ s.reports, report.Honest s.cfg
  silent : ∀ (number : Nat) (report : ActionReport), s.reports[number]? = some report →
    report.returned = false → ∀ op ∈ s.encoderOperations, op.1 ≠ number

/-- The check of `push_frame_cmd` finds a free slot. -/
def RoomAtCheck (s : ActionCalls) : ActionCallStep → Prop
  | .producer => ∀ cmd head, s.ring.producer = .headLoaded cmd head →
      (head + 1) % kFrameCmdCap ≠ s.ring.frameCmdTail
  | .applyAction _ _ | .drain | .consumer => True

instance decidableRoomAtCheck (s : ActionCalls) : ∀ action, Decidable (s.RoomAtCheck action)
  | .producer =>
      match phase : s.ring.producer with
      | .headLoaded _ head =>
          decidable_of_iff ((head + 1) % kFrameCmdCap ≠ s.ring.frameCmdTail)
            (by simp [RoomAtCheck, phase])
      | .idle | .entered _ | .writing _ _ _ => isTrue (by simp [RoomAtCheck, phase])
  | .applyAction _ _ | .drain | .consumer => isTrue trivial

end ActionCalls

theorem applyAction_returned (cfg : Config) (current : UInt32) (action : RjAction) :
    (applyAction cfg current action).2 = (applyAction cfg current action).1.isSome := by
  unfold applyAction
  cases action.actionType with
  | bitrateRecover =>
      dsimp only
      split <;> rfl
  | bitrateReduce | scaleResolution | restoreResolution | capFps | restoreFps | logOnly => rfl

namespace ActionCalls

/-! ## What a step does -/

inductive Stepped (s : ActionCalls) : ActionCallStep → ActionCalls → Prop
  | declined (action : RjAction) (current : UInt32) (free : s.call = none)
      (pushesNothing : (Pipeline.applyAction s.cfg current action).1 = none) :
      Stepped s (.applyAction action current)
        { s with reports := s.reports ++ [⟨⟨action, current, false⟩, none⟩] }
  | entered (action : RjAction) (current : UInt32) (cmd : FrameCmd) (free : s.call = none)
      (pushes : (Pipeline.applyAction s.cfg current action).1 = some cmd) :
      Stepped s (.applyAction action current)
        { s with
          ring := { s.ring with producer := .entered cmd }
          call := some ⟨action, current, true⟩ }
  | headLoaded (call : ActionCall) (cmd : FrameCmd) (calling : s.call = some call)
      (phase : s.ring.producer = .entered cmd) :
      Stepped s .producer
        { s with ring := { s.ring with producer := .headLoaded cmd s.ring.frameCmdHead } }
  | rejected (call : ActionCall) (cmd : FrameCmd) (head : UInt32) (calling : s.call = some call)
      (phase : s.ring.producer = .headLoaded cmd head)
      (full : (head + 1) % kFrameCmdCap = s.ring.frameCmdTail) :
      Stepped s .producer
        { s with
          ring := { s.ring with producer := .idle, returned := s.ring.returned ++ [false] }
          call := none
          reports := s.reports ++ [⟨call, none⟩] }
  | claimed (call : ActionCall) (cmd : FrameCmd) (head : UInt32) (calling : s.call = some call)
      (phase : s.ring.producer = .headLoaded cmd head)
      (room : (head + 1) % kFrameCmdCap ≠ s.ring.frameCmdTail) :
      Stepped s .producer
        { s with
          ring := { s.ring with producer := .writing cmd head cmd.writes }
          slotCall := Function.update s.slotCall head.toNat s.reports.length }
  | wrote (call : ActionCall) (cmd : FrameCmd) (head : UInt32) (write : FrameCmd → FrameCmd)
      (left : List (FrameCmd → FrameCmd)) (calling : s.call = some call)
      (phase : s.ring.producer = .writing cmd head (write :: left)) :
      Stepped s .producer
        { s with
          ring := { s.ring with
            frameCmdBuf := Function.update s.ring.frameCmdBuf head.toNat
              (write (s.ring.frameCmdBuf head.toNat))
            producer := .writing cmd head left }
          slotCall := Function.update s.slotCall head.toNat s.reports.length }
  | published (call : ActionCall) (cmd : FrameCmd) (head : UInt32) (calling : s.call = some call)
      (phase : s.ring.producer = .writing cmd head []) :
      Stepped s .producer
        { s with
          ring := { s.ring with
            frameCmdHead := (head + 1) % kFrameCmdCap
            producer := .idle
            returned := s.ring.returned ++ [true]
            accepted := s.ring.accepted ++ [cmd] }
          call := none
          reports := s.reports ++ [⟨call, some cmd⟩] }
  | drained :
      Stepped s .drain
        { s with ring := { s.ring with consumer := .tailLoaded s.ring.frameCmdTail } }
  | loaded (consumer : FrameCmdConsumer) (frameCmdTail : UInt32) :
      Stepped s .consumer
        { s with ring := { s.ring with consumer := consumer, frameCmdTail := frameCmdTail } }
  | applied (tail head : UInt32) (glimpse : FrameCmdGlimpse)
      (phase : s.ring.consumer = .applying tail head glimpse) :
      Stepped s .consumer
        { s with
          ring := { s.ring with
            consumer := .draining ((tail + 1) % kFrameCmdCap) head
            applied := s.ring.applied ++ [glimpse.finish] }
          applied := s.applied ++ [(s.slotCall tail.toNat, glimpse.finish)] }

variable {s next : ActionCalls}

theorem stepped_producer (stepped : step s .producer = some next) :
    s.Stepped .producer next := by
  obtain ⟨call, calling, accessed⟩ := Option.bind_eq_some_iff.mp stepped
  obtain ⟨ring, moved, rfl⟩ := Option.map_eq_some_iff.mp accessed
  unfold FrameCmdRing.producerStep at moved
  split at moved
  next => cases moved
  next cmd phase =>
    cases moved
    exact .headLoaded call cmd calling phase
  next cmd head phase =>
    split at moved
    next full =>
      cases moved
      simp only [afterAccess, List.drop_length, List.head?_nil]
      exact .rejected call cmd head calling phase full
    next room =>
      cases moved
      exact .claimed call cmd head calling phase room
  next cmd head write left phase =>
    cases moved
    exact .wrote call cmd head write left calling phase
  next cmd head phase =>
    cases moved
    simp only [afterAccess, List.drop_left, List.head?_cons]
    exact .published call cmd head calling phase

theorem stepped_consumer (stepped : step s .consumer = some next) :
    s.Stepped .consumer next := by
  obtain ⟨ring, moved, rfl⟩ := Option.map_eq_some_iff.mp stepped
  unfold FrameCmdRing.consumerStep at moved
  split at moved
  next => cases moved
  next tail phase =>
    cases moved
    simp only [newlyApplied, phase, List.append_nil]
    exact .loaded _ _
  next tail head phase =>
    split at moved <;> cases moved <;>
      simp only [newlyApplied, phase, List.append_nil] <;> exact .loaded _ _
  next tail head glimpse phase =>
    split at moved
    next =>
      cases moved
      simp only [newlyApplied, phase, List.drop_length, List.map_nil, List.append_nil]
      exact .loaded _ _
    next =>
      cases moved
      simp only [newlyApplied, phase, List.drop_left, List.map_cons, List.map_nil]
      exact .applied tail head glimpse phase

theorem step_cases {action : ActionCallStep} (stepped : step s action = some next) :
    s.Stepped action next := by
  cases action with
  | applyAction action current =>
      have returned := applyAction_returned s.cfg current action
      simp only [step] at stepped
      split at stepped
      next => cases stepped
      next free =>
        split at stepped
        next outcome =>
          rw [outcome] at returned
          cases stepped
          cases returned
          exact .declined action current free (by rw [outcome])
        next cmd _ outcome =>
          rw [outcome] at returned
          obtain ⟨ring, moved, rfl⟩ := Option.map_eq_some_iff.mp stepped
          simp only [FrameCmdRing.step] at moved
          split at moved
          next =>
            cases moved
            cases returned
            exact .entered action current cmd free (by rw [outcome])
          next => cases moved
  | producer => exact stepped_producer stepped
  | drain =>
      obtain ⟨ring, moved, rfl⟩ := Option.map_eq_some_iff.mp stepped
      simp only [FrameCmdRing.step] at moved
      split at moved
      next =>
        cases moved
        exact .drained
      next => cases moved
  | consumer => exact stepped_consumer stepped

theorem step_ring {action : ActionCallStep} (stepped : step s action = some next) :
    next.ring = s.ring ∨ ∃ access, FrameCmdRing.step s.ring access = some next.ring := by
  cases action with
  | applyAction action current =>
      simp only [step] at stepped
      split at stepped
      next => cases stepped
      next =>
        split at stepped
        next =>
          cases stepped
          exact .inl rfl
        next cmd _ _ =>
          obtain ⟨ring, moved, rfl⟩ := Option.map_eq_some_iff.mp stepped
          exact .inr ⟨.push cmd, moved⟩
  | producer =>
      obtain ⟨call, -, accessed⟩ := Option.bind_eq_some_iff.mp stepped
      obtain ⟨ring, moved, rfl⟩ := Option.map_eq_some_iff.mp accessed
      have sameRing : (s.afterAccess call ring).ring = ring := by
        unfold afterAccess
        split <;> rfl
      rw [sameRing]
      exact .inr ⟨.producer, moved⟩
  | drain =>
      obtain ⟨ring, moved, rfl⟩ := Option.map_eq_some_iff.mp stepped
      exact .inr ⟨.drain, moved⟩
  | consumer =>
      obtain ⟨ring, moved, rfl⟩ := Option.map_eq_some_iff.mp stepped
      exact .inr ⟨.consumer, moved⟩

/-! ## What the calls keep -/

/-- The push of the call in progress has the command, and its slot once it has one. -/
def Pushing (s : ActionCalls) (cmd : FrameCmd) : Prop :=
  match s.ring.producer with
  | .idle => False
  | .entered pushed => pushed = cmd
  | .headLoaded pushed _ => pushed = cmd
  | .writing pushed head _ => pushed = cmd ∧ s.slotCall head.toNat = s.reports.length

/-- The call with the number has reported, and the ring took the command for it. -/
def TookFor (s : ActionCalls) (number : Nat) (cmd : FrameCmd) : Prop :=
  ∃ report, s.reports[number]? = some report ∧ report.accepted = some cmd

structure Invariant (s : ActionCalls) : Prop where
  ring : ∃ model, FrameCmdRing.Refines s.ring model
  pushing : ∀ call, s.call = some call → call.returned = true ∧
    ∃ cmd, (Pipeline.applyAction s.cfg call.current call.action).1 = some cmd ∧ s.Pushing cmd
  reported : ∀ report ∈ s.reports,
    report.returned = (Pipeline.applyAction s.cfg report.current report.action).1.isSome ∧
      ∀ cmd, report.accepted = some cmd →
        (Pipeline.applyAction s.cfg report.current report.action).1 = some cmd
  tagged : ∀ k cmd, s.ring.applied.length ≤ k → s.ring.accepted[k]? = some cmd →
    s.TookFor (s.slotCall (k % 16)) cmd
  applied : ∀ entry ∈ s.applied, s.TookFor entry.1 entry.2

theorem start_invariant (cfg : Config) (frameCmdBuf : Nat → FrameCmd) :
    (start cfg frameCmdBuf).Invariant where
  ring := ⟨_, FrameCmdRing.start_refines frameCmdBuf⟩
  pushing := nofun
  reported := nofun
  tagged := by simp [start, FrameCmdRing.start]
  applied := nofun

theorem ring_kept {action : ActionCallStep} (invariant : s.Invariant)
    (stepped : step s action = some next) : ∃ model, FrameCmdRing.Refines next.ring model := by
  obtain ⟨model, refines⟩ := invariant.ring
  rcases step_ring stepped with same | ⟨access, moved⟩
  · rw [same]
    exact ⟨model, refines⟩
  · obtain ⟨_, reached, -, refinesNext⟩ := FrameCmdRing.step_matched refines moved
    exact ⟨reached, refinesNext⟩

theorem TookFor.append {number : Nat} {cmd : FrameCmd} (took : s.TookFor number cmd)
    {report : ActionReport} (appended : next.reports = s.reports ++ [report]) :
    next.TookFor number cmd := by
  obtain ⟨earlier, found, accepted⟩ := took
  refine ⟨earlier, ?_, accepted⟩
  rw [appended, List.getElem?_append_left (List.getElem?_eq_some_iff.mp found).1]
  exact found

/-- The slot that a push claims keeps no command that is yet to be applied. -/
theorem tagged_update (invariant : s.Invariant) {ring : FrameCmdRing}
    (refines : ∃ model, FrameCmdRing.Refines ring model) {cmd : FrameCmd} {head : UInt32}
    {left : List (FrameCmd → FrameCmd)} (writing : ring.producer = .writing cmd head left)
    (sameAccepted : ring.accepted = s.ring.accepted)
    (sameApplied : ring.applied = s.ring.applied) (number k : Nat) (found : FrameCmd)
    (later : s.ring.applied.length ≤ k) (present : s.ring.accepted[k]? = some found) :
    s.TookFor (Function.update s.slotCall head.toNat number (k % 16)) found := by
  obtain ⟨model, refines⟩ := refines
  have apart := (refines.writing_slot writing).2 k
  rw [sameAccepted, sameApplied] at apart
  rw [Function.update_of_ne (apart later (List.getElem?_eq_some_iff.mp present).1)]
  exact invariant.tagged k found later present

/-- A finished call is reported by what it pushed and what the ring took of it. -/
theorem reported_append {report : ActionReport} (invariant : s.Invariant)
    (returned : report.returned =
      (Pipeline.applyAction s.cfg report.current report.action).1.isSome)
    (took : ∀ cmd, report.accepted = some cmd →
      (Pipeline.applyAction s.cfg report.current report.action).1 = some cmd) :
    ∀ other ∈ s.reports ++ [report],
      other.returned = (Pipeline.applyAction s.cfg other.current other.action).1.isSome ∧
        ∀ cmd, other.accepted = some cmd →
          (Pipeline.applyAction s.cfg other.current other.action).1 = some cmd := by
  intro other member
  rcases List.mem_append.mp member with earlier | new
  · exact invariant.reported other earlier
  · rw [List.mem_singleton.mp new]
    exact ⟨returned, took⟩

theorem step_invariant {action : ActionCallStep} (invariant : s.Invariant)
    (stepped : step s action = some next) : next.Invariant := by
  have kept := ring_kept invariant stepped
  cases step_cases stepped with
  | declined action current free pushesNothing =>
      exact {
        ring := kept
        pushing := fun call calling => by
          rw [free] at calling
          cases calling
        reported := reported_append invariant (by rw [pushesNothing]; rfl) nofun
        tagged := fun k cmd later present => (invariant.tagged k cmd later present).append rfl
        applied := fun entry member => (invariant.applied entry member).append rfl }
  | entered action current cmd free pushes =>
      refine { invariant with ring := kept, pushing := ?_ }
      intro call calling
      cases calling
      exact ⟨rfl, cmd, pushes, rfl⟩
  | headLoaded call cmd calling phase =>
      refine { invariant with ring := kept, pushing := ?_ }
      intro other calling
      obtain ⟨returned, pushed, pushes, carried⟩ := invariant.pushing other calling
      rw [Pushing, phase] at carried
      exact ⟨returned, pushed, pushes, carried⟩
  | rejected call cmd head calling phase full =>
      obtain ⟨returned, pushed, pushes, -⟩ := invariant.pushing call calling
      exact {
        ring := kept
        pushing := nofun
        reported := reported_append invariant (by rw [returned, pushes]; rfl) nofun
        tagged := fun k cmd later present => (invariant.tagged k cmd later present).append rfl
        applied := fun entry member => (invariant.applied entry member).append rfl }
  | claimed call cmd head calling phase room =>
      refine { invariant with ring := kept, pushing := ?_, tagged := ?_ }
      · intro other calling
        obtain ⟨returned, pushed, pushes, carried⟩ := invariant.pushing other calling
        rw [Pushing, phase] at carried
        exact ⟨returned, pushed, pushes, carried, Function.update_self ..⟩
      · exact tagged_update invariant kept rfl rfl rfl s.reports.length
  | wrote call cmd head write left calling phase =>
      refine { invariant with ring := kept, pushing := ?_, tagged := ?_ }
      · intro other calling
        obtain ⟨returned, pushed, pushes, carried⟩ := invariant.pushing other calling
        rw [Pushing, phase] at carried
        exact ⟨returned, pushed, pushes, carried.1, Function.update_self ..⟩
      · exact tagged_update invariant kept rfl rfl rfl s.reports.length
  | published call cmd head calling phase =>
      obtain ⟨returned, pushed, pushes, carried⟩ := invariant.pushing call calling
      rw [Pushing, phase] at carried
      obtain ⟨rfl, claimed⟩ := carried
      refine {
        ring := kept
        pushing := nofun
        reported := reported_append invariant (by rw [returned, pushes]; rfl) ?_
        tagged := ?_
        applied := fun entry member => (invariant.applied entry member).append rfl }
      · intro other taken
        cases taken
        exact pushes
      · intro k found later present
        rcases Nat.lt_or_ge k s.ring.accepted.length with earlier | newest
        · rw [List.getElem?_append_left earlier] at present
          exact (invariant.tagged k found later present).append rfl
        · -- the new position is that of the slot just written
          obtain ⟨model, refines⟩ := invariant.ring
          have slot := (refines.writing_slot phase).1
          rw [List.getElem?_append_right newest, List.getElem?_singleton] at present
          obtain ⟨position, same⟩ := Option.ite_none_right_eq_some.mp present
          cases same
          have last : k = s.ring.accepted.length := by omega
          refine ⟨⟨call, some cmd⟩, ?_, rfl⟩
          rw [last, ← slot, claimed, List.getElem?_concat_length]
  | drained => exact { invariant with ring := kept }
  | loaded consumer frameCmdTail => exact { invariant with ring := kept }
  | applied tail head glimpse phase =>
      obtain ⟨model, refines⟩ := invariant.ring
      obtain ⟨modelNext, refinesNext⟩ := kept
      -- what was read of the slot is the next accepted command
      have present : s.ring.accepted[s.ring.applied.length]? = some glimpse.finish := by
        obtain ⟨rest, whole⟩ := refinesNext.applied_prefix
        rw [← whole, List.append_assoc, List.getElem?_append_right (Nat.le_refl _), Nat.sub_self]
        rfl
      refine { invariant with
        ring := ⟨modelNext, refinesNext⟩
        tagged := ?_
        applied := ?_ }
      · intro k cmd later found
        refine invariant.tagged k cmd (Nat.le_trans ?_ later) found
        rw [List.length_append]
        exact Nat.le_add_right _ _
      · intro entry member
        rcases List.mem_append.mp member with earlier | new
        · exact invariant.applied entry earlier
        · rw [List.mem_singleton.mp new, refines.applying_slot phase]
          exact invariant.tagged _ _ (Nat.le_refl _) present

/-! ## What the reports are worth -/

theorem all_honest_append {report : ActionReport} :
    (∀ other ∈ s.reports ++ [report], other.Honest s.cfg) ↔
      (∀ other ∈ s.reports, other.Honest s.cfg) ∧ report.Honest s.cfg := by
  rw [List.forall_mem_append, List.forall_mem_singleton]

/-- An access that is not the check of a push meets the condition. -/
theorem roomAtCheck_producer
    (unchecked : ∀ cmd head, s.ring.producer ≠ .headLoaded cmd head) :
    s.RoomAtCheck .producer := by
  intro cmd head loaded
  exact absurd loaded (unchecked cmd head)

/-- Only the check that finds the ring full makes a report that is not honest. -/
theorem step_reports_honest {action : ActionCallStep} (invariant : s.Invariant)
    (stepped : step s action = some next) :
    (∀ report ∈ next.reports, report.Honest next.cfg) ↔
      (∀ report ∈ s.reports, report.Honest s.cfg) ∧ s.RoomAtCheck action := by
  cases step_cases stepped with
  | declined action current free pushesNothing =>
      rw [all_honest_append, RoomAtCheck]
      simp [ActionReport.Honest, pushesNothing]
  | entered action current cmd free pushes => exact (and_iff_left trivial).symm
  | headLoaded call cmd calling phase =>
      exact (and_iff_left (roomAtCheck_producer (by simp [phase]))).symm
  | rejected call cmd head calling phase full =>
      obtain ⟨returned, -⟩ := invariant.pushing call calling
      rw [all_honest_append]
      refine and_congr_right fun _ => iff_of_false ?_ fun room => room cmd head phase full
      simp [ActionReport.Honest, returned]
  | claimed call cmd head calling phase room =>
      refine (and_iff_left ?_).symm
      intro pushed position loaded
      rw [phase] at loaded
      cases loaded
      exact room
  | wrote call cmd head write left calling phase =>
      exact (and_iff_left (roomAtCheck_producer (by simp [phase]))).symm
  | published call cmd head calling phase =>
      obtain ⟨returned, pushed, pushes, carried⟩ := invariant.pushing call calling
      rw [Pushing, phase] at carried
      obtain ⟨rfl, -⟩ := carried
      rw [all_honest_append]
      have honest : ActionReport.Honest s.cfg ⟨call, some cmd⟩ := by
        simp [ActionReport.Honest, returned, pushes]
      exact and_congr_right fun _ =>
        iff_of_true honest (roomAtCheck_producer (by simp [phase]))
  | drained => exact (and_iff_left trivial).symm
  | loaded consumer frameCmdTail => exact (and_iff_left trivial).symm
  | applied tail head glimpse phase => exact (and_iff_left trivial).symm

/-- Whatever reaches the encoder comes from a call that returned true. -/
theorem Invariant.silent (invariant : s.Invariant) (number : Nat) (report : ActionReport)
    (reported : s.reports[number]? = some report) (returned : report.returned = false) :
    ∀ op ∈ s.encoderOperations, op.1 ≠ number := by
  rintro ⟨origin, op⟩ member rfl
  obtain ⟨⟨number, cmd⟩, applied, made⟩ := List.mem_filterMap.mp member
  obtain ⟨_, -, same⟩ := Option.map_eq_some_iff.mp made
  cases same
  obtain ⟨other, found, accepted⟩ := invariant.applied _ applied
  cases reported.symm.trans found
  obtain ⟨verdict, pushed⟩ := invariant.reported report (List.mem_of_getElem? reported)
  rw [returned, pushed cmd accepted] at verdict
  cases verdict

/-- A run of calls and drains in any order: all calls report honestly, and those that return
false never reach the encoder, exactly if every check of a push finds a free slot. -/
theorem reports_honest_iff (cfg : Config) (frameCmdBuf : Nat → FrameCmd)
    (steps : List ActionCallStep) (finish : ActionCalls)
    (executed : Machine.exec step (start cfg frameCmdBuf) steps = some finish) :
    finish.Honest ↔ Machine.Along step RoomAtCheck (start cfg frameCmdBuf) steps := by
  have invariant : finish.Invariant := Machine.exec_invariant
    (fun _ _ _ invariant stepped => step_invariant invariant stepped)
    (start_invariant cfg frameCmdBuf) executed
  have reports : (∀ report ∈ finish.reports, report.Honest finish.cfg) ↔
      (∀ report ∈ (start cfg frameCmdBuf).reports, report.Honest cfg) ∧
        Machine.Along step RoomAtCheck (start cfg frameCmdBuf) steps :=
    Machine.good_iff_along
      (fun _ _ _ invariant stepped =>
        ⟨step_invariant invariant stepped, step_reports_honest invariant stepped⟩)
      (start_invariant cfg frameCmdBuf) executed
  have unreported : ∀ report ∈ (start cfg frameCmdBuf).reports, report.Honest cfg := nofun
  calc
    finish.Honest ↔ ∀ report ∈ finish.reports, report.Honest finish.cfg :=
      ⟨Honest.reports, fun honest => ⟨honest, invariant.silent⟩⟩
    _ ↔ Machine.Along step RoomAtCheck (start cfg frameCmdBuf) steps :=
      reports.trans (and_iff_right unreported)

def sampleConfig : Config := ⟨60, 6000, 1000, 6000⟩

def reduceSteps : List ActionCallStep :=
  .applyAction ⟨1, .bitrateReduce, 500, 0, 0⟩ 6000 :: List.replicate 5 .producer

/-- A reduction is taken and applied, a recovery from the target bitrate is declined. -/
theorem reports_honest_iff_drained :
    ∃ finish, Machine.exec step (start sampleConfig fun _ => ⟨.logOnly, 0⟩)
        (reduceSteps ++ .drain :: List.replicate 6 .consumer ++
          [.applyAction ⟨2, .bitrateRecover, 500, 0, 0⟩ 6000]) = some finish ∧
      finish.encoderOperations = [(0, .setBitrate 5500)] ∧
      finish.reports.map (fun report => report.returned) = [true, false] ∧ finish.Honest := by
  have observed : (Machine.exec step (start sampleConfig fun _ => ⟨.logOnly, 0⟩)
        (reduceSteps ++ .drain :: List.replicate 6 .consumer ++
          [.applyAction ⟨2, .bitrateRecover, 500, 0, 0⟩ 6000])).map
      (fun finish =>
        (finish.encoderOperations, finish.reports.map fun report => report.returned)) =
      some ([(0, .setBitrate 5500)], [true, false]) := by
    decide +kernel
  obtain ⟨finish, executed, outcome⟩ := Option.map_eq_some_iff.mp observed
  obtain ⟨operations, returned⟩ := Prod.mk.inj outcome
  refine ⟨finish, executed, operations, returned, ?_⟩
  exact (reports_honest_iff sampleConfig _ _ finish executed).mpr (by decide +kernel)

/-- Sixteen reductions while the frame thread stands still: the last one is lost. -/
theorem lost_command_reported_as_done :
    ∃ finish, Machine.exec step (start sampleConfig fun _ => ⟨.logOnly, 0⟩)
        ((List.replicate 16 reduceSteps).flatten.take 93) = some finish ∧
      finish.reports.length = 16 ∧
      (finish.reports.getLast?.map fun report => (report.returned, report.accepted)) =
        some (true, none) ∧
      ¬finish.Honest := by
  have observed : (Machine.exec step (start sampleConfig fun _ => ⟨.logOnly, 0⟩)
        ((List.replicate 16 reduceSteps).flatten.take 93)).map
      (fun finish => (finish.reports.length,
        finish.reports.getLast?.map fun report => (report.returned, report.accepted))) =
      some (16, some (true, none)) := by
    decide +kernel
  obtain ⟨finish, executed, outcome⟩ := Option.map_eq_some_iff.mp observed
  obtain ⟨count, last⟩ := Prod.mk.inj outcome
  refine ⟨finish, executed, count, last, ?_⟩
  intro honest
  obtain ⟨report, found, same⟩ := Option.map_eq_some_iff.mp last
  obtain ⟨returned, accepted⟩ := Prod.mk.inj same
  obtain ⟨cmd, -, taken⟩ :=
    (honest.reports report (List.mem_of_getLast? found)).mp returned
  rw [accepted] at taken
  cases taken

end ActionCalls

end RejiStudio.Pipeline
