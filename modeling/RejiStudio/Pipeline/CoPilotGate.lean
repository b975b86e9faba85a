import RejiStudio.Pipeline.HealingPath

/-!
# Approval in front of the encoder

In the co-pilot mode an action of the rules waits for the user.  The reactive and
the predictive layer of the monitor are older than the approval: their commands are
held back by the manual mode only, and reach the encoder past the user.
-/

namespace RejiStudio.Pipeline

open RejiStudio.Lib RejiStudio.Orchestrator

/-- The threads with the ids that a call of `rj_action_approve` moved. -/
structure GateRun where
  path : HealingPath
  approved : List UInt32

namespace GateRun

def start (mode : UInt32) (rules : Option ParsedRules) (clock : Nat) (pipeline : Impl) :
    GateRun :=
  ⟨.start mode rules clock pipeline, []⟩

def approves (path : HealingPath) : PathAction → List UInt32
  | .thread (.approve id) => if (path.threads.ffi.rjActionApprove id).2 = 1 then [id] else []
  | _ => []

def step : Machine GateRun PathAction
  | run, action =>
      (run.path.step action).map fun path =>
        ⟨path, approves run.path action ++ run.approved⟩

def Gated (run : GateRun) (_ : PathAction) : Prop :=
  run.path.threads.currentMode = .coPilot ∧
    categoryAutoApprove run.path.threads.actionAutoApprove .bitrateReduce = false

instance (run : GateRun) (action : PathAction) : Decidable (Gated run action) :=
  inferInstanceAs (Decidable (_ ∧ _))

def asks (path : HealingPath) : PathAction → Bool
  | .thread .advance => path.threads.reducesNext
  | _ => false

def Unasked (run : GateRun) (action : PathAction) : Prop := asks run.path action = false

instance (run : GateRun) (action : PathAction) : Decidable (Unasked run action) :=
  inferInstanceAs (Decidable (_ = _))

/-! ## The invariants -/

/-- The commands on their way are the monitor's, the bitrate actions on their way
are approved, and the monitor task works with the co-pilot mode. -/
structure Invariant (run : GateRun) : Prop where
  events : ∀ event ∈ run.path.threads.healing.unread,
    ∃ trigger : HealingTrigger, event = trigger.event
  commands : ∀ command ∈ run.path.commands,
    ∃ trigger : HealingTrigger, trigger.event.toCommand = some command
  actions : ∀ action ∈ run.path.actions,
    action.actionType.category = some 0 → action.id ∈ run.approved
  traced : run.path.pipeline.Traced
  mode : ∀ mode, run.path.threads.phase.mode = some mode → mode = .coPilot

theorem invariant_start {cfgIn : Config} {platformReady encoder : Bool} {pipeline : Impl}
    (accepted : init cfgIn platformReady encoder = some pipeline) (mode : UInt32)
    (rules : Option ParsedRules) (clock : Nat) : (start mode rules clock pipeline).Invariant := by
  obtain rfl := eq_initialized_of_init accepted
  refine ⟨List.forall_mem_nil _, List.forall_mem_nil _, List.forall_mem_nil _,
    List.forall_mem_nil _, ?_⟩
  intro mode working
  cases working

/-- The routing of the co-pilot mode lets no bitrate action past the user. -/
theorem not_bitrate_of_automatic {threads : Threads} {routed : RoutedAction}
    (works : ∀ mode, threads.phase.mode = some mode → mode = .coPilot)
    (waits : categoryAutoApprove threads.actionAutoApprove .bitrateReduce = false)
    (automatic : threads.automaticNext = some routed) :
    routed.rj.actionType.category ≠ some 0 := by
  intro bitrate
  unfold Threads.automaticNext at automatic
  split at automatic
  next mode other rest routing =>
    split at automatic
    next => cases automatic
    next passes =>
      cases automatic
      apply passes
      have coPilot : mode = .coPilot := works mode (by rw [routing]; rfl)
      have same : categoryAutoApprove threads.actionAutoApprove routed.rj.actionType = false := by
        rw [← waits]
        unfold categoryAutoApprove
        rw [bitrate]
        rfl
      simp [requiresApproval, coPilot, same]
  next => cases automatic

theorem Invariant.step {run next : GateRun} {action : PathAction} (invariant : run.Invariant)
    (gated : run.Gated action) (stepped : run.step action = some next) : next.Invariant := by
  obtain ⟨path, moved, rfl⟩ := Option.map_eq_some_iff.mp stepped
  refine ⟨?_, ?_, ?_, ?_, ?_⟩
  · intro event unread
    rcases HealingPath.mem_events_of_step moved unread with old | ⟨_, _, emitted⟩
    · exact invariant.events event old
    · exact emitted
  · intro command sent
    rcases HealingPath.mem_commands_of_step moved sent with old | ⟨event, unread, written⟩
    · exact invariant.commands command old
    · obtain ⟨trigger, rfl⟩ := invariant.events event unread
      exact ⟨trigger, written⟩
  · intro member onItsWay bitrate
    apply List.mem_append.mpr
    rcases HealingPath.mem_actions_of_step moved onItsWay with
      old | ⟨_, routed, automatic, rfl⟩ | ⟨id, entry, rfl, code, found, rfl⟩
    · exact .inr (invariant.actions member old bitrate)
    · exact absurd bitrate (not_bitrate_of_automatic invariant.mode gated.2 automatic)
    · left
      simp [approves, code, PendingStore.id_of_lookup found]
  · exact HealingPath.traced_of_step moved invariant.traced
  · intro mode works
    rcases HealingPath.step_phase_mode moved works with old | current
    · exact invariant.mode mode old
    · rw [current]
      exact gated.1

theorem unprompted_start {cfgIn : Config} {platformReady encoder : Bool} {pipeline : Impl}
    (accepted : init cfgIn platformReady encoder = some pipeline) (mode : UInt32)
    (rules : Option ParsedRules) (clock : Nat) :
    (start mode rules clock pipeline).path.Unprompted := by
  obtain rfl := eq_initialized_of_init accepted
  exact ⟨nofun, nofun⟩

theorem unprompted_step {run next : GateRun} {action : PathAction}
    (unprompted : run.path.Unprompted) (unasked : run.Unasked action)
    (stepped : run.step action = some next) : next.path.Unprompted := by
  obtain ⟨path, moved, rfl⟩ := Option.map_eq_some_iff.mp stepped
  refine unprompted.step moved ?_
  rintro rfl
  exact unasked

/-! ## What changes the bitrate -/

/-- In a run in co-pilot mode whose bitrate category waits for the user, a step that
changes the bitrate applies an approved action or a command of the monitor. -/
theorem bitrate_changes_approved_or_healing {cfgIn : Config} {platformReady encoder : Bool}
    {pipeline : Impl} (accepted : init cfgIn platformReady encoder = some pipeline)
    (mode : UInt32) (rules : Option ParsedRules) (clock : Nat) (actions : List PathAction)
    (run : GateRun) (gated : Machine.Along step Gated (start mode rules clock pipeline) actions)
    (executed : Machine.exec step (start mode rules clock pipeline) actions = some run)
    (action : PathAction) (next : GateRun) (stepped : run.step action = some next)
    (changed : next.path.pipeline.bitrateKbps ≠ run.path.pipeline.bitrateKbps) :
    (action = .router .applyFrameCmd ∧ ∃ queued, run.path.pipeline.nextFrameCmd = some queued ∧
      queued.load.action.id ∈ run.approved) ∨
    (action = .router .applyCommand ∧ ∃ command, run.path.pipeline.nextCommand = some command ∧
      command.cmdType = .bitrateSet ∧
      (command.paramU32 = 4000 ∨ command.paramU32 = reducedBitrateKbps)) := by
  have invariant := Machine.exec_invariant_along
    (fun _ _ _ kept ok moved => Invariant.step kept ok moved)
    (invariant_start accepted mode rules clock) gated executed
  obtain ⟨path, moved, rfl⟩ := Option.map_eq_some_iff.mp stepped
  rcases HealingPath.step_pipeline moved with same | ⟨command, pushed⟩ | ⟨loaded, _, taken⟩ |
    ⟨access, rfl, drained⟩
  · exact absurd (congrArg Impl.bitrateKbps same) changed
  · exact absurd (congrArg Impl.bitrateKbps pushed) changed
  · exact absurd (Impl.step_bitrate taken).2 changed
  · rcases Impl.step_bitrate_changed drained changed with
      ⟨rfl, command, isNext, bitrateSet⟩ | ⟨rfl, queued, isNext, bitrate⟩
    · right
      have onItsWay : command ∈ run.path.commands :=
        List.mem_append_right _ (Impl.mem_commands_of_nextCommand isNext)
      obtain ⟨trigger, written⟩ := invariant.commands command onItsWay
      exact ⟨rfl, command, isNext, bitrateSet,
        HealingTrigger.bitrateSet_target written bitrateSet⟩
    · left
      have slot := Impl.mem_frameCmds_of_nextFrameCmd isNext
      have onItsWay : queued.load.action ∈ run.path.actions :=
        List.mem_append_right _ (List.mem_append_right _ (List.mem_map_of_mem slot))
      refine ⟨rfl, queued, isNext, invariant.actions _ onItsWay ?_⟩
      rw [← invariant.traced queued slot]
      rcases bitrate with reduce | recover
      · rw [reduce]
        rfl
      · rw [recover]
        rfl

/-- When the monitor task never asks for another bitrate by itself, a step that changes
the bitrate applies an approved action. -/
theorem bitrate_changes_approved {cfgIn : Config} {platformReady encoder : Bool}
    {pipeline : Impl} (accepted : init cfgIn platformReady encoder = some pipeline)
    (mode : UInt32) (rules : Option ParsedRules) (clock : Nat) (actions : List PathAction)
    (run : GateRun) (gated : Machine.Along step Gated (start mode rules clock pipeline) actions)
    (unasked : Machine.Along step Unasked (start mode rules clock pipeline) actions)
    (executed : Machine.exec step (start mode rules clock pipeline) actions = some run)
    (action : PathAction) (next : GateRun) (stepped : run.step action = some next)
    (changed : next.path.pipeline.bitrateKbps ≠ run.path.pipeline.bitrateKbps) :
    action = .router .applyFrameCmd ∧ ∃ queued, run.path.pipeline.nextFrameCmd = some queued ∧
      queued.load.action.id ∈ run.approved := by
  have unprompted : run.path.Unprompted := Machine.exec_invariant_along
    (fun _ _ _ kept ok moved => unprompted_step kept ok moved)
    (unprompted_start accepted mode rules clock) unasked executed
  rcases bitrate_changes_approved_or_healing accepted mode rules clock actions run gated
    executed action next stepped changed with approved | ⟨_, command, isNext, bitrateSet, _⟩
  · exact approved
  · have onItsWay : command ∈ run.path.commands :=
      List.mem_append_right _ (Impl.mem_commands_of_nextCommand isNext)
    exact absurd bitrateSet (unprompted.commands command onItsWay)

def streaming : Impl := Impl.initialized ⟨60, 6000, 1000, 0⟩ true

/-- Frame drops trigger a reduction, the user approves it, and the frame thread is
about to apply it. -/
def approvedRun : List PathAction :=
  [.thread (.receiveMedia (.frameDropPct 20)), .thread .advance, .thread .tick] ++
    List.replicate 7 (.thread .advance) ++
    [.thread (.approve 1), .dequeue, .router .pushFrameCmd, .router .startDrain,
      .router .endDrain, .router .loadHead]

theorem bitrate_changes_approved_frameDrops :
    ∃ run, Machine.exec step (start 1 (some templateRules) 0 streaming) approvedRun = some run ∧
      run.approved = [1] ∧
      ∃ next, run.step (.router .applyFrameCmd) = some next ∧
        next.path.pipeline.bitrateKbps = 5500 ∧
        ∃ queued, run.path.pipeline.nextFrameCmd = some queued ∧
          queued.load.action.id ∈ run.approved := by
  have gated : Machine.Along step Gated (start 1 (some templateRules) 0 streaming)
      approvedRun := by
    decide +kernel
  have unasked : Machine.Along step Unasked (start 1 (some templateRules) 0 streaming)
      approvedRun := by
    decide +kernel
  have ended : (Machine.exec step (start 1 (some templateRules) 0 streaming)
      approvedRun).map (fun run => (run.approved, run.path.pipeline.bitrateKbps,
        (run.step (.router .applyFrameCmd)).map fun next => next.path.pipeline.bitrateKbps)) =
      some ([1], 6000, some 5500) := by
    decide +kernel
  obtain ⟨run, executed, observed⟩ := Option.map_eq_some_iff.mp ended
  obtain ⟨approved, observed⟩ := Prod.mk.inj observed
  obtain ⟨before, applied⟩ := Prod.mk.inj observed
  obtain ⟨next, stepped, after⟩ := Option.map_eq_some_iff.mp applied
  have changed : next.path.pipeline.bitrateKbps ≠ run.path.pipeline.bitrateKbps := by
    rw [before, after]
    decide
  exact ⟨run, executed, approved, next, stepped, after,
    (bitrate_changes_approved (rfl : init ⟨60, 6000, 1000, 0⟩ true true = some streaming) 1
      (some templateRules) 0 approvedRun run gated unasked executed _ next stepped changed).2⟩

/-- The GPU is at its limit: the command of the predictive layer goes through without
an approval. -/
def gpuRun : List PathAction :=
  [.thread (.receiveSystem (.gpuUsage (ratioOfPercent 99))), .thread .advance, .receive, .write,
    .router .startDrain, .router .popCommand, .router .endDrain, .router .applyCommand]

theorem gpuUsage_changes_bitrate_unapproved :
    Machine.Along step Gated (start 1 (some templateRules) 0 streaming) gpuRun ∧
      ∃ run, Machine.exec step (start 1 (some templateRules) 0 streaming) gpuRun = some run ∧
        run.approved = [] ∧ run.path.pipeline.bitrateKbps = 4000 := by
  refine ⟨by decide +kernel, ?_⟩
  have ended : (Machine.exec step (start 1 (some templateRules) 0 streaming) gpuRun).map
      (fun run => (run.approved, run.path.pipeline.bitrateKbps)) = some ([], 4000) := by
    decide +kernel
  obtain ⟨run, executed, observed⟩ := Option.map_eq_some_iff.mp ended
  exact ⟨run, executed, Prod.mk.inj observed⟩

end GateRun

end RejiStudio.Pipeline
