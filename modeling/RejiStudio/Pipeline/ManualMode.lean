import RejiStudio.Orchestrator.ModeChange
import RejiStudio.Pipeline.HealingPath

/-!
# The manual mode

The manual mode stops the monitor at the start of its work.  What an earlier mode
began goes on: a piece of the monitor task, an event, a command, an action on its way
to the encoder.  `rj_set_healing_mode` clears the pending store only.
-/

namespace RejiStudio.Orchestrator

open RejiStudio.Lib

def ActionType.actuates : ActionType → Bool
  | .bitrateReduce | .bitrateRecover | .scaleResolution | .restoreResolution | .capFps => true
  | .restoreFps | .logOnly => false

def MonitorPhase.acts : MonitorPhase → Bool
  | .calibrating _ | .adapting _ | .evaluating _ => true
  | .routing _ actions => !actions.isEmpty
  | phase => phase.reduces

theorem MonitorPhase.acts_of_reduces {phase : MonitorPhase} (reduces : phase.reduces = true) :
    phase.acts = true := by
  unfold acts
  split
  case h_4 => cases reduces
  case h_5 => exact reduces
  all_goals rfl

namespace Threads

/-- In the manual mode the monitor task begins no work that may reach the encoder. -/
theorem advance_idle {state next : Threads} (idle : state.phase.acts = false)
    (manual : state.ffi.healingMode = 3) (advanced : state.advance = some next) :
    next.phase.acts = false := by
  cases advance_cases advanced with
  | began phase works =>
      rw [manual] at works
      exact absurd rfl works
  | calibrated mode phase | predicted mode phase | adapted mode phase | evaluated mode phase
  | routed mode routed rest phase =>
      rw [phase] at idle
      cases idle
  | handledSystem | handledMedia | swept | notified | stopped | finished => rfl

theorem step_idle {state next : Threads} {action : ThreadAction}
    (idle : state.phase.acts = false) (manual : state.ffi.healingMode = 3)
    (stepped : state.step action = some next) : next.phase.acts = false := by
  rcases step_cases stepped with ⟨rfl, advanced⟩ | ⟨index, _, resumed⟩ | ⟨parsed, _, rfl⟩ |
    ⟨_, _, _, outside⟩
  · exact advance_idle idle manual advanced
  · obtain ⟨⟨ffi, entries⟩, _, rfl⟩ := Option.map_eq_some_iff.mp resumed
    exact idle
  · exact idle
  · rcases outside.phase with same | ⟨_, begins⟩
    · rw [same]
      exact idle
    · generalize next.phase = phase at begins ⊢
      cases begins with
      | system event handles | media event handles =>
          exact absurd (congrArg HealingMode.fromRaw manual) handles
      | sweep => rfl

/-- Without work in hand the monitor task stores no action and sends none. -/
theorem idle_next {state : Threads} (idle : state.phase.acts = false) :
    state.storedNext = none ∧ state.automaticNext = none := by
  have noRouting : ∀ mode routed rest, state.phase ≠ .routing mode (routed :: rest) := by
    intro mode routed rest routing
    rw [routing] at idle
    cases idle
  constructor
  · unfold storedNext
    split
    next mode routed rest routing => exact absurd routing (noRouting mode routed rest)
    next => rfl
  · unfold automaticNext
    split
    next mode routed rest routing => exact absurd routing (noRouting mode routed rest)
    next => rfl

theorem step_empty {state next : Threads} {action : ThreadAction}
    (idle : state.phase.acts = false) (empty : state.ffi.pendingActions.keys = [])
    (stepped : state.step action = some next) : next.ffi.pendingActions.keys = [] := by
  by_cases advancing : action = .advance
  · subst advancing
    exact (keeps_advance stepped (idle_next idle).1).empty empty
  · rw [List.eq_nil_iff_forall_not_mem]
    intro id member
    obtain ⟨entry, found⟩ := PendingStore.mem_keys_iff.mp member
    obtain ⟨earlier, present, _⟩ := step_inherited stepped advancing found
    have stored := PendingStore.mem_keys_iff.mpr ⟨earlier, present⟩
    rw [empty] at stored
    cases stored

end Threads

end RejiStudio.Orchestrator

namespace RejiStudio.Pipeline

open RejiStudio.Lib RejiStudio.Orchestrator

theorem applyAction_actuates {cfg : Config} {current : UInt32} {action : RjAction}
    {cmd : FrameCmd} (pushed : (applyAction cfg current action).1 = some cmd) :
    action.actionType.actuates = true := by
  unfold applyAction at pushed
  cases kind : action.actionType with
  | restoreFps | logOnly =>
      rw [kind] at pushed
      cases pushed
  | bitrateReduce | bitrateRecover | scaleResolution | restoreResolution | capFps => rfl

namespace HealingPath

structure Quiet (path : HealingPath) : Prop where
  monitor : path.threads.phase.acts = false
  events : ∀ event ∈ path.threads.healing.unread, event.reduces = false
  commands : ∀ command ∈ path.commands, command.cmdType ≠ .bitrateSet
  pending : path.threads.ffi.pendingActions.keys = []
  actions : ∀ action ∈ path.actions, action.actionType.actuates = false
  ring : path.pipeline.frameCmds.items = []

theorem quiet_iff (path : HealingPath) :
    path.Quiet ↔ path.threads.phase.acts = false ∧
      (∀ event ∈ path.threads.healing.unread, event.reduces = false) ∧
      (∀ command ∈ path.commands, command.cmdType ≠ .bitrateSet) ∧
      path.threads.ffi.pendingActions.keys = [] ∧
      (∀ action ∈ path.actions, action.actionType.actuates = false) ∧
      path.pipeline.frameCmds.items = [] := by
  constructor
  · rintro ⟨monitor, events, commands, pending, actions, ring⟩
    exact ⟨monitor, events, commands, pending, actions, ring⟩
  · rintro ⟨monitor, events, commands, pending, actions, ring⟩
    exact ⟨monitor, events, commands, pending, actions, ring⟩

instance (path : HealingPath) : Decidable path.Quiet :=
  decidable_of_iff _ path.quiet_iff.symm

theorem Quiet.ring_step {path : HealingPath} (quiet : path.Quiet) {pipeline : Impl}
    {access : RouterAction} (stepped : Impl.step path.pipeline access = some pipeline) :
    pipeline.frameCmds.items = [] := by
  rcases Impl.actions_of_step stepped with ⟨_, ring⟩ | ⟨_, _, _, _, ring⟩ |
    ⟨load, _, loaded, rfl⟩ | ⟨count, _, _, ring⟩
  · rw [ring]
    exact quiet.ring
  · rw [ring]
    exact quiet.ring
  · have onItsWay : load.action ∈ path.actions := by
      apply List.mem_append_right
      apply List.mem_append_left
      simp [loaded]
    unfold Impl.pushFrameCmd
    split
    next => exact quiet.ring
    next cmd pushed =>
      have actuates := applyAction_actuates pushed
      rw [quiet.actions load.action onItsWay] at actuates
      cases actuates
  · rw [ring, BoundedQueue.items_drop, quiet.ring]
    exact List.drop_nil

theorem Quiet.unprompted_step {path next : HealingPath} {action : PathAction}
    (quiet : path.Quiet) (stepped : path.step action = some next) : next.Unprompted := by
  refine Unprompted.step ⟨quiet.events, quiet.commands⟩ stepped ?_
  intro _
  by_contra asks
  have working := MonitorPhase.acts_of_reduces
    (Threads.phase_reduces_of_reducesNext (Bool.eq_true_of_not_eq_false asks))
  rw [quiet.monitor] at working
  cases working

theorem Quiet.step {path next : HealingPath} {action : PathAction} (quiet : path.Quiet)
    (manual : path.threads.ffi.healingMode = 3) (stepped : path.step action = some next) :
    next.Quiet where
  monitor := by
    rcases step_threads stepped with ⟨call, rfl, moved⟩ | ⟨phase, _⟩
    · exact Threads.step_idle quiet.monitor manual moved
    · rw [phase]
      exact quiet.monitor
  events := (quiet.unprompted_step stepped).events
  commands := (quiet.unprompted_step stepped).commands
  pending := by
    rcases step_threads stepped with ⟨call, rfl, moved⟩ | ⟨_, keeps⟩
    · exact Threads.step_empty quiet.monitor quiet.pending moved
    · exact keeps.empty quiet.pending
  actions := by
    intro member onItsWay
    rcases mem_actions_of_step stepped onItsWay with
      old | ⟨_, routed, automatic, rfl⟩ | ⟨id, entry, rfl, _, found, rfl⟩
    · exact quiet.actions member old
    · rw [(Threads.idle_next quiet.monitor).2] at automatic
      cases automatic
    · have stored := PendingStore.mem_keys_iff.mpr ⟨entry, found⟩
      rw [quiet.pending] at stored
      cases stored
  ring := by
    rcases step_pipeline stepped with same | ⟨command, pushed⟩ | ⟨loaded, _, moved⟩ |
      ⟨access, _, moved⟩
    · rw [same]
      exact quiet.ring
    · rw [pushed]
      exact quiet.ring
    · exact quiet.ring_step moved
    · exact quiet.ring_step moved

def appliesHealing (path : HealingPath) : PathAction → Bool
  | .router .applyCommand =>
      path.pipeline.nextCommand.any fun command => command.cmdType == .bitrateSet
  | .router .applyFrameCmd => path.pipeline.nextFrameCmd.isSome
  | _ => false

theorem Quiet.appliesHealing {path : HealingPath} (quiet : path.Quiet) (action : PathAction) :
    path.appliesHealing action = false := by
  unfold HealingPath.appliesHealing
  split
  next =>
    cases isNext : path.pipeline.nextCommand with
    | none => rfl
    | some command =>
        have onItsWay : command ∈ path.commands :=
          List.mem_append_right _ (Impl.mem_commands_of_nextCommand isNext)
        exact beq_eq_false_iff_ne.mpr (quiet.commands command onItsWay)
  next =>
    cases isNext : path.pipeline.nextFrameCmd with
    | none => rfl
    | some queued =>
        have slot := Impl.mem_frameCmds_of_nextFrameCmd isNext
        rw [quiet.ring] at slot
        cases slot
  next => rfl

theorem bitrate_of_not_applies {path next : HealingPath} {action : PathAction}
    (stepped : path.step action = some next) (noneApplied : path.appliesHealing action = false) :
    next.pipeline.bitrateKbps = path.pipeline.bitrateKbps := by
  rcases step_pipeline stepped with same | ⟨command, pushed⟩ | ⟨loaded, _, taken⟩ |
    ⟨access, rfl, drained⟩
  · rw [same]
  · rw [pushed]
  · exact (Impl.step_bitrate taken).2
  · by_contra changed
    rcases Impl.step_bitrate_changed drained changed with
      ⟨rfl, command, isNext, bitrateSet⟩ | ⟨rfl, queued, isNext, _⟩
    · simp [appliesHealing, isNext, bitrateSet] at noneApplied
    · simp [appliesHealing, isNext] at noneApplied

end HealingPath

/-! ## Runs -/

/-- The threads, and whether a call that set the manual mode has returned and no other
mode has been set since. -/
structure ManualRun where
  path : HealingPath
  manual : Bool

namespace ManualRun

def start (mode : UInt32) (rules : Option ParsedRules) (clock : Nat) (pipeline : Impl) :
    ManualRun :=
  ⟨.start mode rules clock pipeline, false⟩

def returns (path : HealingPath) : PathAction → Bool
  | .thread call => path.threads.setReturns call == some 3 && path.threads.ffi.healingMode == 3
  | _ => false

def holds (run : ManualRun) (action : PathAction) : Bool :=
  let manual := run.manual || returns run.path action
  match action with
  | .thread (.setHealingMode mode) => (mode == 3 || decide (3 < mode)) && manual
  | _ => manual

def step : Machine ManualRun PathAction
  | run, action => (run.path.step action).map fun path => ⟨path, run.holds action⟩

def QuietAtReturn (run : ManualRun) (action : PathAction) : Prop :=
  returns run.path action = true → run.path.Quiet

instance (run : ManualRun) (action : PathAction) : Decidable (run.QuietAtReturn action) :=
  inferInstanceAs (Decidable (_ → _))

def Invariant (run : ManualRun) : Prop :=
  run.manual = true → run.path.threads.ffi.healingMode = 3 ∧ run.path.Quiet

theorem manual_of_holds {run : ManualRun} {action : PathAction} {path : HealingPath}
    (manual : run.path.threads.ffi.healingMode = 3) (holds : run.holds action = true)
    (stepped : run.path.step action = some path) : path.threads.ffi.healingMode = 3 := by
  rcases HealingPath.step_threads stepped with ⟨call, rfl, moved⟩ | ⟨_, keeps⟩
  · by_cases sets : ∃ mode, call = .setHealingMode mode
    · obtain ⟨mode, rfl⟩ := sets
      simp only [ManualRun.holds, Bool.and_eq_true, Bool.or_eq_true, beq_iff_eq,
        decide_eq_true_eq] at holds
      rw [← Option.some.inj moved]
      change (run.path.threads.ffi.rjSetHealingMode mode).1.healingMode = 3
      rcases run.path.threads.ffi.rjSetHealingMode_cases mode with
        ⟨_, same⟩ | ⟨_, same⟩ | ⟨_, swapped⟩
      · rw [same]
        exact manual
      · rw [same]
        exact manual
      · rcases holds.1 with rfl | unknown
        · rw [swapped]
          rfl
        · simp only [FfiState.rjSetHealingMode, gt_iff_lt, unknown, if_true]
          exact manual
    · rw [Threads.step_healingMode moved fun mode same => sets ⟨mode, same⟩]
      exact manual
  · rw [keeps.healingMode]
    exact manual

theorem Invariant.step {run next : ManualRun} {action : PathAction} (invariant : run.Invariant)
    (ok : run.QuietAtReturn action) (stepped : run.step action = some next) :
    next.Invariant := by
  obtain ⟨path, moved, rfl⟩ := Option.map_eq_some_iff.mp stepped
  intro holds
  have before : run.path.threads.ffi.healingMode = 3 ∧ run.path.Quiet := by
    have since : (run.manual || returns run.path action) = true := by
      simp only [ManualRun.holds] at holds
      split at holds
      · exact (Bool.and_eq_true_iff.mp holds).2
      · exact holds
    rcases Bool.or_eq_true_iff.mp since with earlier | now
    · exact invariant earlier
    · refine ⟨?_, ok now⟩
      unfold returns at now
      split at now
      · exact beq_iff_eq.mp (Bool.and_eq_true_iff.mp now).2
      · cases now
  exact ⟨manual_of_holds before.1 holds moved, before.2.step before.1 moved⟩

/-- From the return of a call that set the manual mode until another mode is set,
nothing is applied. -/
theorem manual_applies_nothing (mode : UInt32) (rules : Option ParsedRules) (clock : Nat)
    (pipeline : Impl) (actions : List PathAction) (run : ManualRun)
    (ok : Machine.Along step QuietAtReturn (start mode rules clock pipeline) actions)
    (executed : Machine.exec step (start mode rules clock pipeline) actions = some run)
    (manual : run.manual = true) :
    (∀ action, run.path.appliesHealing action = false) ∧
      ∀ action next, run.step action = some next →
        next.path.pipeline.bitrateKbps = run.path.pipeline.bitrateKbps := by
  have initially : (start mode rules clock pipeline).Invariant := nofun
  have invariant := Machine.exec_invariant_along
    (fun _ _ _ kept ok moved => Invariant.step kept ok moved) initially ok executed
  have quiet := (invariant manual).2
  refine ⟨quiet.appliesHealing, ?_⟩
  intro action next stepped
  obtain ⟨path, moved, rfl⟩ := Option.map_eq_some_iff.mp stepped
  exact HealingPath.bitrate_of_not_applies moved (quiet.appliesHealing action)

def gpuCommand : List PathAction :=
  [.thread (.receiveSystem (.gpuUsage (ratioOfPercent 99))), .thread .advance, .receive, .write]

def drainCommand : List PathAction :=
  [.router .startDrain, .router .popCommand, .router .endDrain, .router .applyCommand]

/-- The manual mode is set; the call clears the store and returns. -/
def setManual : List PathAction :=
  [.thread (.setHealingMode 3), .thread (.resume 0), .thread (.resume 0)]

def streaming : Impl := Impl.initialized ⟨60, 6000, 1000, 0⟩ true

theorem manual_applies_nothing_drained :
    ∃ run, Machine.exec step (start 0 (some templateRules) 0 streaming)
        (gpuCommand ++ drainCommand ++ setManual) = some run ∧
      run.manual = true ∧ ∀ action, run.path.appliesHealing action = false := by
  have ok : Machine.Along step QuietAtReturn (start 0 (some templateRules) 0 streaming)
      (gpuCommand ++ drainCommand ++ setManual) := by
    decide +kernel
  have ended : (Machine.exec step (start 0 (some templateRules) 0 streaming)
      (gpuCommand ++ drainCommand ++ setManual)).map ManualRun.manual = some true := by
    decide +kernel
  obtain ⟨run, executed, manual⟩ := Option.map_eq_some_iff.mp ended
  exact ⟨run, executed, manual,
    (manual_applies_nothing 0 (some templateRules) 0 streaming _ run ok executed manual).1⟩

/-- The command is in the queue when the call returns. -/
theorem queuedCommand_applied_in_manual :
    ∃ run, Machine.exec step (start 0 (some templateRules) 0 streaming)
        (gpuCommand ++ setManual ++ drainCommand.take 3) = some run ∧
      run.manual = true ∧ run.path.appliesHealing (.router .applyCommand) = true ∧
      ∃ next, run.step (.router .applyCommand) = some next ∧ next.manual = true ∧
        run.path.pipeline.bitrateKbps = 6000 ∧ next.path.pipeline.bitrateKbps = 4000 := by
  have ended : (Machine.exec step (start 0 (some templateRules) 0 streaming)
      (gpuCommand ++ setManual ++ drainCommand.take 3)).map (fun run =>
        (run.manual, run.path.appliesHealing (.router .applyCommand),
          run.path.pipeline.bitrateKbps,
          (run.step (.router .applyCommand)).map fun next =>
            (next.manual, next.path.pipeline.bitrateKbps))) =
      some (true, true, 6000, some (true, 4000)) := by
    decide +kernel
  obtain ⟨run, executed, observed⟩ := Option.map_eq_some_iff.mp ended
  simp only [Prod.mk.injEq] at observed
  obtain ⟨manual, applies, before, applied⟩ := observed
  obtain ⟨next, stepped, after⟩ := Option.map_eq_some_iff.mp applied
  obtain ⟨still, changed⟩ := Prod.mk.inj after
  exact ⟨run, executed, manual, applies, next, stepped, still, before, changed⟩

end ManualRun

end RejiStudio.Pipeline
