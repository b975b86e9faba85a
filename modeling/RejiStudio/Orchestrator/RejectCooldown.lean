import RejiStudio.Orchestrator.Threads

/-!
# The cooldown after a rejection

`rj_action_reject` takes an action out of the pending store and then writes a
cooldown into the engine that is installed at that moment.  Evaluations respect the
cooldown of their own engine; a reload installs an engine without it.
-/

namespace RejiStudio.Orchestrator

open RejiStudio.Lib

inductive CooldownEvent where
  /-- A cooldown was written into the installed engine. -/
  | cooldown (ruleId : String) (now : Nat)
  /-- `rj_action_reject` returned 1 for an action of the rule. -/
  | rejected (ruleId : String) (now : Nat)
  | reloaded
  /-- An evaluation produced an action of the rule. -/
  | produced (ruleId : String) (now : Nat)
  deriving DecidableEq

namespace CooldownEvent

def Respects : CooldownEvent → CooldownEvent → Prop
  | .produced ruleId now, .rejected rejectedId returned =>
      ruleId = rejectedId → returned + rejectCooldown ≤ now
  | _, _ => True

def cooldownOf (ruleId : String) : CooldownEvent → Option Nat
  | .cooldown cooledId now => if cooledId = ruleId then some now else none
  | _ => none

def rejection : CooldownEvent → Option (String × Nat)
  | .rejected ruleId returned => some (ruleId, returned)
  | _ => none

end CooldownEvent

namespace Threads

def evaluatedRules (state : Threads) (mode : HealingMode) : List String :=
  match mode, state.ruleEngine with
  | .manual, _ | _, none => []
  | _, some engine =>
      (engine.evaluate state.monitor.currentMetrics mode.modeStr state.ffi.clock).2.map
        Action.ruleId

def cooldownEvents (state : Threads) : ThreadAction → List CooldownEvent
  | .advance =>
      match state.phase with
      | .evaluating mode =>
          (state.evaluatedRules mode).map fun ruleId => .produced ruleId state.ffi.clock
      | _ => []
  | .reloadRules _ => [.reloaded]
  | .resume index =>
      match state.ffi.calls[index]? with
      | some (.notify (.applyCooldown ruleId :: _)) =>
          if state.ruleEngine.isSome then [.cooldown ruleId state.ffi.clock] else []
      | some (.notify [.logActionOutcome _ ruleId outcome]) =>
          if outcome = outcomeRejected then [.rejected ruleId state.ffi.clock] else []
      | _ => []
  | _ => []

end Threads

/-- The threads with their history, newest first. -/
structure CooldownRun where
  threads : Threads
  log : List CooldownEvent

namespace CooldownRun

def start (mode : UInt32) (rules : Option ParsedRules) (clock : Nat) : CooldownRun :=
  ⟨.start mode rules clock, []⟩

def step : Machine CooldownRun ThreadAction
  | run, action =>
      (run.threads.step action).map fun threads =>
        ⟨threads, run.threads.cooldownEvents action ++ run.log⟩

def sinceReload (log : List CooldownEvent) : List CooldownEvent :=
  log.takeWhile fun event => event != .reloaded

/-- The installed engine was given a cooldown that still runs for every rule that
was rejected less than two minutes ago. -/
def Cooled (run : CooldownRun) : Prop :=
  ∀ rejection ∈ run.log.filterMap CooldownEvent.rejection,
    run.threads.ffi.clock < rejection.2 + rejectCooldown →
      ∃ now ∈ (sinceReload run.log).filterMap (CooldownEvent.cooldownOf rejection.1),
        run.threads.ffi.clock < now + rejectCooldown

instance (run : CooldownRun) : Decidable run.Cooled :=
  inferInstanceAs (Decidable (∀ _ ∈ _, _ → _))

/-- Rules are evaluated only by an engine that has the cooldowns of the rejections. -/
def EvaluatesCooled (run : CooldownRun) : ThreadAction → Prop
  | .advance =>
      match run.threads.phase with
      | .evaluating _ => run.Cooled
      | _ => True
  | _ => True

instance (run : CooldownRun) (action : ThreadAction) :
    Decidable (run.EvaluatesCooled action) := by
  unfold EvaluatesCooled
  split
  · split <;> infer_instance
  · infer_instance

structure Invariant (run : CooldownRun) : Prop where
  installed : ∀ ruleId now, .cooldown ruleId now ∈ sinceReload run.log →
    now ≤ run.threads.ffi.clock ∧ ∃ engine, run.threads.ruleEngine = some engine ∧
      ∃ until_, engine.cooldownUntil ruleId = some until_ ∧ now + rejectCooldown ≤ until_
  respected : run.log.Pairwise CooldownEvent.Respects

theorem invariant_start (mode : UInt32) (rules : Option ParsedRules) (clock : Nat) :
    (start mode rules clock).Invariant := ⟨nofun, .nil⟩

end CooldownRun

namespace Threads

/-- A piece of a call writes a cooldown, makes a rejection return, or does neither. -/
theorem cooldownEvents_resume (state : Threads) (index : Nat) :
    (∃ ruleId, state.nextCooldown index = some ruleId ∧
      state.cooldownEvents (.resume index) =
        if state.ruleEngine.isSome then [.cooldown ruleId state.ffi.clock] else []) ∨
    (state.nextCooldown index = none ∧
      (state.cooldownEvents (.resume index) = [] ∨
        ∃ ruleId, state.cooldownEvents (.resume index) =
          [.rejected ruleId state.ffi.clock])) := by
  simp only [nextCooldown, cooldownEvents]
  split
  next ruleId rest found => exact .inl ⟨ruleId, rfl, by simp only [found]⟩
  next silent =>
    refine .inr ⟨rfl, ?_⟩
    split
    next ruleId rest found => exact absurd found (silent ruleId rest)
    next action ruleId outcome _ =>
      split
      · exact .inr ⟨ruleId, rfl⟩
      · exact .inl rfl
    next => exact .inl rfl

/-- The monitor task leaves the cooldowns of the installed engine alone. -/
theorem advance_cooldownUntil {state next : Threads} {engine : RuleEngine}
    (advanced : state.advance = some next) (installed : state.ruleEngine = some engine) :
    ∃ after, next.ruleEngine = some after ∧ after.cooldownUntil = engine.cooldownUntil := by
  rcases advance_ruleEngine advanced with same | ⟨mode, _, finalized⟩ |
    ⟨mode, other, _, present, evaluated⟩
  · exact ⟨engine, same.trans installed, rfl⟩
  · simp only [installed, finalizeCalibration] at finalized
    split at finalized
    · exact ⟨_, finalized, rfl⟩
    · exact ⟨engine, finalized, rfl⟩
  · rw [installed] at present
    cases present
    exact ⟨_, evaluated, (engine.evaluate_frame _ _ _).1⟩

/-- An evaluation comes from the installed engine and passes over its cooldowns. -/
theorem not_inCooldown_of_evaluated {state : Threads} {mode : HealingMode} {ruleId : String}
    (evaluated : ruleId ∈ state.evaluatedRules mode) {engine : RuleEngine}
    (installed : state.ruleEngine = some engine) :
    engine.inCooldown state.ffi.clock ruleId = false := by
  unfold evaluatedRules at evaluated
  split at evaluated
  next => cases evaluated
  next => cases evaluated
  next other _ present =>
    rw [installed] at present
    cases present
    obtain ⟨action, produced, rfl⟩ := List.mem_map.mp evaluated
    exact RuleEngine.not_inCooldown_of_mem_evaluate produced

end Threads

namespace CooldownRun

theorem mem_sinceReload_append {events log : List CooldownEvent} {event : CooldownEvent}
    (membership : event ∈ sinceReload (events ++ log)) :
    event ∈ events ∨ event ∈ sinceReload log := by
  induction events with
  | nil => exact .inr membership
  | cons head rest inductionHypothesis =>
      rw [List.cons_append, sinceReload, List.takeWhile_cons] at membership
      split at membership
      · rcases List.mem_cons.mp membership with rfl | later
        · exact .inl List.mem_cons_self
        · exact (inductionHypothesis later).imp_left (List.mem_cons_of_mem head)
      · cases membership

theorem mem_of_cooldownOf {log : List CooldownEvent} {ruleId : String} {now : Nat}
    (membership : now ∈ log.filterMap (CooldownEvent.cooldownOf ruleId)) :
    .cooldown ruleId now ∈ log := by
  obtain ⟨event, logged, cooled⟩ := List.mem_filterMap.mp membership
  cases event with
  | cooldown cooledId instant =>
      obtain ⟨rfl, same⟩ := Option.ite_none_right_eq_some.mp cooled
      cases same
      exact logged
  | rejected => cases cooled
  | reloaded => cases cooled
  | produced => cases cooled

theorem Invariant.keep {run : CooldownRun} (invariant : run.Invariant) {threads : Threads}
    {events : List CooldownEvent}
    (later : run.threads.ffi.clock ≤ threads.ffi.clock)
    (kept : ∀ engine, run.threads.ruleEngine = some engine →
      ∃ after, threads.ruleEngine = some after ∧ after.cooldownUntil = engine.cooldownUntil)
    (noCooldown : ∀ ruleId now, .cooldown ruleId now ∉ events)
    (respects : (events ++ run.log).Pairwise CooldownEvent.Respects) :
    Invariant ⟨threads, events ++ run.log⟩ where
  respected := respects
  installed := by
    intro ruleId now cooled
    rcases mem_sinceReload_append cooled with new | old
    · exact absurd new (noCooldown ruleId now)
    · obtain ⟨early, engine, present, until_, stored, long⟩ := invariant.installed ruleId now old
      obtain ⟨after, installed, same⟩ := kept engine present
      refine ⟨early.trans later, after, installed, until_, ?_, long⟩
      rw [same]
      exact stored

theorem Invariant.evaluate {run : CooldownRun} (invariant : run.Invariant) (cooled : run.Cooled)
    (mode : HealingMode) :
    (((run.threads.evaluatedRules mode).map fun ruleId =>
      CooldownEvent.produced ruleId run.threads.ffi.clock) ++ run.log).Pairwise
        CooldownEvent.Respects := by
  rw [List.pairwise_append]
  refine ⟨?_, invariant.respected, ?_⟩
  · rw [List.pairwise_map]
    exact List.pairwise_of_forall fun _ _ => trivial
  · intro later produced earlier logged
    obtain ⟨ruleId, evaluated, rfl⟩ := List.mem_map.mp produced
    cases earlier with
    | rejected rejectedId returned =>
        rintro rfl
        by_contra early
        have rejection : (ruleId, returned) ∈ run.log.filterMap CooldownEvent.rejection :=
          List.mem_filterMap.mpr ⟨_, logged, rfl⟩
        obtain ⟨now, held, running⟩ := cooled _ rejection (Nat.lt_of_not_le early)
        have written := mem_of_cooldownOf held
        obtain ⟨_, engine, installed, until_, stored, long⟩ :=
          invariant.installed ruleId now written
        have passed := Threads.not_inCooldown_of_evaluated evaluated installed
        have blocked : run.threads.ffi.clock < until_ := Nat.lt_of_lt_of_le running long
        simp [RuleEngine.inCooldown, stored, blocked] at passed
    | cooldown => trivial
    | reloaded => trivial
    | produced => trivial

theorem Invariant.stay {run : CooldownRun} (invariant : run.Invariant) {threads : Threads}
    (later : run.threads.ffi.clock ≤ threads.ffi.clock)
    (kept : ∀ engine, run.threads.ruleEngine = some engine →
      ∃ after, threads.ruleEngine = some after ∧ after.cooldownUntil = engine.cooldownUntil) :
    Invariant ⟨threads, run.log⟩ := by
  change Invariant ⟨threads, [] ++ run.log⟩
  exact invariant.keep later kept (fun _ _ => List.not_mem_nil) invariant.respected

theorem Invariant.resume {run : CooldownRun} (invariant : run.Invariant) {index : Nat}
    {threads : Threads} (resumed : run.threads.resume index = some threads) :
    Invariant ⟨threads, run.threads.cooldownEvents (.resume index) ++ run.log⟩ := by
  have later := (Threads.resume_clock resumed).ge
  obtain ⟨⟨ffi, entries⟩, moved, rfl⟩ := Option.map_eq_some_iff.mp resumed
  rcases run.threads.cooldownEvents_resume index with
    ⟨ruleId, cooling, events⟩ | ⟨silent, events⟩
  · simp only [cooling] at later ⊢
    cases installed : run.threads.ruleEngine with
    | none =>
        simp only [installed, Option.isSome_none, Bool.false_eq_true, if_false] at events
        rw [events]
        exact invariant.keep later (by simp [installed]) (fun _ _ => List.not_mem_nil)
          invariant.respected
    | some engine =>
        simp only [installed, Option.isSome_some, if_true] at events
        rw [events]
        refine ⟨?_, .cons (fun _ _ => trivial) invariant.respected⟩
        intro otherId now cooled
        rcases mem_sinceReload_append cooled with new | old
        · cases List.mem_singleton.mp new
          exact ⟨later, _, rfl, _, Function.update_self _ _ _, le_rfl⟩
        · obtain ⟨early, present, stored, until_, held, long⟩ := invariant.installed otherId now old
          cases installed.symm.trans stored
          refine ⟨early.trans later, _, rfl, ?_⟩
          by_cases same : otherId = ruleId
          · subst same
            refine ⟨_, Function.update_self _ _ _, ?_⟩
            exact Nat.add_le_add_right early rejectCooldown
          · exact ⟨until_, (Function.update_of_ne same _ _).trans held, long⟩
  · simp only [silent] at later ⊢
    rcases events with events | ⟨ruleId, events⟩
    · rw [events]
      exact invariant.keep later (fun engine installed => ⟨engine, installed, rfl⟩)
        (fun _ _ => List.not_mem_nil) invariant.respected
    · rw [events]
      exact invariant.keep later (fun engine installed => ⟨engine, installed, rfl⟩) (by simp)
        (.cons (fun _ _ => trivial) invariant.respected)

theorem Invariant.advance {run : CooldownRun} (invariant : run.Invariant)
    (ok : run.EvaluatesCooled .advance) {threads : Threads}
    (advanced : run.threads.advance = some threads) :
    Invariant ⟨threads, run.threads.cooldownEvents .advance ++ run.log⟩ := by
  have later := (Threads.advance_clock advanced).ge
  have kept : ∀ engine, run.threads.ruleEngine = some engine →
      ∃ after, threads.ruleEngine = some after ∧ after.cooldownUntil = engine.cooldownUntil :=
    fun _ installed => Threads.advance_cooldownUntil advanced installed
  simp only [EvaluatesCooled] at ok
  simp only [Threads.cooldownEvents]
  split at ok
  next mode evaluating =>
    exact invariant.keep later kept (by simp) (invariant.evaluate ok mode)
  next => exact invariant.stay later kept

theorem Invariant.step {run next : CooldownRun} {action : ThreadAction} (invariant : run.Invariant)
    (ok : run.EvaluatesCooled action) (stepped : run.step action = some next) :
    next.Invariant := by
  obtain ⟨threads, moved, rfl⟩ := Option.map_eq_some_iff.mp stepped
  have later := Threads.step_clock moved
  rcases Threads.step_cases moved with ⟨rfl, advanced⟩ | ⟨index, rfl, resumed⟩ |
    ⟨parsed, rfl, _⟩ | ⟨notAdvance, notResume, notReload, outside⟩
  · exact invariant.advance ok advanced
  · exact invariant.resume resumed
  · exact ⟨nofun, .cons (fun _ _ => trivial) invariant.respected⟩
  · have silent : run.threads.cooldownEvents action = [] := by
      cases action <;> simp_all [Threads.cooldownEvents]
    rw [silent]
    exact invariant.stay later fun engine installed =>
      ⟨engine, outside.ruleEngine.trans installed, rfl⟩

/-- No evaluation produces an action of a rejected rule before its cooldown is over. -/
theorem rejected_rule_stays_silent (mode : UInt32) (rules : Option ParsedRules) (clock : Nat)
    (actions : List ThreadAction) (run : CooldownRun)
    (ok : Machine.Along step EvaluatesCooled (start mode rules clock) actions)
    (executed : Machine.exec step (start mode rules clock) actions = some run) :
    run.log.Pairwise CooldownEvent.Respects :=
  (Machine.exec_invariant_along
    (fun _ _ _ invariant ok stepped => Invariant.step invariant ok stepped)
    (invariant_start mode rules clock) ok executed).respected

def evaluateTick : List ThreadAction := [.tick] ++ List.replicate 6 .advance

/-- The rule triggers, its action is stored and rejected, and the call returns. -/
def rejectRun : List ThreadAction :=
  [.receiveMedia (.frameDropPct 20), .advance] ++ evaluateTick ++
    [.advance, .advance, .reject 1, .resume 1, .resume 1, .resume 1]

/-- The next tick is silent, the one after two minutes is not. -/
def twoTicks : List ThreadAction :=
  [.elapse (60 * 1000000000)] ++ evaluateTick ++ [.advance, .elapse (60 * 1000000000)] ++
    evaluateTick

theorem rejected_rule_stays_silent_twoTicks :
    ∃ run, Machine.exec step (start 1 (some templateRules) 0) (rejectRun ++ twoTicks) =
        some run ∧
      run.log = [.produced "frame_drop_high" rejectCooldown, .rejected "frame_drop_high" 0,
        .cooldown "frame_drop_high" 0, .produced "frame_drop_high" 0] ∧
      run.log.Pairwise CooldownEvent.Respects := by
  have ok : Machine.Along step EvaluatesCooled (start 1 (some templateRules) 0)
      (rejectRun ++ twoTicks) := by
    decide +kernel
  have history : (Machine.exec step (start 1 (some templateRules) 0)
      (rejectRun ++ twoTicks)).map log =
        some [.produced "frame_drop_high" rejectCooldown, .rejected "frame_drop_high" 0,
          .cooldown "frame_drop_high" 0, .produced "frame_drop_high" 0] := by
    decide +kernel
  obtain ⟨run, executed, logged⟩ := Option.map_eq_some_iff.mp history
  exact ⟨run, executed, logged,
    rejected_rule_stays_silent 1 (some templateRules) 0 _ run ok executed⟩

/-- A reload of the same file drops the cooldown. -/
theorem reload_forgets_rejection :
    ∃ run, Machine.exec step (start 1 (some templateRules) 0)
        (rejectRun ++ [.reloadRules templateRules] ++ evaluateTick) = some run ∧
      run.log = [.produced "frame_drop_high" 0, .reloaded, .rejected "frame_drop_high" 0,
        .cooldown "frame_drop_high" 0, .produced "frame_drop_high" 0] ∧
      ¬CooldownEvent.Respects (.produced "frame_drop_high" 0) (.rejected "frame_drop_high" 0) := by
  have history : (Machine.exec step (start 1 (some templateRules) 0)
      (rejectRun ++ [.reloadRules templateRules] ++ evaluateTick)).map log =
        some [.produced "frame_drop_high" 0, .reloaded, .rejected "frame_drop_high" 0,
          .cooldown "frame_drop_high" 0, .produced "frame_drop_high" 0] := by
    decide +kernel
  obtain ⟨run, executed, logged⟩ := Option.map_eq_some_iff.mp history
  refine ⟨run, executed, logged, ?_⟩
  intro respects
  exact absurd (respects rfl) (by decide)

end CooldownRun

end RejiStudio.Orchestrator
