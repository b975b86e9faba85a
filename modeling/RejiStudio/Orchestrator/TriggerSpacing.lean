import RejiStudio.Lib.Machine
import RejiStudio.Orchestrator.Rules

/-!
# Hysteresis and cooldowns over a run

One engine is evaluated at instants that never go back, with cooldowns and
calibrated thresholds in between.  The history holds every action it returned and
every cooldown it was given.
-/

namespace RejiStudio.Orchestrator

open RejiStudio.Lib

inductive EngineEvent where
  | returned (action : Action) (now : Nat)
  | cooldown (ruleId : String) (until_ : Nat)

structure EngineRun where
  engine : RuleEngine
  clock : Nat
  history : List EngineEvent

inductive EngineUse where
  | evaluate (metrics : RuleMetrics) (mode : String) (now : Nat)
  | applyCooldown (ruleId : String) (duration now : Nat)
  | setCalibratedThreshold (metric : List Char) (threshold : Int32)

namespace EngineRun

def start (parsed : ParsedRules) : EngineRun := ⟨.new parsed, 0, []⟩

/-- `Instant::now` never goes back. -/
def step : Machine EngineRun EngineUse
  | run, .evaluate metrics mode now =>
      if now < run.clock then none else
      let (engine, actions) := run.engine.evaluate metrics mode now
      some ⟨engine, now, run.history ++ actions.map fun action => .returned action now⟩
  | run, .applyCooldown ruleId duration now =>
      if now < run.clock then none else
      some ⟨run.engine.applyCooldown ruleId (now + duration), now,
        run.history ++ [.cooldown ruleId (now + duration)]⟩
  | run, .setCalibratedThreshold metric threshold =>
      some { run with engine := run.engine.setCalibratedThreshold metric threshold }

/-- Actions of one rule are at least `gap` nanoseconds apart. -/
def Spaced (gap : Nat) : EngineEvent → EngineEvent → Prop
  | .returned first firstAt, .returned second secondAt =>
      first.ruleId = second.ruleId → firstAt + gap ≤ secondAt
  | _, _ => True

/-- An action comes after the end of every cooldown that its rule was given before. -/
def Respected : EngineEvent → EngineEvent → Prop
  | .cooldown ruleId until_, .returned action now => action.ruleId = ruleId → until_ ≤ now
  | _, _ => True

instance : ∀ first second, Decidable (Respected first second)
  | .cooldown _ _, .returned _ _ => inferInstanceAs (Decidable (_ → _))
  | .returned _ _, _ => isTrue trivial
  | .cooldown _ _, .cooldown _ _ => isTrue trivial

/-- A cooldown is not replaced by one that ends earlier. -/
def CooldownKept (run : EngineRun) : EngineUse → Prop
  | .applyCooldown ruleId duration now =>
      ∀ until_ ∈ run.engine.cooldownUntil ruleId, until_ ≤ now + duration
  | _ => True

instance (run : EngineRun) : ∀ use, Decidable (run.CooldownKept use)
  | .applyCooldown _ _ _ => inferInstanceAs (Decidable (∀ _ ∈ _, _))
  | .evaluate _ _ _ => isTrue trivial
  | .setCalibratedThreshold _ _ => isTrue trivial

/-! ## Spacing -/

structure SpacingInvariant (hysteresisMs : UInt64) (run : EngineRun) : Prop where
  hysteresis : run.engine.hysteresisMs = hysteresisMs
  past : ∀ ruleId last, run.engine.lastTrigger ruleId = some last → last ≤ run.clock
  triggered : ∀ action now, .returned action now ∈ run.history →
    ∃ last, run.engine.lastTrigger action.ruleId = some last ∧ now ≤ last
  spaced : run.history.Pairwise (Spaced (hysteresisMs.toNat * 1000000))

namespace SpacingInvariant

variable {hysteresisMs : UInt64} {run : EngineRun}

theorem start (parsed : ParsedRules) :
    SpacingInvariant parsed.hysteresisMs (EngineRun.start parsed) where
  hysteresis := rfl
  past := by
    intro ruleId last triggered
    cases triggered
  triggered := by
    intro action now returned
    cases returned
  spaced := List.Pairwise.nil

/-- The engine changes neither its triggers nor its hysteresis, the history grows by
no action. -/
theorem of_quiet (invariant : SpacingInvariant hysteresisMs run) {engine : RuleEngine}
    {clock : Nat} {added : List EngineEvent}
    (hysteresis : engine.hysteresisMs = run.engine.hysteresisMs)
    (triggers : engine.lastTrigger = run.engine.lastTrigger) (later : run.clock ≤ clock)
    (quiet : ∀ event ∈ added, ∃ ruleId until_, event = .cooldown ruleId until_) :
    SpacingInvariant hysteresisMs ⟨engine, clock, run.history ++ added⟩ where
  hysteresis := hysteresis.trans invariant.hysteresis
  past := by
    intro ruleId last trigger
    rw [triggers] at trigger
    exact (invariant.past ruleId last trigger).trans later
  triggered := by
    intro action now membership
    rw [triggers]
    rcases List.mem_append.mp membership with before | here
    · exact invariant.triggered action now before
    · obtain ⟨_, _, event⟩ := quiet _ here
      cases event
  spaced := by
    rw [List.pairwise_append]
    refine ⟨invariant.spaced, ?_, ?_⟩
    · apply List.pairwise_of_forall_mem_list
      intro first here second _
      obtain ⟨_, _, rfl⟩ := quiet first here
      trivial
    · intro first _ second here
      obtain ⟨_, _, rfl⟩ := quiet second here
      cases first <;> trivial

/-- The actions of an evaluation are at least the hysteresis behind every earlier
action of their rules, and of different rules among themselves. -/
theorem evaluate (invariant : SpacingInvariant hysteresisMs run)
    (positive : 0 < hysteresisMs.toNat) (metrics : RuleMetrics) (mode : String) {now : Nat}
    (later : run.clock ≤ now) :
    SpacingInvariant hysteresisMs
      ⟨(run.engine.evaluate metrics mode now).1, now,
        run.history ++ (run.engine.evaluate metrics mode now).2.map
          fun action => .returned action now⟩ := by
  have recorded := RuleEngine.evaluateRules_lastTrigger metrics mode now run.engine.rules
    run.engine
  have produced : ∀ action ∈ (run.engine.evaluate metrics mode now).2,
      action ∈ (RuleEngine.evaluateRules metrics mode now run.engine.rules run.engine).2 :=
    fun action => mem_of_mem_resolveConflicts
  have frame := run.engine.evaluate_frame metrics mode now
  constructor
  · exact frame.2.2.1.trans invariant.hysteresis
  · intro ruleId last trigger
    rcases (recorded ruleId).1 with fresh | kept
    · exact le_of_eq (Option.some.inj (trigger.symm.trans fresh))
    · exact (invariant.past ruleId last (kept.symm.trans trigger)).trans later
  · intro action at_ membership
    rcases List.mem_append.mp membership with before | here
    · obtain ⟨last, trigger, order⟩ := invariant.triggered action at_ before
      rcases (recorded action.ruleId).1 with fresh | kept
      · exact ⟨now, fresh, order.trans ((invariant.past _ _ trigger).trans later)⟩
      · exact ⟨last, kept.trans trigger, order⟩
    · obtain ⟨other, present, equal⟩ := List.mem_map.mp here
      cases equal
      exact ⟨now, (recorded action.ruleId).2 action (produced action present) rfl, le_rfl⟩
  · rw [List.pairwise_append]
    refine ⟨invariant.spaced, ?_, ?_⟩
    · rw [List.pairwise_map]
      have engineHysteresis : 0 < run.engine.hysteresisMs.toNat := by
        rw [invariant.hysteresis]
        exact positive
      have distinct : ((run.engine.evaluate metrics mode now).2.map Action.ruleId).Nodup :=
        RuleEngine.evaluate_ruleIds_nodup engineHysteresis
      rw [List.nodup_iff_pairwise_ne, List.pairwise_map] at distinct
      refine distinct.imp ?_
      intro first second different same
      exact absurd same different
    · intro event before second here
      obtain ⟨action, present, rfl⟩ := List.mem_map.mp here
      cases event with
      | cooldown ruleId until_ => trivial
      | returned earlier at_ =>
          intro same
          obtain ⟨last, trigger, order⟩ := invariant.triggered earlier at_ before
          have silent := RuleEngine.not_inHysteresis_of_mem_evaluateRules (produced action present)
          rw [same] at trigger
          have gap := RuleEngine.gap_of_not_inHysteresis silent trigger
            ((invariant.past _ _ trigger).trans later)
          rw [invariant.hysteresis] at gap
          omega

end SpacingInvariant

/-! ## Cooldowns -/

structure CooldownInvariant (run : EngineRun) : Prop where
  running : ∀ ruleId until_, .cooldown ruleId until_ ∈ run.history →
    until_ ≤ run.clock ∨
      ∃ last, run.engine.cooldownUntil ruleId = some last ∧ until_ ≤ last
  respected : run.history.Pairwise Respected

namespace CooldownInvariant

variable {run : EngineRun}

theorem start (parsed : ParsedRules) : CooldownInvariant (EngineRun.start parsed) where
  running := nofun
  respected := List.Pairwise.nil

theorem evaluate (invariant : CooldownInvariant run) (metrics : RuleMetrics) (mode : String)
    {now : Nat} (later : run.clock ≤ now) :
    CooldownInvariant
      ⟨(run.engine.evaluate metrics mode now).1, now,
        run.history ++ (run.engine.evaluate metrics mode now).2.map
          fun action => .returned action now⟩ := by
  have frame := run.engine.evaluate_frame metrics mode now
  constructor
  · intro ruleId until_ membership
    rw [frame.1]
    rcases List.mem_append.mp membership with before | here
    · rcases invariant.running ruleId until_ before with ended | runs
      · exact .inl (ended.trans later)
      · exact .inr runs
    · obtain ⟨_, _, equal⟩ := List.mem_map.mp here
      cases equal
  · rw [List.pairwise_append]
    refine ⟨invariant.respected, ?_, ?_⟩
    · rw [List.pairwise_map]
      exact List.pairwise_of_forall fun _ _ => trivial
    · intro event before second here
      obtain ⟨action, present, rfl⟩ := List.mem_map.mp here
      cases event with
      | returned earlier at_ => trivial
      | cooldown ruleId until_ =>
          rintro rfl
          rcases invariant.running _ until_ before with ended | ⟨last, stored, order⟩
          · exact ended.trans later
          · have ended := RuleEngine.not_inCooldown_of_mem_evaluate present
            simp only [RuleEngine.inCooldown, stored, decide_eq_false_iff_not] at ended
            omega

theorem applyCooldown (invariant : CooldownInvariant run) {ruleId : String}
    {duration now : Nat} (kept : run.CooldownKept (.applyCooldown ruleId duration now))
    (later : run.clock ≤ now) :
    CooldownInvariant
      ⟨run.engine.applyCooldown ruleId (now + duration), now,
        run.history ++ [.cooldown ruleId (now + duration)]⟩ := by
  constructor
  · intro other until_ membership
    by_cases same : other = ruleId
    · subst same
      have stored : (run.engine.applyCooldown other (now + duration)).cooldownUntil other =
          some (now + duration) := Function.update_self _ _ _
      rcases List.mem_append.mp membership with before | here
      · rcases invariant.running other until_ before with ended | ⟨last, present, order⟩
        · exact .inl (ended.trans later)
        · exact .inr ⟨_, stored, order.trans (kept last present)⟩
      · cases List.mem_singleton.mp here
        exact .inr ⟨_, stored, le_rfl⟩
    · have untouched : (run.engine.applyCooldown ruleId (now + duration)).cooldownUntil other =
          run.engine.cooldownUntil other := Function.update_of_ne same _ _
      rcases List.mem_append.mp membership with before | here
      · rw [untouched]
        rcases invariant.running other until_ before with ended | runs
        · exact .inl (ended.trans later)
        · exact .inr runs
      · cases List.mem_singleton.mp here
        exact absurd rfl same
  · rw [List.pairwise_append]
    refine ⟨invariant.respected, List.pairwise_singleton _ _, ?_⟩
    intro event _ second here
    obtain rfl := List.mem_singleton.mp here
    cases event <;> trivial

end CooldownInvariant

/-! ## Runs -/

theorem step_spacingInvariant {hysteresisMs : UInt64} (positive : 0 < hysteresisMs.toNat)
    {run next : EngineRun} {use : EngineUse} (invariant : SpacingInvariant hysteresisMs run)
    (stepped : step run use = some next) : SpacingInvariant hysteresisMs next := by
  cases use with
  | evaluate metrics mode now =>
      obtain ⟨later, equal⟩ := Option.ite_none_left_eq_some.mp stepped
      cases equal
      exact invariant.evaluate positive metrics mode (Nat.le_of_not_lt later)
  | applyCooldown ruleId duration now =>
      obtain ⟨later, equal⟩ := Option.ite_none_left_eq_some.mp stepped
      cases equal
      refine invariant.of_quiet ?_ ?_ (Nat.le_of_not_lt later) ?_
      · rfl
      · rfl
      · simp
  | setCalibratedThreshold metric threshold =>
      cases stepped
      exact ⟨invariant.hysteresis, invariant.past, invariant.triggered, invariant.spaced⟩

theorem step_cooldownInvariant {run next : EngineRun} {use : EngineUse}
    (invariant : CooldownInvariant run) (kept : run.CooldownKept use)
    (stepped : step run use = some next) : CooldownInvariant next := by
  cases use with
  | evaluate metrics mode now =>
      obtain ⟨later, equal⟩ := Option.ite_none_left_eq_some.mp stepped
      cases equal
      exact invariant.evaluate metrics mode (Nat.le_of_not_lt later)
  | applyCooldown ruleId duration now =>
      obtain ⟨later, equal⟩ := Option.ite_none_left_eq_some.mp stepped
      cases equal
      exact invariant.applyCooldown kept (Nat.le_of_not_lt later)
  | setCalibratedThreshold metric threshold =>
      cases stepped
      exact ⟨invariant.running, invariant.respected⟩

/-- Actions of one rule are at least the hysteresis apart in every run; none falls into
a cooldown of its rule in a run that never replaces a running cooldown by one that ends
earlier. -/
theorem actions_spaced_and_cooldowns_respected (parsed : ParsedRules)
    (positive : 0 < parsed.hysteresisMs.toNat) (uses : List EngineUse) (run : EngineRun)
    (executed : Machine.exec step (start parsed) uses = some run) :
    run.history.Pairwise (Spaced (parsed.hysteresisMs.toNat * 1000000)) ∧
      (Machine.Along step CooldownKept (start parsed) uses →
        run.history.Pairwise Respected) := by
  constructor
  · exact (Machine.exec_invariant
      (fun _ _ _ invariant stepped => step_spacingInvariant positive invariant stepped)
      (.start parsed) executed).spaced
  · intro kept
    exact (Machine.exec_invariant_along
      (fun _ _ _ invariant kept stepped => step_cooldownInvariant invariant kept stepped)
      (.start parsed) kept executed).respected

/-- Frames drop at 3 s and again at 13 s and 130 s, with a cooldown of two minutes
given at 4 s. -/
def cooledUses : List EngineUse :=
  [.evaluate { RuleMetrics.default with frameDropPct := 20 } "co-pilot" 3000000000,
    .applyCooldown "frame_drop_high" 120000000000 4000000000,
    .evaluate { RuleMetrics.default with frameDropPct := 20 } "co-pilot" 13000000000,
    .evaluate { RuleMetrics.default with frameDropPct := 20 } "co-pilot" 130000000000]

def EngineEvent.outline : EngineEvent → String × Nat × Bool
  | .returned action now => (action.ruleId, now, true)
  | .cooldown ruleId until_ => (ruleId, until_, false)

theorem actions_spaced_and_cooldowns_respected_cooled :
    ∃ run, Machine.exec step (start templateRules) cooledUses = some run ∧
      run.history.map EngineEvent.outline =
        [("frame_drop_high", 3000000000, true), ("frame_drop_high", 124000000000, false),
          ("frame_drop_high", 130000000000, true)] ∧
      run.history.Pairwise (Spaced 10000000000) ∧ run.history.Pairwise Respected := by
  have observed : (Machine.exec step (start templateRules) cooledUses).map
      (fun run => run.history.map EngineEvent.outline) =
      some [("frame_drop_high", 3000000000, true), ("frame_drop_high", 124000000000, false),
        ("frame_drop_high", 130000000000, true)] := by
    decide +kernel
  obtain ⟨run, executed, history⟩ := Option.map_eq_some_iff.mp observed
  obtain ⟨spaced, respected⟩ := actions_spaced_and_cooldowns_respected templateRules (by decide)
    cooledUses run executed
  exact ⟨run, executed, history, spaced, respected (by decide +kernel)⟩

/-- A cooldown of two minutes, one of a second while it runs, and dropped frames. -/
def shortenedUses : List EngineUse :=
  [.applyCooldown "frame_drop_high" 120000000000 0,
    .applyCooldown "frame_drop_high" 1000000000 1000000000,
    .evaluate { RuleMetrics.default with frameDropPct := 20 } "co-pilot" 3000000000]

/-- A cooldown of one second replaces one of two minutes: the rule acts at 3 s, inside
the first one. -/
theorem shorter_cooldown_ends_longer :
    ∃ run, Machine.exec step (start templateRules) shortenedUses = some run ∧
      run.history.map EngineEvent.outline =
        [("frame_drop_high", 120000000000, false), ("frame_drop_high", 2000000000, false),
          ("frame_drop_high", 3000000000, true)] ∧
      ¬run.history.Pairwise Respected := by
  have observed : (Machine.exec step (start templateRules) shortenedUses).map
      (fun run => (run.history.map EngineEvent.outline,
        decide (run.history.Pairwise Respected))) =
      some ([("frame_drop_high", 120000000000, false), ("frame_drop_high", 2000000000, false),
        ("frame_drop_high", 3000000000, true)], false) := by
    decide +kernel
  obtain ⟨run, executed, outcome⟩ := Option.map_eq_some_iff.mp observed
  obtain ⟨history, broken⟩ := Prod.mk.inj outcome
  exact ⟨run, executed, history, of_decide_eq_false broken⟩

end EngineRun

end RejiStudio.Orchestrator
