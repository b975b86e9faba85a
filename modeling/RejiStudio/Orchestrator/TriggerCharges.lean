import RejiStudio.Orchestrator.CollectedActions
import RejiStudio.Orchestrator.ConflictResolution

/-!
# What starts the hysteresis of a rule

The evaluation records the instant of a rule when its condition holds and its action is
created.  The conflict resolution and the filters of the tick come later and may still
remove the action; the instant stays.
-/

namespace RejiStudio.Orchestrator

namespace RuleEngine

/-- The actions that the loop over the rules creates, before conflicts are resolved. -/
def triggered (engine : RuleEngine) (metrics : RuleMetrics) (mode : String) (now : Nat) :
    List Action :=
  (evaluateRules metrics mode now engine.rules engine).2

theorem evaluate_actions (engine : RuleEngine) (metrics : RuleMetrics) (mode : String)
    (now : Nat) :
    (engine.evaluate metrics mode now).2 = resolveConflicts (engine.triggered metrics mode now) :=
  rfl

theorem evaluateRules_lastTrigger_of_silent {metrics : RuleMetrics} {mode : String} {now : Nat}
    {rules : List Rule} {engine : RuleEngine} {ruleId : String}
    (silent : ∀ action ∈ (evaluateRules metrics mode now rules engine).2,
      action.ruleId ≠ ruleId) :
    (evaluateRules metrics mode now rules engine).1.lastTrigger ruleId =
      engine.lastTrigger ruleId := by
  induction rules generalizing engine with
  | nil => rfl
  | cons rule rest inductionHypothesis =>
      rcases evaluateRules_cons metrics mode now rule rest engine with
        same | ⟨created, _, createdId, same⟩
      · rw [same] at silent ⊢
        exact inductionHypothesis silent
      · rw [same] at silent ⊢
        obtain ⟨own, later⟩ := List.forall_mem_cons.mp silent
        have different : ruleId ≠ rule.id := by
          rw [← createdId]
          exact own.symm
        exact (inductionHypothesis later).trans (recordTrigger_lastTrigger_ne different)

variable {engine : RuleEngine} {metrics : RuleMetrics} {mode : String} {now : Nat}

theorem evaluate_lastTrigger_of_triggered {action : Action}
    (member : action ∈ engine.triggered metrics mode now) :
    (engine.evaluate metrics mode now).1.lastTrigger action.ruleId = some now :=
  (evaluateRules_lastTrigger metrics mode now engine.rules engine action.ruleId).2
    action member rfl

theorem evaluate_lastTrigger_of_silent {ruleId : String}
    (silent : ∀ action ∈ engine.triggered metrics mode now, action.ruleId ≠ ruleId) :
    (engine.evaluate metrics mode now).1.lastTrigger ruleId = engine.lastTrigger ruleId :=
  evaluateRules_lastTrigger_of_silent silent

theorem evaluate_lastTrigger_ne_iff {ruleId : String} :
    (engine.evaluate metrics mode now).1.lastTrigger ruleId ≠ engine.lastTrigger ruleId ↔
      engine.lastTrigger ruleId ≠ some now ∧
        ∃ action ∈ engine.triggered metrics mode now, action.ruleId = ruleId := by
  by_cases charged : ∃ action ∈ engine.triggered metrics mode now, action.ruleId = ruleId
  · obtain ⟨action, member, rfl⟩ := charged
    rw [evaluate_lastTrigger_of_triggered member, ne_comm]
    exact (and_iff_left ⟨action, member, rfl⟩).symm
  · have silent : ∀ action ∈ engine.triggered metrics mode now, action.ruleId ≠ ruleId := by
      intro action member same
      exact charged ⟨action, member, same⟩
    rw [evaluate_lastTrigger_of_silent silent]
    exact iff_of_false (fun changed => changed rfl) fun both => charged both.2

end RuleEngine

namespace Threads

/-- The rule ids of a tick: triggered, not given way, and let pass. -/
theorem mem_ruleIds_collectRuleActions {state : Threads} {engine : RuleEngine}
    {mode : HealingMode} (automatic : mode ≠ .manual) (loaded : state.ruleEngine = some engine)
    (ruleId : String) :
    let triggered :=
      engine.triggered state.monitor.currentMetrics mode.modeStr state.ffi.clock
    ruleId ∈ (state.collectRuleActions mode).2.map RoutedAction.ruleId ↔
      ∃ action ∈ triggered, action.ruleId = ruleId ∧ ¬action.GivesWay triggered ∧
        action.Passes mode state.currentBitrateKbps state.originalBitrateKbps := by
  intro triggered
  have whole := collectRuleActions_some automatic loaded
  dsimp only at whole
  rw [whole, ruleIds_assignIds, RuleEngine.evaluate_actions, List.mem_map]
  constructor
  · rintro ⟨action, member, same⟩
    obtain ⟨resolved, routed⟩ := List.mem_filter.mp member
    obtain ⟨inside, prevails⟩ := mem_resolveConflicts.mp resolved
    have passes := (routes_iff_passes (RuleEngine.classified_of_mem_evaluateRules inside)
      mode _ _).mp routed
    exact ⟨action, inside, same, prevails, passes⟩
  · rintro ⟨action, inside, same, prevails, passes⟩
    have routed := (routes_iff_passes (RuleEngine.classified_of_mem_evaluateRules inside)
      mode _ _).mpr passes
    exact ⟨action, List.mem_filter.mpr ⟨mem_resolveConflicts.mpr ⟨inside, prevails⟩, routed⟩, same⟩

/-- A tick changes the trigger time of a rule id only to its own instant and only if the
evaluation created an action of that rule, and from then on the id is held back for the
hysteresis whether the action came out or not.  All changed ids come out exactly if each has
an action that neither gives way nor is stopped by the gates. -/
theorem trigger_times_spec :
    (∀ (state : Threads) (mode : HealingMode), mode = .manual ∨ state.ruleEngine = none →
      state.collectRuleActions mode = (state, [])) ∧
    ∀ (state : Threads) (engine : RuleEngine) (mode : HealingMode), mode ≠ .manual →
      state.ruleEngine = some engine →
      let now := state.ffi.clock
      let triggered := engine.triggered state.monitor.currentMetrics mode.modeStr now
      ∃ finished, (state.collectRuleActions mode).1.ruleEngine = some finished ∧
        (∀ ruleId, finished.lastTrigger ruleId ≠ engine.lastTrigger ruleId →
          finished.lastTrigger ruleId = some now ∧
            ∃ action ∈ triggered, action.ruleId = ruleId) ∧
        (∀ action ∈ triggered, ∀ later, finished.inHysteresis later action.ruleId = true ↔
          (later - now) / 1000000 < engine.hysteresisMs.toNat) ∧
        ((∀ ruleId, finished.lastTrigger ruleId ≠ engine.lastTrigger ruleId →
            ruleId ∈ (state.collectRuleActions mode).2.map RoutedAction.ruleId) ↔
          ∀ action ∈ triggered, engine.lastTrigger action.ruleId ≠ some now →
            ∃ other ∈ triggered, other.ruleId = action.ruleId ∧ ¬other.GivesWay triggered ∧
              other.Passes mode state.currentBitrateKbps state.originalBitrateKbps) := by
  constructor
  · rintro state mode (rfl | unloaded)
    · exact state.collectRuleActions_manual
    · exact collectRuleActions_none unloaded mode
  · intro state engine mode automatic loaded now triggered
    have whole := collectRuleActions_some automatic loaded
    have emitted := mem_ruleIds_collectRuleActions automatic loaded
    refine ⟨(engine.evaluate state.monitor.currentMetrics mode.modeStr now).1, ?_, ?_, ?_, ?_⟩
    · rw [whole]
    · intro ruleId changed
      obtain ⟨-, action, member, rfl⟩ := RuleEngine.evaluate_lastTrigger_ne_iff.mp changed
      exact ⟨RuleEngine.evaluate_lastTrigger_of_triggered member, action, member, rfl⟩
    · intro action member later
      have recorded := RuleEngine.evaluate_lastTrigger_of_triggered member
      obtain ⟨-, -, hysteresis, -⟩ :=
        engine.evaluate_frame state.monitor.currentMetrics mode.modeStr now
      rw [RuleEngine.inHysteresis, recorded, hysteresis]
      simp only [Bool.and_eq_true, decide_eq_true_eq]
      exact and_iff_right_of_imp Nat.zero_lt_of_lt
    · constructor
      · intro sound action member fresh
        exact (emitted action.ruleId).mp
          (sound action.ruleId
            (RuleEngine.evaluate_lastTrigger_ne_iff.mpr ⟨fresh, action, member, rfl⟩))
      · intro covered ruleId changed
        obtain ⟨fresh, action, member, rfl⟩ := RuleEngine.evaluate_lastTrigger_ne_iff.mp changed
        exact (emitted action.ruleId).mpr (covered action member fresh)

def recoverRule : Rule where
  id := "bitrate_recover"
  condition := "frame_drop_pct < 3".toList
  action := "bitrate_recover"
  params := [("step_kbps", .posInt 250)]
  modes := ["auto-pilot", "co-pilot", "assist"]

def fullBitrate : Threads :=
  { Threads.start 0 (some ⟨[recoverRule], 10000⟩) 0 with
    currentBitrateKbps := 6000
    originalBitrateKbps := 6000 }

def halfBitrateLater (state : Threads) : Threads :=
  { state with
    currentBitrateKbps := 3000
    ffi := { state.ffi with clock := 1000000000 } }

/-- A recovery that was removed for want of a deficit holds back the one that is due. -/
theorem removed_recovery_charged :
    (fullBitrate.collectRuleActions .autoPilot).2 = [] ∧
      (fullBitrate.collectRuleActions .autoPilot).1.ruleEngine.map
        (fun engine => engine.lastTrigger "bitrate_recover") = some (some 0) ∧
      ((halfBitrateLater (fullBitrate.collectRuleActions .autoPilot).1).collectRuleActions
        .autoPilot).2 = [] ∧
      ((halfBitrateLater fullBitrate).collectRuleActions .autoPilot).2.map
        RoutedAction.ruleId = ["bitrate_recover"] := by
  decide +kernel

end Threads

end RejiStudio.Orchestrator
