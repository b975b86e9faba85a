import RejiStudio.Lib.CyclicIds
import RejiStudio.Orchestrator.Threads

/-!
# The actions that a tick collects

Between the evaluation of the rules and the routing of their actions stand the gates of the
mode, the check for something to recover and the assignment of the ids.
-/

namespace RejiStudio.Orchestrator

open RejiStudio.Lib

/-- The actions that a tick leaves in: a recovery needs something to recover, and the
assisting mode applies reductions of the bitrate and of the resolution only. -/
def Action.Passes (mode : HealingMode) (currentKbps originalKbps : UInt32) (action : Action) :
    Prop :=
  (action.actionType = .bitrateRecover → 0 < currentKbps ∧ currentKbps < originalKbps) ∧
    (mode = .assist →
      action.actionType = .bitrateReduce ∨ action.actionType = .scaleResolution)

instance (mode : HealingMode) (currentKbps originalKbps : UInt32) (action : Action) :
    Decidable (action.Passes mode currentKbps originalKbps) :=
  inferInstanceAs (Decidable ((_ → _) ∧ (_ → _)))

structure Action.CarriedBy (action : Action) (routed : RoutedAction) : Prop where
  actionType : routed.rj.actionType = action.actionType
  param1 : routed.rj.param1 = action.param1
  param2 : routed.rj.param2 = action.param2
  ruleId : routed.ruleId = action.ruleId
  explanation : routed.explanation = action.explanation

/-! ## Critical actions -/

/-- The critical actions are the two reductions. -/
def Action.Classified (action : Action) : Prop :=
  action.isCritical = true ↔
    action.actionType = .bitrateReduce ∨ action.actionType = .scaleResolution

theorem actionTypeFromStr_reduces {action : String} {actionType : ActionType}
    (known : actionTypeFromStr action = some actionType) :
    (action == "bitrate_reduce" || action == "scale_resolution") = true ↔
      actionType = .bitrateReduce ∨ actionType = .scaleResolution := by
  unfold actionTypeFromStr at known
  rw [Bool.or_eq_true, beq_iff_eq, beq_iff_eq]
  split_ifs at known <;> cases known <;> simp_all

theorem classified_of_createAction {rule : Rule} {metrics : RuleMetrics}
    {calib : CalibrationTable} {action : Action}
    (created : createAction rule metrics calib = .ok action) : action.Classified := by
  unfold createAction at created
  cases known : actionTypeFromStr rule.action with
  | none => simp [known] at created
  | some actionType =>
      rw [known] at created
      cases created
      exact actionTypeFromStr_reduces known

theorem RuleEngine.exists_rule_of_mem_evaluateRules {metrics : RuleMetrics} {mode : String}
    {now : Nat} {rules : List Rule} {engine : RuleEngine} {action : Action}
    (member : action ∈ (evaluateRules metrics mode now rules engine).2) :
    ∃ rule ∈ rules, createAction rule metrics engine.calibration = .ok action := by
  induction rules generalizing engine with
  | nil => cases member
  | cons rule rest inductionHypothesis =>
      have later : ∀ other : RuleEngine, other.calibration = engine.calibration →
          action ∈ (evaluateRules metrics mode now rest other).2 →
          ∃ origin ∈ rule :: rest,
            createAction origin metrics engine.calibration = .ok action := by
        intro other same inside
        obtain ⟨origin, originMember, created⟩ := inductionHypothesis inside
        rw [same] at created
        exact ⟨origin, List.mem_cons_of_mem _ originMember, created⟩
      rw [evaluateRules] at member
      split at member
      next =>
        split at member
        next => exact later engine rfl member
        next first created =>
          rcases List.mem_cons.mp member with rfl | behind
          · exact ⟨rule, List.mem_cons_self, created⟩
          · exact later (engine.recordTrigger rule.id now) rfl behind
      next => exact later engine rfl member

theorem RuleEngine.classified_of_mem_evaluateRules {metrics : RuleMetrics} {mode : String}
    {now : Nat} {rules : List Rule} {engine : RuleEngine} {action : Action}
    (member : action ∈ (evaluateRules metrics mode now rules engine).2) : action.Classified := by
  obtain ⟨rule, -, created⟩ := exists_rule_of_mem_evaluateRules member
  exact classified_of_createAction created

theorem routes_iff_passes {action : Action} (classified : action.Classified)
    (mode : HealingMode) (currentKbps originalKbps : UInt32) :
    routes mode currentKbps originalKbps action = true ↔
      action.Passes mode currentKbps originalKbps := by
  have deficit : recoveryHasDeficit currentKbps originalKbps = true ↔
      0 < currentKbps ∧ currentKbps < originalKbps := by
    simp only [recoveryHasDeficit, Bool.and_eq_true, decide_eq_true_eq]
    constructor
    · rintro ⟨⟨positive, -⟩, below⟩
      exact ⟨positive, below⟩
    · rintro ⟨positive, below⟩
      exact ⟨⟨positive, UInt32.lt_trans positive below⟩, below⟩
  unfold routes Action.Passes
  rw [Action.Classified] at classified
  rw [← deficit, ← classified]
  cases recoveryHasDeficit currentKbps originalKbps <;> cases action.isCritical <;>
    simp

/-! ## Ids -/

def idPeriod : Nat := 2 ^ 32 - 1

def idPosition (counter : UInt32) : Nat := counter.toNat - 1

theorem nextActionId_spec (counter : UInt32) :
    (nextActionId counter).1.toNat = idPosition counter % idPeriod + 1 ∧
      idPosition (nextActionId counter).2 = (idPosition counter + 1) % idPeriod := by
  have bound := counter.toNat_lt
  unfold nextActionId idPosition idPeriod
  by_cases zero : counter = 0
  · subst zero
    decide
  · have positive : counter.toNat ≠ 0 := fun none_ => zero (UInt32.toNat_inj.mp none_)
    rw [if_neg zero]
    have succ : (counter + 1).toNat = (counter.toNat + 1) % 2 ^ 32 := by
      rw [UInt32.toNat_add, UInt32.toNat_one]
    dsimp only
    rw [succ]
    constructor <;> omega

theorem ids_assignIds (counter : UInt32) (actions : List Action) :
    (assignIds counter actions).2.map (fun routed => routed.rj.id.toNat) =
        cyclicIds idPeriod (idPosition counter) actions.length ∧
      idPosition (assignIds counter actions).1 % idPeriod =
        (idPosition counter + actions.length) % idPeriod := by
  induction actions generalizing counter with
  | nil => exact ⟨rfl, rfl⟩
  | cons action rest inductionHypothesis =>
      obtain ⟨first, position⟩ := nextActionId_spec counter
      obtain ⟨ids, after⟩ := inductionHypothesis (nextActionId counter).2
      rw [position] at ids after
      constructor
      · rw [List.length_cons, cyclicIds_cons, ← first,
          cyclicIds_congr (Nat.mod_mod _ _).symm, ← ids]
        rfl
      · rw [List.length_cons, Nat.add_comm rest.length 1, ← Nat.add_assoc, ← Nat.mod_add_mod,
          ← after]
        rfl

theorem assignIds_carried (counter : UInt32) (actions : List Action) :
    List.Forall₂ Action.CarriedBy actions (assignIds counter actions).2 := by
  induction actions generalizing counter with
  | nil => exact .nil
  | cons action rest inductionHypothesis =>
      exact .cons ⟨rfl, rfl, rfl, rfl, rfl⟩ (inductionHypothesis _)

theorem length_assignIds (counter : UInt32) (actions : List Action) :
    (assignIds counter actions).2.length = actions.length :=
  (assignIds_carried counter actions).length_eq.symm

/-! ## Ticks -/

namespace Threads

theorem collectRuleActions_manual (state : Threads) :
    state.collectRuleActions .manual = (state, []) := rfl

theorem collectRuleActions_none {state : Threads} (unloaded : state.ruleEngine = none)
    (mode : HealingMode) : state.collectRuleActions mode = (state, []) := by
  unfold collectRuleActions
  rw [unloaded]
  cases mode <;> rfl

theorem collectRuleActions_some {state : Threads} {engine : RuleEngine} {mode : HealingMode}
    (automatic : mode ≠ .manual) (loaded : state.ruleEngine = some engine) :
    let evaluated :=
      engine.evaluate state.monitor.currentMetrics mode.modeStr state.ffi.clock
    let assigned := assignIds state.nextActionId
      (evaluated.2.filter
        (routes mode state.currentBitrateKbps state.originalBitrateKbps))
    state.collectRuleActions mode =
      ({ state with ruleEngine := some evaluated.1, nextActionId := assigned.1 },
        assigned.2) := by
  unfold collectRuleActions
  rw [loaded]
  cases mode with
  | manual => exact absurd rfl automatic
  | autoPilot | coPilot | assist => rfl

theorem ids_collectRuleActions (state : Threads) (mode : HealingMode) :
    (state.collectRuleActions mode).2.map (fun routed => routed.rj.id.toNat) =
        cyclicIds idPeriod (idPosition state.nextActionId)
          (state.collectRuleActions mode).2.length ∧
      idPosition (state.collectRuleActions mode).1.nextActionId % idPeriod =
        (idPosition state.nextActionId + (state.collectRuleActions mode).2.length) %
          idPeriod := by
  have silent : state.collectRuleActions mode = (state, []) →
      (state.collectRuleActions mode).2.map (fun routed => routed.rj.id.toNat) =
          cyclicIds idPeriod (idPosition state.nextActionId)
            (state.collectRuleActions mode).2.length ∧
        idPosition (state.collectRuleActions mode).1.nextActionId % idPeriod =
          (idPosition state.nextActionId + (state.collectRuleActions mode).2.length) %
            idPeriod := by
    intro same
    rw [same]
    exact ⟨rfl, rfl⟩
  by_cases manual : mode = .manual
  · subst manual
    exact silent (state.collectRuleActions_manual)
  · cases loaded : state.ruleEngine with
    | none => exact silent (collectRuleActions_none loaded mode)
    | some engine =>
        have whole := collectRuleActions_some manual loaded
        dsimp only at whole
        rw [whole]
        rw [length_assignIds]
        exact ids_assignIds _ _

def collectTicks : UInt32 → List (Threads × HealingMode) → List RoutedAction
  | _, [] => []
  | counter, (state, mode) :: rest =>
      let (after, routed) := ({ state with nextActionId := counter }).collectRuleActions mode
      routed ++ collectTicks after.nextActionId rest

theorem ids_collectTicks (counter : UInt32) (ticks : List (Threads × HealingMode)) :
    (collectTicks counter ticks).map (fun routed => routed.rj.id.toNat) =
      cyclicIds idPeriod (idPosition counter) (collectTicks counter ticks).length := by
  induction ticks generalizing counter with
  | nil => rfl
  | cons tick rest inductionHypothesis =>
      obtain ⟨state, mode⟩ := tick
      obtain ⟨ids, after⟩ := ids_collectRuleActions { state with nextActionId := counter } mode
      rw [collectTicks, List.map_append, List.length_append, cyclicIds_append, ids,
        inductionHypothesis, cyclicIds_congr after]

theorem distinct_ids_collectTicks (counter : UInt32) (ticks : List (Threads × HealingMode)) :
    let ids := (collectTicks counter ticks).map fun routed => routed.rj.id
    0 ∉ ids ∧ (ids.Nodup ↔ ids.length ≤ 2 ^ 32 - 1) := by
  intro ids
  have numbers : ids.map UInt32.toNat =
      cyclicIds idPeriod (idPosition counter) (collectTicks counter ticks).length := by
    rw [← ids_collectTicks, List.map_map]
    rfl
  constructor
  · intro zero
    have member : (0 : UInt32).toNat ∈ ids.map UInt32.toNat := List.mem_map_of_mem zero
    rw [numbers] at member
    exact absurd (pos_of_mem_cyclicIds member) (Nat.lt_irrefl 0)
  · have injective : Function.Injective UInt32.toNat := fun _ _ => UInt32.toNat_inj.mp
    rw [← List.nodup_map_iff injective, numbers, nodup_cyclicIds_iff (by decide),
      List.length_map]
    rfl

/-- The manual mode, or a monitor without an engine, collects nothing and touches nothing;
otherwise a tick hands on the evaluated actions in their order without those that do not
pass, each with its rule, parameters and explanation; and the ids of any ticks that share a
counter are nonzero, and distinct exactly while the counter has not started over. -/
theorem collectRuleActions_spec :
    (∀ state : Threads, state.collectRuleActions .manual = (state, [])) ∧
    (∀ (state : Threads) (mode : HealingMode), state.ruleEngine = none →
      state.collectRuleActions mode = (state, [])) ∧
    (∀ (state : Threads) (engine : RuleEngine) (mode : HealingMode), mode ≠ .manual →
      state.ruleEngine = some engine →
      let evaluated :=
        engine.evaluate state.monitor.currentMetrics mode.modeStr state.ffi.clock
      (state.collectRuleActions mode).1.ruleEngine = some evaluated.1 ∧
        List.Forall₂ Action.CarriedBy
          (evaluated.2.filter
            (Action.Passes mode state.currentBitrateKbps state.originalBitrateKbps))
          (state.collectRuleActions mode).2) ∧
    ∀ (counter : UInt32) (ticks : List (Threads × HealingMode)),
      let ids := (collectTicks counter ticks).map fun routed => routed.rj.id
      0 ∉ ids ∧ (ids.Nodup ↔ ids.length ≤ 2 ^ 32 - 1) := by
  refine ⟨collectRuleActions_manual,
    fun state mode unloaded => collectRuleActions_none unloaded mode, ?_, distinct_ids_collectTicks⟩
  intro state engine mode automatic loaded evaluated
  have whole := collectRuleActions_some automatic loaded
  dsimp only at whole
  rw [whole]
  refine ⟨rfl, ?_⟩
  have same : evaluated.2.filter
      (Action.Passes mode state.currentBitrateKbps state.originalBitrateKbps) =
      evaluated.2.filter (routes mode state.currentBitrateKbps state.originalBitrateKbps) := by
    apply List.filter_congr
    intro action member
    have classified : action.Classified :=
      RuleEngine.classified_of_mem_evaluateRules (mem_of_mem_resolveConflicts member)
    rw [Bool.eq_iff_iff, decide_eq_true_iff, routes_iff_passes classified]
  rw [same]
  exact assignIds_carried _ _

def droppingFrames : Threads :=
  let state := Threads.start 0 (some ⟨[frameDropHigh], 0⟩) 0
  { state with
    monitor := { state.monitor with
      currentMetrics := { RuleMetrics.default with frameDropPct := 20 } } }

theorem length_collectTicks_replicate {state : Threads} {mode : HealingMode}
    (single : ∀ counter,
      (({ state with nextActionId := counter }).collectRuleActions mode).2.length = 1)
    (counter : UInt32) (count : Nat) :
    (collectTicks counter (List.replicate count (state, mode))).length = count := by
  induction count generalizing counter with
  | zero => rfl
  | succ count inductionHypothesis =>
      rw [List.replicate_succ, collectTicks, List.length_append, single, inductionHypothesis,
        Nat.add_comm]

/-- Ticks of one action each use up the ids: the last of so many has an id that was handed
out before. -/
theorem ids_start_over :
    ¬((collectTicks 1 (List.replicate (2 ^ 32) (droppingFrames, .autoPilot))).map
      fun routed => routed.rj.id).Nodup := by
  have single : ∀ counter,
      (({ droppingFrames with nextActionId := counter }).collectRuleActions
        .autoPilot).2.length = 1 := by
    intro counter
    have triggered : (((RuleEngine.new ⟨[frameDropHigh], 0⟩).evaluate
        { RuleMetrics.default with frameDropPct := 20 } "auto-pilot" 0).2.filter
          (routes .autoPilot 0 0)).length = 1 := by
      decide +kernel
    have whole : ({ droppingFrames with nextActionId := counter }).collectRuleActions .autoPilot =
        _ := collectRuleActions_some nofun rfl
    rw [whole]
    exact (length_assignIds _ _).trans triggered
  have count := length_collectTicks_replicate single 1 (2 ^ 32)
  have distinct := (distinct_ids_collectTicks 1
    (List.replicate (2 ^ 32) (droppingFrames, .autoPilot))).2
  rw [List.length_map, count] at distinct
  rw [distinct]
  omega

end Threads

end RejiStudio.Orchestrator
