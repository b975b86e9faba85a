import RejiStudio.Orchestrator.CallFrames

/-!
# Pending prompts of one rule

The pending store is keyed by action ids and does not look at rules.  What keeps
the prompts of one rule apart is the hysteresis: a rule that triggered stays silent
for `hysteresis_ms`, whatever becomes of its action.
-/

namespace RejiStudio.Orchestrator

open RejiStudio.Lib

namespace Threads

def routing (state : Threads) : List RoutedAction :=
  match state.phase with
  | .routing _ actions => actions
  | _ => []

theorem routing_of_mode_none {state : Threads} (idle : state.phase.mode = none) :
    state.routing = [] := by
  unfold routing
  split
  next mode actions phase =>
    rw [phase] at idle
    cases idle
  next => rfl

/-- An engine with the same hysteresis and the same triggers is installed. -/
def KeepsTriggers (before after : Threads) : Prop :=
  ∀ engine, before.ruleEngine = some engine →
    ∃ kept, after.ruleEngine = some kept ∧ kept.hysteresisMs = engine.hysteresisMs ∧
      kept.lastTrigger = engine.lastTrigger

theorem KeepsTriggers.of_eq {before after : Threads}
    (same : after.ruleEngine = before.ruleEngine) : before.KeepsTriggers after :=
  fun engine installed => ⟨engine, same.trans installed, rfl, rfl⟩

/-- A piece of the monitor task that does not evaluate. -/
theorem advance_of_not_evaluating {state next : Threads} (advanced : state.advance = some next)
    (other : ∀ mode, state.phase ≠ .evaluating mode) :
    state.KeepsTriggers next ∧ next.routing.Sublist state.routing := by
  constructor
  · rcases advance_ruleEngine advanced with same | ⟨mode, _, finalized⟩ |
      ⟨mode, _, evaluating, _⟩
    · exact .of_eq same
    · intro engine installed
      simp only [installed, finalizeCalibration] at finalized
      split at finalized
      · exact ⟨_, finalized, rfl, rfl⟩
      · exact ⟨engine, finalized, rfl, rfl⟩
    · exact absurd evaluating (other mode)
  · cases advance_cases advanced with
    | evaluated mode phase => exact absurd phase (other mode)
    | routed mode routed rest phase =>
        simp only [routing, phase]
        exact List.sublist_cons_self _ _
    | handledSystem | handledMedia | swept | notified | stopped | began | calibrated
    | predicted | adapted | finished => exact List.nil_sublist _

theorem routing_of_storedNext {state next : Threads} {routed : RoutedAction}
    (advanced : state.advance = some next) (stored : state.storedNext = some routed) :
    state.routing = routed :: next.routing ∧ ∀ mode, state.phase ≠ .evaluating mode := by
  unfold storedNext at stored
  split at stored
  next mode head rest routes =>
    obtain ⟨_, same⟩ := Option.ite_none_right_eq_some.mp stored
    cases same
    simp only [advance, routes, Option.some.injEq] at advanced
    subst advanced
    simp [routing, routes]
  next => cases stored

theorem advance_of_evaluating {state next : Threads} {mode : HealingMode}
    (advanced : state.advance = some next) (evaluating : state.phase = .evaluating mode) :
    next.ffi = state.ffi ∧ next.routing = (state.collectRuleActions mode).2 ∧
      next.ruleEngine = (state.collectRuleActions mode).1.ruleEngine := by
  simp only [advance, evaluating, Option.some.injEq] at advanced
  subst advanced
  exact ⟨state.collectRuleActions_ffi mode, rfl, rfl⟩

theorem step_triggers {state next : Threads} {action : ThreadAction}
    (stepped : state.step action = some next) (other : action ≠ .advance)
    (noReload : ∀ parsed, action ≠ .reloadRules parsed) :
    state.KeepsTriggers next ∧ next.routing.Sublist state.routing := by
  rcases step_cases stepped with ⟨advancing, _⟩ | ⟨index, _, resumed⟩ | ⟨parsed, reloads, _⟩ |
    ⟨_, _, _, outside⟩
  · exact absurd advancing other
  · obtain ⟨⟨ffi, entries⟩, _, rfl⟩ := Option.map_eq_some_iff.mp resumed
    refine ⟨?_, List.Sublist.refl _⟩
    intro engine installed
    dsimp only
    split
    · rw [installed]
      exact ⟨_, rfl, rfl, rfl⟩
    · exact ⟨engine, installed, rfl, rfl⟩
  · exact absurd reloads (noReload parsed)
  · refine ⟨.of_eq outside.ruleEngine, ?_⟩
    rcases outside.phase with same | ⟨_, begins⟩
    · rw [routing, routing, same]
    · rw [routing_of_mode_none begins.mode]
      exact List.nil_sublist _

end Threads

/-- The threads, the instant of the last evaluation, and for every stored action id
the evaluation that it comes from. -/
structure PromptRun where
  threads : Threads
  evaluatedAt : Nat
  producedAt : UInt32 → Nat

namespace PromptRun

def start (mode : UInt32) (rules : ParsedRules) (clock : Nat) : PromptRun :=
  ⟨.start mode (some rules) clock, clock, fun _ => clock⟩

def step : Machine PromptRun ThreadAction
  | run, action =>
      (run.threads.step action).map fun threads =>
        match action, run.threads.phase, run.threads.storedNext with
        | .advance, .evaluating _, _ => ⟨threads, run.threads.ffi.clock, run.producedAt⟩
        | .advance, _, some routed =>
            ⟨threads, run.evaluatedAt,
              Function.update run.producedAt routed.rj.id run.evaluatedAt⟩
        | _, _, _ => ⟨threads, run.evaluatedAt, run.producedAt⟩

def hysteresis (rules : ParsedRules) : Nat := rules.hysteresisMs.toNat * 1000000

/-- The triggers of an engine with the hysteresis `gap`: every stored action and
every action on its way has left one. -/
structure Triggered (gap : Nat) (run : PromptRun) (engine : RuleEngine) : Prop where
  hysteresis : engine.hysteresisMs.toNat * 1000000 = gap
  past : ∀ ruleId last, engine.lastTrigger ruleId = some last → last ≤ run.threads.ffi.clock
  stored : ∀ id entry, run.threads.ffi.pendingActions.lookup id = some entry →
    ∃ last, engine.lastTrigger entry.ruleId = some last ∧ run.producedAt id ≤ last
  routed : ∀ routed ∈ run.threads.routing,
    engine.lastTrigger routed.ruleId = some run.evaluatedAt

/-- Entries of one rule come from evaluations with a `gap` between them, and so do
the actions on their way. -/
structure Invariant (gap : Nat) (run : PromptRun) : Prop where
  engine : ∃ engine, run.threads.ruleEngine = some engine ∧ run.Triggered gap engine
  spaced : ∀ first second firstEntry secondEntry,
    run.threads.ffi.pendingActions.lookup first = some firstEntry →
    run.threads.ffi.pendingActions.lookup second = some secondEntry →
    firstEntry.ruleId = secondEntry.ruleId → first ≠ second →
    run.producedAt first + gap ≤ run.producedAt second ∨
      run.producedAt second + gap ≤ run.producedAt first
  coming : ∀ routed ∈ run.threads.routing, ∀ id entry,
    run.threads.ffi.pendingActions.lookup id = some entry → entry.ruleId = routed.ruleId →
    run.producedAt id + gap ≤ run.evaluatedAt
  distinct : 0 < gap → (run.threads.routing.map RoutedAction.ruleId).Nodup

theorem invariant_start (mode : UInt32) (rules : ParsedRules) (clock : Nat) :
    (start mode rules clock).Invariant (hysteresis rules) where
  engine := ⟨.new rules, rfl, rfl, nofun, nofun, nofun⟩
  spaced := by
    intro first second firstEntry secondEntry stored
    cases stored
  coming := List.forall_mem_nil _
  distinct := fun _ => List.nodup_nil

theorem Invariant.keep {gap : Nat} {run : PromptRun} (invariant : run.Invariant gap)
    {threads : Threads} (later : run.threads.ffi.clock ≤ threads.ffi.clock)
    (triggers : run.threads.KeepsTriggers threads)
    (inherited : ∀ id entry, threads.ffi.pendingActions.lookup id = some entry →
      ∃ earlier, run.threads.ffi.pendingActions.lookup id = some earlier ∧
        earlier.ruleId = entry.ruleId)
    (routes : threads.routing.Sublist run.threads.routing) :
    Invariant gap ⟨threads, run.evaluatedAt, run.producedAt⟩ where
  engine := by
    obtain ⟨engine, installed, triggered⟩ := invariant.engine
    obtain ⟨kept, present, sameHysteresis, sameTriggers⟩ := triggers engine installed
    refine ⟨kept, present, ?_, ?_, ?_, ?_⟩
    · rw [sameHysteresis]
      exact triggered.hysteresis
    · rw [sameTriggers]
      intro ruleId last recorded
      exact (triggered.past ruleId last recorded).trans later
    · intro id entry found
      obtain ⟨earlier, stored, same⟩ := inherited id entry found
      rw [sameTriggers, ← same]
      exact triggered.stored id earlier stored
    · rw [sameTriggers]
      exact fun routed membership => triggered.routed routed (routes.subset membership)
  spaced := by
    intro first second firstEntry secondEntry foundFirst foundSecond sameRule different
    obtain ⟨_, storedFirst, ruleFirst⟩ := inherited first firstEntry foundFirst
    obtain ⟨_, storedSecond, ruleSecond⟩ := inherited second secondEntry foundSecond
    exact invariant.spaced first second _ _ storedFirst storedSecond
      ((ruleFirst.trans sameRule).trans ruleSecond.symm) different
  coming := by
    intro routed membership id entry found sameRule
    obtain ⟨_, stored, rule⟩ := inherited id entry found
    exact invariant.coming routed (routes.subset membership) id _ stored (rule.trans sameRule)
  distinct := by
    intro positive
    exact (invariant.distinct positive).sublist (routes.map RoutedAction.ruleId)

/-- An evaluation now passes over the rules of the entries that are too recent. -/
theorem Triggered.coming {gap : Nat} {run : PromptRun} {engine : RuleEngine}
    (triggered : run.Triggered gap engine) {metrics : RuleMetrics} {mode : String}
    {action : Action}
    (produced : action ∈ (engine.evaluate metrics mode run.threads.ffi.clock).2)
    {id : UInt32} {entry : PendingEntry}
    (found : run.threads.ffi.pendingActions.lookup id = some entry)
    (sameRule : entry.ruleId = action.ruleId) :
    run.producedAt id + gap ≤ run.threads.ffi.clock := by
  obtain ⟨last, recorded, before⟩ := triggered.stored id entry found
  have silent := RuleEngine.not_inHysteresis_of_mem_evaluateRules
    (mem_of_mem_resolveConflicts produced)
  rw [sameRule] at recorded
  have elapsed := RuleEngine.gap_of_not_inHysteresis silent recorded
    (triggered.past _ last recorded)
  rw [triggered.hysteresis] at elapsed
  omega

theorem Triggered.evaluate {gap : Nat} {run : PromptRun} {engine : RuleEngine}
    (triggered : run.Triggered gap engine) (metrics : RuleMetrics) (mode : String)
    {threads : Threads} (ffi : threads.ffi = run.threads.ffi)
    (produced : ∀ routed ∈ threads.routing,
      ∃ action ∈ (engine.evaluate metrics mode run.threads.ffi.clock).2,
        action.ruleId = routed.ruleId) :
    Triggered gap ⟨threads, run.threads.ffi.clock, run.producedAt⟩
      (engine.evaluate metrics mode run.threads.ffi.clock).1 := by
  have recorded := RuleEngine.evaluateRules_lastTrigger metrics mode run.threads.ffi.clock
    engine.rules engine
  refine ⟨?_, ?_, ?_, ?_⟩
  · rw [(engine.evaluate_frame _ _ _).2.2.1]
    exact triggered.hysteresis
  · intro ruleId last lastTrigger
    rw [ffi]
    rcases (recorded ruleId).1 with now | old
    · cases now.symm.trans lastTrigger
      exact le_rfl
    · exact triggered.past ruleId last (old.symm.trans lastTrigger)
  · intro id entry found
    rw [ffi] at found
    obtain ⟨last, earlier, before⟩ := triggered.stored id entry found
    rcases (recorded entry.ruleId).1 with now | old
    · exact ⟨_, now, before.trans (triggered.past _ last earlier)⟩
    · exact ⟨last, old.trans earlier, before⟩
  · intro routed membership
    obtain ⟨action, created, sameRule⟩ := produced routed membership
    exact (recorded routed.ruleId).2 action (mem_of_mem_resolveConflicts created) sameRule

/-- The evaluation passes over the rules with a trigger that is too recent. -/
theorem Invariant.evaluate {gap : Nat} {run : PromptRun} (invariant : run.Invariant gap)
    {mode : HealingMode} {threads : Threads} (evaluating : run.threads.phase = .evaluating mode)
    (advanced : run.threads.advance = some threads) :
    Invariant gap ⟨threads, run.threads.ffi.clock, run.producedAt⟩ := by
  obtain ⟨engine, installed, triggered⟩ := invariant.engine
  obtain ⟨ffi, routes, after⟩ := Threads.advance_of_evaluating advanced evaluating
  have spaced := invariant.spaced
  rw [← ffi] at spaced
  rcases run.threads.collectRuleActions_cases mode with
    same | ⟨other, present, evaluated, ruleIds⟩
  · rw [same] at routes after
    refine ⟨⟨engine, after.trans installed, triggered.hysteresis, ?_, ?_, ?_⟩, spaced, ?_, ?_⟩
    · rw [ffi]
      exact triggered.past
    · rw [ffi]
      exact triggered.stored
    · simp [routes]
    · simp [routes]
    · simp [routes]
  · cases installed.symm.trans present
    rw [← routes] at ruleIds
    have produced : ∀ routed ∈ threads.routing,
        ∃ action ∈ (engine.evaluate run.threads.monitor.currentMetrics mode.modeStr
          run.threads.ffi.clock).2, action.ruleId = routed.ruleId := by
      intro routed membership
      exact List.mem_map.mp (ruleIds.subset (List.mem_map_of_mem membership))
    have evaluatedEngine := after.trans (congrArg Threads.ruleEngine evaluated)
    refine ⟨⟨_, evaluatedEngine, triggered.evaluate _ _ ffi produced⟩, spaced, ?_, ?_⟩
    · intro routed membership id entry found sameRule
      obtain ⟨action, created, actionRule⟩ := produced routed membership
      rw [ffi] at found
      exact triggered.coming created found (sameRule.trans actionRule.symm)
    · intro positive
      have hysteresis : 0 < engine.hysteresisMs.toNat := by
        have gapIs := triggered.hysteresis
        omega
      exact (RuleEngine.evaluate_ruleIds_nodup hysteresis).sublist ruleIds

theorem Invariant.store {gap : Nat} {run : PromptRun} (invariant : run.Invariant gap)
    {routed : RoutedAction} {threads : Threads}
    (stored : run.threads.storedNext = some routed)
    (advanced : run.threads.advance = some threads) :
    Invariant gap ⟨threads, run.evaluatedAt,
      Function.update run.producedAt routed.rj.id run.evaluatedAt⟩ := by
  obtain ⟨engine, installed, triggered⟩ := invariant.engine
  obtain ⟨routes, other⟩ := Threads.routing_of_storedNext advanced stored
  obtain ⟨kept, present, sameHysteresis, sameTriggers⟩ :=
    (Threads.advance_of_not_evaluating advanced other).1 engine installed
  have later := (Threads.advance_clock advanced).ge
  -- an entry is the new one, or an old one under another id
  have entries : ∀ id entry, threads.ffi.pendingActions.lookup id = some entry →
      (id = routed.rj.id ∧ entry.ruleId = routed.ruleId) ∨
      (id ≠ routed.rj.id ∧ run.threads.ffi.pendingActions.lookup id = some entry) := by
    intro id entry found
    rw [Threads.advance_of_storedNext advanced stored] at found
    rcases PendingStore.lookup_insert_cases found with ⟨same, rfl⟩ | old
    · exact .inl ⟨same, rfl⟩
    · exact .inr old
  have head : routed ∈ run.threads.routing := by
    rw [routes]
    exact List.mem_cons_self
  have tail : ∀ next ∈ threads.routing, next ∈ run.threads.routing := by
    rw [routes]
    exact fun next => List.mem_cons_of_mem routed
  refine ⟨⟨kept, present, ?_, ?_, ?_, ?_⟩, ?_, ?_, ?_⟩
  · rw [sameHysteresis]
    exact triggered.hysteresis
  · rw [sameTriggers]
    exact fun ruleId last recorded => (triggered.past ruleId last recorded).trans later
  · rw [sameTriggers]
    intro id entry found
    rcases entries id entry found with ⟨rfl, rule⟩ | ⟨different, old⟩
    · simp only [rule, Function.update_self]
      exact ⟨_, triggered.routed routed head, le_rfl⟩
    · simp only [Function.update_of_ne different]
      exact triggered.stored id entry old
  · rw [sameTriggers]
    exact fun next membership => triggered.routed next (tail next membership)
  · intro first second firstEntry secondEntry foundFirst foundSecond sameRule different
    rcases entries first firstEntry foundFirst with ⟨rfl, rule⟩ | ⟨olderFirst, oldFirst⟩
    · rcases entries second secondEntry foundSecond with ⟨rfl, _⟩ | ⟨older, old⟩
      · exact absurd rfl different
      · right
        simp only [Function.update_self, Function.update_of_ne older]
        exact invariant.coming routed head second _ old (sameRule.symm.trans rule)
    · rcases entries second secondEntry foundSecond with ⟨rfl, rule⟩ | ⟨older, old⟩
      · left
        simp only [Function.update_self, Function.update_of_ne olderFirst]
        exact invariant.coming routed head first _ oldFirst (sameRule.trans rule)
      · simp only [Function.update_of_ne olderFirst, Function.update_of_ne older]
        exact invariant.spaced first second _ _ oldFirst old sameRule different
  · intro next membership id entry found sameRule
    rcases entries id entry found with ⟨rfl, rule⟩ | ⟨older, old⟩
    · -- two actions of one rule on their way exist only without a hysteresis
      have noGap : gap = 0 := by
        by_contra positive
        have nodup := invariant.distinct (Nat.pos_of_ne_zero positive)
        rw [routes, List.map_cons, List.nodup_cons, ← rule, sameRule] at nodup
        exact nodup.1 (List.mem_map_of_mem membership)
      simp only [Function.update_self, noGap]
      exact le_rfl
    · simp only [Function.update_of_ne older]
      exact invariant.coming next (tail next membership) id entry old sameRule
  · intro positive
    have nodup := invariant.distinct positive
    rw [routes] at nodup
    exact nodup.of_cons

theorem Invariant.step {gap : Nat} {run next : PromptRun} {action : ThreadAction}
    (invariant : run.Invariant gap) (noReload : ∀ parsed, action ≠ .reloadRules parsed)
    (stepped : run.step action = some next) : next.Invariant gap := by
  obtain ⟨threads, moved, rfl⟩ := Option.map_eq_some_iff.mp stepped
  have later := Threads.step_clock moved
  by_cases monitor : action = .advance
  · subst monitor
    split
    next evaluating => exact invariant.evaluate evaluating moved
    next stored _ => exact invariant.store stored moved
    next notEvaluating notStoring =>
      have silent : run.threads.storedNext = none := by
        cases stored : run.threads.storedNext with
        | none => rfl
        | some routed => exact absurd stored (notStoring routed rfl)
      obtain ⟨triggers, routes⟩ := Threads.advance_of_not_evaluating moved
        (fun mode => notEvaluating mode rfl)
      exact invariant.keep later triggers (Threads.keeps_advance moved silent).inherited routes
  · obtain ⟨triggers, routes⟩ := Threads.step_triggers moved monitor noReload
    split
    next => exact absurd rfl monitor
    next => exact absurd rfl monitor
    next =>
      exact invariant.keep later triggers
        (fun id entry found => Threads.step_inherited moved monitor found) routes

/-- In every run without a reload, two entries of one rule come from evaluations with
the hysteresis between them.  So no two are pending as long as every entry leaves the
store within the hysteresis. -/
theorem pendingPrompts_spaced (mode : UInt32) (rules : ParsedRules) (clock : Nat)
    (actions : List ThreadAction) (run : PromptRun)
    (noReload : ∀ action ∈ actions, ∀ parsed, action ≠ .reloadRules parsed)
    (executed : Machine.exec step (start mode rules clock) actions = some run) :
    (∀ first second firstEntry secondEntry,
      run.threads.ffi.pendingActions.lookup first = some firstEntry →
      run.threads.ffi.pendingActions.lookup second = some secondEntry →
      firstEntry.ruleId = secondEntry.ruleId → first ≠ second →
      run.producedAt first + hysteresis rules ≤ run.producedAt second ∨
        run.producedAt second + hysteresis rules ≤ run.producedAt first) ∧
    ((∀ id ∈ run.threads.ffi.pendingActions.keys,
        run.threads.ffi.clock < run.producedAt id + hysteresis rules) →
      ∀ first second firstEntry secondEntry,
        run.threads.ffi.pendingActions.lookup first = some firstEntry →
        run.threads.ffi.pendingActions.lookup second = some secondEntry →
        firstEntry.ruleId = secondEntry.ruleId → first = second) := by
  have along : Machine.Along step (fun _ action => ∀ parsed, action ≠ .reloadRules parsed)
      (start mode rules clock) actions := Machine.along_of_forall noReload
  have invariant : run.Invariant (hysteresis rules) :=
    Machine.exec_invariant_along
      (fun _ _ _ invariant noReload stepped => Invariant.step invariant noReload stepped)
      (invariant_start mode rules clock) along executed
  refine ⟨invariant.spaced, ?_⟩
  intro recent first second firstEntry secondEntry foundFirst foundSecond sameRule
  by_contra different
  obtain ⟨engine, _, triggered⟩ := invariant.engine
  have past : ∀ id entry, run.threads.ffi.pendingActions.lookup id = some entry →
      run.producedAt id ≤ run.threads.ffi.clock ∧
        run.threads.ffi.clock < run.producedAt id + hysteresis rules := by
    intro id entry found
    obtain ⟨last, recorded, before⟩ := triggered.stored id entry found
    exact ⟨before.trans (triggered.past _ last recorded),
      recent id (PendingStore.mem_keys_iff.mpr ⟨entry, found⟩)⟩
  have firstPast := past first firstEntry foundFirst
  have secondPast := past second secondEntry foundSecond
  rcases invariant.spaced first second _ _ foundFirst foundSecond sameRule different with
    before | after
  · omega
  · omega

def promptTick : List ThreadAction := .tick :: List.replicate 8 .advance

/-- Two ticks with the hysteresis between them, on a metric that triggers a rule. -/
def twoPrompts : List ThreadAction :=
  [.receiveMedia (.frameDropPct 20), .advance] ++ promptTick ++
    [.elapse (10 * 1000000000)] ++ promptTick

theorem pendingPrompts_spaced_twoTicks :
    ∃ run, Machine.exec step (start 1 templateRules 0) twoPrompts = some run ∧
      (run.producedAt 1 + hysteresis templateRules ≤ run.producedAt 2 ∨
        run.producedAt 2 + hysteresis templateRules ≤ run.producedAt 1) := by
  have noReload : ∀ action ∈ twoPrompts, ∀ parsed, action ≠ .reloadRules parsed := by
    simp [twoPrompts, promptTick]
  have stored : (Machine.exec step (start 1 templateRules 0) twoPrompts).map (fun run =>
      ((run.threads.ffi.pendingActions.lookup 1).map PendingEntry.ruleId,
        (run.threads.ffi.pendingActions.lookup 2).map PendingEntry.ruleId)) =
      some (some "frame_drop_high", some "frame_drop_high") := by
    decide +kernel
  obtain ⟨run, executed, entries⟩ := Option.map_eq_some_iff.mp stored
  obtain ⟨first, second⟩ := Prod.mk.inj entries
  obtain ⟨firstEntry, foundFirst, firstRule⟩ := Option.map_eq_some_iff.mp first
  obtain ⟨secondEntry, foundSecond, secondRule⟩ := Option.map_eq_some_iff.mp second
  have spaced := (pendingPrompts_spaced 1 templateRules 0 twoPrompts run noReload executed).1
  exact ⟨run, executed, spaced 1 2 firstEntry secondEntry foundFirst foundSecond
    (firstRule.trans secondRule.symm) (by decide)⟩

/-- The hysteresis of the template file is shorter than the lifetime of an entry, so
the second prompt of a rule joins the first. -/
theorem hysteresis_allows_second_prompt :
    ∃ run, Machine.exec step (start 1 templateRules 0) twoPrompts = some run ∧
      run.threads.ffi.healingMode = 1 ∧ run.threads.actionAutoApprove = 0 ∧
      run.threads.ffi.pendingActions.values.map PendingEntry.ruleId =
        ["frame_drop_high", "frame_drop_high"] := by
  have ended : (Machine.exec step (start 1 templateRules 0) twoPrompts).map (fun run =>
      (run.threads.ffi.healingMode, run.threads.actionAutoApprove,
        run.threads.ffi.pendingActions.values.map PendingEntry.ruleId)) =
      some (1, 0, ["frame_drop_high", "frame_drop_high"]) := by
    decide +kernel
  obtain ⟨run, executed, observed⟩ := Option.map_eq_some_iff.mp ended
  simp only [Prod.mk.injEq] at observed
  exact ⟨run, executed, observed⟩

end PromptRun

end RejiStudio.Orchestrator
