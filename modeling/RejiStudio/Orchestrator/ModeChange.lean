import RejiStudio.Orchestrator.CallFrames

/-!
# The pending store outside the CoPilot mode

`rj_set_healing_mode` swaps the mode and then clears the store.  The store stays
empty afterwards as long as no action is stored by a tick that read the old mode.
-/

namespace RejiStudio.Orchestrator

open RejiStudio.Lib

namespace Threads

/-- The mode with which a step makes `rj_set_healing_mode` return. -/
def setReturns (state : Threads) : ThreadAction → Option UInt32
  | .setHealingMode mode => if mode ≤ 3 ∧ state.ffi.healingMode = mode then some mode else none
  | .resume index => state.ffi.returningMode index
  | _ => none

end Threads

/-- The threads, and whether a call that left the CoPilot mode has returned and the
mode has not been set again. -/
structure ModeRun where
  threads : Threads
  leftCoPilot : Bool

namespace ModeRun

def start (mode : UInt32) (rules : Option ParsedRules) (clock : Nat) : ModeRun :=
  ⟨.start mode rules clock, false⟩

def leaves (run : ModeRun) (action : ThreadAction) : Bool :=
  let left := run.leftCoPilot || (run.threads.setReturns action).any (· != 1)
  match action with
  | .setHealingMode mode => mode != 1 && left
  | _ => left

def step : Machine ModeRun ThreadAction
  | run, action =>
      (run.threads.step action).map fun threads => ⟨threads, run.leaves action⟩

/-- An action is stored only in the CoPilot mode or while the store is still to be
cleared, and the mode is set by one call at a time. -/
def StoresBeforeClearing (run : ModeRun) : ThreadAction → Prop
  | .advance => run.threads.storedNext.isSome = true →
      run.threads.ffi.healingMode = 1 ∨
        (run.threads.ffi.clearing = true ∧ run.leftCoPilot = false)
  | .setHealingMode _ => run.threads.ffi.settingModes = []
  | _ => True

instance (run : ModeRun) (action : ThreadAction) :
    Decidable (run.StoresBeforeClearing action) := by
  cases action with
  | advance => exact inferInstanceAs (Decidable (_ = true → _ ∨ _))
  | setHealingMode mode => exact inferInstanceAs (Decidable (_ = _))
  | _ => exact isTrue trivial

structure Invariant (run : ModeRun) : Prop where
  setting : run.threads.ffi.settingModes = [] ∨
    run.threads.ffi.settingModes = [run.threads.ffi.healingMode]
  cleared : run.threads.ffi.healingMode ≠ 1 → run.threads.ffi.clearing = false →
    run.threads.ffi.pendingActions.keys = []
  left : run.leftCoPilot = true →
    run.threads.ffi.healingMode ≠ 1 ∧ run.threads.ffi.pendingActions.keys = []

theorem invariant_start (mode : UInt32) (rules : Option ParsedRules) (clock : Nat) :
    (start mode rules clock).Invariant where
  setting := .inl rfl
  cleared := fun _ _ => rfl
  left := by
    intro left
    cases left

theorem Invariant.keep {run : ModeRun} (invariant : run.Invariant) {threads : Threads}
    (kept : run.threads.ffi.Keeps threads.ffi) : Invariant ⟨threads, run.leftCoPilot⟩ where
  setting := by
    rw [kept.settingModes, kept.healingMode]
    exact invariant.setting
  cleared := by
    intro outside idle
    rw [kept.healingMode] at outside
    rw [kept.clearing] at idle
    exact kept.empty (invariant.cleared outside idle)
  left := by
    intro left
    obtain ⟨outside, empty⟩ := invariant.left left
    refine ⟨?_, kept.empty empty⟩
    rw [kept.healingMode]
    exact outside

theorem Invariant.advance {run : ModeRun} (invariant : run.Invariant) {threads : Threads}
    (ok : run.StoresBeforeClearing .advance) (advanced : run.threads.advance = some threads) :
    Invariant ⟨threads, run.leftCoPilot⟩ := by
  cases stored : run.threads.storedNext with
  | none => exact invariant.keep (Threads.keeps_advance advanced stored)
  | some routed =>
      have inside := ok (Option.isSome_of_eq_some stored)
      obtain ⟨healingMode, settingModes, clearing⟩ := Threads.advance_mode advanced
      refine ⟨?_, ?_, ?_⟩
      · rw [settingModes, healingMode]
        exact invariant.setting
      · intro outside idle
        rw [healingMode] at outside
        rw [clearing] at idle
        rcases inside with coPilot | ⟨busy, _⟩
        · exact absurd coPilot outside
        · rw [idle] at busy
          cases busy
      · intro left
        have outside := (invariant.left left).1
        rcases inside with coPilot | ⟨_, still⟩
        · exact absurd coPilot outside
        · change run.leftCoPilot = true at left
          rw [still] at left
          cases left

/-- A call of `rj_set_healing_mode` starts while no other is in flight. -/
theorem Invariant.setHealingMode {run : ModeRun} (invariant : run.Invariant) (mode : UInt32)
    (alone : run.threads.ffi.settingModes = []) :
    Invariant ⟨{ run.threads with ffi := (run.threads.ffi.rjSetHealingMode mode).1 },
      run.leaves (.setHealingMode mode)⟩ := by
  have idle : run.threads.ffi.clearing = false :=
    FfiState.not_clearing_of_settingModes_nil alone
  rcases run.threads.ffi.rjSetHealingMode_cases mode with
    ⟨unknown, same⟩ | ⟨current, same⟩ | ⟨other, swapped⟩
  · have outside : mode ≠ 1 := by
      rintro rfl
      exact absurd unknown (by decide)
    have unchanged : run.leaves (.setHealingMode mode) = run.leftCoPilot := by
      have refused : ¬mode ≤ 3 := UInt32.not_le.mpr unknown
      simp [leaves, Threads.setReturns, refused, bne_iff_ne.mpr outside]
    rw [same, unchanged]
    exact invariant.keep (FfiState.Keeps.refl _)
  · rw [same]
    refine ⟨.inl alone, fun outside _ => invariant.cleared outside idle, ?_⟩
    intro left
    have outside : mode ≠ 1 := by
      rintro rfl
      simp [leaves] at left
    rw [← current] at outside
    exact ⟨outside, invariant.cleared outside idle⟩
  · rw [swapped]
    refine ⟨?_, ?_, ?_⟩
    · right
      rw [FfiState.settingModes_continueWith]
      exact congrArg (· ++ [mode]) alone
    · intro _ cleared
      simp [FfiState.clearing_continueWith, Call.isClear] at cleared
    · intro left
      simp only [leaves, Threads.setReturns, other, and_false, if_false, Option.any_none,
        Bool.or_false, Bool.and_eq_true, bne_iff_ne] at left
      exact ⟨left.1, (invariant.left left.2).2⟩

theorem Invariant.resume {run : ModeRun} (invariant : run.Invariant) {index : Nat}
    {threads : Threads} (resumed : run.threads.resume index = some threads) :
    Invariant ⟨threads, run.leaves (.resume index)⟩ := by
  obtain ⟨⟨ffi, entries⟩, moved, rfl⟩ := Option.map_eq_some_iff.mp resumed
  rcases FfiState.resume_cases moved with ⟨silent, kept⟩ |
    ⟨silent, healingMode, settingModes, empty⟩ |
    ⟨mode, left, right, returning, healingMode, pending, before, after⟩
  · simpa [leaves, Threads.setReturns, silent] using invariant.keep kept
  · refine ⟨?_, fun _ _ => empty, ?_⟩
    · rw [settingModes, healingMode]
      exact invariant.setting
    · intro left
      simp only [leaves, Threads.setReturns, silent, Option.any_none, Bool.or_false] at left
      refine ⟨?_, empty⟩
      rw [healingMode]
      exact (invariant.left left).1
  · -- the only call that sets the mode returns, so no call is left to clear the store
    obtain ⟨current, noneLeft, noneRight⟩ : run.threads.ffi.healingMode = mode ∧
        left.filterMap Call.settingMode = [] ∧ right.filterMap Call.settingMode = [] := by
      have setting := invariant.setting
      simp only [FfiState.settingModes, before, List.filterMap_append, List.filterMap_cons,
        Call.settingMode, List.getLast?_singleton] at setting
      cases earlier : left.filterMap Call.settingMode with
      | nil => simp_all
      | cons other rest => simp [earlier] at setting
    have idle : run.threads.ffi.clearing = false := by
      rw [FfiState.clearing, before, List.any_append, List.any_cons,
        FfiState.not_clearing_of_settingModes_nil noneLeft,
        FfiState.not_clearing_of_settingModes_nil noneRight]
      rfl
    refine ⟨?_, ?_, ?_⟩
    · left
      rw [FfiState.settingModes, after, List.filterMap_append, noneLeft]
      exact noneRight
    · intro outside _
      rw [healingMode] at outside
      rw [pending]
      exact invariant.cleared outside idle
    · intro leaving
      have outside : run.threads.ffi.healingMode ≠ 1 := by
        simp only [leaves, Threads.setReturns, returning, Option.any_some, Bool.or_eq_true,
          bne_iff_ne] at leaving
        rcases leaving with earlier | now
        · exact (invariant.left earlier).1
        · rwa [current]
      rw [healingMode, pending]
      exact ⟨outside, invariant.cleared outside idle⟩

/-- The steps that neither set the mode nor move a call or the monitor task. -/
theorem Invariant.stay {run : ModeRun} (invariant : run.Invariant) {action : ThreadAction}
    {threads : Threads} (kept : run.threads.ffi.Keeps threads.ffi)
    (unchanged : run.leaves action = run.leftCoPilot) :
    Invariant ⟨threads, run.leaves action⟩ := by
  rw [unchanged]
  exact invariant.keep kept

theorem Invariant.step {run next : ModeRun} {action : ThreadAction} (invariant : run.Invariant)
    (ok : run.StoresBeforeClearing action) (stepped : run.step action = some next) :
    next.Invariant := by
  obtain ⟨threads, moved, rfl⟩ := Option.map_eq_some_iff.mp stepped
  have silent : run.threads.setReturns action = none →
      (∀ mode, action ≠ .setHealingMode mode) → run.leaves action = run.leftCoPilot := by
    intro none_ other
    cases action <;> simp_all [leaves]
  cases action with
  | advance =>
      rw [silent rfl (by simp)]
      exact invariant.advance ok moved
  | resume index => exact invariant.resume moved
  | setHealingMode mode =>
      cases moved
      exact invariant.setHealingMode mode ok
  | _ => exact invariant.stay (Threads.keeps_step moved nofun nofun nofun) (silent rfl nofun)

theorem exec_invariant {run finish : ModeRun} {actions : List ThreadAction}
    (invariant : run.Invariant) (ok : Machine.Along step StoresBeforeClearing run actions)
    (executed : Machine.exec step run actions = some finish) : finish.Invariant :=
  Machine.exec_invariant_along
    (fun _ _ _ invariant ok stepped => invariant.step ok stepped) invariant ok executed

/-- Once a call that left the CoPilot mode has returned, nothing can be approved. -/
theorem pendingStore_empty_outside_coPilot (mode : UInt32) (rules : Option ParsedRules)
    (clock : Nat) (actions : List ThreadAction) (run : ModeRun)
    (ok : Machine.Along step StoresBeforeClearing (start mode rules clock) actions)
    (executed : Machine.exec step (start mode rules clock) actions = some run)
    (left : run.leftCoPilot = true) :
    run.threads.ffi.pendingActions.keys = [] ∧
      ∀ id, (run.threads.ffi.rjActionApprove id).2 = 0 := by
  have invariant := exec_invariant (invariant_start mode rules clock) ok executed
  have empty := (invariant.left left).2
  refine ⟨empty, ?_⟩
  intro id
  have absent : run.threads.ffi.pendingActions.lookup id = none := by
    by_contra present
    obtain ⟨entry, found⟩ := Option.ne_none_iff_exists'.mp present
    have member := PendingStore.mem_keys_iff.mpr ⟨entry, found⟩
    rw [empty] at member
    cases member
  rcases run.threads.ffi.rjActionApprove_cases id with ⟨_, same⟩ | ⟨_, _, found, _⟩ | ⟨_, found, _⟩
  · rw [same]
  · rw [absent] at found
    cases found
  · rw [absent] at found
    cases found

/-- A tick on a metric that triggers a rule, up to the routing of its action. -/
def evaluateRun : List ThreadAction :=
  [.receiveMedia (.frameDropPct 20), .advance, .tick] ++ List.replicate 6 .advance

/-- The manual mode is set; the call clears the store and returns. -/
def leaveRun : List ThreadAction := [.setHealingMode 3, .resume 0, .resume 0]

def storedRun : List ThreadAction :=
  evaluateRun ++ [.advance, .setHealingMode 3] ++ List.replicate 4 (.resume 1)

theorem pendingStore_empty_outside_coPilot_stored :
    ∃ run, Machine.exec step (start 1 (some templateRules) 0) storedRun = some run ∧
      run.leftCoPilot = true ∧ run.threads.ffi.pendingActions.keys = [] := by
  have ok : Machine.Along step StoresBeforeClearing (start 1 (some templateRules) 0)
      storedRun := by
    decide +kernel
  have leaving : (Machine.exec step (start 1 (some templateRules) 0) storedRun).map leftCoPilot =
      some true := by
    decide +kernel
  obtain ⟨run, executed, left⟩ := Option.map_eq_some_iff.mp leaving
  exact ⟨run, executed, left,
    (pendingStore_empty_outside_coPilot 1 (some templateRules) 0 storedRun run ok executed left).1⟩

/-- The store is cleared between the evaluation of a tick and its routing. -/
theorem routing_stores_outside_coPilot :
    ∃ run, Machine.exec step (start 1 (some templateRules) 0)
        (evaluateRun ++ leaveRun ++ [.advance]) = some run ∧
      run.leftCoPilot = true ∧ run.threads.ffi.healingMode = 3 ∧
      run.threads.ffi.pendingActions.keys = [1] ∧
      (run.threads.ffi.rjActionApprove 1).2 = 1 :=
  ⟨(Machine.exec step (start 1 (some templateRules) 0)
    (evaluateRun ++ leaveRun ++ [.advance])).get (by decide +kernel),
    (Option.some_get _).symm, by decide +kernel⟩

end ModeRun

end RejiStudio.Orchestrator
