import RejiStudio.Lib.Machine
import RejiStudio.Srt.SrtOutput

/-!
# The count of instances

An `init` that fails behind `acquire` keeps the count, a `shutdown` releases it once for
each object and whether or not an `init` took it.  The registry counts the initialised
instances as long as every release meets the `acquire` it belongs to.
-/

namespace RejiStudio.Srt

open RejiStudio.Lib

inductive Call where
  | init (cfg : Config) (answers : InitAnswers)
  | shutdown
  | destroy

/-- The calls that may come from anywhere in the process, on any of its outputs. -/
inductive Action where
  | create
  | call (index : Nat) (call : Call)

/-- The outputs by the order of their construction; none is one that was destroyed. -/
structure Process where
  registry : Registry
  instances : List (Option Impl)
  deriving DecidableEq

/-- `opened` is an `init` that returned true, `cleanedUp` a call of `srt_cleanup`. -/
structure Outcome where
  opened : Bool
  cleanedUp : Bool
  deriving DecidableEq

def Impl.perform (impl : Impl) (registry : Registry) (autoStart : Bool) : Call → Called
  | .init cfg answers => impl.initInternal registry autoStart cfg answers
  | .shutdown => impl.shutdown registry
  | .destroy => impl.destroy registry

def Call.remains : Call → Impl → Option Impl
  | .destroy, _ => none
  | _, impl => some impl

namespace Process

def start : Process := ⟨.fresh, []⟩

def live (process : Process) (index : Nat) : Option Impl := process.instances[index]?.join

def initialised (process : Process) : Nat :=
  process.instances.countP fun slot => slot.any Impl.initialized

def perform (autoStart : Bool) (process : Process) : Action → Option (Process × Outcome)
  | .create =>
      some ({ process with instances := process.instances ++ [some .fresh] }, ⟨false, false⟩)
  | .call index call =>
      (process.live index).map fun impl =>
        let called := impl.perform process.registry autoStart call
        (⟨called.registry, process.instances.set index (call.remains called.impl)⟩,
          ⟨called.opened, called.cleanedUp⟩)

def step (autoStart : Bool) : Machine Process Action := fun process action =>
  (process.perform autoStart action).map Prod.fst

def Counts (process : Process) : Prop := process.registry.ref = process.initialised

instance (process : Process) : Decidable process.Counts := inferInstanceAs (Decidable (_ = _))

/-- After the action the count is right, none of the outputs is initialised if it cleaned
up the library, and the library is started if it was an `init` that returned true. -/
def Sound (autoStart : Bool) (process : Process) (action : Action) : Prop :=
  ∀ next outcome, process.perform autoStart action = some (next, outcome) →
    next.Counts ∧ (outcome.cleanedUp = true → next.initialised = 0) ∧
      (outcome.opened = true → next.registry.started = true)

end Process

/-- An `init` that takes the count goes on to succeed, on a library that runs or that a
socket starts.  A release by `shutdown` belongs to an `init`: the output is initialised and
was not cleaned up before, or it is not and nothing is released. -/
def Impl.Orderly (impl : Impl) (registry : Registry) (autoStart : Bool) : Call → Prop
  | .init cfg answers =>
      impl.Acquires registry cfg answers → answers.Opens cfg ∧
        ((registry.callOnce answers.startup).started = true ∨ autoStart = true)
  | .shutdown | .destroy => impl.initialized = (registry.ok && !impl.alreadyCleanedUp)

def Process.Orderly (autoStart : Bool) (process : Process) : Action → Prop
  | .create => True
  | .call index call =>
      ∀ impl, process.live index = some impl → impl.Orderly process.registry autoStart call

instance (impl : Impl) (registry : Registry) (autoStart : Bool) (call : Call) :
    Decidable (impl.Orderly registry autoStart call) :=
  match call with
  | .init cfg answers => inferInstanceAs (Decidable (impl.Acquires registry cfg answers → _))
  | .shutdown | .destroy => inferInstanceAs (Decidable (_ = _))

instance (autoStart : Bool) (process : Process) (action : Action) :
    Decidable (process.Orderly autoStart action) :=
  match action with
  | .create => isTrue trivial
  | .call index call =>
      match alive : process.live index with
      | none => isTrue (by simp [Process.Orderly, alive])
      | some impl =>
          decidable_of_iff (impl.Orderly process.registry autoStart call)
            (by simp [Process.Orderly, alive])

/-! ## One call -/

/-- What `called` did to the count agrees with what it did to the output. -/
def Called.Balanced (called : Called) (impl : Impl) (registry : Registry) : Prop :=
  called.registry.ref + impl.initialized.toInt = registry.ref + called.impl.initialized.toInt

namespace Impl

variable {impl : Impl} {registry : Registry} {autoStart : Bool}

theorem initInternal_skips {cfg : Config} {answers : InitAnswers}
    (skips : ¬ impl.Acquires registry cfg answers) :
    (impl.initInternal registry autoStart cfg answers).impl = impl ∧
      (impl.initInternal registry autoStart cfg answers).registry.ref = registry.ref ∧
      (impl.initInternal registry autoStart cfg answers).opened = false ∧
      (impl.initInternal registry autoStart cfg answers).cleanedUp = false ∧
      (registry.ok = true →
        (impl.initInternal registry autoStart cfg answers).registry.ok = true) := by
  unfold initInternal
  cases inUse : impl.initialized with
  | true => exact ⟨rfl, rfl, rfl, rfl, id⟩
  | false =>
      cases lostSink : cfg.onConnectionLost with
      | false => exact ⟨rfl, rfl, rfl, rfl, id⟩
      | true =>
          cases metricsSink : cfg.onMetrics with
          | false => exact ⟨rfl, rfl, rfl, rfl, id⟩
          | true =>
              cases com : answers.comInit with
              | false => exact ⟨rfl, rfl, rfl, rfl, id⟩
              | true =>
                  have failed : (registry.callOnce answers.startup).ok = false := by
                    apply Bool.eq_false_iff.mpr
                    intro held
                    exact skips ⟨inUse, lostSink, metricsSink, com, held⟩
                  rw [registry.acquire_of_not_ok failed]
                  refine ⟨rfl, registry.callOnce_ref _, rfl, rfl, ?_⟩
                  intro held
                  rw [registry.callOnce_ok _ held, held] at failed
                  exact absurd failed nofun

theorem initInternal_acquires {cfg : Config} {answers : InitAnswers}
    (acquires : impl.Acquires registry cfg answers) :
    impl.initInternal registry autoStart cfg answers =
      ⟨((impl.configure cfg).openSocket answers).1,
        { registry.callOnce answers.startup with
          ref := registry.ref + 1
          started := (registry.callOnce answers.startup).started || autoStart },
        ((impl.configure cfg).openSocket answers).2, false⟩ := by
  obtain ⟨inUse, lostSink, metricsSink, com, held⟩ := acquires
  rw [initInternal, registry.acquire_of_ok held]
  simp [inUse, lostSink, metricsSink, com, Registry.createSocket]

@[simp]
theorem prepareShutdown_initialized : impl.prepareShutdown.initialized = false := by
  unfold prepareShutdown
  cases inUse : impl.initialized with
  | true => rfl
  | false => exact inUse

@[simp]
theorem prepareShutdown_alreadyCleanedUp :
    impl.prepareShutdown.alreadyCleanedUp = impl.alreadyCleanedUp := by
  unfold prepareShutdown
  split <;> rfl

theorem doSehCleanup_impl :
    (impl.doSehCleanup registry).impl.initialized = impl.initialized ∧
      (impl.doSehCleanup registry).opened = false := by
  unfold doSehCleanup
  split
  · exact ⟨rfl, rfl⟩
  · dsimp only
    split <;> exact ⟨rfl, rfl⟩

/-- One release for each output, and `srt_cleanup` where it was the last. -/
theorem doSehCleanup_registry :
    (impl.doSehCleanup registry).registry.ref =
        registry.ref - (registry.ok && !impl.alreadyCleanedUp).toInt ∧
      (impl.doSehCleanup registry).registry.ok = registry.ok ∧
      ((impl.doSehCleanup registry).cleanedUp = true →
        (impl.doSehCleanup registry).registry.ref = 0) := by
  unfold doSehCleanup
  cases cleaned : impl.alreadyCleanedUp with
  | true => simp
  | false =>
      simp only [Bool.false_eq_true, if_false, Bool.not_false, Bool.and_true]
      rw [← registry.release_ref]
      split
      · rename_i last
        exact ⟨rfl, registry.release_ok, fun _ => last⟩
      · exact ⟨rfl, registry.release_ok, nofun⟩

@[simp]
theorem shutdown_initialized : (impl.shutdown registry).impl.initialized = false := by
  rw [shutdown, doSehCleanup_impl.1]
  exact prepareShutdown_initialized

theorem destroy_eq_shutdown : impl.destroy registry = impl.shutdown registry := by
  simp [destroy]

theorem shutdown_ref : (impl.shutdown registry).registry.ref =
    registry.ref - (registry.ok && !impl.alreadyCleanedUp).toInt := by
  rw [shutdown, doSehCleanup_registry.1, prepareShutdown_alreadyCleanedUp]

/-- The shutdown is balanced when it releases exactly what the output took. -/
theorem shutdown_balanced_iff :
    (impl.shutdown registry).Balanced impl registry ↔
      impl.initialized = (registry.ok && !impl.alreadyCleanedUp) := by
  unfold Called.Balanced
  rw [shutdown_ref, shutdown_initialized]
  generalize (registry.ok && !impl.alreadyCleanedUp) = released
  have unset : false.toInt = 0 := rfl
  have set : true.toInt = 1 := rfl
  cases impl.initialized <;> cases released
  · exact iff_of_true (by omega) rfl
  · exact iff_of_false (by omega) nofun
  · exact iff_of_false (by omega) nofun
  · exact iff_of_true (by omega) rfl

theorem initInternal_balanced_iff {cfg : Config} {answers : InitAnswers} :
    (impl.initInternal registry autoStart cfg answers).Balanced impl registry ↔
      (impl.Acquires registry cfg answers → answers.Opens cfg) := by
  unfold Called.Balanced
  by_cases acquires : impl.Acquires registry cfg answers
  · rw [initInternal_acquires acquires]
    simp only [acquires, forall_const]
    by_cases opens : answers.Opens cfg
    · rw [(@openSocket_opens (impl.configure cfg) _ opens).2, acquires.1]
      simp [opens]
    · rw [(@openSocket_fails (impl.configure cfg) _ opens).2, configure_initialized,
        acquires.1]
      refine iff_of_false ?_ opens
      omega
  · obtain ⟨sameImpl, sameRef, _⟩ := @initInternal_skips _ _ autoStart _ _ acquires
    rw [sameImpl, sameRef]
    simp [acquires]

theorem initInternal_opened {cfg : Config} {answers : InitAnswers} :
    (impl.initInternal registry autoStart cfg answers).opened = true ↔
      impl.Acquires registry cfg answers ∧ answers.Opens cfg := by
  by_cases acquires : impl.Acquires registry cfg answers
  · rw [initInternal_acquires acquires]
    by_cases opens : answers.Opens cfg
    · simp [acquires, opens, (@openSocket_opens (impl.configure cfg) _ opens).1]
    · simp [opens, (@openSocket_fails (impl.configure cfg) _ opens).1]
  · simp [acquires, (initInternal_skips acquires).2.2.1]

theorem perform_cleanedUp {call : Call}
    (cleaned : (impl.perform registry autoStart call).cleanedUp = true) :
    (impl.perform registry autoStart call).registry.ref = 0 := by
  cases call with
  | init cfg answers =>
      have untouched : (impl.initInternal registry autoStart cfg answers).cleanedUp = false := by
        by_cases acquires : impl.Acquires registry cfg answers
        · rw [initInternal_acquires acquires]
        · exact (initInternal_skips acquires).2.2.2.1
      rw [perform, untouched] at cleaned
      exact absurd cleaned nofun
  | shutdown => exact doSehCleanup_registry.2.2 cleaned
  | destroy =>
      rw [perform, destroy_eq_shutdown] at cleaned ⊢
      exact doSehCleanup_registry.2.2 cleaned

/-- A call is orderly when it keeps the balance and opens no output on a library that is
not started. -/
theorem orderly_iff {call : Call} :
    impl.Orderly registry autoStart call ↔
      (impl.perform registry autoStart call).Balanced impl registry ∧
        ((impl.perform registry autoStart call).opened = true →
          (impl.perform registry autoStart call).registry.started = true) := by
  cases call with
  | init cfg answers =>
      rw [perform, initInternal_balanced_iff, initInternal_opened, Orderly]
      by_cases acquires : impl.Acquires registry cfg answers
      · rw [initInternal_acquires acquires]
        simp only [acquires, forall_const, true_and, Bool.or_eq_true]
        constructor
        · rintro ⟨opens, runs⟩
          exact ⟨opens, fun _ => runs⟩
        · rintro ⟨opens, runs⟩
          exact ⟨opens, runs opens⟩
      · simp [acquires]
  | shutdown =>
      have quiet : (impl.shutdown registry).opened = false := doSehCleanup_impl.2
      simp [perform, shutdown_balanced_iff, quiet, Orderly]
  | destroy =>
      have quiet : (impl.shutdown registry).opened = false := doSehCleanup_impl.2
      simp [perform, destroy_eq_shutdown, shutdown_balanced_iff, quiet, Orderly]

theorem perform_remains (call : Call) :
    (call.remains (impl.perform registry autoStart call).impl).any Impl.initialized =
      (impl.perform registry autoStart call).impl.initialized := by
  cases call with
  | init _ _ => rfl
  | shutdown => rfl
  | destroy =>
      rw [perform, destroy_eq_shutdown, shutdown_initialized]
      rfl

end Impl

/-! ## The process -/

namespace Process

variable {process next : Process} {autoStart : Bool} {outcome : Outcome}

theorem live_cases {index : Nat} {impl : Impl} (alive : process.live index = some impl) :
    ∃ bound : index < process.instances.length, process.instances[index] = some impl := by
  exact List.getElem?_eq_some_iff.mp (Option.join_eq_some_iff.mp alive)

theorem initialised_set {index : Nat} {impl : Impl} (alive : process.live index = some impl)
    (registry : Registry) (slot : Option Impl) :
    ((⟨registry, process.instances.set index slot⟩ : Process).initialised : Int) +
        impl.initialized.toInt =
      process.initialised + (slot.any Impl.initialized).toInt := by
  obtain ⟨bound, found⟩ := live_cases alive
  have positive : impl.initialized = true → 0 < process.initialised := by
    intro inUse
    apply List.countP_pos_iff.mpr
    exact ⟨some impl, found ▸ List.getElem_mem bound, inUse⟩
  unfold initialised at positive ⊢
  rw [List.countP_set bound, found]
  cases inUse : impl.initialized with
  | false => cases slot.any Impl.initialized <;> simp [inUse]
  | true =>
      have := positive inUse
      cases slot.any Impl.initialized <;> simp [inUse] <;> omega

theorem perform_call {index : Nat} {call : Call}
    (performed : process.perform autoStart (.call index call) = some (next, outcome)) :
    ∃ impl, process.live index = some impl ∧
      next = ⟨(impl.perform process.registry autoStart call).registry,
        process.instances.set index
          (call.remains (impl.perform process.registry autoStart call).impl)⟩ ∧
      outcome = ⟨(impl.perform process.registry autoStart call).opened,
        (impl.perform process.registry autoStart call).cleanedUp⟩ := by
  obtain ⟨impl, alive, made⟩ := Option.map_eq_some_iff.mp performed
  cases made
  exact ⟨impl, alive, rfl, rfl⟩

theorem counts_start : start.Counts := rfl

theorem create_counts (counts : process.Counts) :
    Counts { process with instances := process.instances ++ [some .fresh] } := by
  unfold Counts initialised at counts ⊢
  rw [List.countP_append, counts]
  rfl

/-- From a right count, a call keeps it right exactly when it is balanced. -/
theorem call_counts_iff (counts : process.Counts) {index : Nat} {impl : Impl}
    (alive : process.live index = some impl) (call : Call) :
    Counts ⟨(impl.perform process.registry autoStart call).registry,
        process.instances.set index
          (call.remains (impl.perform process.registry autoStart call).impl)⟩ ↔
      (impl.perform process.registry autoStart call).Balanced impl process.registry := by
  have moved := initialised_set alive (impl.perform process.registry autoStart call).registry
    (call.remains (impl.perform process.registry autoStart call).impl)
  rw [Impl.perform_remains] at moved
  unfold Counts at counts ⊢
  unfold Called.Balanced
  dsimp only
  omega

/-- The step lemma: from a right count the orderly actions are the sound ones. -/
theorem orderly_iff_sound (counts : process.Counts) (action : Action) :
    process.Orderly autoStart action ↔ process.Sound autoStart action := by
  cases action with
  | create =>
      refine iff_of_true trivial ?_
      intro next outcome performed
      cases performed
      exact ⟨create_counts counts, nofun, nofun⟩
  | call index call =>
      constructor
      · intro orderly next outcome performed
        obtain ⟨impl, alive, rfl, rfl⟩ := perform_call performed
        obtain ⟨balanced, runs⟩ := Impl.orderly_iff.mp (orderly impl alive)
        have kept := (call_counts_iff counts alive call).mpr balanced
        refine ⟨kept, ?_, runs⟩
        intro cleaned
        have none_left := Impl.perform_cleanedUp cleaned
        unfold Counts at kept
        dsimp only at kept
        omega
      · intro sound impl alive
        obtain ⟨kept, _, runs⟩ := sound _ _ (by rw [perform, alive, Option.map_some])
        exact Impl.orderly_iff.mpr ⟨(call_counts_iff counts alive call).mp kept, runs⟩

theorem sound_counts {action : Action} (sound : process.Sound autoStart action)
    (stepped : step autoStart process action = some next) : next.Counts := by
  obtain ⟨⟨reached, outcome⟩, performed, rfl⟩ := Option.map_eq_some_iff.mp stepped
  exact (sound reached outcome performed).1

/-- In every run the count, the cleanups and the library are as they should be at each
action exactly when every action is orderly. -/
theorem instances_counted_iff_orderly {autoStart : Bool} {actions : List Action}
    {finish : Process} (executed : Machine.exec (step autoStart) start actions = some finish) :
    Machine.Along (step autoStart) (Orderly autoStart) start actions ↔
      Machine.Along (step autoStart) (Sound autoStart) start actions := by
  have preserved : ∀ (process : Process) (action : Action) (next : Process),
      process.Counts → process.Orderly autoStart action →
        step autoStart process action = some next → next.Counts := by
    intro process action next counts orderly stepped
    exact sound_counts ((orderly_iff_sound counts action).mp orderly) stepped
  have agree : ∀ (process : Process) (action : Action) (next : Process),
      process.Counts → step autoStart process action = some next →
        (process.Orderly autoStart action ↔ process.Sound autoStart action) := by
    intro process action next counts _
    exact orderly_iff_sound counts action
  exact Machine.along_congr preserved agree counts_start executed

/-- Answers that let an `init` succeed. -/
def granted (socket epoll : Nat) : InitAnswers where
  comInit := true
  startup := true
  createSocket := some socket
  setsockopt := fun _ => true
  inetPton := true
  connect := some .easyncsnd
  bind := true
  listen := true
  epollCreate := some epoll
  epollAddUsock := true

/-- A caller and a listener share the library; a second `shutdown` releases nothing. -/
def pairOfOutputs : List Action :=
  [.create, .call 0 (.init ⟨true, 6000, true, true⟩ (granted 1 1)), .create,
    .call 1 (.init ⟨false, 6000, true, true⟩ (granted 2 2)), .call 0 .shutdown,
    .call 0 .shutdown, .call 0 .destroy, .call 1 .destroy]

theorem instances_counted_pairOfOutputs :
    ∃ finish, Machine.exec (step false) start pairOfOutputs = some finish ∧
      Machine.Along (step false) (Sound false) start pairOfOutputs := by
  have observed : (Machine.exec (step false) start pairOfOutputs).map
      (fun finish => finish.registry) = some ⟨some true, 0, false⟩ := by
    decide
  obtain ⟨finish, executed, _⟩ := Option.map_eq_some_iff.mp observed
  have orderly : Machine.Along (step false) (Orderly false) start pairOfOutputs := by decide
  exact ⟨finish, executed, (instances_counted_iff_orderly executed).mp orderly⟩

/-- An output that was never initialised is destroyed beside one that streams. -/
def idleOutput : List Action :=
  [.create, .call 0 (.init ⟨true, 6000, true, true⟩ (granted 1 1)), .create, .call 1 .destroy]

/-- The library is cleaned up under the output that streams. -/
theorem idle_destroy_cleans_up :
    (∃ before next, Machine.exec (step true) start (idleOutput.take 3) = some before ∧
      before.perform true (.call 1 .destroy) = some (next, ⟨false, true⟩) ∧
      next.initialised = 1 ∧ next.registry.ref = 0 ∧ next.registry.started = false) ∧
      ¬ Machine.Along (step true) (Sound true) start idleOutput := by
  refine ⟨⟨_, _, rfl, rfl, by decide, by decide, by decide⟩, ?_⟩
  intro along
  have afterInit := (along.2 _ rfl).2 _ rfl
  have counted := ((afterInit.2 _ rfl).1 _ _ rfl).1
  revert counted
  decide

end Process

end RejiStudio.Srt
