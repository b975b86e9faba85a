import RejiStudio.Lib.Machine
import RejiStudio.Gpu.CopyOptimizer

/-!
# Values of the timeline semaphore

`shutdown` resets the counter of submissions but not the value that the last of them
signals, and `init` resets neither, though it makes a new semaphore.  The bookkeeping
holds as long as no submission was made before a semaphore is.
-/

namespace RejiStudio.Gpu

open RejiStudio.Lib

namespace CopyOptimizer

inductive Action where
  | init (device queue physDevice : Option Nat) (outcome : InitOutcome)
  | executeCopy (args : CopyArgs) (outcome : CopyOutcome)
  | clearGlSignal (slot : Slot)
  | shutdown

def perform (optimizer : CopyOptimizer) : Action → CopyOptimizer
  | .init device queue physDevice outcome => (optimizer.init device queue physDevice outcome).1
  | .executeCopy args outcome => (optimizer.executeCopy args outcome).1
  | .clearGlSignal slot => optimizer.clearGlSignal slot
  | .shutdown => optimizer.shutdown

def step : Machine CopyOptimizer Action := fun optimizer action => some (optimizer.perform action)

def waits (optimizer : CopyOptimizer) : Action → Option Wait
  | .init device queue physDevice outcome => optimizer.initWait device queue physDevice outcome
  | .executeCopy args outcome => optimizer.copyWait args outcome
  | .clearGlSignal _ => none
  | .shutdown => optimizer.shutdownWait

/-- A submission signals `signal_value_for_submit_` on the current semaphore. -/
def Bounded (optimizer : CopyOptimizer) : Prop :=
  ∀ semaphore, optimizer.timelineSemaphore = some semaphore →
    optimizer.signalValueForSubmit.toNat ≤ semaphore.largest

/-- A call waits for a value that was submitted for signalling, and it leaves such a
value for the next wait. -/
def WaitsServed (optimizer : CopyOptimizer) (action : Action) : Prop :=
  (∀ wait, optimizer.waits action = some wait → wait.Served) ∧
    (optimizer.perform action).Bounded

/-- The handles of an `init` that gets past their check. -/
def Given (device queue physDevice : Option Nat) : Prop :=
  device.isSome = true ∧ queue.isSome = true ∧ physDevice.isSome = true

/-- The calls of an `init` up to its semaphore succeed. -/
def MakesSemaphore (outcome : InitOutcome) : Prop :=
  outcome.createCommandPool = true ∧ outcome.allocateCommandBuffers = true ∧
    outcome.createSemaphore = true

/-- The init makes a semaphore and keeps it, or waits for it in the `shutdown` of a path
that fails. -/
def Renews (optimizer : CopyOptimizer) (device queue physDevice : Option Nat)
    (outcome : InitOutcome) : Prop :=
  Given device queue physDevice ∧ MakesSemaphore outcome ∧
    (if outcome.getSemaphoreCounterValue = true then outcome.waitSemaphores
      else optimizer.pfnWaitSemaphores) = true

def Unsubmitted (optimizer : CopyOptimizer) : Action → Prop
  | .init device queue physDevice outcome =>
      optimizer.Renews device queue physDevice outcome → optimizer.signalValueForSubmit = 0
  | _ => True

/-! ## The invariant -/

/-- The counter and the value to signal are submitted values; they differ only after a
`shutdown`. -/
structure Counted (optimizer : CopyOptimizer) : Prop where
  ready : optimizer.device.isSome = true → optimizer.timelineSemaphore.isSome = true
  bounded : optimizer.Bounded
  counter : optimizer.timelineCounter = optimizer.signalValueForSubmit ∨
    optimizer.timelineCounter = 0

theorem counted_start : start.Counted where
  ready := nofun
  bounded := nofun
  counter := .inr rfl

theorem Counted.counter_le {optimizer : CopyOptimizer} (counted : optimizer.Counted)
    {semaphore : TimelineSemaphore} (current : optimizer.timelineSemaphore = some semaphore) :
    optimizer.timelineCounter.toNat ≤ semaphore.largest := by
  rcases counted.counter with same | reset
  · rw [same]
    exact counted.bounded semaphore current
  · rw [reset]
    exact Nat.zero_le _

theorem Bounded.served {optimizer : CopyOptimizer} (bounded : optimizer.Bounded)
    (live : optimizer.timelineSemaphore.isSome = true) :
    Wait.Served ⟨optimizer.timelineSemaphore, optimizer.signalValueForSubmit⟩ := by
  obtain ⟨semaphore, current⟩ := Option.isSome_iff_exists.mp live
  exact ⟨semaphore, current, bounded semaphore current⟩

theorem Counted.copyWait_served {optimizer : CopyOptimizer} (counted : optimizer.Counted)
    {args : CopyArgs} {outcome : CopyOutcome} {wait : Wait}
    (waited : optimizer.copyWait args outcome = some wait) : wait.Served := by
  unfold copyWait at waited
  obtain ⟨⟨checked, _⟩, made⟩ := Option.ite_none_right_eq_some.mp waited
  obtain ⟨job, accepted⟩ := Option.isSome_iff_exists.mp checked
  cases made
  exact counted.bounded.served (counted.ready (check_device accepted))

theorem shutdownWait_cases {optimizer : CopyOptimizer} {wait : Wait}
    (waited : optimizer.shutdownWait = some wait) :
    0 < optimizer.signalValueForSubmit ∧ optimizer.pfnWaitSemaphores = true ∧
      optimizer.timelineSemaphore.isSome = true ∧
      wait = ⟨optimizer.timelineSemaphore, optimizer.signalValueForSubmit⟩ := by
  unfold shutdownWait at waited
  obtain ⟨_, made⟩ := Option.ite_none_left_eq_some.mp waited
  obtain ⟨⟨submitted, address, live⟩, rfl⟩ := Option.ite_some_none_eq_some.mp made
  exact ⟨submitted, address, live, rfl⟩

theorem Bounded.shutdownWait_served {optimizer : CopyOptimizer} (bounded : optimizer.Bounded)
    {wait : Wait} (waited : optimizer.shutdownWait = some wait) : wait.Served := by
  obtain ⟨_, _, live, rfl⟩ := shutdownWait_cases waited
  exact bounded.served live

theorem Counted.submitted {optimizer : CopyOptimizer} (counted : optimizer.Counted)
    (slot : Slot) (signaled : Option Slot) : (optimizer.count.submitted slot signaled).Counted where
  ready := by
    intro live
    rw [CopyOptimizer.submitted, Option.isSome_map]
    exact counted.ready live
  bounded := by
    intro semaphore current
    obtain ⟨old, _, rfl⟩ := Option.map_eq_some_iff.mp current
    exact Nat.le_max_right _ _
  counter := .inl rfl

theorem Counted.rollBack {optimizer : CopyOptimizer} (counted : optimizer.Counted) :
    optimizer.count.rollBack.Counted := by
  rw [rollBack_count]
  exact ⟨counted.ready, fun _ current => counted.counter_le current, .inl rfl⟩

theorem Counted.executeCopy {optimizer : CopyOptimizer} (counted : optimizer.Counted)
    (args : CopyArgs) (outcome : CopyOutcome) : (optimizer.executeCopy args outcome).1.Counted := by
  unfold CopyOptimizer.executeCopy
  split
  next job checked =>
    rcases optimizer.copy_cases job outcome with ⟨recorded, kept, -⟩ | submitted | failed
    · rw [kept]
      exact counted
    · rw [submitted]
      exact counted.submitted job.slot (optimizer.glSignal job)
    · rw [failed]
      exact counted.rollBack
  next => exact counted

theorem counted_shutdown {optimizer : CopyOptimizer} (live : optimizer.device.isSome = true) :
    optimizer.shutdown.Counted := by
  rw [shutdown, if_neg (Option.isSome_iff_ne_none.mp live)]
  exact ⟨nofun, nofun, .inr rfl⟩

theorem Counted.shutdown {optimizer : CopyOptimizer} (counted : optimizer.Counted) :
    optimizer.shutdown.Counted := by
  by_cases live : optimizer.device.isSome = true
  · exact counted_shutdown live
  · rw [CopyOptimizer.shutdown, if_pos (Option.not_isSome_iff_eq_none.mp live)]
    exact counted

/-! ## Initialisation -/

structure SameTimeline (optimizer other : CopyOptimizer) : Prop where
  timelineSemaphore : other.timelineSemaphore = optimizer.timelineSemaphore
  timelineCounter : other.timelineCounter = optimizer.timelineCounter
  signalValueForSubmit : other.signalValueForSubmit = optimizer.signalValueForSubmit

/-- A set-up stops before the semaphore, or it starts a new timeline with the values at
hand. -/
theorem setUp_cases (optimizer : CopyOptimizer) (device queue : Nat) (outcome : InitOutcome) :
    (¬ MakesSemaphore outcome ∧ (optimizer.setUp device queue outcome).2 = false ∧
      SameTimeline optimizer (optimizer.setUp device queue outcome).1) ∨
    MakesSemaphore outcome ∧
      (optimizer.setUp device queue outcome).2 =
        (outcome.getSemaphoreCounterValue && outcome.waitSemaphores) ∧
      (optimizer.setUp device queue outcome).1.pfnWaitSemaphores =
        (if outcome.getSemaphoreCounterValue = true then outcome.waitSemaphores
          else optimizer.pfnWaitSemaphores) ∧
      SameTimeline { optimizer with timelineSemaphore := some .created }
        (optimizer.setUp device queue outcome).1 := by
  unfold setUp MakesSemaphore
  cases pool : outcome.createCommandPool with
  | false => exact .inl ⟨by simp, rfl, rfl, rfl, rfl⟩
  | true =>
      cases buffers : outcome.allocateCommandBuffers with
      | false => exact .inl ⟨by simp, rfl, rfl, rfl, rfl⟩
      | true =>
          cases semaphore : outcome.createSemaphore with
          | false => exact .inl ⟨by simp, rfl, rfl, rfl, rfl⟩
          | true =>
              right
              cases outcome.getSemaphoreCounterValue with
              | false => exact ⟨⟨rfl, rfl, rfl⟩, rfl, rfl, rfl, rfl, rfl⟩
              | true => exact ⟨⟨rfl, rfl, rfl⟩, rfl, rfl, rfl, rfl, rfl⟩

theorem SameTimeline.bounded {optimizer other : CopyOptimizer}
    (same : SameTimeline optimizer other) (bounded : optimizer.Bounded) : other.Bounded := by
  intro semaphore current
  rw [same.signalValueForSubmit]
  exact bounded semaphore (same.timelineSemaphore.symm.trans current)

/-- `init` does nothing, succeeds with its set-up or shuts a failed set-up down. -/
theorem init_cases (optimizer : CopyOptimizer) (device queue physDevice : Option Nat)
    (outcome : InitOutcome) :
    (¬ Given device queue physDevice ∧
      optimizer.init device queue physDevice outcome = (optimizer, false) ∧
      optimizer.initWait device queue physDevice outcome = none) ∨
    ∃ d q, (device = some d ∧ queue = some q ∧ physDevice.isSome = true) ∧
      ((optimizer.setUp d q outcome).2 = true ∧
          (optimizer.init device queue physDevice outcome).1 = (optimizer.setUp d q outcome).1 ∧
          optimizer.initWait device queue physDevice outcome = none ∨
        (optimizer.setUp d q outcome).2 = false ∧
          (optimizer.init device queue physDevice outcome).1 =
            (optimizer.setUp d q outcome).1.shutdown ∧
          optimizer.initWait device queue physDevice outcome =
            (optimizer.setUp d q outcome).1.shutdownWait) := by
  cases device with
  | none => exact .inl ⟨fun given => Bool.noConfusion given.1, rfl, rfl⟩
  | some d =>
      cases queue with
      | none => exact .inl ⟨fun given => Bool.noConfusion given.2.1, rfl, rfl⟩
      | some q =>
          cases physDevice with
          | none => exact .inl ⟨fun given => Bool.noConfusion given.2.2, rfl, rfl⟩
          | some p =>
              refine .inr ⟨d, q, ⟨rfl, rfl, rfl⟩, ?_⟩
              unfold init initWait
              cases made : optimizer.setUp d q outcome with
              | mk ready ok =>
                  cases ok with
                  | true => exact .inl ⟨rfl, by simp [made], by simp [made]⟩
                  | false => exact .inr ⟨rfl, by simp [made], by simp [made]⟩

/-- With nothing submitted before, a new timeline starts with both values at 0. -/
theorem Counted.renewed {optimizer other : CopyOptimizer} (counted : optimizer.Counted)
    (fresh : optimizer.signalValueForSubmit = 0)
    (same : SameTimeline { optimizer with timelineSemaphore := some .created } other) :
    other.Counted := by
  have signal : other.signalValueForSubmit = 0 := same.signalValueForSubmit.trans fresh
  have counter : other.timelineCounter = 0 := by
    rw [same.timelineCounter]
    rcases counted.counter with same | reset
    · exact same.trans fresh
    · exact reset
  refine ⟨fun _ => ?_, fun semaphore _ => ?_, .inr counter⟩
  · rw [same.timelineSemaphore]
    rfl
  · rw [signal]
    exact Nat.zero_le _

theorem Counted.init {optimizer : CopyOptimizer} (counted : optimizer.Counted)
    {device queue physDevice : Option Nat} {outcome : InitOutcome}
    (unsubmitted : optimizer.Renews device queue physDevice outcome →
      optimizer.signalValueForSubmit = 0) :
    (∀ wait, optimizer.initWait device queue physDevice outcome = some wait → wait.Served) ∧
      (optimizer.init device queue physDevice outcome).1.Counted := by
  rcases optimizer.init_cases device queue physDevice outcome with
    ⟨-, kept, silent⟩ | ⟨d, q, given, ends⟩
  · rw [kept, silent]
    exact ⟨nofun, counted⟩
  have handles : Given device queue physDevice := by
    obtain ⟨rfl, rfl, present⟩ := given
    exact ⟨rfl, rfl, present⟩
  have live := Option.isSome_of_eq_some (optimizer.setUp_device d q outcome)
  rcases optimizer.setUp_cases d q outcome with
    ⟨-, failed, same⟩ | ⟨made, ok, waitSemaphores, same⟩
  · rcases ends with ⟨succeeded, -⟩ | ⟨-, after, waited⟩
    · exact absurd (succeeded.symm.trans failed) Bool.noConfusion
    · rw [after, waited]
      exact ⟨fun _ => (same.bounded counted.bounded).shutdownWait_served, counted_shutdown live⟩
  · rcases ends with ⟨succeeded, after, silent⟩ | ⟨-, after, waited⟩
    · rw [succeeded, eq_comm, Bool.and_eq_true] at ok
      have fresh := unsubmitted ⟨handles, made, (if_pos ok.1).trans ok.2⟩
      rw [after, silent]
      exact ⟨nofun, counted.renewed fresh same⟩
    · rw [after, waited]
      refine ⟨?_, counted_shutdown live⟩
      intro wait waits
      apply Bounded.shutdownWait_served _ waits
      have address := (shutdownWait_cases waits).2.1
      rw [waitSemaphores] at address
      exact (counted.renewed (unsubmitted ⟨handles, made, address⟩) same).bounded

/-- A new timeline with a value left over from before: the init ends with it or waits
for it. -/
theorem fresh_of_waitsServed {optimizer : CopyOptimizer} {device queue physDevice : Option Nat}
    {outcome : InitOutcome}
    (served : optimizer.WaitsServed (.init device queue physDevice outcome))
    (renews : optimizer.Renews device queue physDevice outcome) :
    optimizer.signalValueForSubmit = 0 := by
  obtain ⟨handles, made, address⟩ := renews
  obtain ⟨waits, bounded⟩ := served
  rcases optimizer.init_cases device queue physDevice outcome with
    ⟨absent, -⟩ | ⟨d, q, -, ends⟩
  · exact absurd handles absent
  rcases optimizer.setUp_cases d q outcome with ⟨unmade, -⟩ | ⟨-, ok, waitSemaphores, same⟩
  · exact absurd made unmade
  have zero : (optimizer.setUp d q outcome).1.signalValueForSubmit.toNat ≤ 0 := by
    rcases ends with ⟨-, after, -⟩ | ⟨failed, -, waited⟩
    · dsimp only [perform] at bounded
      rw [after] at bounded
      exact bounded .created same.timelineSemaphore
    · by_contra positive
      have pending : (optimizer.setUp d q outcome).1.shutdownWait =
          some ⟨some .created, (optimizer.setUp d q outcome).1.signalValueForSubmit⟩ := by
        have submitted : 0 < (optimizer.setUp d q outcome).1.signalValueForSubmit :=
          UInt64.lt_iff_toNat_lt.mpr (Nat.lt_of_not_le positive)
        rw [shutdownWait, if_neg (by simp [setUp_device]), if_pos, same.timelineSemaphore]
        exact ⟨submitted, waitSemaphores.trans address, by rw [same.timelineSemaphore]; rfl⟩
      obtain ⟨semaphore, current, enough⟩ := waits _ (waited.trans pending)
      cases current
      exact positive enough
  rw [same.signalValueForSubmit] at zero
  exact UInt64.toNat_inj.mp (Nat.le_zero.mp zero)

/-! ## Whole runs -/

theorem Counted.perform {optimizer : CopyOptimizer} (counted : optimizer.Counted)
    {action : Action} (unsubmitted : optimizer.Unsubmitted action) :
    (∀ wait, optimizer.waits action = some wait → wait.Served) ∧
      (optimizer.perform action).Counted := by
  cases action with
  | init device queue physDevice outcome => exact counted.init unsubmitted
  | executeCopy args outcome =>
      exact ⟨fun _ => counted.copyWait_served, counted.executeCopy args outcome⟩
  | clearGlSignal slot => exact ⟨nofun, counted.ready, counted.bounded, counted.counter⟩
  | shutdown => exact ⟨fun _ => counted.bounded.shutdownWait_served, counted.shutdown⟩

theorem unsubmitted_of_waitsServed {optimizer : CopyOptimizer} {action : Action}
    (served : optimizer.WaitsServed action) : optimizer.Unsubmitted action := by
  cases action with
  | init device queue physDevice outcome => exact fresh_of_waitsServed served
  | executeCopy args outcome => exact trivial
  | clearGlSignal slot => exact trivial
  | shutdown => exact trivial

/-- The bookkeeping holds along a run exactly if no init of the run makes a semaphore after
a submission. -/
theorem waits_served_iff_unsubmitted (actions : List Action) :
    Machine.Along step Unsubmitted start actions ↔
      Machine.Along step WaitsServed start actions := by
  obtain ⟨finish, executed⟩ := Machine.exec_total (fun _ _ => ⟨_, rfl⟩) start actions
  have preserved : ∀ (optimizer : CopyOptimizer) (action : Action) (next : CopyOptimizer),
      optimizer.Counted → optimizer.Unsubmitted action → step optimizer action = some next →
        next.Counted := by
    intro optimizer action next counted unsubmitted stepped
    cases stepped
    exact (counted.perform unsubmitted).2
  apply Machine.along_congr preserved _ counted_start executed
  intro optimizer action next counted stepped
  constructor
  · intro unsubmitted
    obtain ⟨served, after⟩ := counted.perform unsubmitted
    exact ⟨served, after.bounded⟩
  · exact unsubmitted_of_waitsServed

def initCall : Action := .init (some 1) (some 2) (some 3) ⟨true, true, true, true, true, true, true⟩

def copyCall : Action :=
  .executeCopy ⟨some 10, some 20, 1920, 1080, 0, 1, true, none⟩ ⟨0, false, true, true, true, true⟩

/-- After a frame, a `shutdown` and another init the value 1 is left over: the new semaphore
was never asked to signal it, and the next frame waits for it. -/
theorem left_over_after_reinit :
    ¬ Machine.Along step WaitsServed start [initCall, copyCall, .shutdown, initCall] ∧
    (Machine.exec step start [initCall, copyCall, .shutdown, initCall]).map
        (fun optimizer => (optimizer.waits copyCall, optimizer.signalValueForSubmit)) =
      some (some ⟨some .created, 1⟩, 1) := by
  constructor
  · intro along
    have last := (((along.2 _ rfl).2 _ rfl).2 _ rfl).1
    exact absurd (last.2 .created rfl) (by decide)
  · decide

end CopyOptimizer

end RejiStudio.Gpu
