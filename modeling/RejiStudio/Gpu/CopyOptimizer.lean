import RejiStudio.Gpu.ExternalMemoryBridge

/-!
# The copy optimizer

`GpuCopyOptimizer` records the copy of a captured frame into a GL target and submits
it.  A handle is a number, or none where it is null; the results of the Vulkan calls
are arguments of a call.  Exceptions, which no Vulkan call throws, are left out.
-/

namespace RejiStudio.Gpu

open RejiStudio.Lib

inductive ImageLayout where
  | undefined
  | transferSrcOptimal
  | transferDstOptimal
  | shaderReadOnlyOptimal
  deriving DecidableEq

/-- A recorded command; images are named by their handles. -/
inductive Command where
  | pipelineBarrier (image : Nat) (oldLayout newLayout : ImageLayout)
  | blitImage (source target : Nat)
  | copyImage (source target : Nat)
  deriving DecidableEq

/-- A timeline semaphore by the largest value submitted for signalling on it. -/
structure TimelineSemaphore where
  largest : Nat
  deriving DecidableEq

namespace TimelineSemaphore

/-- `vkCreateSemaphore` with `initialValue` 0. -/
def created : TimelineSemaphore := ⟨0⟩

def signal (semaphore : TimelineSemaphore) (value : UInt64) : TimelineSemaphore :=
  ⟨max semaphore.largest value.toNat⟩

end TimelineSemaphore

structure Wait where
  semaphore : Option TimelineSemaphore
  value : UInt64
  deriving DecidableEq

def Wait.Served (wait : Wait) : Prop :=
  ∃ semaphore, wait.semaphore = some semaphore ∧ wait.value.toNat ≤ semaphore.largest

structure CopyOptimizer where
  device : Option Nat
  queue : Option Nat
  commandPool : Bool
  /-- The three command buffers are allocated and freed together. -/
  commandBuffers : Bool
  useBlit : Bool
  timelineSemaphore : Option TimelineSemaphore
  timelineCounter : UInt64
  signalValueForSubmit : UInt64
  targetLayouts : Slot → ImageLayout
  slotGlSignaled : Slot → Bool
  pfnGetSemaphoreCounterValue : Bool
  pfnWaitSemaphores : Bool

/-- Results of the calls of `init`, in their order. -/
structure InitOutcome where
  createCommandPool : Bool
  allocateCommandBuffers : Bool
  blitSrc : Bool
  blitDst : Bool
  createSemaphore : Bool
  getSemaphoreCounterValue : Bool
  waitSemaphores : Bool
  deriving DecidableEq

/-- The arguments of `execute_copy`; `outputs` says that the three output pointers are
not null. -/
structure CopyArgs where
  staging : Option Nat
  target : Option Nat
  width : UInt32
  height : UInt32
  slot : UInt32
  glSignalSlot : UInt32
  outputs : Bool
  glSyncSem : Option Nat
  deriving DecidableEq

structure CopyJob where
  staging : Nat
  target : Nat
  slot : Slot
  glSignalSlot : Slot
  glSyncSem : Option Nat
  deriving DecidableEq

/-- Results of the calls of `execute_copy`, in their order. -/
structure CopyOutcome where
  currentValue : UInt64
  waitSemaphores : Bool
  resetCommandBuffer : Bool
  beginCommandBuffer : Bool
  endCommandBuffer : Bool
  queueSubmit : Bool
  deriving DecidableEq

/-- What was recorded, whether it was submitted, and the slot whose GL semaphore the
submission signals. -/
structure Copied where
  recorded : List Command
  submitted : Bool
  glSignal : Option Slot
  deriving DecidableEq

def Copied.skipped : Copied := ⟨[], false, none⟩

def frameIncrement : UInt64 := 1

namespace CopyOptimizer

def start : CopyOptimizer where
  device := none
  queue := none
  commandPool := false
  commandBuffers := false
  useBlit := true
  timelineSemaphore := none
  timelineCounter := 0
  signalValueForSubmit := 0
  targetLayouts := fun _ => .undefined
  slotGlSignaled := fun _ => false
  pfnGetSemaphoreCounterValue := false
  pfnWaitSemaphores := false

/-- `init` between the check of its handles and the `shutdown` of the paths that
fail. -/
def setUp (optimizer : CopyOptimizer) (device queue : Nat) (outcome : InitOutcome) :
    CopyOptimizer × Bool :=
  let armed := { optimizer with
    targetLayouts := fun _ => .undefined
    slotGlSignaled := fun _ => false
    device := some device
    queue := some queue }
  if outcome.createCommandPool = false then (armed, false)
  else
    let pooled := { armed with commandPool := true }
    if outcome.allocateCommandBuffers = false then
      ({ pooled with commandBuffers := false }, false)
    else
      let buffered := { pooled with
        commandBuffers := true
        useBlit := outcome.blitSrc && outcome.blitDst }
      if outcome.createSemaphore = false then (buffered, false)
      else
        let timed := { buffered with
          timelineSemaphore := some .created
          pfnGetSemaphoreCounterValue := outcome.getSemaphoreCounterValue }
        -- the other function keeps the address that an earlier init found
        if outcome.getSemaphoreCounterValue = false then (timed, false)
        else ({ timed with pfnWaitSemaphores := outcome.waitSemaphores }, outcome.waitSemaphores)

/-- What `shutdown` waits for before it destroys the semaphore. -/
def shutdownWait (optimizer : CopyOptimizer) : Option Wait :=
  if optimizer.device = none then none
  else if 0 < optimizer.signalValueForSubmit ∧ optimizer.pfnWaitSemaphores = true ∧
      optimizer.timelineSemaphore.isSome = true then
    some ⟨optimizer.timelineSemaphore, optimizer.signalValueForSubmit⟩
  else none

/-- `shutdown`; `signal_value_for_submit_` and `pfn_wait_semaphores_` keep their
values. -/
def shutdown (optimizer : CopyOptimizer) : CopyOptimizer :=
  if optimizer.device = none then optimizer
  else
    { optimizer with
      timelineSemaphore := none
      commandBuffers := optimizer.commandBuffers && !optimizer.commandPool
      commandPool := false
      device := none
      queue := none
      timelineCounter := 0
      pfnGetSemaphoreCounterValue := false
      targetLayouts := fun _ => .undefined
      slotGlSignaled := fun _ => false }

def init (optimizer : CopyOptimizer) (device queue physDevice : Option Nat)
    (outcome : InitOutcome) : CopyOptimizer × Bool :=
  match device, queue, physDevice with
  | some device, some queue, some _ =>
      match optimizer.setUp device queue outcome with
      | (ready, true) => (ready, true)
      | (failed, false) => (failed.shutdown, false)
  | _, _, _ => (optimizer, false)

/-- What the `shutdown` inside a failing `init` waits for. -/
def initWait (optimizer : CopyOptimizer) (device queue physDevice : Option Nat)
    (outcome : InitOutcome) : Option Wait :=
  match device, queue, physDevice with
  | some device, some queue, some _ =>
      match optimizer.setUp device queue outcome with
      | (_, true) => none
      | (failed, false) => failed.shutdownWait
  | _, _, _ => none

/-- The checks at the head of `execute_copy`. -/
def check (optimizer : CopyOptimizer) (args : CopyArgs) : Option CopyJob :=
  if optimizer.device = none ∨ optimizer.commandBuffers = false ∨ optimizer.queue = none then none
  else if slotInPool : args.slot.toNat < poolSize then
    if signalInPool : args.glSignalSlot.toNat < poolSize then
      match args.staging, args.target with
      | some staging, some target =>
          if args.width = 0 ∨ args.height = 0 then none
          else if args.outputs = false then none
          else
            some ⟨staging, target, ⟨args.slot.toNat, slotInPool⟩,
              ⟨args.glSignalSlot.toNat, signalInPool⟩, args.glSyncSem⟩
      | _, _ => none
    else none
  else none

/-- The last submission has not been signalled yet. -/
def Awaits (optimizer : CopyOptimizer) (currentValue : UInt64) : Prop :=
  0 < optimizer.signalValueForSubmit ∧ optimizer.pfnGetSemaphoreCounterValue = true ∧
    optimizer.pfnWaitSemaphores = true ∧ currentValue < optimizer.signalValueForSubmit

instance (optimizer : CopyOptimizer) (currentValue : UInt64) :
    Decidable (optimizer.Awaits currentValue) :=
  inferInstanceAs (Decidable (_ ∧ _ ∧ _ ∧ _))

def Records (optimizer : CopyOptimizer) (args : CopyArgs) (outcome : CopyOutcome) : Prop :=
  (optimizer.check args).isSome = true ∧
    ¬ (optimizer.Awaits outcome.currentValue ∧ outcome.waitSemaphores = false) ∧
    outcome.resetCommandBuffer = true ∧ outcome.beginCommandBuffer = true

instance (optimizer : CopyOptimizer) (args : CopyArgs) (outcome : CopyOutcome) :
    Decidable (optimizer.Records args outcome) :=
  inferInstanceAs (Decidable (_ ∧ _ ∧ _ ∧ _))

def record (optimizer : CopyOptimizer) (job : CopyJob) : List Command :=
  [.pipelineBarrier job.staging .undefined .transferSrcOptimal,
    .pipelineBarrier job.target (optimizer.targetLayouts job.slot) .transferDstOptimal,
    if optimizer.useBlit then .blitImage job.staging job.target
      else .copyImage job.staging job.target,
    .pipelineBarrier job.target .transferDstOptimal .shaderReadOnlyOptimal,
    .pipelineBarrier job.staging .transferSrcOptimal .transferSrcOptimal]

/-- The GL semaphore joins the submission unless an earlier signal is unconsumed. -/
def glSignal (optimizer : CopyOptimizer) (job : CopyJob) : Option Slot :=
  if optimizer.slotGlSignaled job.glSignalSlot = true then none
  else job.glSyncSem.map fun _ => job.glSignalSlot

/-- `timeline_counter_` and the value to signal, set before the submission. -/
def count (optimizer : CopyOptimizer) : CopyOptimizer :=
  { optimizer with
    timelineCounter := optimizer.timelineCounter + frameIncrement
    signalValueForSubmit := optimizer.timelineCounter + frameIncrement }

def rollBack (optimizer : CopyOptimizer) : CopyOptimizer :=
  { optimizer with
    timelineCounter := optimizer.timelineCounter - frameIncrement
    signalValueForSubmit := optimizer.timelineCounter - frameIncrement }

def submitted (optimizer : CopyOptimizer) (slot : Slot) (signaled : Option Slot) :
    CopyOptimizer :=
  { optimizer with
    timelineSemaphore :=
      optimizer.timelineSemaphore.map (·.signal optimizer.signalValueForSubmit)
    targetLayouts := Function.update optimizer.targetLayouts slot .shaderReadOnlyOptimal
    slotGlSignaled := fun i => optimizer.slotGlSignaled i || decide (signaled = some i) }

def copy (optimizer : CopyOptimizer) (job : CopyJob) (outcome : CopyOutcome) :
    CopyOptimizer × Copied :=
  if optimizer.Awaits outcome.currentValue ∧ outcome.waitSemaphores = false then
    (optimizer, .skipped)
  else if outcome.resetCommandBuffer = false then (optimizer, .skipped)
  else if outcome.beginCommandBuffer = false then (optimizer, .skipped)
  else if outcome.endCommandBuffer = false then
    (optimizer, ⟨optimizer.record job, false, none⟩)
  else if outcome.queueSubmit = false then
    (optimizer.count.rollBack, ⟨optimizer.record job, false, none⟩)
  else
    (optimizer.count.submitted job.slot (optimizer.glSignal job),
      ⟨optimizer.record job, true, optimizer.glSignal job⟩)

/-- `execute_copy`; it returns true exactly if a copy was submitted. -/
def executeCopy (optimizer : CopyOptimizer) (args : CopyArgs) (outcome : CopyOutcome) :
    CopyOptimizer × Copied :=
  match optimizer.check args with
  | some job => optimizer.copy job outcome
  | none => (optimizer, .skipped)

/-- What `execute_copy` waits for. -/
def copyWait (optimizer : CopyOptimizer) (args : CopyArgs) (outcome : CopyOutcome) :
    Option Wait :=
  if (optimizer.check args).isSome = true ∧ optimizer.Awaits outcome.currentValue then
    some ⟨optimizer.timelineSemaphore, optimizer.signalValueForSubmit⟩
  else none

def clearGlSignal (optimizer : CopyOptimizer) (slot : Slot) : CopyOptimizer :=
  { optimizer with slotGlSignaled := Function.update optimizer.slotGlSignaled slot false }

/-! ## Initialisation -/

theorem setUp_device (optimizer : CopyOptimizer) (device queue : Nat) (outcome : InitOutcome) :
    (optimizer.setUp device queue outcome).1.device = some device := by
  unfold setUp
  split
  · rfl
  split
  · rfl
  split
  · rfl
  split <;> rfl

theorem setUp_reset (optimizer : CopyOptimizer) (device queue : Nat) (outcome : InitOutcome) :
    (optimizer.setUp device queue outcome).1.targetLayouts = (fun _ => .undefined) ∧
      (optimizer.setUp device queue outcome).1.slotGlSignaled = fun _ => false := by
  unfold setUp
  split
  · exact ⟨rfl, rfl⟩
  split
  · exact ⟨rfl, rfl⟩
  split
  · exact ⟨rfl, rfl⟩
  split <;> exact ⟨rfl, rfl⟩

theorem init_reset {earlier optimizer : CopyOptimizer} {device queue physDevice : Option Nat}
    {outcome : InitOutcome}
    (initialised : earlier.init device queue physDevice outcome = (optimizer, true)) :
    optimizer.targetLayouts = (fun _ => .undefined) ∧
      optimizer.slotGlSignaled = fun _ => false := by
  unfold init at initialised
  split at initialised
  next d q p =>
    have reset := earlier.setUp_reset d q outcome
    split at initialised
    next ready made =>
      cases initialised
      rw [made] at reset
      exact reset
    next => cases initialised
  next => cases initialised

/-! ## Results of a copy -/

theorem recorded_iff (optimizer : CopyOptimizer) (args : CopyArgs) (outcome : CopyOutcome) :
    (optimizer.executeCopy args outcome).2.recorded ≠ [] ↔ optimizer.Records args outcome := by
  unfold Records executeCopy
  cases optimizer.check args with
  | none => simp [Copied.skipped]
  | some job =>
      dsimp only
      unfold copy
      by_cases late : optimizer.Awaits outcome.currentValue ∧ outcome.waitSemaphores = false
      · simp [late, Copied.skipped]
      · rw [if_neg late]
        cases reset : outcome.resetCommandBuffer with
        | false => simp [Copied.skipped]
        | true =>
            cases begun : outcome.beginCommandBuffer with
            | false => simp [Copied.skipped]
            | true =>
                simp only [Bool.true_eq_false, if_false, Option.isSome_some, late,
                  not_false_eq_true, and_self, iff_true]
                split
                · simp [record]
                · split <;> simp [record]

/-- What a copy does: nothing, a recording that is not submitted, or a submission. -/
theorem copy_cases (optimizer : CopyOptimizer) (job : CopyJob) (outcome : CopyOutcome) :
    (∃ recorded, optimizer.copy job outcome = (optimizer, ⟨recorded, false, none⟩) ∧
      (recorded = [] ∨ recorded = optimizer.record job)) ∨
    optimizer.copy job outcome =
      (optimizer.count.submitted job.slot (optimizer.glSignal job),
        ⟨optimizer.record job, true, optimizer.glSignal job⟩) ∨
    optimizer.copy job outcome =
      (optimizer.count.rollBack, ⟨optimizer.record job, false, none⟩) := by
  unfold copy
  split
  · exact .inl ⟨[], rfl, .inl rfl⟩
  split
  · exact .inl ⟨[], rfl, .inl rfl⟩
  split
  · exact .inl ⟨[], rfl, .inl rfl⟩
  split
  · exact .inl ⟨_, rfl, .inr rfl⟩
  split
  · exact .inr (.inr rfl)
  · exact .inr (.inl rfl)

/-- The rollback restores the counter, also when it had wrapped around. -/
theorem rollBack_count (optimizer : CopyOptimizer) :
    optimizer.count.rollBack =
      { optimizer with signalValueForSubmit := optimizer.timelineCounter } := by
  simp [count, rollBack]

theorem check_args {optimizer : CopyOptimizer} {args : CopyArgs} {job : CopyJob}
    (checked : optimizer.check args = some job) :
    args.staging = some job.staging ∧ args.target = some job.target ∧
      args.slot.toNat = job.slot ∧ args.glSignalSlot.toNat = job.glSignalSlot ∧
      args.glSyncSem = job.glSyncSem := by
  unfold check at checked
  split at checked
  next => cases checked
  split at checked
  next slotInPool =>
    split at checked
    next signalInPool =>
      split at checked
      next staging target given found =>
        obtain ⟨_, passed⟩ := Option.ite_none_left_eq_some.mp checked
        obtain ⟨_, made⟩ := Option.ite_none_left_eq_some.mp passed
        cases made
        exact ⟨given, found, rfl, rfl, rfl⟩
      next => cases checked
    next => cases checked
  next => cases checked

/-- A call records nothing, or it records the copy of its checked arguments; the submission
may be missing or fail. -/
theorem executeCopy_cases (optimizer : CopyOptimizer) (args : CopyArgs) (outcome : CopyOutcome) :
    optimizer.executeCopy args outcome = (optimizer, .skipped) ∨
    ∃ job, optimizer.check args = some job ∧
      (optimizer.executeCopy args outcome = (optimizer, ⟨optimizer.record job, false, none⟩) ∨
        optimizer.executeCopy args outcome =
          (optimizer.count.rollBack, ⟨optimizer.record job, false, none⟩) ∨
        optimizer.executeCopy args outcome =
          (optimizer.count.submitted job.slot (optimizer.glSignal job),
            ⟨optimizer.record job, true, optimizer.glSignal job⟩)) := by
  cases checked : optimizer.check args with
  | none => exact .inl (by rw [executeCopy, checked])
  | some job =>
      rw [executeCopy, checked]
      rcases optimizer.copy_cases job outcome with
        ⟨recorded, kept, rfl | rfl⟩ | submitted | failed
      · exact .inl kept
      · exact .inr ⟨job, rfl, .inl kept⟩
      · exact .inr ⟨job, rfl, .inr (.inr submitted)⟩
      · exact .inr ⟨job, rfl, .inr (.inl failed)⟩

theorem executeCopy_submitted {optimizer : CopyOptimizer} {args : CopyArgs}
    {outcome : CopyOutcome}
    (submitted : (optimizer.executeCopy args outcome).2.submitted = true) :
    ∃ job, optimizer.check args = some job ∧
      optimizer.executeCopy args outcome =
        (optimizer.count.submitted job.slot (optimizer.glSignal job),
          ⟨optimizer.record job, true, optimizer.glSignal job⟩) := by
  rcases optimizer.executeCopy_cases args outcome with
    skipped | ⟨job, checked, recorded | failed | made⟩
  · rw [skipped] at submitted
    cases submitted
  · rw [recorded] at submitted
    cases submitted
  · rw [failed] at submitted
    cases submitted
  · exact ⟨job, checked, made⟩

/-- Without a submission nothing is signalled, and the counter is as before. -/
theorem executeCopy_unsubmitted {optimizer : CopyOptimizer} {args : CopyArgs}
    {outcome : CopyOutcome}
    (unsubmitted : (optimizer.executeCopy args outcome).2.submitted = false) :
    (optimizer.executeCopy args outcome).2.glSignal = none ∧
      ((optimizer.executeCopy args outcome).1 = optimizer ∨
        (optimizer.executeCopy args outcome).1 =
          { optimizer with signalValueForSubmit := optimizer.timelineCounter }) := by
  rcases optimizer.executeCopy_cases args outcome with
    skipped | ⟨job, checked, recorded | failed | made⟩
  · rw [skipped]
    exact ⟨rfl, .inl rfl⟩
  · rw [recorded]
    exact ⟨rfl, .inl rfl⟩
  · rw [failed]
    exact ⟨rfl, .inr optimizer.rollBack_count⟩
  · rw [made] at unsubmitted
    cases unsubmitted

theorem check_device {optimizer : CopyOptimizer} {args : CopyArgs} {job : CopyJob}
    (checked : optimizer.check args = some job) : optimizer.device.isSome = true := by
  unfold check at checked
  split at checked
  next => cases checked
  next present =>
    rw [Option.isSome_iff_ne_none]
    intro missing
    exact present (.inl missing)

end CopyOptimizer

end RejiStudio.Gpu
