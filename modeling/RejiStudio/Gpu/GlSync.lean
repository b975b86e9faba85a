import RejiStudio.Lib.Machine
import RejiStudio.Gpu.Preview

/-!
# Binary semaphores between Vulkan and GL

A copy signals the semaphore of the image it writes, the render path waits for the one of
the image it draws.  The flag of a slot counts the signals of its semaphore that GL has not
consumed: one or none.
-/

namespace RejiStudio.Gpu

open RejiStudio.Lib

namespace Preview

/-- A submission signals the semaphore of a slot only when nothing is outstanding there, and
GL waits for one only when one signal is. -/
def Disciplined (preview : Preview) : Action → Prop
  | .paintGl outcome =>
      (∀ called pending args, preview.approach outcome = .copying called pending args →
        ∀ i, (called.optimizer.executeCopy args outcome.copy).2.glSignal = some i →
          (args.glSyncSem = called.bridge.getGlSyncSemaphore i ∧ args.glSyncSem ≠ none) ∧
            called.outstanding i = 0) ∧
      ∀ drawn, copyFrame outcome (preview.approach outcome) = .rendering drawn →
        ∀ i, drawn.glWait = some i → drawn.outstanding i = 1
  | _ => True

def Matched (preview : Preview) : Prop :=
  ∀ i, preview.outstanding i = (preview.optimizer.slotGlSignaled i).toNat

structure SameSignals (preview other : Preview) : Prop where
  outstanding : other.outstanding = preview.outstanding
  slotGlSignaled : other.optimizer.slotGlSignaled = preview.optimizer.slotGlSignaled

theorem SameSignals.matched {preview other : Preview} (same : SameSignals preview other)
    (matched : preview.Matched) : other.Matched := by
  intro i
  rw [same.outstanding, same.slotGlSignaled]
  exact matched i

/-! ## The submission -/

/-- The semaphore that joins a submission is the one of the given slot, and its flag was
clear. -/
theorem glSignal_eq_some {optimizer : CopyOptimizer} {job : CopyJob} {i : Slot}
    (signals : optimizer.glSignal job = some i) :
    optimizer.slotGlSignaled i = false ∧ job.glSignalSlot = i ∧ job.glSyncSem ≠ none := by
  unfold CopyOptimizer.glSignal at signals
  obtain ⟨clear, passed⟩ := Option.ite_none_left_eq_some.mp signals
  obtain ⟨semaphore, present, rfl⟩ := Option.map_eq_some_iff.mp passed
  exact ⟨Bool.eq_false_of_not_eq_true clear, rfl, by simp [present]⟩

theorem job_slots {preview : Preview} {pending : PendingFrame} {optimizer : CopyOptimizer}
    {job : CopyJob} (checked : optimizer.check (preview.copyArgs pending) = some job) :
    job.slot = pending.frame.slot ∧ job.glSignalSlot = pending.frame.slot + 1 := by
  obtain ⟨-, -, slot, signal, -⟩ := CopyOptimizer.check_args checked
  have small : ∀ i : Slot, (UInt32.ofNat i).toNat = i := by decide
  constructor
  · exact Fin.ext (slot.symm.trans (small pending.frame.slot))
  · exact Fin.ext (signal.symm.trans (small (pending.frame.slot + 1)))

/-- The semaphore that a submission signals is the bridge's semaphore of the slot. -/
theorem copyArgs_glSyncSem {preview : Preview} {pending : PendingFrame}
    (present : (preview.copyArgs pending).glSyncSem ≠ none) :
    (preview.copyArgs pending).glSyncSem =
      preview.bridge.getGlSyncSemaphore (pending.frame.slot + 1) := by
  unfold copyArgs at present ⊢
  split at present
  next wired => exact if_pos wired
  next => exact absurd rfl present

theorem signalled_by_copy {preview : Preview} {pending : PendingFrame} {outcome : CopyOutcome}
    {i : Slot}
    (signals : (preview.optimizer.executeCopy (preview.copyArgs pending) outcome).2.glSignal =
      some i) :
    ((preview.copyArgs pending).glSyncSem = preview.bridge.getGlSyncSemaphore i ∧
      (preview.copyArgs pending).glSyncSem ≠ none) ∧
        preview.optimizer.slotGlSignaled i = false := by
  cases submitted :
    (preview.optimizer.executeCopy (preview.copyArgs pending) outcome).2.submitted with
  | false =>
      rw [(CopyOptimizer.executeCopy_unsubmitted submitted).1] at signals
      cases signals
  | true =>
      obtain ⟨job, checked, made⟩ := CopyOptimizer.executeCopy_submitted submitted
      rw [made] at signals
      obtain ⟨clear, slot, semaphore⟩ := glSignal_eq_some signals
      obtain ⟨-, -, -, -, passed⟩ := CopyOptimizer.check_args checked
      rw [← passed] at semaphore
      have named := copyArgs_glSyncSem semaphore
      rw [← (job_slots checked).2, slot] at named
      exact ⟨⟨named, semaphore⟩, clear⟩

theorem Matched.submitCopy {preview : Preview} (matched : preview.Matched)
    (pending : PendingFrame) (args : CopyArgs) (outcome : CopyOutcome) :
    (preview.submitCopy pending args outcome).1.Matched := by
  intro i
  unfold Preview.submitCopy
  rcases preview.optimizer.executeCopy_cases args outcome with
    skipped | ⟨job, -, recorded | failed | submitted⟩
  · rw [skipped]
    exact matched i
  · rw [recorded]
    exact matched i
  · rw [failed]
    exact matched i
  · rw [submitted]
    simp only [if_true]
    change (if preview.optimizer.glSignal job = some i then preview.outstanding i + 1
        else preview.outstanding i) =
      (preview.optimizer.slotGlSignaled i ||
        decide (preview.optimizer.glSignal job = some i)).toNat
    by_cases signals : preview.optimizer.glSignal job = some i
    · obtain ⟨clear, -⟩ := glSignal_eq_some signals
      rw [if_pos signals, matched i, clear, decide_eq_true signals]
      rfl
    · rw [if_neg signals, matched i, decide_eq_false signals, Bool.or_false]

/-! ## The render path -/

theorem glWait_eq_some {preview : Preview} {i : Slot} (waits : preview.glWait = some i) :
    preview.optimizer.slotGlSignaled i = true := by
  unfold glWait at waits
  obtain ⟨⟨_, _, _, _, signaled⟩, rfl⟩ := Option.ite_some_none_eq_some.mp waits
  exact signaled

theorem Matched.consume {preview : Preview} (matched : preview.Matched) :
    preview.consume.Matched := by
  unfold Preview.consume
  split
  next slot waits =>
    intro i
    change Function.update preview.outstanding slot (preview.outstanding slot - 1) i =
      (Function.update preview.optimizer.slotGlSignaled slot false i).toNat
    by_cases same : i = slot
    · rw [same, Function.update_self, Function.update_self, matched slot, glWait_eq_some waits]
      rfl
    · rw [Function.update_of_ne same, Function.update_of_ne same]
      exact matched i
  next => exact matched

/-! ## Calls -/

theorem importTexture_sameSignals (preview : Preview) (pending : PendingFrame)
    (outcome : PaintOutcome) : SameSignals preview (preview.importTexture pending outcome) := by
  unfold importTexture
  dsimp only
  split <;> exact ⟨rfl, rfl⟩

theorem Matched.approach {preview : Preview} (matched : preview.Matched)
    (outcome : PaintOutcome) : (preview.approach outcome).Holds Matched :=
  approach_holds (fun _ _ _ _ kept => kept) (fun _ _ kept => kept) matched outcome

theorem Matched.copyFrame {paint : Paint} (matched : paint.Holds Matched)
    (outcome : PaintOutcome) : (copyFrame outcome paint).Holds Matched :=
  copyFrame_holds (fun _ pending args _ kept => kept.submitCopy pending args _)
    (fun preview pending _ => (importTexture_sameSignals preview pending _).matched) matched outcome

theorem Matched.paintGl {preview : Preview} (matched : preview.Matched)
    (outcome : PaintOutcome) : (preview.paintGl outcome).Matched :=
  render_holds (fun _ kept => kept.consume) (fun _ _ kept => kept)
    (Matched.copyFrame (matched.approach outcome) outcome) outcome

theorem Matched.perform {preview : Preview} (matched : preview.Matched) (action : Action) :
    (preview.perform action).Matched := by
  cases action with
  | captureFrame tex slot locked outcome =>
      dsimp only [Preview.perform]
      unfold captureFrame
      split
      · exact matched
      · dsimp only
        split <;> exact matched
  | submitD3d11Frame width height =>
      dsimp only [Preview.perform]
      unfold submitD3d11Frame
      split
      · exact matched
      · split <;> exact matched
  | uploadCpuFrame width height => exact matched
  | setCopyOptimizer wired => exact matched
  | setBridge wired => exact matched
  | paintGl outcome => exact matched.paintGl outcome

theorem Matched.disciplined {preview : Preview} (matched : preview.Matched) (action : Action) :
    preview.Disciplined action := by
  cases action with
  | captureFrame tex slot locked outcome => exact trivial
  | submitD3d11Frame width height => exact trivial
  | uploadCpuFrame width height => exact trivial
  | setCopyOptimizer wired => exact trivial
  | setBridge wired => exact trivial
  | paintGl outcome =>
      have approached := matched.approach outcome
      constructor
      · intro called pending args copying i signals
        have before : called.Matched := by
          rw [copying] at approached
          exact approached
        have own : args = called.copyArgs pending := by
          rcases preview.approach_cases outcome with
            other | other | ⟨taken, -, other | same⟩
          · cases copying.symm.trans other
          · cases copying.symm.trans other
          · cases copying.symm.trans other
          · cases copying.symm.trans same
            rfl
        rw [own] at signals ⊢
        obtain ⟨named, clear⟩ := signalled_by_copy signals
        refine ⟨named, ?_⟩
        rw [before i, clear]
        rfl
      · intro drawn rendering i waits
        have after := Matched.copyFrame approached outcome
        rw [rendering] at after
        rw [show drawn.outstanding i = _ from after i, glWait_eq_some waits]
        rfl

/-- After one initialisation every run of the preview keeps the discipline of the binary
semaphores. -/
theorem semaphores_disciplined {earlier optimizer : CopyOptimizer}
    {device queue physDevice : Option Nat} {outcome : InitOutcome}
    (initialised : earlier.init device queue physDevice outcome = (optimizer, true))
    (bridge : Bridge) (functions : GlFunctions) (glSyncSemaphores : Slot → Bool)
    (actions : List Action) :
    Machine.Along step Disciplined (start bridge optimizer functions glSyncSemaphores)
      actions := by
  obtain ⟨-, clear⟩ := CopyOptimizer.init_reset initialised
  have initially : (start bridge optimizer functions glSyncSemaphores).Matched := by
    intro i
    change 0 = (optimizer.slotGlSignaled i).toNat
    rw [clear]
    rfl
  have preserved : ∀ (preview : Preview) (action : Action) (next : Preview),
      preview.Matched → step preview action = some next → next.Matched := by
    intro preview action next matched stepped
    cases stepped
    exact matched.perform action
  have disciplined : ∀ (preview : Preview) (action : Action),
      preview.Matched → True → preview.Disciplined action :=
    fun _ action matched _ => matched.disciplined action
  exact Machine.Along.imp preserved disciplined initially
    (Machine.along_of_forall fun _ _ => trivial)

/-- Two frames in successive slots: the second paint waits for the signal of the first and
leaves its own. -/
theorem semaphores_disciplined_two_frames :
    Machine.Along step Disciplined (ready 1920 1080)
      ([.setCopyOptimizer true, .setBridge true] ++ showFrame 7 1920 1080 0 ++ [.paintGl smooth] ++
        showFrame 7 1920 1080 1 ++ [.paintGl smooth]) ∧
    (Machine.exec step (ready 1920 1080)
      ([.setCopyOptimizer true, .setBridge true] ++ showFrame 7 1920 1080 0 ++ [.paintGl smooth] ++
        showFrame 7 1920 1080 1 ++ [.paintGl smooth])).map
          (fun preview => (preview.outstanding 1, preview.outstanding 2)) = some (0, 1) := by
  have initialised : CopyOptimizer.start.init (some 1) (some 3) (some 2)
      ⟨true, true, true, true, true, true, true⟩ = (readyOptimizer, true) := rfl
  refine ⟨semaphores_disciplined initialised _ _ _ _, ?_⟩
  decide +kernel

end Preview

end RejiStudio.Gpu
