import RejiStudio.Gpu.LayoutTracking

/-!
# Copies under way while GL samples

A copy for a slot writes the image one slot ahead, and GL samples the image of the slot on
display.  Before the next copy the CPU waits for the timeline, so only the last copy can be
under way.  A frame whose `paintGL` returns early moves the display all the same, and may move
it to the image that this copy writes.
-/

namespace RejiStudio.Gpu

open RejiStudio.Lib

namespace CopyOptimizer

/-- `is_copy_ready`; `waited` is the answer of a wait that does not block.  The flag `alive_`
is set between `init` and `shutdown`, as the device is. -/
def isCopyReady (optimizer : CopyOptimizer) (waited : Bool) : Bool :=
  optimizer.device.isSome && optimizer.pfnWaitSemaphores &&
    optimizer.timelineSemaphore.isSome && waited

/-- `execute_copy` sees the timeline at the value of the last submission, by its counter or
by its wait. -/
def SeesLast (optimizer : CopyOptimizer) (args : CopyArgs) (outcome : CopyOutcome) : Prop :=
  (optimizer.check args).isSome = true ∧ 0 < optimizer.signalValueForSubmit ∧
    optimizer.pfnGetSemaphoreCounterValue = true ∧ optimizer.pfnWaitSemaphores = true ∧
    (outcome.currentValue < optimizer.signalValueForSubmit → outcome.waitSemaphores = true)

instance (optimizer : CopyOptimizer) (args : CopyArgs) (outcome : CopyOutcome) :
    Decidable (optimizer.SeesLast args outcome) :=
  inferInstanceAs (Decidable (_ ∧ _ ∧ _ ∧ _ ∧ (_ → _)))

theorem init_functions {earlier optimizer : CopyOptimizer} {device queue physDevice : Option Nat}
    {outcome : InitOutcome}
    (initialised : earlier.init device queue physDevice outcome = (optimizer, true)) :
    optimizer.pfnGetSemaphoreCounterValue = true ∧ optimizer.pfnWaitSemaphores = true := by
  unfold init at initialised
  split at initialised
  next d q p =>
    split at initialised
    next ready made =>
      cases initialised
      unfold setUp at made
      dsimp only at made
      split at made
      · cases made
      split at made
      · cases made
      split at made
      · cases made
      split at made
      · cases made
      next get =>
        obtain ⟨rfl, wait⟩ := Prod.mk.inj made
        exact ⟨by simpa using get, wait⟩
    next => cases initialised
  next => cases initialised

end CopyOptimizer

/-- A copy that was submitted: its frame, and the slot whose GL semaphore it signals. -/
structure SubmittedCopy where
  frame : Frame
  glSignal : Option Slot
  deriving DecidableEq

/-- The fields of the widget for its poll of the timeline, and what is known of the copies.
`unfinished` has for an image the signal of the most recent copy into it, and `latest` is the
last copy of all; both are dropped when the CPU sees the timeline at the copy or GL waits for
its signal. -/
structure CopyWatch where
  hasPendingCopy : Bool
  pollFrames : Nat
  unfinished : Nat → Option (Option Slot)
  latest : Option SubmittedCopy

namespace CopyWatch

def start : CopyWatch where
  hasPendingCopy := false
  pollFrames := 0
  unfinished := fun _ => none
  latest := none

def finish (watch : CopyWatch) : CopyWatch :=
  { watch with unfinished := fun _ => none, latest := none }

/-- The poll of a `paintGL`. -/
def poll (watch : CopyWatch) (preview : Preview) (ready : Bool) : CopyWatch :=
  if watch.hasPendingCopy = false then watch
  else if preview.widget.copyOptimizer = true ∧ preview.optimizer.isCopyReady ready = true then
    { watch.finish with hasPendingCopy := false, pollFrames := 0 }
  else if 50 < watch.pollFrames + 1 then { watch with hasPendingCopy := false, pollFrames := 0 }
  else { watch with pollFrames := watch.pollFrames + 1 }

def take (watch : CopyWatch) (preview : Preview) : CopyWatch :=
  { watch with hasPendingCopy := watch.hasPendingCopy && preview.widget.pending.isNone }

def note (watch : CopyWatch) (frame : Frame) (glSignal : Option Slot) : CopyWatch :=
  { watch with
    hasPendingCopy := true
    unfinished := fun image =>
      if frame.target = some image then some glSignal else watch.unfinished image
    latest := some ⟨frame, glSignal⟩ }

/-- What the call of `execute_copy` adds. -/
def submit (watch : CopyWatch) (outcome : CopyOutcome) : Paint → CopyWatch
  | .copying called pending args =>
      let seen := if called.optimizer.SeesLast args outcome then watch.finish else watch
      let copied := (called.optimizer.executeCopy args outcome).2
      if copied.submitted = true then seen.note pending.frame copied.glSignal else seen
  | _ => watch

def await (watch : CopyWatch) (slot : Slot) : CopyWatch :=
  { watch with
    unfinished := fun image =>
      (watch.unfinished image).filter fun glSignal => decide (glSignal ≠ some slot)
    latest := watch.latest.filter fun copy => decide (copy.glSignal ≠ some slot) }

def wait (watch : CopyWatch) : Paint → CopyWatch
  | .rendering drawn =>
      match drawn.glWait with
      | some slot => watch.await slot
      | none => watch
  | _ => watch

end CopyWatch

structure Sampling where
  preview : Preview
  watch : CopyWatch

namespace Sampling

/-- A call of the preview, with the answer of the timeline when a `paintGL` polls it. -/
structure Call where
  action : Preview.Action
  ready : Bool

def start (preview : Preview) : Sampling := ⟨preview, .start⟩

/-- The copies as the render path of a `paintGL` finds them. -/
def submitted (sampling : Sampling) (outcome : PaintOutcome) (ready : Bool) : CopyWatch :=
  ((sampling.watch.poll sampling.preview ready).take sampling.preview).submit outcome.copy
    (sampling.preview.approach outcome)

def watched (sampling : Sampling) (call : Call) : CopyWatch :=
  match call.action with
  | .paintGl outcome =>
      (sampling.submitted outcome call.ready).wait
        (Preview.copyFrame outcome (sampling.preview.approach outcome))
  | _ => sampling.watch

def advance (sampling : Sampling) (call : Call) : Sampling :=
  ⟨sampling.preview.perform call.action, sampling.watched call⟩

def step : Machine Sampling Call := fun sampling call => some (sampling.advance call)

/-- When `paintGL` samples the interop image of the slot on display, the most recent copy into
it is finished, or GL waits for its signal first. -/
def Waited (sampling : Sampling) (call : Call) : Prop :=
  ∀ outcome, call.action = .paintGl outcome → ∀ drawn,
    Preview.copyFrame outcome (sampling.preview.approach outcome) = .rendering drawn →
    drawn.widget.glInteropTextures drawn.widget.currentPoolIdx = true →
    ∀ image, drawn.bridge.handleId ⟨.glTargetImage, drawn.widget.currentPoolIdx⟩ = some image →
    ∀ glSignal, (sampling.submitted outcome call.ready).unfinished image = some glSignal →
      glSignal ≠ none ∧ drawn.glWait = glSignal

/-- A `paintGL` without a frame finds the display one slot ahead of the last copy, which is
under way in the pool as it is, only if that copy signals a semaphore that GL waits for. -/
def Settled (sampling : Sampling) (call : Call) : Prop :=
  ∀ outcome, call.action = .paintGl outcome → sampling.preview.widget.pending = none →
    let slot := sampling.preview.widget.currentPoolIdx
    sampling.preview.widget.glInteropTextures slot = true →
    ∀ copy ∈ sampling.watch.latest, slot = copy.frame.slot + 1 →
      copy.frame.takenAt = sampling.preview.rebuilds →
        copy.glSignal ≠ none ∧ sampling.preview.glWait ≠ none

def Unwrapped (sampling : Sampling) (_ : Call) : Prop :=
  sampling.preview.optimizer.timelineCounter + frameIncrement ≠ 0

/-! ## The copy under way -/

structure UnderWay (preview : Preview) (copy : SubmittedCopy) : Prop where
  captured : Preview.Captured preview.bridge preview.rebuilds copy.frame
  target : copy.frame.target ≠ none
  glSignal : ∀ slot, copy.glSignal = some slot → slot = copy.frame.slot + 1
  signalValue : preview.optimizer.signalValueForSubmit ≠ 0
  counter : preview.optimizer.timelineCounter ≠ 0

/-- The copy writes the image that the pool has in a slot exactly if the slot is one ahead and
the pool is the one that the frame met. -/
theorem target_eq_iff {preview : Preview} (tracked : preview.bridge.Tracked) {frame : Frame}
    (captured : Preview.Captured preview.bridge preview.rebuilds frame) {slot : Slot}
    {image : Nat} (present : preview.bridge.handleId ⟨.glTargetImage, slot⟩ = some image) :
    frame.target = some image ↔ slot = frame.slot + 1 ∧ frame.takenAt = preview.rebuilds := by
  constructor
  · intro target
    have current : frame.takenAt = preview.rebuilds := by
      by_contra older
      exact captured.stale (Nat.lt_of_le_of_ne captured.known older) image target slot present
    refine ⟨?_, current⟩
    have taken : preview.bridge.handleId ⟨.glTargetImage, frame.slot + 1⟩ = some image :=
      (captured.current current).symm.trans target
    by_contra other
    refine tracked.handleId_ne taken ?_ present
    intro cells
    exact other (Cell.mk.inj cells).2
  · rintro ⟨rfl, current⟩
    exact (captured.current current).trans present

structure Agrees (watch : CopyWatch) (preview : Preview) : Prop where
  tracked : preview.bridge.Tracked
  last : ∀ frame, preview.last = some frame →
    Preview.Captured preview.bridge preview.rebuilds frame
  getSemaphoreCounterValue : preview.optimizer.pfnGetSemaphoreCounterValue = true
  waitSemaphores : preview.optimizer.pfnWaitSemaphores = true
  unfinished : ∀ image, watch.unfinished image =
    watch.latest.bind fun copy =>
      if copy.frame.target = some image then some copy.glSignal else none
  latest : ∀ copy, watch.latest = some copy → UnderWay preview copy
  display : watch.hasPendingCopy = true → ∀ copy, watch.latest = some copy →
    preview.widget.currentPoolIdx = copy.frame.slot

structure SameCopies (preview other : Preview) : Prop where
  bridge : other.bridge = preview.bridge
  last : other.last = preview.last
  rebuilds : other.rebuilds = preview.rebuilds
  optimizer : ∃ flags, other.optimizer = { preview.optimizer with slotGlSignaled := flags }
  display : other.widget.currentPoolIdx = preview.widget.currentPoolIdx

theorem SameCopies.underWay {preview other : Preview} (same : SameCopies preview other)
    {copy : SubmittedCopy} (underWay : UnderWay preview copy) : UnderWay other copy := by
  obtain ⟨captured, target, glSignal, signalValue, counter⟩ := underWay
  obtain ⟨flags, optimizer⟩ := same.optimizer
  refine ⟨?_, target, glSignal, ?_, ?_⟩
  · rw [same.bridge, same.rebuilds]
    exact captured
  · rw [optimizer]
    exact signalValue
  · rw [optimizer]
    exact counter

theorem SameCopies.agrees {preview other : Preview} (same : SameCopies preview other)
    {watch : CopyWatch} (agrees : Agrees watch preview) : Agrees watch other := by
  obtain ⟨flags, optimizer⟩ := same.optimizer
  refine ⟨?_, ?_, ?_, ?_, agrees.unfinished, ?_, ?_⟩
  · rw [same.bridge]
    exact agrees.tracked
  · rw [same.bridge, same.last, same.rebuilds]
    exact agrees.last
  · rw [optimizer]
    exact agrees.getSemaphoreCounterValue
  · rw [optimizer]
    exact agrees.waitSemaphores
  · exact fun copy latest => same.underWay (agrees.latest copy latest)
  · rw [same.display]
    exact agrees.display

theorem Agrees.finish {watch : CopyWatch} {preview : Preview} (agrees : Agrees watch preview) :
    Agrees watch.finish preview :=
  ⟨agrees.tracked, agrees.last, agrees.getSemaphoreCounterValue, agrees.waitSemaphores,
    fun _ => rfl, nofun, fun _ => nofun⟩

theorem Agrees.unpolled {watch other : CopyWatch} {preview : Preview}
    (agrees : Agrees watch preview) (unfinished : other.unfinished = watch.unfinished)
    (latest : other.latest = watch.latest)
    (polled : other.hasPendingCopy = true → watch.hasPendingCopy = true) :
    Agrees other preview := by
  obtain ⟨tracked, last, get, wait, holds, underWay, display⟩ := agrees
  refine ⟨tracked, last, get, wait, ?_, ?_, ?_⟩
  · rw [unfinished, latest]
    exact holds
  · rw [latest]
    exact underWay
  · rw [latest]
    exact fun pending => display (polled pending)

/-! ## The poll -/

theorem poll_cases (watch : CopyWatch) (preview : Preview) (ready : Bool) :
    watch.poll preview ready = watch ∨
      watch.hasPendingCopy = true ∧
        ((∃ polling frames, watch.poll preview ready =
            { watch.finish with hasPendingCopy := polling, pollFrames := frames }) ∨
          ∃ polling frames, watch.poll preview ready =
            { watch with hasPendingCopy := polling, pollFrames := frames }) := by
  unfold CopyWatch.poll
  split
  · exact .inl rfl
  next pending =>
    refine .inr ⟨by simpa using pending, ?_⟩
    split
    · exact .inl ⟨false, 0, rfl⟩
    split
    · exact .inr ⟨false, 0, rfl⟩
    · exact .inr ⟨watch.hasPendingCopy, watch.pollFrames + 1, rfl⟩

theorem Agrees.poll {watch : CopyWatch} {preview : Preview} (agrees : Agrees watch preview)
    (ready : Bool) : Agrees (watch.poll preview ready) preview := by
  rcases poll_cases watch preview ready with
    same | ⟨pending, ⟨polling, frames, finished⟩ | ⟨polling, frames, kept⟩⟩
  · rw [same]
    exact agrees
  · rw [finished]
    exact agrees.finish.unpolled rfl rfl fun _ => pending
  · rw [kept]
    exact agrees.unpolled rfl rfl fun _ => pending

theorem Agrees.take {watch : CopyWatch} {preview : Preview} (agrees : Agrees watch preview) :
    Agrees (watch.take preview) preview :=
  agrees.unpolled rfl rfl fun polled => (Bool.and_eq_true_iff.mp polled).1

/-! ## Up to the copy -/

theorem Agrees.resizePool {watch : CopyWatch} {preview : Preview} (agrees : Agrees watch preview)
    (width height : UInt32) (outcome : BuildOutcome) :
    Agrees watch (preview.resizePool width height outcome) := by
  obtain ⟨tracked, last, get, wait, unfinished, latest, display⟩ := agrees
  refine ⟨tracked.resizeGlTargetPool width height outcome, ?_, get, wait, unfinished, ?_, display⟩
  · exact fun frame cached => (last frame cached).resizePool width height outcome
  · intro copy noted
    obtain ⟨captured, target, glSignal, signalValue, counter⟩ := latest copy noted
    exact ⟨captured.resizePool width height outcome, target, glSignal, signalValue, counter⟩

theorem Agrees.select {watch : CopyWatch} {preview : Preview} (agrees : Agrees watch preview)
    (unpolled : watch.hasPendingCopy = false) (slot : Slot) :
    Agrees watch (preview.select slot) := by
  obtain ⟨tracked, last, get, wait, unfinished, latest, -⟩ := agrees
  refine ⟨tracked, last, get, wait, unfinished, ?_, ?_⟩
  · intro copy noted
    obtain ⟨captured, target, glSignal, signalValue, counter⟩ := latest copy noted
    exact ⟨captured, target, glSignal, signalValue, counter⟩
  · intro polled
    rw [unpolled] at polled
    cases polled

theorem approach_of_none {preview : Preview} (empty : preview.widget.pending = none)
    (outcome : PaintOutcome) : preview.approach outcome = .rendering preview.takeFrames := by
  unfold Preview.approach
  rw [empty]

theorem widget_sameCopies (preview : Preview) {other : Preview}
    (widget : other = { preview with widget := other.widget })
    (display : other.widget.currentPoolIdx = preview.widget.currentPoolIdx) :
    SameCopies preview other := by
  rw [widget]
  exact ⟨rfl, rfl, rfl, ⟨preview.optimizer.slotGlSignaled, rfl⟩, display⟩

theorem Agrees.approach {watch : CopyWatch} {preview : Preview} (agrees : Agrees watch preview)
    (unpolled : preview.widget.pending ≠ none → watch.hasPendingCopy = false)
    (outcome : PaintOutcome) : (preview.approach outcome).Holds (Agrees watch) := by
  have same : SameCopies preview preview.takeFrames := widget_sameCopies preview rfl rfl
  have taken := same.agrees agrees
  cases given : preview.widget.pending with
  | none =>
      rw [approach_of_none given]
      exact taken
  | some pending =>
      have quiet := unpolled (by simp [given])
      exact Preview.approach_holds
        (fun preview width height outcome kept => kept.resizePool width height outcome)
        (fun preview slot kept => kept.select quiet slot) taken outcome

/-- A call of `execute_copy` shows the slot of its frame, and the optimizer is as before. -/
theorem copying_cases {preview : Preview} (tracked : preview.bridge.Tracked)
    (waiting : preview.Waiting) {outcome : PaintOutcome} {called : Preview}
    {pending : PendingFrame} {args : CopyArgs}
    (copying : preview.approach outcome = .copying called pending args) :
    Preview.Captured called.bridge called.rebuilds pending.frame ∧
      args = called.copyArgs pending ∧ called.optimizer = preview.optimizer ∧
        called.widget.currentPoolIdx = pending.frame.slot := by
  rcases preview.approach_cases outcome with other | other | ⟨given, present, other | same⟩
  · cases copying.symm.trans other
  · cases copying.symm.trans other
  · cases copying.symm.trans other
  · cases copying.symm.trans same
    have captured := waiting given present
    unfold Preview.fitPool
    split
    · exact ⟨(captured.resizePool _ _ _).refetch (tracked.resizeGlTargetPool _ _ _), rfl, rfl, rfl⟩
    · exact ⟨captured, rfl, rfl, rfl⟩

/-! ## The copy -/

theorem seesLast_of_submitted {optimizer : CopyOptimizer} {args : CopyArgs}
    {outcome : CopyOutcome} (get : optimizer.pfnGetSemaphoreCounterValue = true)
    (wait : optimizer.pfnWaitSemaphores = true) (signalValue : optimizer.signalValueForSubmit ≠ 0)
    (submitted : (optimizer.executeCopy args outcome).2.submitted = true) :
    optimizer.SeesLast args outcome := by
  obtain ⟨job, -, made⟩ := CopyOptimizer.executeCopy_submitted submitted
  have recorded : (optimizer.executeCopy args outcome).2.recorded ≠ [] := by
    rw [made]
    exact List.cons_ne_nil _ _
  obtain ⟨checked, inTime, -, -⟩ := (optimizer.recorded_iff args outcome).mp recorded
  have positive : 0 < optimizer.signalValueForSubmit := UInt64.pos_iff_ne_zero.mpr signalValue
  refine ⟨checked, positive, get, wait, ?_⟩
  intro behind
  by_contra late
  exact inTime ⟨⟨positive, get, wait, behind⟩, Bool.eq_false_of_not_eq_true late⟩

theorem Agrees.seen {watch : CopyWatch} {called : Preview} (agrees : Agrees watch called)
    (args : CopyArgs) (outcome : CopyOutcome) :
    Agrees (if called.optimizer.SeesLast args outcome then watch.finish else watch) called := by
  split
  · exact agrees.finish
  · exact agrees

theorem Agrees.none_under_way {watch : CopyWatch} {called : Preview}
    (agrees : Agrees watch called) {args : CopyArgs} {outcome : CopyOutcome}
    (submitted : (called.optimizer.executeCopy args outcome).2.submitted = true) (image : Nat) :
    (if called.optimizer.SeesLast args outcome then watch.finish else watch).unfinished image =
      none := by
  split
  next => rfl
  next unseen =>
    rw [agrees.unfinished]
    cases noted : watch.latest with
    | none => rfl
    | some copy =>
        have sees := seesLast_of_submitted agrees.getSemaphoreCounterValue agrees.waitSemaphores
          (agrees.latest copy noted).signalValue submitted
        exact absurd sees unseen

theorem Agrees.rolledBack {watch : CopyWatch} {preview : Preview} (agrees : Agrees watch preview) :
    Agrees watch { preview with optimizer := { preview.optimizer with
      signalValueForSubmit := preview.optimizer.timelineCounter } } := by
  obtain ⟨tracked, last, get, wait, unfinished, latest, display⟩ := agrees
  refine ⟨tracked, last, get, wait, unfinished, ?_, display⟩
  intro copy noted
  obtain ⟨captured, target, glSignal, -, counter⟩ := latest copy noted
  exact ⟨captured, target, glSignal, counter, counter⟩

theorem Agrees.submitCopy {watch : CopyWatch} {called : Preview} (agrees : Agrees watch called)
    {pending : PendingFrame}
    (captured : Preview.Captured called.bridge called.rebuilds pending.frame)
    (shown : called.widget.currentPoolIdx = pending.frame.slot)
    (unwrapped : called.optimizer.timelineCounter + frameIncrement ≠ 0) (outcome : CopyOutcome) :
    Agrees (watch.submit outcome (.copying called pending (called.copyArgs pending)))
      (called.submitCopy pending (called.copyArgs pending) outcome).1 := by
  have seen := agrees.seen (called.copyArgs pending) outcome
  have nothing := @agrees.none_under_way _ _ (called.copyArgs pending) outcome
  dsimp only [CopyWatch.submit]
  unfold Preview.submitCopy
  cases submitted :
    (called.optimizer.executeCopy (called.copyArgs pending) outcome).2.submitted with
  | true =>
      obtain ⟨job, checked, made⟩ := CopyOptimizer.executeCopy_submitted submitted
      rw [made] at submitted ⊢
      dsimp only
      rw [if_pos rfl, if_pos rfl]
      refine ⟨agrees.tracked, agrees.last, agrees.getSemaphoreCounterValue,
        agrees.waitSemaphores, ?_, ?_, ?_⟩
      · intro image
        dsimp only [CopyWatch.note]
        rw [nothing (by rw [made])]
        rfl
      · intro copy noted
        cases noted
        refine ⟨captured, ?_, ?_, unwrapped, unwrapped⟩
        · rw [(Preview.job_images checked).2]
          simp
        · intro slot signals
          obtain ⟨-, rfl, -⟩ := Preview.glSignal_eq_some signals
          exact (Preview.job_slots checked).2
      · intro _ copy noted
        cases noted
        exact shown
  | false =>
      dsimp only
      rw [submitted, if_neg Bool.false_ne_true, if_neg Bool.false_ne_true]
      rcases CopyOptimizer.executeCopy_unsubmitted submitted with ⟨-, kept | rolledBack⟩
      · rw [kept]
        exact seen
      · rw [rolledBack]
        exact seen.rolledBack

/-! ## The render path -/

theorem importTexture_sameCopies (preview : Preview) (pending : PendingFrame)
    (outcome : PaintOutcome) : SameCopies preview (preview.importTexture pending outcome) := by
  unfold Preview.importTexture
  dsimp only
  split <;> exact ⟨rfl, rfl, rfl, ⟨_, rfl⟩, rfl⟩

theorem consume_sameCopies (preview : Preview) : SameCopies preview preview.consume := by
  unfold Preview.consume
  split <;> exact ⟨rfl, rfl, rfl, ⟨_, rfl⟩, rfl⟩

theorem Agrees.await {watch : CopyWatch} {preview : Preview} (agrees : Agrees watch preview)
    (slot : Slot) : Agrees (watch.await slot) preview := by
  obtain ⟨tracked, last, get, wait, unfinished, latest, display⟩ := agrees
  refine ⟨tracked, last, get, wait, ?_, ?_, ?_⟩
  · intro image
    dsimp only [CopyWatch.await]
    rw [unfinished]
    cases watch.latest with
    | none => rfl
    | some copy =>
        rw [Option.filter_some]
        by_cases target : copy.frame.target = some image
        · by_cases signals : copy.glSignal = some slot
          · simp [target, signals, Option.filter_some]
          · simp [target, signals, Option.filter_some]
        · by_cases signals : copy.glSignal = some slot
          · simp [target, signals]
          · simp [target, signals]
  · intro copy noted
    exact latest copy (Option.filter_eq_some_iff.mp noted).1
  · intro polled copy noted
    exact display polled copy (Option.filter_eq_some_iff.mp noted).1

theorem glWait_eq_display {preview : Preview} (waits : preview.glWait ≠ none) :
    preview.glWait = some preview.widget.currentPoolIdx := by
  unfold Preview.glWait at waits ⊢
  dsimp only at waits ⊢
  split at waits
  next ready => exact if_pos ready
  next => exact absurd rfl waits

/-! ## Calls -/

theorem Agrees.copyFrame {watch : CopyWatch} {preview : Preview} (agrees : Agrees watch preview)
    (unpolled : preview.widget.pending ≠ none → watch.hasPendingCopy = false)
    (waiting : preview.Waiting)
    (unwrapped : preview.optimizer.timelineCounter + frameIncrement ≠ 0) (outcome : PaintOutcome) :
    (Preview.copyFrame outcome (preview.approach outcome)).Holds
      (Agrees (watch.submit outcome.copy (preview.approach outcome))) := by
  have approached := agrees.approach unpolled outcome
  cases paint : preview.approach outcome with
  | returned next =>
      rw [paint] at approached
      exact approached
  | rendering next =>
      rw [paint] at approached
      exact approached
  | copying called pending args =>
      rw [paint] at approached
      obtain ⟨captured, rfl, same, shown⟩ := copying_cases agrees.tracked waiting paint
      rw [← same] at unwrapped
      have copied := Agrees.submitCopy approached captured shown unwrapped outcome.copy
      rw [Preview.copyFrame]
      cases result : called.submitCopy pending (called.copyArgs pending) outcome.copy with
      | mk next ok =>
          rw [result] at copied
          cases ok with
          | true => exact (importTexture_sameCopies next pending outcome).agrees copied
          | false => exact copied

theorem Agrees.render {watch : CopyWatch} {paint : Paint} (agrees : paint.Holds (Agrees watch))
    (outcome : PaintOutcome) : Agrees (watch.wait paint) (Preview.render outcome paint) := by
  cases paint with
  | returned preview => exact agrees
  | copying preview pending args => exact agrees
  | rendering drawn =>
      have waited : Agrees (watch.wait (.rendering drawn)) drawn := by
        dsimp only [CopyWatch.wait]
        split
        · exact Agrees.await agrees _
        · exact agrees
      rw [Preview.render]
      split
      · exact waited
      · have same : SameCopies drawn.consume (drawn.consume.fence outcome.fenceSync) :=
          widget_sameCopies drawn.consume rfl rfl
        exact same.agrees ((consume_sameCopies drawn).agrees waited)

structure Invariant (sampling : Sampling) : Prop where
  agrees : Agrees sampling.watch sampling.preview
  waiting : sampling.preview.Waiting

theorem Invariant.takes {sampling : Sampling} (invariant : sampling.Invariant) (ready : Bool) :
    Agrees ((sampling.watch.poll sampling.preview ready).take sampling.preview)
      sampling.preview :=
  (invariant.agrees.poll ready).take

theorem take_quiet (watch : CopyWatch) (preview : Preview) :
    preview.widget.pending ≠ none → (watch.take preview).hasPendingCopy = false := by
  intro given
  obtain ⟨pending, present⟩ := Option.ne_none_iff_exists'.mp given
  simp [CopyWatch.take, present]

theorem Agrees.captureFrame {watch : CopyWatch} {preview : Preview}
    (agrees : Agrees watch preview) (tex : Option Texture2D) (slot : Slot) (locked : Bool)
    (outcome : ImportOutcome) : Agrees watch (preview.captureFrame tex slot locked outcome) := by
  obtain ⟨tracked, last, get, wait, unfinished, latest, display⟩ := agrees
  have imported : ∀ copy, watch.latest = some copy →
      UnderWay { preview with bridge := preview.bridge.getFrameImages tex slot outcome } copy := by
    intro copy noted
    obtain ⟨captured, target, glSignal, signalValue, counter⟩ := latest copy noted
    exact ⟨captured.import tex slot outcome, target, glSignal, signalValue, counter⟩
  unfold Preview.captureFrame
  split
  · exact ⟨tracked, last, get, wait, unfinished, latest, display⟩
  have later := tracked.getFrameImages tex slot outcome
  dsimp only
  split
  · refine ⟨later, ?_, get, wait, unfinished, ?_, display⟩
    · exact fun frame images => Preview.captured_frameImages later images
    · intro copy noted
      obtain ⟨captured, target, glSignal, signalValue, counter⟩ := imported copy noted
      exact ⟨captured, target, glSignal, signalValue, counter⟩
  · exact ⟨later, fun frame cached => (last frame cached).import tex slot outcome, get, wait,
      unfinished, imported, display⟩

theorem step_invariant {sampling next : Sampling} {call : Call} (invariant : sampling.Invariant)
    (unwrapped : sampling.Unwrapped call) (stepped : step sampling call = some next) :
    next.Invariant := by
  cases stepped
  obtain ⟨agrees, waiting⟩ := invariant
  obtain ⟨action, ready⟩ := call
  cases action with
  | captureFrame tex slot locked outcome =>
      exact ⟨agrees.captureFrame tex slot locked outcome,
        waiting.captureFrame tex slot locked outcome⟩
  | submitD3d11Frame width height =>
      dsimp only [advance, watched, Preview.perform]
      unfold Preview.submitD3d11Frame
      split
      next => exact ⟨agrees, waiting⟩
      next frame cached =>
        split
        · exact ⟨agrees, waiting⟩
        · have same : SameCopies sampling.preview { sampling.preview with
              widget := { sampling.preview.widget with
                pending := some ⟨frame, width, height⟩ } } :=
            widget_sameCopies sampling.preview rfl rfl
          refine ⟨same.agrees agrees, ?_⟩
          intro pending given
          cases given
          exact agrees.last frame cached
  | uploadCpuFrame width height =>
      have same : SameCopies sampling.preview (sampling.preview.uploadCpuFrame width height) :=
        widget_sameCopies sampling.preview rfl rfl
      exact ⟨same.agrees agrees, waiting⟩
  | setCopyOptimizer wired =>
      have same : SameCopies sampling.preview
          (sampling.preview.perform (.setCopyOptimizer wired)) :=
        widget_sameCopies sampling.preview rfl rfl
      exact ⟨same.agrees agrees, waiting⟩
  | setBridge wired =>
      have same : SameCopies sampling.preview (sampling.preview.perform (.setBridge wired)) :=
        widget_sameCopies sampling.preview rfl rfl
      exact ⟨same.agrees agrees, waiting⟩
  | paintGl outcome =>
      refine ⟨?_, ?_⟩
      · exact Agrees.render
          ((Invariant.takes ⟨agrees, waiting⟩ ready).copyFrame (take_quiet _ _) waiting unwrapped
            outcome) outcome
      · intro pending given
        cases (sampling.preview.paintGl_pending outcome).symm.trans given

/-! ## What is sampled -/

theorem latest_of_poll {watch : CopyWatch} {preview : Preview} {ready : Bool}
    {copy : SubmittedCopy} (noted : (watch.poll preview ready).latest = some copy) :
    watch.latest = some copy := by
  rcases poll_cases watch preview ready with
    same | ⟨-, ⟨polling, frames, finished⟩ | ⟨polling, frames, kept⟩⟩
  · rw [same] at noted
    exact noted
  · rw [finished] at noted
    cases noted
  · rw [kept] at noted
    exact noted

theorem Agrees.quiet {watch : CopyWatch} {preview : Preview} (agrees : Agrees watch preview)
    {copy : SubmittedCopy} (noted : watch.latest = some copy)
    (ahead : preview.widget.currentPoolIdx = copy.frame.slot + 1) :
    watch.hasPendingCopy = false := by
  apply Bool.eq_false_of_not_eq_true
  intro polled
  have apart : ∀ slot : Slot, slot ≠ slot + 1 := by decide
  exact apart copy.frame.slot ((agrees.display polled copy noted).symm.trans ahead)

theorem waited_iff_of_none {sampling : Sampling} (invariant : sampling.Invariant)
    (outcome : PaintOutcome) (ready : Bool) (empty : sampling.preview.widget.pending = none) :
    sampling.Waited ⟨.paintGl outcome, ready⟩ ↔ sampling.Settled ⟨.paintGl outcome, ready⟩ := by
  obtain ⟨agrees, -⟩ := invariant
  have approached := approach_of_none empty outcome
  constructor
  · intro waited other painted _ slot shown copy noted ahead current
    cases painted
    obtain ⟨captured, target, -, -, -⟩ := agrees.latest copy noted
    obtain ⟨image, written⟩ := Option.ne_none_iff_exists'.mp target
    have present : sampling.preview.bridge.handleId ⟨.glTargetImage, slot⟩ = some image := by
      rw [ahead]
      exact (captured.current current).symm.trans written
    have unpolled : sampling.watch.poll sampling.preview ready = sampling.watch :=
      if_pos (agrees.quiet noted ahead)
    have unfinished : (sampling.submitted outcome ready).unfinished image =
        some copy.glSignal := by
      rw [submitted, approached, unpolled]
      change sampling.watch.unfinished image = _
      rw [agrees.unfinished, noted]
      exact if_pos written
    obtain ⟨signals, waits⟩ := waited outcome rfl sampling.preview.takeFrames
      (congrArg _ approached) shown image present copy.glSignal unfinished
    refine ⟨signals, ?_⟩
    rw [show sampling.preview.glWait = _ from waits]
    exact signals
  · intro settled other painted drawn rendering shown image present glSignal unfinished
    cases painted
    rw [approached] at rendering
    cases rendering
    have polled : (sampling.watch.poll sampling.preview ready).unfinished image =
        some glSignal := by
      rw [submitted, approached] at unfinished
      exact unfinished
    rw [(agrees.poll ready).unfinished] at polled
    obtain ⟨copy, found, written⟩ := Option.bind_eq_some_iff.mp polled
    obtain ⟨target, same⟩ := Option.ite_none_right_eq_some.mp written
    cases same
    have noted := latest_of_poll found
    have underWay := agrees.latest copy noted
    obtain ⟨ahead, current⟩ := (target_eq_iff agrees.tracked underWay.captured present).mp target
    obtain ⟨signals, waits⟩ := settled outcome rfl empty shown copy noted ahead current
    obtain ⟨slot, signal⟩ := Option.ne_none_iff_exists'.mp signals
    refine ⟨signals, (glWait_eq_display waits).trans ?_⟩
    rw [signal, underWay.glSignal slot signal]
    exact congrArg some ahead

/-- A frame gets to the render path by a copy, for which the polling starts. -/
theorem submit_polls {preview drawn : Preview} (given : preview.widget.pending ≠ none)
    {outcome : PaintOutcome}
    (rendering : Preview.copyFrame outcome (preview.approach outcome) = .rendering drawn)
    (watch : CopyWatch) :
    (watch.submit outcome.copy (preview.approach outcome)).hasPendingCopy = true := by
  cases paint : preview.approach outcome with
  | returned next =>
      rw [paint] at rendering
      cases rendering
  | rendering next =>
      obtain ⟨pending, present⟩ := Option.ne_none_iff_exists'.mp given
      unfold Preview.approach at paint
      rw [present] at paint
      dsimp only at paint
      split at paint
      · cases paint
      split at paint
      · cases paint
      · cases paint
  | copying called pending args =>
      rw [paint] at rendering
      unfold Preview.copyFrame Preview.submitCopy at rendering
      dsimp only [CopyWatch.submit] at rendering ⊢
      cases submitted : (called.optimizer.executeCopy args outcome.copy).2.submitted with
      | true =>
          rw [if_pos rfl]
          rfl
      | false =>
          rw [submitted] at rendering
          cases rendering

/-- A `paintGL` that submits a copy saw the end of all before it, and shows another image than
the one that it writes. -/
theorem waited_of_pending {sampling : Sampling} (invariant : sampling.Invariant)
    (outcome : PaintOutcome) (ready : Bool)
    (unwrapped : sampling.preview.optimizer.timelineCounter + frameIncrement ≠ 0)
    (given : sampling.preview.widget.pending ≠ none) :
    sampling.Waited ⟨.paintGl outcome, ready⟩ := by
  intro other painted drawn rendering shown image present glSignal unfinished
  cases painted
  have copied : Agrees (sampling.submitted outcome ready) drawn := by
    have holds := (invariant.takes ready).copyFrame (take_quiet _ _) invariant.waiting unwrapped
      outcome
    rw [rendering] at holds
    exact holds
  rw [show (sampling.submitted outcome ready).unfinished image = _ from copied.unfinished image]
    at unfinished
  obtain ⟨copy, noted, written⟩ := Option.bind_eq_some_iff.mp unfinished
  obtain ⟨target, -⟩ := Option.ite_none_right_eq_some.mp written
  have ahead := ((target_eq_iff copied.tracked (copied.latest copy noted).captured present).mp
    target).1
  have polls := submit_polls given rendering
    ((sampling.watch.poll sampling.preview ready).take sampling.preview)
  cases polls.symm.trans (copied.quiet noted ahead)

theorem waited_of_other {sampling : Sampling} {call : Call}
    (other : ∀ outcome, call.action ≠ .paintGl outcome) : sampling.Waited call :=
  fun outcome painted => absurd painted (other outcome)

theorem settled_of_other {sampling : Sampling} {call : Call}
    (other : ∀ outcome, call.action ≠ .paintGl outcome) : sampling.Settled call :=
  fun outcome painted => absurd painted (other outcome)

theorem waited_iff_settled_step {sampling : Sampling} (invariant : sampling.Invariant)
    {call : Call} (unwrapped : sampling.Unwrapped call) :
    sampling.Waited call ↔ sampling.Settled call := by
  obtain ⟨action, ready⟩ := call
  cases action with
  | paintGl outcome =>
      by_cases empty : sampling.preview.widget.pending = none
      · exact waited_iff_of_none invariant outcome ready empty
      · exact iff_of_true (waited_of_pending invariant outcome ready unwrapped empty)
          fun _ _ none => absurd none empty
  | captureFrame tex slot locked outcome =>
      exact iff_of_true (waited_of_other fun _ => nofun) (settled_of_other fun _ => nofun)
  | submitD3d11Frame width height =>
      exact iff_of_true (waited_of_other fun _ => nofun) (settled_of_other fun _ => nofun)
  | uploadCpuFrame width height =>
      exact iff_of_true (waited_of_other fun _ => nofun) (settled_of_other fun _ => nofun)
  | setCopyOptimizer wired =>
      exact iff_of_true (waited_of_other fun _ => nofun) (settled_of_other fun _ => nofun)
  | setBridge wired =>
      exact iff_of_true (waited_of_other fun _ => nofun) (settled_of_other fun _ => nofun)

/-- GL samples no image with a copy under way that it does not wait for, in a run that does not
use up the timeline, exactly if every `paintGL` without a frame finds the display settled. -/
theorem waited_iff_settled {setUp : List Bridge.Call} {bridge : Bridge}
    (made : Machine.exec Bridge.step Bridge.start setUp = some bridge)
    {earlier optimizer : CopyOptimizer} {device queue physDevice : Option Nat}
    {outcome : InitOutcome}
    (initialised : earlier.init device queue physDevice outcome = (optimizer, true))
    (functions : GlFunctions) (glSyncSemaphores : Slot → Bool) (calls : List Call)
    (unwrapped : Machine.Along step Unwrapped
      (start (Preview.start bridge optimizer functions glSyncSemaphores)) calls) :
    Machine.Along step Waited
        (start (Preview.start bridge optimizer functions glSyncSemaphores)) calls ↔
      Machine.Along step Settled
        (start (Preview.start bridge optimizer functions glSyncSemaphores)) calls := by
  obtain ⟨get, wait⟩ := CopyOptimizer.init_functions initialised
  have initially :
      (start (Preview.start bridge optimizer functions glSyncSemaphores)).Invariant :=
    ⟨⟨Bridge.run_tracked made, nofun, get, wait, fun _ => rfl, nofun, nofun⟩, nofun⟩
  obtain ⟨finish, executed⟩ := Machine.exec_total
    (fun sampling call => ⟨advance sampling call, rfl⟩)
    (start (Preview.start bridge optimizer functions glSyncSemaphores)) calls
  apply Machine.along_congr_along _ _ initially executed unwrapped
  · intro sampling call next invariant unwrapped stepped
    exact step_invariant invariant unwrapped stepped
  · intro sampling call next invariant unwrapped _
    exact waited_iff_settled_step invariant unwrapped

instance (sampling : Sampling) : ∀ call, Decidable (sampling.Settled call)
  | ⟨.paintGl outcome, ready⟩ =>
      decidable_of_iff (¬ (sampling.preview.widget.pending = none ∧
        sampling.preview.widget.glInteropTextures sampling.preview.widget.currentPoolIdx = true ∧
          ∃ copy ∈ sampling.watch.latest,
            sampling.preview.widget.currentPoolIdx = copy.frame.slot + 1 ∧
              copy.frame.takenAt = sampling.preview.rebuilds ∧
                ¬ (copy.glSignal ≠ none ∧ sampling.preview.glWait ≠ none)))
        (by simp [Settled])
  | ⟨.captureFrame _ _ _ _, _⟩ => isTrue (settled_of_other fun _ => nofun)
  | ⟨.submitD3d11Frame _ _, _⟩ => isTrue (settled_of_other fun _ => nofun)
  | ⟨.uploadCpuFrame _ _, _⟩ => isTrue (settled_of_other fun _ => nofun)
  | ⟨.setCopyOptimizer _, _⟩ => isTrue (settled_of_other fun _ => nofun)
  | ⟨.setBridge _, _⟩ => isTrue (settled_of_other fun _ => nofun)

instance (sampling : Sampling) (call : Call) : Decidable (sampling.Unwrapped call) :=
  inferInstanceAs (Decidable (_ ≠ _))

/-- A call whose poll, if it makes one, does not see the copy done. -/
def unready (action : Preview.Action) : Call := ⟨action, false⟩

/-- A `paintGL` whose copy times out on the last one. -/
def lateCopy : PaintOutcome :=
  { Preview.smooth with copy := ⟨0, false, true, true, true, true⟩ }

def shownFrames (slots : List Slot) : List Preview.Action :=
  [.setCopyOptimizer true, .setBridge true] ++
    slots.flatMap fun slot =>
      Preview.showFrame 7 1920 1080 slot ++ [.paintGl Preview.smooth]

/-- Another frame in slot 1, whose copy is not made. -/
def overtaken (slots : List Slot) : List Call :=
  List.map unready
    (shownFrames slots ++ Preview.showFrame 7 1920 1080 1 ++ [.paintGl lateCopy])

/-- One frame in slot 0: its copy into image 1 is waited for. -/
theorem waited_one_frame_before :
    Machine.Along step Waited (start (Preview.ready 1920 1080))
      (overtaken [1, 0] ++ [unready (.paintGl Preview.smooth)]) := by
  have made : Machine.exec Bridge.step Bridge.start (Preview.bridgeCalls 1920 1080) =
      some (Preview.readyBridge 1920 1080) := rfl
  have initialised : CopyOptimizer.start.init (some 1) (some 3) (some 2)
      ⟨true, true, true, true, true, true, true⟩ = (Preview.readyOptimizer, true) := rfl
  have unwrapped : Machine.Along step Unwrapped (start (Preview.ready 1920 1080))
      (overtaken [1, 0] ++ [unready (.paintGl Preview.smooth)]) := by
    decide +kernel
  have settled : Machine.Along step Settled (start (Preview.ready 1920 1080))
      (overtaken [1, 0] ++ [unready (.paintGl Preview.smooth)]) := by
    decide +kernel
  exact (waited_iff_settled made initialised _ _ _ unwrapped).mpr settled

/-- Two frames in slot 0: the second copy into image 1 is under way without a signal when GL
samples the image. -/
theorem half_written_image_sampled :
    ¬Machine.Along step Waited (start (Preview.ready 1920 1080))
      (overtaken [1, 0, 0] ++ [unready (.paintGl Preview.smooth)]) := by
  intro along
  have met : (Machine.exec step (start (Preview.ready 1920 1080)) (overtaken [1, 0, 0])).map
      (fun sampling =>
        let widget := sampling.preview.widget
        (decide (widget.pending = none), widget.glInteropTextures widget.currentPoolIdx,
          sampling.preview.bridge.handleId ⟨.glTargetImage, widget.currentPoolIdx⟩,
          (sampling.submitted Preview.smooth false).unfinished 3)) =
        some (true, true, some 3, some none) := by
    decide +kernel
  obtain ⟨sampling, executed, observed⟩ := Option.map_eq_some_iff.mp met
  simp only [Prod.mk.injEq, decide_eq_true_eq] at observed
  obtain ⟨empty, shown, present, unfinished⟩ := observed
  have waited := ((Machine.along_append.mp along).2 sampling executed).1
  have drawn := congrArg (Preview.copyFrame Preview.smooth)
    (approach_of_none empty Preview.smooth)
  exact (waited Preview.smooth rfl _ drawn shown 3 present none unfinished).1 rfl

end Sampling

end RejiStudio.Gpu
