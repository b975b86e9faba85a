import RejiStudio.Gpu.GlSync
import RejiStudio.Gpu.TargetImages

/-!
# Tracked layouts of the GL targets

`target_layouts_` remembers for each slot that a copy was submitted, whatever became of the
image since: a rebuild of the pool does not reach the optimizer.  The tracking is truthful as
long as a copy meets the pool that its image and its slot's last copy are from.
-/

namespace RejiStudio.Gpu

open RejiStudio.Lib

namespace Preview

/-- A barrier that `execute_copy` records for a slot names a layout that the image is in, and
the image is the one that the pool has one slot ahead. -/
def Truthful (preview : Preview) : Action → Prop
  | .paintGl outcome =>
      ∀ called pending args, preview.approach outcome = .copying called pending args →
        ∀ image oldLayout, .pipelineBarrier image oldLayout .transferDstOptimal ∈
            (called.optimizer.executeCopy args outcome.copy).2.recorded →
          (oldLayout = .undefined ∨ oldLayout = called.layouts image) ∧
            called.bridge.getExecuteTarget pending.frame.slot = some image
  | _ => True

/-- A copy that gets as far as recording has its target from the pool as it is, and so has
the last copy submitted for its slot. -/
def UpToDate (preview : Preview) : Action → Prop
  | .paintGl outcome =>
      ∀ called pending args, preview.approach outcome = .copying called pending args →
        called.optimizer.Records args outcome.copy →
          pending.frame.takenAt = called.rebuilds ∧
            ∀ count, called.copiedAt pending.frame.slot = some count → count = called.rebuilds
  | _ => True

/-! ## Commands -/

theorem executeCommands_record (optimizer : CopyOptimizer) (job : CopyJob)
    (layouts : Nat → ImageLayout) (image : Nat) :
    executeCommands (optimizer.record job) layouts image =
      if image = job.staging then .transferSrcOptimal
      else if image = job.target then .shaderReadOnlyOptimal
      else layouts image := by
  have draws : executeCommands (optimizer.record job) layouts =
      Function.update (Function.update (Function.update (Function.update layouts job.staging
        .transferSrcOptimal) job.target .transferDstOptimal) job.target .shaderReadOnlyOptimal)
        job.staging .transferSrcOptimal := by
    unfold executeCommands CopyOptimizer.record
    cases optimizer.useBlit <;> rfl
  rw [draws]
  by_cases staging : image = job.staging
  · rw [if_pos staging, staging, Function.update_self]
  · rw [if_neg staging, Function.update_of_ne staging]
    by_cases target : image = job.target
    · rw [if_pos target, target, Function.update_self]
    · rw [if_neg target, Function.update_of_ne target, Function.update_of_ne target,
        Function.update_of_ne staging]

theorem mem_record_iff {optimizer : CopyOptimizer} {job : CopyJob} {image : Nat}
    {oldLayout : ImageLayout} :
    .pipelineBarrier image oldLayout .transferDstOptimal ∈ optimizer.record job ↔
      image = job.target ∧ oldLayout = optimizer.targetLayouts job.slot := by
  unfold CopyOptimizer.record
  cases optimizer.useBlit <;> simp

/-! ## The invariant -/

/-- What is known of a captured frame after so many rebuilds: its images existed, and its
target is the pool's current one exactly until the next rebuild. -/
structure Captured (bridge : Bridge) (rebuilds : Nat) (frame : Frame) : Prop where
  known : frame.takenAt ≤ rebuilds
  staging : frame.staging < bridge.handles.created
  apart : ∀ j, bridge.handleId ⟨.glTargetImage, j⟩ ≠ some frame.staging
  target : ∀ image, frame.target = some image → image < bridge.handles.created
  current : frame.takenAt = rebuilds → frame.target = bridge.getExecuteTarget frame.slot
  stale : frame.takenAt < rebuilds → ∀ image, frame.target = some image →
    ∀ j, bridge.handleId ⟨.glTargetImage, j⟩ ≠ some image

structure Tracking (preview : Preview) : Prop where
  tracked : preview.bridge.Tracked
  drawn : ∀ image, preview.layouts image ≠ .undefined → image < preview.bridge.handles.created
  targetLayouts : ∀ slot, preview.optimizer.targetLayouts slot =
    if (preview.copiedAt slot).isSome then .shaderReadOnlyOptimal else .undefined
  counted : ∀ slot count, preview.copiedAt slot = some count → count ≤ preview.rebuilds
  left : ∀ slot image, preview.bridge.getExecuteTarget slot = some image →
    preview.layouts image =
      if preview.copiedAt slot = some preview.rebuilds then .shaderReadOnlyOptimal
      else .undefined
  last : ∀ frame, preview.last = some frame → Captured preview.bridge preview.rebuilds frame

def Waiting (preview : Preview) : Prop :=
  ∀ pending, preview.widget.pending = some pending →
    Captured preview.bridge preview.rebuilds pending.frame

structure SameTracking (preview other : Preview) : Prop where
  bridge : other.bridge = preview.bridge
  targetLayouts : other.optimizer.targetLayouts = preview.optimizer.targetLayouts
  last : other.last = preview.last
  layouts : other.layouts = preview.layouts
  rebuilds : other.rebuilds = preview.rebuilds
  copiedAt : other.copiedAt = preview.copiedAt

theorem SameTracking.tracking {preview other : Preview} (same : SameTracking preview other)
    (tracking : preview.Tracking) : other.Tracking := by
  obtain ⟨tracked, drawn, targetLayouts, counted, left, last⟩ := tracking
  refine ⟨?_, ?_, ?_, ?_, ?_, ?_⟩
  · rw [same.bridge]
    exact tracked
  · rw [same.layouts, same.bridge]
    exact drawn
  · rw [same.targetLayouts, same.copiedAt]
    exact targetLayouts
  · rw [same.copiedAt, same.rebuilds]
    exact counted
  · rw [same.bridge, same.layouts, same.copiedAt, same.rebuilds]
    exact left
  · rw [same.last, same.bridge, same.rebuilds]
    exact last

/-! ## Frames -/

/-- The bridge hands out the current target, and a staging image that is not in the pool. -/
theorem captured_frameImages {preview : Preview} (tracked : preview.bridge.Tracked)
    {slot : Slot} {frame : Frame} (images : preview.frameImages slot = some frame) :
    Captured preview.bridge preview.rebuilds frame := by
  unfold frameImages at images
  obtain ⟨staging, present, taken⟩ := Option.bind_eq_some_iff.mp images
  obtain ⟨target, current, rfl⟩ := Option.map_eq_some_iff.mp taken
  constructor
  · exact Nat.le_refl _
  · exact tracked.handleId_lt present
  · intro j same
    exact tracked.handleId_ne same (by simp) present
  · intro image equal
    cases equal
    exact tracked.handleId_lt current
  · exact fun _ => current.symm
  · intro earlier
    exact absurd earlier (Nat.lt_irrefl _)

/-- Another import leaves the pool, so the frames before it stay as they are. -/
theorem Captured.import {bridge : Bridge} {rebuilds : Nat} {frame : Frame}
    (captured : Captured bridge rebuilds frame) (tex : Option Texture2D) (slot : Nat)
    (outcome : ImportOutcome) :
    Captured (bridge.getFrameImages tex slot outcome) rebuilds frame := by
  have pool : ∀ j, (bridge.getFrameImages tex slot outcome).handleId ⟨.glTargetImage, j⟩ =
      bridge.handleId ⟨.glTargetImage, j⟩ := by
    intro j
    rw [Bridge.handleId, bridge.getFrameImages_target tex slot outcome j]
    rfl
  have later := bridge.getFrameImages_created tex slot outcome
  obtain ⟨known, staging, apart, target, current, stale⟩ := captured
  refine ⟨known, Nat.lt_of_lt_of_le staging later, ?_, ?_, ?_, ?_⟩
  · intro j
    rw [pool]
    exact apart j
  · exact fun image equal => Nat.lt_of_lt_of_le (target image equal) later
  · intro now
    rw [current now]
    exact (pool _).symm
  · intro earlier image equal j
    rw [pool]
    exact stale earlier image equal j

theorem Tracking.captureFrame {preview : Preview} (tracking : preview.Tracking)
    (tex : Option Texture2D) (slot : Slot) (locked : Bool) (outcome : ImportOutcome) :
    (preview.captureFrame tex slot locked outcome).Tracking := by
  have captured : Tracking { preview with
      bridge := preview.bridge.getFrameImages tex slot outcome } := by
    obtain ⟨tracked, drawn, targetLayouts, counted, left, last⟩ := tracking
    refine ⟨tracked.getFrameImages tex slot outcome, ?_, targetLayouts, counted, ?_, ?_⟩
    · intro image used
      exact Nat.lt_of_lt_of_le (drawn image used) (preview.bridge.getFrameImages_created _ _ _)
    · intro slot' image present
      apply left slot' image
      rw [Bridge.getExecuteTarget, Bridge.handleId, Bridge.getFrameImages_target] at present
      exact present
    · exact fun frame cached => (last frame cached).import tex slot outcome
  unfold Preview.captureFrame
  split
  · exact tracking
  · dsimp only
    split
    · obtain ⟨tracked, drawn, targetLayouts, counted, left, -⟩ := captured
      exact ⟨tracked, drawn, targetLayouts, counted, left,
        fun frame images => captured_frameImages tracked images⟩
    · exact captured

theorem Waiting.captureFrame {preview : Preview} (waiting : preview.Waiting)
    (tex : Option Texture2D) (slot : Slot) (locked : Bool) (outcome : ImportOutcome) :
    (preview.captureFrame tex slot locked outcome).Waiting := by
  unfold Preview.captureFrame
  split
  · exact waiting
  · dsimp only
    split <;> exact fun pending given => (waiting pending given).import tex slot outcome

/-! ## Rebuilds -/

theorem Captured.congr {bridge other : Bridge} {rebuilds : Nat} {frame : Frame}
    (captured : Captured bridge rebuilds frame) (same : other.handles = bridge.handles) :
    Captured other rebuilds frame := by
  have cells : ∀ cell, other.handleId cell = bridge.handleId cell := by
    intro cell
    rw [Bridge.handleId, same]
    rfl
  obtain ⟨known, staging, apart, target, current, stale⟩ := captured
  refine ⟨known, ?_, ?_, ?_, ?_, ?_⟩
  · rw [same]
    exact staging
  · intro j
    rw [cells]
    exact apart j
  · rw [same]
    exact target
  · intro now
    rw [Bridge.getExecuteTarget, cells]
    exact current now
  · intro earlier image equal j
    rw [cells]
    exact stale earlier image equal j

theorem Captured.rebuilt {bridge : Bridge} {rebuilds : Nat} {frame : Frame}
    (captured : Captured bridge rebuilds frame) {width height : UInt32} {outcome : BuildOutcome}
    (resizes : bridge.Resizes width height) :
    Captured (bridge.resizeGlTargetPool width height outcome) (rebuilds + 1) frame := by
  have fresh : ∀ image, image < bridge.handles.created → ∀ j,
      (bridge.resizeGlTargetPool width height outcome).handleId ⟨.glTargetImage, j⟩ ≠
        some image := by
    intro image old j same
    obtain ⟨resource, content, rfl⟩ := Option.map_eq_some_iff.mp same
    exact Nat.not_le_of_lt old (Bridge.resizeGlTargetPool_target resizes content)
  have later := bridge.resizeGlTargetPool_created width height outcome
  refine ⟨Nat.le_succ_of_le captured.known, Nat.lt_of_lt_of_le captured.staging later,
    fresh frame.staging captured.staging, ?_, ?_, ?_⟩
  · exact fun image equal => Nat.lt_of_lt_of_le (captured.target image equal) later
  · intro now
    exact absurd now (Nat.ne_of_lt (Nat.lt_succ_of_le captured.known))
  · exact fun _ image equal => fresh image (captured.target image equal)

theorem Tracking.resizePool {preview : Preview} (tracking : preview.Tracking)
    (width height : UInt32) (outcome : BuildOutcome) :
    (preview.resizePool width height outcome).Tracking := by
  obtain ⟨tracked, drawn, targetLayouts, counted, left, last⟩ := tracking
  have later := preview.bridge.resizeGlTargetPool_created width height outcome
  by_cases resizes : preview.bridge.Resizes width height
  · have again : (preview.resizePool width height outcome).rebuilds = preview.rebuilds + 1 :=
      if_pos resizes
    refine ⟨tracked.resizeGlTargetPool width height outcome, ?_, targetLayouts, ?_, ?_, ?_⟩
    · exact fun image used => Nat.lt_of_lt_of_le (drawn image used) later
    · intro slot count copied
      rw [again]
      exact Nat.le_succ_of_le (counted slot count copied)
    · intro slot image present
      obtain ⟨resource, content, rfl⟩ := Option.map_eq_some_iff.mp present
      have new := Bridge.resizeGlTargetPool_target resizes content
      rw [again, if_neg]
      · by_contra used
        exact Nat.not_le_of_lt (drawn resource.id used) new
      · intro copied
        exact Nat.not_succ_le_self _ (counted slot _ copied)
    · intro frame cached
      rw [again]
      exact (last frame cached).rebuilt resizes
  · have again : (preview.resizePool width height outcome).rebuilds = preview.rebuilds :=
      if_neg resizes
    have same := Bridge.resizeGlTargetPool_handles outcome resizes
    refine ⟨tracked.resizeGlTargetPool width height outcome, ?_, targetLayouts, ?_, ?_, ?_⟩
    · exact fun image used => Nat.lt_of_lt_of_le (drawn image used) later
    · intro slot count copied
      rw [again]
      exact counted slot count copied
    · intro slot image present
      rw [again]
      apply left slot image
      rw [← present]
      change _ = Option.map _
        ((preview.bridge.resizeGlTargetPool width height outcome).handles.cells _)
      rw [same]
      rfl
    · intro frame cached
      rw [again]
      exact (last frame cached).congr same

theorem Captured.resizePool {preview : Preview} {frame : Frame}
    (captured : Captured preview.bridge preview.rebuilds frame) (width height : UInt32)
    (outcome : BuildOutcome) :
    Captured (preview.resizePool width height outcome).bridge
      (preview.resizePool width height outcome).rebuilds frame := by
  by_cases resizes : preview.bridge.Resizes width height
  · rw [show (preview.resizePool width height outcome).rebuilds = _ from if_pos resizes]
    exact captured.rebuilt resizes
  · rw [show (preview.resizePool width height outcome).rebuilds = _ from if_neg resizes]
    exact captured.congr (Bridge.resizeGlTargetPool_handles outcome resizes)

theorem Captured.refetch {bridge : Bridge} {rebuilds : Nat} {frame : Frame}
    (captured : Captured bridge rebuilds frame) (tracked : bridge.Tracked) :
    Captured bridge rebuilds { frame with
      target := bridge.getExecuteTarget frame.slot, takenAt := rebuilds } :=
  ⟨Nat.le_refl _, captured.staging, captured.apart, fun _ => tracked.handleId_lt, fun _ => rfl,
    fun earlier => absurd earlier (Nat.lt_irrefl _)⟩

theorem Tracking.fitPool {preview : Preview} (tracking : preview.Tracking)
    {pending : PendingFrame}
    (captured : Captured preview.bridge preview.rebuilds pending.frame) (outcome : BuildOutcome) :
    (preview.fitPool pending outcome).1.Tracking ∧
      Captured (preview.fitPool pending outcome).1.bridge
        (preview.fitPool pending outcome).1.rebuilds
        (preview.fitPool pending outcome).2.frame := by
  unfold Preview.fitPool
  split
  · have resized := tracking.resizePool pending.width pending.height outcome
    exact ⟨resized, (captured.resizePool _ _ _).refetch resized.tracked⟩
  · exact ⟨tracking, captured⟩

/-! ## Copies -/

theorem job_images {preview : Preview} {pending : PendingFrame} {optimizer : CopyOptimizer}
    {job : CopyJob} (checked : optimizer.check (preview.copyArgs pending) = some job) :
    pending.frame.staging = job.staging ∧ pending.frame.target = some job.target := by
  obtain ⟨staging, target, -⟩ := CopyOptimizer.check_args checked
  exact ⟨Option.some.inj staging, target⟩

/-- A copy into the current pool: its image is now what its slot says it is. -/
theorem Tracking.submitted {preview : Preview} (tracking : preview.Tracking)
    {pending : PendingFrame}
    (captured : Captured preview.bridge preview.rebuilds pending.frame)
    (current : pending.frame.takenAt = preview.rebuilds) {job : CopyJob}
    (checked : preview.optimizer.check (preview.copyArgs pending) = some job)
    (signaled : Option Slot) (outstanding : Slot → Nat) :
    Tracking { preview with
      optimizer := preview.optimizer.count.submitted job.slot signaled
      layouts := executeCommands (preview.optimizer.record job) preview.layouts
      copiedAt := Function.update preview.copiedAt pending.frame.slot (some preview.rebuilds)
      outstanding := outstanding } := by
  obtain ⟨tracked, drawn, targetLayouts, counted, left, last⟩ := tracking
  obtain ⟨staging, target⟩ := job_images checked
  have slot := (job_slots checked).1
  have written : preview.bridge.getExecuteTarget pending.frame.slot = some job.target :=
    (captured.current current).symm.trans target
  refine ⟨tracked, ?_, ?_, ?_, ?_, last⟩
  · intro image used
    dsimp only at used ⊢
    rw [executeCommands_record] at used
    by_cases read : image = job.staging
    · rw [read, ← staging]
      exact captured.staging
    · by_cases write : image = job.target
      · rw [write]
        exact captured.target job.target target
      · rw [if_neg read, if_neg write] at used
        exact drawn image used
  · intro other
    change Function.update preview.optimizer.targetLayouts job.slot _ other =
      if (Function.update preview.copiedAt _ _ other).isSome then _ else _
    rw [slot]
    by_cases same : other = pending.frame.slot
    · rw [same, Function.update_self, Function.update_self]
      rfl
    · rw [Function.update_of_ne same, Function.update_of_ne same]
      exact targetLayouts other
  · intro other count copied
    dsimp only at copied
    by_cases same : other = pending.frame.slot
    · rw [same, Function.update_self, Option.some.injEq] at copied
      exact Nat.le_of_eq copied.symm
    · rw [Function.update_of_ne same] at copied
      exact counted other count copied
  · intro other image present
    dsimp only at present ⊢
    have untouched : image ≠ job.staging := by
      rintro rfl
      rw [← staging] at present
      exact captured.apart (other + 1) present
    rw [executeCommands_record, if_neg untouched]
    change _ = if Function.update preview.copiedAt pending.frame.slot (some preview.rebuilds)
      other = some preview.rebuilds then _ else _
    by_cases same : other = pending.frame.slot
    · rw [same] at present
      rw [if_pos (Option.some.inj (present.symm.trans written)), same, Function.update_self,
        if_pos rfl]
    · have different : image ≠ job.target := by
        rintro rfl
        refine tracked.handleId_ne written ?_ present
        intro cells
        have shift : ∀ i j : Slot, i + 1 = j + 1 → i = j := by decide
        exact same (shift _ _ (Cell.mk.inj cells).2)
      rw [if_neg different, Function.update_of_ne same]
      exact left other image present

theorem Tracking.submitCopy {preview : Preview} (tracking : preview.Tracking)
    {pending : PendingFrame}
    (captured : Captured preview.bridge preview.rebuilds pending.frame) {outcome : CopyOutcome}
    (current : preview.optimizer.Records (preview.copyArgs pending) outcome →
      pending.frame.takenAt = preview.rebuilds) :
    (preview.submitCopy pending (preview.copyArgs pending) outcome).1.Tracking := by
  unfold Preview.submitCopy
  have records := preview.optimizer.recorded_iff (preview.copyArgs pending) outcome
  rcases preview.optimizer.executeCopy_cases (preview.copyArgs pending) outcome with
    skipped | ⟨job, checked, recorded | failed | submitted⟩
  · rw [skipped]
    exact tracking
  · rw [recorded]
    exact tracking
  · rw [failed]
    have same : SameTracking preview
        { preview with optimizer := preview.optimizer.count.rollBack } :=
      ⟨rfl, rfl, rfl, rfl, rfl, rfl⟩
    exact same.tracking tracking
  · rw [submitted] at records ⊢
    have meets := current (records.mp (List.cons_ne_nil _ _))
    exact tracking.submitted captured meets checked _ _

/-! ## `paintGL` -/

theorem importTexture_sameTracking (preview : Preview) (pending : PendingFrame)
    (outcome : PaintOutcome) : SameTracking preview (preview.importTexture pending outcome) := by
  unfold importTexture
  dsimp only
  split <;> exact ⟨rfl, rfl, rfl, rfl, rfl, rfl⟩

theorem consume_sameTracking (preview : Preview) : SameTracking preview preview.consume := by
  unfold consume
  split <;> exact ⟨rfl, rfl, rfl, rfl, rfl, rfl⟩

theorem widget_sameTracking (preview : Preview) (widget : Widget) :
    SameTracking preview { preview with widget := widget } :=
  ⟨rfl, rfl, rfl, rfl, rfl, rfl⟩

theorem Tracking.approach {preview : Preview} (tracking : preview.Tracking)
    (outcome : PaintOutcome) : (preview.approach outcome).Holds Tracking :=
  approach_holds (fun _ width height outcome kept => kept.resizePool width height outcome)
    (fun preview _ => (widget_sameTracking preview _).tracking)
    ((widget_sameTracking preview _).tracking tracking) outcome

/-- The frame of a call of `execute_copy` is one that the bridge handed out. -/
theorem captured_of_copying {preview : Preview} (tracking : preview.Tracking)
    (waiting : preview.Waiting) {outcome : PaintOutcome} {called : Preview}
    {pending : PendingFrame} {args : CopyArgs}
    (copying : preview.approach outcome = .copying called pending args) :
    Captured called.bridge called.rebuilds pending.frame ∧ args = called.copyArgs pending := by
  have taken : preview.takeFrames.Tracking := (widget_sameTracking preview _).tracking tracking
  rcases preview.approach_cases outcome with
    other | other | ⟨given, present, other | same⟩
  · cases copying.symm.trans other
  · cases copying.symm.trans other
  · cases copying.symm.trans other
  · cases copying.symm.trans same
    exact ⟨(taken.fitPool (waiting given present) outcome.build).2, rfl⟩

theorem Tracking.paintGl {preview : Preview} (tracking : preview.Tracking)
    (waiting : preview.Waiting) {outcome : PaintOutcome}
    (upToDate : preview.UpToDate (.paintGl outcome)) : (preview.paintGl outcome).Tracking := by
  have approached := tracking.approach outcome
  apply render_holds (fun preview => (consume_sameTracking preview).tracking)
    (fun preview _ => (widget_sameTracking preview _).tracking)
  cases paint : preview.approach outcome with
  | returned next =>
      rw [paint] at approached
      exact approached
  | rendering next =>
      rw [paint] at approached
      exact approached
  | copying called pending args =>
      rw [paint] at approached
      obtain ⟨captured, rfl⟩ := captured_of_copying tracking waiting paint
      have copied := Tracking.submitCopy approached captured
        fun records => (upToDate called pending _ paint records).1
      rw [copyFrame]
      cases result : called.submitCopy pending (called.copyArgs pending) outcome.copy with
      | mk next ok =>
          rw [result] at copied
          cases ok with
          | true => exact (importTexture_sameTracking next pending outcome).tracking copied
          | false => exact copied

/-! ## Runs -/

def Consistent (preview : Preview) : Prop := preview.Tracking ∧ preview.Waiting

theorem Consistent.perform {preview : Preview} (consistent : preview.Consistent)
    {action : Action} (upToDate : preview.UpToDate action) :
    (preview.perform action).Consistent := by
  obtain ⟨tracking, waiting⟩ := consistent
  cases action with
  | captureFrame tex slot locked outcome =>
      exact ⟨tracking.captureFrame tex slot locked outcome,
        waiting.captureFrame tex slot locked outcome⟩
  | submitD3d11Frame width height =>
      dsimp only [Preview.perform]
      unfold submitD3d11Frame
      split
      next => exact ⟨tracking, waiting⟩
      next frame cached =>
        split
        · exact ⟨tracking, waiting⟩
        · refine ⟨(widget_sameTracking preview _).tracking tracking, ?_⟩
          intro pending given
          cases given
          exact tracking.last frame cached
  | uploadCpuFrame width height =>
      exact ⟨(widget_sameTracking preview _).tracking tracking, waiting⟩
  | setCopyOptimizer wired =>
      exact ⟨(widget_sameTracking preview _).tracking tracking, waiting⟩
  | setBridge wired =>
      exact ⟨(widget_sameTracking preview _).tracking tracking, waiting⟩
  | paintGl outcome =>
      refine ⟨tracking.paintGl waiting upToDate, ?_⟩
      intro pending given
      cases (preview.paintGl_pending outcome).symm.trans given

theorem recorded_of_copying {called : Preview} {pending : PendingFrame} {outcome : CopyOutcome}
    (records : called.optimizer.Records (called.copyArgs pending) outcome) :
    ∃ image, pending.frame.target = some image ∧
      ∀ other oldLayout, .pipelineBarrier other oldLayout .transferDstOptimal ∈
          (called.optimizer.executeCopy (called.copyArgs pending) outcome).2.recorded ↔
        other = image ∧ oldLayout = called.optimizer.targetLayouts pending.frame.slot := by
  have nonempty := (called.optimizer.recorded_iff (called.copyArgs pending) outcome).mpr records
  rcases called.optimizer.executeCopy_cases (called.copyArgs pending) outcome with
    skipped | ⟨job, checked, result⟩
  · rw [skipped] at nonempty
    exact absurd rfl nonempty
  · refine ⟨job.target, (job_images checked).2, ?_⟩
    intro other oldLayout
    rw [← (job_slots checked).1]
    rcases result with recorded | failed | submitted
    · rw [recorded]
      exact mem_record_iff
    · rw [failed]
      exact mem_record_iff
    · rw [submitted]
      exact mem_record_iff

theorem truthful_of_upToDate {preview : Preview} (consistent : preview.Consistent)
    {outcome : PaintOutcome} (upToDate : preview.UpToDate (.paintGl outcome)) :
    preview.Truthful (.paintGl outcome) := by
  obtain ⟨tracking, waiting⟩ := consistent
  intro called pending args copying image oldLayout recorded
  have before := tracking.approach outcome
  rw [copying] at before
  obtain ⟨captured, rfl⟩ := captured_of_copying tracking waiting copying
  have records := (called.optimizer.recorded_iff _ outcome.copy).mp (List.ne_nil_of_mem recorded)
  obtain ⟨current, last⟩ := upToDate called pending _ copying records
  obtain ⟨target, taken, barrier⟩ := recorded_of_copying records
  obtain ⟨rfl, rfl⟩ := (barrier image oldLayout).mp recorded
  have present := (captured.current current).symm.trans taken
  refine ⟨?_, present⟩
  rw [Tracking.targetLayouts before, Tracking.left before _ _ present]
  cases copied : called.copiedAt pending.frame.slot with
  | none => exact .inl rfl
  | some count =>
      rw [last count copied]
      exact .inr (if_pos rfl).symm

theorem upToDate_of_truthful {preview : Preview} (consistent : preview.Consistent)
    {outcome : PaintOutcome} (truthful : preview.Truthful (.paintGl outcome)) :
    preview.UpToDate (.paintGl outcome) := by
  obtain ⟨tracking, waiting⟩ := consistent
  intro called pending args copying records
  have before := tracking.approach outcome
  rw [copying] at before
  obtain ⟨captured, rfl⟩ := captured_of_copying tracking waiting copying
  obtain ⟨target, taken, barrier⟩ := recorded_of_copying records
  obtain ⟨layout, present⟩ := truthful called pending _ copying target _
    ((barrier target _).mpr ⟨rfl, rfl⟩)
  constructor
  · rcases Nat.lt_or_ge pending.frame.takenAt called.rebuilds with earlier | later
    · exact absurd present (captured.stale earlier target taken _)
    · exact Nat.le_antisymm captured.known later
  · intro count copied
    rw [Tracking.targetLayouts before, Tracking.left before _ _ present, copied] at layout
    by_contra older
    have different : ¬ some count = some called.rebuilds := fun same => older (Option.some.inj same)
    rw [if_neg different] at layout
    rcases layout with unknown | known
    · cases unknown
    · cases known

/-- The tracked layouts are truthful along a run exactly if every copy that is recorded meets
the pool that its target and its slot's last copy are from. -/
theorem layouts_truthful_iff_upToDate {calls : List Bridge.Call} {bridge : Bridge}
    (made : Machine.exec Bridge.step Bridge.start calls = some bridge)
    {earlier optimizer : CopyOptimizer} {device queue physDevice : Option Nat}
    {outcome : InitOutcome}
    (initialised : earlier.init device queue physDevice outcome = (optimizer, true))
    (functions : GlFunctions) (glSyncSemaphores : Slot → Bool) (actions : List Action) :
    Machine.Along step UpToDate (start bridge optimizer functions glSyncSemaphores) actions ↔
      Machine.Along step Truthful (start bridge optimizer functions glSyncSemaphores) actions := by
  obtain ⟨undefined, -⟩ := CopyOptimizer.init_reset initialised
  have initially : (start bridge optimizer functions glSyncSemaphores).Consistent := by
    refine ⟨⟨Bridge.run_tracked made, ?_, ?_, nofun, fun _ _ _ => rfl, nofun⟩, nofun⟩
    · exact fun _ used => absurd rfl used
    · intro slot
      change optimizer.targetLayouts slot = _
      rw [undefined]
      rfl
  obtain ⟨finish, executed⟩ := Machine.exec_total (fun _ _ => ⟨_, rfl⟩)
    (start bridge optimizer functions glSyncSemaphores) actions
  have preserved : ∀ (preview : Preview) (action : Action) (next : Preview),
      preview.Consistent → preview.UpToDate action → step preview action = some next →
        next.Consistent := by
    intro preview action next consistent upToDate stepped
    cases stepped
    exact consistent.perform upToDate
  apply Machine.along_congr preserved _ initially executed
  intro preview action next consistent _
  cases action with
  | paintGl outcome =>
      exact ⟨truthful_of_upToDate consistent, upToDate_of_truthful consistent⟩
  | captureFrame tex slot locked outcome => exact Iff.rfl
  | submitD3d11Frame width height => exact Iff.rfl
  | uploadCpuFrame width height => exact Iff.rfl
  | setCopyOptimizer wired => exact Iff.rfl
  | setBridge wired => exact Iff.rfl

instance (preview : Preview) : ∀ action, Decidable (preview.UpToDate action)
  | .paintGl outcome =>
      match paint : preview.approach outcome with
      | .copying called pending args =>
          decidable_of_iff (called.optimizer.Records args outcome.copy →
            pending.frame.takenAt = called.rebuilds ∧
              ∀ count ∈ called.copiedAt pending.frame.slot, count = called.rebuilds)
            (by simp [UpToDate, paint])
      | .returned _ => isTrue fun _ _ _ copying => Paint.noConfusion (paint.symm.trans copying)
      | .rendering _ => isTrue fun _ _ _ copying => Paint.noConfusion (paint.symm.trans copying)
  | .captureFrame _ _ _ _ => isTrue trivial
  | .submitD3d11Frame _ _ => isTrue trivial
  | .uploadCpuFrame _ _ => isTrue trivial
  | .setCopyOptimizer _ => isTrue trivial
  | .setBridge _ => isTrue trivial

/-- A frame of another size is on its way when a texture of the old size is captured again:
the widget rebuilds the pool for both, for slots that no copy was made in. -/
def twoSizes : List Action :=
  [.setCopyOptimizer true, .setBridge true] ++ showFrame 7 1920 1080 0 ++ [.paintGl smooth] ++
    showFrame 8 1280 720 1 ++
    [.captureFrame (some ⟨9, 1920, 1080, .b8g8r8a8Unorm⟩) 2 true ⟨true, true, true, true, true⟩,
      .paintGl smooth, .submitD3d11Frame 1920 1080, .paintGl smooth]

theorem layouts_truthful_twoSizes : Machine.Along step Truthful (ready 1920 1080) twoSizes := by
  have made : Machine.exec Bridge.step Bridge.start (bridgeCalls 1920 1080) =
      some (readyBridge 1920 1080) := rfl
  have initialised : CopyOptimizer.start.init (some 1) (some 3) (some 2)
      ⟨true, true, true, true, true, true, true⟩ = (readyOptimizer, true) := rfl
  have upToDate : Machine.Along step UpToDate (ready 1920 1080) twoSizes := by decide +kernel
  exact (layouts_truthful_iff_upToDate made initialised _ _ _).mp upToDate

/-- Whether a copy takes `image` for one that is sampled, and the layout it is in. -/
def taken (image : Nat) : Paint → Option (Bool × ImageLayout)
  | .copying called _ args =>
      some (decide (.pipelineBarrier image .shaderReadOnlyOptimal .transferDstOptimal ∈
        (called.optimizer.executeCopy args smooth.copy).2.recorded), called.layouts image)
  | .returned _ | .rendering _ => none

/-- The next frame in the first slot meets a new image with the layout of the old one. -/
theorem rebuilt_image_misnamed :
    ¬ Machine.Along step Truthful (ready 1920 1080)
      (twoSizes ++ showFrame 9 1920 1080 0 ++ [.paintGl smooth]) := by
  intro along
  have met : (Machine.exec step (ready 1920 1080) (twoSizes ++ showFrame 9 1920 1080 0)).map
      (fun preview => taken 36 (preview.approach smooth)) = some (some (true, .undefined)) := by
    decide +kernel
  obtain ⟨preview, executed, observed⟩ := Option.map_eq_some_iff.mp met
  have truthful := ((Machine.along_append.mp along).2 preview executed).1
  cases copying : preview.approach smooth with
  | copying called pending args =>
    rw [copying] at observed
    simp only [taken, Option.some.injEq, Prod.mk.injEq, decide_eq_true_eq] at observed
    obtain ⟨recorded, layout⟩ := observed
    rcases (truthful called pending args copying 36 _ recorded).1 with unknown | known
    · cases unknown
    · cases known.trans layout
  | returned preview =>
    rw [copying] at observed
    cases observed
  | rendering preview =>
    rw [copying] at observed
    cases observed

end Preview

end RejiStudio.Gpu
