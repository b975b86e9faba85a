import RejiStudio.Lib.LedgerIdentity
import RejiStudio.Gpu.BridgeHandles
import RejiStudio.Gpu.Preview

/-!
# Identity of the GL target images

Every image of the target pool is its own resource.  An import of a captured texture leaves
the pool alone, a rebuild leaves nothing of the old one.
-/

namespace RejiStudio.Gpu

open RejiStudio.Lib

/-- A slot of the target pool; nothing is repeated there. -/
def TargetCell (cell : Cell) : Prop := cell.field = .glTargetImage

namespace Handles

variable {device : Option Nat} {handles : Handles}

theorem invalidatePool_created (device : Option Nat) (handles : Handles) :
    (handles.invalidatePool device).created = handles.created := by
  unfold invalidatePool
  rw [Ledger.releaseAll_created, (Ledger.copyAll_counters _ _).1, Ledger.releaseAll_created]

theorem invalidatePool_content {cell : Cell} {resource : Resource (Option Nat)}
    (content : (handles.invalidatePool device).cells cell = some resource) :
    handles.cells cell = some resource := by
  rw [invalidatePool_cells] at content
  exact (Option.ite_none_left_eq_some.mp content).2

theorem invalidatePool_target (device : Option Nat) (handles : Handles) (j : Slot) :
    (handles.invalidatePool device).cells ⟨.glTargetImage, j⟩ =
      handles.cells ⟨.glTargetImage, j⟩ := by
  rw [invalidatePool_cells, if_neg (by simp)]

theorem invalidatePool_separate (separate : Ledger.Separate TargetCell handles) :
    Ledger.Separate TargetCell (handles.invalidatePool device) :=
  separate.shrink (fun _ _ => invalidatePool_content)
    (Nat.le_of_eq (invalidatePool_created device handles).symm)

theorem importTexture_separate (separate : Ledger.Separate TargetCell handles)
    (tex : Option Texture2D) (slot : Slot) (outcome : ImportOutcome) :
    Ledger.Separate TargetCell (handles.importTexture device tex slot outcome) := by
  have repeated : ∀ field : HandleField, field ≠ .glTargetImage →
      ∀ cell ∈ everySlot [field], ¬ TargetCell cell := by
    intro field other cell member target
    have own := List.mem_singleton.mp (mem_everySlot.mp member)
    exact other (own.symm.trans target)
  unfold importTexture
  split
  · exact separate
  dsimp only
  split
  · exact separate.create _
  split
  · exact (separate.create _).shrink (fun _ _ content => content) (Nat.le_succ _)
  · apply Ledger.Separate.copyAll
    · apply Ledger.Separate.copyAll
      · exact (separate.create _).createAll _
      · simp [TargetCell]
      · exact repeated _ (by decide)
    · simp [TargetCell]
    · exact repeated _ (by decide)

theorem importTexture_target (tex : Option Texture2D) (slot : Slot) (outcome : ImportOutcome)
    (handles : Handles) (j : Slot) :
    (handles.importTexture device tex slot outcome).cells ⟨.glTargetImage, j⟩ =
      handles.cells ⟨.glTargetImage, j⟩ := by
  unfold importTexture
  split
  · rfl
  dsimp only
  split
  · rfl
  split
  · rfl
  · rw [Ledger.copyAll_cells, if_neg (by simp [mem_everySlot]), Ledger.copyAll_cells,
      if_neg (by simp [mem_everySlot]), Ledger.createAll_cells_of_not_mem _ (by simp)]
    rfl

theorem importTexture_created (tex : Option Texture2D) (slot : Slot) (outcome : ImportOutcome)
    (handles : Handles) :
    handles.created ≤ (handles.importTexture device tex slot outcome).created := by
  unfold importTexture
  split
  · exact Nat.le_refl _
  dsimp only
  split
  · exact Nat.le_succ _
  split
  · exact Nat.le_succ_of_le (Nat.le_succ _)
  · rw [(Ledger.copyAll_counters _ _).1, (Ledger.copyAll_counters _ _).1]
    have made : (handles.create (owner device) ⟨.d3d11NtHandle, slot⟩).created ≤ _ :=
      Ledger.createAll_created_le (owner device) [⟨.imagePoolImage, 0⟩, ⟨.imagePoolMemory, 0⟩]
    exact Nat.le_of_succ_le made

theorem initGlTargetPool_separate (separate : Ledger.Separate TargetCell handles)
    (outcome : BuildOutcome) :
    Ledger.Separate TargetCell (handles.initGlTargetPool device outcome) := by
  rw [initGlTargetPool_eq]
  exact (separate.createAll _).releaseAll _

theorem releaseTargets_separate (separate : Ledger.Separate TargetCell handles) :
    Ledger.Separate TargetCell (handles.releaseTargets device) :=
  separate.releaseAll _

theorem shutdown_separate (separate : Ledger.Separate TargetCell handles) :
    Ledger.Separate TargetCell (handles.shutdown device) := by
  unfold shutdown
  apply releaseTargets_separate
  apply Ledger.Separate.releaseAll
  exact invalidatePool_separate separate

/-- What a build puts into a slot was not there before. -/
theorem initGlTargetPool_content {outcome : BuildOutcome} {cell : Cell}
    {resource : Resource (Option Nat)}
    (content : (handles.initGlTargetPool device outcome).cells cell = some resource) :
    handles.cells cell = some resource ∨ handles.created ≤ resource.id := by
  rw [initGlTargetPool_eq] at content
  exact Ledger.createAll_content (Ledger.releaseAll_content content)

theorem initGlTargetPool_created (device : Option Nat) (outcome : BuildOutcome)
    (handles : Handles) :
    handles.created ≤ (handles.initGlTargetPool device outcome).created := by
  rw [initGlTargetPool_eq, Ledger.releaseAll_created]
  exact Ledger.createAll_created_le _ _

end Handles

namespace Bridge

/-- The images of the target pool are apart from each other and from everything else. -/
def Tracked (bridge : Bridge) : Prop := Ledger.Separate TargetCell bridge.handles

theorem tracked_start : start.Tracked := Ledger.separate_empty

theorem Tracked.frameHandles {bridge : Bridge} (tracked : bridge.Tracked)
    (tex : Option Texture2D) (slot : Nat) (outcome : ImportOutcome) :
    Ledger.Separate TargetCell (bridge.frameHandles tex slot outcome) := by
  unfold Bridge.frameHandles
  split
  · exact tracked
  split
  · split
    · exact Handles.importTexture_separate (Handles.invalidatePool_separate tracked) _ _ _
    · exact tracked
  · exact tracked

theorem Tracked.getFrameImages {bridge : Bridge} (tracked : bridge.Tracked)
    (tex : Option Texture2D) (slot : Nat) (outcome : ImportOutcome) :
    (bridge.getFrameImages tex slot outcome).Tracked :=
  tracked.frameHandles tex slot outcome

theorem Tracked.resizeGlTargetPool {bridge : Bridge} (tracked : bridge.Tracked)
    (width height : UInt32) (outcome : BuildOutcome) :
    (bridge.resizeGlTargetPool width height outcome).Tracked := by
  change Ledger.Separate TargetCell (bridge.resizedHandles width height outcome)
  unfold resizedHandles
  split
  · exact tracked
  split
  · exact tracked
  · exact Handles.initGlTargetPool_separate (Handles.releaseTargets_separate tracked) _

theorem Tracked.perform {bridge : Bridge} (tracked : bridge.Tracked) (call : Call) :
    (bridge.perform call).Tracked := by
  cases call with
  | init device physicalDevice =>
      dsimp only [Bridge.perform]
      unfold init
      split
      · exact tracked
      split
      · exact tracked
      · exact tracked
  | setDevice device physicalDevice => exact tracked
  | initGlTargetPool format width height outcome =>
      exact Handles.initGlTargetPool_separate tracked outcome
  | createGlSyncSemaphores outcome =>
      change Ledger.Separate TargetCell (Handles.createSyncs _ _ _ _).1
      rw [Handles.createSyncs_eq]
      exact Ledger.Separate.createAll tracked _
  | getFrameImages tex slot outcome => exact tracked.getFrameImages tex slot outcome
  | resizeGlTargetPool width height outcome =>
      exact tracked.resizeGlTargetPool width height outcome
  | shutdown =>
      dsimp only [Bridge.perform]
      unfold shutdown
      split
      · exact tracked
      · exact Handles.shutdown_separate tracked

theorem run_tracked {bridge : Bridge} {calls : List Call}
    (executed : Machine.exec step start calls = some bridge) : bridge.Tracked := by
  have preserved : ∀ (state : Bridge) (call : Call) (next : Bridge),
      state.Tracked → step state call = some next → next.Tracked := by
    intro state call next tracked stepped
    cases stepped
    exact tracked.perform call
  exact Machine.exec_invariant preserved tracked_start executed

/-- Different slots of the target pool have different images, and no other cell has one of
them. -/
theorem Tracked.handleId_ne {bridge : Bridge} (tracked : bridge.Tracked) {slot : Slot}
    {cell : Cell} {image : Nat} (target : bridge.handleId ⟨.glTargetImage, slot⟩ = some image)
    (other : cell ≠ ⟨.glTargetImage, slot⟩) : bridge.handleId cell ≠ some image := by
  intro same
  obtain ⟨resource, content, rfl⟩ := Option.map_eq_some_iff.mp target
  obtain ⟨otherResource, otherContent, equal⟩ := Option.map_eq_some_iff.mp same
  exact other (tracked.apart _ _ _ _ rfl content otherContent equal.symm)

theorem Tracked.handleId_lt {bridge : Bridge} (tracked : bridge.Tracked) {cell : Cell}
    {image : Nat} (content : bridge.handleId cell = some image) :
    image < bridge.handles.created := by
  obtain ⟨resource, held, rfl⟩ := Option.map_eq_some_iff.mp content
  exact tracked.below cell resource held

/-! ## Frames and rebuilds -/

theorem getFrameImages_created (bridge : Bridge) (tex : Option Texture2D) (slot : Nat)
    (outcome : ImportOutcome) :
    bridge.handles.created ≤ (bridge.getFrameImages tex slot outcome).handles.created := by
  change _ ≤ (bridge.frameHandles tex slot outcome).created
  unfold frameHandles
  split
  · exact Nat.le_refl _
  split
  · split
    · apply Nat.le_trans _ (Handles.importTexture_created _ _ _ _)
      rw [Handles.invalidatePool_created]
    · exact Nat.le_refl _
  · exact Nat.le_refl _

theorem getFrameImages_target (bridge : Bridge) (tex : Option Texture2D) (slot : Nat)
    (outcome : ImportOutcome) (j : Slot) :
    (bridge.getFrameImages tex slot outcome).handles.cells ⟨.glTargetImage, j⟩ =
      bridge.handles.cells ⟨.glTargetImage, j⟩ := by
  change (bridge.frameHandles tex slot outcome).cells _ = _
  unfold frameHandles
  split
  · rfl
  split
  · split
    · rw [Handles.importTexture_target, Handles.invalidatePool_target]
    · rfl
  · rfl

theorem resizeGlTargetPool_target {bridge : Bridge} {width height : UInt32}
    {outcome : BuildOutcome} (resizes : bridge.Resizes width height) {j : Slot}
    {resource : Resource (Option Nat)}
    (content : (bridge.resizeGlTargetPool width height outcome).handles.cells
      ⟨.glTargetImage, j⟩ = some resource) :
    bridge.handles.created ≤ resource.id := by
  change (bridge.resizedHandles width height outcome).cells _ = _ at content
  rw [resizedHandles, if_neg resizes.1, if_neg resizes.2] at content
  rcases Handles.initGlTargetPool_content content with old | new
  · rw [Handles.releaseTargets_cells, if_pos (by simp)] at old
    cases old
  · unfold Handles.releaseTargets at new
    rwa [Ledger.releaseAll_created] at new

theorem resizeGlTargetPool_created (bridge : Bridge) (width height : UInt32)
    (outcome : BuildOutcome) :
    bridge.handles.created ≤
      (bridge.resizeGlTargetPool width height outcome).handles.created := by
  change _ ≤ (bridge.resizedHandles width height outcome).created
  unfold resizedHandles
  split
  · exact Nat.le_refl _
  split
  · exact Nat.le_refl _
  · apply Nat.le_trans _ (Handles.initGlTargetPool_created _ _ _)
    unfold Handles.releaseTargets
    rw [Ledger.releaseAll_created]

theorem resizeGlTargetPool_handles {bridge : Bridge} {width height : UInt32}
    (outcome : BuildOutcome) (kept : ¬ bridge.Resizes width height) :
    (bridge.resizeGlTargetPool width height outcome).handles = bridge.handles := by
  change bridge.resizedHandles width height outcome = _
  unfold resizedHandles
  by_cases absent : bridge.device = none
  · rw [if_pos absent]
  · rw [if_neg absent]
    by_cases same : bridge.state.width = width ∧ bridge.state.height = height
    · rw [if_pos same]
    · exact absurd ⟨absent, same⟩ kept

end Bridge

end RejiStudio.Gpu
