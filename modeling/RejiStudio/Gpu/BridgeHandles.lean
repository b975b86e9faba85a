import RejiStudio.Gpu.BridgeResources

/-!
# What the calls of the bridge release and make

Releases reach roots only.  What a call makes is read off the answers of the calls below
it, and the arrays of the state are filled exactly where the ledger says so.
-/

namespace RejiStudio.Gpu

open RejiStudio.Lib

/-! ## Cells -/

theorem mem_everySlot {fields : List HandleField} {cell : Cell} :
    cell ∈ everySlot fields ↔ cell.field ∈ fields := by
  simp only [everySlot, List.mem_flatMap, List.mem_map]
  constructor
  · rintro ⟨_, _, field, member, rfl⟩
    exact member
  · intro member
    exact ⟨cell.slot, List.mem_finRange _, cell.field, member, rfl⟩

theorem canonical_of_unshared {cell : Cell} (unshared : cell.field.shared = false) :
    Canonical cell := by
  intro shared
  rw [unshared] at shared
  cases shared

theorem everySlot_canonical {fields : List HandleField}
    (unshared : ∀ field ∈ fields, field.shared = false) :
    ∀ cell ∈ everySlot fields, Canonical cell := by
  intro cell member
  exact canonical_of_unshared (unshared cell.field (mem_everySlot.mp member))

def deviceCells : List Cell :=
  [⟨.imagePoolImage, 0⟩, ⟨.imagePoolMemory, 0⟩] ++
    everySlot [.glTargetImage, .glTargetMemory, .glSyncSemaphore]

theorem mem_deviceCells {cell : Cell} :
    cell ∈ deviceCells ↔ Canonical cell ∧ cell.field.onDevice = true := by
  obtain ⟨field, slot⟩ := cell
  unfold deviceCells
  rw [List.mem_append, mem_everySlot]
  cases field <;> simp [Canonical, HandleField.shared, HandleField.onDevice]

theorem owner_of_not_onDevice {cell : Cell} (handle : cell.field.onDevice = false)
    (device : Option Nat) : owner device cell = none := by
  simp [owner, handle]

theorem owner_of_onDevice {cell : Cell} (object : cell.field.onDevice = true)
    (device : Option Nat) : owner device cell = device := by
  simp [owner, object]

/-! ## What the calls release -/

namespace Handles

variable {Kept : Handles → Prop} {device : Option Nat} {handles : Handles}

theorem invalidatePool_cells (device : Option Nat) (handles : Handles) (cell : Cell) :
    (handles.invalidatePool device).cells cell =
      if cell.field ∈ [.imagePoolImage, .imagePoolMemory, .d3d11NtHandle] then none
      else handles.cells cell := by
  unfold invalidatePool
  rw [Ledger.releaseAll_cells, Ledger.copyAll_cells, Ledger.releaseAll_cells]
  simp only [mem_everySlot]
  obtain ⟨field, slot⟩ := cell
  cases field <;> simp

/-- `invalidate_pool` releases roots only: the aliases are cleared. -/
theorem invalidatePool_kept (stable : Ledger.Stable Canonical (owner device) Kept)
    (kept : Kept handles) : Kept (handles.invalidatePool device) := by
  unfold invalidatePool
  apply stable.releaseAll (everySlot_canonical (by decide))
  refine stable.congr _ _ (Ledger.copyAll_sameRoots ?_) ?_
  · rintro ⟨field, slot⟩ member isRoot
    have isShared := mem_everySlot.mp member
    simp only [List.mem_cons, List.not_mem_nil, or_false] at isShared
    rw [Ledger.releaseAll_cells, if_pos]
    rcases isShared with rfl | rfl
    · obtain rfl : slot = 0 := isRoot rfl
      simp
    · obtain rfl : slot = 0 := isRoot rfl
      simp
  · exact stable.releaseAll (by simp [Canonical]) kept

theorem releaseTargets_cells (device : Option Nat) (handles : Handles) (cell : Cell) :
    (handles.releaseTargets device).cells cell =
      if cell.field ∈ [.glTargetImage, .glTargetMemory, .glTargetHandle] then none
      else handles.cells cell := by
  unfold releaseTargets
  rw [Ledger.releaseAll_cells]
  simp only [mem_everySlot]

theorem releaseTargets_kept (stable : Ledger.Stable Canonical (owner device) Kept)
    (kept : Kept handles) : Kept (handles.releaseTargets device) :=
  stable.releaseAll (everySlot_canonical (by decide)) kept

theorem shutdown_kept (stable : Ledger.Stable Canonical (owner device) Kept)
    (kept : Kept handles) : Kept (handles.shutdown device) := by
  unfold shutdown
  apply releaseTargets_kept stable
  apply stable.releaseAll (everySlot_canonical (by decide))
  exact invalidatePool_kept stable kept

theorem shutdown_vacant (device : Option Nat) (handles : Handles) :
    Ledger.Vacant Canonical (handles.shutdown device) := by
  rintro ⟨field, slot⟩ -
  unfold shutdown
  rw [releaseTargets_cells, Ledger.releaseAll_cells, invalidatePool_cells]
  simp only [mem_everySlot]
  cases field <;> simp

/-! ## What the calls make -/

/-- The answers to the loop of `ext_bridge_init_gl_target_pool`, each with its cell. -/
def targetAnswers (outcome : Slot → SlotOutcome) (left : List Slot) : List (Cell × Bool) :=
  left.flatMap fun i =>
    [(⟨.glTargetImage, i⟩, (outcome i).createImage),
      (⟨.glTargetMemory, i⟩, (outcome i).allocateMemory),
      (⟨.glTargetHandle, i⟩, (outcome i).getMemoryHandle.isSome)]

/-- The answers to the loop of `ext_bridge_create_gl_sync_semaphores`. -/
def syncAnswers (outcome : Slot → SyncOutcome) (left : List Slot) : List (Cell × Bool) :=
  left.flatMap fun i =>
    [(⟨.glSyncSemaphore, i⟩, (outcome i).createSemaphore),
      (⟨.glSyncHandle, i⟩, (outcome i).procAddr && (outcome i).getSemaphoreHandle)]

def undone (outcome : Slot → SlotOutcome) : List Slot → List Cell
  | [] => []
  | i :: rest =>
      if (outcome i).createImage = false then rolledBack i
      else if (outcome i).allocateMemory = false then []
      else if (outcome i).getMemoryHandle = none then []
      else undone outcome rest

theorem undone_fields (outcome : Slot → SlotOutcome) (left : List Slot) :
    ∀ cell ∈ undone outcome left,
      cell.field = .glTargetImage ∨ cell.field = .glTargetMemory := by
  induction left with
  | nil => simp [undone]
  | cons i rest inductionHypothesis =>
      intro cell member
      unfold undone at member
      split at member
      · simp only [rolledBack, List.mem_flatMap, List.mem_cons, List.not_mem_nil,
          or_false] at member
        rcases member with ⟨_, _, rfl | rfl⟩
        · exact Or.inl rfl
        · exact Or.inr rfl
      · split at member
        · exact absurd member List.not_mem_nil
        · split at member
          · exact absurd member List.not_mem_nil
          · exact inductionHypothesis cell member

/-- The loop makes what the answers allow, and takes some of it back. -/
theorem buildTargets_eq (outcome : Slot → SlotOutcome) (left : List Slot) (handles : Handles) :
    buildTargets device outcome left handles =
      (handles.createAll (owner device) (Ledger.made (targetAnswers outcome left))).releaseAll
        (owner device) (undone outcome left) := by
  induction left generalizing handles with
  | nil => rfl
  | cons i rest inductionHypothesis =>
      have answers : targetAnswers outcome (i :: rest) =
          (⟨.glTargetImage, i⟩, (outcome i).createImage) ::
            (⟨.glTargetMemory, i⟩, (outcome i).allocateMemory) ::
            (⟨.glTargetHandle, i⟩, (outcome i).getMemoryHandle.isSome) ::
            targetAnswers outcome rest := rfl
      rw [answers]
      unfold buildTargets undone
      cases (outcome i).createImage with
      | false => rfl
      | true =>
          cases (outcome i).allocateMemory with
          | false => rfl
          | true =>
              cases (outcome i).getMemoryHandle with
              | none => rfl
              | some handle => exact inductionHypothesis _

theorem createSyncs_eq (outcome : Slot → SyncOutcome) (left : List Slot) (handles : Handles) :
    (createSyncs device outcome left handles).1 =
      handles.createAll (owner device) (Ledger.made (syncAnswers outcome left)) := by
  induction left generalizing handles with
  | nil => rfl
  | cons i rest inductionHypothesis =>
      have answers : syncAnswers outcome (i :: rest) =
          (⟨.glSyncSemaphore, i⟩, (outcome i).createSemaphore) ::
            (⟨.glSyncHandle, i⟩, (outcome i).procAddr && (outcome i).getSemaphoreHandle) ::
            syncAnswers outcome rest := rfl
      rw [answers]
      unfold createSyncs
      cases (outcome i).createSemaphore with
      | false => rfl
      | true =>
          cases (outcome i).procAddr with
          | false => rfl
          | true =>
              cases (outcome i).getSemaphoreHandle with
              | false => rfl
              | true => exact inductionHypothesis _

end Handles

/-- The cells that `ext_bridge_init_gl_target_pool` makes something for. -/
def BuildOutcome.makes (outcome : BuildOutcome) : List Cell :=
  if outcome.procAddr = false then []
  else Ledger.made (Handles.targetAnswers outcome.slots (List.finRange poolSize))

/-- What the rollback of `ext_bridge_init_gl_target_pool` takes back. -/
def BuildOutcome.undoes (outcome : BuildOutcome) : List Cell :=
  if outcome.procAddr = false then []
  else Handles.undone outcome.slots (List.finRange poolSize)

/-- The cells that `ext_bridge_create_gl_sync_semaphores` makes something for. -/
def syncMakes (outcome : Slot → SyncOutcome) : List Cell :=
  Ledger.made (Handles.syncAnswers outcome (List.finRange poolSize))

structure Fillable (cells : List Cell) : Prop where
  canonical : ∀ cell ∈ cells, Canonical cell
  distinct : cells.Nodup

theorem Fillable.of_sublist {cells : List Cell} {fields : List HandleField}
    (sublist : cells.Sublist (everySlot fields))
    (unshared : ∀ field ∈ fields, field.shared = false) (distinct : (everySlot fields).Nodup) :
    Fillable cells where
  canonical := by
    intro cell member
    exact everySlot_canonical unshared cell (sublist.subset member)
  distinct := sublist.nodup distinct

theorem BuildOutcome.makes_sublist (outcome : BuildOutcome) :
    outcome.makes.Sublist (everySlot [.glTargetImage, .glTargetMemory, .glTargetHandle]) := by
  unfold makes
  split
  · exact List.nil_sublist _
  · exact (Ledger.made_prefix_cells (Handles.targetAnswers outcome.slots _)).sublist

theorem BuildOutcome.makes_fillable (outcome : BuildOutcome) : Fillable outcome.makes :=
  Fillable.of_sublist outcome.makes_sublist (by decide) (by decide)

theorem syncMakes_sublist (outcome : Slot → SyncOutcome) :
    (syncMakes outcome).Sublist (everySlot [.glSyncSemaphore, .glSyncHandle]) :=
  (Ledger.made_prefix_cells (Handles.syncAnswers outcome (List.finRange poolSize))).sublist

theorem syncMakes_fillable (outcome : Slot → SyncOutcome) : Fillable (syncMakes outcome) :=
  Fillable.of_sublist (syncMakes_sublist outcome) (by decide) (by decide)

theorem BuildOutcome.undoes_fields (outcome : BuildOutcome) :
    ∀ cell ∈ outcome.undoes,
      cell.field = .glTargetImage ∨ cell.field = .glTargetMemory := by
  unfold undoes
  split
  · simp
  · exact Handles.undone_fields outcome.slots _

theorem BuildOutcome.undoes_canonical (outcome : BuildOutcome) :
    ∀ cell ∈ outcome.undoes, Canonical cell := by
  intro cell member
  apply canonical_of_unshared
  rcases outcome.undoes_fields cell member with image | memory
  · rw [image]
    rfl
  · rw [memory]
    rfl

namespace Handles

variable {device : Option Nat} {handles : Handles}

theorem initGlTargetPool_eq (outcome : BuildOutcome) (handles : Handles) :
    handles.initGlTargetPool device outcome =
      (handles.createAll (owner device) outcome.makes).releaseAll (owner device)
        outcome.undoes := by
  unfold initGlTargetPool BuildOutcome.makes BuildOutcome.undoes
  split
  · rfl
  · exact buildTargets_eq outcome.slots _ handles

theorem undoes_of_makes_nil {outcome : BuildOutcome} (nothing : outcome.makes = []) :
    outcome.undoes = [] := by
  unfold BuildOutcome.makes at nothing
  unfold BuildOutcome.undoes
  split
  · rfl
  · rename_i found
    rw [if_neg found] at nothing
    change (if (outcome.slots 0).createImage = true then _ else _) = _ at nothing
    change (if (outcome.slots 0).createImage = false then _ else _) = _
    cases created : (outcome.slots 0).createImage with
    | false => rfl
    | true =>
        rw [created] at nothing
        cases nothing

/-- The image of the first slot is taken back only behind its handle, which stays. -/
theorem exists_kept_of_makes {outcome : BuildOutcome} (something : outcome.makes ≠ []) :
    ∃ cell ∈ outcome.makes, cell ∉ outcome.undoes := by
  have found : outcome.procAddr ≠ false := by
    intro missing
    apply something
    simp [BuildOutcome.makes, missing]
  have makes : outcome.makes =
      Ledger.made (targetAnswers outcome.slots (List.finRange poolSize)) := by
    simp [BuildOutcome.makes, found]
  have undoes : outcome.undoes = undone outcome.slots (List.finRange poolSize) := by
    simp [BuildOutcome.undoes, found]
  have first : List.finRange poolSize = 0 :: [1, 2] := rfl
  rw [first, targetAnswers, List.flatMap_cons] at makes
  rw [first, undone] at undoes
  cases created : (outcome.slots 0).createImage with
  | false =>
      rw [created] at makes
      exact absurd makes something
  | true =>
      rw [created] at makes undoes
      cases allocated : (outcome.slots 0).allocateMemory with
      | false =>
          rw [allocated] at makes undoes
          refine ⟨⟨.glTargetImage, 0⟩, ?_, ?_⟩
          · rw [makes]
            exact List.mem_cons_self
          · rw [undoes]
            exact List.not_mem_nil
      | true =>
          rw [allocated] at makes undoes
          cases exported : (outcome.slots 0).getMemoryHandle with
          | none =>
              rw [exported] at makes undoes
              refine ⟨⟨.glTargetImage, 0⟩, ?_, ?_⟩
              · rw [makes]
                exact List.mem_cons_self
              · rw [undoes]
                exact List.not_mem_nil
          | some handle =>
              rw [exported] at makes
              refine ⟨⟨.glTargetHandle, 0⟩, ?_, ?_⟩
              · rw [makes]
                exact List.mem_cons_of_mem _ (List.mem_cons_of_mem _ List.mem_cons_self)
              · intro member
                rcases outcome.undoes_fields _ member with image | memory
                · cases image
                · cases memory

theorem initGlTargetPool_keeps {outcome : BuildOutcome} (something : outcome.makes ≠ []) :
    ¬ Ledger.Vacant Canonical (handles.initGlTargetPool device outcome) := by
  intro vacant
  obtain ⟨cell, makes, stays⟩ := exists_kept_of_makes something
  have nothing := vacant cell (outcome.makes_fillable.canonical cell makes)
  have content : ((handles.createAll (owner device) outcome.makes).cells cell).isSome = true :=
    Ledger.createAll_isSome_of_mem (owner device) makes
  rw [initGlTargetPool_eq, Ledger.releaseAll_cells, if_neg stays] at nothing
  rw [nothing] at content
  cases content

theorem createSyncs_keeps {outcome : Slot → SyncOutcome} (something : syncMakes outcome ≠ []) :
    ¬ Ledger.Vacant Canonical
      (createSyncs device outcome (List.finRange poolSize) handles).1 := by
  intro vacant
  obtain ⟨cell, makes⟩ := List.exists_mem_of_ne_nil _ something
  have nothing := vacant cell ((syncMakes_fillable outcome).canonical cell makes)
  have content : ((handles.createAll (owner device) (syncMakes outcome)).cells cell).isSome =
      true := Ledger.createAll_isSome_of_mem (owner device) makes
  rw [createSyncs_eq] at nothing
  rw [syncMakes, nothing] at content
  cases content

theorem repeat_sameRoots {field : HandleField} (isShared : field.shared = true)
    (handles : Handles) :
    Ledger.SameRoots Canonical handles
      (handles.copyAll (handles.cells ⟨field, 0⟩) (everySlot [field])) := by
  apply Ledger.copyAll_sameRoots
  rintro ⟨other, slot⟩ member isRoot
  obtain rfl := List.mem_singleton.mp (mem_everySlot.mp member)
  obtain rfl : slot = 0 := isRoot isShared
  rfl

theorem importTexture_balanced {tex : Option Texture2D} {slot : Slot} {outcome : ImportOutcome}
    (balanced : Ledger.Balanced Canonical (owner device) handles)
    (ntHandle : handles.cells ⟨.d3d11NtHandle, slot⟩ = none)
    (image : handles.cells ⟨.imagePoolImage, 0⟩ = none)
    (memory : handles.cells ⟨.imagePoolMemory, 0⟩ = none) :
    Ledger.Balanced Canonical (owner device)
      (importTexture device tex slot outcome handles) := by
  unfold importTexture
  split
  · exact balanced
  · have imported := balanced.create (canonical_of_unshared rfl) ntHandle
    split
    · exact imported
    · split
      · exact imported.pass
      · have stored : Ledger.Balanced Canonical (owner device)
            ((handles.create (owner device) ⟨.d3d11NtHandle, slot⟩).createAll (owner device)
              [⟨.imagePoolImage, 0⟩, ⟨.imagePoolMemory, 0⟩]) := by
          apply imported.createAll
          · simp [Canonical]
          · decide
          · simp [Ledger.create_cells, image, memory]
        exact (stored.congr (repeat_sameRoots rfl _)).congr (repeat_sameRoots rfl _)

/-- The NT handle stays, whatever becomes of the image. -/
theorem importTexture_keeps {tex : Option Texture2D} {slot : Slot} {outcome : ImportOutcome}
    (shares : sharesHandle tex outcome = true) :
    ¬ Ledger.Vacant Canonical (importTexture device tex slot outcome handles) := by
  intro vacant
  have nothing := vacant ⟨.d3d11NtHandle, slot⟩ (canonical_of_unshared rfl)
  unfold importTexture at nothing
  rw [if_neg (by simp [shares])] at nothing
  split at nothing
  · simp [Ledger.create_cells] at nothing
  · split at nothing
    · simp [Ledger.pass, Ledger.create_cells] at nothing
    · rw [Ledger.copyAll_cells, if_neg (by simp [mem_everySlot]), Ledger.copyAll_cells,
        if_neg (by simp [mem_everySlot]), Ledger.createAll_cells_of_not_mem] at nothing
      · simp [Ledger.create_cells] at nothing
      · simp

end Handles

/-! ## The arrays of the state -/

def State.filled (state : State) (cell : Cell) : Option Bool :=
  match cell.field with
  | .imagePoolImage | .imagePoolMemory => some (state.imagePool cell.slot).isSome
  | .glTargetImage => some (state.glTargets cell.slot).image.isSome
  | .glTargetMemory => some (state.glTargets cell.slot).memory.isSome
  | .glTargetHandle => some (state.glTargets cell.slot).handle.isSome
  | .d3d11NtHandle | .glSyncSemaphore | .glSyncHandle => none

def Mirrors (state : State) (handles : Handles) : Prop :=
  ∀ cell filled, state.filled cell = some filled → (handles.cells cell).isSome = filled

theorem Mirrors.releaseAll {state next : State} {handles : Handles} {cells : List Cell}
    (mirrors : Mirrors state handles) (device : Option Nat)
    (emptied : ∀ cell ∈ cells, next.filled cell ≠ some true)
    (others : ∀ cell, cell ∉ cells → next.filled cell = state.filled cell) :
    Mirrors next (handles.releaseAll (owner device) cells) := by
  intro cell filled recorded
  rw [Ledger.releaseAll_cells]
  by_cases member : cell ∈ cells
  · rw [if_pos member]
    have empty := emptied cell member
    rw [recorded] at empty
    cases filled with
    | false => rfl
    | true => exact absurd rfl empty
  · rw [if_neg member]
    rw [others cell member] at recorded
    exact mirrors cell filled recorded

theorem Mirrors.create {state next : State} {handles : Handles} {made : Cell}
    (mirrors : Mirrors state handles) (device : Option Nat)
    (filled : next.filled made = some true)
    (others : ∀ cell, cell ≠ made → next.filled cell = state.filled cell) :
    Mirrors next (handles.create (owner device) made) := by
  intro cell holds recorded
  rw [Ledger.create_cells]
  by_cases same : cell = made
  · rw [same, filled] at recorded
    cases recorded
    rw [same, Function.update_self]
    rfl
  · rw [Function.update_of_ne same]
    rw [others cell same] at recorded
    exact mirrors cell holds recorded

theorem Mirrors.invalidatePool {state : State} {handles : Handles}
    (mirrors : Mirrors state handles) (device : Option Nat) :
    Mirrors state.invalidatePool (handles.invalidatePool device) := by
  rintro ⟨field, slot⟩ filled recorded
  rw [Handles.invalidatePool_cells]
  have before := mirrors ⟨field, slot⟩ filled
  cases field with
  | imagePoolImage | imagePoolMemory =>
      cases recorded
      rfl
  | glTargetImage | glTargetMemory | glTargetHandle => exact before recorded
  | d3d11NtHandle | glSyncSemaphore | glSyncHandle => cases recorded

/-- One more array of a slot is filled, in the state as in the ledger. -/
theorem Mirrors.fillTarget {state : State} {handles : Handles} {i : Slot} {old new : GlTarget}
    (mirrors : Mirrors { state with glTargets := Function.update state.glTargets i old } handles)
    (device : Option Nat) (made : HandleField)
    (filled : ({ state with glTargets := fun _ => new } : State).filled ⟨made, i⟩ = some true)
    (image : .glTargetImage ≠ made → new.image.isSome = old.image.isSome)
    (memory : .glTargetMemory ≠ made → new.memory.isSome = old.memory.isSome)
    (exported : .glTargetHandle ≠ made → new.handle.isSome = old.handle.isSome) :
    Mirrors { state with glTargets := Function.update state.glTargets i new }
      (handles.create (owner device) ⟨made, i⟩) := by
  have atSlot : ∀ (target : GlTarget) (field : HandleField),
      ({ state with glTargets := Function.update state.glTargets i target } : State).filled
          ⟨field, i⟩ =
        ({ state with glTargets := fun _ => target } : State).filled ⟨field, i⟩ := by
    intro target field
    simp only [State.filled, Function.update_self]
  have others : ∀ field, field ≠ made →
      ({ state with glTargets := fun _ => new } : State).filled ⟨field, i⟩ =
        ({ state with glTargets := fun _ => old } : State).filled ⟨field, i⟩ := by
    intro field different
    cases field with
    | glTargetImage => exact congrArg some (image different)
    | glTargetMemory => exact congrArg some (memory different)
    | glTargetHandle => exact congrArg some (exported different)
    | imagePoolImage | imagePoolMemory | d3d11NtHandle | glSyncSemaphore | glSyncHandle => rfl
  apply mirrors.create
  · rw [atSlot, filled]
  · rintro ⟨field, slot⟩ different
    by_cases same : slot = i
    · subst same
      rw [atSlot, atSlot]
      apply others
      rintro rfl
      exact different rfl
    · simp only [State.filled, Function.update_of_ne same]

theorem Mirrors.rollback {state : State} {handles : Handles} (mirrors : Mirrors state handles)
    (device : Option Nat) (i : Slot) :
    Mirrors { state with glTargets := rollback state.glTargets i }
      (handles.releaseAll (owner device) (Handles.rolledBack i)) := by
  have rolled : ∀ cell, cell ∈ Handles.rolledBack i ↔
      cell.slot < i ∧ (cell.field = .glTargetImage ∨ cell.field = .glTargetMemory) := by
    rintro ⟨field, slot⟩
    simp only [Handles.rolledBack, List.mem_flatMap, List.mem_filter, List.mem_finRange,
      decide_eq_true_eq, true_and, List.mem_cons, Cell.mk.injEq, List.not_mem_nil, or_false]
    constructor
    · rintro ⟨j, before, ⟨rfl, rfl⟩ | ⟨rfl, rfl⟩⟩
      · exact ⟨before, Or.inl rfl⟩
      · exact ⟨before, Or.inr rfl⟩
    · rintro ⟨before, rfl | rfl⟩
      · exact ⟨slot, before, Or.inl ⟨rfl, rfl⟩⟩
      · exact ⟨slot, before, Or.inr ⟨rfl, rfl⟩⟩
  apply mirrors.releaseAll
  · intro cell member
    obtain ⟨before, image | memory⟩ := (rolled cell).mp member
    · simp [State.filled, image, Gpu.rollback, before]
    · simp [State.filled, memory, Gpu.rollback, before]
  · intro cell outside
    rw [rolled] at outside
    by_cases before : cell.slot < i
    · obtain ⟨field, slot⟩ := cell
      cases field <;> simp_all [State.filled, Gpu.rollback]
    · simp [State.filled, Gpu.rollback, before]

theorem Mirrors.buildTargets {outcome : Slot → SlotOutcome} {state : State} {handles : Handles}
    (mirrors : Mirrors state handles) (device : Option Nat) (format : VkFormat)
    (width height : UInt32) (left : List Slot) :
    Mirrors
      { state with
        glTargets := (buildSlots format width height outcome left state.glTargets).1 }
      (Handles.buildTargets device outcome left handles) := by
  induction left generalizing state handles with
  | nil => exact mirrors
  | cons i rest inductionHypothesis =>
      unfold buildSlots Handles.buildTargets
      cases created : (outcome i).createImage with
      | false => exact mirrors.rollback device i
      | true =>
          have old : Mirrors
              { state with
                glTargets := Function.update state.glTargets i (state.glTargets i) } handles := by
            rwa [Function.update_eq_self]
          rw [if_neg (by decide), if_neg (by decide)]
          let target : GlTarget :=
            { state.glTargets i with
              image := some ⟨width, height, format, false⟩
              size := (outcome i).size }
          have image : Mirrors
              { state with glTargets := Function.update state.glTargets i target } _ :=
            old.fillTarget device .glTargetImage rfl (fun other => absurd rfl other)
              (fun _ => rfl) fun _ => rfl
          simp only [buildSlot]
          cases allocated : (outcome i).allocateMemory with
          | false =>
              rw [if_pos rfl]
              exact image
          | true =>
              let bound : GlTarget :=
                { target with
                  memory := some (outcome i).size
                  image := some ⟨width, height, format, (outcome i).bindImageMemory⟩ }
              have memory : Mirrors
                  { state with glTargets := Function.update state.glTargets i bound } _ :=
                image.fillTarget device .glTargetMemory rfl (fun _ => rfl)
                  (fun other => absurd rfl other) fun _ => rfl
              rw [if_neg (by decide), if_neg (by decide)]
              cases exported : (outcome i).getMemoryHandle with
              | none =>
                  rw [if_pos rfl]
                  exact memory
              | some handle =>
                  have complete : Mirrors
                      { state with
                        glTargets := Function.update state.glTargets i
                          { bound with handle := some handle } } _ :=
                    memory.fillTarget device .glTargetHandle rfl (fun _ => rfl) (fun _ => rfl)
                      fun other => absurd rfl other
                  rw [if_neg (by simp)]
                  exact inductionHypothesis complete

theorem createVulkanImageFromD3d11_isSome (tex : Option Texture2D) (outcome : ImportOutcome) :
    (createVulkanImageFromD3d11 tex outcome).isSome =
      (Handles.sharesHandle tex outcome && outcome.createImage && outcome.allocateMemory) := by
  cases tex with
  | none => rfl
  | some desc =>
      unfold createVulkanImageFromD3d11 Handles.sharesHandle createVulkanImage
      dsimp only
      by_cases format : dxgiToVkFormat desc.format = .undefined
      · simp [format]
      · cases outcome.queryInterface <;> cases outcome.createSharedHandle <;>
          cases outcome.createImage <;> cases outcome.allocateMemory <;> simp [format]

theorem Mirrors.createNtHandle {state : State} {handles : Handles}
    (mirrors : Mirrors state handles) (device : Option Nat) (slot : Slot) :
    Mirrors state (handles.create (owner device) ⟨.d3d11NtHandle, slot⟩) := by
  intro cell filled recorded
  have different : cell ≠ ⟨.d3d11NtHandle, slot⟩ := by
    rintro rfl
    cases recorded
  rw [Ledger.create_cells, Function.update_of_ne different]
  exact mirrors cell filled recorded

theorem Mirrors.import_failed {state : State} {handles : Handles}
    (mirrors : Mirrors state handles) {tex : Option Texture2D} {outcome : ImportOutcome}
    (failed : createVulkanImageFromD3d11 tex outcome = none) (device : Option Nat)
    (slot : Slot) :
    Mirrors state (Handles.importTexture device tex slot outcome handles) := by
  have answers := createVulkanImageFromD3d11_isSome tex outcome
  rw [failed] at answers
  unfold Handles.importTexture
  split
  next => exact mirrors
  next shares =>
    have shared := mirrors.createNtHandle device slot
    split
    next => exact shared
    next created =>
      split
      next => exact shared
      next allocated => simp_all

theorem Mirrors.import_stored {state : State} {handles : Handles}
    (mirrors : Mirrors state handles) {tex : Option Texture2D} {outcome : ImportOutcome}
    {image : VkImage} (imported : createVulkanImageFromD3d11 tex outcome = some image)
    (device : Option Nat) (slot : Slot) :
    Mirrors (state.storeImport image) (Handles.importTexture device tex slot outcome handles) := by
  have answers := createVulkanImageFromD3d11_isSome tex outcome
  simp only [imported, Option.isSome_some, Bool.true_eq, Bool.and_eq_true] at answers
  obtain ⟨⟨shares, created⟩, allocated⟩ := answers
  have shared := mirrors.createNtHandle device slot
  unfold Handles.importTexture
  rw [if_neg (by simp [shares]), if_neg (by simp [created]), if_neg (by simp [allocated])]
  let stored : Handles := (handles.create (owner device) ⟨.d3d11NtHandle, slot⟩).createAll
    (owner device) [⟨.imagePoolImage, 0⟩, ⟨.imagePoolMemory, 0⟩]
  have kept : ∀ cell : Cell, cell.field.shared = false →
      stored.cells cell = (handles.create (owner device) ⟨.d3d11NtHandle, slot⟩).cells cell := by
    rintro ⟨field, other⟩ unshared
    apply Ledger.createAll_cells_of_not_mem
    cases field <;> simp_all [HandleField.shared]
  rintro ⟨field, other⟩ filled recorded
  have before := shared ⟨field, other⟩ filled
  rw [Ledger.copyAll_cells, Ledger.copyAll_cells]
  simp only [mem_everySlot, List.mem_singleton]
  cases field with
  | imagePoolImage =>
      cases recorded
      have present : (stored.cells ⟨.imagePoolImage, 0⟩).isSome = true :=
        Ledger.createAll_isSome_of_mem (owner device) List.mem_cons_self
      simpa [Ledger.copyAll_cells, mem_everySlot, State.storeImport] using present
  | imagePoolMemory =>
      cases recorded
      have present : (stored.cells ⟨.imagePoolMemory, 0⟩).isSome = true :=
        Ledger.createAll_isSome_of_mem (owner device) (List.mem_cons_of_mem _ List.mem_cons_self)
      simpa [Ledger.copyAll_cells, mem_everySlot, State.storeImport] using present
  | glTargetImage | glTargetMemory | glTargetHandle =>
      have unchanged := before recorded
      rw [← kept _ rfl] at unchanged
      simpa [Ledger.copyAll_cells, mem_everySlot] using unchanged
  | d3d11NtHandle | glSyncSemaphore | glSyncHandle => cases recorded

theorem Mirrors.initGlTargetPool {state : State} {handles : Handles}
    (mirrors : Mirrors state handles) (device : Option Nat) (format : VkFormat)
    (width height : UInt32) (outcome : BuildOutcome) :
    Mirrors (state.initGlTargetPool format width height outcome).1
      (handles.initGlTargetPool device outcome) := by
  unfold State.initGlTargetPool Handles.initGlTargetPool
  dsimp only
  split
  · exact mirrors
  · have sized : Mirrors
        { state with format := format, width := width, height := height } handles := mirrors
    exact sized.buildTargets device format width height (List.finRange poolSize)

theorem Mirrors.createSyncs {state : State} {handles : Handles}
    (mirrors : Mirrors state handles) (device : Option Nat) (outcome : Slot → SyncOutcome) :
    Mirrors state (Handles.createSyncs device outcome (List.finRange poolSize) handles).1 := by
  rw [Handles.createSyncs_eq]
  intro cell filled recorded
  rw [Ledger.createAll_cells_of_not_mem]
  · exact mirrors cell filled recorded
  · intro member
    have inside := (syncMakes_sublist outcome).subset member
    obtain ⟨field, slot⟩ := cell
    rw [mem_everySlot] at inside
    simp only [List.mem_cons, List.not_mem_nil, or_false] at inside
    rcases inside with rfl | rfl
    · cases recorded
    · cases recorded

namespace Bridge

theorem present_false {bridge : Bridge} : bridge.state.device = false ↔ bridge.device = none := by
  rw [bridge.present]
  cases bridge.device with
  | none => simp
  | some device => simp

theorem mirrors_init {bridge : Bridge} (mirrors : Mirrors bridge.state bridge.handles)
    (device physicalDevice : Option Nat) :
    Mirrors (bridge.init device physicalDevice).1.state
      (bridge.init device physicalDevice).1.handles := by
  unfold init
  split
  · exact mirrors
  · split
    · exact mirrors
    · exact mirrors

theorem mirrors_frame {bridge : Bridge} (mirrors : Mirrors bridge.state bridge.handles)
    (tex : Option Texture2D) (slot : Nat) (outcome : ImportOutcome) :
    Mirrors (bridge.state.getFrameImages tex slot outcome).1
      (bridge.frameHandles tex slot outcome) := by
  unfold State.getFrameImages frameHandles
  by_cases device : bridge.device = none
  · rw [if_pos (present_false.mpr device), if_pos device]
    exact mirrors
  · rw [if_neg (present_false.not.mpr device), if_neg device]
    split
    next inPool =>
      split
      next changed =>
        have emptied : Mirrors
            { bridge.state.invalidatePool with cachedTexturePtr := tex.map Texture2D.ptr }
            (bridge.handles.invalidatePool bridge.device) := mirrors.invalidatePool bridge.device
        dsimp only
        cases imported : createVulkanImageFromD3d11 tex outcome with
        | none => exact emptied.import_failed imported bridge.device ⟨slot, inPool⟩
        | some image => exact emptied.import_stored imported bridge.device ⟨slot, inPool⟩
      next => exact mirrors
    next => exact mirrors

theorem mirrors_resize {bridge : Bridge} (mirrors : Mirrors bridge.state bridge.handles)
    (width height : UInt32) (outcome : BuildOutcome) :
    Mirrors (bridge.state.resizeGlTargetPool width height outcome).1
      (bridge.resizedHandles width height outcome) := by
  unfold State.resizeGlTargetPool resizedHandles
  by_cases device : bridge.device = none
  · rw [if_pos (present_false.mpr device), if_pos device]
    exact mirrors
  · rw [if_neg (present_false.not.mpr device), if_neg device]
    split
    next => exact mirrors
    next =>
      apply Mirrors.initGlTargetPool
      rintro ⟨field, slot⟩ filled recorded
      rw [Handles.releaseTargets_cells]
      cases field with
      | glTargetImage | glTargetMemory | glTargetHandle =>
          cases recorded
          rfl
      | imagePoolImage | imagePoolMemory => exact mirrors _ filled recorded
      | d3d11NtHandle | glSyncSemaphore | glSyncHandle => cases recorded

theorem mirrors_shutdown {bridge : Bridge} (mirrors : Mirrors bridge.state bridge.handles) :
    Mirrors bridge.shutdown.state bridge.shutdown.handles := by
  unfold shutdown
  split
  · exact mirrors
  · rintro ⟨field, slot⟩ filled recorded
    dsimp only
    unfold Handles.shutdown
    rw [Handles.releaseTargets_cells, Ledger.releaseAll_cells, Handles.invalidatePool_cells]
    simp only [mem_everySlot]
    cases field <;> cases recorded <;> rfl

/-- A filled array of the state is a filled cell of the ledger, in every run. -/
theorem run_mirrors {finish : Bridge} {calls : List Call}
    (executed : Machine.exec step start calls = some finish) :
    Mirrors finish.state finish.handles := by
  have preserved : ∀ (bridge : Bridge) (call : Call) (next : Bridge),
      Mirrors bridge.state bridge.handles → step bridge call = some next →
      Mirrors next.state next.handles := by
    intro bridge call next mirrors stepped
    cases stepped
    cases call with
    | init device physicalDevice => exact mirrors_init mirrors device physicalDevice
    | setDevice device physicalDevice => exact mirrors
    | initGlTargetPool format width height outcome =>
        exact mirrors.initGlTargetPool bridge.device format width height outcome
    | createGlSyncSemaphores outcome => exact mirrors.createSyncs bridge.device outcome
    | getFrameImages tex slot outcome => exact mirrors_frame mirrors tex slot outcome
    | resizeGlTargetPool width height outcome => exact mirrors_resize mirrors width height outcome
    | shutdown => exact mirrors_shutdown mirrors
  apply Machine.exec_invariant preserved ?_ executed
  rintro ⟨field, slot⟩ filled recorded
  cases field <;> cases recorded <;> rfl

end Bridge

end RejiStudio.Gpu
