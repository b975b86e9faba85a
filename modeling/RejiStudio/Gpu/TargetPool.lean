import RejiStudio.Gpu.ExternalMemoryBridge

/-!
# The recorded size and the size of the target pool

A resize that finds its size recorded returns without looking at the pool.  It is
honest as long as the recorded size is the size that every slot was built with.
-/

namespace RejiStudio.Gpu

open RejiStudio.Lib

def GlTarget.Ready (target : GlTarget) (width height : UInt32) : Prop :=
  ∃ image, target.image = some image ∧
    image.width = width ∧ image.height = height ∧ image.bound = true

def TargetsReady (targets : GlTargets) (width height : UInt32) : Prop :=
  ∀ i, (targets i).Ready width height

theorem GlTarget.Ready.unique {target : GlTarget} {width height width' height' : UInt32}
    (ready : target.Ready width height) (ready' : target.Ready width' height') :
    width = width' ∧ height = height' := by
  obtain ⟨image, present, rfl, rfl, -⟩ := ready
  obtain ⟨image', present', rfl, rfl, -⟩ := ready'
  rw [present] at present'
  cases present'
  exact ⟨rfl, rfl⟩

/-! ## What a build leaves -/

/-- The calls for the slots that are left make every image that the loop reaches
and bind it.  `kept` says whether the slots it does not reach may stay as they
are. -/
def Builds (outcome : Slot → SlotOutcome) (kept : Prop) : List Slot → Prop
  | [] => True
  | i :: rest =>
      if (outcome i).createImage = true then
        (outcome i).allocateMemory = true ∧ (outcome i).bindImageMemory = true ∧
          if (outcome i).getMemoryHandle.isSome = true then Builds outcome kept rest
          else rest = [] ∨ kept
      else i = 0 ∧ kept

theorem buildSlot_ready (format : VkFormat) (width height : UInt32) (old : GlTarget)
    (outcome : SlotOutcome) :
    (buildSlot format width height old outcome).1.Ready width height ↔
      outcome.allocateMemory = true ∧ outcome.bindImageMemory = true := by
  unfold buildSlot
  by_cases allocated : outcome.allocateMemory = true
  · cases handle : outcome.getMemoryHandle <;> simp [GlTarget.Ready, allocated]
  · simp [GlTarget.Ready, allocated]

theorem buildSlot_snd (format : VkFormat) (width height : UInt32) (old : GlTarget)
    (outcome : SlotOutcome) :
    (buildSlot format width height old outcome).2 =
      (outcome.allocateMemory && outcome.getMemoryHandle.isSome) := by
  unfold buildSlot
  by_cases allocated : outcome.allocateMemory = true
  · cases handle : outcome.getMemoryHandle <;> simp [allocated]
  · simp [allocated]

theorem update_ready {targets : GlTargets} {i : Slot} {target : GlTarget}
    {width height : UInt32} :
    TargetsReady (Function.update targets i target) width height ↔
      target.Ready width height ∧ ∀ j, j ≠ i → (targets j).Ready width height :=
  Function.forall_update_iff targets fun _ target => target.Ready width height

theorem update_ready_outside {targets : GlTargets} {i : Slot} {rest : List Slot}
    (target : GlTarget) (width height : UInt32) (fresh : i ∉ rest) :
    (∀ j, j ∉ rest → (Function.update targets i target j).Ready width height) ↔
      target.Ready width height ∧ ∀ j, j ∉ i :: rest → (targets j).Ready width height := by
  constructor
  · intro ready
    have filled := ready i fresh
    rw [Function.update_self] at filled
    refine ⟨filled, fun j outside => ?_⟩
    have kept := ready j (List.not_mem_of_not_mem_cons outside)
    rwa [Function.update_of_ne (List.ne_of_not_mem_cons outside)] at kept
  · rintro ⟨filled, ready⟩ j outside
    by_cases same : j = i
    · rw [same, Function.update_self]
      exact filled
    · rw [Function.update_of_ne same]
      exact ready j (by simp [same, outside])

theorem rollback_ready {targets : GlTargets} {i j : Slot} {width height : UInt32} :
    (rollback targets i j).Ready width height ↔
      ¬ j < i ∧ (targets j).Ready width height := by
  unfold rollback
  by_cases before : j < i
  · simp [before, GlTarget.Ready]
  · simp [before]

theorem buildSlots_cons {format : VkFormat} {width height : UInt32}
    {outcome : Slot → SlotOutcome} {i : Slot} (rest : List Slot) (targets : GlTargets)
    (created : (outcome i).createImage = true) :
    buildSlots format width height outcome (i :: rest) targets =
      let filled := Function.update targets i
        (buildSlot format width height (targets i) (outcome i)).1
      if ((outcome i).allocateMemory && (outcome i).getMemoryHandle.isSome) = true then
        buildSlots format width height outcome rest filled
      else (filled, false) := by
  have goesOn := buildSlot_snd format width height (targets i) (outcome i)
  rw [buildSlots, if_neg (by simp [created])]
  rw [← goesOn]
  cases buildSlot format width height (targets i) (outcome i) with
  | mk target more => cases more <;> rfl

/-- The slots other than the next one: those behind the loop, and those it has still to
reach. -/
theorem others_ready_iff {targets : GlTargets} {i : Slot} {rest : List Slot} {kept : Prop}
    {width height : UInt32} (first : ∀ k ∈ rest, i < k)
    (old : ∀ k ∈ rest, (targets k).Ready width height ↔ kept) :
    (∀ j, j ≠ i → (targets j).Ready width height) ↔
      (∀ j, j ∉ i :: rest → (targets j).Ready width height) ∧ (rest = [] ∨ kept) := by
  constructor
  · intro ready
    refine ⟨fun j outside => ready j (List.ne_of_not_mem_cons outside), ?_⟩
    cases rest with
    | nil => exact Or.inl rfl
    | cons k later =>
        have follows := Fin.ne_of_gt (first k List.mem_cons_self)
        exact Or.inr ((old k List.mem_cons_self).mp (ready k follows))
  · rintro ⟨outside, keeps⟩ j different
    by_cases member : j ∈ rest
    · have nonempty := List.ne_nil_of_mem member
      exact (old j member).mpr (keeps.resolve_left nonempty)
    · apply outside j
      simp [different, member]

theorem before_rest {i : Slot} {rest : List Slot} (first : ∀ k ∈ rest, i < k)
    (done : ∀ j, j ∉ i :: rest → ∀ k ∈ i :: rest, j < k) :
    ∀ j, j ∉ rest → ∀ k ∈ rest, j < k := by
  intro j earlier k later
  by_cases same : j = i
  · rw [same]
    exact first k later
  · apply done j
    · simp [same, earlier]
    · exact List.mem_cons_of_mem i later

/-- The pool that a loop over the last slots leaves, by induction on these
slots. -/
theorem buildSlots_ready {format : VkFormat} {width height : UInt32}
    {outcome : Slot → SlotOutcome} {kept : Prop} {left : List Slot} {targets : GlTargets}
    (sorted : left.Pairwise (· < ·))
    (done : ∀ j, j ∉ left → ∀ i ∈ left, j < i)
    (old : ∀ i ∈ left, (targets i).Ready width height ↔ kept) :
    TargetsReady (buildSlots format width height outcome left targets).1 width height ↔
      (∀ j, j ∉ left → (targets j).Ready width height) ∧ Builds outcome kept left := by
  induction left generalizing targets with
  | nil => simp [buildSlots, Builds, TargetsReady]
  | cons i rest inductionHypothesis =>
      obtain ⟨first, sortedRest⟩ := List.pairwise_cons.mp sorted
      have present : i ∈ i :: rest := List.mem_cons_self
      by_cases created : (outcome i).createImage = true
      · have target := buildSlot_ready format width height (targets i) (outcome i)
        have others := others_ready_iff first fun k later => old k (List.mem_cons_of_mem i later)
        have beforeRest := before_rest first done
        rw [buildSlots_cons rest targets created]
        simp only [Builds, created, if_true]
        by_cases handle : (outcome i).getMemoryHandle.isSome = true
        · by_cases allocated : (outcome i).allocateMemory = true
          · simp only [allocated, handle, Bool.and_self, if_true, true_and]
            rw [inductionHypothesis sortedRest beforeRest fun k later => ?_]
            · have filled := @update_ready_outside targets i rest
                (buildSlot format width height (targets i) (outcome i)).1 width height
                fun member => absurd (first i member) (Fin.lt_irrefl i)
              rw [target, allocated] at filled
              rw [filled]
              constructor
              · rintro ⟨⟨⟨-, bound⟩, outside⟩, builds⟩
                exact ⟨outside, bound, builds⟩
              · rintro ⟨outside, bound, builds⟩
                exact ⟨⟨⟨rfl, bound⟩, outside⟩, builds⟩
            · rw [Function.update_of_ne (Fin.ne_of_gt (first k later))]
              exact old k (List.mem_cons_of_mem i later)
          · simp [allocated, update_ready, target]
        · simp only [handle, Bool.and_false, Bool.false_eq_true, if_false, update_ready, target,
            others]
          constructor
          · rintro ⟨⟨allocated, bound⟩, outside, keeps⟩
            exact ⟨outside, allocated, bound, keeps⟩
          · rintro ⟨outside, allocated, bound, keeps⟩
            exact ⟨⟨allocated, bound⟩, outside, keeps⟩
      · simp only [buildSlots, Bool.eq_false_of_not_eq_true created, Builds, TargetsReady,
          rollback_ready, if_true, Bool.false_eq_true, if_false]
        constructor
        · intro ready
          refine ⟨fun j _ => (ready j).2, ?_, (old i present).mp (ready i).2⟩
          by_contra later
          exact (ready 0).1 (Fin.pos_iff_ne_zero.mpr later)
        · rintro ⟨-, rfl, keeps⟩ j
          have member : j ∈ 0 :: rest := by
            by_contra earlier
            exact absurd (done j earlier 0 present) (Fin.not_lt_zero j)
          exact ⟨Fin.not_lt_zero j, (old j member).mpr keeps⟩

namespace BuildOutcome

/-- The build leaves every slot of the pool ready; `kept` says whether slots it
does not reach may stay as they are. -/
def Leaves (outcome : BuildOutcome) (kept : Prop) : Prop :=
  if outcome.procAddr = true then Builds outcome.slots kept (List.finRange poolSize) else kept

structure Success (outcome : BuildOutcome) : Prop where
  procAddr : outcome.procAddr = true
  createImage : ∀ i, (outcome.slots i).createImage = true
  allocateMemory : ∀ i, (outcome.slots i).allocateMemory = true
  bindImageMemory : ∀ i, (outcome.slots i).bindImageMemory = true
  getMemoryHandle : ∀ i, (outcome.slots i).getMemoryHandle.isSome = true

theorem Success.builds {outcome : BuildOutcome} (success : outcome.Success) (kept : Prop)
    (left : List Slot) : Builds outcome.slots kept left := by
  induction left with
  | nil => exact trivial
  | cons i rest inductionHypothesis =>
      rw [Builds, if_pos (success.createImage i), if_pos (success.getMemoryHandle i)]
      exact ⟨success.allocateMemory i, success.bindImageMemory i, inductionHypothesis⟩

theorem Success.leaves {outcome : BuildOutcome} (success : outcome.Success) (kept : Prop) :
    outcome.Leaves kept := by
  rw [Leaves, if_pos success.procAddr]
  exact success.builds kept _

def succeeding : BuildOutcome := ⟨true, fun _ => ⟨true, 0, true, true, some 0⟩⟩

theorem succeeding_success : succeeding.Success :=
  ⟨rfl, fun _ => rfl, fun _ => rfl, fun _ => rfl, fun _ => rfl⟩

end BuildOutcome

namespace State

theorem initGlTargetPool_leaves {s : State} {format : VkFormat} {width height : UInt32}
    {outcome : BuildOutcome} {kept : Prop}
    (old : ∀ i, (s.glTargets i).Ready width height ↔ kept) :
    TargetsReady (s.initGlTargetPool format width height outcome).1.glTargets width height ↔
      outcome.Leaves kept := by
  unfold initGlTargetPool BuildOutcome.Leaves
  by_cases found : outcome.procAddr = true
  · simp only [found, if_true, Bool.true_eq_false, if_false]
    have everySlot : ∀ j, j ∈ List.finRange poolSize := List.mem_finRange
    have sorted : (List.finRange poolSize).Pairwise (· < ·) := by decide
    rw [buildSlots_ready sorted (fun j outside => absurd (everySlot j) outside) fun i _ => old i]
    apply and_iff_right
    intro j outside
    exact absurd (everySlot j) outside
  · simp only [found, Bool.false_eq_true, if_false, if_true]
    constructor
    · intro ready
      exact (old 0).mp (ready 0)
    · intro keeps i
      exact (old i).mpr keeps

theorem initGlTargetPool_size (s : State) (format : VkFormat) (width height : UInt32)
    (outcome : BuildOutcome) :
    (s.initGlTargetPool format width height outcome).1.width = width ∧
      (s.initGlTargetPool format width height outcome).1.height = height ∧
      (s.initGlTargetPool format width height outcome).1.device = s.device := by
  unfold initGlTargetPool
  by_cases found : outcome.procAddr = false
  · rw [if_pos found]
    exact ⟨rfl, rfl, rfl⟩
  · rw [if_neg found]
    exact ⟨rfl, rfl, rfl⟩

/-! ## The recorded size -/

def Consistent (s : State) : Prop :=
  TargetsReady s.glTargets s.width s.height

/-- A resize whose Vulkan calls succeed and that returns true leaves the pool at
the size it was asked for. -/
def Honest (s : State) : Prop :=
  ∀ width height outcome, outcome.Success →
    (s.resizeGlTargetPool width height outcome).2 = true →
      TargetsReady (s.resizeGlTargetPool width height outcome).1.glTargets width height

/-- After a rebuild the pool is ready exactly if no call that matters failed. -/
theorem resizeGlTargetPool_rebuild {s : State} {width height : UInt32}
    (outcome : BuildOutcome) (device : s.device = true)
    (changed : ¬ (s.width = width ∧ s.height = height)) :
    TargetsReady (s.resizeGlTargetPool width height outcome).1.glTargets width height ↔
      outcome.Leaves False := by
  rw [resizeGlTargetPool, if_neg (by simp [device]), if_neg changed]
  apply initGlTargetPool_leaves
  intro i
  simp [teardownGlTargets, GlTarget.empty, GlTarget.Ready]

theorem honest_iff {s : State} (device : s.device = true) : s.Honest ↔ s.Consistent := by
  have shortcut : ∀ outcome, s.resizeGlTargetPool s.width s.height outcome = (s, true) := by
    intro outcome
    simp [resizeGlTargetPool, device]
  constructor
  · intro honest
    have ready := honest s.width s.height BuildOutcome.succeeding
      BuildOutcome.succeeding_success
    rw [shortcut] at ready
    exact ready rfl
  · intro consistent width height outcome success _
    by_cases same : s.width = width ∧ s.height = height
    · obtain ⟨rfl, rfl⟩ := same
      rw [shortcut]
      exact consistent
    · exact (resizeGlTargetPool_rebuild outcome device same).mpr (success.leaves False)

/-! ## Calls -/

def Imports (s : State) (tex : Option Texture2D) (slot : Nat) (outcome : ImportOutcome) : Prop :=
  s.device = true ∧ slot < poolSize ∧ tex.map Texture2D.ptr ≠ s.cachedTexturePtr ∧
    (createVulkanImageFromD3d11 tex outcome).isSome = true

/-- An import brings a texture of the recorded size; a build runs through, binds
included, or stops without having touched a pool of the same size. -/
def ConsistentCall (s : State) : BridgeCall → Prop
  | .getFrameImages tex slot outcome =>
      ∀ desc, tex = some desc → s.Imports tex slot outcome →
        desc.width = s.width ∧ desc.height = s.height
  | .initGlTargetPool _ width height outcome =>
      outcome.Leaves (s.width = width ∧ s.height = height)
  | .resizeGlTargetPool width height outcome =>
      s.width = width ∧ s.height = height ∨ outcome.Leaves False

/-- A copy of this extent stays within its destination, whatever the slot. -/
def CopyFits (s : State) (width height : UInt32) : Prop :=
  ∀ slot, slot < poolSize → ∃ image, s.getExecuteTarget slot = some image ∧
    width ≤ image.width ∧ height ≤ image.height

/-- A resize that returns true leaves all targets ready, and so will the next
one. -/
def SoundCall (s : State) (call : BridgeCall) : Prop :=
  ∀ next, step s call = some next → next.Honest ∧
    ∀ width height outcome, call = .resizeGlTargetPool width height outcome →
      (s.resizeGlTargetPool width height outcome).2 = true →
        TargetsReady next.glTargets width height ∧ next.CopyFits width height

theorem copyFits_of_ready {s : State} {width height : UInt32}
    (ready : TargetsReady s.glTargets width height) : s.CopyFits width height := by
  intro slot inPool
  obtain ⟨image, present, rfl, rfl, -⟩ := ready (⟨slot, inPool⟩ + 1)
  refine ⟨image, ?_, UInt32.le_refl _, UInt32.le_refl _⟩
  rw [getExecuteTarget, dif_pos inPool]
  exact present

theorem imported_size {tex : Option Texture2D} {outcome : ImportOutcome} {image : VkImage}
    (imported : createVulkanImageFromD3d11 tex outcome = some image) :
    ∃ desc, tex = some desc ∧ image.width = desc.width ∧ image.height = desc.height := by
  unfold createVulkanImageFromD3d11 createVulkanImage at imported
  cases tex with
  | none => cases imported
  | some desc =>
      refine ⟨desc, rfl, ?_⟩
      dsimp only at imported
      iterate 5
        split at imported
        · cases imported
      cases imported
      exact ⟨rfl, rfl⟩

theorem Consistent.ready_iff {s : State} (consistent : s.Consistent) {width height : UInt32}
    (i : Slot) : (s.glTargets i).Ready width height ↔ s.width = width ∧ s.height = height := by
  constructor
  · exact (consistent i).unique
  · rintro ⟨rfl, rfl⟩
    exact consistent i

/-- What `getFrameImages` does to the fields that a resize reads: it imports and
records the size of the texture, or leaves them. -/
theorem getFrameImages_cases (s : State) (tex : Option Texture2D) (slot : Nat)
    (outcome : ImportOutcome) :
    (s.getFrameImages tex slot outcome).1.glTargets = s.glTargets ∧
      (s.getFrameImages tex slot outcome).1.device = s.device ∧
      ((∃ desc, tex = some desc ∧ s.Imports tex slot outcome ∧
          (s.getFrameImages tex slot outcome).1.width = desc.width ∧
          (s.getFrameImages tex slot outcome).1.height = desc.height) ∨
        ¬ s.Imports tex slot outcome ∧
          (s.getFrameImages tex slot outcome).1.width = s.width ∧
          (s.getFrameImages tex slot outcome).1.height = s.height) := by
  unfold getFrameImages Imports
  by_cases device : s.device = true
  · by_cases inPool : slot < poolSize
    · by_cases changed : tex.map Texture2D.ptr ≠ s.cachedTexturePtr
      · rw [if_neg (by simp [device]), dif_pos inPool, if_pos changed]
        cases imported : createVulkanImageFromD3d11 tex outcome with
        | none => exact ⟨rfl, rfl, Or.inr ⟨by simp, rfl, rfl⟩⟩
        | some image =>
            refine ⟨rfl, rfl, Or.inl ?_⟩
            obtain ⟨desc, present, width, height⟩ := imported_size imported
            exact ⟨desc, present, ⟨device, inPool, changed, rfl⟩, width, height⟩
      · rw [if_neg (by simp [device]), dif_pos inPool, if_neg changed]
        exact ⟨rfl, rfl, Or.inr ⟨by simp [changed], rfl, rfl⟩⟩
    · rw [if_neg (by simp [device]), dif_neg inPool]
      exact ⟨rfl, rfl, Or.inr ⟨by simp [inPool], rfl, rfl⟩⟩
  · rw [if_pos (by simp [device])]
    exact ⟨rfl, rfl, Or.inr ⟨by simp [device], rfl, rfl⟩⟩

theorem step_device {s next : State} {call : BridgeCall} (stepped : step s call = some next) :
    next.device = s.device := by
  cases call with
  | getFrameImages tex slot outcome =>
      cases stepped
      exact (getFrameImages_cases s tex slot outcome).2.1
  | initGlTargetPool format width height outcome =>
      cases stepped
      exact (initGlTargetPool_size s format width height outcome).2.2
  | resizeGlTargetPool width height outcome =>
      cases stepped
      unfold resizeGlTargetPool
      split
      · rfl
      · split
        · rfl
        · exact (initGlTargetPool_size _ _ _ _ _).2.2

theorem resizeGlTargetPool_size {s : State} {width height : UInt32} (outcome : BuildOutcome)
    (device : s.device = true) :
    (s.resizeGlTargetPool width height outcome).1.width = width ∧
      (s.resizeGlTargetPool width height outcome).1.height = height := by
  unfold resizeGlTargetPool
  rw [if_neg (by simp [device])]
  by_cases same : s.width = width ∧ s.height = height
  · rw [if_pos same]
    exact same
  · rw [if_neg same]
    have size := initGlTargetPool_size s.teardownGlTargets s.format width height outcome
    exact ⟨size.1, size.2.1⟩

/-- From a consistent state, the calls that keep it consistent are the consistent
ones. -/
theorem consistentCall_iff {s next : State} {call : BridgeCall} (device : s.device = true)
    (consistent : s.Consistent) (stepped : step s call = some next) :
    s.ConsistentCall call ↔ next.Consistent := by
  cases call with
  | getFrameImages tex slot outcome =>
      cases stepped
      obtain ⟨sameTargets, -, imports⟩ := getFrameImages_cases s tex slot outcome
      unfold Consistent
      rw [sameTargets]
      rcases imports with ⟨desc, present, imported, width, height⟩ | ⟨kept, width, height⟩
      · rw [width, height]
        constructor
        · intro sameSize
          obtain ⟨sameWidth, sameHeight⟩ := sameSize desc present imported
          rw [sameWidth, sameHeight]
          exact consistent
        · intro ready other present' _
          rw [present] at present'
          cases present'
          obtain ⟨sameWidth, sameHeight⟩ := (consistent.ready_iff 0).mp (ready 0)
          exact ⟨sameWidth.symm, sameHeight.symm⟩
      · rw [width, height]
        exact iff_of_true (fun desc _ imported => absurd imported kept) consistent
  | initGlTargetPool format width height outcome =>
      cases stepped
      obtain ⟨sameWidth, sameHeight, -⟩ := initGlTargetPool_size s format width height outcome
      unfold Consistent
      rw [sameWidth, sameHeight]
      exact (initGlTargetPool_leaves fun i => consistent.ready_iff i).symm
  | resizeGlTargetPool width height outcome =>
      cases stepped
      obtain ⟨sameWidth, sameHeight⟩ := resizeGlTargetPool_size outcome device
      unfold Consistent
      rw [sameWidth, sameHeight]
      by_cases same : s.width = width ∧ s.height = height
      · have shortcut : s.resizeGlTargetPool width height outcome = (s, true) := by
          simp [resizeGlTargetPool, device, same]
        obtain ⟨rfl, rfl⟩ := same
        rw [shortcut]
        exact iff_of_true (Or.inl ⟨rfl, rfl⟩) consistent
      · rw [resizeGlTargetPool_rebuild outcome device same]
        exact or_iff_right same

theorem soundCall_iff {s next : State} {call : BridgeCall} (device : s.device = true)
    (stepped : step s call = some next) : s.SoundCall call ↔ next.Consistent := by
  have honest := honest_iff ((step_device stepped).trans device)
  constructor
  · intro sound
    exact honest.mp (sound next stepped).1
  · intro consistent other reached
    rw [stepped] at reached
    cases reached
    refine ⟨honest.mpr consistent, ?_⟩
    rintro width height outcome rfl _
    cases stepped
    obtain ⟨sameWidth, sameHeight⟩ := resizeGlTargetPool_size outcome device
    have ready : TargetsReady (s.resizeGlTargetPool width height outcome).1.glTargets
        width height := by
      have recorded := consistent
      unfold Consistent at recorded
      rwa [sameWidth, sameHeight] at recorded
    exact ⟨ready, copyFits_of_ready ready⟩

/-! ## Runs -/

/-- Over every sequence of calls from an honest pool, each resize that returns
true is right, and stays right for the next one, exactly if every call is
consistent. -/
theorem resize_leaves_targets_ready {start finish : State} {calls : List BridgeCall}
    (device : start.device = true) (honest : start.Honest)
    (executed : Machine.exec step start calls = some finish) :
    Machine.Along step SoundCall start calls ↔
      Machine.Along step ConsistentCall start calls := by
  have preserved : ∀ (s : State) call next, s.device = true ∧ s.Consistent →
      s.ConsistentCall call → step s call = some next → next.device = true ∧ next.Consistent := by
    rintro s call next ⟨present, consistent⟩ ok stepped
    exact ⟨(step_device stepped).trans present,
      (consistentCall_iff present consistent stepped).mp ok⟩
  have agree : ∀ (s : State) call next, s.device = true ∧ s.Consistent →
      step s call = some next → (s.ConsistentCall call ↔ s.SoundCall call) := by
    rintro s call next ⟨present, consistent⟩ stepped
    rw [soundCall_iff present stepped]
    exact consistentCall_iff present consistent stepped
  have initially := And.intro device ((honest_iff device).mp honest)
  exact (Machine.along_congr preserved agree initially executed).symm

def startup : State :=
  (initialized.initGlTargetPool .b8g8r8a8Unorm 1920 1080 BuildOutcome.succeeding).1

theorem startup_honest : startup.Honest := by
  apply (honest_iff rfl).mpr
  apply (initGlTargetPool_leaves _).mpr (BuildOutcome.succeeding_success.leaves False)
  intro i
  simp [initialized, GlTarget.empty, GlTarget.Ready]

def importing : ImportOutcome := ⟨true, true, true, true, true⟩

/-- A frame of the same desktop and a resize of the window, then a frame that
fails to import. -/
theorem resize_leaves_targets_ready_startup :
    Machine.Along step SoundCall startup
        [.getFrameImages (some ⟨1, 1920, 1080, .b8g8r8a8Unorm⟩) 0 importing,
          .resizeGlTargetPool 1280 720 BuildOutcome.succeeding,
          .getFrameImages (some ⟨2, 2560, 1440, .other⟩) 1 importing] ↔
      Machine.Along step ConsistentCall startup
        [.getFrameImages (some ⟨1, 1920, 1080, .b8g8r8a8Unorm⟩) 0 importing,
          .resizeGlTargetPool 1280 720 BuildOutcome.succeeding,
          .getFrameImages (some ⟨2, 2560, 1440, .other⟩) 1 importing] :=
  resize_leaves_targets_ready rfl startup_honest rfl

/-- The desktop grows: the frame that shows the new size records it, and the
resize that should rebuild the pool for it returns true without doing so. -/
theorem import_defeats_resize :
    ∃ imported, step startup
        (.getFrameImages (some ⟨1, 2560, 1440, .b8g8r8a8Unorm⟩) 0 importing) = some imported ∧
      (imported.resizeGlTargetPool 2560 1440 BuildOutcome.succeeding).2 = true ∧
      (imported.resizeGlTargetPool 2560 1440 BuildOutcome.succeeding).1.getExecuteTarget 0 =
        some ⟨1920, 1080, .b8g8r8a8Unorm, true⟩ ∧
      ¬ TargetsReady (imported.resizeGlTargetPool 2560 1440 BuildOutcome.succeeding).1.glTargets
        2560 1440 := by
  refine ⟨_, rfl, rfl, rfl, ?_⟩
  intro ready
  obtain ⟨image, present, width, -⟩ := ready 0
  cases present
  exact absurd width (by decide)

end State

end RejiStudio.Gpu
