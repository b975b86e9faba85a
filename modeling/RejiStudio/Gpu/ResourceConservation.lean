import RejiStudio.Gpu.BridgeHandles

/-!
# Conservation of the resources of the bridge

A shutdown settles everything the bridge made as long as no call fills an array that is
still full, moves the bridge to another device while objects of the old one are held, or
makes something after the shutdown.
-/

namespace RejiStudio.Gpu

open RejiStudio.Lib

namespace Bridge

/-! ## Condition and property -/

/-- The bridge works on this device, and the shutdown that settles it is still to come. -/
def Usable (bridge : Bridge) (device : Nat) : Prop :=
  bridge.device = some device ∧ bridge.shutdownCalled = false

/-- A shutdown right after the call settles everything made so far, and an `init` behind a
shutdown starts the bridge again. -/
structure Conserves (bridge : Bridge) (call : Call) (next : Bridge) : Prop where
  settled : next.shutdown.handles.Settled
  usable : ∀ device physicalDevice, call = .init (some device) (some physicalDevice) →
    bridge.shutdownCalled = true → next.Usable device

def ConservesAfter (bridge : Bridge) (call : Call) : Prop :=
  ∀ next, step bridge call = some next → Conserves bridge call next

def Portable (bridge : Bridge) (device : Option Nat) : Prop :=
  device = bridge.device ∨ ∀ cell ∈ deviceCells, bridge.handles.cells cell = none

def Takes (bridge : Bridge) (makes : List Cell) : Prop :=
  ∀ cell ∈ makes, bridge.shutdownCalled = false ∧ bridge.handles.cells cell = none

def Shares (bridge : Bridge) (tex : Option Texture2D) (slot : Nat) (outcome : ImportOutcome) :
    Prop :=
  bridge.device ≠ none ∧ slot < poolSize ∧ tex.map Texture2D.ptr ≠ bridge.state.cachedTexturePtr ∧
    Handles.sharesHandle tex outcome = true

def Rebuilds (bridge : Bridge) (width height : UInt32) (outcome : BuildOutcome) : Prop :=
  bridge.device ≠ none ∧ ¬ (bridge.state.width = width ∧ bridge.state.height = height) ∧
    outcome.makes ≠ []

def Orderly (bridge : Bridge) : Call → Prop
  | .init (some device) (some _) =>
      bridge.shutdownCalled = false ∧
        (bridge.initialized = true ∨ bridge.Portable (some device))
  | .init _ _ => True
  | .setDevice device _ => bridge.Portable device
  | .initGlTargetPool _ _ _ outcome => bridge.Takes outcome.makes
  | .createGlSyncSemaphores outcome => bridge.Takes (syncMakes outcome)
  | .getFrameImages tex slot outcome =>
      bridge.Shares tex slot outcome → bridge.shutdownCalled = false
  | .resizeGlTargetPool width height outcome =>
      bridge.Rebuilds width height outcome → bridge.shutdownCalled = false
  | .shutdown => True

instance (bridge : Bridge) (device : Option Nat) : Decidable (bridge.Portable device) :=
  inferInstanceAs (Decidable (_ ∨ ∀ cell ∈ deviceCells, _))

instance (bridge : Bridge) (makes : List Cell) : Decidable (bridge.Takes makes) :=
  inferInstanceAs (Decidable (∀ cell ∈ makes, _))

instance (bridge : Bridge) (tex : Option Texture2D) (slot : Nat) (outcome : ImportOutcome) :
    Decidable (bridge.Shares tex slot outcome) :=
  inferInstanceAs (Decidable (_ ∧ _ ∧ _ ∧ _))

instance (bridge : Bridge) (width height : UInt32) (outcome : BuildOutcome) :
    Decidable (bridge.Rebuilds width height outcome) :=
  inferInstanceAs (Decidable (_ ∧ _ ∧ _))

instance (bridge : Bridge) (call : Call) : Decidable (bridge.Orderly call) := by
  unfold Orderly
  split <;> infer_instance

/-! ## The invariant -/

structure Invariant (bridge : Bridge) : Prop where
  balanced : Ledger.Balanced Canonical (owner bridge.device) bridge.handles
  shut : bridge.shutdownCalled = true → Ledger.Vacant Canonical bridge.handles

theorem invariant_start : start.Invariant where
  balanced := Ledger.balanced_empty
  shut := nofun

theorem shutdown_of_called {bridge : Bridge} (called : bridge.shutdownCalled = true) :
    bridge.shutdown = bridge := by
  unfold shutdown
  rw [if_pos called]

theorem shutdown_handles {bridge : Bridge} (before : bridge.shutdownCalled = false) :
    bridge.shutdown.handles = bridge.handles.shutdown bridge.device := by
  unfold shutdown
  rw [if_neg (by simp [before])]

theorem Invariant.vacant_shutdown {bridge : Bridge} (invariant : bridge.Invariant) :
    Ledger.Vacant Canonical bridge.shutdown.handles := by
  cases called : bridge.shutdownCalled with
  | true =>
      rw [shutdown_of_called called]
      exact invariant.shut called
  | false =>
      rw [shutdown_handles called]
      exact Handles.shutdown_vacant bridge.device bridge.handles

/-- Behind the shutdown nothing that belongs to a device is held, so that its device does not
matter. -/
theorem Invariant.shutdown {bridge : Bridge} (invariant : bridge.Invariant) :
    bridge.shutdown.Invariant where
  balanced := by
    cases called : bridge.shutdownCalled with
    | true =>
        rw [shutdown_of_called called]
        exact invariant.balanced
    | false =>
        have balanced := Handles.shutdown_kept Ledger.stable_balanced invariant.balanced
        rw [shutdown_handles called]
        apply balanced.reown
        intro cell resource isRoot content
        rw [Handles.shutdown_vacant bridge.device bridge.handles cell isRoot] at content
        cases content
  shut := fun _ => invariant.vacant_shutdown

theorem Invariant.settled {bridge : Bridge} (invariant : bridge.Invariant) :
    bridge.shutdown.handles.Settled :=
  invariant.shutdown.balanced.settled_iff.mpr invariant.vacant_shutdown

/-! ## What a shutdown does not settle -/

theorem not_settled_of_lost {bridge : Bridge} (lost : Ledger.Lost Canonical bridge.handles) :
    ¬ bridge.shutdown.handles.Settled := by
  cases called : bridge.shutdownCalled with
  | true =>
      rw [shutdown_of_called called]
      exact lost.not_settled
  | false =>
      have stillLost := Handles.shutdown_kept (Ledger.stable_lost (owner bridge.device)) lost
      rw [shutdown_handles called]
      exact stillLost.not_settled

theorem not_settled_of_misowned {bridge : Bridge} (before : bridge.shutdownCalled = false)
    (misowned : Ledger.Misowned Canonical (owner bridge.device) bridge.handles) :
    ¬ bridge.shutdown.handles.Settled := by
  rw [shutdown_handles before]
  exact (Handles.shutdown_kept Ledger.stable_misowned misowned).not_settled
    (Handles.shutdown_vacant bridge.device bridge.handles)

theorem vacant_of_settled (bridge : Bridge) (called : bridge.shutdownCalled = true)
    (balanced : Ledger.Balanced Canonical (owner bridge.device) bridge.handles)
    (settled : bridge.shutdown.handles.Settled) : Ledger.Vacant Canonical bridge.handles := by
  rw [shutdown_of_called called] at settled
  exact balanced.settled_iff.mp settled

/-! ## The device -/

theorem Invariant.setDevice {bridge : Bridge} (invariant : bridge.Invariant)
    {device : Option Nat} (portable : bridge.Portable device) :
    (bridge.setDevice device).Invariant where
  balanced := by
    apply invariant.balanced.reown
    intro cell resource isRoot content
    rcases portable with rfl | vacant
    · rfl
    · cases object : cell.field.onDevice with
      | false => rw [owner_of_not_onDevice object, owner_of_not_onDevice object]
      | true =>
          rw [vacant cell (mem_deviceCells.mpr ⟨isRoot, object⟩)] at content
          cases content
  shut := invariant.shut

theorem Invariant.portable_of_settled {bridge : Bridge} (invariant : bridge.Invariant)
    (next : Bridge) (handles : next.handles = bridge.handles)
    (flag : next.shutdownCalled = bridge.shutdownCalled)
    (settled : next.shutdown.handles.Settled) : bridge.Portable next.device := by
  by_contra notPortable
  simp only [Portable, not_or, not_forall] at notPortable
  obtain ⟨moved, cell, member, occupied⟩ := notPortable
  obtain ⟨resource, content⟩ := Option.ne_none_iff_exists'.mp occupied
  obtain ⟨isRoot, object⟩ := mem_deviceCells.mp member
  cases called : bridge.shutdownCalled with
  | true => exact occupied (invariant.shut called cell isRoot)
  | false =>
      refine not_settled_of_misowned (flag.trans called) (Or.inr ?_) settled
      refine ⟨cell, resource, isRoot, ?_, ?_⟩
      · rw [handles, content]
      · rw [invariant.balanced.owned cell resource isRoot content,
          owner_of_onDevice object, owner_of_onDevice object]
        exact Ne.symm moved

/-! ## Calls that fill cells -/

/-- The second bridge is the first one after it made something for these cells and took some
of it back. -/
structure Fills (bridge next : Bridge) (makes undoes : List Cell) : Prop where
  device : next.device = bridge.device
  flag : next.shutdownCalled = bridge.shutdownCalled
  handles : next.handles =
    (bridge.handles.createAll (owner bridge.device) makes).releaseAll (owner bridge.device) undoes
  fillable : Fillable makes
  canonical : ∀ cell ∈ undoes, Canonical cell
  nothing : makes = [] → undoes = []
  keeps : makes ≠ [] → ¬ Ledger.Vacant Canonical next.handles

theorem Fills.balanced {bridge next : Bridge} {makes undoes : List Cell}
    (fills : Fills bridge next makes undoes) (invariant : bridge.Invariant)
    (room : ∀ cell ∈ makes, bridge.handles.cells cell = none) :
    Ledger.Balanced Canonical (owner next.device) next.handles := by
  have made := invariant.balanced.createAll fills.fillable.canonical fills.fillable.distinct room
  rw [fills.device, fills.handles]
  exact Ledger.stable_balanced.releaseAll fills.canonical made

theorem Fills.invariant {bridge next : Bridge} {makes undoes : List Cell}
    (fills : Fills bridge next makes undoes) (invariant : bridge.Invariant)
    (takes : bridge.Takes makes) : next.Invariant where
  balanced := fills.balanced invariant fun cell member => (takes cell member).2
  shut := by
    intro called
    rw [fills.flag] at called
    by_cases something : makes = []
    · rw [fills.handles, fills.nothing something, something]
      exact invariant.shut called
    · obtain ⟨cell, member⟩ := List.exists_mem_of_ne_nil makes something
      rw [(takes cell member).1] at called
      cases called

theorem Fills.takes {bridge next : Bridge} {makes undoes : List Cell}
    (fills : Fills bridge next makes undoes) (invariant : bridge.Invariant)
    (settled : next.shutdown.handles.Settled) : bridge.Takes makes := by
  have room : ∀ cell ∈ makes, bridge.handles.cells cell = none := by
    intro cell member
    by_contra occupied
    have lost := invariant.balanced.createAll_lost fills.fillable.canonical
      fills.fillable.distinct member occupied
    apply not_settled_of_lost ?_ settled
    rw [fills.handles]
    exact (Ledger.stable_lost (owner bridge.device)).releaseAll fills.canonical lost
  intro cell member
  refine ⟨?_, room cell member⟩
  cases called : bridge.shutdownCalled with
  | false => rfl
  | true =>
      have vacant := vacant_of_settled next (fills.flag.trans called)
        (fills.balanced invariant room) settled
      exact absurd vacant (fills.keeps (List.ne_nil_of_mem member))

theorem fills_initGlTargetPool (bridge : Bridge) (format : VkFormat) (width height : UInt32)
    (outcome : BuildOutcome) :
    Fills bridge (bridge.initGlTargetPool format width height outcome) outcome.makes
      outcome.undoes where
  device := rfl
  flag := rfl
  handles := Handles.initGlTargetPool_eq outcome bridge.handles
  fillable := outcome.makes_fillable
  canonical := outcome.undoes_canonical
  nothing := Handles.undoes_of_makes_nil
  keeps := Handles.initGlTargetPool_keeps

theorem fills_createGlSyncSemaphores (bridge : Bridge) (outcome : Slot → SyncOutcome) :
    Fills bridge (bridge.createGlSyncSemaphores outcome).1 (syncMakes outcome) [] where
  device := rfl
  flag := rfl
  handles := Handles.createSyncs_eq outcome _ bridge.handles
  fillable := syncMakes_fillable outcome
  canonical := by simp
  nothing := fun _ => rfl
  keeps := Handles.createSyncs_keeps

/-! ## A resize -/

def tornDown (bridge : Bridge) : Bridge :=
  { bridge with handles := bridge.handles.releaseTargets bridge.device }

theorem Invariant.tornDown {bridge : Bridge} (invariant : bridge.Invariant) :
    bridge.tornDown.Invariant where
  balanced := Handles.releaseTargets_kept Ledger.stable_balanced invariant.balanced
  shut := by
    intro called cell isRoot
    have nothing := invariant.shut called cell isRoot
    refine (Handles.releaseTargets_cells bridge.device bridge.handles cell).trans ?_
    rw [nothing, ite_self]

theorem tornDown_takes_iff {bridge : Bridge} {outcome : BuildOutcome} :
    bridge.tornDown.Takes outcome.makes ↔
      (outcome.makes ≠ [] → bridge.shutdownCalled = false) := by
  constructor
  · intro takes something
    obtain ⟨cell, member⟩ := List.exists_mem_of_ne_nil _ something
    exact (takes cell member).1
  · intro before cell member
    refine ⟨before (List.ne_nil_of_mem member), ?_⟩
    refine (Handles.releaseTargets_cells bridge.device bridge.handles cell).trans ?_
    rw [if_pos (mem_everySlot.mp (outcome.makes_sublist.subset member))]

theorem fills_resizeGlTargetPool {bridge : Bridge} {width height : UInt32}
    (outcome : BuildOutcome) (device : bridge.device ≠ none)
    (differs : ¬ (bridge.state.width = width ∧ bridge.state.height = height)) :
    Fills bridge.tornDown (bridge.resizeGlTargetPool width height outcome) outcome.makes
      outcome.undoes := by
  have handles : (bridge.resizeGlTargetPool width height outcome).handles =
      (bridge.tornDown.initGlTargetPool bridge.state.format width height outcome).handles := by
    change bridge.resizedHandles width height outcome = _
    unfold resizedHandles
    rw [if_neg device, if_neg differs]
    rfl
  have fills := fills_initGlTargetPool bridge.tornDown bridge.state.format width height outcome
  constructor
  case device => rfl
  case flag => rfl
  case handles => exact handles.trans fills.handles
  case fillable => exact fills.fillable
  case canonical => exact fills.canonical
  case nothing => exact fills.nothing
  case keeps =>
    rw [handles]
    exact fills.keeps

/-! ## Frames -/

theorem frameHandles_of_shares {bridge : Bridge} {tex : Option Texture2D} {slot : Nat}
    {outcome : ImportOutcome} (shares : bridge.Shares tex slot outcome) :
    ∃ inPool : slot < poolSize, bridge.frameHandles tex slot outcome =
      (bridge.handles.invalidatePool bridge.device).importTexture bridge.device tex
        ⟨slot, inPool⟩ outcome := by
  obtain ⟨device, inPool, changed, -⟩ := shares
  refine ⟨inPool, ?_⟩
  unfold frameHandles
  rw [if_neg device, dif_pos inPool, if_pos changed]

theorem Invariant.frame_balanced {bridge : Bridge} (invariant : bridge.Invariant)
    (tex : Option Texture2D) (slot : Nat) (outcome : ImportOutcome) :
    Ledger.Balanced Canonical (owner bridge.device) (bridge.frameHandles tex slot outcome) := by
  unfold frameHandles
  split
  · exact invariant.balanced
  · split
    · split
      · apply Handles.importTexture_balanced
        · exact Handles.invalidatePool_kept Ledger.stable_balanced invariant.balanced
        · simp [Handles.invalidatePool_cells]
        · simp [Handles.invalidatePool_cells]
        · simp [Handles.invalidatePool_cells]
      · exact invariant.balanced
    · exact invariant.balanced

theorem frame_vacant {bridge : Bridge} {tex : Option Texture2D} {slot : Nat}
    {outcome : ImportOutcome} (silent : ¬ bridge.Shares tex slot outcome)
    (vacant : Ledger.Vacant Canonical bridge.handles) :
    Ledger.Vacant Canonical (bridge.frameHandles tex slot outcome) := by
  unfold frameHandles
  split
  next => exact vacant
  next device =>
    split
    next inPool =>
      split
      next changed =>
        have shares : Handles.sharesHandle tex outcome = false := by
          rw [← Bool.not_eq_true]
          exact fun shares => silent ⟨device, inPool, changed, shares⟩
        unfold Handles.importTexture
        rw [if_pos shares]
        intro cell isRoot
        rw [Handles.invalidatePool_cells, vacant cell isRoot, ite_self]
      next => exact vacant
    next => exact vacant

/-! ## Runs -/

theorem Invariant.init {bridge : Bridge} (invariant : bridge.Invariant)
    {device physicalDevice : Option Nat} (orderly : bridge.Orderly (.init device physicalDevice)) :
    (bridge.init device physicalDevice).1.Invariant := by
  unfold Bridge.init
  split
  next => exact invariant
  next valid =>
    rw [not_or] at valid
    obtain ⟨given, present⟩ := Option.ne_none_iff_exists'.mp valid.1
    obtain ⟨physical, physicalPresent⟩ := Option.ne_none_iff_exists'.mp valid.2
    rw [present, physicalPresent] at orderly
    split
    next => exact invariant
    next fresh =>
      have moved := invariant.setDevice (orderly.2.resolve_left fresh)
      rw [present]
      exact ⟨moved.balanced, moved.shut⟩

theorem Invariant.getFrameImages {bridge : Bridge} (invariant : bridge.Invariant)
    {tex : Option Texture2D} {slot : Nat} {outcome : ImportOutcome}
    (orderly : bridge.Orderly (.getFrameImages tex slot outcome)) :
    (bridge.getFrameImages tex slot outcome).Invariant where
  balanced := invariant.frame_balanced tex slot outcome
  shut := by
    intro called
    apply frame_vacant ?_ (invariant.shut called)
    intro shares
    cases (orderly shares).symm.trans called

theorem resizedHandles_of_kept {bridge : Bridge} {width height : UInt32} (outcome : BuildOutcome)
    (kept : ¬ (bridge.device ≠ none ∧
      ¬ (bridge.state.width = width ∧ bridge.state.height = height))) :
    bridge.resizedHandles width height outcome = bridge.handles := by
  unfold resizedHandles
  split
  next => rfl
  next device =>
    split
    next => rfl
    next differs => exact absurd ⟨device, differs⟩ kept

theorem Invariant.resizeGlTargetPool {bridge : Bridge} (invariant : bridge.Invariant)
    {width height : UInt32} {outcome : BuildOutcome}
    (orderly : bridge.Orderly (.resizeGlTargetPool width height outcome)) :
    (bridge.resizeGlTargetPool width height outcome).Invariant := by
  by_cases rebuilds : bridge.device ≠ none ∧
      ¬ (bridge.state.width = width ∧ bridge.state.height = height)
  · obtain ⟨device, differs⟩ := rebuilds
    apply (fills_resizeGlTargetPool outcome device differs).invariant invariant.tornDown
    apply tornDown_takes_iff.mpr
    intro something
    exact orderly ⟨device, differs, something⟩
  · have handles : (bridge.resizeGlTargetPool width height outcome).handles = bridge.handles :=
      resizedHandles_of_kept outcome rebuilds
    constructor
    · rw [handles]
      exact invariant.balanced
    · intro called
      rw [handles]
      exact invariant.shut called

theorem Invariant.perform {bridge : Bridge} {call : Call} (invariant : bridge.Invariant)
    (orderly : bridge.Orderly call) : (bridge.perform call).Invariant := by
  cases call with
  | init device physicalDevice => exact invariant.init orderly
  | setDevice device physicalDevice => exact invariant.setDevice orderly
  | initGlTargetPool format width height outcome =>
      exact (fills_initGlTargetPool bridge format width height outcome).invariant invariant orderly
  | createGlSyncSemaphores outcome =>
      exact (fills_createGlSyncSemaphores bridge outcome).invariant invariant orderly
  | getFrameImages tex slot outcome => exact invariant.getFrameImages orderly
  | resizeGlTargetPool width height outcome => exact invariant.resizeGlTargetPool orderly
  | shutdown => exact invariant.shutdown

theorem Invariant.init_orderly {bridge : Bridge} {device physicalDevice : Nat}
    (invariant : bridge.Invariant)
    (conserves : Conserves bridge (.init (some device) (some physicalDevice))
      (bridge.init (some device) (some physicalDevice)).1) :
    bridge.Orderly (.init (some device) (some physicalDevice)) := by
  have flag : (bridge.init (some device) (some physicalDevice)).1.shutdownCalled =
      bridge.shutdownCalled := by
    cases initialized : bridge.initialized with
    | true => simp [Bridge.init, initialized]
    | false => simp [Bridge.init, initialized, Bridge.setDevice]
  cases called : bridge.shutdownCalled with
  | true =>
      have running := (conserves.usable device physicalDevice rfl called).2
      rw [flag, called] at running
      cases running
  | false =>
      refine ⟨called, ?_⟩
      cases initialized : bridge.initialized with
      | true => exact Or.inl rfl
      | false =>
          right
          have moved : (bridge.init (some device) (some physicalDevice)).1 =
              { bridge.setDevice (some device) with initialized := true } := by
            simp [Bridge.init, initialized]
          have portable := invariant.portable_of_settled
            (bridge.init (some device) (some physicalDevice)).1 (by rw [moved]; rfl) flag
            conserves.settled
          rwa [moved] at portable

theorem Invariant.orderly {bridge : Bridge} {call : Call} (invariant : bridge.Invariant)
    (conserves : Conserves bridge call (bridge.perform call)) : bridge.Orderly call := by
  cases call with
  | init device physicalDevice =>
      cases device with
      | none => trivial
      | some device =>
          cases physicalDevice with
          | none => trivial
          | some physicalDevice => exact invariant.init_orderly conserves
  | setDevice device physicalDevice =>
      exact invariant.portable_of_settled (bridge.setDevice device) rfl rfl conserves.settled
  | initGlTargetPool format width height outcome =>
      exact (fills_initGlTargetPool bridge format width height outcome).takes invariant
        conserves.settled
  | createGlSyncSemaphores outcome =>
      exact (fills_createGlSyncSemaphores bridge outcome).takes invariant conserves.settled
  | getFrameImages tex slot outcome =>
      intro shares
      rw [← Bool.not_eq_true]
      intro called
      obtain ⟨inPool, handles⟩ := frameHandles_of_shares shares
      have vacant : Ledger.Vacant Canonical (bridge.frameHandles tex slot outcome) :=
        vacant_of_settled (bridge.getFrameImages tex slot outcome) called
          (invariant.frame_balanced tex slot outcome) conserves.settled
      rw [handles] at vacant
      exact Handles.importTexture_keeps shares.2.2.2 vacant
  | resizeGlTargetPool width height outcome =>
      rintro ⟨device, differs, something⟩
      have takes := (fills_resizeGlTargetPool outcome device differs).takes invariant.tornDown
        conserves.settled
      exact tornDown_takes_iff.mp takes something
  | shutdown => trivial

theorem conserves_of_orderly {bridge : Bridge} {call : Call} (invariant : bridge.Invariant)
    (orderly : bridge.Orderly call) : Conserves bridge call (bridge.perform call) where
  settled := (invariant.perform orderly).settled
  usable := by
    rintro device physicalDevice rfl called
    rw [orderly.1] at called
    cases called

/-- Over every sequence of calls, whatever the calls below answer: each shutdown settles
every resource made before it, and each `init` behind one restarts the bridge, exactly if
every call is orderly. -/
theorem resources_conserved_iff (calls : List Call) :
    Machine.Along step ConservesAfter start calls ↔ Machine.Along step Orderly start calls := by
  have preserved : ∀ (bridge : Bridge) (call : Call) (next : Bridge), bridge.Invariant →
      bridge.Orderly call → step bridge call = some next → next.Invariant := by
    intro bridge call next invariant orderly stepped
    cases stepped
    exact invariant.perform orderly
  have agree : ∀ (bridge : Bridge) (call : Call) (next : Bridge), bridge.Invariant →
      step bridge call = some next → (bridge.Orderly call ↔ bridge.ConservesAfter call) := by
    intro bridge call next invariant stepped
    constructor
    · intro orderly other reached
      cases reached
      exact conserves_of_orderly invariant orderly
    · intro conserves
      exact invariant.orderly (conserves _ rfl)
  have total : ∀ (bridge : Bridge) (call : Call), ∃ next, step bridge call = some next :=
    fun bridge call => ⟨bridge.perform call, rfl⟩
  obtain ⟨finish, executed⟩ := Machine.exec_total total start calls
  exact (Machine.along_congr preserved agree invariant_start executed).symm

/-- A session on one device: the pool fails at its last image and is built by a resize, a
frame gets no memory, the next one is imported, and a shutdown ends it. -/
def session : List Call :=
  [.init (some 1) (some 1),
    .initGlTargetPool .b8g8r8a8Unorm 1920 1080
      ⟨true, fun i => ⟨i.val < 2, 0, true, true, some 0⟩⟩,
    .createGlSyncSemaphores fun _ => ⟨true, true, true⟩,
    .getFrameImages (some ⟨1, 2560, 1440, .b8g8r8a8Unorm⟩) 0 ⟨true, true, true, false, true⟩,
    .resizeGlTargetPool 2560 1440 BuildOutcome.succeeding,
    .getFrameImages (some ⟨2, 2560, 1440, .b8g8r8a8Unorm⟩) 1 State.importing,
    .shutdown]

theorem resources_conserved_iff_session : Machine.Along step ConservesAfter start session :=
  (resources_conserved_iff session).mpr (by decide)

def twice : List Call :=
  [.init (some 1) (some 1),
    .initGlTargetPool .b8g8r8a8Unorm 1920 1080 BuildOutcome.succeeding,
    .initGlTargetPool .b8g8r8a8Unorm 1920 1080 BuildOutcome.succeeding,
    .shutdown]

/-- The image of the first pool is never released, and the next `init` returns true but
leaves the bridge without a device. -/
theorem second_pool_leaks :
    ∃ finish, Machine.exec step start twice = some finish ∧
      0 < finish.handles.created ∧ finish.handles.releases 0 = 0 ∧
      ¬ finish.handles.Settled ∧
      (finish.init (some 1) (some 1)).2 = true ∧
      (finish.init (some 1) (some 1)).1.device = none := by
  refine ⟨_, rfl, by decide, rfl, ?_, rfl, rfl⟩
  rintro ⟨-, once⟩
  exact absurd (once 0 (by decide)) (by decide)

end Bridge

end RejiStudio.Gpu
