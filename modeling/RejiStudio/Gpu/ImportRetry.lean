import RejiStudio.Gpu.ExternalMemoryBridge

/-!
# Imports that failed

The bridge notes the address of a texture before it imports it.  When the import fails, the
pool is empty and the address is noted all the same, so the next call with the texture finds
nothing to do.
-/

namespace RejiStudio.Gpu

open RejiStudio.Lib

namespace State

def Valid (s : State) (slot : Nat) : Prop := s.device = true ∧ slot < poolSize

instance (s : State) (slot : Nat) : Decidable (s.Valid slot) :=
  inferInstanceAs (Decidable (_ ∧ _))

/-- The address of the texture is not the cached one, and a valid call imports it. -/
def Misses (s : State) (tex : Option Texture2D) : Prop :=
  tex.map Texture2D.ptr ≠ s.cachedTexturePtr

instance (s : State) (tex : Option Texture2D) : Decidable (s.Misses tex) :=
  inferInstanceAs (Decidable (¬_))

def noteTexture (s : State) (tex : Option Texture2D) : State :=
  { s.invalidatePool with cachedTexturePtr := tex.map Texture2D.ptr }

/-- What a valid call does: it finds the pool as it is, or empties it and imports. -/
theorem getFrameImages_answers {s : State} {slot : Nat} (valid : s.Valid slot)
    (tex : Option Texture2D) (outcome : ImportOutcome) :
    (¬s.Misses tex ∧ s.getFrameImages tex slot outcome = (s, s.frameImages ⟨slot, valid.2⟩)) ∨
      (s.Misses tex ∧ createVulkanImageFromD3d11 tex outcome = none ∧
        s.getFrameImages tex slot outcome = (s.noteTexture tex, ⟨none, none, false⟩)) ∨
      ∃ image, s.Misses tex ∧ createVulkanImageFromD3d11 tex outcome = some image ∧
        s.getFrameImages tex slot outcome =
          ((s.noteTexture tex).storeImport image,
            ((s.noteTexture tex).storeImport image).frameImages ⟨slot, valid.2⟩) := by
  obtain ⟨set, inPool⟩ := valid
  have present : ¬s.device = false := by simp [set]
  rw [getFrameImages, if_neg present, dif_pos inPool]
  by_cases same : tex.map Texture2D.ptr = s.cachedTexturePtr
  · refine .inl ⟨not_not.mpr same, ?_⟩
    rw [if_neg (not_not.mpr same)]
  · rw [if_pos same]
    refine .inr ?_
    cases createVulkanImageFromD3d11 tex outcome with
    | none => exact .inl ⟨same, rfl, rfl⟩
    | some image => exact .inr ⟨image, same, rfl, rfl⟩

theorem getFrameImages_invalid {s : State} {slot : Nat} (invalid : ¬s.Valid slot)
    (tex : Option Texture2D) (outcome : ImportOutcome) :
    s.getFrameImages tex slot outcome = (s, ⟨none, none, false⟩) := by
  unfold getFrameImages
  split
  next => rfl
  next present =>
    split
    next inPool => exact absurd ⟨by simpa using present, inPool⟩ invalid
    next => rfl

end State

/-- A bridge and what its calls were: the textures whose last call failed to import them, the
address of the last call, and the import that the pool holds. -/
structure ImportRun where
  state : State
  failed : List (Option Texture2D)
  last : Option (Option Nat)
  imported : Option (Texture2D × VkImage)

/-- A call of `ext_bridge_get_frame_images` with the results of the calls below it. -/
structure FrameCall where
  tex : Option Texture2D
  slot : Nat
  outcome : ImportOutcome
  deriving DecidableEq

namespace ImportRun

def start (device : Bool) : ImportRun where
  state := { State.initialized with device }
  failed := []
  last := none
  imported := none

/-- A valid call that does not fail on the import takes its texture off the list. -/
def advance (run : ImportRun) (call : FrameCall) : ImportRun :=
  let state := (run.state.getFrameImages call.tex call.slot call.outcome).1
  let image := createVulkanImageFromD3d11 call.tex call.outcome
  if ¬run.state.Valid call.slot then { run with state }
  else if run.state.Misses call.tex then
    { state
      failed :=
        if image = none then call.tex :: run.failed else run.failed.filter (· ≠ call.tex)
      last := some (call.tex.map Texture2D.ptr)
      imported := call.tex.bind fun texture => image.map fun image => (texture, image) }
  else
    { state
      failed := run.failed.filter (· ≠ call.tex)
      last := some (call.tex.map Texture2D.ptr)
      imported := run.imported }

def step : Machine ImportRun FrameCall := fun run call => some (run.advance call)

/-- The texture of a failed import is imported by its next call, and an image that is handed
out was imported from the texture of the call. -/
def Retries (run : ImportRun) (call : FrameCall) : Prop :=
  run.state.Valid call.slot →
    (call.tex ∈ run.failed → run.state.Misses call.tex) ∧
    ((run.state.getFrameImages call.tex call.slot call.outcome).2.ok = true →
      ∃ texture image, call.tex = some texture ∧
        (run.advance call).imported = some (texture, image) ∧
        (run.state.getFrameImages call.tex call.slot call.outcome).2.staging = some image)

/-- The address of the last call is passed again neither for a texture whose import failed
nor for another texture than the one in the pool. -/
def Renewed (run : ImportRun) (call : FrameCall) : Prop :=
  run.state.Valid call.slot → run.last = some (call.tex.map Texture2D.ptr) →
    call.tex ∉ run.failed ∧ ∀ held ∈ run.imported, call.tex = some held.1

/-- The invariant: the cached address is the one of the last call, and the pool holds the
import. -/
structure Invariant (run : ImportRun) : Prop where
  untouched : run.last = none → run.failed = [] ∧ run.imported = none
  cached : ∀ ptr, run.last = some ptr → run.state.cachedTexturePtr = ptr
  pool : ∀ slot, run.state.imagePool slot = run.imported.map Prod.snd

theorem start_invariant (device : Bool) : (start device).Invariant where
  untouched := fun _ => ⟨rfl, rfl⟩
  cached := nofun
  pool := fun _ => rfl

theorem step_invariant {run next : ImportRun} {call : FrameCall} (invariant : run.Invariant)
    (stepped : step run call = some next) : next.Invariant := by
  cases stepped
  unfold advance
  dsimp only
  by_cases valid : run.state.Valid call.slot
  · rw [if_neg (not_not.mpr valid)]
    obtain ⟨same, answered⟩ | ⟨misses, failed, answered⟩ | ⟨image, misses, created, answered⟩ :=
      State.getFrameImages_answers valid call.tex call.outcome
    · rw [if_neg same, answered]
      refine ⟨nofun, ?_, invariant.pool⟩
      intro ptr passed
      cases passed
      exact (not_not.mp same).symm
    · rw [if_pos misses, answered, failed]
      refine ⟨nofun, ?_, ?_⟩
      · intro ptr passed
        cases passed
        rfl
      · intro slot
        cases call.tex <;> rfl
    · rw [if_pos misses, answered, created]
      refine ⟨nofun, ?_, ?_⟩
      · intro ptr passed
        cases passed
        rfl
      · intro slot
        cases tex : call.tex with
        | none =>
            rw [tex] at created
            cases created
        | some texture => rfl
  · rw [if_pos valid, State.getFrameImages_invalid valid]
    exact invariant

theorem advance_imported {run : ImportRun} {call : FrameCall}
    (valid : run.state.Valid call.slot) :
    (run.advance call).imported =
      if run.state.Misses call.tex then
        call.tex.bind fun texture =>
          (createVulkanImageFromD3d11 call.tex call.outcome).map fun image => (texture, image)
      else run.imported := by
  unfold advance
  dsimp only
  rw [if_neg (not_not.mpr valid)]
  split <;> rfl

/-- A call is not renewed exactly if it finds the address cached and the pool empty, or filled
from another texture. -/
theorem renewed_iff_retries {run : ImportRun} (invariant : run.Invariant) (call : FrameCall) :
    run.Renewed call ↔ run.Retries call := by
  refine forall_congr' ?_
  intro valid
  -- a call that imports does not pass the address of the last call
  have passed : run.state.Misses call.tex → run.last ≠ some (call.tex.map Texture2D.ptr) := by
    intro misses last
    exact misses (invariant.cached _ last).symm
  obtain ⟨same, answered⟩ | ⟨misses, failed, answered⟩ | ⟨image, misses, created, answered⟩ :=
    State.getFrameImages_answers valid call.tex call.outcome
  · rw [advance_imported valid, if_neg same, answered]
    dsimp only [State.frameImages]
    rw [invariant.pool]
    constructor
    · intro renewed
      cases last : run.last with
      | none =>
          obtain ⟨none, empty⟩ := invariant.untouched last
          rw [none, empty]
          exact ⟨nofun, nofun⟩
      | some ptr =>
          have cached := invariant.cached ptr last
          have address : call.tex.map Texture2D.ptr = ptr := (not_not.mp same).trans cached
          rw [last, address] at renewed
          obtain ⟨imported, source⟩ := renewed rfl
          refine ⟨fun failed => absurd failed imported, ?_⟩
          intro filled
          obtain ⟨image, held⟩ := Option.isSome_iff_exists.mp filled
          obtain ⟨⟨texture, _⟩, kept, rfl⟩ := Option.map_eq_some_iff.mp held
          exact ⟨texture, _, source _ kept, kept, held⟩
    · rintro ⟨retried, source⟩ _
      refine ⟨fun failed => same (retried failed), ?_⟩
      intro held kept
      rw [Option.mem_def] at kept
      obtain ⟨texture, image, tex, imported, -⟩ := source (by rw [kept]; rfl)
      rw [kept] at imported
      cases imported
      exact tex
  · rw [answered]
    exact iff_of_true (fun last => absurd last (passed misses)) ⟨fun _ => misses, nofun⟩
  · refine iff_of_true (fun last => absurd last (passed misses)) ⟨fun _ => misses, ?_⟩
    intro _
    rw [advance_imported valid, if_pos misses, answered, created]
    cases tex : call.tex with
    | none =>
        rw [tex] at created
        cases created
    | some texture => exact ⟨texture, image, rfl, rfl, rfl⟩

/-- Along a run of calls every failed import is retried, and every image comes from the
texture of its call, exactly if every call is renewed. -/
theorem retries_iff_renewed (device : Bool) (calls : List FrameCall) :
    Machine.Along step Retries (start device) calls ↔
      Machine.Along step Renewed (start device) calls := by
  obtain ⟨finish, executed⟩ :=
    Machine.exec_total (fun run call => ⟨run.advance call, rfl⟩) (start device) calls
  refine (Machine.along_congr ?_ ?_ (start_invariant device) executed).symm
  · intro run call next invariant _ stepped
    exact step_invariant invariant stepped
  · intro run call next invariant _
    exact renewed_iff_retries invariant call

def captured : Texture2D := ⟨1, 1920, 1080, .b8g8r8a8Unorm⟩

def noMemory : ImportOutcome := ⟨true, true, true, false, true⟩

def allGranted : ImportOutcome := ⟨true, true, true, true, true⟩

/-- The texture is passed again when there is memory, and is not imported. -/
theorem failed_import_not_retried :
    (((start true).advance ⟨some captured, 0, noMemory⟩).state.getFrameImages (some captured) 0
        allGranted).2 = ⟨none, none, false⟩ ∧
      ¬Machine.Along step Retries (start true)
        [⟨some captured, 0, noMemory⟩, ⟨some captured, 0, allGranted⟩] := by
  refine ⟨by decide, ?_⟩
  intro along
  have valid : ((start true).advance ⟨some captured, 0, noMemory⟩).state.Valid 0 := by decide
  obtain ⟨retried, -⟩ := (along.2 _ rfl).1 valid
  exact retried List.mem_cons_self rfl

end ImportRun

end RejiStudio.Gpu
