import Mathlib.Algebra.Order.Ring.Int
import Mathlib.Data.Fin.Basic
import Mathlib.Logic.Function.Basic
import Mathlib.Tactic.Common
import RejiStudio.Lib.Machine

/-!
# The external memory bridge

The bridge imports the captured D3D11 texture as a Vulkan image and owns the pool
of GL target images that the preview copies into.  Both sides record the size they
worked with in the same two fields.  The results of the Vulkan and D3D11 calls are
arguments of a call.
-/

namespace RejiStudio.Gpu

open RejiStudio.Lib

abbrev poolSize : Nat := 3

instance : NeZero poolSize := ⟨by decide⟩

abbrev Slot := Fin poolSize

inductive VkFormat where
  | undefined
  | b8g8r8a8Unorm
  | r8g8b8a8Unorm
  | a2b10g10r10UnormPack32
  deriving DecidableEq

inductive DxgiFormat where
  | b8g8r8a8Unorm
  | r8g8b8a8Unorm
  | r10g10b10a2Unorm
  | other
  deriving DecidableEq

def dxgiToVkFormat : DxgiFormat → VkFormat
  | .b8g8r8a8Unorm => .b8g8r8a8Unorm
  | .r8g8b8a8Unorm => .r8g8b8a8Unorm
  | .r10g10b10a2Unorm => .a2b10g10r10UnormPack32
  | .other => .undefined

structure VkImage where
  width : UInt32
  height : UInt32
  format : VkFormat
  bound : Bool
  deriving DecidableEq

/-- One slot of the GL target pool: `gl_target_images`, `gl_target_memory`,
`gl_target_handles` and `gl_target_sizes` at one index. -/
structure GlTarget where
  image : Option VkImage
  memory : Option UInt64
  handle : Option Nat
  size : UInt64
  deriving DecidableEq

def GlTarget.empty : GlTarget := ⟨none, none, none, 0⟩

structure State where
  device : Bool
  format : VkFormat
  width : UInt32
  height : UInt32
  imagePool : Slot → Option VkImage
  glTargets : Slot → GlTarget
  cachedTexturePtr : Option Nat

/-- The bridge after `ext_bridge_init`. -/
def State.initialized : State where
  device := true
  format := .undefined
  width := 0
  height := 0
  imagePool := fun _ => none
  glTargets := fun _ => GlTarget.empty
  cachedTexturePtr := none

/-! ## Import of the captured texture -/

/-- An `ID3D11Texture2D` by its address, with what `GetDesc` says. -/
structure Texture2D where
  ptr : Nat
  width : UInt32
  height : UInt32
  format : DxgiFormat
  deriving DecidableEq

structure ImportOutcome where
  queryInterface : Bool
  createSharedHandle : Bool
  createImage : Bool
  allocateMemory : Bool
  bindImageMemory : Bool
  deriving DecidableEq

/-- `create_vulkan_image`; the result of the bind is ignored. -/
def createVulkanImage (width height : UInt32) (format : VkFormat) (outcome : ImportOutcome) :
    Option VkImage :=
  if outcome.createImage = false then none
  else if outcome.allocateMemory = false then none
  else some ⟨width, height, format, outcome.bindImageMemory⟩

/-- `create_vulkan_image_from_d3d11`: the imported image. -/
def createVulkanImageFromD3d11 (tex : Option Texture2D) (outcome : ImportOutcome) :
    Option VkImage :=
  match tex with
  | none => none
  | some desc =>
      if dxgiToVkFormat desc.format = .undefined then none
      else if outcome.queryInterface = false then none
      else if outcome.createSharedHandle = false then none
      else createVulkanImage desc.width desc.height (dxgiToVkFormat desc.format) outcome

namespace State

def invalidatePool (s : State) : State :=
  { s with imagePool := fun _ => none, cachedTexturePtr := none }

/-- The tail of `create_vulkan_image_from_d3d11` and the copy into all slots. -/
def storeImport (s : State) (image : VkImage) : State :=
  { s with
    width := image.width
    height := image.height
    format := image.format
    imagePool := fun _ => some image }

/-- `staging_out`, `target_out` and the result. -/
structure FrameImages where
  staging : Option VkImage
  target : Option VkImage
  ok : Bool
  deriving DecidableEq

def frameImages (s : State) (slot : Slot) : FrameImages :=
  ⟨s.imagePool slot, (s.glTargets (slot + 1)).image, (s.imagePool slot).isSome⟩

def getFrameImages (s : State) (tex : Option Texture2D) (slot : Nat) (outcome : ImportOutcome) :
    State × FrameImages :=
  if s.device = false then (s, ⟨none, none, false⟩)
  else if inPool : slot < poolSize then
    if tex.map Texture2D.ptr ≠ s.cachedTexturePtr then
      let s := { s.invalidatePool with cachedTexturePtr := tex.map Texture2D.ptr }
      match createVulkanImageFromD3d11 tex outcome with
      | none => (s, ⟨none, none, false⟩)
      | some image => (s.storeImport image, (s.storeImport image).frameImages ⟨slot, inPool⟩)
    else (s, s.frameImages ⟨slot, inPool⟩)
  else (s, ⟨none, none, false⟩)

end State

/-! ## The GL target pool -/

structure SlotOutcome where
  createImage : Bool
  size : UInt64
  allocateMemory : Bool
  bindImageMemory : Bool
  getMemoryHandle : Option Nat
  deriving DecidableEq

/-- Results of the calls of `ext_bridge_init_gl_target_pool`; `procAddr` is the
lookup of `vkGetMemoryWin32HandleKHR`. -/
structure BuildOutcome where
  procAddr : Bool
  slots : Slot → SlotOutcome

abbrev GlTargets := Slot → GlTarget

/-- Destroy the images and free the memory of the slots before `i`; their handles
and sizes stay. -/
def rollback (targets : GlTargets) (i : Slot) : GlTargets := fun j =>
  if j < i then { targets j with image := none, memory := none } else targets j

/-- One round of the loop: the slot it leaves, and whether the loop goes on. -/
def buildSlot (format : VkFormat) (width height : UInt32) (old : GlTarget)
    (outcome : SlotOutcome) : GlTarget × Bool :=
  let created : GlTarget :=
    { old with image := some ⟨width, height, format, false⟩, size := outcome.size }
  if outcome.allocateMemory = false then (created, false)
  else
    let bound : GlTarget :=
      { created with
        memory := some outcome.size
        image := some ⟨width, height, format, outcome.bindImageMemory⟩ }
    match outcome.getMemoryHandle with
    | none => (bound, false)
    | some handle => ({ bound with handle := some handle }, true)

def buildSlots (format : VkFormat) (width height : UInt32) (outcome : Slot → SlotOutcome) :
    List Slot → GlTargets → GlTargets × Bool
  | [], targets => (targets, true)
  | i :: rest, targets =>
      if (outcome i).createImage = false then (rollback targets i, false)
      else
        match buildSlot format width height (targets i) (outcome i) with
        | (target, true) =>
            buildSlots format width height outcome rest (Function.update targets i target)
        | (target, false) => (Function.update targets i target, false)

namespace State

/-- `ext_bridge_init_gl_target_pool`; the size is recorded before anything can
fail. -/
def initGlTargetPool (s : State) (format : VkFormat) (width height : UInt32)
    (outcome : BuildOutcome) : State × Bool :=
  let s := { s with format := format, width := width, height := height }
  if outcome.procAddr = false then (s, false)
  else
    let (glTargets, ok) :=
      buildSlots format width height outcome.slots (List.finRange poolSize) s.glTargets
    ({ s with glTargets := glTargets }, ok)

def teardownGlTargets (s : State) : State :=
  { s with glTargets := fun _ => GlTarget.empty }

def resizeGlTargetPool (s : State) (width height : UInt32) (outcome : BuildOutcome) :
    State × Bool :=
  if s.device = false then (s, false)
  else if s.width = width ∧ s.height = height then (s, true)
  else s.teardownGlTargets.initGlTargetPool s.format width height outcome

def getExecuteTarget (s : State) (slot : Nat) : Option VkImage :=
  if inPool : slot < poolSize then (s.glTargets (⟨slot, inPool⟩ + 1)).image else none

end State

inductive BridgeCall where
  | getFrameImages (tex : Option Texture2D) (slot : Nat) (outcome : ImportOutcome)
  | initGlTargetPool (format : VkFormat) (width height : UInt32) (outcome : BuildOutcome)
  | resizeGlTargetPool (width height : UInt32) (outcome : BuildOutcome)

def State.step : Machine State BridgeCall
  | s, .getFrameImages tex slot outcome => some (s.getFrameImages tex slot outcome).1
  | s, .initGlTargetPool format width height outcome =>
      some (s.initGlTargetPool format width height outcome).1
  | s, .resizeGlTargetPool width height outcome =>
      some (s.resizeGlTargetPool width height outcome).1

end RejiStudio.Gpu
