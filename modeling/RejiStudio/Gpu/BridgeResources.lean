import RejiStudio.Gpu.TargetPool
import RejiStudio.Lib.Ledger

/-!
# The resources of the external memory bridge

Seven arrays keep the images, memory, semaphores and NT handles that the bridge makes.
Every call of the bridge writes a ledger of them next to the state of the bridge.  A call
below the bridge that fails leaves its out parameter as it was.
-/

namespace RejiStudio.Gpu

open RejiStudio.Lib

/-- The arrays of the bridge; a slot of `image_pool` has an image and its memory. -/
inductive HandleField where
  | imagePoolImage
  | imagePoolMemory
  | d3d11NtHandle
  | glTargetImage
  | glTargetMemory
  | glTargetHandle
  | glSyncSemaphore
  | glSyncHandle
  deriving DecidableEq

namespace HandleField

/-- Vulkan objects are made on a device, Win32 handles are not. -/
def onDevice : HandleField → Bool
  | imagePoolImage | imagePoolMemory | glTargetImage | glTargetMemory | glSyncSemaphore => true
  | d3d11NtHandle | glTargetHandle | glSyncHandle => false

/-- The three slots of these fields are one import. -/
def shared : HandleField → Bool
  | imagePoolImage | imagePoolMemory => true
  | _ => false

end HandleField

structure Cell where
  field : HandleField
  slot : Slot
  deriving DecidableEq

/-- `slot[0]` of the image pool is canonical, the other slots are aliases of it. -/
def Canonical (cell : Cell) : Prop := cell.field.shared = true → cell.slot = 0

def owner (device : Option Nat) (cell : Cell) : Option Nat :=
  if cell.field.onDevice then device else none

abbrev Handles := Ledger Cell (Option Nat)

def everySlot (fields : List HandleField) : List Cell :=
  (List.finRange poolSize).flatMap fun i => fields.map fun field => ⟨field, i⟩

/-! ## The calls on the handles -/

namespace Handles

/-- `invalidate_pool`: the shared image and its memory are released once. -/
def invalidatePool (device : Option Nat) (handles : Handles) : Handles :=
  let handles : Handles :=
    handles.releaseAll (owner device) [⟨.imagePoolImage, 0⟩, ⟨.imagePoolMemory, 0⟩]
  let handles : Handles := handles.copyAll none (everySlot [.imagePoolImage, .imagePoolMemory])
  handles.releaseAll (owner device) (everySlot [.d3d11NtHandle])

/-- The loop over `gl_target_images`, `gl_target_memory` and `gl_target_handles` in
`ext_bridge_shutdown` and `ext_bridge_resize_gl_target_pool`. -/
def releaseTargets (device : Option Nat) (handles : Handles) : Handles :=
  handles.releaseAll (owner device)
    (everySlot [.glTargetImage, .glTargetMemory, .glTargetHandle])

def shutdown (device : Option Nat) (handles : Handles) : Handles :=
  let handles : Handles := handles.invalidatePool device
  let handles : Handles :=
    handles.releaseAll (owner device) (everySlot [.glSyncHandle, .glSyncSemaphore])
  handles.releaseTargets device

def sharesHandle (tex : Option Texture2D) (outcome : ImportOutcome) : Bool :=
  match tex with
  | none => false
  | some desc =>
      decide (dxgiToVkFormat desc.format ≠ .undefined) && outcome.queryInterface &&
        outcome.createSharedHandle

/-- `create_vulkan_image_from_d3d11`, and the copy of its result into all slots.  The NT
handle stays when the import fails. -/
def importTexture (device : Option Nat) (tex : Option Texture2D) (slot : Slot)
    (outcome : ImportOutcome) (handles : Handles) : Handles :=
  if sharesHandle tex outcome = false then handles
  else
    let handles : Handles := handles.create (owner device) ⟨.d3d11NtHandle, slot⟩
    if outcome.createImage = false then handles
    -- the image is destroyed when it gets no memory
    else if outcome.allocateMemory = false then handles.pass
    else
      let handles : Handles := handles.createAll (owner device)
        [⟨.imagePoolImage, 0⟩, ⟨.imagePoolMemory, 0⟩]
      let handles : Handles := handles.copyAll (handles.cells ⟨.imagePoolImage, 0⟩)
        (everySlot [.imagePoolImage])
      handles.copyAll (handles.cells ⟨.imagePoolMemory, 0⟩) (everySlot [.imagePoolMemory])

/-- What the rollback of the slots before `i` releases; their handles stay. -/
def rolledBack (i : Slot) : List Cell :=
  ((List.finRange poolSize).filter (· < i)).flatMap fun j =>
    [⟨.glTargetImage, j⟩, ⟨.glTargetMemory, j⟩]

/-- The loop of `ext_bridge_init_gl_target_pool` over the slots that are left. -/
def buildTargets (device : Option Nat) (outcome : Slot → SlotOutcome) :
    List Slot → Handles → Handles
  | [], handles => handles
  | i :: rest, handles =>
      if (outcome i).createImage = false then
        handles.releaseAll (owner device) (rolledBack i)
      else
        let handles : Handles := handles.create (owner device) ⟨.glTargetImage, i⟩
        if (outcome i).allocateMemory = false then handles
        else
          let handles : Handles := handles.create (owner device) ⟨.glTargetMemory, i⟩
          if (outcome i).getMemoryHandle = none then handles
          else
            buildTargets device outcome rest
              (handles.create (owner device) ⟨.glTargetHandle, i⟩)

def initGlTargetPool (device : Option Nat) (outcome : BuildOutcome) (handles : Handles) :
    Handles :=
  if outcome.procAddr = false then handles
  else buildTargets device outcome.slots (List.finRange poolSize) handles

end Handles

/-- Results of the calls for one slot of `ext_bridge_create_gl_sync_semaphores`; `procAddr` is
the lookup of `vkGetSemaphoreWin32HandleKHR`. -/
structure SyncOutcome where
  createSemaphore : Bool
  procAddr : Bool
  getSemaphoreHandle : Bool
  deriving DecidableEq

namespace Handles

/-- The loop of `ext_bridge_create_gl_sync_semaphores` over the slots that are left, and its
result. -/
def createSyncs (device : Option Nat) (outcome : Slot → SyncOutcome) :
    List Slot → Handles → Handles × Bool
  | [], handles => (handles, true)
  | i :: rest, handles =>
      if (outcome i).createSemaphore = false then (handles, false)
      else
        let handles : Handles := handles.create (owner device) ⟨.glSyncSemaphore, i⟩
        if (outcome i).procAddr = false then (handles, false)
        else if (outcome i).getSemaphoreHandle = false then (handles, false)
        else
          createSyncs device outcome rest (handles.create (owner device) ⟨.glSyncHandle, i⟩)

end Handles

/-! ## The bridge -/

/-- The globals of the bridge.  `state` knows of the device only whether it is there. -/
structure Bridge where
  device : Option Nat
  state : State
  present : state.device = device.isSome
  initialized : Bool
  shutdownCalled : Bool
  handles : Handles

inductive Bridge.Call where
  | init (device physicalDevice : Option Nat)
  | setDevice (device physicalDevice : Option Nat)
  | initGlTargetPool (format : VkFormat) (width height : UInt32) (outcome : BuildOutcome)
  | createGlSyncSemaphores (outcome : Slot → SyncOutcome)
  | getFrameImages (tex : Option Texture2D) (slot : Nat) (outcome : ImportOutcome)
  | resizeGlTargetPool (width height : UInt32) (outcome : BuildOutcome)
  | shutdown

namespace Bridge

def start : Bridge where
  device := none
  state := { State.initialized with device := false }
  present := rfl
  initialized := false
  shutdownCalled := false
  handles := Ledger.empty

def setDevice (bridge : Bridge) (device : Option Nat) : Bridge :=
  { bridge with
    device := device
    state := { bridge.state with device := device.isSome }
    present := rfl }

def init (bridge : Bridge) (device physicalDevice : Option Nat) : Bridge × Bool :=
  if device = none ∨ physicalDevice = none then (bridge, false)
  else if bridge.initialized = true then (bridge, true)
  else ({ bridge.setDevice device with initialized := true }, true)

def initGlTargetPool (bridge : Bridge) (format : VkFormat) (width height : UInt32)
    (outcome : BuildOutcome) : Bridge :=
  { bridge with
    state := (bridge.state.initGlTargetPool format width height outcome).1
    present := (@State.step_device _ _ (.initGlTargetPool format width height outcome)
      rfl).trans bridge.present
    handles := bridge.handles.initGlTargetPool bridge.device outcome }

def createGlSyncSemaphores (bridge : Bridge) (outcome : Slot → SyncOutcome) : Bridge × Bool :=
  let made := bridge.handles.createSyncs bridge.device outcome (List.finRange poolSize)
  ({ bridge with handles := made.1 }, made.2)

/-- The handles behind `ext_bridge_get_frame_images`. -/
def frameHandles (bridge : Bridge) (tex : Option Texture2D) (slot : Nat)
    (outcome : ImportOutcome) : Handles :=
  if bridge.device = none then bridge.handles
  else if inPool : slot < poolSize then
    if tex.map Texture2D.ptr ≠ bridge.state.cachedTexturePtr then
      (bridge.handles.invalidatePool bridge.device).importTexture bridge.device tex
        ⟨slot, inPool⟩ outcome
    else bridge.handles
  else bridge.handles

def getFrameImages (bridge : Bridge) (tex : Option Texture2D) (slot : Nat)
    (outcome : ImportOutcome) : Bridge :=
  { bridge with
    state := (bridge.state.getFrameImages tex slot outcome).1
    present := (@State.step_device _ _ (.getFrameImages tex slot outcome) rfl).trans
      bridge.present
    handles := bridge.frameHandles tex slot outcome }

/-- The handles behind `ext_bridge_resize_gl_target_pool`. -/
def resizedHandles (bridge : Bridge) (width height : UInt32) (outcome : BuildOutcome) : Handles :=
  if bridge.device = none then bridge.handles
  else if bridge.state.width = width ∧ bridge.state.height = height then bridge.handles
  else (bridge.handles.releaseTargets bridge.device).initGlTargetPool bridge.device outcome

def resizeGlTargetPool (bridge : Bridge) (width height : UInt32) (outcome : BuildOutcome) :
    Bridge :=
  { bridge with
    state := (bridge.state.resizeGlTargetPool width height outcome).1
    present := (@State.step_device _ _ (.resizeGlTargetPool width height outcome) rfl).trans
      bridge.present
    handles := bridge.resizedHandles width height outcome }

/-- `ext_bridge_shutdown`; the flag is never cleared. -/
def shutdown (bridge : Bridge) : Bridge :=
  if bridge.shutdownCalled = true then bridge
  else
    { bridge with
      device := none
      state := { bridge.state.invalidatePool with
        device := false
        glTargets := fun i =>
          { bridge.state.glTargets i with image := none, memory := none, handle := none } }
      present := rfl
      shutdownCalled := true
      handles := bridge.handles.shutdown bridge.device }

def perform (bridge : Bridge) : Call → Bridge
  | .init device physicalDevice => (bridge.init device physicalDevice).1
  | .setDevice device _ => bridge.setDevice device
  | .initGlTargetPool format width height outcome =>
      bridge.initGlTargetPool format width height outcome
  | .createGlSyncSemaphores outcome => (bridge.createGlSyncSemaphores outcome).1
  | .getFrameImages tex slot outcome => bridge.getFrameImages tex slot outcome
  | .resizeGlTargetPool width height outcome => bridge.resizeGlTargetPool width height outcome
  | .shutdown => bridge.shutdown

def step : Machine Bridge Call := fun bridge call => some (bridge.perform call)

end Bridge

end RejiStudio.Gpu
