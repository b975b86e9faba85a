import RejiStudio.Gpu.BridgeResources
import RejiStudio.Gpu.CopyOptimizer

/-!
# The preview

A captured frame passes from the bridge through the cache of the pipeline into the widget,
whose `paintGL` asks the copy optimizer to copy it and GL to draw it.  The frame thread and
the GUI thread take turns at the calls below.  The polling of the timeline by `paintGL`
changes nothing else and is left out.
-/

namespace RejiStudio.Gpu

open RejiStudio.Lib

namespace Bridge

def handleId (bridge : Bridge) (cell : Cell) : Option Nat :=
  (bridge.handles.cells cell).map Resource.id

/-- `get_execute_target`: the GL target one slot ahead. -/
def getExecuteTarget (bridge : Bridge) (slot : Slot) : Option Nat :=
  bridge.handleId ⟨.glTargetImage, slot + 1⟩

def getGlSyncSemaphore (bridge : Bridge) (slot : Slot) : Option Nat :=
  bridge.handleId ⟨.glSyncSemaphore, slot⟩

/-- `ext_bridge_resize_gl_target_pool` gets past its checks. -/
def Resizes (bridge : Bridge) (width height : UInt32) : Prop :=
  bridge.device ≠ none ∧ ¬ (bridge.state.width = width ∧ bridge.state.height = height)

instance (bridge : Bridge) (width height : UInt32) : Decidable (bridge.Resizes width height) :=
  inferInstanceAs (Decidable (_ ∧ _))

end Bridge

/-- The images of a captured frame and the slot that the bridge used for it.  `takenAt`
counts the rebuilds of the target pool before the target was taken from it. -/
structure Frame where
  staging : Nat
  target : Option Nat
  slot : Slot
  takenAt : Nat
  deriving DecidableEq

/-- The `pending_*` fields of the widget while `frame_dirty` is set. -/
structure PendingFrame where
  frame : Frame
  width : UInt32
  height : UInt32
  deriving DecidableEq

/-- The function pointers that `initializeGL` resolved. -/
structure GlFunctions where
  createMemoryObjects : Bool
  deleteMemoryObjects : Bool
  importMemoryWin32Handle : Bool
  texStorageMem2D : Bool
  waitSemaphore : Bool
  clientWaitSync : Bool
  fenceSync : Bool

/-- `PreviewWidget`; a GL name is kept as whether it is there. -/
structure Widget where
  functions : GlFunctions
  glSyncSemaphores : Slot → Bool
  copyOptimizer : Bool
  bridge : Bool
  pending : Option PendingFrame
  cpuFrame : Option (Int32 × Int32)
  texId : Bool
  glInteropTextures : Slot → Bool
  glMemoryObjects : Slot → Bool
  glDrawFences : Slot → Bool
  glTargetSize : UInt32 × UInt32
  glPoolSize : UInt32 × UInt32
  currentPoolIdx : Slot

/-- The widget behind `initializeGL`. -/
def Widget.start (functions : GlFunctions) (glSyncSemaphores : Slot → Bool) : Widget where
  functions := functions
  glSyncSemaphores := glSyncSemaphores
  copyOptimizer := false
  bridge := false
  pending := none
  cpuFrame := none
  texId := false
  glInteropTextures := fun _ => false
  glMemoryObjects := fun _ => false
  glDrawFences := fun _ => false
  glTargetSize := (0, 0)
  glPoolSize := (0, 0)
  currentPoolIdx := 0

/-- The bridge, the optimizer, the widget and the images cached by the pipeline.  The last
four fields are history: the layouts that executed commands left images in, how often the
target pool was rebuilt and how often it had been at the last copy submitted for a slot, and
the signals of a GL semaphore that GL has not waited for. -/
structure Preview where
  bridge : Bridge
  optimizer : CopyOptimizer
  widget : Widget
  last : Option Frame
  layouts : Nat → ImageLayout
  rebuilds : Nat
  copiedAt : Slot → Option Nat
  outstanding : Slot → Nat

/-- Results of the calls of a `paintGL`; `clientWaitSync` is a fence that was reached in
time. -/
structure PaintOutcome where
  build : BuildOutcome
  clientWaitSync : Bool
  copy : CopyOutcome
  createMemoryObject : Bool
  genTexture : Bool
  fenceSync : Bool

/-- Where a `paintGL` stands: it returned, it is about to call `execute_copy`, or it is at
the render path. -/
inductive Paint where
  | returned (preview : Preview)
  | copying (preview : Preview) (pending : PendingFrame) (args : CopyArgs)
  | rendering (preview : Preview)

/-- What holds at each place of a `paintGL`. -/
def Paint.Holds (Inv : Preview → Prop) : Paint → Prop
  | .returned preview => Inv preview
  | .copying preview _ _ => Inv preview
  | .rendering preview => Inv preview

def Command.execute (layouts : Nat → ImageLayout) : Command → Nat → ImageLayout
  | .pipelineBarrier image _ newLayout => Function.update layouts image newLayout
  | .blitImage _ _ => layouts
  | .copyImage _ _ => layouts

def executeCommands (commands : List Command) (layouts : Nat → ImageLayout) : Nat → ImageLayout :=
  commands.foldl Command.execute layouts

namespace Preview

def start (bridge : Bridge) (optimizer : CopyOptimizer) (functions : GlFunctions)
    (glSyncSemaphores : Slot → Bool) : Preview where
  bridge := bridge
  optimizer := optimizer
  widget := Widget.start functions glSyncSemaphores
  last := none
  layouts := fun _ => .undefined
  rebuilds := 0
  copiedAt := fun _ => none
  outstanding := fun _ => 0

/-! ## The frame thread -/

def frameImages (preview : Preview) (slot : Slot) : Option Frame :=
  (preview.bridge.handleId ⟨.imagePoolImage, slot⟩).bind fun staging =>
    (preview.bridge.getExecuteTarget slot).map fun target =>
      ⟨staging, some target, slot, preview.rebuilds⟩

/-- `get_frame_images` and `cache_last_images`.  The bridge passes the lock by when the
widget rebuilds the pool, and the cache keeps its images when there are no new ones. -/
def captureFrame (preview : Preview) (tex : Option Texture2D) (slot : Slot) (locked : Bool)
    (outcome : ImportOutcome) : Preview :=
  if locked = false then preview
  else
    let captured := { preview with bridge := preview.bridge.getFrameImages tex slot outcome }
    if (preview.bridge.state.getFrameImages tex slot outcome).2.ok = true then
      { captured with last := captured.frameImages slot }
    else captured

/-- The D3D11 frame callback: `get_last_frame_images` and `submitD3D11Frame`. -/
def submitD3d11Frame (preview : Preview) (width height : UInt32) : Preview :=
  match preview.last with
  | none => preview
  | some frame =>
      if width = 0 ∨ height = 0 then preview
      else { preview with
        widget := { preview.widget with pending := some ⟨frame, width, height⟩ } }

def uploadCpuFrame (preview : Preview) (width height : Int32) : Preview :=
  { preview with widget := { preview.widget with cpuFrame := some (width, height) } }

/-! ## `paintGL` -/

def takeFrames (preview : Preview) : Preview :=
  let uploaded := preview.widget.cpuFrame.any fun (width, height) => 0 < width && 0 < height
  { preview with
    widget := { preview.widget with
      pending := none
      cpuFrame := none
      texId := preview.widget.texId || uploaded } }

def resizePool (preview : Preview) (width height : UInt32) (outcome : BuildOutcome) : Preview :=
  { preview with
    bridge := preview.bridge.resizeGlTargetPool width height outcome
    rebuilds :=
      if preview.bridge.Resizes width height then preview.rebuilds + 1 else preview.rebuilds
    widget := { preview.widget with
      glInteropTextures := fun _ => false
      glMemoryObjects := fun i =>
        preview.widget.glMemoryObjects i && !preview.widget.functions.deleteMemoryObjects
      glPoolSize := (width, height) } }

/-- The block for a new capture size; it fetches the target again. -/
def fitPool (preview : Preview) (pending : PendingFrame) (outcome : BuildOutcome) :
    Preview × PendingFrame :=
  if preview.widget.bridge = true ∧
      (pending.width, pending.height) ≠ preview.widget.glPoolSize then
    let resized := preview.resizePool pending.width pending.height outcome
    (resized, { pending with
      frame := { pending.frame with
        target := resized.bridge.getExecuteTarget pending.frame.slot
        takenAt := resized.rebuilds } })
  else (preview, pending)

/-- The arguments for `execute_copy`. -/
def copyArgs (preview : Preview) (pending : PendingFrame) : CopyArgs where
  staging := some pending.frame.staging
  target := pending.frame.target
  width := pending.width
  height := pending.height
  slot := UInt32.ofNat pending.frame.slot
  glSignalSlot := UInt32.ofNat (pending.frame.slot + 1 : Slot)
  outputs := true
  glSyncSem :=
    if preview.widget.bridge = true then preview.bridge.getGlSyncSemaphore (pending.frame.slot + 1)
    else none

def select (preview : Preview) (slot : Slot) : Preview :=
  { preview with widget := { preview.widget with texId := true, currentPoolIdx := slot } }

/-- `paintGL` up to `execute_copy`. -/
def approach (preview : Preview) (outcome : PaintOutcome) : Paint :=
  match preview.widget.pending with
  | none => .rendering preview.takeFrames
  | some pending =>
      if preview.widget.copyOptimizer = false then .returned preview.takeFrames
      else
        let (fitted, pending) := preview.takeFrames.fitPool pending outcome.build
        let selected := fitted.select pending.frame.slot
        -- GL still reads the image that the copy would write
        if selected.widget.glDrawFences (pending.frame.slot + 1) = true ∧
            selected.widget.functions.clientWaitSync = true ∧ outcome.clientWaitSync = false then
          .returned selected
        else .copying selected pending (selected.copyArgs pending)

/-- The call of `execute_copy`; Vulkan executes a submission at once. -/
def submitCopy (preview : Preview) (pending : PendingFrame) (args : CopyArgs)
    (outcome : CopyOutcome) : Preview × Bool :=
  let (optimizer, copied) := preview.optimizer.executeCopy args outcome
  if copied.submitted = true then
    ({ preview with
      optimizer := optimizer
      layouts := executeCommands copied.recorded preview.layouts
      copiedAt := Function.update preview.copiedAt pending.frame.slot (some preview.rebuilds)
      outstanding := fun i =>
        if copied.glSignal = some i then preview.outstanding i + 1 else preview.outstanding i },
      true)
  else ({ preview with optimizer := optimizer }, false)

def importTexture (preview : Preview) (pending : PendingFrame) (outcome : PaintOutcome) :
    Preview :=
  let slot := pending.frame.slot
  let widget := preview.widget
  let memory := widget.glMemoryObjects slot ||
    (widget.functions.createMemoryObjects && outcome.createMemoryObject)
  if widget.bridge = true ∧ widget.functions.importMemoryWin32Handle = true ∧
      preview.bridge.handleId ⟨.glTargetHandle, slot⟩ ≠ none then
    let kept := widget.glInteropTextures slot &&
      decide ((pending.width, pending.height) = widget.glTargetSize)
    let texture := if memory then kept || outcome.genTexture else widget.glInteropTextures slot
    { preview with
      widget := { widget with
        glMemoryObjects := Function.update widget.glMemoryObjects slot memory
        glInteropTextures := Function.update widget.glInteropTextures slot texture
        glTargetSize :=
          if memory && texture && widget.functions.texStorageMem2D then
            (pending.width, pending.height)
          else widget.glTargetSize } }
  else preview

/-- `execute_copy` and what follows it up to the render path. -/
def copyFrame (outcome : PaintOutcome) : Paint → Paint
  | .copying preview pending args =>
      match preview.submitCopy pending args outcome.copy with
      | (copied, true) => .rendering (copied.importTexture pending outcome)
      | (failed, false) => .returned failed
  | paint => paint

def glWait (preview : Preview) : Option Slot :=
  let slot := preview.widget.currentPoolIdx
  if preview.widget.glInteropTextures slot = true ∧
      preview.widget.functions.waitSemaphore = true ∧
      preview.widget.glSyncSemaphores slot = true ∧ preview.widget.copyOptimizer = true ∧
      preview.optimizer.slotGlSignaled slot = true then
    some slot
  else none

/-- `glWaitSemaphoreEXT` consumes a signal, and the flag of the slot is cleared. -/
def consume (preview : Preview) : Preview :=
  match preview.glWait with
  | some slot =>
      { preview with
        optimizer := preview.optimizer.clearGlSignal slot
        outstanding := Function.update preview.outstanding slot (preview.outstanding slot - 1) }
  | none => preview

def fence (preview : Preview) (made : Bool) : Preview :=
  { preview with
    widget := { preview.widget with
      glDrawFences := Function.update preview.widget.glDrawFences preview.widget.currentPoolIdx
        (preview.widget.functions.fenceSync && made) } }

def render (outcome : PaintOutcome) : Paint → Preview
  | .rendering preview =>
      if preview.widget.glInteropTextures preview.widget.currentPoolIdx = false ∧
          preview.widget.texId = false then
        preview
      else preview.consume.fence outcome.fenceSync
  | .returned preview => preview
  | .copying preview _ _ => preview

def paintGl (preview : Preview) (outcome : PaintOutcome) : Preview :=
  render outcome (copyFrame outcome (preview.approach outcome))

/-- `paintGL` returns early, goes on to the render path without a frame, or calls
`execute_copy` with the frame that fits the pool. -/
theorem approach_cases (preview : Preview) (outcome : PaintOutcome) :
    preview.approach outcome = .rendering preview.takeFrames ∨
    preview.approach outcome = .returned preview.takeFrames ∨
    ∃ pending, preview.widget.pending = some pending ∧
      (preview.approach outcome =
          .returned ((preview.takeFrames.fitPool pending outcome.build).1.select
            pending.frame.slot) ∨
        preview.approach outcome =
          .copying
            ((preview.takeFrames.fitPool pending outcome.build).1.select pending.frame.slot)
            (preview.takeFrames.fitPool pending outcome.build).2
            (((preview.takeFrames.fitPool pending outcome.build).1.select
              pending.frame.slot).copyArgs
                (preview.takeFrames.fitPool pending outcome.build).2)) := by
  have sameSlot : ∀ pending,
      (preview.takeFrames.fitPool pending outcome.build).2.frame.slot = pending.frame.slot := by
    intro pending
    unfold fitPool
    split <;> rfl
  unfold approach
  split
  next => exact .inl rfl
  next pending given =>
    split
    next => exact .inr (.inl rfl)
    next =>
      refine .inr (.inr ⟨pending, given, ?_⟩)
      dsimp only
      rw [sameSlot]
      split
      · exact .inl rfl
      · exact .inr rfl

/-! ## Invariants of a `paintGL` -/

section Invariants

variable {Inv : Preview → Prop}

theorem approach_holds
    (resized : ∀ preview width height outcome, Inv preview →
      Inv (preview.resizePool width height outcome))
    (selected : ∀ preview slot, Inv preview → Inv (preview.select slot))
    {preview : Preview} (taken : Inv preview.takeFrames) (outcome : PaintOutcome) :
    (preview.approach outcome).Holds Inv := by
  have fitted : ∀ pending, Inv (preview.takeFrames.fitPool pending outcome.build).1 := by
    intro pending
    unfold fitPool
    split
    · exact resized _ _ _ _ taken
    · exact taken
  rcases preview.approach_cases outcome with
    rendering | returned | ⟨pending, -, returned | copying⟩
  · rw [rendering]
    exact taken
  · rw [returned]
    exact taken
  · rw [returned]
    exact selected _ _ (fitted pending)
  · rw [copying]
    exact selected _ _ (fitted pending)

theorem copyFrame_holds
    (submitted : ∀ preview pending args outcome, Inv preview →
      Inv (preview.submitCopy pending args outcome).1)
    (imported : ∀ preview pending outcome, Inv preview →
      Inv (preview.importTexture pending outcome))
    {paint : Paint} (holds : paint.Holds Inv) (outcome : PaintOutcome) :
    (copyFrame outcome paint).Holds Inv := by
  cases paint with
  | returned preview => exact holds
  | rendering preview => exact holds
  | copying preview pending args =>
      have copied := submitted preview pending args outcome.copy holds
      rw [copyFrame]
      cases result : preview.submitCopy pending args outcome.copy with
      | mk next ok =>
          rw [result] at copied
          cases ok with
          | true => exact imported next pending outcome copied
          | false => exact copied

theorem render_holds (consumed : ∀ preview, Inv preview → Inv preview.consume)
    (fenced : ∀ preview made, Inv preview → Inv (preview.fence made))
    {paint : Paint} (holds : paint.Holds Inv) (outcome : PaintOutcome) :
    Inv (render outcome paint) := by
  cases paint with
  | returned preview => exact holds
  | copying preview pending args => exact holds
  | rendering preview =>
      rw [render]
      split
      · exact holds
      · exact fenced _ _ (consumed preview holds)

end Invariants

theorem paintGl_pending (preview : Preview) (outcome : PaintOutcome) :
    (preview.paintGl outcome).widget.pending = none := by
  have submitted : ∀ (preview : Preview) pending args outcome,
      preview.widget.pending = none →
        (preview.submitCopy pending args outcome).1.widget.pending = none := by
    intro preview pending args outcome empty
    unfold submitCopy
    dsimp only
    split <;> exact empty
  have imported : ∀ (preview : Preview) pending outcome,
      preview.widget.pending = none →
        (preview.importTexture pending outcome).widget.pending = none := by
    intro preview pending outcome empty
    unfold importTexture
    dsimp only
    split <;> exact empty
  have consumed : ∀ preview : Preview,
      preview.widget.pending = none → preview.consume.widget.pending = none := by
    intro preview empty
    unfold consume
    split <;> exact empty
  apply @render_holds fun preview => preview.widget.pending = none
  · exact consumed
  · exact fun _ _ empty => empty
  apply @copyFrame_holds fun preview => preview.widget.pending = none
  · exact submitted
  · exact imported
  exact @approach_holds (fun preview => preview.widget.pending = none)
    (fun _ _ _ _ empty => empty) (fun _ _ empty => empty) preview rfl outcome

/-! ## Runs -/

inductive Action where
  | captureFrame (tex : Option Texture2D) (slot : Slot) (locked : Bool) (outcome : ImportOutcome)
  | submitD3d11Frame (width height : UInt32)
  | uploadCpuFrame (width height : Int32)
  | setCopyOptimizer (wired : Bool)
  | setBridge (wired : Bool)
  | paintGl (outcome : PaintOutcome)

def perform (preview : Preview) : Action → Preview
  | .captureFrame tex slot locked outcome => preview.captureFrame tex slot locked outcome
  | .submitD3d11Frame width height => preview.submitD3d11Frame width height
  | .uploadCpuFrame width height => preview.uploadCpuFrame width height
  | .setCopyOptimizer wired =>
      { preview with widget := { preview.widget with copyOptimizer := wired } }
  | .setBridge wired => { preview with widget := { preview.widget with bridge := wired } }
  | .paintGl outcome => preview.paintGl outcome

def step : Machine Preview Action := fun preview action => some (preview.perform action)

/-! ## A session -/

def bridgeCalls (width height : UInt32) : List Bridge.Call :=
  [.init (some 1) (some 2), .initGlTargetPool .b8g8r8a8Unorm width height
      ⟨true, fun i => ⟨true, 64, true, true, some i⟩⟩,
    .createGlSyncSemaphores fun _ => ⟨true, true, true⟩]

def readyBridge (width height : UInt32) : Bridge :=
  (bridgeCalls width height).foldl Bridge.perform Bridge.start

def readyOptimizer : CopyOptimizer :=
  (CopyOptimizer.start.init (some 1) (some 3) (some 2)
    ⟨true, true, true, true, true, true, true⟩).1

def everyFunction : GlFunctions := ⟨true, true, true, true, true, true, true⟩

def ready (width height : UInt32) : Preview :=
  start (readyBridge width height) readyOptimizer everyFunction fun _ => true

def showFrame (ptr : Nat) (width height : UInt32) (slot : Slot) : List Action :=
  [.captureFrame (some ⟨ptr, width, height, .b8g8r8a8Unorm⟩) slot true
      ⟨true, true, true, true, true⟩,
    .submitD3d11Frame width height]

/-- A `paintGL` where nothing fails. -/
def smooth : PaintOutcome :=
  ⟨⟨true, fun i => ⟨true, 64, true, true, some i⟩⟩, true, ⟨0, true, true, true, true, true⟩,
    true, true, true⟩

end Preview

end RejiStudio.Gpu
