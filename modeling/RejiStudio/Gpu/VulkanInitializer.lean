import Mathlib.Algebra.Order.Ring.Int
import Mathlib.Data.List.MinMax
import RejiStudio.Lib.GuardedLedger

/-!
# The Vulkan device

`VulkanInitializer` is one object for the whole program.  Its Zig side makes the instance,
selects a physical device and makes the device; the C++ side reads the results and guards the
shutdown by its own flag.  What the driver has and answers is a choice of the environment.
-/

namespace RejiStudio.Gpu

open RejiStudio.Lib

structure PhysicalDevice where
  handle : Nat
  vendorId : UInt32
  discrete : Bool
  graphicsFamilies : List Bool
  extensions : List String
  deriving DecidableEq

inductive VulkanCell where
  | instance_
  | device
  deriving DecidableEq

/-- The state of the Zig side.  The counts of the ledger are history. -/
structure VulkanState where
  handles : Ledger VulkanCell Unit
  physicalDevice : Option PhysicalDevice
  graphicsQueueFamily : Nat
  vendorId : UInt32
  useKeyedMutex : Bool
  initialized : Bool

structure VulkanAnswer where
  createsInstance : Bool
  devices : List PhysicalDevice
  createsDevice : Bool

/-- The score of a device; the vendors do not overlap. -/
def PhysicalDevice.score (device : PhysicalDevice) : Nat :=
  let vendor :=
    if device.vendorId = 0x1002 then 100
    else if device.vendorId = 0x10DE then 200
    else 1
  if device.discrete then vendor + 10 else vendor

/-- `check_extension_available` on the device; the buffer takes 256 names. -/
def PhysicalDevice.hasExtension (device : PhysicalDevice) (name : String) : Bool :=
  (device.extensions.take 256).contains name

def keyedMutexExtension : String := "VK_KHR_win32_keyed_mutex"

def PhysicalDevice.hasKeyedMutex (device : PhysicalDevice) : Bool :=
  device.hasExtension keyedMutexExtension

structure Selection where
  best : Option PhysicalDevice
  bestScore : Nat
  vendorId : UInt32

def Selection.consider (selection : Selection) (device : PhysicalDevice) : Selection :=
  if selection.bestScore < device.score then ⟨some device, device.score, device.vendorId⟩
  else selection

namespace VulkanState

def start : VulkanState := ⟨Ledger.empty, none, 0, 0, false, false⟩

def createInstance (state : VulkanState) (answer : VulkanAnswer) : Bool × VulkanState :=
  if answer.createsInstance then
    (true, { state with handles := state.handles.create Guarded.sameOwner .instance_ })
  else (false, state)

/-- The first eight devices are scored, and of the best one the first sixteen families are
searched.  Without a graphics family the number of before stays. -/
def selectDevice (state : VulkanState) (answer : VulkanAnswer) : Bool × VulkanState :=
  if answer.devices = [] then (false, state)
  else
    let selection := (answer.devices.take 8).foldl Selection.consider ⟨none, 0, state.vendorId⟩
    let families := (selection.best.map PhysicalDevice.graphicsFamilies).getD []
    let graphicsQueueFamily :=
      ((families.take 16).findIdx? fun graphics => graphics).getD state.graphicsQueueFamily
    (true,
      { state with
        physicalDevice := selection.best
        vendorId := selection.vendorId
        graphicsQueueFamily := graphicsQueueFamily })

/-- The flag is raised for a device with the extension, and nothing lowers it. -/
def createDevice (state : VulkanState) (answer : VulkanAnswer) : Bool × VulkanState :=
  let hasKeyedMutex := (state.physicalDevice.map PhysicalDevice.hasKeyedMutex).getD false
  let state := { state with useKeyedMutex := hasKeyedMutex || state.useKeyedMutex }
  if answer.createsDevice then
    (true, { state with handles := state.handles.create Guarded.sameOwner .device })
  else (false, state)

def vulkanInitInitialize (state : VulkanState) (answer : VulkanAnswer) : Bool × VulkanState :=
  if state.initialized then (true, state)
  else
    match state.createInstance answer with
    | (false, state) => (false, state)
    | (true, state) =>
        match state.selectDevice answer with
        | (false, state) => (false, state)
        | (true, state) =>
            match state.createDevice answer with
            | (false, state) => (false, state)
            | (true, state) => (true, { state with initialized := true })

def vulkanInitShutdown (state : VulkanState) : VulkanState :=
  { state with
    handles := state.handles.releaseAll Guarded.sameOwner [.device, .instance_]
    initialized := false }

end VulkanState

structure VulkanInitializer where
  zig : VulkanState
  device : Option (Resource Unit)
  physicalDevice : Option PhysicalDevice
  graphicsQueueFamily : Nat
  vendorId : UInt32
  useKeyedMutex : Bool
  initialized : Bool

namespace VulkanInitializer

def start : VulkanInitializer := ⟨VulkanState.start, none, none, 0, 0, false, false⟩

def initializeVulkan (vulkan : VulkanInitializer) (answer : VulkanAnswer) : VulkanInitializer :=
  if vulkan.initialized then vulkan
  else
    match vulkan.zig.vulkanInitInitialize answer with
    | (false, zig) => { vulkan with zig := zig }
    | (true, zig) =>
        { zig := zig
          device := zig.handles.cells .device
          physicalDevice := zig.physicalDevice
          graphicsQueueFamily := zig.graphicsQueueFamily
          vendorId := zig.vendorId
          useKeyedMutex := zig.useKeyedMutex
          initialized := true }

def shutdown (vulkan : VulkanInitializer) : VulkanInitializer :=
  if vulkan.initialized = false then vulkan
  else { vulkan with zig := vulkan.zig.vulkanInitShutdown, initialized := false }

inductive Call where
  | initializeVulkan (answer : VulkanAnswer)
  | shutdown

def step : Machine VulkanInitializer Call
  | vulkan, .initializeVulkan answer => some (vulkan.initializeVulkan answer)
  | vulkan, .shutdown => some vulkan.shutdown

end VulkanInitializer

/-! ## The selection -/

theorem PhysicalDevice.score_pos (device : PhysicalDevice) : 0 < device.score := by
  unfold PhysicalDevice.score
  dsimp only
  split
  · exact Nat.succ_pos _
  · split
    · decide
    · split
      · decide
      · decide

/-- A selection has the best of the devices that were considered, the first among equals. -/
def Selection.Best (devices : List PhysicalDevice) (before : UInt32) (selection : Selection) :
    Prop :=
  selection.best = devices.argmax PhysicalDevice.score ∧
    selection.bestScore = (selection.best.map PhysicalDevice.score).getD 0 ∧
    selection.vendorId = (selection.best.map PhysicalDevice.vendorId).getD before

theorem Selection.foldl_best (devices : List PhysicalDevice) (before : UInt32) :
    (devices.foldl Selection.consider ⟨none, 0, before⟩).Best devices before := by
  induction devices using List.reverseRecOn with
  | nil => exact ⟨rfl, rfl, rfl⟩
  | append_singleton earlier device inductionHypothesis =>
      rw [List.foldl_append, List.foldl_cons, List.foldl_nil]
      generalize List.foldl Selection.consider ⟨none, 0, before⟩ earlier = selection
        at inductionHypothesis ⊢
      obtain ⟨best, score, vendor⟩ := inductionHypothesis
      unfold Selection.Best
      rw [List.argmax_concat, ← best]
      unfold Selection.consider
      cases found : selection.best with
      | none =>
          rw [found] at score
          have better : selection.bestScore < device.score := by
            rw [score]
            exact device.score_pos
          rw [if_pos better]
          exact ⟨rfl, rfl, rfl⟩
      | some other =>
          rw [found] at score vendor
          change selection.bestScore = other.score at score
          rw [score]
          dsimp only
          by_cases better : other.score < device.score
          · rw [if_pos better, if_pos better]
            exact ⟨rfl, rfl, rfl⟩
          · rw [if_neg better, if_neg better, found]
            exact ⟨rfl, score, vendor⟩

def VulkanAnswer.selected (answer : VulkanAnswer) : Option PhysicalDevice :=
  (answer.devices.take 8).argmax PhysicalDevice.score

theorem VulkanAnswer.selected_isSome {answer : VulkanAnswer} (nonempty : answer.devices ≠ []) :
    ∃ device, answer.selected = some device := by
  cases devices : answer.devices with
  | nil => exact absurd devices nonempty
  | cons device rest =>
      apply Option.ne_none_iff_exists'.mp
      unfold VulkanAnswer.selected
      rw [Ne, List.argmax_eq_none, devices]
      exact List.cons_ne_nil _ _

/-! ## The initialiser is a component behind a flag -/

def vulkanLayout : Guarded.Layout VulkanCell where
  first := .instance_
  rest := [.device]
  cells := [.device, .instance_]
  distinct := by decide
  covered := by decide

def VulkanAnswer.made (answer : VulkanAnswer) : Nat :=
  if answer.createsInstance = false then 0
  else if answer.devices = [] ∨ answer.createsDevice = false then 1
  else 2

namespace VulkanState

/-- What an attempt leaves of what does not depend on the handles. -/
structure Attempted (state : VulkanState) (answer : VulkanAnswer) (next : VulkanState) : Prop where
  handles : next.handles =
    state.handles.createAll Guarded.sameOwner (vulkanLayout.parts.take answer.made)
  initialized : next.initialized = decide (2 ≤ answer.made)
  useKeyedMutex : next.useKeyedMutex = true ↔
    state.useKeyedMutex = true ∨ answer.createsInstance = true ∧
      ∃ device, answer.selected = some device ∧ device.hasKeyedMutex = true
  physicalDevice : 2 ≤ answer.made → next.physicalDevice = answer.selected
  vendorId : 2 ≤ answer.made → answer.selected.map PhysicalDevice.vendorId = some next.vendorId
  graphicsQueueFamily : 2 ≤ answer.made → ∀ device, answer.selected = some device →
    ∀ family, (device.graphicsFamilies.take 16).findIdx? (fun graphics => graphics) = some family →
    next.graphicsQueueFamily = family

theorem Attempted.unmade {state next : VulkanState} {answer : VulkanAnswer}
    (few : answer.made < 2)
    (handles : next.handles =
      state.handles.createAll Guarded.sameOwner (vulkanLayout.parts.take answer.made))
    (uninitialized : next.initialized = false)
    (useKeyedMutex : next.useKeyedMutex = true ↔
      state.useKeyedMutex = true ∨ answer.createsInstance = true ∧
        ∃ device, answer.selected = some device ∧ device.hasKeyedMutex = true) :
    state.Attempted answer next where
  handles := handles
  initialized := uninitialized.trans (decide_eq_false (Nat.not_le_of_lt few)).symm
  useKeyedMutex := useKeyedMutex
  physicalDevice := fun enough => absurd enough (Nat.not_le_of_lt few)
  vendorId := fun enough => absurd enough (Nat.not_le_of_lt few)
  graphicsQueueFamily := fun enough => absurd enough (Nat.not_le_of_lt few)

theorem initialize_attempted {state : VulkanState} (uninitialized : state.initialized = false)
    (answer : VulkanAnswer) :
    (state.vulkanInitInitialize answer).1 = decide (2 ≤ answer.made) ∧
      state.Attempted answer (state.vulkanInitInitialize answer).2 := by
  unfold vulkanInitInitialize
  rw [uninitialized, if_neg Bool.false_ne_true]
  unfold createInstance
  cases createsInstance : answer.createsInstance with
  | false =>
      have made : answer.made = 0 := if_pos createsInstance
      refine ⟨by simp [made], .unmade (by omega) ?_ uninitialized ?_⟩
      · simp [made, Ledger.createAll]
      · simp [createsInstance]
  | true =>
      unfold selectDevice
      by_cases empty : answer.devices = []
      · have made : answer.made = 1 := by simp [VulkanAnswer.made, createsInstance, empty]
        have nothing : answer.selected = none := by simp [VulkanAnswer.selected, empty]
        simp only [reduceIte, empty]
        refine ⟨by simp [made], .unmade (by omega) ?_ uninitialized ?_⟩
        · simp [made, vulkanLayout, Guarded.Layout.parts, Ledger.createAll]
        · simp [nothing]
      · obtain ⟨device, selected⟩ := VulkanAnswer.selected_isSome empty
        obtain ⟨best, -, vendor⟩ :=
          Selection.foldl_best (answer.devices.take 8) state.vendorId
        have chosen := best.trans selected
        rw [chosen] at vendor
        unfold createDevice
        simp only [reduceIte, empty, chosen]
        have flag : (device.hasKeyedMutex || state.useKeyedMutex) = true ↔
            state.useKeyedMutex = true ∨ answer.createsInstance = true ∧
              ∃ other, answer.selected = some other ∧ other.hasKeyedMutex = true := by
          simp [createsInstance, selected, or_comm]
        have family : ∀ other, answer.selected = some other → ∀ family,
            (other.graphicsFamilies.take 16).findIdx? (fun graphics => graphics) = some family →
            ((device.graphicsFamilies.take 16).findIdx? fun graphics => graphics).getD
              state.graphicsQueueFamily = family := by
          intro other same family found
          rw [selected] at same
          cases same
          rw [found]
          rfl
        cases createsDevice : answer.createsDevice with
        | false =>
            have made : answer.made = 1 := by
              simp [VulkanAnswer.made, createsInstance, createsDevice]
            refine ⟨by simp [made], .unmade (by omega) ?_ uninitialized flag⟩
            simp [made, vulkanLayout, Guarded.Layout.parts, Ledger.createAll]
        | true =>
            have made : answer.made = 2 := by
              simp [VulkanAnswer.made, createsInstance, createsDevice, empty]
            refine ⟨by simp [made], ?_⟩
            constructor
            case handles => simp [made, vulkanLayout, Guarded.Layout.parts, Ledger.createAll]
            case initialized => simp [made]
            case useKeyedMutex => exact flag
            case physicalDevice => exact fun _ => selected.symm
            case vendorId =>
              intro _
              rw [selected]
              exact congrArg some vendor.symm
            case graphicsQueueFamily => exact fun _ => family

end VulkanState

namespace VulkanInitializer

def guarded (vulkan : VulkanInitializer) : Guarded VulkanCell :=
  ⟨vulkan.initialized, vulkan.zig.handles⟩

structure Reports (vulkan : VulkanInitializer) : Prop where
  device : vulkan.device = vulkan.zig.handles.cells .device
  physicalDevice : vulkan.physicalDevice = vulkan.zig.physicalDevice
  graphicsQueueFamily : vulkan.graphicsQueueFamily = vulkan.zig.graphicsQueueFamily
  vendorId : vulkan.vendorId = vulkan.zig.vendorId
  useKeyedMutex : vulkan.useKeyedMutex = vulkan.zig.useKeyedMutex

structure InStep (vulkan : VulkanInitializer) : Prop where
  flags : vulkan.zig.initialized = vulkan.initialized
  reports : vulkan.initialized = true → vulkan.Reports

theorem inStep_start : start.InStep := ⟨rfl, fun up => absurd up Bool.false_ne_true⟩

theorem initializeVulkan_of_down {vulkan : VulkanInitializer} (inStep : vulkan.InStep)
    (down : vulkan.initialized = false) (answer : VulkanAnswer) :
    (vulkan.initializeVulkan answer).InStep ∧
      (vulkan.initializeVulkan answer).initialized = decide (2 ≤ answer.made) ∧
      vulkan.zig.Attempted answer (vulkan.initializeVulkan answer).zig := by
  obtain ⟨up, attempted⟩ :=
    VulkanState.initialize_attempted (inStep.flags.trans down) answer
  unfold initializeVulkan
  rw [down, if_neg Bool.false_ne_true]
  generalize vulkan.zig.vulkanInitInitialize answer = outcome at up attempted
  obtain ⟨ok, zig⟩ := outcome
  have flag : zig.initialized = ok := attempted.initialized.trans up.symm
  cases ok with
  | false =>
      exact ⟨⟨flag, fun stillUp => absurd stillUp Bool.false_ne_true⟩, up, attempted⟩
  | true => exact ⟨⟨flag, fun _ => ⟨rfl, rfl, rfl, rfl, rfl⟩⟩, up, attempted⟩

def WholeAttempt (vulkan : VulkanInitializer) : Call → Prop
  | .initializeVulkan answer => vulkan.initialized = true ∨ answer.createsInstance = false ∨
      answer.devices ≠ [] ∧ answer.createsDevice = true
  | .shutdown => True

theorem whole_iff (answer : VulkanAnswer) :
    (answer.made = 0 ∨ 2 ≤ answer.made) ↔
      answer.createsInstance = false ∨ answer.devices ≠ [] ∧ answer.createsDevice = true := by
  unfold VulkanAnswer.made
  by_cases refused : answer.createsInstance = false
  · simp [refused]
  rw [if_neg refused, or_iff_right refused]
  by_cases stopped : answer.devices = [] ∨ answer.createsDevice = false
  · rw [if_pos stopped]
    refine iff_of_false (by decide) ?_
    rintro ⟨nonempty, createsDevice⟩
    simp [nonempty, createsDevice] at stopped
  · rw [if_neg stopped]
    rw [not_or, Bool.not_eq_false] at stopped
    exact iff_of_true (by decide) stopped

def action : Call → GuardedAction VulkanCell
  | .initializeVulkan answer => .attempt answer.made
  | .shutdown => .close

theorem step_refines {vulkan next : VulkanInitializer} {call : Call} (inStep : vulkan.InStep)
    (stepped : step vulkan call = some next) :
    next.InStep ∧ Guarded.step vulkanLayout vulkan.guarded (action call) = some next.guarded ∧
      (vulkan.guarded.Whole vulkanLayout (action call) ↔ vulkan.WholeAttempt call) := by
  cases call with
  | initializeVulkan answer =>
      cases stepped
      refine ⟨?_, ?_, or_congr_right (whole_iff answer)⟩
      · cases up : vulkan.initialized with
        | true => rwa [initializeVulkan, if_pos up]
        | false => exact (initializeVulkan_of_down inStep up answer).1
      · apply congrArg some
        unfold Guarded.attempt
        cases up : vulkan.initialized with
        | true =>
            rw [initializeVulkan, if_pos up]
            exact if_pos up
        | false =>
            obtain ⟨-, flag, attempted⟩ := initializeVulkan_of_down inStep up answer
            rw [if_neg (by rw [guarded, up]; exact Bool.false_ne_true), guarded, guarded, flag,
              attempted.handles]
            rfl
  | shutdown =>
      cases stepped
      unfold shutdown
      cases up : vulkan.initialized with
      | false =>
          rw [if_pos rfl]
          refine ⟨inStep, ?_, Iff.rfl⟩
          simp [action, Guarded.step, Guarded.close, guarded, up]
      | true =>
          rw [if_neg (by simp)]
          refine ⟨⟨rfl, fun stillUp => absurd stillUp Bool.false_ne_true⟩, ?_, Iff.rfl⟩
          simp [action, Guarded.step, Guarded.close, guarded, up, VulkanState.vulkanInitShutdown,
            vulkanLayout]

/-- The sides are in step, and the component is good or leaky, and sound. -/
structure Invariant (vulkan : VulkanInitializer) : Prop where
  inStep : vulkan.InStep
  advanced : Guarded.Good vulkanLayout vulkan.guarded ∨ Guarded.Leaky vulkanLayout vulkan.guarded
  sound : Guarded.Sound vulkanLayout vulkan.guarded

theorem invariant_start : start.Invariant :=
  ⟨inStep_start, .inl Guarded.good_start, Guarded.sound_start⟩

theorem step_advances {vulkan next : VulkanInitializer} {call : Call}
    (invariant : vulkan.Invariant) (stepped : step vulkan call = some next) :
    next.Invariant ∧
      (Guarded.Good vulkanLayout next.guarded ↔
        Guarded.Good vulkanLayout vulkan.guarded ∧ vulkan.WholeAttempt call) := by
  obtain ⟨inStep, refined, whole⟩ := step_refines invariant.inStep stepped
  obtain ⟨advanced, good⟩ := Guarded.step_advances _ invariant.advanced refined
  rw [whole] at good
  exact ⟨⟨inStep, advanced, Guarded.step_sound invariant.sound refined⟩, good⟩

/-- No handle of Vulkan is destroyed twice; as long as the object is up, the device that it names
is the one that exists; and the shutdown destroys everything that was ever made exactly if no
attempt failed between the instance and the device. -/
theorem vulkan_handles_conserved {calls : List Call} {finish : VulkanInitializer}
    (executed : Machine.exec step start calls = some finish) :
    (∀ id, finish.shutdown.zig.handles.releases id ≤ 1) ∧
      (finish.initialized = true → ∃ device, finish.device = some device ∧
        device.id < finish.zig.handles.created ∧ finish.zig.handles.releases device.id = 0) ∧
      (finish.shutdown.zig.handles.Settled ↔ Machine.Along step WholeAttempt start calls) := by
  have atEnd : finish.Invariant := Machine.exec_invariant
    (fun _ _ _ invariant stepped => (step_advances invariant stepped).1) invariant_start executed
  have good := Machine.good_iff_along
    (fun _ _ _ invariant stepped => step_advances invariant stepped) invariant_start executed
  have startGood : Guarded.Good vulkanLayout start.guarded := Guarded.good_start
  rw [and_iff_right startGood] at good
  obtain ⟨-, closed, -⟩ := @step_refines _ _ .shutdown atEnd.inStep rfl
  have down : finish.shutdown.zig.handles = (finish.guarded.close vulkanLayout).ledger :=
    congrArg Guarded.ledger (Option.some.inj closed).symm
  refine ⟨?_, ?_, ?_⟩
  · rw [down]
    exact atEnd.sound.close.thrifty.once
  · intro up
    obtain ⟨device, content⟩ :=
      Option.ne_none_iff_exists'.mp (atEnd.sound.complete up .device (by decide))
    refine ⟨device, (atEnd.inStep.reports up).device.trans content, ?_⟩
    have isRoot : vulkanLayout.Root .device := vulkanLayout.covered _ (by decide)
    exact atEnd.sound.thrifty.held device.id ⟨.device, device, isRoot, content, rfl⟩
  · rw [down, Guarded.settled_close_iff atEnd.advanced, good]

def nvidiaCard : PhysicalDevice := ⟨0, 0x10DE, true, [true], [keyedMutexExtension]⟩

def integratedCard : PhysicalDevice := ⟨1, 0x8086, false, [false, true], []⟩

/-- The device of the first card is not made; then that card is gone. -/
def fallenBack : List Call :=
  [.initializeVulkan ⟨true, [integratedCard, nvidiaCard], false⟩,
    .initializeVulkan ⟨true, [integratedCard], true⟩]

theorem vulkan_handles_conserved_fallenBack :
    ∃ finish, Machine.exec step start fallenBack = some finish ∧ finish.initialized = true ∧
      ¬ finish.shutdown.zig.handles.Settled := by
  refine ⟨_, rfl, by decide +kernel, ?_⟩
  intro settled
  have along := (@vulkan_handles_conserved fallenBack _ rfl).2.2.mp settled
  rcases along.1 with up | refused | ⟨-, created⟩
  · exact absurd up (by decide)
  · exact absurd refused (by decide)
  · exact absurd created (by decide)

/-! ## What is reported -/

def KeepsFlagDown (vulkan : VulkanInitializer) : Call → Prop
  | .initializeVulkan answer => vulkan.initialized = true ∨
      ¬ (answer.createsInstance = true ∧
        ∃ device, answer.selected = some device ∧ device.hasKeyedMutex = true)
  | .shutdown => True

theorem step_flag {vulkan next : VulkanInitializer} {call : Call} (inStep : vulkan.InStep)
    (stepped : step vulkan call = some next) :
    next.InStep ∧ (next.zig.useKeyedMutex = false ↔
      vulkan.zig.useKeyedMutex = false ∧ vulkan.KeepsFlagDown call) := by
  refine ⟨(step_refines inStep stepped).1, ?_⟩
  cases call with
  | initializeVulkan answer =>
      cases stepped
      cases up : vulkan.initialized with
      | true =>
          rw [initializeVulkan, if_pos up]
          exact (and_iff_left (Or.inl up)).symm
      | false =>
          obtain ⟨-, -, attempted⟩ := initializeVulkan_of_down inStep up answer
          have raised := not_congr attempted.useKeyedMutex
          rw [Bool.not_eq_true, not_or, Bool.not_eq_true] at raised
          rw [raised]
          refine and_congr_right fun _ => (or_iff_right ?_).symm
          rw [up]
          exact Bool.false_ne_true
  | shutdown =>
      cases stepped
      unfold shutdown
      split
      · exact (and_iff_left trivial).symm
      · exact (and_iff_left trivial).symm

/-- An initialisation that brings the object up, behind any run, reports a best device of the
first eight, its vendor and its first graphics family; and what it says of the keyed mutex is
true of that device exactly if the device has it or no attempt of the run selected a device
that has it. -/
theorem vulkan_reports_selected {calls : List Call} {before : VulkanInitializer}
    {answer : VulkanAnswer} (executed : Machine.exec step start calls = some before)
    (down : before.initialized = false)
    (up : (before.initializeVulkan answer).initialized = true) :
    ∃ device, answer.selected = some device ∧ device ∈ answer.devices.take 8 ∧
      (∀ other ∈ answer.devices.take 8, other.score ≤ device.score) ∧
      (before.initializeVulkan answer).physicalDevice = some device ∧
      (before.initializeVulkan answer).vendorId = device.vendorId ∧
      (∀ family, (device.graphicsFamilies.take 16).findIdx? (fun graphics => graphics) =
        some family → (before.initializeVulkan answer).graphicsQueueFamily = family) ∧
      ((before.initializeVulkan answer).useKeyedMutex = device.hasKeyedMutex ↔
        device.hasKeyedMutex = true ∨ Machine.Along step KeepsFlagDown start calls) := by
  have inStep : before.InStep := Machine.exec_invariant
    (fun _ _ _ inStep stepped => (step_flag inStep stepped).1) inStep_start executed
  have flag := Machine.good_iff_along
    (fun _ _ _ inStep stepped => step_flag inStep stepped) inStep_start executed
  have startDown : start.zig.useKeyedMutex = false := rfl
  rw [and_iff_right startDown] at flag
  obtain ⟨nextInStep, upIff, attempted⟩ := initializeVulkan_of_down inStep down answer
  have reports := nextInStep.reports up
  have all : 2 ≤ answer.made := of_decide_eq_true (upIff.symm.trans up)
  obtain ⟨device, selected, vendor⟩ := Option.map_eq_some_iff.mp (attempted.vendorId all)
  have created : answer.createsInstance = true := by
    by_contra refused
    rw [VulkanAnswer.made, if_pos (Bool.eq_false_of_not_eq_true refused)] at all
    exact absurd all (by decide)
  refine ⟨device, selected, List.argmax_mem selected,
    fun other inside => List.le_of_mem_argmax inside selected, ?_, ?_, ?_, ?_⟩
  · rw [reports.physicalDevice, attempted.physicalDevice all, selected]
  · rw [reports.vendorId, vendor]
  · intro family found
    rw [reports.graphicsQueueFamily]
    exact attempted.graphicsQueueFamily all device selected family found
  · have raised : (before.initializeVulkan answer).zig.useKeyedMutex = true ↔
        before.zig.useKeyedMutex = true ∨ device.hasKeyedMutex = true := by
      rw [attempted.useKeyedMutex, and_iff_right created]
      refine or_congr_right ⟨?_, fun has => ⟨device, selected, has⟩⟩
      rintro ⟨other, same, has⟩
      rw [selected] at same
      cases same
      exact has
    rw [reports.useKeyedMutex, ← flag]
    cases has : device.hasKeyedMutex with
    | true => exact iff_of_true (raised.mpr (.inr has)) (.inl rfl)
    | false =>
        rw [has, or_iff_left Bool.false_ne_true] at raised
        rw [or_iff_right Bool.false_ne_true, ← Bool.not_eq_true, ← Bool.not_eq_true, raised]

theorem vulkan_reports_selected_fallenBack :
    ∃ before, Machine.exec step start (fallenBack.take 1) = some before ∧
      (before.initializeVulkan ⟨true, [integratedCard], true⟩).useKeyedMutex ≠
        integratedCard.hasKeyedMutex := by
  refine ⟨_, rfl, ?_⟩
  obtain ⟨device, selected, -, -, -, -, -, flag⟩ :=
    @vulkan_reports_selected (fallenBack.take 1) _ ⟨true, [integratedCard], true⟩ rfl
      (by decide +kernel) (by decide +kernel)
  cases selected
  intro same
  rcases flag.mp same with has | along
  · exact absurd has (by decide +kernel)
  · rcases along.1 with up | unraised
    · exact absurd up (by decide)
    · exact unraised ⟨rfl, nvidiaCard, by decide +kernel, by decide +kernel⟩

end VulkanInitializer

end RejiStudio.Gpu
