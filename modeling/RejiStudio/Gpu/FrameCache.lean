import RejiStudio.Gpu.TargetImages

/-!
# The cache of the last frame

The frame thread stores a slot, a staging image and a target image in three atomics, one
after the other, and a reader loads them one after the other.  A resize destroys the target
images and leaves the atomics as they are.
-/

namespace RejiStudio.Gpu

open RejiStudio.Lib

/-- The arguments of one call of `cache_last_images`.  `takenAt` counts the rebuilds of the
target pool before the bridge handed the images out. -/
structure CacheCall where
  number : Nat
  staging : Option Nat
  target : Option Nat
  slot : Slot
  takenAt : Nat
  deriving DecidableEq

/-- Where the frame thread is between `get_frame_images` and the end of
`cache_last_images`. -/
inductive FramePhase where
  | idle
  | fetched (call : CacheCall)
  | storingStaging (call : CacheCall)
  | storingTarget (call : CacheCall)
  deriving DecidableEq

namespace FramePhase

/-- Some of the three stores are done and some are not. -/
def storing : FramePhase → Bool
  | .idle | .fetched _ => false
  | .storingStaging _ | .storingTarget _ => true

def call : FramePhase → Option CacheCall
  | .idle => none
  | .fetched call | .storingStaging call | .storingTarget call => some call

end FramePhase

/-- A call of `get_last_frame_images` that has loaded the staging image.  The last three
fields are history: the target images that were destroyed before the call, whether the pool
was rebuilt since the loaded image was handed out, and whether a store came in between. -/
structure Reading where
  staging : Option CacheCall
  destroyedBefore : List Nat
  stale : Bool
  torn : Bool
  deriving DecidableEq

inductive ReaderPhase where
  | idle
  | loadedStaging (reading : Reading)
  | loadedTarget (reading : Reading) (target : Option CacheCall)
  deriving DecidableEq

namespace ReaderPhase

def reading : ReaderPhase → Option Reading
  | .idle => none
  | .loadedStaging reading | .loadedTarget reading _ => some reading

def slotStored : ReaderPhase → ReaderPhase
  | .loadedTarget reading target => .loadedTarget { reading with torn := true } target
  | phase => phase

/-- The staging image changes between the loads of the two images. -/
def stagingStored : ReaderPhase → ReaderPhase
  | .loadedStaging reading => .loadedStaging { reading with torn := true }
  | phase => phase

end ReaderPhase

/-- What a call of `get_last_frame_images` loaded. -/
structure LastImages where
  staging : Option CacheCall
  target : Option CacheCall
  slot : Option CacheCall
  destroyedBefore : List Nat
  deriving DecidableEq

namespace LastImages

/-- The result of the call: both images are there. -/
def found (images : LastImages) : Bool :=
  (images.staging.bind CacheCall.staging).isSome && (images.target.bind CacheCall.target).isSome

/-- One call stored all three, and its target image was not destroyed before. -/
def Sound (images : LastImages) : Prop :=
  ∃ call, images.staging = some call ∧ images.target = some call ∧ images.slot = some call ∧
    ∀ image, call.target = some image → image ∉ images.destroyedBefore

end LastImages

/-- The bridge, the lock of its target pool and the three atomics; an atomic is kept as the
call that stored it.  The last four fields are history. -/
structure FrameCache where
  bridge : Bridge
  poolIndex : Slot
  poolLocked : Bool
  lastSlot : Option CacheCall
  lastStaging : Option CacheCall
  lastTarget : Option CacheCall
  frame : FramePhase
  reader : ReaderPhase
  calls : Nat
  rebuilds : Nat
  destroyed : List Nat
  /-- The calls of `get_last_frame_images` that returned true. -/
  returned : List LastImages

inductive CacheAction where
  | getFrameImages (tex : Option Texture2D) (outcome : ImportOutcome)
  | storeSlot
  | storeStaging
  | storeTarget
  | loadStaging
  | loadTarget
  | loadSlot
  | lockPool
  | resizePool (width height : UInt32) (outcome : BuildOutcome)

namespace FrameCache

def start (bridge : Bridge) : FrameCache where
  bridge := bridge
  poolIndex := 0
  poolLocked := false
  lastSlot := none
  lastStaging := none
  lastTarget := none
  frame := .idle
  reader := .idle
  calls := 0
  rebuilds := 0
  destroyed := []
  returned := []

def targets (bridge : Bridge) : List Nat :=
  (List.finRange poolSize).filterMap fun i => bridge.handleId ⟨.glTargetImage, i⟩

/-- `get_frame_images` of the frame thread, which passes a locked pool by. -/
def getFrameImages (cache : FrameCache) (tex : Option Texture2D) (outcome : ImportOutcome) :
    FrameCache :=
  if cache.poolLocked then cache
  else
    let bridge := cache.bridge.getFrameImages tex cache.poolIndex outcome
    if (cache.bridge.state.getFrameImages tex cache.poolIndex outcome).2.ok then
      { cache with
        bridge := bridge
        poolIndex := cache.poolIndex + 1
        calls := cache.calls + 1
        frame := .fetched
          { number := cache.calls
            staging := bridge.handleId ⟨.imagePoolImage, cache.poolIndex⟩
            target := bridge.getExecuteTarget cache.poolIndex
            slot := cache.poolIndex
            takenAt := cache.rebuilds } }
    else { cache with bridge := bridge }

/-- `resize_gl_target_pool` up to the release of its lock. -/
def resizePool (cache : FrameCache) (width height : UInt32) (outcome : BuildOutcome) :
    FrameCache :=
  let unlocked :=
    { cache with
      bridge := cache.bridge.resizeGlTargetPool width height outcome
      poolLocked := false }
  if cache.bridge.Resizes width height then
    { unlocked with
      rebuilds := cache.rebuilds + 1
      destroyed := cache.destroyed ++ targets cache.bridge }
  else unlocked

/-- The pool was rebuilt since the cached staging image was handed out. -/
def stale (cache : FrameCache) : Bool :=
  cache.lastStaging.any fun call => call.takenAt < cache.rebuilds

def step : Machine FrameCache CacheAction
  | cache, .getFrameImages tex outcome =>
      if cache.frame = .idle then some (cache.getFrameImages tex outcome) else none
  | cache, .storeSlot =>
      match cache.frame with
      | .fetched call =>
          some { cache with
            lastSlot := some call
            frame := .storingStaging call
            reader := cache.reader.slotStored }
      | _ => none
  | cache, .storeStaging =>
      match cache.frame with
      | .storingStaging call =>
          some { cache with
            lastStaging := some call
            frame := .storingTarget call
            reader := cache.reader.stagingStored }
      | _ => none
  | cache, .storeTarget =>
      match cache.frame with
      | .storingTarget call => some { cache with lastTarget := some call, frame := .idle }
      | _ => none
  | cache, .loadStaging =>
      if cache.reader = .idle then
        some { cache with
          reader := .loadedStaging ⟨cache.lastStaging, cache.destroyed, cache.stale, false⟩ }
      else none
  | cache, .loadTarget =>
      match cache.reader with
      | .loadedStaging reading =>
          some { cache with
            reader := .loadedTarget { reading with torn := reading.torn || cache.frame.storing }
              cache.lastTarget }
      | _ => none
  | cache, .loadSlot =>
      match cache.reader with
      | .loadedTarget reading target =>
          let images : LastImages :=
            ⟨reading.staging, target, cache.lastSlot, reading.destroyedBefore⟩
          some { cache with
            reader := .idle
            returned := if images.found then cache.returned ++ [images] else cache.returned }
      | _ => none
  | cache, .lockPool =>
      if cache.poolLocked then none else some { cache with poolLocked := true }
  | cache, .resizePool width height outcome =>
      if cache.poolLocked then some (cache.resizePool width height outcome) else none

/-- A call that finds both images began with a frame that was handed out after the last
rebuild, and no store came between its loads. -/
def Undisturbed (cache : FrameCache) : CacheAction → Prop
  | .loadSlot =>
      match cache.reader with
      | .loadedTarget reading target =>
          (reading.staging.bind CacheCall.staging).isSome = true →
            (target.bind CacheCall.target).isSome = true →
            reading.stale = false ∧ reading.torn = false
      | _ => True
  | _ => True

/-! ## Torn loads -/

def age : Option CacheCall → Nat
  | none => 0
  | some call => call.number + 1

@[simp]
theorem age_some (call : CacheCall) : age (some call) = call.number + 1 := rfl

/-- The atomics are those of one call, up to the stores that the frame thread is in the
middle of. -/
def CellsOrdered (cache : FrameCache) : Prop :=
  match cache.frame with
  | .idle => cache.lastSlot = cache.lastTarget ∧ cache.lastStaging = cache.lastTarget
  | .fetched call =>
      cache.lastSlot = cache.lastTarget ∧ cache.lastStaging = cache.lastTarget ∧
        age cache.lastTarget ≤ call.number
  | .storingStaging call =>
      cache.lastSlot = some call ∧ cache.lastStaging = cache.lastTarget ∧
        age cache.lastTarget ≤ call.number
  | .storingTarget call =>
      cache.lastSlot = some call ∧ cache.lastStaging = some call ∧
        age cache.lastTarget ≤ call.number

/-- Loads that no store came between are of the call that stored the slot; of the others one
is older. -/
def LoadsOrdered (cache : FrameCache) : Prop :=
  match cache.reader with
  | .idle => True
  | .loadedStaging reading =>
      age reading.staging ≤ age cache.lastSlot ∧
        (reading.torn = false → reading.staging = cache.lastStaging) ∧
        (reading.torn = true → age reading.staging < age cache.lastSlot)
  | .loadedTarget reading target =>
      age target ≤ age cache.lastSlot ∧
      (reading.torn = false → reading.staging = cache.lastSlot ∧ target = cache.lastSlot) ∧
        (reading.torn = true →
          age reading.staging < age cache.lastSlot ∨ age target < age cache.lastSlot)

structure Ordered (cache : FrameCache) : Prop where
  cells : cache.CellsOrdered
  loads : cache.LoadsOrdered
  counted : age cache.lastTarget ≤ cache.calls
  numbered : ∀ call, cache.frame.call = some call → call.number < cache.calls

theorem CellsOrdered.in_sync {cache : FrameCache} (cells : cache.CellsOrdered)
    (quiet : cache.frame.storing = false) :
    cache.lastSlot = cache.lastTarget ∧ cache.lastStaging = cache.lastTarget := by
  unfold CellsOrdered at cells
  cases phase : cache.frame <;> simp only [phase] at cells quiet
  case idle => exact cells
  case fetched => exact ⟨cells.1, cells.2.1⟩
  all_goals cases quiet

theorem CellsOrdered.older {cache : FrameCache} (cells : cache.CellsOrdered)
    (storing : cache.frame.storing = true) : age cache.lastTarget < age cache.lastSlot := by
  unfold CellsOrdered at cells
  cases phase : cache.frame <;> simp only [phase] at cells storing
  case storingStaging => rw [cells.1]; exact Nat.lt_succ_of_le cells.2.2
  case storingTarget => rw [cells.1]; exact Nat.lt_succ_of_le cells.2.2
  all_goals cases storing

theorem CellsOrdered.target_le {cache : FrameCache} (cells : cache.CellsOrdered) :
    age cache.lastTarget ≤ age cache.lastSlot := by
  cases storing : cache.frame.storing with
  | false => rw [(cells.in_sync storing).1]
  | true => exact Nat.le_of_lt (cells.older storing)

theorem CellsOrdered.staging_le {cache : FrameCache} (cells : cache.CellsOrdered) :
    age cache.lastStaging ≤ age cache.lastSlot := by
  have target := cells.target_le
  unfold CellsOrdered at cells
  cases phase : cache.frame <;> simp only [phase] at cells
  case storingTarget => rw [cells.1, cells.2.1]
  case idle => rwa [cells.2]
  all_goals rwa [cells.2.1]

theorem ordered_start (bridge : Bridge) : (start bridge).Ordered where
  cells := ⟨rfl, rfl⟩
  loads := trivial
  counted := Nat.zero_le _
  numbered := nofun

/-- A step that leaves the atomics, the frame thread and the reader alone. -/
theorem Ordered.frame {cache next : FrameCache} (ordered : cache.Ordered)
    (same : next.lastSlot = cache.lastSlot ∧ next.lastStaging = cache.lastStaging ∧
      next.lastTarget = cache.lastTarget ∧ next.frame = cache.frame ∧
      next.reader = cache.reader ∧ next.calls = cache.calls) : next.Ordered := by
  obtain ⟨slot, staging, target, phase, reader, calls⟩ := same
  have ⟨cells, loads, counted, numbered⟩ := ordered
  refine ⟨?_, ?_, ?_, ?_⟩
  · unfold CellsOrdered
    rw [slot, staging, target, phase]
    exact cells
  · unfold LoadsOrdered
    rw [slot, staging, reader]
    exact loads
  · rw [target, calls]
    exact counted
  · rw [phase, calls]
    exact numbered

theorem Ordered.getFrameImages {cache : FrameCache} (ordered : cache.Ordered)
    (idle : cache.frame = .idle) (tex : Option Texture2D) (outcome : ImportOutcome) :
    (cache.getFrameImages tex outcome).Ordered := by
  unfold FrameCache.getFrameImages
  split
  next => exact ordered
  next =>
    split
    next =>
      have cells := ordered.cells
      unfold CellsOrdered at cells
      rw [idle] at cells
      refine ⟨⟨cells.1, cells.2, ordered.counted⟩, ordered.loads, ?_, ?_⟩
      · exact Nat.le_succ_of_le ordered.counted
      · rintro call ⟨⟩
        exact Nat.lt_succ_self _
    next => exact ordered.frame ⟨rfl, rfl, rfl, rfl, rfl, rfl⟩

theorem Ordered.resizePool {cache : FrameCache} (ordered : cache.Ordered)
    (width height : UInt32) (outcome : BuildOutcome) :
    (cache.resizePool width height outcome).Ordered := by
  unfold FrameCache.resizePool
  split <;> exact ordered.frame ⟨rfl, rfl, rfl, rfl, rfl, rfl⟩

theorem Ordered.step {cache next : FrameCache} {action : CacheAction} (ordered : cache.Ordered)
    (stepped : FrameCache.step cache action = some next) : next.Ordered := by
  have ⟨cells, loads, counted, numbered⟩ := ordered
  unfold CellsOrdered at cells
  unfold LoadsOrdered at loads
  cases action <;> simp only [FrameCache.step] at stepped
  case getFrameImages tex outcome =>
    split at stepped <;> cases stepped
    next idle => exact ordered.getFrameImages idle tex outcome
  case storeSlot =>
    split at stepped <;> cases stepped
    next call fetched =>
      simp only [fetched] at cells
      obtain ⟨slot, staging, older⟩ := cells
      refine ⟨⟨rfl, staging, older⟩, ?_, counted, ?_⟩
      · rw [slot] at loads
        unfold LoadsOrdered
        cases reader : cache.reader with
        | idle => trivial
        | loadedStaging reading =>
            simp only [reader] at loads
            simp only [ReaderPhase.slotStored, age_some]
            exact ⟨by omega, loads.2.1, fun _ => by omega⟩
        | loadedTarget reading target =>
            simp only [reader] at loads
            simp only [ReaderPhase.slotStored, age_some]
            exact ⟨by omega, nofun, fun _ => .inr (by omega)⟩
      · rintro _ ⟨⟩
        exact numbered call (by rw [fetched]; rfl)
  case storeStaging =>
    split at stepped <;> cases stepped
    next call storing =>
      simp only [storing] at cells
      obtain ⟨slot, staging, older⟩ := cells
      refine ⟨⟨slot, rfl, older⟩, ?_, counted, ?_⟩
      · unfold LoadsOrdered
        cases reader : cache.reader with
        | idle => trivial
        | loadedStaging reading =>
            simp only [reader, slot, age_some] at loads
            simp only [ReaderPhase.stagingStored, slot, age_some]
            refine ⟨loads.1, nofun, fun _ => ?_⟩
            cases torn : reading.torn with
            | false =>
                rw [loads.2.1 torn, staging]
                omega
            | true => exact loads.2.2 torn
        | loadedTarget reading target =>
            simp only [reader] at loads
            exact loads
      · rintro _ ⟨⟩
        exact numbered call (by rw [storing]; rfl)
  case storeTarget =>
    split at stepped <;> cases stepped
    next call storing =>
      simp only [storing] at cells
      obtain ⟨slot, staging, older⟩ := cells
      exact ⟨⟨slot, staging⟩, loads, numbered call (by rw [storing]; rfl), nofun⟩
  case loadStaging =>
    split at stepped <;> cases stepped
    exact ⟨ordered.cells, ⟨ordered.cells.staging_le, fun _ => rfl, nofun⟩, counted, numbered⟩
  case loadTarget =>
    split at stepped <;> cases stepped
    next reading loaded =>
      simp only [loaded] at loads
      refine ⟨ordered.cells, ⟨ordered.cells.target_le, ?_, ?_⟩, counted, numbered⟩
      · intro whole
        rw [Bool.or_eq_false_iff] at whole
        obtain ⟨slot, staging⟩ := ordered.cells.in_sync whole.2
        exact ⟨(loads.2.1 whole.1).trans (staging.trans slot.symm), slot.symm⟩
      · intro torn
        rcases Bool.or_eq_true_iff.mp torn with before | storing
        · exact .inl (loads.2.2 before)
        · exact .inr (ordered.cells.older storing)
  case loadSlot =>
    split at stepped <;> cases stepped
    exact ⟨cells, trivial, counted, numbered⟩
  case lockPool =>
    split at stepped <;> cases stepped
    exact ordered.frame ⟨rfl, rfl, rfl, rfl, rfl, rfl⟩
  case resizePool width height outcome =>
    split at stepped <;> cases stepped
    exact ordered.resizePool width height outcome

/-! ## Stale images -/

/-- A target that was handed out since the last rebuild is in the pool, an older one was
destroyed. -/
structure Dated (cache : FrameCache) (call : CacheCall) : Prop where
  past : call.takenAt ≤ cache.rebuilds
  current : call.takenAt = cache.rebuilds →
    call.target = cache.bridge.getExecuteTarget call.slot
  gone : call.takenAt < cache.rebuilds →
    ∀ image, call.target = some image → image ∈ cache.destroyed

/-- The flag of a call says whether the target of the frame it loads is destroyed. -/
def Judged (reading : Reading) : Prop :=
  ∀ call, reading.staging = some call → ∀ image, call.target = some image →
    (reading.stale = true ↔ image ∈ reading.destroyedBefore)

structure Fresh (cache : FrameCache) : Prop where
  tracked : cache.bridge.Tracked
  below : ∀ image ∈ cache.destroyed, image < cache.bridge.handles.created
  live : ∀ i image, cache.bridge.handleId ⟨.glTargetImage, i⟩ = some image →
    image ∉ cache.destroyed
  pending : ∀ call, cache.frame.call = some call → cache.Dated call
  cached : ∀ call, cache.lastStaging = some call → cache.Dated call
  judged : ∀ reading, cache.reader.reading = some reading → Judged reading

theorem fresh_start {bridge : Bridge} (tracked : bridge.Tracked) : (start bridge).Fresh where
  tracked := tracked
  below := nofun
  live := nofun
  pending := nofun
  cached := nofun
  judged := nofun

theorem handleId_getFrameImages (bridge : Bridge) (tex : Option Texture2D) (slot : Nat)
    (outcome : ImportOutcome) (i : Slot) :
    (bridge.getFrameImages tex slot outcome).handleId ⟨.glTargetImage, i⟩ =
      bridge.handleId ⟨.glTargetImage, i⟩ := by
  unfold Bridge.handleId
  rw [Bridge.getFrameImages_target]

theorem Fresh.getFrameImages {cache : FrameCache} (fresh : cache.Fresh)
    (tex : Option Texture2D) (outcome : ImportOutcome) :
    (cache.getFrameImages tex outcome).Fresh := by
  have kept := handleId_getFrameImages cache.bridge tex cache.poolIndex outcome
  have tracked := fresh.tracked.getFrameImages tex cache.poolIndex outcome
  have below : ∀ image ∈ cache.destroyed,
      image < (cache.bridge.getFrameImages tex cache.poolIndex outcome).handles.created := by
    intro image destroyed
    exact Nat.lt_of_lt_of_le (fresh.below image destroyed)
      (Bridge.getFrameImages_created _ _ _ _)
  have live : ∀ i image, (cache.bridge.getFrameImages tex cache.poolIndex outcome).handleId
      ⟨.glTargetImage, i⟩ = some image → image ∉ cache.destroyed := by
    intro i image content
    rw [kept] at content
    exact fresh.live i image content
  have dated : ∀ call, cache.Dated call →
      Dated { cache with bridge := cache.bridge.getFrameImages tex cache.poolIndex outcome }
        call := by
    intro call dated
    refine ⟨dated.past, fun same => ?_, dated.gone⟩
    exact (dated.current same).trans (kept _).symm
  unfold FrameCache.getFrameImages
  split
  next => exact fresh
  next =>
    split
    next =>
      have cached : ∀ call, cache.lastStaging = some call → _ :=
        fun call stored => dated call (fresh.cached call stored)
      refine ⟨tracked, below, live, ?_, fun call stored => ?_, fresh.judged⟩
      · rintro _ ⟨⟩
        exact ⟨Nat.le_refl _, fun _ => rfl, fun earlier => absurd earlier (Nat.lt_irrefl _)⟩
      · have known := cached call stored
        exact ⟨known.past, known.current, known.gone⟩
    next =>
      exact ⟨tracked, below, live, fun call held => dated call (fresh.pending call held),
        fun call stored => dated call (fresh.cached call stored), fresh.judged⟩

theorem mem_targets {bridge : Bridge} {image : Nat} :
    image ∈ targets bridge ↔ ∃ i, bridge.handleId ⟨.glTargetImage, i⟩ = some image := by
  simp [targets]

theorem Fresh.resizePool {cache : FrameCache} (fresh : cache.Fresh) (width height : UInt32)
    (outcome : BuildOutcome) : (cache.resizePool width height outcome).Fresh := by
  have tracked := fresh.tracked.resizeGlTargetPool width height outcome
  have grown := Bridge.resizeGlTargetPool_created cache.bridge width height outcome
  unfold FrameCache.resizePool
  split
  next resizes =>
    have dated : ∀ call, cache.Dated call →
        call.takenAt < cache.rebuilds + 1 ∧
          ∀ image, call.target = some image → image ∈ cache.destroyed ++ targets cache.bridge := by
      intro call dated
      refine ⟨Nat.lt_succ_of_le dated.past, fun image target => ?_⟩
      rw [List.mem_append]
      rcases Nat.lt_or_eq_of_le dated.past with earlier | same
      · exact .inl (dated.gone earlier image target)
      · refine .inr (mem_targets.mpr ⟨call.slot + 1, ?_⟩)
        exact (dated.current same).symm.trans target
    have redated : ∀ call, cache.Dated call → ∀ next : FrameCache,
        next.rebuilds = cache.rebuilds + 1 →
        next.destroyed = cache.destroyed ++ targets cache.bridge → next.Dated call := by
      intro call known next rebuilds destroyed
      obtain ⟨past, gone⟩ := dated call known
      rw [← rebuilds] at past
      rw [← destroyed] at gone
      exact ⟨Nat.le_of_lt past, fun same => absurd same (Nat.ne_of_lt past), fun _ => gone⟩
    have old : ∀ image ∈ cache.destroyed ++ targets cache.bridge,
        image < cache.bridge.handles.created := by
      intro image member
      rcases List.mem_append.mp member with before | now
      · exact fresh.below image before
      · obtain ⟨i, content⟩ := mem_targets.mp now
        exact fresh.tracked.handleId_lt content
    refine ⟨tracked, ?_, ?_, ?_, ?_, fresh.judged⟩
    · exact fun image member => Nat.lt_of_lt_of_le (old image member) grown
    · intro i image content destroyed
      obtain ⟨resource, held, rfl⟩ := Option.map_eq_some_iff.mp content
      have new := Bridge.resizeGlTargetPool_target resizes held
      exact absurd (old _ destroyed) (Nat.not_lt.mpr new)
    · exact fun call held => redated call (fresh.pending call held) _ rfl rfl
    · exact fun call stored => redated call (fresh.cached call stored) _ rfl rfl
  next kept =>
    have handles := Bridge.resizeGlTargetPool_handles outcome kept
    have same : ∀ cell, (cache.bridge.resizeGlTargetPool width height outcome).handleId cell =
        cache.bridge.handleId cell := by
      intro cell
      unfold Bridge.handleId
      rw [handles]
    refine ⟨tracked, ?_, ?_, ?_, ?_, fresh.judged⟩
    · exact fun image member => Nat.lt_of_lt_of_le (fresh.below image member) grown
    · intro i image content
      rw [same] at content
      exact fresh.live i image content
    · intro call held
      have known := fresh.pending call held
      exact ⟨known.past, fun at_ => (known.current at_).trans (same _).symm, known.gone⟩
    · intro call stored
      have known := fresh.cached call stored
      exact ⟨known.past, fun at_ => (known.current at_).trans (same _).symm, known.gone⟩

theorem judged_slotStored {phase : ReaderPhase}
    (judged : ∀ reading, phase.reading = some reading → Judged reading) :
    ∀ reading, phase.slotStored.reading = some reading → Judged reading := by
  cases phase with
  | idle => exact nofun
  | loadedStaging reading => exact judged
  | loadedTarget reading target =>
      rintro _ ⟨⟩
      exact judged reading rfl

theorem judged_stagingStored {phase : ReaderPhase}
    (judged : ∀ reading, phase.reading = some reading → Judged reading) :
    ∀ reading, phase.stagingStored.reading = some reading → Judged reading := by
  cases phase with
  | idle => exact nofun
  | loadedStaging reading =>
      rintro _ ⟨⟩
      exact judged reading rfl
  | loadedTarget reading target => exact judged

theorem Fresh.judged_load {cache : FrameCache} (fresh : cache.Fresh) :
    Judged ⟨cache.lastStaging, cache.destroyed, cache.stale, false⟩ := by
  intro call stored image target
  have known := fresh.cached call stored
  have flag : cache.stale = decide (call.takenAt < cache.rebuilds) := by
    rw [stale, show cache.lastStaging = some call from stored]
    rfl
  show cache.stale = true ↔ image ∈ cache.destroyed
  rw [flag, decide_eq_true_iff]
  constructor
  · exact fun earlier => known.gone earlier image target
  · intro destroyed
    apply Nat.lt_of_le_of_ne known.past
    intro same
    exact fresh.live _ image ((known.current same).symm.trans target) destroyed

theorem Fresh.turn {cache next : FrameCache} (fresh : cache.Fresh)
    (same : next.bridge = cache.bridge ∧ next.rebuilds = cache.rebuilds ∧
      next.destroyed = cache.destroyed)
    (pending : ∀ call, next.frame.call = some call → cache.Dated call)
    (cached : ∀ call, next.lastStaging = some call → cache.Dated call)
    (judged : ∀ reading, next.reader.reading = some reading → Judged reading) : next.Fresh := by
  obtain ⟨bridge, rebuilds, destroyed⟩ := same
  have kept : ∀ call, cache.Dated call → next.Dated call := by
    rintro call ⟨past, current, gone⟩
    rw [← rebuilds, ← bridge] at current
    rw [← rebuilds, ← destroyed] at gone
    exact ⟨rebuilds ▸ past, current, gone⟩
  refine ⟨?_, ?_, ?_, fun call held => kept call (pending call held),
    fun call stored => kept call (cached call stored), judged⟩
  · rw [bridge]
    exact fresh.tracked
  · rw [bridge, destroyed]
    exact fresh.below
  · rw [bridge, destroyed]
    exact fresh.live

theorem Fresh.step {cache next : FrameCache} {action : CacheAction} (fresh : cache.Fresh)
    (stepped : FrameCache.step cache action = some next) : next.Fresh := by
  have ⟨_, _, _, pending, cached, judged⟩ := fresh
  cases action <;> simp only [FrameCache.step] at stepped
  case getFrameImages tex outcome =>
    split at stepped <;> cases stepped
    exact fresh.getFrameImages tex outcome
  case storeSlot =>
    split at stepped <;> cases stepped
    next call fetched =>
      refine fresh.turn ⟨rfl, rfl, rfl⟩ ?_ cached (judged_slotStored judged)
      rintro _ ⟨⟩
      exact pending call (by rw [fetched]; rfl)
  case storeStaging =>
    split at stepped <;> cases stepped
    next call storing =>
      have known := pending call (by rw [storing]; rfl)
      refine fresh.turn ⟨rfl, rfl, rfl⟩ ?_ ?_ (judged_stagingStored judged)
      · rintro _ ⟨⟩
        exact known
      · rintro _ ⟨⟩
        exact known
  case storeTarget =>
    split at stepped <;> cases stepped
    exact fresh.turn ⟨rfl, rfl, rfl⟩ nofun cached judged
  case loadStaging =>
    split at stepped <;> cases stepped
    refine fresh.turn ⟨rfl, rfl, rfl⟩ pending cached ?_
    rintro _ ⟨⟩
    exact fresh.judged_load
  case loadTarget =>
    split at stepped <;> cases stepped
    next reading loaded =>
      refine fresh.turn ⟨rfl, rfl, rfl⟩ pending cached ?_
      rintro _ ⟨⟩
      exact judged reading (by rw [loaded]; rfl)
  case loadSlot =>
    split at stepped <;> cases stepped
    exact fresh.turn ⟨rfl, rfl, rfl⟩ pending cached nofun
  case lockPool =>
    split at stepped <;> cases stepped
    exact fresh.turn ⟨rfl, rfl, rfl⟩ pending cached judged
  case resizePool width height outcome =>
    split at stepped <;> cases stepped
    exact fresh.resizePool width height outcome

/-! ## Whole calls -/

/-- A call that returns true is sound exactly if it was not disturbed. -/
theorem sound_iff_undisturbed {cache : FrameCache} {reading : Reading}
    {target : Option CacheCall} (ordered : cache.Ordered) (fresh : cache.Fresh)
    (loaded : cache.reader = .loadedTarget reading target)
    (found : (reading.staging.bind CacheCall.staging).isSome = true ∧
      (target.bind CacheCall.target).isSome = true) :
    LastImages.Sound ⟨reading.staging, target, cache.lastSlot, reading.destroyedBefore⟩ ↔
      reading.stale = false ∧ reading.torn = false := by
  have loads := ordered.loads
  unfold LoadsOrdered at loads
  simp only [loaded] at loads
  have judged := fresh.judged reading (by rw [loaded]; rfl)
  constructor
  · rintro ⟨call, staging, taken, slot, intact⟩
    change reading.staging = some call at staging
    change target = some call at taken
    change cache.lastSlot = some call at slot
    constructor
    · rw [taken] at found
      obtain ⟨image, present⟩ := Option.isSome_iff_exists.mp found.2
      apply Bool.eq_false_iff.mpr
      intro stale
      exact intact image present ((judged call staging image present).mp stale)
    · apply Bool.eq_false_iff.mpr
      intro torn
      have older := loads.2.2 torn
      rw [staging, taken, slot] at older
      exact older.elim (Nat.lt_irrefl _) (Nat.lt_irrefl _)
  · rintro ⟨current, whole⟩
    obtain ⟨staging, taken⟩ := loads.2.1 whole
    cases stored : cache.lastSlot with
    | none =>
        rw [staging, stored] at found
        exact absurd found.1 (by simp)
    | some call =>
        rw [stored] at staging taken
        refine ⟨call, staging, taken, rfl, ?_⟩
        intro image present destroyed
        have stale := (judged call staging image present).mpr destroyed
        rw [current] at stale
        cases stale

theorem getFrameImages_returned (cache : FrameCache) (tex : Option Texture2D)
    (outcome : ImportOutcome) :
    (cache.getFrameImages tex outcome).returned = cache.returned := by
  unfold getFrameImages
  split
  next => rfl
  next => split <;> rfl

theorem resizePool_returned (cache : FrameCache) (width height : UInt32)
    (outcome : BuildOutcome) :
    (cache.resizePool width height outcome).returned = cache.returned := by
  unfold resizePool
  split <;> rfl

theorem returned_step {cache next : FrameCache} {action : CacheAction} (ordered : cache.Ordered)
    (fresh : cache.Fresh) (stepped : step cache action = some next) :
    (∀ images ∈ next.returned, images.Sound) ↔
      (∀ images ∈ cache.returned, images.Sound) ∧ cache.Undisturbed action := by
  cases action <;> simp only [step] at stepped
  case loadSlot =>
    split at stepped
    next reading target loaded =>
      cases stepped
      simp only [Undisturbed, loaded]
      split
      next found =>
        have both := Bool.and_eq_true_iff.mp found
        simp only [List.forall_mem_append, List.forall_mem_singleton]
        rw [sound_iff_undisturbed ordered fresh loaded both]
        constructor
        · rintro ⟨before, undisturbed⟩
          exact ⟨before, fun _ _ => undisturbed⟩
        · rintro ⟨before, undisturbed⟩
          exact ⟨before, undisturbed both.1 both.2⟩
      next missing =>
        refine (and_iff_left ?_).symm
        intro staging taken
        exact absurd (Bool.and_eq_true_iff.mpr ⟨staging, taken⟩) missing
    next => cases stepped
  case getFrameImages tex outcome =>
    split at stepped <;> cases stepped
    rw [getFrameImages_returned]
    exact (and_iff_left trivial).symm
  case resizePool width height outcome =>
    split at stepped <;> cases stepped
    rw [resizePool_returned]
    exact (and_iff_left trivial).symm
  all_goals
    split at stepped <;> cases stepped
    exact (and_iff_left trivial).symm

/-- In every run from a bridge that some calls have set up, every call that returns true is
sound exactly if no such call was disturbed. -/
theorem returned_sound_iff_undisturbed {calls : List Bridge.Call} {bridge : Bridge}
    {actions : List CacheAction} {cache : FrameCache}
    (made : Machine.exec Bridge.step Bridge.start calls = some bridge)
    (executed : Machine.exec step (start bridge) actions = some cache) :
    (∀ images ∈ cache.returned, images.Sound) ↔
      Machine.Along step Undisturbed (start bridge) actions := by
  have advances : ∀ state action next, state.Ordered ∧ state.Fresh →
      step state action = some next → (next.Ordered ∧ next.Fresh) ∧
        ((∀ images ∈ next.returned, images.Sound) ↔
          (∀ images ∈ state.returned, images.Sound) ∧ state.Undisturbed action) := by
    rintro state action next ⟨ordered, fresh⟩ stepped
    exact ⟨⟨ordered.step stepped, fresh.step stepped⟩, returned_step ordered fresh stepped⟩
  have initially : (start bridge).Ordered ∧ (start bridge).Fresh :=
    ⟨ordered_start bridge, fresh_start (Bridge.run_tracked made)⟩
  rw [Machine.good_iff_along advances initially executed]
  exact and_iff_right nofun

def fetch : List CacheAction :=
  [.getFrameImages (some ⟨7, 1920, 1080, .b8g8r8a8Unorm⟩) ⟨true, true, true, true, true⟩,
    .storeSlot]

def cacheFrame : List CacheAction := fetch ++ [.storeStaging, .storeTarget]

def readLast : List CacheAction := [.loadStaging, .loadTarget, .loadSlot]

def readyCache : FrameCache := start (Preview.readyBridge 1920 1080)

theorem returned_sound_one_frame :
    ∃ cache, Machine.exec step readyCache (cacheFrame ++ readLast) = some cache ∧
      cache.returned.length = 1 ∧
      ((∀ images ∈ cache.returned, images.Sound) ↔
        Machine.Along step Undisturbed readyCache (cacheFrame ++ readLast)) := by
  have made : Machine.exec Bridge.step Bridge.start (Preview.bridgeCalls 1920 1080) =
      some (Preview.readyBridge 1920 1080) := rfl
  have ended : (Machine.exec step readyCache (cacheFrame ++ readLast)).map
      (fun cache => cache.returned.length) = some 1 := by
    decide +kernel
  obtain ⟨cache, executed, once⟩ := Option.map_eq_some_iff.mp ended
  exact ⟨cache, executed, once, returned_sound_iff_undisturbed made executed⟩

/-- After a resize the cached target is destroyed, and a slot that is stored during the loads
comes with the images of another frame. -/
theorem destroyed_and_torn_returned :
    (∃ cache, Machine.exec step readyCache (cacheFrame ++ [.lockPool,
          .resizePool 1280 720 ⟨true, fun i => ⟨true, 64, true, true, some i⟩⟩] ++ readLast) =
        some cache ∧
      ∃ images ∈ cache.returned, ¬images.Sound) ∧
    ∃ cache, Machine.exec step readyCache
        (cacheFrame ++ [.loadStaging, .loadTarget] ++ fetch ++ [.loadSlot]) = some cache ∧
      ∃ images ∈ cache.returned, ¬images.Sound := by
  constructor
  · have ended : (Machine.exec step readyCache (cacheFrame ++ [.lockPool,
          .resizePool 1280 720 ⟨true, fun i => ⟨true, 64, true, true, some i⟩⟩] ++ readLast)).map
        (fun cache => cache.returned.map fun images =>
          (images.target.bind CacheCall.target).any images.destroyedBefore.contains) =
        some [true] := by
      decide +kernel
    obtain ⟨cache, executed, observed⟩ := Option.map_eq_some_iff.mp ended
    obtain ⟨images, only, destroyed⟩ := List.map_eq_singleton_iff.mp observed
    refine ⟨cache, executed, images, by simp [only], ?_⟩
    rintro ⟨call, _, taken, _, intact⟩
    simp only [taken, Option.bind_some, Option.any_eq_true, List.contains_eq_mem,
      decide_eq_true_eq] at destroyed
    obtain ⟨image, present, gone⟩ := destroyed
    exact intact image present gone
  · have ended : (Machine.exec step readyCache
        (cacheFrame ++ [.loadStaging, .loadTarget] ++ fetch ++ [.loadSlot])).map
        (fun cache => cache.returned.map fun images => decide (images.target = images.slot)) =
        some [false] := by
      decide +kernel
    obtain ⟨cache, executed, observed⟩ := Option.map_eq_some_iff.mp ended
    obtain ⟨images, only, different⟩ := List.map_eq_singleton_iff.mp observed
    refine ⟨cache, executed, images, by simp [only], ?_⟩
    rintro ⟨call, _, taken, slot, _⟩
    exact absurd (taken.trans slot.symm) (of_decide_eq_false different)

end FrameCache

end RejiStudio.Gpu
