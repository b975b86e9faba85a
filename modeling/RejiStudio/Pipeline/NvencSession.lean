import Mathlib.Algebra.Order.Ring.Int
import RejiStudio.Lib.GuardedLedger

/-!
# The handles of the encoder

`NvencEncoder::Impl` keeps the library, the session, the registered input and the output
buffers in fields that are null or hold a handle.  `destroy` gives them back, and the
destructor calls it on an initialised encoder only.  The answers of the driver are choices of
the environment; the settings of a picture and its bits are left out.
-/

namespace RejiStudio.Pipeline

open RejiStudio.Lib

/-- The encoder has three output buffers. -/
local instance threeBuffers : NeZero 3 := ⟨by decide⟩

/-- The handle fields of `NvencEncoder::Impl`. -/
inductive NvencCell where
  | dll
  | session
  | regRes
  | outBuf (index : Fin 3)
  deriving DecidableEq

/-- All fields, in the order of `destroy`. -/
def nvencCells : List NvencCell :=
  [.regRes, .outBuf 0, .outBuf 1, .outBuf 2, .session, .dll]

/-- `NvencEncoder::Impl`.  The counts of the ledger are history and outlive the object. -/
structure NvencImpl where
  handles : Ledger NvencCell Unit
  regTex : Option Nat
  outIdx : Fin 3
  frameIdx : Nat
  initialized : Bool

/-- The arguments of an initialisation, and what the system answers while it goes on. -/
structure SessionAnswer where
  device : Bool
  fpsNum : UInt32
  library : Bool
  entryPoint : Bool
  functions : Bool
  session : Bool
  preset : Bool
  encoder : Bool
  buffers : Fin 3 → Bool

inductive PictureStatus where
  | success
  | needMoreInput
  | error
  deriving DecidableEq

structure FrameAnswer where
  registers : Bool
  maps : Bool
  picture : PictureStatus
  locks : Bool
  deriving DecidableEq

namespace NvencImpl

def create (impl : NvencImpl) (cell : NvencCell) : NvencImpl :=
  { impl with handles := impl.handles.create Guarded.sameOwner cell }

def clear (impl : NvencImpl) (cell : NvencCell) : NvencImpl :=
  { impl with handles := impl.handles.copy none cell }

def loadDll (impl : NvencImpl) (answer : SessionAnswer) : Bool × NvencImpl :=
  if answer.library = false then (false, impl.clear .dll)
  else (answer.entryPoint && answer.functions, impl.create .dll)

def openSession (impl : NvencImpl) (answer : SessionAnswer) : Bool × NvencImpl :=
  if answer.session then (true, impl.create .session) else (false, impl.clear .session)

/-- `init_encoder`; the parameters it saves are no handles. -/
def initEncoder (impl : NvencImpl) (answer : SessionAnswer) : Bool × NvencImpl :=
  (answer.preset && answer.encoder, impl)

def createOutputBufs (answer : SessionAnswer) : List (Fin 3) → NvencImpl → Bool × NvencImpl
  | [], impl => (true, impl)
  | index :: rest, impl =>
      if answer.buffers index then createOutputBufs answer rest (impl.create (.outBuf index))
      else (false, impl)

def init (impl : NvencImpl) (answer : SessionAnswer) : Bool × NvencImpl :=
  if answer.device = false then (false, impl)
  else if answer.fpsNum = 0 then (false, impl)
  else
    match impl.loadDll answer with
    | (false, impl) => (false, impl)
    | (true, impl) =>
        match impl.openSession answer with
        | (false, impl) => (false, impl)
        | (true, impl) =>
            match impl.initEncoder answer with
            | (false, impl) => (false, impl)
            | (true, impl) =>
                match createOutputBufs answer [0, 1, 2] impl with
                | (false, impl) => (false, impl)
                | (true, impl) => (true, { impl with initialized := true })

def unregister (impl : NvencImpl) : NvencImpl :=
  if (impl.handles.cells .regRes).isSome then
    { impl with
      handles := impl.handles.release Guarded.sameOwner .regRes
      regTex := none }
  else impl

def ensureRegistered (impl : NvencImpl) (tex : Nat) (answer : FrameAnswer) : Bool × NvencImpl :=
  if impl.regTex = some tex ∧ (impl.handles.cells .regRes).isSome then (true, impl)
  else if answer.registers then
    (true, { impl.unregister.create .regRes with regTex := some tex })
  else (false, impl.unregister)

/-- Lock the bitstream and unlock it; the callback runs between the two. -/
def drainOne (impl : NvencImpl) (answer : FrameAnswer) : Bool × NvencImpl :=
  if answer.locks then
    (true, { impl with handles := impl.handles.pass, outIdx := impl.outIdx + 1 })
  else (false, impl)

/-- The input is unmapped whatever becomes of the picture. -/
def encodeOne (impl : NvencImpl) (tex : Nat) (answer : FrameAnswer) : Bool × NvencImpl :=
  match impl.ensureRegistered tex answer with
  | (false, impl) => (false, impl)
  | (true, impl) =>
      if answer.maps = false then (false, impl)
      else
        let unmapped : NvencImpl :=
          { impl with handles := impl.handles.pass, frameIdx := impl.frameIdx + 1 }
        match answer.picture with
        | .needMoreInput => (true, unmapped)
        | .error => (false, unmapped)
        | .success => unmapped.drainOne answer

def destroy (impl : NvencImpl) : NvencImpl :=
  { impl with
    handles := impl.handles.releaseAll Guarded.sameOwner nvencCells
    regTex := if (impl.handles.cells .regRes).isSome then none else impl.regTex }

/-- `NvencEncoder::shutdown`; the flush before it changes no handle. -/
def shutdown (impl : NvencImpl) : NvencImpl :=
  if impl.initialized = false then impl else { impl.destroy with initialized := false }

def encodeFrame (impl : NvencImpl) (tex : Option Nat) (answer : FrameAnswer) :
    Bool × NvencImpl :=
  if impl.initialized = false then (false, impl)
  else
    match tex with
    | none => (false, impl)
    | some tex => impl.encodeOne tex answer

def blank (impl : NvencImpl) : NvencImpl where
  handles := impl.handles.copyAll none nvencCells
  regTex := none
  outIdx := 0
  frameIdx := 0
  initialized := false

/-- `~NvencEncoder`. -/
def delete (impl : NvencImpl) : NvencImpl := impl.shutdown.blank

end NvencImpl

/-- `encoder_` of the subsystem: null, or an encoder. -/
structure EncodeSubsystem where
  impl : NvencImpl
  present : Bool

namespace EncodeSubsystem

def start : EncodeSubsystem :=
  ⟨⟨Ledger.empty, none, 0, 0, false⟩, false⟩

/-- `encoder_ = std::make_unique<NvencEncoder>()` ends the encoder before. -/
def init (subsystem : EncodeSubsystem) (answer : SessionAnswer) : EncodeSubsystem :=
  match subsystem.impl.delete.init answer with
  | (true, impl) => ⟨impl, true⟩
  | (false, impl) => ⟨impl.delete, false⟩

def reinit (subsystem : EncodeSubsystem) (answer : SessionAnswer) : EncodeSubsystem :=
  subsystem.init answer

def encodeFrame (subsystem : EncodeSubsystem) (tex : Option Nat) (answer : FrameAnswer) :
    EncodeSubsystem :=
  if subsystem.present then
    { subsystem with impl := (subsystem.impl.encodeFrame tex answer).2 }
  else subsystem

/-- `NvencEncoder::shutdown` through `raw()`, in the SEH leaf. -/
def shutdownRaw (subsystem : EncodeSubsystem) : EncodeSubsystem :=
  if subsystem.present then { subsystem with impl := subsystem.impl.shutdown } else subsystem

def shutdown (subsystem : EncodeSubsystem) : EncodeSubsystem :=
  ⟨subsystem.impl.delete, false⟩

inductive Call where
  | init (answer : SessionAnswer)
  | reinit (answer : SessionAnswer)
  | encodeFrame (tex : Option Nat) (answer : FrameAnswer)
  | shutdownRaw
  | shutdown

def step : Machine EncodeSubsystem Call
  | subsystem, .init answer => some (subsystem.init answer)
  | subsystem, .reinit answer => some (subsystem.reinit answer)
  | subsystem, .encodeFrame tex answer => some (subsystem.encodeFrame tex answer)
  | subsystem, .shutdownRaw => some subsystem.shutdownRaw
  | subsystem, .shutdown => some subsystem.shutdown

end EncodeSubsystem

/-! ## An encoder is a component behind a flag -/

/-- The parts in the order of `init`. -/
def nvencLayout : Guarded.Layout NvencCell where
  first := .dll
  rest := [.session, .outBuf 0, .outBuf 1, .outBuf 2]
  cells := nvencCells
  distinct := by decide
  covered := by decide

def SessionAnswer.made (answer : SessionAnswer) : Nat :=
  if answer.device = false ∨ answer.fpsNum = 0 ∨ answer.library = false then 0
  else if answer.entryPoint = false ∨ answer.functions = false ∨ answer.session = false then 1
  else if answer.preset = false ∨ answer.encoder = false ∨ answer.buffers 0 = false then 2
  else if answer.buffers 1 = false then 3
  else if answer.buffers 2 = false then 4
  else 5

namespace NvencImpl

def guarded (impl : NvencImpl) : Guarded NvencCell := ⟨impl.initialized, impl.handles⟩

def Blank (impl : NvencImpl) : Prop :=
  impl.initialized = false ∧ ∀ cell ∈ nvencCells, impl.handles.cells cell = none

theorem blank_blank (impl : NvencImpl) : impl.blank.Blank := by
  refine ⟨rfl, ?_⟩
  intro cell inside
  change (impl.handles.copyAll none nvencCells).cells cell = none
  rw [Ledger.copyAll_cells, if_pos inside]

theorem clear_of_none {impl : NvencImpl} {cell : NvencCell}
    (null : impl.handles.cells cell = none) : impl.clear cell = impl := by
  have same : Function.update impl.handles.cells cell none = impl.handles.cells := by
    rw [← null, Function.update_eq_self]
  unfold clear Ledger.copy
  rw [same]

def attempted (impl : NvencImpl) (count : Nat) : NvencImpl :=
  { impl with
    handles := impl.handles.createAll Guarded.sameOwner (nvencLayout.parts.take count)
    initialized := decide (5 ≤ count) }

theorem attempted_of_lt {impl : NvencImpl} {count : Nat} (uninitialized : impl.initialized = false)
    (short : count < 5) :
    impl.attempted count =
      { impl with
        handles := impl.handles.createAll Guarded.sameOwner (nvencLayout.parts.take count) } := by
  unfold attempted
  rw [uninitialized, decide_eq_false (Nat.not_le_of_lt short)]

theorem init_of_blank {impl : NvencImpl} (blank : impl.Blank) (answer : SessionAnswer) :
    impl.init answer = (decide (5 ≤ answer.made), impl.attempted answer.made) := by
  obtain ⟨uninitialized, null⟩ := blank
  have noDll : impl.handles.cells .dll = none := null _ (by decide)
  have noSession : (impl.create .dll).handles.cells .session = none := null _ (by decide)
  have short : ∀ count < 5, impl.attempted count =
      { impl with
        handles := impl.handles.createAll Guarded.sameOwner (nvencLayout.parts.take count) } :=
    fun count short => attempted_of_lt uninitialized short
  unfold init SessionAnswer.made
  by_cases device : answer.device = false
  · simp only [device, if_true, true_or, short 0 (by decide)]
    rfl
  by_cases fps : answer.fpsNum = 0
  · simp only [device, fps, if_true, true_or, or_true, short 0 (by decide)]
    rfl
  unfold loadDll
  by_cases library : answer.library = false
  · simp only [device, fps, library, if_true, if_false, or_true, clear_of_none noDll,
      short 0 (by decide)]
    rfl
  rw [Bool.not_eq_false] at device library
  by_cases entry : answer.entryPoint = false ∨ answer.functions = false
  · have unloaded : (answer.entryPoint && answer.functions) = false := by
      rcases entry with no | no <;> simp [no]
    have made : answer.entryPoint = false ∨ answer.functions = false ∨ answer.session = false := by
      rcases entry with no | no
      · exact .inl no
      · exact .inr (.inl no)
    simp only [device, fps, library, unloaded, made, reduceCtorEq, reduceIte, or_self,
      short 1 (by decide)]
    rfl
  obtain ⟨entryPoint, functions⟩ : answer.entryPoint = true ∧ answer.functions = true := by
    simpa using entry
  simp only [device, fps, library, entryPoint, functions, reduceCtorEq, reduceIte, or_self,
    false_or, Bool.and_self]
  unfold openSession
  cases session : answer.session with
  | false =>
      simp only [reduceCtorEq, reduceIte, clear_of_none noSession, short 1 (by decide)]
      rfl
  | true =>
      simp only [reduceCtorEq, reduceIte]
      unfold initEncoder
      by_cases refused : answer.preset = false ∨ answer.encoder = false
      · have unready : (answer.preset && answer.encoder) = false := by
          rcases refused with no | no <;> simp [no]
        have made : answer.preset = false ∨ answer.encoder = false ∨ answer.buffers 0 = false := by
          rcases refused with no | no
          · exact .inl no
          · exact .inr (.inl no)
        simp only [unready, made, reduceIte, short 2 (by decide)]
        rfl
      obtain ⟨preset, encoder⟩ : answer.preset = true ∧ answer.encoder = true := by
        simpa using refused
      simp only [preset, encoder, reduceCtorEq, false_or, Bool.and_self, createOutputBufs]
      cases first : answer.buffers 0 with
      | false =>
          simp only [reduceCtorEq, reduceIte, short 2 (by decide)]
          rfl
      | true =>
          cases second : answer.buffers 1 with
          | false =>
              simp only [reduceCtorEq, reduceIte, short 3 (by decide)]
              rfl
          | true =>
              cases third : answer.buffers 2 with
              | false =>
                  simp only [reduceCtorEq, reduceIte, short 4 (by decide)]
                  rfl
              | true => rfl

/-! ### The operations in terms of the component -/

theorem guarded_delete (impl : NvencImpl) :
    impl.delete.guarded = impl.guarded.drop nvencLayout := by
  unfold delete shutdown
  cases initialized : impl.initialized with
  | false => simp [guarded, blank, Guarded.drop, Guarded.close, initialized, nvencLayout]
  | true => simp [guarded, blank, destroy, Guarded.drop, Guarded.close, initialized, nvencLayout]

theorem guarded_attempted {impl : NvencImpl} (blank : impl.Blank) (count : Nat) :
    (impl.attempted count).guarded = impl.guarded.attempt nvencLayout count := by
  have unready : impl.guarded.ready = false := blank.1
  unfold Guarded.attempt
  rw [unready]
  rfl

theorem guarded_shutdown (impl : NvencImpl) :
    impl.shutdown.guarded = impl.guarded.close nvencLayout := by
  unfold shutdown
  cases initialized : impl.initialized with
  | false => simp [guarded, Guarded.close, initialized]
  | true => simp [guarded, destroy, Guarded.close, initialized, nvencLayout]

theorem delete_blank (impl : NvencImpl) : impl.delete.Blank := blank_blank _

theorem unregister_handles (impl : NvencImpl) :
    impl.unregister.handles = impl.handles.release Guarded.sameOwner .regRes := by
  unfold unregister
  split
  · rfl
  · next empty =>
    rw [Option.not_isSome_iff_eq_none] at empty
    rw [Ledger.release_of_none empty]

theorem unregister_initialized (impl : NvencImpl) :
    impl.unregister.initialized = impl.initialized := by
  unfold unregister
  split
  · rfl
  · rfl

theorem ensureRegistered_guarded {impl : NvencImpl} (initialized : impl.initialized = true)
    (tex : Nat) (answer : FrameAnswer) :
    (impl.ensureRegistered tex answer).2.guarded = impl.guarded ∨
      (impl.ensureRegistered tex answer).2.guarded =
        impl.guarded.renew .regRes answer.registers := by
  have ready : impl.guarded.ready = true := initialized
  unfold ensureRegistered Guarded.renew
  rw [if_pos ready]
  split
  · exact .inl rfl
  · right
    cases answer.registers with
    | false =>
        change Guarded.mk impl.unregister.initialized impl.unregister.handles = _
        rw [unregister_handles, unregister_initialized]
        rfl
    | true =>
        change Guarded.mk impl.unregister.initialized
          (impl.unregister.handles.create Guarded.sameOwner .regRes) = _
        rw [unregister_handles, unregister_initialized]
        rfl

/-- What a frame does to a component: it renews the registration and passes mapped inputs and
locked bitstreams on. -/
def FrameAction : GuardedAction NvencCell → Prop
  | .renew cell _ => cell = .regRes
  | .pass => True
  | _ => False

def FrameLeads (before after : Guarded NvencCell) : Prop :=
  ∃ actions, (∀ action ∈ actions, FrameAction action) ∧
    Machine.exec (Guarded.step nvencLayout) before actions = some after

theorem FrameLeads.refl (state : Guarded NvencCell) : FrameLeads state state :=
  ⟨[], fun _ inside => absurd inside List.not_mem_nil, rfl⟩

theorem FrameLeads.trans {first second third : Guarded NvencCell}
    (before : FrameLeads first second) (after : FrameLeads second third) :
    FrameLeads first third := by
  obtain ⟨actions, framed, executed⟩ := before
  obtain ⟨later, laterFramed, laterExecuted⟩ := after
  refine ⟨actions ++ later, ?_, ?_⟩
  · intro action inside
    rcases List.mem_append.mp inside with early | late
    · exact framed action early
    · exact laterFramed action late
  · rw [Machine.exec_append, executed]
    exact laterExecuted

theorem FrameLeads.single {before after : Guarded NvencCell} {action : GuardedAction NvencCell}
    (framed : FrameAction action) (stepped : Guarded.step nvencLayout before action = some after) :
    FrameLeads before after := by
  refine ⟨[action], ?_, ?_⟩
  · intro other inside
    rw [List.mem_singleton.mp inside]
    exact framed
  · rw [Machine.exec_cons, stepped]
    rfl

theorem guarded_pass {impl : NvencImpl} (initialized : impl.initialized = true) :
    FrameLeads impl.guarded ⟨true, impl.handles.pass⟩ := by
  have ready : impl.guarded.ready = true := initialized
  apply @FrameLeads.single _ _ .pass trivial
  rw [Guarded.step, Guarded.pass, if_pos ready]
  exact congrArg some (by rw [guarded, initialized])

theorem drainOne_leads {impl : NvencImpl} (initialized : impl.initialized = true)
    (answer : FrameAnswer) : FrameLeads impl.guarded (impl.drainOne answer).2.guarded := by
  unfold drainOne
  cases answer.locks with
  | false => exact FrameLeads.refl _
  | true =>
      have passed := guarded_pass initialized
      rwa [← initialized] at passed

theorem ensureRegistered_leads {impl : NvencImpl} (initialized : impl.initialized = true)
    (tex : Nat) (answer : FrameAnswer) :
    FrameLeads impl.guarded (impl.ensureRegistered tex answer).2.guarded := by
  rcases ensureRegistered_guarded initialized tex answer with same | renewed
  · rw [same]
    exact FrameLeads.refl _
  · rw [renewed]
    apply @FrameLeads.single _ _ (.renew .regRes answer.registers) rfl
    rw [Guarded.step, if_pos (by decide)]

theorem ensureRegistered_initialized (impl : NvencImpl) (tex : Nat) (answer : FrameAnswer) :
    (impl.ensureRegistered tex answer).2.initialized = impl.initialized := by
  unfold ensureRegistered
  split
  · rfl
  · split
    · exact impl.unregister_initialized
    · exact impl.unregister_initialized

theorem encodeOne_leads {impl : NvencImpl} (initialized : impl.initialized = true) (tex : Nat)
    (answer : FrameAnswer) : FrameLeads impl.guarded (impl.encodeOne tex answer).2.guarded := by
  have registered := ensureRegistered_leads initialized tex answer
  have still := (impl.ensureRegistered_initialized tex answer).trans initialized
  unfold encodeOne
  generalize impl.ensureRegistered tex answer = outcome at registered still ⊢
  obtain ⟨ok, entered⟩ := outcome
  cases ok with
  | false => exact registered
  | true =>
      dsimp only at registered still ⊢
      split
      · exact registered
      · have unmapped := registered.trans (guarded_pass still)
        rw [← still] at unmapped
        cases answer.picture with
        | needMoreInput => exact unmapped
        | error => exact unmapped
        | success =>
            apply unmapped.trans
            exact @drainOne_leads
              { entered with handles := entered.handles.pass, frameIdx := entered.frameIdx + 1 }
              still answer

theorem encodeFrame_leads (impl : NvencImpl) (tex : Option Nat) (answer : FrameAnswer) :
    FrameLeads impl.guarded (impl.encodeFrame tex answer).2.guarded := by
  unfold encodeFrame
  cases initialized : impl.initialized with
  | false => exact FrameLeads.refl _
  | true =>
      cases tex with
      | none => exact FrameLeads.refl _
      | some tex => exact encodeOne_leads initialized tex answer

end NvencImpl

/-! ## Runs of the subsystem -/

namespace SessionAnswer

def Untouched (answer : SessionAnswer) : Prop :=
  answer.device = false ∨ answer.fpsNum = 0 ∨ answer.library = false

def Unfailing (answer : SessionAnswer) : Prop :=
  answer.entryPoint = true ∧ answer.functions = true ∧ answer.session = true ∧
    answer.preset = true ∧ answer.encoder = true ∧ ∀ index, answer.buffers index = true

theorem whole_iff (answer : SessionAnswer) :
    (answer.made = 0 ∨ 5 ≤ answer.made) ↔ answer.Untouched ∨ answer.Unfailing := by
  unfold made Untouched Unfailing
  by_cases untouched : answer.device = false ∨ answer.fpsNum = 0 ∨ answer.library = false
  · simp [untouched]
  rw [if_neg untouched, or_iff_right untouched]
  by_cases unopened :
      answer.entryPoint = false ∨ answer.functions = false ∨ answer.session = false
  · rw [if_pos unopened]
    refine iff_of_false (by decide) ?_
    rintro ⟨entryPoint, functions, session, -⟩
    simp [entryPoint, functions, session] at unopened
  rw [if_neg unopened]
  by_cases unready : answer.preset = false ∨ answer.encoder = false ∨ answer.buffers 0 = false
  · rw [if_pos unready]
    refine iff_of_false (by decide) ?_
    rintro ⟨-, -, -, preset, encoder, buffers⟩
    simp [preset, encoder, buffers 0] at unready
  rw [if_neg unready]
  simp only [not_or, Bool.not_eq_false] at unopened unready
  by_cases second : answer.buffers 1 = false
  · rw [if_pos second]
    refine iff_of_false (by decide) ?_
    rintro ⟨-, -, -, -, -, buffers⟩
    exact absurd (buffers 1) (by simp [second])
  rw [if_neg second]
  by_cases third : answer.buffers 2 = false
  · rw [if_pos third]
    refine iff_of_false (by decide) ?_
    rintro ⟨-, -, -, -, -, buffers⟩
    exact absurd (buffers 2) (by simp [third])
  rw [if_neg third]
  rw [Bool.not_eq_false] at second third
  refine iff_of_true (by decide) ⟨unopened.1, unopened.2.1, unopened.2.2, unready.1,
    unready.2.1, ?_⟩
  intro index
  match index with
  | 0 => exact unready.2.2
  | 1 => exact second
  | 2 => exact third

end SessionAnswer

namespace EncodeSubsystem

def guarded (subsystem : EncodeSubsystem) : Guarded NvencCell := subsystem.impl.guarded

def WholeInit : EncodeSubsystem → Call → Prop
  | _, .init answer => answer.Untouched ∨ answer.Unfailing
  | _, .reinit answer => answer.Untouched ∨ answer.Unfailing
  | _, .encodeFrame _ _ => True
  | _, .shutdownRaw => True
  | _, .shutdown => True

/-- The component goes from one state to the other, wholly exactly if `ok`. -/
def Refines (ok : Prop) (before after : Guarded NvencCell) : Prop :=
  ∃ actions, Machine.exec (Guarded.step nvencLayout) before actions = some after ∧
    (Machine.Along (Guarded.step nvencLayout) (Guarded.Whole nvencLayout) before actions ↔ ok)

theorem NvencImpl.FrameLeads.refines {before after : Guarded NvencCell}
    (leads : NvencImpl.FrameLeads before after) : Refines True before after := by
  obtain ⟨actions, framed, executed⟩ := leads
  refine ⟨actions, executed, iff_true_intro ?_⟩
  clear executed
  induction actions generalizing before with
  | nil => trivial
  | cons action rest inductionHypothesis =>
      refine ⟨?_, fun next _ => inductionHypothesis fun other later =>
        framed other (List.mem_cons_of_mem action later)⟩
      have first := framed action List.mem_cons_self
      cases action with
      | renew cell made => trivial
      | pass => trivial
      | attempt count => exact first.elim
      | close => exact first.elim
      | drop => exact first.elim

theorem init_refines (subsystem : EncodeSubsystem) (answer : SessionAnswer) :
    Refines (answer.Untouched ∨ answer.Unfailing) subsystem.guarded
      (subsystem.init answer).guarded := by
  have blank := subsystem.impl.delete_blank
  have attempted := NvencImpl.guarded_attempted blank answer.made
  rw [NvencImpl.guarded_delete] at attempted
  have whole : (subsystem.impl.guarded.drop nvencLayout).Whole nvencLayout
      (.attempt answer.made) ↔ answer.Untouched ∨ answer.Unfailing := by
    rw [← answer.whole_iff]
    exact or_iff_right Bool.false_ne_true
  unfold init
  rw [NvencImpl.init_of_blank blank]
  by_cases all : 5 ≤ answer.made
  · rw [decide_eq_true all]
    refine ⟨[.drop, .attempt answer.made], ?_, ?_⟩
    · exact congrArg some attempted.symm
    · rw [← whole]
      simp [Machine.Along, Guarded.step, Guarded.Whole, guarded]
  · rw [decide_eq_false all]
    refine ⟨[.drop, .attempt answer.made, .drop], ?_, ?_⟩
    · change some _ = some ((subsystem.impl.delete.attempted answer.made).delete.guarded)
      rw [NvencImpl.guarded_delete, attempted]
      rfl
    · rw [← whole]
      simp [Machine.Along, Guarded.step, Guarded.Whole, guarded]

theorem step_refines {subsystem next : EncodeSubsystem} {call : Call}
    (stepped : step subsystem call = some next) :
    Refines (subsystem.WholeInit call) subsystem.guarded next.guarded := by
  cases call with
  | init answer =>
      cases stepped
      exact subsystem.init_refines answer
  | reinit answer =>
      cases stepped
      exact subsystem.init_refines answer
  | encodeFrame tex answer =>
      cases stepped
      apply NvencImpl.FrameLeads.refines
      unfold encodeFrame
      split
      · exact subsystem.impl.encodeFrame_leads tex answer
      · exact NvencImpl.FrameLeads.refl _
  | shutdownRaw =>
      cases stepped
      unfold shutdownRaw
      split
      · refine ⟨[.close], ?_, ?_⟩
        · exact congrArg some subsystem.impl.guarded_shutdown.symm
        · simp [Machine.Along, Guarded.Whole, WholeInit]
      · exact ⟨[], rfl, iff_of_true trivial trivial⟩
  | shutdown =>
      cases stepped
      refine ⟨[.drop], ?_, ?_⟩
      · exact congrArg some subsystem.impl.guarded_delete.symm
      · simp [Machine.Along, Guarded.Whole, WholeInit]

def Invariant (subsystem : EncodeSubsystem) : Prop :=
  (Guarded.Good nvencLayout subsystem.guarded ∨ Guarded.Leaky nvencLayout subsystem.guarded) ∧
    Guarded.Sound nvencLayout subsystem.guarded

theorem invariant_start : start.Invariant :=
  ⟨.inl Guarded.good_start, Guarded.sound_start⟩

theorem step_advances {subsystem next : EncodeSubsystem} {call : Call}
    (invariant : subsystem.Invariant) (stepped : step subsystem call = some next) :
    next.Invariant ∧
      (Guarded.Good nvencLayout next.guarded ↔
        Guarded.Good nvencLayout subsystem.guarded ∧ subsystem.WholeInit call) := by
  obtain ⟨actions, executed, whole⟩ := step_refines stepped
  obtain ⟨advanced, good⟩ := Guarded.exec_advances invariant.1 executed
  rw [whole] at good
  exact ⟨⟨advanced, Guarded.exec_sound invariant.2 executed⟩, good⟩

/-- Every handle of the encoder is given back at most once; an initialised encoder holds its
library, its session and all output buffers; and behind the shutdown everything is given back
exactly if every initialisation of the run failed before the library was loaded or succeeded. -/
theorem encoder_handles_conserved {calls : List Call} {finish : EncodeSubsystem}
    (executed : Machine.exec step start calls = some finish) :
    (∀ id, finish.shutdown.impl.handles.releases id ≤ 1) ∧
      (finish.impl.initialized = true → ∀ part ∈ nvencLayout.parts,
        ∃ resource, finish.impl.handles.cells part = some resource ∧
          finish.impl.handles.releases resource.id = 0) ∧
      (finish.shutdown.impl.handles.Settled ↔ Machine.Along step WholeInit start calls) := by
  have atEnd : finish.Invariant := Machine.exec_invariant
    (fun _ _ _ invariant stepped => (step_advances invariant stepped).1) invariant_start executed
  have good := Machine.good_iff_along
    (fun _ _ _ invariant stepped => step_advances invariant stepped) invariant_start executed
  have startGood : Guarded.Good nvencLayout start.guarded := Guarded.good_start
  rw [and_iff_right startGood] at good
  have down : finish.shutdown.impl.handles = (finish.guarded.drop nvencLayout).ledger :=
    congrArg Guarded.ledger finish.impl.guarded_delete
  refine ⟨?_, ?_, ?_⟩
  · have sound : Guarded.Sound nvencLayout (finish.guarded.drop nvencLayout) :=
      @Guarded.step_sound _ _ _ _ _ .drop atEnd.2 rfl
    rw [down]
    exact sound.thrifty.once
  · intro initialized part isPart
    obtain ⟨resource, content⟩ :=
      Option.ne_none_iff_exists'.mp (atEnd.2.complete initialized part isPart)
    have isRoot := nvencLayout.covered part isPart
    exact ⟨resource, content,
      (atEnd.2.thrifty.held resource.id ⟨part, resource, isRoot, content, rfl⟩).2⟩
  · rw [down, Guarded.settled_drop_iff atEnd.1, good]

/-- A driver that refuses the third buffer, then a session that is reopened and used. -/
def refusedSession : List Call :=
  [.init ⟨true, 60, true, true, true, true, true, true, fun index => decide (index ≠ 2)⟩,
    .reinit ⟨true, 60, true, true, true, true, true, true, fun _ => true⟩,
    .encodeFrame (some 7) ⟨true, true, .success, true⟩]

theorem encoder_handles_conserved_refusal :
    ∃ finish, Machine.exec step start refusedSession = some finish ∧
      finish.impl.initialized = true ∧ ¬ finish.shutdown.impl.handles.Settled := by
  refine ⟨_, rfl, rfl, ?_⟩
  intro settled
  have along := (@encoder_handles_conserved refusedSession _ rfl).2.2.mp settled
  rcases along.1 with untouched | unfailing
  · revert untouched
    unfold SessionAnswer.Untouched
    decide
  · exact absurd (unfailing.2.2.2.2.2 2) (by decide)

end EncodeSubsystem

end RejiStudio.Pipeline
