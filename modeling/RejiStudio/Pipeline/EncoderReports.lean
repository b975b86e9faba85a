import RejiStudio.Pipeline.NvencEncoder

/-!
# The bitrate that the pipeline remembers

`apply_frame_cmd` and `apply_command` pass a bitrate to the encoder and then store and
report it, without a look at the answer.
-/

namespace RejiStudio.Pipeline

open RejiStudio.Lib RejiStudio.Orchestrator

/-- The part of `Pipeline::Impl` that a bitrate goes through.  `reported` is the last call
of `rj_update_bitrate_state`. -/
structure EncodedBitrate where
  originalBitrateKbps : UInt32
  bitrateKbps : UInt32
  reported : UInt32 × UInt32
  encoder : Option NvencEncoder

inductive EncoderCommand where
  | frameCmd (cmd : FrameCmd)
  | command (c : RjCommand)

def EncoderCommand.operation : EncoderCommand → Option EncoderOperation
  | .frameCmd cmd => cmd.encoderOperation
  | .command c =>
      match c.cmdType with
      | .bitrateSet => if 0 < c.paramU32 then some (.setBitrate c.paramU32) else none
      | .sceneSwitch | .previewFps => none

namespace EncodedBitrate

/-- `Pipeline::init` up to the encoder, which may be missing. -/
def start (cfgIn : Config) (width height : UInt32) (encodeDevice accepts : Bool) :
    EncodedBitrate where
  originalBitrateKbps := cfgIn.bitrateKbps
  bitrateKbps := cfgIn.bitrateKbps
  reported := (cfgIn.bitrateKbps, cfgIn.bitrateKbps)
  encoder :=
    if encodeDevice then
      NvencEncoder.init
        { width := width
          height := height
          fpsNum := cfgIn.fps
          fpsDen := 1
          bitrateKbps := cfgIn.bitrateKbps
          maxBitrateKbps := cfgIn.bitrateKbps + cfgIn.bitrateKbps / 4 } accepts
    else none

/-- A call on the encoder; a bitrate is stored and reported behind it. -/
def operate (scaling : Scaling) (s : EncodedBitrate) (op : EncoderOperation) (accepts : Bool) :
    EncodedBitrate :=
  match s.encoder with
  | none => s
  | some e =>
      let called := { s with encoder := some (e.perform scaling op accepts).2 }
      match op with
      | .setBitrate kbps =>
          { called with
            bitrateKbps := kbps
            reported := (kbps, s.originalBitrateKbps) }
      | .setResolution _ | .setFpsLimit _ => called

/-- `apply_frame_cmd` and `apply_command`, with the answer that the driver has. -/
def apply (scaling : Scaling) (s : EncodedBitrate) (cmd : EncoderCommand) (accepts : Bool) :
    EncodedBitrate :=
  match cmd.operation with
  | none => s
  | some op => s.operate scaling op accepts

def step (scaling : Scaling) : Machine EncodedBitrate (EncoderCommand × Bool)
  | s, (cmd, accepts) => some (s.apply scaling cmd accepts)

/-- The bitrate is the one that the shared state of the three threads has. -/
theorem apply_frameCmd_bitrateKbps (scaling : Scaling) (s : EncodedBitrate) (impl : Impl)
    (cmd : FrameCmd) (accepts : Bool) (sameBitrate : s.bitrateKbps = impl.bitrateKbps)
    (sameEncoder : s.encoder.isSome = impl.encoder) :
    (s.apply scaling (.frameCmd cmd) accepts).bitrateKbps =
      (impl.applyFrameCmd cmd).bitrateKbps := by
  have asked : EncoderCommand.operation (.frameCmd cmd) = cmd.encoderOperation := rfl
  rw [apply, asked]
  unfold operate
  cases present : s.encoder with
  | none =>
      rw [present] at sameEncoder
      have unchanged : impl.applyFrameCmd cmd = impl := by
        rw [Impl.applyFrameCmd, ← sameEncoder]
        rfl
      rw [unchanged, ← sameBitrate]
      cases cmd.encoderOperation <;> rfl
  | some e =>
      rw [present] at sameEncoder
      rw [applyFrameCmd_bitrateKbps impl cmd sameEncoder.symm, ← sameBitrate]
      cases cmd.encoderOperation with
      | none => rfl
      | some op => cases op <;> rfl

/-! ## When the numbers agree -/

/-- What is remembered and reported is the bitrate that the encoder accepted last, and the
driver runs with it. -/
def Agrees (s : EncodedBitrate) : Prop :=
  ∀ e, s.encoder = some e →
    s.bitrateKbps = e.config.bitrateKbps ∧ s.reported.1 = e.config.bitrateKbps ∧
      e.accepted.1.averageBitRate = e.config.bitrateKbps * 1000

def BitrateTaken (s : EncodedBitrate) (call : EncoderCommand × Bool) : Prop :=
  ∀ e kbps, s.encoder = some e → call.1.operation = some (.setBitrate kbps) →
    call.2 = true ∨ kbps = e.config.bitrateKbps

def Invariant (s : EncodedBitrate) : Prop :=
  ∀ e, s.encoder = some e →
    e.initialized = true ∧ e.savedCfg.averageBitRate = s.bitrateKbps * 1000

theorem start_invariant (cfgIn : Config) (width height : UInt32) (encodeDevice accepts : Bool) :
    (start cfgIn width height encodeDevice accepts).Invariant ∧
      (start cfgIn width height encodeDevice accepts).Agrees := by
  unfold start Invariant Agrees NvencEncoder.init
  cases encodeDevice with
  | false => exact ⟨nofun, nofun⟩
  | true =>
      dsimp only
      rw [if_pos rfl]
      split
      · exact ⟨nofun, nofun⟩
      · cases accepts with
        | false => exact ⟨nofun, nofun⟩
        | true =>
            constructor
            · intro e built
              cases built
              exact ⟨rfl, rfl⟩
            · intro e built
              cases built
              exact ⟨rfl, rfl, rfl⟩

theorem perform_keeps_rates (scaling : Scaling) (e : NvencEncoder) (accepts : Bool)
    {op : EncoderOperation} (other : ∀ kbps, op ≠ .setBitrate kbps) :
    (e.perform scaling op accepts).2.initialized = e.initialized ∧
      (e.perform scaling op accepts).2.savedCfg = e.savedCfg ∧
      (e.perform scaling op accepts).2.config.bitrateKbps = e.config.bitrateKbps ∧
      ((e.perform scaling op accepts).2.accepted.1 = e.accepted.1 ∨
        (e.perform scaling op accepts).2.accepted.1 = e.savedCfg) := by
  rcases e.perform_cases scaling op accepts with
    ⟨-, outcome⟩ | ⟨-, -, outcome⟩ | ⟨-, -, outcome⟩
  · rw [outcome]
    exact ⟨rfl, rfl, rfl, .inl rfl⟩
  · rw [outcome]
    cases op with
    | setBitrate kbps => exact absurd rfl (other kbps)
    | setResolution scale => exact ⟨rfl, rfl, rfl, .inl rfl⟩
    | setFpsLimit fps => exact ⟨rfl, rfl, rfl, .inl rfl⟩
  · rw [outcome]
    cases op with
    | setBitrate kbps => exact absurd rfl (other kbps)
    | setResolution scale => exact ⟨rfl, rfl, rfl, .inr rfl⟩
    | setFpsLimit fps => exact ⟨rfl, rfl, rfl, .inr rfl⟩

/-- A ready encoder saves the bitrate in any case, and records it when the driver takes it. -/
theorem perform_setBitrate (scaling : Scaling) {e : NvencEncoder} (kbps : UInt32)
    (accepts : Bool) (ready : e.initialized = true) :
    (e.perform scaling (.setBitrate kbps) accepts).2.initialized = true ∧
      (e.perform scaling (.setBitrate kbps) accepts).2.savedCfg = .ofKbps kbps ∧
      (e.perform scaling (.setBitrate kbps) accepts).2.config.bitrateKbps =
        (if accepts then kbps else e.config.bitrateKbps) ∧
      (e.perform scaling (.setBitrate kbps) accepts).2.accepted.1 =
        if accepts then .ofKbps kbps else e.accepted.1 := by
  rcases e.perform_cases scaling (.setBitrate kbps) accepts with
    ⟨refused, -⟩ | ⟨-, rfl, outcome⟩ | ⟨-, rfl, outcome⟩
  · exact absurd ready refused
  · rw [outcome]
    exact ⟨ready, rfl, rfl, rfl⟩
  · rw [outcome]
    exact ⟨ready, rfl, rfl, rfl⟩

variable {scaling : Scaling} {s next : EncodedBitrate} {call : EncoderCommand × Bool}

theorem apply_cases (scaling : Scaling) (s : EncodedBitrate) (cmd : EncoderCommand)
    (accepts : Bool) :
    ((s.encoder = none ∨ cmd.operation = none) ∧ s.apply scaling cmd accepts = s) ∨
      ∃ e op, s.encoder = some e ∧ cmd.operation = some op ∧
        s.apply scaling cmd accepts = s.operate scaling op accepts := by
  unfold apply
  cases asked : cmd.operation with
  | none => exact .inl ⟨.inr rfl, rfl⟩
  | some op =>
      cases present : s.encoder with
      | none =>
          refine .inl ⟨.inl rfl, ?_⟩
          unfold operate
          rw [present]
      | some e => exact .inr ⟨e, op, rfl, rfl, rfl⟩

theorem operate_of_some {e : NvencEncoder} (present : s.encoder = some e)
    (op : EncoderOperation) (accepts : Bool) :
    s.operate scaling op accepts =
      { originalBitrateKbps := s.originalBitrateKbps
        bitrateKbps := match op with
          | .setBitrate kbps => kbps
          | .setResolution _ | .setFpsLimit _ => s.bitrateKbps
        reported := match op with
          | .setBitrate kbps => (kbps, s.originalBitrateKbps)
          | .setResolution _ | .setFpsLimit _ => s.reported
        encoder := some (e.perform scaling op accepts).2 } := by
  unfold operate
  rw [present]
  cases op <;> rfl

/-- Whatever parameters the driver takes for another setter, they have the same rate. -/
theorem operate_other {e : NvencEncoder} {op : EncoderOperation} {accepts : Bool}
    (invariant : s.Invariant) (agrees : s.Agrees) (present : s.encoder = some e)
    (other : ∀ kbps, op ≠ .setBitrate kbps) :
    (s.operate scaling op accepts).Invariant ∧ (s.operate scaling op accepts).Agrees := by
  obtain ⟨ready, savedRate⟩ := invariant e present
  obtain ⟨remembered, reported, running⟩ := agrees e present
  obtain ⟨stillReady, saved, recorded, accepted⟩ := perform_keeps_rates scaling e accepts other
  have called : s.operate scaling op accepts =
      { s with encoder := some (e.perform scaling op accepts).2 } := by
    rw [operate_of_some present]
    cases op with
    | setBitrate kbps => exact absurd rfl (other kbps)
    | setResolution scale => rfl
    | setFpsLimit fps => rfl
  rw [called]
  constructor
  · intro found same
    cases same
    exact ⟨stillReady.trans ready, by rw [saved, savedRate]⟩
  · intro found same
    cases same
    rw [recorded]
    refine ⟨remembered, reported, ?_⟩
    rcases accepted with held | taken
    · rw [held, running]
    · rw [taken, savedRate, remembered]

/-- A bitrate is saved, remembered and reported; the rest depends on the driver. -/
theorem operate_setBitrate {e : NvencEncoder} {kbps : UInt32} {accepts : Bool}
    (invariant : s.Invariant) (agrees : s.Agrees) (present : s.encoder = some e) :
    (s.operate scaling (.setBitrate kbps) accepts).Invariant ∧
      ((s.operate scaling (.setBitrate kbps) accepts).Agrees ↔
        accepts = true ∨ kbps = e.config.bitrateKbps) := by
  obtain ⟨stillReady, saved, recorded, accepted⟩ :=
    perform_setBitrate scaling kbps accepts (invariant e present).1
  obtain ⟨-, -, running⟩ := agrees e present
  rw [operate_of_some present]
  constructor
  · intro found same
    cases same
    exact ⟨stillReady, by rw [saved]; rfl⟩
  · simp only [Agrees, Option.some.injEq, forall_eq', recorded, accepted]
    cases accepts with
    | true => simp [RcParams.ofKbps]
    | false => simp [running]

/-- The numbers still agree exactly if a bitrate in the command is taken. -/
theorem step_agrees (invariant : s.Invariant) (agrees : s.Agrees)
    (stepped : step scaling s call = some next) :
    next.Invariant ∧ (next.Agrees ↔ s.BitrateTaken call) := by
  obtain ⟨cmd, accepts⟩ := call
  cases stepped
  rcases s.apply_cases scaling cmd accepts with ⟨idle, same⟩ | ⟨e, op, present, asked, same⟩
  · rw [same]
    refine ⟨invariant, iff_of_true agrees ?_⟩
    intro e kbps present asked
    rcases idle with absent | silent
    · cases absent.symm.trans present
    · cases silent.symm.trans asked
  · rw [same]
    by_cases bitrate : ∃ kbps, op = .setBitrate kbps
    · obtain ⟨kbps, rfl⟩ := bitrate
      have taken : s.BitrateTaken (cmd, accepts) ↔
          accepts = true ∨ kbps = e.config.bitrateKbps := by
        simp [BitrateTaken, present, asked]
      rw [taken]
      exact operate_setBitrate invariant agrees present
    · have other : ∀ kbps, op ≠ .setBitrate kbps := fun kbps same => bitrate ⟨kbps, same⟩
      obtain ⟨kept, still⟩ := operate_other invariant agrees present other
      refine ⟨kept, iff_of_true still ?_⟩
      intro found kbps _ asksBitrate
      exact absurd (Option.some.inj (asked.symm.trans asksBitrate)) (other kbps)

end EncodedBitrate

/-! ## Runs -/

open NvencEncoder in
/-- For any calls of the setters and any answers of the driver: no failed call changes
anything exactly if every call that the driver refuses asks for what is saved already, and
then the saved parameters stay those that the driver runs with.  In a run of the pipeline the
bitrate remembered and reported is the one the encoder accepted last, after every command,
exactly if every bitrate is taken or the encoder has it already. -/
theorem reconfiguration_atomic_iff (scaling : Scaling) :
    (∀ (start : NvencEncoder) (calls : List (EncoderOperation × Bool)),
      Machine.Along (step scaling) (Atomic scaling) start calls ↔
        Machine.Along (step scaling) (Harmless scaling) start calls) ∧
    (∀ (cfg : NvencConfig) (accepts : Bool) (start finish : NvencEncoder)
      (calls : List (EncoderOperation × Bool)), NvencEncoder.init cfg accepts = some start →
      Machine.Along (step scaling) (Harmless scaling) start calls →
      Machine.exec (step scaling) start calls = some finish →
      finish.accepted = (finish.savedCfg, finish.savedInit)) ∧
    ∀ (cfgIn : Config) (width height : UInt32) (encodeDevice accepts : Bool)
      (calls : List (EncoderCommand × Bool)),
      let start := EncodedBitrate.start cfgIn width height encodeDevice accepts
      Machine.Along (EncodedBitrate.step scaling)
          (fun s call => ∀ next, EncodedBitrate.step scaling s call = some next → next.Agrees)
          start calls ↔
        Machine.Along (EncodedBitrate.step scaling) EncodedBitrate.BitrateTaken start calls := by
  refine ⟨?_, ?_, ?_⟩
  · intro start calls
    have same : Atomic scaling = Harmless scaling := by
      funext e call
      exact propext (atomic_iff scaling e call)
    rw [same]
  · intro cfg accepts start finish calls built along executed
    exact exec_inStep (init_inStep built) along executed
  · intro cfgIn width height encodeDevice accepts calls start
    have total : ∀ s call, ∃ next, EncodedBitrate.step scaling s call = some next :=
      fun s call => ⟨_, rfl⟩
    obtain ⟨finish, executed⟩ := Machine.exec_total total start calls
    obtain ⟨invariant, agrees⟩ :=
      EncodedBitrate.start_invariant cfgIn width height encodeDevice accepts
    exact Machine.along_after_iff
      (fun _ _ _ invariant agrees stepped => EncodedBitrate.step_agrees invariant agrees stepped)
      invariant agrees executed

def fullHdEncoder : NvencEncoder where
  config := ⟨1920, 1080, 60, 1, 6000, 7500⟩
  savedCfg := ⟨6000000, 7500000, 6000000, 6000000⟩
  savedInit := ⟨1920, 1080, 1920, 1080, 1920, 1080, 60, 1⟩
  origWidth := 1920
  origHeight := 1080
  initialized := true
  accepted := (⟨6000000, 7500000, 6000000, 6000000⟩, ⟨1920, 1080, 1920, 1080, 1920, 1080, 60, 1⟩)

/-- A refused bitrate stays saved, the next accepted frame limit brings it to the driver; and
the pipeline remembers and reports it at once. -/
theorem refused_bitrate_kept :
    let start := EncodedBitrate.start ⟨60, 6000, 1000, 6000⟩ 1920 1080 true true
    let reduced := start.apply singleScaling (.frameCmd ⟨.bitrateReduce, 4000⟩) false
    start.encoder = some fullHdEncoder ∧
      ¬fullHdEncoder.Atomic singleScaling (.setBitrate 4000, false) ∧
      (∃ finish, Machine.exec (NvencEncoder.step singleScaling) fullHdEncoder
          [(.setBitrate 4000, false), (.setFpsLimit 30, true)] = some finish ∧
        finish.accepted.1.averageBitRate = 4000000 ∧ finish.config.bitrateKbps = 6000) ∧
      reduced.bitrateKbps = 4000 ∧ reduced.reported = (4000, 6000) ∧
      reduced.encoder.map (fun e => e.config.bitrateKbps) = some 6000 ∧ ¬reduced.Agrees := by
  intro start reduced
  refine ⟨by decide +kernel, ?_, ⟨_, rfl, rfl, rfl⟩, by decide +kernel, by decide +kernel,
    by decide +kernel, ?_⟩
  · intro atomic
    obtain ⟨-, same, -⟩ := atomic rfl
    exact absurd same (by decide +kernel)
  · intro agrees
    have present : reduced.encoder = some
        { fullHdEncoder with savedCfg := RcParams.ofKbps 4000 } := by decide +kernel
    obtain ⟨remembered, -⟩ := agrees _ present
    exact absurd remembered (by decide +kernel)

end RejiStudio.Pipeline
