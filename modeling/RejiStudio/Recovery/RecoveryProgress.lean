import RejiStudio.Recovery.TextureHistory

/-!
# Progress after a failed recovery

Whether the frame loop comes back to a running source and a working encoder once
`handle_device_lost` has failed.  A source that is down stays down, for `run_frame`
refuses to run without it.  A DXGI source that is up is rebuilt with its encoder by
the next device loss: a frame clears the null streak, and sixty null ticks bring the
trigger to its edge.
-/

namespace RejiStudio.Recovery

open RejiStudio.Lib RejiStudio.Lib.Machine

/-- On a system without WGC every encoder is on the device of the source. -/
structure Subsystems.Paired (sub : Subsystems) : Prop where
  kind : ∀ capture, sub.source.capture = some capture → capture.isWgc = false
  supported : sub.wgcSupported = false
  paired : ∀ capture encoder, sub.source.capture = some capture →
    sub.encoder = some encoder → encoder.device = capture.device

namespace Subsystems

theorem Paired.like {sub other : Subsystems} (paired : sub.Paired) (like : sub.Like other) :
    other.Paired := by
  constructor
  · rw [like.capture]
    exact paired.kind
  · rw [like.wgcSupported]
    exact paired.supported
  · rw [like.capture, like.encoder]
    exact paired.paired

theorem paired_followed {sub : Subsystems} (supported : sub.wgcSupported = false)
    (fps bitrateKbps : UInt32) (outcome : RecoveryOutcome) :
    (sub.followed fps bitrateKbps outcome).Paired := by
  refine ⟨?_, supported, ?_⟩
  · rintro capture ⟨⟩
    rw [isWgc_createCapture, supported]
  · rintro capture encoder ⟨⟩ held
    simp only [followed] at held
    split at held
    · cases held
      rfl
    · cases held

theorem Paired.handleDeviceLost {sub : Subsystems} (paired : sub.Paired)
    (fps bitrateKbps : UInt32) (outcome : RecoveryOutcome) :
    (sub.handleDeviceLost fps bitrateKbps outcome).1.Paired := by
  obtain ⟨result, -⟩ | ⟨capture, held, -, ⟨-, result⟩ | ⟨-, wgc, -⟩ | ⟨-, -, result⟩⟩ :=
    sub.handleDeviceLost_cases fps bitrateKbps outcome
  · rwa [result]
  · rw [result]
    refine ⟨?_, paired.supported, ?_⟩
    · rintro other ⟨⟩
    · rintro other encoder ⟨⟩
  · exact absurd wgc (by simp [paired.kind capture held])
  · rw [result]
    exact paired_followed paired.supported fps bitrateKbps outcome

end Subsystems

namespace Impl

/-- The source runs, and the encoder works on its device, which is not removed. -/
def Working (s : Impl) : Prop :=
  s.sub.source.state = .running ∧
    ∃ capture encoder, s.sub.source.capture = some capture ∧ s.sub.encoder = some encoder ∧
      encoder.device = capture.device ∧ capture.device ∉ s.sub.removed

def Down (s : Impl) : Prop := s.sub.source.capture = none

def Succeeds (tick : Tick) : Prop :=
  tick.recovery.sourceInit.ok = true ∧ tick.recovery.encoderInit = true

/-- Ticks of the allowed kind, with all initialisations successful, end in a working
pipeline. -/
def RecoversBy (Allowed : Tick → Prop) (s : Impl) : Prop :=
  ∃ ticks finish, (∀ tick ∈ ticks, Succeeds tick ∧ Allowed tick) ∧
    exec step s ticks = some finish ∧ finish.Working

theorem RecoversBy.mono {Allowed Weaker : Tick → Prop} {s : Impl}
    (recovers : s.RecoversBy Allowed) (weaken : ∀ tick, Allowed tick → Weaker tick) :
    s.RecoversBy Weaker := by
  obtain ⟨ticks, finish, allowed, executed, working⟩ := recovers
  refine ⟨ticks, finish, ?_, executed, working⟩
  intro tick among
  exact ⟨(allowed tick among).1, weaken tick (allowed tick among).2⟩

/-- The tick found the source's device removed, and `handle_device_lost` failed. -/
def FailedRecovery (s : Impl) (tick : Tick) : Prop :=
  (s.runFrame tick).2.recovery = some false ∧
    ∃ device, s.sub.source.device = some device ∧ device ∈ tick.lost ++ s.sub.removed

theorem down_step (s : Impl) (tick : Tick) (next : Impl) (down : s.Down)
    (stepped : step s tick = some next) : next.Down := by
  obtain ⟨-, rfl⟩ := step_eq_some stepped
  rw [s.runFrame_down tick down]
  exact down

theorem not_recoversBy_of_down {s : Impl} (down : s.Down) (Allowed : Tick → Prop) :
    ¬s.RecoversBy Allowed := by
  rintro ⟨ticks, finish, -, executed, -, capture, encoder, held, -⟩
  have still : finish.Down := exec_invariant down_step down executed
  rw [Down, held] at still
  cases still

theorem paired_runFrame {s : Impl} (paired : s.sub.Paired) (tick : Tick) :
    (s.runFrame tick).1.sub.Paired := by
  have lost : (s.withLost tick.lost).sub.Paired :=
    ⟨paired.kind, paired.supported, paired.paired⟩
  obtain ⟨-, like⟩ | ⟨before, same, -, like⟩ := s.runFrame_sub tick
  · exact lost.like like
  · exact ((lost.like same).handleDeviceLost _ _ _).like like

theorem paired_step (s : Impl) (tick : Tick) (next : Impl) (paired : s.sub.Paired)
    (stepped : step s tick = some next) : next.sub.Paired := by
  obtain ⟨-, rfl⟩ := step_eq_some stepped
  exact paired_runFrame paired tick

/-- With the encoder working, the state of a fresh tick of a DXGI source. -/
theorem freshFrame_state (s : Impl) (tick : Tick) (tex : Kept) (encode : tick.encode = true)
    (notWgc : s.sub.source.isWgc = false) :
    (s.freshFrame tick tex).1 = { s with repeatTex := (s.copyForRepeat tick tex).1 } := by
  have ok : (s.sub.encoder.isNone || tick.encode) = true := by simp [encode]
  have encoded := encodeFrame_of_ok { s with repeatTex := (s.copyForRepeat tick tex).1 } tick
    ((s.copyForRepeat tick tex).2.getD tex).texture ok
  simp only [freshFrame]
  rw [encoded]
  simp [preview, notWgc]

/-- With the encoder working, a null tick recovers at the edge alone. -/
theorem nullFrame_state (s : Impl) (tick : Tick) (encode : tick.encode = true) :
    (s.nullFrame tick false).1 = s ∧ (s.nullFrame tick true).1 = (s.recover tick).1 := by
  have ok : (s.sub.encoder.isNone || tick.encode) = true := by simp [encode]
  have repeated : (s.repeatFrame tick).1 = s ∧ (s.repeatFrame tick).2.recovery = none := by
    cases kept : s.repeatTex with
    | none => simp [repeatFrame, kept]
    | some copy => simp [repeatFrame, kept, encodeFrame_of_ok _ _ _ ok]
  simp [nullFrame, repeated]

/-- A DXGI source on the way to the edge of the trigger: `streak` null ticks since the
last frame, and its device among those removed by the next tick. -/
structure Counting (lost : List Device) (capture : Capture) (streak : Nat) (s : Impl) : Prop where
  tracked : s.Tracked
  paired : s.sub.Paired
  held : s.sub.source.capture = some capture
  removed : capture.device ∈ lost ++ s.sub.removed
  known : ∀ device ∈ lost, device < s.sub.devices
  streak : s.sub.source.streak = streak
  trigger : s.reinitTrigger = ⟨false, 0⟩

theorem isWgc_of_paired {s : Impl} (paired : s.sub.Paired) : s.sub.source.isWgc = false := by
  cases held : s.sub.source.capture with
  | none => simp [Source.isWgc, held]
  | some capture => simp [Source.isWgc, held, paired.kind capture held]

theorem captured_fresh (s : Impl) {capture : Capture} {tick : Tick}
    (held : s.sub.source.capture = some capture) {desc : UInt32 × UInt32 × UInt32}
    (arrived : tick.frame = some desc) :
    (s.captured capture tick).1 =
      { s with
        sub := { s.sub with source := { s.sub.source with streak := 0 } }
        reinitTrigger := ⟨false, 0⟩ } := by
  simp [captured, Source.nextFrame, arrived, Source.state, held, ReinitTriggerPolicy.onState,
    kNullStreakReinitThreshold]

/-- Before the threshold a null tick counts, and nothing is triggered. -/
theorem captured_null (s : Impl) {capture : Capture} {tick : Tick}
    (held : s.sub.source.capture = some capture) (absent : tick.frame = none)
    (below : s.sub.source.streak + 1 < kNullStreakReinitThreshold) :
    s.captured capture tick =
      ({ s with
        sub := { s.sub with source := { s.sub.source with streak := s.sub.source.streak + 1 } }
        reinitTrigger := ⟨false, 0⟩ }, none, false) := by
  have running : ¬kNullStreakReinitThreshold ≤ s.sub.source.streak + 1 := Nat.not_le.mpr below
  simp [captured, Source.nextFrame, absent, Source.state, held, ReinitTriggerPolicy.onState,
    running]

theorem captured_edge (s : Impl) {capture : Capture} {tick : Tick}
    (held : s.sub.source.capture = some capture) (absent : tick.frame = none)
    (reached : kNullStreakReinitThreshold ≤ s.sub.source.streak + 1)
    (armed : s.reinitTrigger = ⟨false, 0⟩) :
    (s.captured capture tick).2.2 = true := by
  simp [captured, Source.nextFrame, absent, Source.state, held, ReinitTriggerPolicy.onState,
    reached, armed]

/-- A frame that the encoder takes leaves source, encoder and devices alone. -/
theorem runFrame_of_frame {s : Impl} (paired : s.sub.Paired) {capture : Capture} (tick : Tick)
    (held : s.sub.source.capture = some capture) {width height format : UInt32}
    (arrived : tick.frame = some (width, height, format)) (encode : tick.encode = true) :
    (s.withLost tick.lost).sub.Like (s.runFrame tick).1.sub ∧
      (s.runFrame tick).1.sub.source.streak = 0 ∧
      (s.runFrame tick).1.reinitTrigger = ⟨false, 0⟩ := by
  have held' : (s.withLost tick.lost).sub.source.capture = some capture := held
  have notWgc := isWgc_of_paired paired
  rw [s.runFrame_fresh tick held arrived, captured_fresh _ held' arrived,
    freshFrame_state _ _ _ encode]
  · exact ⟨⟨rfl, rfl, rfl, rfl, rfl, rfl⟩, rfl, rfl⟩
  · exact notWgc

theorem runFrame_of_null {s : Impl} {capture : Capture} (tick : Tick)
    (held : s.sub.source.capture = some capture) (absent : tick.frame = none)
    (encode : tick.encode = true)
    (below : s.sub.source.streak + 1 < kNullStreakReinitThreshold) :
    (s.withLost tick.lost).sub.Like (s.runFrame tick).1.sub ∧
      (s.runFrame tick).1.sub.source.streak = s.sub.source.streak + 1 ∧
      (s.runFrame tick).1.reinitTrigger = ⟨false, 0⟩ := by
  have held' : (s.withLost tick.lost).sub.source.capture = some capture := held
  rw [s.runFrame_null tick held absent, captured_null _ held' absent below,
    (nullFrame_state _ tick encode).1]
  exact ⟨⟨rfl, rfl, rfl, rfl, rfl, rfl⟩, rfl, rfl⟩

theorem runFrame_of_edge {s : Impl} {capture : Capture} (tick : Tick)
    (held : s.sub.source.capture = some capture) (absent : tick.frame = none)
    (encode : tick.encode = true)
    (reached : kNullStreakReinitThreshold ≤ s.sub.source.streak + 1)
    (armed : s.reinitTrigger = ⟨false, 0⟩) :
    ∃ before : Impl, (s.withLost tick.lost).sub.Like before.sub ∧
      (s.runFrame tick).1 = (before.recover tick).1 := by
  have held' : (s.withLost tick.lost).sub.source.capture = some capture := held
  refine ⟨_, (s.withLost tick.lost).captured_like capture tick, ?_⟩
  rw [s.runFrame_null tick held absent, captured_edge _ held' absent reached armed,
    (nullFrame_state _ tick encode).2]

/-- The recovery of a removed DXGI source whose initialisations succeed. -/
theorem recover_working (s : Impl) (tick : Tick) {capture : Capture}
    (held : s.sub.source.capture = some capture) (removed : capture.device ∈ s.sub.removed)
    (dxgi : capture.isWgc = false) (sane : s.sub.Sane) (succeeds : Succeeds tick) :
    (s.recover tick).1.Working := by
  obtain ⟨-, healthy⟩ | ⟨other, held', -, ⟨failed, -⟩ | ⟨-, wgc, -⟩ | ⟨-, -, result⟩⟩ :=
    s.sub.handleDeviceLost_cases s.fps tick.bitrateKbps tick.recovery
  · exact absurd removed (healthy capture held)
  · rw [succeeds.1] at failed
    cases failed
  · rw [held] at held'
    cases held'
    rw [dxgi] at wgc
    cases wgc
  · have new := devices_le_createCapture s.sub.wgcSupported s.sub.devices
      tick.recovery.sourceInit
    have encoder : (s.sub.followed s.fps tick.bitrateKbps tick.recovery).encoder =
        some ⟨_, _⟩ := if_pos succeeds.2
    simp only [recover, result]
    refine ⟨rfl, _, _, rfl, encoder, rfl, ?_⟩
    intro lost
    exact Nat.not_lt.mpr new.1 (sane.removed _ lost)

variable {lost : List Device} {capture : Capture} {streak : Nat} {s : Impl}

theorem known_like {sub other : Subsystems} (like : sub.Like other)
    (known : ∀ device ∈ lost, device < sub.devices) :
    ∀ device ∈ lost, device < other.devices := by
  rwa [like.devices]

theorem counting_of_frame (tracked : s.Tracked) (paired : s.sub.Paired)
    (held : s.sub.source.capture = some capture)
    (removed : capture.device ∈ lost ++ s.sub.removed)
    (known : ∀ device ∈ lost, device < s.sub.devices) :
    Counting lost capture 0 (s.runFrame (healthyTick lost (some (1920, 1080, 87)) true)).1 := by
  obtain ⟨like, streak, trigger⟩ := runFrame_of_frame paired
    (healthyTick lost (some (1920, 1080, 87)) true) held rfl rfl
  exact {
    tracked := tracked.runFrame known
    paired := paired_runFrame paired _
    held := like.capture.trans held
    removed := by
      rw [like.removed]
      exact List.mem_append_right lost removed
    known := known_like like known
    streak
    trigger }

theorem Counting.null (counting : Counting lost capture streak s)
    (below : streak + 1 < kNullStreakReinitThreshold) :
    Counting lost capture (streak + 1) (s.runFrame (healthyTick lost none true)).1 := by
  rw [← counting.streak] at below ⊢
  obtain ⟨like, streak, trigger⟩ := runFrame_of_null (healthyTick lost none true) counting.held
    rfl rfl below
  exact {
    tracked := counting.tracked.runFrame counting.known
    paired := paired_runFrame counting.paired _
    held := like.capture.trans counting.held
    removed := by
      rw [like.removed]
      exact List.mem_append_right lost counting.removed
    known := known_like like counting.known
    streak
    trigger }

theorem Counting.rebuilds (counting : Counting lost capture streak s)
    (reached : streak + 1 = kNullStreakReinitThreshold) :
    (s.runFrame (healthyTick lost none true)).1.Working := by
  rw [← counting.streak] at reached
  obtain ⟨before, same, result⟩ := runFrame_of_edge (healthyTick lost none true) counting.held
    rfl rfl (Nat.le_of_eq reached.symm) counting.trigger
  have held : before.sub.source.capture = some capture := same.capture.trans counting.held
  have removed : capture.device ∈ before.sub.removed := by
    rw [same.removed]
    exact counting.removed
  have sane : before.sub.Sane := (counting.tracked.withLost counting.known).sane.like same
  rw [result]
  exact recover_working before (healthyTick lost none true) held removed
    (counting.paired.kind capture counting.held) sane ⟨rfl, rfl⟩

theorem Counting.nulls (counting : Counting lost capture streak s) (n : Nat)
    (below : streak + n < kNullStreakReinitThreshold) :
    ∃ next, exec step s (List.replicate n (healthyTick lost none true)) = some next ∧
      Counting lost capture (streak + n) next := by
  induction n generalizing s streak with
  | zero => exact ⟨s, rfl, counting⟩
  | succ n inductionHypothesis =>
      have one : streak + 1 < kNullStreakReinitThreshold := by omega
      have rest : streak + 1 + n < kNullStreakReinitThreshold := by omega
      obtain ⟨next, executed, counted⟩ := inductionHypothesis (counting.null one) rest
      have stepped : step s (healthyTick lost none true) =
          some (s.runFrame (healthyTick lost none true)).1 := if_pos counting.known
      refine ⟨next, ?_, ?_⟩
      · simp [List.replicate_succ, stepped, executed]
      · rwa [Nat.add_right_comm, Nat.add_assoc] at counted

/-- A device loss brings a DXGI source back, whatever state its encoder is in. -/
theorem recoversBy_loss (tracked : s.Tracked) (paired : s.sub.Paired)
    (held : s.sub.source.capture = some capture)
    (removed : capture.device ∈ lost ++ s.sub.removed)
    (known : ∀ device ∈ lost, device < s.sub.devices) :
    s.RecoversBy fun tick => tick.lost = lost := by
  have counting := counting_of_frame tracked paired held removed known
  obtain ⟨middle, executed, counted⟩ := counting.nulls 59 (by decide)
  have first : step s (healthyTick lost (some (1920, 1080, 87)) true) = some _ := if_pos known
  have last : step middle (healthyTick lost none true) = some _ := if_pos counted.known
  refine ⟨healthyTick lost (some (1920, 1080, 87)) true ::
    (List.replicate 59 (healthyTick lost none true) ++ [healthyTick lost none true]), _, ?_, ?_,
    counted.rebuilds (by decide)⟩
  · intro tick among
    simp only [List.mem_cons, List.mem_append, List.mem_replicate, List.not_mem_nil,
      or_false] at among
    obtain rfl | ⟨-, rfl⟩ | rfl := among <;> exact ⟨⟨rfl, rfl⟩, rfl⟩
  · simp only [exec_cons, first, Option.bind_some, exec_append, executed, last, exec_nil]

theorem recoversBy_frame (paired : s.sub.Paired)
    (held : s.sub.source.capture = some capture) (encoder : s.sub.encoder ≠ none)
    (healthy : capture.device ∉ s.sub.removed) :
    s.RecoversBy fun tick => tick.lost = [] := by
  obtain ⟨survivor, present⟩ := Option.ne_none_iff_exists'.mp encoder
  obtain ⟨like, streak, -⟩ := runFrame_of_frame paired
    (healthyTick [] (some (1920, 1080, 87)) true) held rfl rfl
  refine ⟨[healthyTick [] (some (1920, 1080, 87)) true], _, ?_, ?_, ?_, capture, survivor,
    like.capture.trans held, like.encoder.trans present,
    paired.paired capture survivor held present, ?_⟩
  · intro tick among
    rw [List.mem_singleton] at among
    subst among
    exact ⟨⟨rfl, rfl⟩, rfl⟩
  · simp [step, healthyTick]
  · have up : (s.runFrame (healthyTick [] (some (1920, 1080, 87)) true)).1.sub.source.capture ≠
        none := by
      rw [like.capture]
      exact Option.ne_none_iff_exists'.mpr ⟨capture, held⟩
    simp only [Source.state, up, streak, if_false]
    rfl
  · rw [like.removed]
    exact healthy

def Stalled (capture : Capture) (s : Impl) : Prop :=
  s.sub.source.capture = some capture ∧ s.sub.encoder = none ∧ capture.device ∉ s.sub.removed

/-- Without a device loss `handle_device_lost` does nothing, so the encoder stays away. -/
theorem stalled_step (s : Impl) (tick : Tick) (next : Impl) (stalled : Stalled capture s)
    (calm : tick.lost = []) (stepped : step s tick = some next) : Stalled capture next := by
  obtain ⟨-, rfl⟩ := step_eq_some stepped
  have lost : Stalled capture (s.withLost tick.lost) := by
    rw [calm]
    exact stalled
  have carried : ∀ {other : Subsystems}, (s.withLost tick.lost).sub.Like other →
      other.source.capture = some capture ∧ other.encoder = none ∧
        capture.device ∉ other.removed := by
    intro other like
    rw [like.capture, like.encoder, like.removed]
    exact lost
  obtain ⟨-, like⟩ | ⟨before, same, -, like⟩ := s.runFrame_sub tick
  · exact carried like
  · obtain ⟨held, -, healthy⟩ := carried same
    obtain ⟨unchanged, -⟩ | ⟨other, held', removed, -⟩ :=
      before.sub.handleDeviceLost_cases before.fps tick.bitrateKbps tick.recovery
    · apply carried
      apply same.trans
      rwa [recover, unchanged] at like
    · rw [held] at held'
      cases held'
      exact absurd removed healthy

theorem not_recoversBy_of_stalled (stalled : Stalled capture s) :
    ¬s.RecoversBy fun tick => tick.lost = [] := by
  rintro ⟨ticks, finish, allowed, executed, -, other, encoder, -, present, -⟩
  have along : Along step (fun _ tick => tick.lost = []) s ticks :=
    along_of_forall fun tick among => (allowed tick among).2
  have still : Stalled capture finish :=
    exec_invariant_along stalled_step stalled along executed
  rw [still.2.1] at present
  cases present

def Settled (s : Impl) : Prop :=
  s.Tracked ∧ (s.sub.wgcSupported = true ∨ s.sub.Paired)

theorem settled_init {wgcSupported : Bool} {fps bitrateKbps : UInt32}
    {outcome : RecoveryOutcome} {start : Impl}
    (started : Impl.init wgcSupported fps bitrateKbps outcome = some start) : start.Settled := by
  refine ⟨Tracked.init started, ?_⟩
  obtain ⟨sub, set, rfl⟩ := Option.map_eq_some_iff.mp started
  rw [Subsystems.startup_eq] at set
  obtain ⟨-, made⟩ := Option.ite_none_right_eq_some.mp set
  cases made
  cases wgcSupported with
  | true => exact Or.inl rfl
  | false => exact Or.inr (Subsystems.paired_followed rfl fps bitrateKbps outcome)

theorem runFrame_wgcSupported (s : Impl) (tick : Tick) :
    (s.runFrame tick).1.sub.wgcSupported = s.sub.wgcSupported := by
  obtain ⟨-, like⟩ | ⟨before, same, -, like⟩ := s.runFrame_sub tick
  · exact like.wgcSupported
  · rw [like.wgcSupported]
    have kept : (before.recover tick).1.sub.wgcSupported = before.sub.wgcSupported := by
      simp only [recover]
      obtain ⟨result, -⟩ | ⟨capture, -, -, ⟨-, result⟩ | ⟨-, -, result⟩ | ⟨-, -, result⟩⟩ :=
        before.sub.handleDeviceLost_cases before.fps tick.bitrateKbps tick.recovery <;>
      rw [result] <;> rfl
    rw [kept]
    exact same.wgcSupported

theorem settled_step (s : Impl) (tick : Tick) (next : Impl) (settled : s.Settled)
    (stepped : step s tick = some next) : next.Settled := by
  refine ⟨Tracked.step s tick next settled.1 stepped, ?_⟩
  obtain ⟨-, rfl⟩ := step_eq_some stepped
  obtain wgc | paired := settled.2
  · left
    rw [runFrame_wgcSupported]
    exact wgc
  · right
    exact paired_runFrame paired tick

/-- After a failed recovery the source is down, or it is a DXGI source. -/
theorem after_failedRecovery {s : Impl} (settled : s.Settled) {tick : Tick}
    (failed : FailedRecovery s tick) :
    (s.runFrame tick).1.Down ∨ (s.runFrame tick).1.sub.Paired := by
  obtain ⟨answer, device, current, removed⟩ := failed
  obtain wgc | paired := settled.2
  · left
    obtain ⟨capture, held, rfl⟩ := Option.map_eq_some_iff.mp current
    have kind : capture.isWgc = true := (settled.1.sane.kind capture held).trans wgc
    obtain ⟨untried, -⟩ | ⟨before, same, tried, like⟩ := s.runFrame_sub tick
    · rw [untried] at answer
      cases answer
    · have held' : before.sub.source.capture = some capture := same.capture.trans held
      rw [answer] at tried
      have refused : false = (before.recover tick).2 := Option.some.inj tried
      rw [Down, like.capture]
      simp only [recover] at refused ⊢
      obtain ⟨-, healthy⟩ | ⟨other, other_held, -, ⟨-, result⟩ | ⟨-, -, result⟩ | ⟨-, dxgi, -⟩⟩ :=
        before.sub.handleDeviceLost_cases before.fps tick.bitrateKbps tick.recovery
      · have lostBefore : capture.device ∈ before.sub.removed := by
          rw [same.removed]
          exact removed
        exact absurd lostBefore (healthy capture held')
      · rw [result]
        rfl
      · rw [result] at refused
        cases refused
      · rw [held'] at other_held
        cases other_held
        rw [kind] at dxgi
        cases dxgi
  · exact Or.inr (paired_runFrame paired tick)

/-- From a state reached after a failed recovery, the frame loop comes back to a running
source and a working encoder exactly when the source survived; without a further device
loss it does so exactly when the encoder survived too or the device is removed already. -/
theorem recovers_after_failure {wgcSupported : Bool} {fps bitrateKbps : UInt32}
    {outcome : RecoveryOutcome} {start before finish : Impl} {ticks later : List Tick}
    {tick : Tick} (started : Impl.init wgcSupported fps bitrateKbps outcome = some start)
    (executed : exec step start ticks = some before) (failed : FailedRecovery before tick)
    (continued : exec step before (tick :: later) = some finish) :
    (finish.RecoversBy (fun _ => True) ↔ finish.sub.source.capture ≠ none) ∧
      ((finish.RecoversBy fun tick => tick.lost = []) ↔
        ∃ capture, finish.sub.source.capture = some capture ∧
          (finish.sub.encoder ≠ none ∨ capture.device ∈ finish.sub.removed)) := by
  have settled : before.Settled := exec_invariant settled_step (settled_init started) executed
  obtain ⟨next, stepped, rest⟩ := exec_cons_eq_some continued
  have tracked : finish.Tracked :=
    exec_invariant Tracked.step (Tracked.step before tick next settled.1 stepped) rest
  have ending : finish.Down ∨ finish.sub.Paired := by
    obtain ⟨-, rfl⟩ := step_eq_some stepped
    obtain down | paired := after_failedRecovery settled failed
    · exact Or.inl (exec_invariant down_step down rest)
    · exact Or.inr (exec_invariant paired_step paired rest)
  cases held : finish.sub.source.capture with
  | none =>
      have down : finish.Down := held
      simp [not_recoversBy_of_down down]
  | some capture =>
      have paired : finish.sub.Paired := by
        apply ending.resolve_left
        rw [Down, held]
        exact Option.some_ne_none capture
      simp only [Option.some.injEq, exists_eq_left', ne_eq, reduceCtorEq, not_false_eq_true,
        iff_true]
      have known := tracked.sane.exist.capture capture held
      constructor
      · have loss : finish.RecoversBy fun tick => tick.lost = [capture.device] :=
          recoversBy_loss tracked paired held List.mem_cons_self (by simpa using known)
        exact loss.mono fun _ _ => trivial
      · constructor
        · intro recovers
          by_contra stuck
          rw [not_or, not_not] at stuck
          exact not_recoversBy_of_stalled ⟨held, stuck.1, stuck.2⟩ recovers
        · intro survived
          by_cases removed : capture.device ∈ finish.sub.removed
          · exact recoversBy_loss tracked paired held removed (by simp)
          · exact recoversBy_frame paired held (survived.resolve_right removed) removed

/-- A null tick that finds `device` lost. -/
def lossTick (device : Device) (outcome : RecoveryOutcome) : Tick :=
  { healthyTick [device] none false with recovery := outcome }

def afterFrame (wgcSupported : Bool) : Impl :=
  ((startAt1080p wgcSupported).runFrame (healthyTick [] (some (1920, 1080, 87)) true)).1

theorem exec_afterFrame (wgcSupported : Bool) :
    exec step (startAt1080p wgcSupported) [healthyTick [] (some (1920, 1080, 87)) true] =
      some (afterFrame wgcSupported) := by
  simp [step, healthyTick, afterFrame]

/-- A cross-adapter DXGI pipeline whose encoder could not be initialised again. -/
theorem recovers_after_failure_dxgi :
    ((afterFrame false).runFrame
      (lossTick 1 ⟨⟨true, 1920, 1080, false⟩, false⟩)).1.RecoversBy fun _ => True := by
  have failed : FailedRecovery (afterFrame false)
      (lossTick 1 ⟨⟨true, 1920, 1080, false⟩, false⟩) := ⟨rfl, 1, rfl, by decide⟩
  have continued : exec step (afterFrame false)
      [lossTick 1 ⟨⟨true, 1920, 1080, false⟩, false⟩] = some _ := rfl
  apply (recovers_after_failure (init_startAt1080p false) (exec_afterFrame false) failed
    continued).1.mpr
  exact Option.some_ne_none _

/-- A source that could not be initialised again is never back. -/
theorem failed_source_stays_down :
    ¬∀ (wgcSupported : Bool) (fps bitrateKbps : UInt32) (outcome : RecoveryOutcome)
      (start before finish : Impl) (ticks later : List Tick) (tick : Tick),
      Impl.init wgcSupported fps bitrateKbps outcome = some start →
      exec step start ticks = some before → FailedRecovery before tick →
      exec step before (tick :: later) = some finish → finish.RecoversBy fun _ => True := by
  intro recovers
  have failed : FailedRecovery (afterFrame true)
      (lossTick 0 ⟨⟨false, 0, 0, false⟩, true⟩) := ⟨rfl, 0, rfl, by decide⟩
  have continued : exec step (afterFrame true)
      [lossTick 0 ⟨⟨false, 0, 0, false⟩, true⟩] =
        some ((afterFrame true).runFrame (lossTick 0 ⟨⟨false, 0, 0, false⟩, true⟩)).1 := rfl
  have down : ((afterFrame true).runFrame
      (lossTick 0 ⟨⟨false, 0, 0, false⟩, true⟩)).1.Down := rfl
  exact not_recoversBy_of_down down _ (recovers true 60 6000 _ _ _ _ _ _ _
    (init_startAt1080p true) (exec_afterFrame true) failed continued)

end Impl

end RejiStudio.Recovery
