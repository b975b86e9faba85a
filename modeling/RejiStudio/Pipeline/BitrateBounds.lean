import RejiStudio.Pipeline.CommandRouter

/-!
# Bitrate bounds over runs

The rule path clamps every target it computes.  The predictive path sets one of
two constants, and neither path looks at the bitrate again when it is applied.
-/

namespace RejiStudio.Pipeline

open RejiStudio.Lib RejiStudio.Orchestrator

/-! ## What the rule path computes -/

/-- A value that `bitrate_kbps` may have: within the bounds, and positive as a
signed word unless it is the configured bitrate itself. -/
structure Config.Reading (cfg : Config) (value : UInt32) : Prop where
  above : cfg.minBitrateKbps ≤ value
  below : value ≤ cfg.originalBitrateKbps
  signed : value = cfg.originalBitrateKbps ∨ value.toNat < 2 ^ 31

theorem applyAction_actionType {cfg : Config} {current : UInt32} {action : RjAction}
    {cmd : FrameCmd} (pushed : (applyAction cfg current action).1 = some cmd) :
    cmd.actionType = action.actionType := by
  unfold applyAction at pushed
  cases kind : action.actionType <;> rw [kind] at pushed <;> dsimp only at pushed
  case bitrateRecover =>
    split at pushed <;> cases pushed
    rfl
  all_goals cases pushed
  all_goals rfl

theorem applyAction_cases {cfg : Config} {current : UInt32} {action : RjAction} {cmd : FrameCmd}
    (pushed : (applyAction cfg current action).1 = some cmd) :
    cmd.actionType = .bitrateReduce ∧ action.actionType = .bitrateReduce ∧
        cmd.param1 =
          (max (reduceStepBitrate current action.param1) cfg.minBitrateKbps).toInt32 ∨
      cmd.actionType = .bitrateRecover ∧ current < cfg.originalBitrateKbps ∧
        cmd.param1 =
          (min (recoverStepBitrate current action.param1) cfg.originalBitrateKbps).toInt32 ∨
      cmd.actionType ≠ .bitrateReduce ∧ cmd.actionType ≠ .bitrateRecover := by
  unfold applyAction at pushed
  cases kind : action.actionType <;> rw [kind] at pushed <;> dsimp only at pushed
  case bitrateReduce =>
    cases pushed
    exact Or.inl ⟨rfl, rfl, rfl⟩
  case bitrateRecover =>
    by_cases deficit : current < cfg.originalBitrateKbps
    · rw [if_pos deficit] at pushed
      cases pushed
      exact Or.inr (Or.inl ⟨rfl, deficit, rfl⟩)
    · rw [if_neg deficit] at pushed
      cases pushed
  all_goals cases pushed
  all_goals exact Or.inr (Or.inr ⟨nofun, nofun⟩)

theorem applied_target {target : UInt32} {param : Int32} (cast : param = target.toInt32)
    (positive : 0 < param) : param.toUInt32 = target ∧ target.toNat < 2 ^ 31 := by
  subst cast
  exact ⟨UInt32.toUInt32_toInt32 target, ((toInt32_pos_iff target).mp positive).2⟩

theorem Config.Reading.reduced {cfg : Config} {current : UInt32}
    (reading : cfg.Reading current) (step : Int32) :
    cfg.minBitrateKbps ≤ max (reduceStepBitrate current step) cfg.minBitrateKbps ∧
      max (reduceStepBitrate current step) cfg.minBitrateKbps ≤ cfg.originalBitrateKbps := by
  have above := UInt32.le_iff_toNat_le.mp reading.above
  have below := UInt32.le_iff_toNat_le.mp reading.below
  have reduced := reduceStepBitrate_le current step
  rw [UInt32.le_iff_toNat_le, UInt32.le_iff_toNat_le, toNat_max]
  exact ⟨Nat.le_max_right _ _, Nat.max_le.mpr ⟨by omega, by omega⟩⟩

theorem Config.Reading.recovered {cfg : Config} {current : UInt32}
    (reading : cfg.Reading current) (deficit : current < cfg.originalBitrateKbps)
    (step : Int32) :
    cfg.minBitrateKbps ≤ min (recoverStepBitrate current step) cfg.originalBitrateKbps ∧
      min (recoverStepBitrate current step) cfg.originalBitrateKbps ≤
        cfg.originalBitrateKbps := by
  have above := UInt32.le_iff_toNat_le.mp reading.above
  have below := UInt32.le_iff_toNat_le.mp reading.below
  -- A read value below the original has room for any step.
  have small : current.toNat < 2 ^ 31 := by
    apply reading.signed.resolve_left
    rintro rfl
    exact UInt32.lt_irrefl _ deficit
  have recovered := le_recoverStepBitrate small step
  rw [UInt32.le_iff_toNat_le, UInt32.le_iff_toNat_le, toNat_min]
  exact ⟨Nat.le_min.mpr ⟨by omega, by omega⟩, Nat.min_le_right _ _⟩

/-- Whatever value within the bounds the action thread read, the target it pushed
for it is within the bounds. -/
theorem Config.Reading.target {cfg : Config} {current : UInt32} (reading : cfg.Reading current)
    {action : RjAction} {cmd : FrameCmd}
    (pushed : (applyAction cfg current action).1 = some cmd)
    (kind : cmd.actionType = .bitrateReduce ∨ cmd.actionType = .bitrateRecover)
    (positive : 0 < cmd.param1) : cfg.Reading cmd.param1.toUInt32 := by
  rcases applyAction_cases pushed with ⟨-, -, reduce⟩ | ⟨-, deficit, recover⟩ | ⟨other, others⟩
  · obtain ⟨back, signed⟩ := applied_target reduce positive
    rw [back]
    exact ⟨(reading.reduced _).1, (reading.reduced _).2, Or.inr signed⟩
  · obtain ⟨back, signed⟩ := applied_target recover positive
    rw [back]
    exact ⟨(reading.recovered deficit _).1, (reading.recovered deficit _).2, Or.inr signed⟩
  · exact absurd kind (by simp [other, others])

namespace Impl

/-! ## What a step does to the bitrate -/

theorem applyCommand_bitrate (s : Impl) (c : RjCommand) :
    (s.applyCommand c).bitrateKbps =
      if c.cmdType = .bitrateSet ∧ s.encoder = true ∧ 0 < c.paramU32 then c.paramU32
      else s.bitrateKbps := by
  unfold applyCommand
  cases kind : c.cmdType
  case bitrateSet =>
    by_cases applies : s.encoder = true ∧ 0 < c.paramU32
    · simp [applies]
    · simp [applies]
  all_goals simp

theorem applyFrameCmd_bitrate (s : Impl) (cmd : FrameCmd) :
    (s.applyFrameCmd cmd).bitrateKbps =
      if s.encoder = true ∧
          (cmd.actionType = .bitrateReduce ∨ cmd.actionType = .bitrateRecover) ∧
          0 < cmd.param1 then cmd.param1.toUInt32
      else s.bitrateKbps := by
  unfold applyFrameCmd
  by_cases encoder : s.encoder = true
  · cases kind : cmd.actionType <;> by_cases positive : 0 < cmd.param1 <;>
      simp [encoder, positive]
  · simp [encoder]

def bitrateAfter (s : Impl) : RouterAction → UInt32
  | .applyCommand =>
      match s.nextCommand with
      | some command => (s.applyCommand command).bitrateKbps
      | none => s.bitrateKbps
  | .applyFrameCmd =>
      match s.nextFrameCmd with
      | some queued => (s.applyFrameCmd queued.cmd).bitrateKbps
      | none => s.bitrateKbps
  | _ => s.bitrateKbps

theorem step_bitrate {s next : Impl} {action : RouterAction}
    (stepped : step s action = some next) :
    next.cfg = s.cfg ∧ next.bitrateKbps = s.bitrateAfter action := by
  cases step_cases stepped with
  | pushed load loaded =>
      unfold pushFrameCmd
      split <;> exact ⟨rfl, rfl⟩
  | applied command rest phase isNext => exact ⟨rfl, by simp [bitrateAfter, isNext]⟩
  | slotApplied head tail queued phase isNext => exact ⟨rfl, by simp [bitrateAfter, isNext]⟩
  | silent | written | loaded | started | popped | drained | headLoaded | tailStored
  | encoderSet => exact ⟨rfl, rfl⟩

end Impl

def FrameThread.cmdBuf : FrameThread → List RjCommand
  | .draining cmdBuf | .applying cmdBuf => cmdBuf
  | .idle | .ring _ _ => []

namespace Impl

theorem mem_cmdBuf_of_nextCommand {s : Impl} {command : RjCommand}
    (next : s.nextCommand = some command) : command ∈ s.frameThread.cmdBuf := by
  unfold nextCommand at next
  split at next
  next rest phase =>
    cases next
    rw [phase]
    exact List.mem_cons_self
  next => cases next

theorem mem_frameCmds_of_nextFrameCmd {s : Impl} {queued : QueuedFrameCmd}
    (next : s.nextFrameCmd = some queued) : queued ∈ s.frameCmds.items := by
  unfold nextFrameCmd at next
  split at next
  · obtain ⟨-, slot⟩ := Option.ite_none_right_eq_some.mp next
    exact List.mem_of_getElem? slot
  · cases next

/-! ## The invariant -/

/-- What the queues hold: loads of earlier values of the bitrate, frame commands
computed from such loads, and commands of the monitor. -/
structure Fed (s : Impl) : Prop where
  pending : ∀ load, s.actionThread = some load → s.cfg.Reading load.current
  queued : ∀ queued ∈ s.frameCmds.items,
    s.cfg.Reading queued.load.current ∧
      (applyAction s.cfg queued.load.current queued.load.action).1 = some queued.cmd
  commands : ∀ command ∈ s.commandQueue.items,
    ∃ trigger : HealingTrigger, trigger.event.toCommand = some command
  buffered : ∀ command ∈ s.frameThread.cmdBuf,
    ∃ trigger : HealingTrigger, trigger.event.toCommand = some command

theorem Fed.nextCommand {s : Impl} (fed : s.Fed) {command : RjCommand}
    (next : s.nextCommand = some command) :
    ∃ trigger : HealingTrigger, trigger.event.toCommand = some command :=
  fed.buffered command (mem_cmdBuf_of_nextCommand next)

theorem Fed.nextFrameCmd {s : Impl} (fed : s.Fed) {queued : QueuedFrameCmd}
    (next : s.nextFrameCmd = some queued) :
    s.cfg.Reading queued.load.current ∧
      (applyAction s.cfg queued.load.current queued.load.action).1 = some queued.cmd :=
  fed.queued queued (mem_frameCmds_of_nextFrameCmd next)

theorem step_fed {s next : Impl} {action : RouterAction} (fed : s.Fed)
    (reading : s.cfg.Reading s.bitrateKbps) (stepped : step s action = some next) :
    next.Fed := by
  obtain ⟨pending, queued, commands, buffered⟩ := fed
  cases step_cases stepped with
  | silent | encoderSet => exact ⟨pending, queued, commands, buffered⟩
  | written trigger command written =>
      refine ⟨pending, queued, ?_, buffered⟩
      intro member membership
      rcases BoundedQueue.mem_push_getD membership with old | rfl
      · exact commands member old
      · exact ⟨trigger, written⟩
  | loaded action free =>
      refine ⟨?_, queued, commands, buffered⟩
      intro load loaded
      cases loaded
      exact reading
  | pushed load loaded =>
      unfold pushFrameCmd
      split
      next => exact ⟨nofun, queued, commands, buffered⟩
      next cmd pushed =>
        refine ⟨nofun, ?_, commands, buffered⟩
        intro member membership
        rcases BoundedQueue.mem_push_getD membership with old | rfl
        · exact queued member old
        · exact ⟨pending load loaded, pushed⟩
  | started | headLoaded | slotApplied => exact ⟨pending, queued, commands, nofun⟩
  | popped cmdBuf command commandQueue phase room taken =>
      rw [phase] at buffered
      rw [taken] at commands
      refine ⟨pending, queued, fun member old => commands member (List.mem_cons_of_mem _ old), ?_⟩
      intro member membership
      rcases List.mem_append.mp membership with old | new
      · exact buffered member old
      · cases List.mem_singleton.mp new
        exact commands command List.mem_cons_self
  | drained cmdBuf phase done =>
      rw [phase] at buffered
      exact ⟨pending, queued, commands, buffered⟩
  | applied command rest phase isNext =>
      rw [phase] at buffered
      exact ⟨pending, queued, commands,
        fun member old => buffered member (List.mem_cons_of_mem _ old)⟩
  | tailStored count phase =>
      exact ⟨pending, fun member kept => queued member (List.mem_of_mem_drop kept), commands,
        nofun⟩

/-! ## Sound steps -/

def Reduction (s : Impl) : RouterAction → Prop
  | .applyCommand => ∃ command, s.nextCommand = some command ∧ command.cmdType = .bitrateSet
  | .applyFrameCmd =>
      ∃ queued, s.nextFrameCmd = some queued ∧ queued.cmd.actionType = .bitrateReduce
  | _ => False

def Bounded (s : Impl) : Prop :=
  s.cfg.minBitrateKbps ≤ s.bitrateKbps ∧ s.bitrateKbps ≤ s.cfg.originalBitrateKbps

/-- The step leaves the bitrate within its bounds, and a reduction does not raise
it. -/
def SoundStep (s : Impl) (action : RouterAction) : Prop :=
  ∀ next, step s action = some next →
    next.Bounded ∧ (s.Reduction action → next.bitrateKbps ≤ s.bitrateKbps)

/-- A predictive target lies between the floor and the bitrate at hand; a
reduction of the rule path was computed from a value that its step still brings
down to the bitrate at hand, or to a word that the signed parameter cannot
carry. -/
def TimelyStep (s : Impl) : RouterAction → Prop
  | .applyCommand =>
      ∀ command, s.nextCommand = some command → command.cmdType = .bitrateSet →
        s.encoder = true →
          s.cfg.minBitrateKbps ≤ command.paramU32 ∧ command.paramU32 ≤ s.bitrateKbps
  | .applyFrameCmd =>
      ∀ queued, s.nextFrameCmd = some queued → queued.cmd.actionType = .bitrateReduce →
        s.encoder = true →
          reduceStepBitrate queued.load.current queued.load.action.param1 ≤ s.bitrateKbps ∨
            2 ^ 31 ≤ (reduceStepBitrate queued.load.current queued.load.action.param1).toNat
  | _ => True

/-- The bitrate is within its bounds and the queues were fed by such bitrates. -/
structure Within (s : Impl) : Prop where
  reading : s.cfg.Reading s.bitrateKbps
  fed : s.Fed

theorem soundStep_iff {s next : Impl} {action : RouterAction}
    (stepped : step s action = some next) :
    s.SoundStep action ↔
      (s.cfg.minBitrateKbps ≤ s.bitrateAfter action ∧
        s.bitrateAfter action ≤ s.cfg.originalBitrateKbps) ∧
      (s.Reduction action → s.bitrateAfter action ≤ s.bitrateKbps) := by
  obtain ⟨sameCfg, after⟩ := step_bitrate stepped
  rw [← sameCfg, ← after]
  constructor
  · intro sound
    exact sound next stepped
  · intro outcome other reached
    rw [stepped] at reached
    cases reached
    exact outcome

theorem step_nextCommand {s next : Impl} (stepped : step s .applyCommand = some next) :
    ∃ command, s.nextCommand = some command := by
  cases step_cases stepped with
  | applied command rest phase isNext => exact ⟨command, isNext⟩

theorem step_nextFrameCmd {s next : Impl} (stepped : step s .applyFrameCmd = some next) :
    ∃ queued, s.nextFrameCmd = some queued := by
  cases step_cases stepped with
  | slotApplied head tail queued phase isNext => exact ⟨queued, isNext⟩

theorem Fed.bitrateSet_bounds {s : Impl} (fed : s.Fed) {command : RjCommand}
    (isNext : s.nextCommand = some command) (bitrateSet : command.cmdType = .bitrateSet) :
    0 < command.paramU32 ∧ command.paramU32.toNat < 2 ^ 31 := by
  obtain ⟨trigger, written⟩ := fed.nextCommand isNext
  rcases HealingTrigger.bitrateSet_target written bitrateSet with target | target <;>
    rw [target] <;> decide

theorem Within.applyCommand_iff {s next : Impl} (within : s.Within)
    (stepped : step s .applyCommand = some next) :
    s.TimelyStep .applyCommand ↔ s.SoundStep .applyCommand := by
  obtain ⟨command, isNext⟩ := step_nextCommand stepped
  have below := within.reading.below
  simp only [soundStep_iff stepped, TimelyStep, Reduction, bitrateAfter, isNext,
    Option.some.injEq, forall_eq', exists_eq_left', applyCommand_bitrate]
  by_cases bitrateSet : command.cmdType = .bitrateSet
  · have positive := (within.fed.bitrateSet_bounds isNext bitrateSet).1
    by_cases encoder : s.encoder = true
    · simp only [bitrateSet, encoder, positive, and_self, if_true, forall_const]
      constructor
      · rintro ⟨above, atMost⟩
        exact ⟨⟨above, UInt32.le_trans atMost below⟩, atMost⟩
      · rintro ⟨⟨above, -⟩, atMost⟩
        exact ⟨above, atMost⟩
    · simp [encoder, within.reading.above, below]
  · simp [bitrateSet, within.reading.above, below]

theorem Within.applyFrameCmd_iff {s next : Impl} (within : s.Within)
    (stepped : step s .applyFrameCmd = some next) :
    s.TimelyStep .applyFrameCmd ↔ s.SoundStep .applyFrameCmd := by
  obtain ⟨queued, isNext⟩ := step_nextFrameCmd stepped
  obtain ⟨loaded, pushed⟩ := within.fed.nextFrameCmd isNext
  have above := within.reading.above
  have below := within.reading.below
  simp only [soundStep_iff stepped, TimelyStep, Reduction, bitrateAfter, isNext,
    Option.some.injEq, forall_eq', exists_eq_left', applyFrameCmd_bitrate]
  by_cases encoder : s.encoder = true
  · by_cases positive : 0 < queued.cmd.param1
    · rcases applyAction_cases pushed with
        ⟨kind, -, reduce⟩ | ⟨kind, deficit, recover⟩ | ⟨notReduce, notRecover⟩
      · have target := loaded.target pushed (Or.inl kind) positive
        obtain ⟨back, signed⟩ := applied_target reduce positive
        rw [back] at target
        have ranged := UInt32.le_iff_toNat_le.mp above
        simp only [kind, encoder, positive, true_or, and_self, if_true, forall_const, back,
          target.above, target.below, true_and]
        rw [UInt32.le_iff_toNat_le, UInt32.le_iff_toNat_le, toNat_max]
        rw [toNat_max] at signed
        omega
      · have target := loaded.target pushed (Or.inr kind) positive
        simp [kind, encoder, positive, target.above, target.below]
      · simp [notReduce, notRecover, above, below]
    · -- A parameter that is not positive is ignored.
      simp only [positive, and_false, if_false, above, below, and_self,
        UInt32.le_refl, implies_true, iff_true]
      intro kind _
      rcases applyAction_cases pushed with
        ⟨-, -, reduce⟩ | ⟨other, -, -⟩ | ⟨other, -⟩
      · rw [reduce, toInt32_pos_iff, toNat_max] at positive
        have ranged := UInt32.le_iff_toNat_le.mp above
        rw [UInt32.le_iff_toNat_le]
        omega
      · rw [kind] at other
        cases other
      · exact absurd kind other
  · simp [encoder, above, below]

theorem Within.step_iff {s next : Impl} {action : RouterAction} (within : s.Within)
    (stepped : step s action = some next) : s.TimelyStep action ↔ s.SoundStep action := by
  cases action with
  | applyCommand => exact within.applyCommand_iff stepped
  | applyFrameCmd => exact within.applyFrameCmd_iff stepped
  | _ =>
      simp [soundStep_iff stepped, TimelyStep, Reduction, bitrateAfter, within.reading.above,
        within.reading.below]

/-! ## Runs -/

theorem Within.applyFrameCmd_reading {s next : Impl} (within : s.Within)
    (stepped : step s .applyFrameCmd = some next) :
    s.cfg.Reading (s.bitrateAfter .applyFrameCmd) := by
  obtain ⟨queued, isNext⟩ := step_nextFrameCmd stepped
  obtain ⟨loaded, pushed⟩ := within.fed.nextFrameCmd isNext
  simp only [bitrateAfter, isNext, applyFrameCmd_bitrate]
  split
  next applies => exact loaded.target pushed applies.2.1 applies.2.2
  next => exact within.reading

theorem Within.applyCommand_cases {s next : Impl} (within : s.Within)
    (stepped : step s .applyCommand = some next) :
    s.bitrateAfter .applyCommand = s.bitrateKbps ∨
      s.bitrateAfter .applyCommand = 4000 ∨
      s.bitrateAfter .applyCommand = reducedBitrateKbps := by
  obtain ⟨command, isNext⟩ := step_nextCommand stepped
  obtain ⟨trigger, written⟩ := within.fed.nextCommand isNext
  simp only [bitrateAfter, isNext, applyCommand_bitrate]
  split
  next applies => exact Or.inr (HealingTrigger.bitrateSet_target written applies.1)
  next => exact Or.inl rfl

/-- A step that leaves the bitrate within the bounds keeps the invariant. -/
theorem Within.step {s next : Impl} {action : RouterAction} (within : s.Within)
    (stepped : step s action = some next)
    (bounded : s.cfg.minBitrateKbps ≤ s.bitrateAfter action ∧
      s.bitrateAfter action ≤ s.cfg.originalBitrateKbps) : next.Within := by
  obtain ⟨sameCfg, after⟩ := step_bitrate stepped
  refine ⟨?_, step_fed within.fed within.reading stepped⟩
  rw [sameCfg, after]
  refine ⟨bounded.1, bounded.2, ?_⟩
  cases action with
  | applyCommand =>
      rcases within.applyCommand_cases stepped with same | constant | constant
      · rw [same]
        exact within.reading.signed
      · exact Or.inr (by rw [constant]; decide)
      · exact Or.inr (by rw [constant]; decide)
  | applyFrameCmd => exact (within.applyFrameCmd_reading stepped).signed
  | _ => exact within.reading.signed

theorem Within.timely {s next : Impl} {action : RouterAction} (within : s.Within)
    (timely : s.TimelyStep action) (stepped : Impl.step s action = some next) : next.Within :=
  within.step stepped ((soundStep_iff stepped).mp ((within.step_iff stepped).mp timely)).1

/-- When both predictive targets lie within the bounds, so does every bitrate. -/
theorem Within.room {s next : Impl} {action : RouterAction} (within : s.Within)
    (floorRoom : s.cfg.minBitrateKbps ≤ reducedBitrateKbps)
    (ceilingRoom : 4000 ≤ s.cfg.originalBitrateKbps)
    (stepped : Impl.step s action = some next) : next.Within := by
  apply within.step stepped
  cases action with
  | applyCommand =>
      rcases within.applyCommand_cases stepped with same | constant | constant
      · rw [same]
        exact ⟨within.reading.above, within.reading.below⟩
      · rw [constant]
        exact ⟨UInt32.le_trans floorRoom (by decide), ceilingRoom⟩
      · rw [constant]
        exact ⟨floorRoom, UInt32.le_trans (by decide) ceilingRoom⟩
  | applyFrameCmd =>
      have reading := within.applyFrameCmd_reading stepped
      exact ⟨reading.above, reading.below⟩
  | _ => exact ⟨within.reading.above, within.reading.below⟩

theorem init_eq_some {cfgIn : Config} {platformReady encoder : Bool} {start : Impl}
    (accepted : init cfgIn platformReady encoder = some start) :
    start.bitrateKbps = cfgIn.bitrateKbps ∧
      start.cfg.originalBitrateKbps = cfgIn.bitrateKbps ∧
      start.cfg.minBitrateKbps =
        reduceFloorForTarget cfgIn.minBitrateKbps cfgIn.bitrateKbps ∧
      start.Fed := by
  obtain rfl := eq_initialized_of_init accepted
  exact ⟨rfl, rfl, rfl, nofun, nofun, nofun, nofun⟩

theorem init_within {cfgIn : Config} {platformReady encoder : Bool} {start : Impl}
    (accepted : init cfgIn platformReady encoder = some start) : start.Within := by
  obtain ⟨bitrate, original, floor, fed⟩ := init_eq_some accepted
  refine ⟨⟨?_, ?_, Or.inl (bitrate.trans original.symm)⟩, fed⟩
  · rw [floor, bitrate, UInt32.le_iff_toNat_le, reduceFloorForTarget, toNat_min]
    exact Nat.min_le_right _ _
  · rw [bitrate, original]
    exact UInt32.le_refl _

def predictiveRun (trigger : HealingTrigger) : List RouterAction :=
  [.setEncoder true, .emit trigger, .startDrain, .popCommand, .endDrain, .applyCommand]

theorem predictiveRun_sets {cfgIn : Config} {platformReady encoder : Bool} {start : Impl}
    (accepted : init cfgIn platformReady encoder = some start)
    {trigger : HealingTrigger} {target : UInt32} (reduces : trigger.event = .reduceBitrate target) :
    ∃ finish, Machine.exec Impl.step start (predictiveRun trigger) = some finish ∧
      finish.cfg = start.cfg ∧ finish.bitrateKbps = target := by
  obtain rfl := eq_initialized_of_init accepted
  cases trigger <;> cases reduces <;> exact ⟨_, rfl, rfl, rfl⟩

/-- The configurations whose bitrate stays within its bounds in every run are
those with both predictive targets within the bounds. -/
theorem bounded_forever_iff {cfgIn : Config} {platformReady encoder : Bool} {start : Impl}
    (accepted : init cfgIn platformReady encoder = some start) :
    (∀ actions finish, Machine.exec Impl.step start actions = some finish → finish.Bounded) ↔
      reduceFloorForTarget cfgIn.minBitrateKbps cfgIn.bitrateKbps ≤ reducedBitrateKbps ∧
        4000 ≤ cfgIn.bitrateKbps := by
  obtain ⟨-, original, floor, -⟩ := init_eq_some accepted
  rw [← floor, ← original]
  constructor
  · intro bounded
    constructor
    · have reduces : HealingTrigger.frameDropTrend.event = .reduceBitrate reducedBitrateKbps := rfl
      obtain ⟨finish, executed, sameCfg, target⟩ := predictiveRun_sets accepted reduces
      rw [← sameCfg, ← target]
      exact (bounded _ finish executed).1
    · have reduces : HealingTrigger.gpuUsage.event = .reduceBitrate 4000 := rfl
      obtain ⟨finish, executed, sameCfg, target⟩ := predictiveRun_sets accepted reduces
      rw [← sameCfg, ← target]
      exact (bounded _ finish executed).2
  · rintro ⟨floorRoom, ceilingRoom⟩ actions finish executed
    have preserved : ∀ (s : Impl) action next, s.Within ∧ s.cfg = start.cfg →
        Impl.step s action = some next → next.Within ∧ next.cfg = start.cfg := by
      rintro s action next ⟨within, sameCfg⟩ stepped
      rw [← sameCfg] at floorRoom ceilingRoom
      exact ⟨within.room floorRoom ceilingRoom stepped,
        (step_bitrate stepped).1.trans sameCfg⟩
    have reached := Machine.exec_invariant preserved ⟨init_within accepted, rfl⟩ executed
    exact ⟨reached.1.reading.above, reached.1.reading.below⟩

/-- In a run, every step leaves the bitrate within its bounds and no reduction
raises it, if and only if every step is timely.  The configuration alone decides
the bounds over all runs. -/
theorem bitrate_bounds {cfgIn : Config} {platformReady encoder : Bool} {start : Impl}
    (accepted : init cfgIn platformReady encoder = some start) :
    (∀ actions finish, Machine.exec Impl.step start actions = some finish →
      (start.Bounded ∧ Machine.Along Impl.step SoundStep start actions ↔
        Machine.Along Impl.step TimelyStep start actions)) ∧
    ((∀ actions finish, Machine.exec Impl.step start actions = some finish → finish.Bounded) ↔
      reduceFloorForTarget cfgIn.minBitrateKbps cfgIn.bitrateKbps ≤ reducedBitrateKbps ∧
        4000 ≤ cfgIn.bitrateKbps) := by
  have within := init_within accepted
  constructor
  · intro actions finish executed
    have agree := Machine.along_congr (fun _ _ _ => Within.timely) (fun _ _ _ => Within.step_iff)
      within executed
    rw [agree]
    exact and_iff_right ⟨within.reading.above, within.reading.below⟩
  · exact bounded_forever_iff accepted

/-- One predictive reduction of a stream of 6000 kbps. -/
theorem bitrate_bounds_predictive :
    ∃ start finish, init ⟨60, 6000, 1000, 0⟩ true true = some start ∧
      Machine.exec Impl.step start (predictiveRun .gpuUsage) = some finish ∧
      finish.bitrateKbps = 4000 ∧
      (start.Bounded ∧ Machine.Along Impl.step SoundStep start (predictiveRun .gpuUsage) ↔
        Machine.Along Impl.step TimelyStep start (predictiveRun .gpuUsage)) := by
  refine ⟨_, _, rfl, rfl, rfl, ?_⟩
  exact (bitrate_bounds (rfl : init ⟨60, 6000, 1000, 0⟩ true true = some _)).1 _ _ rfl

/-- A reduction to 4000 kbps raises a stream that is configured for 2500 kbps. -/
theorem predictive_reduction_raises :
    ∃ start finish, init ⟨60, 2500, 1000, 0⟩ true true = some start ∧
      Machine.exec Impl.step start (predictiveRun .gpuUsage) = some finish ∧
      start.bitrateKbps = 2500 ∧ finish.cfg.originalBitrateKbps = 2500 ∧
      finish.bitrateKbps = 4000 ∧ ¬ finish.Bounded := by
  refine ⟨_, _, rfl, rfl, rfl, rfl, rfl, ?_⟩
  rintro ⟨-, below⟩
  exact absurd below (by decide)

end Impl

end RejiStudio.Pipeline
