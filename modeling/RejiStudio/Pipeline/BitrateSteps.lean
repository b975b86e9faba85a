import RejiStudio.Pipeline.BitrateBounds

/-!
# The steps of a burst of reductions

A reduction is a read-modify-write split over two threads: the action thread
reads the bitrate and pushes an absolute target, the frame thread stores it.  The
steps add up as long as every read comes after the store of the target before it.
-/

namespace RejiStudio.Pipeline

open RejiStudio.Lib RejiStudio.Orchestrator

def QueuedFrameCmd.isReduce (queued : QueuedFrameCmd) : Bool :=
  queued.cmd.actionType = .bitrateReduce

namespace Impl

/-- The slots of the ring that the frame thread has not applied. -/
def unapplied (s : Impl) : List QueuedFrameCmd :=
  match s.frameThread with
  | .ring _ tail => s.frameCmds.items.drop tail
  | _ => s.frameCmds.items

/-- The reductions that are accepted and not applied. -/
def outstanding (s : Impl) : List QueuedFrameCmd :=
  s.unapplied.filter QueuedFrameCmd.isReduce

/-- The step of the reduction that the ring accepts in this step, if any. -/
def acceptedStep (s : Impl) : RouterAction → List Nat
  | .pushFrameCmd =>
      match s.actionThread with
      | some load =>
          if load.action.actionType = .bitrateReduce ∧
              s.frameCmds.items.length < frameCmdCapacity then
            [load.action.param1.toUInt32.toNat]
          else []
      | none => []
  | _ => []

def acceptedSteps : Impl → List RouterAction → List Nat
  | _, [] => []
  | s, action :: rest =>
      s.acceptedStep action ++
        match step s action with
        | some next => next.acceptedSteps rest
        | none => []

structure Fits (s : Impl) (step : Int32) : Prop where
  positive : 0 < step
  nonzero : 0 < s.cfg.minBitrateKbps.toNat ∨ step.toUInt32.toNat < s.bitrateKbps.toNat
  floorSigned : s.cfg.minBitrateKbps.toNat < 2 ^ 31
  signed : s.bitrateKbps.toNat < 2 ^ 31 + step.toUInt32.toNat

/-- Only reductions change the bitrate.  Each reads it when no accepted one is
outstanding, with a step that fits, and is applied while there is an encoder. -/
def OrderlyStep (s : Impl) : RouterAction → Prop
  | .loadBitrate action =>
      action.actionType ≠ .bitrateRecover ∧
        (action.actionType = .bitrateReduce → s.outstanding = [] ∧ s.Fits action.param1)
  | .applyCommand => ∀ command, s.nextCommand = some command → command.cmdType ≠ .bitrateSet
  | .applyFrameCmd =>
      ∀ queued, s.nextFrameCmd = some queued → queued.isReduce = true → s.encoder = true
  | _ => True

instance (s : Impl) (step : Int32) : Decidable (s.Fits step) :=
  decidable_of_iff
    (0 < step ∧ (0 < s.cfg.minBitrateKbps.toNat ∨ step.toUInt32.toNat < s.bitrateKbps.toNat) ∧
      s.cfg.minBitrateKbps.toNat < 2 ^ 31 ∧
      s.bitrateKbps.toNat < 2 ^ 31 + step.toUInt32.toNat)
    ⟨fun ⟨positive, nonzero, floorSigned, signed⟩ => ⟨positive, nonzero, floorSigned, signed⟩,
      fun ⟨positive, nonzero, floorSigned, signed⟩ => ⟨positive, nonzero, floorSigned, signed⟩⟩

instance (s : Impl) : ∀ action, Decidable (s.OrderlyStep action)
  | .loadBitrate _ => inferInstanceAs (Decidable (_ ∧ _))
  | .applyCommand => inferInstanceAs (Decidable (∀ _, _ = _ → _))
  | .applyFrameCmd => inferInstanceAs (Decidable (∀ _, _ = _ → _))
  | .emit _ | .pushFrameCmd | .startDrain | .popCommand | .endDrain | .loadHead | .storeTail
  | .setEncoder _ => inferInstanceAs (Decidable True)

/-! ## The invariant -/

/-- Applying what is outstanding leaves `value`, and a read that is not pushed yet
is of that value. -/
structure Reaches (s : Impl) (value : Nat) : Prop where
  cursor : ∀ head tail, s.frameThread = .ring head tail →
    tail ≤ head ∧ head ≤ s.frameCmds.items.length
  queued : ∀ queued ∈ s.frameCmds.items, queued.cmd.actionType ≠ .bitrateRecover
  pending : ∀ load, s.actionThread = some load →
    load.action.actionType ≠ .bitrateRecover ∧
      (load.action.actionType = .bitrateReduce →
        s.outstanding = [] ∧ load.current = s.bitrateKbps ∧ s.Fits load.action.param1)
  settles : s.outstanding = [] ∧ s.bitrateKbps.toNat = value ∨
    ∃ queued, s.outstanding = [queued] ∧ 0 < queued.cmd.param1 ∧
      queued.cmd.param1.toUInt32.toNat = value
  floor : s.cfg.minBitrateKbps.toNat ≤ value

theorem Fits.of_same {s next : Impl} {step : Int32} (fits : s.Fits step)
    (sameCfg : next.cfg = s.cfg) (sameBitrate : next.bitrateKbps = s.bitrateKbps) :
    next.Fits step := by
  obtain ⟨positive, nonzero, floorSigned, signed⟩ := fits
  rw [← sameCfg, ← sameBitrate] at nonzero
  rw [← sameCfg] at floorSigned
  rw [← sameBitrate] at signed
  exact ⟨positive, nonzero, floorSigned, signed⟩

/-- Steps that leave what is outstanding, the bitrate and the action thread alone. -/
theorem Reaches.of_same {s next : Impl} {value : Nat} (reaches : s.Reaches value)
    (sameCfg : next.cfg = s.cfg) (sameBitrate : next.bitrateKbps = s.bitrateKbps)
    (sameThread : next.actionThread = s.actionThread)
    (sameOutstanding : next.outstanding = s.outstanding)
    (kept : ∀ queued ∈ next.frameCmds.items, queued ∈ s.frameCmds.items)
    (cursor : ∀ head tail, next.frameThread = .ring head tail →
      tail ≤ head ∧ head ≤ next.frameCmds.items.length) : next.Reaches value := by
  constructor
  · exact cursor
  · exact fun queued membership => reaches.queued queued (kept queued membership)
  · intro load loaded
    rw [sameThread] at loaded
    obtain ⟨notRecover, reads⟩ := reaches.pending load loaded
    refine ⟨notRecover, fun reduces => ?_⟩
    obtain ⟨settled, current, fits⟩ := reads reduces
    rw [sameOutstanding, sameBitrate]
    exact ⟨settled, current, fits.of_same sameCfg sameBitrate⟩
  · rw [sameOutstanding, sameBitrate]
    exact reaches.settles
  · rw [sameCfg]
    exact reaches.floor

def reduceBy (s : Impl) (value : Nat) (steps : List Nat) : Nat :=
  max s.cfg.minBitrateKbps.toNat (value - steps.sum)

theorem Reaches.reduceBy_nil {s : Impl} {value : Nat} (reaches : s.Reaches value) :
    s.reduceBy value [] = value := by
  unfold reduceBy
  rw [List.sum_nil, Nat.sub_zero, Nat.max_eq_right reaches.floor]

theorem Reaches.loadBitrate {s next : Impl} {value : Nat} {action : RjAction}
    (reaches : s.Reaches value) (orderly : s.OrderlyStep (.loadBitrate action))
    (stepped : step s (.loadBitrate action) = some next) : next.Reaches value := by
  obtain ⟨-, reached⟩ := Option.ite_none_right_eq_some.mp stepped
  cases reached
  refine ⟨reaches.cursor, reaches.queued, ?_, reaches.settles, reaches.floor⟩
  intro load loaded
  cases loaded
  refine ⟨orderly.1, fun reduces => ?_⟩
  obtain ⟨settled, fits⟩ := orderly.2 reduces
  exact ⟨settled, rfl, ⟨fits.positive, fits.nonzero, fits.floorSigned, fits.signed⟩⟩

theorem Fits.target {s : Impl} {load : Load} {cmd : FrameCmd}
    (fits : s.Fits load.action.param1) (current : load.current = s.bitrateKbps)
    (pushed : (applyAction s.cfg load.current load.action).1 = some cmd)
    (reduces : load.action.actionType = .bitrateReduce) :
    0 < cmd.param1 ∧ cmd.param1.toUInt32.toNat =
      max s.cfg.minBitrateKbps.toNat
        (s.bitrateKbps.toNat - load.action.param1.toUInt32.toNat) := by
  have computed : cmd.param1 =
      (max (reduceStepBitrate s.bitrateKbps load.action.param1) s.cfg.minBitrateKbps).toInt32 := by
    unfold applyAction at pushed
    rw [reduces, current] at pushed
    cases pushed
    rfl
  have target := toNat_reduceStepBitrate s.bitrateKbps fits.positive
  rw [computed, toInt32_pos_iff, UInt32.toUInt32_toInt32, toNat_max, target]
  obtain ⟨-, nonzero, floorSigned, signed⟩ := fits
  omega

theorem unapplied_append {s next : Impl} {queued : QueuedFrameCmd}
    (cursor : ∀ head tail, s.frameThread = .ring head tail →
      tail ≤ head ∧ head ≤ s.frameCmds.items.length)
    (sameThread : next.frameThread = s.frameThread)
    (appended : next.frameCmds.items = s.frameCmds.items ++ [queued]) :
    next.unapplied = s.unapplied ++ [queued] := by
  unfold unapplied
  rw [sameThread, appended]
  split
  next head tail phase =>
    obtain ⟨tailBound, headBound⟩ := cursor head tail phase
    exact List.drop_append_of_le_length (Nat.le_trans tailBound headBound)
  next => rfl

theorem Reaches.accept {s : Impl} {value : Nat} (reaches : s.Reaches value) {load : Load}
    {cmd : FrameCmd} {frameCmds : BoundedQueue QueuedFrameCmd frameCmdCapacity}
    (loaded : s.actionThread = some load)
    (pushed : (applyAction s.cfg load.current load.action).1 = some cmd)
    (appended : frameCmds.items = s.frameCmds.items ++ [⟨cmd, load⟩])
    (room : s.frameCmds.items.length < frameCmdCapacity) :
    ({ s with frameCmds := frameCmds, actionThread := none } : Impl).Reaches
      (s.reduceBy value (s.acceptedStep .pushFrameCmd)) := by
  obtain ⟨notRecover, reads⟩ := reaches.pending load loaded
  set next : Impl := { s with frameCmds := frameCmds, actionThread := none } with nextDef
  have grown : next.unapplied = s.unapplied ++ [⟨cmd, load⟩] :=
    unapplied_append reaches.cursor rfl appended
  have cursor : ∀ head tail, next.frameThread = .ring head tail →
      tail ≤ head ∧ head ≤ next.frameCmds.items.length := by
    intro head tail phase
    obtain ⟨tailBound, headBound⟩ := reaches.cursor head tail phase
    refine ⟨tailBound, Nat.le_trans headBound ?_⟩
    rw [appended, List.length_append]
    exact Nat.le_add_right _ _
  have kind := applyAction_actionType pushed
  have queued : ∀ queued ∈ next.frameCmds.items, queued.cmd.actionType ≠ .bitrateRecover := by
    intro queued membership
    rw [appended] at membership
    rcases List.mem_append.mp membership with old | new
    · exact reaches.queued queued old
    · cases List.mem_singleton.mp new
      rwa [← kind] at notRecover
  by_cases reduces : load.action.actionType = .bitrateReduce
  · obtain ⟨settled, current, fits⟩ := reads reduces
    obtain ⟨positive, target⟩ := fits.target current pushed reduces
    have bitrate : s.bitrateKbps.toNat = value := by
      rcases reaches.settles with ⟨-, same⟩ | ⟨queued, one, -⟩
      · exact same
      · rw [settled] at one
        cases one
    have accepted : s.acceptedStep .pushFrameCmd = [load.action.param1.toUInt32.toNat] := by
      simp [acceptedStep, loaded, reduces, room]
    have outstanding : next.outstanding = [⟨cmd, load⟩] := by
      unfold Impl.outstanding at settled ⊢
      rw [grown, List.filter_append, settled]
      simp [QueuedFrameCmd.isReduce, kind, reduces]
    rw [accepted, Impl.reduceBy, List.sum_singleton, ← bitrate]
    exact ⟨cursor, queued, nofun, Or.inr ⟨⟨cmd, load⟩, outstanding, positive, target⟩,
      Nat.le_max_left _ _⟩
  · have accepted : s.acceptedStep .pushFrameCmd = [] := by
      simp [acceptedStep, loaded, reduces]
    have outstanding : next.outstanding = s.outstanding := by
      unfold Impl.outstanding
      rw [grown, List.filter_append]
      simp [QueuedFrameCmd.isReduce, kind, reduces]
    rw [accepted, reaches.reduceBy_nil]
    refine ⟨cursor, queued, nofun, ?_, reaches.floor⟩
    rw [outstanding]
    exact reaches.settles

theorem Reaches.pushFrameCmd {s next : Impl} {value : Nat} (reaches : s.Reaches value)
    (stepped : step s .pushFrameCmd = some next) :
    next.Reaches (s.reduceBy value (s.acceptedStep .pushFrameCmd)) := by
  obtain ⟨load, loaded, reached⟩ := Option.map_eq_some_iff.mp stepped
  obtain ⟨notRecover, reads⟩ := reaches.pending load loaded
  -- Without a new slot nothing changes but the action thread.
  have refused : s.acceptedStep .pushFrameCmd = [] →
      ({ s with actionThread := none } : Impl).Reaches
        (s.reduceBy value (s.acceptedStep .pushFrameCmd)) := by
    intro nothing
    rw [nothing, reaches.reduceBy_nil]
    exact ⟨reaches.cursor, reaches.queued, nofun, reaches.settles, reaches.floor⟩
  unfold Impl.pushFrameCmd at reached
  cases pushed : (applyAction s.cfg load.current load.action).1 with
  | none =>
      rw [pushed] at reached
      subst reached
      apply refused
      have notReduce : load.action.actionType ≠ .bitrateReduce := by
        intro reduces
        simp [applyAction, reduces] at pushed
      simp [acceptedStep, loaded, notReduce]
  | some cmd =>
      rw [pushed] at reached
      dsimp only at reached
      by_cases room : s.frameCmds.items.length < frameCmdCapacity
      · cases accepted : s.frameCmds.push ⟨cmd, load⟩ with
        | none => exact absurd (BoundedQueue.push_eq_none_iff.mp accepted) (Nat.ne_of_lt room)
        | some frameCmds =>
            rw [accepted, Option.getD_some] at reached
            subst reached
            exact reaches.accept loaded pushed (BoundedQueue.push_eq_some_iff.mp accepted).2 room
      · have full : s.frameCmds.items.length = frameCmdCapacity :=
          Nat.le_antisymm s.frameCmds.bounded (Nat.le_of_not_lt room)
        rw [BoundedQueue.push_eq_none_iff.mpr full, Option.getD_none] at reached
        subst reached
        exact refused (by simp [acceptedStep, loaded, room])

theorem unapplied_of_nextFrameCmd {s : Impl} {head tail : Nat} {queued : QueuedFrameCmd}
    (phase : s.frameThread = .ring head tail) (isNext : s.nextFrameCmd = some queued) :
    tail < head ∧ s.unapplied = queued :: s.frameCmds.items.drop (tail + 1) := by
  unfold nextFrameCmd at isNext
  rw [phase] at isNext
  obtain ⟨room, slot⟩ := Option.ite_none_right_eq_some.mp isNext
  refine ⟨room, ?_⟩
  unfold unapplied
  rw [phase]
  exact List.drop_eq_getElem?_toList_append.trans (by rw [slot]; rfl)

theorem Reaches.applyFrameCmd {s next : Impl} {value : Nat} (reaches : s.Reaches value)
    (orderly : s.OrderlyStep .applyFrameCmd)
    (stepped : step s .applyFrameCmd = some next) : next.Reaches value := by
  cases step_cases stepped with
  | slotApplied head tail applied phase isNext =>
    obtain ⟨room, before⟩ := unapplied_of_nextFrameCmd phase isNext
    have cursor : ∀ head' tail', FrameThread.ring head (tail + 1) = .ring head' tail' →
        tail' ≤ head' ∧ head' ≤ s.frameCmds.items.length := by
      intro head' tail' phase'
      cases phase'
      exact ⟨room, (reaches.cursor head tail phase).2⟩
    have bitrate := applyFrameCmd_bitrate s applied.cmd
    by_cases reduces : applied.isReduce = true
    · -- The one outstanding reduction is stored.
      have outstandingBefore : s.outstanding =
          applied :: (s.frameCmds.items.drop (tail + 1)).filter QueuedFrameCmd.isReduce := by
        rw [outstanding, before, List.filter_cons_of_pos reduces]
      rcases reaches.settles with ⟨settled, -⟩ | ⟨queued, one, positive, target⟩
      · rw [outstandingBefore] at settled
        cases settled
      · rw [outstandingBefore] at one
        obtain ⟨rfl, settled⟩ := List.cons.inj one
        have kind : applied.cmd.actionType = .bitrateReduce := by
          simpa [QueuedFrameCmd.isReduce] using reduces
        rw [if_pos ⟨orderly applied isNext reduces, Or.inl kind, positive⟩] at bitrate
        refine ⟨cursor, reaches.queued, ?_, Or.inl ⟨settled, ?_⟩, reaches.floor⟩
        · intro load loaded
          obtain ⟨notRecover, reads⟩ := reaches.pending load loaded
          refine ⟨notRecover, fun reduces => ?_⟩
          obtain ⟨none, -⟩ := reads reduces
          rw [outstandingBefore] at none
          cases none
        · exact (congrArg UInt32.toNat bitrate).trans target
    · have notRecover : applied.cmd.actionType ≠ .bitrateRecover :=
        reaches.queued applied (mem_frameCmds_of_nextFrameCmd isNext)
      have notReduce : applied.cmd.actionType ≠ .bitrateReduce := by
        simpa [QueuedFrameCmd.isReduce] using reduces
      rw [if_neg (by simp [notReduce, notRecover])] at bitrate
      refine reaches.of_same rfl bitrate rfl ?_ (fun _ kept => kept) cursor
      rw [outstanding, outstanding, before, List.filter_cons_of_neg reduces]
      rfl

/-- Every step but a push keeps the value that the run will settle at. -/
theorem Reaches.keep {s next : Impl} {action : RouterAction} {value : Nat}
    (reaches : s.Reaches value) (orderly : s.OrderlyStep action)
    (notPush : action ≠ .pushFrameCmd) (stepped : step s action = some next) :
    next.Reaches value := by
  cases step_cases stepped with
  | pushed => exact absurd rfl notPush
  | loaded => exact reaches.loadBitrate orderly stepped
  | slotApplied => exact reaches.applyFrameCmd orderly stepped
  | silent | written | encoderSet =>
      exact reaches.of_same rfl rfl rfl rfl (fun _ kept => kept) reaches.cursor
  | started phase | popped cmdBuf command commandQueue phase | drained cmdBuf phase =>
      have same : s.unapplied = s.frameCmds.items := by rw [unapplied, phase]
      exact reaches.of_same rfl rfl rfl (congrArg (List.filter _) same.symm)
        (fun _ kept => kept) nofun
  | headLoaded phase =>
      refine reaches.of_same rfl rfl rfl (by simp [outstanding, unapplied, phase])
        (fun _ kept => kept) ?_
      intro head tail loaded
      cases loaded
      exact ⟨Nat.zero_le _, Nat.le_refl _⟩
  | tailStored count phase =>
      exact reaches.of_same rfl rfl rfl (by simp [outstanding, unapplied, phase])
        (fun _ kept => List.mem_of_mem_drop kept) nofun
  | applied command rest phase isNext =>
      have same : (s.applyCommand command).bitrateKbps = s.bitrateKbps := by
        rw [applyCommand_bitrate, if_neg fun applies => orderly command isNext applies.1]
      exact reaches.of_same rfl same rfl (by simp [outstanding, unapplied, phase])
        (fun _ kept => kept) nofun

theorem Reaches.step {s next : Impl} {action : RouterAction} {value : Nat}
    (reaches : s.Reaches value) (orderly : s.OrderlyStep action)
    (stepped : Impl.step s action = some next) :
    next.Reaches (s.reduceBy value (s.acceptedStep action)) := by
  by_cases push : action = .pushFrameCmd
  · subst push
    exact reaches.pushFrameCmd stepped
  · have nothing : s.acceptedStep action = [] := by
      unfold acceptedStep
      split
      next => exact absurd rfl push
      next => rfl
    rw [nothing, reaches.reduceBy_nil]
    exact reaches.keep orderly push stepped

/-! ## Runs -/

theorem reduceBy_append {s next : Impl} (sameCfg : next.cfg = s.cfg) (value : Nat)
    (first second : List Nat) :
    next.reduceBy (s.reduceBy value first) second = s.reduceBy value (first ++ second) := by
  unfold reduceBy
  rw [sameCfg, List.sum_append]
  omega

/-- What a run settles at, by induction on the run. -/
theorem exec_reaches {start finish : Impl} {actions : List RouterAction} {value : Nat}
    (reaches : start.Reaches value)
    (orderly : Machine.Along Impl.step OrderlyStep start actions)
    (executed : Machine.exec Impl.step start actions = some finish) :
    finish.Reaches (start.reduceBy value (start.acceptedSteps actions)) := by
  induction actions generalizing start value with
  | nil =>
      cases executed
      rw [acceptedSteps, reaches.reduceBy_nil]
      exact reaches
  | cons action rest inductionHypothesis =>
      obtain ⟨next, stepped, continued⟩ := Machine.exec_cons_eq_some executed
      have stepReaches := reaches.step orderly.1 stepped
      have runReaches := inductionHypothesis stepReaches (orderly.2 next stepped) continued
      rw [reduceBy_append (step_bitrate stepped).1] at runReaches
      simpa only [acceptedSteps, stepped] using runReaches

/-- Between two frames, with nothing on its way to the bitrate. -/
structure Quiet (s : Impl) : Prop where
  frameThread : s.frameThread = .idle
  actionThread : s.actionThread = none
  frameCmds : s.frameCmds.items = []
  floor : s.cfg.minBitrateKbps ≤ s.bitrateKbps

theorem Quiet.reaches {s : Impl} (quiet : s.Quiet) : s.Reaches s.bitrateKbps.toNat where
  cursor := by
    intro head tail phase
    rw [quiet.frameThread] at phase
    cases phase
  queued := by
    rw [quiet.frameCmds]
    exact List.forall_mem_nil _
  pending := by
    intro load reading
    rw [quiet.actionThread] at reading
    cases reading
  settles := by
    refine Or.inl ⟨?_, rfl⟩
    rw [outstanding, unapplied, quiet.frameThread]
    dsimp only
    rw [quiet.frameCmds, List.filter_nil]
  floor := UInt32.le_iff_toNat_le.mp quiet.floor

theorem init_quiet {cfgIn : Config} {platformReady encoder : Bool} {start : Impl}
    (accepted : init cfgIn platformReady encoder = some start) : start.Quiet := by
  have above := (init_within accepted).reading.above
  obtain rfl := eq_initialized_of_init accepted
  exact ⟨rfl, rfl, rfl, above⟩

/-- When every reduction reads after the store before it, no step is lost. -/
theorem bitrate_steps_add {start finish : Impl} {actions : List RouterAction}
    (quiet : start.Quiet)
    (orderly : Machine.Along Impl.step OrderlyStep start actions)
    (executed : Machine.exec Impl.step start actions = some finish)
    (drained : finish.outstanding = []) :
    finish.bitrateKbps.toNat =
      max start.cfg.minBitrateKbps.toNat
        (start.bitrateKbps.toNat - (start.acceptedSteps actions).sum) := by
  have reaches := exec_reaches quiet.reaches orderly executed
  rcases reaches.settles with ⟨-, settled⟩ | ⟨queued, one, -⟩
  · exact settled
  · rw [drained] at one
    cases one

def reduceRun (step : Int32) : List RouterAction :=
  [.loadBitrate ⟨0, .bitrateReduce, step, 0, 0⟩, .pushFrameCmd]

/-- The frame thread drains a ring with `count` commands in it. -/
def drainRun (count : Nat) : List RouterAction :=
  [.startDrain, .endDrain, .loadHead] ++ List.replicate count .applyFrameCmd ++ [.storeTail]

def spacedRun : List RouterAction :=
  reduceRun 500 ++ drainRun 1 ++ reduceRun 700 ++ drainRun 1

/-- Two reductions with a drain after each of them. -/
theorem bitrate_steps_add_spaced :
    ∃ finish, Machine.exec Impl.step (initialized ⟨60, 6000, 1000, 0⟩ true) spacedRun =
        some finish ∧
      finish.bitrateKbps.toNat = max 1000
        (6000 - ((initialized ⟨60, 6000, 1000, 0⟩ true).acceptedSteps spacedRun).sum) := by
  have accepted : init ⟨60, 6000, 1000, 0⟩ true true =
      some (initialized ⟨60, 6000, 1000, 0⟩ true) := rfl
  have orderly : Machine.Along Impl.step OrderlyStep (initialized ⟨60, 6000, 1000, 0⟩ true)
      spacedRun := by decide
  exact ⟨_, rfl, bitrate_steps_add (init_quiet accepted) orderly rfl rfl⟩

/-- Two reductions before the same drain read the same bitrate, and the first step
is lost. -/
theorem burst_loses_step :
    ∃ finish, Machine.exec Impl.step (initialized ⟨60, 6000, 1000, 0⟩ true)
        (reduceRun 500 ++ reduceRun 700 ++ drainRun 2) = some finish ∧
      finish.frameCmds.items = [] ∧ finish.bitrateKbps.toNat = 5300 ∧
      (initialized ⟨60, 6000, 1000, 0⟩ true).acceptedSteps
        (reduceRun 500 ++ reduceRun 700 ++ drainRun 2) = [500, 700] ∧
      max 1000 (6000 - [500, 700].sum) = 4800 :=
  ⟨_, rfl, rfl, rfl, rfl, rfl⟩

end Impl

end RejiStudio.Pipeline
