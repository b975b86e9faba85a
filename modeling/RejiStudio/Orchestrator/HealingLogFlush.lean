import RejiStudio.Orchestrator.HealingLogWriter

/-!
# The last flush of the healing log

While `shutdown_writer` runs, the stop flag is set and signalled under the mutex that the
writer holds from its check of the flag to its sleep.  The batch after the signal is one
queue long, so it covers what was accepted before.
-/

namespace RejiStudio.Orchestrator

open RejiStudio.Lib

def WriterPhase.isLast : WriterPhase → Bool
  | .draining stopping | .inserting stopping | .ending stopping => stopping
  | _ => false

def LogAction.byWriter : LogAction → Bool
  | .openDb _ | .lockStop | .checkStop | .wake | .reacquireStop | .readStop | .pop | .endDrain
  | .insertBatch _ | .endTurn => true
  | _ => false

namespace HealingLog

/-- The database opens, every insert succeeds, and `shutdown_writer` is called once, when
`start_writer` has returned. -/
def Orderly (log : HealingLog) : LogAction → Prop
  | .openDb succeeds | .insertBatch succeeds => succeeds = true
  | .callShutdown => log.control = true
  | _ => True

instance : ∀ log action, Decidable (Orderly log action)
  | _, .openDb _ | _, .insertBatch _ | _, .callShutdown => inferInstanceAs (Decidable (_ = _))
  | _, .startWriter | _, .spawn _ | _, .storeControl | _, .logHealing _ | _, .countDropped
  | _, .lockStop | _, .checkStop | _, .wake | _, .reacquireStop | _, .readStop | _, .pop
  | _, .endDrain | _, .endTurn | _, .shutdownLock | _, .shutdownSet | _, .shutdownNotify
  | _, .shutdownJoin => .isTrue trivial

/-! ## The stop signal -/

structure Signalled (log : HealingLog) : Prop where
  held : log.stopLock = some .writer ↔ log.writer = .checking ∨ log.writer = .reading
  setting : log.stopLock = some .shutdown ↔ log.shutdown = .setting
  called : log.shutdown ≠ .idle → log.control = false ∧ log.starter = .returned
  raised : log.stop = true ↔
    log.shutdown = .notifying ∨ log.shutdown = .joining ∨ log.shutdown = .returned
  controlled : log.control = true → log.starter = .returned
  last : log.writer.isLast = true → log.stop = true
  ended : log.writer = .finished →
    log.stop = true ∨ log.control = false ∧ log.starter = .returned
  spawned : log.writer = .absent → log.starter = .idle ∨ log.starter = .spawning
  heard : log.stop = true → log.writer = .waiting → log.shutdown = .notifying
  joined : log.shutdown = .returned → log.writer = .finished

theorem signalled_initial : initial.Signalled where
  held := by simp [initial]
  setting := by simp [initial]
  called := fun called => absurd rfl called
  raised := by simp [initial]
  controlled := nofun
  last := nofun
  ended := nofun
  spawned := fun _ => .inl rfl
  heard := nofun
  joined := nofun

/-- A step of the writer leaves the two other threads where they were. -/
theorem Signalled.turn {log next : HealingLog} (signalled : log.Signalled)
    (running : log.writer ≠ .finished)
    (same : next.shutdown = log.shutdown ∧ next.control = log.control ∧
      next.starter = log.starter ∧ next.stop = log.stop)
    (held : next.stopLock = some .writer ↔ next.writer = .checking ∨ next.writer = .reading)
    (setting : next.stopLock = some .shutdown ↔ log.stopLock = some .shutdown)
    (last : next.writer.isLast = true ∨ next.writer = .finished → log.stop = true)
    (spawned : next.writer ≠ .absent) (heard : log.stop = true → next.writer ≠ .waiting) :
    next.Signalled := by
  obtain ⟨shutdown, control, starter, stop⟩ := same
  exact
    { held := held
      setting := by rw [setting, shutdown, signalled.setting]
      called := by rw [shutdown, control, starter]; exact signalled.called
      raised := by rw [shutdown, stop]; exact signalled.raised
      controlled := by rw [control, starter]; exact signalled.controlled
      last := fun seen => stop.trans (last (.inl seen))
      ended := fun finished => .inl (stop.trans (last (.inr finished)))
      spawned := fun absent => absurd absent spawned
      heard := fun raised waiting => absurd waiting (heard (stop.symm.trans raised))
      joined := fun returned => absurd (signalled.joined (shutdown.symm.trans returned)) running }

theorem Signalled.uncalled {log : HealingLog} (signalled : log.Signalled)
    (early : log.starter ≠ .returned) :
    log.shutdown = .idle ∧ log.control = false ∧ log.stop = false := by
  have idle : log.shutdown = .idle := by
    by_contra begun
    exact early (signalled.called begun).2
  have free : log.control ≠ true := fun found => early (signalled.controlled found)
  have lowered : log.stop ≠ true := by simp [signalled.raised, idle]
  exact ⟨idle, Bool.eq_false_iff.mpr free, Bool.eq_false_iff.mpr lowered⟩

theorem Signalled.step_writer {log next : HealingLog} {action : LogAction}
    (signalled : log.Signalled) (written : action.byWriter = true) (orderly : log.Orderly action)
    (stepped : HealingLog.step log action = some next) : next.Signalled := by
  have held := signalled.held
  have last := signalled.last
  cases action <;> try cases written
  case pop =>
    obtain ⟨stopping, _, _, _, draining, _, _, _, rfl⟩ := pop_cases stepped
    rw [draining] at held last
    refine signalled.turn (by simp [draining]) ⟨rfl, rfl, rfl, rfl⟩ ?_ ?_ ?_ ?_ ?_ <;>
      simp [draining, held]
    exact last
  case endDrain =>
    obtain ⟨stopping, draining, _, rfl⟩ := endDrain_cases stepped
    rw [draining] at held last
    by_cases nothing : log.batch = [] <;>
      refine signalled.turn (by simp [draining]) ⟨rfl, rfl, rfl, rfl⟩ ?_ ?_ ?_ ?_ ?_ <;>
      simp [nothing, held] <;> exact last
  case insertBatch succeeds =>
    obtain ⟨stopping, inserting, rfl⟩ := insertBatch_cases stepped
    rw [inserting] at held last
    split <;> refine signalled.turn (by simp [inserting]) ⟨rfl, rfl, rfl, rfl⟩ ?_ ?_ ?_ ?_ ?_ <;>
      simp [held] <;> exact last
  case endTurn =>
    obtain ⟨stopping, ending, rfl⟩ := endTurn_cases stepped
    rw [ending] at held last
    cases stopping <;>
      refine signalled.turn (by simp [ending]) ⟨rfl, rfl, rfl, rfl⟩ ?_ ?_ ?_ ?_ ?_ <;>
      simp [held, WriterPhase.isLast]
    exact last rfl
  case openDb succeeds =>
    obtain rfl : succeeds = true := orderly
    simp only [HealingLog.step] at stepped
    split at stepped <;> cases stepped
    next phase =>
      refine signalled.turn (by simp [phase]) ⟨rfl, rfl, rfl, rfl⟩ ?_ ?_ ?_ ?_ ?_ <;>
        simp [held, phase, WriterPhase.isLast]
  case wake =>
    simp only [HealingLog.step] at stepped
    split at stepped <;> cases stepped
    next phase =>
      refine signalled.turn (by simp [phase]) ⟨rfl, rfl, rfl, rfl⟩ ?_ ?_ ?_ ?_ ?_ <;>
        simp [held, phase, WriterPhase.isLast]
  case lockStop | reacquireStop =>
    simp only [HealingLog.step] at stepped
    split at stepped <;> cases stepped
    next phase =>
      refine signalled.turn (by simp [phase]) ⟨rfl, rfl, rfl, rfl⟩ ?_ ?_ ?_ ?_ ?_ <;>
        simp [phase, WriterPhase.isLast]
  case checkStop | readStop =>
    simp only [HealingLog.step] at stepped
    split at stepped <;> cases stepped
    next phase =>
      have lock : log.stopLock = some .writer := held.mpr (by simp [phase])
      cases flag : log.stop <;>
        refine signalled.turn (by simp [phase]) ⟨rfl, rfl, rfl, flag.symm⟩ ?_ ?_ ?_ ?_ ?_ <;>
        simp [flag, lock, WriterPhase.isLast]

theorem Signalled.step {log next : HealingLog} {action : LogAction} (signalled : log.Signalled)
    (staged : log.Staged) (orderly : log.Orderly action)
    (stepped : HealingLog.step log action = some next) : next.Signalled := by
  by_cases written : action.byWriter = true
  · exact signalled.step_writer written orderly stepped
  have ⟨held, setting, called, raised, controlled, last, ended, spawned, heard, joined⟩ := signalled
  cases action
  case openDb | lockStop | checkStop | wake | reacquireStop | readStop | pop | endDrain |
      insertBatch | endTurn => exact absurd rfl written
  case logHealing record =>
    cases stepped
    rcases logHealing_cases log record with ⟨_, same⟩ | ⟨_, _, _, _, same⟩ | ⟨_, _, _, same⟩ <;>
      rw [same] <;>
      exact ⟨held, setting, called, raised, controlled, last, ended, spawned, heard, joined⟩
  case callShutdown =>
    have found : log.control = true := orderly
    cases stepped
    rw [HealingLog.callShutdown, if_pos found]
    have idle : log.shutdown = .idle := by
      by_contra begun
      cases found.symm.trans (called begun).1
    have lowered : log.stop ≠ true := by simp [raised, idle]
    have started := controlled found
    have unset : log.stopLock ≠ some .shutdown := by simp [setting, idle]
    exact
      { held := held
        setting := by simp [unset]
        called := fun _ => ⟨rfl, started⟩
        raised := by simp [lowered]
        controlled := by simp
        last := last
        ended := fun _ => .inr ⟨rfl, started⟩
        spawned := spawned
        heard := fun flag => absurd flag lowered
        joined := by simp }
  all_goals simp only [HealingLog.step] at stepped
  case startWriter =>
    split at stepped <;> cases stepped
    next => exact signalled
    next absent =>
      have early := staged.created absent
      have unborn := staged.starting (.inl early)
      obtain ⟨idle, free, _⟩ := signalled.uncalled (by simp [early])
      exact ⟨held, setting, fun begun => absurd idle begun, raised, by simp [free], last,
        by simp [unborn], fun _ => .inr rfl, heard, joined⟩
  case spawn succeeds =>
    split at stepped
    next early =>
      have unborn := staged.starting (.inr early)
      obtain ⟨idle, free, lowered⟩ := signalled.uncalled (by simp [early])
      rw [unborn] at held
      split at stepped <;> cases stepped
      · exact ⟨by simp [held], setting, fun begun => absurd idle begun, raised, by simp [free],
          by simp [WriterPhase.isLast], by simp, by simp, by simp, by simp [idle]⟩
      · exact ⟨by simp [held], setting, fun begun => absurd idle begun, raised, fun _ => rfl,
          by simp [WriterPhase.isLast], fun _ => .inr ⟨free, rfl⟩, by simp, by simp, fun _ => rfl⟩
    next => cases stepped
  case storeControl =>
    split at stepped <;> cases stepped
    next early =>
      obtain ⟨idle, free, lowered⟩ := signalled.uncalled (by simp [early])
      have running : log.writer ≠ .finished := by
        intro finished
        simpa [lowered, early] using ended finished
      have born : log.writer ≠ .absent := by
        intro unborn
        simpa [early] using spawned unborn
      exact ⟨held, setting, fun begun => absurd idle begun, raised, fun _ => rfl, last,
        fun finished => absurd finished running, fun unborn => absurd unborn born, heard, joined⟩
  case countDropped =>
    split at stepped <;> cases stepped
    exact ⟨held, setting, called, raised, controlled, last, ended, spawned, heard, joined⟩
  case shutdownLock =>
    split at stepped <;> cases stepped
    next phase =>
      simp only [phase, reduceCtorEq, or_self, iff_false] at held raised called
      exact ⟨by simpa using held, by simp, fun _ => called (by simp), by simp [raised], controlled,
        last, ended, spawned, fun flag => absurd flag raised, by simp⟩
  case shutdownSet =>
    split at stepped <;> cases stepped
    next phase =>
      have lock := setting.mpr phase
      simp only [phase, lock] at held called
      exact ⟨by simpa using held, by simp, fun _ => called (by simp), by simp, controlled,
        fun _ => rfl, fun _ => .inl rfl, spawned, fun _ _ => rfl, by simp⟩
  case shutdownNotify =>
    split at stepped <;> cases stepped
    next phase =>
      have flag : log.stop = true := raised.mpr (.inl phase)
      simp only [phase] at setting called
      by_cases waiting : log.writer = .waiting
      · simp only [waiting] at held ⊢
        exact ⟨by simpa using held, by simpa using setting, fun _ => called (by simp),
          by simp [flag], controlled, by simp [WriterPhase.isLast], by simp, by simp, by simp, by simp⟩
      · simp only [waiting, if_false]
        exact ⟨held, by simpa using setting, fun _ => called (by simp), by simp [flag], controlled,
          last, ended, spawned, fun _ asleep => absurd asleep waiting, by simp⟩
  case shutdownJoin =>
    split at stepped <;> cases stepped
    next phase =>
      have flag : log.stop = true := raised.mpr (.inr (.inl phase.1))
      simp only [phase.1] at setting called
      exact ⟨held, by simpa using setting, fun _ => called (by simp), by simp [flag], controlled,
        last, ended, spawned, by simp [phase.2], fun _ => phase.2⟩

/-! ## What the last batch covers -/

/-- How many records the turn that has seen the stop flag can still insert. -/
def lastReach (log : HealingLog) : Option Nat :=
  match log.writer with
  | .draining true => some queueCap
  | .inserting true => some log.batch.length
  | .ending true | .finished => some 0
  | _ => none

/-- The accepted records are inserted in order, and the last turn reaches those of before
the shutdown. -/
structure Covering (log : HealingLog) : Prop where
  order : log.accepted = log.inserted ++ log.batch ++ log.queued
  before : log.acceptedBeforeShutdown <+: log.accepted
  room : log.batch.length ≤ queueCap
  uncalled : log.shutdown = .idle → log.acceptedBeforeShutdown = []
  covered : ∀ reach, log.lastReach = some reach →
    log.acceptedBeforeShutdown.length ≤ log.inserted.length + reach

theorem covered_of_unreached {log : HealingLog} (unreached : log.lastReach = none) :
    ∀ reach, log.lastReach = some reach →
      log.acceptedBeforeShutdown.length ≤ log.inserted.length + reach := by
  intro reach reached
  cases unreached.symm.trans reached

theorem covering_initial : initial.Covering where
  order := rfl
  before := List.prefix_rfl
  room := Nat.zero_le _
  uncalled := fun _ => rfl
  covered := nofun

theorem queued_length (log : HealingLog) : log.queued.length ≤ queueCap := by
  unfold queued
  split
  next queue _ => exact queue.bounded
  next => exact Nat.zero_le _

theorem Covering.before_length {log : HealingLog} (covering : log.Covering) :
    log.acceptedBeforeShutdown.length ≤
      log.inserted.length + log.batch.length + log.queued.length := by
  have shorter := covering.before.length_le
  rw [covering.order, List.length_append, List.length_append] at shorter
  exact shorter

/-- A batch of a whole queue reaches everything that is in the queue. -/
theorem Covering.before_le {log : HealingLog} (covering : log.Covering)
    (emptied : log.batch = []) :
    log.acceptedBeforeShutdown.length ≤ log.inserted.length + queueCap := by
  have shorter := covering.before_length
  have bounded := log.queued_length
  rw [emptied, List.length_nil] at shorter
  omega

theorem lastReach_raised {log : HealingLog} {reach : Nat} (signalled : log.Signalled)
    (last : log.lastReach = some reach) : log.control = false := by
  have raised : log.stop = true ∨ log.control = false := by
    unfold lastReach at last
    split at last
    case h_4 finished => exact (signalled.ended finished).imp_right And.left
    case h_5 => cases last
    all_goals
      rename_i phase
      apply Or.inl (signalled.last _)
      rw [phase]
      rfl
  rcases raised with raised | taken
  · apply (signalled.called _).1
    intro idle
    rcases signalled.raised.mp raised with phase | phase | phase <;> cases idle.symm.trans phase
  · exact taken

theorem Covering.logHealing {log : HealingLog} (covering : log.Covering)
    (record : HealingLogRecord) : (log.logHealing record).Covering := by
  have ⟨order, before, room, uncalled, covered⟩ := covering
  rcases logHealing_cases log record with ⟨_, same⟩ | ⟨queue, next, created, items, same⟩ |
    ⟨_, _, _, same⟩ <;> rw [same]
  · exact ⟨order, before, room, uncalled, covered⟩
  · refine ⟨?_, before.trans (List.prefix_append _ _), room, uncalled, covered⟩
    rw [order, queued_eq created]
    simp only [queued, items, List.append_assoc]
  · exact ⟨order, before, room, uncalled, covered⟩

theorem Covering.step {log next : HealingLog} {action : LogAction} (covering : log.Covering)
    (staged : log.Staged) (signalled : log.Signalled) (orderly : log.Orderly action)
    (stepped : HealingLog.step log action = some next) : next.Covering := by
  have ⟨order, before, room, uncalled, covered⟩ := covering
  cases action
  case logHealing record =>
    cases stepped
    exact covering.logHealing record
  case pop =>
    obtain ⟨stopping, queue, record, rest, draining, created, short, items, rfl⟩ :=
      pop_cases stepped
    refine ⟨?_, before, ?_, uncalled, ?_⟩
    · rw [order, queued_eq created, items]
      simp only [queued, List.append_assoc, List.singleton_append]
    · rw [List.length_append]
      exact short
    · cases stopping with
      | false => exact covered_of_unreached (by simp [lastReach, draining])
      | true =>
          simp only [lastReach, draining] at covered ⊢
          exact covered
  case endDrain =>
    obtain ⟨stopping, draining, drained, rfl⟩ := endDrain_cases stepped
    refine ⟨order, before, room, uncalled, ?_⟩
    have whole := covering.before_length
    simp only [lastReach, draining] at covered
    -- an empty queue leaves only the batch, a full batch is all that the turn can reach
    have reached : stopping = true →
        log.acceptedBeforeShutdown.length ≤ log.inserted.length + log.batch.length := by
      rintro rfl
      have within := covered queueCap rfl
      rcases drained with dry | full
      · rw [dry] at whole
        exact whole
      · rw [full]
        exact within
    cases stopping with
    | false => by_cases nothing : log.batch = [] <;> simp [lastReach, nothing]
    | true =>
        have sum := reached rfl
        by_cases nothing : log.batch = [] <;> simpa [lastReach, nothing] using sum
  case insertBatch succeeds =>
    obtain ⟨stopping, inserting, rfl⟩ := insertBatch_cases stepped
    obtain rfl : succeeds = true := orderly
    simp only [if_true]
    refine ⟨?_, before, Nat.zero_le _, uncalled, ?_⟩
    · rw [List.append_nil]
      exact order
    · simp only [lastReach, inserting] at covered
      cases stopping with
      | false => exact covered_of_unreached rfl
      | true => simpa [lastReach] using covered
  case endTurn =>
    obtain ⟨stopping, ending, rfl⟩ := endTurn_cases stepped
    refine ⟨order, before, room, uncalled, ?_⟩
    simp only [lastReach, ending] at covered
    cases stopping with
    | false => exact covered_of_unreached rfl
    | true => exact covered
  case callShutdown =>
    have found : log.control = true := orderly
    cases stepped
    rw [HealingLog.callShutdown, if_pos found]
    refine ⟨order, List.prefix_rfl, room, by simp, ?_⟩
    intro reach last
    cases found.symm.trans (lastReach_raised signalled last)
  all_goals simp only [HealingLog.step] at stepped
  case startWriter =>
    split at stepped <;> cases stepped
    next => exact covering
    next absent =>
      rw [queued_absent absent] at order
      exact ⟨order, before, room, uncalled, covered⟩
  case spawn succeeds =>
    split at stepped
    next spawning =>
      have idle : log.shutdown = .idle := by
        by_contra called
        cases spawning.symm.trans (signalled.called called).2
      split at stepped <;> cases stepped <;> refine ⟨order, before, room, uncalled, ?_⟩
      · exact covered_of_unreached rfl
      · simp [uncalled idle]
    next => cases stepped
  case checkStop | readStop =>
    split at stepped <;> cases stepped
    next phase =>
      have emptied : log.batch = [] := staged.emptied (by rw [phase]; rfl)
      have within := covering.before_le emptied
      refine ⟨order, before, room, uncalled, ?_⟩
      cases log.stop <;> simp [lastReach, within]
  case shutdownNotify =>
    split at stepped <;> cases stepped
    refine ⟨order, before, room, by simp, ?_⟩
    by_cases waiting : log.writer = .waiting
    · simp [lastReach, waiting]
    · simpa [lastReach, waiting] using covered
  case openDb succeeds =>
    obtain rfl : succeeds = true := orderly
    split at stepped <;> cases stepped
    exact ⟨order, before, room, uncalled, covered_of_unreached rfl⟩
  case lockStop | wake | reacquireStop =>
    split at stepped <;> cases stepped
    exact ⟨order, before, room, uncalled, covered_of_unreached rfl⟩
  case storeControl | countDropped =>
    split at stepped <;> cases stepped
    exact ⟨order, before, room, uncalled, covered⟩
  case shutdownLock | shutdownSet | shutdownJoin =>
    split at stepped <;> cases stepped
    exact ⟨order, before, room, by simp, covered⟩

/-! ## The end of the writer -/

/-- A bound on the steps that the writer still takes once the flag is set. -/
def remaining (log : HealingLog) : Nat :=
  match log.writer with
  | .absent | .waiting | .finished => 0
  | .ending true => 1
  | .inserting true => 2
  | .draining true => 3 + (queueCap - log.batch.length)
  | .checking | .reading => 4 + queueCap
  | .locking | .reacquiring => 5 + queueCap
  | .opening | .ending false => 6 + queueCap
  | .inserting false => 7 + queueCap
  | .draining false => 8 + queueCap + (queueCap - log.batch.length)

theorem remaining_le (log : HealingLog) : log.remaining ≤ 2 * queueCap + 8 := by
  unfold remaining
  split <;> omega

structure Notified (log : HealingLog) : Prop where
  called : log.shutdown = .joining ∨ log.shutdown = .returned
  taken : log.control = false
  started : log.starter = .returned
  raised : log.stop = true
  awake : log.writer ≠ .waiting

theorem Signalled.notified {log : HealingLog} (signalled : log.Signalled)
    (joining : log.shutdown = .joining) : log.Notified := by
  have raised := signalled.raised.mpr (.inr (.inl joining))
  have ⟨taken, started⟩ := signalled.called (by simp [joining])
  refine ⟨.inl joining, taken, started, raised, ?_⟩
  intro waiting
  cases joining.symm.trans (signalled.heard raised waiting)

/-- Another thread's step leaves the writer where it is, and a step of the writer brings it
closer to its end. -/
theorem Notified.step {log next : HealingLog} {action : LogAction} (notified : log.Notified)
    (staged : log.Staged) (stepped : HealingLog.step log action = some next) :
    next.Notified ∧
      next.remaining + (if action.byWriter then 1 else 0) ≤ log.remaining := by
  have ⟨called, taken, started, raised, awake⟩ := notified
  have begun : log.shutdown ≠ .idle ∧ log.shutdown ≠ .locking ∧ log.shutdown ≠ .setting ∧
      log.shutdown ≠ .notifying := by
    rcases called with phase | phase <;> simp [phase]
  cases action
  case logHealing record =>
    cases stepped
    rcases logHealing_cases log record with ⟨_, same⟩ | ⟨_, _, _, _, same⟩ | ⟨_, _, _, same⟩ <;>
      rw [same] <;> exact ⟨⟨called, taken, started, raised, awake⟩, Nat.le_refl _⟩
  case pop =>
    obtain ⟨stopping, _, _, _, draining, _, short, _, rfl⟩ := pop_cases stepped
    refine ⟨⟨called, taken, started, raised, awake⟩, ?_⟩
    cases stopping <;>
      simp only [remaining, draining, LogAction.byWriter, List.length_append,
        List.length_singleton, if_true] <;> omega
  case endDrain =>
    obtain ⟨stopping, draining, _, rfl⟩ := endDrain_cases stepped
    by_cases nothing : log.batch = [] <;>
      refine ⟨⟨called, taken, started, raised, by simp [nothing]⟩, ?_⟩ <;> cases stopping <;>
      simp only [remaining, draining, nothing, LogAction.byWriter, if_true, if_false] <;> omega
  case insertBatch succeeds =>
    obtain ⟨stopping, inserting, rfl⟩ := insertBatch_cases stepped
    split <;> refine ⟨⟨called, taken, started, raised, by simp⟩, ?_⟩ <;> cases stopping <;>
      simp only [remaining, inserting, LogAction.byWriter, if_true] <;> omega
  case endTurn =>
    obtain ⟨stopping, ending, rfl⟩ := endTurn_cases stepped
    cases stopping <;> refine ⟨⟨called, taken, started, raised, by simp⟩, ?_⟩ <;>
      simp only [remaining, ending, LogAction.byWriter, Bool.false_eq_true, if_true, if_false] <;>
      omega
  case callShutdown =>
    cases stepped
    simp only [HealingLog.callShutdown, taken, begun.1, if_false, Bool.false_eq_true]
    exact ⟨notified, Nat.le_refl _⟩
  all_goals simp only [HealingLog.step] at stepped
  case startWriter =>
    split at stepped <;> cases stepped
    next => exact ⟨notified, Nat.le_refl _⟩
    next absent => cases started.symm.trans (staged.created absent)
  case spawn succeeds => simp [started] at stepped
  case storeControl => simp [started] at stepped
  case openDb succeeds =>
    split at stepped <;> cases stepped
    next phase =>
      cases succeeds <;> refine ⟨⟨called, taken, started, raised, by simp⟩, ?_⟩ <;>
        simp only [remaining, phase, LogAction.byWriter, Bool.false_eq_true, if_true, if_false] <;>
        omega
  case lockStop | reacquireStop =>
    split at stepped <;> cases stepped
    next phase =>
      refine ⟨⟨called, taken, started, raised, by simp⟩, ?_⟩
      simp only [remaining, phase.1, LogAction.byWriter, if_true]
      omega
  case checkStop | readStop =>
    split at stepped <;> cases stepped
    next phase =>
      rw [raised]
      refine ⟨⟨called, taken, started, rfl, by simp⟩, ?_⟩
      simp only [remaining, phase, LogAction.byWriter, if_true]
      omega
  case wake => simp [awake] at stepped
  case countDropped =>
    split at stepped <;> cases stepped
    exact ⟨⟨called, taken, started, raised, awake⟩, Nat.le_refl _⟩
  case shutdownLock | shutdownSet | shutdownNotify => simp [begun] at stepped
  case shutdownJoin =>
    split at stepped <;> cases stepped
    exact ⟨⟨.inr rfl, taken, started, raised, awake⟩, Nat.le_refl _⟩

theorem pop_enabled {log : HealingLog} {stopping : Bool}
    (draining : log.writer = .draining stopping) (short : log.batch.length < queueCap)
    (occupied : log.queued ≠ []) :
    (HealingLog.step log .pop).isSome = true := by
  cases created : log.queue with
  | none => exact absurd (queued_absent created) occupied
  | some queue =>
      rw [queued_eq created] at occupied
      obtain ⟨_ | ⟨record, rest⟩, bounded⟩ := queue
      · exact absurd rfl occupied
      · simp [HealingLog.step, draining, created, short, BoundedQueue.pop]

/-- The writer is never blocked once the signal has been given. -/
theorem Notified.writer_enabled {log : HealingLog} (notified : log.Notified)
    (signalled : log.Signalled) (covering : log.Covering) (unfinished : log.writer ≠ .finished) :
    ∃ action, action.byWriter = true ∧ (HealingLog.step log action).isSome = true := by
  have unlocked : log.writer ≠ .checking → log.writer ≠ .reading → log.stopLock = none := by
    intro unchecked unread
    cases lock : log.stopLock with
    | none => rfl
    | some holder =>
        cases holder with
        | writer =>
            rcases signalled.held.mp lock with phase | phase
            · exact absurd phase unchecked
            · exact absurd phase unread
        | shutdown =>
            have setting := signalled.setting.mp lock
            rcases notified.called with phase | phase <;> cases setting.symm.trans phase
  cases phase : log.writer with
  | absent =>
      rcases signalled.spawned phase with early | early <;>
        cases notified.started.symm.trans early
  | opening => exact ⟨.openDb true, rfl, by simp [HealingLog.step, phase]⟩
  | locking =>
      have free := unlocked (by simp [phase]) (by simp [phase])
      exact ⟨.lockStop, rfl, by simp [HealingLog.step, phase, free]⟩
  | checking => exact ⟨.checkStop, rfl, by simp [HealingLog.step, phase]⟩
  | waiting => exact absurd phase notified.awake
  | reacquiring =>
      have free := unlocked (by simp [phase]) (by simp [phase])
      exact ⟨.reacquireStop, rfl, by simp [HealingLog.step, phase, free]⟩
  | reading => exact ⟨.readStop, rfl, by simp [HealingLog.step, phase]⟩
  | draining stopping =>
      by_cases drained : log.queued = [] ∨ log.batch.length = queueCap
      · exact ⟨.endDrain, rfl, by simp [HealingLog.step, phase, drained]⟩
      · rw [not_or] at drained
        have short := Nat.lt_of_le_of_ne covering.room drained.2
        exact ⟨.pop, rfl, pop_enabled phase short drained.1⟩
  | inserting stopping => exact ⟨.insertBatch true, rfl, by simp [HealingLog.step, phase]⟩
  | ending stopping => exact ⟨.endTurn, rfl, by simp [HealingLog.step, phase]⟩
  | finished => exact absurd phase unfinished

/-! ## The whole run -/

theorem Covering.returned {log : HealingLog} (covering : log.Covering)
    (finished : log.writer = .finished) :
    log.acceptedBeforeShutdown <+: log.inserted ∧ log.inserted <+: log.accepted := by
  have inserted : log.inserted <+: log.accepted := by
    rw [covering.order, List.append_assoc]
    exact List.prefix_append _ _
  refine ⟨List.prefix_of_prefix_length_le covering.before inserted ?_, inserted⟩
  exact covering.covered 0 (by simp [lastReach, finished])

/-- In every run with one call of `shutdown_writer` in which the database opens and every
insert succeeds: when the call has returned, the records that were accepted before it are
inserted, each once and in the order of their pushes; a writer that sleeps after the flag is
set is about to be woken; and while the call waits for the writer, the writer is not blocked
and takes a bounded number of steps more. -/
theorem shutdown_flushes {actions : List LogAction} {log : HealingLog}
    (orderly : Machine.Along step Orderly initial actions)
    (executed : Machine.exec step initial actions = some log) :
    (log.shutdown = .returned →
      log.acceptedBeforeShutdown <+: log.inserted ∧ log.inserted <+: log.accepted) ∧
    (log.stop = true → log.writer = .waiting → log.shutdown = .notifying) ∧
    (log.shutdown = .joining →
      (log.writer = .finished ∨
        ∃ action, action.byWriter = true ∧ (step log action).isSome = true) ∧
      ∀ rest finish, Machine.exec step log rest = some finish →
        rest.countP LogAction.byWriter ≤ 2 * queueCap + 8) := by
  have preserved : ∀ state action next, state.Staged ∧ state.Signalled ∧ state.Covering →
      state.Orderly action → step state action = some next →
      next.Staged ∧ next.Signalled ∧ next.Covering := by
    rintro state action next ⟨staged, signalled, covering⟩ ok stepped
    exact ⟨staged.step stepped, signalled.step staged ok stepped,
      covering.step staged signalled ok stepped⟩
  obtain ⟨staged, signalled, covering⟩ := Machine.exec_invariant_along preserved
    ⟨staged_initial, signalled_initial, covering_initial⟩ orderly executed
  refine ⟨?_, signalled.heard, ?_⟩
  · intro returned
    exact covering.returned (signalled.joined returned)
  · intro joining
    have notified := signalled.notified joining
    refine ⟨?_, ?_⟩
    · by_cases finished : log.writer = .finished
      · exact .inl finished
      · exact .inr (notified.writer_enabled signalled covering finished)
    · intro rest finish continued
      have advances : ∀ state action next, state.Notified ∧ state.Staged →
          step state action = some next → (next.Notified ∧ next.Staged) ∧
            next.remaining + (if action.byWriter then 1 else 0) ≤ state.remaining := by
        rintro state action next ⟨notified, staged⟩ stepped
        obtain ⟨kept, lower⟩ := notified.step staged stepped
        exact ⟨⟨kept, staged.step stepped⟩, lower⟩
      have bounded := Machine.countP_add_measure_le remaining LogAction.byWriter advances
        ⟨notified, staged⟩ continued
      have start := log.remaining_le
      omega

theorem shutdown_flushes_writtenRun :
    ∃ log, Machine.exec step initial writtenRun = some log ∧
      log.acceptedBeforeShutdown = [rejectedRecord] ∧
      log.acceptedBeforeShutdown <+: log.inserted ∧ log.inserted <+: log.accepted :=
  ⟨_, rfl, rfl, (@shutdown_flushes writtenRun _ (by decide) rfl).1 rfl⟩

end HealingLog

end RejiStudio.Orchestrator
