import Mathlib.Data.List.Count
import RejiStudio.Lib.BoundedQueue
import RejiStudio.Lib.Machine
import RejiStudio.Orchestrator.Action

/-!
# The writer of the healing log

Any thread pushes records into a bounded queue, one writer thread pops them in batches and
inserts each batch in one transaction.  A stop flag under a mutex with a condition
variable ends the writer after a last batch.
-/

namespace RejiStudio.Orchestrator

open RejiStudio.Lib

def queueCap : Nat := 256

/-- Where `start_writer` is once it has set the queue. -/
inductive StarterPhase where
  | idle
  | spawning
  | storing
  | returned
  deriving DecidableEq

/-- Where `writer_loop` is; a batch belongs to a turn, which knows whether it is the
last.  A thread that could not be spawned has finished. -/
inductive WriterPhase where
  | absent
  | opening
  | locking
  | checking
  | waiting
  | reacquiring
  | reading
  | draining (stopping : Bool)
  | inserting (stopping : Bool)
  | ending (stopping : Bool)
  | finished
  deriving DecidableEq

/-- Where `shutdown_writer` is once it has taken the control. -/
inductive ShutdownPhase where
  | idle
  | locking
  | setting
  | notifying
  | joining
  | returned
  deriving DecidableEq

/-- The writer is between the first `pop` of a turn and the end of `insert_batch`. -/
def WriterPhase.holdsBatch : WriterPhase → Bool
  | .draining _ | .inserting _ => true
  | _ => false

inductive LockHolder where
  | writer
  | shutdown
  deriving DecidableEq

/-- The globals of the healing log, the two threads, and the history from `logged` on. -/
structure HealingLog where
  queue : Option (BoundedQueue HealingLogRecord queueCap)
  droppedLogsCount : Nat
  /-- Calls of `log_healing` whose push was refused and not counted yet. -/
  refused : List HealingLogRecord
  control : Bool
  starter : StarterPhase
  writer : WriterPhase
  batch : List HealingLogRecord
  stop : Bool
  stopLock : Option LockHolder
  shutdown : ShutdownPhase
  inserted : List HealingLogRecord
  logged : List HealingLogRecord
  accepted : List HealingLogRecord
  acceptedBeforeShutdown : List HealingLogRecord
  counted : List HealingLogRecord
  /-- Records of calls before the queue exists, and of failed batches. -/
  vanished : List HealingLogRecord

inductive LogAction where
  | startWriter
  | spawn (succeeds : Bool)
  | storeControl
  | logHealing (record : HealingLogRecord)
  | countDropped
  | openDb (succeeds : Bool)
  | lockStop
  | checkStop
  /-- A timeout or a spurious wake-up. -/
  | wake
  | reacquireStop
  | readStop
  | pop
  | endDrain
  | insertBatch (succeeds : Bool)
  | endTurn
  | callShutdown
  | shutdownLock
  | shutdownSet
  | shutdownNotify
  | shutdownJoin
  deriving DecidableEq

namespace HealingLog

def initial : HealingLog where
  queue := none
  droppedLogsCount := 0
  refused := []
  control := false
  starter := .idle
  writer := .absent
  batch := []
  stop := false
  stopLock := none
  shutdown := .idle
  inserted := []
  logged := []
  accepted := []
  acceptedBeforeShutdown := []
  counted := []
  vanished := []

def queued (log : HealingLog) : List HealingLogRecord :=
  match log.queue with
  | some queue => queue.items
  | none => []

/-- `log_healing` up to a refused push, which is counted in a step of its own. -/
def logHealing (log : HealingLog) (record : HealingLogRecord) : HealingLog :=
  match log.queue with
  | none =>
      { log with logged := log.logged ++ [record], vanished := log.vanished ++ [record] }
  | some queue =>
      match queue.push record with
      | some next =>
          { log with
            queue := some next
            logged := log.logged ++ [record]
            accepted := log.accepted ++ [record] }
      | none => { log with logged := log.logged ++ [record], refused := log.refused ++ [record] }

/-- The control is taken out, so that only one call signals; without one there is
nothing to do. -/
def callShutdown (log : HealingLog) : HealingLog :=
  if log.control then
    { log with
      control := false
      shutdown := .locking
      acceptedBeforeShutdown := log.accepted }
  else if log.shutdown = .idle then
    { log with shutdown := .returned, acceptedBeforeShutdown := log.accepted }
  else log

def step : Machine HealingLog LogAction
  | log, .startWriter =>
      match log.queue with
      | some _ => some log
      | none => some { log with queue := some .empty, starter := .spawning }
  | log, .spawn succeeds =>
      if log.starter = .spawning then
        if succeeds then some { log with starter := .storing, writer := .opening }
        else some { log with starter := .returned, writer := .finished }
      else none
  | log, .storeControl =>
      if log.starter = .storing then some { log with control := true, starter := .returned }
      else none
  | log, .logHealing record => some (log.logHealing record)
  | log, .countDropped =>
      match log.refused with
      | record :: rest =>
          some { log with
            refused := rest
            droppedLogsCount := log.droppedLogsCount + 1
            counted := log.counted ++ [record] }
      | [] => none
  | log, .openDb succeeds =>
      if log.writer = .opening then
        some { log with writer := if succeeds then .locking else .finished }
      else none
  | log, .lockStop =>
      if log.writer = .locking ∧ log.stopLock = none then
        some { log with writer := .checking, stopLock := some .writer }
      else none
  | log, .checkStop =>
      if log.writer = .checking then
        -- `wait_timeout` gives the lock back and sleeps in one step
        some { log with
          writer := if log.stop then .draining true else .waiting
          stopLock := none }
      else none
  | log, .wake =>
      if log.writer = .waiting then some { log with writer := .reacquiring } else none
  | log, .reacquireStop =>
      if log.writer = .reacquiring ∧ log.stopLock = none then
        some { log with writer := .reading, stopLock := some .writer }
      else none
  | log, .readStop =>
      if log.writer = .reading then
        some { log with writer := .draining log.stop, stopLock := none }
      else none
  | log, .pop =>
      match log.writer, log.queue with
      | .draining _, some queue =>
          if log.batch.length < queueCap then
            queue.pop.map fun (record, rest) =>
              { log with queue := some rest, batch := log.batch ++ [record] }
          else none
      | _, _ => none
  | log, .endDrain =>
      match log.writer with
      | .draining stopping =>
          if log.queued = [] ∨ log.batch.length = queueCap then
            some { log with
              writer := if log.batch = [] then .ending stopping else .inserting stopping }
          else none
      | _ => none
  | log, .insertBatch succeeds =>
      match log.writer with
      | .inserting stopping =>
          if succeeds then
            some { log with
              writer := .ending stopping
              batch := []
              inserted := log.inserted ++ log.batch }
          else
            some { log with
              writer := .ending stopping
              batch := []
              vanished := log.vanished ++ log.batch }
      | _ => none
  | log, .endTurn =>
      match log.writer with
      | .ending stopping => some { log with writer := if stopping then .finished else .locking }
      | _ => none
  | log, .callShutdown => some log.callShutdown
  | log, .shutdownLock =>
      if log.shutdown = .locking ∧ log.stopLock = none then
        some { log with shutdown := .setting, stopLock := some .shutdown }
      else none
  | log, .shutdownSet =>
      if log.shutdown = .setting then
        some { log with shutdown := .notifying, stop := true, stopLock := none }
      else none
  | log, .shutdownNotify =>
      if log.shutdown = .notifying then
        some { log with
          shutdown := .joining
          writer := if log.writer = .waiting then .reacquiring else log.writer }
      else none
  | log, .shutdownJoin =>
      if log.shutdown = .joining ∧ log.writer = .finished then
        some { log with shutdown := .returned }
      else none

/-! ## What a step does -/

theorem logHealing_cases (log : HealingLog) (record : HealingLogRecord) :
    (log.queue = none ∧ log.logHealing record =
      { log with logged := log.logged ++ [record], vanished := log.vanished ++ [record] }) ∨
    (∃ queue next, log.queue = some queue ∧ next.items = queue.items ++ [record] ∧
      log.logHealing record =
        { log with
          queue := some next
          logged := log.logged ++ [record]
          accepted := log.accepted ++ [record] }) ∨
    (∃ queue, log.queue = some queue ∧ queue.items.length = queueCap ∧
      log.logHealing record =
        { log with logged := log.logged ++ [record], refused := log.refused ++ [record] }) := by
  unfold HealingLog.logHealing
  split
  next absent => exact .inl ⟨absent, rfl⟩
  next queue created =>
    split
    next next pushed =>
      exact .inr (.inl ⟨queue, next, created, (BoundedQueue.push_eq_some_iff.mp pushed).2, rfl⟩)
    next full =>
      exact .inr (.inr ⟨queue, created, BoundedQueue.push_eq_none_iff.mp full, rfl⟩)

theorem pop_cases {log next : HealingLog} (stepped : step log .pop = some next) :
    ∃ stopping queue record rest, log.writer = .draining stopping ∧ log.queue = some queue ∧
      log.batch.length < queueCap ∧ queue.items = record :: rest.items ∧
      next = { log with queue := some rest, batch := log.batch ++ [record] } := by
  simp only [step] at stepped
  split at stepped
  next stopping queue draining created =>
    split at stepped
    next room =>
      obtain ⟨⟨record, rest⟩, popped, rfl⟩ := Option.map_eq_some_iff.mp stepped
      exact ⟨stopping, queue, record, rest, draining, created, room,
        BoundedQueue.pop_eq_some_iff.mp popped, rfl⟩
    next => cases stepped
  next => cases stepped

theorem endDrain_cases {log next : HealingLog} (stepped : step log .endDrain = some next) :
    ∃ stopping, log.writer = .draining stopping ∧
      (log.queued = [] ∨ log.batch.length = queueCap) ∧
      next = { log with
        writer := if log.batch = [] then .ending stopping else .inserting stopping } := by
  simp only [step] at stepped
  split at stepped
  next stopping draining =>
    split at stepped
    next drained =>
      cases stepped
      exact ⟨stopping, draining, drained, rfl⟩
    next => cases stepped
  next => cases stepped

theorem insertBatch_cases {log next : HealingLog} {succeeds : Bool}
    (stepped : step log (.insertBatch succeeds) = some next) :
    ∃ stopping, log.writer = .inserting stopping ∧
      next = if succeeds then
          { log with
            writer := .ending stopping
            batch := []
            inserted := log.inserted ++ log.batch }
        else
          { log with
            writer := .ending stopping
            batch := []
            vanished := log.vanished ++ log.batch } := by
  simp only [step] at stepped
  split at stepped
  next stopping inserting =>
    refine ⟨stopping, inserting, ?_⟩
    split at stepped <;> cases stepped
    next succeeded => rw [if_pos succeeded]
    next failed => rw [if_neg failed]
  next => cases stepped

theorem endTurn_cases {log next : HealingLog} (stepped : step log .endTurn = some next) :
    ∃ stopping, log.writer = .ending stopping ∧
      next = { log with writer := if stopping then .finished else .locking } := by
  simp only [step] at stepped
  split at stepped
  next stopping ending =>
    cases stepped
    exact ⟨stopping, ending, rfl⟩
  next => cases stepped

/-! ## Accounts -/

/-- Every record that was logged is inserted, counted, on its way, or gone. -/
structure Balanced (log : HealingLog) : Prop where
  records : ∀ record, log.logged.count record =
    log.inserted.count record + log.counted.count record + log.refused.count record +
      log.queued.count record + log.batch.count record + log.vanished.count record
  dropped : log.droppedLogsCount = log.counted.length

/-- The writer is spawned once, after the queue, and has a batch in two phases only. -/
structure Staged (log : HealingLog) : Prop where
  created : log.queue = none → log.starter = .idle
  starting : log.starter = .idle ∨ log.starter = .spawning → log.writer = .absent
  emptied : log.writer.holdsBatch = false → log.batch = []

theorem balanced_initial : initial.Balanced :=
  ⟨fun _ => rfl, rfl⟩

theorem staged_initial : initial.Staged :=
  ⟨fun _ => rfl, fun _ => rfl, fun _ => rfl⟩

theorem queued_eq {log : HealingLog} {queue : BoundedQueue HealingLogRecord queueCap}
    (created : log.queue = some queue) : log.queued = queue.items := by
  rw [queued, created]

theorem queued_absent {log : HealingLog} (absent : log.queue = none) : log.queued = [] := by
  rw [queued, absent]

theorem Balanced.logHealing {log : HealingLog} (balanced : log.Balanced)
    (record : HealingLogRecord) : (log.logHealing record).Balanced := by
  rcases logHealing_cases log record with ⟨absent, same⟩ | ⟨queue, next, created, items, same⟩ |
    ⟨queue, created, -, same⟩ <;> rw [same] <;> refine ⟨fun other => ?_, balanced.dropped⟩ <;>
    have records := balanced.records other
  · simp only [queued, List.count_append] at records ⊢
    omega
  · simp only [queued, created, items, List.count_append] at records ⊢
    omega
  · simp only [queued, List.count_append] at records ⊢
    omega

theorem Balanced.step {log next : HealingLog} {action : LogAction} (balanced : log.Balanced)
    (stepped : HealingLog.step log action = some next) : next.Balanced := by
  have records := balanced.records
  cases action
  case logHealing record =>
    cases stepped
    exact balanced.logHealing record
  case countDropped =>
    simp only [HealingLog.step] at stepped
    split at stepped <;> cases stepped
    next record rest waiting =>
      refine ⟨fun other => ?_, ?_⟩
      · have known := records other
        rw [waiting] at known
        simp only [queued, List.count_append, List.count_cons, List.count_nil] at known ⊢
        omega
      · simp only [balanced.dropped, List.length_append, List.length_singleton]
  case pop =>
    obtain ⟨_, queue, record, rest, _, created, _, items, rfl⟩ := pop_cases stepped
    refine ⟨fun other => ?_, balanced.dropped⟩
    have known := records other
    rw [queued_eq created, items] at known
    simp only [queued, List.count_append, List.count_cons, List.count_nil] at known ⊢
    omega
  case insertBatch succeeds =>
    obtain ⟨_, _, rfl⟩ := insertBatch_cases stepped
    split <;> refine ⟨fun other => ?_, balanced.dropped⟩ <;> have known := records other <;>
      simp only [queued, List.count_append, List.count_nil] at known ⊢ <;> omega
  case startWriter =>
    simp only [HealingLog.step] at stepped
    split at stepped <;> cases stepped
    next => exact balanced
    next absent =>
      simp only [queued_absent absent] at records
      exact ⟨records, balanced.dropped⟩
  case callShutdown =>
    cases stepped
    unfold HealingLog.callShutdown
    split
    next => exact ⟨records, balanced.dropped⟩
    next => split <;> exact ⟨records, balanced.dropped⟩
  -- the other steps move no record
  all_goals
    simp only [HealingLog.step] at stepped
    (repeat split at stepped) <;> cases stepped <;> exact ⟨records, balanced.dropped⟩

theorem Staged.logHealing {log : HealingLog} (staged : log.Staged)
    (record : HealingLogRecord) : (log.logHealing record).Staged := by
  rcases logHealing_cases log record with ⟨_, same⟩ | ⟨_, _, _, _, same⟩ | ⟨_, _, _, same⟩ <;>
    rw [same]
  · exact ⟨staged.created, staged.starting, staged.emptied⟩
  · exact ⟨nofun, staged.starting, staged.emptied⟩
  · exact ⟨staged.created, staged.starting, staged.emptied⟩

theorem Staged.turn {log next : HealingLog} (staged : log.Staged)
    (spawned : log.writer ≠ .absent) (queue : next.queue = none → log.queue = none)
    (starter : next.starter = log.starter)
    (emptied : next.writer.holdsBatch = false → next.batch = []) : next.Staged := by
  refine ⟨?_, ?_, emptied⟩
  · intro absent
    rw [starter]
    exact staged.created (queue absent)
  · intro early
    rw [starter] at early
    exact absurd (staged.starting early) spawned

theorem Staged.step {log next : HealingLog} {action : LogAction} (staged : log.Staged)
    (stepped : HealingLog.step log action = some next) : next.Staged := by
  have ⟨created, starting, emptied⟩ := staged
  cases action
  case logHealing record =>
    cases stepped
    exact staged.logHealing record
  case pop =>
    obtain ⟨stopping, _, _, _, draining, _, _, _, rfl⟩ := pop_cases stepped
    exact staged.turn (by simp [draining]) nofun rfl (by simp [draining, WriterPhase.holdsBatch])
  case endDrain =>
    obtain ⟨stopping, draining, _, rfl⟩ := endDrain_cases stepped
    refine staged.turn (by simp [draining]) id rfl ?_
    by_cases nothing : log.batch = []
    · exact fun _ => nothing
    · simp [nothing, WriterPhase.holdsBatch]
  case insertBatch succeeds =>
    obtain ⟨stopping, inserting, rfl⟩ := insertBatch_cases stepped
    split <;> exact staged.turn (by simp [inserting]) id rfl fun _ => rfl
  case endTurn =>
    obtain ⟨stopping, ending, rfl⟩ := endTurn_cases stepped
    refine staged.turn (by simp [ending]) id rfl fun _ => emptied ?_
    rw [ending]
    rfl
  all_goals simp only [HealingLog.step] at stepped
  case startWriter =>
    split at stepped <;> cases stepped
    next => exact staged
    next absent => exact ⟨nofun, fun _ => starting (.inl (created absent)), emptied⟩
  case spawn succeeds =>
    split at stepped
    next spawning =>
      have known : log.queue ≠ none := by
        intro absent
        cases spawning.symm.trans (created absent)
      have nothing : log.batch = [] := by
        apply emptied
        rw [starting (.inr spawning)]
        rfl
      split at stepped <;> cases stepped <;>
        exact ⟨fun absent => absurd absent known, by simp, fun _ => nothing⟩
    next => cases stepped
  case storeControl =>
    split at stepped <;> cases stepped
    next storing =>
      refine ⟨fun absent => ?_, by simp, emptied⟩
      cases storing.symm.trans (created absent)
  case callShutdown =>
    cases stepped
    unfold HealingLog.callShutdown
    split
    next => exact ⟨created, starting, emptied⟩
    next => split <;> exact ⟨created, starting, emptied⟩
  case openDb | lockStop | checkStop | wake | reacquireStop | readStop =>
    split at stepped
    all_goals cases stepped
    next phase =>
      refine staged.turn (by simp [phase]) id rfl fun _ => emptied ?_
      simp [phase, WriterPhase.holdsBatch]
  case countDropped | shutdownLock | shutdownSet | shutdownJoin =>
    split at stepped <;> cases stepped
    exact ⟨created, starting, emptied⟩
  case shutdownNotify =>
    split at stepped <;> cases stepped
    by_cases waiting : log.writer = .waiting
    · refine staged.turn (by simp [waiting]) id rfl fun _ => emptied ?_
      simp [waiting, WriterPhase.holdsBatch]
    · simp only [waiting, if_false]
      exact ⟨created, starting, emptied⟩

/-! ## Losses -/

def lost (log : HealingLog) : List HealingLogRecord :=
  log.vanished ++ if log.writer = .finished then log.queued else []

/-- Nothing will move any more: a call of `shutdown_writer` has returned, no push is being
counted, and the writer has ended or has nothing to do. -/
structure Settled (log : HealingLog) : Prop where
  shutdown : log.shutdown = .returned
  refused : log.refused = []
  writer : log.writer = .finished ∨ log.queued = [] ∧ log.batch = []

/-- Every record that was logged is inserted, or counted among the dropped ones. -/
def Accounted (log : HealingLog) : Prop :=
  log.droppedLogsCount = log.counted.length ∧
    ∀ record, log.logged.count record = log.inserted.count record + log.counted.count record

/-- Calls of `log_healing` come while the queue exists and the writer has not ended, the
batch of an insert reaches the database, and the writer ends with an empty queue. -/
def LosesNothing (log : HealingLog) : LogAction → Prop
  | .logHealing _ => log.queue.isSome = true ∧ log.writer ≠ .finished
  | .spawn succeeds | .openDb succeeds => succeeds = true ∨ log.queued = []
  | .insertBatch succeeds => succeeds = true ∨ log.batch = []
  | .endTurn => log.writer = .ending true → log.queued = []
  | _ => True

theorem Balanced.accounted_iff {log : HealingLog} (balanced : log.Balanced)
    (staged : log.Staged) (settled : log.Settled) : log.Accounted ↔ log.lost = [] := by
  have empty : log.batch = [] ∧ (log.writer ≠ .finished → log.queued = []) := by
    rcases settled.writer with finished | idle
    · refine ⟨staged.emptied ?_, fun running => absurd finished running⟩
      rw [finished]
      rfl
    · exact ⟨idle.2, fun _ => idle.1⟩
  have total : ∀ record, log.logged.count record =
      log.inserted.count record + log.counted.count record + log.lost.count record := by
    intro record
    rw [balanced.records record, settled.refused, empty.1, lost, List.count_append]
    split
    next => simp only [List.count_nil]; omega
    next running => rw [empty.2 running]; simp only [List.count_nil]; omega
  rw [List.eq_nil_iff_forall_not_mem]
  constructor
  · rintro ⟨-, accounted⟩ record
    rw [← List.count_eq_zero]
    have whole := total record
    rw [accounted record] at whole
    omega
  · intro nothing
    refine ⟨balanced.dropped, fun record => ?_⟩
    rw [total record, List.count_eq_zero.mpr (nothing record), Nat.add_zero]

theorem lost_eq_nil_iff (log : HealingLog) :
    log.lost = [] ↔ log.vanished = [] ∧ (log.writer = .finished → log.queued = []) := by
  rw [lost, List.append_eq_nil_iff]
  split <;> simp [*]

theorem lost_logHealing (log : HealingLog) (record : HealingLogRecord) :
    (log.logHealing record).lost = [] ↔
      log.lost = [] ∧ log.LosesNothing (.logHealing record) := by
  simp only [lost_eq_nil_iff, LosesNothing]
  rcases logHealing_cases log record with ⟨absent, same⟩ | ⟨queue, next, created, items, same⟩ |
    ⟨queue, created, full, same⟩ <;> rw [same]
  · simp [absent]
  · simp only [created, queued, items]
    simp only [List.append_eq_nil_iff, List.cons_ne_self, and_false, imp_false, Option.isSome_some,
      true_and]
    tauto
  · have occupied : queue.items ≠ [] := by
      intro nothing
      rw [nothing] at full
      cases full
    simp only [queued, created, occupied, imp_false, Option.isSome_some, true_and]
    tauto

theorem lost_step {log next : HealingLog} {action : LogAction} (staged : log.Staged)
    (stepped : step log action = some next) :
    next.lost = [] ↔ log.lost = [] ∧ log.LosesNothing action := by
  cases action
  case logHealing record =>
    cases stepped
    exact lost_logHealing log record
  all_goals simp only [lost_eq_nil_iff, LosesNothing, and_true]
  case pop =>
    obtain ⟨stopping, _, _, _, draining, _, _, _, rfl⟩ := pop_cases stepped
    simp [draining]
  case endDrain =>
    obtain ⟨stopping, draining, _, rfl⟩ := endDrain_cases stepped
    by_cases nothing : log.batch = [] <;> simp [draining, nothing]
  case insertBatch succeeds =>
    obtain ⟨stopping, inserting, rfl⟩ := insertBatch_cases stepped
    cases succeeds <;> simp [inserting]
  case endTurn =>
    obtain ⟨stopping, ending, rfl⟩ := endTurn_cases stepped
    cases stopping <;> simp [ending, queued]
  all_goals simp only [step] at stepped
  case startWriter =>
    split at stepped <;> cases stepped
    next => rfl
    next absent =>
      have unborn := staged.starting (.inl (staged.created absent))
      simp [unborn]
  case spawn succeeds =>
    split at stepped
    next spawning =>
      have unborn := staged.starting (.inr spawning)
      cases succeeds <;> cases stepped <;> simp [unborn, queued]
    next => cases stepped
  case callShutdown =>
    cases stepped
    unfold HealingLog.callShutdown
    split
    next => rfl
    next => split <;> rfl
  case openDb succeeds =>
    split at stepped
    next opening => cases succeeds <;> cases stepped <;> simp [opening, queued]
    next => cases stepped
  case lockStop | wake | reacquireStop | readStop =>
    split at stepped <;> cases stepped
    next phase => simp [phase]
  case checkStop =>
    split at stepped <;> cases stepped
    next checking => cases log.stop <;> simp [checking]
  case storeControl | countDropped | shutdownLock | shutdownSet | shutdownJoin =>
    split at stepped <;> cases stepped
    rfl
  case shutdownNotify =>
    split at stepped <;> cases stepped
    by_cases waiting : log.writer = .waiting <;> simp [waiting, queued]

/-- In every run that has settled, every record was inserted or counted exactly if no step
lost one. -/
theorem accounted_iff_losesNothing {actions : List LogAction} {log : HealingLog}
    (executed : Machine.exec step initial actions = some log) (settled : log.Settled) :
    log.Accounted ↔ Machine.Along step LosesNothing initial actions := by
  have advances : ∀ state action next, state.Balanced ∧ state.Staged →
      step state action = some next → (next.Balanced ∧ next.Staged) ∧
        (next.lost = [] ↔ state.lost = [] ∧ state.LosesNothing action) := by
    rintro state action next ⟨balanced, staged⟩ stepped
    exact ⟨⟨balanced.step stepped, staged.step stepped⟩, lost_step staged stepped⟩
  have preserved : ∀ state action next, state.Balanced ∧ state.Staged →
      step state action = some next → next.Balanced ∧ next.Staged := by
    intro state action next invariant stepped
    exact (advances state action next invariant stepped).1
  obtain ⟨balanced, staged⟩ :=
    Machine.exec_invariant preserved ⟨balanced_initial, staged_initial⟩ executed
  rw [balanced.accounted_iff staged settled,
    Machine.good_iff_along advances ⟨balanced_initial, staged_initial⟩ executed]
  exact and_iff_right rfl

/-- The record of a rejected action: the metric is unknown. -/
def rejectedRecord : HealingLogRecord where
  actionId := 1
  ruleId := "encoder_overload"
  metricId := 8
  currentValue := 0
  threshold := 0
  actionType := 6
  outcome := 2
  mode := 1

/-- The writer starts, a record is logged and inserted, and the writer is shut down. -/
def writtenRun : List LogAction :=
  [.startWriter, .spawn true, .storeControl, .openDb true, .logHealing rejectedRecord, .lockStop,
    .checkStop, .callShutdown, .shutdownLock, .shutdownSet, .shutdownNotify, .reacquireStop,
    .readStop, .pop, .endDrain, .insertBatch true, .endTurn, .shutdownJoin]

theorem accounted_iff_writtenRun :
    ∃ log, Machine.exec step initial writtenRun = some log ∧ log.inserted = [rejectedRecord] ∧
      (log.Accounted ↔ Machine.Along step LosesNothing initial writtenRun) :=
  ⟨_, rfl, rfl, accounted_iff_losesNothing rfl ⟨rfl, rfl, .inl rfl⟩⟩

/-- A record that is logged once `shutdown_writer` has returned stays in the queue of a writer
that has ended, and the count of dropped records stays zero. -/
theorem record_lost_after_shutdown :
    ∃ log, Machine.exec step initial
        [.startWriter, .spawn true, .storeControl, .openDb true, .lockStop, .checkStop,
          .callShutdown, .shutdownLock, .shutdownSet, .shutdownNotify, .reacquireStop, .readStop,
          .endDrain, .endTurn, .shutdownJoin, .logHealing rejectedRecord] = some log ∧
      log.Settled ∧ log.logged = [rejectedRecord] ∧ log.inserted = [] ∧
      log.droppedLogsCount = 0 ∧ ¬log.Accounted := by
  refine ⟨_, rfl, ⟨rfl, rfl, .inl rfl⟩, rfl, rfl, rfl, ?_⟩
  rintro ⟨-, accounted⟩
  exact absurd (accounted rejectedRecord) (by decide)

end HealingLog

end RejiStudio.Orchestrator
