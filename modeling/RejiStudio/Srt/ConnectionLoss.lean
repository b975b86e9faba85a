import RejiStudio.Lib.Machine
import RejiStudio.Srt.SrtOutput

/-!
# Reports of a lost connection

One session of an output: the worker, a sender and the thread that shuts it down, one
step for each atomic access.  `notified_lost` guards the report, but the worker clears it
some steps after it set `connected`; a loss that is reported in between is reported again.
-/

namespace RejiStudio.Srt

open RejiStudio.Lib

/-- The reasons that `on_connection_lost` is called with. -/
inductive LossReason where
  | srtSocketDisconnected
  | srtClientDisconnected
  | srtEpollError
  | srtConnectFailed
  | srtSendmsgConnectionLost
  deriving DecidableEq

/-- The load of `shutting_down` before `notify_connection_lost`, its compare and exchange,
and the call of the sink. -/
inductive NotifyPhase where
  | checkShutdown (reason : LossReason)
  | compareExchange (reason : LossReason)
  | call (reason : LossReason)
  deriving DecidableEq

/-- Where the worker is in `worker_loop`, by the access that comes next. -/
inductive WorkerPhase where
  | loop
  | epollWait
  /-- `SRT_EPOLL_ERR` on the socket `fd`. -/
  | error (fd : Nat)
  | dropClient
  | disconnectClient
  | exchangeError
  | accept
  | storeClient (client : Nat)
  | storeConnected
  /-- `notified_lost.store(false)`. -/
  | rearm
  | updateState
  | storeInvalid
  | readStatus
  | exchangeStatus (nowC : Bool)
  | notifying (phase : NotifyPhase)
  | leave
  | left
  deriving DecidableEq

/-- Where the sender is in `send_internal`; the payload is its size, none for null. -/
inductive SenderPhase where
  | idle
  | checkInitialized (payload : Option Nat)
  | checkShutdown (payload : Option Nat)
  | checkConnected
  | chooseSocket
  | sendmsg
  | disconnect
  | notifying (phase : NotifyPhase)
  deriving DecidableEq

/-- The end of `init_internal`, then `prepare_shutdown` and `do_seh_cleanup`. -/
inductive OwnerPhase where
  | storeInitialized
  | running
  | storeShuttingDown
  | disconnect
  | join
  | cleanup
  | dropClient
  | closed
  deriving DecidableEq

structure EpollEvent where
  fd : Nat
  err : Bool
  incoming : Bool
  out : Bool
  connect : Bool
  deriving DecidableEq

/-- `event`, `accepted` and `status` carry what the library answers the worker, `sent` the
error of `srt_sendmsg2`; `packet` starts a send. -/
inductive SessionAction where
  | worker
  | event (event : Option EpollEvent)
  | accepted (client : Option Nat)
  | status (nowC : Bool)
  | packet (payload : Option Nat)
  | sender
  | sent (error : Option SrtError)
  | owner
  deriving DecidableEq

/-- `reports` is history: the calls of the sink since `connected` last rose. -/
structure Session where
  impl : Impl
  worker : WorkerPhase
  sender : SenderPhase
  owner : OwnerPhase
  reports : List LossReason
  deriving DecidableEq

def maxPayloadBytes : Nat := 1456

/-- The errors of `srt_sendmsg2` that mean a lost connection. -/
def SrtError.lost : SrtError → Bool
  | .econnlost | .econnrej | .econnfail | .econnsetup | .enoconn => true
  | .easyncsnd | .easyncrcv | .easyncfail | .other => false

/-- The socket of `send_internal` and `update_state_from_socket`. -/
def Impl.socket (impl : Impl) : Option Nat :=
  if impl.cfg.callerMode then impl.sock else impl.clientSock

namespace Session

/-- The worker is started behind the stores of `shutting_down` and `notified_lost`. -/
def start (impl : Impl) : Session where
  impl := { impl with shuttingDown := false, notifiedLost := false }
  worker := .loop
  sender := .idle
  owner := .storeInitialized
  reports := []

def setConnected (session : Session) (value : Bool) : Session :=
  { session with
    impl := { session.impl with connected := value }
    reports := if value && !session.impl.connected then [] else session.reports }

def notify (session : Session) : NotifyPhase → Session × Option NotifyPhase
  | .checkShutdown reason =>
      (session, if session.impl.shuttingDown then none else some (.compareExchange reason))
  | .compareExchange reason =>
      if session.impl.notifiedLost then (session, none)
      else
        ({ session with impl := { session.impl with notifiedLost := true } },
          some (.call reason))
  | .call reason => ({ session with reports := reason :: session.reports }, none)

/-- The worker's next access, where it waits for no answer of the library. -/
def workerStep (session : Session) : Option Session :=
  match session.worker with
  | .loop =>
      some { session with worker := if session.impl.shuttingDown then .leave else .epollWait }
  | .error fd =>
      some { session with
        worker :=
          if !session.impl.cfg.callerMode && session.impl.clientSock == some fd then .dropClient
          else .exchangeError }
  | .dropClient =>
      some { session with
        impl := { session.impl with clientSock := none }
        worker := .disconnectClient }
  | .disconnectClient =>
      some { session.setConnected false with
        worker := .notifying (.checkShutdown .srtClientDisconnected) }
  | .exchangeError =>
      -- no look at `shutting_down` on this path
      some { session.setConnected false with
        worker := .notifying (.compareExchange
          (if session.impl.connected then .srtEpollError else .srtConnectFailed)) }
  | .storeClient client =>
      some { session with
        impl := { session.impl with clientSock := some client }
        worker := .storeConnected }
  | .storeConnected => some { session.setConnected true with worker := .rearm }
  | .rearm =>
      some { session with impl := { session.impl with notifiedLost := false }, worker := .loop }
  | .updateState =>
      some { session with
        worker := if session.impl.socket.isSome then .readStatus else .storeInvalid }
  | .storeInvalid => some { session.setConnected false with worker := .loop }
  | .exchangeStatus nowC =>
      some { session.setConnected nowC with
        worker :=
          if nowC then .rearm
          else if session.impl.connected then
            .notifying (.checkShutdown .srtSocketDisconnected)
          else .loop }
  | .notifying phase =>
      some { (session.notify phase).1 with
        worker := ((session.notify phase).2.map WorkerPhase.notifying).getD .loop }
  | .leave => some { session.setConnected false with worker := .left }
  | .epollWait | .accept | .readStatus | .left => none

/-- What the worker turns to after `srt_epoll_uwait`. -/
def dispatch (cfg : Config) : Option EpollEvent → WorkerPhase
  | none => .loop
  | some event =>
      if event.err then .error event.fd
      else if event.incoming && !cfg.callerMode then .accept
      else if event.out || event.connect then .updateState
      else .loop

/-- The sender's next access; every refusal ends the call. -/
def senderStep (session : Session) : Option Session :=
  match session.sender with
  | .checkInitialized payload =>
      some { session with
        sender := if session.impl.initialized then .checkShutdown payload else .idle }
  | .checkShutdown payload =>
      some { session with
        sender :=
          if session.impl.shuttingDown then .idle
          else if payload.any fun size => 0 < size && size ≤ maxPayloadBytes then .checkConnected
          else .idle }
  | .checkConnected =>
      some { session with
        sender := if session.impl.connected then .chooseSocket else .idle }
  | .chooseSocket =>
      some { session with
        sender := if session.impl.socket.isSome then .sendmsg else .idle }
  | .disconnect =>
      some { session.setConnected false with
        sender := .notifying (.checkShutdown .srtSendmsgConnectionLost) }
  | .notifying phase =>
      some { (session.notify phase).1 with
        sender := ((session.notify phase).2.map SenderPhase.notifying).getD .idle }
  | .idle | .sendmsg => none

def ownerStep (session : Session) : Option Session :=
  match session.owner with
  | .storeInitialized =>
      some { session with
        impl := { session.impl with initialized := true }
        owner := .running }
  | .running =>
      some { session with
        impl := { session.impl with initialized := false }
        owner := .storeShuttingDown }
  | .storeShuttingDown =>
      some { session with
        impl := { session.impl with shuttingDown := true }
        owner := .disconnect }
  | .disconnect => some { session.setConnected false with owner := .join }
  | .join => if session.worker = .left then some { session with owner := .cleanup } else none
  | .cleanup =>
      if session.impl.alreadyCleanedUp then some { session with owner := .closed }
      else
        some { session with
          impl := { session.impl with sock := none, epollId := none, alreadyCleanedUp := true }
          owner := .dropClient }
  | .dropClient =>
      some { session with
        impl := { session.impl with clientSock := none }
        owner := .closed }
  | .closed => none

def step : Machine Session SessionAction := fun session action =>
  match action with
  | .worker => session.workerStep
  | .event event =>
      if session.worker = .epollWait then
        some { session with worker := dispatch session.impl.cfg event }
      else none
  | .accepted client =>
      if session.worker = .accept then
        some { session with worker := (client.map WorkerPhase.storeClient).getD .loop }
      else none
  | .status nowC =>
      if session.worker = .readStatus then
        some { session with worker := .exchangeStatus nowC }
      else none
  | .packet payload =>
      if session.sender = .idle then
        some { session with sender := .checkInitialized payload }
      else none
  | .sender => session.senderStep
  | .sent error =>
      if session.sender = .sendmsg then
        some { session with sender := if error.any SrtError.lost then .disconnect else .idle }
      else none
  | .owner => session.ownerStep

end Session

/-! ## Reports under way -/

/-- The exchange of `notified_lost` succeeded and the sink is yet to be called. -/
def NotifyPhase.claimed : NotifyPhase → Nat
  | .call _ => 1
  | .checkShutdown _ | .compareExchange _ => 0

def WorkerPhase.claimed : WorkerPhase → Nat
  | .notifying phase => phase.claimed
  | _ => 0

def SenderPhase.claimed : SenderPhase → Nat
  | .notifying phase => phase.claimed
  | _ => 0

namespace Session

def claims (session : Session) : Nat :=
  session.reports.length + session.worker.claimed + session.sender.claimed

/-- Where the worker clears `notified_lost`, no loss was reported since `connected` last
rose, and none is about to be. -/
def UnreportedRearm (session : Session) (action : SessionAction) : Prop :=
  action = .worker → session.worker = .rearm → session.claims = 0

instance (session : Session) (action : SessionAction) :
    Decidable (session.UnreportedRearm action) :=
  inferInstanceAs (Decidable (_ → _ → _))

/-- The invariant: a report that was made or is under way holds `notified_lost`. -/
structure Guarded (session : Session) : Prop where
  once : session.claims ≤ 1
  held : session.impl.notifiedLost = false → session.claims = 0

theorem guarded_start (impl : Impl) : (start impl).Guarded where
  once := Nat.zero_le 1
  held := fun _ => rfl

/-! ## What one step does to the reports -/

/-- The step leaves `notified_lost` alone and claims nothing. -/
def Quiet (session next : Session) : Prop :=
  next.impl.notifiedLost = session.impl.notifiedLost ∧ next.claims ≤ session.claims

/-- The step wins the exchange of `notified_lost`. -/
def Wins (session next : Session) : Prop :=
  session.impl.notifiedLost = false ∧ next.impl.notifiedLost = true ∧
    next.claims = session.claims + 1

theorem Guarded.quiet {session next : Session} (guarded : session.Guarded)
    (quiet : session.Quiet next) : next.Guarded where
  once := Nat.le_trans quiet.2 guarded.once
  held := by
    intro free
    have none_claimed := guarded.held (quiet.1 ▸ free)
    exact Nat.le_zero.mp (none_claimed ▸ quiet.2)

theorem Guarded.wins {session next : Session} (guarded : session.Guarded)
    (wins : session.Wins next) : next.Guarded where
  once := by
    simp [wins.2.2, guarded.held wins.1]
  held := by
    intro free
    rw [wins.2.1] at free
    exact absurd free nofun

theorem setConnected_reports (session : Session) (value : Bool) :
    (session.setConnected value).reports.length ≤ session.reports.length := by
  unfold setConnected
  dsimp only
  split
  · exact Nat.zero_le _
  · exact Nat.le_refl _

def following (phase : Option NotifyPhase) : Nat := (phase.map NotifyPhase.claimed).getD 0

theorem worker_following (phase : Option NotifyPhase) :
    ((phase.map WorkerPhase.notifying).getD .loop).claimed = following phase := by
  cases phase <;> rfl

theorem sender_following (phase : Option NotifyPhase) :
    ((phase.map SenderPhase.notifying).getD .idle).claimed = following phase := by
  cases phase <;> rfl

theorem notify_frame (session : Session) (phase : NotifyPhase) :
    (session.notify phase).1.worker = session.worker ∧
      (session.notify phase).1.sender = session.sender := by
  cases phase with
  | checkShutdown reason => exact ⟨rfl, rfl⟩
  | compareExchange reason =>
      cases notified : session.impl.notifiedLost with
      | true => simp [notify, notified]
      | false => simp [notify, notified]
  | call reason => exact ⟨rfl, rfl⟩

/-- Only the exchange that finds `notified_lost` false adds a report. -/
theorem notify_cases (session : Session) (phase : NotifyPhase) :
    ((session.notify phase).1.impl.notifiedLost = session.impl.notifiedLost ∧
      (session.notify phase).1.reports.length + following (session.notify phase).2 ≤
        session.reports.length + phase.claimed) ∨
    (session.impl.notifiedLost = false ∧ (session.notify phase).1.impl.notifiedLost = true ∧
      (session.notify phase).1.reports.length + following (session.notify phase).2 =
        session.reports.length + phase.claimed + 1) := by
  cases phase with
  | checkShutdown reason =>
      refine .inl ⟨rfl, ?_⟩
      cases closing : session.impl.shuttingDown with
      | true => simp [notify, closing, following]
      | false => simp [notify, closing, following, NotifyPhase.claimed]
  | compareExchange reason =>
      cases notified : session.impl.notifiedLost with
      | true => exact .inl (by simp [notify, notified, following])
      | false => exact .inr (by simp [notify, notified, following, NotifyPhase.claimed])
  | call reason => exact .inl ⟨rfl, by simp [notify, following, NotifyPhase.claimed]⟩

theorem quiet_worker {session moved : Session} {phase : WorkerPhase}
    (same : moved.impl.notifiedLost = session.impl.notifiedLost)
    (fewer : moved.reports.length ≤ session.reports.length)
    (sameSender : moved.sender = session.sender) (unclaimed : phase.claimed = 0) :
    session.Quiet { moved with worker := phase } := by
  refine ⟨same, ?_⟩
  unfold claims
  dsimp only
  rw [unclaimed, sameSender]
  omega

theorem quiet_sender {session moved : Session} {phase : SenderPhase}
    (same : moved.impl.notifiedLost = session.impl.notifiedLost)
    (fewer : moved.reports.length ≤ session.reports.length)
    (sameWorker : moved.worker = session.worker) (unclaimed : phase.claimed = 0) :
    session.Quiet { moved with sender := phase } := by
  refine ⟨same, ?_⟩
  unfold claims
  dsimp only
  rw [unclaimed, sameWorker]
  omega

/-- A step of a report is quiet or wins the exchange, whoever makes it. -/
theorem notify_worker {session : Session} {phase : NotifyPhase}
    (at_phase : session.worker = .notifying phase) :
    session.Quiet { (session.notify phase).1 with
        worker := ((session.notify phase).2.map WorkerPhase.notifying).getD .loop } ∨
      session.Wins { (session.notify phase).1 with
        worker := ((session.notify phase).2.map WorkerPhase.notifying).getD .loop } := by
  unfold Quiet Wins claims
  rw [worker_following, at_phase, WorkerPhase.claimed, (session.notify_frame phase).2]
  dsimp only
  rcases session.notify_cases phase with ⟨same, fewer⟩ | ⟨free, taken, more⟩
  · exact .inl ⟨same, by omega⟩
  · exact .inr ⟨free, taken, by omega⟩

theorem notify_sender {session : Session} {phase : NotifyPhase}
    (at_phase : session.sender = .notifying phase) :
    session.Quiet { (session.notify phase).1 with
        sender := ((session.notify phase).2.map SenderPhase.notifying).getD .idle } ∨
      session.Wins { (session.notify phase).1 with
        sender := ((session.notify phase).2.map SenderPhase.notifying).getD .idle } := by
  unfold Quiet Wins claims
  rw [sender_following, at_phase, SenderPhase.claimed, (session.notify_frame phase).1]
  dsimp only
  rcases session.notify_cases phase with ⟨same, fewer⟩ | ⟨free, taken, more⟩
  · exact .inl ⟨same, by omega⟩
  · exact .inr ⟨free, taken, by omega⟩

/-- The worker's step is quiet, wins the exchange, or clears `notified_lost`. -/
theorem workerStep_cases {session next : Session} (stepped : session.workerStep = some next) :
    session.Quiet next ∨ session.Wins next ∨
      session.worker = .rearm ∧ next.claims = session.claims := by
  have same := Nat.le_refl session.reports.length
  have store := session.setConnected_reports
  unfold workerStep at stepped
  cases phase : session.worker with
  | notifying report =>
      rw [phase] at stepped
      cases stepped
      rcases notify_worker phase with quiet | wins
      · exact .inl quiet
      · exact .inr (.inl wins)
  | rearm =>
      rw [phase] at stepped
      cases stepped
      refine .inr (.inr ⟨rfl, ?_⟩)
      unfold claims
      rw [phase]
      rfl
  | loop | error fd | updateState =>
      rw [phase] at stepped
      cases stepped
      exact .inl (quiet_worker rfl same rfl (by split <;> rfl))
  | dropClient | storeClient client =>
      rw [phase] at stepped
      cases stepped
      exact .inl (@quiet_worker session { session with impl := _ } _ rfl same rfl rfl)
  | disconnectClient | exchangeError | storeInvalid | leave =>
      rw [phase] at stepped
      cases stepped
      exact .inl (quiet_worker rfl (store false) rfl rfl)
  | storeConnected =>
      rw [phase] at stepped
      cases stepped
      exact .inl (quiet_worker rfl (store true) rfl rfl)
  | exchangeStatus nowC =>
      rw [phase] at stepped
      cases stepped
      refine .inl (quiet_worker rfl (store nowC) rfl ?_)
      split
      · rfl
      · split <;> rfl
  | epollWait | accept | readStatus | left =>
      rw [phase] at stepped
      exact absurd stepped nofun

theorem senderStep_cases {session next : Session} (stepped : session.senderStep = some next) :
    session.Quiet next ∨ session.Wins next := by
  have same := Nat.le_refl session.reports.length
  unfold senderStep at stepped
  cases phase : session.sender with
  | notifying report =>
      rw [phase] at stepped
      cases stepped
      exact notify_sender phase
  | checkShutdown payload =>
      rw [phase] at stepped
      cases stepped
      refine .inl (quiet_sender rfl same rfl ?_)
      split
      · rfl
      · split <;> rfl
  | checkInitialized payload | checkConnected | chooseSocket =>
      rw [phase] at stepped
      cases stepped
      exact .inl (quiet_sender rfl same rfl (by split <;> rfl))
  | disconnect =>
      rw [phase] at stepped
      cases stepped
      exact .inl (quiet_sender rfl (session.setConnected_reports false) rfl rfl)
  | idle | sendmsg =>
      rw [phase] at stepped
      exact absurd stepped nofun

theorem ownerStep_quiet {session next : Session} (stepped : session.ownerStep = some next) :
    session.Quiet next := by
  have same := Nat.le_refl session.claims
  unfold ownerStep at stepped
  cases phase : session.owner with
  | storeInitialized | running | storeShuttingDown | dropClient =>
      rw [phase] at stepped
      cases stepped
      exact ⟨rfl, same⟩
  | disconnect =>
      rw [phase] at stepped
      cases stepped
      refine ⟨rfl, ?_⟩
      unfold claims
      have := session.setConnected_reports false
      exact Nat.add_le_add_right (Nat.add_le_add_right this _) _
  | join =>
      rw [phase] at stepped
      obtain ⟨_, made⟩ := Option.ite_none_right_eq_some.mp stepped
      cases made
      exact ⟨rfl, same⟩
  | cleanup =>
      rw [phase] at stepped
      dsimp only at stepped
      split at stepped
      · cases stepped
        exact ⟨rfl, same⟩
      · cases stepped
        exact ⟨rfl, same⟩
  | closed =>
      rw [phase] at stepped
      exact absurd stepped nofun

theorem dispatch_claimed (cfg : Config) (event : Option EpollEvent) :
    (dispatch cfg event).claimed = 0 := by
  cases event with
  | none => rfl
  | some event =>
      unfold dispatch
      dsimp only
      split
      · rfl
      · split
        · rfl
        · split <;> rfl

theorem guarded_step {session next : Session} {action : SessionAction}
    (guarded : session.Guarded) (unreported : session.UnreportedRearm action)
    (stepped : step session action = some next) : next.Guarded := by
  have same := Nat.le_refl session.reports.length
  cases action with
  | worker =>
      rcases workerStep_cases stepped with quiet | wins | ⟨rearms, kept⟩
      · exact guarded.quiet quiet
      · exact guarded.wins wins
      · have none_claimed := unreported rfl rearms
        rw [none_claimed] at kept
        exact ⟨by omega, fun _ => kept⟩
  | event event =>
      obtain ⟨_, made⟩ := Option.ite_none_right_eq_some.mp stepped
      cases made
      exact guarded.quiet (quiet_worker rfl same rfl (dispatch_claimed _ event))
  | accepted client =>
      obtain ⟨_, made⟩ := Option.ite_none_right_eq_some.mp stepped
      cases made
      exact guarded.quiet (quiet_worker rfl same rfl (by cases client <;> rfl))
  | status nowC =>
      obtain ⟨_, made⟩ := Option.ite_none_right_eq_some.mp stepped
      cases made
      exact guarded.quiet (quiet_worker rfl same rfl rfl)
  | packet payload =>
      obtain ⟨_, made⟩ := Option.ite_none_right_eq_some.mp stepped
      cases made
      exact guarded.quiet (quiet_sender rfl same rfl rfl)
  | sender =>
      rcases senderStep_cases stepped with quiet | wins
      · exact guarded.quiet quiet
      · exact guarded.wins wins
  | sent error =>
      obtain ⟨_, made⟩ := Option.ite_none_right_eq_some.mp stepped
      cases made
      exact guarded.quiet (quiet_sender rfl same rfl (by split <;> rfl))
  | owner => exact guarded.quiet (ownerStep_quiet stepped)

/-- In every run whose steps all meet the condition, a loss is reported at most once for
each episode. -/
theorem loss_reported_once {impl : Impl} {actions : List SessionAction} {finish : Session}
    (unreported : Machine.Along step UnreportedRearm (start impl) actions)
    (executed : Machine.exec step (start impl) actions = some finish) :
    finish.reports.length ≤ 1 := by
  have preserved : ∀ (session : Session) (action : SessionAction) (next : Session),
      session.Guarded → session.UnreportedRearm action → step session action = some next →
        next.Guarded := fun _ _ _ => guarded_step
  have guarded := Machine.exec_invariant_along preserved (guarded_start impl) unreported executed
  have once := guarded.once
  unfold claims at once
  omega

/-- The condition is needed: a caller that clears `notified_lost` behind a report makes
another one as soon as its socket has an error. -/
theorem reported_rearm_repeats {session : Session} (rearms : session.worker = .rearm)
    (caller : session.impl.cfg.callerMode = true) (runs : session.impl.shuttingDown = false)
    (fd : Nat) :
    ∃ finish, Machine.exec step session [.worker, .worker,
        .event (some ⟨fd, true, false, false, false⟩), .worker, .worker, .worker, .worker] =
          some finish ∧
      finish.reports.length = session.reports.length + 1 := by
  simp [step, workerStep, rearms, caller, runs, dispatch, setConnected, notify]

def dialling : Impl where
  sock := some 1
  clientSock := none
  epollId := some 1
  cfg := ⟨true, 6000, true, true⟩
  connected := false
  initialized := false
  shuttingDown := false
  notifiedLost := false
  alreadyCleanedUp := false
  bitrateKbps := 6000

def errorEvent : EpollEvent := ⟨1, true, false, false, false⟩

def writableEvent : EpollEvent := ⟨1, false, false, true, false⟩

/-- The worker sees the socket writable and connected, up to the exchange of
`connected`. -/
def seesConnected : List SessionAction :=
  [.owner, .worker, .event (some writableEvent), .worker, .status true, .worker]

def sendFails : List SessionAction :=
  [.packet (some 1316), .sender, .sender, .sender, .sender, .sent (some .econnlost), .sender,
    .sender, .sender, .sender]

def seesError : List SessionAction :=
  [.worker, .event (some errorEvent), .worker, .worker, .worker]

/-- The connection comes up, is lost and reported by the sender. -/
theorem loss_reported_once_dialling :
    ∃ finish, Machine.exec step (start dialling)
        (seesConnected ++ [.worker] ++ sendFails ++ seesError) = some finish ∧
      finish.reports.length ≤ 1 := by
  have observed : (Machine.exec step (start dialling)
      (seesConnected ++ [.worker] ++ sendFails ++ seesError)).map
        (fun finish => finish.reports) = some [.srtSendmsgConnectionLost] := by
    decide
  obtain ⟨finish, executed, _⟩ := Option.map_eq_some_iff.mp observed
  have unreported : Machine.Along step UnreportedRearm (start dialling)
      (seesConnected ++ [.worker] ++ sendFails ++ seesError) := by
    decide
  exact ⟨finish, executed, loss_reported_once unreported executed⟩

/-- The sender reports between the worker's exchange of `connected` and its store of
`notified_lost`; the error of the same loss is reported again. -/
theorem stale_rearm_reports_twice :
    ∃ finish, Machine.exec step (start dialling)
        (seesConnected ++ sendFails ++ [.worker] ++ seesError ++ [.worker]) = some finish ∧
      finish.reports = [.srtConnectFailed, .srtSendmsgConnectionLost] := by
  apply Option.map_eq_some_iff.mp
  decide

end Session

end RejiStudio.Srt
