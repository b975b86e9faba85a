import RejiStudio.Lib.Machine

/-!
# The SRT output

One `SrtOutput` and the process-wide count of instances behind it.  A socket or an epoll
is a number, or none where it is invalid; the answers of the system and of the SRT library
are arguments of a call.  Host, port and latency only go to the library and are left out.
-/

namespace RejiStudio.Srt

inductive SrtError where
  | easyncsnd
  | easyncrcv
  | easyncfail
  | econnlost
  | econnrej
  | econnfail
  | econnsetup
  | enoconn
  | other
  deriving DecidableEq

/-- The `SRTO_` options of `configure_socket` whose failure it reports. -/
inductive SockOpt where
  | sndsyn
  | rcvsyn
  | tsbpdmode
  | latency
  | transtype
  deriving DecidableEq

structure Config where
  callerMode : Bool
  bandwidthKbps : UInt32
  onConnectionLost : Bool
  onMetrics : Bool
  deriving DecidableEq

structure InitAnswers where
  comInit : Bool
  startup : Bool
  createSocket : Option Nat
  setsockopt : SockOpt → Bool
  inetPton : Bool
  /-- The last error of `srt_connect`, if it fails. -/
  connect : Option SrtError
  bind : Bool
  listen : Bool
  epollCreate : Option Nat
  epollAddUsock : Bool

/-! ## The registry -/

/-- `SrtGlobalRegistry`.  `once` is none until the first `acquire` and keeps `ok_`
afterwards; `started` is the state of the library itself. -/
structure Registry where
  once : Option Bool
  ref : Int
  started : Bool
  deriving DecidableEq

namespace Registry

def fresh : Registry := ⟨none, 0, false⟩

def ok (registry : Registry) : Bool := registry.once.getD false

/-- `std::call_once` around `srt_startup`. -/
def callOnce (registry : Registry) (startup : Bool) : Registry :=
  match registry.once with
  | some _ => registry
  | none => { registry with once := some startup, started := registry.started || startup }

def acquire (registry : Registry) (startup : Bool) : Registry × Bool :=
  let registry := registry.callOnce startup
  if registry.ok then ({ registry with ref := registry.ref + 1 }, true) else (registry, false)

def release (registry : Registry) : Registry × Bool :=
  if registry.ok then ({ registry with ref := registry.ref - 1 }, true) else (registry, false)

def cleanup (registry : Registry) : Registry := { registry with started := false }

/-- `srt_create_socket`; `autoStart` says whether it starts a library that is not. -/
def createSocket (registry : Registry) (autoStart : Bool) : Registry :=
  { registry with started := registry.started || autoStart }

end Registry

/-! ## One output -/

structure Impl where
  sock : Option Nat
  clientSock : Option Nat
  epollId : Option Nat
  cfg : Config
  connected : Bool
  initialized : Bool
  shuttingDown : Bool
  notifiedLost : Bool
  alreadyCleanedUp : Bool
  bitrateKbps : UInt32
  deriving DecidableEq

/-- What a call leaves; `opened` is an `init` that returned true, `cleanedUp` a call of
`srt_cleanup`. -/
structure Called where
  impl : Impl
  registry : Registry
  opened : Bool
  cleanedUp : Bool
  deriving DecidableEq

def configureSocket (setsockopt : SockOpt → Bool) : Bool :=
  setsockopt .sndsyn && setsockopt .rcvsyn && setsockopt .tsbpdmode && setsockopt .latency &&
    setsockopt .transtype

/-- The connect of a caller or the bind and listen of a listener went through; an
asynchronous connect counts. -/
def InitAnswers.attached (answers : InitAnswers) (cfg : Config) : Bool :=
  if cfg.callerMode then
    match answers.connect with
    | none | some .easyncsnd | some .easyncrcv | some .easyncfail => true
    | some _ => false
  else answers.bind && answers.listen

namespace Impl

def fresh : Impl where
  sock := none
  clientSock := none
  epollId := none
  cfg := ⟨false, 0, false, false⟩
  connected := false
  initialized := false
  shuttingDown := false
  notifiedLost := false
  alreadyCleanedUp := false
  bitrateKbps := 0

/-- The stores of `init_internal` behind `acquire`. -/
def configure (impl : Impl) (cfg : Config) : Impl :=
  { impl with cfg := cfg, bitrateKbps := cfg.bandwidthKbps }

@[simp]
theorem configure_cfg (impl : Impl) (cfg : Config) : (impl.configure cfg).cfg = cfg := rfl

@[simp]
theorem configure_initialized (impl : Impl) (cfg : Config) :
    (impl.configure cfg).initialized = impl.initialized := rfl

/-- `init_internal` from `srt_create_socket` on. -/
def openSocket (impl : Impl) (answers : InitAnswers) : Impl × Bool :=
  match answers.createSocket with
  | none => ({ impl with sock := none }, false)
  | some socket =>
      if !configureSocket answers.setsockopt then ({ impl with sock := none }, false)
      else if !answers.inetPton then ({ impl with sock := none }, false)
      else if !answers.attached impl.cfg then ({ impl with sock := none }, false)
      else
        match answers.epollCreate with
        | none => ({ impl with sock := none, epollId := none }, false)
        | some epoll =>
            if !answers.epollAddUsock then ({ impl with sock := none, epollId := none }, false)
            else
              ({ impl with
                  sock := some socket, epollId := some epoll, shuttingDown := false,
                  notifiedLost := false, initialized := true }, true)

def initInternal (impl : Impl) (registry : Registry) (autoStart : Bool) (cfg : Config)
    (answers : InitAnswers) : Called :=
  if impl.initialized then ⟨impl, registry, false, false⟩
  else if !cfg.onConnectionLost || !cfg.onMetrics then ⟨impl, registry, false, false⟩
  else if !answers.comInit then ⟨impl, registry, false, false⟩
  else if !(registry.acquire answers.startup).2 then
    ⟨impl, (registry.acquire answers.startup).1, false, false⟩
  else
    ⟨((impl.configure cfg).openSocket answers).1,
      (registry.acquire answers.startup).1.createSocket autoStart,
      ((impl.configure cfg).openSocket answers).2, false⟩

def prepareShutdown (impl : Impl) : Impl :=
  if impl.initialized then
    { impl with initialized := false, shuttingDown := true, connected := false }
  else impl

def doSehCleanup (impl : Impl) (registry : Registry) : Called :=
  if impl.alreadyCleanedUp then ⟨impl, registry, false, false⟩
  else
    let impl :=
      { impl with sock := none, clientSock := none, epollId := none, alreadyCleanedUp := true }
    let registry := registry.release.1
    if registry.ref = 0 then ⟨impl, registry.cleanup, false, true⟩
    else ⟨impl, registry, false, false⟩

def shutdown (impl : Impl) (registry : Registry) : Called :=
  impl.prepareShutdown.doSehCleanup registry

/-- `~SrtOutput` with the `~Impl` behind it. -/
def destroy (impl : Impl) (registry : Registry) : Called :=
  let closed := impl.shutdown registry
  if closed.impl.initialized then closed.impl.shutdown closed.registry else closed

/-- `init` takes the count. -/
def Acquires (impl : Impl) (registry : Registry) (cfg : Config) (answers : InitAnswers) : Prop :=
  impl.initialized = false ∧ cfg.onConnectionLost = true ∧ cfg.onMetrics = true ∧
    answers.comInit = true ∧ (registry.callOnce answers.startup).ok = true

instance (impl : Impl) (registry : Registry) (cfg : Config) (answers : InitAnswers) :
    Decidable (impl.Acquires registry cfg answers) :=
  inferInstanceAs (Decidable (_ ∧ _ ∧ _ ∧ _ ∧ _))

end Impl

/-- Every step of `init` behind `acquire` succeeds. -/
def InitAnswers.Opens (answers : InitAnswers) (cfg : Config) : Prop :=
  answers.createSocket.isSome = true ∧ configureSocket answers.setsockopt = true ∧
    answers.inetPton = true ∧ answers.attached cfg = true ∧
    answers.epollCreate.isSome = true ∧ answers.epollAddUsock = true

instance (answers : InitAnswers) (cfg : Config) : Decidable (answers.Opens cfg) :=
  inferInstanceAs (Decidable (_ ∧ _ ∧ _ ∧ _ ∧ _ ∧ _))

/-! ## What the calls do -/

namespace Registry

variable (registry : Registry)

@[simp]
theorem callOnce_ref (startup : Bool) : (registry.callOnce startup).ref = registry.ref := by
  unfold callOnce
  cases registry.once with
  | none => rfl
  | some _ => rfl

theorem callOnce_ok (startup : Bool) (held : registry.ok = true) :
    registry.callOnce startup = registry := by
  unfold callOnce
  cases first : registry.once with
  | none => simp [ok, first] at held
  | some _ => rfl

theorem acquire_of_ok {startup : Bool} (held : (registry.callOnce startup).ok = true) :
    registry.acquire startup =
      ({ registry.callOnce startup with ref := registry.ref + 1 }, true) := by
  simp [acquire, held]

theorem acquire_of_not_ok {startup : Bool} (failed : (registry.callOnce startup).ok = false) :
    registry.acquire startup = (registry.callOnce startup, false) := by
  simp [acquire, failed]

@[simp]
theorem release_ok : registry.release.1.ok = registry.ok := by
  unfold release
  split <;> rfl

theorem release_ref : registry.release.1.ref = registry.ref - registry.ok.toInt := by
  unfold release
  cases held : registry.ok with
  | true => simp
  | false => simp

end Registry

namespace Impl

theorem openSocket_opens {impl : Impl} {answers : InitAnswers} (opens : answers.Opens impl.cfg) :
    (impl.openSocket answers).2 = true ∧ (impl.openSocket answers).1.initialized = true := by
  obtain ⟨created, configured, parsed, attached, epoll, added⟩ := opens
  obtain ⟨socket, created⟩ := Option.isSome_iff_exists.mp created
  obtain ⟨handle, epoll⟩ := Option.isSome_iff_exists.mp epoll
  simp [openSocket, created, configured, parsed, attached, epoll, added]

theorem openSocket_fails {impl : Impl} {answers : InitAnswers}
    (fails : ¬ answers.Opens impl.cfg) :
    (impl.openSocket answers).2 = false ∧
      (impl.openSocket answers).1.initialized = impl.initialized := by
  unfold openSocket
  cases created : answers.createSocket with
  | none => exact ⟨rfl, rfl⟩
  | some socket =>
      cases configured : configureSocket answers.setsockopt with
      | false => exact ⟨rfl, rfl⟩
      | true =>
          cases parsed : answers.inetPton with
          | false => exact ⟨rfl, rfl⟩
          | true =>
              cases attached : answers.attached impl.cfg with
              | false => exact ⟨rfl, rfl⟩
              | true =>
                  cases epoll : answers.epollCreate with
                  | none => exact ⟨rfl, rfl⟩
                  | some handle =>
                      cases added : answers.epollAddUsock with
                      | false => exact ⟨rfl, rfl⟩
                      | true =>
                          refine absurd ?_ fails
                          simp [InitAnswers.Opens, created, configured, parsed, attached, epoll,
                            added]

end Impl

end RejiStudio.Srt
