import RejiStudio.Ws.CStrBounded
import RejiStudio.Ws.Gate

/-!
# The password of the WebSocket server

`rj_set_ws_password` stores what `cstr_bounded` reads, and a connection takes a copy when
it is accepted.  A string without a NUL within the bound is read as none, which is also
how an open server is stored.
-/

namespace RejiStudio.Ws

open RejiStudio.Lib

/-- `ws` is there once the monitor was started; `accepted` is history. -/
structure PasswordServer where
  ws : Option WsState
  /-- A writer panicked with the lock of the password in its hands. -/
  poisoned : Bool
  accepted : List Connection

inductive PasswordAction where
  | startMonitor (ws : WsState)
  | setPassword (password : Option (Nat → UInt8))
  | accept (mode : WireMode) (salt challenge : String) (sends : List Bool)
  /-- The rest of the shared state changes. -/
  | environment (ws : WsState)

def PasswordAction.sets : PasswordAction → Bool
  | .setPassword _ => true
  | .startMonitor _ | .accept _ _ _ _ | .environment _ => false

namespace PasswordServer

def startMonitor (server : PasswordServer) (ws : WsState) : PasswordServer :=
  match server.ws with
  | some _ => server
  | none => { server with ws := some { ws with password := none } }

def rjSetWsPassword (server : PasswordServer) (password : Option (Nat → UInt8)) :
    PasswordServer × Bool :=
  match server.ws with
  | none => (server, false)
  | some ws =>
      let pw := (cstrBounded password maxFfiStrLen).filter (· ≠ "")
      if server.poisoned then (server, false)
      else ({ server with ws := some { ws with password := pw } }, true)

/-- What a connection reads; a poisoned lock counts as no password. -/
def readable (server : PasswordServer) (ws : WsState) : WsState :=
  if server.poisoned then { ws with password := none } else ws

def step (platform : Platform) : Machine PasswordServer PasswordAction
  | server, .startMonitor ws => some (server.startMonitor ws)
  | server, .setPassword password => some (server.rjSetWsPassword password).1
  | server, .accept mode salt challenge sends =>
      server.ws.map fun ws =>
        { server with
          accepted := server.accepted ++
            [Connection.accept platform mode (server.readable ws) salt challenge sends] }
  | server, .environment ws =>
      server.ws.map fun old => { server with ws := some { ws with password := old.password } }

end PasswordServer

/-- With a password the connection stays locked until an Identify verifies against it;
without one it is open from the start. -/
def Connection.Demands (platform : Platform) (connection : Connection) : Option String → Prop
  | some password => ∃ mode salt challenge, ∀ events finish,
      (∀ event ∈ events, ¬ Verifies platform mode ⟨salt, challenge, password⟩ event) →
        Machine.exec (Connection.step platform) connection events = some finish →
          finish.Locked mode ⟨salt, challenge, password⟩
  | none => connection.Unguarded

def storedPassword (text : List UInt8) : Option String :=
  if text.length < maxFfiStrLen then some (String.ofList (LossyText.decode text)) else none

/-! ## The password in force -/

theorem accept_demands (platform : Platform) (mode : WireMode) {ws : WsState}
    (nonempty : ws.password ≠ some "") (salt challenge : String) (sends : List Bool) :
    (Connection.accept platform mode ws salt challenge sends).Demands platform ws.password := by
  cases stored : ws.password with
  | none => exact Connection.accept_unguarded mode (.inl stored) salt challenge sends
  | some password =>
      have given : password ≠ "" := by
        rintro rfl
        exact nonempty stored
      refine ⟨mode, salt, challenge, ?_⟩
      intro events finish unverified executed
      exact Connection.exec_locked
        (Connection.accept_locked mode stored given salt challenge sends) unverified executed

theorem storedPassword_ne_empty {text : List UInt8} (nonempty : text ≠ []) :
    storedPassword text ≠ some "" := by
  cases text with
  | nil => exact absurd rfl nonempty
  | cons first rest =>
      unfold storedPassword
      split
      · rw [LossyText.decode]
        split <;> simp
      · simp

/-- The empty string is filtered out, and a nonempty text is not read as one. -/
theorem CString.read_password {bytes : Nat → UInt8} {text : List UInt8}
    (cstring : CString bytes text) (nonempty : text ≠ []) :
    (Ws.cstrBounded (some bytes) maxFfiStrLen).filter (· ≠ "") = storedPassword text := by
  have given := storedPassword_ne_empty nonempty
  rw [cstring.cstrBounded]
  change (storedPassword text).filter (· ≠ "") = storedPassword text
  cases stored : storedPassword text with
  | none => rfl
  | some password =>
      rw [stored] at given
      have filled : password ≠ "" := fun empty => given (congrArg some empty)
      simp [filled]

namespace PasswordServer

theorem rjSetWsPassword_cases (server : PasswordServer) {bytes : Nat → UInt8}
    {text : List UInt8} (cstring : CString bytes text) (nonempty : text ≠ []) :
    server.rjSetWsPassword (some bytes) = (server, false) ∨
      ∃ ws : WsState, server.poisoned = false ∧
        server.rjSetWsPassword (some bytes) =
          ({ server with ws := some { ws with password := storedPassword text } }, true) := by
  unfold rjSetWsPassword
  cases started : server.ws with
  | none => exact .inl rfl
  | some ws =>
      dsimp only
      rw [cstring.read_password nonempty]
      cases poisoned : server.poisoned with
      | true => exact .inl rfl
      | false => exact .inr ⟨ws, rfl, rfl⟩

/-- The connections accepted since `before`, all of them under the password, which is
still in force. -/
structure InForce (platform : Platform) (before : PasswordServer) (password : Option String)
    (server : PasswordServer) : Prop where
  readable : server.poisoned = false
  stored : ∃ ws, server.ws = some ws ∧ ws.password = password
  demanded : ∃ new, server.accepted = before.accepted ++ new ∧
    ∀ connection ∈ new, connection.Demands platform password

/-- The step lemma: nothing but another call replaces the password. -/
theorem InForce.step {platform : Platform} {before server next : PasswordServer}
    {password : Option String} {action : PasswordAction}
    (inForce : InForce platform before password server) (nonempty : password ≠ some "")
    (keeps : action.sets = false)
    (stepped : PasswordServer.step platform server action = some next) :
    InForce platform before password next := by
  obtain ⟨readable, ⟨ws, started, stored⟩, ⟨new, accepted, demanded⟩⟩ := inForce
  cases action with
  | setPassword _ => exact absurd keeps nofun
  | startMonitor other =>
      cases stepped
      rw [startMonitor, started]
      exact ⟨readable, ⟨ws, started, stored⟩, ⟨new, accepted, demanded⟩⟩
  | environment other =>
      rw [PasswordServer.step, started] at stepped
      cases stepped
      exact ⟨readable, ⟨_, rfl, stored⟩, ⟨new, accepted, demanded⟩⟩
  | accept mode salt challenge sends =>
      rw [PasswordServer.step, started] at stepped
      cases stepped
      have unpoisoned : server.readable ws = ws := by
        rw [PasswordServer.readable, readable]
        rfl
      refine ⟨readable, ⟨ws, rfl, stored⟩,
        ⟨new ++ [Connection.accept platform mode ws salt challenge sends], ?_, ?_⟩⟩
      · dsimp only
        rw [unpoisoned, accepted, List.append_assoc]
      · intro connection member
        rcases List.mem_append.mp member with old | last
        · exact demanded connection old
        · obtain rfl := List.mem_singleton.mp last
          rw [← stored] at nonempty ⊢
          exact accept_demands platform mode nonempty salt challenge sends

/-- A call that returns false changes nothing.  Until the next call, the connections
accepted after one that returned true are locked by the text, or open if it has no NUL
within the bound; valid text is stored as it is. -/
theorem password_in_force_until_next_set (platform : Platform) (server : PasswordServer)
    {bytes : Nat → UInt8} {text : List UInt8} (cstring : CString bytes text)
    (nonempty : text ≠ []) :
    ((server.rjSetWsPassword (some bytes)).2 = false →
      (server.rjSetWsPassword (some bytes)).1 = server) ∧
    ((server.rjSetWsPassword (some bytes)).2 = true → ∀ actions finish,
      (∀ action ∈ actions, action.sets = false) →
      Machine.exec (step platform) (server.rjSetWsPassword (some bytes)).1 actions =
        some finish →
      ∃ new, finish.accepted = server.accepted ++ new ∧ ∀ connection ∈ new,
        connection.Demands platform (storedPassword text)) ∧
    ∀ characters, text = LossyText.encode characters → text.length < maxFfiStrLen →
      storedPassword text = some (String.ofList characters) := by
  refine ⟨?_, ?_, ?_⟩
  · intro refused
    rcases server.rjSetWsPassword_cases cstring nonempty with same | ⟨ws, _, stored⟩
    · rw [same]
    · rw [stored] at refused
      exact absurd refused nofun
  · intro done actions finish keeps executed
    rcases server.rjSetWsPassword_cases cstring nonempty with same | ⟨ws, readable, stored⟩
    · rw [same] at done
      exact absurd done nofun
    · rw [stored] at executed
      have along : Machine.Along (step platform) (fun _ action => action.sets = false)
          { server with ws := some { ws with password := storedPassword text } } actions :=
        Machine.along_of_forall keeps
      have initially : InForce platform server (storedPassword text)
          { server with ws := some { ws with password := storedPassword text } } :=
        ⟨readable, ⟨_, rfl, rfl⟩, ⟨[], (List.append_nil _).symm, List.forall_mem_nil _⟩⟩
      have preserved : ∀ (state : PasswordServer) (action : PasswordAction)
          (next : PasswordServer), InForce platform server (storedPassword text) state →
            action.sets = false → step platform state action = some next →
              InForce platform server (storedPassword text) next := by
        intro state action next inForce keeps stepped
        exact inForce.step (storedPassword_ne_empty nonempty) keeps stepped
      exact (Machine.exec_invariant_along preserved initially along executed).demanded
  · rintro characters rfl short
    rw [storedPassword, if_pos short, LossyText.decode_encode]

def guarded : PasswordServer := ⟨some Connection.guardedState, false, []⟩

def acceptOne : List PasswordAction := [.accept .json "c1" "c2" []]

theorem password_in_force_accepted :
    ∃ finish connection,
      Machine.exec (step Connection.handshakePlatform)
        (guarded.rjSetWsPassword (some (terminate [0x61, 0x62, 0x63]))).1 acceptOne =
          some finish ∧
      finish.accepted = [connection] ∧
      connection.Demands Connection.handshakePlatform (some "abc") := by
  have nonzero : ∀ byte ∈ ([0x61, 0x62, 0x63] : List UInt8), byte ≠ 0 := by
    intro byte member
    simp only [List.mem_cons, List.not_mem_nil, or_false] at member
    rcases member with rfl | rfl | rfl <;> decide
  have cstring : CString (terminate [0x61, 0x62, 0x63]) [0x61, 0x62, 0x63] :=
    cstring_terminate nonzero
  obtain ⟨_, inForce, exact_text⟩ :=
    password_in_force_until_next_set Connection.handshakePlatform guarded cstring nofun
  have done : (guarded.rjSetWsPassword (some (terminate [0x61, 0x62, 0x63]))).2 = true := rfl
  have stored : storedPassword [0x61, 0x62, 0x63] = some "abc" :=
    exact_text ['a', 'b', 'c'] (by decide) (by decide)
  obtain ⟨new, accepted, demanded⟩ := inForce done acceptOne _ (by decide) rfl
  have one : new = [_] := (List.nil_append new).symm.trans accepted.symm
  rw [stored] at demanded
  exact ⟨_, _, rfl, rfl, demanded _ (by rw [one]; exact List.mem_singleton_self _)⟩

/-- A password of 4096 bytes opens a server that asked for one. -/
theorem long_password_opens_server :
    ∃ next finish connection,
      guarded.rjSetWsPassword (some (terminate (List.replicate 4096 0x61))) = (next, true) ∧
      Machine.exec (step Connection.handshakePlatform) next acceptOne = some finish ∧
      finish.accepted = [connection] ∧
      connection.session.authenticated = true ∧ connection.session.auth = none := by
  have nonzero : ∀ byte ∈ List.replicate 4096 (0x61 : UInt8), byte ≠ 0 := by
    intro byte member
    rw [List.eq_of_mem_replicate member]
    decide
  have nonempty : List.replicate 4096 (0x61 : UInt8) ≠ [] := by
    intro empty
    have length := congrArg List.length empty
    rw [List.length_replicate, List.length_nil] at length
    exact absurd length (Nat.succ_ne_zero 4095)
  have unstored : storedPassword (List.replicate 4096 0x61) = none := by
    rw [storedPassword, List.length_replicate]
    exact if_neg (Nat.lt_irrefl _)
  have done : guarded.rjSetWsPassword (some (terminate (List.replicate 4096 0x61))) =
      (⟨some { Connection.guardedState with password := none }, false, []⟩, true) := by
    rw [rjSetWsPassword, (cstring_terminate nonzero).read_password nonempty, unstored]
    rfl
  have opened := @Connection.accept_unguarded Connection.handshakePlatform .json
    { Connection.guardedState with password := none } (.inl rfl) "c1" "c2" []
  exact ⟨_, _, _, done, rfl, rfl, opened.authenticated, opened.auth⟩

end PasswordServer

end RejiStudio.Ws
