import Mathlib.Algebra.Order.Ring.Int
import Mathlib.Data.List.Basic
import Mathlib.Logic.Function.Basic
import Mathlib.Tactic.Common

/-!
# Connecting to the first address that answers

`happy_eyeballs_connect` resolves a name and tries the candidates one after the other, with
blocking sockets.  The answers of the system are choices of the environment; the times that
the context keeps are left out.
-/

namespace RejiStudio.Rtmp

/-- The sockets of the process.  A send on an open socket takes the next answer, and succeeds
once they are used up; the counts are history. -/
structure Net where
  opened : Nat
  closes : Nat → Nat
  sends : List Bool
  sendErrors : Nat

namespace Net

def start (sends : List Bool) : Net := ⟨0, fun _ => 0, sends, 0⟩

def socket (net : Net) : Net := { net with opened := net.opened + 1 }

def closesocket (net : Net) (socket : Nat) : Net :=
  { net with closes := Function.update net.closes socket (net.closes socket + 1) }

end Net

/-- An address of the server, and what `socket`, `bind` and `connect` answer for it. -/
structure Candidate where
  address : Nat
  socketError : Option Int32
  bindError : Option Int32
  connectError : Option Int32
  deriving DecidableEq

/-- `Ctx`. -/
structure HappyEyeballs where
  socket : Option Nat
  remote : Option Nat
  hasBind : Bool
  err : Int32
  connected : Bool
  deriving DecidableEq

def wsaeinval : Int32 := 10022

def wsahostNotFound : Int32 := 11001

namespace HappyEyeballs

def create : HappyEyeballs := ⟨none, none, false, 0, false⟩

def setBindAddr (ctx : HappyEyeballs) (address : Bool) : HappyEyeballs :=
  { ctx with hasBind := address }

/-- The loop over the candidates.  Every socket that does not come to a connection is closed. -/
def tryCandidates : List Candidate → HappyEyeballs → Net → Int32 × HappyEyeballs × Net
  | [], ctx, net => (-1, ctx, net)
  | candidate :: rest, ctx, net =>
      match candidate.socketError with
      | some err => tryCandidates rest { ctx with err := err } net
      | none =>
          match if ctx.hasBind then candidate.bindError else none with
          | some err =>
              tryCandidates rest { ctx with err := err } (net.socket.closesocket net.opened)
          | none =>
              match candidate.connectError with
              | some err =>
                  tryCandidates rest { ctx with err := err } (net.socket.closesocket net.opened)
              | none =>
                  (0,
                    { ctx with
                      socket := some net.opened
                      remote := some candidate.address
                      connected := true
                      err := 0 },
                    net.socket)

/-- `happy_eyeballs_connect`; `getaddrinfo` answers with an error or with candidates. -/
def connect (ctx : HappyEyeballs) (host : Bool) (port : Int32)
    (resolution : Except Int32 (List Candidate)) (net : Net) : Int32 × HappyEyeballs × Net :=
  if host = false then (-wsaeinval, ctx, net)
  else if port ≤ 0 ∨ 65535 < port then (-wsaeinval, ctx, net)
  else
    match resolution with
    | .error gai => (-1, { ctx with err := gai }, net)
    | .ok [] => (-1, { ctx with err := wsahostNotFound }, net)
    | .ok (candidate :: rest) => tryCandidates (candidate :: rest) ctx net

def getSocketFd (ctx : HappyEyeballs) : Option Nat :=
  if ctx.connected = false then none else ctx.socket

end HappyEyeballs

namespace Candidate

def failure (candidate : Candidate) (hasBind : Bool) : Option Int32 :=
  match candidate.socketError with
  | some err => some err
  | none =>
      match if hasBind then candidate.bindError else none with
      | some err => some err
      | none => candidate.connectError

def reachable (hasBind : Bool) (candidate : Candidate) : Bool :=
  (candidate.failure hasBind).isNone

end Candidate

namespace HappyEyeballs

structure SameBelow (net after : Net) : Prop where
  opened : net.opened ≤ after.opened
  closes : ∀ socket < net.opened, after.closes socket = net.closes socket
  sends : after.sends = net.sends
  sendErrors : after.sendErrors = net.sendErrors

/-- No socket has been closed that is not open yet. -/
def Fresh (net : Net) : Prop := ∀ socket, net.opened ≤ socket → net.closes socket = 0

/-- What a failed attempt leaves: its socket, if it had one, is closed once. -/
structure Spent (net after : Net) : Prop where
  below : SameBelow net after
  fresh : Fresh after
  closed : ∀ socket, net.opened ≤ socket → socket < after.opened → after.closes socket = 1

theorem spent_refl {net : Net} (fresh : Fresh net) : Spent net net where
  below := ⟨Nat.le_refl _, fun _ _ => rfl, rfl, rfl⟩
  fresh := fresh
  closed := fun _ above below => absurd below (Nat.not_lt.mpr above)

theorem spent_close {net : Net} (fresh : Fresh net) :
    Spent net (net.socket.closesocket net.opened) := by
  have unused : net.closes net.opened = 0 := fresh net.opened (Nat.le_refl _)
  constructor
  case below =>
    refine ⟨Nat.le_succ _, ?_, rfl, rfl⟩
    intro socket before
    exact Function.update_of_ne (Nat.ne_of_lt before) _ _
  case fresh =>
    intro socket above
    have different : socket ≠ net.opened := Nat.ne_of_gt (Nat.lt_of_succ_le above)
    exact (Function.update_of_ne different _ _).trans (fresh socket (Nat.le_of_succ_le above))
  case closed =>
    intro socket above before
    obtain rfl : socket = net.opened := Nat.le_antisymm (Nat.le_of_lt_succ before) above
    change Function.update net.closes net.opened (net.closes net.opened + 1) net.opened = 1
    rw [Function.update_self, unused]

theorem Spent.trans {first second third : Net} (before : Spent first second)
    (after : Spent second third) : Spent first third where
  below :=
    { opened := before.below.opened.trans after.below.opened
      closes := by
        intro socket below
        have within := Nat.lt_of_lt_of_le below before.below.opened
        exact (after.below.closes socket within).trans (before.below.closes socket below)
      sends := after.below.sends.trans before.below.sends
      sendErrors := after.below.sendErrors.trans before.below.sendErrors }
  fresh := after.fresh
  closed := by
    intro socket above below
    by_cases early : socket < second.opened
    · exact (after.below.closes socket early).trans (before.closed socket above early)
    · exact after.closed socket (Nat.le_of_not_lt early) below

/-- What the loop does: with a reachable candidate it stops at the first one, with its socket
open; without one the error of the last candidate stays. -/
def Outcome (candidates : List Candidate) (ctx : HappyEyeballs) (net : Net)
    (outcome : Int32 × HappyEyeballs × Net) : Prop :=
  match candidates.find? (Candidate.reachable ctx.hasBind) with
  | some candidate => ∃ spent, Spent net spent ∧
      outcome = (0, ⟨some spent.opened, some candidate.address, ctx.hasBind, 0, true⟩,
        spent.socket)
  | none => ∃ spent, Spent net spent ∧
      outcome = (-1, { ctx with
        err := (candidates.getLast?.bind fun last => last.failure ctx.hasBind).getD ctx.err },
        spent)

theorem Outcome.skip {candidate : Candidate} {rest : List Candidate} {ctx : HappyEyeballs}
    {net spent : Net} {err : Int32} {outcome : Int32 × HappyEyeballs × Net}
    (failure : candidate.failure ctx.hasBind = some err) (gone : Spent net spent)
    (later : Outcome rest { ctx with err := err } spent outcome) :
    Outcome (candidate :: rest) ctx net outcome := by
  have unreachable : ¬ Candidate.reachable ctx.hasBind candidate = true := by
    rw [Candidate.reachable, failure]
    exact Bool.false_ne_true
  unfold Outcome at later ⊢
  rw [List.find?_cons_of_neg unreachable]
  dsimp only at later
  cases found : rest.find? (Candidate.reachable ctx.hasBind) with
  | some reached =>
      rw [found] at later
      obtain ⟨last, spentLater, result⟩ := later
      exact ⟨last, gone.trans spentLater, result⟩
  | none =>
      rw [found] at later
      obtain ⟨last, spentLater, result⟩ := later
      refine ⟨last, gone.trans spentLater, ?_⟩
      rw [result]
      cases rest with
      | nil => simp [failure]
      | cons next others =>
          have unreached : ∀ other ∈ next :: others, (other.failure ctx.hasBind).isSome := by
            intro other inside
            have missed := List.find?_eq_none.mp found other inside
            rw [Candidate.reachable, Option.isNone_iff_eq_none] at missed
            exact Option.isSome_iff_ne_none.mpr missed
          obtain ⟨final, finalEq⟩ : ∃ final, (next :: others).getLast? = some final :=
            ⟨_, List.getLast?_eq_some_getLast (List.cons_ne_nil _ _)⟩
          have inside : final ∈ next :: others := List.mem_of_getLast? finalEq
          obtain ⟨code, codeEq⟩ := Option.isSome_iff_exists.mp (unreached final inside)
          rw [List.getLast?_cons_cons, finalEq]
          simp [codeEq]

theorem tryCandidates_outcome (candidates : List Candidate) (ctx : HappyEyeballs) {net : Net}
    (fresh : Fresh net) : Outcome candidates ctx net (tryCandidates candidates ctx net) := by
  induction candidates generalizing ctx net with
  | nil => exact ⟨net, spent_refl fresh, rfl⟩
  | cons candidate rest inductionHypothesis =>
      unfold tryCandidates
      cases socketError : candidate.socketError with
      | some err =>
          have failure : candidate.failure ctx.hasBind = some err := by
            simp [Candidate.failure, socketError]
          exact Outcome.skip failure (spent_refl fresh) (inductionHypothesis _ fresh)
      | none =>
          dsimp only
          have closed := spent_close fresh
          cases bindError : (if ctx.hasBind then candidate.bindError else none) with
          | some err =>
              have failure : candidate.failure ctx.hasBind = some err := by
                simp [Candidate.failure, socketError, bindError]
              exact Outcome.skip failure closed (inductionHypothesis _ closed.fresh)
          | none =>
              cases connectError : candidate.connectError with
              | some err =>
                  have failure : candidate.failure ctx.hasBind = some err := by
                    simp [Candidate.failure, socketError, bindError, connectError]
                  exact Outcome.skip failure closed (inductionHypothesis _ closed.fresh)
              | none =>
                  have reachable : Candidate.reachable ctx.hasBind candidate = true := by
                    simp [Candidate.reachable, Candidate.failure, socketError, bindError,
                      connectError]
                  unfold Outcome
                  rw [List.find?_cons_of_pos reachable]
                  exact ⟨net, spent_refl fresh, rfl⟩

/-- The parameters that `happy_eyeballs_connect` takes to the resolver. -/
def Resolvable (host : Bool) (port : Int32) : Prop :=
  host = true ∧ 0 < port ∧ port ≤ 65535

instance (host : Bool) (port : Int32) : Decidable (Resolvable host port) :=
  inferInstanceAs (Decidable (host = true ∧ 0 < port ∧ port ≤ 65535))

def answering (hasBind : Bool) : Except Int32 (List Candidate) → Option Candidate
  | .error _ => none
  | .ok candidates => candidates.find? (Candidate.reachable hasBind)

/-- The error of a connection that no candidate answers: that of the resolver, or that of the
last candidate. -/
def lastError (hasBind : Bool) : Except Int32 (List Candidate) → Int32
  | .error gai => gai
  | .ok candidates =>
      (candidates.getLast?.bind fun last => last.failure hasBind).getD wsahostNotFound

theorem connect_unresolvable (ctx : HappyEyeballs) {host : Bool} {port : Int32}
    (resolution : Except Int32 (List Candidate)) (net : Net)
    (refused : ¬ Resolvable host port) :
    connect ctx host port resolution net = (-wsaeinval, ctx, net) := by
  unfold connect
  by_cases named : host = false
  · rw [if_pos named]
  · rw [if_neg named]
    by_cases range : port ≤ 0 ∨ 65535 < port
    · rw [if_pos range]
    · obtain ⟨positive, bounded⟩ := not_or.mp range
      exact absurd
        ⟨Bool.eq_true_of_not_eq_false named, Int32.not_le.mp positive, Int32.not_lt.mp bounded⟩
        refused

theorem connect_resolvable (ctx : HappyEyeballs) {host : Bool} {port : Int32}
    (resolution : Except Int32 (List Candidate)) (net : Net)
    (accepted : Resolvable host port) :
    connect ctx host port resolution net =
      match resolution with
      | .error gai => (-1, { ctx with err := gai }, net)
      | .ok [] => (-1, { ctx with err := wsahostNotFound }, net)
      | .ok (candidate :: rest) => tryCandidates (candidate :: rest) ctx net := by
  obtain ⟨named, positive, bounded⟩ := accepted
  have inRange : ¬ (port ≤ 0 ∨ 65535 < port) := by
    rintro (below | above)
    · exact absurd below (Int32.not_le.mpr positive)
    · exact absurd above (Int32.not_lt.mpr bounded)
  unfold connect
  rw [if_neg (by simp [named]), if_neg inRange]

/-- A connection either fails with all its sockets closed, or stands at its last socket. -/
theorem connect_outcome (ctx : HappyEyeballs) (host : Bool) (port : Int32)
    (resolution : Except Int32 (List Candidate)) {net : Net} (fresh : Fresh net) :
    (∃ code err spent, code ≠ 0 ∧ Spent net spent ∧
        connect ctx host port resolution net = (code, { ctx with err := err }, spent)) ∨
      ∃ address spent, Spent net spent ∧
        connect ctx host port resolution net =
          (0, ⟨some spent.opened, some address, ctx.hasBind, 0, true⟩, spent.socket) := by
  by_cases accepted : Resolvable host port
  case neg =>
    refine Or.inl ⟨-wsaeinval, ctx.err, net, by decide, spent_refl fresh, ?_⟩
    exact connect_unresolvable ctx resolution net accepted
  case pos =>
    rw [connect_resolvable ctx resolution net accepted]
    cases resolution with
    | error gai => exact Or.inl ⟨-1, gai, net, by decide, spent_refl fresh, rfl⟩
    | ok candidates =>
        cases candidates with
        | nil => exact Or.inl ⟨-1, wsahostNotFound, net, by decide, spent_refl fresh, rfl⟩
        | cons first rest =>
            have outcome := tryCandidates_outcome (first :: rest) ctx fresh
            unfold Outcome at outcome
            cases found : (first :: rest).find? (Candidate.reachable ctx.hasBind) with
            | none =>
                rw [found] at outcome
                obtain ⟨spent, gone, result⟩ := outcome
                exact Or.inl ⟨-1, _, spent, by decide, gone, result⟩
            | some candidate =>
                rw [found] at outcome
                obtain ⟨spent, gone, result⟩ := outcome
                exact Or.inr ⟨candidate.address, spent, gone, result⟩

theorem lastFailure_isSome {candidate : Candidate} {rest : List Candidate} {hasBind : Bool}
    (unreached : (candidate :: rest).find? (Candidate.reachable hasBind) = none) :
    (((candidate :: rest).getLast?.bind fun last => last.failure hasBind)).isSome := by
  have lastEq := List.getLast?_eq_some_getLast (List.cons_ne_nil candidate rest)
  rw [lastEq, Option.bind_some]
  have missed := List.find?_eq_none.mp unreached _ (List.getLast_mem (List.cons_ne_nil _ _))
  rw [Candidate.reachable, Option.isNone_iff_eq_none] at missed
  exact Option.isSome_iff_ne_none.mpr missed

/-- A connection stands at the first reachable candidate, with its socket open, and every
socket of the candidates before it is closed once.  Where none answers no socket stays open,
and the error is that of the last candidate. -/
theorem connects_to_first_reachable (ctx : HappyEyeballs) (host : Bool) (port : Int32)
    (resolution : Except Int32 (List Candidate)) (net : Net) (fresh : Fresh net) :
    (¬ Resolvable host port →
      connect ctx host port resolution net = (-wsaeinval, ctx, net)) ∧
      (Resolvable host port → ∀ candidate, answering ctx.hasBind resolution = some candidate →
        ∃ spent, Spent net spent ∧
          connect ctx host port resolution net =
            (0, ⟨some spent.opened, some candidate.address, ctx.hasBind, 0, true⟩,
              spent.socket)) ∧
      (Resolvable host port → answering ctx.hasBind resolution = none →
        ∃ spent, Spent net spent ∧
          connect ctx host port resolution net =
            (-1, { ctx with err := lastError ctx.hasBind resolution }, spent)) := by
  refine ⟨connect_unresolvable ctx resolution net, ?_, ?_⟩
  · intro accepted candidate answered
    rw [connect_resolvable ctx resolution net accepted]
    cases resolution with
    | error gai => cases answered
    | ok candidates =>
        cases candidates with
        | nil => cases answered
        | cons first rest =>
            have outcome := tryCandidates_outcome (first :: rest) ctx fresh
            unfold Outcome at outcome
            rw [show (first :: rest).find? (Candidate.reachable ctx.hasBind) = some candidate
              from answered] at outcome
            exact outcome
  · intro accepted unanswered
    rw [connect_resolvable ctx resolution net accepted]
    cases resolution with
    | error gai => exact ⟨net, spent_refl fresh, rfl⟩
    | ok candidates =>
        cases candidates with
        | nil => exact ⟨net, spent_refl fresh, rfl⟩
        | cons first rest =>
            have outcome := tryCandidates_outcome (first :: rest) ctx fresh
            unfold Outcome at outcome
            have missed : (first :: rest).find? (Candidate.reachable ctx.hasBind) = none :=
              unanswered
            rw [missed] at outcome
            obtain ⟨spent, gone, result⟩ := outcome
            refine ⟨spent, gone, result.trans ?_⟩
            obtain ⟨err, errEq⟩ := Option.isSome_iff_exists.mp (lastFailure_isSome missed)
            rw [lastError, errEq]
            rfl

def dualStack : List Candidate :=
  [⟨1, some 10047, none, none⟩, ⟨2, none, some 10049, none⟩, ⟨3, none, none, none⟩]

theorem connects_to_first_reachable_bound :
    connect (create.setBindAddr true) true 1935 (.ok dualStack) (Net.start []) =
        (0, ⟨some 1, some 3, true, 0, true⟩,
          (((Net.start []).socket).closesocket 0).socket) ∧
      ∃ spent, Spent (Net.start []) spent ∧
        connect (create.setBindAddr true) true 1935 (.ok dualStack) (Net.start []) =
          (0, ⟨some spent.opened, some 3, true, 0, true⟩, spent.socket) := by
  refine ⟨rfl, ?_⟩
  have fresh : Fresh (Net.start []) := fun _ _ => rfl
  exact (connects_to_first_reachable (create.setBindAddr true) true 1935 (.ok dualStack)
    (Net.start []) fresh).2.1 (by decide) ⟨3, none, none, none⟩ rfl

end HappyEyeballs

end RejiStudio.Rtmp
