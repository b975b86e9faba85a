import RejiStudio.Lib.Custody
import RejiStudio.Ws.SceneList

/-!
# What a successful control response promises

StartStream, StopStream and SetCurrentProgramScene answer with success before their
command is in the queue that the frame thread drains, or without asking whether it got
there.  The history kept here follows each answered command to the queue.
-/

namespace RejiStudio.Ws

open RejiStudio.Lib Custody

def controlCommand : String → Option (Int32 × Int32)
  | "stream_start" => some (1, 0)
  | "stream_stop" => some (2, 0)
  | _ => none

def CommandTask.carried : CommandTask → Option (Int32 × Int32)
  | .flagged active => some (if active then 1 else 2, 0)
  | .passing code => some (code, 0)
  | _ => none

def controlRequest (requestType : String) : Bool :=
  requestType == "StartStream" || requestType == "StopStream" ||
    requestType == "SetCurrentProgramScene"

/-- `requestStatus.result`. -/
def succeeded (response : WsEnvelope) : Bool :=
  match (response.d.get "requestStatus").bind (·.get "result") with
  | some (.bool result) => result
  | _ => false

inductive Dispatches (requestType : String) (requestData : Value) (state : WsState)
    (dispatched : Dispatched) : Prop where
  | start (type : requestType = "StartStream") (success : succeeded dispatched.response)
      (cmdTx : dispatched.cmdTx = some "stream_start")
  | stop (type : requestType = "StopStream") (success : succeeded dispatched.response)
      (cmdTx : dispatched.cmdTx = some "stream_stop")
  | scene (type : requestType = "SetCurrentProgramScene") (success : succeeded dispatched.response)
      (idx : Nat)
      (found : state.sceneNames.findIdx? (· == requestedScene requestData) = some idx)
      (cmdTx : dispatched.cmdTx = none)
      (sceneCommand : dispatched.sceneCommand = some (rjWsCmdSetScene, Int32.ofNat idx))
  | missing (type : requestType = "SetCurrentProgramScene")
      (failure : succeeded dispatched.response = false)
      (missing : state.sceneNames.findIdx? (· == requestedScene requestData) = none)
      (cmdTx : dispatched.cmdTx = none) (sceneCommand : dispatched.sceneCommand = none)
  | other (noControl : controlRequest requestType = false)
      (cmdTx : dispatched.cmdTx = none) (sceneCommand : dispatched.sceneCommand = none)

theorem dispatchRequest_dispatches (platform : Platform) (requestType requestId : String)
    (requestData : Value) (state : WsState) (wsIncoming wsOutgoing : Nat) :
    Dispatches requestType requestData state
      (dispatchRequest platform requestType requestId requestData state wsIncoming
        wsOutgoing) := by
  unfold dispatchRequest
  split
  case h_3 => exact .start rfl rfl rfl
  case h_4 => exact .stop rfl rfl rfl
  case h_7 =>
    dsimp only
    split
    next idx found => exact .scene rfl rfl idx found rfl rfl
    next missing => exact .missing rfl rfl missing rfl rfl
  case h_8 _ _ _ noStart noStop _ _ noScene =>
    refine .other ?_ rfl rfl
    simp only [controlRequest, Bool.or_eq_false_iff, beq_eq_false_iff_ne]
    exact ⟨⟨noStart, noStop⟩, noScene⟩
  all_goals exact .other (by decide) rfl rfl

/-- The stream's commands on their way, beside the history of the answers. -/
structure Delivery where
  flow : StreamFlow
  /-- The commands of the control requests that were answered with success. -/
  answered : List (Int32 × Int32)
  /-- The unread commands, with the number of the answer where there was one. -/
  tickets : Broadcast (String × Option Nat) 64
  /-- The number of the answer whose command the task has in its hands. -/
  held : Option Nat
  /-- What the queue accepted. -/
  accepted : List (Nat × Int32 × Int32)
  /-- The change of the flag whose command the task has in its hands. -/
  changing : Option Bool
  changes : List Bool
  /-- The changes whose command the queue accepted. -/
  matched : List Bool

namespace Delivery

variable (platform : Platform)

def start (ws : WsState) : Delivery := ⟨.start ws, [], .empty, none, [], none, [], []⟩

def publish (delivery : Delivery) (cmd : String) (ticket : Option Nat) : Delivery :=
  if delivery.flow.commandTask = .ended then delivery
  else { delivery with tickets := delivery.tickets.send (cmd, ticket) }

def answer (delivery : Delivery) (command : Int32 × Int32) : Delivery :=
  { delivery with answered := delivery.answered ++ [command] }

def accept (delivery : Delivery) (entries : List (Nat × Int32 × Int32)) : Delivery :=
  { delivery with accepted := delivery.accepted ++ entries }

def pushScene (delivery : Delivery) (number : Nat) (command : Int32 × Int32) : Delivery :=
  if (delivery.flow.ws.wsCommandQueue.push command).isSome then
    delivery.accept [(number, command)]
  else delivery

def streamRequest (delivery : Delivery) (cmd : String) (command : Int32 × Int32) : Delivery :=
  (delivery.answer command).publish cmd (some delivery.answered.length)

def sceneRequest (delivery : Delivery) (command : Int32 × Int32) : Delivery :=
  (delivery.answer command).pushScene delivery.answered.length command

def request (delivery : Delivery) (dispatched : Dispatched) : Delivery :=
  match dispatched.cmdTx, dispatched.sceneCommand with
  | some cmd, _ =>
      match controlCommand cmd with
      | some command => delivery.streamRequest cmd command
      | none => delivery.publish cmd none
  | none, some command => delivery.sceneRequest command
  | none, none => delivery

def legacy (delivery : Delivery) (text : String) : Delivery :=
  match legacyCmd platform text with
  | some cmd => delivery.publish cmd none
  | none => delivery

def take (delivery : Delivery) (tickets : Broadcast (String × Option Nat) 64)
    (ticket : Option Nat) : Delivery :=
  { delivery with tickets := tickets, held := ticket }

def receive (delivery : Delivery) : Delivery :=
  match delivery.tickets.recv with
  | (_, .empty) => delivery
  | (_, .lagged) => { delivery with tickets := .empty }
  | (tickets, .message (_, ticket)) => delivery.take tickets ticket

def letGo (delivery : Delivery) : Delivery := { delivery with held := none, changing := none }

def handOver (delivery : Delivery) (code : Int32) : Delivery :=
  letGo { delivery.accept (delivery.held.toList.map fun number => (number, code, 0)) with
    matched := delivery.matched ++ delivery.changing.toList }

def push (delivery : Delivery) : Delivery :=
  match delivery.flow.commandTask with
  | .passing code =>
      if (delivery.flow.ws.wsCommandQueue.push (code, 0)).isSome then delivery.handOver code
      else delivery.letGo
  | _ => delivery

def record (delivery : Delivery) : StreamAction → Delivery
  | .request requestType requestId requestData wsIncoming wsOutgoing =>
      delivery.request (dispatchRequest platform requestType requestId requestData
        delivery.flow.ws wsIncoming wsOutgoing)
  | .legacy text => delivery.legacy platform text
  | .receiveCommand => delivery.receive
  | .pushCommand => delivery.push
  | _ => delivery

/-- What the step did to `streaming_active`. -/
def flagChange (before after : StreamFlow) : Option Bool :=
  if after.ws.streamingActive = before.ws.streamingActive then none
  else some after.ws.streamingActive

def withFlow (delivery : Delivery) (flow : StreamFlow) : Delivery := { delivery with flow := flow }

def proceed (delivery : Delivery) (before after : StreamFlow) : Delivery :=
  match flagChange before after with
  | none => delivery.withFlow after
  | some active =>
      { delivery.withFlow after with
        changing := some active
        changes := delivery.changes ++ [active] }

def step : Machine Delivery StreamAction :=
  fun delivery action =>
    (StreamFlow.step platform delivery.flow action).map fun flow =>
      (delivery.record platform action).proceed delivery.flow flow

def underWay (delivery : Delivery) : List Nat :=
  delivery.tickets.unread.filterMap Prod.snd ++ delivery.held.toList

/-- The command of each successful response was accepted by the queue or is on its way to
it, and so is the command of each change of the flag, the last of them possibly still in
the task's hands. -/
structure Delivered (delivery : Delivery) : Prop where
  queued : ∀ entry ∈ delivery.answered.zipIdx,
    (entry.2, entry.1) ∈ delivery.accepted ∨ entry.2 ∈ delivery.underWay
  matched : delivery.changes = delivery.matched ++ delivery.changing.toList

instance (delivery : Delivery) : Decidable delivery.Delivered :=
  decidable_of_iff ((∀ entry ∈ delivery.answered.zipIdx,
        (entry.2, entry.1) ∈ delivery.accepted ∨ entry.2 ∈ delivery.underWay) ∧
      delivery.changes = delivery.matched ++ delivery.changing.toList)
    ⟨fun ⟨queued, matched⟩ => ⟨queued, matched⟩, fun ⟨queued, matched⟩ => ⟨queued, matched⟩⟩

def SparesControl (delivery : Delivery) : Prop :=
  delivery.tickets.overwritten.filterMap Prod.snd = []

def Room (delivery : Delivery) : Prop := delivery.flow.ws.wsCommandQueue.items.length < 32

/-- The task lives when a stream request is sent, no command of a control request is
overwritten or still unread when the task ends, and the queue has room for each scene
command, for each control command and for each command that changed the flag. -/
def NothingLost : Delivery → StreamAction → Prop
  | delivery, .request requestType _ requestData _ _ =>
      (requestType = "StartStream" ∨ requestType = "StopStream" →
        delivery.flow.commandTask ≠ .ended ∧ delivery.SparesControl) ∧
      (requestType = "SetCurrentProgramScene" →
        requestedScene requestData ∈ delivery.flow.ws.sceneNames → delivery.Room)
  | delivery, .legacy text =>
      (legacyCmd platform text).isSome →
        delivery.flow.commandTask = .ended ∨ delivery.SparesControl
  | delivery, .receiveCommand =>
      delivery.tickets.lagged → delivery.tickets.unread.filterMap Prod.snd = []
  | delivery, .pushCommand => delivery.Room ∨ delivery.held = none ∧ delivery.changing = none
  | _, _ => True

instance (delivery : Delivery) (action : StreamAction) :
    Decidable (delivery.NothingLost platform action) := by
  cases action <;> unfold NothingLost SparesControl Room <;> infer_instance

def DeliveredAfter (delivery : Delivery) (action : StreamAction) : Prop :=
  ∀ next ∈ delivery.step platform action, next.Delivered

instance (delivery : Delivery) (action : StreamAction) :
    Decidable (delivery.DeliveredAfter platform action) := by
  unfold DeliveredAfter
  infer_instance

/-! ## The history and the flow -/

def known (delivery : Delivery) : List Nat :=
  delivery.accepted.map Prod.fst ++ delivery.underWay

structure Follows (delivery : Delivery) : Prop where
  mirrored : delivery.flow.cmdTx = delivery.tickets.map Prod.fst
  ticketed : ∀ entry ∈ delivery.tickets.unread, ∀ number ∈ entry.2,
    ∃ command, controlCommand entry.1 = some command ∧
      delivery.answered[number]? = some command
  held : ∀ number ∈ delivery.held,
    delivery.answered[number]? = delivery.flow.commandTask.carried
  idle : delivery.flow.commandTask.carried = none →
    delivery.held = none ∧ delivery.changing = none
  recorded : ∀ entry ∈ delivery.accepted, delivery.answered[entry.1]? = some entry.2

structure Tracked (delivery : Delivery) : Prop extends Follows delivery where
  accounted : Accounted delivery.answered.length delivery.known

theorem tracked_start (ws : WsState) : (start ws).Tracked where
  mirrored := rfl
  ticketed := nofun
  held := nofun
  idle := fun _ => ⟨rfl, rfl⟩
  recorded := nofun
  accounted := ⟨List.nodup_nil, nofun⟩

theorem delivered_start (ws : WsState) : (start ws).Delivered where
  queued := nofun
  matched := rfl

theorem Tracked.delivered_iff {delivery : Delivery} (tracked : delivery.Tracked) :
    delivery.Delivered ↔
      Complete delivery.answered.length delivery.known ∧
        delivery.changes = delivery.matched ++ delivery.changing.toList := by
  have entries : (∀ entry ∈ delivery.answered.zipIdx,
      (entry.2, entry.1) ∈ delivery.accepted ∨ entry.2 ∈ delivery.underWay) ↔
      Complete delivery.answered.length delivery.known := by
    constructor
    · intro queued number inside
      have member : (delivery.answered[number], number) ∈ delivery.answered.zipIdx :=
        List.mk_mem_zipIdx_iff_getElem?.mpr (List.getElem?_eq_getElem inside)
      rcases queued _ member with accepted | underWay
      · exact List.mem_append_left _ (List.mem_map_of_mem accepted)
      · exact List.mem_append_right _ underWay
    · rintro complete ⟨command, number⟩ member
      have issued := List.mk_mem_zipIdx_iff_getElem?.mp member
      have inside := (List.getElem?_eq_some_iff.mp issued).1
      rcases List.mem_append.mp (complete number inside) with accepted | underWay
      · obtain ⟨⟨_, other⟩, entry, rfl⟩ := List.mem_map.mp accepted
        cases issued.symm.trans (tracked.recorded _ entry)
        exact .inl entry
      · exact .inr underWay
  constructor
  · rintro ⟨queued, matched⟩
    exact ⟨entries.mp queued, matched⟩
  · rintro ⟨complete, matched⟩
    exact ⟨entries.mpr complete, matched⟩

structure Advances (before after : Delivery) (condition : Prop) : Prop where
  tracked : after.Tracked
  delivered : before.Delivered → (after.Delivered ↔ condition)

theorem Advances.congr {before after : Delivery} {condition other : Prop}
    (advances : before.Advances after condition) (same : condition ↔ other) :
    before.Advances after other :=
  ⟨advances.tracked, fun delivered => (advances.delivered delivered).trans same⟩

theorem Tracked.pass {before after : Delivery} (tracked : before.Tracked)
    (follows : after.Follows) {count : Nat} {lost : List Nat}
    (issued : after.answered.length = before.answered.length + count)
    (passes : Passes before.answered.length count before.known after.known lost) :
    before.Advances after
      (lost = [] ∧ after.changes = after.matched ++ after.changing.toList) := by
  have accounted := tracked.accounted.pass passes
  rw [← issued] at accounted
  have after' : after.Tracked := ⟨follows, accounted⟩
  refine ⟨after', ?_⟩
  intro delivered
  have complete := (tracked.delivered_iff.mp delivered).1
  rw [after'.delivered_iff, issued, tracked.accounted.complete_iff complete passes]

structure SameChanges (before after : Delivery) : Prop where
  changing : after.changing = before.changing
  changes : after.changes = before.changes
  matched : after.matched = before.matched

theorem Tracked.pass_of_sameChanges {before after : Delivery} (tracked : before.Tracked)
    (follows : after.Follows) (same : before.SameChanges after) {count : Nat} {lost : List Nat}
    (issued : after.answered.length = before.answered.length + count)
    (passes : Passes before.answered.length count before.known after.known lost) :
    before.Advances after (lost = []) := by
  have advances := tracked.pass follows issued passes
  refine ⟨advances.tracked, ?_⟩
  intro delivered
  rw [advances.delivered delivered, same.changing, same.changes, same.matched]
  exact and_iff_left delivered.matched

/-! ## Steps that the history does not notice -/

structure Quiet (before after : StreamFlow) : Prop where
  cmdTx : after.cmdTx = before.cmdTx
  carried : after.commandTask.carried = before.commandTask.carried
  flag : after.ws.streamingActive = before.ws.streamingActive

theorem quiet_of_sameTask {before after : StreamFlow} (same : before.SameTask after) :
    Quiet before after :=
  ⟨same.cmdTx, congrArg CommandTask.carried same.commandTask, same.streamingActive⟩

theorem proceed_of_flag {delivery : Delivery} {before after : StreamFlow}
    (flag : after.ws.streamingActive = before.ws.streamingActive) :
    delivery.proceed before after = delivery.withFlow after := by
  rw [proceed, flagChange, if_pos flag]

theorem Follows.quiet {delivery : Delivery} (follows : delivery.Follows) {after : StreamFlow}
    (quiet : Quiet delivery.flow after) : (delivery.withFlow after).Follows where
  mirrored := quiet.cmdTx.trans follows.mirrored
  ticketed := follows.ticketed
  held := by
    intro number member
    exact (follows.held number member).trans quiet.carried.symm
  idle := by
    intro none
    exact follows.idle (quiet.carried.symm.trans none)
  recorded := follows.recorded

theorem Tracked.quiet {delivery : Delivery} (tracked : delivery.Tracked) {after : StreamFlow}
    (quiet : Quiet delivery.flow after) :
    delivery.Advances (delivery.proceed delivery.flow after) True := by
  rw [proceed_of_flag quiet.flag]
  refine ⟨⟨tracked.toFollows.quiet quiet, tracked.accounted⟩, ?_⟩
  intro delivered
  exact iff_of_true ⟨delivered.queued, delivered.matched⟩ trivial

theorem quiet_storeStartedAt {flow next : StreamFlow}
    (stored : flow.storeStartedAt = some next) : Quiet flow next := by
  unfold StreamFlow.storeStartedAt at stored
  split at stored
  next active flagged =>
    cases stored
    unfold StreamFlow.stamp
    cases active <;> exact ⟨rfl, by rw [flagged]; rfl, rfl⟩
  next => cases stored

/-! ## Requests -/

theorem Follows.answer {delivery : Delivery} (follows : delivery.Follows)
    (command : Int32 × Int32) : (delivery.answer command).Follows := by
  have stays : ∀ {number : Nat} {other : Int32 × Int32},
      delivery.answered[number]? = some other →
        (delivery.answer command).answered[number]? = some other := by
    intro number other issued
    have inside := (List.getElem?_eq_some_iff.mp issued).1
    exact (List.getElem?_append_left inside).trans issued
  refine ⟨follows.mirrored, ?_, ?_, follows.idle, ?_⟩
  · intro entry member number ticket
    obtain ⟨asked, stands, issued⟩ := follows.ticketed entry member number ticket
    exact ⟨asked, stands, stays issued⟩
  · intro number member
    cases carried : delivery.flow.commandTask.carried with
    | none =>
        rw [Delivery.answer, (follows.idle carried).1] at member
        cases member
    | some other => exact (stays ((follows.held number member).trans carried)).trans carried.symm
  · intro entry member
    exact stays (follows.recorded entry member)

theorem answered_answer (delivery : Delivery) (command : Int32 × Int32) :
    (delivery.answer command).answered[delivery.answered.length]? = some command :=
  List.getElem?_concat_length

/-- A published command goes behind the others, in the channel and in the history. -/
theorem Follows.publish {delivery : Delivery} (follows : delivery.Follows) {cmd : String}
    {ticket : Option Nat}
    (fits : ∀ number ∈ ticket, ∃ command, controlCommand cmd = some command ∧
      delivery.answered[number]? = some command)
    {after : StreamFlow} (cmdTx : after.cmdTx = (delivery.flow.publish (some cmd)).cmdTx)
    (task : after.commandTask = delivery.flow.commandTask) :
    ((delivery.publish cmd ticket).withFlow after).Follows := by
  rw [StreamFlow.publish] at cmdTx
  rw [Delivery.publish]
  split at cmdTx
  next ended =>
    rw [if_pos ended]
    refine ⟨cmdTx.trans follows.mirrored, follows.ticketed, ?_, ?_, follows.recorded⟩
    · intro number member
      exact (follows.held number member).trans (congrArg _ task.symm)
    · intro none
      exact follows.idle ((congrArg _ task.symm).trans none)
  next alive =>
    rw [if_neg alive]
    refine ⟨?_, ?_, ?_, ?_, follows.recorded⟩
    · rw [follows.mirrored] at cmdTx
      exact cmdTx.trans (Broadcast.map_send Prod.fst delivery.tickets (cmd, ticket)).symm
    · intro entry member
      rcases Broadcast.mem_unread_send member with old | rfl
      · exact follows.ticketed entry old
      · exact fits
    · intro number member
      exact (follows.held number member).trans (congrArg _ task.symm)
    · intro none
      exact follows.idle ((congrArg _ task.symm).trans none)

def lostByPublish (delivery : Delivery) (ticket : Option Nat) : List Nat :=
  if delivery.flow.commandTask = .ended then ticket.toList
  else delivery.tickets.overwritten.filterMap Prod.snd

theorem known_publish (delivery : Delivery) (cmd : String) (ticket : Option Nat) :
    (delivery.known ++ ticket.toList).Perm
      ((delivery.publish cmd ticket).known ++ delivery.lostByPublish ticket) := by
  rw [Delivery.publish, lostByPublish]
  split
  next => exact .refl _
  next =>
    have sent := congrArg (List.filterMap Prod.snd)
      (delivery.tickets.overwritten_append_send (cmd, ticket))
    have new : [(cmd, ticket)].filterMap Prod.snd = ticket.toList := by
      cases ticket <;> rfl
    rw [List.filterMap_append, List.filterMap_append, new] at sent
    rw [List.perm_iff_count]
    intro number
    have counted := congrArg (List.count number) sent
    simp only [known, underWay, List.count_append] at counted ⊢
    omega

theorem lostByPublish_none (delivery : Delivery) :
    delivery.lostByPublish none = [] ↔
      delivery.flow.commandTask = .ended ∨ delivery.SparesControl := by
  rw [lostByPublish, SparesControl]
  split
  next ended => exact iff_of_true rfl (.inl ended)
  next alive => rw [or_iff_right alive]

theorem lostByPublish_some (delivery : Delivery) (number : Nat) :
    delivery.lostByPublish (some number) = [] ↔
      delivery.flow.commandTask ≠ .ended ∧ delivery.SparesControl := by
  rw [lostByPublish, SparesControl]
  split
  next ended => exact iff_of_false (by simp) fun alive => alive.1 ended
  next alive => rw [and_iff_right alive]

theorem sameChanges_publish (delivery : Delivery) (cmd : String) (ticket : Option Nat)
    (flow : StreamFlow) : delivery.SameChanges ((delivery.publish cmd ticket).withFlow flow) := by
  rw [Delivery.publish]
  split_ifs <;> exact ⟨rfl, rfl, rfl⟩

theorem answered_publish (delivery : Delivery) (cmd : String) (ticket : Option Nat) :
    (delivery.publish cmd ticket).answered = delivery.answered ∧
      (delivery.publish cmd ticket).accepted = delivery.accepted := by
  rw [Delivery.publish]
  split_ifs <;> exact ⟨rfl, rfl⟩

theorem Tracked.legacy {delivery : Delivery} (tracked : delivery.Tracked) (text : String) :
    delivery.Advances
      ((delivery.legacy platform text).proceed delivery.flow
        (delivery.flow.publish (legacyCmd platform text)))
      (delivery.NothingLost platform (.legacy text)) := by
  rw [Delivery.legacy, NothingLost]
  cases legacyCmd platform text with
  | none => exact (tracked.quiet ⟨rfl, rfl, rfl⟩).congr (iff_of_true trivial (by simp))
  | some cmd =>
      have flow := StreamFlow.publish_sameFlags delivery.flow (some cmd)
      have follows : ((delivery.publish cmd none).withFlow
          (delivery.flow.publish (some cmd))).Follows := by
        refine tracked.toFollows.publish ?_ rfl (StreamFlow.publish_commandTask _ _)
        rintro _ ⟨⟩
      have issued : (delivery.publish cmd none).answered.length = delivery.answered.length + 0 :=
        congrArg List.length (answered_publish delivery cmd none).1
      have passes : Passes delivery.answered.length 0 delivery.known
          (delivery.publish cmd none).known (delivery.lostByPublish none) :=
        known_publish delivery cmd none
      rw [proceed_of_flag flow.streamingActive]
      apply (tracked.pass_of_sameChanges follows (sameChanges_publish _ _ _ _) issued
        passes).congr
      rw [lostByPublish_none]
      simp

theorem Tracked.streamRequest {delivery : Delivery} (tracked : delivery.Tracked) {cmd : String}
    {command : Int32 × Int32} (stands : controlCommand cmd = some command) {after : StreamFlow}
    (cmdTx : after.cmdTx = (delivery.flow.publish (some cmd)).cmdTx)
    (task : after.commandTask = delivery.flow.commandTask)
    (flag : after.ws.streamingActive = delivery.flow.ws.streamingActive) :
    delivery.Advances ((delivery.streamRequest cmd command).proceed delivery.flow after)
      (delivery.flow.commandTask ≠ .ended ∧ delivery.SparesControl) := by
  have follows : ((delivery.streamRequest cmd command).withFlow after).Follows := by
    refine (tracked.toFollows.answer command).publish ?_ cmdTx task
    rintro _ ⟨⟩
    exact ⟨command, stands, answered_answer delivery command⟩
  have ⟨changing, changes, matched⟩ := sameChanges_publish (delivery.answer command) cmd
    (some delivery.answered.length) after
  have issued : (delivery.streamRequest cmd command).answered.length =
      delivery.answered.length + 1 := by
    rw [Delivery.streamRequest, (answered_publish _ _ _).1, Delivery.answer, List.length_append]
    rfl
  have passes : Passes delivery.answered.length 1 delivery.known
      (delivery.streamRequest cmd command).known
      ((delivery.answer command).lostByPublish (some delivery.answered.length)) :=
    known_publish (delivery.answer command) cmd (some delivery.answered.length)
  rw [proceed_of_flag flag]
  exact (tracked.pass_of_sameChanges follows ⟨changing, changes, matched⟩ issued passes).congr
    (lostByPublish_some (delivery.answer command) _)

theorem isSome_push (delivery : Delivery) (command : Int32 × Int32) :
    (delivery.flow.ws.wsCommandQueue.push command).isSome ↔ delivery.Room := by
  rw [Option.isSome_iff_exists, ← Option.ne_none_iff_exists', ne_eq,
    BoundedQueue.push_eq_none_iff, Room]
  exact (Nat.lt_iff_le_and_ne.trans
    (and_iff_right delivery.flow.ws.wsCommandQueue.bounded)).symm

theorem Follows.accept {delivery : Delivery} (follows : delivery.Follows)
    {entries : List (Nat × Int32 × Int32)}
    (recorded : ∀ entry ∈ entries, delivery.answered[entry.1]? = some entry.2) :
    (delivery.accept entries).Follows := by
  refine ⟨follows.mirrored, follows.ticketed, follows.held, follows.idle, ?_⟩
  intro entry member
  rcases List.mem_append.mp member with old | new
  · exact follows.recorded entry old
  · exact recorded entry new

theorem known_accept (delivery : Delivery) (entries : List (Nat × Int32 × Int32)) :
    (delivery.accept entries).known.Perm (delivery.known ++ entries.map Prod.fst) := by
  change ((delivery.accepted ++ entries).map Prod.fst ++ delivery.underWay).Perm _
  rw [List.map_append, known, List.append_assoc, List.append_assoc]
  exact List.perm_append_comm.append_left _

theorem Tracked.sceneRequest {delivery : Delivery} (tracked : delivery.Tracked)
    (command : Int32 × Int32) {after : StreamFlow} (quiet : Quiet delivery.flow after) :
    delivery.Advances ((delivery.sceneRequest command).proceed delivery.flow after)
      delivery.Room := by
  have answered := (tracked.toFollows.answer command).quiet quiet
  have issued : (delivery.answer command).answered.length = delivery.answered.length + 1 :=
    List.length_append
  have pushed := isSome_push (delivery.answer command) command
  rw [proceed_of_flag quiet.flag, Delivery.sceneRequest, pushScene]
  by_cases room : delivery.Room
  · rw [if_pos (pushed.mpr room)]
    have follows : (((delivery.answer command).accept
        [(delivery.answered.length, command)]).withFlow after).Follows := by
      apply answered.accept
      intro entry member
      cases List.mem_singleton.mp member
      exact answered_answer delivery command
    have passes : Passes delivery.answered.length 1 delivery.known
        ((delivery.answer command).accept [(delivery.answered.length, command)]).known [] := by
      rw [Passes, List.append_nil]
      exact (known_accept (delivery.answer command)
        [(delivery.answered.length, command)]).symm
    exact (tracked.pass_of_sameChanges follows ⟨rfl, rfl, rfl⟩ issued passes).congr
      (iff_of_true rfl room)
  · rw [if_neg fun accepted => room (pushed.mp accepted)]
    have passes : Passes delivery.answered.length 1 delivery.known
        (delivery.answer command).known [delivery.answered.length] := .refl _
    exact (tracked.pass_of_sameChanges answered ⟨rfl, rfl, rfl⟩ issued passes).congr
      (iff_of_false (List.cons_ne_nil _ _) room)

/-! ## The task -/

theorem Follows.letGo {delivery : Delivery} (follows : delivery.Follows) {after : StreamFlow}
    (cmdTx : after.cmdTx = delivery.flow.cmdTx) : (delivery.letGo.withFlow after).Follows where
  mirrored := cmdTx.trans follows.mirrored
  ticketed := follows.ticketed
  held := nofun
  idle := fun _ => ⟨rfl, rfl⟩
  recorded := follows.recorded

theorem known_letGo (delivery : Delivery) :
    delivery.known = delivery.letGo.known ++ delivery.held.toList := by
  simp [known, underWay, letGo]

theorem Tracked.letGo {delivery : Delivery} (tracked : delivery.Tracked) {after : StreamFlow}
    (cmdTx : after.cmdTx = delivery.flow.cmdTx) :
    delivery.Advances (delivery.letGo.withFlow after)
      (delivery.held = none ∧ delivery.changing = none) := by
  have passes : Passes delivery.answered.length 0 delivery.known delivery.letGo.known
      delivery.held.toList := by
    rw [Passes, known_letGo]
    exact .of_eq (List.append_nil _)
  have advances := tracked.pass (tracked.toFollows.letGo cmdTx) rfl passes
  refine ⟨advances.tracked, ?_⟩
  intro delivered
  rw [advances.delivered delivered, Option.toList_eq_nil_iff]
  change _ ∧ delivery.changes = delivery.matched ++ [] ↔ _
  rw [delivered.matched, List.append_right_inj, Option.toList_eq_nil_iff]

/-- A command that the queue takes takes its answer and its change of the flag along. -/
theorem Tracked.handOver {delivery : Delivery} (tracked : delivery.Tracked) {code : Int32}
    (passing : delivery.flow.commandTask = .passing code) {after : StreamFlow}
    (cmdTx : after.cmdTx = delivery.flow.cmdTx) :
    delivery.Advances ((delivery.handOver code).withFlow after) True := by
  let entries := delivery.held.toList.map fun number => (number, code, (0 : Int32))
  have numbers : entries.map Prod.fst = delivery.held.toList := by
    simp [entries, Function.comp_def]
  have accepted : (delivery.accept entries).Follows := by
    apply tracked.toFollows.accept
    intro entry member
    obtain ⟨number, held, rfl⟩ := List.mem_map.mp member
    rw [tracked.held number (Option.mem_toList.mp held), passing]
    rfl
  have ⟨mirrored, ticketed, held, idle, recorded⟩ := accepted.letGo cmdTx
  have follows : ((delivery.handOver code).withFlow after).Follows :=
    ⟨mirrored, ticketed, held, idle, recorded⟩
  have passes : Passes delivery.answered.length 0 delivery.known
      (delivery.handOver code).known [] := by
    have handed := known_accept delivery entries
    rw [known_letGo (delivery.accept entries), numbers] at handed
    rw [Passes, List.range'_zero, List.append_nil, List.append_nil]
    exact ((List.perm_append_right_iff _).mp handed).symm
  have advances := tracked.pass follows rfl passes
  refine ⟨advances.tracked, ?_⟩
  intro delivered
  rw [advances.delivered delivered, iff_true]
  exact ⟨rfl, delivered.matched.trans (List.append_nil _).symm⟩

theorem pushCommand_frame {flow next : StreamFlow} (pushed : flow.pushCommand = some next) :
    next.cmdTx = flow.cmdTx ∧ next.ws.streamingActive = flow.ws.streamingActive := by
  unfold StreamFlow.pushCommand at pushed
  split at pushed
  next =>
    split at pushed <;> cases pushed <;> exact ⟨rfl, rfl⟩
  next => cases pushed

theorem Tracked.pushCommand {delivery : Delivery} (tracked : delivery.Tracked)
    {next : StreamFlow} (pushed : delivery.flow.pushCommand = some next) :
    delivery.Advances (delivery.push.proceed delivery.flow next)
      (delivery.NothingLost platform .pushCommand) := by
  obtain ⟨cmdTx, flag⟩ := pushCommand_frame pushed
  unfold StreamFlow.pushCommand at pushed
  split at pushed
  next code passing =>
    have room := isSome_push delivery (code, 0)
    rw [Delivery.push, passing, NothingLost]
    dsimp only
    split at pushed
    next queue accepted =>
      have fits : delivery.Room := (BoundedQueue.push_eq_some_iff.mp accepted).1
      rw [if_pos (room.mpr fits), proceed_of_flag flag]
      exact (tracked.handOver passing cmdTx).congr (iff_of_true trivial (Or.inl fits))
    next full =>
      have packed : ¬ delivery.Room := by
        rw [Room, BoundedQueue.push_eq_none_iff.mp full]
        exact Nat.lt_irrefl 32
      rw [if_neg fun accepted => packed (room.mp accepted), proceed_of_flag flag]
      exact (tracked.letGo cmdTx).congr (or_iff_right packed).symm
  next => cases pushed

/-- A control command fills the task's hands with what it stands for; no other command
touches the flag. -/
theorem flag_cases (flow : StreamFlow) (cmd : String) :
    (∃ command, controlCommand cmd = some command ∧
        (flow.flag cmd).commandTask.carried = some command) ∨
      controlCommand cmd = none ∧
        (flow.flag cmd).ws.streamingActive = flow.ws.streamingActive := by
  unfold StreamFlow.flag controlCommand
  split
  · exact .inl ⟨(1, 0), rfl, rfl⟩
  · exact .inl ⟨(2, 0), rfl, rfl⟩
  next noStart noStop =>
    refine .inr ⟨rfl, ?_⟩
    split
    · exact absurd rfl noStart
    · exact absurd rfl noStop
    all_goals rfl

theorem flag_cmdTx (flow : StreamFlow) (cmd : String) : (flow.flag cmd).cmdTx = flow.cmdTx := by
  unfold StreamFlow.flag
  split <;> rfl

theorem Tracked.lag {delivery : Delivery} (tracked : delivery.Tracked)
    (free : delivery.held = none ∧ delivery.changing = none) {after : StreamFlow}
    (cmdTx : after.cmdTx = .empty)
    (flag : after.ws.streamingActive = delivery.flow.ws.streamingActive) :
    delivery.Advances (proceed { delivery with tickets := .empty } delivery.flow after)
      (delivery.tickets.unread.filterMap Prod.snd = []) := by
  have follows : (withFlow { delivery with tickets := .empty } after).Follows := by
    refine ⟨cmdTx, nofun, ?_, fun _ => free, tracked.recorded⟩
    intro number member
    rw [withFlow, free.1] at member
    cases member
  have passes : Passes delivery.answered.length 0 delivery.known
      (known { delivery with tickets := .empty })
      (delivery.tickets.unread.filterMap Prod.snd) := by
    rw [Passes, List.perm_iff_count]
    intro number
    simp [known, underWay, free.1, Broadcast.empty]
  rw [proceed_of_flag flag]
  exact tracked.pass_of_sameChanges follows ⟨rfl, rfl, rfl⟩ rfl passes

theorem Follows.proceed {delivery : Delivery} {before after : StreamFlow}
    (follows : (delivery.withFlow after).Follows)
    (flagged : (∃ command, after.commandTask.carried = some command) ∨
      after.ws.streamingActive = before.ws.streamingActive) :
    (delivery.proceed before after).Follows := by
  rcases flagged with ⟨command, carried⟩ | flag
  · rw [Delivery.proceed]
    split
    · exact follows
    · refine ⟨follows.mirrored, follows.ticketed, follows.held, ?_, follows.recorded⟩
      intro none
      rw [withFlow, carried] at none
      cases none
  · rw [proceed_of_flag flag]
    exact follows

theorem proceed_changes (delivery : Delivery) (before after : StreamFlow) :
    (delivery.proceed before after).changes =
        delivery.changes ++ (flagChange before after).toList ∧
      (delivery.proceed before after).changing =
        (flagChange before after).or delivery.changing ∧
      (delivery.proceed before after).matched = delivery.matched := by
  rw [proceed]
  cases flagChange before after with
  | none => exact ⟨(List.append_nil _).symm, rfl, rfl⟩
  | some active => exact ⟨rfl, rfl, rfl⟩

theorem proceed_known (delivery : Delivery) (before after : StreamFlow) :
    (delivery.proceed before after).known = delivery.known ∧
      (delivery.proceed before after).answered = delivery.answered ∧
      (delivery.proceed before after).accepted = delivery.accepted := by
  rw [proceed]
  split <;> exact ⟨rfl, rfl, rfl⟩

/-- The task's hands hold what the command in them stands for, and nothing if that is no
control command. -/
theorem Follows.take {delivery : Delivery} (follows : delivery.Follows)
    (free : delivery.held = none ∧ delivery.changing = none)
    {tickets : Broadcast (String × Option Nat) 64} {cmd : String} {ticket : Option Nat}
    (unread : delivery.tickets.unread = (cmd, ticket) :: tickets.unread) {after : StreamFlow}
    (cmdTx : after.cmdTx = tickets.map Prod.fst)
    (flagged : (∃ command, controlCommand cmd = some command ∧
        after.commandTask.carried = some command) ∨
      controlCommand cmd = none ∧
        after.ws.streamingActive = delivery.flow.ws.streamingActive) :
    ((delivery.take tickets ticket).withFlow after).Follows := by
  have ticketed := follows.ticketed
  rw [unread] at ticketed
  have oldest := ticketed _ List.mem_cons_self
  refine ⟨cmdTx, fun entry member => ticketed entry (List.mem_cons_of_mem _ member), ?_, ?_,
    follows.recorded⟩
  · intro number member
    obtain ⟨command, stands, issued⟩ := oldest number member
    rcases flagged with ⟨other, same, carried⟩ | ⟨none, _⟩
    · exact issued.trans (stands.symm.trans (same.trans carried.symm))
    · cases stands.symm.trans none
  · intro none
    rcases flagged with ⟨_, _, carried⟩ | ⟨other, _⟩
    · cases carried.symm.trans none
    · refine ⟨Option.eq_none_iff_forall_not_mem.mpr ?_, free.2⟩
      intro number member
      obtain ⟨_, stands, _⟩ := oldest number member
      cases stands.symm.trans other

theorem passes_take {delivery : Delivery} (free : delivery.held = none)
    {tickets : Broadcast (String × Option Nat) 64} {cmd : String} {ticket : Option Nat}
    (unread : delivery.tickets.unread = (cmd, ticket) :: tickets.unread) :
    Passes delivery.answered.length 0 delivery.known (delivery.take tickets ticket).known [] := by
  have read : delivery.tickets.unread.filterMap Prod.snd =
      ticket.toList ++ tickets.unread.filterMap Prod.snd := by
    rw [unread]
    cases ticket <;> rfl
  rw [Passes, List.perm_iff_count]
  intro number
  simp only [known, underWay, Delivery.take, read, free, Option.toList_none, List.range'_zero,
    List.count_append, List.count_nil]
  omega

theorem Tracked.take {delivery : Delivery} (tracked : delivery.Tracked)
    (free : delivery.held = none ∧ delivery.changing = none)
    {tickets : Broadcast (String × Option Nat) 64} {cmd : String} {ticket : Option Nat}
    (unread : delivery.tickets.unread = (cmd, ticket) :: tickets.unread) {after : StreamFlow}
    (cmdTx : after.cmdTx = tickets.map Prod.fst)
    (flagged : (∃ command, controlCommand cmd = some command ∧
        after.commandTask.carried = some command) ∨
      controlCommand cmd = none ∧
        after.ws.streamingActive = delivery.flow.ws.streamingActive) :
    delivery.Advances ((delivery.take tickets ticket).proceed delivery.flow after) True := by
  have noticed : (∃ command, after.commandTask.carried = some command) ∨
      after.ws.streamingActive = delivery.flow.ws.streamingActive := by
    rcases flagged with ⟨command, _, carried⟩ | ⟨_, flag⟩
    · exact .inl ⟨command, carried⟩
    · exact .inr flag
  have follows := (tracked.toFollows.take free unread cmdTx flagged).proceed noticed
  obtain ⟨known', answered, _⟩ :=
    proceed_known (delivery.take tickets ticket) delivery.flow after
  obtain ⟨changes, changing, matched⟩ :=
    proceed_changes (delivery.take tickets ticket) delivery.flow after
  have passes := passes_take free.1 unread
  rw [← known'] at passes
  have advances := tracked.pass follows (congrArg List.length answered) passes
  refine ⟨advances.tracked, ?_⟩
  intro delivered
  rw [advances.delivered delivered, iff_true, changes, changing, matched]
  change _ ∧ delivery.changes ++ _ = delivery.matched ++ (Option.or _ delivery.changing).toList
  rw [free.2, Option.or_none, delivered.matched, free.2]
  exact ⟨rfl, congrArg (· ++ _) (List.append_nil _)⟩

theorem Tracked.receiveCommand {delivery : Delivery} (tracked : delivery.Tracked)
    {next : StreamFlow} (received : delivery.flow.receiveCommand = some next) :
    delivery.Advances (delivery.receive.proceed delivery.flow next)
      (delivery.NothingLost platform .receiveCommand) := by
  unfold StreamFlow.receiveCommand at received
  obtain ⟨waiting, arrived⟩ := Option.ite_none_right_eq_some.mp received
  have free := tracked.idle (by rw [waiting]; rfl)
  rw [tracked.mirrored, Broadcast.map_recv] at arrived
  rw [Delivery.receive, NothingLost]
  cases found : delivery.tickets.recv with
  | mk tickets what =>
      rw [found] at arrived
      cases what with
      | empty => cases arrived
      | lagged =>
          cases arrived
          have behind := Broadcast.lagged_of_recv (congrArg Prod.snd found)
          let ended : StreamFlow :=
            { delivery.flow with cmdTx := .empty, commandTask := .ended }
          have lag := tracked.lag free (show ended.cmdTx = .empty from rfl) rfl
          exact lag.congr (imp_iff_right behind).symm
      | message entry =>
          cases arrived
          have ⟨unread, current⟩ := Broadcast.mem_unread_of_recv (congrArg Prod.snd found)
          rw [found] at unread
          let read : StreamFlow := { delivery.flow with cmdTx := tickets.map Prod.fst }
          have taken := tracked.take free unread (flag_cmdTx read entry.1)
            (flag_cases read entry.1)
          refine taken.congr (iff_of_true trivial ?_)
          rw [current]
          exact nofun

theorem findIdx?_name_none {names : List String} {name : String}
    (missing : names.findIdx? (· == name) = none) : name ∉ names := by
  intro member
  have different := List.findIdx?_eq_none_iff.mp missing name member
  rw [beq_self_eq_true] at different
  cases different

theorem findIdx?_name_some {names : List String} {name : String} {idx : Nat}
    (found : names.findIdx? (· == name) = some idx) : name ∈ names := by
  obtain ⟨inside, same, _⟩ := List.findIdx?_eq_some_iff_getElem.mp found
  rw [← beq_iff_eq.mp same]
  exact List.getElem_mem inside

theorem request_frame (flow : StreamFlow) (requestType requestId : String) (requestData : Value)
    (wsIncoming wsOutgoing : Nat) :
    let next := flow.request platform requestType requestId requestData wsIncoming wsOutgoing
    next.cmdTx = (flow.publish (dispatchRequest platform requestType requestId requestData flow.ws
        wsIncoming wsOutgoing).cmdTx).cmdTx ∧
      next.commandTask = flow.commandTask ∧
      next.ws.streamingActive = flow.ws.streamingActive := by
  dsimp only
  refine ⟨?_, StreamFlow.publish_commandTask _ _,
    (StreamFlow.request_sameFlags platform flow requestType requestId requestData wsIncoming
      wsOutgoing).streamingActive⟩
  rw [StreamFlow.request]
  cases (dispatchRequest platform requestType requestId requestData flow.ws wsIncoming
      wsOutgoing).cmdTx with
  | none => rfl
  | some cmd =>
      rw [StreamFlow.publish, StreamFlow.publish]
      split_ifs <;> rfl

theorem Tracked.request {delivery : Delivery} (tracked : delivery.Tracked)
    (requestType requestId : String) (requestData : Value) (wsIncoming wsOutgoing : Nat) :
    delivery.Advances
      ((delivery.record platform
        (.request requestType requestId requestData wsIncoming wsOutgoing)).proceed delivery.flow
          (delivery.flow.request platform requestType requestId requestData wsIncoming wsOutgoing))
      (delivery.NothingLost platform
        (.request requestType requestId requestData wsIncoming wsOutgoing)) := by
  obtain ⟨channel, task, flag⟩ := request_frame platform delivery.flow requestType requestId
    requestData wsIncoming wsOutgoing
  rw [record, Delivery.request, NothingLost]
  cases dispatchRequest_dispatches platform requestType requestId requestData delivery.flow.ws
    wsIncoming wsOutgoing with
  | start type _ cmdTx =>
      rw [cmdTx] at channel ⊢
      refine (tracked.streamRequest rfl channel task flag).congr ?_
      simp [type]
  | stop type _ cmdTx =>
      rw [cmdTx] at channel ⊢
      refine (tracked.streamRequest rfl channel task flag).congr ?_
      simp [type]
  | scene type _ idx found cmdTx sceneCommand =>
      rw [cmdTx] at channel
      rw [cmdTx, sceneCommand]
      refine (tracked.sceneRequest _ ⟨channel, congrArg _ task, flag⟩).congr ?_
      simp [type, findIdx?_name_some found]
  | missing type _ missing cmdTx sceneCommand =>
      rw [cmdTx] at channel
      rw [cmdTx, sceneCommand]
      refine (tracked.quiet ⟨channel, congrArg _ task, flag⟩).congr (iff_of_true trivial ?_)
      simp [type, findIdx?_name_none missing]
  | other noControl cmdTx sceneCommand =>
      rw [cmdTx] at channel
      rw [cmdTx, sceneCommand]
      refine (tracked.quiet ⟨channel, congrArg _ task, flag⟩).congr (iff_of_true trivial ?_)
      simp only [controlRequest, Bool.or_eq_false_iff, beq_eq_false_iff_ne] at noControl
      simp [noControl]

/-- A number is given out for each control request that is answered with success. -/
theorem answered_iff_success (delivery : Delivery) (requestType requestId : String)
    (requestData : Value) (wsIncoming wsOutgoing : Nat) :
    (delivery.record platform
        (.request requestType requestId requestData wsIncoming wsOutgoing)).answered.length =
        delivery.answered.length + 1 ↔
      controlRequest requestType ∧
        succeeded (dispatchRequest platform requestType requestId requestData delivery.flow.ws
          wsIncoming wsOutgoing).response := by
  have one : ∀ {command : Int32 × Int32},
      (delivery.answer command).answered.length = delivery.answered.length + 1 :=
    List.length_append
  rw [record, Delivery.request]
  cases dispatchRequest_dispatches platform requestType requestId requestData delivery.flow.ws
    wsIncoming wsOutgoing with
  | start type success cmdTx =>
      rw [cmdTx, success, type]
      refine iff_of_true ?_ ⟨rfl, rfl⟩
      exact (congrArg List.length (answered_publish _ _ _).1).trans one
  | stop type success cmdTx =>
      rw [cmdTx, success, type]
      refine iff_of_true ?_ ⟨rfl, rfl⟩
      exact (congrArg List.length (answered_publish _ _ _).1).trans one
  | scene type success idx found cmdTx sceneCommand =>
      rw [cmdTx, sceneCommand, success, type]
      refine iff_of_true ?_ ⟨rfl, rfl⟩
      dsimp only
      rw [Delivery.sceneRequest, pushScene]
      split <;> exact one
  | missing type failure missing cmdTx sceneCommand =>
      rw [cmdTx, sceneCommand, failure]
      simp
  | other noControl cmdTx sceneCommand =>
      rw [cmdTx, sceneCommand, noControl]
      simp

/-! ## Runs -/

theorem Tracked.step {delivery next : Delivery} {action : StreamAction}
    (tracked : delivery.Tracked) (stepped : step platform delivery action = some next) :
    delivery.Advances next (delivery.NothingLost platform action) := by
  obtain ⟨flow, moved, rfl⟩ := Option.map_eq_some_iff.mp stepped
  cases action with
  | request requestType requestId requestData wsIncoming wsOutgoing =>
      cases moved
      exact tracked.request platform requestType requestId requestData wsIncoming wsOutgoing
  | legacy text =>
      cases moved
      exact tracked.legacy platform text
  | receiveCommand => exact tracked.receiveCommand platform moved
  | pushCommand => exact tracked.pushCommand platform moved
  | storeStartedAt => exact tracked.quiet (quiet_storeStartedAt moved)
  | initPipeline | dequeue | call | startStream | stopStream | storeStreamActive
  | environment =>
      exact tracked.quiet (quiet_of_sameTask (StreamFlow.step_sameTask platform moved trivial))

theorem mem_accepted_request {delivery : Delivery} {requestType requestId : String}
    {requestData : Value} {wsIncoming wsOutgoing : Nat} {entry : Nat × Int32 × Int32}
    (member : entry ∈ (delivery.record platform
      (.request requestType requestId requestData wsIncoming wsOutgoing)).accepted) :
    entry ∈ delivery.accepted ∨
      entry.2 ∈ (delivery.flow.request platform requestType requestId requestData wsIncoming
        wsOutgoing).ws.wsCommandQueue.items := by
  rw [record, Delivery.request] at member
  split at member
  next cmd =>
    split at member
    next command =>
      rw [streamRequest, (answered_publish _ _ _).2] at member
      exact .inl member
    next =>
      rw [(answered_publish _ _ _).2] at member
      exact .inl member
  next command cmdTx sceneCommand =>
    rw [sceneRequest, pushScene] at member
    split at member
    next pushed =>
      rcases List.mem_append.mp member with old | new
      · exact .inl old
      · obtain ⟨queue, pushed⟩ := Option.isSome_iff_exists.mp pushed
        cases List.mem_singleton.mp new
        right
        rw [StreamFlow.request, cmdTx, sceneCommand]
        change command ∈ ((delivery.flow.ws.wsCommandQueue.push command).getD _).items
        rw [show delivery.flow.ws.wsCommandQueue.push command = some queue from pushed,
          Option.getD_some, (BoundedQueue.push_eq_some_iff.mp pushed).2]
        exact List.mem_append_right _ List.mem_cons_self
    next => exact .inl member
  next => exact .inl member

theorem mem_accepted_push {delivery : Delivery} {next : StreamFlow}
    (pushed : delivery.flow.pushCommand = some next) {entry : Nat × Int32 × Int32}
    (member : entry ∈ delivery.push.accepted) :
    entry ∈ delivery.accepted ∨ entry.2 ∈ next.ws.wsCommandQueue.items := by
  unfold StreamFlow.pushCommand at pushed
  split at pushed
  next code passing =>
    rw [Delivery.push, passing] at member
    dsimp only at member
    split at pushed
    next queue accepted =>
      cases pushed
      rw [accepted, if_pos (Option.isSome_some)] at member
      rcases List.mem_append.mp member with old | new
      · exact .inl old
      · obtain ⟨number, _, rfl⟩ := List.mem_map.mp new
        right
        dsimp only
        rw [(BoundedQueue.push_eq_some_iff.mp accepted).2]
        exact List.mem_append_right _ List.mem_cons_self
    next full =>
      rw [full, if_neg (by simp)] at member
      exact .inl member
  next => cases pushed

/-- The queue has each command that is recorded as accepted from that step on. -/
theorem accepted_in_queue {delivery next : Delivery} {action : StreamAction}
    (stepped : step platform delivery action = some next) :
    ∀ entry ∈ next.accepted,
      entry ∈ delivery.accepted ∨ entry.2 ∈ next.flow.ws.wsCommandQueue.items := by
  obtain ⟨flow, moved, rfl⟩ := Option.map_eq_some_iff.mp stepped
  have moved' : ((delivery.record platform action).proceed delivery.flow flow).flow = flow := by
    rw [proceed]
    split <;> rfl
  intro entry member
  rw [(proceed_known _ _ _).2.2] at member
  rw [moved']
  cases action with
  | request requestType requestId requestData wsIncoming wsOutgoing =>
      cases moved
      exact mem_accepted_request platform member
  | legacy text =>
      rw [record, Delivery.legacy] at member
      split at member
      · rw [(answered_publish _ _ _).2] at member
        exact .inl member
      · exact .inl member
  | receiveCommand =>
      rw [record, Delivery.receive] at member
      split at member <;> exact .inl member
  | pushCommand => exact mem_accepted_push moved member
  | _ => exact .inl member

/-- Once nothing is on its way, every answered command has been in the queue. -/
theorem Delivered.accepted {delivery : Delivery} (delivered : delivery.Delivered)
    (arrived : delivery.underWay = []) {number : Nat} {command : Int32 × Int32}
    (answered : delivery.answered[number]? = some command) :
    (number, command) ∈ delivery.accepted := by
  have member := List.mk_mem_zipIdx_iff_getElem?.mpr answered
  rcases delivered.queued _ member with accepted | underWay
  · exact accepted
  · rw [arrived] at underWay
    cases underWay

/-- The promise holds after every step of a run exactly if no step loses a command. -/
theorem control_responses_delivered (platform : Platform) {ws : WsState}
    {actions : List StreamAction} {finish : Delivery}
    (executed : Machine.exec (step platform) (start ws) actions = some finish) :
    Machine.Along (step platform) (DeliveredAfter platform) (start ws) actions ↔
      Machine.Along (step platform) (NothingLost platform) (start ws) actions := by
  apply Machine.along_after_iff _ (tracked_start ws) (delivered_start ws) executed
  intro delivery action next tracked delivered stepped
  have advances := tracked.step platform stepped
  exact ⟨advances.tracked, advances.delivered delivered⟩

def twoScenes : WsState := { StreamFlow.serverAt 0 with sceneNames := ["Sahne 1", "Sahne 2"] }

def setScene : StreamAction :=
  .request "SetCurrentProgramScene" "1" (.object [("sceneName", .string "Sahne 2")]) 0 0

def startedByRequest : List StreamAction :=
  [.request "StartStream" "2" .null 0 0, .receiveCommand, .storeStartedAt, .pushCommand]

theorem control_responses_delivered_once :
    Machine.Along (step StreamFlow.silentPlatform) (DeliveredAfter StreamFlow.silentPlatform)
      (start twoScenes) (setScene :: startedByRequest) := by
  obtain ⟨finish, executed⟩ := Option.isSome_iff_exists.mp
    (show (Machine.exec (step StreamFlow.silentPlatform) (start twoScenes)
      (setScene :: startedByRequest)).isSome by decide +kernel)
  apply (control_responses_delivered _ executed).mpr
  decide +kernel

def startedBehindScenes : List StreamAction :=
  List.replicate 32 setScene ++ startedByRequest

theorem start_response_lost :
    ¬ ∀ (platform : Platform) (ws : WsState) (actions : List StreamAction),
      Machine.Along (step platform) (DeliveredAfter platform) (start ws) actions := by
  intro always
  have lost : ¬ Machine.Along (step StreamFlow.silentPlatform)
      (DeliveredAfter StreamFlow.silentPlatform) (start twoScenes) startedBehindScenes := by
    decide +kernel
  exact lost (always _ _ _)

end Delivery

end RejiStudio.Ws
