import RejiStudio.Ws.SceneList

/-!
# Selecting a scene by its name

The server turns the name into an index of its own copy, the window turns the index back
into a row when the command arrives.  The way is sound as long as the copy agrees with the
list at that row, and no edit moves the row of a command that is still on its way.
-/

namespace RejiStudio.Ws

open RejiStudio.Lib

def Held (rows : List Scene) (event : Posted) : Prop :=
  ∃ scene ∈ rows[event.param.toNat]?, scene.id ∈ event.wanted

instance (rows : List Scene) (event : Posted) : Decidable (Held rows event) := by
  unfold Held
  infer_instance

theorem Held.append {rows : List Scene} {event : Posted} (held : Held rows event)
    (more : List Scene) : Held (rows ++ more) event := by
  obtain ⟨scene, found, wanted⟩ := held
  refine ⟨scene, ?_, wanted⟩
  obtain ⟨inside, _⟩ := List.getElem?_eq_some_iff.mp found
  rw [List.getElem?_append_left inside]
  exact found

theorem Held.rename {rows : List Scene} {event : Posted} (held : Held rows event) (row : Nat)
    (text : String) :
    Held (rows.modify row fun scene => { scene with text := text }) event := by
  obtain ⟨scene, found, wanted⟩ := held
  rw [Option.mem_def] at found
  rw [Held, List.getElem?_modify, found]
  by_cases same : row = event.param.toNat
  · refine ⟨{ scene with text := text }, ?_, wanted⟩
    simp [same]
  · refine ⟨scene, ?_, wanted⟩
    simp [same]

namespace SceneWindow

variable {platform : Platform}

def waiting (window : SceneWindow) : List Posted :=
  window.posted ++
    List.zipWith (fun command wanted => ⟨command.1, command.2.toUInt32, wanted⟩)
      window.ws.wsCommandQueue.items window.wanted

/-- The rows after an edit still hold the scenes that the waiting commands ask for. -/
def KeepsHeld (window : SceneWindow) (rows : List Scene) : Prop :=
  ∀ event ∈ window.waiting, event.cmd = 5 → Held rows event

instance (window : SceneWindow) (rows : List Scene) : Decidable (window.KeepsHeld rows) := by
  unfold KeepsHeld
  infer_instance

/-- The first place of the requested name in the copy is a row with that name. -/
def CopyAgrees (window : SceneWindow) (name : String) : Prop :=
  ∀ idx ∈ window.ws.sceneNames.findIdx? (· == name),
    window.rows[idx]?.map Scene.text = some name

instance (window : SceneWindow) (name : String) : Decidable (window.CopyAgrees name) := by
  unfold CopyAgrees
  infer_instance

/-- Each push of the names brings the copy into agreement, as long as none is left out. -/
theorem copyAgrees_pushSceneNamesToRust {window : SceneWindow}
    (few : window.rows.length ≤ maxScenes)
    (storable : ∀ scene ∈ window.rows, Storable scene.text) (name : String) :
    window.pushSceneNamesToRust.CopyAgrees name := by
  intro idx found
  have copy : window.pushSceneNamesToRust.ws.sceneNames = window.rows.map Scene.text :=
    keptNames_storable few storable
  rw [copy, Option.mem_def] at found
  obtain ⟨inside, named, _⟩ := List.findIdx?_eq_some_iff_getElem.mp found
  change window.rows[idx]?.map Scene.text = some name
  rw [← List.getElem?_map, List.getElem?_eq_getElem inside]
  exact congrArg some (beq_iff_eq.mp named)

/-- A request finds the copy in agreement, and an edit leaves the waiting commands alone. -/
def InAgreement : SceneWindow → SceneAction → Prop
  | window, .request requestType _ requestData _ _ =>
      requestType = "SetCurrentProgramScene" → window.CopyAgrees (requestedScene requestData)
  | window, .removeScene _ =>
      1 < window.rows.length → window.KeepsHeld (window.rows.eraseIdx window.currentRow)
  | window, .move source target _ =>
      ∀ scene ∈ window.rows[source]?,
        window.KeepsHeld ((window.rows.eraseIdx source).insertIdx target scene)
  | _, _ => True

instance (window : SceneWindow) : ∀ action, Decidable (window.InAgreement action)
  | .request _ _ _ _ _ => inferInstanceAs (Decidable (_ = _ → _))
  | .removeScene _ => inferInstanceAs (Decidable (_ < _ → _))
  | .move _ _ _ => inferInstanceAs (Decidable (∀ _ ∈ _, _))
  | .addScene | .rename _ _ | .select _ | .switch | .command _ | .dequeue | .guiEvent
  | .environment _ => isTrue trivial

/-- A request that arrives switches to a scene that had the name when it was accepted. -/
def SelectsWanted : SceneWindow → SceneAction → Prop
  | window, .guiEvent =>
      ∀ event ∈ window.posted.head?, event.cmd = 5 →
        ∀ next ∈ window.guiEvent, ∃ scene ∈ next.rows[next.currentRow]?,
          next.active = scene.id ∧ scene.id ∈ event.wanted
  | _, _ => True

instance (window : SceneWindow) : ∀ action, Decidable (window.SelectsWanted action)
  | .guiEvent => inferInstanceAs (Decidable (∀ _ ∈ _, _))
  | .addScene | .removeScene _ | .rename _ _ | .move _ _ _ | .select _ | .switch
  | .request _ _ _ _ _ | .command _ | .dequeue | .environment _ => isTrue trivial

structure WaitingHeld (window : SceneWindow) : Prop where
  counted : window.wanted.length = window.ws.wsCommandQueue.items.length
  copied : window.ws.sceneNames.length ≤ maxScenes
  held : window.KeepsHeld window.rows

theorem WaitingHeld.keep {before after : SceneWindow} (invariant : before.WaitingHeld)
    (wanted : after.wanted = before.wanted) (posted : after.posted = before.posted)
    (queue : after.ws.wsCommandQueue = before.ws.wsCommandQueue)
    (copied : after.ws.sceneNames.length ≤ maxScenes) (held : before.KeepsHeld after.rows) :
    after.WaitingHeld where
  counted := by
    rw [wanted, queue]
    exact invariant.counted
  copied := copied
  held := by
    have same : after.waiting = before.waiting := by
      rw [waiting, waiting, wanted, posted, queue]
    intro event member
    rw [same] at member
    exact held event member

theorem length_keptNames (names : List (Option (Nat → UInt8))) :
    (keptNames names).length ≤ maxScenes := by
  calc (keptNames names).length
      ≤ (names.take maxScenes).length := List.length_filterMap_le _ _
    _ ≤ maxScenes := List.length_take_le _ _

theorem waitingHeld_start (ws : WsState) : (start ws).WaitingHeld where
  counted := rfl
  copied := length_keptNames _
  held := by
    intro event member
    cases member

theorem WaitingHeld.push {window : SceneWindow} (invariant : window.WaitingHeld)
    {command : Int32 × Int32} {wanted : List Nat}
    (held : command.1 = 5 → Held window.rows ⟨command.1, command.2.toUInt32, wanted⟩) :
    (window.push command wanted).WaitingHeld := by
  rw [SceneWindow.push]
  split
  next => exact invariant
  next queue pushed =>
    obtain ⟨_, items⟩ := BoundedQueue.push_eq_some_iff.mp pushed
    refine ⟨?_, invariant.copied, ?_⟩
    · change (window.wanted ++ [wanted]).length = queue.items.length
      rw [items, List.length_append, List.length_append, invariant.counted]
      rfl
    · intro event member set
      rw [waiting] at member
      change event ∈ window.posted ++ List.zipWith _ queue.items (window.wanted ++ [wanted])
        at member
      rw [items, List.zipWith_append invariant.counted.symm, ← List.append_assoc,
        List.mem_append] at member
      rcases member with earlier | new
      · exact invariant.held event earlier set
      · cases List.mem_singleton.mp new
        exact held set

theorem toNat_sceneIndex {idx : Nat} (small : idx < maxScenes) :
    (Int32.ofNat idx).toUInt32.toNat = idx := by
  have within : idx < UInt32.size := lt_of_lt_of_le small (by decide)
  exact UInt32.toNat_ofNat_of_lt within

/-- The index of a copy in agreement is the row of a scene with the name. -/
theorem WaitingHeld.request {window : SceneWindow} (invariant : window.WaitingHeld)
    {requestType requestId : String} {requestData : Value} {wsIncoming wsOutgoing : Nat}
    (agreed : requestType = "SetCurrentProgramScene" →
      window.CopyAgrees (requestedScene requestData)) :
    (window.request platform requestType requestId requestData wsIncoming
      wsOutgoing).WaitingHeld := by
  rw [SceneWindow.request]
  split
  next => exact invariant
  next command asked =>
    obtain ⟨sets, idx, found, rfl⟩ := sceneCommand_cases asked
    obtain ⟨inCopy, _⟩ := List.findIdx?_eq_some_iff_getElem.mp found
    have small : idx < maxScenes := lt_of_lt_of_le inCopy invariant.copied
    obtain ⟨scene, row, text⟩ := Option.map_eq_some_iff.mp (agreed sets idx found)
    refine invariant.push fun _ => ⟨scene, ?_, ?_⟩
    · dsimp only
      rw [toNat_sceneIndex small]
      exact row
    · apply List.mem_map_of_mem
      refine List.mem_filter.mpr ⟨List.mem_of_getElem? row, ?_⟩
      exact beq_iff_eq.mpr text

theorem WaitingHeld.command {window : SceneWindow} (invariant : window.WaitingHeld)
    (cmd : String) : (window.command cmd).WaitingHeld := by
  obtain ⟨names, _, queue, codes⟩ := processStreamCmd_scenes cmd window.ws
  have copied := invariant.copied
  rw [← names] at copied
  rw [SceneWindow.command]
  cases processed : processStreamCmd cmd window.ws with
  | mk ws code =>
      rw [processed] at queue copied codes
      have flagged : WaitingHeld { window with ws := ws } :=
        invariant.keep rfl rfl queue copied invariant.held
      cases code with
      | none => exact flagged
      | some code => exact flagged.push fun set => absurd set (codes code rfl)

/-- The oldest entry of the queue is the first of those not yet posted. -/
theorem WaitingHeld.dequeue {window next : SceneWindow} (invariant : window.WaitingHeld)
    (dequeued : window.dequeue = some next) : next.WaitingHeld := by
  obtain ⟨⟨command, queue⟩, popped, rfl⟩ := Option.map_eq_some_iff.mp dequeued
  have items := BoundedQueue.pop_eq_some_iff.mp popped
  have counted := invariant.counted
  rw [items] at counted
  cases history : window.wanted with
  | nil =>
      rw [history] at counted
      cases counted
  | cons wanted rest =>
      rw [history] at counted
      have all : window.waiting = window.posted ++ ⟨command.1, command.2.toUInt32, wanted⟩ ::
          List.zipWith (fun command wanted => ⟨command.1, command.2.toUInt32, wanted⟩)
            queue.items rest := by
        rw [waiting, items, history]
        rfl
      refine ⟨?_, invariant.copied, ?_⟩
      · exact Nat.succ.inj counted
      · intro event member set
        refine invariant.held event ?_ set
        rw [waiting] at member
        dsimp only [List.headD_cons, List.tail_cons] at member
        rw [all]
        split at member
        · simpa using member
        · rcases List.mem_append.mp member with earlier | later
          · exact List.mem_append_left _ earlier
          · exact List.mem_append_right _ (List.mem_cons_of_mem _ later)

theorem WaitingHeld.handle {window : SceneWindow} (invariant : window.WaitingHeld)
    (event : Posted) : (window.handle event).WaitingHeld := by
  rw [SceneWindow.handle]
  split_ifs <;> exact invariant.keep rfl rfl rfl invariant.copied invariant.held

theorem WaitingHeld.guiEvent {window next : SceneWindow} (invariant : window.WaitingHeld)
    (handled : window.guiEvent = some next) : next.WaitingHeld := by
  rw [SceneWindow.guiEvent] at handled
  split at handled
  next => cases handled
  next event rest posted =>
    cases handled
    apply WaitingHeld.handle
    refine ⟨invariant.counted, invariant.copied, ?_⟩
    intro other member set
    refine invariant.held other ?_ set
    rw [waiting, posted]
    exact List.mem_cons_of_mem _ member

theorem WaitingHeld.step {window next : SceneWindow} {action : SceneAction}
    (invariant : window.WaitingHeld) (agreed : window.InAgreement action)
    (stepped : step platform window action = some next) : next.WaitingHeld := by
  have copied := invariant.copied
  have held := invariant.held
  cases action with
  | addScene =>
      cases stepped
      refine invariant.keep rfl rfl rfl (length_keptNames _) ?_
      intro event member set
      exact (held event member set).append _
  | removeScene selected =>
      rw [SceneWindow.step, removeScene] at stepped
      split at stepped
      next => exact Option.some.inj stepped ▸ invariant
      next several =>
        dsimp only at stepped
        split at stepped
        next =>
          cases stepped
          exact invariant.keep rfl rfl rfl (length_keptNames _)
            (agreed (Nat.lt_of_not_le several))
        next => cases stepped
  | rename row text =>
      cases stepped
      refine invariant.keep rfl rfl rfl copied ?_
      intro event member set
      exact (held event member set).rename row text
  | move source target selected =>
      obtain ⟨scene, found, moved⟩ := Option.bind_eq_some_iff.mp stepped
      split at moved
      next =>
        cases moved
        exact invariant.keep rfl rfl rfl copied (agreed scene found)
      next => cases moved
  | select row =>
      rw [SceneWindow.step] at stepped
      split at stepped
      next =>
        cases stepped
        exact invariant.keep rfl rfl rfl copied held
      next => cases stepped
  | switch =>
      cases stepped
      exact invariant.keep rfl rfl rfl copied held
  | request requestType requestId requestData wsIncoming wsOutgoing =>
      cases stepped
      exact invariant.request agreed
  | command cmd =>
      cases stepped
      exact invariant.command cmd
  | dequeue => exact invariant.dequeue stepped
  | guiEvent => exact invariant.guiEvent stepped
  | environment state =>
      cases stepped
      exact invariant.keep rfl rfl rfl copied held

/-- The row of a command that arrives is there and becomes the current one. -/
theorem WaitingHeld.selectsWanted {window : SceneWindow} (invariant : window.WaitingHeld)
    (action : SceneAction) : window.SelectsWanted action := by
  cases action with
  | guiEvent =>
      intro event head set next handled
      obtain ⟨rest, posted⟩ := List.head?_eq_some_iff.mp head
      have member : event ∈ window.waiting := by
        rw [waiting, posted]
        exact List.mem_cons_self
      obtain ⟨scene, row, wanted⟩ := invariant.held event member set
      have inside : event.param.toNat < window.rows.length :=
        (List.getElem?_eq_some_iff.mp row).1
      rw [Option.mem_def, SceneWindow.guiEvent, posted] at handled
      cases handled
      rw [SceneWindow.handle, if_pos set, if_pos inside]
      refine ⟨scene, row, ?_, wanted⟩
      rw [switch, Option.mem_def.mp row]
      rfl
  | _ => trivial

/-- In every run in agreement, a request for a name activates a scene that had it. -/
theorem scene_selected_by_name (platform : Platform) (ws : WsState) (actions : List SceneAction)
    (agreed : Machine.Along (step platform) InAgreement (start ws) actions) :
    Machine.Along (step platform) SelectsWanted (start ws) actions := by
  have preserved : ∀ window action next, WaitingHeld window → InAgreement window action →
      step platform window action = some next → WaitingHeld next := by
    intro window action next invariant inAgreement stepped
    exact invariant.step inAgreement stepped
  refine Machine.Along.of_invariant preserved ?_ (waitingHeld_start ws) agreed
  intro window action invariant _
  exact invariant.selectsWanted action

def requestScene (name : String) : SceneAction :=
  .request "SetCurrentProgramScene" "1" (.object [("sceneName", .string name)]) 0 0

/-- A scene goes, and another one is renamed while a request for it waits. -/
def renamedWhileWaiting : List SceneAction :=
  [.removeScene none, requestScene "Sahne 3", .rename 1 "Kamera", .dequeue, .guiEvent]

theorem renamed_scene_selected :
    Machine.Along (step StreamFlow.silentPlatform) SelectsWanted
      (start (StreamFlow.serverAt 0)) renamedWhileWaiting := by
  apply scene_selected_by_name
  decide +kernel

/-- The last scene is dragged to the top, of which the server hears nothing. -/
def requestedAfterDrag : List SceneAction :=
  [.move 2 0 0, requestScene "Sahne 3", .dequeue, .guiEvent]

theorem dragged_scene_missed :
    ¬ ∀ (platform : Platform) (ws : WsState) (actions : List SceneAction),
      Machine.Along (step platform) SelectsWanted (start ws) actions := by
  intro always
  have missed : ¬ Machine.Along (step StreamFlow.silentPlatform) SelectsWanted
      (start (StreamFlow.serverAt 0)) requestedAfterDrag := by decide +kernel
  exact missed (always _ _ _)

end SceneWindow

end RejiStudio.Ws
