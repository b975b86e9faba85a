import Mathlib.Data.List.Nodup
import RejiStudio.Ws.SceneList

/-!
# The program scene that the server reports

The server keeps the index of the last switch and replaces the names under it whenever a
scene goes.  The name it reports stays that of the active scene exactly if each removal
leaves that name at the index.
-/

namespace RejiStudio.Ws

open RejiStudio.Lib

/-- `currentProgramSceneName` in the response to GetSceneList. -/
def reportedScene (state : WsState) : String :=
  state.sceneNames.getD state.currentSceneIdx.toNat ""

theorem dispatchRequest_reportedScene (platform : Platform) (requestId : String)
    (requestData : Value) (state : WsState) (wsIncoming wsOutgoing : Nat) :
    ((dispatchRequest platform "GetSceneList" requestId requestData state wsIncoming
      wsOutgoing).response.d.get "responseData").bind (·.get "currentProgramSceneName") =
      some (.string (reportedScene state)) := rfl

namespace SceneWindow

variable {platform : Platform}

def ReportsActive (window : SceneWindow) : Prop :=
  ∃ scene ∈ window.rows, scene.id = window.active ∧ reportedScene window.ws = scene.text

instance (window : SceneWindow) : Decidable window.ReportsActive := by
  unfold ReportsActive
  infer_instance

/-- Switches, whatever causes them, and removals of scenes other than the active one. -/
def InScope : SceneWindow → SceneAction → Bool
  | _, .addScene | _, .rename _ _ | _, .move _ _ _ => false
  | window, .removeScene _ =>
      window.rows[window.currentRow]?.map Scene.id != some window.active
  | _, _ => true

def programStep (platform : Platform) : Machine SceneWindow SceneAction :=
  fun window action => if window.InScope action then step platform window action else none

def rowName (window : SceneWindow) (row : Nat) : String :=
  (window.rows.map Scene.text).getD row ""

/-- A scene that goes sits below the row that the server remembers, or the scene that
slides up to that row has the same name. -/
def NameStays : SceneWindow → SceneAction → Prop
  | window, .removeScene _ =>
      1 < window.rows.length →
        window.ws.currentSceneIdx.toNat < window.currentRow ∨
          window.rowName (window.ws.currentSceneIdx.toNat + 1) =
            window.rowName window.ws.currentSceneIdx.toNat
  | _, _ => True

instance (window : SceneWindow) : ∀ action, Decidable (window.NameStays action)
  | .removeScene _ => inferInstanceAs (Decidable (_ → _ ∨ _))
  | .addScene | .rename _ _ | .move _ _ _ | .select _ | .switch | .request _ _ _ _ _
  | .command _ | .dequeue | .guiEvent | .environment _ => isTrue trivial

def ReportsAfter (platform : Platform) (window : SceneWindow) (action : SceneAction) : Prop :=
  ∀ next ∈ programStep platform window action, next.ReportsActive

instance (window : SceneWindow) (action : SceneAction) :
    Decidable (ReportsAfter platform window action) := by
  unfold ReportsAfter
  infer_instance

structure InStep (window : SceneWindow) : Prop where
  copied : window.ws.sceneNames = window.rows.map Scene.text
  few : window.rows.length ≤ maxScenes
  storable : ∀ scene ∈ window.rows, Storable scene.text
  numbered : (window.rows.map Scene.id).Nodup
  current : window.currentRow < window.rows.length

theorem InStep.reportedScene {window : SceneWindow} (inStep : window.InStep) :
    Ws.reportedScene window.ws = window.rowName window.ws.currentSceneIdx.toNat := by
  rw [Ws.reportedScene, inStep.copied, rowName]

theorem InStep.same {window : SceneWindow} (inStep : window.InStep) {first second : Scene}
    (firstIn : first ∈ window.rows) (secondIn : second ∈ window.rows)
    (number : first.id = second.id) : first = second :=
  List.inj_on_of_nodup_map inStep.numbered firstIn secondIn number

/-! ## Steps that keep the list -/

structure SameScenes (before after : SceneWindow) : Prop where
  rows : after.rows = before.rows
  currentRow : after.currentRow = before.currentRow
  active : after.active = before.active
  names : after.ws.sceneNames = before.ws.sceneNames
  index : after.ws.currentSceneIdx = before.ws.currentSceneIdx

theorem InStep.keep {before after : SceneWindow} (inStep : before.InStep)
    (same : before.SameScenes after) : after.InStep where
  copied := by rw [same.names, same.rows, inStep.copied]
  few := by rw [same.rows]; exact inStep.few
  storable := by rw [same.rows]; exact inStep.storable
  numbered := by rw [same.rows]; exact inStep.numbered
  current := by rw [same.rows, same.currentRow]; exact inStep.current

theorem ReportsActive.keep {before after : SceneWindow} (reports : before.ReportsActive)
    (same : before.SameScenes after) : after.ReportsActive := by
  rw [ReportsActive, reportedScene, same.rows, same.active, same.names, same.index]
  exact reports

theorem push_sameScenes (window : SceneWindow) (command : Int32 × Int32) (wanted : List Nat) :
    window.SameScenes (window.push command wanted) := by
  rw [push]
  split <;> exact ⟨rfl, rfl, rfl, rfl, rfl⟩

theorem request_sameScenes (window : SceneWindow) (requestType requestId : String)
    (requestData : Value) (wsIncoming wsOutgoing : Nat) :
    window.SameScenes (window.request platform requestType requestId requestData wsIncoming
      wsOutgoing) := by
  rw [request]
  split
  · exact ⟨rfl, rfl, rfl, rfl, rfl⟩
  · apply push_sameScenes

theorem SameScenes.trans {first second third : SceneWindow} (before : first.SameScenes second)
    (after : second.SameScenes third) : first.SameScenes third where
  rows := after.rows.trans before.rows
  currentRow := after.currentRow.trans before.currentRow
  active := after.active.trans before.active
  names := after.names.trans before.names
  index := after.index.trans before.index

theorem command_sameScenes (window : SceneWindow) (cmd : String) :
    window.SameScenes (window.command cmd) := by
  obtain ⟨names, index, _, _⟩ := processStreamCmd_scenes cmd window.ws
  rw [command]
  cases processed : processStreamCmd cmd window.ws with
  | mk ws code =>
      rw [processed] at names index
      have flagged : window.SameScenes { window with ws := ws } := ⟨rfl, rfl, rfl, names, index⟩
      cases code with
      | none => exact flagged
      | some code => exact flagged.trans (push_sameScenes _ _ _)

theorem dequeue_sameScenes {window next : SceneWindow} (dequeued : window.dequeue = some next) :
    window.SameScenes next := by
  obtain ⟨_, _, rfl⟩ := Option.map_eq_some_iff.mp dequeued
  exact ⟨rfl, rfl, rfl, rfl, rfl⟩

/-! ## Switches -/

theorem InStep.switch {window : SceneWindow} (inStep : window.InStep) :
    window.switch.InStep ∧ window.switch.ReportsActive := by
  refine ⟨⟨inStep.copied, inStep.few, inStep.storable, inStep.numbered, inStep.current⟩, ?_⟩
  have inside := inStep.current
  have row := List.getElem?_eq_getElem inside
  have within : window.currentRow < UInt32.size :=
    lt_of_lt_of_le (lt_of_lt_of_le inStep.current inStep.few) (by decide)
  refine ⟨window.rows[window.currentRow], List.getElem_mem inStep.current, ?_, ?_⟩
  · rw [SceneWindow.switch, row]
    rfl
  · have place : (UInt32.ofNat window.currentRow).toNat = window.currentRow :=
      UInt32.toNat_ofNat_of_lt within
    change window.ws.sceneNames.getD (UInt32.ofNat window.currentRow).toNat "" = _
    rw [place, inStep.copied, List.getD_eq_getElem?_getD,
      List.getElem?_map, row]
    rfl

theorem InStep.select {window : SceneWindow} (inStep : window.InStep) {row : Nat}
    (inside : row < window.rows.length) : InStep { window with currentRow := row } :=
  ⟨inStep.copied, inStep.few, inStep.storable, inStep.numbered, inside⟩

theorem InStep.handle {window : SceneWindow} (inStep : window.InStep)
    (reports : window.ReportsActive) (event : Posted) :
    (window.handle event).InStep ∧ (window.handle event).ReportsActive := by
  rw [SceneWindow.handle]
  split_ifs with _ inside
  · exact (inStep.select inside).switch
  · exact ⟨inStep, reports⟩
  · exact inStep.switch
  · exact ⟨inStep, reports⟩

theorem InStep.guiEvent {window next : SceneWindow} (inStep : window.InStep)
    (reports : window.ReportsActive) (handled : window.guiEvent = some next) :
    next.InStep ∧ next.ReportsActive := by
  rw [SceneWindow.guiEvent] at handled
  split at handled
  next => cases handled
  next event rest _ =>
    cases handled
    have same : window.SameScenes { window with posted := rest } := ⟨rfl, rfl, rfl, rfl, rfl⟩
    exact (inStep.keep same).handle (reports.keep same) event

/-! ## Removals -/

def without (window : SceneWindow) (row : Nat) : SceneWindow :=
  pushSceneNamesToRust
    { window with rows := window.rows.eraseIdx window.currentRow, currentRow := row }

theorem InStep.without {window : SceneWindow} (inStep : window.InStep) {row : Nat}
    (inside : row < (window.rows.eraseIdx window.currentRow).length) :
    (window.without row).InStep := by
  have fewer : (window.rows.eraseIdx window.currentRow).length ≤ maxScenes :=
    (List.length_eraseIdx_le _ _).trans inStep.few
  have storable : ∀ scene ∈ window.rows.eraseIdx window.currentRow, Storable scene.text :=
    fun scene member => inStep.storable scene (List.mem_of_mem_eraseIdx member)
  refine ⟨keptNames_storable fewer storable, fewer, storable, ?_, inside⟩
  exact inStep.numbered.sublist ((List.eraseIdx_sublist _ _).map _)

theorem rowName_without (window : SceneWindow) (row place : Nat) :
    (window.without row).rowName place =
      window.rowName (if place < window.currentRow then place else place + 1) := by
  change ((window.rows.eraseIdx window.currentRow).map Scene.text).getD place "" = _
  rw [rowName, List.getD_eq_getElem?_getD, List.getD_eq_getElem?_getD, List.getElem?_map,
    List.getElem?_map, List.getElem?_eraseIdx]
  split <;> rfl

/-- The report survives the removal of another scene exactly if the name stays. -/
theorem InStep.reportsActive_without {window : SceneWindow} (inStep : window.InStep)
    (reports : window.ReportsActive)
    (other : window.rows[window.currentRow]?.map Scene.id ≠ some window.active) {row : Nat}
    (inside : row < (window.rows.eraseIdx window.currentRow).length) :
    (window.without row).ReportsActive ↔
      window.ws.currentSceneIdx.toNat < window.currentRow ∨
        window.rowName (window.ws.currentSceneIdx.toNat + 1) =
          window.rowName window.ws.currentSceneIdx.toNat := by
  obtain ⟨scene, member, number, reported⟩ := reports
  have stays : scene ∈ (window.without row).rows := by
    obtain ⟨place, bound, rfl⟩ := List.getElem_of_mem member
    refine List.mem_eraseIdx_iff_getElem.mpr ⟨place, bound, ?_, rfl⟩
    rintro rfl
    apply other
    rw [List.getElem?_eq_getElem bound, Option.map_some, number]
  have after : Ws.reportedScene (window.without row).ws =
      window.rowName (if window.ws.currentSceneIdx.toNat < window.currentRow then
        window.ws.currentSceneIdx.toNat else window.ws.currentSceneIdx.toNat + 1) := by
    rw [(inStep.without inside).reportedScene]
    apply rowName_without
  have unique : (window.without row).ReportsActive ↔
      Ws.reportedScene (window.without row).ws = scene.text := by
    constructor
    · rintro ⟨active, activeIn, activeNumber, named⟩
      have same : active = scene :=
        (inStep.without inside).same activeIn stays (activeNumber.trans number.symm)
      rw [named, same]
    · intro named
      exact ⟨scene, stays, number, named⟩
  rw [unique, after, ← reported, inStep.reportedScene]
  split
  next before => exact iff_of_true rfl (.inl before)
  next behind => rw [or_iff_right behind]

structure Reported (window : SceneWindow) : Prop where
  inStep : window.InStep
  reports : window.ReportsActive

theorem Reported.keep {before after : SceneWindow} (reported : before.Reported)
    (same : before.SameScenes after) : after.Reported :=
  ⟨reported.inStep.keep same, reported.reports.keep same⟩

theorem Reported.step {window next : SceneWindow} {action : SceneAction}
    (reported : window.Reported) (stepped : programStep platform window action = some next) :
    next.InStep ∧ (window.NameStays action ↔ next.ReportsActive) := by
  have ⟨inStep, reports⟩ := reported
  -- all but a removal keep the report
  have always : ∀ {after : SceneWindow}, after.Reported →
      after.InStep ∧ (True ↔ after.ReportsActive) :=
    fun kept => ⟨kept.inStep, iff_of_true trivial kept.reports⟩
  rw [programStep] at stepped
  split at stepped
  next inScope =>
    cases action with
    | addScene => cases inScope
    | rename row text => cases inScope
    | move source target selected => cases inScope
    | removeScene selected =>
        rw [SceneWindow.step, removeScene] at stepped
        split at stepped
        next single =>
          cases stepped
          refine ⟨inStep, iff_of_true ?_ reports⟩
          intro several
          exact absurd single (Nat.not_le_of_lt several)
        next several =>
          dsimp only at stepped
          split at stepped
          next inside =>
            cases stepped
            refine ⟨inStep.without inside, ?_⟩
            have other := bne_iff_ne.mp inScope
            rw [NameStays, forall_prop_of_true (Nat.lt_of_not_le several)]
            exact (inStep.reportsActive_without reports other inside).symm
          next => cases stepped
    | select row =>
        rw [SceneWindow.step] at stepped
        split at stepped
        next inside =>
          cases stepped
          exact always ⟨inStep.select inside, reports⟩
        next => cases stepped
    | switch =>
        cases stepped
        exact always ⟨inStep.switch.1, inStep.switch.2⟩
    | request requestType requestId requestData wsIncoming wsOutgoing =>
        cases stepped
        exact always (reported.keep (request_sameScenes _ _ _ _ _ _))
    | command cmd =>
        cases stepped
        exact always (reported.keep (command_sameScenes _ _))
    | dequeue => exact always (reported.keep (dequeue_sameScenes stepped))
    | guiEvent =>
        obtain ⟨after, shown⟩ := inStep.guiEvent reports stepped
        exact always ⟨after, shown⟩
    | environment state =>
        cases stepped
        exact always (reported.keep ⟨rfl, rfl, rfl, rfl, rfl⟩)
  next => cases stepped

theorem inStep_start (ws : WsState) : (start ws).InStep := by
  have storable : ∀ scene ∈ startScenes, Storable scene.text := by decide +kernel
  have few : startScenes.length ≤ maxScenes := by decide
  have numbered : (startScenes.map Scene.id).Nodup := by decide
  exact ⟨keptNames_storable few storable, few, storable, numbered, Nat.succ_pos 2⟩

theorem reportsActive_start (ws : WsState) : (start ws).ReportsActive := by
  refine ⟨⟨0, sceneTitle 1⟩, List.mem_cons_self, rfl, ?_⟩
  rw [(inStep_start ws).reportedScene]
  rfl

theorem program_scene_reported (platform : Platform) {window finish : SceneWindow}
    {actions : List SceneAction} (inStep : window.InStep) (reports : window.ReportsActive)
    (executed : Machine.exec (programStep platform) window actions = some finish) :
    Machine.Along (programStep platform) (ReportsAfter platform) window actions ↔
      Machine.Along (programStep platform) NameStays window actions := by
  apply Machine.along_after_iff _ inStep reports executed
  intro window action next invariant shown stepped
  obtain ⟨after, kept⟩ := Reported.step ⟨invariant, shown⟩ stepped
  exact ⟨after, kept.symm⟩

def lowerSceneRemoved : List SceneAction := [.select 1, .switch, .select 2, .removeScene (some 1)]

theorem program_scene_reported_after_removal :
    Machine.Along (programStep StreamFlow.silentPlatform)
      (ReportsAfter StreamFlow.silentPlatform) (start (StreamFlow.serverAt 0))
      lowerSceneRemoved := by
  obtain ⟨finish, executed⟩ := Option.isSome_iff_exists.mp
    (show (Machine.exec (programStep StreamFlow.silentPlatform) (start (StreamFlow.serverAt 0))
      lowerSceneRemoved).isSome by decide +kernel)
  apply (program_scene_reported _ (inStep_start _) (reportsActive_start _) executed).mpr
  decide +kernel

def upperSceneRemoved : List SceneAction := [.select 2, .switch, .select 0, .removeScene (some 0)]

theorem program_scene_lost_after_removal :
    ¬ ∀ (platform : Platform) (ws : WsState) (actions : List SceneAction),
      Machine.Along (programStep platform) (ReportsAfter platform) (start ws) actions := by
  intro always
  have lost : ¬ Machine.Along (programStep StreamFlow.silentPlatform)
      (ReportsAfter StreamFlow.silentPlatform) (start (StreamFlow.serverAt 0))
      upperSceneRemoved := by decide +kernel
  exact lost (always _ _ _)

end SceneWindow

end RejiStudio.Ws
