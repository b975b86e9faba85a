import Mathlib.Data.List.Basic
import RejiStudio.Lib.Machine
import RejiStudio.Ws.CStrBounded
import RejiStudio.Ws.StreamFlags

/-!
# The scene list and its copy

The window keeps the scenes; the server keeps the names that were pushed last and the
index of the last switch.  A request for a scene travels as an index through the command
queue and the event queue of the window.
-/

namespace RejiStudio.Ws

open RejiStudio.Lib

/-- An item of `scene_list_`; the number tells items with one name apart. -/
structure Scene where
  id : Nat
  text : String
  deriving DecidableEq

/-- A queued call of the scene callback.  `wanted` is history: the scenes that had the
requested name when the request was accepted. -/
structure Posted where
  cmd : Int32
  param : UInt32
  wanted : List Nat
  deriving DecidableEq

/-- `active`, the scene of the last switch, `nextId` and `wanted`, the history of the
entries of the command queue, are history. -/
structure SceneWindow where
  rows : List Scene
  currentRow : Nat
  nextId : Nat
  active : Nat
  ws : WsState
  wanted : List (List Nat)
  posted : List Posted

inductive SceneAction where
  | addScene
  /-- The row that the list selects once the current one is gone, if it does. -/
  | removeScene (selected : Option Nat)
  /-- An edit of an item in place. -/
  | rename (row : Nat) (text : String)
  /-- An item is dragged to another place. -/
  | move (source target selected : Nat)
  | select (row : Nat)
  /-- An item is activated, or one of the transition buttons is pressed. -/
  | switch
  | request (requestType requestId : String) (requestData : Value) (wsIncoming wsOutgoing : Nat)
  /-- The task for stream and transition commands takes a command. -/
  | command (cmd : String)
  | dequeue
  | guiEvent
  /-- The rest of the shared state changes. -/
  | environment (state : WsState)

/-! ## The server's copy -/

def maxScenes : Nat := 256

def maxNameLen : Nat := 256

/-- The names that `rj_push_scene_names` keeps: null and unterminated ones are skipped. -/
def keptNames (names : List (Option (Nat → UInt8))) : List String :=
  (names.take maxScenes).filterMap fun ptr => cstrBounded ptr maxNameLen

def rjPushSceneNames (ws : WsState) (names : Option (List (Option (Nat → UInt8)))) : WsState :=
  match names with
  | none => ws
  | some names => { ws with sceneNames := keptNames names }

def requestedScene (requestData : Value) : String :=
  ((requestData.get "sceneName").bind Value.asStr).getD ""

theorem sceneCommand_cases {platform : Platform} {requestType requestId : String}
    {requestData : Value} {state : WsState} {wsIncoming wsOutgoing : Nat}
    {command : Int32 × Int32}
    (asked : (dispatchRequest platform requestType requestId requestData state wsIncoming
      wsOutgoing).sceneCommand = some command) :
    requestType = "SetCurrentProgramScene" ∧
      ∃ idx, state.sceneNames.findIdx? (· == requestedScene requestData) = some idx ∧
        command = (rjWsCmdSetScene, Int32.ofNat idx) := by
  unfold dispatchRequest at asked
  split at asked
  case h_7 =>
    dsimp only at asked
    split at asked
    next idx found =>
      cases asked
      exact ⟨rfl, idx, found, rfl⟩
    next => cases asked
  all_goals cases asked

theorem processStreamCmd_scenes (cmd : String) (state : WsState) :
    (processStreamCmd cmd state).1.sceneNames = state.sceneNames ∧
      (processStreamCmd cmd state).1.currentSceneIdx = state.currentSceneIdx ∧
      (processStreamCmd cmd state).1.wsCommandQueue = state.wsCommandQueue ∧
      ∀ code ∈ (processStreamCmd cmd state).2, code ≠ 5 := by
  unfold processStreamCmd
  split <;> exact ⟨rfl, rfl, rfl, by simp⟩

/-! ## The window -/

/-- The text of an item as `toUtf8().constData()`. -/
def Scene.utf8 (scene : Scene) : Nat → UInt8 := terminate (LossyText.encode scene.text.toList)

structure Storable (text : String) : Prop where
  nonzero : ∀ byte ∈ LossyText.encode text.toList, byte ≠ 0
  short : (LossyText.encode text.toList).length < maxNameLen

instance (text : String) : Decidable (Storable text) :=
  have := List.decidableBAll (fun byte : UInt8 => byte ≠ 0) (LossyText.encode text.toList)
  decidable_of_iff ((∀ byte ∈ LossyText.encode text.toList, byte ≠ 0) ∧
      (LossyText.encode text.toList).length < maxNameLen)
    ⟨fun ⟨nonzero, short⟩ => ⟨nonzero, short⟩, fun ⟨nonzero, short⟩ => ⟨nonzero, short⟩⟩

theorem Storable.cstrBounded {scene : Scene} (storable : Storable scene.text) :
    cstrBounded (some scene.utf8) maxNameLen = some scene.text := by
  have cstring := cstring_terminate storable.nonzero
  rw [Scene.utf8, cstring.cstrBounded, if_pos storable.short, LossyText.decode_encode,
    String.ofList_toList]

theorem keptNames_storable {rows : List Scene} (few : rows.length ≤ maxScenes)
    (storable : ∀ scene ∈ rows, Storable scene.text) :
    keptNames (rows.map fun scene => some scene.utf8) = rows.map Scene.text := by
  rw [keptNames, ← List.map_take, List.take_of_length_le few, List.filterMap_map,
    List.filterMap_eq_map_iff_forall_eq_some]
  intro scene member
  exact (storable scene member).cstrBounded

/-- `tr("Sahne %1")`. -/
def sceneTitle (number : Nat) : String := "Sahne " ++ toString number

def startScenes : List Scene := [⟨0, sceneTitle 1⟩, ⟨1, sceneTitle 2⟩, ⟨2, sceneTitle 3⟩]

namespace SceneWindow

def pushSceneNamesToRust (window : SceneWindow) : SceneWindow :=
  { window with
    ws := rjPushSceneNames window.ws (some (window.rows.map fun scene => some scene.utf8)) }

def start (ws : WsState) : SceneWindow :=
  pushSceneNamesToRust
    { rows := startScenes
      currentRow := 0
      nextId := 3
      active := 0
      ws := { ws with sceneNames := [], currentSceneIdx := 0, wsCommandQueue := .empty }
      wanted := []
      posted := [] }

def addScene (window : SceneWindow) : SceneWindow :=
  pushSceneNamesToRust
    { window with
      rows := window.rows ++ [⟨window.nextId, sceneTitle (window.rows.length + 1)⟩]
      currentRow := window.rows.length
      nextId := window.nextId + 1 }

def removeScene (window : SceneWindow) (selected : Option Nat) : Option SceneWindow :=
  if window.rows.length ≤ 1 then some window
  else
    let rows := window.rows.eraseIdx window.currentRow
    let row := selected.getD 0
    if row < rows.length then
      some (pushSceneNamesToRust { window with rows := rows, currentRow := row })
    else none

def rename (window : SceneWindow) (row : Nat) (text : String) : SceneWindow :=
  { window with rows := window.rows.modify row fun scene => { scene with text := text } }

def move (window : SceneWindow) (source target selected : Nat) : Option SceneWindow :=
  window.rows[source]?.bind fun scene =>
    if target < window.rows.length ∧ selected < window.rows.length then
      some { window with
        rows := (window.rows.eraseIdx source).insertIdx target scene
        currentRow := selected }
    else none

/-- `sendSceneSwitchEvent` with the current row. -/
def switch (window : SceneWindow) : SceneWindow :=
  { window with
    active := (window.rows[window.currentRow]?.map Scene.id).getD window.active
    ws := { window.ws with currentSceneIdx := UInt32.ofNat window.currentRow } }

def named (window : SceneWindow) (name : String) : List Nat :=
  (window.rows.filter fun scene => scene.text == name).map Scene.id

def push (window : SceneWindow) (command : Int32 × Int32) (wanted : List Nat) : SceneWindow :=
  match window.ws.wsCommandQueue.push command with
  | none => window
  | some queue =>
      { window with
        ws := { window.ws with wsCommandQueue := queue }
        wanted := window.wanted ++ [wanted] }

def request (platform : Platform) (window : SceneWindow) (requestType requestId : String)
    (requestData : Value) (wsIncoming wsOutgoing : Nat) : SceneWindow :=
  match (dispatchRequest platform requestType requestId requestData window.ws wsIncoming
      wsOutgoing).sceneCommand with
  | none => window
  | some command => window.push command (window.named (requestedScene requestData))

def command (window : SceneWindow) (cmd : String) : SceneWindow :=
  let (ws, code) := processStreamCmd cmd window.ws
  match code with
  | none => { window with ws := ws }
  | some code => push { window with ws := ws } (code, 0) []

/-- The frame thread takes a command; those for scenes go to the callback. -/
def dequeue (window : SceneWindow) : Option SceneWindow :=
  window.ws.wsCommandQueue.pop.map fun (command, queue) =>
    { window with
      ws := { window.ws with wsCommandQueue := queue }
      wanted := window.wanted.tail
      posted :=
        if command.1 = 3 ∨ command.1 = 4 ∨ command.1 = 5 then
          window.posted ++ [⟨command.1, command.2.toUInt32, window.wanted.headD []⟩]
        else window.posted }

def handle (window : SceneWindow) (event : Posted) : SceneWindow :=
  if event.cmd = 5 then
    if event.param.toNat < window.rows.length then
      switch { window with currentRow := event.param.toNat }
    else window
  else if event.cmd = 3 ∨ event.cmd = 4 then window.switch
  else window

def guiEvent (window : SceneWindow) : Option SceneWindow :=
  match window.posted with
  | [] => none
  | event :: rest => some (handle { window with posted := rest } event)

def step (platform : Platform) : Machine SceneWindow SceneAction
  | window, .addScene => some window.addScene
  | window, .removeScene selected => window.removeScene selected
  | window, .rename row text => some (window.rename row text)
  | window, .move source target selected => window.move source target selected
  | window, .select row =>
      if row < window.rows.length then some { window with currentRow := row } else none
  | window, .switch => some window.switch
  | window, .request requestType requestId requestData wsIncoming wsOutgoing =>
      some (window.request platform requestType requestId requestData wsIncoming wsOutgoing)
  | window, .command cmd => some (window.command cmd)
  | window, .dequeue => window.dequeue
  | window, .guiEvent => window.guiEvent
  | window, .environment state =>
      some { window with ws := { state with
        sceneNames := window.ws.sceneNames
        currentSceneIdx := window.ws.currentSceneIdx
        wsCommandQueue := window.ws.wsCommandQueue } }

end SceneWindow

end RejiStudio.Ws
