import Mathlib.Algebra.Order.Ring.Int
import RejiStudio.Lib.HandOver
import RejiStudio.Lib.Machine

/-!
# The capture of the desktop

`DxgiCaptureSession` holds the duplication of an output and at most one frame of it;
`DxgiCapturePipeline::capture_next` takes a frame, copies it into the texture that Vulkan
reads and returns it.  A duplication, a shared texture and a frame are known by numbers.  The
answers of the platform are choices of the environment; a call through a null duplication has
no result.
-/

namespace RejiStudio.Pipeline

open RejiStudio.Lib

/-- The calls that a duplication answers with success, and its beginning and end. -/
inductive DuplicationCall where
  | opened (id : Nat)
  | acquired (id : Nat)
  | released (id : Nat)
  | closed (id : Nat)
  deriving DecidableEq

/-- The platform side.  The numbers that are given out, the calls and the frames that went to
the encoder while a texture was shared are history. -/
structure Desktop where
  opened : Nat
  log : List DuplicationCall
  textures : Nat
  shared : Nat → HandOver Nat
  encoded : Nat → List Nat

namespace Desktop

def start : Desktop := ⟨0, [], 0, fun _ => HandOver.start, fun _ => []⟩

def note (desktop : Desktop) (calls : List DuplicationCall) : Desktop :=
  { desktop with log := desktop.log ++ calls }

/-- `duplication_.Reset()`. -/
def close (desktop : Desktop) (duplication : Option Nat) : Desktop :=
  desktop.note (duplication.toList.map .closed)

def store (desktop : Desktop) (texture : Nat) (handOver : HandOver Nat) : Desktop :=
  { desktop with shared := Function.update desktop.shared texture handOver }

end Desktop

/-- What the platform answers while a duplication is made: the output is found, has the
interface, and the attempts of `DuplicateOutput`. -/
structure DuplicationAnswer where
  output : Bool
  width : UInt32
  height : UInt32
  output1 : Bool
  attempts : List Bool
  format : UInt32
  deriving DecidableEq

/-- The outcomes of `AcquireNextFrame`, of its frame info and of the cast of its resource. -/
inductive AcquireAnswer where
  | timeout
  | lost
  | failed
  | cursorOnly
  | noTexture
  | frame (tex : Nat)
  deriving DecidableEq

structure DxgiCaptureSession where
  duplication : Option Nat
  frameTex : Option Nat
  surfaceFormat : UInt32
  width : UInt32
  height : UInt32
  frameHeld : Bool
  needsReinit : Bool
  initialized : Bool
  deriving DecidableEq

namespace DxgiCaptureSession

def blank : DxgiCaptureSession := ⟨none, none, 0, 0, 0, false, false, false⟩

/-- `DuplicateOutput` is tried three times. -/
def createDuplication (desktop : Desktop) (session : DxgiCaptureSession)
    (answer : DuplicationAnswer) : Bool × Desktop × DxgiCaptureSession :=
  let desktop := desktop.close session.duplication
  let session : DxgiCaptureSession :=
    { session with duplication := none, frameTex := none, frameHeld := false, needsReinit := false }
  if answer.output = false then (false, desktop, session)
  else
    let session : DxgiCaptureSession :=
      { session with width := answer.width, height := answer.height }
    if answer.output1 = false then (false, desktop, session)
    else if true ∈ answer.attempts.take 3 then
      (true, { desktop.note [.opened desktop.opened] with opened := desktop.opened + 1 },
        { session with duplication := some desktop.opened, surfaceFormat := answer.format })
    else (false, desktop, session)

def init (desktop : Desktop) (session : DxgiCaptureSession) (answer : DuplicationAnswer) :
    Bool × Desktop × DxgiCaptureSession :=
  match createDuplication desktop session answer with
  | (false, desktop, session) => (false, desktop, session)
  | (true, desktop, session) => (true, desktop, { session with initialized := true })

def giveBack (desktop : Desktop) (session : DxgiCaptureSession) :
    Desktop × DxgiCaptureSession :=
  if session.frameHeld = true ∧ session.duplication.isSome = true then
    (desktop.note (session.duplication.toList.map .released),
      { session with frameHeld := false, frameTex := none })
  else (desktop, { session with frameTex := none })

def reinit (desktop : Desktop) (session : DxgiCaptureSession) (answer : DuplicationAnswer) :
    Bool × Desktop × DxgiCaptureSession :=
  let (desktop, session) := giveBack desktop session
  createDuplication desktop session answer

def shutdown (desktop : Desktop) (session : DxgiCaptureSession) :
    Desktop × DxgiCaptureSession :=
  let (desktop, session) := giveBack desktop session
  (desktop.close session.duplication,
    { session with duplication := none, initialized := false, needsReinit := false })

/-- The frame, if there is one.  The duplication is called without a check. -/
def acquire (desktop : Desktop) (session : DxgiCaptureSession) (answer : AcquireAnswer) :
    Option (Option Nat × Desktop × DxgiCaptureSession) :=
  if session.initialized = false ∨ session.needsReinit = true then
    some (none, desktop, session)
  else
    match session.duplication with
    | none => none
    | some id =>
        let desktop := if session.frameHeld then desktop.note [.released id] else desktop
        let session : DxgiCaptureSession :=
          if session.frameHeld then { session with frameTex := none, frameHeld := false }
          else session
        match answer with
        | .timeout => some (none, desktop, session)
        | .lost => some (none, desktop, { session with needsReinit := true })
        | .failed => some (none, desktop, session)
        | .cursorOnly =>
            some (none, desktop.note [.acquired id, .released id],
              { session with frameHeld := false })
        | .noTexture =>
            some (none, desktop.note [.acquired id, .released id],
              { session with frameHeld := false })
        | .frame tex =>
            some (some tex, desktop.note [.acquired id],
              { session with frameTex := some tex, frameHeld := true })

def releaseFrame (desktop : Desktop) (session : DxgiCaptureSession) :
    Option (Desktop × DxgiCaptureSession) :=
  if session.frameHeld = false then some (desktop, session)
  else
    match session.duplication with
    | none => none
    | some id =>
        some (desktop.note [.released id], { session with frameTex := none, frameHeld := false })

end DxgiCaptureSession

/-- What the platform answers while the textures of the preview are made. -/
structure StagingAnswer where
  shared : Bool
  keyedMutex : Bool
  staging : Bool
  query : Bool
  deriving DecidableEq

/-- What the platform answers to one `capture_next`.  `acquiresSync` and `releasesSync` are the
calls of the keyed mutex, when it is the turn of D3D11; `fence` says that the event query comes
through in time. -/
structure CaptureAnswer where
  staging : StagingAnswer
  duplication : DuplicationAnswer
  acquire : AcquireAnswer
  transfers : Bool
  acquiresSync : Bool
  releasesSync : Bool
  fence : Bool
  deriving DecidableEq

/-- A pipeline whose `init` succeeded.  The legacy staging texture is never made. -/
structure DxgiCapturePipeline where
  session : DxgiCaptureSession
  sharedTexture : Option Nat
  keyedMutexShared : Bool
  stagingTexture : Bool
  previewStagingDirty : Bool
  amdCopyFence : Bool
  previewCb : Bool
  useKeyedMutex : Bool
  deriving DecidableEq

namespace DxgiCapturePipeline

/-- The textures are made once.  Without the staging texture the shared one is dropped. -/
def initPreviewStaging (desktop : Desktop) (pipeline : DxgiCapturePipeline)
    (answer : StagingAnswer) : Bool × Desktop × DxgiCapturePipeline :=
  if pipeline.sharedTexture.isSome then (true, desktop, pipeline)
  else if answer.shared = false then (false, desktop, pipeline)
  else
    let texture := desktop.textures
    let desktop : Desktop := { desktop with textures := texture + 1 }
    let pipeline : DxgiCapturePipeline := { pipeline with keyedMutexShared := answer.keyedMutex }
    if answer.staging = false then (false, desktop, { pipeline with stagingTexture := false })
    else
      (true, desktop,
        { pipeline with
          sharedTexture := some texture
          stagingTexture := true
          amdCopyFence := answer.query })

def ensurePreviewStaging (desktop : Desktop) (pipeline : DxgiCapturePipeline)
    (answer : StagingAnswer) : Desktop × DxgiCapturePipeline :=
  if pipeline.previewCb then (initPreviewStaging desktop pipeline answer).2
  else (desktop, pipeline)

/-- Copy the frame into the shared texture, with the keyed mutex or with the event query. -/
def share (desktop : Desktop) (pipeline : DxgiCapturePipeline) (frame : Nat)
    (answer : CaptureAnswer) : Bool × Desktop :=
  match pipeline.sharedTexture with
  | none => (true, desktop)
  | some texture =>
      if pipeline.useKeyedMutex && pipeline.keyedMutexShared then
        if answer.acquiresSync = false then (false, desktop)
        else
          match (desktop.shared texture).write frame answer.releasesSync with
          | none => (false, desktop)
          | some handOver => (answer.releasesSync, desktop.store texture handOver)
      else
        (!pipeline.amdCopyFence || answer.fence,
          desktop.store texture ((desktop.shared texture).put frame))

/-- The frame goes to the encoder, noted under the texture that is shared. -/
def handToEncoder (desktop : Desktop) (pipeline : DxgiCapturePipeline) (frame : Nat) : Desktop :=
  match pipeline.sharedTexture with
  | none => desktop
  | some texture =>
      { desktop with
        encoded := Function.update desktop.encoded texture (desktop.encoded texture ++ [frame]) }

/-- `capture_next` behind a frame that was acquired. -/
def deliver (desktop : Desktop) (pipeline : DxgiCapturePipeline) (frame : Nat)
    (answer : CaptureAnswer) : Option (Option Nat × Desktop × DxgiCapturePipeline) :=
  let (copied, desktop) := share desktop pipeline frame answer
  let pipeline : DxgiCapturePipeline :=
    if copied && pipeline.stagingTexture then { pipeline with previewStagingDirty := true }
    else pipeline
  match pipeline.session.releaseFrame desktop with
  | none => none
  | some (desktop, session) =>
      let pipeline : DxgiCapturePipeline := { pipeline with session := session }
      if copied && answer.transfers then
        some (some frame, handToEncoder desktop pipeline frame, pipeline)
      else some (none, desktop, pipeline)

/-- `capture_next` behind the renewal of the duplication. -/
def takeFrame (desktop : Desktop) (pipeline : DxgiCapturePipeline) (answer : CaptureAnswer) :
    Option (Option Nat × Desktop × DxgiCapturePipeline) :=
  match pipeline.session.acquire desktop answer.acquire with
  | none => none
  | some (none, desktop, session) => some (none, desktop, { pipeline with session := session })
  | some (some frame, desktop, session) =>
      deliver desktop { pipeline with session := session } frame answer

def captureNext (desktop : Desktop) (pipeline : DxgiCapturePipeline) (answer : CaptureAnswer) :
    Option (Option Nat × Desktop × DxgiCapturePipeline) :=
  let (desktop, pipeline) := ensurePreviewStaging desktop pipeline answer.staging
  if pipeline.session.needsReinit then
    match pipeline.session.reinit desktop answer.duplication with
    | (false, desktop, session) => some (none, desktop, { pipeline with session := session })
    | (true, desktop, session) => takeFrame desktop { pipeline with session := session } answer
  else takeFrame desktop pipeline answer

def shutdown (desktop : Desktop) (pipeline : DxgiCapturePipeline) : Desktop :=
  (pipeline.session.shutdown desktop).1

end DxgiCapturePipeline

/-- What the platform answers to an `init`: the adapters with their contexts, the duplication
and the resource manager. -/
structure PipelineAnswer where
  contexts : Bool
  duplication : DuplicationAnswer
  resources : Bool
  deriving DecidableEq

/-- `DxgiScreenCapture` with the platform; `pipeline_` is null where there is no pipeline. -/
structure DxgiScreenCapture where
  desktop : Desktop
  pipeline : Option DxgiCapturePipeline

namespace DxgiScreenCapture

def start : DxgiScreenCapture := ⟨Desktop.start, none⟩

def shutdown (capture : DxgiScreenCapture) : DxgiScreenCapture :=
  match capture.pipeline with
  | none => capture
  | some pipeline => ⟨pipeline.shutdown capture.desktop, none⟩

/-- The pipeline before is gone first.  A pipeline whose `init` fails is dropped with the session
it has made. -/
def init (capture : DxgiScreenCapture) (answer : PipelineAnswer) : DxgiScreenCapture :=
  let capture := capture.shutdown
  if answer.contexts = false then capture
  else
    match DxgiCaptureSession.blank.init capture.desktop answer.duplication with
    | (false, desktop, session) => ⟨(session.shutdown desktop).1, none⟩
    | (true, desktop, session) =>
        if answer.resources = false then ⟨(session.shutdown desktop).1, none⟩
        else ⟨desktop, some ⟨session, none, false, false, false, false, false, false⟩⟩

/-- `next_frame`: the frame of the texture that is returned. -/
def nextFrame (capture : DxgiScreenCapture) (answer : CaptureAnswer) :
    Option (Option Nat × DxgiScreenCapture) :=
  match capture.pipeline with
  | none => some (none, capture)
  | some pipeline =>
      match pipeline.captureNext capture.desktop answer with
      | none => none
      | some (frame, desktop, pipeline) => some (frame, ⟨desktop, some pipeline⟩)

def setPreviewRequested (capture : DxgiScreenCapture) (enabled : Bool) : DxgiScreenCapture :=
  { capture with
    pipeline := capture.pipeline.map fun pipeline => { pipeline with previewCb := enabled } }

def setUseKeyedMutex (capture : DxgiScreenCapture) (use : Bool) : DxgiScreenCapture :=
  { capture with
    pipeline := capture.pipeline.map fun pipeline => { pipeline with useKeyedMutex := use } }

def initPreviewStaging (capture : DxgiScreenCapture) (answer : StagingAnswer) :
    DxgiScreenCapture :=
  match capture.pipeline with
  | none => capture
  | some pipeline =>
      let (_, desktop, pipeline) := pipeline.initPreviewStaging capture.desktop answer
      ⟨desktop, some pipeline⟩

/-- The copy that Vulkan makes of a shared texture, behind the key or without it.  A submission
that waits for the key in vain copies nothing. -/
def vulkanCopy (capture : DxgiScreenCapture) (texture : Nat) (keyed : Bool) :
    DxgiScreenCapture :=
  let handOver := capture.desktop.shared texture
  let copied := if keyed then handOver.fetch.getD handOver else handOver.look
  { capture with desktop := capture.desktop.store texture copied }

inductive Call where
  | init (answer : PipelineAnswer)
  | nextFrame (answer : CaptureAnswer)
  | setPreviewRequested (enabled : Bool)
  | setUseKeyedMutex (use : Bool)
  | initPreviewStaging (answer : StagingAnswer)
  | vulkanCopy (texture : Nat) (keyed : Bool)
  | shutdown

def step : Machine DxgiScreenCapture Call
  | capture, .init answer => some (capture.init answer)
  | capture, .nextFrame answer => (capture.nextFrame answer).map Prod.snd
  | capture, .setPreviewRequested enabled => some (capture.setPreviewRequested enabled)
  | capture, .setUseKeyedMutex use => some (capture.setUseKeyedMutex use)
  | capture, .initPreviewStaging answer => some (capture.initPreviewStaging answer)
  | capture, .vulkanCopy texture keyed => some (capture.vulkanCopy texture keyed)
  | capture, .shutdown => some capture.shutdown

end DxgiScreenCapture

end RejiStudio.Pipeline
