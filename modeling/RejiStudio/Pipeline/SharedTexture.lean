import RejiStudio.Pipeline.DxgiCapture

/-!
# The texture between D3D11 and Vulkan

The capture writes the shared texture behind one key of its mutex, and the copy of the preview
reads it behind the other.  As long as both sides use the keys, every frame that is written is
read once, and the encoder runs no more than one frame ahead of the preview.
-/

namespace RejiStudio.Pipeline

open RejiStudio.Lib

structure SameShared (desktop other : Desktop) : Prop where
  shared : other.shared = desktop.shared
  encoded : other.encoded = desktop.encoded

namespace SameShared

variable {first second third : Desktop}

theorem refl (desktop : Desktop) : SameShared desktop desktop := ⟨rfl, rfl⟩

theorem trans (before : SameShared first second) (after : SameShared second third) :
    SameShared first third :=
  ⟨after.shared.trans before.shared, after.encoded.trans before.encoded⟩

theorem note (desktop : Desktop) (calls : List DuplicationCall) :
    SameShared desktop (desktop.note calls) := ⟨rfl, rfl⟩

theorem close (desktop : Desktop) (duplication : Option Nat) :
    SameShared desktop (desktop.close duplication) := ⟨rfl, rfl⟩

end SameShared

namespace DxgiCaptureSession

theorem createDuplication_sameShared (desktop : Desktop) (session : DxgiCaptureSession)
    (answer : DuplicationAnswer) :
    SameShared desktop (session.createDuplication desktop answer).2.1 := by
  unfold createDuplication
  dsimp only
  split
  · exact SameShared.close _ _
  · split
    · exact SameShared.close _ _
    · split
      · exact ⟨rfl, rfl⟩
      · exact SameShared.close _ _

theorem giveBack_sameShared (desktop : Desktop) (session : DxgiCaptureSession) :
    SameShared desktop (session.giveBack desktop).1 := by
  unfold giveBack
  split
  · exact SameShared.note _ _
  · exact SameShared.refl _

theorem reinit_sameShared (desktop : Desktop) (session : DxgiCaptureSession)
    (answer : DuplicationAnswer) :
    SameShared desktop (session.reinit desktop answer).2.1 :=
  (session.giveBack_sameShared desktop).trans (createDuplication_sameShared _ _ _)

theorem shutdown_sameShared (desktop : Desktop) (session : DxgiCaptureSession) :
    SameShared desktop (session.shutdown desktop).1 :=
  (session.giveBack_sameShared desktop).trans (SameShared.close _ _)

theorem init_sameShared (desktop : Desktop) (session : DxgiCaptureSession)
    (answer : DuplicationAnswer) :
    SameShared desktop (session.init desktop answer).2.1 := by
  have same := session.createDuplication_sameShared desktop answer
  unfold init
  generalize session.createDuplication desktop answer = outcome at same ⊢
  obtain ⟨ok, after, next⟩ := outcome
  cases ok with
  | false => exact same
  | true => exact same

theorem acquire_sameShared {desktop after : Desktop} {session next : DxgiCaptureSession}
    {answer : AcquireAnswer} {frame : Option Nat}
    (acquired : session.acquire desktop answer = some (frame, after, next)) :
    SameShared desktop after := by
  unfold acquire at acquired
  split at acquired
  · cases acquired
    exact SameShared.refl _
  · cases duplication : session.duplication with
    | none =>
        rw [duplication] at acquired
        cases acquired
    | some id =>
        rw [duplication] at acquired
        have entered : SameShared desktop
            (if session.frameHeld then desktop.note [.released id] else desktop) := by
          split
          · exact SameShared.note _ _
          · exact SameShared.refl _
        cases answer with
        | timeout =>
            cases acquired
            exact entered
        | lost =>
            cases acquired
            exact entered
        | failed =>
            cases acquired
            exact entered
        | cursorOnly =>
            cases acquired
            exact entered.trans (SameShared.note _ _)
        | noTexture =>
            cases acquired
            exact entered.trans (SameShared.note _ _)
        | frame tex =>
            cases acquired
            exact entered.trans (SameShared.note _ _)

theorem releaseFrame_sameShared {desktop after : Desktop} {session next : DxgiCaptureSession}
    (released : session.releaseFrame desktop = some (after, next)) :
    SameShared desktop after := by
  unfold releaseFrame at released
  split at released
  · cases released
    exact SameShared.refl _
  · cases duplication : session.duplication with
    | none =>
        rw [duplication] at released
        cases released
    | some id =>
        rw [duplication] at released
        cases released
        exact SameShared.note _ _

end DxgiCaptureSession

/-- The texture is handed over in turn, and what went to the encoder meanwhile was written to
it. -/
structure Desktop.Kept (texture : Nat) (desktop : Desktop) : Prop where
  inTurn : (desktop.shared texture).InTurn
  encoded : List.Sublist (desktop.encoded texture) (desktop.shared texture).written

namespace Desktop.Kept

variable {texture : Nat} {desktop other : Desktop}

theorem congr (kept : desktop.Kept texture) (same : SameShared desktop other) :
    other.Kept texture := by
  obtain ⟨inTurn, encoded⟩ := kept
  constructor
  · rw [same.shared]
    exact inTurn
  · rw [same.encoded, same.shared]
    exact encoded

theorem write {frame : Nat} {passes : Bool} {handOver : HandOver Nat}
    (kept : desktop.Kept texture)
    (wrote : (desktop.shared texture).write frame passes = some handOver) :
    (desktop.store texture handOver).Kept texture ∧
      List.Sublist (desktop.encoded texture ++ [frame]) handOver.written := by
  have written : handOver.written = (desktop.shared texture).written ++ [frame] := by
    rw [HandOver.write, Option.ite_none_right_eq_some, Option.some.injEq] at wrote
    rw [← wrote.2]
    rfl
  have stored : (desktop.store texture handOver).shared texture = handOver :=
    Function.update_self _ _ _
  refine ⟨⟨?_, ?_⟩, ?_⟩
  · rw [stored]
    exact kept.inTurn.write wrote
  · rw [stored, written]
    exact kept.encoded.trans (List.sublist_append_left _ _)
  · rw [written]
    exact kept.encoded.append_right _

theorem store_other {elsewhere : Nat} (kept : desktop.Kept texture)
    (different : elsewhere ≠ texture) (handOver : HandOver Nat) :
    (desktop.store elsewhere handOver).Kept texture := by
  have same : (desktop.store elsewhere handOver).shared texture = desktop.shared texture :=
    Function.update_of_ne different.symm _ _
  refine ⟨?_, ?_⟩
  · rw [same]
    exact kept.inTurn
  · rw [same]
    exact kept.encoded

end Desktop.Kept

namespace DxgiCapturePipeline

def Keyed (texture : Nat) (pipeline : DxgiCapturePipeline) : Prop :=
  pipeline.sharedTexture = some texture →
    pipeline.useKeyedMutex = true ∧ pipeline.keyedMutexShared = true

/-- A frame is copied in turn, and then it may go to the encoder too. -/
theorem share_kept {texture : Nat} {desktop : Desktop} {pipeline : DxgiCapturePipeline}
    (kept : desktop.Kept texture) (keyed : pipeline.Keyed texture) (frame : Nat)
    (answer : CaptureAnswer) :
    (pipeline.share desktop frame answer).2.Kept texture ∧
      ((pipeline.share desktop frame answer).1 = true →
        (handToEncoder (pipeline.share desktop frame answer).2 pipeline frame).Kept texture) := by
  unfold share handToEncoder
  cases shared : pipeline.sharedTexture with
  | none => exact ⟨kept, fun _ => kept⟩
  | some current =>
      dsimp only
      by_cases same : current = texture
      · subst same
        obtain ⟨uses, has⟩ := keyed shared
        rw [uses, has, Bool.and_self, if_pos rfl]
        by_cases refused : answer.acquiresSync = false
        · rw [if_pos refused]
          exact ⟨kept, fun copied => absurd copied Bool.false_ne_true⟩
        · rw [if_neg refused]
          cases wrote : (desktop.shared current).write frame answer.releasesSync with
          | none => exact ⟨kept, fun copied => absurd copied Bool.false_ne_true⟩
          | some handOver =>
              obtain ⟨stored, encoded⟩ := kept.write wrote
              refine ⟨stored, fun _ => ⟨stored.inTurn, ?_⟩⟩
              dsimp only
              have sameShared : (desktop.store current handOver).shared current = handOver :=
                Function.update_self _ _ _
              rw [Function.update_self, sameShared]
              exact encoded
      · have elsewhere : ∀ handed : Desktop, handed.Kept texture →
            ({ handed with
                encoded := Function.update handed.encoded current
                  (handed.encoded current ++ [frame]) } : Desktop).Kept texture := by
          intro handed keptHanded
          refine ⟨keptHanded.inTurn, ?_⟩
          dsimp only
          rw [Function.update_of_ne (Ne.symm same)]
          exact keptHanded.encoded
        split
        · split
          · exact ⟨kept, fun _ => elsewhere _ kept⟩
          · split
            · exact ⟨kept, fun _ => elsewhere _ kept⟩
            · have stored := kept.store_other same
              exact ⟨stored _, fun _ => elsewhere _ (stored _)⟩
        · have stored := kept.store_other same
          exact ⟨stored _, fun _ => elsewhere _ (stored _)⟩

theorem handToEncoder_sameShared {desktop other : Desktop}
    {pipeline current : DxgiCapturePipeline} (same : SameShared desktop other)
    (sharedTexture : current.sharedTexture = pipeline.sharedTexture) (frame : Nat) :
    SameShared (pipeline.handToEncoder desktop frame) (current.handToEncoder other frame) := by
  unfold handToEncoder
  rw [sharedTexture]
  cases pipeline.sharedTexture with
  | none => exact same
  | some texture =>
      refine ⟨same.shared, ?_⟩
      dsimp only
      rw [same.encoded]

theorem deliver_kept {texture frame : Nat} {desktop after : Desktop}
    {pipeline next : DxgiCapturePipeline} {answer : CaptureAnswer} {returned : Option Nat}
    (kept : desktop.Kept texture) (keyed : pipeline.Keyed texture)
    (delivered : pipeline.deliver desktop frame answer = some (returned, after, next)) :
    after.Kept texture := by
  obtain ⟨keptShared, keptEncoded⟩ := share_kept kept keyed frame answer
  unfold deliver at delivered
  generalize pipeline.share desktop frame answer = outcome at keptShared keptEncoded delivered
  obtain ⟨copied, shared⟩ := outcome
  dsimp only at keptShared keptEncoded delivered
  obtain ⟨marked, markedEq, sameTexture⟩ : ∃ marked : DxgiCapturePipeline,
      marked = (if copied && pipeline.stagingTexture then
        { pipeline with previewStagingDirty := true } else pipeline) ∧
      marked.sharedTexture = pipeline.sharedTexture := by
    refine ⟨_, rfl, ?_⟩
    split
    · rfl
    · rfl
  rw [← markedEq] at delivered
  cases released : marked.session.releaseFrame shared with
  | none =>
      rw [released] at delivered
      cases delivered
  | some outcome =>
      obtain ⟨desktop, session⟩ := outcome
      rw [released] at delivered
      have same := DxgiCaptureSession.releaseFrame_sameShared released
      dsimp only at delivered
      split at delivered
      next both =>
        cases delivered
        obtain ⟨didCopy, -⟩ : copied = true ∧ answer.transfers = true := by simpa using both
        exact (keptEncoded didCopy).congr (handToEncoder_sameShared same sameTexture frame)
      next =>
        cases delivered
        exact keptShared.congr same

theorem takeFrame_kept {texture : Nat} {desktop after : Desktop}
    {pipeline next : DxgiCapturePipeline} {answer : CaptureAnswer} {returned : Option Nat}
    (kept : desktop.Kept texture) (keyed : pipeline.Keyed texture)
    (taken : pipeline.takeFrame desktop answer = some (returned, after, next)) :
    after.Kept texture := by
  unfold takeFrame at taken
  cases acquired : pipeline.session.acquire desktop answer.acquire with
  | none =>
      rw [acquired] at taken
      cases taken
  | some outcome =>
      obtain ⟨frame, entered, session⟩ := outcome
      have keptEntered := kept.congr (DxgiCaptureSession.acquire_sameShared acquired)
      rw [acquired] at taken
      cases frame with
      | none =>
          cases taken
          exact keptEntered
      | some frame =>
          exact @deliver_kept texture frame entered after { pipeline with session := session } next
            answer returned keptEntered keyed taken

theorem initPreviewStaging_sameShared (desktop : Desktop) (pipeline : DxgiCapturePipeline)
    (answer : StagingAnswer) :
    SameShared desktop (pipeline.initPreviewStaging desktop answer).2.1 := by
  unfold initPreviewStaging
  split
  · exact SameShared.refl _
  · split
    · exact SameShared.refl _
    · dsimp only
      split
      · exact ⟨rfl, rfl⟩
      · exact ⟨rfl, rfl⟩

theorem ensurePreviewStaging_sameShared (desktop : Desktop) (pipeline : DxgiCapturePipeline)
    (answer : StagingAnswer) :
    SameShared desktop (pipeline.ensurePreviewStaging desktop answer).1 := by
  unfold ensurePreviewStaging
  split
  · exact pipeline.initPreviewStaging_sameShared desktop answer
  · exact SameShared.refl _

theorem captureNext_kept {texture : Nat} {desktop after : Desktop}
    {pipeline next : DxgiCapturePipeline} {answer : CaptureAnswer} {returned : Option Nat}
    (kept : desktop.Kept texture)
    (keyed : (pipeline.ensurePreviewStaging desktop answer.staging).2.Keyed texture)
    (captured : pipeline.captureNext desktop answer = some (returned, after, next)) :
    after.Kept texture := by
  have keptEnsured :=
    kept.congr (pipeline.ensurePreviewStaging_sameShared desktop answer.staging)
  unfold captureNext at captured
  generalize pipeline.ensurePreviewStaging desktop answer.staging = ensured
    at keyed keptEnsured captured
  obtain ⟨staged, prepared⟩ := ensured
  dsimp only at keyed keptEnsured captured
  split at captured
  · have keptRenewed :=
      keptEnsured.congr (prepared.session.reinit_sameShared staged answer.duplication)
    generalize prepared.session.reinit staged answer.duplication = outcome
      at keptRenewed captured
    obtain ⟨ok, renewed, session⟩ := outcome
    cases ok with
    | false =>
        cases captured
        exact keptRenewed
    | true =>
        exact @takeFrame_kept texture renewed after { prepared with session := session } next
          answer returned keptRenewed keyed captured
  · exact takeFrame_kept keptEnsured keyed captured

end DxgiCapturePipeline

namespace DxgiScreenCapture

def KeyedAccess (texture : Nat) (capture : DxgiScreenCapture) : Call → Prop
  | .nextFrame answer => ∀ pipeline, capture.pipeline = some pipeline →
      (pipeline.ensurePreviewStaging capture.desktop answer.staging).2.Keyed texture
  | .vulkanCopy other keyed => other = texture → keyed = true
  | .init _ => True
  | .setPreviewRequested _ => True
  | .setUseKeyedMutex _ => True
  | .initPreviewStaging _ => True
  | .shutdown => True

instance decidableKeyed (texture : Nat) (pipeline : DxgiCapturePipeline) :
    Decidable (pipeline.Keyed texture) :=
  inferInstanceAs (Decidable (pipeline.sharedTexture = some texture →
    pipeline.useKeyedMutex = true ∧ pipeline.keyedMutexShared = true))

instance decidableKeyedAccess (texture : Nat) (capture : DxgiScreenCapture) :
    ∀ call, Decidable (capture.KeyedAccess texture call)
  | .nextFrame answer => inferInstanceAs (Decidable (∀ pipeline ∈ capture.pipeline,
      (pipeline.ensurePreviewStaging capture.desktop answer.staging).2.Keyed texture))
  | .vulkanCopy other keyed => inferInstanceAs (Decidable (other = texture → keyed = true))
  | .init _ => isTrue trivial
  | .setPreviewRequested _ => isTrue trivial
  | .setUseKeyedMutex _ => isTrue trivial
  | .initPreviewStaging _ => isTrue trivial
  | .shutdown => isTrue trivial

theorem shutdown_sameShared (capture : DxgiScreenCapture) :
    SameShared capture.desktop capture.shutdown.desktop := by
  obtain ⟨desktop, pipeline⟩ := capture
  cases pipeline with
  | none => exact SameShared.refl _
  | some pipeline => exact pipeline.session.shutdown_sameShared desktop

theorem init_sameShared (capture : DxgiScreenCapture) (answer : PipelineAnswer) :
    SameShared capture.desktop (capture.init answer).desktop := by
  apply (shutdown_sameShared capture).trans
  unfold init
  generalize capture.shutdown = before
  dsimp only
  split
  · exact SameShared.refl _
  · have same := DxgiCaptureSession.blank.init_sameShared before.desktop answer.duplication
    generalize DxgiCaptureSession.blank.init before.desktop answer.duplication = outcome
      at same ⊢
    obtain ⟨ok, desktop, session⟩ := outcome
    have down := same.trans (session.shutdown_sameShared desktop)
    cases ok with
    | false => exact down
    | true =>
        dsimp only
        split
        · exact down
        · exact same

theorem vulkanCopy_kept {texture : Nat} {capture : DxgiScreenCapture}
    (kept : capture.desktop.Kept texture) {other : Nat} {keyed : Bool}
    (inTurn : other = texture → keyed = true) :
    (capture.vulkanCopy other keyed).desktop.Kept texture := by
  unfold vulkanCopy
  dsimp only
  by_cases same : other = texture
  · rw [inTurn same, if_pos rfl, same]
    cases fetched : (capture.desktop.shared texture).fetch with
    | none =>
        have unchanged : SameShared capture.desktop
            (capture.desktop.store texture (capture.desktop.shared texture)) :=
          ⟨Function.update_eq_self _ _, rfl⟩
        exact kept.congr unchanged
    | some handOver =>
        have stored : (capture.desktop.store texture handOver).shared texture = handOver :=
          Function.update_self _ _ _
        have written : handOver.written = (capture.desktop.shared texture).written := by
          rw [HandOver.fetch, Option.ite_none_right_eq_some, Option.some.injEq] at fetched
          rw [← fetched.2]
          rfl
        change (capture.desktop.store texture handOver).Kept texture
        constructor
        · rw [stored]
          exact kept.inTurn.fetch fetched
        · rw [stored, written]
          exact kept.encoded
  · exact kept.store_other same _

theorem step_kept {texture : Nat} {capture next : DxgiScreenCapture} {call : Call}
    (kept : capture.desktop.Kept texture) (keyed : capture.KeyedAccess texture call)
    (stepped : step capture call = some next) : next.desktop.Kept texture := by
  cases call with
  | init answer =>
      cases stepped
      exact kept.congr (capture.init_sameShared answer)
  | nextFrame answer =>
      obtain ⟨⟨returned, after⟩, captured, rfl⟩ := Option.map_eq_some_iff.mp stepped
      obtain ⟨desktop, pipeline⟩ := capture
      cases pipeline with
      | none =>
          cases captured
          exact kept
      | some pipeline =>
          unfold nextFrame at captured
          dsimp only at captured
          cases result : pipeline.captureNext desktop answer with
          | none =>
              rw [result] at captured
              cases captured
          | some outcome =>
              obtain ⟨frame, final, last⟩ := outcome
              rw [result] at captured
              cases captured
              exact DxgiCapturePipeline.captureNext_kept kept (keyed pipeline rfl) result
  | setPreviewRequested enabled =>
      cases stepped
      exact kept
  | setUseKeyedMutex use =>
      cases stepped
      exact kept
  | initPreviewStaging answer =>
      cases stepped
      obtain ⟨desktop, pipeline⟩ := capture
      cases pipeline with
      | none => exact kept
      | some pipeline => exact kept.congr (pipeline.initPreviewStaging_sameShared desktop answer)
  | vulkanCopy other use =>
      cases stepped
      exact vulkanCopy_kept kept keyed
  | shutdown =>
      cases stepped
      exact kept.congr capture.shutdown_sameShared

/-- As long as both sides use the keys of a shared texture, Vulkan reads exactly the frames that
the capture wrote to it, in order and each once, apart from one that may be pending; and the
encoder gets only frames that were written, so it is at most one frame ahead of Vulkan. -/
theorem shared_frames_handed_over {texture : Nat} {calls : List Call}
    {finish : DxgiScreenCapture}
    (keyed : Machine.Along step (KeyedAccess texture) start calls)
    (executed : Machine.exec step start calls = some finish) :
    (finish.desktop.shared texture).written.map some =
        (finish.desktop.shared texture).read ++ (finish.desktop.shared texture).pending ∧
      List.Sublist (finish.desktop.encoded texture) (finish.desktop.shared texture).written ∧
      (finish.desktop.encoded texture).length ≤
        (finish.desktop.shared texture).read.length + 1 := by
  have kept : finish.desktop.Kept texture :=
    @Machine.exec_invariant_along _ _ _ _ (fun capture => capture.desktop.Kept texture)
      (fun _ _ _ kept keyed stepped => step_kept kept keyed stepped) _ _ _
      ⟨HandOver.inTurn_start, List.Sublist.refl _⟩ keyed executed
  refine ⟨kept.inTurn, kept.encoded, ?_⟩
  exact kept.encoded.length_le.trans kept.inTurn.length_written_le

/-- A capture with a preview that is a frame late: the second frame does not get the mutex. -/
def latePreview : List Call :=
  [.init ⟨true, ⟨true, 1920, 1080, true, [true], 87⟩, true⟩,
    .setUseKeyedMutex true,
    .setPreviewRequested true] ++
  [5, 6].map (fun frame => .nextFrame ⟨⟨true, true, true, true⟩,
    ⟨true, 1920, 1080, true, [true], 87⟩, .frame frame, true, true, true, true⟩) ++
  [.vulkanCopy 0 true]

theorem shared_frames_handed_over_latePreview :
    ∃ finish, Machine.exec step start latePreview = some finish ∧
      (finish.desktop.shared 0).read = [some 5] ∧ finish.desktop.encoded 0 = [5] ∧
      (finish.desktop.encoded 0).length ≤ (finish.desktop.shared 0).read.length + 1 := by
  have keyed : Machine.Along step (KeyedAccess 0) start latePreview := by decide +kernel
  refine ⟨_, rfl, by decide +kernel, by decide +kernel, ?_⟩
  exact (@shared_frames_handed_over 0 latePreview _ keyed rfl).2.2

end DxgiScreenCapture

end RejiStudio.Pipeline
