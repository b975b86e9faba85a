import RejiStudio.Pipeline.DxgiCapture

/-!
# The use of the duplications

The platform has one duplication of an output at a time, with one frame out at a time.  A
capture keeps to this, and it never calls a duplication that it has not got unless a frame is
asked for after a lost duplication could not be renewed.
-/

namespace RejiStudio.Pipeline

open RejiStudio.Lib

/-! ## The duplications of a run -/

structure Duplications where
  live : Option Nat
  outstanding : Bool
  deriving DecidableEq

/-- The rules of the platform: one duplication at a time and one frame of it at a time, and
whatever is out goes back to where it is from. -/
def Duplications.step : Machine Duplications DuplicationCall
  | state, .opened id => if state.live = none then some ⟨some id, false⟩ else none
  | state, .acquired id =>
      if state.live = some id ∧ state.outstanding = false then some ⟨some id, true⟩ else none
  | state, .released id =>
      if state.live = some id ∧ state.outstanding = true then some ⟨some id, false⟩ else none
  | state, .closed id =>
      if state.live = some id ∧ state.outstanding = false then some ⟨none, false⟩ else none

def Duplications.start : Duplications := ⟨none, false⟩

def Desktop.LeadsTo (desktop : Desktop) (state : Duplications) : Prop :=
  Machine.exec Duplications.step Duplications.start desktop.log = some state

theorem Desktop.LeadsTo.note {desktop : Desktop} {before after : Duplications}
    {calls : List DuplicationCall} (leads : desktop.LeadsTo before)
    (executed : Machine.exec Duplications.step before calls = some after) :
    (desktop.note calls).LeadsTo after := by
  unfold Desktop.LeadsTo Desktop.note
  rw [Machine.exec_append, leads]
  exact executed

theorem Desktop.LeadsTo.close {desktop : Desktop} {duplication : Option Nat}
    (leads : desktop.LeadsTo ⟨duplication, false⟩) :
    (desktop.close duplication).LeadsTo ⟨none, false⟩ := by
  apply leads.note
  cases duplication with
  | none => rfl
  | some id => simp [Duplications.step]

/-- The attempts of `DuplicateOutput` come to a duplication. -/
def DuplicationAnswer.Succeeds (answer : DuplicationAnswer) : Prop :=
  answer.output = true ∧ answer.output1 = true ∧ true ∈ answer.attempts.take 3

instance decidableSucceeds (answer : DuplicationAnswer) : Decidable answer.Succeeds :=
  inferInstanceAs (Decidable
    (answer.output = true ∧ answer.output1 = true ∧ true ∈ answer.attempts.take 3))

namespace DxgiCaptureSession

structure InStep (desktop : Desktop) (session : DxgiCaptureSession) : Prop where
  leads : desktop.LeadsTo ⟨session.duplication, session.frameHeld⟩
  held : session.frameHeld = true → session.duplication.isSome = true

theorem inStep_idle {desktop : Desktop} {session : DxgiCaptureSession}
    (leads : desktop.LeadsTo ⟨session.duplication, false⟩) (idle : session.frameHeld = false) :
    session.InStep desktop := by
  refine ⟨?_, fun held => absurd (held.symm.trans idle) (by decide)⟩
  rw [idle]
  exact leads

structure Renewed (desktop : Desktop) (session : DxgiCaptureSession) (ok : Bool) : Prop where
  leads : desktop.LeadsTo ⟨session.duplication, false⟩
  idle : session.frameHeld = false
  fresh : session.needsReinit = false
  there : session.duplication.isSome = ok

theorem createDuplication_renewed {desktop : Desktop} {session : DxgiCaptureSession}
    (leads : desktop.LeadsTo ⟨session.duplication, false⟩) (answer : DuplicationAnswer) :
    Renewed (createDuplication desktop session answer).2.1
        (createDuplication desktop session answer).2.2
        (createDuplication desktop session answer).1 ∧
      ((createDuplication desktop session answer).1 = true ↔ answer.Succeeds) := by
  have closed := leads.close
  unfold createDuplication DuplicationAnswer.Succeeds
  dsimp only
  by_cases output : answer.output = false
  · rw [if_pos output]
    exact ⟨⟨closed, rfl, rfl, rfl⟩, by simp [output]⟩
  · rw [if_neg output]
    by_cases output1 : answer.output1 = false
    · rw [if_pos output1]
      exact ⟨⟨closed, rfl, rfl, rfl⟩, by simp [output1]⟩
    · rw [if_neg output1]
      rw [Bool.not_eq_false] at output output1
      by_cases duplicated : true ∈ answer.attempts.take 3
      · rw [if_pos duplicated]
        refine ⟨⟨?_, rfl, rfl, rfl⟩, iff_of_true rfl ⟨output, output1, duplicated⟩⟩
        apply closed.note
        rfl
      · rw [if_neg duplicated]
        exact ⟨⟨closed, rfl, rfl, rfl⟩, iff_of_false Bool.false_ne_true fun all =>
          duplicated all.2.2⟩

theorem createDuplication_initialized (desktop : Desktop) (session : DxgiCaptureSession)
    (answer : DuplicationAnswer) :
    (createDuplication desktop session answer).2.2.initialized = session.initialized := by
  unfold createDuplication
  dsimp only
  split
  · rfl
  · split
    · rfl
    · split
      · rfl
      · rfl

theorem InStep.giveBack {desktop : Desktop} {session : DxgiCaptureSession}
    (inStep : session.InStep desktop) :
    (session.giveBack desktop).1.LeadsTo ⟨(session.giveBack desktop).2.duplication, false⟩ ∧
      (session.giveBack desktop).2.frameHeld = false ∧
      (session.giveBack desktop).2.initialized = session.initialized := by
  unfold DxgiCaptureSession.giveBack
  by_cases held : session.frameHeld = true
  · have there := inStep.held held
    rw [if_pos ⟨held, there⟩]
    refine ⟨?_, rfl, rfl⟩
    obtain ⟨id, duplication⟩ := Option.isSome_iff_exists.mp there
    have leads := inStep.leads
    rw [held, duplication] at leads
    dsimp only
    rw [duplication]
    apply leads.note
    simp [Duplications.step]
  · rw [if_neg fun both => held both.1]
    rw [Bool.not_eq_true] at held
    have leads := inStep.leads
    rw [held] at leads
    exact ⟨leads, held, rfl⟩

theorem InStep.reinit {desktop : Desktop} {session : DxgiCaptureSession}
    (inStep : session.InStep desktop) (answer : DuplicationAnswer) :
    Renewed (session.reinit desktop answer).2.1 (session.reinit desktop answer).2.2
        (session.reinit desktop answer).1 ∧
      ((session.reinit desktop answer).1 = true ↔ answer.Succeeds) ∧
      (session.reinit desktop answer).2.2.initialized = session.initialized := by
  obtain ⟨leads, -, same⟩ := inStep.giveBack
  unfold DxgiCaptureSession.reinit
  obtain ⟨renewed, ok⟩ := createDuplication_renewed leads answer
  exact ⟨renewed, ok, (createDuplication_initialized _ _ _).trans same⟩

theorem InStep.shutdown {desktop : Desktop} {session : DxgiCaptureSession}
    (inStep : session.InStep desktop) :
    (session.shutdown desktop).1.LeadsTo Duplications.start := by
  unfold DxgiCaptureSession.shutdown
  exact inStep.giveBack.1.close

structure Idle (session : DxgiCaptureSession) : Prop where
  initialized : session.initialized = true
  idle : session.frameHeld = false

theorem acquire_spec {desktop : Desktop} {session : DxgiCaptureSession} (idle : session.Idle)
    (leads : desktop.LeadsTo ⟨session.duplication, false⟩) (fresh : session.needsReinit = false)
    (answer : AcquireAnswer) :
    (session.duplication = none → session.acquire desktop answer = none) ∧
    (session.duplication.isSome = true → ∃ frame after next,
      session.acquire desktop answer = some (frame, after, next) ∧
        next.InStep after ∧ next.initialized = true ∧ next.duplication = session.duplication ∧
        next.frameHeld = frame.isSome ∧ (next.needsReinit = true ↔ answer = .lost) ∧
        (answer = .lost → frame = none)) := by
  obtain ⟨initialized, idle⟩ := idle
  have ready : ¬ (session.initialized = false ∨ session.needsReinit = true) := by
    rw [initialized, fresh]
    decide
  unfold acquire
  rw [if_neg ready]
  constructor
  · intro missing
    rw [missing]
  · intro there
    obtain ⟨id, duplication⟩ := Option.isSome_iff_exists.mp there
    rw [duplication] at leads ⊢
    simp only [idle, Bool.false_eq_true, if_false]
    cases answer with
    | timeout =>
        refine ⟨_, _, _, rfl, inStep_idle ?_ idle, initialized, duplication, idle, ?_, ?_⟩
        · rwa [duplication]
        · simp [fresh]
        · simp
    | lost =>
        refine ⟨_, _, _, rfl, inStep_idle ?_ rfl, initialized, duplication, rfl, ?_, ?_⟩
        · rwa [duplication]
        · simp
        · simp
    | failed =>
        refine ⟨_, _, _, rfl, inStep_idle ?_ idle, initialized, duplication, idle, ?_, ?_⟩
        · rwa [duplication]
        · simp [fresh]
        · simp
    | cursorOnly =>
        refine ⟨_, _, _, rfl, inStep_idle ?_ rfl, initialized, duplication, rfl, ?_, ?_⟩
        · dsimp only
          rw [duplication]
          apply leads.note
          simp [Duplications.step]
        · simp [fresh]
        · simp
    | noTexture =>
        refine ⟨_, _, _, rfl, inStep_idle ?_ rfl, initialized, duplication, rfl, ?_, ?_⟩
        · dsimp only
          rw [duplication]
          apply leads.note
          simp [Duplications.step]
        · simp [fresh]
        · simp
    | frame tex =>
        refine ⟨_, _, _, rfl, ⟨?_, fun _ => ?_⟩, initialized, duplication, rfl, ?_, ?_⟩
        · dsimp only
          rw [duplication]
          apply leads.note
          simp [Duplications.step]
        · dsimp only
          rw [duplication]
          rfl
        · simp [fresh]
        · simp

theorem releaseFrame_spec {desktop : Desktop} {session : DxgiCaptureSession}
    (inStep : session.InStep desktop) :
    ∃ after next, session.releaseFrame desktop = some (after, next) ∧
      after.LeadsTo ⟨next.duplication, false⟩ ∧ next.frameHeld = false ∧
      next.initialized = session.initialized ∧ next.duplication = session.duplication ∧
      next.needsReinit = session.needsReinit := by
  unfold releaseFrame
  have leads := inStep.leads
  cases held : session.frameHeld with
  | false =>
      rw [held] at leads
      exact ⟨_, _, if_pos rfl, leads, held, rfl, rfl, rfl⟩
  | true =>
      obtain ⟨id, duplication⟩ := Option.isSome_iff_exists.mp (inStep.held held)
      rw [held, duplication] at leads
      rw [if_neg (by decide), duplication]
      refine ⟨_, _, rfl, ?_, rfl, rfl, rfl, rfl⟩
      apply leads.note
      simp [Duplications.step]

end DxgiCaptureSession

namespace DxgiCapturePipeline

theorem initPreviewStaging_log (desktop : Desktop) (pipeline : DxgiCapturePipeline)
    (answer : StagingAnswer) :
    (pipeline.initPreviewStaging desktop answer).2.1.log = desktop.log ∧
      (pipeline.initPreviewStaging desktop answer).2.2.session = pipeline.session := by
  unfold initPreviewStaging
  split
  · exact ⟨rfl, rfl⟩
  · split
    · exact ⟨rfl, rfl⟩
    · dsimp only
      split
      · exact ⟨rfl, rfl⟩
      · exact ⟨rfl, rfl⟩

theorem ensurePreviewStaging_log (desktop : Desktop) (pipeline : DxgiCapturePipeline)
    (answer : StagingAnswer) :
    (pipeline.ensurePreviewStaging desktop answer).1.log = desktop.log ∧
      (pipeline.ensurePreviewStaging desktop answer).2.session = pipeline.session := by
  unfold ensurePreviewStaging
  split
  · exact pipeline.initPreviewStaging_log desktop answer
  · exact ⟨rfl, rfl⟩

theorem share_log (desktop : Desktop) (pipeline : DxgiCapturePipeline) (frame : Nat)
    (answer : CaptureAnswer) : (pipeline.share desktop frame answer).2.log = desktop.log := by
  unfold share
  split
  · rfl
  · split
    · split
      · rfl
      · split
        · rfl
        · rfl
    · rfl

theorem handToEncoder_log (desktop : Desktop) (pipeline : DxgiCapturePipeline) (frame : Nat) :
    (pipeline.handToEncoder desktop frame).log = desktop.log := by
  unfold handToEncoder
  split
  · rfl
  · rfl

/-- Between the calls of the capture no frame is out, and a lost duplication is still there. -/
structure Settled (desktop : Desktop) (pipeline : DxgiCapturePipeline) : Prop where
  leads : desktop.LeadsTo ⟨pipeline.session.duplication, false⟩
  idle : pipeline.session.Idle
  there : pipeline.session.needsReinit = true → pipeline.session.duplication.isSome = true

/-- A frame that was acquired is out of the duplication again when the call ends. -/
theorem deliver_settled {desktop : Desktop} {pipeline : DxgiCapturePipeline}
    (inStep : pipeline.session.InStep desktop) (initialized : pipeline.session.initialized = true)
    (fresh : pipeline.session.needsReinit = false) (frame : Nat) (answer : CaptureAnswer) :
    ∃ returned after next, pipeline.deliver desktop frame answer = some (returned, after, next) ∧
      Settled after next ∧ next.session.needsReinit = false ∧
      next.session.duplication = pipeline.session.duplication := by
  have sameLog := pipeline.share_log desktop frame answer
  unfold deliver
  generalize pipeline.share desktop frame answer = outcome at sameLog ⊢
  obtain ⟨copied, shared⟩ := outcome
  dsimp only at sameLog ⊢
  obtain ⟨marked, markedEq, sameSession⟩ : ∃ marked : DxgiCapturePipeline,
      marked = (if copied && pipeline.stagingTexture then
        { pipeline with previewStagingDirty := true } else pipeline) ∧
      marked.session = pipeline.session := by
    refine ⟨_, rfl, ?_⟩
    split
    · rfl
    · rfl
  rw [← markedEq, sameSession]
  have sharedStep : pipeline.session.InStep shared := by
    refine ⟨?_, inStep.held⟩
    unfold Desktop.LeadsTo
    rw [sameLog]
    exact inStep.leads
  obtain ⟨after, next, released, leads, idle, sameInit, sameDuplication, sameLoss⟩ :=
    DxgiCaptureSession.releaseFrame_spec sharedStep
  rw [released]
  dsimp only
  have lossless : next.needsReinit = false := sameLoss.trans fresh
  split
  · refine ⟨_, _, _, rfl, ⟨?_, ⟨sameInit.trans initialized, idle⟩, ?_⟩, lossless, sameDuplication⟩
    · unfold Desktop.LeadsTo
      rw [handToEncoder_log]
      exact leads
    · intro lost
      exact absurd (lost.symm.trans lossless) (by decide)
  · refine ⟨_, _, _, rfl, ⟨leads, ⟨sameInit.trans initialized, idle⟩, ?_⟩, lossless,
      sameDuplication⟩
    intro lost
    exact absurd (lost.symm.trans lossless) (by decide)

theorem takeFrame_spec {desktop : Desktop} {pipeline : DxgiCapturePipeline}
    (idle : pipeline.session.Idle)
    (leads : desktop.LeadsTo ⟨pipeline.session.duplication, false⟩)
    (fresh : pipeline.session.needsReinit = false) (answer : CaptureAnswer) :
    (pipeline.session.duplication = none → pipeline.takeFrame desktop answer = none) ∧
    (pipeline.session.duplication.isSome = true → ∃ returned after next,
      pipeline.takeFrame desktop answer = some (returned, after, next) ∧ Settled after next ∧
        next.session.duplication.isSome = true ∧
        (next.session.needsReinit = true ↔ answer.acquire = .lost)) := by
  obtain ⟨crashes, proceeds⟩ :=
    DxgiCaptureSession.acquire_spec idle leads fresh answer.acquire
  unfold takeFrame
  constructor
  · intro missing
    rw [crashes missing]
  · intro there
    obtain ⟨frame, after, next, acquired, inStep, initialized, same, held, loss, nothing⟩ :=
      proceeds there
    rw [acquired]
    cases frame with
    | none =>
        have leadsNext := inStep.leads
        rw [held] at leadsNext
        refine ⟨_, _, _, rfl, ⟨leadsNext, ⟨initialized, held⟩, ?_⟩, ?_, loss⟩
        · intro _
          dsimp only
          rw [same, there]
        · dsimp only
          rw [same, there]
    | some frame =>
        have lossless : next.needsReinit = false := by
          rw [← Bool.not_eq_true, loss]
          intro lost
          cases nothing lost
        obtain ⟨returned, final, last, delivered, settled, kept, sameLast⟩ :=
          @deliver_settled after { pipeline with session := next } inStep initialized lossless
            frame answer
        refine ⟨returned, final, last, delivered, settled, ?_, ?_⟩
        · rw [sameLast]
          dsimp only
          rw [same, there]
        · rw [← loss, kept, lossless]

end DxgiCapturePipeline

/-! ## The link to the desktop -/

/-- What a capture is like from outside: there is none, it runs, its duplication is lost, or the
duplication is gone for good. -/
inductive Link where
  | absent
  | up
  | lost
  | broken
  deriving DecidableEq

/-- An `init` that comes through. -/
def PipelineAnswer.Succeeds (answer : PipelineAnswer) : Prop :=
  answer.contexts = true ∧ answer.duplication.Succeeds ∧ answer.resources = true

instance decidablePipelineSucceeds (answer : PipelineAnswer) : Decidable answer.Succeeds :=
  inferInstanceAs (Decidable
    (answer.contexts = true ∧ answer.duplication.Succeeds ∧ answer.resources = true))

namespace Link

def behind (answer : CaptureAnswer) : Link := if answer.acquire = .lost then .lost else .up

/-- A lost duplication is renewed once; a capture without a duplication takes no frame. -/
def nextFrame (answer : CaptureAnswer) : Link → Option Link
  | .absent => some .absent
  | .up => some (behind answer)
  | .lost => some (if answer.duplication.Succeeds then behind answer else .broken)
  | .broken => none

def step : Machine Link DxgiScreenCapture.Call
  | _, .init answer => some (if answer.Succeeds then .up else .absent)
  | link, .nextFrame answer => link.nextFrame answer
  | link, .setPreviewRequested _ => some link
  | link, .setUseKeyedMutex _ => some link
  | link, .initPreviewStaging _ => some link
  | link, .vulkanCopy _ _ => some link
  | _, .shutdown => some .absent

end Link

namespace DxgiCapturePipeline

def link (pipeline : DxgiCapturePipeline) : Link :=
  if pipeline.session.duplication = none then .broken
  else if pipeline.session.needsReinit then .lost
  else .up

/-- A call of the capture fails together with the link, or leaves both in step. -/
def Follows (result : Option (Option Nat × Desktop × DxgiCapturePipeline)) :
    Option Link → Prop :=
  Option.Rel (fun outcome link => Settled outcome.2.1 outcome.2.2 ∧ outcome.2.2.link = link)
    result

theorem takeFrame_follows {desktop : Desktop} {pipeline : DxgiCapturePipeline}
    (idle : pipeline.session.Idle)
    (leads : desktop.LeadsTo ⟨pipeline.session.duplication, false⟩)
    (fresh : pipeline.session.needsReinit = false) (answer : CaptureAnswer) :
    Follows (pipeline.takeFrame desktop answer) (pipeline.link.nextFrame answer) := by
  obtain ⟨crashes, proceeds⟩ := takeFrame_spec idle leads fresh answer
  unfold link
  cases duplication : pipeline.session.duplication with
  | none =>
      rw [crashes duplication]
      exact .none
  | some id =>
      obtain ⟨returned, after, next, taken, settled, there, loss⟩ :=
        proceeds (by rw [duplication]; rfl)
      rw [taken, if_neg (by simp), fresh]
      refine .some ⟨settled, ?_⟩
      unfold link Link.behind
      rw [if_neg (Option.isSome_iff_ne_none.mp there)]
      simp only [loss]

theorem captureNext_follows {desktop : Desktop} {pipeline : DxgiCapturePipeline}
    (settled : Settled desktop pipeline) (answer : CaptureAnswer) :
    Follows (pipeline.captureNext desktop answer) (pipeline.link.nextFrame answer) := by
  obtain ⟨sameLog, sameSession⟩ := pipeline.ensurePreviewStaging_log desktop answer.staging
  have sameLink : (pipeline.ensurePreviewStaging desktop answer.staging).2.link =
      pipeline.link := by
    unfold link
    rw [sameSession]
  unfold captureNext
  generalize pipeline.ensurePreviewStaging desktop answer.staging = ensured
    at sameLog sameSession sameLink ⊢
  obtain ⟨staged, prepared⟩ := ensured
  dsimp only at sameLog sameSession sameLink ⊢
  obtain ⟨leads, idle, there⟩ := settled
  rw [← sameSession] at leads idle there
  have stagedLeads : staged.LeadsTo ⟨prepared.session.duplication, false⟩ := by
    unfold Desktop.LeadsTo
    rw [sameLog]
    exact leads
  rw [← sameLink]
  cases loss : prepared.session.needsReinit with
  | false =>
      rw [if_neg Bool.false_ne_true]
      exact takeFrame_follows idle stagedLeads loss answer
  | true =>
      rw [if_pos rfl]
      have inStep := DxgiCaptureSession.inStep_idle stagedLeads idle.idle
      obtain ⟨renewed, ok, sameInit⟩ := inStep.reinit answer.duplication
      have isLost : prepared.link = .lost := by
        unfold link
        rw [if_neg (Option.isSome_iff_ne_none.mp (there loss)), loss]
        rfl
      rw [isLost]
      generalize prepared.session.reinit staged answer.duplication = outcome
        at renewed ok sameInit ⊢
      obtain ⟨succeeded, after, session⟩ := outcome
      have ready : session.Idle := ⟨sameInit.trans idle.initialized, renewed.idle⟩
      cases succeeded with
      | false =>
          have failed : ¬ answer.duplication.Succeeds := fun all =>
            Bool.false_ne_true (ok.mpr all)
          have missing : session.duplication = none := Option.not_isSome_iff_eq_none.mp
            (Bool.not_eq_true _ ▸ renewed.there)
          rw [Link.nextFrame, if_neg failed]
          refine .some ⟨⟨renewed.leads, ready, ?_⟩, if_pos missing⟩
          intro lost
          exact absurd (lost.symm.trans renewed.fresh) (by decide)
      | true =>
          have isUp : ({ prepared with session := session } : DxgiCapturePipeline).link = .up := by
            unfold link
            rw [if_neg (Option.isSome_iff_ne_none.mp renewed.there), renewed.fresh]
            rfl
          have follows := @takeFrame_follows after { prepared with session := session } ready
            renewed.leads renewed.fresh answer
          rw [isUp] at follows
          rw [Link.nextFrame, if_pos (ok.mp rfl)]
          exact follows

end DxgiCapturePipeline

namespace DxgiScreenCapture

def link (capture : DxgiScreenCapture) : Link :=
  match capture.pipeline with
  | none => .absent
  | some pipeline => pipeline.link

def duplication (capture : DxgiScreenCapture) : Option Nat :=
  capture.pipeline.bind fun pipeline => pipeline.session.duplication

def Settled (capture : DxgiScreenCapture) : Prop :=
  match capture.pipeline with
  | none => capture.desktop.LeadsTo Duplications.start
  | some pipeline => DxgiCapturePipeline.Settled capture.desktop pipeline

theorem Settled.leads {capture : DxgiScreenCapture} (settled : capture.Settled) :
    capture.desktop.LeadsTo ⟨capture.duplication, false⟩ := by
  obtain ⟨desktop, pipeline⟩ := capture
  cases pipeline with
  | none => exact settled
  | some pipeline => exact @DxgiCapturePipeline.Settled.leads desktop pipeline settled

theorem settled_start : start.Settled := rfl

theorem Settled.shutdown {capture : DxgiScreenCapture} (settled : capture.Settled) :
    capture.shutdown.desktop.LeadsTo Duplications.start ∧ capture.shutdown.pipeline = none := by
  obtain ⟨desktop, pipeline⟩ := capture
  cases pipeline with
  | none => exact ⟨settled, rfl⟩
  | some pipeline =>
      have inStep := DxgiCaptureSession.inStep_idle settled.leads settled.idle.idle
      exact ⟨inStep.shutdown, rfl⟩

theorem init_follows {capture : DxgiScreenCapture} (settled : capture.Settled)
    (answer : PipelineAnswer) :
    (capture.init answer).Settled ∧
      (capture.init answer).link = if answer.Succeeds then .up else .absent := by
  obtain ⟨leads, down⟩ := settled.shutdown
  unfold init
  generalize capture.shutdown = before at leads down
  dsimp only
  by_cases contexts : answer.contexts = false
  · rw [if_pos contexts, if_neg (by simp [PipelineAnswer.Succeeds, contexts])]
    unfold Settled link
    rw [down]
    exact ⟨leads, rfl⟩
  · rw [if_neg contexts]
    rw [Bool.not_eq_false] at contexts
    obtain ⟨renewed, ok⟩ := @DxgiCaptureSession.createDuplication_renewed before.desktop
      DxgiCaptureSession.blank leads answer.duplication
    unfold DxgiCaptureSession.init
    generalize DxgiCaptureSession.blank.createDuplication before.desktop answer.duplication =
      outcome at renewed ok ⊢
    obtain ⟨succeeded, desktop, session⟩ := outcome
    cases succeeded with
    | false =>
        have failed : ¬ answer.Succeeds := fun all => Bool.false_ne_true (ok.mpr all.2.1)
        rw [if_neg failed]
        have inStep := DxgiCaptureSession.inStep_idle renewed.leads renewed.idle
        exact ⟨inStep.shutdown, rfl⟩
    | true =>
        dsimp only
        obtain ⟨ready, readyEq⟩ : ∃ ready : DxgiCaptureSession,
            ready = { session with initialized := true } := ⟨_, rfl⟩
        have readyLeads : desktop.LeadsTo ⟨ready.duplication, false⟩ := by
          rw [readyEq]
          exact renewed.leads
        have readyIdle : ready.Idle := by
          rw [readyEq]
          exact ⟨rfl, renewed.idle⟩
        rw [← readyEq]
        by_cases resources : answer.resources = false
        · rw [if_pos resources, if_neg (by simp [PipelineAnswer.Succeeds, resources])]
          have inStep := DxgiCaptureSession.inStep_idle readyLeads readyIdle.idle
          exact ⟨inStep.shutdown, rfl⟩
        · rw [if_neg resources]
          rw [Bool.not_eq_false] at resources
          have fresh : ready.needsReinit = false := by
            rw [readyEq]
            exact renewed.fresh
          have there : ready.duplication.isSome = true := by
            rw [readyEq]
            exact renewed.there
          rw [if_pos ⟨contexts, ok.mp rfl, resources⟩]
          refine ⟨⟨readyLeads, readyIdle, fun _ => there⟩, ?_⟩
          change (if ready.duplication = none then Link.broken
            else if ready.needsReinit then Link.lost else Link.up) = Link.up
          rw [if_neg (Option.isSome_iff_ne_none.mp there), fresh]
          rfl

theorem Settled.congr {capture other : DxgiScreenCapture} (settled : capture.Settled)
    (sameLog : other.desktop.log = capture.desktop.log)
    (sameSession : other.pipeline.map DxgiCapturePipeline.session =
      capture.pipeline.map DxgiCapturePipeline.session) :
    other.Settled ∧ other.link = capture.link := by
  obtain ⟨desktop, pipeline⟩ := capture
  obtain ⟨otherDesktop, otherPipeline⟩ := other
  have leadsIff : ∀ state, otherDesktop.LeadsTo state ↔ desktop.LeadsTo state := by
    intro state
    unfold Desktop.LeadsTo
    rw [sameLog]
  cases pipeline with
  | none =>
      cases otherPipeline with
      | none => exact ⟨(leadsIff _).mpr settled, rfl⟩
      | some otherPipeline => cases sameSession
  | some pipeline =>
      cases otherPipeline with
      | none => cases sameSession
      | some otherPipeline =>
          have same : otherPipeline.session = pipeline.session := Option.some.inj sameSession
          obtain ⟨leads, idle, there⟩ := settled
          constructor
          · refine ⟨(leadsIff _).mpr ?_, ?_, ?_⟩
            · rw [same]
              exact leads
            · rw [same]
              exact idle
            · rw [same]
              exact there
          · change otherPipeline.link = pipeline.link
            unfold DxgiCapturePipeline.link
            rw [same]

theorem step_follows (capture : DxgiScreenCapture) (link : Link) (call : Call)
    (related : capture.Settled ∧ capture.link = link) :
    Option.Rel (fun capture link => capture.Settled ∧ capture.link = link)
      (step capture call) (Link.step link call) := by
  obtain ⟨settled, rfl⟩ := related
  cases call with
  | init answer => exact .some (init_follows settled answer)
  | nextFrame answer =>
      obtain ⟨desktop, pipeline⟩ := capture
      cases pipeline with
      | none => exact .some ⟨settled, rfl⟩
      | some pipeline =>
          have follows := DxgiCapturePipeline.captureNext_follows settled answer
          change Option.Rel _
            (Option.map Prod.snd (nextFrame ⟨desktop, some pipeline⟩ answer))
            (pipeline.link.nextFrame answer)
          unfold nextFrame
          dsimp only
          unfold DxgiCapturePipeline.Follows at follows
          generalize pipeline.captureNext desktop answer = result at follows ⊢
          generalize pipeline.link.nextFrame answer = expected at follows ⊢
          cases follows with
          | none => exact .none
          | some both => exact .some both
  | setPreviewRequested enabled =>
      obtain ⟨desktop, pipeline⟩ := capture
      refine .some (settled.congr rfl ?_)
      cases pipeline with
      | none => rfl
      | some pipeline => rfl
  | setUseKeyedMutex use =>
      obtain ⟨desktop, pipeline⟩ := capture
      refine .some (settled.congr rfl ?_)
      cases pipeline with
      | none => rfl
      | some pipeline => rfl
  | initPreviewStaging answer =>
      obtain ⟨desktop, pipeline⟩ := capture
      cases pipeline with
      | none => exact .some ⟨settled, rfl⟩
      | some pipeline =>
          obtain ⟨sameLog, sameSession⟩ := pipeline.initPreviewStaging_log desktop answer
          exact .some (settled.congr sameLog (congrArg some sameSession))
  | vulkanCopy texture keyed => exact .some (settled.congr rfl rfl)
  | shutdown =>
      obtain ⟨leads, down⟩ := settled.shutdown
      refine .some ⟨?_, ?_⟩
      · unfold Settled
        rw [down]
        exact leads
      · unfold DxgiScreenCapture.link
        rw [down]

/-- A run of the capture calls through a null duplication exactly if the link breaks: a frame is
asked for after the one renewal of a lost duplication failed.  Until then there is one
duplication at a time, every frame goes back to the duplication it is from before the next one
is taken, and between the calls none is out. -/
theorem duplication_used_in_turn (calls : List Call) :
    (Machine.exec step start calls = none ↔ Machine.exec Link.step .absent calls = none) ∧
      ∀ finish, Machine.exec step start calls = some finish →
        Machine.exec Duplications.step Duplications.start finish.desktop.log =
          some ⟨finish.duplication, false⟩ := by
  have initially : start.Settled ∧ start.link = .absent := ⟨settled_start, rfl⟩
  have together := Machine.exec_lockstep _ step_follows calls initially
  generalize Machine.exec step start calls = result at together ⊢
  generalize Machine.exec Link.step .absent calls = expected at together ⊢
  cases together with
  | none => exact ⟨iff_of_true rfl rfl, fun finish run => by cases run⟩
  | some related =>
      refine ⟨iff_of_false (by simp) (by simp), ?_⟩
      intro finish run
      cases run
      exact related.1.leads

/-- A desktop whose duplication is lost behind a frame and is not there any more. -/
def lockedDesktop : List Call :=
  [.init ⟨true, ⟨true, 1920, 1080, true, [false, true], 87⟩, true⟩,
    .nextFrame ⟨⟨true, true, true, true⟩, ⟨true, 1920, 1080, true, [], 87⟩, .frame 5, true, true,
      true, true⟩,
    .nextFrame ⟨⟨true, true, true, true⟩, ⟨true, 1920, 1080, true, [], 87⟩, .lost, true, true,
      true, true⟩,
    .nextFrame ⟨⟨true, true, true, true⟩, ⟨true, 1920, 1080, true, [false, false, false, true], 87⟩,
      .timeout, true, true, true, true⟩]

theorem duplication_used_in_turn_lockedDesktop :
    (Machine.exec step start lockedDesktop).isSome = true ∧
      Machine.exec step start (lockedDesktop ++ lockedDesktop.tail) = none := by
  refine ⟨by decide +kernel, ?_⟩
  exact (duplication_used_in_turn (lockedDesktop ++ lockedDesktop.tail)).1.mpr
    (by decide +kernel)

end DxgiScreenCapture

end RejiStudio.Pipeline
