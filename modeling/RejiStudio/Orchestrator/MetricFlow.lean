import RejiStudio.Lib.Feed
import RejiStudio.Orchestrator.Threads

/-!
# From the metric samples to the rules

The pipeline, the audio capture and the SRT output push samples into one ring.  The
drainer turns each into events on two channels, and the monitor writes what it takes
up into the metrics of the rules.  In the manual mode it discards what it receives.
-/

namespace RejiStudio.Orchestrator

open RejiStudio.Lib

/-! ## The producers -/

inductive Producer where
  | pipeline
  | audio
  | srt
  deriving DecidableEq

structure CollectorMetrics where
  frameDropPct : UInt32
  memoryUsagePct : UInt32
  cpuLoadPct : UInt32
  gpuLoadPct : UInt32
  networkRttMs : UInt16
  networkLossPct : UInt8
  deriving DecidableEq

namespace MetricSample

/-- A sample initialised with zeros and its two canaries. -/
def zeroed : MetricSample := ⟨metricMagic, 0, 0, 0, 0, 0, 0, 0, 0, metricMagic⟩

def applyCollectorMetrics (m : MetricSample) (latest : CollectorMetrics) : MetricSample :=
  { m with
    frameDropPct := latest.frameDropPct
    memoryUsagePct := latest.memoryUsagePct
    cpuLoadPct := latest.cpuLoadPct
    gpuLoadPct := latest.gpuLoadPct
    networkRttMs := latest.networkRttMs
    networkLossPct := latest.networkLossPct }

/-- `MetricsSubsystem::build_sample`; there may be no collector. -/
def buildSample (frameDropsDelta : UInt32) (latest : Option CollectorMetrics) : MetricSample :=
  let m := { zeroed with frameDrops := frameDropsDelta }
  let m :=
    match latest with
    | some latest => m.applyCollectorMetrics latest
    | none => m
  { m with sourceId := 0 }

/-- The sample of `WasapiCapture::publish_metrics`. -/
def publishMetrics (frameDrops : UInt32) : MetricSample :=
  { zeroed with
    frameDrops := frameDrops
    sourceId := 1 }

def sendInternal : MetricSample := { zeroed with frameDrops := 0 }

end MetricSample

inductive MetricPush where
  | pipeline (frameDropsDelta : UInt32) (latest : Option CollectorMetrics)
  | audio (frameDrops : UInt32)
  | srt

def MetricPush.sample : MetricPush → Producer × MetricSample
  | .pipeline frameDropsDelta latest =>
      (.pipeline, MetricSample.buildSample frameDropsDelta latest)
  | .audio frameDrops => (.audio, MetricSample.publishMetrics frameDrops)
  | .srt => (.srt, MetricSample.sendInternal)

/-! ## The flow -/

/-- A sample that the drainer has popped.  Its number and its producer are history. -/
structure Drained where
  number : Nat
  producer : Producer
  sample : MetricSample
  deriving DecidableEq

structure MetricFlow where
  ring : BoundedQueue (Producer × MetricSample) 256
  drained : Nat
  system : Feed (SystemEvent × Drained) 256
  media : Feed (MediaEvent × Option Drained) 256
  threads : Threads

/-- One step of a producer, the drainer or the threads of the orchestrator. -/
inductive FlowAction where
  | push (sample : MetricPush)
  | drain
  | sendSystem
  | sendMedia
  /-- An output reports that its connection is lost. -/
  | connectionLost
  | receiveSystem
  | receiveMedia
  | thread (action : ThreadAction)

namespace MetricFlow

def start (mode : UInt32) (rules : Option ParsedRules) (clock : Nat) : MetricFlow where
  ring := .empty
  drained := 0
  system := .empty
  media := .empty
  threads := .start mode rules clock

def rjMetricsPush (flow : MetricFlow) (pushed : Producer × MetricSample) : MetricFlow :=
  if pushed.2.isValid then { flow with ring := (flow.ring.push pushed).getD flow.ring }
  else flow

/-- The drainer pops one sample, once it has sent the events of the one before. -/
def drain (flow : MetricFlow) : Option MetricFlow :=
  if flow.system.pending = [] ∧ flow.media.pending = [] then
    flow.ring.pop.map fun ((producer, sample), ring) =>
      if sample.isValid then
        let record : Drained := ⟨flow.drained, producer, sample⟩
        { flow with
          ring := ring
          drained := flow.drained + 1
          system := flow.system.load ((systemEventsForSample sample).map (·, record))
          media := flow.media.load ((mediaEventsForSample sample).map (·, some record)) }
      else
        { flow with ring := ring }
  else none

/-- The monitor task takes up an event unless the mode is manual. -/
def takes (flow : MetricFlow) : Bool := flow.threads.currentMode ≠ .manual

def receiveSystem (flow : MetricFlow) : Option MetricFlow :=
  if flow.threads.phase = .selecting then
    (flow.system.receive flow.takes).bind fun
      | (system, none) => some { flow with system := system }
      | (system, some (event, _)) =>
          (flow.threads.step (.receiveSystem event)).map fun threads =>
            { flow with
              system := system
              threads := threads }
  else none

def receiveMedia (flow : MetricFlow) : Option MetricFlow :=
  if flow.threads.phase = .selecting then
    (flow.media.receive flow.takes).bind fun
      | (media, none) => some { flow with media := media }
      | (media, some (event, _)) =>
          (flow.threads.step (.receiveMedia event)).map fun threads =>
            { flow with
              media := media
              threads := threads }
  else none

def step : Machine MetricFlow FlowAction
  | flow, .push pushed => some (flow.rjMetricsPush pushed.sample)
  | flow, .drain => flow.drain
  | flow, .sendSystem => flow.system.send.map fun system => { flow with system := system }
  | flow, .sendMedia =>
      if flow.system.pending = [] then
        flow.media.send.map fun media => { flow with media := media }
      else none
  | flow, .connectionLost =>
      some { flow with media := flow.media.post (.sourceDisconnected 0, none) }
  | flow, .receiveSystem => flow.receiveSystem
  | flow, .receiveMedia => flow.receiveMedia
  | flow, .thread action =>
      match action with
      | .receiveSystem _ | .receiveMedia _ => none
      | action => (flow.threads.step action).map fun threads => { flow with threads := threads }

/-! ## The sample behind a value -/

def cpuRecord : SystemEvent × Drained → Option Drained
  | (.cpuUsage _, record) => if record.producer = .pipeline then some record else none
  | _ => none

/-- The pipeline sample whose percentage of dropped frames an event carries. -/
def dropRecord : MediaEvent × Option Drained → Option Drained
  | (.frameDropPct _, some record) => if record.producer = .pipeline then some record else none
  | _ => none

/-- The most recently drained pipeline sample whose CPU event the monitor took up. -/
def cpuSample (flow : MetricFlow) : Option Drained := flow.system.latest cpuRecord Drained.number

def dropSample (flow : MetricFlow) : Option Drained := flow.media.latest dropRecord Drained.number

/-- The next sample comes from the pipeline or the audio capture; from the pipeline it
holds percentages, and its CPU load is none of the two that a ratio cannot carry. -/
def FaithfulDrain (flow : MetricFlow) : FlowAction → Prop
  | .drain =>
      match flow.ring.items with
      | (.pipeline, sample) :: _ =>
          sample.frameDropPct ≤ 100 ∧ sample.cpuLoadPct ≤ 100 ∧
            sample.cpuLoadPct ≠ 53 ∧ sample.cpuLoadPct ≠ 59
      | (.srt, _) :: _ => False
      | _ => True
  | _ => True

instance (flow : MetricFlow) (action : FlowAction) : Decidable (flow.FaithfulDrain action) := by
  unfold FaithfulDrain
  split
  · split <;> infer_instance
  · exact isTrue trivial

end MetricFlow

namespace Threads

/-! ## The metrics of the monitor -/

def settled (state : Threads) : RuleMetrics :=
  match state.phase with
  | .handlingSystem event => state.monitor.currentMetrics.applySystem event
  | .handlingMedia event => state.monitor.currentMetrics.applyMedia event
  | _ => state.monitor.currentMetrics

theorem settled_advance {state next : Threads} (advanced : state.advance = some next) :
    next.settled = state.settled := by
  cases advance_cases advanced with
  | handledSystem event phase =>
      simp only [settled, emit, phase]
      exact (state.monitor.handleSystem_fields event _).1
  | handledMedia event phase =>
      simp only [settled, emit, phase]
      exact (state.monitor.handleMedia_fields event _).1
  | calibrated mode phase =>
      simp only [settled, phase]
      exact (state.monitor.calibrationTick_fields _).1
  | predicted mode phase =>
      simp only [settled, emit, phase]
      exact (state.monitor.evaluatePredictive_fields _).1
  | adapted mode phase =>
      simp only [settled, emit, phase]
      exact (state.monitor.evaluateAdaptive_fields mode _).1
  | evaluated mode phase =>
      simp only [settled, phase]
      exact congrArg HealingMonitor.currentMetrics (state.collectRuleActions_monitor mode)
  | routed mode routed rest phase =>
      simp only [settled, phase, route]
      split <;> rfl
  | swept now phase | notified notice rest phase | stopped phase | began phase
  | finished mode phase => simp only [settled, phase]

/-- Only an event that the monitor takes up changes what the metrics settle to. -/
theorem settled_step {state next : Threads} {action : ThreadAction}
    (stepped : state.step action = some next)
    (noSystem : ∀ event, action ≠ .receiveSystem event)
    (noMedia : ∀ event, action ≠ .receiveMedia event) : next.settled = state.settled := by
  rcases step_cases stepped with ⟨_, advanced⟩ | ⟨index, _, resumed⟩ | ⟨parsed, _, rfl⟩ |
    ⟨_, _, _, outside⟩
  · exact settled_advance advanced
  · obtain ⟨⟨ffi, entries⟩, _, rfl⟩ := Option.map_eq_some_iff.mp resumed
    rfl
  · rfl
  · rcases outside.phase with same | ⟨selecting, begins⟩
    · simp only [settled, same, outside.monitor]
    · simp only [settled, selecting, outside.monitor]
      generalize next.phase = phase at begins ⊢
      cases begins with
      | system event _ => exact absurd rfl (noSystem event)
      | media event _ => exact absurd rfl (noMedia event)
      | sweep => rfl

theorem settled_receiveSystem {state next : Threads} {event : SystemEvent}
    (stepped : state.step (.receiveSystem event) = some next) :
    next.settled =
      if state.currentMode = .manual then state.settled else state.settled.applySystem event := by
  obtain ⟨selecting, received⟩ := Option.ite_none_right_eq_some.mp stepped
  split at received
  next manual =>
    cases received
    simp [manual]
  next handles =>
    cases received
    simp [handles, settled, selecting]

theorem settled_receiveMedia {state next : Threads} {event : MediaEvent}
    (stepped : state.step (.receiveMedia event) = some next) :
    next.settled =
      if state.currentMode = .manual then state.settled else state.settled.applyMedia event := by
  obtain ⟨selecting, received⟩ := Option.ite_none_right_eq_some.mp stepped
  split at received
  next manual =>
    cases received
    simp [manual]
  next handles =>
    cases received
    simp [handles, settled, selecting]

end Threads

namespace MetricFlow

/-! ## The invariant -/

def valueOf (record : Option Drained) (field : MetricSample → UInt32) : UInt32 :=
  match record with
  | some record => field record.sample
  | none => 0

/-- The events are in the order of their samples and carry the values of pipeline
samples, and the metrics settle to the values of the last sample taken up. -/
structure Invariant (flow : MetricFlow) : Prop where
  ring : ∀ pushed ∈ flow.ring.items, pushed.1 = .audio → pushed.2.sourceId ≠ 0
  system : flow.system.Rising cpuRecord Drained.number flow.drained
  media : flow.media.Rising dropRecord Drained.number flow.drained
  loads : ∀ ratio record, (SystemEvent.cpuUsage ratio, record) ∈ flow.system.trace →
    record.producer = .pipeline ∧ percentOfRatio ratio = record.sample.cpuLoadPct
  drops : ∀ pct record, (MediaEvent.frameDropPct pct, record) ∈ flow.media.trace →
    ∃ drained, record = some drained ∧ drained.producer = .pipeline ∧
      pct = drained.sample.frameDropPct ∧ pct ≤ 100
  cpuLoadPct : flow.threads.settled.cpuLoadPct =
    valueOf (flow.system.taken.filterMap cpuRecord).getLast? MetricSample.cpuLoadPct
  frameDropPct : flow.threads.settled.frameDropPct =
    valueOf (flow.media.taken.filterMap dropRecord).getLast? MetricSample.frameDropPct

theorem invariant_start (mode : UInt32) (rules : Option ParsedRules) (clock : Nat) :
    (start mode rules clock).Invariant where
  ring := List.forall_mem_nil _
  system := ⟨List.Pairwise.nil, List.forall_mem_nil _⟩
  media := ⟨List.Pairwise.nil, List.forall_mem_nil _⟩
  loads := by
    intro ratio record present
    cases present
  drops := by
    intro pct record present
    cases present
  cpuLoadPct := rfl
  frameDropPct := rfl

theorem applySystem_of_cpuRecord (metrics : RuleMetrics) (record : Drained)
    {event : SystemEvent} (other : ∀ ratio, event ≠ .cpuUsage ratio) :
    (metrics.applySystem event).cpuLoadPct = metrics.cpuLoadPct ∧
      cpuRecord (event, record) = none := by
  cases event with
  | cpuUsage ratio => exact absurd rfl (other ratio)
  | gpuUsage | memUsage | diskWarning | networkStats => exact ⟨rfl, rfl⟩

theorem applySystem_frameDropPct (metrics : RuleMetrics) (event : SystemEvent) :
    (metrics.applySystem event).frameDropPct = metrics.frameDropPct := by
  cases event <;> rfl

theorem applyMedia_of_dropRecord (metrics : RuleMetrics) (record : Option Drained)
    {event : MediaEvent} (other : ∀ pct, event ≠ .frameDropPct pct) :
    (metrics.applyMedia event).frameDropPct = metrics.frameDropPct ∧
      dropRecord (event, record) = none := by
  cases event with
  | frameDropPct pct => exact absurd rfl (other pct)
  | sourceDisconnected | sourceReconnected | frameDropped | encodeError => exact ⟨rfl, rfl⟩

theorem applyMedia_cpuLoadPct (metrics : RuleMetrics) (event : MediaEvent) :
    (metrics.applyMedia event).cpuLoadPct = metrics.cpuLoadPct := by
  cases event <;> rfl

theorem applySystem_settles {metrics : RuleMetrics} {taken : List (SystemEvent × Drained)}
    {event : SystemEvent} {record : Drained}
    (before : metrics.cpuLoadPct =
      valueOf (taken.filterMap cpuRecord).getLast? MetricSample.cpuLoadPct)
    (load : ∀ ratio, event = .cpuUsage ratio →
      record.producer = .pipeline ∧ percentOfRatio ratio = record.sample.cpuLoadPct) :
    (metrics.applySystem event).cpuLoadPct =
      valueOf ((taken ++ [(event, record)]).filterMap cpuRecord).getLast?
        MetricSample.cpuLoadPct := by
  rw [List.filterMap_append]
  by_cases isLoad : ∃ ratio, event = .cpuUsage ratio
  · obtain ⟨ratio, rfl⟩ := isLoad
    obtain ⟨pipeline, survives⟩ := load ratio rfl
    simpa [cpuRecord, pipeline, valueOf, RuleMetrics.applySystem] using survives
  · obtain ⟨same, none⟩ := applySystem_of_cpuRecord metrics record
      fun ratio other => isLoad ⟨ratio, other⟩
    rw [same, List.filterMap_cons, none]
    simpa using before

theorem applyMedia_settles {metrics : RuleMetrics}
    {taken : List (MediaEvent × Option Drained)} {event : MediaEvent} {record : Option Drained}
    (before : metrics.frameDropPct =
      valueOf (taken.filterMap dropRecord).getLast? MetricSample.frameDropPct)
    (drop : ∀ pct, event = .frameDropPct pct →
      ∃ drained, record = some drained ∧ drained.producer = .pipeline ∧
        pct = drained.sample.frameDropPct ∧ pct ≤ 100) :
    (metrics.applyMedia event).frameDropPct =
      valueOf ((taken ++ [(event, record)]).filterMap dropRecord).getLast?
        MetricSample.frameDropPct := by
  rw [List.filterMap_append]
  by_cases isDrop : ∃ pct, event = .frameDropPct pct
  · obtain ⟨pct, rfl⟩ := isDrop
    obtain ⟨drained, rfl, pipeline, rfl, percentage⟩ := drop pct rfl
    simp [dropRecord, pipeline, valueOf, RuleMetrics.applyMedia, percentage]
  · obtain ⟨same, none⟩ := applyMedia_of_dropRecord metrics record
      fun pct other => isDrop ⟨pct, other⟩
    rw [same, List.filterMap_cons, none]
    simpa using before

theorem filterMap_systemEvents (sample : MetricSample) (record : Drained) :
    ((systemEventsForSample sample).map (·, record)).filterMap cpuRecord = [] ∨
      ((systemEventsForSample sample).map (·, record)).filterMap cpuRecord = [record] := by
  unfold systemEventsForSample
  split
  · exact .inl rfl
  · by_cases pipeline : record.producer = .pipeline
    · right
      repeat' split
      all_goals simp [cpuRecord, pipeline]
    · left
      repeat' split
      all_goals simp [cpuRecord, pipeline]

theorem filterMap_mediaEvents (sample : MetricSample) (record : Drained) :
    ((mediaEventsForSample sample).map (·, some record)).filterMap dropRecord = [] ∨
      ((mediaEventsForSample sample).map (·, some record)).filterMap dropRecord = [record] := by
  unfold mediaEventsForSample
  split
  · exact .inl rfl
  · by_cases pipeline : record.producer = .pipeline
    · right
      split <;> simp [dropRecord, pipeline]
    · left
      split <;> simp [dropRecord, pipeline]

/-- A CPU load comes from a video sample as the ratio of its percentage. -/
theorem cpuUsage_of_mem {sample : MetricSample} {ratio : Rat}
    (member : SystemEvent.cpuUsage ratio ∈ systemEventsForSample sample) :
    sample.sourceId = 0 ∧ ratio = ratioOfPercent sample.cpuLoadPct := by
  unfold systemEventsForSample at member
  split at member
  next => cases member
  next video =>
    refine ⟨not_not.mp video, ?_⟩
    simp only [List.mem_append, List.mem_singleton, SystemEvent.cpuUsage.injEq] at member
    rcases member with ((load | gpu) | memory) | network
    · exact load
    · split at gpu <;> simp at gpu
    · split at memory <;> simp at memory
    · split at network <;> simp at network

theorem frameDropPct_of_mem {sample : MetricSample} {pct : UInt32}
    (member : MediaEvent.frameDropPct pct ∈ mediaEventsForSample sample) :
    sample.sourceId = 0 ∧ pct = sample.frameDropPct := by
  unfold mediaEventsForSample at member
  split at member
  next => cases member
  next video =>
    refine ⟨not_not.mp video, ?_⟩
    simp only [List.mem_append, List.mem_singleton, MediaEvent.frameDropPct.injEq] at member
    rcases member with dropped | count
    · exact dropped
    · split at count <;> simp at count

/-! ## What a step does to it -/

theorem Invariant.push {flow : MetricFlow} (invariant : flow.Invariant) (pushed : MetricPush) :
    (flow.rjMetricsPush pushed.sample).Invariant := by
  unfold rjMetricsPush
  split
  · refine { invariant with ring := ?_ }
    intro member membership
    rcases BoundedQueue.mem_push_getD membership with old | rfl
    · exact invariant.ring member old
    · cases pushed with
      | pipeline frameDropsDelta latest =>
          intro audio
          cases audio
      | audio frameDrops =>
          intro _ video
          cases video
      | srt =>
          intro audio
          cases audio
  · exact invariant

/-- The next sample with events comes from the pipeline and holds percentages that
survive the ratio. -/
theorem faithful_of_head {flow : MetricFlow} (invariant : flow.Invariant)
    (faithful : flow.FaithfulDrain .drain) {producer : Producer} {sample : MetricSample}
    {rest : List (Producer × MetricSample)} (head : flow.ring.items = (producer, sample) :: rest)
    (video : sample.sourceId = 0) :
    producer = .pipeline ∧ SurvivesRatio sample.cpuLoadPct ∧ sample.frameDropPct ≤ 100 := by
  have first : (producer, sample) ∈ flow.ring.items := by
    rw [head]
    exact List.mem_cons_self
  simp only [FaithfulDrain, head] at faithful
  cases producer with
  | pipeline =>
      obtain ⟨drops, load, below, above⟩ := faithful
      exact ⟨rfl, (survivesRatio_iff load).mpr ⟨below, above⟩, drops⟩
  | audio => exact absurd video (invariant.ring _ first rfl)
  | srt => exact absurd faithful id

theorem Invariant.drain {flow next : MetricFlow} (invariant : flow.Invariant)
    (faithful : flow.FaithfulDrain .drain) (drained : flow.drain = some next) :
    next.Invariant := by
  obtain ⟨_, popped⟩ := Option.ite_none_right_eq_some.mp drained
  obtain ⟨⟨⟨producer, sample⟩, ring⟩, taken, reached⟩ := Option.map_eq_some_iff.mp popped
  have head := BoundedQueue.pop_eq_some_iff.mp taken
  have kept : ∀ pushed ∈ ring.items, pushed.1 = .audio → pushed.2.sourceId ≠ 0 := by
    intro pushed member
    apply invariant.ring pushed
    rw [head]
    exact List.mem_cons_of_mem _ member
  dsimp only at reached
  split at reached
  next =>
    subst reached
    refine ⟨kept, ?_, ?_, ?_, ?_, invariant.cpuLoadPct, invariant.frameDropPct⟩
    · apply invariant.system.load
      exact (filterMap_systemEvents sample _).imp_right fun one => ⟨_, one, rfl⟩
    · apply invariant.media.load
      exact (filterMap_mediaEvents sample _).imp_right fun one => ⟨_, one, rfl⟩
    · intro ratio record member
      rw [Feed.trace_load] at member
      rcases List.mem_append.mp member with old | new
      · exact invariant.loads ratio record old
      · obtain ⟨event, sent, same⟩ := List.mem_map.mp new
        obtain ⟨rfl, rfl⟩ := Prod.mk.inj same
        obtain ⟨video, rfl⟩ := cpuUsage_of_mem sent
        obtain ⟨pipeline, survives, _⟩ := faithful_of_head invariant faithful head video
        exact ⟨pipeline, survives⟩
    · intro pct record member
      rw [Feed.trace_load] at member
      rcases List.mem_append.mp member with old | new
      · exact invariant.drops pct record old
      · obtain ⟨event, sent, same⟩ := List.mem_map.mp new
        obtain ⟨rfl, rfl⟩ := Prod.mk.inj same
        obtain ⟨video, rfl⟩ := frameDropPct_of_mem sent
        obtain ⟨pipeline, _, percentage⟩ := faithful_of_head invariant faithful head video
        exact ⟨_, rfl, pipeline, rfl, percentage⟩
  next =>
    subst reached
    exact { invariant with ring := kept }

theorem Invariant.receiveSystem {flow next : MetricFlow} (invariant : flow.Invariant)
    (received : flow.receiveSystem = some next) : next.Invariant := by
  obtain ⟨_, received⟩ := Option.ite_none_right_eq_some.mp received
  obtain ⟨⟨system, message⟩, receives, handled⟩ := Option.bind_eq_some_iff.mp received
  have kept := Feed.trace_receive receives
  have loads : ∀ ratio record, (SystemEvent.cpuUsage ratio, record) ∈ system.trace →
      record.producer = .pipeline ∧ percentOfRatio ratio = record.sample.cpuLoadPct :=
    fun ratio record member => invariant.loads ratio record (kept.subset member)
  cases message with
  | none =>
      cases handled
      refine { invariant with
        system := invariant.system.sublist (kept.filterMap _)
        loads := loads
        cpuLoadPct := ?_ }
      rw [Feed.receive_none receives]
      exact invariant.cpuLoadPct
  | some message =>
      obtain ⟨event, record⟩ := message
      obtain ⟨threads, moved, rfl⟩ := Option.map_eq_some_iff.mp handled
      obtain ⟨onItsWay, taken⟩ := Feed.receive_some receives
      have settled := Threads.settled_receiveSystem moved
      refine ⟨invariant.ring, invariant.system.sublist (kept.filterMap _), invariant.media, loads,
        invariant.drops, ?_, ?_⟩
      · dsimp only
        rw [settled, taken]
        by_cases manual : flow.threads.currentMode = .manual
        · simp only [takes, manual, ne_eq, not_true_eq_false, decide_false, if_true]
          exact invariant.cpuLoadPct
        · simp only [takes, manual, ne_eq, not_false_eq_true, decide_true, if_true, if_false]
          apply applySystem_settles invariant.cpuLoadPct
          rintro ratio rfl
          exact invariant.loads ratio record onItsWay
      · dsimp only
        rw [settled]
        split
        · exact invariant.frameDropPct
        · rw [applySystem_frameDropPct]
          exact invariant.frameDropPct

theorem Invariant.receiveMedia {flow next : MetricFlow} (invariant : flow.Invariant)
    (received : flow.receiveMedia = some next) : next.Invariant := by
  obtain ⟨_, received⟩ := Option.ite_none_right_eq_some.mp received
  obtain ⟨⟨media, message⟩, receives, handled⟩ := Option.bind_eq_some_iff.mp received
  have kept := Feed.trace_receive receives
  have drops : ∀ pct record, (MediaEvent.frameDropPct pct, record) ∈ media.trace →
      ∃ drained, record = some drained ∧ drained.producer = .pipeline ∧
        pct = drained.sample.frameDropPct ∧ pct ≤ 100 :=
    fun pct record member => invariant.drops pct record (kept.subset member)
  cases message with
  | none =>
      cases handled
      refine { invariant with
        media := invariant.media.sublist (kept.filterMap _)
        drops := drops
        frameDropPct := ?_ }
      rw [Feed.receive_none receives]
      exact invariant.frameDropPct
  | some message =>
      obtain ⟨event, record⟩ := message
      obtain ⟨threads, moved, rfl⟩ := Option.map_eq_some_iff.mp handled
      obtain ⟨onItsWay, taken⟩ := Feed.receive_some receives
      have settled := Threads.settled_receiveMedia moved
      refine ⟨invariant.ring, invariant.system, invariant.media.sublist (kept.filterMap _),
        invariant.loads, drops, ?_, ?_⟩
      · dsimp only
        rw [settled]
        split
        · exact invariant.cpuLoadPct
        · rw [applyMedia_cpuLoadPct]
          exact invariant.cpuLoadPct
      · dsimp only
        rw [settled, taken]
        by_cases manual : flow.threads.currentMode = .manual
        · simp only [takes, manual, ne_eq, not_true_eq_false, decide_false, if_true]
          exact invariant.frameDropPct
        · simp only [takes, manual, ne_eq, not_false_eq_true, decide_true, if_true, if_false]
          apply applyMedia_settles invariant.frameDropPct
          rintro pct rfl
          exact invariant.drops pct record onItsWay

theorem Invariant.step {flow next : MetricFlow} {action : FlowAction}
    (invariant : flow.Invariant) (faithful : flow.FaithfulDrain action)
    (stepped : flow.step action = some next) : next.Invariant := by
  cases action with
  | push pushed =>
      cases stepped
      exact invariant.push pushed
  | drain => exact invariant.drain faithful stepped
  | sendSystem =>
      obtain ⟨system, sent, rfl⟩ := Option.map_eq_some_iff.mp stepped
      have kept := Feed.trace_send sent
      refine { invariant with
        system := invariant.system.sublist (kept.filterMap _)
        loads := fun ratio record member => invariant.loads ratio record (kept.subset member)
        cpuLoadPct := ?_ }
      rw [Feed.taken_send sent]
      exact invariant.cpuLoadPct
  | sendMedia =>
      obtain ⟨_, stepped⟩ := Option.ite_none_right_eq_some.mp stepped
      obtain ⟨media, sent, rfl⟩ := Option.map_eq_some_iff.mp stepped
      have kept := Feed.trace_send sent
      refine { invariant with
        media := invariant.media.sublist (kept.filterMap _)
        drops := fun pct record member => invariant.drops pct record (kept.subset member)
        frameDropPct := ?_ }
      rw [Feed.taken_send sent]
      exact invariant.frameDropPct
  | connectionLost =>
      cases stepped
      refine { invariant with
        media := invariant.media.post rfl
        drops := ?_ }
      intro pct record member
      rcases Feed.mem_trace_post member with old | new
      · exact invariant.drops pct record old
      · cases new
  | receiveSystem => exact invariant.receiveSystem stepped
  | receiveMedia => exact invariant.receiveMedia stepped
  | thread action =>
      simp only [MetricFlow.step] at stepped
      split at stepped
      next => cases stepped
      next => cases stepped
      next noSystem noMedia =>
        obtain ⟨threads, moved, rfl⟩ := Option.map_eq_some_iff.mp stepped
        have settled := Threads.settled_step moved noSystem noMedia
        refine { invariant with
          cpuLoadPct := ?_
          frameDropPct := ?_ }
        · rw [settled]
          exact invariant.cpuLoadPct
        · rw [settled]
          exact invariant.frameDropPct

/-- Every evaluation of the rules works with the percentage of dropped frames and the
CPU load of the most recently drained pipeline sample whose event the monitor took up,
and with zero before the first. -/
theorem evaluation_uses_pipeline_sample (mode : UInt32) (rules : Option ParsedRules)
    (clock : Nat) (actions : List FlowAction) (flow : MetricFlow)
    (faithful : Machine.Along step FaithfulDrain (start mode rules clock) actions)
    (executed : Machine.exec step (start mode rules clock) actions = some flow)
    (evaluated : HealingMode) (evaluating : flow.threads.phase = .evaluating evaluated) :
    flow.threads.monitor.currentMetrics.frameDropPct =
        valueOf flow.dropSample MetricSample.frameDropPct ∧
      flow.threads.monitor.currentMetrics.cpuLoadPct =
        valueOf flow.cpuSample MetricSample.cpuLoadPct := by
  have invariant := Machine.exec_invariant_along
    (fun _ _ _ kept ok moved => Invariant.step kept ok moved)
    (invariant_start mode rules clock) faithful executed
  have settled : flow.threads.settled = flow.threads.monitor.currentMetrics := by
    simp only [Threads.settled, evaluating]
  rw [dropSample, cpuSample, invariant.media.latest, invariant.system.latest, ← settled]
  exact ⟨invariant.frameDropPct, invariant.cpuLoadPct⟩

/-- A sample of the pipeline with frame drops and load goes its way to the monitor. -/
def pipelineSample : List FlowAction :=
  [.push (.pipeline 0 (some ⟨20, 0, 80, 0, 0, 0⟩)), .drain, .sendSystem, .sendMedia,
    .receiveSystem, .thread .advance, .receiveMedia, .thread .advance]

def evaluationTick : List FlowAction := .thread .tick :: List.replicate 5 (.thread .advance)

theorem evaluation_uses_pipeline_sample_audio :
    ∃ flow, Machine.exec step (start 1 (some templateRules) 0)
        (pipelineSample ++ [.push (.audio 3), .drain] ++ evaluationTick) = some flow ∧
      flow.threads.phase = .evaluating .coPilot ∧
      flow.threads.monitor.currentMetrics.frameDropPct = 20 ∧
      flow.threads.monitor.currentMetrics.cpuLoadPct = 80 := by
  have faithful : Machine.Along step FaithfulDrain (start 1 (some templateRules) 0)
      (pipelineSample ++ [.push (.audio 3), .drain] ++ evaluationTick) := by
    decide +kernel
  have ended : (Machine.exec step (start 1 (some templateRules) 0)
      (pipelineSample ++ [.push (.audio 3), .drain] ++ evaluationTick)).map (fun flow =>
        (flow.threads.phase, valueOf flow.dropSample MetricSample.frameDropPct,
          valueOf flow.cpuSample MetricSample.cpuLoadPct)) =
      some (.evaluating .coPilot, 20, 80) := by
    decide +kernel
  obtain ⟨flow, executed, observed⟩ := Option.map_eq_some_iff.mp ended
  simp only [Prod.mk.injEq] at observed
  obtain ⟨evaluating, drops, load⟩ := observed
  obtain ⟨sameDrops, sameLoad⟩ := evaluation_uses_pipeline_sample 1 (some templateRules) 0 _ flow
    faithful executed .coPilot evaluating
  exact ⟨flow, executed, evaluating, sameDrops.trans drops, sameLoad.trans load⟩

/-- A sample of the SRT output goes the same way and overwrites both values. -/
theorem srt_sample_overwrites_metrics :
    ∃ flow, Machine.exec step (start 1 (some templateRules) 0)
        (pipelineSample ++ [.push .srt, .drain, .sendSystem, .sendMedia, .receiveSystem,
          .thread .advance, .receiveMedia, .thread .advance] ++ evaluationTick) = some flow ∧
      flow.threads.phase = .evaluating .coPilot ∧
      valueOf flow.dropSample MetricSample.frameDropPct = 20 ∧
      valueOf flow.cpuSample MetricSample.cpuLoadPct = 80 ∧
      flow.threads.monitor.currentMetrics.frameDropPct = 0 ∧
      flow.threads.monitor.currentMetrics.cpuLoadPct = 0 := by
  have ended : (Machine.exec step (start 1 (some templateRules) 0)
      (pipelineSample ++ [.push .srt, .drain, .sendSystem, .sendMedia, .receiveSystem,
        .thread .advance, .receiveMedia, .thread .advance] ++ evaluationTick)).map (fun flow =>
        (flow.threads.phase, valueOf flow.dropSample MetricSample.frameDropPct,
          valueOf flow.cpuSample MetricSample.cpuLoadPct,
          flow.threads.monitor.currentMetrics.frameDropPct,
          flow.threads.monitor.currentMetrics.cpuLoadPct)) =
      some (.evaluating .coPilot, 20, 80, 0, 0) := by
    decide +kernel
  obtain ⟨flow, executed, observed⟩ := Option.map_eq_some_iff.mp ended
  simp only [Prod.mk.injEq] at observed
  exact ⟨flow, executed, observed⟩

end MetricFlow

end RejiStudio.Orchestrator
