import RejiStudio.Recovery.RunFrame

/-!
# The cadence of source re-initialisations

The source counts null frames and signals a level, the trigger turns the level into
edges with a counter of its own.  Together they do what one counter did that was
reset by every attempt.  The streak is an `int` in the source: a stretch of null
frames that it cannot count has no meaning there.
-/

namespace RejiStudio.Recovery

open RejiStudio.Lib

inductive SourceCall where
  /-- A frame that arrived, or a null frame. -/
  | frame (desc : Option (UInt32 × UInt32 × UInt32))
  | init (wgcSupported : Bool) (devices : Nat) (outcome : InitOutcome)
  | shutdown

/-- The source and the trigger, with the edges of all frames so far as history. -/
structure Cadence where
  source : Source
  reinitTrigger : ReinitTriggerPolicy
  edges : List Bool

namespace Cadence

def start : Cadence := ⟨.initial, ⟨false, 0⟩, []⟩

/-- `next_frame`, then the trigger is fed with the state. -/
def onFrame (cadence : Cadence) (capture : Capture)
    (desc : Option (UInt32 × UInt32 × UInt32)) : Cadence :=
  let source := (cadence.source.nextFrame capture desc).1
  let (trigger, edge) := cadence.reinitTrigger.onState source.state
  ⟨source, trigger, cadence.edges ++ [edge]⟩

def step : Machine Cadence SourceCall
  | cadence, .frame desc =>
      cadence.source.capture.map fun capture => cadence.onFrame capture desc
  | cadence, .init wgcSupported devices outcome =>
      some { cadence with source := (cadence.source.init wgcSupported devices outcome).1 }
  | cadence, .shutdown => some { cadence with source := cadence.source.shutdown }

theorem captured_eq_onFrame (s : Impl) (capture : Capture) (tick : Tick) (edges : List Bool) :
    ((Cadence.mk s.sub.source s.reinitTrigger edges).onFrame capture tick.frame) =
      ⟨(s.captured capture tick).1.sub.source, (s.captured capture tick).1.reinitTrigger,
        edges ++ [(s.captured capture tick).2.2]⟩ := rfl

end Cadence

/-! ## One counter -/

/-- The number of consecutive null frames since the last frame or initialisation. -/
def nullsAfter (nulls : Nat) : SourceCall → Nat
  | .frame none => nulls + 1
  | .frame (some _) => 0
  | .init _ _ outcome => if outcome.ok then 0 else nulls
  | .shutdown => nulls

/-- Whether each frame is a null frame whose number among the consecutive ones is a
multiple of the threshold. -/
def dueEdges : Nat → List SourceCall → List Bool
  | _, [] => []
  | nulls, .frame desc :: rest =>
      decide (desc = none ∧ kNullStreakReinitThreshold ∣ nulls + 1) ::
        dueEdges (nullsAfter nulls (.frame desc)) rest
  | nulls, call :: rest => dueEdges (nullsAfter nulls call) rest

def handleNullFrame (nullStreak : Nat) : Nat × Bool :=
  if kNullStreakReinitThreshold ≤ nullStreak + 1 then (0, true) else (nullStreak + 1, false)

def countedEdges : Nat → List SourceCall → List Bool
  | _, [] => []
  | nullStreak, .frame none :: rest =>
      (handleNullFrame nullStreak).2 :: countedEdges (handleNullFrame nullStreak).1 rest
  | _, .frame (some _) :: rest => false :: countedEdges 0 rest
  | nullStreak, .init _ _ outcome :: rest =>
      countedEdges (if outcome.ok then 0 else nullStreak) rest
  | nullStreak, .shutdown :: rest => countedEdges nullStreak rest

theorem handleNullFrame_mod (nulls : Nat) :
    handleNullFrame (nulls % kNullStreakReinitThreshold) =
      ((nulls + 1) % kNullStreakReinitThreshold,
        decide (kNullStreakReinitThreshold ∣ nulls + 1)) := by
  unfold handleNullFrame kNullStreakReinitThreshold
  by_cases due : 60 ∣ nulls + 1
  · rw [if_pos (by omega), decide_eq_true due, Nat.mod_eq_zero_of_dvd due]
  · rw [if_neg (by omega), decide_eq_false due]
    exact Prod.ext (by omega) rfl

theorem dueEdges_eq_countedEdges (nulls : Nat) (calls : List SourceCall) :
    dueEdges nulls calls = countedEdges (nulls % kNullStreakReinitThreshold) calls := by
  induction calls generalizing nulls with
  | nil => rfl
  | cons call rest inductionHypothesis =>
      cases call with
      | frame desc =>
          cases desc with
          | none =>
              simp only [dueEdges, countedEdges, handleNullFrame_mod, nullsAfter,
                inductionHypothesis, true_and]
          | some desc => simp [dueEdges, countedEdges, nullsAfter, inductionHypothesis]
      | init wgcSupported devices outcome =>
          simp only [dueEdges, countedEdges, nullsAfter, inductionHypothesis]
          split <;> simp
      | shutdown => simp only [dueEdges, countedEdges, nullsAfter, inductionHypothesis]

/-! ## The level and its edges -/

/-- The streak is the number of null frames, and the trigger knows its remainder once
the level is reached.  A re-initialisation leaves a trigger behind that the next frame
clears. -/
structure Cadence.Counts (nulls : Nat) (cadence : Cadence) : Prop where
  streak : cadence.source.streak = nulls
  below : 0 < nulls → nulls < kNullStreakReinitThreshold → cadence.reinitTrigger = ⟨false, 0⟩
  reached : kNullStreakReinitThreshold ≤ nulls →
    cadence.reinitTrigger = ⟨true, nulls % kNullStreakReinitThreshold⟩

namespace Cadence

/-- A null frame is fed to the trigger with the level that it leads to. -/
theorem onFrame_null {cadence : Cadence} {capture : Capture}
    (up : cadence.source.capture = some capture) :
    cadence.onFrame capture none =
      let level := if kNullStreakReinitThreshold ≤ cadence.source.streak + 1
        then SourceState.needsReinit else .running
      ⟨{ cadence.source with streak := cadence.source.streak + 1 },
        (cadence.reinitTrigger.onState level).1,
        cadence.edges ++ [(cadence.reinitTrigger.onState level).2]⟩ := by
  simp [onFrame, Source.nextFrame, Source.state, up]

theorem Counts.of_below {nulls : Nat} {cadence : Cadence}
    (streak : cadence.source.streak = nulls) (below : nulls < kNullStreakReinitThreshold)
    (trigger : 0 < nulls → cadence.reinitTrigger = ⟨false, 0⟩) : cadence.Counts nulls where
  streak := streak
  below := fun positive _ => trigger positive
  reached := fun reached => absurd reached (Nat.not_le.mpr below)

theorem Counts.of_reached {nulls : Nat} {cadence : Cadence}
    (streak : cadence.source.streak = nulls) (reached : kNullStreakReinitThreshold ≤ nulls)
    (trigger : cadence.reinitTrigger = ⟨true, nulls % kNullStreakReinitThreshold⟩) :
    cadence.Counts nulls where
  streak := streak
  below := fun _ below => absurd reached (Nat.not_le.mpr below)
  reached := fun _ => trigger

/-- Once the level is reached, the trigger fires on the multiples of the threshold. -/
theorem Counts.onState_needsReinit {nulls : Nat} {cadence : Cadence}
    (counts : cadence.Counts nulls) (level : kNullStreakReinitThreshold ≤ nulls + 1) :
    cadence.reinitTrigger.onState .needsReinit =
      (⟨true, (nulls + 1) % kNullStreakReinitThreshold⟩,
        decide (kNullStreakReinitThreshold ∣ nulls + 1)) := by
  have below := counts.below
  have reached := counts.reached
  simp only [kNullStreakReinitThreshold] at level below reached ⊢
  by_cases first : nulls + 1 = 60
  · -- the null frames before have cleared the trigger
    have cleared : cadence.reinitTrigger = ⟨false, 0⟩ := below (by omega) (by omega)
    simp [cleared, ReinitTriggerPolicy.onState, first]
  · -- the trigger counts the frames since its last edge
    have counting : cadence.reinitTrigger = ⟨true, nulls % 60⟩ := reached (by omega)
    by_cases due : 60 ∣ nulls + 1
    · have elapsed : 60 ≤ nulls % 60 + 1 := by omega
      simp [counting, ReinitTriggerPolicy.onState, kRearmPeriodFrames,
        kNullStreakReinitThreshold, elapsed, due, Nat.mod_eq_zero_of_dvd due]
    · have early : ¬60 ≤ nulls % 60 + 1 := by omega
      have next : (nulls + 1) % 60 = nulls % 60 + 1 := by omega
      simp [counting, ReinitTriggerPolicy.onState, kRearmPeriodFrames,
        kNullStreakReinitThreshold, early, due, next]

/-- A null frame has an edge exactly when its number is a multiple of the threshold. -/
theorem Counts.null {nulls : Nat} {cadence : Cadence} (counts : cadence.Counts nulls)
    {capture : Capture} (up : cadence.source.capture = some capture) :
    (cadence.onFrame capture none).Counts (nulls + 1) ∧
      (cadence.onFrame capture none).edges =
        cadence.edges ++ [decide (kNullStreakReinitThreshold ∣ nulls + 1)] := by
  rw [onFrame_null up, counts.streak]
  by_cases level : kNullStreakReinitThreshold ≤ nulls + 1
  · simp only [level, if_true, counts.onState_needsReinit level]
    exact ⟨.of_reached rfl level rfl, trivial⟩
  · have running : cadence.reinitTrigger.onState .running = (⟨false, 0⟩, false) := by
      simp [ReinitTriggerPolicy.onState]
    have undivided : ¬kNullStreakReinitThreshold ∣ nulls + 1 := by
      intro divides
      exact level (Nat.le_of_dvd (Nat.succ_pos nulls) divides)
    simp only [level, if_false, running, undivided, decide_false]
    exact ⟨.of_below rfl (Nat.not_le.mp level) fun _ => rfl, trivial⟩

theorem Counts.step {nulls : Nat} {cadence next : Cadence} (counts : cadence.Counts nulls)
    {call : SourceCall} (stepped : cadence.step call = some next) :
    next.Counts (nullsAfter nulls call) ∧
      next.edges = cadence.edges ++ dueEdges nulls [call] := by
  cases call with
  | frame desc =>
      obtain ⟨capture, up, rfl⟩ := Option.map_eq_some_iff.mp stepped
      cases desc with
      | none =>
          simp only [dueEdges, nullsAfter, true_and]
          exact counts.null up
      | some desc =>
          have running : (cadence.source.nextFrame capture (some desc)).1.state = .running := by
            simp [Source.nextFrame, Source.state, up, kNullStreakReinitThreshold]
          simp only [onFrame, running, ReinitTriggerPolicy.onState]
          refine ⟨.of_below rfl (Nat.succ_pos 59) fun _ => rfl, ?_⟩
          simp [dueEdges]
  | init wgcSupported devices outcome =>
      cases stepped
      cases initialised : outcome.ok with
      | true =>
          simp only [nullsAfter, Source.init, initialised, if_true, dueEdges, List.append_nil]
          exact ⟨.of_below rfl (Nat.succ_pos 59) (absurd · (Nat.lt_irrefl 0)), trivial⟩
      | false =>
          simp only [nullsAfter, Source.init, initialised, dueEdges, List.append_nil]
          exact ⟨⟨counts.streak, counts.below, counts.reached⟩, trivial⟩
  | shutdown =>
      cases stepped
      simp only [nullsAfter, dueEdges, List.append_nil]
      exact ⟨⟨counts.streak, counts.below, counts.reached⟩, trivial⟩

theorem dueEdges_cons (nulls : Nat) (call : SourceCall) (rest : List SourceCall) :
    dueEdges nulls (call :: rest) =
      dueEdges nulls [call] ++ dueEdges (nullsAfter nulls call) rest := by
  cases call <;> rfl

theorem exec_edges {nulls : Nat} {cadence finish : Cadence} (counts : cadence.Counts nulls)
    {calls : List SourceCall} (executed : Machine.exec step cadence calls = some finish) :
    finish.edges = cadence.edges ++ dueEdges nulls calls := by
  induction calls generalizing nulls cadence with
  | nil =>
      cases executed
      simp [dueEdges]
  | cons call rest inductionHypothesis =>
      obtain ⟨next, stepped, continued⟩ := Machine.exec_cons_eq_some executed
      obtain ⟨kept, edges⟩ := counts.step stepped
      have split := dueEdges_cons nulls call rest
      rw [inductionHypothesis kept continued, edges, split, List.append_assoc]

theorem start_counts : start.Counts 0 :=
  .of_below rfl (Nat.succ_pos 59) fun _ => rfl

theorem step_streak_le (cadence : Cadence) (call : SourceCall) (next : Cadence)
    (stepped : step cadence call = some next) :
    next.source.streak ≤ cadence.source.streak + 1 := by
  cases call with
  | frame desc =>
      obtain ⟨capture, _, rfl⟩ := Option.map_eq_some_iff.mp stepped
      cases desc with
      | none => exact Nat.le_refl _
      | some desc => exact Nat.zero_le _
  | init wgcSupported devices outcome =>
      cases stepped
      cases initialised : outcome.ok <;> simp [Source.init, initialised]
  | shutdown =>
      cases stepped
      exact Nat.le_succ _

/-- A run of fewer than 2^31 calls has no null frame that the `int` cannot count. -/
theorem streak_defined {calls : List SourceCall} {cadence : Cadence}
    (executed : Machine.exec step start calls = some cadence)
    (short : calls.length < 2147483648) : cadence.source.streak < 2147483648 := by
  have counted : cadence.source.streak ≤ 0 + calls.length :=
    Machine.exec_measure_le step_streak_le executed
  omega

/-- The edges of every run are those of the one counter: on the null frames whose
number since the last frame or initialisation is a multiple of sixty. -/
theorem edges_every_sixty_nulls (calls : List SourceCall) (cadence : Cadence)
    (executed : Machine.exec step start calls = some cadence) :
    cadence.edges = dueEdges 0 calls ∧ cadence.edges = countedEdges 0 calls := by
  have edges : cadence.edges = dueEdges 0 calls := exec_edges start_counts executed
  exact ⟨edges, edges.trans (dueEdges_eq_countedEdges 0 calls)⟩

/-- Seventy null frames, a frame, an attempt on a healthy device that leaves the
source alone, and sixty null frames with an initialisation after the first ten. -/
def interrupted : List SourceCall :=
  [.init true 0 ⟨true, 1920, 1080, false⟩] ++ List.replicate 70 (.frame none) ++
    [.frame (some (1920, 1080, 87))] ++ List.replicate 10 (.frame none) ++
    [.shutdown, .init true 1 ⟨true, 1920, 1080, false⟩] ++ List.replicate 60 (.frame none)

theorem edges_every_sixty_nulls_interrupted :
    ∃ cadence, Machine.exec step start interrupted = some cadence ∧
      cadence.edges = dueEdges 0 interrupted ∧ cadence.edges = countedEdges 0 interrupted ∧
      cadence.edges.findIdxs (fun edge => edge) = [59, 140] := by
  have observed : (Machine.exec step start interrupted).map
      (fun cadence => cadence.edges.findIdxs fun edge => edge) = some [59, 140] := by
    decide +kernel
  obtain ⟨cadence, executed, edges⟩ := Option.map_eq_some_iff.mp observed
  obtain ⟨due, counted⟩ := edges_every_sixty_nulls interrupted cadence executed
  exact ⟨cadence, executed, due, counted, edges⟩

end Cadence

end RejiStudio.Recovery
