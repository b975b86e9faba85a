import Mathlib.Data.List.Induction
import RejiStudio.Pipeline.FirstPacket
import RejiStudio.Pipeline.FramePacing

/-!
# The cadence of IDR frames

The cadence asks for an IDR frame when no key frame came for an interval, and then not
again before it has seen one.  The time since the last key frame is a signed difference,
which the source leaves undefined where it overflows; so does this account of it.
-/

namespace RejiStudio.Pipeline

open RejiStudio.Lib

namespace IdrCadence

/-- `IdrCadence(interval_us)`. -/
def new (intervalUs : Int64) : IdrCadence := ⟨intervalUs, 0, false, false⟩

/-- `should_force_idr`, where the difference that it takes has a value. -/
def shouldForceIdrChecked (cadence : IdrCadence) (nowPtsUs : Int64) : Option (Bool × IdrCadence) :=
  if !cadence.haveEpoch || cadence.pending then some (false, cadence)
  else
    (checked (nowPtsUs.toInt - cadence.lastKeyframePtsUs.toInt)).map fun elapsed =>
      if elapsed < cadence.intervalUs then (false, cadence)
      else (true, { cadence with pending := true })

theorem sub_of_checked {left right word : Int64}
    (fits : checked (left.toInt - right.toInt) = some word) : left - right = word := by
  obtain ⟨_, same⟩ := Option.ite_none_right_eq_some.mp fits
  rw [← Option.some.inj same, Int64.ofInt_sub, Int64.ofInt_toInt, Int64.ofInt_toInt]

theorem shouldForceIdrChecked_eq {cadence : IdrCadence} {nowPtsUs : Int64}
    {result : Bool × IdrCadence} (answered : cadence.shouldForceIdrChecked nowPtsUs = some result) :
    cadence.shouldForceIdr nowPtsUs = result := by
  unfold shouldForceIdrChecked at answered
  unfold shouldForceIdr
  split at answered
  next quiet =>
    cases answered
    exact if_pos quiet
  next asks =>
    obtain ⟨elapsed, fits, rfl⟩ := Option.map_eq_some_iff.mp answered
    rw [if_neg asks, sub_of_checked fits]

theorem shouldForceIdrChecked_true {cadence next : IdrCadence} {nowPtsUs : Int64}
    (asked : cadence.shouldForceIdrChecked nowPtsUs = some (true, next)) :
    cadence.haveEpoch = true ∧ cadence.pending = false ∧
      cadence.intervalUs.toInt ≤ nowPtsUs.toInt - cadence.lastKeyframePtsUs.toInt ∧
      next = { cadence with pending := true } := by
  unfold shouldForceIdrChecked at asked
  split at asked
  next => cases asked
  next asks =>
    obtain ⟨elapsed, fits, answer⟩ := Option.map_eq_some_iff.mp asked
    split at answer
    next => cases answer
    next reached =>
      cases answer
      have reached := Int64.le_iff_toInt_le.mp (Int64.not_lt.mp reached)
      rw [toInt_of_checked fits] at reached
      simp only [Bool.or_eq_true, Bool.not_eq_true', not_or, Bool.not_eq_false,
        Bool.not_eq_true] at asks
      exact ⟨asks.1, asks.2, reached, rfl⟩

theorem shouldForceIdrChecked_false {cadence next : IdrCadence} {nowPtsUs : Int64}
    (asked : cadence.shouldForceIdrChecked nowPtsUs = some (false, next)) : next = cadence := by
  unfold shouldForceIdrChecked at asked
  split at asked
  next =>
    cases asked
    rfl
  next =>
    obtain ⟨elapsed, _, answer⟩ := Option.map_eq_some_iff.mp asked
    split at answer
    · cases answer
      rfl
    · cases answer

theorem shouldForceIdrChecked_defined {cadence : IdrCadence} {nowPtsUs : Int64}
    (lastNonneg : 0 ≤ cadence.lastKeyframePtsUs.toInt) (nowNonneg : 0 ≤ nowPtsUs.toInt) :
    ∃ answer next, cadence.shouldForceIdrChecked nowPtsUs = some (answer, next) ∧
      next.lastKeyframePtsUs = cadence.lastKeyframePtsUs := by
  unfold shouldForceIdrChecked
  split
  · exact ⟨false, cadence, rfl, rfl⟩
  · have lastBound := cadence.lastKeyframePtsUs.toInt_lt
    have nowBound := nowPtsUs.toInt_lt
    obtain ⟨elapsed, fits, _⟩ := @checked_of_fits
      (nowPtsUs.toInt - cadence.lastKeyframePtsUs.toInt) (by omega) (by omega)
    rw [fits, Option.map_some]
    split
    · exact ⟨_, _, rfl, rfl⟩
    · exact ⟨_, _, rfl, rfl⟩

end IdrCadence

/-! ## Runs -/

inductive CadenceCall where
  | onKeyframe (ptsUs : Int64)
  | shouldForceIdr (nowPtsUs : Int64)
  deriving DecidableEq

def CadenceCall.ptsUs : CadenceCall → Int64
  | .onKeyframe ptsUs => ptsUs
  | .shouldForceIdr nowPtsUs => nowPtsUs

inductive CadenceEvent where
  | keyframe (ptsUs : Int64)
  | asked (nowPtsUs : Int64) (answer : Bool)
  deriving DecidableEq

namespace CadenceEvent

def call : CadenceEvent → CadenceCall
  | keyframe ptsUs => .onKeyframe ptsUs
  | asked nowPtsUs _ => .shouldForceIdr nowPtsUs

def ptsUs? : CadenceEvent → Option Int64
  | keyframe ptsUs => some ptsUs
  | asked _ _ => none

end CadenceEvent

def lastKeyframe (events : List CadenceEvent) : Option Int64 :=
  events.reverse.findSome? CadenceEvent.ptsUs?

/-- A call was answered in favour and no key frame came since. -/
def awaitsKeyframe (events : List CadenceEvent) : Bool :=
  events.foldl (fun awaits event =>
    match event with
    | .keyframe _ => false
    | .asked _ answer => awaits || answer) false

structure CadenceRun where
  cadence : IdrCadence
  events : List CadenceEvent

namespace CadenceRun

def start (intervalUs : Int64) : CadenceRun := ⟨.new intervalUs, []⟩

def step : Machine CadenceRun CadenceCall
  | run, .onKeyframe ptsUs =>
      some ⟨run.cadence.onKeyframe ptsUs, run.events ++ [.keyframe ptsUs]⟩
  | run, .shouldForceIdr nowPtsUs =>
      (run.cadence.shouldForceIdrChecked nowPtsUs).map fun (answer, cadence) =>
        ⟨cadence, run.events ++ [.asked nowPtsUs answer]⟩

end CadenceRun

theorem lastKeyframe_append (events : List CadenceEvent) (event : CadenceEvent) :
    lastKeyframe (events ++ [event]) = event.ptsUs?.or (lastKeyframe events) := by
  rw [lastKeyframe, List.reverse_append, List.reverse_singleton, List.singleton_append,
    List.findSome?_cons]
  cases event <;> rfl

theorem awaitsKeyframe_keyframe (events : List CadenceEvent) (ptsUs : Int64) :
    awaitsKeyframe (events ++ [.keyframe ptsUs]) = false := by
  rw [awaitsKeyframe, List.foldl_append]
  rfl

theorem awaitsKeyframe_asked (events : List CadenceEvent) (nowPtsUs : Int64) (answer : Bool) :
    awaitsKeyframe (events ++ [.asked nowPtsUs answer]) = (awaitsKeyframe events || answer) := by
  rw [awaitsKeyframe, List.foldl_append]
  rfl

theorem exists_keyframe_of_not_awaits {front between : List CadenceEvent} {nowPtsUs : Int64}
    (ended : awaitsKeyframe (front ++ .asked nowPtsUs true :: between) = false) :
    ∃ ptsUs, .keyframe ptsUs ∈ between := by
  induction between using List.reverseRecOn with
  | nil =>
      rw [awaitsKeyframe_asked, Bool.or_true] at ended
      contradiction
  | append_singleton between event inductionHypothesis =>
      rw [← List.cons_append, ← List.append_assoc] at ended
      cases event with
      | keyframe ptsUs => exact ⟨ptsUs, by simp⟩
      | asked laterPtsUs answer =>
          rw [awaitsKeyframe_asked] at ended
          obtain ⟨ptsUs, membership⟩ := inductionHypothesis (Bool.or_eq_false_iff.mp ended).1
          exact ⟨ptsUs, List.mem_append_left _ membership⟩

def CadenceEvent.Justified (intervalUs : Int64) (front : List CadenceEvent) :
    CadenceEvent → Prop
  | .asked nowPtsUs true =>
      awaitsKeyframe front = false ∧
        ∃ ptsUs, lastKeyframe front = some ptsUs ∧
          intervalUs.toInt ≤ nowPtsUs.toInt - ptsUs.toInt
  | _ => True

namespace CadenceRun

structure Invariant (intervalUs : Int64) (run : CadenceRun) : Prop where
  interval : run.cadence.intervalUs = intervalUs
  epoch : run.cadence.haveEpoch = true →
    lastKeyframe run.events = some run.cadence.lastKeyframePtsUs
  pending : run.cadence.pending = awaitsKeyframe run.events
  justified : ∀ front event back, run.events = front ++ event :: back →
    event.Justified intervalUs front

theorem invariant_start (intervalUs : Int64) : (start intervalUs).Invariant intervalUs where
  interval := rfl
  epoch := nofun
  pending := rfl
  justified := by
    intro front event back none_
    exact absurd none_.symm (by simp [start])

theorem Invariant.justified_append {intervalUs : Int64} {run : CadenceRun} {last : CadenceEvent}
    (invariant : run.Invariant intervalUs) (lastJustified : last.Justified intervalUs run.events) :
    ∀ front event back, run.events ++ [last] = front ++ event :: back →
      event.Justified intervalUs front := by
  intro front event back split_
  rcases back.eq_nil_or_concat with rfl | ⟨inner, final, rfl⟩
  · obtain ⟨rfl, same⟩ := List.append_inj' split_ rfl
    cases same
    exact lastJustified
  · rw [List.concat_eq_append, ← List.cons_append, ← List.append_assoc] at split_
    obtain ⟨earlier, _⟩ := List.append_inj' split_ rfl
    exact invariant.justified front event inner earlier

theorem Invariant.step {intervalUs : Int64} {run next : CadenceRun} {call : CadenceCall}
    (invariant : run.Invariant intervalUs) (stepped : run.step call = some next) :
    next.Invariant intervalUs := by
  cases call with
  | onKeyframe ptsUs =>
      cases stepped
      refine ⟨invariant.interval, ?_, ?_, invariant.justified_append trivial⟩
      · intro _
        rw [lastKeyframe_append]
        rfl
      · rw [awaitsKeyframe_keyframe]
        rfl
  | shouldForceIdr nowPtsUs =>
      obtain ⟨⟨answer, cadence⟩, asked, rfl⟩ := Option.map_eq_some_iff.mp stepped
      dsimp only
      cases answer with
      | false =>
          cases IdrCadence.shouldForceIdrChecked_false asked
          refine ⟨invariant.interval, ?_, ?_, invariant.justified_append trivial⟩
          · intro seen
            rw [lastKeyframe_append]
            exact invariant.epoch seen
          · rw [awaitsKeyframe_asked, Bool.or_false]
            exact invariant.pending
      | true =>
          obtain ⟨seen, idle, elapsed, rfl⟩ := IdrCadence.shouldForceIdrChecked_true asked
          have grounds : (CadenceEvent.asked nowPtsUs true).Justified intervalUs run.events := by
            refine ⟨invariant.pending.symm.trans idle, _, invariant.epoch seen, ?_⟩
            rw [← invariant.interval]
            exact elapsed
          refine ⟨invariant.interval, ?_, ?_, invariant.justified_append grounds⟩
          · intro _
            rw [lastKeyframe_append]
            exact invariant.epoch seen
          · rw [awaitsKeyframe_asked, Bool.or_true]

theorem exec_events {start finish : CadenceRun} {calls : List CadenceCall}
    (executed : Machine.exec step start calls = some finish) :
    finish.events.map CadenceEvent.call = start.events.map CadenceEvent.call ++ calls := by
  induction calls generalizing start with
  | nil =>
      cases executed
      exact (List.append_nil _).symm
  | cons call calls inductionHypothesis =>
      obtain ⟨next, stepped, rest⟩ := Machine.exec_cons_eq_some executed
      have advanced : next.events.map CadenceEvent.call =
          start.events.map CadenceEvent.call ++ [call] := by
        cases call with
        | onKeyframe ptsUs =>
            cases stepped
            exact List.map_append
        | shouldForceIdr nowPtsUs =>
            obtain ⟨_, _, rfl⟩ := Option.map_eq_some_iff.mp stepped
            exact List.map_append
      rw [inductionHypothesis rest, advanced, List.append_assoc, List.singleton_append]

/-- From timestamps that are not negative every difference has a value. -/
theorem exec_defined {run : CadenceRun} {calls : List CadenceCall}
    (lastNonneg : 0 ≤ run.cadence.lastKeyframePtsUs.toInt)
    (nonneg : ∀ call ∈ calls, 0 ≤ call.ptsUs.toInt) :
    ∃ finish, Machine.exec step run calls = some finish := by
  induction calls generalizing run with
  | nil => exact ⟨run, rfl⟩
  | cons call calls inductionHypothesis =>
      have here := nonneg call List.mem_cons_self
      have rest := fun other membership => nonneg other (List.mem_cons_of_mem call membership)
      cases call with
      | onKeyframe ptsUs =>
          exact @inductionHypothesis
            ⟨run.cadence.onKeyframe ptsUs, run.events ++ [.keyframe ptsUs]⟩ here rest
      | shouldForceIdr nowPtsUs =>
          have here : 0 ≤ nowPtsUs.toInt := here
          obtain ⟨answer, cadence, asked, same⟩ :=
            IdrCadence.shouldForceIdrChecked_defined lastNonneg here
          obtain ⟨finish, executed⟩ := @inductionHypothesis
            ⟨cadence, run.events ++ [.asked nowPtsUs answer]⟩ (same.symm ▸ lastNonneg) rest
          refine ⟨finish, ?_⟩
          rw [Machine.exec_cons, step, asked]
          exact executed

end CadenceRun

/-- Between two answers in favour lies a key frame, and each comes an interval or more
after the last one. -/
theorem idrCadence_safe {intervalUs : Int64} {calls : List CadenceCall} {run : CadenceRun}
    (executed : Machine.exec CadenceRun.step (.start intervalUs) calls = some run) :
    run.events.map CadenceEvent.call = calls ∧
      (∀ front between back first second,
        run.events = front ++ .asked first true :: (between ++ .asked second true :: back) →
        ∃ ptsUs, .keyframe ptsUs ∈ between) ∧
      ∀ front back nowPtsUs, run.events = front ++ .asked nowPtsUs true :: back →
        ∃ ptsUs, lastKeyframe front = some ptsUs ∧
          intervalUs.toInt ≤ nowPtsUs.toInt - ptsUs.toInt := by
  have invariant : run.Invariant intervalUs :=
    Machine.exec_invariant (fun _ _ _ invariant stepped => invariant.step stepped)
      (CadenceRun.invariant_start intervalUs) executed
  refine ⟨CadenceRun.exec_events executed, ?_, ?_⟩
  · intro front between back first second split_
    rw [← List.cons_append, ← List.append_assoc] at split_
    exact exists_keyframe_of_not_awaits (invariant.justified _ _ _ split_).1
  · intro front back nowPtsUs split_
    exact (invariant.justified _ _ _ split_).2

/-- A timestamp goes back, a key frame is late twice, and the second request waits for it. -/
def lateKeyframes : List CadenceCall :=
  [.shouldForceIdr 9000000, .onKeyframe 500000, .shouldForceIdr 0, .shouldForceIdr 3500000,
    .shouldForceIdr 7000000, .onKeyframe 7000001, .shouldForceIdr 10000001]

theorem idrCadence_safe_lateKeyframes :
    ∃ run, Machine.exec CadenceRun.step (.start 3000000) lateKeyframes = some run ∧
      run.events.getLast? = some (.asked 10000001 true) ∧
      ∃ ptsUs, CadenceEvent.keyframe ptsUs ∈
        [CadenceEvent.asked 7000000 false, CadenceEvent.keyframe 7000001] := by
  have observed : (Machine.exec CadenceRun.step (.start 3000000) lateKeyframes).map
      CadenceRun.events = some [.asked 9000000 false, .keyframe 500000, .asked 0 false,
        .asked 3500000 true, .asked 7000000 false, .keyframe 7000001, .asked 10000001 true] := by
    decide +kernel
  obtain ⟨run, executed, events⟩ := Option.map_eq_some_iff.mp observed
  obtain ⟨_, separated, _⟩ := idrCadence_safe executed
  refine ⟨run, executed, by rw [events]; rfl, ?_⟩
  exact separated [.asked 9000000 false, .keyframe 500000, .asked 0 false]
    [.asked 7000000 false, .keyframe 7000001] [] 3500000 10000001 events

end RejiStudio.Pipeline
