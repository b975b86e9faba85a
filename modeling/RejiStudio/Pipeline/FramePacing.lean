import RejiStudio.Lib.Deadlines
import RejiStudio.Lib.Machine
import RejiStudio.Pipeline.FramePacer

/-!
# Frame pacing

`FramePacer::pace` moves its deadline by one frame and waits for it; far behind, it starts
over from the clock.  The clock only goes forward, as far as it likes: a stall before a call,
a `Sleep` that takes too long and a thread that is not scheduled are all steps of the clock.
The source leaves a signed operation that overflows undefined, and so does `pace`.
-/

namespace RejiStudio.Pipeline

open RejiStudio.Lib

def checked (value : Int) : Option Int64 :=
  if -(2 ^ 63) ≤ value ∧ value < 2 ^ 63 then some (Int64.ofInt value) else none

/-- The values of the counter during a call: the first read, the reads of the spin loop, and
the moment of the return. -/
structure PaceReads where
  now : Int64
  spins : List Int64
  returned : Int64
  deriving DecidableEq

def spinsUntil (deadline : Int64) : List Int64 → Bool
  | [] => false
  | [last] => deadline ≤ last
  | read :: rest => read < deadline && spinsUntil deadline rest

def resyncFrames : Int := 4

def FramePacer.pace (pacer : FramePacer) (reads : PaceReads) : Option FramePacer :=
  (checked (pacer.nextDeadline.toInt + pacer.frameTicks.toInt)).bind fun deadline =>
  (checked (deadline.toInt - reads.now.toInt)).bind fun remain =>
  (checked (-pacer.frameTicks.toInt)).bind fun negated =>
  (checked (negated.toInt * resyncFrames)).bind fun behind =>
    if remain < behind then
      (checked (reads.now.toInt + pacer.frameTicks.toInt)).bind fun resynced =>
        if reads.spins = [] then some { pacer with nextDeadline := resynced } else none
    else if 0 < remain then
      -- `ticks_to_us` for the length of the `Sleep`
      (checked (remain.toInt * 1000000)).bind fun _ =>
        if spinsUntil deadline reads.spins then some { pacer with nextDeadline := deadline }
        else none
    else if reads.spins = [] then some { pacer with nextDeadline := deadline }
    else none

/-- A pacer and the last value of the clock; `returns` is history. -/
structure Pacing where
  pacer : FramePacer
  clock : Int64
  returns : List Arrival
  deriving DecidableEq

namespace Pacing

def start (pacer : FramePacer) (clock : Int64) : Pacing := ⟨pacer, clock, []⟩

def step : Machine Pacing PaceReads := fun pacing reads =>
  if (pacing.clock :: reads.now :: (reads.spins ++ [reads.returned])).Pairwise (· ≤ ·) then
    (pacing.pacer.pace reads).map fun pacer =>
      { pacer := pacer
        clock := reads.returned
        returns := pacing.returns ++
          [⟨reads.now.toInt, pacer.nextDeadline.toInt, reads.returned.toInt⟩] }
  else none

end Pacing

theorem toInt_of_checked {value : Int} {word : Int64} (result : checked value = some word) :
    word.toInt = value := by
  obtain ⟨⟨low, high⟩, same⟩ := Option.ite_none_right_eq_some.mp result
  cases same
  exact Int64.toInt_ofInt_of_le low high

theorem checked_of_fits {value : Int} (low : -(2 ^ 63) ≤ value) (high : value < 2 ^ 63) :
    ∃ word, checked value = some word ∧ word.toInt = value :=
  ⟨Int64.ofInt value, if_pos ⟨low, high⟩, Int64.toInt_ofInt_of_le low high⟩

theorem exists_spin_of_spinsUntil {deadline : Int64} {reads : List Int64}
    (ends : spinsUntil deadline reads = true) : ∃ read ∈ reads, deadline ≤ read := by
  induction reads with
  | nil => cases ends
  | cons read rest inductionHypothesis =>
      cases rest with
      | nil => exact ⟨read, List.mem_cons_self, of_decide_eq_true ends⟩
      | cons second rest =>
          simp only [spinsUntil, Bool.and_eq_true] at ends
          obtain ⟨last, member, reached⟩ := inductionHypothesis ends.2
          exact ⟨last, List.mem_cons_of_mem _ member, reached⟩

/-- A call moves the deadline by at least a frame and leaves it at most four frames behind;
it ends behind the deadline, or a frame before it. -/
theorem FramePacer.pace_spec {pacer next : FramePacer} {reads : PaceReads}
    (positive : 0 < pacer.frameTicks.toInt) (paced : pacer.pace reads = some next) :
    next.frameTicks = pacer.frameTicks ∧
      pacer.nextDeadline.toInt + pacer.frameTicks.toInt ≤ next.nextDeadline.toInt ∧
      reads.now.toInt - 4 * pacer.frameTicks.toInt ≤ next.nextDeadline.toInt ∧
      (next.nextDeadline.toInt - pacer.frameTicks.toInt ≤ reads.now.toInt ∨
        ∃ read ∈ reads.spins, next.nextDeadline.toInt ≤ read.toInt) := by
  obtain ⟨deadline, moved, paced⟩ := Option.bind_eq_some_iff.mp paced
  obtain ⟨remain, waited, paced⟩ := Option.bind_eq_some_iff.mp paced
  obtain ⟨negated, turned, paced⟩ := Option.bind_eq_some_iff.mp paced
  obtain ⟨behind, limited, paced⟩ := Option.bind_eq_some_iff.mp paced
  replace moved := toInt_of_checked moved
  replace waited := toInt_of_checked waited
  replace turned := toInt_of_checked turned
  replace limited := toInt_of_checked limited
  rw [resyncFrames] at limited
  split at paced
  next late =>
    obtain ⟨resynced, restarted, paced⟩ := Option.bind_eq_some_iff.mp paced
    obtain ⟨-, same⟩ := Option.ite_none_right_eq_some.mp paced
    cases same
    replace restarted := toInt_of_checked restarted
    rw [Int64.lt_iff_toInt_lt] at late
    dsimp only
    exact ⟨rfl, by omega, by omega, .inl (by omega)⟩
  next inTime =>
    rw [Int64.lt_iff_toInt_lt] at inTime
    split at paced
    next early =>
      obtain ⟨_, -, paced⟩ := Option.bind_eq_some_iff.mp paced
      obtain ⟨ends, same⟩ := Option.ite_none_right_eq_some.mp paced
      cases same
      obtain ⟨read, member, reached⟩ := exists_spin_of_spinsUntil ends
      rw [Int64.le_iff_toInt_le] at reached
      dsimp only
      exact ⟨rfl, by omega, by omega, .inr ⟨read, member, reached⟩⟩
    next due =>
      obtain ⟨-, same⟩ := Option.ite_none_right_eq_some.mp paced
      cases same
      rw [Int64.lt_iff_toInt_lt] at due
      change ¬(0 : Int) < _ at due
      dsimp only
      exact ⟨rfl, by omega, by omega, .inl (by omega)⟩

/-- No operation overflows for 2 ^ 62 ticks of the clock, with a frame of up to 2 ^ 42 and a
deadline at most a frame ahead: after its last read the call returns. -/
theorem FramePacer.pace_defined {pacer : FramePacer} {now : Int64}
    (positive : 0 < pacer.frameTicks.toInt) (short : pacer.frameTicks.toInt ≤ 2 ^ 42)
    (soon : pacer.nextDeadline.toInt ≤ now.toInt + pacer.frameTicks.toInt)
    (started : -(2 ^ 62) < pacer.nextDeadline.toInt) (counting : 0 ≤ now.toInt)
    (clock : now.toInt < 2 ^ 62) (returned : Int64) :
    ∃ spins next, pacer.pace ⟨now, spins, returned⟩ = some next := by
  obtain ⟨deadline, moved, deadlineValue⟩ :=
    @checked_of_fits (pacer.nextDeadline.toInt + pacer.frameTicks.toInt) (by omega) (by omega)
  obtain ⟨remain, waited, remainValue⟩ :=
    @checked_of_fits (deadline.toInt - now.toInt) (by omega) (by omega)
  obtain ⟨negated, turned, negatedValue⟩ :=
    @checked_of_fits (-pacer.frameTicks.toInt) (by omega) (by omega)
  obtain ⟨behind, limited, behindValue⟩ :=
    @checked_of_fits (negated.toInt * resyncFrames) (by rw [resyncFrames]; omega)
      (by rw [resyncFrames]; omega)
  simp only [pace, moved, waited, turned, limited, Option.bind_some]
  by_cases late : remain < behind
  · obtain ⟨resynced, restarted, -⟩ :=
      @checked_of_fits (now.toInt + pacer.frameTicks.toInt) (by omega) (by omega)
    refine ⟨[], { pacer with nextDeadline := resynced }, ?_⟩
    rw [if_pos late, restarted]
    rfl
  · by_cases early : 0 < remain
    · have ahead : 0 < remain.toInt := Int64.lt_iff_toInt_lt.mp early
      obtain ⟨product, slept, -⟩ :=
        @checked_of_fits (remain.toInt * 1000000) (by omega) (by omega)
      refine ⟨[deadline], { pacer with nextDeadline := deadline }, ?_⟩
      rw [if_neg late, if_pos early, slept]
      exact if_pos (decide_eq_true (Int64.le_refl deadline))
    · refine ⟨[], { pacer with nextDeadline := deadline }, ?_⟩
      rw [if_neg late, if_neg early]
      rfl

namespace Pacing

/-- Every return kept the pace, one after the other, and the pacer and the clock are not
behind any of them. -/
structure Invariant (frame : Int) (pacing : Pacing) : Prop where
  ticks : pacing.pacer.frameTicks.toInt = frame
  paced : ∀ arrival ∈ pacing.returns, arrival.Paced frame resyncFrames
  spaced : pacing.returns.Pairwise (Arrival.Precedes frame)
  ahead : ∀ arrival ∈ pacing.returns,
    arrival.deadline ≤ pacing.pacer.nextDeadline.toInt ∧ arrival.time ≤ pacing.clock.toInt

theorem start_invariant (pacer : FramePacer) (clock : Int64) :
    Invariant pacer.frameTicks.toInt (start pacer clock) :=
  ⟨rfl, nofun, .nil, nofun⟩

/-- What a call leaves: the clock of its return, one more return, and a pacer whose deadline
has moved by a frame. -/
theorem step_cases {pacing next : Pacing} {reads : PaceReads}
    (stepped : step pacing reads = some next) :
    (pacing.clock :: reads.now :: (reads.spins ++ [reads.returned])).Pairwise (· ≤ ·) ∧
      pacing.pacer.pace reads = some next.pacer ∧ next.clock = reads.returned ∧
      next.returns = pacing.returns ++
        [⟨reads.now.toInt, next.pacer.nextDeadline.toInt, reads.returned.toInt⟩] := by
  obtain ⟨forward, paced⟩ := Option.ite_none_right_eq_some.mp stepped
  obtain ⟨pacer, moved, same⟩ := Option.map_eq_some_iff.mp paced
  cases same
  exact ⟨forward, moved, rfl, rfl⟩

/-- The clock of a call: the first read comes after the last return, and every read before
the next one. -/
theorem clock_order {clock : Int64} {reads : PaceReads}
    (forward : (clock :: reads.now :: (reads.spins ++ [reads.returned])).Pairwise (· ≤ ·)) :
    clock.toInt ≤ reads.now.toInt ∧ reads.now.toInt ≤ reads.returned.toInt ∧
      ∀ read ∈ reads.spins, read.toInt ≤ reads.returned.toInt := by
  obtain ⟨afterClock, forward⟩ := List.pairwise_cons.mp forward
  obtain ⟨afterNow, forward⟩ := List.pairwise_cons.mp forward
  obtain ⟨-, -, beforeReturn⟩ := List.pairwise_append.mp forward
  simp only [Int64.le_iff_toInt_le] at afterClock afterNow beforeReturn
  refine ⟨afterClock _ List.mem_cons_self, afterNow _ ?_, ?_⟩
  · exact List.mem_append_right _ List.mem_cons_self
  · intro read member
    exact beforeReturn read member _ List.mem_cons_self

theorem step_invariant {frame : Int} (positive : 0 < frame) {pacing next : Pacing}
    {reads : PaceReads} (invariant : Invariant frame pacing)
    (stepped : step pacing reads = some next) : Invariant frame next := by
  obtain ⟨forward, paced, clocked, returned⟩ := step_cases stepped
  obtain ⟨sinceReturn, sinceRead, sinceSpin⟩ := clock_order forward
  have framed := invariant.ticks
  obtain ⟨kept, moved, lagging, ended⟩ := FramePacer.pace_spec (by omega) paced
  rw [framed] at moved lagging ended
  have lead : next.pacer.nextDeadline.toInt - frame ≤ reads.returned.toInt := by
    obtain early | ⟨read, member, reached⟩ := ended
    · omega
    · have before := sinceSpin read member
      omega
  constructor
  · rw [kept, framed]
  · rw [returned]
    intro arrival member
    obtain earlier | newest := List.mem_append.mp member
    · exact invariant.paced arrival earlier
    · cases List.mem_singleton.mp newest
      exact ⟨lagging, lead⟩
  · rw [returned, List.pairwise_append]
    refine ⟨invariant.spaced, List.pairwise_singleton _ _, ?_⟩
    intro earlier member newest isNewest
    cases List.mem_singleton.mp isNewest
    obtain ⟨deadline, time⟩ := invariant.ahead earlier member
    exact ⟨by dsimp only; omega, by dsimp only; omega⟩
  · rw [returned, clocked]
    intro arrival member
    obtain earlier | newest := List.mem_append.mp member
    · obtain ⟨deadline, time⟩ := invariant.ahead arrival earlier
      exact ⟨by omega, by omega⟩
    · cases List.mem_singleton.mp newest
      exact ⟨Int.le_refl _, Int.le_refl _⟩

/-- However the clock runs, a window of time holds at most as many returns as frames and
seven more, and no return leaves its deadline more than four frames behind the clock that the
call read. -/
theorem returns_paced (pacer : FramePacer) (clock : Int64) (calls : List PaceReads)
    (finish : Pacing) (positive : 1 ≤ pacer.frameTicks)
    (executed : Machine.exec step (start pacer clock) calls = some finish) :
    (∀ a b : Int, a ≤ b →
        ((Arrival.within a b finish.returns).length : Int) ≤
          (b - a) / pacer.frameTicks.toInt + 7) ∧
      ∀ arrival ∈ finish.returns,
        arrival.now - 4 * pacer.frameTicks.toInt ≤ arrival.deadline := by
  have atLeast : 0 < pacer.frameTicks.toInt := Int64.le_iff_toInt_le.mp positive
  have invariant : Invariant pacer.frameTicks.toInt finish :=
    Machine.exec_invariant (fun _ _ _ => step_invariant atLeast) (start_invariant pacer clock)
      executed
  constructor
  · intro a b window
    exact Arrival.length_within_le atLeast (show 0 ≤ resyncFrames by decide) invariant.paced
      invariant.spaced window
  · intro arrival member
    exact (invariant.paced arrival member).lag

/-- A call after a stall of six frames, one that waits for its deadline and one that comes a
frame and a fifth too late. -/
def stalledCalls : List PaceReads := [
  { now := 1000000, spins := [], returned := 1000004 },
  { now := 1000010, spins := [1333000, 1333400], returned := 1333500 },
  { now := 1700000, spins := [], returned := 1700001 }]

theorem returns_paced_stalled :
    ∃ finish,
      Machine.exec step (start (FramePacer.startedAt 0) 0) stalledCalls = some finish ∧
      finish.pacer.nextDeadline = 1499998 ∧ finish.returns.length = 3 ∧
      (∀ a b : Int, a ≤ b →
        ((Arrival.within a b finish.returns).length : Int) ≤
          (b - a) / (FramePacer.startedAt 0).frameTicks.toInt + 7) ∧
      ∀ arrival ∈ finish.returns,
        arrival.now - 4 * (FramePacer.startedAt 0).frameTicks.toInt ≤ arrival.deadline := by
  obtain ⟨finish, executed, deadline, count⟩ : ∃ finish,
      Machine.exec step (start (FramePacer.startedAt 0) 0) stalledCalls = some finish ∧
        finish.pacer.nextDeadline = 1499998 ∧ finish.returns.length = 3 :=
    ⟨⟨{ FramePacer.startedAt 0 with nextDeadline := 1499998 }, 1700001,
      [⟨1000000, 1166666, 1000004⟩, ⟨1000010, 1333332, 1333500⟩, ⟨1700000, 1499998, 1700001⟩]⟩,
      by decide +kernel⟩
  exact ⟨finish, executed, deadline, count,
    returns_paced (FramePacer.startedAt 0) 0 stalledCalls finish (by decide) executed⟩

end Pacing

end RejiStudio.Pipeline
