import Mathlib.Tactic.Common

/-!
# Absolute deadlines

A loop waits for deadlines that grow by at least one period from call to call.  A deadline
never lies more than a few periods behind the clock that the call read, and no call returns
more than one period before its deadline.  Then few calls return in any window of time.
-/

namespace RejiStudio.Lib

/-- A call: the clock it read, the deadline it left, and when it returned. -/
structure Arrival where
  now : Int
  deadline : Int
  time : Int
  deriving DecidableEq

namespace Arrival

/-- The deadline is at most `lag` periods late, the return at most one period early. -/
structure Paced (period lag : Int) (arrival : Arrival) : Prop where
  lag : arrival.now - lag * period ≤ arrival.deadline
  lead : arrival.deadline - period ≤ arrival.time

structure Precedes (period : Int) (earlier later : Arrival) : Prop where
  deadline : earlier.deadline + period ≤ later.deadline
  clock : earlier.time ≤ later.now

def within (a b : Int) (arrivals : List Arrival) : List Arrival :=
  arrivals.filter fun arrival => a ≤ arrival.time ∧ arrival.time ≤ b

variable {period : Int}

theorem add_length_mul_le {first last : Arrival} {rest : List Arrival}
    (spaced : (first :: rest).Pairwise (Precedes period))
    (ends : (first :: rest).getLast? = some last) :
    first.deadline + rest.length * period ≤ last.deadline := by
  induction rest generalizing first with
  | nil =>
      cases ends
      simp
  | cons second rest inductionHypothesis =>
      obtain ⟨after, others⟩ := List.pairwise_cons.mp spaced
      have step := (after second List.mem_cons_self).deadline
      rw [List.getLast?_cons_cons] at ends
      have later := inductionHypothesis others ends
      rw [List.length_cons, Int.natCast_succ, Int.add_mul, Int.one_mul]
      omega

/-- In a window of time there are at most as many returns as periods, up to the lag and
three more: the first return may have read the clock long before the window, the last may
be early by a period. -/
theorem length_within_le {lag : Int} {arrivals : List Arrival} (positive : 0 < period)
    (lagging : 0 ≤ lag) (paced : ∀ arrival ∈ arrivals, arrival.Paced period lag)
    (spaced : arrivals.Pairwise (Precedes period)) {a b : Int} (window : a ≤ b) :
    ((within a b arrivals).length : Int) ≤ (b - a) / period + (lag + 3) := by
  have inside : ∀ arrival ∈ within a b arrivals,
      arrival.Paced period lag ∧ a ≤ arrival.time ∧ arrival.time ≤ b := by
    intro arrival member
    obtain ⟨among, timed⟩ := List.mem_filter.mp member
    exact ⟨paced arrival among, of_decide_eq_true timed⟩
  have ordered : (within a b arrivals).Pairwise (Precedes period) := spaced.filter _
  have quotient : 0 ≤ (b - a) / period := Int.ediv_nonneg (by omega) (Int.le_of_lt positive)
  match kept : within a b arrivals with
  | [] => simpa using by omega
  | [first] => simpa using by omega
  | first :: second :: rest =>
      rw [kept] at inside ordered
      obtain ⟨after, others⟩ := List.pairwise_cons.mp ordered
      obtain ⟨last, ends⟩ : ∃ last, (second :: rest).getLast? = some last :=
        ⟨_, List.getLast?_eq_some_getLast (List.cons_ne_nil second rest)⟩
      have grown := add_length_mul_le others ends
      -- the second call read the clock inside the window
      have read := (after second List.mem_cons_self).clock
      obtain ⟨-, entered, -⟩ := inside first List.mem_cons_self
      have late := (inside second (List.mem_cons_of_mem _ List.mem_cons_self)).1.lag
      have lastMember : last ∈ first :: second :: rest :=
        List.mem_cons_of_mem _ (List.mem_of_getLast? ends)
      obtain ⟨lastPaced, -, left⟩ := inside last lastMember
      have early := lastPaced.lead
      have span : (rest.length - (lag + 1)) * period ≤ b - a := by
        rw [Int.sub_mul, Int.add_mul, Int.one_mul]
        omega
      have periods := (Int.le_ediv_iff_mul_le positive).mpr span
      simp only [List.length_cons, Int.natCast_succ]
      omega

end Arrival

end RejiStudio.Lib
