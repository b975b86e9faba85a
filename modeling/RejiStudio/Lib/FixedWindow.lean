import Mathlib.Data.List.Induction
import Mathlib.Tactic.Common

/-!
# Fixed windows

Events are counted in windows of one length.  The first window opens at zero, another one at
the first event beyond the end of the last.  A count in a fixed window never exceeds the
count of the recent events, and may fall short of it.
-/

namespace RejiStudio.Lib

def windowStart (span : Nat) (times : List Nat) : Nat :=
  times.foldl (fun start now => if start + span < now then now else start) 0

def inWindow (span : Nat) (times : List Nat) : Nat :=
  times.countP fun time => windowStart span times ≤ time

def recent (span now : Nat) (times : List Nat) : Nat :=
  times.countP fun time => now ≤ time + span

variable (span : Nat) {now : Nat} {times : List Nat}

theorem windowStart_concat :
    windowStart span (times ++ [now]) =
      if windowStart span times + span < now then now else windowStart span times := by
  unfold windowStart
  rw [List.foldl_append]
  rfl

theorem windowStart_eq_zero_or_mem :
    windowStart span times = 0 ∨ windowStart span times ∈ times := by
  induction times using List.reverseRecOn with
  | nil => exact .inl rfl
  | append_singleton earlier now inductionHypothesis =>
      rw [windowStart_concat]
      split
      · exact .inr (List.mem_append_right earlier List.mem_cons_self)
      · exact inductionHypothesis.imp_right fun member => List.mem_append_left [now] member

theorem windowStart_le (latest : ∀ time ∈ times, time ≤ now) : windowStart span times ≤ now := by
  rcases @windowStart_eq_zero_or_mem span times with zero | member
  · rw [zero]
    exact Nat.zero_le now
  · exact latest _ member

theorem le_windowStart_add {time : Nat} (member : time ∈ times) :
    time ≤ windowStart span times + span := by
  induction times using List.reverseRecOn with
  | nil => cases member
  | append_singleton earlier now inductionHypothesis =>
      rw [windowStart_concat]
      rcases List.mem_append.mp member with before | last
      · have bounded := inductionHypothesis before
        split <;> omega
      · cases List.mem_singleton.mp last
        split <;> omega

theorem inWindow_concat (latest : ∀ time ∈ times, time ≤ now) :
    inWindow span (times ++ [now]) =
      if windowStart span times + span < now then 1 else inWindow span times + 1 := by
  unfold inWindow
  rw [windowStart_concat, List.countP_append]
  split
  next opens =>
    have before : times.countP (fun time => now ≤ time) = 0 := by
      apply List.countP_eq_zero.mpr
      intro time member
      have bounded := le_windowStart_add span member
      simp only [decide_eq_true_eq]
      omega
    rw [before]
    simp
  next =>
    have started := windowStart_le span latest
    simp [started]

theorem inWindow_le_recent :
    inWindow span (times ++ [now]) ≤ recent span now (times ++ [now]) := by
  apply List.countP_mono_left
  intro time _ inside
  simp only [decide_eq_true_eq] at inside ⊢
  have bounded := le_windowStart_add span
    (List.mem_append_right times (List.mem_singleton.mpr rfl : now ∈ [now]))
  omega

end RejiStudio.Lib
