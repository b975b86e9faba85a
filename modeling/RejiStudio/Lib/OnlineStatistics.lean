import Mathlib.Algebra.BigOperators.Group.List.Basic
import Mathlib.Algebra.BigOperators.Ring.List
import Mathlib.Algebra.Order.BigOperators.Group.List
import Mathlib.Algebra.Order.Field.Basic
import Mathlib.Data.List.Induction
import Mathlib.Tactic.FieldSimp
import Mathlib.Tactic.Linarith
import Mathlib.Tactic.Ring

/-!
# Statistics in one pass

The update of a mean, of a sum of squared deviations and of an extreme by one more
value, and what a whole list of values leaves behind: the mean, the squared deviations
and the extreme of the list, whatever the order in which its values came.
-/

namespace RejiStudio.Lib

universe u

/-- The number of values seen, their mean and their squared deviations from it. -/
structure Moments (α : Type u) where
  count : Nat
  mean : α
  m2 : α

namespace Moments

section Field

variable {α : Type u} [Field α]

def empty : Moments α := ⟨0, 0, 0⟩

def observe (moments : Moments α) (x : α) : Moments α :=
  let mean := moments.mean + (x - moments.mean) / (moments.count + 1 : Nat)
  ⟨moments.count + 1, mean, moments.m2 + (x - moments.mean) * (x - mean)⟩

def deviations (xs : List α) (center : α) : α := (xs.map fun x => (x - center) ^ 2).sum

def ofList (xs : List α) : Moments α :=
  ⟨xs.length, xs.sum / xs.length, deviations xs (xs.sum / xs.length)⟩

theorem deviations_append (xs ys : List α) (center : α) :
    deviations (xs ++ ys) center = deviations xs center + deviations ys center := by
  rw [deviations, deviations, deviations, List.map_append, List.sum_append]

/-- Away from the mean the deviations grow by the square of the distance, once for each value. -/
theorem deviations_shift (xs : List α) {mean : α} (exact_ : mean * xs.length = xs.sum)
    (center : α) :
    deviations xs center = deviations xs mean + xs.length * (mean - center) ^ 2 := by
  have expand : ∀ (ys : List α) (point : α),
      deviations ys point = (ys.map (· ^ 2)).sum - 2 * point * ys.sum + ys.length * point ^ 2 := by
    intro ys point
    induction ys with
    | nil => simp [deviations]
    | cons y ys inductionHypothesis =>
        rw [deviations, List.map_cons, List.sum_cons, ← deviations, inductionHypothesis]
        simp only [List.map_cons, List.sum_cons, List.length_cons]
        push_cast
        ring
  rw [expand xs center, expand xs mean, ← exact_]
  ring

section CharZero

variable [CharZero α]

theorem mean_mul_length (xs : List α) : xs.sum / xs.length * xs.length = xs.sum := by
  rcases xs.eq_nil_or_concat with rfl | ⟨_, _, rfl⟩
  · simp
  · apply div_mul_cancel₀
    exact Nat.cast_ne_zero.mpr (by simp)

/-- One more value moves the moments of a list to those of the longer list. -/
theorem observe_ofList (xs : List α) (x : α) :
    (ofList xs).observe x = ofList (xs ++ [x]) := by
  have size : ((xs.length : α) + 1) ≠ 0 := by exact_mod_cast xs.length.succ_ne_zero
  have exact_ := mean_mul_length xs
  generalize mean_eq : xs.sum / (xs.length : α) = mean at exact_
  have moved : (xs ++ [x]).sum / ((xs ++ [x]).length : α) =
      mean + (x - mean) / (xs.length + 1 : Nat) := by
    rw [List.sum_append, List.sum_singleton, ← exact_, List.length_append, List.length_singleton]
    push_cast
    field_simp
    ring
  rw [ofList, ofList, observe, moved, mean_eq, mk.injEq]
  refine ⟨by simp, rfl, ?_⟩
  have last : ∀ center : α, deviations [x] center = (x - center) ^ 2 := fun center => by
    rw [deviations, List.map_singleton, List.sum_singleton]
  rw [deviations_append, deviations_shift xs exact_ (mean + _), last]
  dsimp only
  push_cast
  field_simp
  ring

theorem foldl_observe (xs : List α) : xs.foldl observe empty = ofList xs := by
  induction xs using List.reverseRecOn with
  | nil => simp [empty, ofList, deviations]
  | append_singleton xs x inductionHypothesis =>
      rw [List.foldl_append, inductionHypothesis]
      exact observe_ofList xs x

end CharZero

theorem ofList_perm {xs ys : List α} (same : xs.Perm ys) : ofList xs = ofList ys := by
  rw [ofList, ofList, deviations, deviations, same.length_eq, same.sum_eq, (same.map _).sum_eq]

end Field

section Order

variable {α : Type u} [Field α] [LinearOrder α] [IsStrictOrderedRing α]

theorem deviations_nonneg (xs : List α) (center : α) : 0 ≤ deviations xs center := by
  apply List.sum_nonneg
  intro square membership
  obtain ⟨x, _, rfl⟩ := List.mem_map.mp membership
  exact sq_nonneg _

end Order

end Moments

section Extreme

variable {α : Type u} (beats : α → α → Prop) [DecidableRel beats]

def keepBest (best x : α) : α := if beats x best then x else best

/-- No value beats the best, which is one of them or the one to begin with. -/
theorem foldl_keepBest (irrefl : ∀ x, ¬ beats x x)
    (transitive : ∀ x y z, beats x y → beats y z → beats x z) (first : α) (xs : List α) :
    (∀ x ∈ xs, ¬ beats x (xs.foldl (keepBest beats) first)) ∧
      (xs.foldl (keepBest beats) first ∈ xs ∨ xs.foldl (keepBest beats) first = first) := by
  induction xs using List.reverseRecOn with
  | nil => exact ⟨nofun, .inr rfl⟩
  | append_singleton xs x inductionHypothesis =>
      obtain ⟨unbeaten, found⟩ := inductionHypothesis
      rw [List.foldl_append, List.foldl_cons, List.foldl_nil, keepBest]
      split
      next better =>
        refine ⟨fun other membership => ?_, .inl (by simp)⟩
        rcases List.mem_append.mp membership with earlier | last
        · intro beaten
          exact unbeaten other earlier (transitive _ _ _ beaten better)
        · rw [List.mem_singleton.mp last]
          exact irrefl x
      next worse =>
        constructor
        · intro other membership
          rcases List.mem_append.mp membership with earlier | last
          · exact unbeaten other earlier
          · rw [List.mem_singleton.mp last]
            exact worse
        · exact found.imp_left (List.mem_append_left [x])

/-- Where nothing but itself is no better than the one to begin with, the best is one of
the values, as long as there are any. -/
theorem foldl_keepBest_mem (irrefl : ∀ x, ¬ beats x x)
    (transitive : ∀ x y z, beats x y → beats y z → beats x z) {first : α}
    (worst : ∀ x, ¬ beats x first → x = first) {xs : List α} (nonempty : xs ≠ []) :
    xs.foldl (keepBest beats) first ∈ xs := by
  obtain ⟨unbeaten, found | same⟩ := foldl_keepBest beats irrefl transitive first xs
  · exact found
  · obtain ⟨x, membership⟩ := List.exists_mem_of_ne_nil xs nonempty
    have meets := worst x (same ▸ unbeaten x membership)
    rw [same, ← meets]
    exact membership

end Extreme

end RejiStudio.Lib
