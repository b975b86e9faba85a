import Mathlib.Data.List.Sort

/-!
# Stable sorting by a key

A stable sort permutes its input into the order of the keys and leaves elements of one
key in the order they came in.
-/

namespace RejiStudio.Lib

universe u

variable {Element : Type u}

def sortByKey (key : Element → Nat) (elements : List Element) : List Element :=
  elements.mergeSort fun first second => key first ≤ key second

theorem keyLe_trans (key : Element → Nat) (first second third : Element)
    (lower : decide (key first ≤ key second) = true)
    (upper : decide (key second ≤ key third) = true) :
    decide (key first ≤ key third) = true :=
  decide_eq_true (Nat.le_trans (of_decide_eq_true lower) (of_decide_eq_true upper))

theorem keyLe_total (key : Element → Nat) (first second : Element) :
    (decide (key first ≤ key second) || decide (key second ≤ key first)) = true := by
  rcases Nat.le_total (key first) (key second) with ordered | ordered <;> simp [ordered]

theorem sortByKey_perm (key : Element → Nat) (elements : List Element) :
    (sortByKey key elements).Perm elements :=
  List.mergeSort_perm _ _

theorem pairwise_sortByKey (key : Element → Nat) (elements : List Element) :
    (sortByKey key elements).Pairwise fun first second => key first ≤ key second := by
  have sorted := List.pairwise_mergeSort (keyLe_trans key) (keyLe_total key) elements
  exact sorted.imp of_decide_eq_true

theorem sortByKey_of_pairwise {key : Element → Nat} {elements : List Element}
    (sorted : elements.Pairwise fun first second => key first ≤ key second) :
    sortByKey key elements = elements := by
  apply List.mergeSort_of_pairwise
  exact sorted.imp decide_eq_true

theorem filter_sortByKey {key : Element → Nat} {select : Element → Bool} {common : Nat}
    (oneKey : ∀ element, select element = true → key element = common)
    (elements : List Element) :
    (sortByKey key elements).filter select = elements.filter select := by
  have level : (elements.filter select).Pairwise
      fun first second => decide (key first ≤ key second) = true := by
    apply List.pairwise_of_forall_mem_list
    intro first firstMember second secondMember
    have firstKey := oneKey first (List.of_mem_filter firstMember)
    have secondKey := oneKey second (List.of_mem_filter secondMember)
    simp [firstKey, secondKey]
  have inside : (elements.filter select).Sublist (sortByKey key elements) :=
    List.sublist_mergeSort (keyLe_trans key) (keyLe_total key) level List.filter_sublist
  have kept : (elements.filter select).Sublist ((sortByKey key elements).filter select) := by
    have filtered := inside.filter select
    rwa [List.filter_filter, List.filter_congr fun _ _ => Bool.and_self _] at filtered
  have sameLength := ((sortByKey_perm key elements).filter select).length_eq
  exact (kept.eq_of_length sameLength.symm).symm

end RejiStudio.Lib
