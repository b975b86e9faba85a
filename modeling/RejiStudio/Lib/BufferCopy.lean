import Mathlib.Logic.Function.Basic
import Mathlib.Tactic.Common

/-!
# Copies from one buffer to another

A copy is a list of moves, each of one element.  The list says what is read and what is
written, and performing it says what the target holds afterwards.
-/

namespace RejiStudio.Lib

universe u

/-- One element is read at an index of the source and written at one of the target. -/
structure Move where
  source : Nat
  target : Nat
  deriving DecidableEq

namespace Move

variable {α : Type u}

/-- Consecutive elements, `count` of them. -/
def block (target source count : Nat) : List Move :=
  (List.range count).map fun i => ⟨source + i, target + i⟩

def perform (source : Nat → α) (moves : List Move) (target : Nat → α) : Nat → α :=
  moves.foldl (fun buffer move => Function.update buffer move.target (source move.source)) target

theorem mem_block {move : Move} {target source count : Nat} :
    move ∈ block target source count ↔
      ∃ i < count, move.source = source + i ∧ move.target = target + i := by
  rw [block, List.mem_map]
  constructor
  · rintro ⟨i, inside, rfl⟩
    exact ⟨i, List.mem_range.mp inside, rfl, rfl⟩
  · rintro ⟨i, inside, read, written⟩
    refine ⟨i, List.mem_range.mpr inside, ?_⟩
    rw [← read, ← written]

theorem perform_of_untouched (source : Nat → α) {moves : List Move} (target : Nat → α) {index : Nat}
    (untouched : ∀ move ∈ moves, move.target ≠ index) :
    perform source moves target index = target index := by
  induction moves generalizing target with
  | nil => rfl
  | cons move moves inductionHypothesis =>
      have rest : ∀ other ∈ moves, other.target ≠ index := fun other membership =>
        untouched other (List.mem_cons_of_mem _ membership)
      rw [perform, List.foldl_cons, ← perform, inductionHypothesis _ rest]
      exact Function.update_of_ne (untouched move List.mem_cons_self).symm _ _

theorem perform_of_agree {source : Nat → α} {moves : List Move} {target : Nat → α} {index : Nat}
    {element : α} (touched : ∃ move ∈ moves, move.target = index)
    (agree : ∀ move ∈ moves, move.target = index → source move.source = element) :
    perform source moves target index = element := by
  induction moves generalizing target with
  | nil =>
      obtain ⟨move, membership, _⟩ := touched
      cases membership
  | cons move moves inductionHypothesis =>
      have rest : ∀ other ∈ moves, other.target = index → source other.source = element :=
        fun other membership => agree other (List.mem_cons_of_mem _ membership)
      rw [perform, List.foldl_cons, ← perform]
      by_cases later : ∃ other ∈ moves, other.target = index
      · exact inductionHypothesis later rest
      · have untouched : ∀ other ∈ moves, other.target ≠ index := fun other membership same =>
          later ⟨other, membership, same⟩
        have here : move.target = index := by
          obtain ⟨other, membership, same⟩ := touched
          rcases List.mem_cons.mp membership with rfl | tail
          · exact same
          · exact absurd ⟨other, tail, same⟩ later
        rw [perform_of_untouched source _ untouched, here, Function.update_self]
        exact agree move List.mem_cons_self here

end Move

end RejiStudio.Lib
