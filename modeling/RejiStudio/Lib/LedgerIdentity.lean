import RejiStudio.Lib.Ledger

/-!
# Identity of the resources in a ledger

A number names one resource for ever.  A cell that nothing is repeated into or out of is the
only holder of its resource, and a number given away before a resource was made does not
name it.
-/

namespace RejiStudio.Lib

universe u v

namespace Ledger

variable {Cell : Type u} {Owner : Type v} {sole : Cell → Prop} {owner : Cell → Owner}
  {ledger next : Ledger Cell Owner}

/-- The resources in the cells were made, and those in sole cells are in no other cell. -/
structure Separate (sole : Cell → Prop) (ledger : Ledger Cell Owner) : Prop where
  below : ∀ cell resource, ledger.cells cell = some resource → resource.id < ledger.created
  apart : ∀ cell other resource otherResource, sole cell →
    ledger.cells cell = some resource → ledger.cells other = some otherResource →
    resource.id = otherResource.id → other = cell

theorem separate_empty : Separate sole (empty : Ledger Cell Owner) where
  below := nofun
  apart := nofun

theorem Separate.shrink (separate : Separate sole ledger)
    (kept : ∀ cell resource, next.cells cell = some resource → ledger.cells cell = some resource)
    (later : ledger.created ≤ next.created) : Separate sole next where
  below := by
    intro cell resource content
    exact Nat.lt_of_lt_of_le (separate.below cell resource (kept cell resource content)) later
  apart := by
    intro cell other resource otherResource isSole content otherContent same
    exact separate.apart cell other resource otherResource isSole (kept _ _ content)
      (kept _ _ otherContent) same

section Making

variable [DecidableEq Cell]

theorem create_content {cell other : Cell} {resource : Resource Owner}
    (content : (ledger.create owner cell).cells other = some resource) :
    other = cell ∧ resource.id = ledger.created ∨
      other ≠ cell ∧ ledger.cells other = some resource := by
  rw [create_cells] at content
  by_cases same : other = cell
  · rw [same, Function.update_self, Option.some.injEq] at content
    exact .inl ⟨same, by rw [← content]⟩
  · rw [Function.update_of_ne same] at content
    exact .inr ⟨same, content⟩

theorem Separate.create (separate : Separate sole ledger) (cell : Cell) :
    Separate sole (ledger.create owner cell) where
  below := by
    intro other resource content
    rcases create_content content with ⟨-, made⟩ | ⟨-, held⟩
    · rw [made]
      exact Nat.lt_succ_self _
    · exact Nat.lt_succ_of_lt (separate.below other resource held)
  apart := by
    intro first second resource otherResource isSole content otherContent same
    rcases create_content content with ⟨rfl, made⟩ | ⟨-, held⟩
    · rcases create_content otherContent with ⟨rfl, -⟩ | ⟨-, otherHeld⟩
      · rfl
      · have old := separate.below second otherResource otherHeld
        exact absurd (same.symm.trans made) (Nat.ne_of_lt old)
    · rcases create_content otherContent with ⟨-, made⟩ | ⟨-, otherHeld⟩
      · have old := separate.below first resource held
        exact absurd (same.trans made) (Nat.ne_of_lt old)
      · exact separate.apart first second resource otherResource isSole held otherHeld same

theorem Separate.createAll (separate : Separate sole ledger) (cells : List Cell) :
    Separate sole (ledger.createAll owner cells) := by
  induction cells generalizing ledger with
  | nil => exact separate
  | cons cell rest inductionHypothesis =>
      rw [createAll_cons]
      exact inductionHypothesis (separate.create cell)

/-- Repeating stays among the cells that are not sole. -/
theorem Separate.copyAll (separate : Separate sole ledger) {source : Cell} {cells : List Cell}
    (shared : ¬ sole source) (repeated : ∀ cell ∈ cells, ¬ sole cell) :
    Separate sole (ledger.copyAll (ledger.cells source) cells) where
  below := by
    intro cell resource content
    rw [(@copyAll_counters _ _ ledger _ (ledger.cells source) cells).1]
    rw [copyAll_cells] at content
    split at content
    · exact separate.below source resource content
    · exact separate.below cell resource content
  apart := by
    intro cell other resource otherResource isSole content otherContent same
    rw [copyAll_cells, if_neg fun inside => repeated cell inside isSole] at content
    rw [copyAll_cells] at otherContent
    split at otherContent
    · have own := separate.apart cell source resource otherResource isSole content otherContent same
      rw [own] at shared
      exact absurd isSole shared
    · exact separate.apart cell other resource otherResource isSole content otherContent same

theorem createAll_created_le (owner : Cell → Owner) (cells : List Cell) :
    ledger.created ≤ (ledger.createAll owner cells).created := by
  induction cells generalizing ledger with
  | nil => exact Nat.le_refl _
  | cons cell rest inductionHypothesis =>
      rw [createAll_cons]
      exact Nat.le_trans (Nat.le_succ _) (@inductionHypothesis (ledger.create owner cell))

theorem createAll_content {cells : List Cell} {cell : Cell} {resource : Resource Owner}
    (content : (ledger.createAll owner cells).cells cell = some resource) :
    ledger.cells cell = some resource ∨ ledger.created ≤ resource.id := by
  induction cells generalizing ledger with
  | nil => exact .inl content
  | cons head rest inductionHypothesis =>
      rw [createAll_cons] at content
      rcases inductionHypothesis content with held | later
      · rcases create_content held with ⟨-, made⟩ | ⟨-, old⟩
        · exact .inr (Nat.le_of_eq made.symm)
        · exact .inl old
      · exact .inr (Nat.le_of_succ_le later)

end Making

section Releasing

variable [DecidableEq Cell] [DecidableEq Owner]

theorem releaseAll_created (owner : Cell → Owner) (cells : List Cell) :
    (ledger.releaseAll owner cells).created = ledger.created := by
  induction cells generalizing ledger with
  | nil => rfl
  | cons cell rest inductionHypothesis =>
      rw [releaseAll_cons, inductionHypothesis]
      unfold release
      split <;> rfl

theorem releaseAll_content {cells : List Cell} {cell : Cell} {resource : Resource Owner}
    (content : (ledger.releaseAll owner cells).cells cell = some resource) :
    ledger.cells cell = some resource := by
  rw [releaseAll_cells] at content
  exact (Option.ite_none_left_eq_some.mp content).2

theorem Separate.releaseAll (separate : Separate sole ledger) (cells : List Cell) :
    Separate sole (ledger.releaseAll owner cells) :=
  separate.shrink (fun _ _ => releaseAll_content)
    (Nat.le_of_eq (releaseAll_created owner cells).symm)

end Releasing

end Ledger

end RejiStudio.Lib
