import Mathlib.Data.List.NodupEquivFin
import Mathlib.Data.Nat.ModEq
import Mathlib.Tactic.Common

/-!
# Numbers handed out in a cycle

A counter hands out the numbers from one up to its period and then starts over.
-/

namespace RejiStudio.Lib

def cyclicIds (period start count : Nat) : List Nat :=
  (List.range count).map fun k => (start + k) % period + 1

theorem length_cyclicIds (period start count : Nat) :
    (cyclicIds period start count).length = count := by
  simp [cyclicIds]

theorem cyclicIds_congr {period start other : Nat} (same : start % period = other % period)
    (count : Nat) : cyclicIds period start count = cyclicIds period other count := by
  unfold cyclicIds
  apply List.map_congr_left
  intro k _
  rw [Nat.add_mod, same, ← Nat.add_mod]

theorem cyclicIds_append (period start first second : Nat) :
    cyclicIds period start (first + second) =
      cyclicIds period start first ++ cyclicIds period (start + first) second := by
  unfold cyclicIds
  rw [List.range_add, List.map_append, List.map_map]
  congr 1
  apply List.map_congr_left
  intro k _
  rw [Function.comp_apply, Nat.add_assoc]

theorem cyclicIds_cons (period start count : Nat) :
    cyclicIds period start (count + 1) =
      (start % period + 1) :: cyclicIds period (start + 1) count := by
  rw [Nat.add_comm count 1, cyclicIds_append]
  rfl

theorem pos_of_mem_cyclicIds {period start count id : Nat}
    (member : id ∈ cyclicIds period start count) : 0 < id := by
  obtain ⟨k, -, rfl⟩ := List.mem_map.mp member
  exact Nat.succ_pos _

theorem nodup_cyclicIds_iff {period start count : Nat} (positive : 0 < period) :
    (cyclicIds period start count).Nodup ↔ count ≤ period := by
  constructor
  · intro distinct
    have bounded : cyclicIds period start count ⊆ (List.range period).map (· + 1) := by
      intro id member
      obtain ⟨k, -, rfl⟩ := List.mem_map.mp member
      exact List.mem_map_of_mem (List.mem_range.mpr (Nat.mod_lt _ positive))
    have fits := (List.subperm_of_subset distinct bounded).length_le
    rwa [length_cyclicIds, List.length_map, List.length_range] at fits
  · intro short
    apply List.Nodup.map_on
    · intro first firstMember second secondMember same
      have firstBound := List.mem_range.mp firstMember
      have secondBound := List.mem_range.mp secondMember
      have residues : Nat.ModEq period (start + first) (start + second) := Nat.succ.inj same
      have cancelled : Nat.ModEq period first second := Nat.ModEq.add_left_cancel' start residues
      rwa [Nat.ModEq, Nat.mod_eq_of_lt (by omega), Nat.mod_eq_of_lt (by omega)] at cancelled
    · exact List.nodup_range

end RejiStudio.Lib
