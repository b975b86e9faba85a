import Mathlib.Algebra.BigOperators.Group.List.Basic
import Mathlib.Data.List.Rotate
import Mathlib.Tactic.Abel

/-!
# The last entries of a history

A ring with as many slots as its capacity keeps each entry of a history at its index modulo
the capacity, so it holds the last entries, in some order.  When the entries are the
differences of a running total, their sum is the difference of two totals.
-/

namespace RejiStudio.Lib

universe u

section Ring

variable {Entry : Type u} {slots entries : List Entry} {capacity : Nat}

/-- The slots keep the last entries, each at its index modulo the capacity. -/
structure KeepsLast (capacity : Nat) (slots entries : List Entry) : Prop where
  length : slots.length = capacity
  kept : ∀ index < entries.length, entries.length ≤ index + capacity →
    slots[index % capacity]? = entries[index]?

namespace KeepsLast

theorem nil (length : slots.length = capacity) : KeepsLast capacity slots [] :=
  ⟨length, nofun⟩

theorem push (positive : 0 < capacity) (keeps : KeepsLast capacity slots entries)
    (entry : Entry) :
    KeepsLast capacity (slots.set (entries.length % capacity) entry) (entries ++ [entry]) := by
  constructor
  · rw [List.length_set, keeps.length]
  · intro index below recent
    rw [List.length_append, List.length_singleton] at below recent
    by_cases newest : index = entries.length
    · rw [newest, List.getElem?_concat_length]
      apply List.getElem?_set_self
      rw [keeps.length]
      exact Nat.mod_lt _ positive
    · -- another index of the last entries has another slot
      have apart : entries.length % capacity ≠ index % capacity := by
        intro same
        have gap : (entries.length - index) % capacity = 0 :=
          Nat.sub_mod_eq_zero_of_mod_eq same
        rw [Nat.mod_eq_of_lt (by omega)] at gap
        omega
      rw [List.getElem?_set_ne apart, List.getElem?_append_left (by omega)]
      exact keeps.kept index (by omega) (by omega)

/-- Before the ring is full its first slots are the history. -/
theorem take_eq (keeps : KeepsLast capacity slots entries)
    (short : entries.length ≤ capacity) : slots.take entries.length = entries := by
  apply List.ext_getElem?
  intro index
  rw [List.getElem?_take]
  split
  next below =>
    have same := keeps.kept index below (by omega)
    rwa [Nat.mod_eq_of_lt (by omega)] at same
  next beyond => exact (List.getElem?_eq_none (Nat.not_lt.mp beyond)).symm

/-- A full ring is the end of the history, turned. -/
theorem rotate_eq (keeps : KeepsLast capacity slots entries)
    (long : capacity ≤ entries.length) :
    slots.rotate entries.length = entries.drop (entries.length - capacity) := by
  apply List.ext_getElem?
  intro index
  rw [List.getElem?_drop]
  by_cases below : index < capacity
  · have same := keeps.kept (entries.length - capacity + index) (by omega) (by omega)
    rw [List.getElem?_rotate (by rwa [keeps.length]), keeps.length, ← same]
    have turned : entries.length - capacity + index + capacity = index + entries.length := by
      omega
    rw [← Nat.add_mod_right (entries.length - capacity + index), turned]
  · have rotated : (slots.rotate entries.length).length = capacity := by
      rw [List.length_rotate, keeps.length]
    rw [List.getElem?_eq_none (by omega), List.getElem?_eq_none (by omega)]

theorem perm (keeps : KeepsLast capacity slots entries) :
    (slots.take (min entries.length capacity)).Perm
      (entries.drop (entries.length - capacity)) := by
  obtain short | long := Nat.le_total entries.length capacity
  · rw [Nat.min_eq_left short, keeps.take_eq short, Nat.sub_eq_zero_of_le short]
    exact .rfl
  · rw [Nat.min_eq_right long, ← keeps.length, List.take_length, keeps.length,
      ← keeps.rotate_eq long]
    exact (List.rotate_perm slots entries.length).symm

end KeepsLast

end Ring

section Differences

def gains {Total : Type u} [Sub Total] : List Total → List Total
  | [] | [_] => []
  | first :: second :: rest => (second - first) :: gains (second :: rest)

variable {Total : Type u} [Sub Total]

theorem length_gains_add_one {totals : List Total} (marked : totals ≠ []) :
    (gains totals).length + 1 = totals.length := by
  induction totals with
  | nil => contradiction
  | cons first rest inductionHypothesis =>
      cases rest with
      | nil => rfl
      | cons second rest =>
          rw [gains, List.length_cons, inductionHypothesis (List.cons_ne_nil second rest)]
          rfl

/-- Another mark adds what was gained since the last one. -/
theorem gains_concat {totals : List Total} {last : Total} (ended : totals.getLast? = some last)
    (next : Total) : gains (totals ++ [next]) = gains totals ++ [next - last] := by
  induction totals with
  | nil => cases ended
  | cons first rest inductionHypothesis =>
      cases rest with
      | nil =>
          cases ended
          rfl
      | cons second rest =>
          rw [List.getLast?_cons_cons] at ended
          have later := inductionHypothesis ended
          simp only [List.cons_append, gains] at later ⊢
          rw [later]

/-- Growing totals may be measured by a map that keeps their differences. -/
theorem gains_map {Other : Type u} [Sub Other] [LE Total] {measure : Total → Other}
    (keeps : ∀ first second, first ≤ second →
      measure (second - first) = measure second - measure first)
    {totals : List Total} (growing : totals.Pairwise (· ≤ ·)) :
    gains (totals.map measure) = (gains totals).map measure := by
  induction totals with
  | nil => rfl
  | cons first rest inductionHypothesis =>
      obtain ⟨below, growing⟩ := List.pairwise_cons.mp growing
      cases rest with
      | nil => rfl
      | cons second rest =>
          have later := inductionHypothesis growing
          rw [List.map_cons] at later
          rw [List.map_cons, List.map_cons, gains, later, gains, List.map_cons,
            keeps first second (below second List.mem_cons_self)]

theorem le_of_mem_gains {totals : List Nat} {bound gain : Nat}
    (bounded : ∀ total ∈ totals, total ≤ bound) (member : gain ∈ gains totals) :
    gain ≤ bound := by
  induction totals with
  | nil => cases member
  | cons first rest inductionHypothesis =>
      cases rest with
      | nil => cases member
      | cons second rest =>
          obtain ⟨-, bounded⟩ := List.forall_mem_cons.mp bounded
          obtain rfl | later := List.mem_cons.mp member
          · have second := bounded second List.mem_cons_self
            omega
          · exact inductionHypothesis bounded later

/-- The gains since a mark add up to the difference of the totals. -/
theorem sum_drop_gains {Total : Type u} [AddCommGroup Total] {totals : List Total}
    {opening last : Total} {mark : Nat} (opened : totals[mark]? = some opening)
    (ended : totals.getLast? = some last) :
    ((gains totals).drop mark).sum = last - opening := by
  induction totals generalizing mark opening with
  | nil => cases ended
  | cons first rest inductionHypothesis =>
      cases rest with
      | nil =>
          obtain rfl : mark = 0 := by
            have below := (List.getElem?_eq_some_iff.mp opened).1
            simpa using below
          cases opened
          cases ended
          rw [gains, List.drop_nil, List.sum_nil]
          exact (sub_self first).symm
      | cons second rest =>
          rw [List.getLast?_cons_cons] at ended
          cases mark with
          | zero =>
              cases opened
              have later := @inductionHypothesis second 0 rfl ended
              rw [List.drop_zero] at later
              rw [gains, List.drop_zero, List.sum_cons, later]
              abel
          | succ mark => exact inductionHypothesis opened ended

end Differences

end RejiStudio.Lib
