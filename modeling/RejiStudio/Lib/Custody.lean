import Mathlib.Data.List.Nodup
import Mathlib.Data.List.Perm.Basic

/-!
# Numbered items in custody

Items are numbered as they are issued, and a list says which numbers are still known.  A
step that issues some numbers and passes the others on keeps the whole series exactly if
it loses none.
-/

namespace RejiStudio.Lib

namespace Custody

structure Accounted (issued : Nat) (known : List Nat) : Prop where
  distinct : known.Nodup
  bounded : ∀ number ∈ known, number < issued

def Complete (issued : Nat) (known : List Nat) : Prop := ∀ number < issued, number ∈ known

/-- A step issues `count` numbers and loses some of the known and the new ones. -/
def Passes (issued count : Nat) (known after lost : List Nat) : Prop :=
  (known ++ List.range' issued count).Perm (after ++ lost)

variable {issued count : Nat} {known after lost : List Nat}

theorem Accounted.issue (accounted : Accounted issued known) (count : Nat) :
    Accounted (issued + count) (known ++ List.range' issued count) where
  distinct := by
    apply List.Nodup.append accounted.distinct List.nodup_range'
    intro number old new
    have before := accounted.bounded number old
    have behind := (List.mem_range'_1.mp new).1
    omega
  bounded := by
    intro number member
    rcases List.mem_append.mp member with old | new
    · exact Nat.lt_add_right count (accounted.bounded number old)
    · exact (List.mem_range'_1.mp new).2

theorem Complete.issue (complete : Complete issued known) (count : Nat) :
    Complete (issued + count) (known ++ List.range' issued count) := by
  intro number inside
  rcases Nat.lt_or_ge number issued with old | new
  · exact List.mem_append_left _ (complete number old)
  · exact List.mem_append_right _ (List.mem_range'_1.mpr ⟨new, inside⟩)

theorem Accounted.pass (accounted : Accounted issued known)
    (passes : Passes issued count known after lost) : Accounted (issued + count) after where
  distinct := (passes.nodup_iff.mp (accounted.issue count).distinct).of_append_left
  bounded := by
    intro number member
    apply (accounted.issue count).bounded
    exact passes.mem_iff.mpr (List.mem_append_left lost member)

theorem Accounted.complete_iff (accounted : Accounted issued known)
    (complete : Complete issued known) (passes : Passes issued count known after lost) :
    Complete (issued + count) after ↔ lost = [] := by
  constructor
  · intro whole
    rw [List.eq_nil_iff_forall_not_mem]
    intro number gone
    have separate := passes.nodup_iff.mp (accounted.issue count).distinct
    have member : number ∈ after :=
      whole number ((accounted.issue count).bounded number
        (passes.mem_iff.mpr (List.mem_append_right after gone)))
    exact List.disjoint_of_nodup_append separate member gone
  · rintro rfl number inside
    have member := passes.mem_iff.mp (complete.issue count number inside)
    rwa [List.append_nil] at member

end Custody

end RejiStudio.Lib
