import RejiStudio.Lib.BufferCopy

/-!
# Copying rows with two pitches

The mapped source and the mapped target have a pitch each.  A row is copied up to the
smaller pitch, to its own place in the target.
-/

namespace RejiStudio.Pipeline

open RejiStudio.Lib

/-- `static_cast<size_t>(y) * pitch`. -/
def rowOffset (y pitch : UInt32) : UInt64 := y.toUInt64 * pitch.toUInt64

/-- `std::min` of the pitches. -/
def copyBytes (srcPitch dstPitch : UInt32) : UInt64 :=
  if dstPitch.toUInt64 < srcPitch.toUInt64 then dstPitch.toUInt64 else srcPitch.toUInt64

/-- The moves of `copy_mapped_rows`, a `memcpy` for each row. -/
def copyMappedRows (dstPitch srcPitch height : UInt32) : List Move :=
  (List.range height.toNat).flatMap fun y =>
    Move.block (rowOffset (.ofNat y) dstPitch).toNat (rowOffset (.ofNat y) srcPitch).toNat
      (copyBytes srcPitch dstPitch).toNat

/-- The product of two 32-bit words fits in 64 bits. -/
theorem toNat_rowOffset {y : Nat} {height : UInt32} (below : y < height.toNat) (pitch : UInt32) :
    (rowOffset (.ofNat y) pitch).toNat = y * pitch.toNat := by
  have row : (UInt32.ofNat y).toNat = y := by
    rw [UInt32.toNat_ofNat']
    exact Nat.mod_eq_of_lt (Nat.lt_trans below height.toNat_lt)
  have small : y * pitch.toNat < 2 ^ 32 * 2 ^ 32 :=
    Nat.mul_lt_mul'' (Nat.lt_trans below height.toNat_lt) pitch.toNat_lt
  rw [rowOffset, UInt64.toNat_mul, UInt32.toNat_toUInt64, UInt32.toNat_toUInt64, row]
  exact Nat.mod_eq_of_lt small

theorem toNat_copyBytes (srcPitch dstPitch : UInt32) :
    (copyBytes srcPitch dstPitch).toNat = min srcPitch.toNat dstPitch.toNat := by
  rw [copyBytes]
  simp only [UInt64.lt_iff_toNat_lt, UInt32.toNat_toUInt64]
  split
  next narrower =>
    rw [UInt32.toNat_toUInt64]
    exact (Nat.min_eq_right (Nat.le_of_lt narrower)).symm
  next wider =>
    rw [UInt32.toNat_toUInt64]
    exact (Nat.min_eq_left (Nat.not_lt.mp wider)).symm

theorem mem_copyMappedRows {dstPitch srcPitch height : UInt32} {move : Move} :
    move ∈ copyMappedRows dstPitch srcPitch height ↔
      ∃ y < height.toNat, ∃ i < min srcPitch.toNat dstPitch.toNat,
        move.source = y * srcPitch.toNat + i ∧ move.target = y * dstPitch.toNat + i := by
  rw [copyMappedRows, List.mem_flatMap]
  constructor
  · rintro ⟨y, row, inBlock⟩
    have below := List.mem_range.mp row
    rw [Move.mem_block, toNat_rowOffset below, toNat_rowOffset below, toNat_copyBytes] at inBlock
    exact ⟨y, below, inBlock⟩
  · rintro ⟨y, below, inBlock⟩
    refine ⟨y, List.mem_range.mpr below, ?_⟩
    rw [Move.mem_block, toNat_rowOffset below, toNat_rowOffset below, toNat_copyBytes]
    exact inBlock

/-- Rows that are no longer than the pitch do not overlap. -/
theorem row_unique {pitch y z i j : Nat} (inside : i < pitch) (alsoInside : j < pitch)
    (same : y * pitch + i = z * pitch + j) : y = z ∧ i = j := by
  have quotient := congrArg (· / pitch) same
  have remainder := congrArg (· % pitch) same
  have positive : 0 < pitch := Nat.lt_of_le_of_lt (Nat.zero_le i) inside
  simp only [Nat.mul_comm _ pitch, Nat.mul_add_div positive, Nat.mul_add_mod,
    Nat.div_eq_of_lt inside, Nat.div_eq_of_lt alsoInside, Nat.mod_eq_of_lt inside,
    Nat.mod_eq_of_lt alsoInside] at quotient remainder
  exact ⟨by omega, remainder⟩

theorem copyMappedRows_inside {dstPitch srcPitch height : UInt32} {move : Move}
    (membership : move ∈ copyMappedRows dstPitch srcPitch height) :
    move.source < height.toNat * srcPitch.toNat ∧ move.target < height.toNat * dstPitch.toNat := by
  obtain ⟨y, below, i, inside, read, written⟩ := mem_copyMappedRows.mp membership
  have inSource := Nat.lt_of_lt_of_le inside (Nat.min_le_left _ _)
  have inTarget := Nat.lt_of_lt_of_le inside (Nat.min_le_right _ _)
  rw [read, written]
  constructor
  · calc y * srcPitch.toNat + i < (y + 1) * srcPitch.toNat := by rw [Nat.succ_mul]; omega
      _ ≤ height.toNat * srcPitch.toNat := Nat.mul_le_mul_right _ below
  · calc y * dstPitch.toNat + i < (y + 1) * dstPitch.toNat := by rw [Nat.succ_mul]; omega
      _ ≤ height.toNat * dstPitch.toNat := Nat.mul_le_mul_right _ below

/-- Every row is copied to its place; what is written and what is read are the first
`min` bytes of the rows below the height. -/
theorem copyMappedRows_exact {dstPitch srcPitch height : UInt32} {rowSize : Nat}
    (fitsSrc : rowSize ≤ srcPitch.toNat) (fitsDst : rowSize ≤ dstPitch.toNat)
    (src dst : Nat → UInt8) :
    let moves := copyMappedRows dstPitch srcPitch height
    let width := min srcPitch.toNat dstPitch.toNat
    (∀ y < height.toNat, ∀ i < rowSize,
      Move.perform src moves dst (y * dstPitch.toNat + i) = src (y * srcPitch.toNat + i)) ∧
    (∀ address, (∀ y < height.toNat, ∀ i < width, address ≠ y * dstPitch.toNat + i) →
      Move.perform src moves dst address = dst address) ∧
    (∀ move ∈ moves, ∃ y < height.toNat, ∃ i < width,
      move.target = y * dstPitch.toNat + i ∧ move.source = y * srcPitch.toNat + i) := by
  intro moves width
  refine ⟨?_, ?_, ?_⟩
  · intro y below i inside
    have inWidth : i < width := Nat.lt_of_lt_of_le inside (Nat.le_min.mpr ⟨fitsSrc, fitsDst⟩)
    apply Move.perform_of_agree
    · exact ⟨⟨y * srcPitch.toNat + i, y * dstPitch.toNat + i⟩,
        mem_copyMappedRows.mpr ⟨y, below, i, inWidth, rfl, rfl⟩, rfl⟩
    · intro move membership here
      obtain ⟨z, _, j, alsoInside, read, written⟩ := mem_copyMappedRows.mp membership
      -- The rows of the target do not overlap, so this move belongs to the same byte.
      obtain ⟨rfl, rfl⟩ := row_unique (Nat.lt_of_lt_of_le alsoInside (Nat.min_le_right _ _))
        (Nat.lt_of_lt_of_le inside fitsDst) (written.symm.trans here)
      rw [read]
  · intro address outside
    apply Move.perform_of_untouched
    intro move membership same
    obtain ⟨y, below, i, inside, _, written⟩ := mem_copyMappedRows.mp membership
    exact outside y below i inside (same.symm.trans written)
  · intro move membership
    obtain ⟨y, below, i, inside, read, written⟩ := mem_copyMappedRows.mp membership
    exact ⟨y, below, i, inside, written, read⟩

/-- Two rows of two bytes, from a pitch of three to one of four. -/
theorem copyMappedRows_exact_twoRows :
    Move.perform (fun address => UInt8.ofNat (10 * address)) (copyMappedRows 4 3 2)
        (fun _ => 1) 5 = 40 ∧
      Move.perform (fun address => UInt8.ofNat (10 * address)) (copyMappedRows 4 3 2)
        (fun _ => 1) 7 = 1 := by
  obtain ⟨copied, kept, _⟩ := @copyMappedRows_exact 4 3 2 2 (by decide) (by decide)
    (fun address => UInt8.ofNat (10 * address)) (fun _ => 1)
  refine ⟨copied 1 (by decide) 1 (by decide), kept 7 ?_⟩
  intro y below i inside
  have below : y < 2 := below
  have inside : i < 3 := inside
  have offset : y * (4 : UInt32).toNat + i = y * 4 + i := rfl
  omega

end RejiStudio.Pipeline
