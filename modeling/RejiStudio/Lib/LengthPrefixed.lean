import Mathlib.Algebra.Order.Ring.Int
import Mathlib.Tactic.Common

/-!
# Length-prefixed byte strings

Big-endian words of 24 and 32 bits, and sequences of byte strings that each
follow their length as a 32-bit big-endian word.
-/

namespace RejiStudio.Lib

def bigEndian24 (value : UInt32) : List UInt8 :=
  [((value >>> 16) &&& 0xFF).toUInt8, ((value >>> 8) &&& 0xFF).toUInt8, (value &&& 0xFF).toUInt8]

def bigEndian32 (value : UInt32) : List UInt8 :=
  ((value >>> 24) &&& 0xFF).toUInt8 :: bigEndian24 (value &&& 0xFFFFFF)

def readBigEndian24 (first second third : UInt8) : Nat :=
  (first.toNat * 256 + second.toNat) * 256 + third.toNat

def readBigEndian32 (first second third fourth : UInt8) : Nat :=
  ((first.toNat * 256 + second.toNat) * 256 + third.toNat) * 256 + fourth.toNat

theorem toNat_byte (value : UInt32) (places : Nat) (small : places < 32) :
    ((value >>> UInt32.ofNat places) &&& 0xFF).toUInt8.toNat = value.toNat / 2 ^ places % 256 := by
  have masked : ∀ n : Nat, n &&& 255 = n % 256 := fun n => Nat.and_two_pow_sub_one_eq_mod n 8
  have place : places % 4294967296 % 32 = places := by omega
  simp [Nat.shiftRight_eq_div_pow, masked, place]

theorem bigEndian24_toNat (value : UInt32) :
    (bigEndian24 value).map UInt8.toNat =
      [value.toNat / 65536 % 256, value.toNat / 256 % 256, value.toNat % 256] := by
  have high := toNat_byte value 16 (by omega)
  have middle := toNat_byte value 8 (by omega)
  have low := toNat_byte value 0 (by omega)
  simp only [bigEndian24, List.map_cons, List.map_nil]
  refine congrArg₂ List.cons high (congrArg₂ List.cons middle (congrArg₂ List.cons ?_ rfl))
  simpa using low

theorem bigEndian24_eq {value : Nat} (small : value < 16777216) :
    ∃ first second third,
      bigEndian24 (UInt32.ofNat value) = [first, second, third] ∧
      readBigEndian24 first second third = value := by
  have fits : value < 4294967296 := by omega
  have exact_ : (UInt32.ofNat value).toNat = value := by simp [Nat.mod_eq_of_lt fits]
  have bytes := bigEndian24_toNat (UInt32.ofNat value)
  simp only [bigEndian24, List.map_cons, List.map_nil, List.cons.injEq, and_true, exact_] at bytes
  refine ⟨_, _, _, rfl, ?_⟩
  rw [readBigEndian24, bytes.1, bytes.2.1, bytes.2.2]
  omega

def writeUnit (unit : List UInt8) : List UInt8 :=
  bigEndian32 (UInt32.ofNat unit.length) ++ unit

/-- Read byte strings until the input ends; every round takes at least the four
bytes of a length. -/
def readUnitsFrom : Nat → List UInt8 → Option (List (List UInt8))
  | _, [] => some []
  | fuel + 1, first :: second :: third :: fourth :: rest =>
      let length := readBigEndian32 first second third fourth
      if length ≤ rest.length then
        (readUnitsFrom fuel (rest.drop length)).map (rest.take length :: ·)
      else
        none
  | _, _ => none

def readUnits (bytes : List UInt8) : Option (List (List UInt8)) :=
  readUnitsFrom bytes.length bytes

theorem bigEndian32_eq {length : Nat} (small : length < 4294967296) :
    ∃ first second third fourth,
      bigEndian32 (UInt32.ofNat length) = [first, second, third, fourth] ∧
      readBigEndian32 first second third fourth = length := by
  have exact_ : (UInt32.ofNat length).toNat = length := by
    simp [Nat.mod_eq_of_lt small]
  have masked : (UInt32.ofNat length &&& 0xFFFFFF).toNat = length % 16777216 := by
    have low : length &&& 16777215 = length % 16777216 := Nat.and_two_pow_sub_one_eq_mod length 24
    rw [UInt32.toNat_and, exact_]
    exact low
  have top := toNat_byte (UInt32.ofNat length) 24 (by omega)
  have rest := bigEndian24_toNat (UInt32.ofNat length &&& 0xFFFFFF)
  simp only [bigEndian24, List.map_cons, List.map_nil, List.cons.injEq, and_true, masked] at rest
  rw [exact_] at top
  refine ⟨_, _, _, _, rfl, ?_⟩
  simp only [readBigEndian32]
  rw [rest.1, rest.2.1, rest.2.2]
  have topByte : ((UInt32.ofNat length >>> 24) &&& 0xFF).toUInt8.toNat =
      length / 2 ^ 24 % 256 := top
  rw [topByte]
  omega

theorem readUnitsFrom_writeUnit {fuel : Nat} {unit bytes : List UInt8}
    (small : unit.length < 4294967296) :
    readUnitsFrom (fuel + 1) (writeUnit unit ++ bytes) =
      (readUnitsFrom fuel bytes).map (unit :: ·) := by
  obtain ⟨first, second, third, fourth, written, value⟩ := bigEndian32_eq small
  simp [writeUnit, written, readUnitsFrom, value]

theorem length_writeUnit (unit : List UInt8) : (writeUnit unit).length = unit.length + 4 := by
  simp [writeUnit, bigEndian32, bigEndian24]

theorem readUnitsFrom_flatMap {units : List (List UInt8)} {fuel : Nat}
    (small : ∀ unit ∈ units, unit.length < 4294967296) (enough : units.length ≤ fuel) :
    readUnitsFrom fuel (units.flatMap writeUnit) = some units := by
  induction units generalizing fuel with
  | nil => cases fuel <;> rfl
  | cons unit rest inductionHypothesis =>
      obtain ⟨fuel, rfl⟩ := Nat.exists_eq_add_of_le' (Nat.le_trans (Nat.succ_pos _) enough)
      have restEnough : rest.length ≤ fuel := by simpa using enough
      rw [List.flatMap_cons, readUnitsFrom_writeUnit (small unit List.mem_cons_self),
        inductionHypothesis (fun unit membership => small unit (List.mem_cons_of_mem _ membership))
          restEnough]
      rfl

theorem length_le_length_flatMap_writeUnit (units : List (List UInt8)) :
    units.length ≤ (units.flatMap writeUnit).length := by
  induction units with
  | nil => simp
  | cons unit rest inductionHypothesis =>
      simp only [List.flatMap_cons, List.length_append, length_writeUnit, List.length_cons]
      omega

theorem readUnits_flatMap_writeUnit {units : List (List UInt8)}
    (small : ∀ unit ∈ units, unit.length < 4294967296) :
    readUnits (units.flatMap writeUnit) = some units :=
  readUnitsFrom_flatMap small (length_le_length_flatMap_writeUnit units)

end RejiStudio.Lib
