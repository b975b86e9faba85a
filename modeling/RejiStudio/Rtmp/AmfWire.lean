import RejiStudio.Rtmp.Amf
import RejiStudio.Rtmp.ChunkHeader

/-!
# Reading AMF0 back

What the bytes of a property are, and that the decoder reads them back wherever they stand in
memory.
-/

namespace RejiStudio.Rtmp

open RejiStudio.Lib

namespace Amf

/-! ## Memory -/

def Holds (memory : Memory) (pos : Int) (bytes : List UInt8) : Prop :=
  ∀ (index : Nat) (byte : UInt8), bytes[index]? = some byte → memory (pos + index) = some byte

theorem holds_ofBody (body : List UInt8) : Holds (Memory.ofBody body) 0 body := by
  intro index byte found
  rw [Memory.ofBody, Int.zero_add, if_pos (Int.natCast_nonneg index), Int.toNat_natCast]
  exact found

theorem Holds.cons {memory : Memory} {pos : Int} {first : UInt8} {rest : List UInt8}
    (held : Holds memory pos (first :: rest)) :
    memory pos = some first ∧ Holds memory (pos + 1) rest := by
  constructor
  · have here := held 0 first rfl
    rwa [Int.natCast_zero, Int.add_zero] at here
  · intro index byte found
    have later := held (index + 1) byte found
    rwa [Int.natCast_add, Int.natCast_one, Int.add_comm (index : Int) 1, ← Int.add_assoc] at later

theorem Holds.left {memory : Memory} {pos : Int} {first second : List UInt8}
    (held : Holds memory pos (first ++ second)) : Holds memory pos first := by
  intro index byte found
  apply held index byte
  rw [List.getElem?_append_left (List.getElem?_eq_some_iff.mp found).1]
  exact found

theorem Holds.right {memory : Memory} {pos : Int} {first second : List UInt8}
    (held : Holds memory pos (first ++ second)) :
    Holds memory (pos + first.length) second := by
  intro index byte found
  have later := held (first.length + index) byte (by
    rw [List.getElem?_append_right (Nat.le_add_right _ _), Nat.add_sub_cancel_left]
    exact found)
  rwa [Int.natCast_add, ← Int.add_assoc] at later

theorem slice_of_holds {memory : Memory} {pos : Int} {bytes : List UInt8}
    (held : Holds memory pos bytes) : slice memory pos bytes.length = bytes := by
  apply List.ext_getElem?
  intro index
  rw [slice, List.getElem?_map]
  by_cases inside : index < bytes.length
  · rw [List.getElem?_range inside, List.getElem?_eq_getElem inside, Option.map_some,
      held index _ (List.getElem?_eq_getElem inside)]
    rfl
  · have outside := Nat.le_of_not_lt inside
    rw [List.getElem?_eq_none outside, List.getElem?_eq_none (by rwa [List.length_range])]
    rfl

theorem ok_bind {First Second : Type} (value : First) (next : First → Except Fault Second) :
    (Except.ok value >>= next) = next value := rfl

theorem byteAt_of_holds {memory : Memory} {pos : Int} {byte : UInt8}
    (held : memory pos = some byte) : byteAt memory pos = .ok byte := by
  rw [byteAt, held]

theorem bytesAt_of_holds {memory : Memory} {pos : Int} {bytes : List UInt8}
    (held : Holds memory pos bytes) : bytesAt memory bytes.length pos = .ok bytes := by
  induction bytes generalizing pos with
  | nil => rfl
  | cons first rest inductionHypothesis =>
      obtain ⟨firstHeld, restHeld⟩ := held.cons
      rw [List.length_cons, bytesAt, byteAt_of_holds firstHeld, ok_bind,
        inductionHypothesis restHeld]
      rfl

theorem int16At_of_holds {memory : Memory} {pos : Int} {value : Nat} (small : value < 65536)
    (held : Holds memory pos (bigEndian16 value)) : int16At memory pos = .ok value := by
  have highByte : (UInt8.ofNat (value / 256)).toNat = value / 256 := by
    rw [UInt8.toNat_ofNat', Nat.mod_eq_of_lt]
    omega
  have lowByte : (UInt8.ofNat value).toNat = value % 256 := UInt8.toNat_ofNat'
  have read : bytesAt memory 2 pos = .ok (bigEndian16 value) := bytesAt_of_holds held
  rw [int16At, read]
  change Except.ok ((UInt8.ofNat (value / 256)).toNat * 256 + (UInt8.ofNat value).toNat) = _
  rw [highByte, lowByte]
  congr 1
  omega

theorem int32At_of_holds {memory : Memory} {pos : Int} {value : Nat} (small : value < 4294967296)
    (held : Holds memory pos (bigEndian32 (UInt32.ofNat value))) :
    int32At memory pos = .ok value := by
  have read : bytesAt memory 4 pos = .ok (bigEndian32 (UInt32.ofNat value)) :=
    bytesAt_of_holds held
  rw [int32At, read, ok_bind, decodeInt32_bigEndian32, UInt32.toNat_ofNat_of_lt' small]
  rfl

theorem length_bigEndian32 (value : UInt32) : (bigEndian32 value).length = 4 := rfl

theorem decodeNumber_of_holds {memory : Memory} {pos : Int} {bits : UInt64}
    (held : Holds memory pos (bigEndian64 bits)) : decodeNumber memory pos = .ok bits := by
  have range : bits.toNat < 4294967296 * 4294967296 := bits.toNat_lt
  have high := int32At_of_holds (Nat.div_lt_of_lt_mul range) held.left
  have low := int32At_of_holds (Nat.mod_lt bits.toNat (by decide)) held.right
  rw [length_bigEndian32] at low
  rw [decodeNumber, high]
  change (int32At memory (pos + 4) >>= fun low => pure _) = _
  rw [show int32At memory (pos + 4) = _ from low]
  change Except.ok (UInt64.ofNat _) = _
  rw [Nat.div_add_mod', UInt64.ofNat_toNat]

/-! ## What is written -/

def Named (named : Bool) (name : List UInt8) : Prop :=
  if named then name ≠ [] ∧ name.length < 65536 else name = []

def stringBytes (value : List UInt8) : List UInt8 :=
  if value.length < 65536 then 2 :: bigEndian16 value.length ++ value
  else 12 :: bigEndian32 (UInt32.ofNat value.length) ++ value

def propName : AmfProp → List UInt8
  | .number name _ => name
  | .boolean name _ => name
  | .string name _ => name
  | .object name _ => name
  | .null name => name
  | .ecmaArray name _ => name
  | .strictArray name _ => name
  | .date name _ _ => name
  | .xmlDoc name _ => name
  | .invalid => []

mutual

/-- These bytes are a value behind its name; the count of an ECMA array says nothing. -/
def WireValue : AmfProp → List UInt8 → Prop
  | .number _ bits, bytes => bytes = 0 :: bigEndian64 bits
  | .boolean _ value, bytes => bytes = [1, if value then 1 else 0]
  | .string _ value, bytes => bytes = stringBytes value
  | .null _, bytes => bytes = [5]
  | .object _ props, bytes => ∃ body, WireAll true props body ∧ bytes = [3] ++ body ++ objectEnd
  | .ecmaArray _ props, bytes => ∃ count body, WireAll true props body ∧
      bytes = 8 :: bigEndian32 count ++ body ++ objectEnd
  | .strictArray _ props, bytes => ∃ body, WireAll false props body ∧
      bytes = 10 :: bigEndian32 (UInt32.ofNat props.length) ++ body
  | .date _ _ _, _ => False
  | .xmlDoc _ _, _ => False
  | .invalid, _ => False

def WireAll (named : Bool) : List AmfProp → List UInt8 → Prop
  | [], bytes => bytes = []
  | prop :: rest, bytes => ∃ value later, Named named (propName prop) ∧ WireValue prop value ∧
      WireAll named rest later ∧ bytes = nameBytes (propName prop) ++ value ++ later

end

def Settles {Value : Type} (run : Nat → Except Fault Value) (answer : Value) : Prop :=
  ∃ bound, ∀ fuel, bound ≤ fuel → run fuel = .ok answer

theorem Settles.of_succ {Value : Type} {run : Nat → Except Fault Value} {answer : Value}
    (always : ∀ fuel, run (fuel + 1) = .ok answer) : Settles run answer := by
  refine ⟨1, ?_⟩
  intro fuel enough
  obtain ⟨fuel, rfl⟩ := Nat.exists_eq_add_of_le' enough
  exact always fuel

theorem Settles.call {Inner Value : Type} {inner : Nat → Except Fault Inner}
    {run : Nat → Except Fault Value} {found : Inner} {answer : Value}
    (settled : Settles inner found)
    (called : ∀ fuel, inner fuel = .ok found → run (fuel + 1) = .ok answer) :
    Settles run answer := by
  obtain ⟨bound, reached⟩ := settled
  refine ⟨bound + 1, ?_⟩
  intro fuel enough
  obtain ⟨fuel, rfl⟩ := Nat.exists_eq_add_of_le' (Nat.le_trans (Nat.succ_pos bound) enough)
  exact called fuel (reached fuel (Nat.le_of_succ_le_succ enough))

theorem Settles.call_both {Inner Other Value : Type} {inner : Nat → Except Fault Inner}
    {other : Nat → Except Fault Other} {run : Nat → Except Fault Value} {found : Inner}
    {rest : Other} {answer : Value} (settled : Settles inner found)
    (otherSettled : Settles other rest)
    (called : ∀ fuel, inner fuel = .ok found → other fuel = .ok rest →
      run (fuel + 1) = .ok answer) : Settles run answer := by
  obtain ⟨bound, reached⟩ := settled
  obtain ⟨otherBound, otherReached⟩ := otherSettled
  refine ⟨max bound otherBound + 1, ?_⟩
  intro fuel enough
  obtain ⟨fuel, rfl⟩ := Nat.exists_eq_add_of_le' (Nat.le_trans (Nat.succ_pos _) enough)
  have within := Nat.le_of_succ_le_succ enough
  exact called fuel (reached fuel (Nat.le_trans (Nat.le_max_left _ _) within))
    (otherReached fuel (Nat.le_trans (Nat.le_max_right _ _) within))

theorem wrap_of_small {value : Int} (lower : 0 ≤ value) (upper : value < 2147483648) :
    wrap value = value := by
  rw [wrap, Int.bmod_eq_of_le]
  · omega
  · omega

theorem settle_some {Value : Type} {nSize left : Int} {value : Value} (forward : left ≤ nSize)
    (short : nSize - left < 2147483648) :
    settle nSize (some (left, value)) = some (nSize - left, value) := by
  have exact_ : wrap (nSize - left) = nSize - left := wrap_of_small (by omega) short
  rw [settle, exact_, if_neg (by omega)]

section Reading

variable {memory : Memory} {amf3 : Int → Int → Except Fault (Option (Int × List AmfProp))}
variable {pos nSize : Int} {name : List UInt8} {fuel : Nat}

theorem decodeValue_number {bits : UInt64} (room : 9 ≤ nSize)
    (held : Holds memory pos (0 :: bigEndian64 bits)) :
    decodeValue memory amf3 (fuel + 1) name pos nSize =
      .ok (some (nSize - 9, .number name bits)) := by
  obtain ⟨typeHeld, valueHeld⟩ := held.cons
  rw [decodeValue, if_neg (by omega), byteAt_of_holds typeHeld]
  change (if nSize - 1 < 8 then _ else _) = _
  rw [if_neg (by omega), decodeNumber_of_holds valueHeld]
  change Except.ok (some (nSize - 1 - 8, AmfProp.number name bits)) = _
  rw [Int.sub_sub]
  rfl

theorem decodeValue_boolean {value : Bool} (room : 2 ≤ nSize)
    (held : Holds memory pos [1, if value then 1 else 0]) :
    decodeValue memory amf3 (fuel + 1) name pos nSize =
      .ok (some (nSize - 2, .boolean name value)) := by
  obtain ⟨typeHeld, valueHeld⟩ := held.cons
  rw [decodeValue, if_neg (by omega), byteAt_of_holds typeHeld]
  change (if nSize - 1 < 1 then _ else _) = _
  rw [if_neg (by omega), byteAt_of_holds valueHeld.cons.1]
  change Except.ok (some (nSize - 1 - 1, AmfProp.boolean name _)) = _
  rw [Int.sub_sub]
  cases value with
  | false => rfl
  | true => rfl

theorem decodeValue_null (room : 1 ≤ nSize) (held : Holds memory pos [5]) :
    decodeValue memory amf3 (fuel + 1) name pos nSize = .ok (some (nSize - 1, .null name)) := by
  rw [decodeValue, if_neg (by omega), byteAt_of_holds held.cons.1]
  rfl

theorem length_bigEndian16 (value : Nat) : (bigEndian16 value).length = 2 := rfl

theorem decodeValue_string {value : List UInt8} (short : nSize < 2147483648)
    (room : (stringBytes value).length ≤ nSize)
    (held : Holds memory pos (stringBytes value)) :
    decodeValue memory amf3 (fuel + 1) name pos nSize =
      .ok (some (nSize - (stringBytes value).length, .string name value)) := by
  unfold stringBytes at room held ⊢
  by_cases brief : value.length < 65536
  · rw [if_pos brief] at room held ⊢
    rw [List.cons_append, List.length_cons, List.length_append, length_bigEndian16] at room ⊢
    obtain ⟨typeHeld, restHeld⟩ := held.cons
    have valueHeld : Holds memory (pos + 3) value := by
      have later := restHeld.right
      rw [length_bigEndian16, Int.add_assoc] at later
      exact later
    rw [decodeValue, if_neg (by omega), byteAt_of_holds typeHeld]
    change (int16At memory (pos + 1) >>= fun size => _) = _
    rw [int16At_of_holds brief restHeld.left]
    change (if nSize - 1 < (value.length : Int) + 2 then _ else _) = _
    rw [if_neg (by omega)]
    change Except.ok (some (nSize - 1 - (2 + (value.length : Int)),
      AmfProp.string name (slice memory (pos + 3) value.length))) = _
    have leftEq : nSize - 1 - (2 + (value.length : Int)) =
        nSize - ((2 + value.length + 1 : Nat) : Int) := by omega
    rw [slice_of_holds valueHeld, leftEq]
  · rw [if_neg brief] at room held ⊢
    rw [List.cons_append, List.length_cons, List.length_append, length_bigEndian32] at room ⊢
    obtain ⟨typeHeld, restHeld⟩ := held.cons
    have valueHeld : Holds memory (pos + 5) value := by
      have later := restHeld.right
      rw [length_bigEndian32, Int.add_assoc] at later
      exact later
    have sizeEq : wrap (value.length : Int) = value.length :=
      wrap_of_small (Int.natCast_nonneg _) (by omega)
    have leftEq : wrap (nSize - 1 - (4 + (value.length : Int))) =
        nSize - 1 - (4 + (value.length : Int)) := wrap_of_small (by omega) (by omega)
    rw [decodeValue, if_neg (by omega), byteAt_of_holds typeHeld]
    change (int32At memory (pos + 1) >>= fun size => _) = _
    rw [int32At_of_holds (by omega) restHeld.left, ok_bind,
      if_neg (by rw [sizeEq]; omega)]
    change Except.ok (some (wrap (nSize - 1 - (4 + (value.length : Int))),
      AmfProp.string name (slice memory (pos + 5) (wrap (value.length : Int)).toNat))) = _
    have spanEq : nSize - 1 - (4 + (value.length : Int)) =
        nSize - ((4 + value.length + 1 : Nat) : Int) := by omega
    rw [leftEq, sizeEq, Int.toNat_natCast, slice_of_holds valueHeld, spanEq]

theorem decodeValue_object {props : List AmfProp} {left : Int} (short : nSize < 2147483648)
    (room : 1 ≤ nSize) (bounded : 0 ≤ left ∧ left ≤ nSize - 1)
    (typeHeld : memory pos = some 3)
    (read : decodeLoop memory amf3 fuel (pos + 1) (nSize - 1) true = .ok (some (left, props))) :
    decodeValue memory amf3 (fuel + 1) name pos nSize = .ok (some (left, .object name props)) := by
  rw [decodeValue, if_neg (by omega), byteAt_of_holds typeHeld]
  change (decodeLoop memory amf3 fuel (pos + 1) (nSize - 1) true >>= fun read => _) = _
  rw [read]
  change Except.ok ((settle (nSize - 1) (some (left, props))).map _) = _
  rw [settle_some bounded.2 (by omega)]
  change Except.ok (some (nSize - 1 - (nSize - 1 - left), AmfProp.object name props)) = _
  rw [Int.sub_sub_self]

theorem decodeValue_ecmaArray {props : List AmfProp} {left : Int} (short : nSize < 2147483648)
    (room : 5 ≤ nSize) (bounded : 0 ≤ left ∧ left ≤ nSize - 5)
    (typeHeld : memory pos = some 8)
    (read : decodeLoop memory amf3 fuel (pos + 5) (nSize - 5) true = .ok (some (left, props))) :
    decodeValue memory amf3 (fuel + 1) name pos nSize =
      .ok (some (left, .ecmaArray name props)) := by
  rw [decodeValue, if_neg (by omega), byteAt_of_holds typeHeld]
  change (decodeLoop memory amf3 fuel (pos + 5) (nSize - 5) true >>= fun read => _) = _
  rw [read]
  change Except.ok ((settle (nSize - 5) (some (left, props))).map _) = _
  rw [settle_some bounded.2 (by omega)]
  change Except.ok (some (nSize - 5 - (nSize - 5 - left), AmfProp.ecmaArray name props)) = _
  rw [Int.sub_sub_self]

theorem decodeValue_strictArray {props : List AmfProp} {left : Int} {count : Nat}
    (short : nSize < 2147483648) (room : 5 ≤ nSize) (bounded : 0 ≤ left ∧ left ≤ nSize - 5)
    (few : count < 2147483648) (typeHeld : memory pos = some 10)
    (countHeld : Holds memory (pos + 1) (bigEndian32 (UInt32.ofNat count)))
    (read : decodeElements memory amf3 fuel (pos + 5) (nSize - 5) count =
      .ok (some (left, props))) :
    decodeValue memory amf3 (fuel + 1) name pos nSize =
      .ok (some (left, .strictArray name props)) := by
  rw [decodeValue, if_neg (by omega), byteAt_of_holds typeHeld]
  change (int32At memory (pos + 1) >>= fun count => _) = _
  rw [int32At_of_holds (by omega) countHeld]
  change (decodeElements memory amf3 fuel (pos + 5) (nSize - 5) (wrap (count : Int)) >>=
    fun read => _) = _
  rw [wrap_of_small (Int.natCast_nonneg _) (by omega), read]
  change Except.ok ((settle (nSize - 5) (some (left, props))).map _) = _
  rw [settle_some bounded.2 (by omega)]
  change Except.ok (some (nSize - 5 - (nSize - 5 - left), AmfProp.strictArray name props)) = _
  rw [Int.sub_sub_self]

/-! ## Properties -/

theorem decodeProp_named {prop : AmfProp} {left : Int} (short : nSize < 2147483648)
    (room : (nameBytes name).length + 1 ≤ nSize)
    (bounded : 0 ≤ left ∧ left ≤ nSize - (nameBytes name).length) {named : Bool}
    (allowed : Named named name) (sized : named = true → 4 ≤ nSize)
    (held : Holds memory pos (nameBytes name))
    (read : decodeValue memory amf3 fuel name (pos + (nameBytes name).length)
      (nSize - (nameBytes name).length) = .ok (some (left, prop))) :
    decodeProp memory amf3 (fuel + 1) pos nSize named = .ok (some (nSize - left, prop)) := by
  have settled : settle nSize (some (left, prop)) = some (nSize - left, prop) :=
    settle_some (by omega) (by omega)
  cases named with
  | false =>
      obtain rfl : name = [] := allowed
      rw [decodeProp, if_neg (by simp; omega), if_neg Bool.false_ne_true]
      change (decodeValue memory amf3 fuel [] pos nSize >>= fun value => _) = _
      have unnamed : decodeValue memory amf3 fuel [] pos nSize = .ok (some (left, prop)) := by
        rw [nameBytes, if_pos rfl, List.length_nil, Int.natCast_zero, Int.add_zero,
          Int.sub_zero] at read
        exact read
      rw [unnamed]
      exact congrArg Except.ok settled
  | true =>
      obtain ⟨nonempty, brief⟩ : name ≠ [] ∧ name.length < 65536 := allowed
      have four := sized rfl
      rw [nameBytes, if_neg nonempty] at room held read bounded
      rw [List.length_append, length_bigEndian16] at room read bounded
      have nameHeld : Holds memory (pos + 2) name := by
        have later := held.right
        rw [length_bigEndian16] at later
        exact later
      rw [decodeProp, if_neg (by omega), if_pos rfl, int16At_of_holds brief held.left]
      change (if nSize - 2 < (name.length : Int) then _ else _) = _
      rw [if_neg (by omega)]
      rw [slice_of_holds nameHeld, Int.add_assoc]
      rw [Int.natCast_add] at read
      rw [show ((2 : Int) + name.length) = ((2 : Nat) : Int) + name.length from rfl, read]
      exact congrArg Except.ok settled

/-! ## Loops -/

theorem int24At_of_holds {first second third : UInt8}
    (held : Holds memory pos [first, second, third]) :
    int24At memory pos = .ok (readBigEndian24 first second third) := by
  have read : bytesAt memory 3 pos = .ok [first, second, third] := bytesAt_of_holds held
  rw [int24At, read]
  rfl

theorem decodeLoop_step {named : Bool} {mark : Nat} {nRes left : Int} {prop : AmfProp}
    {rest : List AmfProp} (positive : 0 < nSize) (marked : markAt memory pos nSize = .ok mark)
    (notEnd : mark ≠ 9) (within : nRes ≤ nSize)
    (read : decodeProp memory amf3 fuel pos nSize named = .ok (some (nRes, prop)))
    (later : decodeLoop memory amf3 fuel (pos + nRes) (nSize - nRes) named =
      .ok (some (left, rest))) :
    decodeLoop memory amf3 (fuel + 1) pos nSize named = .ok (some (left, prop :: rest)) := by
  rw [decodeLoop, if_neg (by omega), marked, ok_bind, if_neg notEnd, read, ok_bind]
  dsimp only
  rw [if_neg (by omega), later]
  rfl

theorem decodeLoop_end {named : Bool} (room : 3 ≤ nSize) (held : Holds memory pos objectEnd) :
    decodeLoop memory amf3 (fuel + 1) pos nSize named = .ok (some (nSize - 3, [])) := by
  have marked : markAt memory pos nSize = .ok 9 :=
    (if_pos room).trans (int24At_of_holds held)
  rw [decodeLoop, if_neg (by omega), marked, ok_bind]
  rfl

theorem decodeElements_step {nRes left count : Int} {prop : AmfProp} {rest : List AmfProp}
    (positive : 0 < nSize) (some_ : 0 < count)
    (read : decodeProp memory amf3 fuel pos nSize false = .ok (some (nRes, prop)))
    (later : decodeElements memory amf3 fuel (pos + nRes) (nSize - nRes) (count - 1) =
      .ok (some (left, rest))) :
    decodeElements memory amf3 (fuel + 1) pos nSize count = .ok (some (left, prop :: rest)) := by
  rw [decodeElements, if_neg (by omega), if_neg (by omega), read, ok_bind]
  dsimp only
  rw [later]
  rfl

/-- A member of an object does not begin like the end of one. -/
theorem mark_of_named {rest : List UInt8} (allowed : Named true name)
    (held : Holds memory pos (nameBytes name ++ rest)) (room : 3 ≤ nSize) :
    ∃ mark, markAt memory pos nSize = .ok mark ∧ mark ≠ 9 := by
  obtain ⟨nonempty, brief⟩ : name ≠ [] ∧ name.length < 65536 := allowed
  rw [nameBytes, if_neg nonempty] at held
  cases name with
  | nil => exact absurd rfl nonempty
  | cons first others =>
      have prefixHeld : Holds memory pos
          [UInt8.ofNat ((first :: others).length / 256), UInt8.ofNat (first :: others).length,
            first] := Holds.left (show Holds memory pos (_ ++ (others ++ rest)) from by
        rw [List.append_assoc] at held
        exact held)
      refine ⟨_, (if_pos room).trans (int24At_of_holds prefixHeld), ?_⟩
      have high : (UInt8.ofNat ((first :: others).length / 256)).toNat =
          (first :: others).length / 256 := by
        rw [UInt8.toNat_ofNat', Nat.mod_eq_of_lt]
        omega
      have low : (UInt8.ofNat (first :: others).length).toNat = (first :: others).length % 256 :=
        UInt8.toNat_ofNat'
      rw [readBigEndian24, high, low, List.length_cons]
      omega

theorem length_wireValue {prop : AmfProp} {bytes : List UInt8} (wired : WireValue prop bytes) :
    1 ≤ bytes.length := by
  cases prop with
  | number => exact (congrArg List.length wired).symm ▸ Nat.le_add_left 1 _
  | boolean => exact (congrArg List.length wired).symm ▸ Nat.le_add_left 1 _
  | string _ value =>
      rw [show bytes = stringBytes value from wired, stringBytes]
      split
      case isTrue => exact Nat.le_add_left 1 _
      case isFalse => exact Nat.le_add_left 1 _
  | null => exact (congrArg List.length wired).symm ▸ Nat.le_refl 1
  | object =>
      obtain ⟨body, _, rfl⟩ := wired
      exact Nat.le_add_left 1 _
  | ecmaArray =>
      obtain ⟨count, body, _, rfl⟩ := wired
      exact Nat.le_add_left 1 _
  | strictArray =>
      obtain ⟨body, _, rfl⟩ := wired
      exact Nat.le_add_left 1 _
  | date => exact absurd wired id
  | xmlDoc => exact absurd wired id
  | invalid => exact absurd wired id

theorem length_wireAll {named : Bool} {props : List AmfProp} {bytes : List UInt8}
    (wired : WireAll named props bytes) : props.length ≤ bytes.length := by
  induction props generalizing bytes with
  | nil => exact Nat.zero_le _
  | cons prop rest inductionHypothesis =>
      obtain ⟨value, later, _, valueWired, laterWired, rfl⟩ := wired
      have here := length_wireValue valueWired
      have there := inductionHypothesis laterWired
      simp only [List.length_cons, List.length_append]
      omega

theorem Settles.property {prop : AmfProp} {value : List UInt8} {named : Bool}
    (allowed : Named named (propName prop)) (some_ : 1 ≤ value.length)
    (short : nSize < 2147483648)
    (room : ((nameBytes (propName prop) ++ value).length : Int) ≤ nSize)
    (held : Holds memory pos (nameBytes (propName prop) ++ value))
    (settled : Settles (fun fuel => decodeValue memory amf3 fuel (propName prop)
        (pos + (nameBytes (propName prop)).length) (nSize - (nameBytes (propName prop)).length))
      (some (nSize - (nameBytes (propName prop)).length - value.length, prop))) :
    Settles (fun fuel => decodeProp memory amf3 fuel pos nSize named)
      (some (((nameBytes (propName prop) ++ value).length : Int), prop)) := by
  apply settled.call
  intro fuel read
  rw [List.length_append] at room ⊢
  have sized : named = true → 4 ≤ nSize := by
    rintro rfl
    obtain ⟨nonempty, _⟩ : propName prop ≠ [] ∧ (propName prop).length < 65536 := allowed
    have letters := List.length_pos_iff.mpr nonempty
    rw [nameBytes, if_neg nonempty, List.length_append, length_bigEndian16] at room
    omega
  rw [decodeProp_named short (by omega) ⟨by omega, by omega⟩ allowed sized held.left read]
  congr 4
  omega

mutual

theorem value_settles : ∀ (prop : AmfProp) {bytes : List UInt8} {pos nSize : Int},
    WireValue prop bytes → Holds memory pos bytes → nSize < 2147483648 → bytes.length ≤ nSize →
    Settles (fun fuel => decodeValue memory amf3 fuel (propName prop) pos nSize)
      (some (nSize - bytes.length, prop))
  | .number name bits, bytes, pos, nSize, wired, held, _, room => by
      obtain rfl : bytes = 0 :: bigEndian64 bits := wired
      exact Settles.of_succ fun fuel => decodeValue_number room held
  | .boolean name value, bytes, pos, nSize, wired, held, _, room => by
      obtain rfl : bytes = [1, if value then 1 else 0] := wired
      exact Settles.of_succ fun fuel => decodeValue_boolean room held
  | .string name value, bytes, pos, nSize, wired, held, short, room => by
      obtain rfl : bytes = stringBytes value := wired
      exact Settles.of_succ fun fuel => decodeValue_string short room held
  | .null name, bytes, pos, nSize, wired, held, _, room => by
      obtain rfl : bytes = [5] := wired
      exact Settles.of_succ fun fuel => decodeValue_null room held
  | .object name props, bytes, pos, nSize, wired, held, short, room => by
      obtain ⟨body, bodyWired, rfl⟩ := wired
      have typeHeld : memory pos = some 3 := held.cons.1
      have bodyHeld : Holds memory (pos + 1) (body ++ objectEnd) := held.cons.2
      simp only [List.length_append, List.length_cons, List.length_nil, objectEnd] at room ⊢
      have members := members_settle props bodyWired bodyHeld
        (show nSize - 1 < 2147483648 by omega) (by omega)
      apply members.call
      intro fuel read
      have answer : decodeValue memory amf3 (fuel + 1) name pos nSize =
          .ok (some (_, .object name props)) :=
        decodeValue_object short (by omega) ⟨by omega, by omega⟩ typeHeld read
      rw [propName, answer]
      congr 3
      omega
  | .ecmaArray name props, bytes, pos, nSize, wired, held, short, room => by
      obtain ⟨count, body, bodyWired, rfl⟩ := wired
      have typeHeld : memory pos = some 8 := held.cons.1
      have bodyHeld : Holds memory (pos + 5) (body ++ objectEnd) := by
        have later : Holds memory (pos + 1) (bigEndian32 count ++ (body ++ objectEnd)) := by
          rw [← List.append_assoc]
          exact held.cons.2
        have last := later.right
        rwa [length_bigEndian32, Int.add_assoc] at last
      simp only [List.length_append, List.length_cons, List.length_nil, objectEnd,
        length_bigEndian32] at room ⊢
      have members := members_settle props bodyWired bodyHeld
        (show nSize - 5 < 2147483648 by omega) (by omega)
      apply members.call
      intro fuel read
      have answer : decodeValue memory amf3 (fuel + 1) name pos nSize =
          .ok (some (_, .ecmaArray name props)) :=
        decodeValue_ecmaArray short (by omega) ⟨by omega, by omega⟩ typeHeld read
      rw [propName, answer]
      congr 3
      omega
  | .strictArray name props, bytes, pos, nSize, wired, held, short, room => by
      obtain ⟨body, bodyWired, rfl⟩ := wired
      have typeHeld : memory pos = some 10 := held.cons.1
      have countHeld := held.cons.2.left
      have bodyHeld : Holds memory (pos + 5) body := by
        have last := held.cons.2.right
        rwa [length_bigEndian32, Int.add_assoc] at last
      have few := length_wireAll bodyWired
      simp only [List.length_append, List.length_cons, length_bigEndian32] at room ⊢
      have elements := elements_settle props bodyWired bodyHeld
        (show nSize - 5 < 2147483648 by omega) (by omega)
      apply elements.call
      intro fuel read
      have answer : decodeValue memory amf3 (fuel + 1) name pos nSize =
          .ok (some (_, .strictArray name props)) :=
        decodeValue_strictArray short (by omega) ⟨by omega, by omega⟩ (by omega) typeHeld
          countHeld read
      rw [propName, answer]
      congr 3
      omega
  | .date _ _ _, _, _, _, wired, _, _, _ => absurd wired id
  | .xmlDoc _ _, _, _, _, wired, _, _, _ => absurd wired id
  | .invalid, _, _, _, wired, _, _, _ => absurd wired id

theorem members_settle : ∀ (props : List AmfProp) {bytes : List UInt8} {pos nSize : Int},
    WireAll true props bytes → Holds memory pos (bytes ++ objectEnd) → nSize < 2147483648 →
    bytes.length + 3 ≤ nSize →
    Settles (fun fuel => decodeLoop memory amf3 fuel pos nSize true)
      (some (nSize - bytes.length - 3, props))
  | [], bytes, pos, nSize, wired, held, short, room => by
      obtain rfl : bytes = [] := wired
      rw [List.length_nil, Int.natCast_zero, Int.sub_zero]
      exact Settles.of_succ fun fuel => decodeLoop_end (by simpa using room) held
  | prop :: rest, bytes, pos, nSize, wired, held, short, room => by
      obtain ⟨value, later, allowed, valueWired, laterWired, rfl⟩ := wired
      have some_ := length_wireValue valueWired
      have headLength : (nameBytes (propName prop) ++ value).length =
          (nameBytes (propName prop)).length + value.length := List.length_append
      rw [List.append_assoc] at held
      rw [List.length_append] at room ⊢
      have three : 3 ≤ nSize := by omega
      have nameHeld : Holds memory pos (nameBytes (propName prop) ++ value) := held.left
      obtain ⟨mark, marked, notEnd⟩ := mark_of_named allowed nameHeld three
      have first := (value_settles prop valueWired held.left.right
        (show nSize - (nameBytes (propName prop)).length < 2147483648 by omega)
        (by omega)).property allowed some_ short (by omega) nameHeld
      have others := members_settle rest laterWired held.right
        (show nSize - (nameBytes (propName prop) ++ value).length < 2147483648 by omega)
        (by omega)
      apply first.call_both others
      intro fuel read laterRead
      rw [decodeLoop_step (by omega) marked notEnd (by omega) read laterRead]
      congr 3
      omega

theorem elements_settle : ∀ (props : List AmfProp) {bytes : List UInt8} {pos nSize : Int},
    WireAll false props bytes → Holds memory pos bytes → nSize < 2147483648 →
    bytes.length ≤ nSize →
    Settles (fun fuel => decodeElements memory amf3 fuel pos nSize props.length)
      (some (nSize - bytes.length, props))
  | [], bytes, pos, nSize, wired, held, short, room => by
      obtain rfl : bytes = [] := wired
      apply Settles.of_succ
      intro fuel
      simp only [List.length_nil, Int.natCast_zero, Int.sub_zero]
      rw [decodeElements, if_pos (Int.le_refl 0)]
  | prop :: rest, bytes, pos, nSize, wired, held, short, room => by
      obtain ⟨value, later, allowed, valueWired, laterWired, rfl⟩ := wired
      have some_ := length_wireValue valueWired
      have headLength : (nameBytes (propName prop) ++ value).length =
          (nameBytes (propName prop)).length + value.length := List.length_append
      rw [List.length_append] at room ⊢
      have first := (value_settles prop valueWired held.left.right
        (show nSize - (nameBytes (propName prop)).length < 2147483648 by omega)
        (by omega)).property allowed some_ short (by omega) held.left
      have others := elements_settle rest laterWired held.right
        (show nSize - (nameBytes (propName prop) ++ value).length < 2147483648 by omega)
        (by omega)
      apply first.call_both others
      intro fuel read laterRead
      have positive : (0 : Int) < ((prop :: rest).length : Int) := by
        rw [List.length_cons]
        omega
      have fewer : ((prop :: rest).length : Int) - 1 = rest.length := by
        rw [List.length_cons]
        omega
      rw [decodeElements_step (by omega) positive read (by rw [fewer]; exact laterRead)]
      congr 3
      omega

end

end Reading

end Amf

end RejiStudio.Rtmp
