import RejiStudio.Rtmp.AmfWire

/-!
# What AMF0 keeps

The encoder drops the members of an object that do not fit, and ends it all the same.  What it
wrote is read back as a message whose objects lack members at their ends; with enough room it
is the message itself.
-/

namespace RejiStudio.Rtmp

open RejiStudio.Lib

namespace Amf

def NotNull : AmfProp → Prop
  | .null _ => False
  | _ => True

mutual

/-- The encoder has a form for this value, which the decoder can tell apart. -/
def Encodable : AmfProp → Prop
  | .number _ _ => True
  | .boolean _ _ => True
  | .string _ _ => True
  | .null _ => True
  | .object _ props => EncodableAll true props
  | .ecmaArray _ props => EncodableAll true props
  | .strictArray _ props => EncodableAll false props
  | .date _ _ _ => False
  | .xmlDoc _ _ => False
  | .invalid => False

def EncodableAll (named : Bool) : List AmfProp → Prop
  | [] => True
  | prop :: rest => Named named (propName prop) ∧ (named = true → NotNull prop) ∧ Encodable prop ∧
      EncodableAll named rest

end

mutual

/-- A strict array says how many elements follow, however many of them were written. -/
def ArrayFree : AmfProp → Prop
  | .object _ props => ArrayFreeAll props
  | .ecmaArray _ props => ArrayFreeAll props
  | .strictArray _ _ => False
  | _ => True

def ArrayFreeAll : List AmfProp → Prop
  | [] => True
  | prop :: rest => ArrayFree prop ∧ ArrayFreeAll rest

end

mutual

/-- The first value is the second without some members at the ends of its objects. -/
inductive Truncated : AmfProp → AmfProp → Prop
  | whole (prop : AmfProp) : Truncated prop prop
  | object (name : List UInt8) {kept props : List AmfProp} :
      TruncatedAll kept props → Truncated (.object name kept) (.object name props)
  | ecmaArray (name : List UInt8) {kept props : List AmfProp} :
      TruncatedAll kept props → Truncated (.ecmaArray name kept) (.ecmaArray name props)

inductive TruncatedAll : List AmfProp → List AmfProp → Prop
  | nil (props : List AmfProp) : TruncatedAll [] props
  | cons {kept prop : AmfProp} {keptRest rest : List AmfProp} :
      Truncated kept prop → TruncatedAll keptRest rest →
        TruncatedAll (kept :: keptRest) (prop :: rest)

end

/-! ## The encoder -/

theorem encodeNamed_eq_some {room : Nat} {name bytes : List UInt8} {value : Nat → Encoded}
    (written : (encodeNamed room name value).written = some bytes) :
    ∃ rest, (value (room - (nameBytes name).length)).written = some rest ∧
      bytes = nameBytes name ++ rest := by
  unfold encodeNamed at written
  split at written
  case isTrue => cases written
  case isFalse =>
      obtain ⟨rest, restEq, rfl⟩ := Option.map_eq_some_iff.mp written
      exact ⟨rest, restEq, rfl⟩

theorem encodeNumber_eq_some {room : Nat} {bits : UInt64} {bytes : List UInt8}
    (written : encodeNumber room bits = some bytes) : 9 ≤ room ∧ bytes = 0 :: bigEndian64 bits := by
  unfold encodeNumber at written
  split at written
  case isTrue => cases written
  case isFalse enough => exact ⟨Nat.le_of_not_lt enough, (Option.some.inj written).symm⟩

theorem encodeBoolean_eq_some {room : Nat} {value : Bool} {bytes : List UInt8}
    (written : encodeBoolean room value = some bytes) :
    2 ≤ room ∧ bytes = [1, if value then 1 else 0] := by
  unfold encodeBoolean at written
  split at written
  case isTrue => cases written
  case isFalse enough => exact ⟨Nat.le_of_not_lt enough, (Option.some.inj written).symm⟩

theorem encodeString_eq_some {room : Nat} {value bytes : List UInt8}
    (written : encodeString room value = some bytes) : bytes = stringBytes value := by
  unfold encodeString at written
  unfold stringBytes
  split at written
  case isTrue => cases written
  case isFalse =>
      split at written
      case isTrue brief =>
          rw [if_pos brief]
          exact (Option.some.inj written).symm
      case isFalse long =>
          rw [if_neg long]
          exact (Option.some.inj written).symm

theorem closeObject_eq_some {room : Nat} {opening bytes : List UInt8} {members : Nat × List UInt8}
    (written : (closeObject room opening members).written = some bytes) :
    bytes = opening ++ members.2 ++ objectEnd := by
  unfold closeObject at written
  split at written
  case isTrue => cases written
  case isFalse => exact (Option.some.inj written).symm

theorem length_nameBytes_le (name : List UInt8) :
    name.length ≤ (nameBytes name).length ∧ (nameBytes name).length ≤ name.length + 2 := by
  unfold nameBytes
  split
  case isTrue empty =>
      rw [empty]
      exact ⟨Nat.le_refl 0, Nat.zero_le 2⟩
  case isFalse =>
      rw [List.length_append, length_bigEndian16]
      omega

/-- What an encoder returns lies in what it has reached, and that lies in its room. -/
structure Encoded.Within (encoded : Encoded) (room : Nat) : Prop where
  inside : encoded.touched ≤ room
  reached : ∀ bytes, encoded.written = some bytes → bytes.length ≤ encoded.touched

theorem Encoded.Within.nothing (room : Nat) : Within ⟨0, none⟩ room where
  inside := Nat.zero_le room
  reached := fun _ absurdity => by cases absurdity

theorem Encoded.Within.checked {room : Nat} {written : Option (List UInt8)}
    (inside : ∀ bytes, written = some bytes → bytes.length ≤ room) :
    (Encoded.checked written).Within room := by
  cases written with
  | none => exact .nothing room
  | some bytes =>
      refine ⟨inside bytes rfl, ?_⟩
      rintro other ⟨⟩
      exact Nat.le_refl _

theorem encodeNamed_within {room : Nat} {name : List UInt8} {value : Nat → Encoded}
    (within : ∀ left, (value left).Within left) : (encodeNamed room name value).Within room := by
  have letters := length_nameBytes_le name
  unfold encodeNamed
  split
  case isTrue => exact .nothing room
  case isFalse =>
      have here := within (room - (nameBytes name).length)
      constructor
      case inside =>
          have fits := here.inside
          dsimp only
          omega
      case reached =>
          intro bytes written
          obtain ⟨rest, restEq, rfl⟩ := Option.map_eq_some_iff.mp written
          have before := here.reached rest restEq
          rw [List.length_append]
          exact Nat.add_le_add_left before _

theorem encodeString_within (room : Nat) (value : List UInt8) :
    (Encoded.checked (encodeString room value)).Within room := by
  apply Encoded.Within.checked
  intro bytes written
  rw [encodeString_eq_some written]
  unfold encodeString at written
  unfold stringBytes
  split at written
  case isTrue => cases written
  case isFalse =>
      split
      case isTrue =>
          rw [List.cons_append, List.length_cons, List.length_append, length_bigEndian16]
          omega
      case isFalse =>
          rw [List.cons_append, List.length_cons, List.length_append, length_bigEndian32]
          omega

/-- The members of an object: as for a whole property. -/
def MembersWithin (members : Nat × List UInt8) (room : Nat) : Prop :=
  members.1 ≤ room ∧ members.2.length ≤ members.1

theorem closeObject_within {room : Nat} {opening : List UInt8} {members : Nat × List UInt8}
    (some_ : opening.length ≤ room) (within : MembersWithin members (room - opening.length)) :
    (closeObject room opening members).Within room := by
  obtain ⟨inside, reached⟩ := within
  unfold closeObject
  split
  case isTrue =>
      constructor
      case inside =>
          dsimp only
          omega
      case reached => exact fun _ absurdity => by cases absurdity
  case isFalse =>
      constructor
      case inside =>
          dsimp only
          omega
      case reached =>
          rintro bytes ⟨⟩
          simp only [List.length_append, objectEnd, List.length_cons, List.length_nil]
          omega

mutual

/-- Nothing is written past the end of the buffer, whether or not the property fits. -/
theorem encodeProp_within : ∀ (prop : AmfProp) (room : Nat), (encodeProp room prop).Within room
  | .number name bits, room => by
      rw [encodeProp]
      apply encodeNamed_within
      intro left
      apply Encoded.Within.checked
      intro bytes written
      obtain ⟨enough, rfl⟩ := encodeNumber_eq_some written
      exact enough
  | .boolean name truth, room => by
      rw [encodeProp]
      apply encodeNamed_within
      intro left
      apply Encoded.Within.checked
      intro bytes written
      obtain ⟨enough, rfl⟩ := encodeBoolean_eq_some written
      exact enough
  | .string name text, room => by
      rw [encodeProp]
      exact encodeNamed_within fun left => encodeString_within left text
  | .null name, room => by
      rw [encodeProp]
      apply Encoded.Within.checked
      intro bytes written
      split at written
      case isTrue => cases written
      case isFalse enough =>
          obtain rfl := Option.some.inj written
          exact Nat.le_of_lt (Nat.lt_of_not_le enough)
  | .object name props, room => by
      rw [encodeProp]
      apply encodeNamed_within
      intro left
      split
      case isTrue => exact .nothing left
      case isFalse enough =>
          exact closeObject_within (Nat.le_trans (by decide) (Nat.le_of_not_le enough))
            (encodeProps_within props (left - 1))
  | .ecmaArray name props, room => by
      rw [encodeProp]
      apply encodeNamed_within
      intro left
      split
      case isTrue => exact .nothing left
      case isFalse enough =>
          exact closeObject_within (Nat.lt_of_not_le enough) (encodeProps_within props (left - 5))
  | .strictArray name props, room => by
      rw [encodeProp]
      apply encodeNamed_within
      intro left
      split
      case isTrue => exact .nothing left
      case isFalse enough =>
          obtain ⟨inside, reached⟩ := encodeProps_within props (left - 5)
          constructor
          case inside =>
              dsimp only
              omega
          case reached =>
              rintro bytes ⟨⟩
              rw [List.cons_append, List.length_cons, List.length_append, length_bigEndian32]
              dsimp only
              omega
  | .date name bits utcOffset, room => by
      rw [encodeProp]
      exact encodeNamed_within fun left => .nothing left
  | .xmlDoc name text, room => by
      rw [encodeProp]
      exact encodeNamed_within fun left => .nothing left
  | .invalid, room => by
      rw [encodeProp]
      exact .nothing room

theorem encodeProps_within : ∀ (props : List AmfProp) (room : Nat),
    MembersWithin (encodeProps room props) room
  | [], room => by
      rw [encodeProps]
      exact ⟨Nat.zero_le room, Nat.le_refl 0⟩
  | prop :: rest, room => by
      have here := encodeProp_within prop room
      rw [encodeProps]
      cases written : (encodeProp room prop).written with
      | none => exact ⟨here.inside, Nat.zero_le _⟩
      | some bytes =>
          have first := here.reached bytes written
          have last := here.inside
          obtain ⟨inside, reached⟩ := encodeProps_within rest (room - bytes.length)
          constructor
          · dsimp only
            omega
          · dsimp only
            rw [List.length_append]
            omega

end

theorem encodeExtras_within (props : List AmfProp) (room : Nat) :
    (encodeExtras room props).Within room := by
  induction props generalizing room with
  | nil =>
      refine ⟨Nat.zero_le room, ?_⟩
      rintro bytes ⟨⟩
      exact Nat.le_refl 0
  | cons prop rest inductionHypothesis =>
      have here := encodeProp_within prop room
      rw [encodeExtras]
      cases written : (encodeProp room prop).written with
      | none => exact here
      | some bytes =>
          have first := here.reached bytes written
          have last := here.inside
          have there := inductionHypothesis (room - bytes.length)
          constructor
          case inside =>
              have fits := there.inside
              dsimp only
              omega
          case reached =>
              intro all writtenAll
              obtain ⟨later, writtenLater, rfl⟩ := Option.map_eq_some_iff.mp writtenAll
              have before := there.reached later writtenLater
              dsimp only
              rw [List.length_append]
              omega

mutual

theorem encodeProp_wire : ∀ (prop : AmfProp) {room : Nat} {named : Bool} {bytes : List UInt8},
    Named named (propName prop) → (named = true → NotNull prop) → Encodable prop →
    ArrayFree prop → (encodeProp room prop).written = some bytes →
    ∃ kept value, Truncated kept prop ∧ propName kept = propName prop ∧ WireValue kept value ∧
      bytes = nameBytes (propName prop) ++ value
  | .number name bits, room, named, bytes, _, _, _, _, written => by
      rw [encodeProp] at written
      obtain ⟨value, valueEq, rfl⟩ := encodeNamed_eq_some written
      exact ⟨.number name bits, value, .whole _, rfl, (encodeNumber_eq_some valueEq).2, rfl⟩
  | .boolean name truth, room, named, bytes, _, _, _, _, written => by
      rw [encodeProp] at written
      obtain ⟨value, valueEq, rfl⟩ := encodeNamed_eq_some written
      exact ⟨.boolean name truth, value, .whole _, rfl, (encodeBoolean_eq_some valueEq).2, rfl⟩
  | .string name text, room, named, bytes, _, _, _, _, written => by
      rw [encodeProp] at written
      obtain ⟨value, valueEq, rfl⟩ := encodeNamed_eq_some written
      exact ⟨.string name text, value, .whole _, rfl, encodeString_eq_some valueEq, rfl⟩
  | .null name, room, named, bytes, allowed, notNull, _, _, written => by
      cases named with
      | true => exact absurd (notNull rfl) id
      | false =>
          obtain rfl : name = [] := allowed
          refine ⟨.null [], [5], .whole _, rfl, rfl, ?_⟩
          unfold encodeProp at written
          change (if room ≤ 1 then none else some [5]) = some bytes at written
          split at written
          case isTrue => cases written
          case isFalse => exact (Option.some.inj written).symm
  | .object name props, room, named, bytes, _, _, encodable, free, written => by
      rw [encodeProp] at written
      obtain ⟨value, valueEq, rfl⟩ := encodeNamed_eq_some written
      split at valueEq
      case isTrue => cases valueEq
      case isFalse =>
          obtain ⟨kept, truncated, wired⟩ := encodeProps_wire props encodable free
          exact ⟨.object name kept, value, .object name truncated, rfl,
            ⟨_, wired, closeObject_eq_some valueEq⟩, rfl⟩
  | .ecmaArray name props, room, named, bytes, _, _, encodable, free, written => by
      rw [encodeProp] at written
      obtain ⟨value, valueEq, rfl⟩ := encodeNamed_eq_some written
      split at valueEq
      case isTrue => cases valueEq
      case isFalse =>
          obtain ⟨kept, truncated, wired⟩ := encodeProps_wire props encodable free
          exact ⟨.ecmaArray name kept, value, .ecmaArray name truncated, rfl,
            ⟨_, _, wired, closeObject_eq_some valueEq⟩, rfl⟩
  | .strictArray _ _, _, _, _, _, _, _, free, _ => absurd free id
  | .date _ _ _, _, _, _, _, _, encodable, _, _ => absurd encodable id
  | .xmlDoc _ _, _, _, _, _, _, encodable, _, _ => absurd encodable id
  | .invalid, _, _, _, _, _, encodable, _, _ => absurd encodable id

/-- The loop over the members writes those before the first one that does not fit. -/
theorem encodeProps_wire : ∀ (props : List AmfProp) {room : Nat},
    EncodableAll true props → ArrayFreeAll props →
    ∃ kept, TruncatedAll kept props ∧ WireAll true kept (encodeProps room props).2
  | [], room, _, _ => ⟨[], .nil [], by rw [encodeProps]; rfl⟩
  | prop :: rest, room, encodable, free => by
      obtain ⟨allowed, notNull, here, there⟩ := encodable
      obtain ⟨freeHere, freeThere⟩ := free
      rw [encodeProps]
      cases written : (encodeProp room prop).written with
      | none => exact ⟨[], .nil _, rfl⟩
      | some bytes =>
          obtain ⟨kept, value, truncated, nameEq, wired, rfl⟩ :=
            encodeProp_wire prop allowed notNull here freeHere written
          obtain ⟨others, truncatedRest, wiredRest⟩ := encodeProps_wire rest there freeThere
          refine ⟨kept :: others, .cons truncated truncatedRest, value, _, ?_, wired, wiredRest, ?_⟩
          · rw [nameEq]
            exact allowed
          · rw [nameEq]

end

mutual

def size : AmfProp → Nat
  | .number name _ => (nameBytes name).length + 9
  | .boolean name _ => (nameBytes name).length + 2
  | .string name value => (nameBytes name).length + (stringBytes value).length
  | .null _ => 1
  | .object name props => (nameBytes name).length + (sizeAll props + 4)
  | .ecmaArray name props => (nameBytes name).length + (sizeAll props + 8)
  | .strictArray name props => (nameBytes name).length + (sizeAll props + 5)
  | .date _ _ _ => 0
  | .xmlDoc _ _ => 0
  | .invalid => 0

def sizeAll : List AmfProp → Nat
  | [] => 0
  | prop :: rest => size prop + sizeAll rest

end

theorem encodeNamed_full {room : Nat} {name written : List UInt8} {value : Nat → Encoded}
    (some_ : 1 ≤ written.length) (enough : (nameBytes name).length + written.length + 4 ≤ room)
    (valueEq : (value (room - (nameBytes name).length)).written = some written) :
    (encodeNamed room name value).written = some (nameBytes name ++ written) := by
  have letters := (length_nameBytes_le name).1
  unfold encodeNamed
  rw [if_neg (by omega)]
  dsimp only
  rw [valueEq]
  rfl

theorem encodeString_full {room : Nat} {value : List UInt8}
    (enough : (stringBytes value).length + 4 ≤ room) :
    encodeString room value = some (stringBytes value) := by
  unfold encodeString
  unfold stringBytes at enough ⊢
  by_cases brief : value.length < 65536
  · rw [if_pos brief] at enough ⊢
    rw [List.cons_append, List.length_cons, List.length_append, length_bigEndian16] at enough
    rw [if_neg (by omega), if_pos brief]
  · rw [if_neg brief] at enough ⊢
    rw [List.cons_append, List.length_cons, List.length_append, length_bigEndian32] at enough
    rw [if_neg (by omega), if_neg brief]

theorem closeObject_full {room : Nat} {opening : List UInt8} {members : Nat × List UInt8}
    (enough : opening.length + members.2.length + 4 ≤ room) :
    (closeObject room opening members).written = some (opening ++ members.2 ++ objectEnd) := by
  unfold closeObject
  rw [if_neg (by omega)]

mutual

/-- With room for four bytes more than it takes, a property is written whole. -/
theorem encodeProp_full : ∀ (prop : AmfProp) {room : Nat} {named : Bool},
    Named named (propName prop) → (named = true → NotNull prop) → Encodable prop →
    size prop + 4 ≤ room →
    ∃ value, WireValue prop value ∧ (nameBytes (propName prop)).length + value.length = size prop ∧
      (encodeProp room prop).written = some (nameBytes (propName prop) ++ value)
  | .number name bits, room, named, _, _, _, enough => by
      rw [size] at enough
      refine ⟨0 :: bigEndian64 bits, rfl, rfl, ?_⟩
      rw [encodeProp]
      apply encodeNamed_full (Nat.le_add_left 1 _) enough
      exact if_neg (by omega)
  | .boolean name truth, room, named, _, _, _, enough => by
      rw [size] at enough
      refine ⟨[1, if truth then 1 else 0], rfl, rfl, ?_⟩
      rw [encodeProp]
      apply encodeNamed_full (Nat.le_add_left 1 _) enough
      exact if_neg (by omega)
  | .string name text, room, named, _, _, _, enough => by
      rw [size] at enough
      have wired : WireValue (.string name text) (stringBytes text) := rfl
      refine ⟨stringBytes text, wired, rfl, ?_⟩
      rw [encodeProp]
      apply encodeNamed_full (length_wireValue wired) enough
      exact encodeString_full (by omega)
  | .null name, room, named, allowed, notNull, _, enough => by
      cases named with
      | true => exact absurd (notNull rfl) id
      | false =>
          obtain rfl : name = [] := allowed
          rw [size] at enough
          refine ⟨[5], rfl, rfl, ?_⟩
          rw [encodeProp, if_neg (by omega)]
          rfl
  | .object name props, room, named, _, _, encodable, enough => by
      rw [size] at enough
      obtain ⟨wired, sized⟩ := encodeProps_full props
        (show sizeAll props + 4 ≤ room - (nameBytes name).length - 1 by omega) encodable
      refine ⟨[3] ++ (encodeProps (room - (nameBytes name).length - 1) props).2 ++ objectEnd,
        ⟨_, wired, rfl⟩, ?_, ?_⟩
      · simp only [List.length_append, List.length_cons, List.length_nil, objectEnd, sized, size,
          propName]
        omega
      · rw [encodeProp]
        apply encodeNamed_full
        · exact Nat.le_add_left 1 _
        · simp only [List.length_append, List.length_cons, List.length_nil, objectEnd, sized]
          omega
        · rw [if_neg (by omega)]
          apply closeObject_full
          rw [sized, List.length_cons, List.length_nil]
          omega
  | .ecmaArray name props, room, named, _, _, encodable, enough => by
      rw [size] at enough
      obtain ⟨wired, sized⟩ := encodeProps_full props
        (show sizeAll props + 4 ≤ room - (nameBytes name).length - 5 by omega) encodable
      refine ⟨8 :: bigEndian32 (UInt32.ofNat props.length) ++
        (encodeProps (room - (nameBytes name).length - 5) props).2 ++ objectEnd,
        ⟨_, _, wired, rfl⟩, ?_, ?_⟩
      · simp only [List.length_append, List.length_cons, List.length_nil, objectEnd, sized, size,
          propName, length_bigEndian32]
        omega
      · rw [encodeProp]
        apply encodeNamed_full
        · exact Nat.le_add_left 1 _
        · simp only [List.length_append, List.length_cons, List.length_nil, objectEnd, sized,
            length_bigEndian32]
          omega
        · rw [if_neg (by omega)]
          apply closeObject_full
          rw [sized, List.length_cons, length_bigEndian32]
          omega
  | .strictArray name props, room, named, _, _, encodable, enough => by
      rw [size] at enough
      obtain ⟨wired, sized⟩ := encodeProps_full props
        (show sizeAll props + 4 ≤ room - (nameBytes name).length - 5 by omega) encodable
      refine ⟨10 :: bigEndian32 (UInt32.ofNat props.length) ++
        (encodeProps (room - (nameBytes name).length - 5) props).2, ⟨_, wired, rfl⟩, ?_, ?_⟩
      · simp only [List.length_append, List.length_cons, sized, size, propName,
          length_bigEndian32]
        omega
      · rw [encodeProp]
        apply encodeNamed_full
        · exact Nat.le_add_left 1 _
        · simp only [List.length_append, List.length_cons, sized, length_bigEndian32]
          omega
        · rw [if_neg (by omega)]
  | .date _ _ _, _, _, _, _, encodable, _ => absurd encodable id
  | .xmlDoc _ _, _, _, _, _, encodable, _ => absurd encodable id
  | .invalid, _, _, _, _, encodable, _ => absurd encodable id

theorem encodeProps_full : ∀ (props : List AmfProp) {room : Nat} {named : Bool},
    sizeAll props + 4 ≤ room → EncodableAll named props →
    WireAll named props (encodeProps room props).2 ∧
      (encodeProps room props).2.length = sizeAll props
  | [], room, named, _, _ => by
      rw [encodeProps, sizeAll]
      exact ⟨rfl, rfl⟩
  | prop :: rest, room, named, enough, encodable => by
      obtain ⟨allowed, notNull, here, there⟩ := encodable
      rw [sizeAll] at enough ⊢
      obtain ⟨value, wired, sized, written⟩ :=
        encodeProp_full prop allowed notNull here (show size prop + 4 ≤ room by omega)
      rw [encodeProps, written]
      dsimp only
      rw [List.length_append, sized]
      obtain ⟨wiredRest, sizedRest⟩ := encodeProps_full rest
        (show sizeAll rest + 4 ≤ room - size prop by omega) there
      refine ⟨⟨value, _, allowed, wired, wiredRest, rfl⟩, ?_⟩
      rw [List.length_append, List.length_append, sized, sizedRest]

end

/-! ## Messages -/

/-- The value does not begin like the end of an object, as a number of these bits would. -/
def Unmarked : AmfProp → Prop
  | .number _ bits => bits.toNat / 281474976710656 ≠ 9
  | _ => True

theorem wireValue_head {prop : AmfProp} {value : List UInt8} (wired : WireValue prop value) :
    (∃ name bits, prop = .number name bits ∧ value = 0 :: bigEndian64 bits) ∨
      ∃ first rest, value = first :: rest ∧ 0 < first.toNat := by
  cases prop with
  | number name bits => exact Or.inl ⟨name, bits, rfl, wired⟩
  | boolean => exact Or.inr ⟨_, _, wired, by decide⟩
  | string _ text =>
      rw [show value = stringBytes text from wired, stringBytes]
      split
      case isTrue => exact Or.inr ⟨_, _, rfl, by decide⟩
      case isFalse => exact Or.inr ⟨_, _, rfl, by decide⟩
  | null => exact Or.inr ⟨_, _, wired, by decide⟩
  | object =>
      obtain ⟨_, _, rfl⟩ := wired
      exact Or.inr ⟨_, _, rfl, by decide⟩
  | ecmaArray =>
      obtain ⟨_, _, _, rfl⟩ := wired
      exact Or.inr ⟨_, _, rfl, by decide⟩
  | strictArray =>
      obtain ⟨_, _, rfl⟩ := wired
      exact Or.inr ⟨_, _, rfl, by decide⟩
  | date => exact absurd wired id
  | xmlDoc => exact absurd wired id
  | invalid => exact absurd wired id

/-- The first two bytes of a `double` are its highest ones. -/
theorem bigEndian64_head (bits : UInt64) :
    ∃ high low rest, bigEndian64 bits = high :: low :: rest ∧
      high.toNat * 256 + low.toNat = bits.toNat / 281474976710656 := by
  have range : bits.toNat < 4294967296 * 4294967296 := bits.toNat_lt
  obtain ⟨first, second, third, fourth, written, read⟩ :=
    bigEndian32_eq (Nat.div_lt_of_lt_mul range)
  refine ⟨first, second,
    third :: fourth :: bigEndian32 (UInt32.ofNat (bits.toNat % 4294967296)), ?_, ?_⟩
  · rw [bigEndian64, written]
    simp only [List.cons_append, List.nil_append]
  · have thirdByte := third.toNat_lt
    have fourthByte := fourth.toNat_lt
    have split : 281474976710656 = 4294967296 * 65536 := by decide
    rw [split, ← Nat.div_div_eq_div_mul, ← read, readBigEndian32]
    clear read written range split
    omega

theorem exists_of_two_le {bytes : List UInt8} (two : 2 ≤ bytes.length) :
    ∃ first second rest, bytes = first :: second :: rest := by
  cases bytes with
  | nil => exact absurd two (by decide)
  | cons first others =>
      cases others with
      | nil => exact absurd two (Nat.not_succ_le_self 1)
      | cons second rest => exact ⟨first, second, rest, rfl⟩

section Messages

variable {memory : Memory} {amf3 : Int → Int → Except Fault (Option (Int × List AmfProp))}

theorem mark_of_unmarked {prop : AmfProp} {value rest : List UInt8} {pos : Int}
    (wired : WireValue prop value) (unmarked : Unmarked prop)
    (held : Holds memory pos (value ++ rest)) :
    ∃ mark, markAt memory pos (value ++ rest).length = .ok mark ∧ mark ≠ 9 := by
  by_cases room : 3 ≤ (value ++ rest).length
  case neg => exact ⟨0, if_neg (by omega), by decide⟩
  case pos =>
    have bounded : (3 : Int) ≤ (value ++ rest).length := by omega
    rcases wireValue_head wired with ⟨name, bits, rfl, rfl⟩ | ⟨first, others, rfl, positive⟩
    · obtain ⟨high, low, last, written, read⟩ := bigEndian64_head bits
      rw [written] at held
      have whole : Holds memory pos ([0, high, low] ++ (last ++ rest)) := held
      have front : Holds memory pos [0, high, low] := whole.left
      refine ⟨_, (if_pos bounded).trans (int24At_of_holds front), ?_⟩
      have different : bits.toNat / 281474976710656 ≠ 9 := unmarked
      rw [← read] at different
      rw [readBigEndian24]
      simpa using different
    · rw [List.cons_append, List.length_cons] at room
      obtain ⟨second, third, last, shape⟩ := exists_of_two_le (Nat.le_of_succ_le_succ room)
      rw [List.cons_append, shape] at held
      have whole : Holds memory pos ([first, second, third] ++ last) := held
      have front : Holds memory pos [first, second, third] := whole.left
      refine ⟨_, (if_pos bounded).trans (int24At_of_holds front), ?_⟩
      rw [readBigEndian24]
      omega

theorem nameless_settles {prop : AmfProp} {value rest : List UInt8} {pos : Int}
    (nameless : propName prop = []) (wired : WireValue prop value)
    (held : Holds memory pos (value ++ rest)) (short : (value ++ rest).length < 2147483648) :
    Settles (fun fuel => decodeProp memory amf3 fuel pos (value ++ rest).length false)
      (some ((value.length : Int), prop)) := by
  have noName : nameBytes (propName prop) = [] := by
    rw [nameless]
    rfl
  have sized : (value ++ rest).length = value.length + rest.length := List.length_append
  have settled : Settles
      (fun fuel => decodeValue memory amf3 fuel (propName prop) pos (value ++ rest).length)
      (some ((value ++ rest).length - (value.length : Int), prop)) :=
    value_settles prop wired held.left (by omega) (by omega)
  have property := @Settles.property memory amf3 pos (value ++ rest).length prop value false
    nameless (length_wireValue wired)
  rw [noName, List.nil_append, List.length_nil, Int.natCast_zero, Int.add_zero,
    Int.sub_zero] at property
  exact property (by omega) (by omega) held.left settled

/-- The values of a message are read one after the other. -/
theorem message_settles {props : List AmfProp} {bytes : List UInt8} {pos : Int}
    (unmarked : ∀ prop ∈ props, Unmarked prop) (wired : WireAll false props bytes)
    (held : Holds memory pos bytes) (short : bytes.length < 2147483648) :
    Settles (fun fuel => decodeLoop memory amf3 fuel pos bytes.length false) (some (0, props)) := by
  induction props generalizing bytes pos with
  | nil =>
      obtain rfl : bytes = [] := wired
      apply Settles.of_succ
      intro fuel
      rw [decodeLoop, if_pos (by simp)]
      rfl
  | cons prop rest inductionHypothesis =>
      obtain ⟨value, later, allowed, valueWired, laterWired, rfl⟩ := wired
      have nameless : propName prop = [] := allowed
      have noName : nameBytes (propName prop) = [] := by
        rw [nameless]
        rfl
      rw [noName, List.nil_append] at held short ⊢
      have sized : (value ++ later).length = value.length + later.length := List.length_append
      obtain ⟨mark, marked, notEnd⟩ :=
        mark_of_unmarked valueWired (unmarked prop List.mem_cons_self) held
      have first : Settles
          (fun fuel => decodeProp memory amf3 fuel pos (value ++ later).length false)
          (some ((value.length : Int), prop)) := nameless_settles allowed valueWired held short
      have leftEq : ((value ++ later).length : Int) - value.length = later.length := by omega
      have others := inductionHypothesis
        (fun other inside => unmarked other (List.mem_cons_of_mem _ inside)) laterWired held.right
        (by omega)
      apply first.call_both others
      intro fuel read laterRead
      apply decodeLoop_step _ marked notEnd _ read
      · rw [leftEq]
        exact laterRead
      · have some_ := length_wireValue valueWired
        omega
      · omega

theorem body_settles {props : List AmfProp} {bytes : List UInt8}
    (unmarked : ∀ prop ∈ props, Unmarked prop) (wired : WireAll false props bytes)
    (short : bytes.length < 2147483648) :
    Settles (fun fuel => decode (Memory.ofBody bytes) amf3 fuel 0 bytes.length false)
      (some ((bytes.length : Int), props)) := by
  obtain ⟨bound, reached⟩ := message_settles unmarked wired (holds_ofBody bytes) short
  refine ⟨bound, ?_⟩
  intro fuel enough
  have read : decodeLoop (Memory.ofBody bytes) amf3 fuel 0 bytes.length false =
      .ok (some (0, props)) := reached fuel enough
  dsimp only [decode]
  rw [read, ok_bind, settle_some (by omega) (by omega), Int.sub_zero]
  rfl

end Messages

theorem Truncated.unmarked {kept prop : AmfProp} (truncated : Truncated kept prop)
    (unmarked : Unmarked prop) : Unmarked kept := by
  cases truncated with
  | whole => exact unmarked
  | object => trivial
  | ecmaArray => trivial

theorem encodeExtras_wire {props : List AmfProp} {room : Nat} {bytes : List UInt8}
    (encodable : EncodableAll false props) (free : ArrayFreeAll props)
    (unmarked : ∀ prop ∈ props, Unmarked prop)
    (written : (encodeExtras room props).written = some bytes) :
    ∃ kept, List.Forall₂ Truncated kept props ∧ WireAll false kept bytes ∧
      ∀ prop ∈ kept, Unmarked prop := by
  induction props generalizing room bytes with
  | nil =>
      obtain rfl : [] = bytes := Option.some.inj written
      exact ⟨[], .nil, rfl, fun _ inside => absurd inside List.not_mem_nil⟩
  | cons prop rest inductionHypothesis =>
      obtain ⟨allowed, notNull, here, there⟩ := encodable
      obtain ⟨freeHere, freeThere⟩ := free
      rw [encodeExtras] at written
      cases writtenHere : (encodeProp room prop).written with
      | none =>
          rw [writtenHere] at written
          dsimp only at written
          rw [writtenHere] at written
          cases written
      | some first =>
          rw [writtenHere] at written
          obtain ⟨later, writtenLater, rfl⟩ := Option.map_eq_some_iff.mp written
          obtain ⟨kept, value, truncated, nameEq, wired, rfl⟩ :=
            encodeProp_wire prop allowed notNull here freeHere writtenHere
          obtain ⟨others, truncatedRest, wiredRest, unmarkedRest⟩ :=
            inductionHypothesis there freeThere
              (fun other inside => unmarked other (List.mem_cons_of_mem _ inside)) writtenLater
          refine ⟨kept :: others, .cons truncated truncatedRest, ⟨value, later, ?_, wired,
            wiredRest, ?_⟩, ?_⟩
          · rw [nameEq]
            exact allowed
          · rw [nameEq]
          · intro other inside
            rcases List.mem_cons.mp inside with rfl | inside
            · exact truncated.unmarked (unmarked prop List.mem_cons_self)
            · exact unmarkedRest other inside

theorem encodeExtras_full {props : List AmfProp} {room : Nat}
    (enough : sizeAll props + 4 ≤ room) (encodable : EncodableAll false props) :
    ∃ bytes, (encodeExtras room props).written = some bytes ∧ WireAll false props bytes := by
  induction props generalizing room with
  | nil => exact ⟨[], rfl, rfl⟩
  | cons prop rest inductionHypothesis =>
      obtain ⟨allowed, notNull, here, there⟩ := encodable
      rw [sizeAll] at enough
      obtain ⟨value, wired, sized, written⟩ :=
        encodeProp_full prop allowed notNull here (show size prop + 4 ≤ room by omega)
      obtain ⟨later, writtenLater, wiredRest⟩ := inductionHypothesis
        (show sizeAll rest + 4 ≤ room - size prop by omega) there
      refine ⟨nameBytes (propName prop) ++ value ++ later, ?_, value, later, allowed, wired,
        wiredRest, rfl⟩
      rw [encodeExtras, written]
      dsimp only
      rw [List.length_append, sized, writtenLater]
      rfl

/-- Whatever the room and the message, `AMFProp_Encode` stays inside the room.  What it wrote of
an encodable message is read back as that message, apart from members that are missing at the
ends of its objects; with room for four bytes more than the message takes, nothing is missing. -/
theorem amf_reads_back_written (amf3 : Int → Int → Except Fault (Option (Int × List AmfProp)))
    (props : List AmfProp) (room : Nat) :
    (encodeExtras room props).touched ≤ room ∧
      (EncodableAll false props → (∀ prop ∈ props, Unmarked prop) → room < 2147483648 →
        (ArrayFreeAll props → ∀ bytes, (encodeExtras room props).written = some bytes →
          ∃ read, List.Forall₂ Truncated read props ∧
            Settles (fun fuel => decode (Memory.ofBody bytes) amf3 fuel 0 bytes.length false)
              (some ((bytes.length : Int), read))) ∧
        (sizeAll props + 4 ≤ room → ∃ bytes, (encodeExtras room props).written = some bytes ∧
          Settles (fun fuel => decode (Memory.ofBody bytes) amf3 fuel 0 bytes.length false)
            (some ((bytes.length : Int), props)))) := by
  have within := encodeExtras_within props room
  have fits : ∀ bytes, (encodeExtras room props).written = some bytes → bytes.length ≤ room :=
    fun bytes written => Nat.le_trans (within.reached bytes written) within.inside
  refine ⟨within.inside, ?_⟩
  intro encodable unmarked small
  constructor
  · intro free bytes written
    obtain ⟨kept, truncated, wired, unmarkedKept⟩ :=
      encodeExtras_wire encodable free unmarked written
    exact ⟨kept, truncated,
      body_settles unmarkedKept wired (Nat.lt_of_le_of_lt (fits bytes written) small)⟩
  · intro enough
    obtain ⟨bytes, written, wired⟩ := encodeExtras_full enough encodable
    exact ⟨bytes, written,
      body_settles unmarked wired (Nat.lt_of_le_of_lt (fits bytes written) small)⟩

/-- `connect` with an object of two members. -/
def connectMessage : List AmfProp :=
  [.string [] [99, 111, 110, 110, 101, 99, 116],
    .object []
      [.string [97, 112, 112] [108, 105, 118, 101], .string [116, 121, 112, 101] [120, 121]]]

/-- In thirty bytes the second member is lost, and nothing says so. -/
theorem amf_reads_back_written_cut :
    encodeExtras 30 connectMessage =
        ⟨26, some ([2, 0, 7, 99, 111, 110, 110, 101, 99, 116] ++
          [3, 0, 3, 97, 112, 112, 2, 0, 4, 108, 105, 118, 101, 0, 0, 9])⟩ ∧
      ∀ bytes, (encodeExtras 30 connectMessage).written = some bytes →
        ∃ read, List.Forall₂ Truncated read connectMessage ∧
          Settles (fun fuel => decode (Memory.ofBody bytes) (fun _ _ => .ok none) fuel 0
            bytes.length false) (some ((bytes.length : Int), read)) := by
  refine ⟨by decide +kernel, ?_⟩
  have encodable : EncodableAll false connectMessage := by
    simp [connectMessage, EncodableAll, Encodable, Named, propName, NotNull]
  have unmarked : ∀ prop ∈ connectMessage, Unmarked prop := by
    simp [connectMessage, Unmarked]
  have free : ArrayFreeAll connectMessage := by
    simp [connectMessage, ArrayFreeAll, ArrayFree]
  exact ((amf_reads_back_written (fun _ _ => .ok none) connectMessage 30).2 encodable unmarked
    (by decide)).1 free

end Amf

end RejiStudio.Rtmp
