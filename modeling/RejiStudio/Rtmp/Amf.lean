import RejiStudio.Rtmp.ChunkStream

/-!
# AMF0

`AMFProp_Encode` and `AMF_Encode` with the room that is left in the buffer, `AMFProp_Decode`
and `AMF_Decode` over the memory around a body.  A read outside the memory and a decoder that
is cut off before it returns are faults of their own.  `long` has 32 bits, as on Windows, and
`AMF3_Decode` is a parameter.
-/

namespace RejiStudio.Rtmp

open RejiStudio.Lib

/-- `AMFObjectProperty`; a number is the bits of its `double`. -/
inductive AmfProp
  | number (name : List UInt8) (bits : UInt64)
  | boolean (name : List UInt8) (value : Bool)
  | string (name : List UInt8) (value : List UInt8)
  | object (name : List UInt8) (props : List AmfProp)
  | null (name : List UInt8)
  | ecmaArray (name : List UInt8) (props : List AmfProp)
  | strictArray (name : List UInt8) (props : List AmfProp)
  | date (name : List UInt8) (bits : UInt64) (utcOffset : Nat)
  | xmlDoc (name : List UInt8) (value : List UInt8)
  | invalid

namespace Amf

def bigEndian16 (value : Nat) : List UInt8 := [UInt8.ofNat (value / 256), UInt8.ofNat value]

/-- The bytes of a `double`, most significant first. -/
def bigEndian64 (bits : UInt64) : List UInt8 :=
  bigEndian32 (UInt32.ofNat (bits.toNat / 4294967296)) ++
    bigEndian32 (UInt32.ofNat (bits.toNat % 4294967296))

/-- `AMF_OBJECT_END` as `AMF_EncodeInt24` writes it. -/
def objectEnd : List UInt8 := [0, 0, 9]

/-! ## Encoding -/

/-- `AMF_EncodeString`; the room is asked for in the long form whatever the length. -/
def encodeString (room : Nat) (value : List UInt8) : Option (List UInt8) :=
  if value.length < 65536 ∧ room < 1 + 2 + value.length ∨ room < 1 + 4 + value.length then none
  else if value.length < 65536 then some (2 :: bigEndian16 value.length ++ value)
  else some (12 :: bigEndian32 (UInt32.ofNat value.length) ++ value)

def encodeNumber (room : Nat) (bits : UInt64) : Option (List UInt8) :=
  if room < 1 + 8 then none else some (0 :: bigEndian64 bits)

def encodeBoolean (room : Nat) (value : Bool) : Option (List UInt8) :=
  if room < 2 then none else some [1, if value then 1 else 0]

def nameBytes (name : List UInt8) : List UInt8 :=
  if name = [] then [] else bigEndian16 name.length ++ name

/-- What an encoder has done when it returns: how many bytes it has reached, and the bytes in
front of the pointer that it returns, or none for a null pointer. -/
structure Encoded where
  touched : Nat
  written : Option (List UInt8)
  deriving DecidableEq

def Encoded.checked (written : Option (List UInt8)) : Encoded :=
  ⟨(written.getD []).length, written⟩

/-- The start of `AMFProp_Encode` for a property that is not null. -/
def encodeNamed (room : Nat) (name : List UInt8) (value : Nat → Encoded) : Encoded :=
  if room ≤ name.length + 2 + 1 then ⟨0, none⟩
  else
    let encoded := value (room - (nameBytes name).length)
    ⟨(nameBytes name).length + encoded.touched, encoded.written.map (nameBytes name ++ ·)⟩

/-- The end of `AMF_Encode` and `AMF_EncodeEcmaArray`, behind the opening and the members. -/
def closeObject (room : Nat) (opening : List UInt8) (members : Nat × List UInt8) : Encoded :=
  if room - opening.length - members.2.length ≤ 3 then ⟨opening.length + members.1, none⟩
  else
    ⟨max (opening.length + members.1) (opening.length + members.2.length + 3),
      some (opening ++ members.2 ++ objectEnd)⟩

mutual

/-- `AMFProp_Encode`. -/
def encodeProp (room : Nat) : AmfProp → Encoded
  | .number name bits => encodeNamed room name fun left => .checked (encodeNumber left bits)
  | .boolean name value => encodeNamed room name fun left => .checked (encodeBoolean left value)
  | .string name value => encodeNamed room name fun left => .checked (encodeString left value)
  | .null _ => .checked (if room ≤ 1 then none else some [5])
  | .object name props => encodeNamed room name fun left =>
      if left ≤ 4 then ⟨0, none⟩ else closeObject left [3] (encodeProps (left - 1) props)
  | .ecmaArray name props => encodeNamed room name fun left =>
      if left ≤ 4 then ⟨0, none⟩
      else
        closeObject left (8 :: bigEndian32 (UInt32.ofNat props.length))
          (encodeProps (left - 5) props)
  | .strictArray name props => encodeNamed room name fun left =>
      if left ≤ 4 then ⟨0, none⟩
      else
        let elements := encodeProps (left - 5) props
        ⟨5 + elements.1, some (10 :: bigEndian32 (UInt32.ofNat props.length) ++ elements.2)⟩
  | .date name _ _ => encodeNamed room name fun _ => ⟨0, none⟩
  | .xmlDoc name _ => encodeNamed room name fun _ => ⟨0, none⟩
  | .invalid => ⟨0, none⟩

/-- The loop over the properties of an object or an array, which ends without an error at the
first one that cannot be written: how far it has reached, and what counts as written. -/
def encodeProps (room : Nat) : List AmfProp → Nat × List UInt8
  | [] => (0, [])
  | prop :: rest =>
      match (encodeProp room prop).written with
      | none => ((encodeProp room prop).touched, [])
      | some bytes =>
          let later := encodeProps (room - bytes.length) rest
          (max (encodeProp room prop).touched (bytes.length + later.1), bytes ++ later.2)

end

/-- The loop over `Link.extras` in `SendConnectPacket`, which gives the packet up at the first
property that cannot be written. -/
def encodeExtras (room : Nat) : List AmfProp → Encoded
  | [] => ⟨0, some []⟩
  | prop :: rest =>
      match (encodeProp room prop).written with
      | none => encodeProp room prop
      | some bytes =>
          let later := encodeExtras (room - bytes.length) rest
          ⟨max (encodeProp room prop).touched (bytes.length + later.touched),
            later.written.map (bytes ++ ·)⟩

/-! ## Decoding -/

inductive Fault
  | outside
  | unfinished
  deriving DecidableEq

abbrev Memory := Int → Option UInt8

def Memory.ofBody (body : List UInt8) : Memory :=
  fun address => if 0 ≤ address then body[address.toNat]? else none

def byteAt (memory : Memory) (pos : Int) : Except Fault UInt8 :=
  match memory pos with
  | none => .error .outside
  | some byte => .ok byte

def bytesAt (memory : Memory) : Nat → Int → Except Fault (List UInt8)
  | 0, _ => .ok []
  | count + 1, pos => do
      let first ← byteAt memory pos
      let rest ← bytesAt memory count (pos + 1)
      return first :: rest

def decodeInt16 (bytes : List UInt8) (position : Nat) : Nat :=
  (bytes.getD position 0).toNat * 256 + (bytes.getD (position + 1) 0).toNat

def int16At (memory : Memory) (pos : Int) : Except Fault Nat := do
  let bytes ← bytesAt memory 2 pos
  return decodeInt16 bytes 0

def int24At (memory : Memory) (pos : Int) : Except Fault Nat := do
  let bytes ← bytesAt memory 3 pos
  return decodeInt24 bytes 0

def int32At (memory : Memory) (pos : Int) : Except Fault Nat := do
  let bytes ← bytesAt memory 4 pos
  return (decodeInt32 bytes 0).toNat

def decodeNumber (memory : Memory) (pos : Int) : Except Fault UInt64 := do
  let high ← int32At memory pos
  let low ← int32At memory (pos + 4)
  return UInt64.ofNat (high * 4294967296 + low)

def slice (memory : Memory) (pos : Int) (length : Nat) : List UInt8 :=
  (List.range length).map fun (offset : Nat) => (memory (pos + offset)).getD 0

/-- An `unsigned int` read as an `int`. -/
def wrap (value : Int) : Int := value.bmod 4294967296

/-- What a decoder returns that got from `nSize` to `left`; -1 is an error. -/
def settle {Value : Type} (nSize : Int) : Option (Int × Value) → Option (Int × Value)
  | none => none
  | some (left, value) =>
      if wrap (nSize - left) = -1 then none else some (wrap (nSize - left), value)

/-- What `AMF_Decode` compares with `AMF_OBJECT_END`. -/
def markAt (memory : Memory) (pos nSize : Int) : Except Fault Nat :=
  if 3 ≤ nSize then int24At memory pos else .ok 0

section Decoders

variable (memory : Memory) (amf3 : Int → Int → Except Fault (Option (Int × List AmfProp)))

mutual

/-- `AMFProp_Decode`. -/
def decodeProp : Nat → Int → Int → Bool → Except Fault (Option (Int × AmfProp))
  | 0, _, _, _ => .error .unfinished
  | fuel + 1, pos, nSize, named =>
      if nSize = 0 ∨ named = true ∧ nSize < 4 then .ok none
      else if named then do
        let nameSize ← int16At memory pos
        if nSize - 2 < nameSize then return none
        let name := slice memory (pos + 2) nameSize
        let value ← decodeValue fuel name (pos + 2 + nameSize) (nSize - (2 + nameSize))
        return settle nSize value
      else do
        let value ← decodeValue fuel [] pos nSize
        return settle nSize value

/-- The type and the value of a property, and the size that is left behind them. -/
def decodeValue : Nat → List UInt8 → Int → Int → Except Fault (Option (Int × AmfProp))
  | 0, _, _, _ => .error .unfinished
  | fuel + 1, name, pos, nSize =>
      if nSize = 0 then .ok none
      else do
        let type ← byteAt memory pos
        match type.toNat with
        | 0 =>
            if nSize - 1 < 8 then return none
            let bits ← decodeNumber memory (pos + 1)
            return some (nSize - 1 - 8, .number name bits)
        | 1 =>
            if nSize - 1 < 1 then return none
            let byte ← byteAt memory (pos + 1)
            return some (nSize - 1 - 1, .boolean name (byte != 0))
        | 2 =>
            let size ← int16At memory (pos + 1)
            if nSize - 1 < size + 2 then return none
            return some (nSize - 1 - (2 + size), .string name (slice memory (pos + 3) size))
        | 3 =>
            let read ← decodeLoop fuel (pos + 1) (nSize - 1) true
            return (settle (nSize - 1) read).map fun found =>
              (nSize - 1 - found.1, .object name found.2)
        | 5 => return some (nSize - 1, .null name)
        | 6 => return some (nSize - 1, .null name)
        | 13 => return some (nSize - 1, .null name)
        | 8 =>
            let read ← decodeLoop fuel (pos + 5) (nSize - 5) true
            return (settle (nSize - 5) read).map fun found =>
              (nSize - 5 - found.1, .ecmaArray name found.2)
        | 10 =>
            let count ← int32At memory (pos + 1)
            let read ← decodeElements fuel (pos + 5) (nSize - 5) (wrap count)
            return (settle (nSize - 5) read).map fun found =>
              (nSize - 5 - found.1, .strictArray name found.2)
        | 11 =>
            if nSize - 1 < 10 then return none
            let bits ← decodeNumber memory (pos + 1)
            let utcOffset ← int16At memory (pos + 9)
            return some (nSize - 1 - 10, .date name bits utcOffset)
        | 12 =>
            -- the comparison is one of `long`s, the subtraction one of `unsigned int`s
            let size ← int32At memory (pos + 1)
            if nSize - 1 < wrap size + 4 then return none
            return some (wrap (nSize - 1 - (4 + size)),
              .string name (slice memory (pos + 5) (wrap size).toNat))
        | 15 =>
            let size ← int32At memory (pos + 1)
            if nSize - 1 < wrap size + 4 then return none
            return some (wrap (nSize - 1 - (4 + size)),
              .xmlDoc name (slice memory (pos + 5) (wrap size).toNat))
        | 17 =>
            let read ← amf3 (pos + 1) (nSize - 1)
            return read.map fun found => (nSize - 1 - found.1, .object name found.2)
        | _ => return none

/-- The loop of `AMF_Decode`, with the size that is left behind it. -/
def decodeLoop : Nat → Int → Int → Bool → Except Fault (Option (Int × List AmfProp))
  | 0, _, _, _ => .error .unfinished
  | fuel + 1, pos, nSize, named =>
      if nSize ≤ 0 then .ok (some (nSize, []))
      else do
        let mark ← markAt memory pos nSize
        if mark = 9 then return some (nSize - 3, [])
        let found ← decodeProp fuel pos nSize named
        match found with
        | none => return none
        | some (nRes, prop) =>
            if nSize - nRes < 0 then return none
            let later ← decodeLoop fuel (pos + nRes) (nSize - nRes) named
            return later.map fun rest => (rest.1, prop :: rest.2)

/-- The loop of `AMF_DecodeArray`. -/
def decodeElements : Nat → Int → Int → Int → Except Fault (Option (Int × List AmfProp))
  | 0, _, _, _ => .error .unfinished
  | fuel + 1, pos, nSize, count =>
      if count ≤ 0 then .ok (some (nSize, []))
      else if nSize ≤ 0 then .ok none
      else do
        let found ← decodeProp fuel pos nSize false
        match found with
        | none => return none
        | some (nRes, prop) =>
            let later ← decodeElements fuel (pos + nRes) (nSize - nRes) (count - 1)
            return later.map fun rest => (rest.1, prop :: rest.2)

end

def decode (fuel : Nat) (pos nSize : Int) (named : Bool) :
    Except Fault (Option (Int × List AmfProp)) := do
  let read ← decodeLoop memory amf3 fuel pos nSize named
  return settle nSize read

end Decoders

end Amf

end RejiStudio.Rtmp
