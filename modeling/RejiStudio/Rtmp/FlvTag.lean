import RejiStudio.Rtmp.CallTags

/-!
# Reading an FLV tag back

The layout of a tag as its reader has it, and the tag buffer down to the bytes that an
earlier tag left behind the ones in use.
-/

namespace RejiStudio.Rtmp

open RejiStudio.Lib

structure FlvTag where
  tagType : UInt8
  timestamp : Nat
  streamId : Nat
  body : List UInt8
  previousTagSize : Nat
  deriving DecidableEq

/-- A tag at the front of the input: type, size in 24 bits, the low 24 bits of the time stamp
with its high byte behind them, stream id, body and the size of the whole. -/
def readFlvTag : List UInt8 → Option (FlvTag × List UInt8)
  | tagType :: size2 :: size1 :: size0 :: ts2 :: ts1 :: ts0 :: tsExtended ::
      stream2 :: stream1 :: stream0 :: rest =>
      let size := readBigEndian24 size2 size1 size0
      match rest.drop size with
      | last3 :: last2 :: last1 :: last0 :: left =>
          some
            (⟨tagType, readBigEndian32 tsExtended ts2 ts1 ts0,
              readBigEndian24 stream2 stream1 stream0, rest.take size,
              readBigEndian32 last3 last2 last1 last0⟩, left)
      | _ => none
  | _ => none

/-- The bytes of a tag are read back field by field, whatever follows them. -/
theorem readFlvTag_flvTagPieces (tagType : UInt8) (tsMs : UInt32) {body : List UInt8}
    (small : body.length ≤ 0xFFFFFF) (rest : List UInt8) :
    readFlvTag ((flvTagPieces tagType tsMs body).flatten ++ rest) =
      some (⟨tagType, tsMs.toNat, 0, body, 11 + body.length⟩, rest) := by
  have timestamp := readTimestamp_flvTagPieces tagType tsMs body
  obtain ⟨size2, size1, size0, writtenSize, size⟩ :=
    bigEndian24_eq (Nat.lt_succ_of_le small)
  obtain ⟨last3, last2, last1, last0, writtenLast, last⟩ :=
    bigEndian32_eq (show 11 + body.length < 4294967296 by omega)
  have shape : (flvTagPieces tagType tsMs body).flatten ++ rest =
      tagType :: size2 :: size1 :: size0 ::
        (((tsMs &&& 0xFFFFFF) >>> 16) &&& 0xFF).toUInt8 ::
        (((tsMs &&& 0xFFFFFF) >>> 8) &&& 0xFF).toUInt8 ::
        ((tsMs &&& 0xFFFFFF) &&& 0xFF).toUInt8 ::
        ((tsMs >>> 24) &&& 0xFF).toUInt8 :: 0 :: 0 :: 0 ::
        (body ++ last3 :: last2 :: last1 :: last0 :: rest) := by
    simp only [flvTagPieces, List.flatten_append, flatten_eachByte, List.flatten_cons,
      writtenSize, writtenLast, List.append_assoc, List.cons_append, List.nil_append]
    rfl
  rw [shape, readFlvTag, size, List.drop_left, List.take_left]
  dsimp only
  rw [last]
  have stamped : readBigEndian32 ((tsMs >>> 24) &&& 0xFF).toUInt8
      (((tsMs &&& 0xFFFFFF) >>> 16) &&& 0xFF).toUInt8
      (((tsMs &&& 0xFFFFFF) >>> 8) &&& 0xFF).toUInt8
      ((tsMs &&& 0xFFFFFF) &&& 0xFF).toUInt8 = tsMs.toNat := timestamp
  rw [stamped]
  rfl

example : readFlvTag (flvTagPieces flvVideoTag 0x12345678 [1, 2]).flatten =
    some (⟨flvVideoTag, 0x12345678, 0, [1, 2], 13⟩, []) := by
  decide +kernel

/-! ## The bytes behind the buffer -/

/-- `Buf` with the whole allocation: behind the bytes in use stands what was written there
before. -/
structure RawBuf where
  data : List UInt8
  len : Nat

namespace RawBuf

/-- `items`, and the size of the allocation. -/
def view (buf : RawBuf) : Buf := ⟨buf.data.take buf.len, buf.data.length⟩

def ensure (fresh : Nat → UInt8) (buf : RawBuf) (cap : Nat) (allocations : List Bool) :
    Bool × RawBuf × List Bool :=
  if cap ≤ buf.data.length then
    (true, buf, allocations)
  else
    match allocate allocations with
    | (true, rest) =>
        let newCap := if buf.data.length = 0 then 4096 else buf.data.length
        let grown := Buf.growCapacity 64 newCap cap - buf.data.length
        (true, { buf with data := buf.data ++ (List.range grown).map fresh }, rest)
    | (false, rest) => (false, buf, rest)

def appendSlice (fresh : Nat → UInt8) (buf : RawBuf) (bytes : List UInt8)
    (allocations : List Bool) : Bool × RawBuf × List Bool :=
  match buf.ensure fresh (buf.len + bytes.length) allocations with
  | (true, grown, rest) =>
      (true,
        { data := grown.data.take grown.len ++ bytes ++
            grown.data.drop (grown.len + bytes.length)
          len := grown.len + bytes.length }, rest)
  | (false, grown, rest) => (false, grown, rest)

def appendAll (fresh : Nat → UInt8) (buf : RawBuf) :
    List (List UInt8) → List Bool → Bool × RawBuf × List Bool
  | [], allocations => (true, buf, allocations)
  | bytes :: more, allocations =>
      match buf.appendSlice fresh bytes allocations with
      | (true, longer, rest) => longer.appendAll fresh more rest
      | (false, longer, rest) => (false, longer, rest)

/-- The tag buffer at the call of `RTMP_Write`. -/
def fillTag (fresh : Nat → UInt8) (tag : RawBuf) (tagType : UInt8) (tsMs : UInt32)
    (body : List UInt8) (allocations : List Bool) : Bool × RawBuf × List Bool :=
  ({ tag with len := 0 }).appendAll fresh (flvTagPieces tagType tsMs body) allocations

end RawBuf

theorem le_growCapacity {fuel newCap cap : Nat} (small : cap < 2 ^ 64)
    (enough : cap ≤ newCap * 2 ^ fuel) : cap ≤ Buf.growCapacity fuel newCap cap := by
  induction fuel generalizing newCap with
  | zero => simpa [Buf.growCapacity] using enough
  | succ fuel inductionHypothesis =>
      rw [Buf.growCapacity]
      split
      next short =>
        apply inductionHypothesis
        rcases Nat.le_total (newCap * 2) (2 ^ 64 - 1) with within | beyond
        · rw [Nat.min_eq_left within, Nat.mul_assoc, ← Nat.pow_succ']
          exact enough
        · rw [Nat.min_eq_right beyond]
          have least := Nat.le_mul_of_pos_right (2 ^ 64 - 1) (Nat.two_pow_pos fuel)
          omega
      next reached => exact Nat.le_of_not_lt reached

theorem le_growCapacity_usize (length : Nat) {cap : Nat} (small : cap < 2 ^ 64) :
    cap ≤ Buf.growCapacity 64 (if length = 0 then 4096 else length) cap := by
  apply le_growCapacity small
  have positive : 1 ≤ if length = 0 then 4096 else length := by
    split <;> omega
  have least := Nat.mul_le_mul_right (2 ^ 64) positive
  omega

namespace RawBuf

def Fits (buf : RawBuf) : Prop := buf.len ≤ buf.data.length

/-- A result over the whole allocation and one over the bytes in use say the same. -/
structure Shows (raw : Bool × RawBuf × List Bool) (seen : Bool × Buf × List Bool) : Prop where
  ok : raw.1 = seen.1
  view : raw.2.1.view = seen.2.1
  rest : raw.2.2 = seen.2.2
  fits : raw.2.1.Fits

theorem ensure_shows (fresh : Nat → UInt8) {buf : RawBuf} {cap : Nat} (fits : buf.Fits)
    (small : cap < 2 ^ 64) (allocations : List Bool) :
    Shows (buf.ensure fresh cap allocations) (buf.view.ensure cap allocations) ∧
      (buf.ensure fresh cap allocations).2.1.len = buf.len ∧
      ((buf.ensure fresh cap allocations).1 = true →
        cap ≤ (buf.ensure fresh cap allocations).2.1.data.length) := by
  have capacity : buf.view.capacity = buf.data.length := rfl
  rw [ensure, Buf.ensure, capacity]
  split
  next room => exact ⟨⟨rfl, rfl, rfl, fits⟩, rfl, fun _ => room⟩
  next short =>
    obtain ⟨granted, rest⟩ := allocate allocations
    cases granted with
    | false => exact ⟨⟨rfl, rfl, rfl, fits⟩, rfl, nofun⟩
    | true =>
        have reached := le_growCapacity_usize buf.data.length small
        dsimp only
        generalize Buf.growCapacity 64 (if buf.data.length = 0 then 4096 else buf.data.length)
          cap = newCap at reached ⊢
        have size : (buf.data ++ (List.range (newCap - buf.data.length)).map fresh).length =
            newCap := by
          rw [List.length_append, List.length_map, List.length_range]
          omega
        refine ⟨⟨rfl, ?_, rfl, ?_⟩, rfl, fun _ => ?_⟩
        · rw [view, size, List.take_append_of_le_length fits]
          rfl
        · rw [Fits, List.length_append]
          exact Nat.le_trans fits (Nat.le_add_right _ _)
        · rw [size]
          exact reached

theorem appendSlice_shows (fresh : Nat → UInt8) {buf : RawBuf} {bytes : List UInt8}
    (fits : buf.Fits) (small : buf.len + bytes.length < 2 ^ 64) (allocations : List Bool) :
    Shows (buf.appendSlice fresh bytes allocations) (buf.view.appendSlice bytes allocations) ∧
      (buf.appendSlice fresh bytes allocations).2.1.len ≤ buf.len + bytes.length := by
  have used : buf.view.items.length = buf.len := List.length_take_of_le fits
  obtain ⟨shows_, sameLen, room⟩ := ensure_shows fresh fits small allocations
  rw [appendSlice, Buf.appendSlice, used]
  generalize buf.ensure fresh (buf.len + bytes.length) allocations = raw at shows_ sameLen room ⊢
  generalize buf.view.ensure (buf.len + bytes.length) allocations = seen at shows_ ⊢
  obtain ⟨ok, grown, rest⟩ := raw
  obtain ⟨seenOk, seenGrown, seenRest⟩ := seen
  obtain ⟨rfl, rfl, rfl, inside⟩ := shows_
  cases ok with
  | false => exact ⟨⟨rfl, rfl, rfl, inside⟩, by rw [show grown.len = buf.len from sameLen]; omega⟩
  | true =>
      have enough := room rfl
      dsimp only at sameLen enough
      rw [← sameLen] at enough
      have front : (grown.data.take grown.len ++ bytes).length = grown.len + bytes.length := by
        rw [List.length_append, List.length_take_of_le inside]
      have whole : (grown.data.take grown.len ++ bytes ++
          grown.data.drop (grown.len + bytes.length)).length = grown.data.length := by
        rw [List.length_append, front, List.length_drop]
        omega
      refine ⟨⟨rfl, ?_, rfl, ?_⟩, ?_⟩
      · dsimp only
        rw [view, whole, ← front, List.take_left]
        rfl
      · rw [Fits, whole]
        exact enough
      · exact Nat.le_of_eq (congrArg (· + bytes.length) sameLen)

/-- Appends over the whole allocation leave in use what appends to the bytes in use leave. -/
theorem appendAll_shows (fresh : Nat → UInt8) {buf : RawBuf} {pieces : List (List UInt8)}
    (fits : buf.Fits) (small : buf.len + pieces.flatten.length < 2 ^ 64)
    (allocations : List Bool) :
    Shows (buf.appendAll fresh pieces allocations) (buf.view.appendAll pieces allocations) := by
  induction pieces generalizing buf allocations with
  | nil => exact ⟨rfl, rfl, rfl, fits⟩
  | cons bytes more inductionHypothesis =>
      rw [List.flatten_cons, List.length_append] at small
      obtain ⟨shows_, sameLen⟩ := appendSlice_shows fresh fits
        (show buf.len + bytes.length < 2 ^ 64 by omega) allocations
      rw [appendAll, Buf.appendAll]
      generalize buf.appendSlice fresh bytes allocations = raw at shows_ sameLen ⊢
      generalize buf.view.appendSlice bytes allocations = seen at shows_ ⊢
      obtain ⟨ok, longer, rest⟩ := raw
      obtain ⟨seenOk, seenLonger, seenRest⟩ := seen
      obtain ⟨rfl, rfl, rfl, inside⟩ := shows_
      cases ok with
      | false => exact ⟨rfl, rfl, rfl, inside⟩
      | true =>
          dsimp only at sameLen
          have left : longer.len + more.flatten.length < 2 ^ 64 := by omega
          exact inductionHypothesis inside left rest

end RawBuf

theorem length_flvTagPieces (tagType : UInt8) (tsMs : UInt32) (body : List UInt8) :
    (flvTagPieces tagType tsMs body).flatten.length = 15 + body.length := by
  simp only [flvTagPieces, List.flatten_append, flatten_eachByte, List.length_append,
    List.flatten_cons, List.flatten_nil, List.append_nil, bigEndian32, bigEndian24,
    List.length_cons, List.length_nil]
  omega

/-- An earlier tag in the allocation changes nothing about the next one. -/
theorem RawBuf.fillTag_shows (fresh : Nat → UInt8) (tag : RawBuf) (tagType : UInt8)
    (tsMs : UInt32) {body : List UInt8} (within : body.length ≤ 0xFFFFFF)
    (allocations : List Bool) :
    Shows (tag.fillTag fresh tagType tsMs body allocations)
      (({ tag.view with items := [] } : Buf).appendAll (flvTagPieces tagType tsMs body)
        allocations) := by
  have small : 0 + (flvTagPieces tagType tsMs body).flatten.length < 2 ^ 64 := by
    rw [length_flvTagPieces]
    omega
  have emptied : ({ tag with len := 0 } : RawBuf).Fits := Nat.zero_le _
  exact appendAll_shows fresh emptied small allocations

/-- Whatever the tag buffer held: a body within the limit goes out as one tag that is read
back with its type, time stamp and body, and with the size of the tag behind it.  The bytes
of an earlier tag that still lie in the allocation are not part of it.  A longer body leaves
everything as it is. -/
theorem writeFlvTag_round_trip (muxer : Muxer) (tagType : UInt8) (tsMs : UInt32)
    (body : List UInt8) :
    (body.length ≤ 0xFFFFFF → Granted muxer.allocations →
      ∃ write, (muxer.writeFlvTag tagType tsMs body).2.wire = muxer.wire ++ [write] ∧
        (muxer.writeFlvTag tagType tsMs body).1 = write.succeeded ∧
        readFlvTag write.bytes = some (⟨tagType, tsMs.toNat, 0, body, 11 + body.length⟩, []) ∧
        ∀ (fresh : Nat → UInt8) (tag : RawBuf), tag.Fits → tag.view = muxer.transport.tag →
          let filled := tag.fillTag fresh tagType tsMs body muxer.allocations
          filled.1 = true ∧ filled.2.1.data.take filled.2.1.len = write.bytes) ∧
    (0xFFFFFF < body.length → muxer.writeFlvTag tagType tsMs body = (false, muxer)) := by
  constructor
  · intro within granted
    have limit : ¬withinTagLimit body.length = false := by
      simpa [withinTagLimit] using within
    have appended := (({ muxer.transport.tag with items := [] } : Buf).appendAll_granted
      (flvTagPieces tagType tsMs body) granted).1
    have items := Buf.appendAll_items appended
    have written : ∀ fresh (tag : RawBuf), tag.Fits → tag.view = muxer.transport.tag →
        RawBuf.Shows (tag.fillTag fresh tagType tsMs body muxer.allocations)
          (({ muxer.transport.tag with items := [] } : Buf).appendAll
            (flvTagPieces tagType tsMs body) muxer.allocations) := by
      intro fresh tag _ same
      rw [← same]
      exact RawBuf.fillTag_shows fresh tag tagType tsMs within _
    rw [Muxer.writeFlvTag, if_neg limit]
    generalize ({ muxer.transport.tag with items := [] } : Buf).appendAll
      (flvTagPieces tagType tsMs body) muxer.allocations = outcome at appended items written ⊢
    obtain ⟨ok, tag, rest⟩ := outcome
    cases appended
    dsimp only at items
    refine ⟨_, rfl, rfl, ?_, ?_⟩
    · dsimp only
      rw [items, List.nil_append, ← List.append_nil (flvTagPieces tagType tsMs body).flatten]
      exact readFlvTag_flvTagPieces tagType tsMs within []
    · intro fresh raw fits same filled
      have shows_ := written fresh raw fits same
      exact ⟨shows_.ok, congrArg Buf.items shows_.view⟩
  · intro beyond
    have refused : withinTagLimit body.length = false := by
      simpa [withinTagLimit] using beyond
    rw [Muxer.writeFlvTag, if_pos refused]

end RejiStudio.Rtmp
