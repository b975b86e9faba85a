import RejiStudio.Rtmp.ChunkStream

/-!
# Chunk headers

The header that `RTMP_SendPacket` writes is read back field by field, for each of the four
header types; the channel number in each of its three forms.
-/

namespace RejiStudio.Rtmp

open RejiStudio.Lib

/-! ## Words -/

theorem bigEndian24_bytes (value : UInt32) :
    ∃ first second third, bigEndian24 value = [first, second, third] ∧
      readBigEndian24 first second third = value.toNat % 16777216 := by
  have bytes := bigEndian24_toNat value
  simp only [bigEndian24, List.map_cons, List.map_nil, List.cons.injEq, and_true] at bytes
  refine ⟨_, _, _, rfl, ?_⟩
  rw [readBigEndian24, bytes.1, bytes.2.1, bytes.2.2]
  omega

theorem bigEndian32_bytes (value : UInt32) :
    ∃ first second third fourth, bigEndian32 value = [first, second, third, fourth] ∧
      UInt32.ofNat (readBigEndian32 first second third fourth) = value := by
  obtain ⟨first, second, third, fourth, written, read⟩ := bigEndian32_eq value.toNat_lt
  rw [UInt32.ofNat_toNat] at written
  exact ⟨first, second, third, fourth, written, by rw [read, UInt32.ofNat_toNat]⟩

theorem readN_append (count : Nat) (first rest : List UInt8) (exact_ : first.length = count) :
    readN count (first ++ rest) = some (first, rest) := by
  subst exact_
  simp [readN]

/-! ## The first byte and the channel -/

theorem ofByte_bits_or (headerType : HeaderType) :
    ∀ low < 64, HeaderType.ofByte (headerType.bits ||| UInt8.ofNat low) = headerType ∧
      ((headerType.bits ||| UInt8.ofNat low) &&& 0x3F).toNat = low := by
  cases headerType <;> decide +kernel

theorem ofByte_continuation (headerType : HeaderType) :
    ∀ low < 64, HeaderType.ofByte (0xC0 ||| (headerType.bits ||| UInt8.ofNat low)) = .minimum ∧
      ((0xC0 ||| (headerType.bits ||| UInt8.ofNat low)) &&& 0x3F).toNat = low := by
  cases headerType <;> decide +kernel

/-- The low bits of a first byte: the channel, or the number of escape bytes less one. -/
def lowBits (channel : Nat) : Nat :=
  if channel > 319 then 1 else if channel > 63 then 0 else channel

theorem lowBits_lt (channel : Nat) : lowBits channel < 64 := by
  rw [lowBits]
  split
  · omega
  · split <;> omega

theorem firstByte_eq (headerType : HeaderType) (channel : Nat) :
    firstByte headerType channel = headerType.bits ||| UInt8.ofNat (lowBits channel) := by
  rw [firstByte, lowBits]
  split
  · rfl
  · split
    · cases headerType <;> rfl
    · rfl

theorem ofByte_firstByte (headerType : HeaderType) (channel : Nat) :
    HeaderType.ofByte (firstByte headerType channel) = headerType ∧
      (firstByte headerType channel &&& 0x3F).toNat = lowBits channel := by
  rw [firstByte_eq]
  exact ofByte_bits_or headerType _ (lowBits_lt channel)

theorem ofByte_laterByte (headerType : HeaderType) (channel : Nat) :
    HeaderType.ofByte (0xC0 ||| firstByte headerType channel) = .minimum ∧
      ((0xC0 ||| firstByte headerType channel) &&& 0x3F).toNat = lowBits channel := by
  rw [firstByte_eq]
  exact ofByte_continuation headerType _ (lowBits_lt channel)

/-- A channel number that the three forms of the first bytes can hold. -/
def Addressable (channel : Nat) : Prop := 2 ≤ channel ∧ channel < 65600

instance decidableAddressable (channel : Nat) : Decidable (Addressable channel) :=
  inferInstanceAs (Decidable (2 ≤ channel ∧ channel < 65600))

theorem readChannel_channelBytes {channel : Nat} (addressable : Addressable channel)
    (rest : List UInt8) :
    readChannel (lowBits channel) (channelBytes channel ++ rest) = some (channel, rest) := by
  obtain ⟨least, most⟩ := addressable
  rw [readChannel, lowBits, channelBytes]
  by_cases large : channel > 319
  · have low : (UInt8.ofNat (channel - 64)).toNat = (channel - 64) % 256 := by simp
    have high : (UInt8.ofNat ((channel - 64) / 256)).toNat = (channel - 64) / 256 := by
      simp only [UInt8.toNat_ofNat']
      omega
    simp only [if_pos large, one_ne_zero, if_false, if_true]
    rw [readN_append 2 _ _ rfl]
    simp only [Option.map_some, List.getD_cons_succ, List.getD_cons_zero, low, high]
    congr 2
    omega
  · by_cases middle : channel > 63
    · have low : (UInt8.ofNat (channel - 64)).toNat = channel - 64 := by
        simp only [UInt8.toNat_ofNat']
        omega
      simp only [if_neg large, if_pos middle, if_true]
      rw [readN_append 1 _ _ rfl]
      simp only [Option.map_some, List.getD_cons_zero, low]
      congr 2
      omega
    · have notZero : channel ≠ 0 := by omega
      have notOne : channel ≠ 1 := by omega
      simp [large, middle, notZero, notOne]

/-! ## The fields -/

def stampField (t : UInt32) : UInt32 := if t > 0xFFFFFF then 0xFFFFFF else t

theorem stampField_eq (t : UInt32) :
    (stampField t).toNat % 16777216 = min t.toNat 16777215 := by
  rw [stampField]
  split
  · rename_i beyond
    have greater : 16777215 < t.toNat := UInt32.lt_iff_toNat_lt.mp beyond
    have field : (0xFFFFFF : UInt32).toNat = 16777215 := rfl
    omega
  · rename_i within
    have least : t.toNat ≤ 16777215 := by
      have greater := UInt32.lt_iff_toNat_lt.not.mp within
      have field : (0xFFFFFF : UInt32).toNat = 16777215 := rfl
      omega
    omega

theorem extended_iff (t : UInt32) :
    UInt32.ofNat ((stampField t).toNat % 16777216) = 0xFFFFFF ↔ t ≥ 0xFFFFFF := by
  have field : (0xFFFFFF : UInt32).toNat = 16777215 := rfl
  rw [stampField_eq, ← UInt32.toNat_inj, ge_iff_le, UInt32.le_iff_toNat_le, field,
    UInt32.toNat_ofNat']
  have bound := t.toNat_lt
  omega

theorem stamp_short {t : UInt32} (short : ¬ t ≥ 0xFFFFFF) :
    UInt32.ofNat ((stampField t).toNat % 16777216) = t := by
  have field : (0xFFFFFF : UInt32).toNat = 16777215 := rfl
  rw [ge_iff_le, UInt32.le_iff_toNat_le, field] at short
  rw [stampField_eq, Nat.min_eq_left (by omega), UInt32.ofNat_toNat]

/-- What a packet says about itself in a header: the fields that a header of its type leaves
out stay as they are in `base`. -/
def announced (sent base : RtmpPacket) (t : UInt32) : RtmpPacket :=
  match sent.headerType with
  | .large =>
      { base with
        timestamp := t, bodySize := sent.bodySize, bytesRead := 0, packetType := sent.packetType
        infoField2 := sent.infoField2 }
  | .medium =>
      { base with
        timestamp := t, bodySize := sent.bodySize, bytesRead := 0, packetType := sent.packetType }
  | .small => { base with timestamp := t }
  | .minimum => base

def headerRest (sent : RtmpPacket) (t : UInt32) : List UInt8 :=
  let nSize := sent.headerType.packetSize
  (if nSize > 1 then bigEndian24 (stampField t) else []) ++
    (if nSize > 4 then bigEndian24 (UInt32.ofNat sent.bodySize) ++ [sent.packetType] else []) ++
    (if nSize > 8 then encodeInt32LE sent.infoField2 else []) ++
    (if nSize > 1 ∧ t ≥ 0xFFFFFF then bigEndian32 t else [])

theorem packetHeader_eq (sent : RtmpPacket) (t : UInt32) :
    packetHeader sent t =
      firstByte sent.headerType sent.channel :: (channelBytes sent.channel ++ headerRest sent t) := by
  simp only [packetHeader, headerRest, stampField, List.append_assoc, List.cons_append]

theorem decodeInt32_bigEndian32 (value : UInt32) : decodeInt32 (bigEndian32 value) 0 = value := by
  obtain ⟨first, second, third, fourth, written, read⟩ := bigEndian32_bytes value
  rw [written]
  exact read

/-- The extended time stamp behind a header whose time stamp field says so. -/
theorem readExtendedTimestamp_written {filled : RtmpPacket} {t : UInt32} {nSize : Nat}
    (stamped : nSize ≥ 3)
    (field : filled.timestamp = UInt32.ofNat ((stampField t).toNat % 16777216))
    (rest : List UInt8) :
    readExtendedTimestamp nSize filled ((if t ≥ 0xFFFFFF then bigEndian32 t else []) ++ rest) =
      some ({ filled with timestamp := t }, decide (t ≥ 0xFFFFFF), rest) := by
  rw [readExtendedTimestamp]
  by_cases long : t ≥ 0xFFFFFF
  · have full : filled.timestamp = 0xFFFFFF := by rw [field, extended_iff]; exact long
    rw [if_pos ⟨stamped, full⟩, if_pos long, readN_append 4 _ _ rfl]
    simp only [Option.map_some, decodeInt32_bigEndian32, long, decide_true]
  · have partly : ¬ (nSize ≥ 3 ∧ filled.timestamp = 0xFFFFFF) := by
      rw [field, extended_iff]
      exact fun both => long both.2
    have same : filled.timestamp = t := by rw [field, stamp_short long]
    rw [if_neg partly, if_neg long, List.nil_append]
    subst same
    simp [long]

theorem readHeader_headerRest (sent base : RtmpPacket) (t : UInt32) (small : sent.bodySize < 16777216)
    (rest : List UInt8) :
    readHeader sent.headerType base (headerRest sent t ++ rest) =
      some (announced sent base t,
        decide (sent.headerType ≠ .minimum ∧ t ≥ 0xFFFFFF), rest) := by
  obtain ⟨ts2, ts1, ts0, stampWritten, stampRead⟩ := bigEndian24_bytes (stampField t)
  obtain ⟨size2, size1, size0, sizeWritten, sizeRead⟩ := bigEndian24_eq small
  obtain ⟨info3, info2, info1, info0, infoWritten, infoRead⟩ := bigEndian32_bytes sent.infoField2
  cases type : sent.headerType with
  | large =>
      have bytes : headerRest sent t ++ rest =
          [ts2, ts1, ts0, size2, size1, size0, sent.packetType, info0, info1, info2, info3] ++
            ((if t ≥ 0xFFFFFF then bigEndian32 t else []) ++ rest) := by
        simp [headerRest, type, HeaderType.packetSize, stampWritten, sizeWritten, encodeInt32LE,
          infoWritten]
      rw [bytes, readHeader]
      simp only [HeaderType.packetSize]
      rw [readN_append 11 _ _ rfl, Option.bind_some]
      rw [readExtendedTimestamp_written (by decide)
        (by simp [headerFields, decodeInt24, stampRead])]
      simp [headerFields, decodeInt24, decodeInt32LE, sizeRead, infoRead, announced, type]
  | medium =>
      have bytes : headerRest sent t ++ rest =
          [ts2, ts1, ts0, size2, size1, size0, sent.packetType] ++
            ((if t ≥ 0xFFFFFF then bigEndian32 t else []) ++ rest) := by
        simp [headerRest, type, HeaderType.packetSize, stampWritten, sizeWritten]
      rw [bytes, readHeader]
      simp only [HeaderType.packetSize]
      rw [readN_append 7 _ _ rfl, Option.bind_some]
      rw [readExtendedTimestamp_written (by decide)
        (by simp [headerFields, decodeInt24, stampRead])]
      simp [headerFields, decodeInt24, sizeRead, announced, type]
  | small =>
      have bytes : headerRest sent t ++ rest =
          [ts2, ts1, ts0] ++ ((if t ≥ 0xFFFFFF then bigEndian32 t else []) ++ rest) := by
        simp [headerRest, type, HeaderType.packetSize, stampWritten]
      rw [bytes, readHeader]
      simp only [HeaderType.packetSize]
      rw [readN_append 3 _ _ rfl, Option.bind_some]
      rw [readExtendedTimestamp_written (by decide)
        (by simp [headerFields, decodeInt24, stampRead])]
      simp [headerFields, announced, type]
  | minimum =>
      simp [headerRest, type, HeaderType.packetSize, readHeader, readN, headerFields,
        readExtendedTimestamp, announced]

end RejiStudio.Rtmp
