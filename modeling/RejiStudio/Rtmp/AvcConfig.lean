import RejiStudio.Rtmp.RoundTrip
import RejiStudio.Rtmp.SequenceHeader

/-!
# AVC configuration records

A reader of the record takes the two parameter sets back from behind their 16-bit lengths.
The writer keeps the low 16 bits of a length, whatever the length, and the sender stores
parameter sets of any length that fits in a packet.
-/

namespace RejiStudio.Rtmp

open RejiStudio.Lib

def readBigEndian16 (high low : UInt8) : Nat := high.toNat * 256 + low.toNat

def readParameterSet : List UInt8 → Option (List UInt8 × List UInt8)
  | high :: low :: rest =>
      let length := readBigEndian16 high low
      if length ≤ rest.length then some (rest.take length, rest.drop length) else none
  | _ => none

/-- The parameter sets of a record with one of each, and nothing behind them. -/
def parseParameterSets (spsCount : UInt8) (bytes : List UInt8) :
    Option (List UInt8 × List UInt8) :=
  if spsCount &&& 0x1F = 1 then
    match readParameterSet bytes with
    | some (sps, ppsCount :: bytes) =>
        if ppsCount = 1 then
          match readParameterSet bytes with
          | some (pps, []) => some (sps, pps)
          | _ => none
        else none
    | _ => none
  else none

/-- A parser of the `AVCDecoderConfigurationRecord`, ISO 14496-15, 5.2.4.1: version,
profile, compatibility and level, the size of the lengths, and the parameter sets.  The upper
bits of the size and of the first count are reserved, and set. -/
def parseAvcConfig : List UInt8 → Option (List UInt8 × List UInt8)
  | version :: _ :: _ :: _ :: lengthSize :: spsCount :: bytes =>
      if version = 1 ∧ lengthSize &&& 0xFC = 0xFC ∧ spsCount &&& 0xE0 = 0xE0 then
        parseParameterSets spsCount bytes
      else none
  | _ => none

/-- Whatever buffer it is appended to and whichever allocations fail, the record is either
refused or read back as the two parameter sets. -/
def ReadsBack (sps pps : List UInt8) : Prop :=
  ∀ (out : Buf) (allocations : List Bool),
    (buildAvcConfig out sps pps allocations).1 = true →
    parseAvcConfig ((buildAvcConfig out sps pps allocations).2.1.items.drop out.items.length) =
      some (sps, pps)

def lengthBytes (bytes : List UInt8) : List UInt8 :=
  [UInt8.ofNat (bytes.length >>> 8 &&& 0xFF), UInt8.ofNat (bytes.length &&& 0xFF)]

theorem readBigEndian16_length (length : Nat) :
    readBigEndian16 (UInt8.ofNat (length >>> 8 &&& 0xFF)) (UInt8.ofNat (length &&& 0xFF)) =
      length % 65536 := by
  have masked : ∀ n : Nat, n &&& 0xFF = n % 256 := fun n => Nat.and_two_pow_sub_one_eq_mod n 8
  have shifted : length >>> 8 = length / 256 := Nat.shiftRight_eq_div_pow length 8
  rw [readBigEndian16, masked, masked, shifted, UInt8.toNat_ofNat', UInt8.toNat_ofNat']
  omega

theorem length_le_of_readParameterSet {bytes set rest : List UInt8}
    (found : readParameterSet bytes = some (set, rest)) : set.length ≤ 65535 := by
  match bytes with
  | [] | [_] => cases found
  | high :: low :: bytes =>
      obtain ⟨-, same⟩ := Option.ite_none_right_eq_some.mp found
      cases same
      have longest : readBigEndian16 high low ≤ 65535 := by
        have highBound := high.toNat_lt
        have lowBound := low.toNat_lt
        rw [readBigEndian16]
        omega
      exact (List.length_take_le _ bytes).trans longest

theorem length_le_of_parseParameterSets {spsCount : UInt8} {bytes sps pps : List UInt8}
    (parsed : parseParameterSets spsCount bytes = some (sps, pps)) :
    sps.length ≤ 65535 ∧ pps.length ≤ 65535 := by
  obtain ⟨-, parsed⟩ := Option.ite_none_right_eq_some.mp parsed
  split at parsed
  next first ppsCount rest foundSps =>
    obtain ⟨-, parsed⟩ := Option.ite_none_right_eq_some.mp parsed
    split at parsed
    next second foundPps =>
      cases parsed
      exact ⟨length_le_of_readParameterSet foundSps, length_le_of_readParameterSet foundPps⟩
    next => cases parsed
  next => cases parsed

theorem readParameterSet_lengthBytes {set : List UInt8} (rest : List UInt8)
    (short : set.length ≤ 65535) :
    readParameterSet (lengthBytes set ++ (set ++ rest)) = some (set, rest) := by
  have fits : set.length ≤ (set ++ rest).length := by simp
  have length := readBigEndian16_length set.length
  rw [Nat.mod_eq_of_lt (by omega)] at length
  simp only [lengthBytes, List.cons_append, List.nil_append, readParameterSet, length,
    if_pos fits, List.take_left, List.drop_left]

/-- The record of two sets that are long enough for one. -/
def avcRecord (sps pps : List UInt8) : List UInt8 :=
  [1, sps.getD 1 0, sps.getD 2 0, sps.getD 3 0, 0xFF, 0xE1] ++
    (lengthBytes sps ++ (sps ++ (1 :: (lengthBytes pps ++ (pps ++ [])))))

theorem flatten_avcConfigPieces (sps pps : List UInt8) :
    (avcConfigPieces sps pps).flatten = avcRecord sps pps := by
  simp [avcConfigPieces, avcRecord, lengthBytes]

theorem parseAvcConfig_avcRecord (sps pps : List UInt8) :
    parseAvcConfig (avcRecord sps pps) =
      parseParameterSets 0xE1
        (lengthBytes sps ++ (sps ++ (1 :: (lengthBytes pps ++ (pps ++ []))))) := rfl

/-- The record is read back exactly when both lengths fit in 16 bits. -/
theorem parseAvcConfig_eq_iff (sps pps : List UInt8) :
    parseAvcConfig (avcRecord sps pps) = some (sps, pps) ↔
      sps.length ≤ 65535 ∧ pps.length ≤ 65535 := by
  rw [parseAvcConfig_avcRecord]
  constructor
  · exact length_le_of_parseParameterSets
  · rintro ⟨shortSps, shortPps⟩
    rw [parseParameterSets, if_pos (by decide), readParameterSet_lengthBytes _ shortSps]
    dsimp only
    rw [if_pos rfl, readParameterSet_lengthBytes [] shortPps]

theorem drop_buildAvcConfig {out : Buf} {sps pps : List UInt8} {allocations : List Bool}
    (built : (buildAvcConfig out sps pps allocations).1 = true) :
    4 ≤ sps.length ∧ pps ≠ [] ∧
      (buildAvcConfig out sps pps allocations).2.1.items.drop out.items.length =
        avcRecord sps pps := by
  unfold buildAvcConfig at built ⊢
  split at built
  next => cases built
  next long =>
    rw [not_or, Nat.not_lt, List.length_eq_zero_iff] at long
    refine ⟨long.1, long.2, ?_⟩
    rw [if_neg (by rw [not_or, Nat.not_lt, List.length_eq_zero_iff]; exact long),
      Buf.appendAll_items built, List.drop_left, flatten_avcConfigPieces]

/-- A record that is built and read back holds no set longer than 65535 bytes. -/
theorem ReadsBack.length_le {sps pps : List UInt8} (reads : ReadsBack sps pps)
    (long : 4 ≤ sps.length) (nonempty : pps ≠ []) :
    sps.length ≤ 65535 ∧ pps.length ≤ 65535 := by
  have enough : ¬(sps.length < 4 ∨ pps.length = 0) := by
    rw [not_or, Nat.not_lt, List.length_eq_zero_iff]
    exact ⟨long, nonempty⟩
  have built : (buildAvcConfig Buf.empty sps pps []).1 = true := by
    rw [buildAvcConfig, if_neg enough]
    exact (Buf.empty.appendAll_granted (avcConfigPieces sps pps) granted_nil).1
  have parsed := reads Buf.empty [] built
  obtain ⟨-, -, record⟩ := drop_buildAvcConfig built
  rw [record] at parsed
  exact (parseAvcConfig_eq_iff sps pps).mp parsed

/-- Two parameter sets are read back from their record, or have none, exactly when one of
them is too short for a record or neither is longer than 65535 bytes. -/
theorem readsBack_iff (sps pps : List UInt8) :
    ReadsBack sps pps ↔
      sps.length < 4 ∨ pps = [] ∨ (sps.length ≤ 65535 ∧ pps.length ≤ 65535) := by
  constructor
  · intro reads
    by_cases short : sps.length < 4
    · exact .inl short
    · by_cases empty : pps = []
      · exact .inr (.inl empty)
      · exact .inr (.inr (reads.length_le (Nat.not_lt.mp short) empty))
  · intro fits out allocations built
    obtain ⟨long, nonempty, record⟩ := drop_buildAvcConfig built
    rw [record, parseAvcConfig_eq_iff]
    obtain short | empty | both := fits
    · omega
    · contradiction
    · exact both

/-! ## Parameter sets that can be stored -/

def Storable (sps pps : List UInt8) : Prop :=
  ∃ calls muxer,
    Machine.exec Muxer.step (Muxer.create true [] [] []) calls = some muxer ∧
      muxer.transport.sps = some sps ∧ muxer.transport.pps = some pps

theorem accumulate_parameterSets {sps pps : List UInt8} (spsType : nalType sps = 7)
    (ppsType : nalType pps = 8) (cleanSps : Clean sps) (cleanPps : Clean pps) :
    ∃ frame, (Muxer.create true [] [] []).accumulate (annexB [(sps, false), (pps, false)]) =
        (true, frame) ∧
      frame.muxer.transport.sps = some sps ∧ frame.muxer.transport.pps = some pps ∧
      frame.haveFrameData = false := by
  cases sps with
  | nil => cases spsType
  | cons spsHeader spsPayload =>
      cases pps with
      | nil => cases ppsType
      | cons ppsHeader ppsPayload =>
          have clean : ∀ unit ∈ [(spsHeader :: spsPayload, false),
              (ppsHeader :: ppsPayload, false)], unit.1 ≠ [] ∧ Clean unit.1 := by
            simp [cleanSps, cleanPps]
          unfold Muxer.accumulate
          rw [nalUnits_annexB clean]
          simp only [nalType] at spsType ppsType
          simp [Frame.visitNals, Frame.visitNal, spsType, ppsType, Frame.storeSps,
            Frame.storePps, Muxer.create, updateParamSet, dupeParamSet, allocate]

/-- A packet of two parameter sets, in Annex B form, stores them, whatever their lengths. -/
theorem storable_of_clean {sps pps : List UInt8} (spsType : nalType sps = 7)
    (ppsType : nalType pps = 8) (cleanSps : Clean sps) (cleanPps : Clean pps)
    (fits : sps.length + pps.length + 6 ≤ maxVideoPacketBytes) : Storable sps pps := by
  have length : (annexB [(sps, false), (pps, false)]).length = sps.length + pps.length + 6 := by
    simp [startCode]
    omega
  obtain ⟨frame, accumulated, storedSps, storedPps, noFrame⟩ :=
    accumulate_parameterSets spsType ppsType cleanSps cleanPps
  refine ⟨[.send (some (annexB [(sps, false), (pps, false)]))
    (annexB [(sps, false), (pps, false)]).length 0], _, rfl, ?_⟩
  obtain ⟨-, sameSps, samePps, -⟩ := frame.muxer.sendSequenceHeader_cases frame.haveFrameData
  have sent : (Muxer.create true [] [] []).rjRtmpSend
      (some (annexB [(sps, false), (pps, false)]))
      (annexB [(sps, false), (pps, false)]).length 0 =
        (Muxer.create true [] [] []).sendPacket (annexB [(sps, false), (pps, false)]) 0 := by
    rw [Muxer.rjRtmpSend, if_neg (by decide)]
    change (if _ then _ else if _ then _ else _) = _
    rw [if_neg (by omega), if_neg (by omega)]
    dsimp only
    rw [List.take_length]
  rw [sent, Muxer.sendPacket, accumulated]
  dsimp only
  split
  next answer written header =>
    rw [header] at sameSps samePps
    exact ⟨sameSps.trans storedSps, samePps.trans storedPps⟩
  next written header =>
    rw [header] at sameSps samePps
    rw [noFrame]
    exact ⟨sameSps.trans storedSps, samePps.trans storedPps⟩

theorem clean_of_nonzero {bytes : List UInt8} (nonzero : ∀ byte ∈ bytes, byte ≠ 0) :
    Clean bytes where
  noStartCode := by
    intro inside
    exact nonzero 0 (inside.subset List.mem_cons_self) rfl
  noTrailingZero := by
    intro last
    exact nonzero 0 (List.mem_of_getLast? last) rfl

def longSps : List UInt8 := 0x67 :: List.replicate 65535 1

/-- It is stored, and its record does not hold it. -/
theorem longSps_not_readsBack :
    Storable longSps [0x68, 9] ∧ ¬ReadsBack longSps [0x68, 9] := by
  have length : longSps.length = 65536 := by
    rw [longSps, List.length_cons, List.length_replicate]
  constructor
  · refine storable_of_clean rfl rfl (clean_of_nonzero ?_) (clean_of_nonzero (by simp)) ?_
    · intro byte member
      obtain rfl | later := List.mem_cons.mp member
      · decide
      · rw [List.eq_of_mem_replicate later]
        decide
    · rw [length]
      decide
  · intro reads
    obtain ⟨fits, -⟩ := reads.length_le (by omega) (List.cons_ne_nil _ _)
    omega

end RejiStudio.Rtmp
