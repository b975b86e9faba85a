import RejiStudio.Rtmp.Transport

/-!
# From Annex-B to length-prefixed units

With memory to spare, the frame body holds the units of the packet behind their
lengths, without the parameter sets and the delimiters.
-/

namespace RejiStudio.Rtmp

open RejiStudio.Lib

def nalType : List UInt8 → UInt8
  | [] => 0
  | header :: _ => header &&& 0x1F

/-- The units that `rj_rtmp_send` puts into the frame body. -/
def carried (nal : List UInt8) : Bool :=
  nalType nal != 7 && nalType nal != 8 && nalType nal != 9

/-- The body is a prefix that was there and one length-prefixed unit for each
element of a list. -/
structure Frame.Holds (frame : Frame) (start : Frame) (units : List (List UInt8)) : Prop where
  granted : Granted frame.muxer.allocations
  body : frame.muxer.transport.body.items =
    start.muxer.transport.body.items ++ (units.filter carried).flatMap writeUnit
  keyframe : frame.isKeyframe = (start.isKeyframe || units.any fun nal => nalType nal == 5)
  wire : frame.muxer.wire = start.muxer.wire

theorem dupeParamSet_granted (nal : List UInt8) (seqSent : Bool) {allocations : List Bool}
    (granted : Granted allocations) :
    (dupeParamSet nal seqSent allocations).ok = true ∧
      Granted (dupeParamSet nal seqSent allocations).allocations := by
  obtain ⟨ok, rest⟩ := allocate_granted granted
  unfold dupeParamSet
  split <;> rename_i left asked <;> rw [asked] at ok rest
  · exact ⟨rfl, rest⟩
  · cases ok

theorem updateParamSet_granted (slot : Option (List UInt8)) (nal : List UInt8) (seqSent : Bool)
    {allocations : List Bool} (granted : Granted allocations) :
    (updateParamSet slot nal seqSent allocations).ok = true ∧
      Granted (updateParamSet slot nal seqSent allocations).allocations := by
  cases slot with
  | none => exact dupeParamSet_granted nal seqSent granted
  | some old =>
      unfold updateParamSet
      dsimp only
      split
      next => exact ⟨rfl, granted⟩
      next => exact dupeParamSet_granted nal false granted

namespace Frame

theorem visitNal_holds {frame : Frame} (granted : Granted frame.muxer.allocations)
    {nal : List UInt8} (nonempty : nal ≠ []) :
    (frame.visitNal nal).1 = true ∧ (frame.visitNal nal).2.Holds frame [nal] := by
  cases nal with
  | nil => exact absurd rfl nonempty
  | cons header payload =>
      simp only [visitNal]
      split
      next sps =>
        obtain ⟨ok, rest⟩ := updateParamSet_granted frame.muxer.transport.sps (header :: payload)
          frame.muxer.transport.seqSent granted
        simp only [storeSps]
        refine ⟨ok, rest, ?_, ?_, rfl⟩ <;> simp [carried, nalType, sps]
      next notSps =>
        split
        next pps =>
          obtain ⟨ok, rest⟩ := updateParamSet_granted frame.muxer.transport.pps
            (header :: payload) frame.muxer.transport.seqSent granted
          simp only [storePps]
          refine ⟨ok, rest, ?_, ?_, rfl⟩ <;> simp [carried, nalType, pps]
        next notPps =>
          split
          next delimiter =>
            refine ⟨rfl, granted, ?_, ?_, rfl⟩ <;> simp [carried, nalType, delimiter]
          next notDelimiter =>
            have kept : carried (header :: payload) = true := by
              simp [carried, nalType, notSps, notPps, notDelimiter]
            obtain ⟨ok, rest⟩ := frame.muxer.transport.body.appendAll_granted
              (eachByte (bigEndian32 (UInt32.ofNat (header :: payload).length)) ++
                [header :: payload]) granted
            have items := Buf.appendAll_items ok
            simp only [appendUnit]
            refine ⟨ok, rest, ?_, ?_, rfl⟩
            · rw [List.filter_singleton, kept, items]
              simp [writeUnit]
            · simp [nalType]

theorem visitNals_holds {frame : Frame} (granted : Granted frame.muxer.allocations)
    {nals : List (List UInt8)} (nonempty : ∀ nal ∈ nals, nal ≠ []) :
    (frame.visitNals nals).1 = true ∧ (frame.visitNals nals).2.Holds frame nals := by
  induction nals generalizing frame with
  | nil => exact ⟨rfl, granted, by simp [visitNals], by simp [visitNals], rfl⟩
  | cons nal rest inductionHypothesis =>
      have visited := visitNal_holds granted (nonempty nal List.mem_cons_self)
      unfold visitNals
      split <;> rename_i next visit <;> rw [visit] at visited
      · obtain ⟨_, held⟩ := visited
        obtain ⟨ok, restHeld⟩ := inductionHypothesis held.granted
          fun nal membership => nonempty nal (List.mem_cons_of_mem _ membership)
        refine ⟨ok, restHeld.granted, ?_, ?_, restHeld.wire.trans held.wire⟩
        · rw [restHeld.body, held.body, List.append_assoc, ← List.flatMap_append,
            ← List.filter_append]
          rfl
        · rw [restHeld.keyframe, held.keyframe, List.any_cons, Bool.or_assoc]
          simp
      · cases visited.1

end Frame

namespace Muxer

theorem accumulate_annexB {muxer : Muxer} (granted : Granted muxer.allocations)
    {units : List (List UInt8 × Bool)} (clean : ∀ unit ∈ units, unit.1 ≠ [] ∧ Clean unit.1) :
    (muxer.accumulate (annexB units)).1 = true ∧
      (muxer.accumulate (annexB units)).2.muxer.transport.body.items =
        ((units.map Prod.fst).filter carried).flatMap writeUnit ∧
      (muxer.accumulate (annexB units)).2.isKeyframe =
        ((units.map Prod.fst).any fun nal => nalType nal == 5) ∧
      (muxer.accumulate (annexB units)).2.muxer.wire = muxer.wire := by
  have nonempty : ∀ nal ∈ units.map Prod.fst, nal ≠ [] := by
    intro nal membership
    obtain ⟨unit, present, rfl⟩ := List.mem_map.mp membership
    exact (clean unit present).1
  let emptied := { muxer.transport with body := { muxer.transport.body with items := [] } }
  let start : Frame := ⟨{ muxer with transport := emptied }, false, false⟩
  have startGranted : Granted start.muxer.allocations := granted
  obtain ⟨ok, held⟩ := Frame.visitNals_holds startGranted nonempty
  unfold accumulate
  rw [nalUnits_annexB clean]
  exact ⟨ok, held.body, held.keyframe, held.wire⟩

/-- Every coded-video tag of a packet carries the frame body behind the key-frame
mark. -/
theorem sendPacket_wire {muxer : Muxer} {data : List UInt8}
    (accumulated : (muxer.accumulate data).1 = true) (ptsUs : Int64) :
    (muxer.sendPacket data ptsUs).2.transport.body =
        (muxer.accumulate data).2.muxer.transport.body ∧
      ∃ added, (muxer.sendPacket data ptsUs).2.wire =
          (muxer.accumulate data).2.muxer.wire ++ added ∧
        ∀ tag ∈ added, tag.isCodedVideo = true →
          tag.body =
            [if (muxer.accumulate data).2.isKeyframe then 0x17 else 0x27, 0x01, 0x00, 0x00, 0x00] ++
              (muxer.accumulate data).2.muxer.transport.body.items := by
  unfold sendPacket
  split <;> rename_i frame visited <;> rw [visited] at accumulated ⊢
  · cases accumulated
  · dsimp only
    obtain ⟨headerBody, _, _, headerWire⟩ :=
      frame.muxer.sendSequenceHeader_cases frame.haveFrameData
    have headerAdded : ∃ added, (frame.muxer.sendSequenceHeader frame.haveFrameData).2.wire =
        frame.muxer.wire ++ added ∧ ∀ tag ∈ added, tag.isCodedVideo = false := by
      rcases headerWire with ⟨wire, _⟩ | ⟨_, _, config, write, _, _, _, wire, _, body, _⟩
      · exact ⟨[], by simpa using wire, by simp⟩
      · refine ⟨[write], wire, ?_⟩
        simp [TagWrite.isCodedVideo, body]
    obtain ⟨added, wire, notCoded⟩ := headerAdded
    have noCoded : ∀ tag ∈ added, tag.isCodedVideo = true → False := by
      intro tag membership coded
      rw [notCoded tag membership] at coded
      cases coded
    split
    next answer sent header =>
      rw [header] at headerBody wire
      exact ⟨headerBody, added, wire, fun tag membership coded =>
        (noCoded tag membership coded).elim⟩
    next sent header =>
      rw [header] at headerBody wire
      split
      next =>
        obtain ⟨_, frameBody, frameWire⟩ := sent.sendFrame_wrote frame.isKeyframe ptsUs
        refine ⟨frameBody.trans headerBody, ?_⟩
        rcases frameWire with ⟨_, same⟩ | ⟨write, last, _, _, _, body, _⟩
        · exact ⟨added, same.trans wire, fun tag membership coded =>
            (noCoded tag membership coded).elim⟩
        · refine ⟨added ++ [write], ?_, ?_⟩
          · rw [last, wire, List.append_assoc]
          · intro tag membership coded
            rcases List.mem_append.mp membership with before | here
            · exact (noCoded tag before coded).elim
            · obtain rfl := List.mem_singleton.mp here
              rw [body, headerBody]
      next =>
        exact ⟨headerBody, added, wire, fun tag membership coded =>
          (noCoded tag membership coded).elim⟩

/-- Units that hold no start code and do not end in zero come back, but for the
parameter sets and the delimiters, when the frame body is read as length-prefixed
units; the frame is a key frame exactly when some unit has type five.  The coded
tag that goes out carries this body and this mark. -/
theorem annexB_avcc_roundTrip (muxer : Muxer) (granted : Granted muxer.allocations)
    (units : List (List UInt8 × Bool))
    (clean : ∀ unit ∈ units,
      unit.1 ≠ [] ∧ ¬[0, 0, 1] <:+: unit.1 ∧ unit.1.getLast? ≠ some 0)
    (size : (annexB units).length ≤ 0xFFFFFF) :
    (muxer.accumulate (annexB units)).1 = true ∧
    readUnits (muxer.accumulate (annexB units)).2.muxer.transport.body.items =
      some ((units.map Prod.fst).filter carried) ∧
    ((muxer.accumulate (annexB units)).2.isKeyframe = true ↔
      ∃ unit ∈ units, nalType unit.1 = 5) ∧
    (units ≠ [] → muxer.transport.rtmp = true → muxer.isConnected.1 = true → ∀ ptsUs,
      let sent := (muxer.rjRtmpSend (some (annexB units)) (annexB units).length ptsUs).2
      readUnits sent.transport.body.items = some ((units.map Prod.fst).filter carried) ∧
      ∃ added, sent.wire = muxer.wire ++ added ∧
        ∀ tag ∈ added, tag.isCodedVideo = true →
          ∃ mark body, tag.body = [mark, 0x01, 0x00, 0x00, 0x00] ++ body ∧
            readUnits body = some ((units.map Prod.fst).filter carried) ∧
            (mark = 0x17 ↔ ∃ unit ∈ units, nalType unit.1 = 5)) := by
  have cleanUnits : ∀ unit ∈ units, unit.1 ≠ [] ∧ Clean unit.1 := by
    intro unit membership
    obtain ⟨nonempty, noStartCode, noTrailingZero⟩ := clean unit membership
    exact ⟨nonempty, noStartCode, noTrailingZero⟩
  have small : ∀ nal ∈ (units.map Prod.fst).filter carried, nal.length < 4294967296 := by
    intro nal membership
    obtain ⟨unit, present, rfl⟩ := List.mem_map.mp (List.mem_of_mem_filter membership)
    have within := length_le_length_annexB_of_mem present
    omega
  have readBack := readUnits_flatMap_writeUnit small
  have typeFive : ((units.map Prod.fst).any fun nal => nalType nal == 5) = true ↔
      ∃ unit ∈ units, nalType unit.1 = 5 := by
    simp
  obtain ⟨ok, body, keyframe, _⟩ := accumulate_annexB granted cleanUnits
  refine ⟨ok, by rw [body]; exact readBack, by rw [keyframe]; exact typeFive, ?_⟩
  intro nonempty initialised connected ptsUs sent
  obtain ⟨_, sameWire, sameAllocations⟩ := muxer.isConnected_same
  have checkedGranted : Granted muxer.isConnected.2.allocations := sameAllocations ▸ granted
  have positive : (annexB units).length ≠ 0 := by
    intro empty
    have bound := length_le_length_annexB units
    exact nonempty (List.length_eq_zero_iff.mp (by omega))
  have passed : muxer.rjRtmpSend (some (annexB units)) (annexB units).length ptsUs =
      muxer.isConnected.2.sendPacket (annexB units) ptsUs := by
    have connection : muxer.isConnected = (true, muxer.isConnected.2) :=
      Prod.ext connected rfl
    have notTooLong : ¬maxVideoPacketBytes < (annexB units).length := by
      simpa [maxVideoPacketBytes] using size
    rw [rjRtmpSend, if_neg (by simp [initialised]), connection]
    simp only [if_neg positive, if_neg notTooLong, List.take_length]
  obtain ⟨checkedOk, checkedBody, checkedKeyframe, checkedWire⟩ :=
    accumulate_annexB checkedGranted cleanUnits
  obtain ⟨sentBody, added, wire, coded⟩ := sendPacket_wire checkedOk ptsUs
  unfold sent
  rw [passed, sentBody, checkedBody]
  refine ⟨readBack, added, by rw [wire, checkedWire, sameWire], ?_⟩
  intro tag membership isCoded
  refine ⟨_, _, coded tag membership isCoded, ?_, ?_⟩
  · rw [checkedBody]
    exact readBack
  · rw [checkedKeyframe, ← typeFive]
    split <;> simp_all

theorem annexB_avcc_roundTrip_mixed :
    let units : List (List UInt8 × Bool) :=
      [([0x67, 66, 0, 30], false), ([0x68, 9], true), ([0x65, 0, 0, 3], false), ([0x09, 16], true)]
    readUnits ((create true [] [] []).accumulate (annexB units)).2.muxer.transport.body.items =
      some [[0x65, 0, 0, 3]] :=
  (annexB_avcc_roundTrip (create true [] [] []) granted_nil
    [([0x67, 66, 0, 30], false), ([0x68, 9], true), ([0x65, 0, 0, 3], false), ([0x09, 16], true)]
    (by decide) (by decide)).2.1

end Muxer

end RejiStudio.Rtmp
