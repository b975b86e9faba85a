import RejiStudio.Lib.Machine
import RejiStudio.Rtmp.Transport

/-!
# The video sequence header

`seqSent` promises that the last header on the wire describes the stored
parameter sets.  Every call keeps the promise, wherever it fails.
-/

namespace RejiStudio.Rtmp

open RejiStudio.Lib

def lastVideoHeader (wire : List TagWrite) : Option TagWrite :=
  (wire.filter fun write => write.isVideoHeader && write.succeeded).getLast?

def TagWrite.Describes (header : TagWrite) (sps pps : List UInt8) : Prop :=
  ∃ config, avcConfig sps pps = some config ∧
    header.body = [0x17, 0x00, 0x00, 0x00, 0x00] ++ config

theorem lastVideoHeader_append_header {wire : List TagWrite} {write : TagWrite}
    (header : write.isVideoHeader = true) (succeeded : write.succeeded = true) :
    lastVideoHeader (wire ++ [write]) = some write := by
  simp [lastVideoHeader, List.filter_append, header, succeeded]

theorem lastVideoHeader_append_other {wire : List TagWrite} {write : TagWrite}
    (other : (write.isVideoHeader && write.succeeded) = false) :
    lastVideoHeader (wire ++ [write]) = lastVideoHeader wire := by
  simp [lastVideoHeader, List.filter_append, other]

/-- A coded-video tag follows a header for the parameter sets of its moment. -/
def CodedAfterHeader (wire : List TagWrite) : Prop :=
  ∀ before coded, before ++ [coded] <+: wire → coded.isCodedVideo = true →
    ∃ sps pps header, coded.sps = some sps ∧ coded.pps = some pps ∧
      lastVideoHeader before = some header ∧ header.Describes sps pps

structure HeaderInvariant (muxer : Muxer) : Prop where
  current : muxer.transport.seqSent = true →
    ∃ sps pps header, muxer.transport.sps = some sps ∧ muxer.transport.pps = some pps ∧
      lastVideoHeader muxer.wire = some header ∧ header.Describes sps pps
  ordered : CodedAfterHeader muxer.wire

namespace HeaderInvariant

variable {muxer next : Muxer}

theorem create (initialised : Bool) (allocations : List Bool) (writes : List Int32)
    (connections : List Bool) :
    HeaderInvariant (Muxer.create initialised allocations writes connections) where
  current := by
    intro sent
    cases sent
  ordered := by
    intro before coded reached
    simp [Muxer.create] at reached

theorem of_sameSets (invariant : HeaderInvariant muxer) (same : next.SameSets muxer)
    (wire : next.wire = muxer.wire) : HeaderInvariant next where
  current := by
    rw [same.sps, same.pps, same.seqSent, wire]
    exact invariant.current
  ordered := wire ▸ invariant.ordered

theorem of_notSent (invariant : HeaderInvariant muxer) (notSent : next.transport.seqSent = false)
    (wire : next.wire = muxer.wire) : HeaderInvariant next where
  current := by
    rw [notSent]
    intro sent
    cases sent
  ordered := wire ▸ invariant.ordered

theorem ordered_append (invariant : HeaderInvariant muxer) {write : TagWrite}
    (described : write.isCodedVideo = true →
      write.sps = muxer.transport.sps ∧ write.pps = muxer.transport.pps ∧
        muxer.transport.seqSent = true) :
    CodedAfterHeader (muxer.wire ++ [write]) := by
  intro before tag reached isCoded
  rcases List.prefix_concat_iff.mp reached with whole | earlier
  · obtain ⟨rfl, last⟩ := List.append_inj' whole rfl
    cases last
    obtain ⟨sps, pps, sent⟩ := described isCoded
    rw [sps, pps]
    exact invariant.current sent
  · exact invariant.ordered before tag earlier isCoded

/-- Any tag but a sequence header can be written once the flag allows it. -/
theorem of_write (invariant : HeaderInvariant muxer) (same : next.SameSets muxer)
    {write : TagWrite} (wire : next.wire = muxer.wire ++ [write])
    (notHeader : write.isVideoHeader = false)
    (described : write.isCodedVideo = true →
      write.sps = muxer.transport.sps ∧ write.pps = muxer.transport.pps ∧
        muxer.transport.seqSent = true) :
    HeaderInvariant next where
  current := by
    rw [same.sps, same.pps, same.seqSent, wire, lastVideoHeader_append_other (by simp [notHeader])]
    exact invariant.current
  ordered := wire ▸ invariant.ordered_append described

end HeaderInvariant

/-! ## The functions keep the invariant -/

/-- An update either leaves the flag down or changes neither slot nor flag; an
empty slot is the exception. -/
theorem updateParamSet_cases (slot : Option (List UInt8)) (nal : List UInt8) (seqSent : Bool)
    (allocations : List Bool) :
    (updateParamSet slot nal seqSent allocations).seqSent = false ∨
      ((updateParamSet slot nal seqSent allocations).seqSent = seqSent ∧
        ((updateParamSet slot nal seqSent allocations).slot = slot ∨ slot = none)) := by
  cases slot with
  | none =>
      right
      simp only [updateParamSet, dupeParamSet]
      split <;> exact ⟨rfl, .inr trivial⟩
  | some old =>
      simp only [updateParamSet]
      split
      next => exact .inr ⟨rfl, .inl rfl⟩
      next =>
        left
        unfold dupeParamSet
        split <;> rfl

namespace Frame

theorem storeSps_invariant {frame : Frame} (invariant : HeaderInvariant frame.muxer)
    (nal : List UInt8) : HeaderInvariant (frame.storeSps nal).2.muxer := by
  have cases_ := updateParamSet_cases frame.muxer.transport.sps nal
    frame.muxer.transport.seqSent frame.muxer.allocations
  rcases cases_ with notSent | ⟨sameFlag, sameSlot | empty⟩
  · exact invariant.of_notSent notSent rfl
  · exact invariant.of_sameSets ⟨sameSlot, rfl, sameFlag⟩ rfl
  · refine invariant.of_notSent ?_ rfl
    rw [storeSps, sameFlag]
    by_contra sent
    obtain ⟨sps, _, _, present, _⟩ := invariant.current (by simpa using sent)
    rw [empty] at present
    cases present

theorem storePps_invariant {frame : Frame} (invariant : HeaderInvariant frame.muxer)
    (nal : List UInt8) : HeaderInvariant (frame.storePps nal).2.muxer := by
  have cases_ := updateParamSet_cases frame.muxer.transport.pps nal
    frame.muxer.transport.seqSent frame.muxer.allocations
  rcases cases_ with notSent | ⟨sameFlag, sameSlot | empty⟩
  · exact invariant.of_notSent notSent rfl
  · exact invariant.of_sameSets ⟨rfl, sameSlot, sameFlag⟩ rfl
  · refine invariant.of_notSent ?_ rfl
    rw [storePps, sameFlag]
    by_contra sent
    obtain ⟨_, pps, _, _, present, _⟩ := invariant.current (by simpa using sent)
    rw [empty] at present
    cases present

theorem visitNal_invariant {frame : Frame} (invariant : HeaderInvariant frame.muxer)
    (nal : List UInt8) : HeaderInvariant (frame.visitNal nal).2.muxer := by
  cases nal with
  | nil => exact invariant
  | cons header payload =>
      simp only [visitNal]
      split
      next => exact storeSps_invariant invariant _
      next =>
        split
        next => exact storePps_invariant invariant _
        next =>
          split
          next => exact invariant
          next => exact invariant.of_sameSets ⟨rfl, rfl, rfl⟩ rfl

theorem visitNals_invariant {frame : Frame} (invariant : HeaderInvariant frame.muxer)
    (nals : List (List UInt8)) : HeaderInvariant (frame.visitNals nals).2.muxer := by
  induction nals generalizing frame with
  | nil => exact invariant
  | cons nal rest inductionHypothesis =>
      have visited := visitNal_invariant invariant nal
      unfold visitNals
      split
      next visit =>
        rw [visit] at visited
        exact inductionHypothesis visited
      next visit =>
        rw [visit] at visited
        exact visited

end Frame

namespace Muxer

theorem accumulate_invariant {muxer : Muxer} (invariant : HeaderInvariant muxer)
    (data : List UInt8) : HeaderInvariant (muxer.accumulate data).2.muxer :=
  Frame.visitNals_invariant (invariant.of_sameSets ⟨rfl, rfl, rfl⟩ rfl) _

theorem sendSequenceHeader_invariant {muxer : Muxer} (invariant : HeaderInvariant muxer)
    (haveFrameData : Bool) :
    HeaderInvariant (muxer.sendSequenceHeader haveFrameData).2 ∧
      ((muxer.sendSequenceHeader haveFrameData).1 = none →
        (muxer.sendSequenceHeader haveFrameData).2.transport.seqSent = true) := by
  obtain ⟨_, sameSps, samePps, ⟨wire, flag, sent⟩ |
      ⟨sps, pps, config, write, hasSps, hasPps, record, wire, type, body, flag, sent⟩⟩ :=
    muxer.sendSequenceHeader_cases haveFrameData
  · exact ⟨invariant.of_sameSets ⟨sameSps, samePps, flag⟩ wire,
      fun passed => flag.trans (sent passed)⟩
  · refine ⟨⟨?_, ?_⟩, fun passed => flag.trans (sent passed)⟩
    · intro raised
      refine ⟨sps, pps, write, sameSps.trans hasSps, samePps.trans hasPps, ?_, config, record, body⟩
      rw [wire]
      refine lastVideoHeader_append_header ?_ (flag.symm.trans raised)
      simp [TagWrite.isVideoHeader, type, body]
    · rw [wire]
      refine invariant.ordered_append fun coded => ?_
      simp [TagWrite.isCodedVideo, body] at coded

theorem sendFrame_invariant {muxer : Muxer} (invariant : HeaderInvariant muxer)
    (sent : muxer.transport.seqSent = true) (isKeyframe : Bool) (ptsUs : Int64) :
    HeaderInvariant (muxer.sendFrame isKeyframe ptsUs).2 := by
  obtain ⟨same, _, ⟨_, wire⟩ | ⟨write, wire, _, _, _, body, sps, pps⟩⟩ :=
    muxer.sendFrame_wrote isKeyframe ptsUs
  · exact invariant.of_sameSets same wire
  · refine invariant.of_write same wire ?_ fun _ => ⟨sps, pps, sent⟩
    simp [TagWrite.isVideoHeader, body]

theorem sendPacket_invariant {muxer : Muxer} (invariant : HeaderInvariant muxer)
    (data : List UInt8) (ptsUs : Int64) :
    HeaderInvariant (muxer.sendPacket data ptsUs).2 := by
  have accumulated := accumulate_invariant invariant data
  unfold sendPacket
  split
  next frame visited =>
    rw [visited] at accumulated
    exact accumulated
  next frame visited =>
    rw [visited] at accumulated
    obtain ⟨sent, flag⟩ := sendSequenceHeader_invariant accumulated frame.haveFrameData
    split
    next answer after header =>
      rw [header] at sent
      exact sent
    next after header =>
      rw [header] at sent flag
      split
      next => exact sendFrame_invariant sent (flag rfl) _ _
      next => exact sent

theorem isConnected_invariant {muxer : Muxer} (invariant : HeaderInvariant muxer) :
    HeaderInvariant muxer.isConnected.2 := by
  obtain ⟨transport, wire, _⟩ := muxer.isConnected_same
  exact invariant.of_sameSets ⟨by rw [transport], by rw [transport], by rw [transport]⟩ wire

theorem rjRtmpSend_invariant {muxer : Muxer} (invariant : HeaderInvariant muxer)
    (data : Option (List UInt8)) (size : Nat) (ptsUs : Int64) :
    HeaderInvariant (muxer.rjRtmpSend data size ptsUs).2 := by
  rcases muxer.rjRtmpSend_cases data size ptsUs with unchanged | checked | ⟨bytes, sent⟩
  · rw [unchanged]
    exact invariant
  · rw [checked]
    exact isConnected_invariant invariant
  · rw [sent]
    exact sendPacket_invariant (isConnected_invariant invariant) _ _

theorem writeAudioTag_invariant {muxer : Muxer} (invariant : HeaderInvariant muxer)
    (packetType : UInt8) (tsMs : UInt32) (payload : List UInt8) :
    HeaderInvariant (muxer.writeAudioTag packetType tsMs payload).2 := by
  obtain ⟨body, same, _, ⟨_, wire⟩ | ⟨write, wire, _, type, _⟩⟩ :=
    muxer.writeAudioTag_wrote packetType tsMs payload
  · exact invariant.of_sameSets same wire
  · refine invariant.of_write same wire ?_ ?_
    · simp [TagWrite.isVideoHeader, type, flvAudioTag, flvVideoTag]
    · simp [TagWrite.isCodedVideo, type, flvAudioTag, flvVideoTag]

theorem sendAudioHeader_invariant {muxer : Muxer} (invariant : HeaderInvariant muxer) :
    HeaderInvariant muxer.sendAudioHeader.2 := by
  unfold sendAudioHeader
  split
  next => exact invariant
  next =>
    split
    next => exact invariant
    next asc present =>
      have written := writeAudioTag_invariant invariant 0x00 0 asc
      split <;> rename_i after wrote <;> rw [wrote] at written
      · exact written
      · exact written.of_sameSets ⟨rfl, rfl, rfl⟩ rfl

theorem sendAudioFrame_invariant {muxer : Muxer} (invariant : HeaderInvariant muxer)
    (aac : List UInt8) (ptsUs : Int64) : HeaderInvariant (muxer.sendAudioFrame aac ptsUs).2 := by
  have header := sendAudioHeader_invariant invariant
  unfold sendAudioFrame
  split <;> rename_i after sent <;> rw [sent] at header
  · exact header
  · apply writeAudioTag_invariant
    exact header.of_sameSets ⟨rfl, rfl, rfl⟩ rfl

theorem rjRtmpSendAudio_invariant {muxer : Muxer} (invariant : HeaderInvariant muxer)
    (aac : Option (List UInt8)) (aacLen : Nat) (ptsUs : Int64) :
    HeaderInvariant (muxer.rjRtmpSendAudio aac aacLen ptsUs).2 := by
  rcases muxer.rjRtmpSendAudio_cases aac aacLen ptsUs with unchanged | checked | ⟨bytes, sent⟩
  · rw [unchanged]
    exact invariant
  · rw [checked]
    exact isConnected_invariant invariant
  · rw [sent]
    exact sendAudioFrame_invariant (isConnected_invariant invariant) _ _

theorem rjRtmpSetAudioConfig_invariant {muxer : Muxer} (invariant : HeaderInvariant muxer)
    (asc : Option (List UInt8)) (ascLen : Nat) :
    HeaderInvariant (muxer.rjRtmpSetAudioConfig asc ascLen).2 := by
  unfold rjRtmpSetAudioConfig
  repeat' split
  all_goals first
    | exact invariant
    | exact invariant.of_sameSets ⟨rfl, rfl, rfl⟩ rfl

/-! ## Runs -/

inductive RtmpCall where
  | send (data : Option (List UInt8)) (size : Nat) (ptsUs : Int64)
  | setAudioConfig (asc : Option (List UInt8)) (ascLen : Nat)
  | sendAudio (aac : Option (List UInt8)) (aacLen : Nat) (ptsUs : Int64)

def step : Machine Muxer RtmpCall
  | muxer, .send data size ptsUs => some (muxer.rjRtmpSend data size ptsUs).2
  | muxer, .setAudioConfig asc ascLen => some (muxer.rjRtmpSetAudioConfig asc ascLen).2
  | muxer, .sendAudio aac aacLen ptsUs => some (muxer.rjRtmpSendAudio aac aacLen ptsUs).2

theorem step_invariant {muxer next : Muxer} {call : RtmpCall}
    (invariant : HeaderInvariant muxer) (stepped : step muxer call = some next) :
    HeaderInvariant next := by
  cases call with
  | send data size ptsUs =>
      cases stepped
      exact rjRtmpSend_invariant invariant data size ptsUs
  | setAudioConfig asc ascLen =>
      cases stepped
      exact rjRtmpSetAudioConfig_invariant invariant asc ascLen
  | sendAudio aac aacLen ptsUs =>
      cases stepped
      exact rjRtmpSendAudio_invariant invariant aac aacLen ptsUs

/-- Whatever is sent and whichever allocations, checks and writes fail, a raised
`seqSent` means that the last header on the wire describes the stored parameter
sets, and no coded-video tag goes out before such a header. -/
theorem sequenceHeader_describes_storedSets (initialised : Bool) (allocations : List Bool)
    (writes : List Int32) (connections : List Bool) (calls : List RtmpCall) (muxer : Muxer)
    (executed : Machine.exec step (create initialised allocations writes connections) calls =
      some muxer) :
    (muxer.transport.seqSent = true →
      ∃ sps pps header, muxer.transport.sps = some sps ∧ muxer.transport.pps = some pps ∧
        lastVideoHeader muxer.wire = some header ∧ header.Describes sps pps) ∧
    ∀ before coded, before ++ [coded] <+: muxer.wire → coded.isCodedVideo = true →
      ∃ sps pps header, coded.sps = some sps ∧ coded.pps = some pps ∧
        lastVideoHeader before = some header ∧ header.Describes sps pps := by
  have invariant := Machine.exec_invariant
    (fun _ _ _ invariant stepped => step_invariant invariant stepped)
    (HeaderInvariant.create initialised allocations writes connections) executed
  exact ⟨invariant.current, invariant.ordered⟩

theorem sequenceHeader_describes_storedSets_afterFailure :
    ∃ muxer, Machine.exec step (create true [] [-1] [])
        [.send (some [0, 0, 1, 0x67, 66, 0, 30, 0, 0, 0, 1, 0x68, 9, 0, 0, 1, 0x65, 7]) 18 0,
          .send (some [0, 0, 1, 0x65, 7]) 5 40000] = some muxer ∧
      muxer.wire.map TagWrite.succeeded = [false, true, true] ∧
      muxer.transport.seqSent = true ∧
      ∃ sps pps header, muxer.transport.sps = some sps ∧ muxer.transport.pps = some pps ∧
        lastVideoHeader muxer.wire = some header ∧ header.Describes sps pps := by
  refine ⟨_, rfl, by decide, by decide, ?_⟩
  exact (sequenceHeader_describes_storedSets true [] [-1] []
    [.send (some [0, 0, 1, 0x67, 66, 0, 30, 0, 0, 0, 1, 0x68, 9, 0, 0, 1, 0x65, 7]) 18 0,
      .send (some [0, 0, 1, 0x65, 7]) 5 40000] _ rfl).1 (by decide)

end Muxer

end RejiStudio.Rtmp
