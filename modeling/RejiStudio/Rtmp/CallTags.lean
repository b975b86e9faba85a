import RejiStudio.Rtmp.SequenceHeader

/-!
# The tags of a call

What each exported function may add to the wire, with the time stamp read from
the bytes of the tag, and what it does to the audio configuration and the epoch.
-/

namespace RejiStudio.Rtmp

open RejiStudio.Lib

/-- The time stamp field of an FLV tag: 24 low bits, most significant byte first,
then the high byte. -/
def readTimestamp (bytes : List UInt8) : Nat :=
  readBigEndian32 (bytes.getD 7 0) (bytes.getD 4 0) (bytes.getD 5 0) (bytes.getD 6 0)

theorem readTimestamp_flvTagPieces (tagType : UInt8) (tsMs : UInt32) (body : List UInt8) :
    readTimestamp (flvTagPieces tagType tsMs body).flatten = tsMs.toNat := by
  have low : (tsMs &&& 0xFFFFFF).toNat = tsMs.toNat % 16777216 := by
    rw [UInt32.toNat_and]
    exact Nat.and_two_pow_sub_one_eq_mod tsMs.toNat 24
  have high := toNat_byte tsMs 24 (by omega)
  have rest := bigEndian24_toNat (tsMs &&& 0xFFFFFF)
  simp only [bigEndian24, List.map_cons, List.map_nil, List.cons.injEq, and_true, low] at rest
  obtain ⟨second, third, fourth⟩ := rest
  have bound := tsMs.toNat_lt
  have fields : readTimestamp (flvTagPieces tagType tsMs body).flatten =
      readBigEndian32 ((tsMs >>> 24) &&& 0xFF).toUInt8
        (((tsMs &&& 0xFFFFFF) >>> 16) &&& 0xFF).toUInt8
        (((tsMs &&& 0xFFFFFF) >>> 8) &&& 0xFF).toUInt8
        ((tsMs &&& 0xFFFFFF) &&& 0xFF).toUInt8 := rfl
  have top : ((tsMs >>> 24) &&& 0xFF).toUInt8.toNat = tsMs.toNat / 2 ^ 24 % 256 := high
  rw [fields, readBigEndian32, top, second, third, fourth]
  omega

namespace TagWrite

def timestamp (write : TagWrite) : Nat := readTimestamp write.bytes

def isAudioHeader (write : TagWrite) : Bool :=
  write.tagType == flvAudioTag && write.body[1]? == some 0

def isRawAudio (write : TagWrite) : Bool :=
  write.tagType == flvAudioTag && write.body[1]? == some 1

def isHeader (write : TagWrite) : Bool := write.isVideoHeader || write.isAudioHeader

structure MadeOf (write : TagWrite) (tagType : UInt8) (tsMs : UInt32) (body : List UInt8) :
    Prop where
  tagType : write.tagType = tagType
  body : write.body = body
  timestamp : write.timestamp = tsMs.toNat

def Stamped (tsMs : UInt32) (write : TagWrite) : Prop :=
  write.timestamp = if write.isHeader then 0 else tsMs.toNat

end TagWrite

namespace Muxer

/-- The wire of `next` is longer by tags that all have the property. -/
def Grows (Tag : TagWrite → Prop) (muxer next : Muxer) : Prop :=
  ∃ added, next.wire = muxer.wire ++ added ∧ ∀ tag ∈ added, Tag tag

namespace Grows

variable {Tag Weaker : TagWrite → Prop} {muxer next last : Muxer}

theorem of_same (same : next.wire = muxer.wire) : Grows Tag muxer next :=
  ⟨[], by simpa using same, by simp⟩

theorem of_one {tag : TagWrite} (wire : next.wire = muxer.wire ++ [tag]) (holds : Tag tag) :
    Grows Tag muxer next :=
  ⟨[tag], wire, by simpa using holds⟩

theorem trans (first : Grows Tag muxer next) (second : Grows Tag next last) :
    Grows Tag muxer last := by
  obtain ⟨added, wire, holds⟩ := first
  obtain ⟨more, longer, holdsMore⟩ := second
  refine ⟨added ++ more, by rw [longer, wire, List.append_assoc], ?_⟩
  intro tag membership
  rcases List.mem_append.mp membership with before | after
  · exact holds tag before
  · exact holdsMore tag after

theorem imp (weaken : ∀ tag, Tag tag → Weaker tag) (grows : Grows Tag muxer next) :
    Grows Weaker muxer next := by
  obtain ⟨added, wire, holds⟩ := grows
  exact ⟨added, wire, fun tag membership => weaken tag (holds tag membership)⟩

end Grows

/-- The audio configuration, its flag and the epoch are those of another state. -/
structure SameAudio (next muxer : Muxer) : Prop where
  asc : next.transport.asc = muxer.transport.asc
  audioSeqSent : next.transport.audioSeqSent = muxer.transport.audioSeqSent
  firstPtsUs : next.transport.firstPtsUs = muxer.transport.firstPtsUs

theorem SameAudio.trans {last next muxer : Muxer} (second : last.SameAudio next)
    (first : next.SameAudio muxer) : last.SameAudio muxer :=
  ⟨second.asc.trans first.asc, second.audioSeqSent.trans first.audioSeqSent,
    second.firstPtsUs.trans first.firstPtsUs⟩

def WritesOne (muxer next : Muxer) (tagType : UInt8) (tsMs : UInt32) (body : List UInt8)
    (result : Bool) : Prop :=
  (result = false ∧ next.wire = muxer.wire) ∨
    ∃ write : TagWrite, next.wire = muxer.wire ++ [write] ∧ write.succeeded = result ∧
      write.MadeOf tagType tsMs body

theorem writeFlvTag_writesOne (muxer : Muxer) (tagType : UInt8) (tsMs : UInt32)
    (body : List UInt8) :
    (muxer.writeFlvTag tagType tsMs body).2.SameAudio muxer ∧
      WritesOne muxer (muxer.writeFlvTag tagType tsMs body).2 tagType tsMs body
        (muxer.writeFlvTag tagType tsMs body).1 := by
  unfold writeFlvTag
  split
  next => exact ⟨⟨rfl, rfl, rfl⟩, .inl ⟨rfl, rfl⟩⟩
  next =>
    have appended := @Buf.appendAll_items { muxer.transport.tag with items := [] }
      (flvTagPieces tagType tsMs body) muxer.allocations
    dsimp only
    split
    next filled =>
      refine ⟨⟨rfl, rfl, rfl⟩, .inr ⟨_, rfl, rfl, rfl, rfl, ?_⟩⟩
      simp only [TagWrite.timestamp, appended filled, List.nil_append]
      exact readTimestamp_flvTagPieces tagType tsMs body
    next => exact ⟨⟨rfl, rfl, rfl⟩, .inl ⟨rfl, rfl⟩⟩

theorem buildAudioTagBody_items {out : Buf} {packetType : UInt8} {payload : List UInt8}
    {allocations : List Bool}
    (built : (buildAudioTagBody out packetType payload allocations).1 = true) :
    (buildAudioTagBody out packetType payload allocations).2.1.items =
      [0xAF, packetType] ++ payload := by
  have items := Buf.appendAll_items built
  simpa [buildAudioTagBody] using items

/-- An audio tag is the sound format, the packet type and the payload. -/
theorem writeAudioTag_writesOne (muxer : Muxer) (packetType : UInt8) (tsMs : UInt32)
    (payload : List UInt8) :
    (muxer.writeAudioTag packetType tsMs payload).2.SameAudio muxer ∧
      WritesOne muxer (muxer.writeAudioTag packetType tsMs payload).2 flvAudioTag tsMs
        ([0xAF, packetType] ++ payload) (muxer.writeAudioTag packetType tsMs payload).1 := by
  unfold writeAudioTag
  generalize building :
    buildAudioTagBody muxer.transport.audioBody packetType payload muxer.allocations = built
  obtain ⟨ok, body, rest⟩ := built
  cases ok with
  | false => exact ⟨⟨rfl, rfl, rfl⟩, .inl ⟨rfl, rfl⟩⟩
  | true =>
      have items : body.items = [0xAF, packetType] ++ payload := by
        have whole := buildAudioTagBody_items (congrArg Prod.fst building)
        rwa [building] at whole
      rw [← items]
      obtain ⟨same, written⟩ := writeFlvTag_writesOne
        { muxer with
          transport := { muxer.transport with audioBody := body }, allocations := rest }
        flvAudioTag tsMs body.items
      exact ⟨⟨same.asc, same.audioSeqSent, same.firstPtsUs⟩, written⟩

/-! ## Video calls -/

/-- What the parts of `rj_rtmp_send` up to the coded-video tag may do. -/
structure OnlyHeaders (muxer next : Muxer) : Prop where
  same : next.SameAudio muxer
  grows : Grows (fun tag => tag.tagType = flvVideoTag ∧ tag.isVideoHeader = true ∧
    tag.timestamp = 0) muxer next

theorem OnlyHeaders.trans {muxer next last : Muxer} (first : OnlyHeaders muxer next)
    (second : OnlyHeaders next last) : OnlyHeaders muxer last :=
  ⟨second.same.trans first.same, first.grows.trans second.grows⟩

end Muxer

namespace Frame

theorem visitNal_same (frame : Frame) (nal : List UInt8) :
    (frame.visitNal nal).2.muxer.SameAudio frame.muxer ∧
      (frame.visitNal nal).2.muxer.wire = frame.muxer.wire := by
  cases nal with
  | nil => exact ⟨⟨rfl, rfl, rfl⟩, rfl⟩
  | cons header payload =>
      simp only [visitNal]
      repeat' split
      all_goals exact ⟨⟨rfl, rfl, rfl⟩, rfl⟩

theorem visitNals_same (frame : Frame) (nals : List (List UInt8)) :
    (frame.visitNals nals).2.muxer.SameAudio frame.muxer ∧
      (frame.visitNals nals).2.muxer.wire = frame.muxer.wire := by
  induction nals generalizing frame with
  | nil => exact ⟨⟨rfl, rfl, rfl⟩, rfl⟩
  | cons nal rest inductionHypothesis =>
      obtain ⟨same, wire⟩ := frame.visitNal_same nal
      unfold visitNals
      split
      next next visit =>
        rw [visit] at same wire
        obtain ⟨laterSame, laterWire⟩ := inductionHypothesis next
        exact ⟨laterSame.trans same, laterWire.trans wire⟩
      next next visit =>
        rw [visit] at same wire
        exact ⟨same, wire⟩

end Frame

namespace Muxer

theorem accumulate_onlyHeaders (muxer : Muxer) (data : List UInt8) :
    OnlyHeaders muxer (muxer.accumulate data).2.muxer := by
  obtain ⟨same, wire⟩ := (Frame.mk { muxer with
    transport := { muxer.transport with body := { muxer.transport.body with items := [] } } }
    false false).visitNals_same (nalUnits data)
  exact ⟨⟨same.asc, same.audioSeqSent, same.firstPtsUs⟩, .of_same wire⟩

theorem sendSequenceHeader_onlyHeaders (muxer : Muxer) (haveFrameData : Bool) :
    OnlyHeaders muxer (muxer.sendSequenceHeader haveFrameData).2 := by
  have untouched : ∀ next : Muxer, next.SameAudio muxer → next.wire = muxer.wire →
      OnlyHeaders muxer next := fun next same wire => ⟨same, .of_same wire⟩
  unfold sendSequenceHeader
  split
  next => exact untouched _ ⟨rfl, rfl, rfl⟩ rfl
  next =>
    split
    next => exact untouched _ ⟨rfl, rfl, rfl⟩ rfl
    next => exact untouched _ ⟨rfl, rfl, rfl⟩ rfl
    next sps pps _ _ =>
      dsimp only
      split
      next => exact untouched _ ⟨rfl, rfl, rfl⟩ rfl
      next hdr rest started =>
        split
        next => exact untouched _ ⟨rfl, rfl, rfl⟩ rfl
        next header left built =>
          have opening := Buf.appendAll_items (congrArg Prod.fst started)
          obtain ⟨config, _, items⟩ := buildAvcConfig_items (congrArg Prod.fst built)
          rw [started] at opening
          rw [built] at items
          have headerBody : header.items = [0x17, 0x00, 0x00, 0x00, 0x00] ++ config := by
            rw [items, opening]
            rfl
          set cleared : Muxer := { muxer with
            transport := { muxer.transport with tag := { muxer.transport.tag with items := [] } }
            allocations := left }
          obtain ⟨same, written⟩ := cleared.writeFlvTag_writesOne flvVideoTag 0 header.items
          have grows : OnlyHeaders muxer (cleared.writeFlvTag flvVideoTag 0 header.items).2 := by
            refine ⟨⟨same.asc, same.audioSeqSent, same.firstPtsUs⟩, ?_⟩
            rcases written with ⟨_, wire⟩ | ⟨write, wire, _, made⟩
            · exact .of_same wire
            · refine .of_one wire ⟨made.tagType, ?_, made.timestamp⟩
              simp [TagWrite.isVideoHeader, made.tagType, made.body, headerBody]
          split <;> rename_i written wrote <;> rw [wrote] at grows
          · exact grows
          · exact ⟨⟨grows.same.asc, grows.same.audioSeqSent, grows.same.firstPtsUs⟩, grows.grows⟩

def EpochFrom (muxer next : Muxer) (ptsUs : Int64) : Prop :=
  next.transport.firstPtsUs = muxer.transport.firstPtsUs ∨
    muxer.transport.firstPtsUs = noPts ∧ next.transport.firstPtsUs = ptsUs

theorem EpochFrom.of_started {muxer next : Muxer} {ptsUs : Int64}
    (started : next.transport.firstPtsUs =
      if muxer.transport.firstPtsUs = noPts then ptsUs else muxer.transport.firstPtsUs) :
    EpochFrom muxer next ptsUs := by
  split at started
  next unset => exact .inr ⟨unset, started⟩
  next => exact .inl started

/-- What a call of `rj_rtmp_send` may do. -/
structure VideoCall (muxer next : Muxer) (ptsUs : Int64) : Prop where
  asc : next.transport.asc = muxer.transport.asc
  audioSeqSent : next.transport.audioSeqSent = muxer.transport.audioSeqSent
  epoch : EpochFrom muxer next ptsUs
  grows : Grows (fun tag => tag.tagType = flvVideoTag ∧ tag.Stamped (muxer.nextTsMs ptsUs))
    muxer next

theorem OnlyHeaders.stamped {muxer next : Muxer} (headers : OnlyHeaders muxer next)
    (tsMs : UInt32) :
    Grows (fun tag => tag.tagType = flvVideoTag ∧ tag.Stamped tsMs) muxer next :=
  headers.grows.imp fun tag ⟨video, header, zero⟩ =>
    ⟨video, by simpa [TagWrite.Stamped, TagWrite.isHeader, header] using zero⟩

theorem OnlyHeaders.videoCall {muxer next : Muxer} (headers : OnlyHeaders muxer next)
    (ptsUs : Int64) : VideoCall muxer next ptsUs :=
  ⟨headers.same.asc, headers.same.audioSeqSent, .inl headers.same.firstPtsUs,
    headers.stamped _⟩

theorem OnlyHeaders.andThen {muxer next last : Muxer} {ptsUs : Int64}
    (headers : OnlyHeaders muxer next) (call : VideoCall next last ptsUs) :
    VideoCall muxer last ptsUs where
  asc := call.asc.trans headers.same.asc
  audioSeqSent := call.audioSeqSent.trans headers.same.audioSeqSent
  epoch := by
    rcases call.epoch with kept | ⟨unset, first⟩
    · exact .inl (kept.trans headers.same.firstPtsUs)
    · exact .inr ⟨headers.same.firstPtsUs.symm.trans unset, first⟩
  grows := by
    have stamps : next.nextTsMs ptsUs = muxer.nextTsMs ptsUs := by
      rw [nextTsMs, nextTsMs, headers.same.firstPtsUs]
    exact (headers.stamped _).trans (stamps ▸ call.grows)

theorem sendFrame_videoCall (muxer : Muxer) (isKeyframe : Bool) (ptsUs : Int64) :
    VideoCall muxer (muxer.sendFrame isKeyframe ptsUs).2 ptsUs := by
  unfold sendFrame
  dsimp only
  split
  next => exact ⟨rfl, rfl, .of_started rfl, .of_same rfl⟩
  next frame rest built =>
    have appended := Buf.appendAll_items (congrArg Prod.fst built)
    rw [built] at appended
    have packetType : frame.items[1]? = some 1 := by
      rw [show frame.items = _ from appended]
      rfl
    set started : Muxer := { muxer with
      transport := { muxer.transport with
        firstPtsUs := if muxer.transport.firstPtsUs = noPts then ptsUs
          else muxer.transport.firstPtsUs }
      allocations := rest }
    obtain ⟨same, written⟩ := started.writeFlvTag_writesOne flvVideoTag
      (relativeMs started.transport.firstPtsUs ptsUs) frame.items
    refine ⟨same.asc, same.audioSeqSent, .of_started same.firstPtsUs, ?_⟩
    rcases written with ⟨_, wire⟩ | ⟨write, wire, _, made⟩
    · exact .of_same wire
    · have notHeader : write.isHeader = false := by
        simp [TagWrite.isHeader, TagWrite.isVideoHeader, TagWrite.isAudioHeader, made.tagType,
          made.body, packetType, flvVideoTag, flvAudioTag]
      refine .of_one wire ⟨made.tagType, ?_⟩
      rw [TagWrite.Stamped, notHeader]
      exact made.timestamp

theorem sendPacket_videoCall (muxer : Muxer) (data : List UInt8) (ptsUs : Int64) :
    VideoCall muxer (muxer.sendPacket data ptsUs).2 ptsUs := by
  have accumulated := muxer.accumulate_onlyHeaders data
  unfold sendPacket
  split
  next frame visited =>
    rw [visited] at accumulated
    exact accumulated.videoCall ptsUs
  next frame visited =>
    rw [visited] at accumulated
    have header := accumulated.trans
      (frame.muxer.sendSequenceHeader_onlyHeaders frame.haveFrameData)
    split
    next answer sent sequence =>
      rw [sequence] at header
      exact header.videoCall ptsUs
    next sent sequence =>
      rw [sequence] at header
      split
      next => exact header.andThen (sent.sendFrame_videoCall frame.isKeyframe ptsUs)
      next => exact header.videoCall ptsUs

theorem isConnected_onlyHeaders (muxer : Muxer) : OnlyHeaders muxer muxer.isConnected.2 := by
  obtain ⟨transport, wire, _⟩ := muxer.isConnected_same
  exact ⟨⟨by rw [transport], by rw [transport], by rw [transport]⟩, .of_same wire⟩

theorem rjRtmpSend_videoCall (muxer : Muxer) (data : Option (List UInt8)) (size : Nat)
    (ptsUs : Int64) : VideoCall muxer (muxer.rjRtmpSend data size ptsUs).2 ptsUs := by
  rcases muxer.rjRtmpSend_cases data size ptsUs with unchanged | checked | ⟨bytes, sent⟩
  · rw [unchanged]
    exact ⟨rfl, rfl, .inl rfl, .of_same rfl⟩
  · rw [checked]
    exact muxer.isConnected_onlyHeaders.videoCall ptsUs
  · rw [sent]
    exact muxer.isConnected_onlyHeaders.andThen
      (muxer.isConnected.2.sendPacket_videoCall (bytes.take size) ptsUs)

/-! ## Audio calls -/

/-- Nothing changes when the header is not due or cannot be built; otherwise one tag
carries the stored configuration, and its success raises the flag. -/
structure AudioHeader (muxer next : Muxer) (passed : Bool) : Prop where
  asc : next.transport.asc = muxer.transport.asc
  firstPtsUs : next.transport.firstPtsUs = muxer.transport.firstPtsUs
  wire : (next.wire = muxer.wire ∧
      next.transport.audioSeqSent = muxer.transport.audioSeqSent ∧
      (passed = true → muxer.transport.audioSeqSent = true)) ∨
    ∃ (asc : List UInt8) (write : TagWrite), muxer.transport.asc = some asc ∧
      next.wire = muxer.wire ++ [write] ∧ write.MadeOf flvAudioTag 0 ([0xAF, 0x00] ++ asc) ∧
      write.succeeded = passed ∧ next.transport.audioSeqSent = passed

theorem sendAudioHeader_audioHeader (muxer : Muxer) :
    AudioHeader muxer muxer.sendAudioHeader.2 muxer.sendAudioHeader.1 := by
  unfold sendAudioHeader
  split
  next sent => exact ⟨rfl, rfl, .inl ⟨rfl, rfl, fun _ => sent⟩⟩
  next notSent =>
    have down : muxer.transport.audioSeqSent = false := by simpa using notSent
    split
    next => exact ⟨rfl, rfl, .inl ⟨rfl, rfl, fun passed => absurd passed Bool.false_ne_true⟩⟩
    next asc stored =>
      obtain ⟨same, written⟩ := muxer.writeAudioTag_writesOne 0x00 0 asc
      split <;> rename_i sent wrote <;> rw [wrote] at same written
      · refine ⟨same.asc, same.firstPtsUs, ?_⟩
        rcases written with ⟨_, wire⟩ | ⟨write, wire, outcome, made⟩
        · exact .inl ⟨wire, same.audioSeqSent, fun passed => absurd passed Bool.false_ne_true⟩
        · exact .inr ⟨asc, write, stored, wire, made, outcome, same.audioSeqSent.trans down⟩
      · refine ⟨same.asc, same.firstPtsUs, ?_⟩
        rcases written with ⟨refused, _⟩ | ⟨write, wire, outcome, made⟩
        · cases refused
        · exact .inr ⟨asc, write, stored, wire, made, outcome, rfl⟩

structure RawAudio (muxer next : Muxer) (aac : List UInt8) (ptsUs : Int64) : Prop where
  asc : next.transport.asc = muxer.transport.asc
  audioSeqSent : next.transport.audioSeqSent = muxer.transport.audioSeqSent
  epoch : EpochFrom muxer next ptsUs
  wire : next.wire = muxer.wire ∨
    ∃ write : TagWrite, next.wire = muxer.wire ++ [write] ∧
      write.MadeOf flvAudioTag (muxer.nextTsMs ptsUs) ([0xAF, 0x01] ++ aac)

/-- A call of `rj_rtmp_send_audio` sends the header, and behind it the frame. -/
def AudioCall (muxer next : Muxer) (ptsUs : Int64) : Prop :=
  ∃ passed middle, AudioHeader muxer middle passed ∧
    (next = middle ∨ passed = true ∧ ∃ aac, RawAudio middle next aac ptsUs)

theorem sendAudioFrame_audioCall (muxer : Muxer) (aac : List UInt8) (ptsUs : Int64) :
    AudioCall muxer (muxer.sendAudioFrame aac ptsUs).2 ptsUs := by
  have header := muxer.sendAudioHeader_audioHeader
  unfold sendAudioFrame
  split <;> rename_i sent passed <;> rw [passed] at header
  · exact ⟨false, sent, header, .inl rfl⟩
  · refine ⟨true, sent, header, .inr ⟨rfl, aac, ?_⟩⟩
    set started : Muxer := { sent with
      transport := { sent.transport with
        firstPtsUs := if sent.transport.firstPtsUs = noPts then ptsUs
          else sent.transport.firstPtsUs } }
    obtain ⟨same, written⟩ := started.writeAudioTag_writesOne 0x01
      (relativeMs started.transport.firstPtsUs ptsUs) aac
    refine ⟨same.asc, same.audioSeqSent, .of_started same.firstPtsUs, ?_⟩
    rcases written with ⟨_, wire⟩ | ⟨write, wire, _, made⟩
    · exact .inl wire
    · exact .inr ⟨write, wire, made⟩

theorem AudioHeader.unchanged {muxer next : Muxer} (same : next.SameAudio muxer)
    (wire : next.wire = muxer.wire) : AudioHeader muxer next false :=
  ⟨same.asc, same.firstPtsUs,
    .inl ⟨wire, same.audioSeqSent, fun passed => absurd passed Bool.false_ne_true⟩⟩

theorem rjRtmpSendAudio_audioCall (muxer : Muxer) (aac : Option (List UInt8)) (aacLen : Nat)
    (ptsUs : Int64) : AudioCall muxer (muxer.rjRtmpSendAudio aac aacLen ptsUs).2 ptsUs := by
  obtain ⟨transport, wire, _⟩ := muxer.isConnected_same
  rcases muxer.rjRtmpSendAudio_cases aac aacLen ptsUs with unchanged | checked | ⟨bytes, sent⟩
  · rw [unchanged]
    exact ⟨false, _, .unchanged ⟨rfl, rfl, rfl⟩ rfl, .inl rfl⟩
  · rw [checked]
    refine ⟨false, _, .unchanged ⟨?_, ?_, ?_⟩ wire, .inl rfl⟩ <;> rw [transport]
  · rw [sent]
    obtain ⟨passed, middle, header, rest⟩ :=
      muxer.isConnected.2.sendAudioFrame_audioCall (bytes.take aacLen) ptsUs
    refine ⟨passed, middle, ?_, rest⟩
    obtain ⟨asc, firstPtsUs, written⟩ := header
    rw [transport] at asc firstPtsUs written
    rw [wire] at written
    exact ⟨asc, firstPtsUs, written⟩

end Muxer

end RejiStudio.Rtmp
