import RejiStudio.Rtmp.PacketWrite
import RejiStudio.Rtmp.Timestamps

/-!
# From the muxer to the peer

Every tag of the muxer goes through `RTMP_Write`, becomes a packet on channel 4, travels as
chunks and is read back.  A run of the muxer in front of librtmp and a peer behind it: the peer
reads the tags that the muxer believes to have sent, and no others.
-/

namespace RejiStudio.Rtmp

open RejiStudio.Lib

/-! ## What the muxer writes -/

namespace TagWrite

structure WellMade (write : TagWrite) : Prop where
  bytes : write.bytes = (flvTagPieces write.tagType write.tsMs write.body).flatten
  small : write.body.length ≤ 0xFFFFFF
  media : write.tagType = flvVideoTag ∨ write.tagType = flvAudioTag

theorem WellMade.timestamp_eq {write : TagWrite} (made : write.WellMade) :
    write.timestamp = write.tsMs.toNat := by
  rw [timestamp, made.bytes, readTimestamp_flvTagPieces]

end TagWrite

namespace Muxer

variable {muxer next : Muxer}

def GrowsWellMade (muxer next : Muxer) : Prop := Grows TagWrite.WellMade muxer next

theorem writeFlvTag_wellMade (muxer : Muxer) {tagType : UInt8} (tsMs : UInt32)
    (body : List UInt8) (media : tagType = flvVideoTag ∨ tagType = flvAudioTag) :
    GrowsWellMade muxer (muxer.writeFlvTag tagType tsMs body).2 := by
  unfold writeFlvTag
  split
  next => exact .of_same rfl
  next within =>
    have appended := @Buf.appendAll_items { muxer.transport.tag with items := [] }
      (flvTagPieces tagType tsMs body) muxer.allocations
    dsimp only
    split
    next filled =>
      refine .of_one rfl ⟨?_, by simpa [withinTagLimit] using within, media⟩
      exact (appended filled).trans (List.nil_append _)
    next => exact .of_same rfl

theorem writeAudioTag_wellMade (muxer : Muxer) (packetType : UInt8) (tsMs : UInt32)
    (payload : List UInt8) :
    GrowsWellMade muxer (muxer.writeAudioTag packetType tsMs payload).2 := by
  unfold writeAudioTag
  dsimp only
  split
  next =>
    have written := writeFlvTag_wellMade
      { muxer with
        transport := { muxer.transport with
          audioBody := (buildAudioTagBody muxer.transport.audioBody packetType payload
            muxer.allocations).2.1 }
        allocations := (buildAudioTagBody muxer.transport.audioBody packetType payload
          muxer.allocations).2.2 } tsMs
      (buildAudioTagBody muxer.transport.audioBody packetType payload muxer.allocations).2.1.items
      (.inr (rfl : flvAudioTag = flvAudioTag))
    exact written
  next => exact .of_same rfl

theorem sendSequenceHeader_wellMade (muxer : Muxer) (haveFrameData : Bool) :
    GrowsWellMade muxer (muxer.sendSequenceHeader haveFrameData).2 := by
  unfold sendSequenceHeader
  split
  next => exact .of_same rfl
  next =>
    split
    next => exact .of_same rfl
    next => exact .of_same rfl
    next =>
      dsimp only
      split
      next => exact .of_same rfl
      next =>
        split
        next => exact .of_same rfl
        next header left _ =>
          have made := writeFlvTag_wellMade
            { muxer with
              transport := { muxer.transport with tag := { muxer.transport.tag with items := [] } }
              allocations := left } 0 header.items (.inl (rfl : flvVideoTag = flvVideoTag))
          split <;> rename_i written wrote <;> rw [wrote] at made <;> exact made

theorem sendFrame_wellMade (muxer : Muxer) (isKeyframe : Bool) (ptsUs : Int64) :
    GrowsWellMade muxer (muxer.sendFrame isKeyframe ptsUs).2 := by
  unfold sendFrame
  dsimp only
  split
  next => exact .of_same rfl
  next frame rest built =>
    have made := writeFlvTag_wellMade
      { muxer with
        transport := { muxer.transport with
          firstPtsUs := if muxer.transport.firstPtsUs = noPts then ptsUs
            else muxer.transport.firstPtsUs }
        allocations := rest } (muxer.nextTsMs ptsUs) frame.items
      (.inl (rfl : flvVideoTag = flvVideoTag))
    exact made

theorem sendPacket_wellMade (muxer : Muxer) (data : List UInt8) (ptsUs : Int64) :
    GrowsWellMade muxer (muxer.sendPacket data ptsUs).2 := by
  have accumulated : (muxer.accumulate data).2.muxer.wire = muxer.wire :=
    (Frame.visitNals_same _ _).2
  unfold sendPacket
  split
  next frame visited =>
    rw [visited] at accumulated
    exact .of_same accumulated
  next frame visited =>
    rw [visited] at accumulated
    have header := frame.muxer.sendSequenceHeader_wellMade frame.haveFrameData
    have before : GrowsWellMade muxer frame.muxer := .of_same accumulated
    split
    next answer sent early =>
      rw [early] at header
      exact before.trans header
    next sent passed =>
      rw [passed] at header
      split
      · exact (before.trans header).trans (sent.sendFrame_wellMade _ _)
      · exact before.trans header

theorem sendAudioHeader_wellMade (muxer : Muxer) :
    GrowsWellMade muxer muxer.sendAudioHeader.2 := by
  unfold sendAudioHeader
  split
  next => exact .of_same rfl
  next =>
    split
    next => exact .of_same rfl
    next asc stored =>
      have made := muxer.writeAudioTag_wellMade 0x00 0 asc
      split <;> rename_i written wrote <;> rw [wrote] at made <;> exact made

theorem sendAudioFrame_wellMade (muxer : Muxer) (aac : List UInt8) (ptsUs : Int64) :
    GrowsWellMade muxer (muxer.sendAudioFrame aac ptsUs).2 := by
  have header := muxer.sendAudioHeader_wellMade
  unfold sendAudioFrame
  split <;> rename_i sent passed <;> rw [passed] at header
  · exact header
  · have made := writeAudioTag_wellMade
      { sent with
        transport := { sent.transport with
          firstPtsUs := if sent.transport.firstPtsUs = noPts then ptsUs
            else sent.transport.firstPtsUs } } 0x01 (sent.nextTsMs ptsUs) aac
    exact header.trans made

/-- Whatever is called and whatever fails, only well-made tags are written. -/
theorem step_wellMade {call : RtmpCall} (stepped : step muxer call = some next) :
    GrowsWellMade muxer next := by
  have checked : GrowsWellMade muxer muxer.isConnected.2 := .of_same muxer.isConnected_same.2.1
  cases call with
  | send data size ptsUs =>
      cases stepped
      rcases muxer.rjRtmpSend_cases data size ptsUs with same | same | ⟨bytes, sent⟩
      · rw [same]
        exact .of_same rfl
      · rw [same]
        exact checked
      · rw [sent]
        exact checked.trans (sendPacket_wellMade _ _ _)
  | setAudioConfig asc ascLen =>
      cases stepped
      refine .of_same ?_
      unfold rjRtmpSetAudioConfig
      repeat' split
      all_goals rfl
  | sendAudio aac aacLen ptsUs =>
      cases stepped
      rcases muxer.rjRtmpSendAudio_cases aac aacLen ptsUs with same | same | ⟨bytes, sent⟩
      · rw [same]
        exact .of_same rfl
      · rw [same]
        exact checked
      · rw [sent]
        exact checked.trans (sendAudioFrame_wellMade _ _ _)

def AllWellMade (muxer : Muxer) : Prop := ∀ write ∈ muxer.wire, write.WellMade

theorem GrowsWellMade.all (grows : GrowsWellMade muxer next) (made : AllWellMade muxer) :
    AllWellMade next := by
  obtain ⟨added, wire, wellMade⟩ := grows
  intro write membership
  rw [wire] at membership
  rcases List.mem_append.mp membership with old | new
  · exact made write old
  · exact wellMade write new

theorem exec_wellMade {calls : List RtmpCall} (made : AllWellMade muxer)
    (executed : Machine.exec step muxer calls = some next) : AllWellMade next :=
  Machine.exec_invariant (fun _ _ _ before stepped => (step_wellMade stepped).all before) made
    executed

/-! ## Time stamps -/

def shortSpanUs : Int := 0xFFFFFF * 1000

structure ShortStamps (muxer : Muxer) (later : List Int64) : Prop where
  short : ∀ write ∈ muxer.wire, write.timestamp < 0xFFFFFF
  epoch : muxer.transport.firstPtsUs ≠ noPts → ∀ ptsUs ∈ later,
    muxer.transport.firstPtsUs ≤ ptsUs ∧
      ptsUs.toInt - muxer.transport.firstPtsUs.toInt < shortSpanUs

structure StampedCall (muxer next : Muxer) (ptsUs : Int64) : Prop where
  epoch : EpochFrom muxer next ptsUs
  grows : Grows (TagWrite.Stamped (muxer.nextTsMs ptsUs)) muxer next

theorem VideoCall.stampedCall {ptsUs : Int64} (call : VideoCall muxer next ptsUs) :
    StampedCall muxer next ptsUs :=
  ⟨call.epoch, call.grows.imp fun _ stamped => stamped.2⟩

theorem AudioCall.stampedCall {ptsUs : Int64} (call : AudioCall muxer next ptsUs) :
    StampedCall muxer next ptsUs := by
  obtain ⟨passed, middle, header, rest⟩ := call
  have stamps : middle.nextTsMs ptsUs = muxer.nextTsMs ptsUs := by
    rw [nextTsMs, nextTsMs, header.firstPtsUs]
  have headerGrows : Grows (TagWrite.Stamped (muxer.nextTsMs ptsUs)) muxer middle := by
    rcases header.wire with ⟨wire, _, _⟩ | ⟨asc, write, _, wire, made, _, _⟩
    · exact .of_same wire
    · have isHeader : write.isHeader = true := by
        simp [TagWrite.isHeader, TagWrite.isAudioHeader, made.tagType, made.body]
      refine .of_one wire ?_
      rw [TagWrite.Stamped, isHeader]
      exact made.timestamp
  rcases rest with rfl | ⟨_, aac, raw⟩
  · exact ⟨.inl header.firstPtsUs, headerGrows⟩
  · constructor
    · rw [EpochFrom, ← header.firstPtsUs]
      exact raw.epoch
    · refine headerGrows.trans ?_
      rcases raw.wire with wire | ⟨write, wire, made⟩
      · exact .of_same wire
      · have notHeader : write.isHeader = false := by
          simp [TagWrite.isHeader, TagWrite.isVideoHeader, TagWrite.isAudioHeader, made.tagType,
            made.body, flvVideoTag, flvAudioTag]
        refine .of_one wire ?_
        rw [TagWrite.Stamped, notHeader, ← stamps]
        exact made.timestamp

namespace ShortStamps

variable {ptsUs : Int64} {later : List Int64}

theorem nextTsMs_short (invariant : ShortStamps muxer (ptsUs :: later)) :
    (muxer.nextTsMs ptsUs).toNat < 0xFFFFFF := by
  by_cases unset : muxer.transport.firstPtsUs = noPts
  · rw [nextTsMs_unset unset]
    decide
  · obtain ⟨started, span⟩ := invariant.epoch unset ptsUs List.mem_cons_self
    have wide : ptsUs.toInt - muxer.transport.firstPtsUs.toInt < stampSpanUs := by
      unfold shortSpanUs at span
      unfold stampSpanUs
      omega
    rw [nextTsMs, if_neg unset, relativeMs_toNat started wide]
    unfold shortSpanUs at span
    omega

theorem of_stampedCall (invariant : ShortStamps muxer (ptsUs :: later))
    (ordered : ∀ last ∈ later, ptsUs ≤ last)
    (span : ∀ last ∈ later, last.toInt - ptsUs.toInt < shortSpanUs)
    (call : StampedCall muxer next ptsUs) : ShortStamps next later := by
  obtain ⟨epoch, added, wire, stamped⟩ := call
  constructor
  · intro write membership
    rw [wire] at membership
    rcases List.mem_append.mp membership with before | here
    · exact invariant.short write before
    · have stamp : write.timestamp = if write.isHeader then 0 else _ := stamped write here
      rw [stamp]
      split
      · decide
      · exact invariant.nextTsMs_short
  · intro set last membership
    rcases epoch with kept | ⟨_, first⟩
    · rw [kept] at set ⊢
      exact invariant.epoch set last (List.mem_cons_of_mem _ membership)
    · rw [first]
      exact ⟨ordered last membership, span last membership⟩

end ShortStamps

def ShortSpan (calls : List RtmpCall) : Prop :=
  ∀ first ∈ calls.filterMap RtmpCall.ptsUs, ∀ last ∈ calls.filterMap RtmpCall.ptsUs,
    last.toInt - first.toInt < shortSpanUs

theorem exec_shortStamps {last : Muxer} {calls : List RtmpCall}
    (invariant : ShortStamps muxer (calls.filterMap RtmpCall.ptsUs))
    (ordered : (calls.filterMap RtmpCall.ptsUs).Pairwise (· ≤ ·)) (span : ShortSpan calls)
    (executed : Machine.exec step muxer calls = some last) : ShortStamps last [] := by
  induction calls generalizing muxer with
  | nil =>
      cases executed
      exact invariant
  | cons call rest inductionHypothesis =>
      obtain ⟨next, stepped, continued⟩ := Machine.exec_cons_eq_some executed
      have sublist : List.Sublist (rest.filterMap RtmpCall.ptsUs)
          ((call :: rest).filterMap RtmpCall.ptsUs) :=
        (List.sublist_cons_self call rest).filterMap _
      refine inductionHypothesis ?_ (ordered.sublist sublist)
        (fun first here last there => span first (sublist.subset here) last
          (sublist.subset there)) continued
      cases call with
      | send data size ptsUs =>
          cases stepped
          exact invariant.of_stampedCall (List.pairwise_cons.mp ordered).1
            (fun later membership => span ptsUs List.mem_cons_self later
              (List.mem_cons_of_mem _ membership))
            (muxer.rjRtmpSend_videoCall data size ptsUs).stampedCall
      | setAudioConfig asc ascLen =>
          cases stepped
          unfold rjRtmpSetAudioConfig
          repeat' split
          all_goals exact ⟨invariant.short, invariant.epoch⟩
      | sendAudio aac aacLen ptsUs =>
          cases stepped
          exact invariant.of_stampedCall (List.pairwise_cons.mp ordered).1
            (fun later membership => span ptsUs List.mem_cons_self later
              (List.mem_cons_of_mem _ membership))
            (muxer.rjRtmpSendAudio_audioCall aac aacLen ptsUs).stampedCall

end Muxer

/-- Each stamp is zero or not before the one in front of it. -/
def StampsFollow : Nat → List TagWrite → Prop
  | _, [] => True
  | last, write :: rest =>
      (write.timestamp = 0 ∨ last ≤ write.timestamp) ∧ StampsFollow write.timestamp rest

theorem stampsFollow_of_ordered {wire : List TagWrite} {last : Nat}
    (headers : ∀ write ∈ wire, write.isHeader = true → write.timestamp = 0)
    (ordered : (Muxer.frames wire).Pairwise fun first second => first.timestamp ≤ second.timestamp)
    (reached : ∀ write ∈ Muxer.frames wire, last ≤ write.timestamp) : StampsFollow last wire := by
  induction wire generalizing last with
  | nil => trivial
  | cons write rest inductionHypothesis =>
      have later : ∀ next ∈ rest, next.isHeader = true → next.timestamp = 0 :=
        fun next membership => headers next (List.mem_cons_of_mem _ membership)
      cases kind : write.isHeader with
      | true =>
          have zero := headers write List.mem_cons_self kind
          have same : Muxer.frames (write :: rest) = Muxer.frames rest := by
            simp [Muxer.frames, kind]
          rw [same] at ordered
          refine ⟨.inl zero, inductionHypothesis later ordered ?_⟩
          intro next _
          rw [zero]
          exact Nat.zero_le _
      | false =>
          have split : Muxer.frames (write :: rest) = write :: Muxer.frames rest := by
            simp [Muxer.frames, kind]
          rw [split] at ordered reached
          rw [List.pairwise_cons] at ordered
          exact ⟨.inr (reached write List.mem_cons_self),
            inductionHypothesis later ordered.2 ordered.1⟩

/-! ## Tags as packets -/

def TagWrite.packet (streamId : UInt32) (write : TagWrite) : RtmpPacket :=
  tagPacket streamId write.tagType write.tsMs write.body

def TagWrite.message (streamId : UInt32) (write : TagWrite) : RtmpMessage :=
  ⟨4, write.tagType, write.tsMs, streamId, write.body⟩

theorem message_packet (streamId : UInt32) (write : TagWrite) :
    (write.packet streamId).message = write.message streamId := by
  simp [TagWrite.packet, TagWrite.message, tagPacket, RtmpPacket.message]

/-- The last packet of channel 4 was one of the stream, stamped `last`. -/
def OnStream (streamId : UInt32) (last : Nat) (out : Outgoing) : Prop :=
  ∃ prev, out.channels 4 = some prev ∧ prev.infoField2 = streamId ∧ prev.timestamp.toNat = last

theorem onStream_send (streamId : UInt32) (write : TagWrite) (made : write.WellMade)
    (out : Outgoing) :
    OnStream streamId write.timestamp (rtmpSendPacket out (write.packet streamId)).2 := by
  refine ⟨preparedPacket out (write.packet streamId), ?_, rfl, made.timestamp_eq.symm⟩
  show Function.update out.channels 4 (some (preparedPacket out (write.packet streamId))) 4 = _
  rw [Function.update_self]

theorem wireTimestamp_short {streamId : UInt32} {last : Nat} {out : Outgoing}
    (onStream : OnStream streamId last out) {write : TagWrite} (made : write.WellMade)
    (follows : write.timestamp = 0 ∨ last ≤ write.timestamp) (short : write.timestamp < 0xFFFFFF) :
    (preparedPacket out (write.packet streamId)).lastWireTimestamp < 0xFFFFFF := by
  obtain ⟨prev, channel, _, stamp⟩ := onStream
  have media : write.tagType = 0x09 ∨ write.tagType = 0x08 := made.media
  rw [made.timestamp_eq] at follows short
  have wire : (preparedPacket out (write.packet streamId)).lastWireTimestamp =
      write.tsMs - (compressHeader (some prev) (write.packet streamId)).2 := by
    rw [← channel]
    rfl
  rw [UInt32.lt_iff_toNat_lt, wire, compressHeader]
  split
  next =>
    rw [UInt32.sub_zero]
    exact short
  next notLarge =>
    -- Only a tag stamped zero has a large header.
    have notZero : write.tsMs ≠ 0 := by
      intro zero
      apply notLarge
      exact if_pos (.inl ⟨media.symm, zero⟩)
    have order : prev.timestamp ≤ write.tsMs := by
      rw [UInt32.le_iff_toNat_le, stamp]
      rcases follows with zero | order
      · exact absurd (UInt32.toNat_inj.mp zero) notZero
      · exact order
    have small : write.tsMs.toNat - prev.timestamp.toNat < 0xFFFFFF :=
      Nat.lt_of_le_of_lt (Nat.sub_le _ _) short
    show (write.tsMs - prev.timestamp).toNat < 0xFFFFFF
    rwa [UInt32.toNat_sub_of_le _ _ order]

theorem sendable_tag {streamId : UInt32} {last : Nat} {out : Outgoing}
    (onStream : OnStream streamId last out) {write : TagWrite} (made : write.WellMade)
    (follows : write.timestamp = 0 ∨ last ≤ write.timestamp) (short : write.timestamp < 0xFFFFFF) :
    Sendable out (write.packet streamId) := by
  have onWire := wireTimestamp_short onStream made follows short
  obtain ⟨prev, channel, stream, _⟩ := onStream
  have prevIs : out.channels (write.packet streamId).channel = some prev := channel
  have media : write.tagType = 0x09 ∨ write.tagType = 0x08 := made.media
  constructor
  · constructor
    · exact (by decide : Addressable 4)
    · rfl
    · exact Nat.lt_succ_of_le made.small
    · simp only [TagWrite.packet, tagPacket]
      split
      · exact .inl rfl
      · exact .inr rfl
    · intro none_
      rw [prevIs] at none_
      exact absurd none_ (Option.some_ne_none prev)
    · intro before is _
      rw [prevIs] at is
      cases is
      exact stream.symm
    · intro kind
      have isTag : write.tagType = 1 := kind
      rcases media with video | audio
      · exact absurd (video.symm.trans isTag) (by decide)
      · exact absurd (audio.symm.trans isTag) (by decide)
  · exact .inl onWire
  · exact fun _ => UInt32.le_of_lt onWire

theorem sentWith_tags {streamId : UInt32} {wire : List TagWrite} {last : Nat} {out : Outgoing}
    (onStream : OnStream streamId last out) (made : ∀ write ∈ wire, write.WellMade)
    (short : ∀ write ∈ wire, write.timestamp < 0xFFFFFF) (follow : StampsFollow last wire) :
    SentWith rtmpSendPacket Sendable out (wire.map (TagWrite.packet streamId)) := by
  induction wire generalizing last out with
  | nil => trivial
  | cons write rest inductionHypothesis =>
      have first := made write List.mem_cons_self
      refine ⟨sendable_tag onStream first follow.1 (short write List.mem_cons_self), ?_⟩
      exact inductionHypothesis (onStream_send streamId write first out)
        (fun next membership => made next (List.mem_cons_of_mem _ membership))
        (fun next membership => short next (List.mem_cons_of_mem _ membership)) follow.2

/-! ## The calls of `RTMP_Write` -/

/-- One call of `RTMP_Write` for each buffer: what they return, and the connection afterwards;
none if one of them reads past its buffer. -/
def writeAll (streamId : UInt32) : Publisher → List (List UInt8) → Option (List Int × Publisher)
  | publisher, [] => some ([], publisher)
  | publisher, bytes :: rest =>
      match rtmpWrite streamId publisher bytes with
      | .overread => none
      | .returned value next =>
          (writeAll streamId next rest).map fun later => (value :: later.1, later.2)

/-- What `RTMP_Write` returns for a tag, by the outcome of `RTMP_SendPacket`. -/
def tagResult (outcome : RtmpPacket × Bool) : Int :=
  if outcome.2 = false then -1 else (15 + outcome.1.bodySize : Nat)

theorem afterTag_chunkSize (streamId : UInt32) (publisher : Publisher) (tagType : UInt8)
    (tsMs : UInt32) (body : List UInt8) :
    (afterTag streamId publisher tagType tsMs body).out.chunkSize = publisher.out.chunkSize := by
  simp only [afterTag, sendTag, transmit]
  split <;> rfl

theorem writeAll_tags {streamId : UInt32} {publisher : Publisher} (idle : Idle publisher)
    {wire : List TagWrite} (made : ∀ write ∈ wire, write.WellMade) :
    ∃ last, writeAll streamId publisher (wire.map TagWrite.bytes) =
        some ((transmitAll rtmpSendPacket (Outgoing.start publisher.out.chunkSize)
          (publisher.link, publisher.out) (wire.map (TagWrite.packet streamId))).1.map tagResult,
          last) ∧
      last.link = (transmitAll rtmpSendPacket (Outgoing.start publisher.out.chunkSize)
        (publisher.link, publisher.out) (wire.map (TagWrite.packet streamId))).2.1 := by
  induction wire generalizing publisher with
  | nil => exact ⟨publisher, rfl, rfl⟩
  | cons write rest inductionHypothesis =>
      obtain ⟨bytes, small, media⟩ := made write List.mem_cons_self
      have notFile : write.tagType ≠ 0x46 := by
        rcases media with video | audio
        · rw [video]
          decide
        · rw [audio]
          decide
      obtain ⟨next, nextIs⟩ : ∃ next, next =
          afterTag streamId publisher write.tagType write.tsMs write.body := ⟨_, rfl⟩
      have nextIdle : Idle next := by
        rw [nextIs]
        exact afterTag_idle write.body
      have written : rtmpWrite streamId publisher
          (flvTagPieces write.tagType write.tsMs write.body).flatten = _ :=
        rtmpWrite_tag idle notFile small
      rw [← bytes, ← nextIs] at written
      obtain ⟨last, results, link⟩ := inductionHypothesis nextIdle
        (fun next membership => made next (List.mem_cons_of_mem _ membership))
      have chunkSize : next.out.chunkSize = publisher.out.chunkSize := by
        rw [nextIs]
        exact afterTag_chunkSize _ _ _ _ _
      rw [chunkSize, nextIs] at results link
      refine ⟨last, ?_, link⟩
      rw [List.map_cons, writeAll, written]
      dsimp only
      rw [nextIs, results]
      rfl

theorem tagResult_pos (outcome : RtmpPacket × Bool) : 0 < tagResult outcome ↔ outcome.2 = true := by
  unfold tagResult
  split
  next failed => simp [failed]
  next sent =>
    simp only [Bool.not_eq_false] at sent
    simp only [sent, iff_true]
    omega

/-- The packets that went out are those of the writes that the muxer takes for successes. -/
theorem accepted_tags {streamId : UInt32} {wire : List TagWrite}
    {outcomes : List (RtmpPacket × Bool)}
    (items : outcomes.map Prod.fst = wire.map (TagWrite.packet streamId))
    (results : outcomes.map tagResult = wire.map fun write => write.result.toInt) :
    (accepted outcomes).map RtmpPacket.message =
      (wire.filter TagWrite.succeeded).map (TagWrite.message streamId) := by
  induction wire generalizing outcomes with
  | nil =>
      rw [List.map_nil, List.map_eq_nil_iff] at items
      rw [items]
      rfl
  | cons write rest inductionHypothesis =>
      cases outcomes with
      | nil => simp at items
      | cons outcome later =>
          simp only [List.map_cons, List.cons.injEq] at items results
          have agree : write.succeeded = outcome.2 := by
            rw [Bool.eq_iff_iff, ← tagResult_pos, results.1, TagWrite.succeeded, decide_eq_true_eq,
              Int32.lt_iff_toInt_lt]
            rfl
          have tail := inductionHypothesis items.2 results.2
          rw [accepted] at tail ⊢
          cases sent : outcome.2 with
          | false =>
              rw [sent] at agree
              simpa [List.filter_cons, sent, agree] using tail
          | true =>
              rw [sent] at agree
              simpa [List.filter_cons, sent, agree, items.1, message_packet] using tail

/-- A connection that was opened by `opening`, with nothing collected in `m_write`. -/
def openedPublisher (chunkSize room : Nat) (opening : List RtmpPacket) : Publisher :=
  let opened := transmitAll rtmpSendPacket (Outgoing.start chunkSize)
    (⟨[], room, true⟩, Outgoing.start chunkSize) opening
  ⟨opened.2.1, opened.2.2, RtmpPacket.zero⟩

/-- The packets of `opening` that went out. -/
def openedPackets (chunkSize room : Nat) (opening : List RtmpPacket) : List RtmpPacket :=
  accepted (transmitAll rtmpSendPacket (Outgoing.start chunkSize)
    (⟨[], room, true⟩, Outgoing.start chunkSize) opening).1

theorem openedPublisher_chunkSize (chunkSize room : Nat) (opening : List RtmpPacket) :
    (openedPublisher chunkSize room opening).out.chunkSize = chunkSize := by
  have keeps : ∀ (out : Outgoing) (packet : RtmpPacket), out.chunkSize = chunkSize →
      (rtmpSendPacket out packet).2.chunkSize = chunkSize := fun _ _ same => same
  have start : (Outgoing.start chunkSize).chunkSize = chunkSize := rfl
  exact transmitAll_keeps (Outgoing.start chunkSize) start keeps start opening

theorem written_delivered {chunkSize : Nat} (positive : 0 < chunkSize) (room : Nat)
    {streamId : UInt32} {opening : List RtmpPacket} {wire : List TagWrite}
    (sendable : SentWith rtmpSendPacket Sendable (Outgoing.start chunkSize)
      (opening ++ wire.map (TagWrite.packet streamId)))
    (made : ∀ write ∈ wire, write.WellMade) {last : Publisher}
    (results : writeAll streamId (openedPublisher chunkSize room opening)
      (wire.map TagWrite.bytes) = some (wire.map fun write => write.result.toInt, last))
    {fuel : Nat} (enough : last.link.wire.length ≤ fuel) :
    drain readCall fuel (Incoming.start chunkSize, RtmpPacket.zero) last.link.wire =
      (openedPackets chunkSize room opening).map RtmpPacket.message ++
        (wire.filter TagWrite.succeeded).map (TagWrite.message streamId) := by
  have idle : Idle (openedPublisher chunkSize room opening) := ⟨rfl, rfl⟩
  obtain ⟨final, written, link⟩ := writeAll_tags idle made
  rw [results, Option.some.injEq, Prod.mk.injEq] at written
  obtain ⟨values, rfl⟩ := written
  rw [openedPublisher_chunkSize] at values link
  have stopped : ∀ state, readCall state [] = none := fun state => rfl
  have carried : ∀ out state packet, Agrees out state → Sendable out packet →
      ∃ next, Carries readCall state (rtmpSendPacket out packet).1 packet.message next ∧
        Agrees (rtmpSendPacket out packet).2 next :=
    fun _ _ _ agrees ok => rtmpSendPacket_carries agrees ok
  obtain ⟨added, onWire, drained⟩ := drain_transmitAll readCall_locally stopped
    rtmpSendPacket_pieces carried (Outgoing.start chunkSize) [] room (agrees_start positive)
    sendable
  rw [List.nil_append, transmitAll_append] at onWire
  have same : last.link.wire = added := by
    rw [link]
    exact onWire
  rw [same] at enough ⊢
  rw [drained fuel enough, transmitAll_append, accepted_append, List.map_append]
  have tags : (accepted (transmitAll rtmpSendPacket (Outgoing.start chunkSize)
      ((openedPublisher chunkSize room opening).link,
        (openedPublisher chunkSize room opening).out)
      (wire.map (TagWrite.packet streamId))).1).map RtmpPacket.message =
        (wire.filter TagWrite.succeeded).map (TagWrite.message streamId) :=
    accepted_tags (transmitAll_items _ _ _) values.symm
  rw [← tags]
  rfl

/-- The muxer of a run whose time stamps span less than 16777215 ms, in front of librtmp: the
results of its writes are those of `RTMP_Write` on a connection that was opened by `opening` and
breaks anywhere.  A peer reads what it was opened with and then exactly the tags whose write
succeeded, each with its type, its time stamp, the stream and its body. -/
theorem tags_delivered {chunkSize : Nat} (positive : 0 < chunkSize) (room : Nat)
    (streamId : UInt32) (opening : List RtmpPacket)
    (sendable : SentWith rtmpSendPacket Sendable (Outgoing.start chunkSize) opening)
    (published : OnStream streamId 0
      (sentState rtmpSendPacket (Outgoing.start chunkSize) opening))
    (initialised : Bool) (allocations : List Bool) (writes : List Int32) (connections : List Bool)
    (calls : List Muxer.RtmpCall) (muxer : Muxer)
    (ordered : (calls.filterMap Muxer.RtmpCall.ptsUs).Pairwise (· ≤ ·))
    (span : Muxer.ShortSpan calls)
    (executed : Machine.exec Muxer.step
      (Muxer.create initialised allocations writes connections) calls = some muxer)
    (last : Publisher)
    (results : writeAll streamId (openedPublisher chunkSize room opening)
      (muxer.wire.map TagWrite.bytes) =
        some (muxer.wire.map fun write => write.result.toInt, last))
    (fuel : Nat) (enough : last.link.wire.length ≤ fuel) :
    drain readCall fuel (Incoming.start chunkSize, RtmpPacket.zero) last.link.wire =
      (openedPackets chunkSize room opening).map RtmpPacket.message ++
        (muxer.wire.filter TagWrite.succeeded).map (TagWrite.message streamId) := by
  have steady : Muxer.SteadyPts calls := by
    refine ⟨ordered, ?_⟩
    intro first here later there
    have short := span first here later there
    unfold Muxer.shortSpanUs at short
    unfold stampSpanUs
    omega
  have made : Muxer.AllWellMade muxer :=
    Muxer.exec_wellMade (by simp [Muxer.AllWellMade, Muxer.create]) executed
  have stamps := Muxer.exec_stampInvariant
    (.create initialised allocations writes connections _) steady executed
  have shortStamps := Muxer.exec_shortStamps
    (⟨by simp [Muxer.create], fun set => absurd rfl set⟩) ordered span executed
  have follow : StampsFollow 0 muxer.wire :=
    stampsFollow_of_ordered stamps.headers stamps.ordered fun _ _ => Nat.zero_le _
  have tagsSendable := sentWith_tags published made shortStamps.short follow
  exact written_delivered positive room (sentWith_append.mpr ⟨sendable, tagsSendable⟩) made
    results enough

def publishRequest : RtmpPacket :=
  { RtmpPacket.zero with
    channel := 4, packetType := 20, infoField2 := 1, bodySize := 3, body := some [5, 6, 7] }

/-- Sound with its header, then two pictures, the connection breaking inside the second. -/
def soundAndPictures : List Muxer.RtmpCall :=
  [.setAudioConfig (some [0x12, 0x10]) 2, .sendAudio (some [7]) 1 0,
    .send (some [0, 0, 1, 0x67, 66, 0, 30, 0, 0, 1, 0x68, 9, 0, 0, 1, 0x65, 7]) 17 20000,
    .send (some [0, 0, 1, 0x65, 7]) 5 40000]

def soundAndPicturesMuxer : Muxer :=
  (Machine.exec Muxer.step (Muxer.create true [] [19, 18, 37, 26, -1] [])
    soundAndPictures).getD (Muxer.create true [] [] [])

theorem tags_delivered_break :
    ∃ last : Publisher,
      drain readCall last.link.wire.length (Incoming.start 16, RtmpPacket.zero)
          last.link.wire =
        [publishRequest.message, ⟨4, 8, 0, 1, [0xAF, 0, 0x12, 0x10]⟩, ⟨4, 8, 0, 1, [0xAF, 1, 7]⟩,
          ⟨4, 9, 0, 1, [0x17, 0, 0, 0, 0, 1, 66, 0, 30, 0xFF, 0xE1, 0, 4, 0x67, 66, 0, 30, 1, 0, 2,
            0x68, 9]⟩,
          ⟨4, 9, 20, 1, [0x17, 1, 0, 0, 0, 0, 0, 0, 2, 0x65, 7]⟩] ∧
      soundAndPicturesMuxer.wire.map TagWrite.succeeded = [true, true, true, true, false] := by
  have sendable : SentWith rtmpSendPacket Sendable (Outgoing.start 16) [publishRequest] := by
    decide +kernel
  have ordered : (soundAndPictures.filterMap Muxer.RtmpCall.ptsUs).Pairwise (· ≤ ·) := by decide
  have span : Muxer.ShortSpan soundAndPictures := by
    intro first isFirst last isLast
    simp only [soundAndPictures, Muxer.RtmpCall.ptsUs, List.filterMap_cons, List.filterMap_nil,
      List.mem_cons, List.not_mem_nil, or_false] at isFirst isLast
    rcases isFirst with rfl | rfl | rfl <;> rcases isLast with rfl | rfl | rfl <;> decide
  have published : OnStream 1 0
      (sentState rtmpSendPacket (Outgoing.start 16) [publishRequest]) := ⟨_, rfl, rfl, rfl⟩
  have executed : Machine.exec Muxer.step (Muxer.create true [] [19, 18, 37, 26, -1] [])
      soundAndPictures = some soundAndPicturesMuxer := rfl
  have returned : (writeAll 1 (openedPublisher 16 100 [publishRequest])
      (soundAndPicturesMuxer.wire.map TagWrite.bytes)).map Prod.fst =
        some (soundAndPicturesMuxer.wire.map fun write => write.result.toInt) := by
    decide +kernel
  obtain ⟨⟨values, last⟩, written, valuesAre⟩ := Option.map_eq_some_iff.mp returned
  dsimp only at valuesAre
  rw [valuesAre] at written
  have delivered := tags_delivered (by decide : 0 < 16) 100 1 [publishRequest] sendable published
    true [] [19, 18, 37, 26, -1] [] soundAndPictures soundAndPicturesMuxer ordered span executed
    last written last.link.wire.length (Nat.le_refl _)
  refine ⟨last, delivered.trans ?_, ?_⟩
  · decide +kernel
  · decide +kernel

end RejiStudio.Rtmp
