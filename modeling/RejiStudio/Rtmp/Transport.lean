import RejiStudio.Rtmp.AnnexB
import RejiStudio.Rtmp.Flv

/-!
# The RTMP transport

The exported functions of the transport over a state that also holds what its
surroundings answer: the outcomes of allocations, of `RTMP_Write` and of
`RTMP_IsConnected`, each of which succeeds once its list is used up.
-/

namespace RejiStudio.Rtmp

open RejiStudio.Lib

def noPts : Int64 := Int64.minValue

structure Transport where
  rtmp : Bool
  sps : Option (List UInt8)
  pps : Option (List UInt8)
  seqSent : Bool
  asc : Option (List UInt8)
  audioSeqSent : Bool
  firstPtsUs : Int64
  audioBody : Buf
  body : Buf
  tag : Buf
  deriving DecidableEq

/-- A call of `RTMP_Write`, with the parameter sets stored at that moment. -/
structure TagWrite where
  tagType : UInt8
  tsMs : UInt32
  body : List UInt8
  bytes : List UInt8
  result : Int32
  sps : Option (List UInt8)
  pps : Option (List UInt8)
  deriving DecidableEq

namespace TagWrite

def succeeded (write : TagWrite) : Bool := decide (0 < write.result)

def isVideoHeader (write : TagWrite) : Bool :=
  write.tagType == flvVideoTag && write.body[1]? == some 0

def isCodedVideo (write : TagWrite) : Bool :=
  write.tagType == flvVideoTag && write.body[1]? == some 1

end TagWrite

structure Muxer where
  transport : Transport
  allocations : List Bool
  writes : List Int32
  connections : List Bool
  wire : List TagWrite
  deriving DecidableEq

namespace Muxer

/-- `rj_rtmp_create`, and `rj_rtmp_init` if `initialised`. -/
def create (initialised : Bool) (allocations : List Bool) (writes : List Int32)
    (connections : List Bool) : Muxer where
  transport :=
    { rtmp := initialised, sps := none, pps := none, seqSent := false, asc := none,
      audioSeqSent := false, firstPtsUs := noPts, audioBody := Buf.empty, body := Buf.empty,
      tag := Buf.empty }
  allocations := allocations
  writes := writes
  connections := connections
  wire := []

def isConnected (muxer : Muxer) : Bool × Muxer :=
  match muxer.connections with
  | [] => (true, muxer)
  | connected :: rest => (connected, { muxer with connections := rest })

def rtmpWrite (muxer : Muxer) (tagType : UInt8) (tsMs : UInt32) (body : List UInt8) :
    Bool × Muxer :=
  let bytes := muxer.transport.tag.items
  let result := muxer.writes.headD (Int32.ofNat bytes.length)
  let write : TagWrite :=
    ⟨tagType, tsMs, body, bytes, result, muxer.transport.sps, muxer.transport.pps⟩
  (write.succeeded, { muxer with writes := muxer.writes.tail, wire := muxer.wire ++ [write] })

def writeFlvTag (muxer : Muxer) (tagType : UInt8) (tsMs : UInt32) (body : List UInt8) :
    Bool × Muxer :=
  if withinTagLimit body.length = false then
    (false, muxer)
  else
    let (ok, tag, rest) :=
      ({ muxer.transport.tag with items := [] }).appendAll (flvTagPieces tagType tsMs body)
        muxer.allocations
    let filled := { muxer with
      transport := { muxer.transport with tag := tag }, allocations := rest }
    if ok then filled.rtmpWrite tagType tsMs body else (false, filled)

end Muxer

/-- What `updateParamSet` leaves behind its three pointers. -/
structure ParamSet where
  ok : Bool
  slot : Option (List UInt8)
  seqSent : Bool
  allocations : List Bool

def dupeParamSet (nal : List UInt8) (seqSent : Bool) (allocations : List Bool) : ParamSet :=
  match allocate allocations with
  | (true, rest) => ⟨true, some nal, seqSent, rest⟩
  | (false, rest) => ⟨false, none, seqSent, rest⟩

/-- A slot that changes is freed first, so a refused copy leaves it empty. -/
def updateParamSet (slot : Option (List UInt8)) (nal : List UInt8) (seqSent : Bool)
    (allocations : List Bool) : ParamSet :=
  match slot with
  | some old =>
      if old = nal then ⟨true, some old, seqSent, allocations⟩
      else dupeParamSet nal false allocations
  | none => dupeParamSet nal seqSent allocations

/-- The locals of the NAL loop of `rj_rtmp_send`. -/
structure Frame where
  muxer : Muxer
  isKeyframe : Bool
  haveFrameData : Bool

namespace Frame

def storeSps (frame : Frame) (nal : List UInt8) : Bool × Frame :=
  let transport := frame.muxer.transport
  let updated := updateParamSet transport.sps nal transport.seqSent frame.muxer.allocations
  (updated.ok, { frame with
    muxer := { frame.muxer with
      transport := { transport with sps := updated.slot, seqSent := updated.seqSent }
      allocations := updated.allocations } })

def storePps (frame : Frame) (nal : List UInt8) : Bool × Frame :=
  let transport := frame.muxer.transport
  let updated := updateParamSet transport.pps nal transport.seqSent frame.muxer.allocations
  (updated.ok, { frame with
    muxer := { frame.muxer with
      transport := { transport with pps := updated.slot, seqSent := updated.seqSent }
      allocations := updated.allocations } })

def appendUnit (frame : Frame) (nalType : UInt8) (nal : List UInt8) : Bool × Frame :=
  let (ok, body, rest) := frame.muxer.transport.body.appendAll
    (eachByte (bigEndian32 (UInt32.ofNat nal.length)) ++ [nal]) frame.muxer.allocations
  (ok, {
    muxer := { frame.muxer with
      transport := { frame.muxer.transport with body := body }, allocations := rest }
    isKeyframe := frame.isKeyframe || nalType == 5
    haveFrameData := frame.haveFrameData || (1 ≤ nalType && nalType ≤ 5) })

/-- One round of the NAL loop; `false` is the early return. -/
def visitNal (frame : Frame) (nal : List UInt8) : Bool × Frame :=
  match nal with
  | [] => (true, frame)
  | header :: _ =>
      let nalType := header &&& 0x1F
      if nalType = 7 then frame.storeSps nal
      else if nalType = 8 then frame.storePps nal
      else if nalType = 9 then (true, frame)
      else frame.appendUnit nalType nal

def visitNals (frame : Frame) : List (List UInt8) → Bool × Frame
  | [] => (true, frame)
  | nal :: rest =>
      match frame.visitNal nal with
      | (true, next) => next.visitNals rest
      | (false, next) => (false, next)

end Frame

/-- Milliseconds since the first time stamp, with the wrapping subtraction and the
truncation of the source. -/
def relativeMs (firstPtsUs ptsUs : Int64) : UInt32 :=
  let relUs := ptsUs - firstPtsUs
  let clamped := if relUs < 0 then 0 else relUs
  UInt32.ofNat (clamped.toInt.toNat / 1000)

namespace Muxer

/-- The NAL loop of `rj_rtmp_send`, over an emptied frame body. -/
def accumulate (muxer : Muxer) (data : List UInt8) : Bool × Frame :=
  let transport := muxer.transport
  let emptied := { transport with body := { transport.body with items := [] } }
  (Frame.mk { muxer with transport := emptied } false false).visitNals (nalUnits data)

/-- The sequence header, sent when `seqSent` is false; `some` is an early return. -/
def sendSequenceHeader (muxer : Muxer) (haveFrameData : Bool) : Option Bool × Muxer :=
  if muxer.transport.seqSent then (none, muxer) else
  match muxer.transport.sps, muxer.transport.pps with
  | none, _ => (some (!haveFrameData), muxer)
  | some _, none => (some (!haveFrameData), muxer)
  | some sps, some pps =>
      let transport := muxer.transport
      let cleared := { muxer with
        transport := { transport with tag := { transport.tag with items := [] } } }
      match Buf.empty.appendAll [[0x17, 0x00, 0x00, 0x00, 0x00]] cleared.allocations with
      | (false, _, rest) => (some false, { cleared with allocations := rest })
      | (true, hdr, rest) =>
          match buildAvcConfig hdr sps pps rest with
          | (false, _, left) => (some false, { cleared with allocations := left })
          | (true, header, left) =>
              match ({ cleared with allocations := left }).writeFlvTag flvVideoTag 0
                header.items with
              | (false, written) => (some false, written)
              | (true, written) =>
                  (none, { written with
                    transport := { written.transport with seqSent := true } })

/-- The coded-video tag of `rj_rtmp_send`. -/
def sendFrame (muxer : Muxer) (isKeyframe : Bool) (ptsUs : Int64) : Bool × Muxer :=
  let transport := muxer.transport
  let firstPtsUs := if transport.firstPtsUs = noPts then ptsUs else transport.firstPtsUs
  let started := { muxer with transport := { transport with firstPtsUs := firstPtsUs } }
  let tsMs := relativeMs firstPtsUs ptsUs
  match Buf.empty.appendAll
      [[if isKeyframe then 0x17 else 0x27, 0x01, 0x00, 0x00, 0x00], transport.body.items]
      started.allocations with
  | (false, _, rest) => (false, { started with allocations := rest })
  | (true, frame, rest) =>
      ({ started with allocations := rest }).writeFlvTag flvVideoTag tsMs frame.items

/-- `rj_rtmp_send` past its checks. -/
def sendPacket (muxer : Muxer) (data : List UInt8) (ptsUs : Int64) : Bool × Muxer :=
  match muxer.accumulate data with
  | (false, frame) => (false, frame.muxer)
  | (true, frame) =>
      match frame.muxer.sendSequenceHeader frame.haveFrameData with
      | (some answer, sent) => (answer, sent)
      | (none, sent) =>
          if frame.haveFrameData then sent.sendFrame frame.isKeyframe ptsUs else (true, sent)

/-- `rj_rtmp_send` of the first `size` bytes behind `data`, a null pointer if
`none`. -/
def rjRtmpSend (muxer : Muxer) (data : Option (List UInt8)) (size : Nat) (ptsUs : Int64) :
    Bool × Muxer :=
  if muxer.transport.rtmp = false then (false, muxer) else
  match muxer.isConnected with
  | (false, checked) => (false, checked)
  | (true, checked) =>
      if size = 0 then (true, checked)
      else if maxVideoPacketBytes < size then (false, checked)
      else
        match data with
        | none => (false, checked)
        | some bytes => checked.sendPacket (bytes.take size) ptsUs

def rjRtmpSetAudioConfig (muxer : Muxer) (asc : Option (List UInt8)) (ascLen : Nat) :
    Bool × Muxer :=
  if ascLen = 0 ∨ maxAscBytes < ascLen then (false, muxer) else
  match asc with
  | none => (false, muxer)
  | some bytes =>
      match allocate muxer.allocations with
      | (false, rest) =>
          (false, { muxer with
            transport := { muxer.transport with asc := none }, allocations := rest })
      | (true, rest) =>
          (true, { muxer with
            transport :=
              { muxer.transport with asc := some (bytes.take ascLen), audioSeqSent := false }
            allocations := rest })

def writeAudioTag (muxer : Muxer) (packetType : UInt8) (tsMs : UInt32) (payload : List UInt8) :
    Bool × Muxer :=
  let (ok, body, rest) :=
    buildAudioTagBody muxer.transport.audioBody packetType payload muxer.allocations
  let built := { muxer with
    transport := { muxer.transport with audioBody := body }, allocations := rest }
  if ok then built.writeFlvTag flvAudioTag tsMs body.items else (false, built)

/-- The audio sequence header, sent when `audioSeqSent` is false. -/
def sendAudioHeader (muxer : Muxer) : Bool × Muxer :=
  if muxer.transport.audioSeqSent then (true, muxer) else
  match muxer.transport.asc with
  | none => (false, muxer)
  | some asc =>
      match muxer.writeAudioTag 0x00 0 asc with
      | (false, written) => (false, written)
      | (true, written) =>
          (true, { written with transport := { written.transport with audioSeqSent := true } })

/-- `rj_rtmp_send_audio` past its checks. -/
def sendAudioFrame (muxer : Muxer) (aac : List UInt8) (ptsUs : Int64) : Bool × Muxer :=
  match muxer.sendAudioHeader with
  | (false, sent) => (false, sent)
  | (true, sent) =>
      let transport := sent.transport
      let firstPtsUs := if transport.firstPtsUs = noPts then ptsUs else transport.firstPtsUs
      let started := { sent with transport := { transport with firstPtsUs := firstPtsUs } }
      started.writeAudioTag 0x01 (relativeMs firstPtsUs ptsUs) aac

def rjRtmpSendAudio (muxer : Muxer) (aac : Option (List UInt8)) (aacLen : Nat) (ptsUs : Int64) :
    Bool × Muxer :=
  if muxer.transport.rtmp = false then (false, muxer) else
  match muxer.isConnected with
  | (false, checked) => (false, checked)
  | (true, checked) =>
      if aacLen = 0 then (true, checked)
      else if maxAacFrameBytes < aacLen then (false, checked)
      else
        match aac with
        | none => (false, checked)
        | some bytes => checked.sendAudioFrame (bytes.take aacLen) ptsUs

/-! ## What the writes change -/

structure SameSets (next muxer : Muxer) : Prop where
  sps : next.transport.sps = muxer.transport.sps
  pps : next.transport.pps = muxer.transport.pps
  seqSent : next.transport.seqSent = muxer.transport.seqSent

structure WroteTag (muxer next : Muxer) (tagType : UInt8) (tsMs : UInt32) (body : List UInt8)
    (result : Bool) : Prop where
  sameSets : next.SameSets muxer
  sameBody : next.transport.body = muxer.transport.body
  wire : (result = false ∧ next.wire = muxer.wire) ∨
    ∃ write, next.wire = muxer.wire ++ [write] ∧ write.succeeded = result ∧
      write.tagType = tagType ∧ write.tsMs = tsMs ∧ write.body = body ∧
      write.sps = muxer.transport.sps ∧ write.pps = muxer.transport.pps

theorem writeFlvTag_wrote (muxer : Muxer) (tagType : UInt8) (tsMs : UInt32)
    (body : List UInt8) :
    WroteTag muxer (muxer.writeFlvTag tagType tsMs body).2 tagType tsMs body
      (muxer.writeFlvTag tagType tsMs body).1 := by
  unfold writeFlvTag
  split
  next => exact ⟨⟨rfl, rfl, rfl⟩, rfl, .inl ⟨rfl, rfl⟩⟩
  next =>
    dsimp only
    split
    next => exact ⟨⟨rfl, rfl, rfl⟩, rfl, .inr ⟨_, rfl, rfl, rfl, rfl, rfl, rfl, rfl⟩⟩
    next => exact ⟨⟨rfl, rfl, rfl⟩, rfl, .inl ⟨rfl, rfl⟩⟩

def nextTsMs (muxer : Muxer) (ptsUs : Int64) : UInt32 :=
  relativeMs (if muxer.transport.firstPtsUs = noPts then ptsUs else muxer.transport.firstPtsUs)
    ptsUs

/-- The coded-video tag is the key-frame mark, four bytes and the frame body. -/
theorem sendFrame_wrote (muxer : Muxer) (isKeyframe : Bool) (ptsUs : Int64) :
    WroteTag muxer (muxer.sendFrame isKeyframe ptsUs).2 flvVideoTag (muxer.nextTsMs ptsUs)
      ([if isKeyframe then 0x17 else 0x27, 0x01, 0x00, 0x00, 0x00] ++
        muxer.transport.body.items)
      (muxer.sendFrame isKeyframe ptsUs).1 := by
  unfold sendFrame
  dsimp only
  split
  next => exact ⟨⟨rfl, rfl, rfl⟩, rfl, .inl ⟨rfl, rfl⟩⟩
  next frame rest built =>
    have appended := Buf.appendAll_items (congrArg Prod.fst built)
    rw [built] at appended
    have items : frame.items = [if isKeyframe then 0x17 else 0x27, 0x01, 0x00, 0x00, 0x00] ++
        muxer.transport.body.items := by
      simpa [Buf.empty] using appended
    rw [← items]
    obtain ⟨sets, body, wire⟩ := writeFlvTag_wrote
      { muxer with
        transport := { muxer.transport with
          firstPtsUs := if muxer.transport.firstPtsUs = noPts then ptsUs
            else muxer.transport.firstPtsUs }
        allocations := rest } flvVideoTag (muxer.nextTsMs ptsUs) frame.items
    exact ⟨⟨sets.sps, sets.pps, sets.seqSent⟩, body, wire⟩

/-- The header changes nothing when it is not due or cannot be built; otherwise
one tag carries the record of the stored sets, and its success raises the flag. -/
theorem sendSequenceHeader_cases (muxer : Muxer) (haveFrameData : Bool) :
    let result := muxer.sendSequenceHeader haveFrameData
    result.2.transport.body = muxer.transport.body ∧
      result.2.transport.sps = muxer.transport.sps ∧
      result.2.transport.pps = muxer.transport.pps ∧
      ((result.2.wire = muxer.wire ∧
          result.2.transport.seqSent = muxer.transport.seqSent ∧
          (result.1 = none → muxer.transport.seqSent = true)) ∨
        ∃ sps pps config write, muxer.transport.sps = some sps ∧
          muxer.transport.pps = some pps ∧ avcConfig sps pps = some config ∧
          result.2.wire = muxer.wire ++ [write] ∧ write.tagType = flvVideoTag ∧
          write.body = [0x17, 0x00, 0x00, 0x00, 0x00] ++ config ∧
          result.2.transport.seqSent = write.succeeded ∧
          (result.1 = none → write.succeeded = true)) := by
  intro result
  unfold result sendSequenceHeader
  split
  next sent => exact ⟨rfl, rfl, rfl, .inl ⟨rfl, rfl, fun _ => sent⟩⟩
  next notSent =>
    have down : muxer.transport.seqSent = false := by simpa using notSent
    split
    next => exact ⟨rfl, rfl, rfl, .inl ⟨rfl, rfl, nofun⟩⟩
    next => exact ⟨rfl, rfl, rfl, .inl ⟨rfl, rfl, nofun⟩⟩
    next sps pps hasSps hasPps =>
      dsimp only
      split
      next => exact ⟨rfl, rfl, rfl, .inl ⟨rfl, rfl, nofun⟩⟩
      next hdr rest started =>
        split
        next => exact ⟨rfl, rfl, rfl, .inl ⟨rfl, rfl, nofun⟩⟩
        next header left built =>
          have opening := Buf.appendAll_items (congrArg Prod.fst started)
          obtain ⟨config, record, items⟩ := buildAvcConfig_items (congrArg Prod.fst built)
          rw [started] at opening
          rw [built] at items
          have headerBody : header.items = [0x17, 0x00, 0x00, 0x00, 0x00] ++ config := by
            rw [items, opening]
            rfl
          set cleared : Muxer := { muxer with
            transport := { muxer.transport with tag := { muxer.transport.tag with items := [] } }
            allocations := left }
          obtain ⟨same, body, wire⟩ := cleared.writeFlvTag_wrote flvVideoTag 0 header.items
          split <;> rename_i written wrote <;> rw [wrote] at same body wire
          · refine ⟨body, same.sps, same.pps, ?_⟩
            rcases wire with ⟨_, wire⟩ | ⟨write, wire, outcome, type, _, bytes, _⟩
            · exact .inl ⟨wire, same.seqSent, nofun⟩
            · refine .inr ⟨sps, pps, config, write, hasSps, hasPps, record, wire, type,
                bytes.trans headerBody, ?_, nofun⟩
              exact (same.seqSent.trans down).trans outcome.symm
          · refine ⟨body, same.sps, same.pps, ?_⟩
            rcases wire with ⟨refused, _⟩ | ⟨write, wire, outcome, type, _, bytes, _⟩
            · cases refused
            · exact .inr ⟨sps, pps, config, write, hasSps, hasPps, record, wire, type,
                bytes.trans headerBody, outcome.symm, fun _ => outcome⟩

theorem writeAudioTag_wrote (muxer : Muxer) (packetType : UInt8) (tsMs : UInt32)
    (payload : List UInt8) :
    ∃ body, WroteTag muxer (muxer.writeAudioTag packetType tsMs payload).2 flvAudioTag tsMs body
      (muxer.writeAudioTag packetType tsMs payload).1 := by
  unfold writeAudioTag
  dsimp only
  split
  next =>
    obtain ⟨sets, body, wire⟩ := writeFlvTag_wrote
      { muxer with
        transport := { muxer.transport with
          audioBody := (buildAudioTagBody muxer.transport.audioBody packetType payload
            muxer.allocations).2.1 }
        allocations := (buildAudioTagBody muxer.transport.audioBody packetType payload
          muxer.allocations).2.2 } flvAudioTag tsMs
      (buildAudioTagBody muxer.transport.audioBody packetType payload muxer.allocations).2.1.items
    exact ⟨_, ⟨sets.sps, sets.pps, sets.seqSent⟩, body, wire⟩
  next => exact ⟨[], ⟨rfl, rfl, rfl⟩, rfl, .inl ⟨rfl, rfl⟩⟩

theorem isConnected_same (muxer : Muxer) :
    muxer.isConnected.2.transport = muxer.transport ∧ muxer.isConnected.2.wire = muxer.wire ∧
      muxer.isConnected.2.allocations = muxer.allocations := by
  unfold isConnected
  split <;> exact ⟨rfl, rfl, rfl⟩

/-- Behind its checks `rj_rtmp_send` sends the packet, or it changes nothing but
the connection checks that are left. -/
theorem rjRtmpSend_cases (muxer : Muxer) (data : Option (List UInt8)) (size : Nat)
    (ptsUs : Int64) :
    (muxer.rjRtmpSend data size ptsUs).2 = muxer ∨
      (muxer.rjRtmpSend data size ptsUs).2 = muxer.isConnected.2 ∨
      ∃ bytes : List UInt8, muxer.rjRtmpSend data size ptsUs =
        muxer.isConnected.2.sendPacket (bytes.take size) ptsUs := by
  unfold rjRtmpSend
  split
  next => exact .inl rfl
  next =>
    split
    next checked connection => exact .inr (.inl (by rw [connection]))
    next checked connection =>
      rw [connection]
      repeat' split
      any_goals exact .inr (.inl rfl)
      exact .inr (.inr ⟨_, rfl⟩)

theorem rjRtmpSendAudio_cases (muxer : Muxer) (aac : Option (List UInt8)) (aacLen : Nat)
    (ptsUs : Int64) :
    (muxer.rjRtmpSendAudio aac aacLen ptsUs).2 = muxer ∨
      (muxer.rjRtmpSendAudio aac aacLen ptsUs).2 = muxer.isConnected.2 ∨
      ∃ bytes : List UInt8, muxer.rjRtmpSendAudio aac aacLen ptsUs =
        muxer.isConnected.2.sendAudioFrame (bytes.take aacLen) ptsUs := by
  unfold rjRtmpSendAudio
  split
  next => exact .inl rfl
  next =>
    split
    next checked connection => exact .inr (.inl (by rw [connection]))
    next checked connection =>
      rw [connection]
      repeat' split
      any_goals exact .inr (.inl rfl)
      exact .inr (.inr ⟨_, rfl⟩)

end Muxer

end RejiStudio.Rtmp
