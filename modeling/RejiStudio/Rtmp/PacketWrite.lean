import RejiStudio.Rtmp.ChunkRoundTrip
import RejiStudio.Rtmp.FlvTag

/-!
# `RTMP_Write`

The loop that takes FLV tags out of a buffer, collects each body in `m_write` and sends it as a
packet; and what it does with a buffer of one whole tag, which is all that `writeFlvTag` hands
over.
-/

namespace RejiStudio.Rtmp

open RejiStudio.Lib

/-- The connection, the sending half and `m_write` of a publishing `RTMP`. -/
structure Publisher where
  link : Link UInt8
  out : Outgoing
  write : RtmpPacket

/-- A call of `RTMP_Write` returns, or it reads past its buffer. -/
inductive WriteOutcome where
  | overread
  | returned (value : Int) (publisher : Publisher)

def beginTag (packet : RtmpPacket) (header : List UInt8) : RtmpPacket :=
  let packetType := header.getD 0 0
  let timestamp := UInt32.ofNat (readBigEndian32 (header.getD 7 0) (header.getD 4 0)
    (header.getD 5 0) (header.getD 6 0))
  let headerType : HeaderType :=
    if ((packetType = 0x08 ∨ packetType = 0x09) ∧ timestamp = 0) ∨ packetType = 0x12 then .large
    else .medium
  { packet with
      packetType := packetType, timestamp := timestamp, headerType := headerType
      bodySize := decodeInt24 header 1 }.alloc (decodeInt24 header 1)

/-- One round of the loop: the part of a body that the buffer holds, and the packet once it is
complete. -/
def fillBody (size : Nat) (publisher : Publisher) (buf : List UInt8) (s2 : Int) :
    WriteOutcome ⊕ (Publisher × List UInt8 × Int) :=
  let packet := publisher.write
  let left : Int := packet.bodySize - packet.bytesRead
  let num := if left > s2 then s2 else left
  if num < 0 then .inl .overread
  else
    match readN num.toNat buf with
    | none => .inl .overread
    | some (data, rest) =>
        let filled := { packet with
          body := packet.body.map fun body => writeBody body packet.bytesRead data
          bytesRead := packet.bytesRead + num.toNat }
        if filled.bytesRead = filled.bodySize then
          let sent := preparedPacket publisher.out filled
          let outcome := transmit rtmpSendPacket (Outgoing.start publisher.out.chunkSize)
            (publisher.link, publisher.out) filled
          let next : Publisher :=
            ⟨outcome.2.1, outcome.2.2, { sent.free with bytesRead := 0 }⟩
          if outcome.1 = false then .inl (.returned (-1) next)
          else if s2 - num - 4 < 0 then .inl (.returned (size + (s2 - num - 4)) next)
          else .inr (next, rest.drop 4, s2 - num - 4)
        else .inr ({ publisher with write := filled }, rest, s2 - num)

/-- The loop of `RTMP_Write`; `fuel` bounds its rounds. -/
def rtmpWriteLoop (size : Nat) : Nat → Publisher → List UInt8 → Int → WriteOutcome
  | 0, _, _, _ => .overread
  | fuel + 1, publisher, buf, s2 =>
      if s2 = 0 then .returned size publisher
      else
        let round :=
          if publisher.write.bytesRead = 0 then
            if size < 11 then .inl (.returned 0 publisher)
            else
              -- An FLV file header is skipped.
              let skip := if buf.take 3 = [0x46, 0x4C, 0x56] then 13 else 0
              match readN (skip + 11) buf with
              | none => .inl .overread
              | some (header, rest) =>
                  fillBody size
                    { publisher with write := beginTag publisher.write (header.drop skip) } rest
                    (s2 - (skip + 11 : Nat))
          else fillBody size publisher buf s2
        match round with
        | .inl outcome => outcome
        | .inr (next, rest, left) => rtmpWriteLoop size fuel next rest left

/-- `RTMP_Write` on the stream `streamId`. -/
def rtmpWrite (streamId : UInt32) (publisher : Publisher) (buf : List UInt8) : WriteOutcome :=
  rtmpWriteLoop buf.length (buf.length + 1)
    { publisher with write := { publisher.write with channel := 4, infoField2 := streamId } }
    buf buf.length

/-! ## One whole tag -/

def tagPacket (streamId : UInt32) (tagType : UInt8) (tsMs : UInt32) (body : List UInt8) :
    RtmpPacket :=
  { RtmpPacket.zero with
    headerType :=
      if ((tagType = 0x08 ∨ tagType = 0x09) ∧ tsMs = 0) ∨ tagType = 0x12 then .large else .medium
    packetType := tagType, channel := 4, timestamp := tsMs, infoField2 := streamId
    bodySize := body.length, bytesRead := body.length, body := some body }

/-- Between two calls with whole tags `m_write` holds nothing. -/
structure Idle (publisher : Publisher) : Prop where
  bytesRead : publisher.write.bytesRead = 0
  absolute : publisher.write.hasAbsTimestamp = false

theorem writeBody_all (body data : List UInt8) (same : data.length = body.length) :
    writeBody body 0 data = data := by
  simp [writeBody, same]

theorem length_flvTag (tagType : UInt8) (tsMs : UInt32) (body : List UInt8) :
    (flvTagPieces tagType tsMs body).flatten.length = 15 + body.length := by
  rw [length_flvTagPieces]

structure TagHeader (header : List UInt8) (tagType : UInt8) (tsMs : UInt32) (bodySize : Nat) :
    Prop where
  length : header.length = 11
  tagType : header.head? = some tagType
  bodySize : decodeInt24 header 1 = bodySize
  timestamp : UInt32.ofNat (readBigEndian32 (header.getD 7 0) (header.getD 4 0)
    (header.getD 5 0) (header.getD 6 0)) = tsMs

theorem flvTag_split (tagType : UInt8) (tsMs : UInt32) {body : List UInt8}
    (small : body.length ≤ 0xFFFFFF) :
    ∃ header trailer : List UInt8, (flvTagPieces tagType tsMs body).flatten =
        header ++ (body ++ trailer) ∧ TagHeader header tagType tsMs body.length ∧
      trailer.length = 4 := by
  have timestamp := readTimestamp_flvTagPieces tagType tsMs body
  obtain ⟨size2, size1, size0, writtenSize, size⟩ := bigEndian24_eq (Nat.lt_succ_of_le small)
  refine ⟨tagType :: [size2, size1, size0,
      (((tsMs &&& 0xFFFFFF) >>> 16) &&& 0xFF).toUInt8,
      (((tsMs &&& 0xFFFFFF) >>> 8) &&& 0xFF).toUInt8,
      ((tsMs &&& 0xFFFFFF) &&& 0xFF).toUInt8, ((tsMs >>> 24) &&& 0xFF).toUInt8, 0, 0, 0],
    bigEndian32 (UInt32.ofNat (11 + body.length)), ?_, ⟨rfl, rfl, size, ?_⟩, rfl⟩
  · simp only [flvTagPieces, List.flatten_append, flatten_eachByte, List.flatten_cons,
      writtenSize, List.append_assoc, List.cons_append, List.nil_append]
    rfl
  · have stamped : readBigEndian32 ((tsMs >>> 24) &&& 0xFF).toUInt8
        (((tsMs &&& 0xFFFFFF) >>> 16) &&& 0xFF).toUInt8
        (((tsMs &&& 0xFFFFFF) >>> 8) &&& 0xFF).toUInt8
        ((tsMs &&& 0xFFFFFF) &&& 0xFF).toUInt8 = tsMs.toNat := timestamp
    have number := congrArg UInt32.ofNat stamped
    rwa [UInt32.ofNat_toNat] at number

variable {streamId : UInt32} {publisher : Publisher} {tagType : UInt8} {tsMs : UInt32}

/-- `RTMP_SendPacket` of the packet of a tag. -/
def sendTag (streamId : UInt32) (publisher : Publisher) (tagType : UInt8) (tsMs : UInt32)
    (body : List UInt8) : Bool × Link UInt8 × Outgoing :=
  transmit rtmpSendPacket (Outgoing.start publisher.out.chunkSize)
    (publisher.link, publisher.out) (tagPacket streamId tagType tsMs body)

theorem beginTag_header {header : List UInt8} {bodySize : Nat}
    (read : TagHeader header tagType tsMs bodySize)
    (absolute : publisher.write.hasAbsTimestamp = false) :
    beginTag { publisher.write with channel := 4, infoField2 := streamId } header =
      { tagPacket streamId tagType tsMs (List.replicate bodySize 0) with
        lastWireTimestamp := publisher.write.lastWireTimestamp, bytesRead := 0 } := by
  have first : header.getD 0 0 = tagType := by
    rw [List.getD_eq_getElem?_getD, ← List.head?_eq_getElem?, read.tagType]
    rfl
  simp only [beginTag, first, read.timestamp, read.bodySize, RtmpPacket.alloc, tagPacket,
    RtmpPacket.zero, absolute, List.length_replicate]

def startedTag (streamId : UInt32) (tagType : UInt8) (tsMs stamp : UInt32) (bodySize : Nat) :
    RtmpPacket :=
  { tagPacket streamId tagType tsMs (List.replicate bodySize 0) with
    lastWireTimestamp := stamp, bytesRead := 0 }

def afterTag (streamId : UInt32) (publisher : Publisher) (tagType : UInt8) (tsMs : UInt32)
    (body : List UInt8) : Publisher where
  link := (sendTag streamId publisher tagType tsMs body).2.1
  out := (sendTag streamId publisher tagType tsMs body).2.2
  write := { (preparedPacket publisher.out
    (tagPacket streamId tagType tsMs body)).free with bytesRead := 0 }

theorem afterTag_idle (body : List UInt8) :
    Idle (afterTag streamId publisher tagType tsMs body) := ⟨rfl, rfl⟩

/-- The body of a tag is in the buffer as a whole, with the size of the tag behind it. -/
theorem fillBody_tag (size : Nat) {body trailer : List UInt8} {stamp : UInt32} :
    fillBody size
        { publisher with write := startedTag streamId tagType tsMs stamp body.length }
        (body ++ trailer) (body.length + 4 : Nat) =
      if (sendTag streamId publisher tagType tsMs body).1 = false then
        .inl (.returned (-1) (afterTag streamId publisher tagType tsMs body))
      else .inr (afterTag streamId publisher tagType tsMs body, trailer.drop 4, 0) := by
  have bodySize : (startedTag streamId tagType tsMs stamp body.length).bodySize =
      body.length := List.length_replicate
  have left : (((startedTag streamId tagType tsMs stamp body.length).bodySize : Nat) : Int) -
      ((startedTag streamId tagType tsMs stamp body.length).bytesRead : Nat) = body.length := by
    rw [bodySize]
    exact sub_zero _
  have num : (if (body.length : Int) > (body.length + 4 : Nat) then
      ((body.length + 4 : Nat) : Int) else body.length) = body.length := by
    rw [if_neg (by omega)]
  have whole : readN body.length (body ++ trailer) = some (body, trailer) :=
    readN_append body.length body trailer rfl
  have notNegative : ¬ ((body.length : Int) < 0) := by omega
  have nothing : ((body.length + 4 : Nat) : Int) - body.length - 4 = 0 := by omega
  -- The filled packet is that of the tag, but for the field that sending overwrites.
  have filled : { startedTag streamId tagType tsMs stamp body.length with
        body := (startedTag streamId tagType tsMs stamp body.length).body.map fun before =>
          writeBody before (startedTag streamId tagType tsMs stamp body.length).bytesRead body
        bytesRead := (startedTag streamId tagType tsMs stamp body.length).bytesRead +
          body.length } =
      { tagPacket streamId tagType tsMs body with lastWireTimestamp := stamp } := by
    have written : writeBody (List.replicate body.length 0) 0 body = body :=
      writeBody_all _ _ List.length_replicate.symm
    simp only [startedTag, tagPacket, Option.map_some, written, Nat.zero_add,
      List.length_replicate]
  have complete : (startedTag streamId tagType tsMs stamp body.length).bytesRead + body.length =
      (startedTag streamId tagType tsMs stamp body.length).bodySize := by
    rw [bodySize]
    exact Nat.zero_add _
  have sent : transmit rtmpSendPacket (Outgoing.start publisher.out.chunkSize)
      (publisher.link, publisher.out)
        { tagPacket streamId tagType tsMs body with lastWireTimestamp := stamp } =
      sendTag streamId publisher tagType tsMs body := rfl
  simp only [fillBody, left, num, if_neg notNegative, Int.toNat_natCast, whole, if_pos complete,
    filled, sent, nothing, lt_self_iff_false, if_false]
  rfl

theorem rtmpWriteLoop_finished (size fuel : Nat) (publisher : Publisher) (buf : List UInt8) :
    rtmpWriteLoop size (fuel + 1) publisher buf 0 = .returned size publisher := by
  rw [rtmpWriteLoop, if_pos rfl]

/-- A whole tag goes out as one packet: `RTMP_Write` returns the length of the tag, or -1 if
`RTMP_SendPacket` fails, and `m_write` is empty again. -/
theorem rtmpWrite_tag (idle : Idle publisher) (notFile : tagType ≠ 0x46) {body : List UInt8}
    (small : body.length ≤ 0xFFFFFF) :
    rtmpWrite streamId publisher (flvTagPieces tagType tsMs body).flatten =
      .returned
        (if (sendTag streamId publisher tagType tsMs body).1 = false then -1
        else (15 + body.length : Nat))
        (afterTag streamId publisher tagType tsMs body) := by
  obtain ⟨header, trailer, bytes, read, trailerLength⟩ := flvTag_split tagType tsMs small
  have length := length_flvTag tagType tsMs body
  have notSkipped : ¬ ((flvTagPieces tagType tsMs body).flatten.take 3 =
      [0x46, 0x4C, 0x56]) := by
    intro same
    have first := congrArg List.head? same
    rw [bytes, List.head?_take, if_neg (by decide), List.head?_append, read.tagType] at first
    exact notFile (Option.some.inj first)
  have split : readN (0 + 11) (flvTagPieces tagType tsMs body).flatten =
      some (header, body ++ trailer) := by
    rw [bytes]
    exact readN_append _ _ _ read.length
  have left : ((15 + body.length : Nat) : Int) - (0 + 11 : Nat) = (body.length + 4 : Nat) := by
    omega
  have begun : beginTag { publisher.write with channel := 4, infoField2 := streamId }
      (header.drop 0) =
      startedTag streamId tagType tsMs publisher.write.lastWireTimestamp body.length :=
    beginTag_header read idle.absolute
  have filled : fillBody (15 + body.length)
      { publisher with
        write := startedTag streamId tagType tsMs publisher.write.lastWireTimestamp body.length }
      (body ++ trailer) (body.length + 4 : Nat) = _ := fillBody_tag (15 + body.length)
  rw [rtmpWrite, length]
  unfold rtmpWriteLoop
  rw [if_neg (by omega), if_pos idle.bytesRead, if_neg (by omega)]
  simp only [if_neg notSkipped, split, left, begun, filled]
  cases outcome : (sendTag streamId publisher tagType tsMs body).1 with
  | false => rfl
  | true =>
      obtain ⟨fuel, more⟩ : ∃ fuel, 15 + body.length = fuel + 1 := ⟨14 + body.length, by omega⟩
      simp only [more, Bool.true_eq_false, if_false, rtmpWriteLoop_finished]

end RejiStudio.Rtmp
