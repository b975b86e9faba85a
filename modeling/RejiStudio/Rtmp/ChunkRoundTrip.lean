import RejiStudio.Rtmp.ChunkHeader

/-!
# Packets through the chunk stream

Both ends remember the last packet of each channel.  As long as the two memories agree, a
packet that is sent is read back, and they agree again.
-/

namespace RejiStudio.Rtmp

open RejiStudio.Lib

/-- A packet as the callers of `RTMP_SendPacket` build them: it has a channel number, a size
and a body that fit, opens its channel with a full header and stays on one stream after. -/
structure Framed (out : Outgoing) (packet : RtmpPacket) : Prop where
  addressable : Addressable packet.channel
  sized : (packet.body.getD []).length = packet.bodySize
  small : packet.bodySize < 16777216
  asked : packet.headerType = .large ∨ packet.headerType = .medium
  opens : out.channels packet.channel = none → packet.headerType = .large
  sameStream : ∀ prev ∈ out.channels packet.channel,
    packet.headerType = .medium → packet.infoField2 = prev.infoField2
  announces : packet.packetType = 1 → 4 ≤ packet.bodySize →
    (decodeInt32 (packet.body.getD []) 0).toInt32.toInt = out.chunkSize

/-- The condition under which `RTMP_ReadPacket` understands what `RTMP_SendPacket` writes. -/
structure Sendable (out : Outgoing) (packet : RtmpPacket) : Prop extends Framed out packet where
  oneChunk : (preparedPacket out packet).lastWireTimestamp < 0xFFFFFF ∨
    packet.bodySize ≤ out.chunkSize
  repeated : (preparedPacket out packet).headerType = .minimum →
    (preparedPacket out packet).lastWireTimestamp ≤ 0xFFFFFF

instance decidableSendable (out : Outgoing) (packet : RtmpPacket) :
    Decidable (Sendable out packet) :=
  decidable_of_iff
    (Addressable packet.channel ∧ (packet.body.getD []).length = packet.bodySize ∧
      packet.bodySize < 16777216 ∧ (packet.headerType = .large ∨ packet.headerType = .medium) ∧
      ¬ (out.channels packet.channel = none ∧ packet.headerType ≠ .large) ∧
      (∀ prev ∈ out.channels packet.channel,
        ¬ (packet.headerType = .medium ∧ packet.infoField2 ≠ prev.infoField2)) ∧
      ((preparedPacket out packet).lastWireTimestamp < 0xFFFFFF ∨
        packet.bodySize ≤ out.chunkSize) ∧
      ¬ ((preparedPacket out packet).headerType = .minimum ∧
        ¬ (preparedPacket out packet).lastWireTimestamp ≤ 0xFFFFFF) ∧
      ¬ (packet.packetType = 1 ∧ 4 ≤ packet.bodySize ∧
        (decodeInt32 (packet.body.getD []) 0).toInt32.toInt ≠ out.chunkSize))
    (by
      constructor
      · rintro ⟨addressable, sized, small, asked, opens, stream, chunk, again, announces⟩
        refine ⟨⟨addressable, sized, small, asked, ?_, ?_, ?_⟩, chunk, ?_⟩
        · intro none_
          by_contra other
          exact opens ⟨none_, other⟩
        · intro prev before medium
          by_contra other
          exact stream prev before ⟨medium, other⟩
        · intro kind long
          by_contra other
          exact announces ⟨kind, long, other⟩
        · intro minimum
          by_contra other
          exact again ⟨minimum, other⟩
      · intro sendable
        exact ⟨sendable.addressable, sendable.sized, sendable.small, sendable.asked,
          fun both => both.2 (sendable.opens both.1),
          fun prev before both => both.2 (sendable.sameStream prev before both.1),
          sendable.oneChunk, fun both => both.2 (sendable.repeated both.1),
          fun all => all.2.2 (sendable.announces all.1 all.2.1)⟩)

/-! ## What is sent -/

inductive Prepared (out : Outgoing) (packet sent : RtmpPacket) : Prop where
  | large : sent.headerType = .large → sent.lastWireTimestamp = packet.timestamp →
      Prepared out packet sent
  | medium (prev : RtmpPacket) : out.channels packet.channel = some prev →
      sent.headerType = .medium → sent.lastWireTimestamp = packet.timestamp - prev.timestamp →
      packet.infoField2 = prev.infoField2 → Prepared out packet sent
  | small (prev : RtmpPacket) : out.channels packet.channel = some prev →
      sent.headerType = .small → sent.lastWireTimestamp = packet.timestamp - prev.timestamp →
      packet.infoField2 = prev.infoField2 → prev.bodySize = packet.bodySize →
      prev.packetType = packet.packetType → Prepared out packet sent
  | minimum (prev : RtmpPacket) : out.channels packet.channel = some prev →
      sent.headerType = .minimum → sent.lastWireTimestamp = packet.timestamp - prev.timestamp →
      packet.infoField2 = prev.infoField2 → prev.bodySize = packet.bodySize →
      prev.packetType = packet.packetType → sent.lastWireTimestamp = prev.lastWireTimestamp →
      Prepared out packet sent

structure SameFields (packet sent : RtmpPacket) : Prop where
  channel : sent.channel = packet.channel
  packetType : sent.packetType = packet.packetType
  infoField2 : sent.infoField2 = packet.infoField2
  timestamp : sent.timestamp = packet.timestamp
  bodySize : sent.bodySize = packet.bodySize
  body : sent.body = packet.body

theorem preparedPacket_same (out : Outgoing) (packet : RtmpPacket) :
    SameFields packet (preparedPacket out packet) :=
  ⟨rfl, rfl, rfl, rfl, rfl, rfl⟩

theorem preparedPacket_prepared {out : Outgoing} {packet : RtmpPacket}
    (framed : Framed out packet) : Prepared out packet (preparedPacket out packet) := by
  have header : (preparedPacket out packet).headerType =
      (compressHeader (out.channels packet.channel) packet).1 := rfl
  have wire : (preparedPacket out packet).lastWireTimestamp =
      packet.timestamp - (compressHeader (out.channels packet.channel) packet).2 := rfl
  cases before : out.channels packet.channel with
  | none =>
      have large := framed.opens before
      rw [before, compressHeader] at header wire
      exact .large (by rw [header, large]) (by rw [wire]; simp)
  | some prev =>
      rw [before, compressHeader] at header wire
      rcases framed.asked with large | medium
      · rw [if_pos large] at header wire
        exact .large header (by rw [wire]; simp)
      · have stream := framed.sameStream prev (by rw [before]; rfl) medium
        rw [if_neg (by rw [medium]; decide)] at header wire
        dsimp only at header wire
        by_cases same : prev.bodySize = packet.bodySize ∧ prev.packetType = packet.packetType
        · have compressed : (if prev.bodySize = packet.bodySize ∧
              prev.packetType = packet.packetType ∧ packet.headerType = .medium then
              HeaderType.small else packet.headerType) = .small :=
            if_pos ⟨same.1, same.2, medium⟩
          rw [compressed] at header
          by_cases again : packet.timestamp - prev.timestamp = prev.lastWireTimestamp
          · rw [if_pos ⟨again, rfl⟩] at header
            exact .minimum prev before header wire stream same.1 same.2 (by rw [wire, again])
          · rw [if_neg fun both => again both.1] at header
            exact .small prev before header wire stream same.1 same.2
        · have compressed : (if prev.bodySize = packet.bodySize ∧
              prev.packetType = packet.packetType ∧ packet.headerType = .medium then
              HeaderType.small else packet.headerType) = .medium := by
            rw [if_neg fun all => same ⟨all.1, all.2.1⟩, medium]
          rw [compressed, if_neg (by simp)] at header
          exact .medium prev before header wire stream

/-! ## What the reader remembers -/

/-- The packet that the reader keeps for a channel after reading `sent`. -/
structure Kept (sent kept : RtmpPacket) : Prop where
  channel : kept.channel = sent.channel
  packetType : kept.packetType = sent.packetType
  infoField2 : kept.infoField2 = sent.infoField2
  bodySize : kept.bodySize = sent.bodySize
  bytesRead : kept.bytesRead = 0
  body : kept.body = none
  relative : kept.hasAbsTimestamp = false
  timestamp : kept.timestamp = stampField sent.lastWireTimestamp

/-- The two ends agree on the chunk size and on the last packet of every channel. -/
structure Agrees (out : Outgoing) (state : Incoming × RtmpPacket) : Prop where
  positive : 0 < out.chunkSize
  chunkSize : state.1.chunkSize = out.chunkSize
  caller : state.2.body = none
  channels : ∀ channel prev, out.channels channel = some prev → prev.channel = channel ∧
    ∃ kept, state.1.channels channel = some kept ∧ Kept prev kept ∧
      state.1.channelTimestamp channel = prev.timestamp

/-- A packet being read, of whose body `count` bytes have arrived. -/
structure Progress (sent : RtmpPacket) (bytes : List UInt8) (count : Nat) (packet : RtmpPacket) :
    Prop where
  channel : packet.channel = sent.channel
  packetType : packet.packetType = sent.packetType
  infoField2 : packet.infoField2 = sent.infoField2
  bodySize : packet.bodySize = bytes.length
  timestamp : packet.timestamp = sent.lastWireTimestamp
  absolute : packet.hasAbsTimestamp = decide (sent.headerType = .large)
  bytesRead : packet.bytesRead = count
  body : packet.body =
    if bytes.length = 0 then none
    else some (bytes.take count ++ List.replicate (bytes.length - count) 0)

theorem writeBody_progress {bytes : List UInt8} {count size : Nat} (within : count ≤ bytes.length) :
    writeBody (bytes.take count ++ List.replicate (bytes.length - count) 0) count
        ((bytes.drop count).take size) =
      bytes.take (count + ((bytes.drop count).take size).length) ++
        List.replicate (bytes.length - (count + ((bytes.drop count).take size).length)) 0 := by
  have first : (bytes.take count).length = count := by simp [within]
  have arrived : ((bytes.drop count).take size).length = min size (bytes.length - count) := by simp
  have prefix_ : bytes.take count ++ (bytes.drop count).take size =
      bytes.take (count + ((bytes.drop count).take size).length) := by
    rw [List.take_add, arrived]
    congr 1
    rcases Nat.le_total size (bytes.length - count) with inside | beyond
    · rw [Nat.min_eq_left inside]
    · rw [Nat.min_eq_right beyond, List.take_of_length_le (by simp; omega),
        List.take_of_length_le (by simp)]
  rw [writeBody, List.take_left' first, prefix_]
  congr 1
  rw [List.drop_append, first, List.drop_of_length_le (by rw [first]; omega), List.nil_append,
    List.drop_replicate]
  congr 1
  omega

theorem readChunkBody_progress {incoming : Incoming} {sent packet : RtmpPacket}
    {bytes : List UInt8} {count size : Nat} (progress : Progress sent bytes count packet)
    (within : count ≤ bytes.length) (agreed : incoming.chunkSize = size) (extended : Bool) :
    ∃ filled, Progress sent bytes (count + ((bytes.drop count).take size).length) filled ∧
      ∀ rest, readChunkBody incoming packet extended ((bytes.drop count).take size ++ rest) =
        .read (finishChunk incoming filled extended).1 (finishChunk incoming filled extended).2
          rest := by
  have arrived : ((bytes.drop count).take size).length = min size (bytes.length - count) := by simp
  refine ⟨{ packet with
    body := packet.body.map fun body =>
      writeBody body packet.bytesRead ((bytes.drop count).take size)
    bytesRead := packet.bytesRead + ((bytes.drop count).take size).length }, ?_, ?_⟩
  · refine ⟨progress.channel, progress.packetType, progress.infoField2, progress.bodySize,
      progress.timestamp, progress.absolute, by simp [progress.bytesRead], ?_⟩
    dsimp only
    rw [progress.body, progress.bytesRead]
    split
    · rfl
    · rw [Option.map_some, writeBody_progress within]
  · intro rest
    have chunk : (if (packet.bodySize : Int) - packet.bytesRead < incoming.chunkSize then
        (packet.bodySize : Int) - packet.bytesRead else incoming.chunkSize) =
        (((bytes.drop count).take size).length : Int) := by
      rw [progress.bodySize, progress.bytesRead, agreed, arrived]
      split <;> omega
    have capacity : (packet.body.getD []).length = bytes.length := by
      rw [progress.body]
      split
      · rename_i empty
        rw [empty]
        rfl
      · simp only [Option.getD_some, List.length_append, List.length_take, List.length_replicate]
        omega
    rw [readChunkBody]
    dsimp only
    rw [chunk, if_neg (by omega), if_neg, Int.toNat_natCast, readN_append _ _ _ rfl]
    rw [capacity, progress.bytesRead, Int.toNat_natCast, List.length_append]
    omega

/-! ## The last chunk -/

/-- Agreement on every channel but the one that a packet is being read from. -/
structure AgreesExcept (out : Outgoing) (incoming : Incoming) (channel : Nat) : Prop where
  positive : 0 < out.chunkSize
  chunkSize : incoming.chunkSize = out.chunkSize
  channels : ∀ other prev, other ≠ channel → out.channels other = some prev →
    prev.channel = other ∧ ∃ kept, incoming.channels other = some kept ∧ Kept prev kept ∧
      incoming.channelTimestamp other = prev.timestamp

/-- The sender's state once `sent` has gone out. -/
def afterPacket (out : Outgoing) (sent : RtmpPacket) : Outgoing :=
  { out with channels := Function.update out.channels sent.channel (some sent) }

def StampsTo (sent : RtmpPacket) (channelTimestamp : UInt32) : Prop :=
  (if sent.headerType = .large then sent.lastWireTimestamp
    else sent.lastWireTimestamp + channelTimestamp) = sent.timestamp

theorem handleChangeChunkSize_channels (incoming : Incoming) (packet : RtmpPacket) :
    (handleChangeChunkSize incoming packet).channels = incoming.channels ∧
      (handleChangeChunkSize incoming packet).channelTimestamp = incoming.channelTimestamp := by
  rw [handleChangeChunkSize]
  split
  · exact ⟨rfl, rfl⟩
  · exact ⟨rfl, rfl⟩

/-- The ends still agree when a packet is handled that announces no other chunk size than the
sender's. -/
theorem handlePacket_agrees {out : Outgoing} {incoming : Incoming} {packet : RtmpPacket}
    (agrees : Agrees out (incoming, RtmpPacket.zero))
    (free : packet.bodySize = 0 → packet.body = none)
    (announces : packet.packetType = 1 → 4 ≤ packet.bodySize →
      (decodeInt32 (packet.body.getD []) 0).toInt32.toInt = out.chunkSize) :
    Agrees out (handlePacket incoming packet) := by
  rw [handlePacket]
  split
  next empty => exact ⟨agrees.positive, agrees.chunkSize, free empty, agrees.channels⟩
  next =>
    split
    next announcement =>
      obtain ⟨channels, stamps⟩ := handleChangeChunkSize_channels incoming packet
      refine ⟨agrees.positive, ?_, rfl, ?_⟩
      · change (handleChangeChunkSize incoming packet).chunkSize = out.chunkSize
        rw [handleChangeChunkSize]
        split
        next long => exact announces announcement long
        next => exact agrees.chunkSize
      · intro channel prev found
        dsimp only
        rw [channels, stamps]
        exact agrees.channels channel prev found
    next => exact ⟨agrees.positive, agrees.chunkSize, rfl, agrees.channels⟩

theorem readCall_last {out : Outgoing} {state : Incoming × RtmpPacket} {incoming : Incoming}
    {sent filled : RtmpPacket} {bytes piece : List UInt8} {extended : Bool}
    (read : ∀ rest, rtmpReadPacket state.1 state.2 (piece ++ rest) =
      .read (finishChunk incoming filled extended).1 (finishChunk incoming filled extended).2 rest)
    (progress : Progress sent bytes bytes.length filled)
    (size : sent.bodySize = bytes.length) (body : sent.body.getD [] = bytes)
    (agrees : AgreesExcept out incoming sent.channel)
    (stamped : StampsTo sent (incoming.channelTimestamp sent.channel))
    (field : (if extended then 0xFFFFFF else sent.lastWireTimestamp) =
      stampField sent.lastWireTimestamp)
    (announces : sent.packetType = 1 → 4 ≤ bytes.length →
      (decodeInt32 bytes 0).toInt32.toInt = out.chunkSize) :
    ∃ next, Takes readCall state piece [sent.message] next ∧
      Agrees (afterPacket out sent) next := by
  have ready : filled.isReady = true := by
    rw [RtmpPacket.isReady, progress.bytesRead, progress.bodySize]
    simp
  have full : filled.body.getD [] = bytes := by
    rw [progress.body]
    split
    · rename_i empty
      simpa using (List.length_eq_zero_iff.mp empty).symm
    · simp
  have absolute : (if filled.hasAbsTimestamp then filled.timestamp
      else filled.timestamp + incoming.channelTimestamp filled.channel) = sent.timestamp := by
    rw [progress.absolute, progress.timestamp, progress.channel]
    simpa [StampsTo] using stamped
  have finished : finishChunk incoming filled extended =
      ({ filled with timestamp := sent.timestamp },
        { incoming with
          channels := Function.update incoming.channels sent.channel
            (some { (if extended then { filled with timestamp := 0xFFFFFF } else filled) with
              body := none, bytesRead := 0, hasAbsTimestamp := false })
          channelTimestamp :=
            Function.update incoming.channelTimestamp sent.channel sent.timestamp }) := by
    rw [finishChunk, if_pos ready]
    dsimp only
    rw [absolute]
    simp only [progress.channel]
  have kept : Kept sent { (if extended then { filled with timestamp := 0xFFFFFF } else filled) with
      body := none, bytesRead := 0, hasAbsTimestamp := false } := by
    cases extended with
    | true =>
        exact ⟨progress.channel, progress.packetType, progress.infoField2,
          by simp [progress.bodySize, size], rfl, rfl, rfl, by simpa using field⟩
    | false =>
        exact ⟨progress.channel, progress.packetType, progress.infoField2,
          by simp [progress.bodySize, size], rfl, rfl, rfl,
          by simpa [progress.timestamp] using field⟩
  have message : RtmpPacket.message { filled with timestamp := sent.timestamp } = sent.message := by
    simp only [RtmpPacket.message, progress.channel, progress.packetType, progress.infoField2,
      progress.bodySize, full, size, body]
  have channels : ∀ channel prev, (afterPacket out sent).channels channel = some prev →
      prev.channel = channel ∧ ∃ other,
        (finishChunk incoming filled extended).2.channels channel = some other ∧ Kept prev other ∧
          (finishChunk incoming filled extended).2.channelTimestamp channel = prev.timestamp := by
    intro channel prev found
    rw [finished]
    dsimp only [afterPacket] at found ⊢
    by_cases same : channel = sent.channel
    · subst same
      rw [Function.update_self] at found ⊢
      cases found
      exact ⟨rfl, _, rfl, kept, Function.update_self ..⟩
    · rw [Function.update_of_ne same] at found ⊢
      rw [Function.update_of_ne same]
      exact agrees.channels channel prev same found
  have sameSize : (finishChunk incoming filled extended).2.chunkSize = out.chunkSize := by
    rw [finished]
    exact agrees.chunkSize
  have isReady : (finishChunk incoming filled extended).1.isReady = true := by
    rw [finished]
    exact ready
  have first : (finishChunk incoming filled extended).1 =
      { filled with timestamp := sent.timestamp } := by
    rw [finished]
  refine ⟨handlePacket (finishChunk incoming filled extended).2
    { filled with timestamp := sent.timestamp }, ?_, ?_⟩
  · intro rest
    rw [readCall, read]
    dsimp only
    rw [if_pos isReady, first, message]
  · have settled : Agrees (afterPacket out sent)
        ((finishChunk incoming filled extended).2, RtmpPacket.zero) :=
      ⟨agrees.positive, sameSize, rfl, channels⟩
    apply handlePacket_agrees settled
    · intro empty
      dsimp only at empty ⊢
      rw [progress.body, if_pos (by rw [← progress.bodySize, empty])]
    · intro type long
      dsimp only at type long ⊢
      rw [full]
      exact announces (by rw [← progress.packetType, type])
        (by rw [← progress.bodySize]; exact long)

/-! ## The chunks of one packet -/

theorem continuationHeader_eq (sent : RtmpPacket) {t : UInt32} (short : ¬ t ≥ 0xFFFFFF)
    (rest : List UInt8) :
    continuationHeader sent t ++ rest =
      (0xC0 ||| firstByte sent.headerType sent.channel) :: (channelBytes sent.channel ++ rest) := by
  rw [continuationHeader, if_neg short]
  simp

theorem rtmpReadPacket_later {incoming : Incoming} {sent kept : RtmpPacket}
    (addressable : Addressable sent.channel)
    (found : incoming.channels sent.channel = some kept)
    (allocated : ¬ (0 < kept.bodySize ∧ kept.body = none)) (caller : RtmpPacket)
    (rest : List UInt8) :
    rtmpReadPacket incoming caller
        ((0xC0 ||| firstByte sent.headerType sent.channel) :: (channelBytes sent.channel ++ rest)) =
      readChunkBody incoming kept false rest := by
  obtain ⟨type, low⟩ := ofByte_laterByte sent.headerType sent.channel
  have base : headerBase incoming .minimum sent.channel caller = kept := by
    simp [headerBase, found]
  have header : readHeader .minimum kept rest = some (kept, false, rest) := by
    simp [readHeader, readN, headerFields, readExtendedTimestamp, HeaderType.packetSize]
  rw [rtmpReadPacket]
  simp only [type, low, readChannel_channelBytes addressable, base, header, if_neg allocated]

theorem rtmpReadPacket_header {incoming : Incoming} {sent caller : RtmpPacket} {t : UInt32}
    (addressable : Addressable sent.channel) (small : sent.bodySize < 16777216)
    (rest : List UInt8) :
    rtmpReadPacket incoming caller (packetHeader sent t ++ rest) =
      (let filled := announced sent (headerBase incoming sent.headerType sent.channel caller) t
      readChunkBody incoming
        (if 0 < filled.bodySize ∧ filled.body = none then
          { filled.alloc filled.bodySize with headerType := sent.headerType }
        else filled)
        (decide (sent.headerType ≠ .minimum ∧ t ≥ 0xFFFFFF)) rest) := by
  obtain ⟨type, low⟩ := ofByte_firstByte sent.headerType sent.channel
  rw [packetHeader_eq, List.cons_append, List.append_assoc, rtmpReadPacket]
  simp only [type, low, readChannel_channelBytes addressable, readHeader_headerRest _ _ _ small]

/-- What a header leaves in the packet when the two ends agree. -/
structure Opened (sent filled : RtmpPacket) : Prop where
  channel : filled.channel = sent.channel
  packetType : filled.packetType = sent.packetType
  infoField2 : filled.infoField2 = sent.infoField2
  bodySize : filled.bodySize = sent.bodySize
  timestamp : filled.timestamp = sent.lastWireTimestamp
  absolute : filled.hasAbsTimestamp = decide (sent.headerType = .large)
  bytesRead : filled.bytesRead = 0
  body : filled.body = none

/-- A packet as the reader understands it: a shortest header repeats the time stamp field of
the last header, not its extended time stamp. -/
def perceived (sent : RtmpPacket) : RtmpPacket :=
  if sent.headerType = .minimum then
    { sent with
      lastWireTimestamp := stampField sent.lastWireTimestamp
      timestamp := stampField sent.lastWireTimestamp + (sent.timestamp - sent.lastWireTimestamp) }
  else sent

theorem perceived_eq {sent : RtmpPacket}
    (repeated : sent.headerType = .minimum → sent.lastWireTimestamp ≤ 0xFFFFFF) :
    perceived sent = sent := by
  rw [perceived]
  split
  · rename_i minimum
    rw [stampField, if_neg (UInt32.not_lt.mpr (repeated minimum)), UInt32.add_comm,
      UInt32.sub_add_cancel]
  · rfl

theorem perceived_same (sent : RtmpPacket) :
    (perceived sent).channel = sent.channel ∧ (perceived sent).headerType = sent.headerType ∧
      (perceived sent).packetType = sent.packetType ∧ (perceived sent).bodySize = sent.bodySize ∧
      (perceived sent).body = sent.body := by
  rw [perceived]
  split <;> exact ⟨rfl, rfl, rfl, rfl, rfl⟩

theorem announced_opened {out : Outgoing} {state : Incoming × RtmpPacket} {packet : RtmpPacket}
    (agrees : Agrees out state) (framed : Framed out packet) :
    Opened (perceived (preparedPacket out packet))
      (announced (preparedPacket out packet)
        (headerBase state.1 (preparedPacket out packet).headerType packet.channel state.2)
        (preparedPacket out packet).lastWireTimestamp) := by
  have same := preparedPacket_same out packet
  have prepared := preparedPacket_prepared framed
  generalize preparedPacket out packet = sent at same prepared ⊢
  cases prepared with
  | large type wire =>
      rw [perceived, if_neg (by simp [type])]
      simp only [announced, type, headerBase, if_true]
      exact ⟨same.channel.symm, rfl, rfl, rfl, rfl, by simp [type], rfl, agrees.caller⟩
  | medium prev before type wire stream =>
      obtain ⟨channel, kept, found, keeps, _⟩ := agrees.channels _ _ before
      rw [perceived, if_neg (by simp [type])]
      simp only [announced, type, headerBase, found, Option.getD_some]
      rw [if_neg (by decide)]
      exact ⟨by rw [keeps.channel, channel, same.channel], rfl,
        by rw [keeps.infoField2, ← stream, same.infoField2], rfl, rfl,
        by simp [keeps.relative, type], rfl, keeps.body⟩
  | small prev before type wire stream size kind =>
      obtain ⟨channel, kept, found, keeps, _⟩ := agrees.channels _ _ before
      rw [perceived, if_neg (by simp [type])]
      simp only [announced, type, headerBase, found, Option.getD_some]
      rw [if_neg (by decide)]
      exact ⟨by rw [keeps.channel, channel, same.channel],
        by rw [keeps.packetType, kind, same.packetType],
        by rw [keeps.infoField2, ← stream, same.infoField2],
        by rw [keeps.bodySize, size, same.bodySize], rfl,
        by simp [keeps.relative, type], keeps.bytesRead, keeps.body⟩
  | minimum prev before type wire stream size kind again =>
      obtain ⟨channel, kept, found, keeps, _⟩ := agrees.channels _ _ before
      rw [perceived, if_pos type]
      simp only [announced, type, headerBase, found, Option.getD_some]
      rw [if_neg (by decide)]
      exact ⟨by rw [keeps.channel, channel, same.channel],
        by rw [keeps.packetType, kind, same.packetType],
        by rw [keeps.infoField2, ← stream, same.infoField2],
        by rw [keeps.bodySize, size, same.bodySize], by rw [keeps.timestamp, ← again],
        by simp [keeps.relative], keeps.bytesRead, keeps.body⟩

theorem stampsTo_prepared {out : Outgoing} {state : Incoming × RtmpPacket} {packet : RtmpPacket}
    (agrees : Agrees out state) (framed : Framed out packet) :
    StampsTo (preparedPacket out packet) (state.1.channelTimestamp packet.channel) := by
  have same := preparedPacket_same out packet
  have prepared := preparedPacket_prepared framed
  generalize preparedPacket out packet = sent at same prepared ⊢
  have later : ∀ prev : RtmpPacket, out.channels packet.channel = some prev →
      sent.headerType ≠ .large → sent.lastWireTimestamp = packet.timestamp - prev.timestamp →
      StampsTo sent (state.1.channelTimestamp packet.channel) := by
    intro prev before type wire
    obtain ⟨_, _, _, _, last⟩ := agrees.channels _ _ before
    rw [StampsTo, if_neg type, wire, last, same.timestamp, UInt32.sub_add_cancel]
  cases prepared with
  | large type wire => rw [StampsTo, if_pos type, wire, same.timestamp]
  | medium prev before type wire stream => exact later prev before (by simp [type]) wire
  | small prev before type wire stream size kind => exact later prev before (by simp [type]) wire
  | minimum prev before type wire stream size kind again =>
      exact later prev before (by simp [type]) wire

theorem Opened.progress {sent filled : RtmpPacket} {bytes : List UInt8}
    (opened : Opened sent filled)
    (size : sent.bodySize = bytes.length) (headerType : HeaderType) :
    Progress sent bytes 0
      (if 0 < filled.bodySize ∧ filled.body = none then
        { filled.alloc filled.bodySize with headerType := headerType }
      else filled) := by
  have length : filled.bodySize = bytes.length := opened.bodySize.trans size
  by_cases some_ : 0 < filled.bodySize
  · rw [if_pos ⟨some_, opened.body⟩]
    refine ⟨opened.channel, opened.packetType, opened.infoField2, length, opened.timestamp,
      opened.absolute, rfl, ?_⟩
    rw [if_neg (by omega)]
    simp [RtmpPacket.alloc, length]
  · rw [if_neg fun both => some_ both.1]
    refine ⟨opened.channel, opened.packetType, opened.infoField2, length, opened.timestamp,
      opened.absolute, opened.bytesRead, ?_⟩
    rw [if_pos (by omega), opened.body]

theorem laterChunks_succ (chunkSize fuel : Nat) (header : List UInt8) {bytes : List UInt8}
    (some_ : bytes ≠ []) :
    laterChunks chunkSize header (fuel + 1) bytes =
      (header ++ bytes.take chunkSize) ::
        laterChunks chunkSize header fuel (bytes.drop chunkSize) := by
  cases bytes with
  | nil => exact absurd rfl some_
  | cons first rest => rfl

/-- Between two chunks the reader keeps the packet for its channel. -/
theorem readCall_middle {out : Outgoing} {state : Incoming × RtmpPacket}
    {sent filled : RtmpPacket} {bytes piece : List UInt8} {count : Nat} {extended : Bool}
    (read : ∀ rest, rtmpReadPacket state.1 state.2 (piece ++ rest) =
      .read (finishChunk state.1 filled extended).1 (finishChunk state.1 filled extended).2 rest)
    (progress : Progress sent bytes count filled) (unfinished : count < bytes.length)
    (agrees : AgreesExcept out state.1 sent.channel) :
    ∃ middle, Takes readCall state piece [] middle ∧ AgreesExcept out middle.1 sent.channel ∧
      middle.1.channels sent.channel =
        some (if extended then { filled with timestamp := 0xFFFFFF } else filled) ∧
      middle.1.channelTimestamp = state.1.channelTimestamp := by
  have notReady : ¬ filled.isReady = true := by
    rw [RtmpPacket.isReady, progress.bytesRead, progress.bodySize]
    simp
    omega
  have finished : finishChunk state.1 filled extended =
      ({ filled with body := none },
        { state.1 with
          channels := Function.update state.1.channels sent.channel
            (some (if extended then { filled with timestamp := 0xFFFFFF } else filled)) }) := by
    rw [finishChunk, if_neg notReady, progress.channel]
  refine ⟨({ state.1 with
    channels := Function.update state.1.channels sent.channel
      (some (if extended then { filled with timestamp := 0xFFFFFF } else filled)) },
    { filled with body := none }), ?_, ?_, Function.update_self .., rfl⟩
  · intro rest
    rw [readCall, read, finished]
    exact if_neg notReady
  · refine ⟨agrees.positive, agrees.chunkSize, ?_⟩
    intro other prev different before
    dsimp only
    rw [Function.update_of_ne different]
    exact agrees.channels other prev different before

theorem carries_later {out : Outgoing} {sent : RtmpPacket} {bytes : List UInt8}
    (addressable : Addressable sent.channel)
    (size : sent.bodySize = bytes.length) (body : sent.body.getD [] = bytes)
    (short : sent.lastWireTimestamp < 0xFFFFFF)
    (announces : sent.packetType = 1 → 4 ≤ bytes.length →
      (decodeInt32 bytes 0).toInt32.toInt = out.chunkSize)
    {fuel count : Nat} {state : Incoming × RtmpPacket} {kept : RtmpPacket}
    (enough : bytes.length - count ≤ fuel) (unfinished : count < bytes.length)
    (agrees : AgreesExcept out state.1 sent.channel)
    (found : state.1.channels sent.channel = some kept)
    (progress : Progress sent bytes count kept)
    (stamped : StampsTo sent (state.1.channelTimestamp sent.channel)) :
    ∃ next, Carries readCall state
        (laterChunks out.chunkSize (continuationHeader sent sent.lastWireTimestamp) fuel
          (bytes.drop count)) sent.message next ∧
      Agrees (afterPacket out sent) next := by
  have notLong : ¬ sent.lastWireTimestamp ≥ 0xFFFFFF := UInt32.not_le.mpr short
  have field : (if false then 0xFFFFFF else sent.lastWireTimestamp) =
      stampField sent.lastWireTimestamp := by
    rw [stampField, if_neg (UInt32.not_lt.mpr (UInt32.le_of_lt short))]
    rfl
  induction fuel generalizing count state kept with
  | zero => omega
  | succ fuel inductionHypothesis =>
      have remaining : bytes.drop count ≠ [] := by
        intro none_
        have length := congrArg List.length none_
        simp at length
        omega
      have allocated : ¬ (0 < kept.bodySize ∧ kept.body = none) := by
        rw [progress.body, if_neg (by omega)]
        simp
      have positive := agrees.positive
      have arrived : ((bytes.drop count).take out.chunkSize).length =
          min out.chunkSize (bytes.length - count) := by simp
      obtain ⟨filled, advanced, body_⟩ := readChunkBody_progress progress
        (Nat.le_of_lt unfinished) agrees.chunkSize false
      have read : ∀ rest, rtmpReadPacket state.1 state.2
          (continuationHeader sent sent.lastWireTimestamp ++
            (bytes.drop count).take out.chunkSize ++ rest) =
          .read (finishChunk state.1 filled false).1 (finishChunk state.1 filled false).2 rest := by
        intro rest
        rw [List.append_assoc, continuationHeader_eq sent notLong,
          rtmpReadPacket_later addressable found allocated]
        exact body_ rest
      rw [laterChunks_succ _ _ _ remaining, List.drop_drop]
      by_cases final : bytes.length ≤ count + out.chunkSize
      · have complete : count + ((bytes.drop count).take out.chunkSize).length = bytes.length := by
          omega
        rw [complete] at advanced
        obtain ⟨next, takes, agreed⟩ :=
          readCall_last read advanced size body agrees stamped field announces
        have none_ : laterChunks out.chunkSize (continuationHeader sent sent.lastWireTimestamp)
            fuel (bytes.drop (count + out.chunkSize)) = [] := by
          rw [List.drop_of_length_le final]
          cases fuel <;> rfl
        rw [none_]
        exact ⟨next, .last takes, agreed⟩
      · have advancedTo : count + ((bytes.drop count).take out.chunkSize).length =
            count + out.chunkSize := by omega
        rw [advancedTo] at advanced
        obtain ⟨middle, takes, except, kept_, stamps⟩ :=
          readCall_middle read advanced (by omega) agrees
        obtain ⟨next, carries, agreed⟩ := inductionHypothesis (by omega) (by omega) except kept_
          advanced (by rw [stamps]; exact stamped)
        exact ⟨next, .more takes carries, agreed⟩

theorem rtmpSendPacket_eq {out : Outgoing} {packet : RtmpPacket}
    (sized : (packet.body.getD []).length = packet.bodySize) :
    rtmpSendPacket out packet =
      ((packetHeader (preparedPacket out packet) (preparedPacket out packet).lastWireTimestamp ++
          (packet.body.getD []).take out.chunkSize) ::
        laterChunks out.chunkSize (continuationHeader (preparedPacket out packet)
          (preparedPacket out packet).lastWireTimestamp) (packet.body.getD []).length
          ((packet.body.getD []).drop out.chunkSize),
        afterPacket out (preparedPacket out packet)) := by
  rw [rtmpSendPacket, List.take_of_length_le (Nat.le_of_eq sized)]
  rfl

def isExtended (sent : RtmpPacket) : Bool :=
  decide (sent.headerType ≠ .minimum ∧ sent.lastWireTimestamp ≥ 0xFFFFFF)

theorem rtmpReadPacket_first {out : Outgoing} {state : Incoming × RtmpPacket} {packet : RtmpPacket}
    (agrees : Agrees out state) (framed : Framed out packet) :
    ∃ filled, Progress (perceived (preparedPacket out packet)) (packet.body.getD [])
        ((packet.body.getD []).take out.chunkSize).length filled ∧
      ∀ rest, rtmpReadPacket state.1 state.2
        (packetHeader (preparedPacket out packet) (preparedPacket out packet).lastWireTimestamp ++
          (packet.body.getD []).take out.chunkSize ++ rest) =
        .read (finishChunk state.1 filled (isExtended (preparedPacket out packet))).1
          (finishChunk state.1 filled (isExtended (preparedPacket out packet))).2 rest := by
  have opened := announced_opened agrees framed
  have same := preparedPacket_same out packet
  generalize preparedPacket out packet = sent at opened same ⊢
  obtain ⟨_, _, _, sameSize, _⟩ := perceived_same sent
  have size : (perceived sent).bodySize = (packet.body.getD []).length := by
    rw [sameSize, same.bodySize, framed.sized]
  have small : sent.bodySize < 16777216 := by
    rw [same.bodySize]
    exact framed.small
  have addressable : Addressable sent.channel := by
    rw [same.channel]
    exact framed.addressable
  rw [← same.channel] at opened
  obtain ⟨filled, advanced, read⟩ := readChunkBody_progress
    (opened.progress size sent.headerType) (Nat.zero_le _) agrees.chunkSize (isExtended sent)
  rw [List.drop_zero] at advanced read
  rw [Nat.zero_add] at advanced
  refine ⟨filled, advanced, ?_⟩
  intro rest
  rw [List.append_assoc, rtmpReadPacket_header addressable small]
  exact read rest

theorem laterChunks_none {chunkSize : Nat} {bytes : List UInt8} (whole : bytes.length ≤ chunkSize)
    (header : List UInt8) (fuel : Nat) :
    laterChunks chunkSize header fuel (bytes.drop chunkSize) = [] := by
  rw [List.drop_of_length_le whole]
  cases fuel <;> rfl

theorem kept_stampField {sent : RtmpPacket}
    (repeated : sent.headerType = .minimum → sent.lastWireTimestamp ≤ 0xFFFFFF) :
    (if isExtended sent then 0xFFFFFF else sent.lastWireTimestamp) =
      stampField sent.lastWireTimestamp := by
  rw [isExtended]
  by_cases long : sent.headerType ≠ .minimum ∧ sent.lastWireTimestamp ≥ 0xFFFFFF
  · rw [if_pos (decide_eq_true long), stampField]
    split
    · rfl
    · rename_i least
      exact UInt32.le_antisymm long.2 (UInt32.not_lt.mp least)
  · rw [if_neg (by simpa using long), stampField, if_neg]
    intro beyond
    have notMinimum : sent.headerType ≠ .minimum := fun type =>
      UInt32.not_le.mpr beyond (repeated type)
    exact long ⟨notMinimum, UInt32.le_of_lt beyond⟩

theorem Agrees.except {out : Outgoing} {state : Incoming × RtmpPacket} (agrees : Agrees out state)
    (channel : Nat) : AgreesExcept out state.1 channel :=
  ⟨agrees.positive, agrees.chunkSize, fun other prev _ before => agrees.channels other prev before⟩

theorem Framed.announces_sent {out : Outgoing} {packet sent : RtmpPacket}
    (framed : Framed out packet) (same : SameFields packet sent) :
    sent.packetType = 1 → 4 ≤ (packet.body.getD []).length →
      (decodeInt32 (packet.body.getD []) 0).toInt32.toInt = out.chunkSize := by
  intro kind long
  exact framed.announces (by rw [← same.packetType, kind]) (by rw [← framed.sized]; exact long)

/-- A sendable packet, sent between ends that agree, is read back, and the ends agree again. -/
theorem rtmpSendPacket_carries {out : Outgoing} {state : Incoming × RtmpPacket}
    {packet : RtmpPacket} (agrees : Agrees out state) (sendable : Sendable out packet) :
    ∃ next, Carries readCall state (rtmpSendPacket out packet).1 packet.message next ∧
      Agrees (rtmpSendPacket out packet).2 next := by
  obtain ⟨filled, advanced, read⟩ := rtmpReadPacket_first agrees sendable.toFramed
  rw [perceived_eq sendable.repeated] at advanced
  have stamped := stampsTo_prepared agrees sendable.toFramed
  have same := preparedPacket_same out packet
  have announces := sendable.announces_sent same
  have oneChunk := sendable.oneChunk
  have field := kept_stampField sendable.repeated
  rw [rtmpSendPacket_eq sendable.sized]
  generalize preparedPacket out packet = sent
    at advanced read stamped same announces oneChunk field ⊢
  have message : packet.message = sent.message := by
    simp only [RtmpPacket.message, same.channel, same.packetType, same.timestamp, same.infoField2,
      same.bodySize, same.body]
  have size : sent.bodySize = (packet.body.getD []).length := by
    rw [same.bodySize, sendable.sized]
  have body : sent.body.getD [] = packet.body.getD [] := by rw [same.body]
  rw [← sendable.sized] at oneChunk
  rw [message]
  rw [← same.channel] at stamped
  generalize packet.body.getD [] = bytes at advanced read announces size body oneChunk ⊢
  by_cases whole : bytes.length ≤ out.chunkSize
  · rw [List.take_of_length_le whole] at advanced read ⊢
    rw [laterChunks_none whole]
    obtain ⟨next, takes, agreed⟩ := readCall_last read advanced size body
      (agrees.except sent.channel) stamped field announces
    exact ⟨next, .last takes, agreed⟩
  · have short : sent.lastWireTimestamp < 0xFFFFFF := oneChunk.resolve_right whole
    have addressable : Addressable sent.channel := by
      rw [same.channel]
      exact sendable.addressable
    have advancedTo : (bytes.take out.chunkSize).length = out.chunkSize := by
      simp
      omega
    have plain : ¬ isExtended sent = true := by
      simp [isExtended, UInt32.not_le.mpr short]
    rw [advancedTo] at advanced
    obtain ⟨middle, takes, except, kept, stamps⟩ :=
      readCall_middle read advanced (by omega) (agrees.except sent.channel)
    rw [if_neg plain] at kept
    obtain ⟨next, carries, agreed⟩ := carries_later addressable size body short announces
      (Nat.sub_le bytes.length out.chunkSize) (by omega) except kept advanced
      (by rw [stamps]; exact stamped)
    exact ⟨next, .more takes carries, agreed⟩

/-! ## Sessions -/

theorem readN_more {count : Nat} {bytes read rest : List UInt8}
    (result : readN count bytes = some (read, rest)) (more : List UInt8) :
    readN count (bytes ++ more) = some (read, rest ++ more) := by
  rw [readN] at result
  split at result
  · rename_i enough
    cases result
    rw [readN, if_pos (by simp; omega), List.take_append_of_le_length enough,
      List.drop_append_of_le_length enough]
  · simp at result

theorem readChannel_more {low channel : Nat} {bytes rest : List UInt8}
    (result : readChannel low bytes = some (channel, rest)) (more : List UInt8) :
    readChannel low (bytes ++ more) = some (channel, rest ++ more) := by
  rw [readChannel] at result ⊢
  split at result
  · rename_i zero
    obtain ⟨⟨read, left⟩, found, same⟩ := Option.map_eq_some_iff.mp result
    cases same
    rw [if_pos zero, readN_more found]
    rfl
  · rename_i notZero
    rw [if_neg notZero]
    split at result
    · rename_i one
      obtain ⟨⟨read, left⟩, found, same⟩ := Option.map_eq_some_iff.mp result
      cases same
      rw [if_pos one, readN_more found]
      rfl
    · rename_i notOne
      cases result
      rw [if_neg notOne]

theorem readHeader_more {headerType : HeaderType} {packet filled : RtmpPacket} {extended : Bool}
    {bytes rest : List UInt8}
    (result : readHeader headerType packet bytes = some (filled, extended, rest))
    (more : List UInt8) :
    readHeader headerType packet (bytes ++ more) = some (filled, extended, rest ++ more) := by
  rw [readHeader] at result ⊢
  obtain ⟨⟨header, behind⟩, found, continued⟩ := Option.bind_eq_some_iff.mp result
  rw [readN_more found, Option.bind_some]
  dsimp only at continued ⊢
  rw [readExtendedTimestamp] at continued ⊢
  split at continued
  · rename_i full
    obtain ⟨⟨read, left⟩, stamp, same⟩ := Option.map_eq_some_iff.mp continued
    cases same
    rw [if_pos full, readN_more stamp]
    rfl
  · rename_i plain
    cases continued
    rw [if_neg plain]

theorem readChunkBody_more {incoming next : Incoming} {packet finished : RtmpPacket}
    {extended : Bool} {bytes rest : List UInt8}
    (result : readChunkBody incoming packet extended bytes = .read finished next rest)
    (more : List UInt8) :
    readChunkBody incoming packet extended (bytes ++ more) =
      .read finished next (rest ++ more) := by
  rw [readChunkBody] at result ⊢
  dsimp only at result ⊢
  generalize (if (packet.bodySize : Int) - packet.bytesRead < incoming.chunkSize then
    (packet.bodySize : Int) - packet.bytesRead else incoming.chunkSize) = nChunk at result ⊢
  split at result
  · simp at result
  · rename_i natural
    rw [if_neg natural]
    split at result
    · simp at result
    · rename_i fits
      cases found : readN nChunk.toNat bytes with
      | none => simp [found] at result
      | some outcome =>
          obtain ⟨read, left⟩ := outcome
          have enough : nChunk.toNat ≤ bytes.length := by
            rw [readN] at found
            split at found
            · assumption
            · simp at found
          rw [Nat.min_eq_left enough] at fits
          rw [Nat.min_eq_left (by simp; omega), if_neg fits, readN_more found]
          rw [found] at result
          dsimp only at result ⊢
          cases result
          rfl

theorem readCall_locally : ReadsLocally readCall := by
  intro state bytes next messages rest more result
  rw [readCall] at result ⊢
  cases read : rtmpReadPacket state.1 state.2 bytes with
  | failed => simp [read] at result
  | overrun => simp [read] at result
  | read packet incoming left =>
      have extended : rtmpReadPacket state.1 state.2 (bytes ++ more) =
          .read packet incoming (left ++ more) := by
        cases bytes with
        | nil => simp [rtmpReadPacket] at read
        | cons first behind =>
            rw [rtmpReadPacket] at read
            rw [List.cons_append, rtmpReadPacket]
            dsimp only at read ⊢
            cases channel : readChannel (first &&& 0x3F).toNat behind with
            | none =>
                rw [channel] at read
                cases read
            | some found =>
                obtain ⟨number, afterChannel⟩ := found
                rw [channel] at read
                rw [readChannel_more channel]
                dsimp only at read ⊢
                cases header : readHeader (HeaderType.ofByte first)
                    (headerBase state.1 (HeaderType.ofByte first) number state.2) afterChannel with
                | none =>
                    rw [header] at read
                    cases read
                | some filled =>
                    obtain ⟨kept, stamp, afterHeader⟩ := filled
                    rw [header] at read
                    rw [readHeader_more header]
                    exact readChunkBody_more read more
      rw [read] at result
      rw [extended]
      dsimp only at result ⊢
      split at result
      · rename_i ready
        cases result
        rw [if_pos ready]
      · rename_i notReady
        cases result
        rw [if_neg notReady]

theorem agrees_start {chunkSize : Nat} (positive : 0 < chunkSize) :
    Agrees (Outgoing.start chunkSize) (Incoming.start chunkSize, RtmpPacket.zero) :=
  ⟨positive, rfl, rfl, by simp [Outgoing.start]⟩

theorem rtmpSendPacket_pieces (out : Outgoing) (packet : RtmpPacket) :
    (rtmpSendPacket out packet).1 ≠ [] ∧ ∀ piece ∈ (rtmpSendPacket out packet).1, piece ≠ [] := by
  have later : ∀ fuel bytes, ∀ header : List UInt8, header ≠ [] →
      ∀ piece ∈ laterChunks out.chunkSize header fuel bytes, piece ≠ [] := by
    intro fuel
    induction fuel with
    | zero => simp [laterChunks]
    | succ fuel inductionHypothesis =>
        intro bytes header some_ piece member
        cases bytes with
        | nil => simp [laterChunks] at member
        | cons first rest =>
            rcases List.mem_cons.mp member with equality | inRest
            · simp [equality, some_]
            · exact inductionHypothesis _ header some_ piece inRest
  refine ⟨by simp [rtmpSendPacket], ?_⟩
  intro piece member
  rw [rtmpSendPacket] at member
  rcases List.mem_cons.mp member with equality | inRest
  · simp [equality, packetHeader]
  · exact later _ _ _ (by simp [continuationHeader]) piece inRest

/-- Whatever packets `RTMP_SendPacket` is given and wherever the connection breaks: as long as
every packet meets `Sendable` where it is sent, a peer that calls `RTMP_ReadPacket` on the
bytes that got through reads exactly the packets for which `RTMP_SendPacket` returned true. -/
theorem chunk_stream_delivers {chunkSize : Nat} (positive : 0 < chunkSize) (room : Nat)
    (packets : List RtmpPacket)
    (sendable : SentWith rtmpSendPacket Sendable (Outgoing.start chunkSize) packets) :
    let session := transmitAll rtmpSendPacket (Outgoing.start chunkSize)
      (⟨[], room, true⟩, Outgoing.start chunkSize) packets
    ∀ fuel, session.2.1.wire.length ≤ fuel →
      drain readCall fuel (Incoming.start chunkSize, RtmpPacket.zero) session.2.1.wire =
        (accepted session.1).map RtmpPacket.message := by
  have stopped : ∀ state, readCall state [] = none := fun state => rfl
  have carried : ∀ out state packet, Agrees out state → Sendable out packet →
      ∃ next, Carries readCall state (rtmpSendPacket out packet).1 packet.message next ∧
        Agrees (rtmpSendPacket out packet).2 next :=
    fun _ _ _ agrees ok => rtmpSendPacket_carries agrees ok
  obtain ⟨added, wire, drained⟩ := drain_transmitAll readCall_locally stopped
    rtmpSendPacket_pieces carried (Outgoing.start chunkSize) [] room (agrees_start positive)
    sendable
  rw [List.nil_append] at wire
  intro session fuel enough
  have onWire : session.2.1.wire = added := wire
  rw [onWire] at enough ⊢
  exact drained fuel enough

/-- A packet of a large header, two that are compressed against it and a fourth on another
channel, in chunks of four bytes. -/
def samplePackets : List RtmpPacket :=
  [{ RtmpPacket.zero with
      channel := 4, packetType := 20, infoField2 := 1, bodySize := 6
      body := some [1, 2, 3, 4, 5, 6] },
    { RtmpPacket.zero with
      headerType := .medium, channel := 4, packetType := 9, infoField2 := 1, timestamp := 40
      bodySize := 5, body := some [7, 8, 9, 10, 11] },
    { RtmpPacket.zero with
      headerType := .medium, channel := 4, packetType := 9, infoField2 := 1, timestamp := 80
      bodySize := 5, body := some [12, 13, 14, 15, 16] },
    { RtmpPacket.zero with channel := 400, packetType := 18, bodySize := 1, body := some [17] }]

/-- The connection breaks inside the last packet. -/
theorem chunk_stream_delivers_cut :
    let session := transmitAll rtmpSendPacket (Outgoing.start 4)
      (⟨[], 50, true⟩, Outgoing.start 4) samplePackets
    drain readCall session.2.1.wire.length (Incoming.start 4, RtmpPacket.zero)
        session.2.1.wire = (samplePackets.take 3).map RtmpPacket.message ∧
      session.1.map Prod.snd = [true, true, true, false] := by
  have sendable : SentWith rtmpSendPacket Sendable (Outgoing.start 4) samplePackets := by
    decide +kernel
  intro session
  have delivered := chunk_stream_delivers (by decide : 0 < 4) 50 samplePackets sendable
    session.2.1.wire.length (Nat.le_refl _)
  refine ⟨delivered.trans ?_, ?_⟩
  · decide +kernel
  · decide +kernel

end RejiStudio.Rtmp
