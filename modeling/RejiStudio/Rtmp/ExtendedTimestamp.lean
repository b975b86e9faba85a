import RejiStudio.Rtmp.ChunkRoundTrip

/-!
# Extended time stamps

`RTMP_SendPacket` repeats an extended time stamp behind the header of every later chunk, as
the protocol has it; `RTMP_ReadPacket` looks for one only where a header has a time stamp
field.  A packet of agreeing ends is read back exactly when this makes no difference.
-/

namespace RejiStudio.Rtmp

open RejiStudio.Lib

theorem readChunkBody_length {incoming next : Incoming} {packet finished : RtmpPacket}
    {extended : Bool} {bytes rest : List UInt8}
    (result : readChunkBody incoming packet extended bytes = .read finished next rest) :
    (rest.length : Int) = bytes.length - min ((packet.bodySize : Int) - packet.bytesRead)
      incoming.chunkSize := by
  have chunk : (if (packet.bodySize : Int) - packet.bytesRead < incoming.chunkSize then
      (packet.bodySize : Int) - packet.bytesRead else incoming.chunkSize) =
      min ((packet.bodySize : Int) - packet.bytesRead) incoming.chunkSize := by
    split <;> omega
  rw [readChunkBody] at result
  dsimp only at result
  rw [chunk] at result
  generalize min ((packet.bodySize : Int) - packet.bytesRead) incoming.chunkSize = nChunk
    at result ⊢
  split at result
  · simp at result
  · split at result
    · simp at result
    · rw [readN] at result
      split at result
      · simp at result
      · rename_i found
        split at found
        · rename_i enough
          cases found
          cases result
          rw [List.length_drop]
          omega
        · simp at found

/-- A chunk with the extended time stamp behind its header is not taken whole. -/
theorem not_takes_later {out : Outgoing} {middle next : Incoming × RtmpPacket}
    {sent kept : RtmpPacket} {count : Nat} {bytes : List UInt8} {messages : List RtmpMessage}
    (addressable : Addressable sent.channel)
    (agrees : AgreesExcept out middle.1 sent.channel)
    (found : middle.1.channels sent.channel = some kept)
    (size : kept.bodySize = bytes.length) (arrived : kept.bytesRead = count)
    (allocated : kept.body ≠ none) (unfinished : count < bytes.length)
    (long : sent.lastWireTimestamp ≥ 0xFFFFFF) :
    ¬ Takes readCall middle
      (continuationHeader sent sent.lastWireTimestamp ++ (bytes.drop count).take out.chunkSize)
      messages next := by
  intro takes
  have read := takes []
  rw [List.append_nil, continuationHeader, if_pos long, List.cons_append, List.cons_append,
    List.append_assoc, readCall,
    rtmpReadPacket_later addressable found fun both => allocated both.2] at read
  cases result : readChunkBody middle.1 kept false
      (bigEndian32 sent.lastWireTimestamp ++ (bytes.drop count).take out.chunkSize) with
  | failed => simp [result] at read
  | overrun => simp [result] at read
  | read finished left rest =>
      have length := readChunkBody_length result
      rw [size, arrived, agrees.chunkSize] at length
      have word : (bigEndian32 sent.lastWireTimestamp).length = 4 := rfl
      rw [List.length_append, word, List.length_take, List.length_drop] at length
      rw [result] at read
      dsimp only at read
      have empty : rest = [] := by
        split at read
        · cases read
          rfl
        · cases read
          rfl
      rw [empty, List.length_nil] at length
      omega

theorem stampField_ne {t : UInt32} (long : ¬ t ≤ 0xFFFFFF) : stampField t ≠ t := by
  rw [stampField, if_pos (UInt32.not_le.mp long)]
  intro same
  exact long (UInt32.le_of_eq same.symm)

/-- A shortest header does not bring an extended time stamp to the reader. -/
theorem repeated_timestamp_misread {out : Outgoing} {state next : Incoming × RtmpPacket}
    {sent filled : RtmpPacket} {bytes piece : List UInt8} {message : RtmpMessage}
    (agrees : Agrees out state)
    (read : ∀ rest, rtmpReadPacket state.1 state.2 (piece ++ rest) =
      .read (finishChunk state.1 filled (isExtended sent)).1
        (finishChunk state.1 filled (isExtended sent)).2 rest)
    (advanced : Progress (perceived sent) bytes bytes.length filled)
    (size : (perceived sent).bodySize = bytes.length)
    (body : (perceived sent).body.getD [] = bytes)
    (stamped : StampsTo sent (state.1.channelTimestamp (perceived sent).channel))
    (announces : (perceived sent).packetType = 1 → 4 ≤ bytes.length →
      (decodeInt32 bytes 0).toInt32.toInt = out.chunkSize)
    (minimum : sent.headerType = .minimum) (long : ¬ sent.lastWireTimestamp ≤ 0xFFFFFF)
    (given : Takes readCall state piece [message] next) :
    message.timestamp ≠ sent.timestamp := by
  intro kept
  obtain ⟨_, sameHeader, _⟩ := perceived_same sent
  have seen : perceived sent = { sent with
      lastWireTimestamp := stampField sent.lastWireTimestamp
      timestamp :=
        stampField sent.lastWireTimestamp + (sent.timestamp - sent.lastWireTimestamp) } := by
    rw [perceived, if_pos minimum]
  have base : sent.timestamp - sent.lastWireTimestamp =
      state.1.channelTimestamp (perceived sent).channel := by
    rw [StampsTo, if_neg (by simp [minimum])] at stamped
    rw [← stamped, UInt32.add_comm, UInt32.add_sub_cancel]
  have stampedSeen : StampsTo (perceived sent)
      (state.1.channelTimestamp (perceived sent).channel) := by
    rw [StampsTo, if_neg (by simp [sameHeader, minimum]), ← base, seen]
  have plain : isExtended sent = false := by simp [isExtended, minimum]
  have field : (if isExtended sent then 0xFFFFFF else (perceived sent).lastWireTimestamp) =
      stampField (perceived sent).lastWireTimestamp := by
    rw [plain, if_neg (by decide), seen, stampField, stampField,
      if_pos (UInt32.not_le.mp long), if_neg (UInt32.lt_irrefl _)]
  obtain ⟨last, takes, _⟩ := readCall_last read advanced size body
    (agrees.except (perceived sent).channel) stampedSeen field announces
  have messages := (takes.unique given).1
  have stamps : (perceived sent).timestamp = message.timestamp :=
    congrArg RtmpMessage.timestamp (List.cons.inj messages).1
  rw [kept, seen] at stamps
  have back : sent.timestamp =
      sent.lastWireTimestamp + (sent.timestamp - sent.lastWireTimestamp) := by
    rw [UInt32.add_comm, UInt32.sub_add_cancel]
  have fields : stampField sent.lastWireTimestamp = sent.lastWireTimestamp :=
    UInt32.add_left_inj _ |>.mp (stamps.trans back)
  exact stampField_ne long fields

/-- The reader takes an extended time stamp behind a later header for the body. -/
theorem divided_body_misread {out : Outgoing} {state next : Incoming × RtmpPacket}
    {sent filled : RtmpPacket} {bytes piece : List UInt8} {message : RtmpMessage}
    (agrees : Agrees out state) (addressable : Addressable sent.channel)
    (read : ∀ rest, rtmpReadPacket state.1 state.2 (piece ++ rest) =
      .read (finishChunk state.1 filled (isExtended sent)).1
        (finishChunk state.1 filled (isExtended sent)).2 rest)
    (advanced : Progress (perceived sent) bytes (bytes.take out.chunkSize).length filled)
    (long : sent.lastWireTimestamp ≥ 0xFFFFFF) (divided : out.chunkSize < bytes.length) :
    ¬ Carries readCall state (piece :: laterChunks out.chunkSize
      (continuationHeader sent sent.lastWireTimestamp) bytes.length (bytes.drop out.chunkSize))
      message next := by
  intro carries
  have positive := agrees.positive
  obtain ⟨sameChannel, _⟩ := perceived_same sent
  have advancedTo : (bytes.take out.chunkSize).length = out.chunkSize := by
    simp
    omega
  rw [advancedTo] at advanced
  obtain ⟨middle, takes, except, kept, _⟩ :=
    readCall_middle read advanced (by omega) (agrees.except (perceived sent).channel)
  have remaining : bytes.drop out.chunkSize ≠ [] := by
    intro none_
    have length := congrArg List.length none_
    simp at length
    omega
  obtain ⟨fuel, fuelEq⟩ : ∃ fuel, bytes.length = fuel + 1 :=
    Nat.exists_eq_succ_of_ne_zero (by omega)
  rw [fuelEq, laterChunks_succ _ _ _ remaining] at carries
  rw [sameChannel] at except kept
  have keeps : ∀ messages last, ¬ Takes readCall middle
      (continuationHeader sent sent.lastWireTimestamp ++
        (bytes.drop out.chunkSize).take out.chunkSize) messages last := by
    intro messages last
    refine not_takes_later addressable except kept ?_ ?_ ?_ (by omega) long
    · split <;> exact advanced.bodySize
    · split <;> exact advanced.bytesRead
    · have allocated : filled.body ≠ none := by
        rw [advanced.body, if_neg (by omega)]
        simp
      split <;> exact allocated
  generalize laterChunks out.chunkSize (continuationHeader sent sent.lastWireTimestamp) fuel
    ((bytes.drop out.chunkSize).drop out.chunkSize) = others at carries
  cases carries with
  | more first carried =>
      have sameMiddle := (takes.unique first).2
      subst sameMiddle
      cases carried with
      | last second => exact keeps _ _ second
      | more second _ => exact keeps _ _ second

/-- What `RTMP_SendPacket` writes for a packet is read back by an agreeing peer, chunk by chunk
and with everything that the packet says, exactly when its time stamp on the wire is short or
its body fits in one chunk, and a shortest header does not stand for an extended time stamp. -/
theorem rtmpSendPacket_carries_iff {out : Outgoing} {state : Incoming × RtmpPacket}
    {packet : RtmpPacket} (agrees : Agrees out state) (framed : Framed out packet) :
    (∃ next, Carries readCall state (rtmpSendPacket out packet).1 packet.message next) ↔
      ((preparedPacket out packet).lastWireTimestamp < 0xFFFFFF ∨
          packet.bodySize ≤ out.chunkSize) ∧
        ((preparedPacket out packet).headerType = .minimum →
          (preparedPacket out packet).lastWireTimestamp ≤ 0xFFFFFF) := by
  constructor
  · rintro ⟨next, carries⟩
    obtain ⟨filled, advanced, read⟩ := rtmpReadPacket_first agrees framed
    have stamped := stampsTo_prepared agrees framed
    have same := preparedPacket_same out packet
    have announces := framed.announces_sent same
    rw [rtmpSendPacket_eq framed.sized] at carries
    rw [← framed.sized]
    generalize preparedPacket out packet = sent at advanced read stamped same announces carries ⊢
    obtain ⟨sameChannel, _, sameType, sameSize, sameBody⟩ := perceived_same sent
    have size : (perceived sent).bodySize = (packet.body.getD []).length := by
      rw [sameSize, same.bodySize, framed.sized]
    have body : (perceived sent).body.getD [] = packet.body.getD [] := by rw [sameBody, same.body]
    have addressable : Addressable sent.channel := by
      rw [same.channel]
      exact framed.addressable
    have message : packet.message.timestamp = sent.timestamp := same.timestamp.symm
    generalize packet.body.getD [] = bytes at advanced read announces carries size body ⊢
    rw [← same.channel, ← sameChannel] at stamped
    by_cases whole : bytes.length ≤ out.chunkSize
    · refine ⟨.inr whole, ?_⟩
      intro minimum
      by_contra long
      rw [List.take_of_length_le whole] at advanced read carries
      rw [laterChunks_none whole] at carries
      cases carries with
      | last given =>
          exact repeated_timestamp_misread agrees read advanced size body stamped
            (by rw [sameType]; exact announces) minimum long given message
      | more takes carried => cases carried
    · have wires : sent.lastWireTimestamp < 0xFFFFFF := by
        by_contra notShort
        exact divided_body_misread agrees addressable read advanced
          (UInt32.not_lt.mp notShort) (Nat.lt_of_not_le whole) carries
      exact ⟨.inl wires, fun _ => UInt32.le_of_lt wires⟩
  · rintro ⟨oneChunk, repeated⟩
    obtain ⟨next, carries, _⟩ := rtmpSendPacket_carries agrees ⟨framed, oneChunk, repeated⟩
    exact ⟨next, carries⟩

/-- A body of two chunks behind a full header with an extended time stamp. -/
def longPacket : RtmpPacket :=
  { RtmpPacket.zero with
    channel := 4, packetType := 9, timestamp := 0x1000000, bodySize := 6
    body := some [1, 2, 3, 4, 5, 6] }

theorem rtmpSendPacket_carries_iff_long :
    ¬ ∃ next, Carries readCall (Incoming.start 4, RtmpPacket.zero)
      (rtmpSendPacket (Outgoing.start 4) longPacket).1 longPacket.message next := by
  have framed : Framed (Outgoing.start 4) longPacket :=
    ⟨by decide, by decide, by decide, by decide, by decide, by simp [Outgoing.start],
      by intro kind; exact absurd kind (by decide)⟩
  rw [rtmpSendPacket_carries_iff (agrees_start (by decide)) framed]
  decide +kernel

end RejiStudio.Rtmp
