import RejiStudio.Lib.Machine
import RejiStudio.Rtmp.ChunkRoundTrip

/-!
# The body buffer of a packet being read

`RTMP_ReadPacket` allocates a body when it has none, with the size that the header gives, and
keeps it for the channel until the packet is complete.  Over arbitrary input it stays inside
that allocation as long as no medium header arrives for an unfinished packet: such a header
changes the size and keeps the allocation.
-/

namespace RejiStudio.Rtmp

open RejiStudio.Lib

/-! ## Runs of the reader -/

structure ReaderRun where
  reader : Incoming × RtmpPacket
  input : List UInt8

def readStep : Machine ReaderRun Unit := fun run _ =>
  (readCall run.reader run.input).map fun outcome => ⟨outcome.1, outcome.2.2⟩

def nextHeader : List UInt8 → Option (HeaderType × Nat)
  | [] => none
  | first :: rest =>
      (readChannel (first &&& 0x3F).toNat rest).map fun found =>
        (HeaderType.ofByte first, found.1)

/-- The input starts with a medium header for a channel whose packet is unfinished. -/
def Interrupts (run : ReaderRun) : Prop :=
  ∃ found ∈ nextHeader run.input, found.1 = .medium ∧
    ∃ kept ∈ run.reader.1.channels found.2, kept.body ≠ none

instance decidableInterrupts (run : ReaderRun) : Decidable (Interrupts run) :=
  inferInstanceAs (Decidable (∃ found ∈ nextHeader run.input, found.1 = .medium ∧
    ∃ kept ∈ run.reader.1.channels found.2, kept.body ≠ none))

/-- What is kept for a channel: a packet without a body, or an unfinished one whose body is as
long as its size says. -/
def KeptSound (channel : Nat) (kept : RtmpPacket) : Prop :=
  kept.channel = channel ∧
    ((kept.body = none ∧ kept.bytesRead = 0) ∨
      ∃ body, kept.body = some body ∧ body.length = kept.bodySize ∧
        kept.bytesRead < kept.bodySize)

structure BuffersSound (reader : Incoming × RtmpPacket) : Prop where
  caller : reader.2.body = none
  channels : ∀ channel, ∀ kept ∈ reader.1.channels channel, KeptSound channel kept

def Allocated (channel : Nat) (packet : RtmpPacket) : Prop :=
  packet.channel = channel ∧
    ((packet.body = none ∧ packet.bodySize = 0) ∨
      ∃ body, packet.body = some body ∧ body.length = packet.bodySize ∧
        packet.bytesRead ≤ packet.bodySize ∧ 0 < packet.bodySize)

theorem headerFields_kept (nSize : Nat) (header : List UInt8) (packet : RtmpPacket) :
    (headerFields nSize header packet).channel = packet.channel ∧
      (headerFields nSize header packet).body = packet.body ∧
      (nSize < 6 → (headerFields nSize header packet).bodySize = packet.bodySize ∧
        (headerFields nSize header packet).bytesRead = packet.bytesRead) := by
  rw [headerFields]
  split
  · dsimp only
    split
    · rename_i long
      split
      · split
        · exact ⟨rfl, rfl, fun short => absurd long (by omega)⟩
        · exact ⟨rfl, rfl, fun short => absurd long (by omega)⟩
      · exact ⟨rfl, rfl, fun short => absurd long (by omega)⟩
    · exact ⟨rfl, rfl, fun _ => ⟨rfl, rfl⟩⟩
  · exact ⟨rfl, rfl, fun _ => ⟨rfl, rfl⟩⟩

theorem readHeader_kept {headerType : HeaderType} {packet filled : RtmpPacket} {extended : Bool}
    {bytes rest : List UInt8}
    (result : readHeader headerType packet bytes = some (filled, extended, rest)) :
    filled.channel = packet.channel ∧ filled.body = packet.body ∧
      (headerType = .small ∨ headerType = .minimum →
        filled.bodySize = packet.bodySize ∧ filled.bytesRead = packet.bytesRead) := by
  rw [readHeader] at result
  obtain ⟨⟨header, behind⟩, _, continued⟩ := Option.bind_eq_some_iff.mp result
  obtain ⟨channel, body, short⟩ :=
    headerFields_kept (headerType.packetSize - 1) header packet
  have fields : filled.channel = (headerFields (headerType.packetSize - 1) header packet).channel ∧
      filled.body = (headerFields (headerType.packetSize - 1) header packet).body ∧
      filled.bodySize = (headerFields (headerType.packetSize - 1) header packet).bodySize ∧
      filled.bytesRead = (headerFields (headerType.packetSize - 1) header packet).bytesRead := by
    rw [readExtendedTimestamp] at continued
    split at continued
    · obtain ⟨read, _, same⟩ := Option.map_eq_some_iff.mp continued
      cases same
      exact ⟨rfl, rfl, rfl, rfl⟩
    · cases continued
      exact ⟨rfl, rfl, rfl, rfl⟩
  refine ⟨fields.1.trans channel, fields.2.1.trans body, ?_⟩
  intro types
  have small : headerType.packetSize - 1 < 6 := by
    rcases types with same | same <;> rw [same] <;> decide
  exact ⟨fields.2.2.1.trans (short small).1, fields.2.2.2.trans (short small).2⟩

theorem writeBody_length {body data : List UInt8} {position : Nat}
    (within : position + data.length ≤ body.length) :
    (writeBody body position data).length = body.length := by
  simp only [writeBody, List.length_append, List.length_take, List.length_drop]
  omega

theorem finishChunk_sound {incoming : Incoming} {packet : RtmpPacket} {channel : Nat}
    {extended : Bool} (allocated : Allocated channel packet)
    (empty : packet.bodySize = 0 → packet.bytesRead = 0)
    (channels : ∀ other, ∀ kept ∈ incoming.channels other, KeptSound other kept) :
    (∀ other, ∀ kept ∈ (finishChunk incoming packet extended).2.channels other,
        KeptSound other kept) ∧
      ((finishChunk incoming packet extended).1.isReady = false ∨
        (finishChunk incoming packet extended).1.bodySize = 0 →
        (finishChunk incoming packet extended).1.body = none) := by
  obtain ⟨addressed, body⟩ := allocated
  have updated : ∀ stored : RtmpPacket, KeptSound channel stored →
      ∀ other, ∀ kept ∈ Function.update incoming.channels packet.channel (some stored) other,
        KeptSound other kept := by
    intro stored sound other kept member
    rw [addressed] at member
    by_cases same : other = channel
    · subst same
      rw [Function.update_self] at member
      cases member
      exact sound
    · rw [Function.update_of_ne same] at member
      exact channels other kept member
  rw [finishChunk]
  by_cases ready : packet.isReady
  · rw [if_pos ready]
    refine ⟨updated _ ⟨?_, .inl ⟨rfl, rfl⟩⟩, ?_⟩
    · cases extended <;> exact addressed
    · rintro (notReady | none_)
      · exact absurd ready (by simpa [RtmpPacket.isReady] using notReady)
      · rcases body with ⟨noBody, _⟩ | ⟨buffer, some_, length, within, positive⟩
        · exact noBody
        · exact absurd none_ (Nat.pos_iff_ne_zero.mp positive)
  · rw [if_neg ready]
    refine ⟨updated _ ?_, fun _ => rfl⟩
    have unfinished : packet.bytesRead ≠ packet.bodySize := by
      simpa [RtmpPacket.isReady] using ready
    have sound : KeptSound channel packet := by
      refine ⟨addressed, ?_⟩
      rcases body with ⟨noBody, none_⟩ | ⟨buffer, some_, length, within, _⟩
      · exact .inl ⟨noBody, empty none_⟩
      · exact .inr ⟨buffer, some_, length, by omega⟩
    cases extended with
    | true => exact sound
    | false => exact sound

/-- Reading a chunk into an allocated packet stays inside its body and keeps the invariant. -/
theorem readChunkBody_sound {incoming : Incoming} {packet : RtmpPacket} {channel : Nat}
    {extended : Bool} {bytes : List UInt8} (allocated : Allocated channel packet)
    (channels : ∀ other, ∀ kept ∈ incoming.channels other, KeptSound other kept) :
    readChunkBody incoming packet extended bytes ≠ .overrun ∧
      ∀ finished next rest,
        readChunkBody incoming packet extended bytes = .read finished next rest →
          (∀ other, ∀ kept ∈ next.channels other, KeptSound other kept) ∧
            (finished.isReady = false ∨ finished.bodySize = 0 → finished.body = none) := by
  obtain ⟨addressed, body⟩ := allocated
  have chunk : (if (packet.bodySize : Int) - packet.bytesRead < incoming.chunkSize then
      (packet.bodySize : Int) - packet.bytesRead else incoming.chunkSize) ≤
      (packet.bodySize : Int) - packet.bytesRead := by
    split <;> omega
  rw [readChunkBody]
  dsimp only
  generalize (if (packet.bodySize : Int) - packet.bytesRead < incoming.chunkSize then
    (packet.bodySize : Int) - packet.bytesRead else incoming.chunkSize) = nChunk at chunk ⊢
  split
  · exact ⟨by simp, by simp⟩
  · rename_i natural
    have fits : ¬ ((packet.body.getD []).length <
          packet.bytesRead + min nChunk.toNat bytes.length ∧
        0 < min nChunk.toNat bytes.length) := by
      rcases body with ⟨none_, empty⟩ | ⟨buffer, some_, length, within, _⟩
      · omega
      · rw [some_, Option.getD_some, length]
        omega
    rw [if_neg fits]
    cases found : readN nChunk.toNat bytes with
    | none => exact ⟨by simp, by simp⟩
    | some outcome =>
        obtain ⟨data, left⟩ := outcome
        refine ⟨by simp, ?_⟩
        intro finished next rest result
        dsimp only at result
        have dataLength : data.length = nChunk.toNat := by
          rw [readN] at found
          split at found
          · cases found
            simp
            omega
          · simp at found
        cases result
        refine @finishChunk_sound incoming _ channel extended ⟨addressed, ?_⟩ ?_ channels
        · rcases body with ⟨none_, empty⟩ | ⟨buffer, some_, length, within, positive⟩
          · exact .inl ⟨by simp [none_], empty⟩
          · refine .inr ⟨writeBody buffer packet.bytesRead data, by simp [some_], ?_, ?_, positive⟩
            · rw [writeBody_length (by omega), length]
            · dsimp only
              omega
        · intro empty
          dsimp only at empty ⊢
          omega

/-- The packet that a chunk is read into has its body allocated, unless the chunk interrupts
an unfinished packet. -/
theorem readHeader_allocated {reader : Incoming × RtmpPacket} {headerType : HeaderType}
    {channel : Nat} {filled : RtmpPacket} {extended : Bool} {bytes rest : List UInt8}
    (sound : BuffersSound reader)
    (calm : ¬ (headerType = .medium ∧ ∃ kept ∈ reader.1.channels channel, kept.body ≠ none))
    (result : readHeader headerType (headerBase reader.1 headerType channel reader.2) bytes =
      some (filled, extended, rest)) :
    Allocated channel
      (if 0 < filled.bodySize ∧ filled.body = none then
        { filled.alloc filled.bodySize with headerType := headerType }
      else filled) := by
  obtain ⟨sameChannel, sameBody, sameSize⟩ := readHeader_kept result
  -- A packet without a body is allocated with the size of its header.
  have fresh : filled.channel = channel → filled.body = none →
      Allocated channel
        (if 0 < filled.bodySize ∧ filled.body = none then
          { filled.alloc filled.bodySize with headerType := headerType }
        else filled) := by
    intro addressed none_
    by_cases positive : 0 < filled.bodySize
    · rw [if_pos ⟨positive, none_⟩]
      exact ⟨addressed, .inr ⟨_, rfl, by simp [RtmpPacket.alloc], Nat.zero_le _, positive⟩⟩
    · rw [if_neg fun both => positive both.1]
      exact ⟨addressed, .inl ⟨none_, by omega⟩⟩
  by_cases large : headerType = .large
  · subst large
    exact fresh sameChannel (sameBody.trans sound.caller)
  · cases found : reader.1.channels channel with
    | none =>
        rw [headerBase, if_neg large, found] at sameChannel sameBody
        exact fresh sameChannel (sameBody.trans sound.caller)
    | some kept =>
        obtain ⟨addressed, body⟩ := sound.channels channel kept (by rw [found]; rfl)
        rw [headerBase, if_neg large, found, Option.getD_some] at sameChannel sameBody sameSize
        rcases body with ⟨none_, _⟩ | ⟨buffer, some_, length, unfinished⟩
        · exact fresh (sameChannel.trans addressed) (sameBody.trans none_)
        · have types : headerType = .small ∨ headerType = .minimum := by
            cases headerType with
            | large => exact absurd rfl large
            | medium =>
                exact absurd ⟨rfl, kept, by rw [found]; rfl, by rw [some_]; simp⟩ calm
            | small => exact .inl rfl
            | minimum => exact .inr rfl
          obtain ⟨size, count⟩ := sameSize types
          rw [if_neg (by rw [sameBody, some_]; simp)]
          refine ⟨sameChannel.trans addressed, .inr ⟨buffer, sameBody.trans some_, ?_, ?_, ?_⟩⟩
          · rw [size, length]
          · omega
          · omega

/-- A call that interrupts nothing does not write past a body and keeps the invariant. -/
theorem rtmpReadPacket_sound {run : ReaderRun} (sound : BuffersSound run.reader)
    (calm : ¬ Interrupts run) :
    rtmpReadPacket run.reader.1 run.reader.2 run.input ≠ .overrun ∧
      ∀ packet next rest,
        rtmpReadPacket run.reader.1 run.reader.2 run.input = .read packet next rest →
          (∀ other, ∀ kept ∈ next.channels other, KeptSound other kept) ∧
            (packet.isReady = false ∨ packet.bodySize = 0 → packet.body = none) := by
  obtain ⟨reader, input⟩ := run
  dsimp only at sound ⊢
  cases input with
  | nil => exact ⟨by simp [rtmpReadPacket], by simp [rtmpReadPacket]⟩
  | cons first behind =>
      rw [rtmpReadPacket]
      dsimp only
      cases address : readChannel (first &&& 0x3F).toNat behind with
      | none => exact ⟨by simp, by simp⟩
      | some found =>
          obtain ⟨channel, afterChannel⟩ := found
          dsimp only
          have calmHere : ¬ (HeaderType.ofByte first = .medium ∧
              ∃ kept ∈ reader.1.channels channel, kept.body ≠ none) := by
            rintro ⟨medium, unfinished⟩
            refine calm ⟨(HeaderType.ofByte first, channel), ?_, medium, unfinished⟩
            rw [nextHeader, address]
            rfl
          cases header : readHeader (HeaderType.ofByte first)
              (headerBase reader.1 (HeaderType.ofByte first) channel reader.2) afterChannel with
          | none => exact ⟨by simp, by simp⟩
          | some outcome =>
              obtain ⟨filled, extended, rest⟩ := outcome
              exact readChunkBody_sound (readHeader_allocated sound calmHere header) sound.channels

theorem handlePacket_channels (incoming : Incoming) (packet : RtmpPacket) :
    (handlePacket incoming packet).1.channels = incoming.channels := by
  rw [handlePacket]
  split
  · rfl
  · dsimp only
    split
    · exact (handleChangeChunkSize_channels incoming packet).1
    · rfl

theorem handlePacket_body {packet : RtmpPacket} (incoming : Incoming)
    (free : packet.bodySize = 0 → packet.body = none) :
    (handlePacket incoming packet).2.body = none := by
  rw [handlePacket]
  split
  next empty => exact free empty
  next => rfl

/-- A call that returns has read a chunk, and handles the packet if that was its last. -/
theorem readStep_cases {run next : ReaderRun} {call : Unit}
    (stepped : readStep run call = some next) :
    ∃ packet incoming rest,
      rtmpReadPacket run.reader.1 run.reader.2 run.input = .read packet incoming rest ∧
        (packet.isReady = true ∧ next.reader = handlePacket incoming packet ∨
          packet.isReady = false ∧ next.reader = (incoming, packet)) := by
  obtain ⟨⟨reader, messages, rest⟩, called, same⟩ := Option.map_eq_some_iff.mp stepped
  cases same
  rw [readCall] at called
  cases read : rtmpReadPacket run.reader.1 run.reader.2 run.input with
  | failed => simp [read] at called
  | overrun => simp [read] at called
  | read packet incoming left =>
      refine ⟨packet, incoming, left, rfl, ?_⟩
      rw [read] at called
      dsimp only at called
      cases ready : packet.isReady with
      | true =>
          rw [ready, if_pos rfl] at called
          cases called
          exact .inl ⟨rfl, rfl⟩
      | false =>
          rw [ready, if_neg (by decide)] at called
          cases called
          exact .inr ⟨rfl, rfl⟩

theorem readStep_sound {run next : ReaderRun} {call : Unit} (sound : BuffersSound run.reader)
    (calm : ¬ Interrupts run) (stepped : readStep run call = some next) :
    BuffersSound next.reader := by
  obtain ⟨packet, incoming, rest, read, ⟨_, handled⟩ | ⟨notReady, same⟩⟩ := readStep_cases stepped
  · obtain ⟨channels, body⟩ := (rtmpReadPacket_sound sound calm).2 packet incoming rest read
    rw [handled]
    refine ⟨handlePacket_body incoming fun empty => body (.inr empty), ?_⟩
    rw [handlePacket_channels]
    exact channels
  · obtain ⟨channels, body⟩ := (rtmpReadPacket_sound sound calm).2 packet incoming rest read
    rw [same]
    exact ⟨body (.inl notReady), channels⟩

/-- A reader between two packets that has not read anything. -/
theorem buffersSound_start (chunkSize : Nat) :
    BuffersSound (Incoming.start chunkSize, RtmpPacket.zero) :=
  ⟨rfl, by simp [Incoming.start]⟩

theorem readRun_sound {chunkSize : Nat} {input : List UInt8} {calls : List Unit} {run : ReaderRun}
    (calm : Machine.Along readStep (fun run _ => ¬ Interrupts run)
      ⟨(Incoming.start chunkSize, RtmpPacket.zero), input⟩ calls)
    (reached : Machine.exec readStep ⟨(Incoming.start chunkSize, RtmpPacket.zero), input⟩ calls =
      some run) :
    BuffersSound run.reader := by
  have preserved : ∀ (run : ReaderRun) (call : Unit) (next : ReaderRun),
      BuffersSound run.reader → ¬ Interrupts run → readStep run call = some next →
        BuffersSound next.reader :=
    fun _ _ _ sound ok stepped => readStep_sound sound ok stepped
  exact Machine.exec_invariant_along preserved (buffersSound_start chunkSize) calm reached

/-- Whatever a peer sends: in a run of `RTMP_ReadPacket` in which no medium header interrupts
an unfinished packet, no call writes past the body of its packet. -/
theorem reader_stays_in_body (chunkSize : Nat) (input : List UInt8) (calls : List Unit)
    (calm : Machine.Along readStep (fun run _ => ¬ Interrupts run)
      ⟨(Incoming.start chunkSize, RtmpPacket.zero), input⟩ (calls ++ [()]))
    {run : ReaderRun}
    (reached : Machine.exec readStep ⟨(Incoming.start chunkSize, RtmpPacket.zero), input⟩ calls =
      some run) :
    rtmpReadPacket run.reader.1 run.reader.2 run.input ≠ .overrun := by
  obtain ⟨before, after⟩ := Machine.along_append.mp calm
  exact (rtmpReadPacket_sound (readRun_sound before reached) (after run reached).1).1

/-- The first chunk of a packet of ten bytes and the second of its three. -/
def fragmentInput : List UInt8 :=
  [0x04, 0, 0, 0, 0, 0, 10, 9, 1, 0, 0, 0, 1, 2, 3, 4, 0xC4, 5, 6, 7, 8]

theorem reader_stays_in_body_fragment :
    ∃ run, Machine.exec readStep ⟨(Incoming.start 4, RtmpPacket.zero), fragmentInput⟩ [()] =
        some run ∧
      rtmpReadPacket run.reader.1 run.reader.2 run.input ≠ .overrun := by
  have read : (Machine.exec readStep ⟨(Incoming.start 4, RtmpPacket.zero), fragmentInput⟩
      [()]).isSome = true := by
    decide +kernel
  obtain ⟨run, reached⟩ := Option.isSome_iff_exists.mp read
  exact ⟨run, reached, reader_stays_in_body 4 fragmentInput [()] (by decide +kernel) reached⟩

/-! ## The chunk that breaks it -/

def Overruns (reader : Incoming × RtmpPacket) (input : List UInt8) : Prop :=
  ∃ calls run, Machine.exec readStep ⟨reader, input⟩ calls = some run ∧
    rtmpReadPacket run.reader.1 run.reader.2 run.input = .overrun

theorem Overruns.now {reader : Incoming × RtmpPacket} {input : List UInt8}
    (overrun : rtmpReadPacket reader.1 reader.2 input = .overrun) : Overruns reader input :=
  ⟨[], ⟨reader, input⟩, rfl, overrun⟩

theorem Overruns.later {reader next : Incoming × RtmpPacket} {messages : List RtmpMessage}
    {input rest : List UInt8} (called : readCall reader input = some (next, messages, rest))
    (overruns : Overruns next rest) : Overruns reader input := by
  obtain ⟨calls, run, reached, overrun⟩ := overruns
  refine ⟨() :: calls, run, ?_, overrun⟩
  have stepped : readStep ⟨reader, input⟩ () = some ⟨next, rest⟩ := by
    rw [readStep, called]
    rfl
  rw [Machine.exec_cons, stepped]
  exact reached

structure Oversized (packet : RtmpPacket) (channel size count : Nat) : Prop where
  channel : packet.channel = channel
  bodySize : packet.bodySize = size
  bytesRead : packet.bytesRead = count
  small : (packet.body.getD []).length < size
  allocated : packet.body ≠ none
  within : count ≤ (packet.body.getD []).length

/-- A chunk of an oversized packet is written past the body, or brings the next one closer. -/
theorem readChunkBody_oversized {reader : Incoming × RtmpPacket} {packet : RtmpPacket}
    {channel chunkSize count : Nat} {extended : Bool} {bytes piece rest : List UInt8}
    (oversized : Oversized packet channel bytes.length count)
    (agreed : reader.1.chunkSize = chunkSize)
    (read : rtmpReadPacket reader.1 reader.2 (piece ++ rest) =
      readChunkBody reader.1 packet extended ((bytes.drop count).take chunkSize ++ rest)) :
    rtmpReadPacket reader.1 reader.2 (piece ++ rest) = .overrun ∨
      ∃ next kept, readCall reader (piece ++ rest) = some (next, [], rest) ∧
        next.1.channels channel = some kept ∧ next.1.chunkSize = chunkSize ∧
        Oversized kept channel bytes.length (count + min chunkSize (bytes.length - count)) := by
  have within := oversized.within
  have small := oversized.small
  have arrived : ((bytes.drop count).take chunkSize).length =
      min chunkSize (bytes.length - count) := by simp
  have chunk : (if (packet.bodySize : Int) - packet.bytesRead < reader.1.chunkSize then
      (packet.bodySize : Int) - packet.bytesRead else reader.1.chunkSize) =
      (((bytes.drop count).take chunkSize).length : Int) := by
    rw [oversized.bodySize, oversized.bytesRead, agreed, arrived]
    split <;> omega
  rw [readChunkBody] at read
  dsimp only at read
  rw [chunk, if_neg (by omega), oversized.bytesRead, Int.toNat_natCast, List.length_append,
    Nat.min_eq_left (Nat.le_add_right _ _), readN_append _ _ _ rfl, arrived] at read
  by_cases beyond : (packet.body.getD []).length < count + min chunkSize (bytes.length - count)
  · exact .inl (by rw [read, if_pos ⟨beyond, by omega⟩])
  · rw [if_neg fun both => beyond both.1] at read
    dsimp only at read
    have notReady : ¬ (count + min chunkSize (bytes.length - count) == packet.bodySize) = true := by
      rw [oversized.bodySize]
      simp
      omega
    rw [finishChunk, if_neg (by exact notReady)] at read
    refine .inr ?_
    rw [readCall, read]
    dsimp only
    rw [if_neg (by exact notReady)]
    refine ⟨_, _, rfl, by rw [← oversized.channel]; exact Function.update_self .., agreed, ?_⟩
    have length : ((packet.body.map fun body =>
        writeBody body count ((bytes.drop count).take chunkSize)).getD []).length =
        (packet.body.getD []).length := by
      obtain ⟨body, some_⟩ := Option.ne_none_iff_exists'.mp oversized.allocated
      rw [some_, Option.getD_some] at beyond
      rw [some_, Option.map_some, Option.getD_some, Option.getD_some,
        writeBody_length (by omega)]
    have allocated : (packet.body.map fun body =>
        writeBody body count ((bytes.drop count).take chunkSize)) ≠ none := by
      simpa using oversized.allocated
    have filled : Oversized { packet with
        body := packet.body.map fun body =>
          writeBody body count ((bytes.drop count).take chunkSize)
        bytesRead := count + min chunkSize (bytes.length - count) } channel bytes.length
        (count + min chunkSize (bytes.length - count)) :=
      ⟨oversized.channel, oversized.bodySize, rfl, by rw [length]; exact small, allocated,
        by rw [length]; omega⟩
    cases extended with
    | true =>
        exact ⟨filled.channel, filled.bodySize, filled.bytesRead, filled.small, filled.allocated,
          filled.within⟩
    | false => exact filled

theorem overruns_later {sent : RtmpPacket} {bytes : List UInt8} {chunkSize : Nat}
    (addressable : Addressable sent.channel) (positive : 0 < chunkSize)
    (short : ¬ sent.lastWireTimestamp ≥ 0xFFFFFF) {fuel count : Nat}
    {reader : Incoming × RtmpPacket} {kept : RtmpPacket} (enough : bytes.length - count ≤ fuel)
    (agreed : reader.1.chunkSize = chunkSize)
    (found : reader.1.channels sent.channel = some kept)
    (oversized : Oversized kept sent.channel bytes.length count) :
    Overruns reader
      (laterChunks chunkSize (continuationHeader sent sent.lastWireTimestamp) fuel
        (bytes.drop count)).flatten := by
  induction fuel generalizing count reader kept with
  | zero =>
      have within := oversized.within
      have small := oversized.small
      omega
  | succ fuel inductionHypothesis =>
      have within := oversized.within
      have small := oversized.small
      have remaining : bytes.drop count ≠ [] := by
        intro none_
        have length := congrArg List.length none_
        simp at length
        omega
      rw [laterChunks_succ _ _ _ remaining, List.flatten_cons, List.drop_drop]
      have read : rtmpReadPacket reader.1 reader.2
          (continuationHeader sent sent.lastWireTimestamp ++ (bytes.drop count).take chunkSize ++
            (laterChunks chunkSize (continuationHeader sent sent.lastWireTimestamp) fuel
              (bytes.drop (count + chunkSize))).flatten) =
          readChunkBody reader.1 kept false ((bytes.drop count).take chunkSize ++
            (laterChunks chunkSize (continuationHeader sent sent.lastWireTimestamp) fuel
              (bytes.drop (count + chunkSize))).flatten) := by
        rw [List.append_assoc, continuationHeader_eq sent short,
          rtmpReadPacket_later addressable found fun both => oversized.allocated both.2]
      rcases readChunkBody_oversized oversized agreed read with overrun | advanced
      · exact .now overrun
      · obtain ⟨next, later, called, kept_, size, larger⟩ := advanced
        have reachedAt : count + min chunkSize (bytes.length - count) = count + chunkSize := by
          have inside := larger.within
          have least := larger.small
          omega
        rw [reachedAt] at larger
        exact .later called (inductionHypothesis (by omega) size kept_ larger)

def ChannelsAddressed (incoming : Incoming) : Prop :=
  ∀ channel, ∀ kept ∈ incoming.channels channel, kept.channel = channel

theorem channelsAddressed_update {incoming : Incoming} (addressed : ChannelsAddressed incoming)
    {stored : RtmpPacket} {place : Nat} (own : stored.channel = place) (channel : Nat) :
    ∀ kept ∈ Function.update incoming.channels place (some stored) channel,
      kept.channel = channel := by
  intro kept member
  by_cases same : channel = place
  · subst same
    rw [Function.update_self] at member
    cases member
    exact own
  · rw [Function.update_of_ne same] at member
    exact addressed channel kept member

theorem finishChunk_addressed {incoming : Incoming} (addressed : ChannelsAddressed incoming)
    (packet : RtmpPacket) (extended : Bool) :
    ChannelsAddressed (finishChunk incoming packet extended).2 := by
  have own : (if extended then { packet with timestamp := 0xFFFFFF } else packet).channel =
      packet.channel := by
    cases extended <;> rfl
  rw [finishChunk]
  dsimp only
  split
  · exact channelsAddressed_update addressed own
  · exact channelsAddressed_update addressed own

theorem readChunkBody_addressed {incoming next : Incoming} {packet finished : RtmpPacket}
    {extended : Bool} {bytes rest : List UInt8} (addressed : ChannelsAddressed incoming)
    (result : readChunkBody incoming packet extended bytes = .read finished next rest) :
    ChannelsAddressed next := by
  rw [readChunkBody] at result
  dsimp only at result
  generalize (if (packet.bodySize : Int) - packet.bytesRead < incoming.chunkSize then
    (packet.bodySize : Int) - packet.bytesRead else incoming.chunkSize) = nChunk at result
  split at result
  · cases result
  · split at result
    · cases result
    · split at result
      · cases result
      · cases result
        exact finishChunk_addressed addressed _ extended

theorem rtmpReadPacket_addressed {incoming next : Incoming} {packet finished : RtmpPacket}
    {bytes rest : List UInt8} (addressed : ChannelsAddressed incoming)
    (result : rtmpReadPacket incoming packet bytes = .read finished next rest) :
    ChannelsAddressed next := by
  rw [rtmpReadPacket.eq_def] at result
  split at result
  · cases result
  · dsimp only at result
    split at result
    · cases result
    · split at result
      · cases result
      · exact readChunkBody_addressed addressed result

theorem readStep_addressed (run : ReaderRun) (call : Unit) (next : ReaderRun)
    (addressed : ChannelsAddressed run.reader.1) (stepped : readStep run call = some next) :
    ChannelsAddressed next.reader.1 := by
  obtain ⟨packet, incoming, rest, read, ⟨_, handled⟩ | ⟨_, same⟩⟩ := readStep_cases stepped
  · have after : ChannelsAddressed incoming := rtmpReadPacket_addressed addressed read
    rw [handled, ChannelsAddressed, handlePacket_channels]
    exact after
  · rw [same]
    exact rtmpReadPacket_addressed addressed read

/-- From every state that arbitrary input leads to: where a packet is unfinished on a channel,
a medium header for the channel that declares more than its allocation holds, with the body
behind it, makes `RTMP_ReadPacket` write past that allocation. -/
theorem medium_header_overruns (chunkSize : Nat) (input : List UInt8) (calls : List Unit)
    {run : ReaderRun}
    (reached : Machine.exec readStep ⟨(Incoming.start chunkSize, RtmpPacket.zero), input⟩ calls =
      some run)
    (positive : 0 < run.reader.1.chunkSize) {channel : Nat} (addressable : Addressable channel)
    {kept : RtmpPacket} (found : run.reader.1.channels channel = some kept)
    {allocation : List UInt8} (unfinished : kept.body = some allocation) {bytes : List UInt8}
    (larger : allocation.length < bytes.length)
    (small : bytes.length < 16777216) (packetType : UInt8) :
    let sent : RtmpPacket :=
      { RtmpPacket.zero with
        headerType := .medium, packetType := packetType, channel := channel
        bodySize := bytes.length }
    Overruns run.reader
      ((packetHeader sent 0 ++ bytes.take run.reader.1.chunkSize.toNat) ::
        laterChunks run.reader.1.chunkSize.toNat (continuationHeader sent 0) bytes.length
          (bytes.drop run.reader.1.chunkSize.toNat)).flatten := by
  have noPackets : ChannelsAddressed (Incoming.start chunkSize) := by
    intro channel kept member
    cases member
  have everywhere : ChannelsAddressed run.reader.1 :=
    Machine.exec_invariant readStep_addressed noPackets reached
  obtain ⟨reader, left⟩ := run
  dsimp only at positive found everywhere ⊢
  obtain ⟨size, sizeEq⟩ := Int.eq_ofNat_of_zero_le (Int.le_of_lt positive)
  rw [sizeEq, Int.toNat_natCast]
  obtain ⟨sent, sentEq⟩ : ∃ sent : RtmpPacket, sent =
    { RtmpPacket.zero with
      headerType := .medium, packetType := packetType, channel := channel
      bodySize := bytes.length } := ⟨_, rfl⟩
  have wire : sent.lastWireTimestamp = 0 := by rw [sentEq]; rfl
  have sentChannel : sent.channel = channel := by rw [sentEq]
  have sentType : sent.headerType = .medium := by rw [sentEq]
  have sentSize : sent.bodySize = bytes.length := by rw [sentEq]
  rw [← sentEq, ← wire]
  have sentAddressable : Addressable sent.channel := by rw [sentChannel]; exact addressable
  have addressed : kept.channel = channel := everywhere channel kept found
  have oversized : Oversized (announced sent kept sent.lastWireTimestamp) sent.channel
      bytes.length 0 := by
    rw [announced, sentType]
    refine ⟨by rw [sentChannel]; exact addressed, sentSize, rfl, ?_, ?_, Nat.zero_le _⟩
    · rw [unfinished, Option.getD_some]
      exact larger
    · rw [unfinished]
      exact Option.some_ne_none allocation
  have read : ∀ rest, rtmpReadPacket reader.1 reader.2
      (packetHeader sent sent.lastWireTimestamp ++ bytes.take size ++ rest) =
      readChunkBody reader.1 (announced sent kept sent.lastWireTimestamp)
        (decide (sent.headerType ≠ .minimum ∧ sent.lastWireTimestamp ≥ 0xFFFFFF))
        ((bytes.drop 0).take size ++ rest) := by
    intro rest
    have base : headerBase reader.1 sent.headerType sent.channel reader.2 = kept := by
      rw [headerBase, sentType, if_neg (by decide), sentChannel, found, Option.getD_some]
    rw [List.append_assoc, rtmpReadPacket_header sentAddressable (by rw [sentSize]; exact small)]
    simp only [base, List.drop_zero]
    rw [if_neg fun both => oversized.allocated both.2]
  rw [List.flatten_cons]
  rcases readChunkBody_oversized oversized sizeEq (read _) with overrun | advanced
  · exact .now overrun
  · obtain ⟨next, later, called, kept_, agreed, further⟩ := advanced
    have inside := further.within
    have least := further.small
    have reachedAt : 0 + min size (bytes.length - 0) = size := by omega
    rw [reachedAt] at further
    exact .later called (overruns_later sentAddressable (by omega) (by rw [wire]; decide)
      (Nat.sub_le bytes.length size) agreed kept_ further)

/-- The first chunk of a packet of ten bytes, and one of six that takes over its allocation. -/
def interruptedInput : List UInt8 :=
  fragmentInput.take 16 ++ [0x44, 0, 0, 0, 0, 0, 6, 9, 5, 6, 7, 8]

/-- Fourteen bytes declared over the ten that the first chunk made room for. -/
theorem medium_header_overruns_fragment :
    ∃ run, Machine.exec readStep ⟨(Incoming.start 4, RtmpPacket.zero), interruptedInput⟩
        [(), ()] = some run ∧
      Overruns run.reader
        ([0x44, 0, 0, 0, 0, 0, 14, 9, 0, 0, 0, 0] :: [0xC4, 0, 0, 0, 0] :: [0xC4, 0, 0, 0, 0] ::
          [[0xC4, 0, 0]] : List (List UInt8)).flatten := by
  have read : (Machine.exec readStep ⟨(Incoming.start 4, RtmpPacket.zero), interruptedInput⟩
      [(), ()]).map (fun run => (run.reader.1.chunkSize, run.reader.1.channels 4)) =
      some (4, some { RtmpPacket.zero with
        packetType := 9, hasAbsTimestamp := true, channel := 4, infoField2 := 1, bodySize := 6
        bytesRead := 4, body := some [5, 6, 7, 8, 0, 0, 0, 0, 0, 0] }) := by
    decide +kernel
  obtain ⟨run, reached, kept⟩ := Option.map_eq_some_iff.mp read
  have size : run.reader.1.chunkSize = 4 := congrArg Prod.fst kept
  have found := congrArg Prod.snd kept
  have overruns := medium_header_overruns 4 interruptedInput [(), ()] reached
    (by rw [size]; decide) (by decide : Addressable 4) found rfl
    (by decide : 10 < (List.replicate 14 (0 : UInt8)).length) (by decide) 9
  rw [size] at overruns
  exact ⟨run, reached, overruns⟩

end RejiStudio.Rtmp
