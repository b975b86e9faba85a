import Mathlib.Algebra.Order.Ring.Int
import Mathlib.Logic.Function.Basic
import RejiStudio.Lib.LengthPrefixed
import RejiStudio.Lib.WireSession

/-!
# The RTMP chunk stream

`RTMP_SendPacket` and `RTMP_ReadPacket` of the vendored librtmp.  A packet travels as chunks;
its header leaves out what the last packet of the channel already said, so both ends remember
one packet for each channel.
-/

namespace RejiStudio.Rtmp

open RejiStudio.Lib

/-- `RTMP_PACKET_SIZE_LARGE` to `RTMP_PACKET_SIZE_MINIMUM`. -/
inductive HeaderType where
  | large
  | medium
  | small
  | minimum
  deriving DecidableEq

namespace HeaderType

/-- The header type in the upper two bits of a chunk's first byte. -/
def bits : HeaderType → UInt8
  | large => 0x00
  | medium => 0x40
  | small => 0x80
  | minimum => 0xC0

/-- `(hbuf[0] & 0xc0) >> 6`. -/
def ofByte (byte : UInt8) : HeaderType :=
  if byte &&& 0xC0 = 0x00 then large
  else if byte &&& 0xC0 = 0x40 then medium
  else if byte &&& 0xC0 = 0x80 then small
  else minimum

def packetSize : HeaderType → Nat
  | large => 12
  | medium => 8
  | small => 4
  | minimum => 1

end HeaderType

/-- `RTMPPacket`.  The body is the allocation behind `m_body`, or none for a null pointer. -/
structure RtmpPacket where
  headerType : HeaderType
  packetType : UInt8
  hasAbsTimestamp : Bool
  channel : Nat
  timestamp : UInt32
  lastWireTimestamp : UInt32
  infoField2 : UInt32
  bodySize : Nat
  bytesRead : Nat
  body : Option (List UInt8)
  deriving DecidableEq

namespace RtmpPacket

/-- A zeroed `RTMPPacket`. -/
def zero : RtmpPacket :=
  ⟨.large, 0, false, 0, 0, 0, 0, 0, 0, none⟩

def isReady (packet : RtmpPacket) : Bool := packet.bytesRead == packet.bodySize

def alloc (packet : RtmpPacket) (size : Nat) : RtmpPacket :=
  { packet with body := some (List.replicate size 0), bytesRead := 0 }

def free (packet : RtmpPacket) : RtmpPacket := { packet with body := none }

end RtmpPacket

def encodeInt32LE (value : UInt32) : List UInt8 := (bigEndian32 value).reverse

/-! ## Sending -/

def channelBytes (channel : Nat) : List UInt8 :=
  if channel > 319 then [UInt8.ofNat (channel - 64), UInt8.ofNat ((channel - 64) / 256)]
  else if channel > 63 then [UInt8.ofNat (channel - 64)]
  else []

def firstByte (headerType : HeaderType) (channel : Nat) : UInt8 :=
  if channel > 319 then headerType.bits ||| 1
  else if channel > 63 then headerType.bits
  else headerType.bits ||| UInt8.ofNat channel

/-- The header type after the comparison with the last packet of the channel, and the time
stamp that the written one is relative to. -/
def compressHeader (prevPacket : Option RtmpPacket) (packet : RtmpPacket) :
    HeaderType × UInt32 :=
  match prevPacket with
  | none => (packet.headerType, 0)
  | some prev =>
      if packet.headerType = .large then
        (.large, 0)
      else
        let compressed :=
          if prev.bodySize = packet.bodySize ∧ prev.packetType = packet.packetType ∧
            packet.headerType = .medium then .small else packet.headerType
        let delta := packet.timestamp - prev.timestamp
        let shortest :=
          if delta = prev.lastWireTimestamp ∧ compressed = .small then .minimum else compressed
        (shortest, prev.timestamp)

/-- The header of a packet, `t` being its time stamp on the wire. -/
def packetHeader (packet : RtmpPacket) (t : UInt32) : List UInt8 :=
  let nSize := packet.headerType.packetSize
  firstByte packet.headerType packet.channel :: channelBytes packet.channel ++
    (if nSize > 1 then bigEndian24 (if t > 0xFFFFFF then 0xFFFFFF else t) else []) ++
    (if nSize > 4 then bigEndian24 (UInt32.ofNat packet.bodySize) ++ [packet.packetType]
      else []) ++
    (if nSize > 8 then encodeInt32LE packet.infoField2 else []) ++
    (if nSize > 1 ∧ t ≥ 0xFFFFFF then bigEndian32 t else [])

def continuationHeader (packet : RtmpPacket) (t : UInt32) : List UInt8 :=
  (0xC0 ||| firstByte packet.headerType packet.channel) :: channelBytes packet.channel ++
    (if t ≥ 0xFFFFFF then bigEndian32 t else [])

/-- The chunks after the first; `fuel` bounds their number. -/
def laterChunks (chunkSize : Nat) (header : List UInt8) : Nat → List UInt8 → List (List UInt8)
  | 0, _ => []
  | _ + 1, [] => []
  | fuel + 1, first :: rest =>
      (header ++ (first :: rest).take chunkSize) ::
        laterChunks chunkSize header fuel ((first :: rest).drop chunkSize)

/-- The sending half of `RTMP`: `m_outChunkSize` and `m_vecChannelsOut`. -/
structure Outgoing where
  chunkSize : Nat
  channels : Nat → Option RtmpPacket

/-- `RTMP_Reset`, before the first packet. -/
def Outgoing.start (chunkSize : Nat) : Outgoing := ⟨chunkSize, fun _ => none⟩

/-- What `RTMP_SendPacket` makes of the packet before it writes. -/
def preparedPacket (out : Outgoing) (packet : RtmpPacket) : RtmpPacket :=
  let (headerType, last) := compressHeader (out.channels packet.channel) packet
  { packet with headerType := headerType, lastWireTimestamp := packet.timestamp - last }

/-- `RTMP_SendPacket`: the buffers it writes, and the state once all have gone out. -/
def rtmpSendPacket (out : Outgoing) (packet : RtmpPacket) : List (List UInt8) × Outgoing :=
  let sent := preparedPacket out packet
  let body := (packet.body.getD []).take packet.bodySize
  let t := sent.lastWireTimestamp
  ((packetHeader sent t ++ body.take out.chunkSize) ::
      laterChunks out.chunkSize (continuationHeader sent t) body.length (body.drop out.chunkSize),
    { out with channels := Function.update out.channels packet.channel (some sent) })

/-! ## Reading -/

/-- `ReadN`: none if the connection ends before. -/
def readN (count : Nat) (bytes : List UInt8) : Option (List UInt8 × List UInt8) :=
  if count ≤ bytes.length then some (bytes.take count, bytes.drop count) else none

/-- The receiving half of `RTMP`: `m_inChunkSize`, `m_vecChannelsIn`, `m_channelTimestamp`. -/
structure Incoming where
  chunkSize : Int
  channels : Nat → Option RtmpPacket
  channelTimestamp : Nat → UInt32

/-- `RTMP_Reset`, before the first packet. -/
def Incoming.start (chunkSize : Nat) : Incoming := ⟨chunkSize, fun _ => none, fun _ => 0⟩

/-- A call of `RTMP_ReadPacket`: it returns false, it writes past the body of the packet, or it
returns with the packet. -/
inductive ReadOutcome where
  | failed
  | overrun
  | read (packet : RtmpPacket) (incoming : Incoming) (rest : List UInt8)

/-- The channel number, from the low bits of the first byte and the bytes behind. -/
def readChannel (low : Nat) (bytes : List UInt8) : Option (Nat × List UInt8) :=
  if low = 0 then
    (readN 1 bytes).map fun read => ((read.1.getD 0 0).toNat + 64, read.2)
  else if low = 1 then
    (readN 2 bytes).map fun read =>
      ((read.1.getD 1 0).toNat * 256 + (read.1.getD 0 0).toNat + 64, read.2)
  else
    some (low, bytes)

/-- `AMF_DecodeInt24` and `AMF_DecodeInt32` at a position, `DecodeInt32LE` likewise. -/
def decodeInt24 (bytes : List UInt8) (position : Nat) : Nat :=
  readBigEndian24 (bytes.getD position 0) (bytes.getD (position + 1) 0)
    (bytes.getD (position + 2) 0)

def decodeInt32 (bytes : List UInt8) (position : Nat) : UInt32 :=
  UInt32.ofNat (readBigEndian32 (bytes.getD position 0) (bytes.getD (position + 1) 0)
    (bytes.getD (position + 2) 0) (bytes.getD (position + 3) 0))

def decodeInt32LE (bytes : List UInt8) (position : Nat) : UInt32 :=
  UInt32.ofNat (readBigEndian32 (bytes.getD (position + 3) 0) (bytes.getD (position + 2) 0)
    (bytes.getD (position + 1) 0) (bytes.getD position 0))

/-- The fields that a header of `nSize` bytes carries. -/
def headerFields (nSize : Nat) (header : List UInt8) (packet : RtmpPacket) : RtmpPacket :=
  if nSize ≥ 3 then
    let stamped := { packet with timestamp := UInt32.ofNat (decodeInt24 header 0) }
    if nSize ≥ 6 then
      let sized := { stamped with bodySize := decodeInt24 header 3, bytesRead := 0 }
      if nSize > 6 then
        let typed := { sized with packetType := header.getD 6 0 }
        if nSize = 11 then { typed with infoField2 := decodeInt32LE header 7 } else typed
      else sized
    else stamped
  else packet

/-- The extended time stamp behind a header whose field is full, and `extendedTimestamp`. -/
def readExtendedTimestamp (nSize : Nat) (packet : RtmpPacket) (bytes : List UInt8) :
    Option (RtmpPacket × Bool × List UInt8) :=
  if nSize ≥ 3 ∧ packet.timestamp = 0xFFFFFF then
    (readN 4 bytes).map fun read =>
      ({ packet with timestamp := decodeInt32 read.1 0 }, true, read.2)
  else
    some (packet, false, bytes)

def readHeader (headerType : HeaderType) (packet : RtmpPacket) (bytes : List UInt8) :
    Option (RtmpPacket × Bool × List UInt8) :=
  let nSize := headerType.packetSize - 1
  (readN nSize bytes).bind fun read =>
    readExtendedTimestamp nSize (headerFields nSize read.1 packet) read.2

/-- The packet that a header is read into: the caller's for a large one, otherwise the one
kept for the channel if there is one. -/
def headerBase (incoming : Incoming) (headerType : HeaderType) (channel : Nat)
    (packet : RtmpPacket) : RtmpPacket :=
  let addressed := { packet with headerType := headerType, channel := channel }
  if headerType = .large then { addressed with hasAbsTimestamp := true }
  else (incoming.channels channel).getD addressed

/-- `memcpy` into the body at `bytesRead`. -/
def writeBody (body : List UInt8) (position : Nat) (data : List UInt8) : List UInt8 :=
  body.take position ++ data ++ body.drop (position + data.length)

/-- The end of `RTMP_ReadPacket`, once a chunk of the body has been read. -/
def finishChunk (incoming : Incoming) (packet : RtmpPacket) (extended : Bool) :
    RtmpPacket × Incoming :=
  let kept := if extended then { packet with timestamp := 0xFFFFFF } else packet
  if packet.isReady then
    let absolute :=
      if packet.hasAbsTimestamp then packet.timestamp
      else packet.timestamp + incoming.channelTimestamp packet.channel
    ({ packet with timestamp := absolute },
      { incoming with
        channels := Function.update incoming.channels packet.channel
          (some { kept with body := none, bytesRead := 0, hasAbsTimestamp := false })
        channelTimestamp := Function.update incoming.channelTimestamp packet.channel absolute })
  else
    ({ packet with body := none },
      { incoming with
        channels := Function.update incoming.channels packet.channel (some kept) })

/-- The body part of a chunk, for a packet whose header is complete.  `ReadN` copies what
arrives before it can fail. -/
def readChunkBody (incoming : Incoming) (packet : RtmpPacket) (extended : Bool)
    (bytes : List UInt8) : ReadOutcome :=
  let nToRead : Int := packet.bodySize - packet.bytesRead
  let nChunk := if nToRead < incoming.chunkSize then nToRead else incoming.chunkSize
  if nChunk < 0 then .failed
  else if (packet.body.getD []).length < packet.bytesRead + min nChunk.toNat bytes.length ∧
      0 < min nChunk.toNat bytes.length then
    .overrun
  else
    match readN nChunk.toNat bytes with
    | none => .failed
    | some (data, rest) =>
        let filled := { packet with
          body := packet.body.map fun body => writeBody body packet.bytesRead data
          bytesRead := packet.bytesRead + nChunk.toNat }
        let finished := finishChunk incoming filled extended
        .read finished.1 finished.2 rest

def rtmpReadPacket (incoming : Incoming) (packet : RtmpPacket) (bytes : List UInt8) :
    ReadOutcome :=
  match bytes with
  | [] => .failed
  | first :: rest =>
      let headerType := HeaderType.ofByte first
      match readChannel (first &&& 0x3F).toNat rest with
      | none => .failed
      | some (channel, rest) =>
          match readHeader headerType (headerBase incoming headerType channel packet) rest with
          | none => .failed
          | some (filled, extended, rest) =>
              let ready :=
                if 0 < filled.bodySize ∧ filled.body = none then
                  { filled.alloc filled.bodySize with headerType := headerType }
                else filled
              readChunkBody incoming ready extended rest

def handleChangeChunkSize (incoming : Incoming) (packet : RtmpPacket) : Incoming :=
  if packet.bodySize ≥ 4 then
    { incoming with chunkSize := (decodeInt32 (packet.body.getD []) 0).toInt32.toInt }
  else incoming

structure RtmpMessage where
  channel : Nat
  packetType : UInt8
  timestamp : UInt32
  infoField2 : UInt32
  body : List UInt8
  deriving DecidableEq

def RtmpPacket.message (packet : RtmpPacket) : RtmpMessage :=
  ⟨packet.channel, packet.packetType, packet.timestamp, packet.infoField2,
    (packet.body.getD []).take packet.bodySize⟩

/-- The body of the loop of `RTMP_ConnectStream` for a complete packet: unless it is empty it
is handled and its body freed. -/
def handlePacket (incoming : Incoming) (packet : RtmpPacket) : Incoming × RtmpPacket :=
  if packet.bodySize = 0 then (incoming, packet)
  else
    (if packet.packetType = 1 then handleChangeChunkSize incoming packet else incoming,
      packet.free)

/-- A round of the loop of `RTMP_ConnectStream`. -/
def readCall (state : Incoming × RtmpPacket) (bytes : List UInt8) :
    Option ((Incoming × RtmpPacket) × List RtmpMessage × List UInt8) :=
  match rtmpReadPacket state.1 state.2 bytes with
  | .read packet incoming rest =>
      if packet.isReady then some (handlePacket incoming packet, [packet.message], rest)
      else some ((incoming, packet), [], rest)
  | _ => none

end RejiStudio.Rtmp
