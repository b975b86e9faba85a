import RejiStudio.Ws.Value

/-!
# The obs-websocket protocol

Message envelopes, close codes, authentication strings and responses.
-/

namespace RejiStudio.Ws

/-- The parts that live outside the repository: the parsers and printers of the
two formats, SHA-256 with base64, and the standard hasher. -/
structure Platform where
  parseJson : String → Option Value
  parseMsgpack : List UInt8 → Option Value
  renderJson : Value → Option String
  renderMsgpack : Value → Option (List UInt8)
  sha256B64 : String → String
  defaultHash : String → UInt64

structure WsEnvelope where
  op : UInt8
  d : Value
  deriving Repr

/-- The envelope as the `{op, d}` object that goes on the wire. -/
def WsEnvelope.toValue (env : WsEnvelope) : Value :=
  .object [("op", .posInt env.op.toUInt64), ("d", env.d)]

namespace ObsOp

def hello : UInt8 := 0
def identify : UInt8 := 1
def identified : UInt8 := 2
def request : UInt8 := 6
def requestResponse : UInt8 := 7

end ObsOp

namespace CloseCode

def notIdentified : UInt16 := 4007
def authenticationFailed : UInt16 := 4009

end CloseCode

namespace RequestStatus

def success : Nat := 100
def unknownRequestType : Nat := 204
def resourceNotFound : Nat := 600

end RequestStatus

def rpcVersion : UInt8 := 1

def obsWsVersion : String := "5.0.0-reji-compat"

def hello : WsEnvelope :=
  ⟨ObsOp.hello, .object
    [("obsWebSocketVersion", .string obsWsVersion),
      ("rpcVersion", .posInt rpcVersion.toUInt64)]⟩

def helloWithAuth (challenge salt : String) : WsEnvelope :=
  ⟨ObsOp.hello, .object
    [("obsWebSocketVersion", .string obsWsVersion),
      ("rpcVersion", .posInt rpcVersion.toUInt64),
      ("authentication", .object [("challenge", .string challenge), ("salt", .string salt)])]⟩

def identified : WsEnvelope :=
  ⟨ObsOp.identified, .object [("negotiatedRpcVersion", .posInt rpcVersion.toUInt64)]⟩

def requestResponseOk (requestType requestId : String) (data : Value) : WsEnvelope :=
  ⟨ObsOp.requestResponse, .object
    [("requestType", .string requestType),
      ("requestId", .string requestId),
      ("requestStatus", .object
        [("result", .bool true), ("code", .ofNat RequestStatus.success)]),
      ("responseData", data)]⟩

def requestResponseErr (requestType requestId : String) (code : Nat) (comment : String) :
    WsEnvelope :=
  ⟨ObsOp.requestResponse, .object
    [("requestType", .string requestType),
      ("requestId", .string requestId),
      ("requestStatus", .object
        [("result", .bool false), ("code", .ofNat code), ("comment", .string comment)])]⟩

def computeAuth (platform : Platform) (password salt challenge : String) : String :=
  let secret := platform.sha256B64 (password ++ salt)
  platform.sha256B64 (secret ++ challenge)

-- Two libraries have an instance of their own.
local instance decidableEqBytes : DecidableEq ByteArray := ByteArray.instDecidableEq

def verifyAuth (platform : Platform) (password salt challenge clientResponse : String) : Bool :=
  let expected := computeAuth platform password salt challenge
  if expected.utf8ByteSize ≠ clientResponse.utf8ByteSize then false
  else expected.toByteArray = clientResponse.toByteArray

def padLeft (width : Nat) (digits : List Char) : String :=
  String.ofList (List.replicate (width - digits.length) '0' ++ digits)

def formatTimecode (ms : UInt64) : String :=
  let millis := ms.toNat % 1000
  let totalSecs := ms.toNat / 1000
  let secs := totalSecs % 60
  let mins := totalSecs / 60 % 60
  let hours := totalSecs / 3600
  padLeft 2 (Nat.toDigits 10 hours) ++ ":" ++ padLeft 2 (Nat.toDigits 10 mins) ++ ":" ++
    padLeft 2 (Nat.toDigits 10 secs) ++ "." ++ padLeft 3 (Nat.toDigits 10 millis)

def hexPadded (width value : Nat) : String := padLeft width (Nat.toDigits 16 value)

def pseudoUuid (platform : Platform) (name : String) : String :=
  let v := (platform.defaultHash name).toNat
  hexPadded 8 (v / 2 ^ 32) ++ "-" ++ hexPadded 4 (v / 2 ^ 16 % 2 ^ 16) ++ "-" ++
    hexPadded 4 (v % 2 ^ 16) ++ "-" ++ hexPadded 4 (v / 2 ^ 48 % 2 ^ 16) ++ "-" ++
    hexPadded 12 (v % 2 ^ 48)

end RejiStudio.Ws
