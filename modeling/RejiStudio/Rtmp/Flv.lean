import RejiStudio.Lib.LengthPrefixed

/-!
# Growing buffers, AVC configuration records and FLV tags

An append fails only where it has to grow the buffer and the allocator refuses.
The allocator is a list of outcomes; once the list is used up it never refuses.
-/

namespace RejiStudio.Rtmp

open RejiStudio.Lib

def allocate : List Bool → Bool × List Bool
  | [] => (true, [])
  | granted :: rest => (granted, rest)

def Granted (allocations : List Bool) : Prop := ∀ outcome ∈ allocations, outcome = true

theorem granted_nil : Granted [] := by simp [Granted]

theorem allocate_granted {allocations : List Bool} (granted : Granted allocations) :
    (allocate allocations).1 = true ∧ Granted (allocate allocations).2 := by
  cases allocations with
  | nil => exact ⟨rfl, granted⟩
  | cons outcome rest =>
      exact ⟨granted outcome List.mem_cons_self,
        fun later membership => granted later (List.mem_cons_of_mem _ membership)⟩

/-- `Buf`, with the bytes in use and the size of the allocation behind them. -/
structure Buf where
  items : List UInt8
  capacity : Nat
  deriving DecidableEq

namespace Buf

def empty : Buf := ⟨[], 0⟩

/-- The doubling loop of `ensure`, saturating at the largest `usize`. -/
def growCapacity : Nat → Nat → Nat → Nat
  | 0, newCap, _ => newCap
  | fuel + 1, newCap, cap =>
      if newCap < cap then growCapacity fuel (min (newCap * 2) (2 ^ 64 - 1)) cap else newCap

def ensure (buf : Buf) (cap : Nat) (allocations : List Bool) : Bool × Buf × List Bool :=
  if cap ≤ buf.capacity then
    (true, buf, allocations)
  else
    match allocate allocations with
    | (true, rest) =>
        let newCap := if buf.capacity = 0 then 4096 else buf.capacity
        (true, { buf with capacity := growCapacity 64 newCap cap }, rest)
    | (false, rest) => (false, buf, rest)

def appendSlice (buf : Buf) (bytes : List UInt8) (allocations : List Bool) :
    Bool × Buf × List Bool :=
  match buf.ensure (buf.items.length + bytes.length) allocations with
  | (true, grown, rest) => (true, { grown with items := grown.items ++ bytes }, rest)
  | (false, grown, rest) => (false, grown, rest)

def appendAll (buf : Buf) : List (List UInt8) → List Bool → Bool × Buf × List Bool
  | [], allocations => (true, buf, allocations)
  | bytes :: more, allocations =>
      match buf.appendSlice bytes allocations with
      | (true, longer, rest) => longer.appendAll more rest
      | (false, longer, rest) => (false, longer, rest)

theorem ensure_items (buf : Buf) (cap : Nat) (allocations : List Bool) :
    (buf.ensure cap allocations).2.1.items = buf.items := by
  unfold ensure
  repeat' split
  all_goals rfl

theorem appendSlice_items {buf : Buf} {bytes : List UInt8} {allocations : List Bool}
    (appended : (buf.appendSlice bytes allocations).1 = true) :
    (buf.appendSlice bytes allocations).2.1.items = buf.items ++ bytes := by
  have kept := buf.ensure_items (buf.items.length + bytes.length) allocations
  unfold appendSlice at appended ⊢
  split
  next grown rest ensured =>
    rw [ensured] at kept
    simpa using kept
  next grown rest refused =>
    rw [refused] at appended
    cases appended

theorem appendAll_items {buf : Buf} {pieces : List (List UInt8)} {allocations : List Bool}
    (appended : (buf.appendAll pieces allocations).1 = true) :
    (buf.appendAll pieces allocations).2.1.items = buf.items ++ pieces.flatten := by
  induction pieces generalizing buf allocations with
  | nil => simp [appendAll]
  | cons bytes more inductionHypothesis =>
      have first : (buf.appendSlice bytes allocations).1 = true →
          (buf.appendSlice bytes allocations).2.1.items = buf.items ++ bytes := appendSlice_items
      unfold appendAll at appended ⊢
      split
      next longer rest sliced =>
        rw [sliced] at appended first
        rw [inductionHypothesis appended, first rfl]
        simp
      next longer rest refused =>
        rw [refused] at appended
        cases appended

theorem ensure_granted (buf : Buf) (cap : Nat) {allocations : List Bool}
    (granted : Granted allocations) :
    (buf.ensure cap allocations).1 = true ∧ Granted (buf.ensure cap allocations).2.2 := by
  obtain ⟨ok, rest⟩ := allocate_granted granted
  unfold ensure
  split
  · exact ⟨rfl, granted⟩
  · split <;> rename_i left asked <;> rw [asked] at ok rest
    · exact ⟨rfl, rest⟩
    · cases ok

theorem appendAll_granted (buf : Buf) (pieces : List (List UInt8)) {allocations : List Bool}
    (granted : Granted allocations) :
    (buf.appendAll pieces allocations).1 = true ∧
      Granted (buf.appendAll pieces allocations).2.2 := by
  induction pieces generalizing buf allocations with
  | nil => exact ⟨rfl, granted⟩
  | cons bytes more inductionHypothesis =>
      have sliced : (buf.appendSlice bytes allocations).1 = true ∧
          Granted (buf.appendSlice bytes allocations).2.2 := by
        obtain ⟨ok, rest⟩ := buf.ensure_granted (buf.items.length + bytes.length) granted
        unfold appendSlice
        split <;> rename_i grown left ensured <;> rw [ensured] at ok rest
        · exact ⟨rfl, rest⟩
        · cases ok
      unfold appendAll
      split <;> rename_i longer rest first <;> rw [first] at sliced
      · exact inductionHypothesis longer sliced.2
      · cases sliced.1

end Buf

/-- One `appendByte` for each byte. -/
def eachByte (bytes : List UInt8) : List (List UInt8) := bytes.map fun byte => [byte]

@[simp]
theorem flatten_eachByte (bytes : List UInt8) : (eachByte bytes).flatten = bytes := by
  induction bytes with
  | nil => rfl
  | cons byte rest inductionHypothesis => simpa [eachByte] using inductionHypothesis

/-- The appends of `buildAvcConfig`. -/
def avcConfigPieces (sps pps : List UInt8) : List (List UInt8) :=
  eachByte
      [1, sps.getD 1 0, sps.getD 2 0, sps.getD 3 0, 0xFF, 0xE1,
        UInt8.ofNat (sps.length >>> 8 &&& 0xFF), UInt8.ofNat (sps.length &&& 0xFF)] ++
    [sps] ++
    eachByte
      [1, UInt8.ofNat (pps.length >>> 8 &&& 0xFF), UInt8.ofNat (pps.length &&& 0xFF)] ++
    [pps]

def buildAvcConfig (out : Buf) (sps pps : List UInt8) (allocations : List Bool) :
    Bool × Buf × List Bool :=
  if sps.length < 4 ∨ pps.length = 0 then
    (false, out, allocations)
  else
    out.appendAll (avcConfigPieces sps pps) allocations

/-- The record that `buildAvcConfig` makes of two parameter sets, if any. -/
def avcConfig (sps pps : List UInt8) : Option (List UInt8) :=
  match buildAvcConfig Buf.empty sps pps [] with
  | (true, out, _) => some out.items
  | (false, _, _) => none

/-- What `buildAvcConfig` appends does not depend on the buffer or the allocator. -/
theorem buildAvcConfig_items {out : Buf} {sps pps : List UInt8} {allocations : List Bool}
    (built : (buildAvcConfig out sps pps allocations).1 = true) :
    ∃ config, avcConfig sps pps = some config ∧
      (buildAvcConfig out sps pps allocations).2.1.items = out.items ++ config := by
  unfold buildAvcConfig at built ⊢
  split at built
  next => cases built
  next long =>
    rw [if_neg long]
    refine ⟨(avcConfigPieces sps pps).flatten, ?_, Buf.appendAll_items built⟩
    have granted := (Buf.empty.appendAll_granted (avcConfigPieces sps pps) granted_nil).1
    have items := Buf.appendAll_items granted
    unfold avcConfig buildAvcConfig
    rw [if_neg long]
    split
    next out _ appended =>
      rw [appended] at items
      simpa [Buf.empty] using items
    next refused =>
      rw [refused] at granted
      cases granted

/-! ## FLV tags -/

def flvVideoTag : UInt8 := 0x09

def flvAudioTag : UInt8 := 0x08

def maxVideoPacketBytes : Nat := 0xFFFFFF

def maxAacFrameBytes : Nat := 8192

def maxAscBytes : Nat := 256

def withinTagLimit (bodyLen : Nat) : Bool := decide (bodyLen ≤ 0xFFFFFF)

/-- The appends of `writeFlvTag`: type, size, time stamp, stream id, body and the
size of the tag. -/
def flvTagPieces (tagType : UInt8) (tsMs : UInt32) (body : List UInt8) : List (List UInt8) :=
  eachByte [tagType] ++
    eachByte (bigEndian24 (UInt32.ofNat body.length)) ++
    eachByte (bigEndian24 (tsMs &&& 0xFFFFFF)) ++
    eachByte [((tsMs >>> 24) &&& 0xFF).toUInt8] ++
    eachByte (bigEndian24 0) ++
    [body] ++
    eachByte (bigEndian32 (UInt32.ofNat (11 + body.length)))

def buildAudioTagBody (out : Buf) (packetType : UInt8) (payload : List UInt8)
    (allocations : List Bool) : Bool × Buf × List Bool :=
  ({ out with items := [] }).appendAll (eachByte [0xAF, packetType] ++ [payload]) allocations

end RejiStudio.Rtmp
