import RejiStudio.Lib.Decimal
import RejiStudio.Ws.ObsProtocol

/-!
# Timecodes

A duration is shown as hours, minutes, seconds and milliseconds.  The hours have two
digits or as many as they need, so the text can be read back.
-/

namespace RejiStudio.Ws

open RejiStudio.Lib

structure Timecode where
  hours : Nat
  mins : Nat
  secs : Nat
  millis : Nat
  deriving DecidableEq

namespace Timecode

def ms (timecode : Timecode) : Nat :=
  ((timecode.hours * 60 + timecode.mins) * 60 + timecode.secs) * 1000 + timecode.millis

/-- `hours:minutes:seconds.milliseconds`. -/
def parse (text : String) : Option Timecode :=
  (Text.splitFirst [':'] text.toList).bind fun (hours, rest) =>
  (Text.splitFirst [':'] rest).bind fun (mins, rest) =>
  (Text.splitFirst ['.'] rest).bind fun (secs, millis) =>
  (Text.parseNat hours).bind fun hours =>
  (Text.parseNat mins).bind fun mins =>
  (Text.parseNat secs).bind fun secs =>
  (Text.parseNat millis).map fun millis => ⟨hours, mins, secs, millis⟩

/-- The fields that `formatTimecode` shows. -/
def ofMs (ms : Nat) : Timecode where
  hours := ms / 1000 / 3600
  mins := ms / 1000 / 60 % 60
  secs := ms / 1000 % 60
  millis := ms % 1000

theorem ms_ofMs (ms : Nat) : (ofMs ms).ms = ms := by
  simp only [Timecode.ms, ofMs]
  omega

theorem toList_formatTimecode (ms : UInt64) :
    (formatTimecode ms).toList =
      Text.padded 2 (ofMs ms.toNat).hours ++ [':'] ++
        (Text.padded 2 (ofMs ms.toNat).mins ++ [':'] ++
          (Text.padded 2 (ofMs ms.toNat).secs ++ ['.'] ++
            Text.padded 3 (ofMs ms.toNat).millis)) := by
  simp [formatTimecode, padLeft, Text.padded, ofMs]

theorem parse_formatTimecode (ms : UInt64) : parse (formatTimecode ms) = some (ofMs ms.toNat) := by
  unfold parse
  rw [toList_formatTimecode, Text.splitFirst_append (Text.notMem_padded (by decide) _ _)]
  dsimp only [Option.bind_some]
  rw [Text.splitFirst_append (Text.notMem_padded (by decide) _ _)]
  dsimp only [Option.bind_some]
  rw [Text.splitFirst_append (Text.notMem_padded (by decide) _ _)]
  dsimp only [Option.bind_some]
  simp only [Text.parseNat_padded, Option.bind_some, Option.map_some]

end Timecode

/-- What is shown can be read back to the millisecond, so no two durations look alike. -/
theorem formatTimecode_lossless :
    (∀ ms : UInt64, ∃ timecode, Timecode.parse (formatTimecode ms) = some timecode ∧
      timecode.ms = ms.toNat ∧ timecode.mins < 60 ∧ timecode.secs < 60 ∧
      timecode.millis < 1000) ∧
    Function.Injective formatTimecode := by
  constructor
  · intro ms
    refine ⟨.ofMs ms.toNat, Timecode.parse_formatTimecode ms, Timecode.ms_ofMs _, ?_, ?_, ?_⟩
    · exact Nat.mod_lt _ (by decide)
    · exact Nat.mod_lt _ (by decide)
    · exact Nat.mod_lt _ (by decide)
  · intro ms other same
    have fields : Timecode.ofMs ms.toNat = Timecode.ofMs other.toNat := by
      apply Option.some.inj
      rw [← Timecode.parse_formatTimecode, ← Timecode.parse_formatTimecode, same]
    have durations := congrArg Timecode.ms fields
    rw [Timecode.ms_ofMs, Timecode.ms_ofMs] at durations
    exact UInt64.toNat_inj.mp durations

example : formatTimecode 360000000 = "100:00:00.000" := by decide +kernel

end RejiStudio.Ws
