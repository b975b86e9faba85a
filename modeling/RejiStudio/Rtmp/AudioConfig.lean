import RejiStudio.Rtmp.CallTags

/-!
# The audio sequence header

`audioSeqSent` promises that the last audio header on the wire carries the stored
configuration.  `rj_rtmp_set_audio_config` frees the stored configuration before
it asks for the copy of the new one, and lowers the flag only behind the copy.
-/

namespace RejiStudio.Rtmp

open RejiStudio.Lib

def lastAudioHeader (wire : List TagWrite) : Option TagWrite :=
  (wire.filter fun write => write.isAudioHeader && write.succeeded).getLast?

theorem lastAudioHeader_append_header {wire : List TagWrite} {write : TagWrite}
    (header : write.isAudioHeader = true) (succeeded : write.succeeded = true) :
    lastAudioHeader (wire ++ [write]) = some write := by
  simp [lastAudioHeader, List.filter_append, header, succeeded]

theorem lastAudioHeader_append_other {wire added : List TagWrite}
    (other : ∀ write ∈ added, (write.isAudioHeader && write.succeeded) = false) :
    lastAudioHeader (wire ++ added) = lastAudioHeader wire := by
  have none_ : added.filter (fun write => write.isAudioHeader && write.succeeded) = [] := by
    rw [List.filter_eq_nil_iff]
    intro write membership
    rw [other write membership]
    exact Bool.false_ne_true
  rw [lastAudioHeader, List.filter_append, none_, List.append_nil]
  rfl

namespace Muxer

/-- A configuration is stored, and the last audio header carries exactly it. -/
def ConfigOnWire (asc : Option (List UInt8)) (wire : List TagWrite) : Prop :=
  ∃ stored header, asc = some stored ∧ lastAudioHeader wire = some header ∧
    header.body = [0xAF, 0x00] ++ stored

def FlagHonest (muxer : Muxer) : Prop :=
  muxer.transport.audioSeqSent = true → ConfigOnWire muxer.transport.asc muxer.wire

/-- The raw AAC tags that a call adds follow a header with the stored configuration. -/
def RawUnderHeader (muxer next : Muxer) : Prop :=
  ∀ added, next.wire = muxer.wire ++ added → ∀ before raw, before ++ [raw] <+: added →
    raw.isRawAudio = true → ConfigOnWire muxer.transport.asc (muxer.wire ++ before)

/-- A configuration that was not accepted changes nothing. -/
def RefusalKeepsConfig (muxer : Muxer) : RtmpCall → Prop
  | .setAudioConfig asc ascLen =>
      (muxer.rjRtmpSetAudioConfig asc ascLen).1 = false →
        (muxer.rjRtmpSetAudioConfig asc ascLen).2.transport.asc = muxer.transport.asc ∧
        (muxer.rjRtmpSetAudioConfig asc ascLen).2.transport.audioSeqSent =
          muxer.transport.audioSeqSent
  | _ => True

def ConfigSound (muxer : Muxer) (call : RtmpCall) : Prop :=
  (∀ next, step muxer call = some next → FlagHonest next ∧ RawUnderHeader muxer next) ∧
    RefusalKeepsConfig muxer call

/-- No copy of an acceptable configuration is refused while another one is stored. -/
def ReplacementGranted (muxer : Muxer) : RtmpCall → Prop
  | .setAudioConfig (some _) ascLen =>
      0 < ascLen → ascLen ≤ maxAscBytes → muxer.transport.asc ≠ none →
        (allocate muxer.allocations).1 = true
  | _ => True

/-! ## What one call preserves -/

theorem FlagHonest.of_videoCall {muxer next : Muxer} {ptsUs : Int64} (honest : FlagHonest muxer)
    (call : VideoCall muxer next ptsUs) : FlagHonest next ∧ RawUnderHeader muxer next := by
  obtain ⟨added, wire, video⟩ := call.grows
  have notAudio : ∀ tag ∈ added, tag.isAudioHeader = false ∧ tag.isRawAudio = false := by
    intro tag membership
    simp [TagWrite.isAudioHeader, TagWrite.isRawAudio, (video tag membership).1, flvVideoTag,
      flvAudioTag]
  constructor
  · intro raised
    rw [call.audioSeqSent] at raised
    rw [call.asc, wire, ConfigOnWire, lastAudioHeader_append_other]
    · exact honest raised
    · intro tag membership
      simp [(notAudio tag membership).1]
  · intro tags longer before raw reached isRaw
    obtain rfl : added = tags := List.append_cancel_left (wire.symm.trans longer)
    have membership : raw ∈ added := reached.subset (by simp)
    rw [(notAudio raw membership).2] at isRaw
    cases isRaw

theorem FlagHonest.of_audioHeader {muxer next : Muxer} {passed : Bool}
    (honest : FlagHonest muxer) (header : AudioHeader muxer next passed) :
    FlagHonest next ∧ (passed = true → ConfigOnWire next.transport.asc next.wire) := by
  rcases header.wire with ⟨wire, flag, up⟩ | ⟨asc, write, stored, wire, made, outcome, flag⟩
  · rw [FlagHonest, header.asc, wire, flag]
    exact ⟨honest, fun done => honest (up done)⟩
  · have onWire : passed = true → ConfigOnWire next.transport.asc next.wire := by
      intro done
      refine ⟨asc, write, header.asc.trans stored, ?_, made.body⟩
      rw [wire]
      refine lastAudioHeader_append_header ?_ (outcome.trans done)
      simp [TagWrite.isAudioHeader, made.tagType, made.body]
    exact ⟨fun raised => onWire (flag.symm.trans raised), onWire⟩

theorem FlagHonest.of_audioCall {muxer next : Muxer} {ptsUs : Int64} (honest : FlagHonest muxer)
    (call : AudioCall muxer next ptsUs) : FlagHonest next ∧ RawUnderHeader muxer next := by
  obtain ⟨passed, middle, header, rest⟩ := call
  obtain ⟨middleHonest, onWire⟩ := honest.of_audioHeader header
  obtain ⟨headers, wire, noRaw⟩ : ∃ headers, middle.wire = muxer.wire ++ headers ∧
      ∀ tag ∈ headers, tag.isRawAudio = false := by
    rcases header.wire with ⟨wire, _, _⟩ | ⟨asc, write, _, wire, made, _, _⟩
    · exact ⟨[], by simpa using wire, by simp⟩
    · exact ⟨[write], wire, by simp [TagWrite.isRawAudio, made.body]⟩
  have underHeader : ∀ before raw, before ++ [raw] <+: headers → raw.isRawAudio = true →
      ConfigOnWire muxer.transport.asc (muxer.wire ++ before) := by
    intro before raw reached isRaw
    rw [noRaw raw (reached.subset (by simp))] at isRaw
    cases isRaw
  have unchanged : ∀ last : Muxer, last.wire = middle.wire → RawUnderHeader muxer last := by
    intro last same tags longer
    obtain rfl : headers = tags :=
      List.append_cancel_left ((same.trans wire).symm.trans longer)
    exact underHeader
  rcases rest with rfl | ⟨done, aac, raw⟩
  · exact ⟨middleHonest, unchanged next rfl⟩
  · rcases raw.wire with same | ⟨write, grown, made⟩
    · refine ⟨?_, unchanged next same⟩
      rw [FlagHonest, raw.asc, raw.audioSeqSent, same]
      exact middleHonest
    · have notHeader : write.isAudioHeader = false := by
        simp [TagWrite.isAudioHeader, made.body]
      constructor
      · intro _
        rw [raw.asc, grown, ConfigOnWire, lastAudioHeader_append_other (by simp [notHeader])]
        exact onWire done
      · intro tags longer before tag reached isRaw
        obtain rfl : headers ++ [write] = tags := by
          have whole : muxer.wire ++ (headers ++ [write]) = muxer.wire ++ tags := by
            rw [← List.append_assoc, ← wire, ← grown, longer]
          exact List.append_cancel_left whole
        rcases List.prefix_concat_iff.mp reached with whole | earlier
        · obtain ⟨rfl, _⟩ := List.append_inj' whole rfl
          rw [← header.asc, ← wire]
          exact onWire done
        · exact underHeader before tag earlier isRaw

theorem rawUnderHeader_of_same {muxer next : Muxer} (same : next.wire = muxer.wire) :
    RawUnderHeader muxer next := by
  intro tags longer before raw reached
  obtain rfl : [] = tags :=
    List.append_cancel_left ((List.append_nil _).trans (same.symm.trans longer))
  simp at reached

/-- The three outcomes of a call: rejected, accepted without a copy, accepted with one. -/
theorem rjRtmpSetAudioConfig_cases (muxer : Muxer) (asc : Option (List UInt8)) (ascLen : Nat) :
    (muxer.rjRtmpSetAudioConfig asc ascLen = (false, muxer) ∧
        (asc = none ∨ ascLen = 0 ∨ maxAscBytes < ascLen)) ∨
      ∃ bytes, asc = some bytes ∧ 0 < ascLen ∧ ascLen ≤ maxAscBytes ∧
        let rest := (allocate muxer.allocations).2
        ((allocate muxer.allocations).1 = false ∧
            muxer.rjRtmpSetAudioConfig asc ascLen =
              (false, { muxer with
                transport := { muxer.transport with asc := none }, allocations := rest }) ∨
          (allocate muxer.allocations).1 = true ∧
            muxer.rjRtmpSetAudioConfig asc ascLen =
              (true, { muxer with
                transport := { muxer.transport with
                  asc := some (bytes.take ascLen), audioSeqSent := false }
                allocations := rest })) := by
  unfold rjRtmpSetAudioConfig
  split
  next outside =>
    left
    refine ⟨rfl, .inr ?_⟩
    rcases outside with empty | long
    · exact .inl empty
    · exact .inr long
  next within =>
    have positive : 0 < ascLen := Nat.pos_of_ne_zero fun zero => within (.inl zero)
    have short : ascLen ≤ maxAscBytes := Nat.le_of_not_lt fun long => within (.inr long)
    cases asc with
    | none => exact .inl ⟨rfl, .inl rfl⟩
    | some bytes =>
        right
        refine ⟨bytes, rfl, positive, short, ?_⟩
        rcases allocate muxer.allocations with ⟨granted, rest⟩
        cases granted with
        | false => exact .inl ⟨rfl, rfl⟩
        | true => exact .inr ⟨rfl, rfl⟩

/-- The refused copy in place of a stored configuration is the only call that breaks
a promise. -/
theorem rjRtmpSetAudioConfig_sound_iff {muxer : Muxer} (honest : FlagHonest muxer)
    (asc : Option (List UInt8)) (ascLen : Nat) :
    ReplacementGranted muxer (.setAudioConfig asc ascLen) ↔
      ConfigSound muxer (.setAudioConfig asc ascLen) := by
  simp only [ConfigSound, RefusalKeepsConfig, step, Option.some.injEq, forall_eq']
  rcases muxer.rjRtmpSetAudioConfig_cases asc ascLen with
    ⟨result, rejected⟩ | ⟨bytes, rfl, positive, short, ⟨refused, result⟩ | ⟨granted, result⟩⟩ <;>
    rw [result]
  · refine iff_of_true ?_ ⟨⟨honest, rawUnderHeader_of_same rfl⟩, fun _ => ⟨rfl, rfl⟩⟩
    rcases rejected with rfl | rfl | long
    · trivial
    · cases asc <;> simp [ReplacementGranted]
    · cases asc with
      | none => trivial
      | some bytes => exact fun _ short => absurd long (Nat.not_lt_of_le short)
  · have breaks : ReplacementGranted muxer (.setAudioConfig (some bytes) ascLen) ↔
        muxer.transport.asc = none := by
      simp only [ReplacementGranted, refused, positive, short, forall_const]
      simp
    rw [breaks]
    constructor
    · intro empty
      have down : muxer.transport.audioSeqSent = false := by
        by_contra raised
        obtain ⟨stored, _, present, _⟩ := honest (by simpa using raised)
        rw [empty] at present
        cases present
      refine ⟨⟨?_, rawUnderHeader_of_same rfl⟩, fun _ => ⟨empty.symm, rfl⟩⟩
      intro raised
      rw [show muxer.transport.audioSeqSent = true from raised] at down
      cases down
    · rintro ⟨_, kept⟩
      exact (kept rfl).1.symm
  · refine iff_of_true (fun _ _ _ => granted) ⟨⟨?_, rawUnderHeader_of_same rfl⟩, nofun⟩
    intro raised
    cases raised

theorem replacementGranted_iff_configSound {muxer : Muxer} (honest : FlagHonest muxer)
    (call : RtmpCall) : ReplacementGranted muxer call ↔ ConfigSound muxer call := by
  cases call with
  | send data size ptsUs =>
      refine iff_of_true trivial ⟨?_, trivial⟩
      intro next stepped
      cases stepped
      exact honest.of_videoCall (muxer.rjRtmpSend_videoCall data size ptsUs)
  | setAudioConfig asc ascLen => exact rjRtmpSetAudioConfig_sound_iff honest asc ascLen
  | sendAudio aac aacLen ptsUs =>
      refine iff_of_true trivial ⟨?_, trivial⟩
      intro next stepped
      cases stepped
      exact honest.of_audioCall (muxer.rjRtmpSendAudio_audioCall aac aacLen ptsUs)

/-! ## Runs -/

theorem exec_total (muxer : Muxer) (calls : List RtmpCall) :
    ∃ last, Machine.exec step muxer calls = some last := by
  induction calls generalizing muxer with
  | nil => exact ⟨muxer, rfl⟩
  | cons call rest inductionHypothesis =>
      cases call <;> exact inductionHypothesis _

/-- Whatever is sent and whichever allocations, checks and writes fail: the promise
of the flag, the header before every raw tag and the effect of a refused configuration
hold at every call exactly if no call has its copy refused while a configuration is
stored. -/
theorem audioConfig_on_wire (initialised : Bool) (allocations : List Bool) (writes : List Int32)
    (connections : List Bool) (calls : List RtmpCall) :
    Machine.Along step ReplacementGranted (create initialised allocations writes connections)
        calls ↔
      Machine.Along step ConfigSound (create initialised allocations writes connections)
        calls := by
  obtain ⟨last, executed⟩ :=
    exec_total (create initialised allocations writes connections) calls
  have startHonest : FlagHonest (create initialised allocations writes connections) := nofun
  refine Machine.along_congr ?_ ?_ startHonest executed
  · intro muxer call next honest granted stepped
    exact (((replacementGranted_iff_configSound honest call).mp granted).1 next stepped).1
  · intro muxer call _ honest _
    exact replacementGranted_iff_configSound honest call

/-- The second configuration is refused: the first one is gone, the flag is up, and
the next frame goes out under a header that describes nothing stored. -/
theorem refused_replacement_breaks_promise :
    ∃ before after last,
      Machine.exec step (create true [true, true, true, false] [] [])
        [.setAudioConfig (some [0x12, 0x10]) 2, .sendAudio (some [7]) 1 0] = some before ∧
      (before.rjRtmpSetAudioConfig (some [0x11, 0x90]) 2).1 = false ∧
      step before (.setAudioConfig (some [0x11, 0x90]) 2) = some after ∧
      before.transport.asc = some [0x12, 0x10] ∧
      after.transport.asc = none ∧ after.transport.audioSeqSent = true ∧
      step after (.sendAudio (some [8]) 1 40000) = some last ∧
      last.wire.map (fun write => (write.isRawAudio, write.succeeded)) =
        [(false, true), (true, true), (true, true)] := by
  exact ⟨_, _, _, rfl, by decide, rfl, by decide, by decide, by decide, rfl, by decide⟩

end Muxer

end RejiStudio.Rtmp
