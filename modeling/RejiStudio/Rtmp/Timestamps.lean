import RejiStudio.Rtmp.CallTags

/-!
# Time stamps on the wire

Video and audio share one epoch, fixed by whichever frame comes first.  Sequence
headers are written with time stamp zero whenever a parameter set or the audio
configuration changes; the stamps of all other tags follow the time stamps of the
calls.
-/

namespace RejiStudio.Rtmp

/-- Microseconds in which the stamps do not wrap. -/
def stampSpanUs : Int := 4294967296 * 1000

theorem relativeMs_toNat {firstPtsUs ptsUs : Int64} (later : firstPtsUs ≤ ptsUs)
    (span : ptsUs.toInt - firstPtsUs.toInt < stampSpanUs) :
    (relativeMs firstPtsUs ptsUs).toNat = (ptsUs.toInt - firstPtsUs.toInt).toNat / 1000 := by
  have order := Int64.le_iff_toInt_le.mp later
  have difference : (ptsUs - firstPtsUs).toInt = ptsUs.toInt - firstPtsUs.toInt := by
    rw [Int64.toInt_sub]
    unfold stampSpanUs at span
    apply Int.bmod_eq_of_le_mul_two <;> omega
  have notNegative : ¬ptsUs - firstPtsUs < 0 := by
    rw [Int64.lt_iff_toInt_lt, difference]
    simpa using order
  have small : (ptsUs.toInt - firstPtsUs.toInt).toNat / 1000 < 4294967296 := by
    unfold stampSpanUs at span
    omega
  simp only [relativeMs, if_neg notNegative, difference]
  simp [Nat.mod_eq_of_lt small]

theorem relativeMs_self (ptsUs : Int64) : (relativeMs ptsUs ptsUs).toNat = 0 := by
  simp [relativeMs]

theorem relativeMs_mono {firstPtsUs ptsUs later : Int64} (started : firstPtsUs ≤ ptsUs)
    (order : ptsUs ≤ later) (span : later.toInt - firstPtsUs.toInt < stampSpanUs) :
    (relativeMs firstPtsUs ptsUs).toNat ≤ (relativeMs firstPtsUs later).toNat := by
  have first := Int64.le_iff_toInt_le.mp started
  have second := Int64.le_iff_toInt_le.mp order
  rw [relativeMs_toNat started (by omega),
    relativeMs_toNat (Int64.le_iff_toInt_le.mpr (Int.le_trans first second)) span]
  apply Nat.div_le_div_right
  omega

namespace Muxer

def RtmpCall.ptsUs : RtmpCall → Option Int64
  | .send _ _ ptsUs => some ptsUs
  | .setAudioConfig _ _ => none
  | .sendAudio _ _ ptsUs => some ptsUs

/-- The time stamps of a run never go back and stay within the span. -/
structure SteadyPts (calls : List RtmpCall) : Prop where
  ordered : (calls.filterMap RtmpCall.ptsUs).Pairwise (· ≤ ·)
  span : ∀ first ∈ calls.filterMap RtmpCall.ptsUs, ∀ last ∈ calls.filterMap RtmpCall.ptsUs,
    last.toInt - first.toInt < stampSpanUs

def frames (wire : List TagWrite) : List TagWrite := wire.filter fun write => !write.isHeader

theorem mem_frames {wire : List TagWrite} {write : TagWrite} :
    write ∈ frames wire ↔ write ∈ wire ∧ write.isHeader = false := by
  simp [frames]

structure StampInvariant (muxer : Muxer) (later : List Int64) : Prop where
  headers : ∀ write ∈ muxer.wire, write.isHeader = true → write.timestamp = 0
  ordered : (frames muxer.wire).Pairwise fun first second => first.timestamp ≤ second.timestamp
  reached : ∀ ptsUs ∈ later, ∀ write ∈ frames muxer.wire,
    write.timestamp ≤ (muxer.nextTsMs ptsUs).toNat
  epoch : muxer.transport.firstPtsUs ≠ noPts → ∀ ptsUs ∈ later,
    muxer.transport.firstPtsUs ≤ ptsUs ∧
      ptsUs.toInt - muxer.transport.firstPtsUs.toInt < stampSpanUs

theorem nextTsMs_unset {muxer : Muxer} (unset : muxer.transport.firstPtsUs = noPts)
    (ptsUs : Int64) : (muxer.nextTsMs ptsUs).toNat = 0 := by
  rw [nextTsMs, if_pos unset]
  exact relativeMs_self ptsUs

theorem nextTsMs_le {muxer next : Muxer} {ptsUs later : Int64}
    (epoch : EpochFrom muxer next ptsUs)
    (within : muxer.transport.firstPtsUs ≠ noPts →
      muxer.transport.firstPtsUs ≤ ptsUs ∧
        later.toInt - muxer.transport.firstPtsUs.toInt < stampSpanUs)
    (order : ptsUs ≤ later) :
    (muxer.nextTsMs ptsUs).toNat ≤ (next.nextTsMs later).toNat := by
  by_cases unset : muxer.transport.firstPtsUs = noPts
  · rw [nextTsMs_unset unset]
    exact Nat.zero_le _
  · obtain ⟨started, span⟩ := within unset
    rcases epoch with kept | ⟨wasUnset, _⟩
    · rw [nextTsMs, nextTsMs, kept, if_neg unset, if_neg unset]
      exact relativeMs_mono started order span
    · exact absurd wasUnset unset

namespace StampInvariant

variable {muxer next : Muxer} {ptsUs : Int64} {later : List Int64}

theorem create (initialised : Bool) (allocations : List Bool) (writes : List Int32)
    (connections : List Bool) (later : List Int64) :
    StampInvariant (Muxer.create initialised allocations writes connections) later where
  headers := by simp [Muxer.create]
  ordered := by simp [Muxer.create, frames]
  reached := by simp [Muxer.create, frames]
  epoch := fun set => absurd rfl set

/-- A call that stamps its tags with its own time stamp or as headers. -/
theorem of_stamped (invariant : StampInvariant muxer (ptsUs :: later))
    (ordered : (ptsUs :: later).Pairwise (· ≤ ·))
    (span : ∀ last ∈ later, last.toInt - ptsUs.toInt < stampSpanUs)
    (epoch : EpochFrom muxer next ptsUs)
    (grows : Grows (TagWrite.Stamped (muxer.nextTsMs ptsUs)) muxer next) :
    StampInvariant next later := by
  obtain ⟨added, wire, stamped⟩ := grows
  rw [List.pairwise_cons] at ordered
  have stamp : ∀ write ∈ frames added, write.timestamp = (muxer.nextTsMs ptsUs).toNat := by
    intro write membership
    obtain ⟨here, notHeader⟩ := mem_frames.mp membership
    have read := stamped write here
    rwa [TagWrite.Stamped, notHeader] at read
  have split : frames next.wire = frames muxer.wire ++ frames added := by
    rw [wire, frames, List.filter_append]
    rfl
  have soFar : ∀ write ∈ frames next.wire,
      write.timestamp ≤ (muxer.nextTsMs ptsUs).toNat := by
    intro write membership
    rw [split] at membership
    rcases List.mem_append.mp membership with before | here
    · exact invariant.reached ptsUs List.mem_cons_self write before
    · exact (stamp write here).le
  constructor
  · intro write membership header
    rw [wire] at membership
    rcases List.mem_append.mp membership with before | here
    · exact invariant.headers write before header
    · have read := stamped write here
      rwa [TagWrite.Stamped, header] at read
  · rw [split, List.pairwise_append]
    refine ⟨invariant.ordered, ?_, ?_⟩
    · apply List.pairwise_of_forall_mem_list
      intro first here second there
      rw [stamp first here, stamp second there]
    · intro first before second here
      rw [stamp second here]
      exact invariant.reached ptsUs List.mem_cons_self first before
  · intro last membership write present
    refine (soFar write present).trans (nextTsMs_le epoch ?_ (ordered.1 last membership))
    intro set
    exact ⟨(invariant.epoch set ptsUs List.mem_cons_self).1,
      (invariant.epoch set last (List.mem_cons_of_mem _ membership)).2⟩
  · intro set last membership
    rcases epoch with kept | ⟨_, first⟩
    · rw [kept] at set ⊢
      exact invariant.epoch set last (List.mem_cons_of_mem _ membership)
    · rw [first]
      exact ⟨ordered.1 last membership, span last membership⟩

theorem of_videoCall (invariant : StampInvariant muxer (ptsUs :: later))
    (ordered : (ptsUs :: later).Pairwise (· ≤ ·))
    (span : ∀ last ∈ later, last.toInt - ptsUs.toInt < stampSpanUs)
    (call : VideoCall muxer next ptsUs) : StampInvariant next later :=
  invariant.of_stamped ordered span call.epoch (call.grows.imp fun _ stamped => stamped.2)

theorem of_audioCall (invariant : StampInvariant muxer (ptsUs :: later))
    (ordered : (ptsUs :: later).Pairwise (· ≤ ·))
    (span : ∀ last ∈ later, last.toInt - ptsUs.toInt < stampSpanUs)
    (call : AudioCall muxer next ptsUs) : StampInvariant next later := by
  obtain ⟨passed, middle, header, rest⟩ := call
  have stamps : middle.nextTsMs ptsUs = muxer.nextTsMs ptsUs := by
    rw [nextTsMs, nextTsMs, header.firstPtsUs]
  have headerGrows : Grows (TagWrite.Stamped (muxer.nextTsMs ptsUs)) muxer middle := by
    rcases header.wire with ⟨wire, _, _⟩ | ⟨asc, write, _, wire, made, _, _⟩
    · exact .of_same wire
    · refine .of_one wire ?_
      have isHeader : write.isHeader = true := by
        simp [TagWrite.isHeader, TagWrite.isAudioHeader, made.tagType, made.body]
      rw [TagWrite.Stamped, isHeader]
      exact made.timestamp
  rcases rest with rfl | ⟨_, aac, raw⟩
  · exact invariant.of_stamped ordered span (.inl header.firstPtsUs) headerGrows
  · have epoch : EpochFrom muxer next ptsUs := by
      rw [EpochFrom, ← header.firstPtsUs]
      exact raw.epoch
    refine invariant.of_stamped ordered span epoch (headerGrows.trans ?_)
    rcases raw.wire with wire | ⟨write, wire, made⟩
    · exact .of_same wire
    · refine .of_one wire ?_
      have notHeader : write.isHeader = false := by
        simp [TagWrite.isHeader, TagWrite.isVideoHeader, TagWrite.isAudioHeader, made.tagType,
          made.body, flvVideoTag, flvAudioTag]
      rw [TagWrite.Stamped, notHeader, ← stamps]
      exact made.timestamp

theorem of_setAudioConfig (invariant : StampInvariant muxer later) (asc : Option (List UInt8))
    (ascLen : Nat) : StampInvariant (muxer.rjRtmpSetAudioConfig asc ascLen).2 later := by
  unfold rjRtmpSetAudioConfig
  repeat' split
  all_goals exact ⟨invariant.headers, invariant.ordered, invariant.reached, invariant.epoch⟩

end StampInvariant

/-! ## Runs -/

theorem SteadyPts.tail {call : RtmpCall} {calls : List RtmpCall}
    (steady : SteadyPts (call :: calls)) : SteadyPts calls := by
  have sublist : List.Sublist (calls.filterMap RtmpCall.ptsUs)
      ((call :: calls).filterMap RtmpCall.ptsUs) := (List.sublist_cons_self call calls).filterMap _
  exact ⟨steady.ordered.sublist sublist, fun first here last there =>
    steady.span first (sublist.subset here) last (sublist.subset there)⟩

theorem exec_stampInvariant {muxer last : Muxer} {calls : List RtmpCall}
    (invariant : StampInvariant muxer (calls.filterMap RtmpCall.ptsUs))
    (steady : SteadyPts calls) (executed : Lib.Machine.exec step muxer calls = some last) :
    StampInvariant last [] := by
  induction calls generalizing muxer with
  | nil =>
      cases executed
      exact invariant
  | cons call rest inductionHypothesis =>
      obtain ⟨next, stepped, continued⟩ := Lib.Machine.exec_cons_eq_some executed
      refine inductionHypothesis ?_ steady.tail continued
      obtain ⟨ordered, span⟩ := steady
      cases call with
      | send data size ptsUs =>
          cases stepped
          exact invariant.of_videoCall ordered
            (fun later membership => span ptsUs List.mem_cons_self later
              (List.mem_cons_of_mem _ membership))
            (muxer.rjRtmpSend_videoCall data size ptsUs)
      | setAudioConfig asc ascLen =>
          cases stepped
          exact invariant.of_setAudioConfig asc ascLen
      | sendAudio aac aacLen ptsUs =>
          cases stepped
          exact invariant.of_audioCall ordered
            (fun later membership => span ptsUs List.mem_cons_self later
              (List.mem_cons_of_mem _ membership))
            (muxer.rjRtmpSendAudio_audioCall aac aacLen ptsUs)

/-- Whatever fails and however often the headers are renewed: every sequence header
has time stamp zero, and the stamps of the other tags whose write succeeded never go
back, as long as the time stamps of the calls do not and stay within the span. -/
theorem frame_stamps_never_go_back (initialised : Bool) (allocations : List Bool)
    (writes : List Int32) (connections : List Bool) (calls : List RtmpCall) (muxer : Muxer)
    (steady : SteadyPts calls)
    (executed : Lib.Machine.exec step (create initialised allocations writes connections) calls =
      some muxer) :
    (∀ write ∈ muxer.wire, write.isHeader = true → write.timestamp = 0) ∧
      (muxer.wire.filter fun write => !write.isHeader && write.succeeded).Pairwise
        fun first second => first.timestamp ≤ second.timestamp := by
  have invariant := exec_stampInvariant (.create initialised allocations writes connections _)
    steady executed
  refine ⟨invariant.headers, invariant.ordered.sublist ?_⟩
  rw [frames]
  apply List.monotone_filter_right
  intro write both
  rw [Bool.and_eq_true] at both
  exact both.1

def audioFirstCalls : List RtmpCall :=
  [.setAudioConfig (some [0x12, 0x10]) 2, .sendAudio (some [7]) 1 (-20000),
    .send (some [0, 0, 1, 0x67, 66, 0, 30, 0, 0, 1, 0x68, 9, 0, 0, 1, 0x65, 7]) 17 0,
    .send (some [0, 0, 1, 0x65, 7]) 5 40000]

theorem frame_stamps_never_go_back_audioFirst :
    ∃ muxer, Lib.Machine.exec step (create true [] [1, 1, -1] []) audioFirstCalls = some muxer ∧
      muxer.wire.map (fun write => (write.isHeader, write.succeeded, write.timestamp)) =
        [(true, true, 0), (false, true, 0), (true, false, 0), (true, true, 0),
          (false, true, 60)] ∧
      (muxer.wire.filter fun write => !write.isHeader && write.succeeded).Pairwise
        fun first second => first.timestamp ≤ second.timestamp := by
  have steady : SteadyPts audioFirstCalls := by
    refine ⟨by decide, ?_⟩
    intro first isFirst last isLast
    simp only [audioFirstCalls, RtmpCall.ptsUs, List.filterMap_cons, List.filterMap_nil,
      List.mem_cons, List.not_mem_nil, or_false] at isFirst isLast
    rcases isFirst with rfl | rfl | rfl <;> rcases isLast with rfl | rfl | rfl <;> decide
  refine ⟨_, rfl, by decide, ?_⟩
  exact (frame_stamps_never_go_back true [] [1, 1, -1] [] audioFirstCalls _ steady rfl).2

def renewedSetsCalls : List RtmpCall :=
  [.send (some [0, 0, 1, 0x67, 66, 0, 30, 0, 0, 1, 0x68, 9, 0, 0, 1, 0x65, 7]) 17 0,
    .send (some [0, 0, 1, 0x41, 7]) 5 40000,
    .send (some [0, 0, 1, 0x67, 77, 0, 30, 0, 0, 1, 0x65, 7]) 12 80000]

/-- The header of the new sets is stamped zero, behind a frame stamped 40. -/
theorem renewed_header_goes_back :
    SteadyPts renewedSetsCalls ∧
      ∃ muxer, Lib.Machine.exec step (create true [] [] []) renewedSetsCalls = some muxer ∧
        (muxer.wire.filter TagWrite.succeeded).map TagWrite.timestamp = [0, 0, 40, 0, 80] ∧
        ¬(muxer.wire.filter TagWrite.succeeded).Pairwise
          fun first second => first.timestamp ≤ second.timestamp := by
  refine ⟨⟨by decide, ?_⟩, _, rfl, by decide, by decide⟩
  intro first isFirst last isLast
  simp only [renewedSetsCalls, RtmpCall.ptsUs, List.filterMap_cons, List.filterMap_nil,
    List.mem_cons, List.not_mem_nil, or_false] at isFirst isLast
  rcases isFirst with rfl | rfl | rfl <;> rcases isLast with rfl | rfl | rfl <;> decide

end Muxer

end RejiStudio.Rtmp
