import RejiStudio.Pipeline.MetricsCollector

/-!
# The drop percentage

The frame thread records a frame, sends its packet and, when the send fails, records a drop.
Polls come in between.  A poll between a frame and its drop counts them in different
intervals, and the frame leaves the window one poll before its drop.
-/

namespace RejiStudio.Pipeline

open RejiStudio.Lib

/-- Where the frame thread stands in `on_packet`. -/
inductive PacketPhase
  | idle
  | recorded
  | failed
  deriving DecidableEq

inductive PacketEvent
  | recordFrame
  | send (sent : Bool)
  | recordFrameDrop
  | poll (now : Int64)
  deriving DecidableEq

/-- What a poll finds: the counts, the sends that succeeded, and whether the last frame still
waits for its send or for its drop. -/
structure PollMark where
  recorded : Recorded
  sent : Nat
  waiting : Bool
  deriving DecidableEq

/-- The two threads.  The sends that succeeded and the marks, from poll 0 on, are history. -/
structure PacketRun where
  collecting : Collecting
  phase : PacketPhase
  sent : Nat
  marks : List PollMark
  deriving DecidableEq

namespace PacketRun

def start (now : Int64) : PacketRun := ⟨.start now, .idle, 0, [⟨⟨0, 0⟩, 0, false⟩]⟩

def mark (run : PacketRun) : PollMark :=
  ⟨run.collecting.recorded, run.sent, run.phase ≠ .idle⟩

def step : Machine PacketRun PacketEvent
  | run, .recordFrame =>
      if run.phase = .idle then
        (Collecting.step run.collecting .recordFrame).map fun collecting =>
          { run with collecting, phase := .recorded }
      else none
  | run, .send sent =>
      if run.phase = .recorded then
        some (if sent then { run with phase := .idle, sent := run.sent + 1 }
          else { run with phase := .failed })
      else none
  | run, .recordFrameDrop =>
      if run.phase = .failed then
        (Collecting.step run.collecting .recordFrameDrop).map fun collecting =>
          { run with collecting, phase := .idle }
      else none
  | run, .poll now =>
      (Collecting.step run.collecting (.poll now)).map fun collecting =>
        { run with
          collecting
          marks :=
            if run.collecting.collector.throttled now then run.marks
            else run.marks ++ [run.mark] }

def opening (run : PacketRun) : PollMark :=
  run.marks.getD (run.collecting.polls + 1 - 30) ⟨⟨0, 0⟩, 0, false⟩

def framesSince (run : PacketRun) : Nat :=
  run.collecting.recorded.frames - run.opening.recorded.frames

/-- The window opened between a frame and its drop, and every frame since then is dropped: a
few frames, and one drop more. -/
def Straddled (run : PacketRun) : Prop :=
  run.opening.waiting = true ∧ run.phase = .idle ∧ run.sent = run.opening.sent ∧
    1 ≤ run.framesSince ∧ run.framesSince ≤ 100

def Percentage : PacketRun → PacketEvent → Prop
  | run, .poll now => run.collecting.collector.throttled now = false →
      (run.collecting.collector.poll now).metrics.frameDropPct ≤ 100
  | _, _ => True

def Aligned : PacketRun → PacketEvent → Prop
  | run, .poll now => run.collecting.collector.throttled now = false → ¬run.Straddled
  | _, _ => True

def Fits : PacketRun → PacketEvent → Prop
  | run, .poll now => run.collecting.collector.throttled now = false → run.framesSince < 2 ^ 32
  | _, _ => True

instance (run : PacketRun) : Decidable run.Straddled :=
  inferInstanceAs (Decidable (_ ∧ _))

instance : ∀ run action, Decidable (Percentage run action)
  | _, .poll _ => inferInstanceAs (Decidable (_ → _))
  | _, .recordFrame | _, .send _ | _, .recordFrameDrop => inferInstanceAs (Decidable True)

instance : ∀ run action, Decidable (Aligned run action)
  | _, .poll _ => inferInstanceAs (Decidable (_ → _))
  | _, .recordFrame | _, .send _ | _, .recordFrameDrop => inferInstanceAs (Decidable True)

instance : ∀ run action, Decidable (Fits run action)
  | _, .poll _ => inferInstanceAs (Decidable (_ → _))
  | _, .recordFrame | _, .send _ | _, .recordFrameDrop => inferInstanceAs (Decidable True)

end PacketRun

/-- A frame that does not wait was dropped or sent. -/
def PollMark.Balanced (mark : PollMark) : Prop :=
  mark.recorded.frames = mark.recorded.drops + mark.sent + mark.waiting.toNat

/-- With at most one drop more than frames, the percentage exceeds 100 only if there is one
more and the frames are few. -/
theorem percentage_le_iff {frames drops sent earlier now : Nat} (fits : frames < 2 ^ 32)
    (one : earlier ≤ 1) (balance : drops + sent + now = frames + earlier) :
    (if 0 < UInt32.ofNat frames then UInt32.ofNat drops * 100 / UInt32.ofNat frames else 0) ≤
        (100 : UInt32) ↔
      ¬(earlier = 1 ∧ now = 0 ∧ sent = 0 ∧ 1 ≤ frames ∧ frames ≤ 100) := by
  have counted : (UInt32.ofNat frames).toNat = frames := UInt32.toNat_ofNat_of_lt' fits
  by_cases none : frames = 0
  · have empty : ¬0 < UInt32.ofNat frames := by
      rw [none]
      decide
    rw [if_neg empty, none]
    have holds : (0 : UInt32) ≤ 100 := by decide
    exact iff_of_true holds (by omega)
  · have some : 0 < UInt32.ofNat frames := by
      rw [UInt32.lt_iff_toNat_lt, counted]
      exact Nat.pos_of_ne_zero none
    have product : (UInt32.ofNat drops * 100).toNat = drops % 2 ^ 32 * 100 % 2 ^ 32 := by
      rw [UInt32.toNat_mul, UInt32.toNat_ofNat']
      rfl
    rw [if_pos some, UInt32.le_iff_toNat_le, UInt32.toNat_div, counted, product]
    change drops % 2 ^ 32 * 100 % 2 ^ 32 / frames ≤ 100 ↔ _
    rw [← Nat.lt_succ_iff, Nat.div_lt_iff_lt_mul (Nat.pos_of_ne_zero none)]
    constructor
    · rintro below ⟨was, now, unsent, _, few⟩
      have more : drops = frames + 1 := by omega
      have small : (frames + 1) % 2 ^ 32 = frames + 1 := Nat.mod_eq_of_lt (by omega)
      rw [more, small, Nat.mod_eq_of_lt (by omega)] at below
      omega
    · -- a wrap of the product only makes it smaller
      intro apart
      have lower : drops % 2 ^ 32 * 100 % 2 ^ 32 ≤ drops * 100 :=
        (Nat.mod_le _ _).trans (Nat.mul_le_mul_right 100 (Nat.mod_le _ _))
      change _ < 101 * frames
      omega

namespace PacketRun

/-- The marks are the polls of the collector, and each of them is balanced. -/
structure Balanced (clock : Int64) (run : PacketRun) : Prop where
  tracks : Collecting.Tracks clock run.collecting
  polled : run.collecting.polled = run.marks.map PollMark.recorded
  balanced : ∀ mark ∈ run.marks, mark.Balanced ∧ mark.sent ≤ run.sent
  now : run.mark.Balanced

theorem start_balanced (clock : Int64) : Balanced clock (start clock) where
  tracks := Collecting.start_tracks clock
  polled := rfl
  balanced := by
    intro mark member
    cases List.mem_singleton.mp member
    exact ⟨rfl, Nat.le_refl 0⟩
  now := rfl

theorem mark_balanced_iff {run : PacketRun} :
    run.mark.Balanced ↔
      run.collecting.recorded.frames = run.collecting.recorded.drops + run.sent +
        (if run.phase = .idle then 0 else 1) := by
  cases phase : run.phase <;> simp [PollMark.Balanced, mark, phase]

theorem step_balanced {clock : Int64} {run next : PacketRun} {action : PacketEvent}
    (balanced : Balanced clock run) (stepped : step run action = some next) :
    Balanced clock next := by
  have now := mark_balanced_iff.mp balanced.now
  cases action with
  | recordFrame =>
      obtain ⟨idle, stepped⟩ := Option.ite_none_right_eq_some.mp stepped
      obtain ⟨collecting, recorded, same⟩ := Option.map_eq_some_iff.mp stepped
      have tracks := Collecting.step_tracks balanced.tracks recorded
      cases same
      cases recorded
      refine ⟨tracks, balanced.polled, balanced.balanced, mark_balanced_iff.mpr ?_⟩
      rw [idle, if_pos rfl] at now
      dsimp only
      rw [if_neg nofun]
      omega
  | send sent =>
      obtain ⟨sending, same⟩ := Option.ite_none_right_eq_some.mp stepped
      rw [sending, if_neg nofun] at now
      cases same
      cases sent with
      | true =>
          refine ⟨balanced.tracks, balanced.polled, ?_, mark_balanced_iff.mpr ?_⟩
          · intro mark member
            obtain ⟨even, before⟩ := balanced.balanced mark member
            exact ⟨even, Nat.le_succ_of_le before⟩
          · simp only [if_true]
            omega
      | false =>
          exact ⟨balanced.tracks, balanced.polled, balanced.balanced, mark_balanced_iff.mpr now⟩
  | recordFrameDrop =>
      obtain ⟨failed, stepped⟩ := Option.ite_none_right_eq_some.mp stepped
      obtain ⟨collecting, recorded, same⟩ := Option.map_eq_some_iff.mp stepped
      have tracks := Collecting.step_tracks balanced.tracks recorded
      cases same
      cases recorded
      refine ⟨tracks, balanced.polled, balanced.balanced, mark_balanced_iff.mpr ?_⟩
      rw [failed, if_neg nofun] at now
      dsimp only
      rw [if_pos rfl]
      omega
  | poll time =>
      obtain ⟨collecting, polled, same⟩ := Option.map_eq_some_iff.mp stepped
      have tracks := Collecting.step_tracks balanced.tracks polled
      obtain ⟨-, moved⟩ := Option.ite_none_right_eq_some.mp polled
      cases same
      cases moved
      refine ⟨tracks, ?_, ?_, balanced.now⟩
      · dsimp only
        split
        next returned => exact balanced.polled
        next effective =>
          rw [List.map_append, balanced.polled]
          rfl
      · intro mark member
        dsimp only at member
        split at member
        next returned => exact balanced.balanced mark member
        next effective =>
          obtain earlier | newest := List.mem_append.mp member
          · exact balanced.balanced mark earlier
          · cases List.mem_singleton.mp newest
            exact ⟨balanced.now, Nat.le_refl _⟩

theorem recorded_opening {clock : Int64} {run : PacketRun} (balanced : Balanced clock run) :
    run.collecting.atPoll (run.collecting.polls + 1 - 30) = run.opening.recorded ∧
      run.opening ∈ run.marks := by
  have marked := balanced.tracks.polls_add_one
  rw [balanced.polled, List.length_map] at marked
  have below : run.collecting.polls + 1 - 30 < run.marks.length := by omega
  rw [Collecting.atPoll, balanced.polled, opening, List.getD_eq_getElem?_getD,
    List.getD_eq_getElem?_getD, List.getElem?_map, List.getElem?_eq_getElem below]
  exact ⟨rfl, List.getElem_mem below⟩

/-- What the next poll publishes, from what was recorded since the window opened. -/
theorem published_eq {clock now : Int64} {run : PacketRun} (balanced : Balanced clock run)
    (steady : run.collecting.collector.lastPollTime ≤ now)
    (effective : run.collecting.collector.throttled now = false) :
    (run.collecting.collector.poll now).metrics.frameDropPct =
      if 0 < UInt32.ofNat run.framesSince then
        UInt32.ofNat (run.collecting.recorded.drops - run.opening.recorded.drops) * 100 /
          UInt32.ofNat run.framesSince
      else 0 := by
  have tracks := Collecting.poll_tracks balanced.tracks steady effective
  obtain ⟨opened, -⟩ := recorded_opening balanced
  have frames := tracks.ringSum_eq tracks.frames
  have drops := tracks.ringSum_eq tracks.drops
  rw [Collecting.polls_push balanced.tracks, Collecting.atPoll_push_last balanced.tracks,
    Collecting.atPoll_push_earlier balanced.tracks (by omega), opened] at frames drops
  rw [framesSince, ← frames, ← drops]
  exact tracks.published

/-- A poll publishes a percentage exactly if the window is not straddled. -/
theorem aligned_iff_percentage {clock : Int64} {run next : PacketRun} {action : PacketEvent}
    (balanced : Balanced clock run) (fits : Fits run action)
    (stepped : step run action = some next) : Aligned run action ↔ Percentage run action := by
  cases action with
  | poll now =>
      obtain ⟨collecting, polled, -⟩ := Option.map_eq_some_iff.mp stepped
      obtain ⟨steady, -⟩ := Option.ite_none_right_eq_some.mp polled
      refine forall_congr' ?_
      intro effective
      have few := fits effective
      obtain ⟨-, member⟩ := recorded_opening balanced
      obtain ⟨even, before⟩ := balanced.balanced run.opening member
      have among : run.opening.recorded ∈ run.collecting.polled := by
        rw [balanced.polled]
        exact List.mem_map_of_mem member
      have frames := balanced.tracks.frames.mark_le (List.mem_map_of_mem among)
      have drops := balanced.tracks.drops.mark_le (List.mem_map_of_mem among)
      have current := mark_balanced_iff.mp balanced.now
      rw [PollMark.Balanced] at even
      have since : run.collecting.recorded.drops - run.opening.recorded.drops +
          (run.sent - run.opening.sent) + (if run.phase = .idle then 0 else 1) =
            run.framesSince + run.opening.waiting.toNat := by
        rw [framesSince]
        omega
      have unsent : run.sent = run.opening.sent ↔ run.sent - run.opening.sent = 0 := by omega
      have idle : run.phase = .idle ↔ (if run.phase = .idle then 0 else 1) = 0 := by
        split <;> simp_all
      rw [published_eq balanced steady effective,
        percentage_le_iff few (Bool.toNat_le run.opening.waiting) since, Straddled,
        Bool.toNat_eq_one, ← unsent, ← idle]
  | recordFrame => exact Iff.rfl
  | send sent => exact Iff.rfl
  | recordFrameDrop => exact Iff.rfl

/-- In a run whose windows are not straddled, and do not hold 2 ^ 32 frames, every poll
publishes a percentage; where they do not hold 2 ^ 32 frames, in no other. -/
theorem percentages_iff_aligned (clock : Int64) (actions : List PacketEvent)
    (finish : PacketRun) (executed : Machine.exec step (start clock) actions = some finish) :
    (Machine.Along step (fun run action => Fits run action ∧ Aligned run action) (start clock)
        actions →
      Machine.Along step Percentage (start clock) actions) ∧
    (Machine.Along step Fits (start clock) actions →
      (Machine.Along step Percentage (start clock) actions ↔
        Machine.Along step Aligned (start clock) actions)) := by
  have same : Machine.Along step Fits (start clock) actions →
      (Machine.Along step Percentage (start clock) actions ↔
        Machine.Along step Aligned (start clock) actions) := by
    apply Machine.along_congr_along _ _ (start_balanced clock) executed
    · intro run action next balanced _ stepped
      exact step_balanced balanced stepped
    · intro run action next balanced fits stepped
      exact (aligned_iff_percentage balanced fits stepped).symm
  refine ⟨?_, same⟩
  intro along
  obtain ⟨fits, aligned⟩ := Machine.along_and.mp along
  exact (same fits).mpr aligned

/-- A send that blocks across the first poll and fails, another one that fails, and a poll
each second. -/
def blockedRun : List PacketEvent :=
  [.recordFrame, .poll 1000000000, .send false, .recordFrameDrop, .recordFrame, .send false,
    .recordFrameDrop] ++
    (List.range 30).map fun index => .poll (Int64.ofNat ((index + 2) * 1000000000))

def unblockedRun : List PacketEvent :=
  [.recordFrame, .send false, .recordFrameDrop, .poll 1000000000, .recordFrame, .send false,
    .recordFrameDrop] ++
    (List.range 30).map fun index => .poll (Int64.ofNat ((index + 2) * 1000000000))

theorem percentages_unblocked :
    ∃ finish, Machine.exec step (start 0) unblockedRun = some finish ∧
      finish.collecting.collector.metrics.frameDropPct = 100 ∧
      Machine.Along step Percentage (start 0) unblockedRun := by
  have evaluated : (Machine.exec step (start 0) unblockedRun).map (fun finish =>
      finish.collecting.collector.metrics.frameDropPct) = some 100 := by
    decide +kernel
  obtain ⟨finish, executed, pct⟩ := Option.map_eq_some_iff.mp evaluated
  refine ⟨finish, executed, pct, ?_⟩
  exact (percentages_iff_aligned 0 unblockedRun finish executed).1 (by decide +kernel)

/-- The thirty-first poll counts one frame and two drops. -/
theorem two_hundred_percent :
    (Machine.exec step (start 0) blockedRun).map (fun finish =>
        (finish.collecting.collector.windowFrames, finish.collecting.collector.windowDrops,
          finish.collecting.collector.metrics.frameDropPct)) = some (1, 2, 200) ∧
      ¬Machine.Along step Percentage (start 0) blockedRun := by
  decide +kernel

end PacketRun

end RejiStudio.Pipeline
