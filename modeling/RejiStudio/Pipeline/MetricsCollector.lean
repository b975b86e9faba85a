import Mathlib.Data.List.DropRight
import Mathlib.Data.UInt
import RejiStudio.Lib.LastEntries
import RejiStudio.Lib.Machine

/-!
# The metrics collector

The frame thread counts frames and drops, a poll thread turns the counts into a percentage
once a second.  A poll writes what was counted since the last one to a ring of thirty slots
and adds up the ring.  All counters are unsigned words, which wrap.
-/

namespace RejiStudio.Pipeline

open RejiStudio.Lib

/-- The fields of `Metrics` that depend on the counters, and the time stamp. -/
structure Metrics where
  frameDropPct : UInt32
  totalFrames : UInt32
  droppedFrames : UInt32
  timestamp : Int64
  deriving DecidableEq

structure MetricsCollector where
  metrics : Metrics
  dropRing : Vector UInt32 30
  frameRing : Vector UInt32 30
  ringHead : UInt64
  ringCount : UInt64
  totalFrames : UInt32
  totalDrops : UInt32
  prevTotalFrames : UInt32
  prevTotalDrops : UInt32
  lastPollTime : Int64
  deriving DecidableEq

namespace MetricsCollector

def window : UInt64 := 30

def pollInterval : Int64 := 1000000000

def create (now : Int64) : MetricsCollector where
  metrics := ⟨0, 0, 0, now⟩
  dropRing := Vector.replicate 30 0
  frameRing := Vector.replicate 30 0
  ringHead := 0
  ringCount := 0
  totalFrames := 0
  totalDrops := 0
  prevTotalFrames := 0
  prevTotalDrops := 0
  lastPollTime := now

def recordFrameDrop (collector : MetricsCollector) : MetricsCollector :=
  { collector with totalDrops := collector.totalDrops + 1 }

def recordFrame (collector : MetricsCollector) : MetricsCollector :=
  { collector with totalFrames := collector.totalFrames + 1 }

def ringSum (ring : Vector UInt32 30) (count : UInt64) : UInt32 :=
  (ring.toList.take count.toNat).foldl (· + ·) 0

/-- `total_frames`, the frames of the window. -/
def windowFrames (collector : MetricsCollector) : UInt32 :=
  ringSum collector.frameRing collector.ringCount

/-- `total_drops`, the drops of the window. -/
def windowDrops (collector : MetricsCollector) : UInt32 :=
  ringSum collector.dropRing collector.ringCount

/-- The deltas since the last poll enter the rings. -/
def pushDeltas (collector : MetricsCollector) : MetricsCollector :=
  let slot := (collector.ringHead % window).toNat
  { collector with
    prevTotalDrops := collector.totalDrops
    prevTotalFrames := collector.totalFrames
    dropRing := collector.dropRing.setIfInBounds slot
      (collector.totalDrops - collector.prevTotalDrops)
    frameRing := collector.frameRing.setIfInBounds slot
      (collector.totalFrames - collector.prevTotalFrames)
    ringHead := collector.ringHead + 1
    ringCount := min (collector.ringCount + 1) window }

def calculateFrameDropPct (collector : MetricsCollector) : MetricsCollector :=
  let pushed := collector.pushDeltas
  { pushed with
    metrics := { collector.metrics with
      frameDropPct :=
        if 0 < pushed.windowFrames then pushed.windowDrops * 100 / pushed.windowFrames else 0
      totalFrames := collector.totalFrames
      droppedFrames := collector.totalDrops } }

def throttled (collector : MetricsCollector) (now : Int64) : Bool :=
  now - collector.lastPollTime < pollInterval

def poll (collector : MetricsCollector) (now : Int64) : MetricsCollector :=
  if collector.throttled now then collector
  else
    let calculated := collector.calculateFrameDropPct
    { calculated with
      metrics := { calculated.metrics with timestamp := now }
      lastPollTime := now }

end MetricsCollector

/-! ## A counter and its ring -/

/-- A counter counts modulo 2 ^ 32, and its ring keeps what it gained between polls.  The
marks are the counts at the polls, from the start on. -/
structure CounterFollows (ring : Vector UInt32 30) (total prev : UInt32) (count : Nat)
    (marks : List Nat) : Prop where
  total : total = UInt32.ofNat count
  prev : ∃ last, marks.getLast? = some last ∧ prev = UInt32.ofNat last
  ring : KeepsLast 30 ring.toList (gains (marks.map UInt32.ofNat))
  growing : (marks ++ [count]).Pairwise (· ≤ ·)

namespace CounterFollows

variable {ring : Vector UInt32 30} {total prev : UInt32} {count : Nat} {marks : List Nat}

theorem start : CounterFollows (Vector.replicate 30 0) 0 0 0 [0] where
  total := rfl
  prev := ⟨0, rfl, rfl⟩
  ring := .nil Vector.length_toList
  growing := by decide

theorem record (follows : CounterFollows ring total prev count marks) :
    CounterFollows ring (total + 1) prev (count + 1) marks where
  total := by rw [follows.total, UInt32.ofNat_add]; rfl
  prev := follows.prev
  ring := follows.ring
  growing := by
    obtain ⟨ordered, -, below⟩ := List.pairwise_append.mp follows.growing
    refine List.pairwise_append.mpr ⟨ordered, List.pairwise_singleton _ _, ?_⟩
    intro mark member next isNext
    have earlier := below mark member count List.mem_cons_self
    rw [List.mem_singleton.mp isNext]
    omega

theorem ne_nil (follows : CounterFollows ring total prev count marks) : marks ≠ [] := by
  obtain ⟨last, ended, -⟩ := follows.prev
  rintro rfl
  cases ended

theorem length_gains (follows : CounterFollows ring total prev count marks) :
    (gains (marks.map UInt32.ofNat)).length + 1 = marks.length := by
  rw [length_gains_add_one (by simpa using follows.ne_nil), List.length_map]

theorem push (follows : CounterFollows ring total prev count marks) {slot : Nat}
    (next : slot = (marks.length - 1) % 30) :
    CounterFollows (ring.setIfInBounds slot (total - prev)) total total count
      (marks ++ [count]) where
  total := follows.total
  prev := ⟨count, List.getLast?_concat, follows.total⟩
  ring := by
    obtain ⟨last, ended, prevMark⟩ := follows.prev
    have ended' : (marks.map UInt32.ofNat).getLast? = some (UInt32.ofNat last) := by
      rw [List.getLast?_map, ended]
      rfl
    have entries := follows.length_gains
    have pushed := follows.ring.push (by decide) (total - prev)
    rw [List.map_append, List.map_singleton, gains_concat ended', Vector.toList_setIfInBounds,
      next, ← follows.total, ← prevMark, ← entries]
    exact pushed
  growing := by
    rw [List.pairwise_append]
    refine ⟨follows.growing, List.pairwise_singleton _ _, ?_⟩
    intro mark member next isNext
    rw [List.mem_singleton.mp isNext]
    obtain ⟨-, -, below⟩ := List.pairwise_append.mp follows.growing
    obtain earlier | same := List.mem_append.mp member
    · exact below mark earlier count List.mem_cons_self
    · exact Nat.le_of_eq (List.mem_singleton.mp same)

theorem le_last (follows : CounterFollows ring total prev count marks) {mark last : Nat}
    (member : mark ∈ marks) (ended : marks.getLast? = some last) : mark ≤ last := by
  obtain ⟨ordered, -, -⟩ := List.pairwise_append.mp follows.growing
  obtain ⟨earlier, rfl⟩ := List.getLast?_eq_some_iff.mp ended
  obtain ⟨-, -, below⟩ := List.pairwise_append.mp ordered
  obtain before | same := List.mem_append.mp member
  · exact below mark before last List.mem_cons_self
  · exact Nat.le_of_eq (List.mem_singleton.mp same)

theorem mark_le (follows : CounterFollows ring total prev count marks) {mark : Nat}
    (member : mark ∈ marks) : mark ≤ count := by
  obtain ⟨-, -, below⟩ := List.pairwise_append.mp follows.growing
  exact below mark member count List.mem_cons_self

theorem perm (follows : CounterFollows ring total prev count marks) {used : UInt64}
    (slots : used.toNat = min (marks.length - 1) 30) :
    (ring.toList.take used.toNat).Perm
      ((gains (marks.map UInt32.ofNat)).drop (marks.length - 1 - 30)) := by
  have entries := follows.length_gains
  have kept := follows.ring.perm
  rwa [slots, ← entries]

theorem ringSum_eq (follows : CounterFollows ring total prev count marks) {used : UInt64}
    (slots : used.toNat = min (marks.length - 1) 30) {opening last : Nat}
    (opened : marks[marks.length - 1 - 30]? = some opening)
    (ended : marks.getLast? = some last) :
    MetricsCollector.ringSum ring used = UInt32.ofNat (last - opening) := by
  have opened' : (marks.map UInt32.ofNat)[marks.length - 1 - 30]? =
      some (UInt32.ofNat opening) := by
    rw [List.getElem?_map, opened]
    rfl
  have ended' : (marks.map UInt32.ofNat).getLast? = some (UInt32.ofNat last) := by
    rw [List.getLast?_map, ended]
    rfl
  have ordered : opening ≤ last := follows.le_last (List.mem_of_getElem? opened) ended
  calc MetricsCollector.ringSum ring used
      = (ring.toList.take used.toNat).sum := List.sum_eq_foldl.symm
    _ = ((gains (marks.map UInt32.ofNat)).drop (marks.length - 1 - 30)).sum :=
        (follows.perm slots).sum_eq
    _ = UInt32.ofNat last - UInt32.ofNat opening := sum_drop_gains opened' ended'
    _ = UInt32.ofNat (last - opening) := (UInt32.ofNat_sub ordered).symm

/-- A ring of a counter that does not wrap holds the gains as numbers. -/
theorem perm_gains (follows : CounterFollows ring total prev count marks) {used : UInt64}
    (slots : used.toNat = min (marks.length - 1) 30) (fits : count < 2 ^ 32) :
    ((ring.toList.take used.toNat).map UInt32.toNat).Perm
      ((gains marks).drop (marks.length - 1 - 30)) := by
  obtain ⟨ordered, -, -⟩ := List.pairwise_append.mp follows.growing
  have counted : gains (marks.map UInt32.ofNat) = (gains marks).map UInt32.ofNat :=
    gains_map (fun _ _ => UInt32.ofNat_sub) ordered
  have kept := (follows.perm slots).map UInt32.toNat
  rw [counted, ← List.map_drop, List.map_map] at kept
  have same : ((gains marks).drop (marks.length - 1 - 30)).map (UInt32.toNat ∘ UInt32.ofNat) =
      (gains marks).drop (marks.length - 1 - 30) := by
    refine (List.map_congr_left ?_).trans (List.map_id _)
    intro gain member
    have bounded : gain ≤ count :=
      le_of_mem_gains (fun _ => follows.mark_le) (List.mem_of_mem_drop member)
    exact UInt32.toNat_ofNat_of_lt' (by change gain < 2 ^ 32; omega)
  rwa [same] at kept

end CounterFollows

/-! ## Runs of the two threads -/

structure Recorded where
  frames : Nat
  drops : Nat
  deriving DecidableEq

inductive CollectorAction
  | recordFrame
  | recordFrameDrop
  | poll (now : Int64)
  deriving DecidableEq

/-- A collector at work.  What was recorded, altogether and at each poll from poll 0 on, the
start, is history. -/
structure Collecting where
  collector : MetricsCollector
  recorded : Recorded
  polled : List Recorded
  deriving DecidableEq

namespace Collecting

def start (now : Int64) : Collecting := ⟨.create now, ⟨0, 0⟩, [⟨0, 0⟩]⟩

def polls (collecting : Collecting) : Nat := collecting.polled.length - 1

def atPoll (collecting : Collecting) (poll : Nat) : Recorded :=
  collecting.polled.getD poll ⟨0, 0⟩

/-- Each method holds the lock; the clock is steady. -/
def step : Machine Collecting CollectorAction
  | collecting, .recordFrame => some { collecting with
      collector := collecting.collector.recordFrame
      recorded := { collecting.recorded with frames := collecting.recorded.frames + 1 } }
  | collecting, .recordFrameDrop => some { collecting with
      collector := collecting.collector.recordFrameDrop
      recorded := { collecting.recorded with drops := collecting.recorded.drops + 1 } }
  | collecting, .poll now =>
      if collecting.collector.lastPollTime ≤ now then some { collecting with
        collector := collecting.collector.poll now
        polled :=
          if collecting.collector.throttled now then collecting.polled
          else collecting.polled ++ [collecting.recorded] }
      else none

/-- The counters follow what was recorded.  A second of the clock passes between two polls, so
the head of the rings counts the polls and never wraps. -/
structure Tracks (clock : Int64) (collecting : Collecting) : Prop where
  frames : CounterFollows collecting.collector.frameRing collecting.collector.totalFrames
    collecting.collector.prevTotalFrames collecting.recorded.frames
    (collecting.polled.map Recorded.frames)
  drops : CounterFollows collecting.collector.dropRing collecting.collector.totalDrops
    collecting.collector.prevTotalDrops collecting.recorded.drops
    (collecting.polled.map Recorded.drops)
  head : collecting.collector.ringHead.toNat = collecting.polls
  used : collecting.collector.ringCount.toNat = min collecting.polls 30
  spaced : clock.toInt + 1000000000 * collecting.polls ≤ collecting.collector.lastPollTime.toInt
  published : collecting.collector.metrics.frameDropPct =
    if 0 < collecting.collector.windowFrames then
      collecting.collector.windowDrops * 100 / collecting.collector.windowFrames
    else 0

theorem start_tracks (clock : Int64) : Tracks clock (start clock) where
  frames := .start
  drops := .start
  head := rfl
  used := rfl
  spaced := by
    change clock.toInt + 1000000000 * 0 ≤ clock.toInt
    omega
  published := rfl

theorem Tracks.polls_add_one {clock : Int64} {collecting : Collecting}
    (tracks : Tracks clock collecting) : collecting.polls + 1 = collecting.polled.length := by
  have nonempty := List.length_pos_iff.mpr tracks.frames.ne_nil
  rw [List.length_map] at nonempty
  rw [polls]
  omega

/-- What a poll that is not throttled leaves. -/
def push (collecting : Collecting) (now : Int64) : Collecting :=
  { collecting with
    collector := collecting.collector.poll now
    polled := collecting.polled ++ [collecting.recorded] }

theorem polls_push {clock now : Int64} {collecting : Collecting}
    (tracks : Tracks clock collecting) : (collecting.push now).polls = collecting.polls + 1 := by
  rw [tracks.polls_add_one, polls, push, List.length_append]
  rfl

theorem atPoll_push_last {clock now : Int64} {collecting : Collecting}
    (tracks : Tracks clock collecting) :
    (collecting.push now).atPoll (collecting.polls + 1) = collecting.recorded := by
  rw [atPoll, push, List.getD_eq_getElem?_getD, tracks.polls_add_one, List.getElem?_concat_length]
  rfl

theorem atPoll_push_earlier {clock now : Int64} {collecting : Collecting} {poll : Nat}
    (tracks : Tracks clock collecting) (earlier : poll < collecting.polls + 1) :
    (collecting.push now).atPoll poll = collecting.atPoll poll := by
  rw [tracks.polls_add_one] at earlier
  rw [atPoll, atPoll, push, List.getD_eq_getElem?_getD, List.getElem?_append_left earlier,
    ← List.getD_eq_getElem?_getD]

/-- A poll that is not throttled comes a second after the last one. -/
theorem second_le_of_not_throttled {collector : MetricsCollector} {now : Int64}
    (steady : collector.lastPollTime ≤ now) (effective : collector.throttled now = false) :
    collector.lastPollTime.toInt + 1000000000 ≤ now.toInt := by
  have late := of_decide_eq_false effective
  rw [Int64.lt_iff_toInt_lt, Int64.toInt_sub] at late
  rw [Int64.le_iff_toInt_le] at steady
  change ¬(now.toInt - collector.lastPollTime.toInt).bmod (2 ^ 64) < 1000000000 at late
  have high := now.toInt_lt
  have low := collector.lastPollTime.le_toInt
  have wrapped := Int.bmod_def (now.toInt - collector.lastPollTime.toInt) (2 ^ 64)
  split at wrapped <;> omega

theorem toNat_used {used : UInt64} {polls : Nat} (saturated : used.toNat = min polls 30) :
    (min (used + 1) MetricsCollector.window).toNat = min (polls + 1) 30 := by
  have next : (used + 1).toNat = min polls 30 + 1 := by
    rw [UInt64.toNat_add, saturated]
    change (min polls 30 + 1) % 2 ^ 64 = min polls 30 + 1
    omega
  have capacity : MetricsCollector.window.toNat = 30 := rfl
  change (if used + 1 ≤ MetricsCollector.window then used + 1
    else MetricsCollector.window).toNat = _
  split
  next room =>
    rw [UInt64.le_iff_toNat_le] at room
    omega
  next full =>
    rw [UInt64.le_iff_toNat_le] at full
    omega

/-- A poll that is not throttled publishes what is recorded. -/
theorem poll_tracks {clock now : Int64} {collecting : Collecting}
    (tracks : Tracks clock collecting) (steady : collecting.collector.lastPollTime ≤ now)
    (effective : collecting.collector.throttled now = false) :
    Tracks clock (collecting.push now) := by
  have second := second_le_of_not_throttled steady effective
  have spaced := tracks.spaced
  have low := clock.le_toInt
  have high := now.toInt_lt
  have marked := tracks.polls_add_one
  have slot : (collecting.collector.ringHead % MetricsCollector.window).toNat =
      collecting.polls % 30 := by
    rw [UInt64.toNat_mod, tracks.head]
    rfl
  have advanced : (collecting.push now).polls = collecting.polls + 1 :=
    polls_push tracks
  have polled : collecting.collector.poll now =
      { collecting.collector.calculateFrameDropPct with
        metrics := { collecting.collector.calculateFrameDropPct.metrics with timestamp := now }
        lastPollTime := now } := by
    rw [MetricsCollector.poll, effective]
    rfl
  constructor
  · rw [push, polled, List.map_append]
    exact tracks.frames.push (by rw [List.length_map]; exact slot)
  · rw [push, polled, List.map_append]
    exact tracks.drops.push (by rw [List.length_map]; exact slot)
  · rw [advanced, push, polled]
    change (collecting.collector.ringHead + 1).toNat = _
    rw [UInt64.toNat_add, tracks.head]
    change (collecting.polls + 1) % 2 ^ 64 = _
    omega
  · rw [advanced, push, polled]
    exact toNat_used tracks.used
  · rw [advanced, push, polled]
    dsimp only
    omega
  · rw [push, polled]
    rfl

theorem step_tracks {clock : Int64} {collecting next : Collecting} {action : CollectorAction}
    (tracks : Tracks clock collecting) (stepped : step collecting action = some next) :
    Tracks clock next := by
  cases action with
  | recordFrame =>
      cases stepped
      exact { tracks with frames := tracks.frames.record }
  | recordFrameDrop =>
      cases stepped
      exact { tracks with drops := tracks.drops.record }
  | poll now =>
      obtain ⟨steady, same⟩ := Option.ite_none_right_eq_some.mp stepped
      cases same
      cases effective : collecting.collector.throttled now with
      | true =>
          have returned : collecting.collector.poll now = collecting.collector := if_pos effective
          rw [if_pos rfl, returned]
          exact tracks
      | false => exact poll_tracks tracks steady effective

/-- The rings hold what was recorded between the last polls, their sums are what was recorded
since the oldest of these, and the percentage is their quotient. -/
structure WindowExact (collecting : Collecting) : Prop where
  used : collecting.collector.ringCount.toNat = min collecting.polls 30
  frameRing :
    ((collecting.collector.frameRing.toList.take (min collecting.polls 30)).map
        UInt32.toNat).Perm
      ((gains (collecting.polled.map Recorded.frames)).rtake 30)
  dropRing :
    ((collecting.collector.dropRing.toList.take (min collecting.polls 30)).map
        UInt32.toNat).Perm
      ((gains (collecting.polled.map Recorded.drops)).rtake 30)
  frames : collecting.collector.windowFrames.toNat =
    (collecting.atPoll collecting.polls).frames -
      (collecting.atPoll (collecting.polls - min collecting.polls 30)).frames
  drops : collecting.collector.windowDrops.toNat =
    (collecting.atPoll collecting.polls).drops -
      (collecting.atPoll (collecting.polls - min collecting.polls 30)).drops
  published : collecting.collector.metrics.frameDropPct.toNat =
    if collecting.collector.windowFrames.toNat = 0 then 0
    else 100 * collecting.collector.windowDrops.toNat /
      collecting.collector.windowFrames.toNat

namespace Tracks

variable {clock : Int64} {collecting : Collecting}

theorem getElem?_atPoll (tracks : Tracks clock collecting) (field : Recorded → Nat) {poll : Nat}
    (earlier : poll ≤ collecting.polls) :
    (collecting.polled.map field)[poll]? = some (field (collecting.atPoll poll)) := by
  have below : poll < collecting.polled.length := by
    have marked := tracks.polls_add_one
    omega
  rw [List.getElem?_map, atPoll, List.getD_eq_getElem?_getD, List.getElem?_eq_getElem below]
  rfl

theorem getLast?_atPoll (tracks : Tracks clock collecting) (field : Recorded → Nat) :
    (collecting.polled.map field).getLast? = some (field (collecting.atPoll collecting.polls)) := by
  have last := tracks.getElem?_atPoll field (Nat.le_refl collecting.polls)
  rwa [List.getLast?_eq_getElem?, List.length_map, ← polls]

theorem ringSum_eq (tracks : Tracks clock collecting) {field : Recorded → Nat}
    {ring : Vector UInt32 30} {total prev : UInt32} {count : Nat}
    (follows : CounterFollows ring total prev count (collecting.polled.map field)) :
    MetricsCollector.ringSum ring collecting.collector.ringCount =
      UInt32.ofNat (field (collecting.atPoll collecting.polls) -
        field (collecting.atPoll (collecting.polls - 30))) := by
  have marks : (collecting.polled.map field).length - 1 = collecting.polls := by
    rw [List.length_map, polls]
  refine follows.ringSum_eq (by rw [marks]; exact tracks.used) ?_ (tracks.getLast?_atPoll field)
  rw [marks]
  exact tracks.getElem?_atPoll field (Nat.sub_le _ _)

variable {field : Recorded → Nat} {ring : Vector UInt32 30} {total prev : UInt32} {count : Nat}

/-- The sum of a ring whose counter has not wrapped. -/
theorem toNat_ringSum (tracks : Tracks clock collecting)
    (follows : CounterFollows ring total prev count (collecting.polled.map field))
    (few : count < 2 ^ 32) :
    (MetricsCollector.ringSum ring collecting.collector.ringCount).toNat =
      field (collecting.atPoll collecting.polls) -
        field (collecting.atPoll (collecting.polls - min collecting.polls 30)) := by
  have bound := follows.mark_le (List.mem_of_getLast? (tracks.getLast?_atPoll field))
  have oldest : collecting.polls - min collecting.polls 30 = collecting.polls - 30 := by omega
  rw [oldest, tracks.ringSum_eq follows]
  exact UInt32.toNat_ofNat_of_lt' (by change _ < 2 ^ 32; omega)

theorem toNat_ringSum_le (tracks : Tracks clock collecting)
    (follows : CounterFollows ring total prev count (collecting.polled.map field))
    (few : count < 2 ^ 32) :
    (MetricsCollector.ringSum ring collecting.collector.ringCount).toNat ≤ count := by
  rw [tracks.toNat_ringSum follows few]
  exact (Nat.sub_le _ _).trans
    (follows.mark_le (List.mem_of_getLast? (tracks.getLast?_atPoll field)))

/-- The entries of a ring whose counter has not wrapped. -/
theorem ring_perm (tracks : Tracks clock collecting)
    (follows : CounterFollows ring total prev count (collecting.polled.map field))
    (few : count < 2 ^ 32) :
    ((ring.toList.take (min collecting.polls 30)).map UInt32.toNat).Perm
      ((gains (collecting.polled.map field)).rtake 30) := by
  have marks : (collecting.polled.map field).length - 1 = collecting.polls := by
    rw [List.length_map, polls]
  have kept := follows.perm_gains (by rw [marks]; exact tracks.used) few
  have entries := length_gains_add_one follows.ne_nil
  have length : (gains (collecting.polled.map field)).length = collecting.polls := by omega
  rw [List.rtake, length]
  rwa [marks, tracks.used] at kept

end Tracks

theorem toNat_percentage {drops frames : UInt32} (fits : drops.toNat < 40000000) :
    (if 0 < frames then drops * 100 / frames else 0).toNat =
      if frames.toNat = 0 then 0 else 100 * drops.toNat / frames.toNat := by
  have product : (drops * 100).toNat = 100 * drops.toNat := by
    rw [UInt32.toNat_mul]
    change drops.toNat * 100 % 2 ^ 32 = _
    omega
  by_cases none : frames.toNat = 0
  · have empty : ¬0 < frames := by
      rw [UInt32.lt_iff_toNat_lt, none]
      exact Nat.lt_irrefl 0
    rw [if_neg empty, if_pos none]
    rfl
  · have some : 0 < frames := UInt32.lt_iff_toNat_lt.mpr (Nat.pos_of_ne_zero none)
    rw [if_pos some, if_neg none, UInt32.toNat_div, product]

/-- The window is exact after every run with fewer than forty million frames and drops. -/
theorem window_exact (clock : Int64) (actions : List CollectorAction) (finish : Collecting)
    (executed : Machine.exec step (start clock) actions = some finish)
    (fewFrames : finish.recorded.frames < 40000000)
    (fewDrops : finish.recorded.drops < 40000000) : WindowExact finish := by
  have tracks : Tracks clock finish :=
    Machine.exec_invariant (fun _ _ _ => step_tracks) (start_tracks clock) executed
  have unwrapped : (40000000 : Nat) < 2 ^ 32 := by decide
  have frames := fewFrames.trans unwrapped
  have drops := fewDrops.trans unwrapped
  constructor
  · exact tracks.used
  · exact tracks.ring_perm tracks.frames frames
  · exact tracks.ring_perm tracks.drops drops
  · exact tracks.toNat_ringSum tracks.frames frames
  · exact tracks.toNat_ringSum tracks.drops drops
  · have few := tracks.toNat_ringSum_le tracks.drops drops
    rw [tracks.published]
    exact toNat_percentage (few.trans_lt fewDrops)

/-- Two frames and a drop before the first poll, then thirty polls with a frame before each,
and a last frame that is dropped. -/
def longRun : List CollectorAction :=
  [.recordFrame, .recordFrame, .recordFrameDrop, .poll 1000000000] ++
    (List.range 30).flatMap (fun index =>
      [.recordFrame, .poll (Int64.ofNat ((index + 2) * 1000000000))]) ++
    [.recordFrame, .recordFrameDrop, .poll 32500000000]

theorem window_exact_longRun :
    ∃ finish, Machine.exec step (start 0) longRun = some finish ∧
      finish.polls = 32 ∧ finish.collector.windowFrames = 30 ∧
      finish.collector.windowDrops = 1 ∧ finish.collector.metrics.frameDropPct = 3 ∧
      WindowExact finish := by
  have evaluated : (Machine.exec step (start 0) longRun).map (fun finish =>
      (finish.recorded, finish.polls, finish.collector.windowFrames,
        finish.collector.windowDrops, finish.collector.metrics.frameDropPct)) =
      some (⟨33, 2⟩, 32, 30, 1, 3) := by
    decide +kernel
  obtain ⟨finish, executed, same⟩ := Option.map_eq_some_iff.mp evaluated
  simp only [Prod.mk.injEq] at same
  obtain ⟨recorded, polls, frames, drops, pct⟩ := same
  refine ⟨finish, executed, polls, frames, drops, pct, ?_⟩
  exact window_exact 0 longRun finish executed (by rw [recorded]; decide)
    (by rw [recorded]; decide)

end Collecting

end RejiStudio.Pipeline
