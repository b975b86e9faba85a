import Mathlib.Algebra.Order.Ring.Int
import RejiStudio.Pipeline.WasapiEngine

/-!
# The packets of the audio capture

The platform hands out one packet of a running stream at a time, and takes it back whole.  The
capture keeps to this; the callback gets every packet, cut to the scratch buffer, and a packet
that was cut is reported once as a drop.
-/

namespace RejiStudio.Pipeline

open RejiStudio.Lib

namespace Wasapi

structure Client where
  running : Bool
  out : Option UInt32
  deriving DecidableEq

namespace Client

def start : Client := ⟨false, none⟩

def step : Machine Client ClientCall
  | client, .start =>
      if client.running = false ∧ client.out = none then some ⟨true, none⟩ else none
  | client, .stop => if client.out = none then some ⟨false, none⟩ else none
  | client, .nextPacketSize =>
      if client.running = true ∧ client.out = none then some client else none
  | client, .getBuffer frames =>
      if client.running = true ∧ client.out = none then some ⟨true, frames⟩ else none
  | client, .releaseBuffer frames =>
      if client.running = true ∧ client.out = some frames then some ⟨true, none⟩ else none

end Client

variable {Sample : Type}

namespace Got

/-- The call of the callback, or none where the device has an impossible number of channels. -/
def callback (got : Got Sample) : Option (PushArgs Sample) :=
  (CaptureLoop.packet ⟨got.channels, got.sampleRate, 0, 0⟩ got.packet).2

/-- The packet does not fit the scratch buffer. -/
def long (got : Got Sample) : Bool := kMaxFrames < got.packet.frames

end Got

/-- What `packet` does depends on the format alone, and it counts the packets that are cut. -/
theorem packet_eq (loop : CaptureLoop) (packet : CapturePacket Sample) :
    (loop.packet packet).2 =
        (Got.mk packet loop.actualChannels loop.actualSampleRate).callback ∧
      (loop.packet packet).1.frameDrops =
        if kMaxFrames < packet.frames then loop.frameDrops + 1 else loop.frameDrops := by
  unfold Got.callback CaptureLoop.packet
  by_cases long : kMaxFrames < packet.frames
  · simp only [if_pos long]
    split
    · exact ⟨rfl, rfl⟩
    · exact ⟨rfl, rfl⟩
  · simp only [if_neg long]
    split
    · exact ⟨rfl, rfl⟩
    · exact ⟨rfl, rfl⟩

namespace Capture

def outstanding (capture : Capture Sample) : Option UInt32 :=
  capture.supervisor.bind Point.outstanding

/-- The drops that were reported and those that are still to be, up to what 32 bits hold. -/
def Counted (capture : Capture Sample) : Prop :=
  ∃ wraps, (capture.reported.map UInt32.toNat).sum + capture.engine.loop.frameDrops.toNat +
    wraps * 4294967296 = capture.got.countP Got.long

structure Taken (capture : Capture Sample) : Prop where
  leads : Machine.exec Client.step Client.start capture.engine.log =
    some ⟨capture.engineActive, capture.outstanding⟩
  delivered : capture.delivered = capture.got.filterMap Got.callback
  counted : capture.Counted

variable {capture next : Capture Sample}

theorem taken_new (cfg : Config) : (new cfg : Capture Sample).Taken where
  leads := rfl
  delivered := rfl
  counted := ⟨0, rfl⟩

theorem Taken.congr {other : Capture Sample} (taken : capture.Taken)
    (log : other.engine.log = capture.engine.log)
    (active : other.engineActive = capture.engineActive)
    (outstanding : other.outstanding = capture.outstanding)
    (delivered : other.delivered = capture.delivered) (got : other.got = capture.got)
    (reported : other.reported = capture.reported)
    (drops : other.engine.loop.frameDrops = capture.engine.loop.frameDrops) : other.Taken := by
  constructor
  case leads =>
    rw [log, active, outstanding]
    exact taken.leads
  case delivered =>
    rw [delivered, got]
    exact taken.delivered
  case counted =>
    unfold Counted
    rw [reported, drops, got]
    exact taken.counted

theorem outstanding_eq {point : Point} (here : capture.supervisor = some point) :
    capture.outstanding = point.outstanding := by
  unfold outstanding
  rw [here]
  rfl

theorem Taken.moveTo {point target : Point} (taken : capture.Taken)
    (here : capture.supervisor = some point) (same : target.outstanding = point.outstanding) :
    (capture.moveTo target).Taken :=
  taken.congr rfl rfl (same.trans (outstanding_eq here).symm) rfl rfl rfl rfl

theorem Taken.note {point target : Point} {call : ClientCall} (taken : capture.Taken)
    (here : capture.supervisor = some point)
    (allowed : Client.step ⟨capture.engineActive, point.outstanding⟩ call =
      some ⟨capture.engineActive, target.outstanding⟩) :
    ((capture.withEngine (capture.engine.note call)).moveTo target).Taken where
  leads := by
    change Machine.exec Client.step Client.start (capture.engine.log ++ [call]) = _
    rw [Machine.exec_append, taken.leads, outstanding_eq here]
    change Machine.exec Client.step _ [call] = _
    rw [Machine.exec_cons, allowed]
    rfl
  delivered := taken.delivered
  counted := taken.counted

theorem Taken.releaseEngine {point target : Point} (taken : capture.Taken)
    (invariant : capture.Invariant) (here : capture.supervisor = some point)
    (free : point.outstanding = none) (stillFree : target.outstanding = none) :
    (capture.releaseEngine.moveTo target).Taken where
  leads := by
    have before := taken.leads
    rw [outstanding_eq here, free] at before
    change Machine.exec Client.step Client.start capture.engine.stopClient.log =
      some ⟨false, target.outstanding⟩
    rw [stillFree]
    unfold Engine.stopClient
    split
    next =>
      change Machine.exec Client.step Client.start (capture.engine.log ++ [.stop]) = _
      rw [Machine.exec_append, before]
      rfl
    next absent =>
      rw [before]
      cases active : capture.engineActive with
      | false => rfl
      | true => exact absurd (invariant.active active).1 absent
  delivered := taken.delivered
  counted := by
    obtain ⟨wraps, sum⟩ := taken.counted
    refine ⟨wraps, ?_⟩
    have drops : capture.engine.release.loop.frameDrops = capture.engine.loop.frameDrops := by
      change capture.engine.stopClient.loop.frameDrops = _
      unfold Engine.stopClient
      split
      · rfl
      · rfl
    change (capture.reported.map UInt32.toNat).sum + capture.engine.release.loop.frameDrops.toNat +
      _ = _
    rw [drops]
    exact sum

theorem Taken.publishMetrics (taken : capture.Taken) (now : Int) :
    (capture.publishMetrics now).Taken := by
  unfold Capture.publishMetrics
  split
  · exact taken
  · refine ⟨taken.leads, taken.delivered, ?_⟩
    obtain ⟨wraps, sum⟩ := taken.counted
    refine ⟨wraps, ?_⟩
    change ((capture.reported ++ [capture.engine.loop.frameDrops]).map UInt32.toNat).sum + 0 + _ = _
    rw [List.map_append, List.sum_append]
    simpa using sum

theorem counted_packet {reported drops long wraps : Nat} {frameDrops : UInt32}
    (sum : reported + frameDrops.toNat + wraps * 4294967296 = long) (cut : Bool)
    (next : drops = (if cut then frameDrops + 1 else frameDrops).toNat) :
    ∃ wraps, reported + drops + wraps * 4294967296 = long + if cut then 1 else 0 := by
  cases cut with
  | false =>
      refine ⟨wraps, ?_⟩
      rw [next]
      exact sum
  | true =>
      simp only [if_true] at next ⊢
      rw [UInt32.toNat_add] at next
      have below := frameDrops.toNat_lt
      by_cases full : frameDrops.toNat = 4294967295
      · refine ⟨wraps + 1, ?_⟩
        rw [next, full]
        simp
        omega
      · refine ⟨wraps, ?_⟩
        simp at next
        omega

theorem Taken.takePacket (taken : capture.Taken) (invariant : capture.Invariant)
    (here : capture.supervisor = some .getBuffer) (answer : BufferAnswer Sample) :
    (capture.takePacket answer).Taken := by
  have active := invariant.inLoop _ here rfl
  have failed : ((capture.withEngine (capture.engine.note (.getBuffer none))).moveTo
      (.returned false)).Taken := by
    apply taken.note here
    rw [active]
    rfl
  have leads := taken.leads
  rw [outstanding_eq here, active] at leads
  unfold Capture.takePacket
  rw [Engine.use_of_has (invariant.active active).2]
  cases answer with
  | packet packet =>
      obtain ⟨called, drops⟩ := packet_eq capture.engine.loop packet
      dsimp only
      generalize capture.engine.loop.packet packet = outcome at called drops ⊢
      obtain ⟨loop, callback⟩ := outcome
      dsimp only at called drops ⊢
      have noted : Machine.exec Client.step Client.start
          (capture.engine.log ++ [.getBuffer (some packet.frames)]) =
            some ⟨capture.engineActive, some packet.frames⟩ := by
        rw [Machine.exec_append, leads, active]
        rfl
      have counted : ∃ wraps, (capture.reported.map UInt32.toNat).sum + loop.frameDrops.toNat +
          wraps * 4294967296 = (capture.got ++ [Got.mk packet capture.engine.loop.actualChannels
            capture.engine.loop.actualSampleRate]).countP Got.long := by
        obtain ⟨wraps, sum⟩ := taken.counted
        rw [List.countP_append, List.countP_singleton]
        apply counted_packet sum
        rw [drops]
        by_cases cut : kMaxFrames < packet.frames
        · rw [if_pos cut]
          simp [Got.long, cut]
        · rw [if_neg cut]
          simp [Got.long, cut]
      have delivered : (capture.got ++ [Got.mk packet capture.engine.loop.actualChannels
          capture.engine.loop.actualSampleRate]).filterMap Got.callback =
            capture.delivered ++ callback.toList := by
        rw [List.filterMap_append, ← taken.delivered, called]
        cases answer : (Got.mk packet capture.engine.loop.actualChannels
            capture.engine.loop.actualSampleRate).callback with
        | none => simp [answer]
        | some args => simp [answer]
      cases callback with
      | none => exact ⟨noted, (delivered.trans (List.append_nil _)).symm, counted⟩
      | some args => exact ⟨noted, delivered.symm, counted⟩
  | invalidated => exact failed.congr rfl rfl rfl rfl rfl rfl rfl
  | failed => exact failed

theorem Taken.startEngine (taken : capture.Taken) (invariant : capture.Invariant)
    (here : capture.supervisor = some .engine) (idle : capture.engineActive = false)
    (answer : Answer Sample) : (capture.startEngine answer).Taken := by
  have spec := @Engine.openDevice_spec capture.engine capture.cfg answer.openDevice invariant.sound
    (invariant.present here (by decide)) (invariant.present here (by decide))
  unfold Capture.startEngine
  generalize capture.engine.openDevice capture.cfg answer.openDevice = outcome at spec ⊢
  obtain ⟨ok, engine⟩ := outcome
  obtain ⟨opened, clients⟩ := spec
  have kept := invariant.opened here idle opened
  have same : (capture.withEngine engine).Taken :=
    taken.congr opened.log rfl rfl rfl rfl rfl opened.frameDrops
  cases ok with
  | false => exact same.moveTo here rfl
  | true =>
      dsimp only at clients ⊢
      unfold Engine.startClient
      rw [Engine.use_of_has (clients rfl).1]
      cases answer.start with
      | false => exact same.releaseEngine kept here rfl rfl
      | true =>
          have leads := same.leads
          have free : (capture.withEngine engine).outstanding = none := outstanding_eq here
          rw [free] at leads
          refine ⟨?_, same.delivered, same.counted⟩
          change Machine.exec Client.step Client.start (engine.log ++ [.start]) = _
          rw [Machine.exec_append]
          change (Machine.exec Client.step Client.start (capture.withEngine engine).engine.log).bind
            _ = _
          rw [leads]
          change Machine.exec Client.step ⟨capture.engineActive, none⟩ [.start] = _
          rw [idle]
          rfl

theorem Taken.supervise {point : Point} {answer : Answer Sample} (taken : capture.Taken)
    (invariant : capture.Invariant) (here : capture.supervisor = some point)
    (stepped : capture.supervise answer point = some next) : next.Taken := by
  have moved := supervise_moved invariant here stepped
  clear stepped
  induction moved with
  | entered => exact taken.congr rfl rfl (outstanding_eq here).symm rfl rfl rfl rfl
  | went free stillFree => exact taken.moveTo here (stillFree.trans free.symm)
  | asked free _ active =>
      apply taken.note here
      rw [active, free]
      rfl
  | handedBack held free _ active =>
      apply taken.note here
      rw [active, held, free]
      exact if_pos ⟨rfl, rfl⟩
  | published _ kept => exact (kept here).publishMetrics answer.now
  | released free stillFree => exact taken.releaseEngine invariant here free stillFree
  | cleaned =>
      have released : (capture.releaseEngine.moveTo .engine).Taken :=
        taken.releaseEngine invariant here rfl rfl
      exact released.congr rfl rfl rfl rfl rfl rfl rfl
  | started idle => exact taken.startEngine invariant here idle answer
  | took => exact taken.takePacket invariant here answer.buffer
  | left =>
      have released : (capture.releaseEngine.moveTo .ended).Taken :=
        taken.releaseEngine invariant here rfl rfl
      exact released.congr rfl rfl rfl rfl rfl rfl rfl

/-! ## The owner's calls -/

structure Quiet (before after : Capture Sample) : Prop where
  log : after.engine.log = before.engine.log
  active : after.engineActive = before.engineActive
  free : after.outstanding = none
  delivered : after.delivered = before.delivered
  got : after.got = before.got
  reported : after.reported = before.reported
  drops : after.engine.loop.frameDrops = before.engine.loop.frameDrops

theorem Taken.quiet {other : Capture Sample} (taken : capture.Taken)
    (free : capture.outstanding = none) (quiet : Quiet capture other) : other.Taken :=
  taken.congr quiet.log quiet.active (quiet.free.trans free.symm) quiet.delivered quiet.got
    quiet.reported quiet.drops

theorem quiet_teardown (capture : Capture Sample) : Quiet capture capture.teardown :=
  ⟨rfl, rfl, rfl, rfl, rfl, rfl, rfl⟩

theorem use_counts (engine : Engine) (cell : Cell) :
    (engine.use cell).log = engine.log ∧ (engine.use cell).loop = engine.loop := by
  unfold Engine.use
  split
  · exact ⟨rfl, rfl⟩
  · exact ⟨rfl, rfl⟩

theorem quiet_initNotify (capture : Capture Sample) (answer : InitAnswer) :
    Quiet capture (capture.initNotify answer) := by
  obtain ⟨log, loop⟩ :=
    use_counts (capture.engine.renew .notifyClient answer.notifyClient) .enumerator
  have drops := congrArg CaptureLoop.frameDrops loop
  unfold Capture.initNotify
  dsimp only
  split
  · exact ⟨rfl, rfl, rfl, rfl, rfl, rfl, rfl⟩
  · split
    · exact ⟨log, rfl, rfl, rfl, rfl, rfl, drops⟩
    · split
      · exact ⟨log, rfl, rfl, rfl, rfl, rfl, drops⟩
      · split
        · exact ⟨log, rfl, rfl, rfl, rfl, rfl, drops⟩
        · exact ⟨log, rfl, rfl, rfl, rfl, rfl, drops⟩

theorem quiet_initParts (capture : Capture Sample) (com : Bool) (answer : InitAnswer) :
    Quiet capture (capture.initParts com answer) := by
  unfold Capture.initParts
  dsimp only
  split
  · exact ⟨rfl, rfl, rfl, rfl, rfl, rfl, rfl⟩
  · obtain ⟨log, active, free, delivered, got, reported, drops⟩ := quiet_initNotify
      (withEngine (withEngine capture (capture.engine.renew .com com))
        ((capture.engine.renew .com com).renew .enumerator answer.enumerator)) answer
    exact ⟨log, active, free, delivered, got, reported, drops⟩

theorem quiet_init (free : capture.outstanding = none) (cfg : Config) (answer : InitAnswer) :
    Quiet capture (capture.init cfg answer) := by
  have parts : ∀ com, Quiet capture (initParts { capture with cfg := cfg } com answer) := by
    intro com
    obtain ⟨log, active, free, delivered, got, reported, drops⟩ :=
      quiet_initParts { capture with cfg := cfg } com answer
    exact ⟨log, active, free, delivered, got, reported, drops⟩
  have same : Quiet capture capture := ⟨rfl, rfl, free, rfl, rfl, rfl, rfl⟩
  unfold Capture.init
  split
  · exact same
  · split
    · exact same
    · split
      · exact same
      · dsimp only
        split
        · exact ⟨rfl, rfl, free, rfl, rfl, rfl, rfl⟩
        · exact parts true
        · exact parts false

theorem Taken.step {action : Action Sample} (taken : capture.Taken)
    (invariant : capture.Invariant) (stepped : Capture.step capture action = some next) :
    next.Taken := by
  cases action with
  | init cfg answer =>
      rw [Capture.step, Option.ite_none_left_eq_some, Option.some.injEq] at stepped
      rw [← stepped.2]
      cases initialized : capture.initialized with
      | true =>
          unfold Capture.init
          rw [if_pos initialized]
          exact taken
      | false =>
          have thread : capture.supervisor = none := by
            rw [← Option.not_isSome_iff_eq_none, ← invariant.initialized, initialized]
            exact Bool.false_ne_true
          have free : capture.outstanding = none := by
            unfold outstanding
            rw [thread]
            rfl
          exact taken.quiet free (quiet_init free cfg answer)
  | start =>
      cases stepped
      unfold Capture.start
      split
      · exact taken.congr rfl rfl rfl rfl rfl rfl rfl
      · exact taken
  | stop =>
      cases stepped
      unfold Capture.stop
      split
      · exact taken.congr rfl rfl rfl rfl rfl rfl rfl
      · exact taken
  | shutdown =>
      rw [Capture.step, Option.ite_none_left_eq_some, Option.some.injEq] at stepped
      rw [← stepped.2]
      exact taken.congr rfl rfl rfl rfl rfl rfl rfl
  | joined =>
      rw [Capture.step, Option.ite_none_right_eq_some, Option.some.injEq] at stepped
      obtain ⟨⟨-, finished⟩, rfl⟩ := stepped
      have free : capture.outstanding = none := by
        unfold outstanding
        rcases finished with thread | ended
        · rw [thread]
          rfl
        · rw [ended]
          rfl
      exact taken.quiet free (quiet_teardown capture)
  | deviceChange reason =>
      rw [Capture.step, Capture.onDeviceChange, Option.ite_none_right_eq_some,
        Option.some.injEq] at stepped
      rw [← stepped.2]
      exact taken.congr rfl rfl rfl rfl rfl rfl rfl
  | supervise answer =>
      obtain ⟨point, here, moved⟩ := Option.bind_eq_some_iff.mp stepped
      exact taken.supervise invariant here moved

/-- In every interleaving: the client is asked for packets only while its stream runs, each
packet goes back with its own size before anything else is called, the callback gets the packets
in order and cut to what the scratch buffer takes, and of the packets that were cut each is
reported as one drop or still counted (as long as there are fewer than 2 ^ 32). -/
theorem packets_taken_in_turn {cfg : Config} {actions : List (Action Sample)}
    {capture : Capture Sample} (executed : Machine.exec step (new cfg) actions = some capture) :
    Machine.exec Client.step Client.start capture.engine.log =
        some ⟨capture.running, capture.outstanding⟩ ∧
      capture.delivered = capture.got.filterMap Got.callback ∧
      (capture.got.countP Got.long < 4294967296 →
        (capture.reported.map UInt32.toNat).sum + capture.engine.loop.frameDrops.toNat =
          capture.got.countP Got.long) := by
  have both : capture.Invariant ∧ capture.Taken := by
    have initially : (new cfg : Capture Sample).Invariant ∧ (new cfg : Capture Sample).Taken :=
      ⟨invariant_new cfg, taken_new cfg⟩
    apply @Machine.exec_invariant _ _ step (fun capture => capture.Invariant ∧ capture.Taken) _
      _ _ _ initially executed
    intro state action next kept stepped
    exact ⟨kept.1.step stepped, kept.2.step kept.1 stepped⟩
  obtain ⟨invariant, taken⟩ := both
  refine ⟨?_, taken.delivered, ?_⟩
  · rw [invariant.running]
    exact taken.leads
  · intro few
    obtain ⟨wraps, sum⟩ := taken.counted
    omega

/-- A packet that is too long, and one that is not given back in time. -/
def overrun : List (Action Bool) :=
  [.init microphone {}, .start] ++ List.replicate 10 (.supervise {}) ++
    [.supervise { buffer := .packet ⟨9000, fun _ => true, 0⟩ }, .stop, .supervise {},
      .supervise { packetSize := some 0, now := 2000000 }] ++
    List.replicate 2 (.supervise {}) ++
    [.start] ++ List.replicate 11 (.supervise {}) ++
    [.supervise { buffer := .packet ⟨480, fun _ => true, 10000⟩ }]

theorem packets_taken_in_turn_overrun :
    ∃ capture, Machine.exec step (new microphone) overrun = some capture ∧
      Machine.exec Client.step Client.start capture.engine.log = some ⟨true, some 480⟩ ∧
      capture.delivered.map (fun args => args.frames) = [8192, 480] ∧
      (capture.reported.map UInt32.toNat).sum + capture.engine.loop.frameDrops.toNat = 1 := by
  have observed : (Machine.exec step (new microphone) overrun).map (fun capture =>
      (capture.running, capture.outstanding, capture.delivered.map (fun args => args.frames),
        capture.got.countP Got.long)) = some (true, some 480, [8192, 480], 1) := by
    decide +kernel
  obtain ⟨capture, executed, outcome⟩ := Option.map_eq_some_iff.mp observed
  obtain ⟨running, rest⟩ := Prod.mk.inj outcome
  obtain ⟨outstanding, rest⟩ := Prod.mk.inj rest
  obtain ⟨delivered, long⟩ := Prod.mk.inj rest
  obtain ⟨inTurn, -, counted⟩ := packets_taken_in_turn executed
  refine ⟨capture, executed, ?_, delivered, ?_⟩
  · rw [inTurn, running, outstanding]
  · rw [counted (by rw [long]; decide), long]

end Capture

end Wasapi

end RejiStudio.Pipeline
