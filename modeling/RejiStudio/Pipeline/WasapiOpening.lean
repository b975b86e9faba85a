import RejiStudio.Pipeline.WasapiCapture

/-!
# Opening and giving back an audio device

The strategies in which a client is initialised replace it up to three times, and each may fail
at any point.  Whatever the system answers, nothing is called through a null pointer, what a
cell held is given back when it is filled anew, and a successful opening leaves both clients.
-/

namespace RejiStudio.Pipeline

open RejiStudio.Lib

namespace Wasapi

/-! ## Opening a device -/

def deviceCells : List Cell := [.captureClient, .audioClient, .device, .mixFormat]

namespace Engine

structure Sound (engine : Engine) : Prop where
  balanced : Ledger.Balanced (fun _ => True) Guarded.sameOwner engine.ledger
  straight : engine.strayed = false

structure Opened (before after : Engine) : Prop where
  sound : after.Sound
  others : ∀ cell ∉ deviceCells, after.has cell = before.has cell
  log : after.log = before.log
  streaming : after.streaming = before.streaming
  frameDrops : after.loop.frameDrops = before.loop.frameDrops

variable {engine after : Engine} {cfg : Config} {answer : OpenAnswer}

theorem Sound.opened (sound : engine.Sound) : Opened engine engine :=
  ⟨sound, fun _ _ => rfl, rfl, rfl, rfl⟩

theorem Opened.trans {middle : Engine} (first : Opened engine middle)
    (second : Opened middle after) : Opened engine after where
  sound := second.sound
  others := fun cell other => (second.others cell other).trans (first.others cell other)
  log := second.log.trans first.log
  streaming := second.streaming.trans first.streaming
  frameDrops := second.frameDrops.trans first.frameDrops

theorem use_of_has {cell : Cell} (has : engine.has cell = true) : engine.use cell = engine :=
  if_pos has

theorem has_renew (engine : Engine) (cell other : Cell) (made : Bool) :
    (engine.renew cell made).has other = if other = cell then made else engine.has other := by
  unfold has renew
  cases made with
  | false =>
      simp only [Bool.false_eq_true, if_false, Ledger.release_cells]
      by_cases same : other = cell
      · rw [same, Function.update_self, if_pos rfl]
        rfl
      · rw [Function.update_of_ne same, if_neg same]
  | true =>
      simp only [if_true, Ledger.create_cells, Ledger.release_cells]
      by_cases same : other = cell
      · rw [same, Function.update_self, if_pos rfl]
        rfl
      · rw [Function.update_of_ne same, Function.update_of_ne same, if_neg same]

theorem has_reset (engine : Engine) (cell other : Cell) :
    (engine.reset cell).has other = if other = cell then false else engine.has other :=
  engine.has_renew cell other false

theorem Sound.renew (sound : engine.Sound) (cell : Cell) (made : Bool) :
    (engine.renew cell made).Sound := by
  refine ⟨?_, sound.straight⟩
  have released : Ledger.Balanced (fun _ => True) Guarded.sameOwner
      (engine.ledger.release Guarded.sameOwner cell) := sound.balanced.release trivial
  unfold Engine.renew
  cases made with
  | false => exact released
  | true =>
      apply released.create trivial
      rw [Ledger.release_cells, Function.update_self]

theorem Sound.reset (sound : engine.Sound) (cell : Cell) : (engine.reset cell).Sound :=
  sound.renew cell false

theorem Sound.renew_opened (sound : engine.Sound) {cell : Cell} (device : cell ∈ deviceCells)
    (made : Bool) : Opened engine (engine.renew cell made) := by
  refine ⟨sound.renew cell made, ?_, rfl, rfl, rfl⟩
  intro other outside
  rw [has_renew, if_neg]
  rintro rfl
  exact outside device

theorem Sound.reset_opened (sound : engine.Sound) {cell : Cell} (device : cell ∈ deviceCells) :
    Opened engine (engine.reset cell) :=
  sound.renew_opened device false

theorem device_mem : Cell.device ∈ deviceCells := by decide

theorem audioClient_mem : Cell.audioClient ∈ deviceCells := by decide

theorem captureClient_mem : Cell.captureClient ∈ deviceCells := by decide

theorem mixFormat_mem : Cell.mixFormat ∈ deviceCells := by decide

theorem findDevice_spec (sound : engine.Sound) (enumerator : engine.has .enumerator = true) :
    Opened engine (engine.findDevice cfg answer).2 ∧
      ((engine.findDevice cfg answer).1 = true →
        (engine.findDevice cfg answer).2.has .device = true) := by
  unfold findDevice
  rw [use_of_has enumerator]
  dsimp only
  split
  next =>
    have first := sound.renew_opened device_mem answer.chosenDevice
    cases chosen : answer.chosenDevice with
    | true =>
        rw [chosen] at first
        refine ⟨first, ?_⟩
        intro _
        rw [if_pos rfl, has_renew, if_pos rfl]
    | false =>
        rw [chosen] at first
        rw [if_neg Bool.false_ne_true]
        have cleared := first.sound.reset_opened device_mem
        have second := cleared.sound.renew_opened device_mem answer.defaultDevice
        refine ⟨(first.trans cleared).trans second, ?_⟩
        intro found
        rw [has_renew, if_pos rfl]
        exact found
  next =>
    refine ⟨sound.renew_opened device_mem answer.defaultDevice, ?_⟩
    intro found
    rw [has_renew, if_pos rfl]
    exact found

theorem activate_spec (sound : engine.Sound) (device : engine.has .device = true) (made : Bool) :
    Opened engine (engine.activate made) ∧ (engine.activate made).has .device = true ∧
      (engine.activate made).has .audioClient = made := by
  unfold activate
  rw [use_of_has device]
  refine ⟨sound.renew_opened audioClient_mem made, ?_, ?_⟩
  · rw [has_renew, if_neg (by decide)]
    exact device
  · rw [has_renew, if_pos rfl]

theorem reactivate_spec (sound : engine.Sound) (device : engine.has .device = true) (made : Bool) :
    Opened engine ((engine.reset .audioClient).activate made) ∧
      ((engine.reset .audioClient).activate made).has .device = true ∧
      ((engine.reset .audioClient).activate made).has .audioClient = made := by
  have cleared := sound.reset_opened audioClient_mem
  have still : (engine.reset .audioClient).has .device = true := by
    rw [has_reset, if_neg (by decide)]
    exact device
  obtain ⟨opened, kept, client⟩ := activate_spec cleared.sound still made
  exact ⟨cleared.trans opened, kept, client⟩

theorem initExclusive_spec (sound : engine.Sound) (device : engine.has .device = true)
    (client : engine.has .audioClient = true) :
    Opened engine (engine.initExclusive cfg answer).2 ∧
      (engine.initExclusive cfg answer).2.has .device = true ∧
      ((engine.initExclusive cfg answer).1 = true →
        (engine.initExclusive cfg answer).2.has .audioClient = true) := by
  unfold initExclusive
  rw [use_of_has client]
  split
  next =>
    cases answer.exclusive with
    | ok => exact ⟨sound.opened, device, fun _ => client⟩
    | failed => exact ⟨sound.opened, device, fun _ => client⟩
    | notAligned =>
        dsimp only
        rw [use_of_has client]
        obtain ⟨opened, kept, renewed⟩ := reactivate_spec sound device answer.activateAligned
        split
        next =>
          split
          next made =>
            rw [made] at opened kept renewed
            rw [made, use_of_has renewed]
            exact ⟨opened, kept, fun _ => renewed⟩
          next => exact ⟨opened, kept, fun no => absurd no Bool.false_ne_true⟩
        next => exact ⟨sound.opened, device, fun _ => client⟩
  next => exact ⟨sound.opened, device, fun _ => client⟩

theorem initShared_spec (sound : engine.Sound) (device : engine.has .device = true) :
    Opened engine (engine.initShared answer).2 ∧
      ((engine.initShared answer).1.isSome = true →
        (engine.initShared answer).2.has .device = true ∧
        (engine.initShared answer).2.has .audioClient = true) := by
  unfold initShared
  split
  next client =>
    rw [use_of_has client]
    exact ⟨sound.opened, fun _ => ⟨device, client⟩⟩
  next =>
    obtain ⟨opened, kept, renewed⟩ := activate_spec sound device answer.activateShared
    dsimp only
    split
    next made =>
      rw [made] at opened kept renewed
      rw [made, use_of_has renewed]
      exact ⟨opened, fun _ => ⟨kept, renewed⟩⟩
    next => exact ⟨opened, fun no => absurd no Bool.false_ne_true⟩

theorem initMix_spec (sound : engine.Sound) (device : engine.has .device = true)
    (client : engine.has .audioClient = true) :
    Opened engine (engine.initMix answer).2 ∧
      ((engine.initMix answer).1 = true →
        (engine.initMix answer).2.has .audioClient = true) := by
  unfold initMix
  rw [use_of_has client]
  cases answer.mixFormat with
  | none => exact ⟨sound.opened, fun _ => client⟩
  | some format =>
      have mixed := sound.renew_opened mixFormat_mem true
      have still : (engine.renew .mixFormat true).has .device = true := by
        rw [has_renew, if_neg (by decide)]
        exact device
      obtain ⟨opened, -, renewed⟩ := reactivate_spec mixed.sound still answer.activateMix
      dsimp only
      split
      next made =>
        rw [made] at opened renewed
        rw [made, use_of_has renewed]
        exact ⟨mixed.trans opened, fun _ => renewed⟩
      next => exact ⟨mixed.trans opened, fun no => absurd no Bool.false_ne_true⟩

theorem initClient_spec (sound : engine.Sound) (device : engine.has .device = true)
    (client : engine.has .audioClient = true) :
    Opened engine (engine.initClient cfg answer).2 ∧
      ((engine.initClient cfg answer).1.isSome = true →
        (engine.initClient cfg answer).2.has .audioClient = true) := by
  unfold initClient
  have exclusive := @initExclusive_spec engine cfg answer sound device client
  generalize engine.initExclusive cfg answer = outcome at exclusive ⊢
  obtain ⟨ok, tried⟩ := outcome
  obtain ⟨opened, kept, there⟩ := exclusive
  cases ok with
  | true => exact ⟨opened, fun _ => there rfl⟩
  | false =>
      dsimp only at opened kept ⊢
      have shared := @initShared_spec tried answer opened.sound kept
      generalize tried.initShared answer = outcome at shared ⊢
      obtain ⟨result, again⟩ := outcome
      obtain ⟨reopened, bothThere⟩ := shared
      cases result with
      | none => exact ⟨opened.trans reopened, fun no => absurd no Bool.false_ne_true⟩
      | some ok =>
          obtain ⟨device, client⟩ := bothThere rfl
          cases ok with
          | true => exact ⟨opened.trans reopened, fun _ => client⟩
          | false =>
              dsimp only at reopened device client ⊢
              have mix := @initMix_spec again answer reopened.sound device client
              generalize again.initMix answer = outcome at mix ⊢
              obtain ⟨ok, last⟩ := outcome
              obtain ⟨lastOpened, lastThere⟩ := mix
              have all := (opened.trans reopened).trans lastOpened
              cases ok with
              | true => exact ⟨all, fun _ => lastThere rfl⟩
              | false => exact ⟨all, fun no => absurd no Bool.false_ne_true⟩

theorem connect_spec (sound : engine.Sound) (client : engine.has .audioClient = true)
    (event : engine.has .audioEvent = true) :
    Opened engine (engine.connect answer).2 ∧
      ((engine.connect answer).1 = true →
        (engine.connect answer).2.has .audioClient = true ∧
        (engine.connect answer).2.has .captureClient = true) := by
  unfold connect
  rw [use_of_has client, use_of_has event]
  dsimp only
  split
  next =>
    have opened := sound.renew_opened captureClient_mem answer.service
    have still : (engine.renew .captureClient answer.service).has .audioClient = true := by
      rw [has_renew, if_neg (by decide)]
      exact client
    rw [use_of_has client]
    split
    next made =>
      rw [use_of_has still]
      have both : (engine.renew .captureClient answer.service).has .captureClient = true := by
        rw [has_renew, if_pos rfl]
        exact made
      cases answer.bufferSize with
      | none => exact ⟨opened, fun _ => ⟨still, both⟩⟩
      | some frames =>
          refine ⟨?_, fun _ => ⟨still, both⟩⟩
          exact ⟨⟨opened.sound.balanced, opened.sound.straight⟩, opened.others, rfl, rfl, rfl⟩
    next => exact ⟨opened, fun no => absurd no Bool.false_ne_true⟩
  next => exact ⟨sound.opened, fun no => absurd no Bool.false_ne_true⟩

theorem Sound.setFormat_opened (sound : engine.Sound) (used : Format) :
    Opened engine (engine.setFormat used) :=
  ⟨⟨sound.balanced, sound.straight⟩, fun _ _ => rfl, rfl, rfl, rfl⟩

/-- An opening keeps what is not the device's, and a successful one leaves both clients. -/
theorem openDevice_spec (sound : engine.Sound) (enumerator : engine.has .enumerator = true)
    (event : engine.has .audioEvent = true) :
    Opened engine (engine.openDevice cfg answer).2 ∧
      ((engine.openDevice cfg answer).1 = true →
        (engine.openDevice cfg answer).2.has .audioClient = true ∧
        (engine.openDevice cfg answer).2.has .captureClient = true) := by
  unfold openDevice
  have device := @findDevice_spec engine cfg answer sound enumerator
  generalize engine.findDevice cfg answer = outcome at device ⊢
  obtain ⟨ok, found⟩ := outcome
  obtain ⟨opened, there⟩ := device
  cases ok with
  | false => exact ⟨opened, fun no => absurd no Bool.false_ne_true⟩
  | true =>
      dsimp only at opened there ⊢
      obtain ⟨activated, kept, client⟩ := activate_spec opened.sound (there rfl) answer.activate
      have soFar := opened.trans activated
      split
      next made =>
        rw [made] at activated kept client soFar
        rw [made]
        have initialized := @initClient_spec _ cfg answer activated.sound kept client
        generalize (found.activate true).initClient cfg answer = outcome at initialized ⊢
        obtain ⟨format, last⟩ := outcome
        obtain ⟨lastOpened, lastClient⟩ := initialized
        have all := soFar.trans lastOpened
        cases format with
        | none => exact ⟨all, fun no => absurd no Bool.false_ne_true⟩
        | some used =>
            dsimp only at all lastClient ⊢
            have formatted := all.trans (all.sound.setFormat_opened used)
            have eventThere : (last.setFormat used).has .audioEvent = true := by
              rw [formatted.others _ (by decide)]
              exact event
            obtain ⟨connected, both⟩ :=
              @connect_spec _ answer formatted.sound (lastClient rfl) eventThere
            exact ⟨formatted.trans connected, both⟩
      next => exact ⟨soFar, fun no => absurd no Bool.false_ne_true⟩

/-! ## Giving a device back -/

theorem Sound.releaseAll (sound : engine.Sound) (cells : List Cell) :
    Sound { engine with ledger := engine.ledger.releaseAll Guarded.sameOwner cells } := by
  refine ⟨?_, sound.straight⟩
  apply Ledger.stable_balanced.releaseAll (fun _ _ => trivial)
  exact sound.balanced

theorem has_releaseAll (engine : Engine) (cells : List Cell) (cell : Cell) :
    Engine.has { engine with ledger := engine.ledger.releaseAll Guarded.sameOwner cells } cell =
      if cell ∈ cells then false else engine.has cell := by
  unfold has
  rw [Ledger.releaseAll_cells]
  split
  · rfl
  · rfl

theorem stopClient_ledger (engine : Engine) : engine.stopClient.ledger = engine.ledger := by
  unfold stopClient
  split
  · rfl
  · rfl

theorem Sound.stopClient (sound : engine.Sound) : engine.stopClient.Sound := by
  unfold Engine.stopClient
  split
  · exact ⟨sound.balanced, sound.straight⟩
  · exact sound

theorem Sound.release (sound : engine.Sound) : engine.release.Sound :=
  sound.stopClient.releaseAll _

theorem has_release (engine : Engine) (cell : Cell) :
    engine.release.has cell = if cell ∈ deviceCells then false else engine.has cell := by
  have stopped : engine.stopClient.has cell = engine.has cell := by
    unfold has
    rw [stopClient_ledger]
  rw [← stopped]
  exact engine.stopClient.has_releaseAll deviceCells cell

theorem Sound.teardown (sound : engine.Sound) : engine.teardown.Sound := sound.releaseAll _

theorem has_teardown (thread : engine.has .supervisorCom = false ∧ engine.has .mmcss = false)
    (cell : Cell) : engine.teardown.has cell = false := by
  unfold Engine.teardown
  rw [has_releaseAll]
  cases cell with
  | supervisorCom => exact thread.1
  | mmcss => exact thread.2
  | com => rfl
  | enumerator => rfl
  | notifyClient => rfl
  | wakeEvent => rfl
  | audioEvent => rfl
  | device => rfl
  | audioClient => rfl
  | captureClient => rfl
  | mixFormat => rfl

end Engine

end Wasapi

end RejiStudio.Pipeline
