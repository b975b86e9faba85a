import RejiStudio.Pipeline.NvencEncoder

/-!
# The resolution after any calls

The scale of `set_resolution` is absolute: it applies to the size that the encoder started
with.  So the size follows from the last call that succeeded.
-/

namespace RejiStudio.Pipeline

open RejiStudio.Lib

namespace NvencEncoder

def succeeded (scaling : Scaling) (e : NvencEncoder) (call : EncoderOperation × Bool) :
    Option Rat :=
  match call.1 with
  | .setResolution scale => if (e.perform scaling call.1 call.2).1 then some scale else none
  | .setBitrate _ | .setFpsLimit _ => none

def lastSuccess (scaling : Scaling) : NvencEncoder → List (EncoderOperation × Bool) → Option Rat
  | _, [] => none
  | e, call :: rest =>
      (lastSuccess scaling (e.perform scaling call.1 call.2).2 rest).or (e.succeeded scaling call)

def size (e : NvencEncoder) : UInt32 × UInt32 := (e.config.width, e.config.height)

/-- What the checks of `set_resolution` let through. -/
def Admits (scaling : Scaling) (e : NvencEncoder) (scale : Rat) : Prop :=
  0 < scale ∧ 128 ≤ scaling e.origWidth scale ∧ 128 ≤ scaling e.origHeight scale

/-- The start size stays, and only a resolution call that succeeds moves the size. -/
theorem perform_size (scaling : Scaling) (e : NvencEncoder) (call : EncoderOperation × Bool) :
    (e.perform scaling call.1 call.2).2.origWidth = e.origWidth ∧
      (e.perform scaling call.1 call.2).2.origHeight = e.origHeight ∧
      (e.perform scaling call.1 call.2).2.size =
        ((e.succeeded scaling call).map (e.targetSize scaling)).getD e.size ∧
      ∀ scale ∈ e.succeeded scaling call, e.Admits scaling scale := by
  obtain ⟨op, accepts⟩ := call
  dsimp only [succeeded]
  rcases e.perform_cases scaling op accepts with
    ⟨-, outcome⟩ | ⟨-, -, outcome⟩ | ⟨reaches, -, outcome⟩
  · rw [outcome]
    cases op <;> exact ⟨rfl, rfl, rfl, nofun⟩
  · rw [outcome]
    cases op <;> exact ⟨rfl, rfl, rfl, nofun⟩
  · rw [outcome]
    cases op with
    | setBitrate kbps | setFpsLimit fps => exact ⟨rfl, rfl, rfl, nofun⟩
    | setResolution scale =>
        refine ⟨rfl, rfl, rfl, ?_⟩
        intro other same
        cases same
        exact reaches.2

theorem eq_setResolution_of_succeeded {scaling : Scaling} {e : NvencEncoder}
    {call : EncoderOperation × Bool} {scale : Rat} (moved : e.succeeded scaling call = some scale) :
    call.1 = .setResolution scale := by
  obtain ⟨op, accepts⟩ := call
  cases op with
  | setBitrate kbps | setFpsLimit fps => cases moved
  | setResolution other =>
      obtain ⟨-, same⟩ := Option.ite_none_right_eq_some.mp moved
      rw [Option.some.inj same]

theorem mem_of_lastSuccess {scaling : Scaling} {start : NvencEncoder}
    {calls : List (EncoderOperation × Bool)} {scale : Rat}
    (last : lastSuccess scaling start calls = some scale) :
    ∃ accepts, (EncoderOperation.setResolution scale, accepts) ∈ calls := by
  induction calls generalizing start with
  | nil => cases last
  | cons call rest inductionHypothesis =>
      rw [lastSuccess, Option.or_eq_some_iff] at last
      rcases last with later | ⟨-, here⟩
      · obtain ⟨accepts, member⟩ := inductionHypothesis later
        exact ⟨accepts, List.mem_cons_of_mem call member⟩
      · obtain ⟨op, accepts⟩ := call
        cases eq_setResolution_of_succeeded here
        exact ⟨accepts, List.mem_cons_self⟩

theorem targetSize_congr {scaling : Scaling} {e other : NvencEncoder}
    (sameWidth : other.origWidth = e.origWidth) (sameHeight : other.origHeight = e.origHeight) :
    other.targetSize scaling = e.targetSize scaling := by
  funext scale
  rw [targetSize, targetSize, sameWidth, sameHeight]

/-- Whatever the calls before: the size is that of the last success, or the first size. -/
theorem exec_size {scaling : Scaling} {start finish : NvencEncoder}
    {calls : List (EncoderOperation × Bool)}
    (executed : Machine.exec (step scaling) start calls = some finish) :
    finish.size =
        ((lastSuccess scaling start calls).map (start.targetSize scaling)).getD start.size ∧
      ∀ scale ∈ lastSuccess scaling start calls, start.Admits scaling scale := by
  induction calls generalizing start with
  | nil =>
      cases executed
      exact ⟨rfl, nofun⟩
  | cons call rest inductionHypothesis =>
      obtain ⟨next, stepped, continued⟩ := Machine.exec_cons_eq_some executed
      cases stepped
      obtain ⟨sameWidth, sameHeight, moved, admitted⟩ := start.perform_size scaling call
      obtain ⟨later, laterAdmitted⟩ := inductionHypothesis continued
      rw [targetSize_congr sameWidth sameHeight, moved] at later
      rw [lastSuccess]
      cases last : lastSuccess scaling (start.perform scaling call.1 call.2).2 rest with
      | none =>
          rw [last] at later
          exact ⟨later, admitted⟩
      | some scale =>
          rw [last] at later laterAdmitted
          refine ⟨later, ?_⟩
          intro other same
          cases same
          have admits := laterAdmitted scale rfl
          rw [Admits, sameWidth, sameHeight] at admits
          exact admits

/-! ## The size in exact arithmetic -/

/-- The size that belongs to a scale: both dimensions are cut off at the point, and the
original size stands in where one of them is too large. -/
def scaledSize (width height : Nat) (scale : Rat) : Int × Int :=
  if (width * scale).floor > width ∨ (height * scale).floor > height then (width, height)
  else ((width * scale).floor, (height * scale).floor)

def configuredSize (width height : Nat) : Option Rat → Int × Int
  | none => (width, height)
  | some scale => scaledSize width height scale

def FitsDimension (dimension : UInt32) (scale : Rat) : Prop :=
  (dimension.toNat * scale).floor < 2 ^ 32

instance (dimension : UInt32) (scale : Rat) : Decidable (FitsDimension dimension scale) :=
  inferInstanceAs (Decidable ((dimension.toNat * scale).floor < 2 ^ 32))

theorem toNat_exactScaling {dimension : UInt32} {scale : Rat} (positive : 0 < scale)
    (fits : FitsDimension dimension scale) :
    ((exactScaling dimension scale).toNat : Int) = (dimension.toNat * scale).floor := by
  have nonnegative : 0 ≤ (dimension.toNat * scale).floor := by
    rw [Rat.le_floor_iff]
    exact Rat.mul_nonneg (by exact_mod_cast Nat.zero_le _) (Rat.le_of_lt positive)
  rw [exactScaling, UInt32.toNat_ofNat_of_lt']
  · exact Int.toNat_of_nonneg nonnegative
  · exact (Int.toNat_lt nonnegative).mpr fits

theorem scaledSize_le (width height : Nat) (scale : Rat) :
    (scaledSize width height scale).1 ≤ width ∧ (scaledSize width height scale).2 ≤ height := by
  unfold scaledSize
  split
  next => exact ⟨Int.le_refl _, Int.le_refl _⟩
  next within =>
    simp only [gt_iff_lt, not_or, Int.not_lt] at within
    exact within

theorem configuredSize_le (width height : Nat) (last : Option Rat) :
    (configuredSize width height last).1 ≤ width ∧
      (configuredSize width height last).2 ≤ height := by
  cases last with
  | none => exact ⟨Int.le_refl _, Int.le_refl _⟩
  | some scale => exact scaledSize_le width height scale

theorem scaledSize_one (width height : Nat) : scaledSize width height 1 = (↑width, ↑height) := by
  have exact : ∀ dimension : Nat, ((dimension : Rat) * 1).floor = dimension := by
    intro dimension
    rw [Rat.mul_one, ← Rat.intCast_natCast, Rat.floor_intCast]
  rw [scaledSize, exact, exact, ite_self]

/-- The check comes before the ceiling, so it holds behind it for a start size that meets
it. -/
theorem least_scaledSize_iff {width height : Nat} {scale : Rat}
    (wide : 128 ≤ (width * scale).floor) (high : 128 ≤ (height * scale).floor) :
    (128 ≤ (scaledSize width height scale).1 ∧ 128 ≤ (scaledSize width height scale).2) ↔
      128 ≤ width ∧ 128 ≤ height := by
  unfold scaledSize
  split
  next => simp
  next within =>
    simp only [gt_iff_lt, not_or, Int.not_lt] at within
    constructor
    · intro _
      exact ⟨by omega, by omega⟩
    · intro _
      exact ⟨wide, high⟩

def dimensions (size : UInt32 × UInt32) : Int × Int := (size.1.toNat, size.2.toNat)

theorem dimensions_targetSize {e : NvencEncoder} {scale : Rat} (positive : 0 < scale)
    (fitsWidth : FitsDimension e.origWidth scale) (fitsHeight : FitsDimension e.origHeight scale) :
    dimensions (e.targetSize exactScaling scale) =
      scaledSize e.origWidth.toNat e.origHeight.toNat scale := by
  have width := toNat_exactScaling positive fitsWidth
  have height := toNat_exactScaling positive fitsHeight
  have exceeds : (exactScaling e.origWidth scale > e.origWidth ∨
      exactScaling e.origHeight scale > e.origHeight) ↔
      ((e.origWidth.toNat * scale).floor > e.origWidth.toNat ∨
        (e.origHeight.toNat * scale).floor > e.origHeight.toNat) := by
    rw [gt_iff_lt, gt_iff_lt, UInt32.lt_iff_toNat_lt, UInt32.lt_iff_toNat_lt, ← width, ← height]
    omega
  rw [targetSize, scaledSize]
  by_cases large : (e.origWidth.toNat * scale).floor > e.origWidth.toNat ∨
      (e.origHeight.toNat * scale).floor > e.origHeight.toNat
  · rw [if_pos large, if_pos (exceeds.mpr large)]
    rfl
  · rw [if_neg large, if_neg (mt exceeds.mp large), dimensions, width, height]

theorem init_size {cfg : NvencConfig} {accepts : Bool} {e : NvencEncoder}
    (built : init cfg accepts = some e) :
    cfg.width = e.origWidth ∧ cfg.height = e.origHeight ∧ e.size = (e.origWidth, e.origHeight) := by
  unfold init at built
  split at built
  · cases built
  · dsimp only at built
    obtain ⟨-, same⟩ := Option.ite_none_right_eq_some.mp built
    cases same
    exact ⟨rfl, rfl, rfl⟩

/-- An encoder and any calls of its setters, with any answers of the driver: the configured
size is the original one until a resolution call succeeds and then follows from the scale of
the last one that did.  It never exceeds the original size, keeps the minimum if the original
size does, and scale one gives the original size back. -/
theorem resolution_history_independent (cfg : NvencConfig) (start finish : NvencEncoder)
    (calls : List (EncoderOperation × Bool)) (built : init cfg true = some start)
    (fits : ∀ scale accepts, (EncoderOperation.setResolution scale, accepts) ∈ calls →
      FitsDimension cfg.width scale ∧ FitsDimension cfg.height scale)
    (executed : Machine.exec (step exactScaling) start calls = some finish) :
    dimensions finish.size =
        configuredSize cfg.width.toNat cfg.height.toNat (lastSuccess exactScaling start calls) ∧
      ((lastSuccess exactScaling start calls).isSome →
        (128 ≤ finish.config.width ∧ 128 ≤ finish.config.height ↔
          128 ≤ cfg.width ∧ 128 ≤ cfg.height)) ∧
      finish.config.width ≤ cfg.width ∧ finish.config.height ≤ cfg.height ∧
      (lastSuccess exactScaling start calls = some 1 →
        finish.config.width = cfg.width ∧ finish.config.height = cfg.height) := by
  obtain ⟨sameWidth, sameHeight, sizeAtStart⟩ := init_size built
  rw [sameWidth, sameHeight] at fits ⊢
  obtain ⟨sizeAtEnd, admitted⟩ := exec_size executed
  have fitted : ∀ scale, lastSuccess exactScaling start calls = some scale →
      FitsDimension start.origWidth scale ∧ FitsDimension start.origHeight scale := by
    intro scale last
    obtain ⟨accepts, member⟩ := mem_of_lastSuccess last
    exact fits scale accepts member
  have whole : dimensions finish.size = configuredSize start.origWidth.toNat
      start.origHeight.toNat (lastSuccess exactScaling start calls) := by
    rw [sizeAtEnd, sizeAtStart]
    cases last : lastSuccess exactScaling start calls with
    | none => rfl
    | some scale =>
        exact dimensions_targetSize (admitted scale last).1 (fitted scale last).1
          (fitted scale last).2
  have width : (finish.config.width.toNat : Int) = (configuredSize start.origWidth.toNat
      start.origHeight.toNat (lastSuccess exactScaling start calls)).1 := congrArg Prod.fst whole
  have height : (finish.config.height.toNat : Int) = (configuredSize start.origWidth.toNat
      start.origHeight.toNat (lastSuccess exactScaling start calls)).2 := congrArg Prod.snd whole
  simp only [UInt32.le_iff_toNat_le, ← UInt32.toNat_inj]
  refine ⟨whole, ?_, ?_⟩
  · intro success
    obtain ⟨scale, last⟩ := Option.isSome_iff_exists.mp success
    obtain ⟨positive, wide, high⟩ := admitted scale last
    obtain ⟨fitsWidth, fitsHeight⟩ := fitted scale last
    rw [UInt32.le_iff_toNat_le, ← Int.ofNat_le, toNat_exactScaling positive fitsWidth] at wide
    rw [UInt32.le_iff_toNat_le, ← Int.ofNat_le, toNat_exactScaling positive fitsHeight] at high
    have least := least_scaledSize_iff wide high
    rw [last] at width height
    rw [← Int.ofNat_le, ← Int.ofNat_le, width, height]
    exact least
  · have bounded := configuredSize_le start.origWidth.toNat start.origHeight.toNat
      (lastSuccess exactScaling start calls)
    rw [← width, ← height] at bounded
    refine ⟨by omega, by omega, ?_⟩
    intro restored
    rw [restored, configuredSize, scaledSize_one] at width height
    exact ⟨by omega, by omega⟩

/-- Three quarters of full HD stay when a bitrate and a half are refused. -/
theorem resolution_history_independent_refused :
    ∃ start finish, init ⟨1920, 1080, 60, 1, 6000, 7500⟩ true = some start ∧
      Machine.exec (step exactScaling) start
        [(.setResolution (750 / 1000), true), (.setBitrate 4000, false),
          (.setResolution (500 / 1000), false)] = some finish ∧
      dimensions finish.size = (1440, 810) := by
  refine ⟨_, _, rfl, rfl, ?_⟩
  have whole := (resolution_history_independent ⟨1920, 1080, 60, 1, 6000, 7500⟩ _ _
    [(.setResolution (750 / 1000), true), (.setBitrate 4000, false),
      (.setResolution (500 / 1000), false)] rfl ?_ rfl).1
  · rw [whole]
    decide +kernel
  · intro scale accepts member
    simp only [List.mem_cons, List.not_mem_nil, Prod.mk.injEq, or_false,
      EncoderOperation.setResolution.injEq, reduceCtorEq, false_and, false_or] at member
    rcases member with ⟨rfl, -⟩ | ⟨rfl, -⟩
    · exact ⟨by decide +kernel, by decide +kernel⟩
    · exact ⟨by decide +kernel, by decide +kernel⟩

/-- A source of a hundred pixels: twice the size passes the check, the ceiling gives the
hundred back. -/
theorem small_source_stays_small :
    ∃ start finish, init ⟨100, 100, 60, 1, 6000, 7500⟩ true = some start ∧
      Machine.exec (step exactScaling) start [(.setResolution (2000 / 1000), true)] =
        some finish ∧
      lastSuccess exactScaling start [(.setResolution (2000 / 1000), true)] =
        some (2000 / 1000) ∧
      finish.config.width = 100 ∧ ¬128 ≤ finish.config.width := by
  refine ⟨_, _, rfl, rfl, ?_, ?_, ?_⟩ <;> decide +kernel

end NvencEncoder

end RejiStudio.Pipeline
