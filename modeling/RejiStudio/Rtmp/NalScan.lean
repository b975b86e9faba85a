import RejiStudio.Rtmp.AnnexB

/-!
# The scan for NAL units

The loop of `rj_rtmp_send` asks for the next unit from the start of the one before.
Over any bytes it ends, stays inside them and moves forward.
-/

namespace RejiStudio.Rtmp

/-- The three bytes of a start code end at the index that the scan returns. -/
theorem scanStartCode_prefix {bytes : List UInt8} {index found : Nat}
    (scanned : scanStartCode bytes index = some found) :
    ∃ front rest, bytes = front ++ 0 :: 0 :: 1 :: rest ∧ found = index + front.length + 3 := by
  fun_induction scanStartCode bytes index with
  | case1 first second third rest index skip inductionHypothesis =>
      obtain ⟨front, tail, bytes, found⟩ := inductionHypothesis scanned
      refine ⟨first :: front, tail, by rw [bytes, List.cons_append], ?_⟩
      rw [found, List.length_cons]
      omega
  | case2 first second rest index zeros =>
      cases scanned
      obtain ⟨rfl, rfl⟩ : first = 0 ∧ second = 0 := by simpa using zeros
      exact ⟨[], rest, rfl, rfl⟩
  | case3 first second third rest index zeros notOne long =>
      cases scanned
      obtain ⟨rfl, rfl⟩ : first = 0 ∧ second = 0 := by simpa using zeros
      obtain ⟨rfl, head⟩ := long
      obtain ⟨tail, rfl⟩ := List.head?_eq_some_iff.mp head
      exact ⟨[0], tail, rfl, rfl⟩
  | case4 first second third rest index zeros notOne notLong inductionHypothesis =>
      obtain ⟨front, tail, bytes, found⟩ := inductionHypothesis scanned
      refine ⟨first :: front, tail, by rw [bytes, List.cons_append], ?_⟩
      rw [found, List.length_cons]
      omega
  | case5 => cases scanned

/-- A start code ends at `position`. -/
def EndsStartCode (data : List UInt8) (position : Nat) : Prop :=
  3 ≤ position ∧ data[position - 3]? = some 0 ∧ data[position - 2]? = some 0 ∧
    data[position - 1]? = some 1

theorem findStartCode_endsStartCode {data : List UInt8} {start found : Nat}
    (scanned : findStartCode data start = some found) : EndsStartCode data found := by
  unfold findStartCode at scanned
  split at scanned
  next => cases scanned
  next =>
    obtain ⟨front, rest, bytes, rfl⟩ := scanStartCode_prefix scanned
    have byte : ∀ offset, data[start + (front.length + offset)]? =
        (0 :: 0 :: 1 :: rest : List UInt8)[offset]? := by
      intro offset
      rw [← List.getElem?_drop, bytes, List.getElem?_append_right (by omega),
        Nat.add_sub_cancel_left]
    refine ⟨by omega, ?_, ?_, ?_⟩
    · exact byte 0
    · exact byte 1
    · exact byte 2

/-- The trimmed end lies behind the start and before the next one: where nothing lies
between two start codes, the byte before the end is the one of the first. -/
theorem nalStop_bounds {data : List UInt8} {start : Nat} (ends : EndsStartCode data start)
    (inside : start ≤ data.length) :
    start ≤ nalStop data start ∧ nalStop data start ≤ data.length ∧
      ∀ next, findStartCode data start = some next → nalStop data start + 3 ≤ next := by
  unfold nalStop
  cases found : findStartCode data start with
  | none => exact ⟨inside, Nat.le_refl _, nofun⟩
  | some nextStart =>
      have bounds := findStartCode_bounds found
      dsimp only
      split
      next trimmed =>
        have apart : nextStart - 3 ≠ start := by
          intro same
          have one := ends.2.2.2
          rw [same] at trimmed
          rw [trimmed.2] at one
          exact absurd one (by decide)
        refine ⟨by omega, by omega, ?_⟩
        intro next same
        cases same
        omega
      next =>
        refine ⟨by omega, by omega, ?_⟩
        intro next same
        cases same
        omega

theorem nextNal_moves {data : List UInt8} {previous : Nat} {nal : Nal}
    (next : nextNal data previous = some nal) :
    previous + 3 ≤ nal.start ∧ nal.start ≤ data.length :=
  findStartCode_bounds (nextNal_start next)

/-- The units that the loop finds after `previous`. -/
def nals (data : List UInt8) (previous : Nat) : List Nal :=
  match _ : nextNal data previous with
  | none => []
  | some nal => nal :: nals data nal.start
termination_by data.length - previous
decreasing_by
  have moves := nextNal_moves ‹nextNal data previous = some nal›
  omega

theorem nalUnitsFrom_eq_nals (data : List UInt8) {fuel previous : Nat}
    (enough : data.length ≤ fuel + previous) :
    nalUnitsFrom data fuel previous =
      (nals data previous).map fun nal => data.extract nal.start nal.stop := by
  induction fuel generalizing previous with
  | zero =>
      rw [nals]
      split
      next => rfl
      next nal next =>
        have moves := nextNal_moves next
        omega
  | succ fuel inductionHypothesis =>
      rw [nals, nalUnitsFrom]
      split
      next ended =>
        rw [ended]
        rfl
      next nal next =>
        have moves := nextNal_moves next
        rw [next, List.map_cons, inductionHypothesis (by omega)]

theorem nalUnits_eq_nals (data : List UInt8) :
    nalUnits data = (nals data 0).map fun nal => data.extract nal.start nal.stop :=
  nalUnitsFrom_eq_nals data (Nat.le_refl _)

structure Nal.WellFormed (data : List UInt8) (nal : Nal) : Prop where
  ordered : nal.start ≤ nal.stop
  inside : nal.stop ≤ data.length
  preceded : EndsStartCode data nal.start

theorem nextNal_wellFormed {data : List UInt8} {previous : Nat} {nal : Nal}
    (next : nextNal data previous = some nal) : nal.WellFormed data := by
  obtain ⟨start, found, rfl⟩ := Option.map_eq_some_iff.mp next
  have ends := findStartCode_endsStartCode found
  obtain ⟨ordered, inside, _⟩ := nalStop_bounds ends (findStartCode_bounds found).2
  exact ⟨ordered, inside, ends⟩

theorem nextNal_disjoint {data : List UInt8} {previous : Nat} {nal later : Nal}
    (next : nextNal data previous = some nal) (after : nextNal data nal.start = some later) :
    nal.stop + 3 ≤ later.start := by
  obtain ⟨start, found, rfl⟩ := Option.map_eq_some_iff.mp next
  have ends := findStartCode_endsStartCode found
  exact (nalStop_bounds ends (findStartCode_bounds found).2).2.2 _ (nextNal_start after)

theorem nals_wellFormed {data : List UInt8} {previous : Nat} {nal : Nal}
    (membership : nal ∈ nals data previous) : nal.WellFormed data ∧ previous + 3 ≤ nal.start := by
  fun_induction nals data previous with
  | case1 => cases membership
  | case2 previous first next inductionHypothesis =>
      have moves := nextNal_moves next
      rcases List.mem_cons.mp membership with rfl | later
      · exact ⟨nextNal_wellFormed next, moves.1⟩
      · obtain ⟨wellFormed, further⟩ := inductionHypothesis later
        exact ⟨wellFormed, by omega⟩

theorem nals_after {data : List UInt8} {previous : Nat} {nal later : Nal}
    (next : nextNal data previous = some nal) (membership : later ∈ nals data nal.start) :
    nal.stop + 3 ≤ later.start := by
  rw [nals] at membership
  split at membership
  next => cases membership
  next first after =>
    have apart := nextNal_disjoint next after
    rcases List.mem_cons.mp membership with rfl | further
    · exact apart
    · have behind := (nals_wellFormed further).2
      omega

theorem nals_pairwise (data : List UInt8) (previous : Nat) :
    (nals data previous).Pairwise fun nal later =>
      nal.start + 3 ≤ later.start ∧ nal.stop + 3 ≤ later.start := by
  fun_induction nals data previous with
  | case1 => exact .nil
  | case2 previous nal next inductionHypothesis =>
      apply List.pairwise_cons.mpr
      refine ⟨?_, inductionHypothesis⟩
      intro later membership
      exact ⟨(nals_wellFormed membership).2, nals_after next membership⟩

/-- Each round moves the start by three bytes or more. -/
theorem length_nals (data : List UInt8) {previous : Nat} (inside : previous ≤ data.length) :
    previous + 3 * (nals data previous).length ≤ data.length := by
  fun_induction nals data previous with
  | case1 => simpa using inside
  | case2 previous nal next inductionHypothesis =>
      have moves := nextNal_moves next
      have rest := inductionHypothesis moves.2
      rw [List.length_cons]
      omega

/-- Over any bytes the loop ends after at most a third as many rounds, and its units lie
inside the bytes, behind a start code each, in order and apart. -/
theorem nal_loop_bounded (data : List UInt8) :
    nalUnits data = (nals data 0).map (fun nal => data.extract nal.start nal.stop) ∧
      3 * (nals data 0).length ≤ data.length ∧
      (∀ nal ∈ nals data 0, nal.start ≤ nal.stop ∧ nal.stop ≤ data.length) ∧
      (∀ nal ∈ nals data 0, EndsStartCode data nal.start) ∧
      (nals data 0).Pairwise (fun nal later => nal.start < later.start) ∧
      (nals data 0).Pairwise (fun nal later => nal.stop ≤ later.start) := by
  have apart := nals_pairwise data 0
  have size := length_nals data (Nat.zero_le _)
  refine ⟨nalUnits_eq_nals data, by omega, ?_, ?_, ?_, ?_⟩
  · intro nal membership
    have wellFormed := (nals_wellFormed membership).1
    exact ⟨wellFormed.ordered, wellFormed.inside⟩
  · intro nal membership
    exact (nals_wellFormed membership).1.preceded
  · apply apart.imp
    intro nal later both
    omega
  · apply apart.imp
    intro nal later both
    omega

/-- Two adjacent start codes, and one that ends the bytes. -/
example : nalUnits [0, 0, 1, 0, 0, 1, 9, 0, 0, 0, 1] = [[], [9], []] := by decide

end RejiStudio.Rtmp
