import Mathlib.Data.List.Infix

/-!
# Annex-B start codes

The scan for start codes and the extraction of NAL units, and the converse: a
stream put together from NAL units that hold no start code yields these units.
-/

namespace RejiStudio.Rtmp

/-- The scan of `findStartCode` at index `index`, with the data from there on. -/
def scanStartCode : List UInt8 → Nat → Option Nat
  | first :: second :: third :: rest, index =>
      if first ≠ 0 ∨ second ≠ 0 then
        scanStartCode (second :: third :: rest) (index + 1)
      else if third = 1 then
        some (index + 3)
      else if third = 0 ∧ rest.head? = some 1 then
        some (index + 4)
      else
        scanStartCode (second :: third :: rest) (index + 1)
  | _, _ => none

/-- The end of the first start code at or after `start`. -/
def findStartCode (data : List UInt8) (start : Nat) : Option Nat :=
  if data.length < 3 then none else scanStartCode (data.drop start) start

structure Nal where
  start : Nat
  stop : Nat
  deriving DecidableEq, Repr

/-- The end of the NAL unit that begins at `start`: the next start code is
trimmed off. -/
def nalStop (data : List UInt8) (start : Nat) : Nat :=
  match findStartCode data start with
  | some nextStart =>
      let stop := nextStart - 3
      -- A four-byte start code leaves one more zero before the last three bytes.
      if 1 ≤ stop ∧ data[stop - 1]? = some 0 then stop - 1 else stop
  | none => data.length

/-- The next NAL unit; `previous` is the start of the one before, or zero. -/
def nextNal (data : List UInt8) (previous : Nat) : Option Nal :=
  (findStartCode data previous).map fun start => ⟨start, nalStop data start⟩

/-- The units that the loop of `rj_rtmp_send` visits. -/
def nalUnitsFrom (data : List UInt8) : Nat → Nat → List (List UInt8)
  | 0, _ => []
  | fuel + 1, previous =>
      match nextNal data previous with
      | none => []
      | some nal => data.extract nal.start nal.stop :: nalUnitsFrom data fuel nal.start

/-- Every round moves the start forward, so the length bounds the number of
rounds. -/
def nalUnits (data : List UInt8) : List (List UInt8) := nalUnitsFrom data data.length 0

theorem scanStartCode_bounds {bytes : List UInt8} {index found : Nat}
    (scanned : scanStartCode bytes index = some found) :
    index + 3 ≤ found ∧ found ≤ index + bytes.length := by
  fun_induction scanStartCode bytes index with
  | case1 first second third rest index skip inductionHypothesis =>
      have bounds := inductionHypothesis scanned
      simp only [List.length_cons] at bounds ⊢
      omega
  | case2 first second rest index zeros =>
      cases scanned
      simp
  | case3 first second third rest index zeros notOne long =>
      cases scanned
      cases rest with
      | nil => simp at long
      | cons => simp
  | case4 first second third rest index zeros notOne notLong inductionHypothesis =>
      have bounds := inductionHypothesis scanned
      simp only [List.length_cons] at bounds ⊢
      omega
  | case5 => cases scanned

theorem findStartCode_bounds {data : List UInt8} {start found : Nat}
    (scanned : findStartCode data start = some found) :
    start + 3 ≤ found ∧ found ≤ data.length := by
  unfold findStartCode at scanned
  split at scanned
  next => cases scanned
  next =>
    have bounds := scanStartCode_bounds scanned
    rw [List.length_drop] at bounds
    omega

theorem nextNal_start {data : List UInt8} {previous : Nat} {nal : Nal}
    (next : nextNal data previous = some nal) : findStartCode data previous = some nal.start := by
  obtain ⟨start, found, rfl⟩ := Option.map_eq_some_iff.mp next
  exact found

theorem nalUnitsFrom_fuel (data : List UInt8) {fuel more previous : Nat}
    (enough : data.length ≤ fuel + previous) :
    nalUnitsFrom data (fuel + more) previous = nalUnitsFrom data fuel previous := by
  induction fuel generalizing previous with
  | zero =>
      cases more with
      | zero => rfl
      | succ more =>
          have ended : nextNal data previous = none := by
            cases next : nextNal data previous with
            | none => rfl
            | some nal =>
                have bounds := findStartCode_bounds (nextNal_start next)
                omega
          simp [nalUnitsFrom, ended]
  | succ fuel inductionHypothesis =>
      rw [Nat.succ_add]
      simp only [nalUnitsFrom]
      cases next : nextNal data previous with
      | none => rfl
      | some nal =>
          have bounds := findStartCode_bounds (nextNal_start next)
          have left : data.length ≤ fuel + nal.start := by omega
          simp only [inductionHypothesis left]

/-! ## Streams put together from NAL units -/

def startCode (long : Bool) : List UInt8 := if long then [0, 0, 0, 1] else [0, 0, 1]

/-- Each unit behind a start code of four bytes or of three. -/
def annexB (units : List (List UInt8 × Bool)) : List UInt8 :=
  units.flatMap fun unit => startCode unit.2 ++ unit.1

@[simp]
theorem annexB_nil : annexB [] = [] := rfl

@[simp]
theorem annexB_cons (unit : List UInt8 × Bool) (units : List (List UInt8 × Bool)) :
    annexB (unit :: units) = startCode unit.2 ++ unit.1 ++ annexB units := rfl

/-- Bytes without the three start-code bytes and without a trailing zero. -/
structure Clean (bytes : List UInt8) : Prop where
  noStartCode : ¬[0, 0, 1] <:+: bytes
  noTrailingZero : bytes.getLast? ≠ some 0

theorem Clean.nil : Clean [] := ⟨by simp, by simp⟩

theorem noStartCode_tail {first : UInt8} {bytes : List UInt8}
    (none_ : ¬[0, 0, 1] <:+: first :: bytes) : ¬[0, 0, 1] <:+: bytes :=
  fun present => none_ (present.trans (List.suffix_cons first bytes).isInfix)

theorem Clean.tail {first : UInt8} {bytes : List UInt8} (clean : Clean (first :: bytes)) :
    Clean bytes where
  noStartCode := noStartCode_tail clean.noStartCode
  noTrailingZero := by
    have last := clean.noTrailingZero
    cases bytes with
    | nil => simp
    | cons second rest => simpa using last

theorem scanStartCode_skip {first : UInt8} {bytes : List UInt8} (index : Nat)
    (notShort : ¬[0, 0, 1] <+: first :: bytes) (notLong : ¬[0, 0, 0, 1] <+: first :: bytes) :
    scanStartCode (first :: bytes) index = scanStartCode bytes (index + 1) := by
  rcases bytes with _ | ⟨second, _ | ⟨third, rest⟩⟩
  · rfl
  · rfl
  · rw [scanStartCode]
    split
    next => rfl
    next zeros =>
      obtain ⟨rfl, rfl⟩ : first = 0 ∧ second = 0 := by simpa using zeros
      split
      next one =>
        subst one
        exact absurd ⟨rest, rfl⟩ notShort
      next =>
        split
        next long =>
          obtain ⟨rfl, head⟩ := long
          obtain ⟨tail, rfl⟩ := List.head?_eq_some_iff.mp head
          exact absurd ⟨tail, rfl⟩ notLong
        next => rfl

theorem scanStartCode_none {bytes : List UInt8} (index : Nat)
    (none_ : ¬[0, 0, 1] <:+: bytes) : scanStartCode bytes index = none := by
  induction bytes generalizing index with
  | nil => rfl
  | cons first bytes inductionHypothesis =>
      have tailNone := noStartCode_tail none_
      rw [scanStartCode_skip index, inductionHypothesis _ tailNone]
      · exact fun present => none_ present.isInfix
      · rintro ⟨rest, present⟩
        cases present
        exact tailNone ⟨[], rest, rfl⟩

/-- Behind clean bytes, the scan stops at the start code that follows them. -/
theorem scanStartCode_append {bytes : List UInt8} (index : Nat) (clean : Clean bytes)
    (long : Bool) (tail : List UInt8) :
    scanStartCode (bytes ++ startCode long ++ tail) index =
      some (index + bytes.length + (startCode long).length) := by
  induction bytes generalizing index with
  | nil => cases long <;> simp [startCode, scanStartCode]
  | cons first bytes inductionHypothesis =>
      have continued := inductionHypothesis (index + 1) clean.tail
      have none_ := clean.noStartCode
      have last := clean.noTrailingZero
      rw [List.cons_append, List.cons_append, scanStartCode_skip index, continued]
      · simp only [List.length_cons, Option.some.injEq]
        omega
      · rintro ⟨rest, present⟩
        -- Three bytes at the front lie inside the clean bytes or meet their last byte.
        rcases bytes with _ | ⟨second, _ | ⟨third, more⟩⟩
        · cases long <;> simp_all [startCode]
        · cases long <;> simp_all [startCode]
        · cases present
          exact none_ ⟨[], more, rfl⟩
      · rintro ⟨rest, present⟩
        rcases bytes with _ | ⟨second, _ | ⟨third, _ | ⟨fourth, more⟩⟩⟩
        · cases long <;> simp_all [startCode]
        · cases long <;> simp_all [startCode]
        · cases long <;> simp_all [startCode]
        · cases present
          exact none_ ⟨[0], more, rfl⟩

theorem findStartCode_none {data bytes : List UInt8} {position : Nat}
    (here : data.drop position = bytes) (none_ : ¬[0, 0, 1] <:+: bytes) :
    findStartCode data position = none := by
  unfold findStartCode
  split
  · rfl
  · rw [here]
    exact scanStartCode_none _ none_

theorem findStartCode_append {data bytes tail : List UInt8} {position : Nat} {long : Bool}
    (here : data.drop position = bytes ++ startCode long ++ tail) (clean : Clean bytes) :
    findStartCode data position =
      some (position + bytes.length + (startCode long).length) := by
  have size := congrArg List.length here
  have atLeastThree : 3 ≤ (startCode long).length := by cases long <;> simp [startCode]
  simp only [List.length_drop, List.length_append] at size
  rw [findStartCode, if_neg (by omega), here]
  exact scanStartCode_append position clean long tail

theorem nalStop_annexB {data nal : List UInt8} {units : List (List UInt8 × Bool)} {start : Nat}
    (here : data.drop start = nal ++ annexB units) (inside : start ≤ data.length)
    (clean : Clean nal) (nonempty : nal ≠ []) : nalStop data start = start + nal.length := by
  have size := congrArg List.length here
  rw [List.length_drop] at size
  have positive : 0 < nal.length := List.length_pos_iff.mpr nonempty
  cases units with
  | nil =>
      rw [annexB_nil, List.append_nil] at here size
      rw [nalStop, findStartCode_none here clean.noStartCode]
      dsimp only
      omega
  | cons unit units =>
      obtain ⟨next, long⟩ := unit
      rw [annexB_cons, List.append_assoc, ← List.append_assoc] at here
      have found := findStartCode_append here clean
      have byte : ∀ offset, data[start + offset]? =
          (nal ++ startCode long ++ (next ++ annexB units))[offset]? := by
        intro offset
        rw [← here, List.getElem?_drop]
      rw [nalStop, found]
      dsimp only
      cases long with
      | false =>
          have length : start + nal.length + (startCode false).length - 3 =
              start + nal.length := by simp [startCode]
          have lastByte : data[start + nal.length - 1]? = nal.getLast? := by
            rw [Nat.add_sub_assoc positive, byte, List.append_assoc,
              List.getElem?_append_left (by omega), List.getLast?_eq_getElem?]
          rw [length, lastByte, if_neg]
          exact fun both => clean.noTrailingZero both.2
      | true =>
          have length : start + nal.length + (startCode true).length - 3 =
              start + nal.length + 1 := by simp [startCode]
          have zeroByte : data[start + nal.length]? = some 0 := by
            rw [byte, List.append_assoc, List.getElem?_append_right (by omega)]
            simp [startCode]
          rw [length, Nat.add_sub_cancel, if_pos ⟨by omega, zeroByte⟩]

/-- From the start of one unit, the loop visits the units that follow it. -/
theorem nalUnitsFrom_annexB {data previous : List UInt8} {units : List (List UInt8 × Bool)}
    {position fuel : Nat} (here : data.drop position = previous ++ annexB units)
    (inside : position ≤ data.length) (cleanPrevious : Clean previous)
    (clean : ∀ unit ∈ units, unit.1 ≠ [] ∧ Clean unit.1) (enough : units.length ≤ fuel) :
    nalUnitsFrom data fuel position = units.map Prod.fst := by
  induction units generalizing previous position fuel with
  | nil =>
      rw [annexB_nil, List.append_nil] at here
      have ended := findStartCode_none here cleanPrevious.noStartCode
      cases fuel <;> simp [nalUnitsFrom, nextNal, ended]
  | cons unit units inductionHypothesis =>
      obtain ⟨nal, long⟩ := unit
      obtain ⟨nonempty, cleanNal⟩ := clean (nal, long) List.mem_cons_self
      obtain ⟨fuel, rfl⟩ := Nat.exists_eq_add_of_le' (Nat.le_trans (Nat.succ_pos _) enough)
      rw [annexB_cons, List.append_assoc, ← List.append_assoc] at here
      have found := findStartCode_append here cleanPrevious
      have startInside := (findStartCode_bounds found).2
      have there : data.drop (position + previous.length + (startCode long).length) =
          nal ++ annexB units := by
        rw [Nat.add_assoc, ← List.drop_drop, here, ← List.length_append, List.drop_left]
      have stop := nalStop_annexB there startInside cleanNal nonempty
      have bytes : data.extract (position + previous.length + (startCode long).length)
          (position + previous.length + (startCode long).length + nal.length) = nal := by
        rw [List.extract_eq_take_drop, there, Nat.add_sub_cancel_left, List.take_left]
      have restEnough : units.length ≤ fuel := by simpa using enough
      have rest := inductionHypothesis there startInside cleanNal
        (fun unit membership => clean unit (List.mem_cons_of_mem _ membership)) restEnough
      simp only [nalUnitsFrom, nextNal, found, Option.map_some, stop, bytes, rest, List.map_cons]

theorem length_le_length_annexB (units : List (List UInt8 × Bool)) :
    units.length ≤ (annexB units).length := by
  induction units with
  | nil => simp
  | cons unit units inductionHypothesis =>
      have positive : 0 < (startCode unit.2).length := by
        unfold startCode
        split <;> simp
      simp only [annexB_cons, List.length_append, List.length_cons]
      omega

theorem length_le_length_annexB_of_mem {unit : List UInt8 × Bool}
    {units : List (List UInt8 × Bool)} (membership : unit ∈ units) :
    unit.1.length ≤ (annexB units).length := by
  induction units with
  | nil => cases membership
  | cons head units inductionHypothesis =>
      simp only [annexB_cons, List.length_append]
      rcases List.mem_cons.mp membership with rfl | later
      · omega
      · have within := inductionHypothesis later
        omega

/-- The units of a stream that was put together from clean units are these. -/
theorem nalUnits_annexB {units : List (List UInt8 × Bool)}
    (clean : ∀ unit ∈ units, unit.1 ≠ [] ∧ Clean unit.1) :
    nalUnits (annexB units) = units.map Prod.fst := by
  have here : (annexB units).drop 0 = [] ++ annexB units := rfl
  exact nalUnitsFrom_annexB here (Nat.zero_le _) Clean.nil clean (length_le_length_annexB units)

end RejiStudio.Rtmp
