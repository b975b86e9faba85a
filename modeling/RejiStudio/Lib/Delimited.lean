import Mathlib.Data.List.DropRight
import RejiStudio.Lib.Text

/-!
# Delimited text

Pieces of text with a separator between them, and blanks around the pieces.
Splitting at the separator gives the pieces back, trimming reaches the first and the
last of them only.
-/

namespace RejiStudio.Lib.Text

def IsBlank (text : List Char) : Prop := ∀ c ∈ text, isWhiteSpace c = true

def IsDense (text : List Char) : Prop := ∀ c ∈ text, isWhiteSpace c = false

instance (text : List Char) : Decidable (IsBlank text) :=
  List.decidableBAll _ text

instance (text : List Char) : Decidable (IsDense text) :=
  List.decidableBAll _ text

def trimEnd (text : List Char) : List Char := text.rdropWhile isWhiteSpace

theorem trim_eq (text : List Char) : trim text = trimEnd (trimStart text) := rfl

/-! ## Blanks -/

theorem trimStart_append_of_blank {blank : List Char} (white : IsBlank blank)
    (text : List Char) : trimStart (blank ++ text) = trimStart text :=
  List.dropWhile_append_of_pos white

theorem trimEnd_append_of_blank {blank : List Char} (white : IsBlank blank)
    (text : List Char) : trimEnd (text ++ blank) = trimEnd text := by
  have reversed : ∀ c ∈ blank.reverse, isWhiteSpace c = true := by
    intro c member
    exact white c (List.mem_reverse.mp member)
  simp only [trimEnd, List.rdropWhile, List.reverse_append,
    List.dropWhile_append_of_pos reversed]

theorem trim_surround {before after : List Char} (left : IsBlank before) (right : IsBlank after)
    (text : List Char) : trim (before ++ text ++ after) = trim text := by
  rw [List.append_assoc, trim_eq, trim_eq, trimStart_append_of_blank left]
  unfold trimStart
  rw [List.dropWhile_append]
  split
  next empty =>
    have none_ : after.dropWhile isWhiteSpace = [] := List.dropWhile_eq_nil_iff.mpr right
    rw [none_, List.isEmpty_iff.mp empty]
  next => exact trimEnd_append_of_blank right _

theorem exists_surround (text : List Char) :
    ∃ before after, IsBlank before ∧ IsBlank after ∧ text = before ++ trim text ++ after := by
  refine ⟨text.takeWhile isWhiteSpace, (trimStart text).rtakeWhile isWhiteSpace, ?_, ?_, ?_⟩
  · intro c member
    exact List.mem_takeWhile_imp member
  · intro c member
    exact List.mem_rtakeWhile_imp member
  · rw [trim_eq, trimEnd, List.append_assoc, List.rdropWhile_append_rtakeWhile, trimStart,
      List.takeWhile_append_dropWhile]

@[simp]
theorem trim_trim (text : List Char) : trim (trim text) = trim text := by
  obtain ⟨before, after, left, right, surrounded⟩ := exists_surround text
  have inner := trim_surround left right (trim text)
  rw [← surrounded] at inner
  exact inner.symm

theorem trim_trimStart (text : List Char) : trim (trimStart text) = trim text := by
  rw [trim_eq, trim_eq, trimStart, trimStart, List.dropWhile_idempotent]

theorem trim_trimEnd (text : List Char) : trim (trimEnd text) = trim text := by
  have cut : text = [] ++ trimEnd text ++ text.rtakeWhile isWhiteSpace := by
    rw [List.nil_append, trimEnd, List.rdropWhile_append_rtakeWhile]
  have blank : IsBlank (text.rtakeWhile isWhiteSpace) := fun _ => List.mem_rtakeWhile_imp
  have empty : IsBlank [] := nofun
  have inner := trim_surround empty blank (trimEnd text)
  rw [← cut] at inner
  exact inner.symm

theorem trim_of_dense {text : List Char} (dense : IsDense text) : trim text = text := by
  obtain ⟨before, after, left, right, surrounded⟩ := exists_surround text
  have noBefore : before = [] := by
    apply List.eq_nil_iff_forall_not_mem.mpr
    intro c member
    have inside : c ∈ text := by
      rw [surrounded]
      simp [member]
    exact absurd (left c member) (by simp [dense c inside])
  have noAfter : after = [] := by
    apply List.eq_nil_iff_forall_not_mem.mpr
    intro c member
    have inside : c ∈ text := by
      rw [surrounded]
      simp [member]
    exact absurd (right c member) (by simp [dense c inside])
  rw [noBefore, noAfter, List.nil_append, List.append_nil] at surrounded
  exact surrounded.symm

theorem trim_of_surrounded {before text after : List Char} (left : IsBlank before)
    (dense : IsDense text) (right : IsBlank after) : trim (before ++ text ++ after) = text := by
  rw [trim_surround left right, trim_of_dense dense]

theorem trimEnd_append_append {separator : List Char} (nonempty : separator ≠ [])
    (dense : IsDense separator) (before after : List Char) :
    trimEnd (before ++ separator ++ after) = before ++ separator ++ trimEnd after := by
  obtain ⟨front, c, rfl⟩ := separator.eq_nil_or_concat.resolve_left nonempty
  have solid : isWhiteSpace c = false := dense c (by simp)
  simp only [trimEnd, List.rdropWhile, List.append_assoc, List.reverse_append,
    List.dropWhile_append]
  split
  next empty => simp [solid, List.isEmpty_iff.mp empty]
  next => simp

theorem trimStart_append_append {separator : List Char} (nonempty : separator ≠ [])
    (dense : IsDense separator) (before after : List Char) :
    trimStart (before ++ separator ++ after) = trimStart before ++ separator ++ after := by
  obtain ⟨c, tail, rfl⟩ := List.exists_cons_of_ne_nil nonempty
  have solid : isWhiteSpace c = false := dense c List.mem_cons_self
  simp only [trimStart, List.append_assoc, List.dropWhile_append]
  split
  next empty => simp [solid, List.isEmpty_iff.mp empty]
  next => rfl

theorem trimEnd_subset (text : List Char) : trimEnd text ⊆ text :=
  (List.rdropWhile_prefix _ text).subset

theorem trimStart_subset (text : List Char) : trimStart text ⊆ text :=
  (List.dropWhile_sublist _).subset

theorem trim_subset (text : List Char) : trim text ⊆ text :=
  List.Subset.trans (trimEnd_subset _) (trimStart_subset text)

/-! ## Searching -/

theorem eq_of_splitFirst {pattern text before after : List Char}
    (found : splitFirst pattern text = some (before, after)) :
    text = before ++ pattern ++ after := by
  induction text generalizing before with
  | nil =>
      obtain ⟨rfl, equal⟩ := Option.ite_none_right_eq_some.mp found
      cases equal
      rfl
  | cons c rest inductionHypothesis =>
      unfold splitFirst at found
      split at found
      next starts =>
        obtain ⟨tail, whole⟩ := List.isPrefixOf_iff_prefix.mp starts
        cases found
        simp [← whole]
      next =>
        obtain ⟨⟨front, back⟩, inner, equal⟩ := Option.map_eq_some_iff.mp found
        cases equal
        simp [inductionHypothesis inner]

/-- A pattern with a character that the text lacks is not found. -/
theorem splitFirst_eq_none {pattern text : List Char} {c : Char} (member : c ∈ pattern)
    (absent : c ∉ text) : splitFirst pattern text = none := by
  cases found : splitFirst pattern text with
  | none => rfl
  | some pair =>
      obtain ⟨before, after⟩ := pair
      have whole := eq_of_splitFirst found
      exact absurd (by rw [whole]; simp [member]) absent

theorem contains_eq_false {pattern text : List Char} {c : Char} (member : c ∈ pattern)
    (absent : c ∉ text) : contains pattern text = false := by
  rw [contains, splitFirst_eq_none member absent]
  rfl

/-- A pattern is found at once behind a text that lacks its first character. -/
theorem splitFirst_append {c : Char} {tail before : List Char} (absent : c ∉ before)
    (after : List Char) :
    splitFirst (c :: tail) (before ++ (c :: tail) ++ after) = some (before, after) := by
  induction before with
  | nil =>
      have starts : (c :: tail).isPrefixOf (c :: (tail ++ after)) = true :=
        List.isPrefixOf_iff_prefix.mpr ⟨after, rfl⟩
      simp [splitFirst, starts]
  | cons first rest inductionHypothesis =>
      have different : c ≠ first := fun same => absent (same ▸ List.mem_cons_self)
      have starts : (c :: tail).isPrefixOf (first :: (rest ++ (c :: tail) ++ after)) = false := by
        simp [List.isPrefixOf, different]
      have inner := inductionHypothesis fun member => absent (List.mem_cons_of_mem _ member)
      simp only [List.cons_append, List.append_assoc] at starts inner ⊢
      simp [splitFirst, starts, inner]

theorem contains_iff_isInfix {pattern text : List Char} :
    contains pattern text = true ↔ pattern <:+: text := by
  rw [contains, Option.isSome_iff_exists]
  constructor
  · rintro ⟨⟨before, after⟩, found⟩
    exact ⟨before, after, (eq_of_splitFirst found).symm⟩
  · intro occurs
    induction text with
    | nil =>
        have empty : pattern = [] := List.eq_nil_of_infix_nil occurs
        exact ⟨_, if_pos empty⟩
    | cons c rest inductionHypothesis =>
        unfold splitFirst
        split
        next => exact ⟨_, rfl⟩
        next elsewhere =>
          rcases List.infix_cons_iff.mp occurs with here | later
          · exact absurd (List.isPrefixOf_iff_prefix.mpr here) elsewhere
          · obtain ⟨pair, found⟩ := inductionHypothesis later
            exact ⟨_, by rw [found]; rfl⟩

theorem contains_eq_false_of_infix {pattern inner text : List Char} (inside : inner <:+: text)
    (absent : contains pattern text = false) : contains pattern inner = false := by
  by_contra found
  have occurs := contains_iff_isInfix.mp (Bool.not_eq_false _ ▸ found)
  rw [contains_iff_isInfix.mpr (occurs.trans inside)] at absent
  cases absent

theorem trim_infix (text : List Char) : trim text <:+: text :=
  (List.rdropWhile_prefix _ _).isInfix.trans (List.dropWhile_suffix _).isInfix

theorem contains_before {pattern text before after : List Char} (nonempty : pattern ≠ [])
    (found : splitFirst pattern text = some (before, after)) :
    contains pattern before = false := by
  induction text generalizing before with
  | nil => exact absurd (Option.ite_none_right_eq_some.mp found).1 nonempty
  | cons c rest inductionHypothesis =>
      have whole := eq_of_splitFirst found
      unfold splitFirst at found
      split at found
      next =>
        cases found
        simp [contains, splitFirst, nonempty]
      next elsewhere =>
        obtain ⟨⟨front, back⟩, inner, equal⟩ := Option.map_eq_some_iff.mp found
        cases equal
        have lacks := inductionHypothesis inner
        rw [contains, Option.isSome_eq_false_iff, Option.isNone_iff_eq_none] at lacks ⊢
        have notHere : ¬pattern.isPrefixOf (c :: front) = true := by
          intro starts
          apply elsewhere
          rw [List.isPrefixOf_iff_prefix, whole, List.append_assoc]
          exact (List.isPrefixOf_iff_prefix.mp starts).trans (List.prefix_append _ _)
        rw [splitFirst, if_neg notHere, lacks]
        rfl

theorem contains_of_mem_split {pattern : List Char} {nonempty : pattern ≠ []}
    {text piece : List Char} (member : piece ∈ split pattern nonempty text) :
    contains pattern piece = false ∧ piece <:+: text := by
  induction text using split.induct pattern nonempty with
  | case1 text absent =>
      rw [split_of_absent absent, List.mem_singleton] at member
      rw [member, contains, absent]
      exact ⟨rfl, List.infix_refl _⟩
  | case2 text before after found inductionHypothesis =>
      rw [split_of_found found] at member
      have whole := eq_of_splitFirst found
      rcases List.mem_cons.mp member with rfl | later
      · refine ⟨contains_before nonempty found, ?_⟩
        rw [whole, List.append_assoc]
        exact (List.prefix_append _ _).isInfix
      · obtain ⟨lacks, inside⟩ := inductionHypothesis later
        refine ⟨lacks, inside.trans ?_⟩
        rw [whole]
        exact (List.suffix_append _ _).isInfix

theorem split_of_lacking {pattern : List Char} {nonempty : pattern ≠ []} {text : List Char}
    (lacks : contains pattern text = false) : split pattern nonempty text = [text] := by
  apply split_of_absent
  rwa [contains, Option.isSome_eq_false_iff, Option.isNone_iff_eq_none] at lacks

/-! ## Pieces -/

variable {separator : List Char} {c : Char} {pieces : List (List Char)}

theorem split_intercalate {tail : List Char} (some_ : pieces ≠ [])
    (absent : ∀ piece ∈ pieces, c ∉ piece) :
    split (c :: tail) (List.cons_ne_nil c tail) ((c :: tail).intercalate pieces) = pieces := by
  induction pieces with
  | nil => exact absurd rfl some_
  | cons piece rest inductionHypothesis =>
      have here : c ∉ piece := absent piece List.mem_cons_self
      cases rest with
      | nil =>
          rw [List.intercalate_singleton]
          exact split_of_absent (splitFirst_eq_none List.mem_cons_self here)
      | cons second others =>
          rw [List.intercalate_cons_cons, split_of_found (splitFirst_append here _)]
          congr 1
          apply inductionHypothesis (List.cons_ne_nil _ _)
          intro other member
          exact absent other (List.mem_cons_of_mem _ member)

theorem notMem_intercalate (outside : c ∉ separator) (absent : ∀ piece ∈ pieces, c ∉ piece) :
    c ∉ separator.intercalate pieces := by
  induction pieces with
  | nil => exact List.not_mem_nil
  | cons piece rest inductionHypothesis =>
      obtain ⟨here, later⟩ := List.forall_mem_cons.mp absent
      cases rest with
      | nil => rwa [List.intercalate_singleton]
      | cons second others =>
          rw [List.intercalate_cons_cons]
          have deeper := inductionHypothesis later
          simp [here, outside, deeper]

theorem contains_intercalate {tail : List Char} (several : 2 ≤ pieces.length)
    (absent : ∀ piece ∈ pieces, c ∉ piece) :
    contains (c :: tail) ((c :: tail).intercalate pieces) = true := by
  match pieces, several, absent with
  | piece :: second :: others, _, absent =>
      rw [List.intercalate_cons_cons, contains, splitFirst_append (absent _ List.mem_cons_self)]
      rfl

/-- The pieces after trimming: the same up to blanks. -/
abbrev Trimmed (pieces trimmed : List (List Char)) : Prop :=
  List.Forall₂ (fun piece cut => trim cut = trim piece ∧ cut ⊆ piece) pieces trimmed

theorem trimEnd_intercalate (nonempty : separator ≠ []) (dense : IsDense separator)
    (pieces : List (List Char)) :
    ∃ trimmed, trimEnd (separator.intercalate pieces) = separator.intercalate trimmed ∧
      Trimmed pieces trimmed := by
  induction pieces with
  | nil => exact ⟨[], rfl, .nil⟩
  | cons piece rest inductionHypothesis =>
      cases rest with
      | nil =>
          refine ⟨[trimEnd piece], ?_, .cons ⟨trim_trimEnd piece, trimEnd_subset piece⟩ .nil⟩
          rw [List.intercalate_singleton, List.intercalate_singleton]
      | cons second others =>
          obtain ⟨trimmed, same, related⟩ := inductionHypothesis
          refine ⟨piece :: trimmed, ?_, .cons ⟨rfl, List.Subset.refl piece⟩ related⟩
          cases related with
          | cons first tail =>
              rw [List.intercalate_cons_cons, trimEnd_append_append nonempty dense, same,
                List.intercalate_cons_cons]

theorem trim_intercalate (nonempty : separator ≠ []) (dense : IsDense separator)
    (pieces : List (List Char)) :
    ∃ trimmed, trim (separator.intercalate pieces) = separator.intercalate trimmed ∧
      Trimmed pieces trimmed := by
  cases pieces with
  | nil => exact ⟨[], rfl, .nil⟩
  | cons piece rest =>
      cases rest with
      | nil =>
          refine ⟨[trim piece], ?_, .cons ⟨trim_trim piece, ?_⟩ .nil⟩
          · rw [List.intercalate_singleton, List.intercalate_singleton]
          · exact trim_subset piece
      | cons second others =>
          obtain ⟨trimmed, same, related⟩ :=
            trimEnd_intercalate nonempty dense (second :: others)
          refine ⟨trimStart piece :: trimmed, ?_,
            .cons ⟨trim_trimStart piece, trimStart_subset piece⟩ related⟩
          cases related with
          | cons first tail =>
              rw [trim_eq, List.intercalate_cons_cons, trimStart_append_append nonempty dense,
                trimEnd_append_append nonempty dense, same, List.intercalate_cons_cons]

end RejiStudio.Lib.Text
