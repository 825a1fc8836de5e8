/-
Module: Criteria.Proofs.Text.Casing
Purpose: What lower-casing does to a text that is cut in two, and what it does to a star.
Main exports:
  lowercase_eq_star_iff, lowercaseWithin, lowercaseAfter_append, CutAtSigma,
  lowercaseWithin_eq_iff, lowercaseCut, lowercase_append_star, lowercase_begins_iff
-/
import Criteria.Text.Lowercase

namespace Criteria.Text

/-! ### Stars -/

theorem lowerLetter_star : lowerLetter '*' = ['*'] := by
  decide +kernel

theorem not_meetsLetter_star : meetsLetter ['*'] = false := by
  decide +kernel

/-- No letter becomes anything that stands before the small letters. -/
theorem small_of_mem_lowerRuns : ∀ run ∈ lowerRuns, (0x61 : Int) ≤ run.first + run.shift := by
  decide +kernel

theorem eq_of_ofNat_eq_star {code : Nat} (same : Char.ofNat code = '*') : code = 0x2A := by
  by_cases valid : code.isValidChar
  · rw [Char.ofNat, dif_pos valid] at same
    exact congrArg Char.toNat same
  · rw [Char.ofNat, dif_neg valid] at same
    cases same

/-- A star is not the lower-case form of another character. -/
theorem eq_star_of_lowerLetter {c : Char} (lowered : lowerLetter c = ['*']) : c = '*' := by
  unfold lowerLetter at lowered
  split at lowered
  · exact absurd (List.cons.inj lowered).2 (List.cons_ne_nil _ _)
  · split at lowered
    · next run found =>
      have small := small_of_mem_lowerRuns run (List.mem_of_find?_eq_some found)
      have within : run.contains c.toNat = true :=
        List.find?_some (p := fun run : LetterRun => run.contains c.toNat) found
      have fromFirst : run.first ≤ c.toNat := by
        simp only [LetterRun.contains, Bool.and_eq_true, decide_eq_true_eq] at within
        exact within.1.1
      have isStar : (c.toNat + run.shift).toNat = 0x2A :=
        eq_of_ofNat_eq_star (List.cons.inj lowered).1
      omega
    · exact (List.cons.inj lowered).1

theorem lowerLetter_ne_nil (c : Char) : lowerLetter c ≠ [] := by
  unfold lowerLetter
  repeat' split
  all_goals exact List.cons_ne_nil _ _

theorem lowercaseAfter_eq_nil {before text : List Char}
    (nothing : lowercaseAfter before text = []) : text = [] := by
  cases text with
  | nil => rfl
  | cons c rest =>
      have head := (List.append_eq_nil_iff.mp nothing).1
      split at head
      · cases head
      · exact absurd head (lowerLetter_ne_nil c)

/-- Only a star by itself becomes a star, whatever stands before it. -/
theorem lowercaseAfter_cons_eq_star_iff (before : List Char) (c : Char) (rest : List Char) :
    lowercaseAfter before (c :: rest) = ['*'] ↔ c = '*' ∧ rest = [] := by
  rw [lowercaseAfter, List.append_eq_singleton_iff]
  constructor
  · rintro (⟨nothing, -⟩ | ⟨head, later⟩)
    · split at nothing
      · cases nothing
      · exact absurd nothing (lowerLetter_ne_nil c)
    · refine ⟨?_, lowercaseAfter_eq_nil later⟩
      split at head
      · have sigma : lowerSigma before rest = '*' := (List.cons.inj head).1
        unfold lowerSigma at sigma
        split at sigma <;> cases sigma
      · exact eq_star_of_lowerLetter head
  · rintro ⟨rfl, rfl⟩
    exact .inr ⟨lowerLetter_star, rfl⟩

/-- Only a star becomes a star. -/
theorem lowercase_eq_star_iff (text : String) : lowercase text = "*" ↔ text = "*" := by
  rw [← String.toList_inj, ← String.toList_inj, lowercase, String.toList_ofList, lowercaseChars]
  cases text.toList with
  | nil => simp [lowercaseAfter]
  | cons c rest =>
      refine (lowercaseAfter_cons_eq_star_iff [] c rest).trans ?_
      exact List.cons_eq_cons.symm

/-! ### Texts that are cut in two -/

/-- Lower-case a stretch of a text, given what stands before it, nearest first, and after it. -/
def lowercaseWithin (after before : List Char) : List Char → List Char
  | [] => []
  | c :: rest =>
      (if c = 'Σ' then [lowerSigma before (rest ++ after)] else lowerLetter c) ++
        lowercaseWithin after (c :: before) rest

/-- The two parts of a text are lower-cased one after the other, each with the other beside it. -/
theorem lowercaseAfter_append (before first second : List Char) :
    lowercaseAfter before (first ++ second) =
      lowercaseWithin second before first ++ lowercaseAfter (first.reverse ++ before) second := by
  induction first generalizing before with
  | nil => rfl
  | cons c first ih =>
      rw [List.cons_append, lowercaseAfter, ih, lowercaseWithin, List.reverse_cons,
        List.append_assoc, List.append_assoc]
      rfl

/-- How long the lower-case form is does not depend on what comes after. -/
theorem length_lowercaseWithin (after other before text : List Char) :
    (lowercaseWithin after before text).length = (lowercaseWithin other before text).length := by
  induction text generalizing before with
  | nil => rfl
  | cons c text ih =>
      rw [lowercaseWithin, lowercaseWithin, List.length_append, List.length_append, ih]
      split <;> rfl

/-- The cut goes through a word at a capital sigma: in the first part nothing but marks comes after
the sigma, a letter stands before it, and a letter follows in the second part. Cut off, the sigma
ends its word; in the whole text it does not. -/
def CutAtSigma (before first second : List Char) : Prop :=
  ∃ front marks, first = front ++ 'Σ' :: marks ∧ marks.all isCaseIgnorable = true ∧
    meetsLetter (front.reverse ++ before) = true ∧ meetsLetter second = true

theorem cutAtSigma_cons_iff (before : List Char) (c : Char) (first second : List Char) :
    CutAtSigma before (c :: first) second ↔
      (c = 'Σ' ∧ first.all isCaseIgnorable = true ∧ meetsLetter before = true ∧
        meetsLetter second = true) ∨
      CutAtSigma (c :: before) first second := by
  constructor
  · rintro ⟨front, marks, parts, eachMark, letter, follows⟩
    cases front with
    | nil =>
        obtain ⟨rfl, rfl⟩ := List.cons.inj parts
        exact .inl ⟨rfl, eachMark, letter, follows⟩
    | cons head front =>
        obtain ⟨rfl, rfl⟩ := List.cons.inj parts
        rw [List.reverse_cons, List.append_assoc] at letter
        exact .inr ⟨front, marks, rfl, eachMark, letter, follows⟩
  · rintro (⟨rfl, eachMark, letter, follows⟩ | ⟨front, marks, rfl, eachMark, letter, follows⟩)
    · exact ⟨[], first, rfl, eachMark, letter, follows⟩
    · refine ⟨c :: front, marks, rfl, eachMark, ?_, follows⟩
      rw [List.reverse_cons, List.append_assoc]
      exact letter

theorem not_cutAtSigma_of_notMem {before first second : List Char} (none : 'Σ' ∉ first) :
    ¬ CutAtSigma before first second := by
  rintro ⟨front, marks, parts, -⟩
  apply none
  rw [parts]
  exact List.mem_append_right front (List.mem_cons_self ..)

/-- What comes after a stretch of marks is met past them. -/
theorem meetsLetter_append (marks after : List Char) :
    meetsLetter (marks ++ after) =
      if marks.all isCaseIgnorable then meetsLetter after else meetsLetter marks := by
  induction marks with
  | nil => rfl
  | cons mark marks ih =>
      by_cases ignorable : isCaseIgnorable mark = true
      · simpa [meetsLetter, ignorable] using ih
      · simp [meetsLetter, ignorable]

/-- If no letter follows at the end, a sigma has the same form there as before the second part,
unless only marks stand between it and a letter of the second part, and a letter before it. -/
theorem lowerSigma_eq_iff {ended : List Char} (closed : meetsLetter ended = false)
    (before rest second : List Char) :
    lowerSigma before (rest ++ ended) = lowerSigma before (rest ++ second) ↔
      ¬ (rest.all isCaseIgnorable = true ∧ meetsLetter before = true ∧
        meetsLetter second = true) := by
  rw [lowerSigma, lowerSigma, meetsLetter_append, meetsLetter_append, closed]
  cases meetsLetter before <;> cases rest.all isCaseIgnorable <;> cases meetsLetter second <;> simp

/-- The first part has the same lower-case form where the text ends as it has before the second
part, unless the cut is at a sigma. -/
theorem lowercaseWithin_eq_iff {ended : List Char} (closed : meetsLetter ended = false)
    (before first second : List Char) :
    lowercaseWithin ended before first = lowercaseWithin second before first ↔
      ¬ CutAtSigma before first second := by
  induction first generalizing before with
  | nil => simp [lowercaseWithin, CutAtSigma]
  | cons c first ih =>
      rw [cutAtSigma_cons_iff, not_or, ← ih, lowercaseWithin, lowercaseWithin]
      by_cases sigma : c = 'Σ'
      · rw [if_pos sigma, if_pos sigma, List.singleton_append, List.singleton_append,
          List.cons_eq_cons, lowerSigma_eq_iff closed]
        simp only [sigma, true_and]
      · rw [if_neg sigma, if_neg sigma, List.append_cancel_left_eq]
        simp only [sigma, false_and, not_false_eq_true, true_and]

/-- The lower-case form of a beginning that is followed by a star. -/
def lowercaseCut (beginning : String) : String :=
  String.ofList (lowercaseWithin ['*'] [] beginning.toList)

/-- A star at the end of a text stays, and what stands before it is lower-cased as if it were cut
off there. -/
theorem lowercase_append_star (beginning : String) :
    lowercase (beginning ++ "*") = lowercaseCut beginning ++ "*" := by
  have star := (lowercaseAfter_cons_eq_star_iff (beginning.toList.reverse ++ []) '*' []).mpr
    ⟨rfl, rfl⟩
  rw [← String.toList_inj, lowercase, lowercaseCut]
  simp only [String.toList_append, String.toList_ofList, lowercaseChars, lowercaseAfter_append]
  exact congrArg (lowercaseWithin ['*'] [] beginning.toList ++ ·) star

/-- The lower-case form of a text begins with that of a beginning, unless the cut is at a sigma. -/
theorem lowercase_begins_iff (beginning rest : String) :
    (∃ later, lowercase (beginning ++ rest) = lowercaseCut beginning ++ later) ↔
      ¬ CutAtSigma [] beginning.toList rest.toList := by
  have sameLength := length_lowercaseWithin ['*'] rest.toList [] beginning.toList
  have whole : (lowercase (beginning ++ rest)).toList =
      lowercaseWithin rest.toList [] beginning.toList ++
        lowercaseAfter (beginning.toList.reverse ++ []) rest.toList := by
    rw [lowercase, String.toList_ofList, String.toList_append, lowercaseChars,
      lowercaseAfter_append]
  rw [← lowercaseWithin_eq_iff not_meetsLetter_star]
  constructor
  · rintro ⟨later, begins⟩
    rw [begins, lowercaseCut, String.toList_append, String.toList_ofList] at whole
    exact (List.append_inj whole sameLength).1
  · intro same
    refine ⟨String.ofList (lowercaseAfter (beginning.toList.reverse ++ []) rest.toList), ?_⟩
    rw [← String.toList_inj, whole, lowercaseCut, String.toList_append, String.toList_ofList,
      String.toList_ofList, same]

end Criteria.Text
