/-
Module: Criteria.Proofs.Changes.TimeDivision
Purpose: Every change was made before, on or after a date, and a question for one of the three finds
  it accordingly, up to the last second of the year 9999.
Main exports:
  FirstSpan.unique, Change.existsUnique_meets, Change.existsUnique_meets_of_inLastSecond,
  spans_divide_the_changes
-/
import Criteria.Proofs.Calendar.SpanEnds
import Criteria.Proofs.Changes.Finding

namespace Criteria.Changes

open Criteria.Calendar
open Criteria.Fields
open Criteria.Search

/-! ### Reading the log -/

section

variable {change : Change} {history : HistoryField} {literals : List Literal} {span : Span}

theorem FirstSpan.unique {other : Span} (first : FirstSpan literals span)
    (second : FirstSpan literals other) : other = span := by
  obtain ⟨value, _, sameLiterals, isSpan⟩ := first
  obtain ⟨otherValue, _, otherLiterals, isOther⟩ := second
  rw [sameLiterals] at otherLiterals
  cases otherLiterals
  exact Option.some.inj (isOther.symm.trans isSpan)

theorem FirstSpan.ordered (isFirst : FirstSpan literals span) : span.Ordered := by
  obtain ⟨_, _, _, isSpan⟩ := isFirst
  exact DateSupport.ordered_spanOf isSpan

theorem FirstSpan.exists_iff (isFirst : FirstSpan literals span) (holds : Span → Prop) :
    (∃ other, FirstSpan literals other ∧ holds other) ↔ holds span := by
  constructor
  · rintro ⟨other, isOther, given⟩
    rwa [isFirst.unique isOther] at given
  · intro given
    exact ⟨span, isFirst, given⟩

/-- A change was made either before a date, or on it, or after it. -/
theorem Change.existsUnique_meets (change : Change) (history : HistoryField)
    (isFirst : FirstSpan literals span) :
    ∃! operator, operator ∈ [PredicateOperator.before, .on, .after] ∧
      change.Meets history literals operator := by
  have ordered : span.lower.rank ≤ span.upper.rank := isFirst.ordered
  have start : span.lower.wholeSecond.rank ≤ span.lower.rank := span.lower.wholeSecond_le
  have meetsBefore : change.Meets history literals .before ↔
      change.moment.wholeSecond.rank < span.lower.wholeSecond.rank :=
    isFirst.exists_iff fun span => change.moment.wholeSecond < span.lower.wholeSecond
  have meetsOn : change.Meets history literals .on ↔
      span.lower.wholeSecond.rank ≤ change.moment.wholeSecond.rank ∧
        change.moment.wholeSecond.rank ≤ span.upper.rank :=
    isFirst.exists_iff change.Within
  have meetsAfter : change.Meets history literals .after ↔
      span.upper.rank < change.moment.wholeSecond.rank :=
    isFirst.exists_iff fun span => span.upper < change.moment.wholeSecond
  apply existsUnique_of_exists_of_unique
  · by_cases early : change.moment.wholeSecond.rank < span.lower.wholeSecond.rank
    · exact ⟨.before, by decide, meetsBefore.mpr early⟩
    · by_cases late : span.upper.rank < change.moment.wholeSecond.rank
      · exact ⟨.after, by decide, meetsAfter.mpr late⟩
      · exact ⟨.on, by decide, meetsOn.mpr ⟨Int.not_lt.mp early, Int.not_lt.mp late⟩⟩
  · rintro first second ⟨firstListed, firstMeets⟩ ⟨secondListed, secondMeets⟩
    simp only [List.mem_cons, List.not_mem_nil, or_false] at firstListed secondListed
    -- two different ones would put the change on both sides of an end of the span
    rcases firstListed with rfl | rfl | rfl <;> rcases secondListed with rfl | rfl | rfl
    all_goals first
      | rfl
      | simp only [meetsBefore, meetsOn, meetsAfter] at firstMeets secondMeets
        omega

/-- A date that lasts until the last second with four digits leaves nothing behind it. -/
theorem Change.existsUnique_meets_of_inLastSecond {change : Change} (history : HistoryField)
    (isFirst : FirstSpan literals span) (ended : span.upper.InLastSecond)
    (common : change.moment.HasFourDigitYear) (ordinary : change.moment.isLeapSecond = false) :
    ∃! operator, operator ∈ [PredicateOperator.before, .on] ∧
      change.Meets history literals operator := by
  have within := Instant.wholeSecond_le_of_inLastSecond ended common ordinary
  have notAfter : ¬ change.Meets history literals .after := by
    intro after
    have beyond : span.upper < change.moment.wholeSecond :=
      (isFirst.exists_iff fun span => span.upper < change.moment.wholeSecond).mp after
    exact Int.not_lt.mpr within beyond
  refine (existsUnique_congr ?_).mpr (change.existsUnique_meets history isFirst)
  intro operator
  have listed_iff : operator ∈ [PredicateOperator.before, .on, .after] ↔
      operator ∈ [PredicateOperator.before, .on] ∨ operator = .after := by
    simp [or_assoc]
  rw [listed_iff, or_and_right]
  constructor
  · exact .inl
  · rintro (early | ⟨rfl, after⟩)
    · exact early
    · exact absurd after notAfter

end

/-! ### Asking the index -/

section

variable {finder : Finder} {context : SearchContext} {history : HistoryField}
variable {change : Change} {literals : List Literal} {span : Span}

/-- A question whether a field changed, with one constraint, finds the changes of the field that the
constraint holds of. -/
theorem mem_changesFound_constrained_iff {updates : List Update} {id : String}
    (stored : Stored updates (change.document id finder.dates))
    (ofField : change.field = history.changeField) (field : String)
    (operator : PredicateOperator) (operand : Operand) :
    id ∈ finder.changesFound context history (Store.after updates)
        (.changed field (some (.leaf operator operand))) ↔
      (change.document id finder.dates).MatchesSome
        (finder.constraintQuery? history operator (finder.operands context operand)) := by
  obtain ⟨_, named, _⟩ := change.document_terms id finder.dates
  have found : id ∈ finder.changesFound context history (Store.after updates)
      (.changed field (some (.leaf operator operand))) ↔ _ :=
    finder.mem_changesFound_iff_of_stored context stored _
  rw [found, finder.matchesSome_changeQuery?_iff context rfl, named, ofField]
  simp [Terminal.changed, finder.matchesSome_predicateQuery?_iff, Predicate.leaves]

theorem boundsFit_of_lower_upper (isFirst : FirstSpan literals span)
    (lowerCommon : span.lower.HasFourDigitYear) (upperCommon : span.upper.HasFourDigitYear) :
    ∀ operator ∈ [PredicateOperator.before, .on], BoundsFit literals operator := by
  simp only [List.forall_mem_cons, List.not_mem_nil, false_implies, implies_true, and_true]
  constructor
  · intro other isOther
    rwa [isFirst.unique isOther]
  · intro other isOther
    rw [isFirst.unique isOther]
    exact ⟨lowerCommon, upperCommon⟩

theorem boundsFit_after_of_not_inLastSecond (isFirst : FirstSpan literals span)
    (upperCommon : span.upper.HasFourDigitYear) (goesOn : ¬ span.upper.InLastSecond) :
    BoundsFit literals .after := by
  intro other isOther
  rw [isFirst.unique isOther]
  obtain ⟨next, isNext, nextCommon⟩ := Instant.exists_nextSecond_of_common upperCommon
  exact ⟨next, isNext, nextCommon.mpr goesOn⟩

/-- What comes after the last second is written with a sign, which sorts before all digits: a
question for it holds of every change. -/
theorem matchesSome_after_of_inLastSecond (id : String) (standard : finder.dates = .standard)
    (isFirst : FirstSpan literals span) (upperCommon : span.upper.HasFourDigitYear)
    (ended : span.upper.InLastSecond) (common : change.moment.HasFourDigitYear) :
    (change.document id finder.dates).MatchesSome
      (finder.constraintQuery? history .after literals) := by
  obtain ⟨next, isNext, nextCommon⟩ := Instant.exists_nextSecond_of_common upperCommon
  have signed : ¬ next.HasFourDigitYear := fun given => nextCommon.mp given ended
  have earlier : next.indexForm < change.moment.indexForm :=
    Instant.indexForm_lt_of_signed signed common
  rw [matchesSome_afterQuery?_iff id standard]
  exact ⟨span, isFirst, next, isNext, String.not_lt.mp (String.lt_asymm earlier)⟩

end

/-- A change of the field is found by exactly one of the questions for changes before, on and after
a date, up to the last second of the year 9999. A date that lasts until then has no second of four
digits after it: the question for changes after it finds every change, and the other two still
divide the changes between them. -/
theorem spans_divide_the_changes (updates : List Update) (finder : Finder)
    (context : SearchContext) (history : HistoryField) (field : String) (operand : Operand)
    (span : Span) {change : Change} {id : String} (standard : finder.dates = .standard)
    (isFirst : FirstSpan (finder.operands context operand) span)
    (lowerCommon : span.lower.HasFourDigitYear) (upperCommon : span.upper.HasFourDigitYear)
    (stored : Stored updates (change.document id finder.dates))
    (ofField : change.field = history.changeField) (common : change.moment.HasFourDigitYear)
    (ordinary : change.moment.isLeapSecond = false) :
    (¬ span.upper.InLastSecond →
      ∃! operator, operator ∈ [PredicateOperator.before, .on, .after] ∧
        id ∈ finder.changesFound context history (Store.after updates)
          (.changed field (some (.leaf operator operand)))) ∧
    (span.upper.InLastSecond →
      id ∈ finder.changesFound context history (Store.after updates)
          (.changed field (some (.leaf .after operand))) ∧
      ∃! operator, operator ∈ [PredicateOperator.before, .on] ∧
        id ∈ finder.changesFound context history (Store.after updates)
          (.changed field (some (.leaf operator operand)))) := by
  have found_iff (operator : PredicateOperator)
      (fit : BoundsFit (finder.operands context operand) operator) :
      id ∈ finder.changesFound context history (Store.after updates)
          (.changed field (some (.leaf operator operand))) ↔
        change.Meets history (finder.operands context operand) operator := by
    rw [mem_changesFound_constrained_iff stored ofField]
    exact matchesSome_constraintQuery?_iff id standard common ordinary operator fit
  have earlyFit := boundsFit_of_lower_upper isFirst lowerCommon upperCommon
  constructor
  · intro goesOn
    have fit : ∀ operator ∈ [PredicateOperator.before, .on] ++ [.after], BoundsFit _ operator :=
      List.forall_mem_append.mpr ⟨earlyFit, List.forall_mem_singleton.mpr
        (boundsFit_after_of_not_inLastSecond isFirst upperCommon goesOn)⟩
    refine (existsUnique_congr fun operator => and_congr_right fun listed => ?_).mpr
      (change.existsUnique_meets history isFirst)
    exact found_iff operator (fit operator listed)
  · intro ended
    constructor
    · rw [mem_changesFound_constrained_iff stored ofField]
      exact matchesSome_after_of_inLastSecond id standard isFirst upperCommon ended common
    · refine (existsUnique_congr fun operator => and_congr_right fun listed => ?_).mpr
        (change.existsUnique_meets_of_inLastSecond history isFirst ended common ordinary)
      exact found_iff operator (earlyFit operator listed)

/-- The first day of June 2024, as an operand and as a span. -/
def firstOfJune : Operand × Span :=
  (.value (.text "2024-06-01"), ⟨.midnight noon.date, .lastSecond noon.date⟩)

/-- The year 9999, as an operand and as a span. -/
def lastCommonYear : Operand × Span :=
  (.value (.text "9999"),
    ⟨.midnight ⟨9999, 1, 1, by decide⟩, .lastSecond ⟨9999, 12, 31, by decide⟩⟩)

theorem spans_divide_the_changes_of_dayLog :
    (∃! operator, operator ∈ [PredicateOperator.before, .on, .after] ∧
      "c1" ∈ (logFinder FunctionTable.builtIns.literals dayLog).changesFound ⟨none, noon⟩
        statusHistory (Store.after (logUpdates dayLog))
        (.changed "status" (some (.leaf operator firstOfJune.1)))) ∧
    "c1" ∈ (logFinder FunctionTable.builtIns.literals dayLog).changesFound ⟨none, noon⟩
      statusHistory (Store.after (logUpdates dayLog))
      (.changed "status" (some (.leaf .after lastCommonYear.1))) ∧
    ∃! operator, operator ∈ [PredicateOperator.before, .on] ∧
      "c1" ∈ (logFinder FunctionTable.builtIns.literals dayLog).changesFound ⟨none, noon⟩
        statusHistory (Store.after (logUpdates dayLog))
        (.changed "status" (some (.leaf operator lastCommonYear.1))) := by
  have distinct : (dayLog.map Prod.fst).Nodup := by decide
  have stored := stored_log_of_mem distinct (List.mem_cons_self ..)
  obtain ⟨divided, _⟩ := spans_divide_the_changes (logUpdates dayLog)
    (logFinder FunctionTable.builtIns.literals dayLog) ⟨none, noon⟩ statusHistory "status"
    firstOfJune.1 firstOfJune.2 rfl ⟨.text "2024-06-01", [], rfl, by decide +kernel⟩
    ⟨by decide, by decide⟩ ⟨by decide, by decide⟩ stored rfl ⟨by decide, by decide⟩ rfl
  obtain ⟨_, ended⟩ := spans_divide_the_changes (logUpdates dayLog)
    (logFinder FunctionTable.builtIns.literals dayLog) ⟨none, noon⟩ statusHistory "status"
    lastCommonYear.1 lastCommonYear.2 rfl ⟨.text "9999", [], rfl, by decide +kernel⟩
    ⟨by decide, by decide⟩ ⟨by decide, by decide⟩ stored rfl ⟨by decide, by decide⟩ rfl
  have goesOn : ¬ firstOfJune.2.upper.InLastSecond := fun last => absurd last.year (by decide)
  exact ⟨divided goesOn, ended ⟨rfl, rfl, rfl, rfl⟩⟩

/-- The second after the year 9999 begins with a sign: a change made in 2024 is found both before
and after that year. -/
theorem found_both_before_and_after_the_last_year :
    FirstSpan (FunctionTable.builtIns.literals ⟨none, noon⟩ lastCommonYear.1) lastCommonYear.2 ∧
    lastCommonYear.2.lower.HasFourDigitYear ∧ lastCommonYear.2.upper.HasFourDigitYear ∧
    ("c0", ⟨"e", "status", none, some "x", "u", noon⟩) ∈ noonLog ∧ noon.HasFourDigitYear ∧
    noon.isLeapSecond = false ∧
    ¬ ∃! operator, operator ∈ [PredicateOperator.before, .on, .after] ∧
      "c0" ∈ (logFinder FunctionTable.builtIns.literals noonLog).changesFound ⟨none, noon⟩
        statusHistory (Store.after (logUpdates noonLog))
        (.changed "status" (some (.leaf operator lastCommonYear.1))) := by
  refine ⟨⟨.text "9999", [], rfl, by decide +kernel⟩, ⟨by decide, by decide⟩,
    ⟨by decide, by decide⟩, List.mem_singleton_self _, ⟨by decide, by decide⟩, rfl, ?_⟩
  intro divided
  have same : PredicateOperator.before = .after :=
    divided.unique ⟨by decide, by decide +kernel⟩ ⟨by decide, by decide +kernel⟩
  cases same

end Criteria.Changes
