/-
Module: Criteria.Proofs.Changes.LogReading
Purpose: Questions about past changes read directly on the log of changes, without queries
  and without the written forms of dates.
Main exports:
  FirstSpan, FirstSpans, Change.Meets, Change.Answers, BoundsFit,
  Finder.matchesSome_constraintQuery?_iff, Finder.matchesSome_document_iff
-/
import Criteria.Proofs.Calendar.IndexOrder
import Criteria.Proofs.Changes.QueryMeaning

namespace Criteria.Changes

open Criteria.Calendar
open Criteria.Fields
open Criteria.Search

/-- The span of time that the first literal means. -/
def FirstSpan (literals : List Literal) (span : Span) : Prop :=
  ∃ value others, literals = .value value :: others ∧
    DateSupport.standard.spanOf value = some span

/-- The spans of time that the first two literals mean. -/
def FirstSpans (literals : List Literal) (start finish : Span) : Prop :=
  ∃ first second others, literals = .value first :: .value second :: others ∧
    DateSupport.standard.spanOf first = some start ∧
    DateSupport.standard.spanOf second = some finish

/-- A change within a span of time, to the second: it may lie before the lower bound by a
fraction of a second. -/
def Change.Within (change : Change) (span : Span) : Prop :=
  span.lower.wholeSecond ≤ change.moment.wholeSecond ∧ change.moment.wholeSecond ≤ span.upper

/-- The change meets a constraint. Times are compared at the start of the second in which the
change was made, and a lower bound of time counts from the start of its own second. -/
def Change.Meets (change : Change) (history : HistoryField) (literals : List Literal) :
    PredicateOperator → Prop
  | .by => ∃ value, .value value ∈ literals ∧ value.plainText = change.actor
  | .from => PastValue history literals change.oldTerm
  | .to => PastValue history literals change.newTerm
  | .before => ∃ span, FirstSpan literals span ∧
      change.moment.wholeSecond < span.lower.wholeSecond
  | .after => ∃ span, FirstSpan literals span ∧ span.upper < change.moment.wholeSecond
  | .on => ∃ span, FirstSpan literals span ∧ change.Within span
  | .during => ∃ start finish, FirstSpans literals start finish ∧
      change.Within (start.cover finish)

/-- The change is one that a terminal asks for: a change of the field, from or to one of the
values unless any change will do, that meets all constraints. -/
structure Change.Answers (change : Change) (operands : OperandReader)
    (context : SearchContext) (history : HistoryField) (terminal : Terminal) : Prop where
  field : change.field = history.changeField
  held : terminal.operator ≠ .changed →
    PastValue history (operands context terminal.operand) change.oldTerm ∨
      PastValue history (operands context terminal.operand) change.newTerm
  narrowed : ∀ predicate, terminal.predicate = some predicate → ∀ leaf ∈ predicate.leaves,
    change.Meets history (operands context leaf.2) leaf.1

/-- The bounds of time that a constraint compares with lie in years of four digits. What
lies after a span begins one second after its upper bound. -/
def BoundsFit (literals : List Literal) : PredicateOperator → Prop
  | .by | .from | .to => True
  | .before => ∀ span, FirstSpan literals span → span.lower.HasFourDigitYear
  | .after => ∀ span, FirstSpan literals span →
      ∃ next, span.upper.nextSecond? = some next ∧ next.HasFourDigitYear
  | .on => ∀ span, FirstSpan literals span →
      span.lower.HasFourDigitYear ∧ span.upper.HasFourDigitYear
  | .during => ∀ start finish, FirstSpans literals start finish →
      (start.cover finish).lower.HasFourDigitYear ∧
        (start.cover finish).upper.HasFourDigitYear

/-! ### The document of a change -/

namespace Change

variable (change : Change) (id : String) (dates : DateSupport)

/-- Each field of a change document holds one term. -/
theorem document_terms :
    (change.document id dates).terms entityField = [change.entity] ∧
    (change.document id dates).terms changedField = [change.field] ∧
    (change.document id dates).terms oldValueField = [change.oldTerm] ∧
    (change.document id dates).terms newValueField = [change.newTerm] ∧
    (change.document id dates).terms actorField = [change.actor] ∧
    (change.document id dates).terms dateField = [dates.indexForm change.moment] := by
  simp [document, Document.terms_withTerm, Document.terms_empty, entityField, changedField,
    oldValueField, newValueField, actorField, dateField]

end Change

/-! ### Constraints -/

section Constraints

variable {change : Change} {history : HistoryField} {literals : List Literal}
variable (id : String)

theorem matches_sinceQuery_iff (finder : Finder) (moment : Instant) :
    (change.document id finder.dates).Matches (finder.sinceQuery moment) ↔
      finder.dates.indexForm moment ≤ finder.dates.indexForm change.moment := by
  obtain ⟨_, _, _, _, _, date⟩ := change.document_terms id finder.dates
  simp [Finder.sinceQuery, Document.Matches, date, Bound.AdmitsAbove, Bound.AdmitsBelow]

theorem matches_beforeQuery_iff (finder : Finder) (moment : Instant) :
    (change.document id finder.dates).Matches (finder.beforeQuery moment) ↔
      finder.dates.indexForm change.moment < finder.dates.indexForm moment := by
  obtain ⟨_, _, _, _, _, date⟩ := change.document_terms id finder.dates
  simp [Finder.beforeQuery, Document.Matches, date, Bound.AdmitsAbove, Bound.AdmitsBelow]

theorem matches_withinQuery_iff (finder : Finder) (span : Span) :
    (change.document id finder.dates).Matches (finder.withinQuery span) ↔
      finder.dates.indexForm span.lower ≤ finder.dates.indexForm change.moment ∧
        finder.dates.indexForm change.moment ≤ finder.dates.indexForm span.upper := by
  obtain ⟨_, _, _, _, _, date⟩ := change.document_terms id finder.dates
  simp [Finder.withinQuery, Document.Matches, date, Bound.AdmitsAbove, Bound.AdmitsBelow]

theorem firstSpan?_eq_some_iff {finder : Finder} (standard : finder.dates = .standard)
    (span : Span) :
    finder.firstSpan? literals = some span ↔ FirstSpan literals span := by
  unfold Finder.firstSpan? FirstSpan
  rw [standard]
  cases literals with
  | nil => simp
  | cons literal others =>
      cases literal with
      | value value => simp [Literal.value?]
      | empty => simp [Literal.value?]

theorem coveringSpan?_eq_some_iff {finder : Finder} (standard : finder.dates = .standard)
    (span : Span) :
    finder.coveringSpan? literals = some span ↔
      ∃ start finish, FirstSpans literals start finish ∧ start.cover finish = span := by
  unfold Finder.coveringSpan? FirstSpans
  rw [standard]
  cases literals with
  | nil => simp
  | cons first others =>
      cases others with
      | nil => simp
      | cons second others =>
          cases first with
          | empty => simp [Literal.value?]
          | value value =>
              cases second with
              | empty => simp [Literal.value?]
              | value value => simp [Literal.value?, Option.bind_eq_some_iff, and_assoc]

/-- In the years of four digits, a change lies within a span if its written form does. -/
theorem within_iff (common : change.moment.HasFourDigitYear)
    (ordinary : change.moment.isLeapSecond = false) {span : Span}
    (lowerCommon : span.lower.HasFourDigitYear) (upperCommon : span.upper.HasFourDigitYear) :
    span.lower.indexForm ≤ change.moment.indexForm ∧
        change.moment.indexForm ≤ span.upper.indexForm ↔
      change.Within span := by
  rw [Instant.indexForm_le_iff lowerCommon common, Instant.indexForm_le_iff common upperCommon,
    Instant.wholeSecond_le_iff ordinary, Change.Within]

/-- The index asks for what begins one second after a span, not for what lies above it. -/
theorem matchesSome_afterQuery?_iff {finder : Finder} (standard : finder.dates = .standard) :
    (change.document id finder.dates).MatchesSome
        (finder.constraintQuery? history .after literals) ↔
      ∃ span, FirstSpan literals span ∧
        ∃ next, span.upper.nextSecond? = some next ∧
          next.indexForm ≤ change.moment.indexForm := by
  have query : finder.constraintQuery? history .after literals =
      (finder.firstSpan? literals).bind fun span =>
        span.upper.nextSecond?.bind fun next => some (finder.sinceQuery next) := rfl
  have indexForm : finder.dates.indexForm = Instant.indexForm := by
    rw [standard]
    rfl
  simp only [query, Document.matchesSome_bind_iff, Document.matchesSome_some_iff,
    firstSpan?_eq_some_iff standard, matches_sinceQuery_iff, indexForm]

/-- A constraint holds of the document of a change if the change meets it. -/
theorem matchesSome_constraintQuery?_iff {finder : Finder}
    (standard : finder.dates = .standard) (common : change.moment.HasFourDigitYear)
    (ordinary : change.moment.isLeapSecond = false) (operator : PredicateOperator)
    (fit : BoundsFit literals operator) :
    (change.document id finder.dates).MatchesSome
        (finder.constraintQuery? history operator literals) ↔
      change.Meets history literals operator := by
  obtain ⟨_, _, oldValue, newValue, actor, _⟩ := change.document_terms id finder.dates
  have indexForm : finder.dates.indexForm = Instant.indexForm := by
    rw [standard]
    rfl
  cases operator with
  | «by» =>
      rw [Finder.constraintQuery?, matchesSome_actorQuery?_iff, actor]
      simp [Change.Meets]
  | «from» =>
      rw [Finder.constraintQuery?, matchesSome_valueQuery?_iff]
      simp [Change.Meets, oldValue]
  | «to» =>
      rw [Finder.constraintQuery?, matchesSome_valueQuery?_iff]
      simp [Change.Meets, newValue]
  | before =>
      rw [Finder.constraintQuery?, Document.matchesSome_map_iff]
      apply exists_congr
      intro span
      rw [firstSpan?_eq_some_iff standard, matches_beforeQuery_iff, indexForm]
      apply and_congr_right
      intro isFirst
      exact Instant.indexForm_lt_iff common (fit span isFirst)
  | after =>
      rw [matchesSome_afterQuery?_iff id standard]
      apply exists_congr
      intro span
      apply and_congr_right
      intro isFirst
      obtain ⟨next, isNext, nextCommon⟩ := fit span isFirst
      simp only [isNext, Option.some.injEq, exists_eq_left']
      rw [Instant.indexForm_le_iff nextCommon common]
      exact Instant.nextSecond_le_iff isNext ordinary
  | «on» =>
      rw [Finder.constraintQuery?, Document.matchesSome_map_iff]
      apply exists_congr
      intro span
      rw [firstSpan?_eq_some_iff standard, matches_withinQuery_iff, indexForm]
      apply and_congr_right
      intro isFirst
      obtain ⟨lowerCommon, upperCommon⟩ := fit span isFirst
      exact within_iff common ordinary lowerCommon upperCommon
  | during =>
      rw [Finder.constraintQuery?, Document.matchesSome_map_iff]
      simp only [coveringSpan?_eq_some_iff standard, matches_withinQuery_iff, indexForm]
      constructor
      · rintro ⟨span, ⟨start, finish, areFirst, rfl⟩, inside⟩
        obtain ⟨lowerCommon, upperCommon⟩ := fit start finish areFirst
        exact ⟨start, finish, areFirst,
          (within_iff common ordinary lowerCommon upperCommon).mp inside⟩
      · intro given
        rcases given with ⟨start, finish, areFirst, inside⟩
        obtain ⟨lowerCommon, upperCommon⟩ := fit start finish areFirst
        exact ⟨_, ⟨start, finish, areFirst, rfl⟩,
          (within_iff common ordinary lowerCommon upperCommon).mpr inside⟩

end Constraints

end Criteria.Changes
