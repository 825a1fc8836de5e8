/-
Module: Criteria.Proofs.Calendar.SpanEnds
Purpose: The ends of the spans of time that values mean: none ends before it begins, and a second
  later there is another instant, which only at the end of the year 9999 has a form of the index
  that no longer sorts by time.
Main exports:
  Instant.InLastSecond, Instant.exists_nextSecond_of_common, Instant.indexForm_lt_of_signed,
  Span.Ordered, DateSupport.ordered_spanOf
-/
import Criteria.Proofs.Calendar.IndexOrder
import Criteria.Resolution.Context

namespace Criteria.Calendar

open Criteria.Text

/-! ### The day after -/

theorem le_monthLength (year : Int) (month : Nat) : 28 ≤ monthLength year month := by
  unfold monthLength
  split
  · split <;> decide
  · split <;> decide

namespace Date

theorem ofParts?_of_isDate {year : Int} {month day : Nat} (valid : IsDate year month day) :
    ofParts? year month day = some ⟨year, month, day, valid⟩ :=
  dif_pos valid

theorem isDate_of_ofParts? {year : Int} {month day : Nat} {date : Date}
    (found : ofParts? year month day = some date) : IsDate year month day := by
  obtain ⟨rfl, rfl, rfl⟩ := ofParts?_eq_some found
  exact date.valid

/-- Before the last year of the calendar there is always a day after. -/
theorem exists_next {date : Date} (early : date.year < lastYear) :
    ∃ next, date.next? = some next := by
  obtain ⟨first, last, _, _, _, _⟩ := date.valid
  have length := le_monthLength date.year (date.month + 1)
  have month := date.month_bounds
  unfold next?
  split
  · next inside =>
      exact ⟨_, ofParts?_of_isDate ⟨first, last, month.1, month.2, by omega, by omega⟩⟩
  · split
    · exact ⟨_, ofParts?_of_isDate ⟨first, last, by omega, by omega, by omega, by omega⟩⟩
    · have january : 1 ≤ monthLength (date.year + 1) 1 :=
        Nat.le_trans (by decide) (le_monthLength _ _)
      exact ⟨_, ofParts?_of_isDate
        ⟨by omega, by omega, by decide, by decide, by decide, january⟩⟩

/-- A year goes on until the last day of December. -/
theorem year_of_next {date next : Date} (found : date.next? = some next) :
    next.year = date.year ∧ ¬ (date.month = 12 ∧ date.day = 31) ∨
      next.year = date.year + 1 ∧ date.month = 12 ∧ date.day = 31 := by
  have month := date.month_bounds
  have day := date.day_bounds
  unfold next? at found
  split at found
  · next inside =>
      obtain ⟨sameYear, _, _⟩ := ofParts?_eq_some found
      have length := monthLength_le date.year date.month
      exact .inl ⟨sameYear, by omega⟩
  · next last =>
      split at found
      · obtain ⟨sameYear, _, _⟩ := ofParts?_eq_some found
        exact .inl ⟨sameYear, by omega⟩
      · obtain ⟨nextYear, _, _⟩ := ofParts?_eq_some found
        have december : date.month = 12 := by omega
        rw [december] at last
        have length : monthLength date.year 12 = 31 := rfl
        exact .inr ⟨nextYear, december, by omega⟩

end Date

/-! ### The second after -/

namespace Instant

/-- The last second of the years that are written with four digits. -/
structure InLastSecond (moment : Instant) : Prop where
  year : moment.date.year = 9999
  month : moment.date.month = 12
  day : moment.date.day = 31
  clock : moment.clock = 86399

theorem ofParts?_of_isClock (date : Date) {hour minute second nano : Nat}
    (valid : IsClock hour minute second nano) :
    ofParts? date hour minute second nano = some ⟨date, hour, minute, second, nano, valid⟩ :=
  dif_pos valid

theorem isClock_of_ofParts? {date : Date} {hour minute second nano : Nat} {moment : Instant}
    (found : ofParts? date hour minute second nano = some moment) :
    IsClock hour minute second nano := by
  unfold ofParts? at found
  split at found
  · next valid => exact valid
  · cases found

/-- Before the last year of the calendar there is always a second after. -/
theorem exists_nextSecond {moment : Instant} (early : moment.date.year < lastYear) :
    ∃ next, moment.nextSecond? = some next := by
  obtain ⟨hour, minute, second, _⟩ := moment.valid
  have nano := moment.shownNano_lt
  unfold nextSecond?
  dsimp only
  split
  · exact ⟨_, ofParts?_of_isClock _ ⟨hour, minute, by omega, .inl nano⟩⟩
  · split
    · exact ⟨_, ofParts?_of_isClock _ ⟨hour, by omega, by decide, .inl nano⟩⟩
    · split
      · exact ⟨_, ofParts?_of_isClock _ ⟨by omega, by decide, by decide, .inl nano⟩⟩
      · obtain ⟨date, isNext⟩ := Date.exists_next early
        rw [isNext, Option.bind_some]
        exact ⟨_, ofParts?_of_isClock _ ⟨by decide, by decide, by decide, .inl nano⟩⟩

/-- One second later four digits still do, unless the year 9999 is over. -/
theorem nextSecond_hasFourDigitYear_iff {moment next : Instant}
    (found : moment.nextSecond? = some next) (common : moment.HasFourDigitYear) :
    next.HasFourDigitYear ↔ ¬ moment.InLastSecond := by
  obtain ⟨_, moved⟩ := nextSecond?_cases found
  obtain ⟨positive, small⟩ := common
  have bounds := next.clock_bounds
  rcases moved with ⟨sameDate, clock⟩ | ⟨nextDate, last, _⟩
  · have later : ¬ moment.InLastSecond := by
      intro ended
      have := ended.clock
      omega
    simpa [HasFourDigitYear, sameDate, positive, small] using later
  · unfold HasFourDigitYear
    rcases Date.year_of_next nextDate with ⟨sameYear, within⟩ | ⟨nextYear, month, day⟩
    · have later : ¬ moment.InLastSecond := fun ended => within ⟨ended.month, ended.day⟩
      simp [sameYear, positive, small, later]
    · rw [nextYear]
      constructor
      · intro given ended
        have := ended.year
        omega
      · intro later
        have notLast : moment.date.year ≠ 9999 := fun year => later ⟨year, month, day, last⟩
        omega

theorem exists_nextSecond_of_common {moment : Instant} (common : moment.HasFourDigitYear) :
    ∃ next, moment.nextSecond? = some next ∧
      (next.HasFourDigitYear ↔ ¬ moment.InLastSecond) := by
  have early : moment.date.year < lastYear := Int.lt_of_le_of_lt common.2 (by decide)
  obtain ⟨next, isNext⟩ := exists_nextSecond early
  exact ⟨next, isNext, nextSecond_hasFourDigitYear_iff isNext common⟩

/-- Nothing with four digits comes after the last second. -/
theorem wholeSecond_le_of_inLastSecond {moment last : Instant} (ended : last.InLastSecond)
    (common : moment.HasFourDigitYear) (ordinary : moment.isLeapSecond = false) :
    moment.wholeSecond ≤ last := by
  have clock := moment.clock_bounds
  have month := moment.date.month_bounds
  have day := moment.date.day_bounds
  obtain ⟨_, small⟩ := common
  obtain ⟨year, lastMonth, lastDay, lastClock⟩ := ended
  rw [le_iff_rank_le, wholeSecond_rank, leapNano_eq_zero ordinary, rank_eq last, lastClock]
  unfold Date.rank
  rw [year, lastMonth, lastDay]
  omega

theorem wholeSecond_le (moment : Instant) : moment.wholeSecond ≤ moment := by
  have leap := moment.leapNano_cases
  rw [le_iff_rank_le, wholeSecond_rank, rank_eq moment]
  omega

/-! ### Signed years -/

/-- A sign sorts before all digits, so the forms of other years sort before those of the years 0
to 9999, even if the years are later. -/
theorem indexForm_lt_of_signed {moment other : Instant} (signed : ¬ moment.HasFourDigitYear)
    (common : other.HasFourDigitYear) : moment.indexForm < other.indexForm := by
  obtain ⟨first, others, written, isDigit⟩ := exists_digit_of_fixedWidth 13 other.stamp
  have outside : ¬ (0 ≤ moment.date.year ∧ moment.date.year ≤ 9999) := signed
  rw [indexForm_eq common, written]
  unfold indexForm yearDigits
  rw [if_neg outside, String.lt_iff, String.toList_ofList, String.toList_ofList]
  simp only [List.cons_append]
  apply List.cons_lt_cons_iff.mpr
  left
  split
  · exact lt_of_lt_of_isDigit (by decide) isDigit
  · exact lt_of_lt_of_isDigit (by decide) isDigit

end Instant

/-! ### Beginning and end -/

namespace Span

/-- The span does not end before it begins. -/
def Ordered (span : Span) : Prop :=
  span.lower ≤ span.upper

theorem ordered_single (moment : Instant) : (single moment).Ordered :=
  Int.le_refl _

theorem ordered_of_wholeDays? {first last : Date} {span : Span}
    (found : wholeDays? first last = some span) (ordered : first.rank ≤ last.rank) :
    span.Ordered := by
  obtain ⟨_, _, rfl⟩ := Option.map_eq_some_iff.mp found
  rw [Ordered, Instant.le_iff_rank_le, Instant.rank_eq, Instant.rank_eq]
  simp only [Instant.midnight, Instant.lastSecond, Instant.clock]
  omega

theorem ordered_within_year {year : Int} {month day lastMonth lastDay : Nat} {span : Span}
    (found : ((Date.ofParts? year month day).bind fun first =>
      (Date.ofParts? year lastMonth lastDay).bind fun last => wholeDays? first last) = some span)
    (later : month < lastMonth ∨ month = lastMonth ∧ day ≤ lastDay) : span.Ordered := by
  obtain ⟨first, isFirst, rest⟩ := Option.bind_eq_some_iff.mp found
  obtain ⟨last, isLast, isSpan⟩ := Option.bind_eq_some_iff.mp rest
  obtain ⟨firstYear, firstMonth, firstDay⟩ := Date.ofParts?_eq_some isFirst
  obtain ⟨lastYear, lastMonth, lastDay⟩ := Date.ofParts?_eq_some isLast
  have firstBounds := first.day_bounds
  have lastBounds := last.day_bounds
  apply ordered_of_wholeDays? isSpan
  unfold Date.rank
  omega

end Span

theorem DateLiteral.ordered_span? {literal : DateLiteral} {span : Span}
    (found : literal.span? = some span) : span.Ordered := by
  cases literal with
  | year year => exact Span.ordered_within_year found (.inl (by decide))
  | month year month =>
      have someDay : 1 ≤ monthLength year month := Nat.le_trans (by decide) (le_monthLength _ _)
      exact Span.ordered_within_year found (.inr ⟨rfl, someDay⟩)
  | day year month day =>
      obtain ⟨date, _, isSpan⟩ := Option.bind_eq_some_iff.mp found
      exact Span.ordered_of_wholeDays? isSpan (Int.le_refl _)
  | minute year month day hour minute =>
      obtain ⟨date, _, rest⟩ := Option.bind_eq_some_iff.mp found
      obtain ⟨lower, isLower, rest⟩ := Option.bind_eq_some_iff.mp rest
      obtain ⟨upper, isUpper, same⟩ := Option.bind_eq_some_iff.mp rest
      cases same
      obtain ⟨lowerDate, lowerClock, lowerNano⟩ := Instant.ofParts?_eq_some isLower
      obtain ⟨upperDate, upperClock, upperNano⟩ := Instant.ofParts?_eq_some isUpper
      change lower.rank ≤ upper.rank
      rw [Instant.rank_eq, Instant.rank_eq, lowerDate, upperDate]
      omega
  | second year month day hour minute second =>
      obtain ⟨date, _, rest⟩ := Option.bind_eq_some_iff.mp found
      obtain ⟨moment, _, same⟩ := Option.bind_eq_some_iff.mp rest
      cases same
      exact Span.ordered_single moment

end Criteria.Calendar

namespace Criteria

open Criteria.Calendar

/-- What a value means as a time does not end before it begins. -/
theorem DateSupport.ordered_spanOf {value : Value} {span : Span}
    (found : DateSupport.standard.spanOf value = some span) : span.Ordered := by
  cases value with
  | date moment =>
      cases found
      exact Span.ordered_single moment
  | number millis =>
      obtain ⟨moment, _, rfl⟩ := Option.map_eq_some_iff.mp found
      exact Span.ordered_single moment
  | text content =>
      obtain ⟨literal, _, isSpan⟩ := Option.bind_eq_some_iff.mp found
      exact literal.ordered_span? isSpan

end Criteria
