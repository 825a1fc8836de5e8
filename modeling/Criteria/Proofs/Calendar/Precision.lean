/-
Module: Criteria.Proofs.Calendar.Precision
Purpose: A date literal means the whole seconds that agree with every field it spells, so a year
  is divided by its months and a month by its days.
Main exports:
  Instant.IsWholeSecond, DateLiteral.AgreesWith, DateLiteral.contains_iff, DateLiteral.parts?,
  Span.DividedBy, date_texts_mean_the_seconds_that_agree
-/
import Mathlib.Logic.Basic
import Mathlib.Logic.ExistsUnique
import Criteria.Proofs.Calendar.LiteralText
import Criteria.Proofs.Calendar.Reckoning

namespace Criteria.Calendar

/-- The instant has no fraction of a second. A leap second is kept as a fraction beyond the second
before it, so it is not a whole second. -/
def Instant.IsWholeSecond (moment : Instant) : Prop :=
  moment.nano = 0

/-- The instant agrees with the literal on every field that the literal spells. -/
def DateLiteral.AgreesWith : DateLiteral → Instant → Prop
  | .year y, moment => moment.date.year = y
  | .month y m, moment => moment.date.year = y ∧ moment.date.month = m
  | .day y m d, moment =>
      moment.date.year = y ∧ moment.date.month = m ∧ moment.date.day = d
  | .minute y m d h min, moment =>
      (moment.date.year = y ∧ moment.date.month = m ∧ moment.date.day = d) ∧
        moment.hour = h ∧ moment.minute = min
  | .second y m d h min s, moment =>
      (moment.date.year = y ∧ moment.date.month = m ∧ moment.date.day = d) ∧
        moment.hour = h ∧ moment.minute = min ∧ moment.second = s

/-! ### Membership -/

namespace Date

theorem rank_eq_iff {year : Int} {month day : Nat} {named : Date}
    (found : ofParts? year month day = some named) (date : Date) :
    date.rank = named.rank ↔ date.year = year ∧ date.month = month ∧ date.day = day := by
  obtain ⟨sameYear, sameMonth, sameDay⟩ := ofParts?_eq_some found
  have namedMonth := named.month_bounds
  have namedDay := named.day_bounds
  have month := date.month_bounds
  have day := date.day_bounds
  unfold rank
  omega

/-- The days from the first of January to the last of December are those of the year. -/
theorem within_year_iff {year : Int} {first last : Date}
    (isFirst : ofParts? year 1 1 = some first) (isLast : ofParts? year 12 31 = some last)
    (date : Date) :
    first.rank ≤ date.rank ∧ date.rank ≤ last.rank ↔ date.year = year := by
  obtain ⟨firstYear, firstMonth, firstDay⟩ := ofParts?_eq_some isFirst
  obtain ⟨lastYear, lastMonth, lastDay⟩ := ofParts?_eq_some isLast
  have month := date.month_bounds
  have day := date.day_bounds
  unfold rank
  omega

/-- The days from the first to the last of a month are those of the month. -/
theorem within_month_iff {year : Int} {month : Nat} {first last : Date}
    (isFirst : ofParts? year month 1 = some first)
    (isLast : ofParts? year month (monthLength year month) = some last) (date : Date) :
    first.rank ≤ date.rank ∧ date.rank ≤ last.rank ↔
      date.year = year ∧ date.month = month := by
  obtain ⟨firstYear, firstMonth, firstDay⟩ := ofParts?_eq_some isFirst
  obtain ⟨lastYear, lastMonth, lastDay⟩ := ofParts?_eq_some isLast
  have lastMonthBounds := last.month_bounds
  have lastDayBounds := last.day_bounds
  have monthBounds := date.month_bounds
  have dayBounds := date.day_bounds
  constructor
  · intro given
    unfold rank at given
    omega
  · intro given
    obtain ⟨rfl, rfl⟩ := given
    have within := date.valid.2.2.2.2.2
    unfold rank
    omega

end Date

section

variable {moment : Instant} {span : Span}

theorem Span.contains_iff (span : Span) (moment : Instant) :
    span.contains moment = true ↔ span.lower ≤ moment ∧ moment ≤ span.upper := by
  rw [contains, Bool.and_eq_true, decide_eq_true_eq, decide_eq_true_eq]

theorem Instant.IsWholeSecond.rank_eq (whole : moment.IsWholeSecond) :
    moment.rank = (moment.date.rank * 86400 + moment.clock) * 2000000000 := by
  rw [Instant.rank_eq, whole]
  omega

/-- Whole days contain the seconds of these days. -/
theorem Span.contains_wholeDays_iff {first last : Date}
    (found : Span.wholeDays? first last = some span) (whole : moment.IsWholeSecond) :
    span.contains moment = true ↔
      first.rank ≤ moment.date.rank ∧ moment.date.rank ≤ last.rank := by
  obtain ⟨next, _, rfl⟩ := Option.map_eq_some_iff.mp found
  have clock := moment.clock_bounds
  rw [contains_iff, Instant.le_iff_rank_le, Instant.le_iff_rank_le, whole.rank_eq,
    Instant.rank_eq, Instant.rank_eq]
  simp only [Instant.midnight, Instant.lastSecond, Instant.clock] at clock ⊢
  omega

/-- A span within a day contains the seconds of the day from one time to another. -/
theorem Span.contains_clock_iff {lower upper : Instant} (sameDay : upper.date = lower.date)
    (ofLower : lower.IsWholeSecond) (ofUpper : upper.IsWholeSecond)
    (whole : moment.IsWholeSecond) :
    (Span.mk lower upper).contains moment = true ↔
      moment.date.rank = lower.date.rank ∧ lower.clock ≤ moment.clock ∧
        moment.clock ≤ upper.clock := by
  have clock := moment.clock_bounds
  have lowerClock := lower.clock_bounds
  have upperClock := upper.clock_bounds
  rw [contains_iff, Instant.le_iff_rank_le, Instant.le_iff_rank_le, whole.rank_eq,
    ofLower.rank_eq, ofUpper.rank_eq, sameDay]
  omega

/-- The span of a literal contains exactly the whole seconds that agree with it. -/
theorem DateLiteral.contains_iff {literal : DateLiteral} (found : literal.span? = some span)
    (whole : moment.IsWholeSecond) :
    span.contains moment = true ↔ literal.AgreesWith moment := by
  cases literal with
  | year y =>
      obtain ⟨first, isFirst, rest⟩ := Option.bind_eq_some_iff.mp found
      obtain ⟨last, isLast, isSpan⟩ := Option.bind_eq_some_iff.mp rest
      rw [Span.contains_wholeDays_iff isSpan whole]
      exact Date.within_year_iff isFirst isLast moment.date
  | month y m =>
      obtain ⟨first, isFirst, rest⟩ := Option.bind_eq_some_iff.mp found
      obtain ⟨last, isLast, isSpan⟩ := Option.bind_eq_some_iff.mp rest
      rw [Span.contains_wholeDays_iff isSpan whole]
      exact Date.within_month_iff isFirst isLast moment.date
  | day y m d =>
      obtain ⟨date, isDate, isSpan⟩ := Option.bind_eq_some_iff.mp found
      rw [Span.contains_wholeDays_iff isSpan whole]
      have sameDay : date.rank ≤ moment.date.rank ∧ moment.date.rank ≤ date.rank ↔
          moment.date.rank = date.rank := by omega
      rw [sameDay]
      exact Date.rank_eq_iff isDate moment.date
  | minute y m d h min =>
      obtain ⟨date, isDate, rest⟩ := Option.bind_eq_some_iff.mp found
      obtain ⟨lower, isLower, rest⟩ := Option.bind_eq_some_iff.mp rest
      obtain ⟨upper, isUpper, same⟩ := Option.bind_eq_some_iff.mp rest
      cases same
      obtain ⟨lowerDate, lowerClock, lowerNano⟩ := Instant.ofParts?_eq_some isLower
      obtain ⟨upperDate, upperClock, upperNano⟩ := Instant.ofParts?_eq_some isUpper
      obtain ⟨_, minuteBound, _, _⟩ := Instant.isClock_of_ofParts? isLower
      obtain ⟨_, momentMinute, momentSecond, _⟩ := moment.valid
      have inMinute : (h * 60 + min) * 60 + 0 ≤ moment.clock ∧
          moment.clock ≤ (h * 60 + min) * 60 + 59 ↔ moment.hour = h ∧ moment.minute = min := by
        unfold Instant.clock
        omega
      rw [Span.contains_clock_iff (upperDate.trans lowerDate.symm) lowerNano upperNano whole,
        lowerDate, lowerClock, upperClock, inMinute, Date.rank_eq_iff isDate]
      rfl
  | second y m d h min s =>
      obtain ⟨date, isDate, rest⟩ := Option.bind_eq_some_iff.mp found
      obtain ⟨named, isNamed, same⟩ := Option.bind_eq_some_iff.mp rest
      cases same
      obtain ⟨namedDate, namedClock, namedNano⟩ := Instant.ofParts?_eq_some isNamed
      obtain ⟨_, minuteBound, secondBound, _⟩ := Instant.isClock_of_ofParts? isNamed
      obtain ⟨_, momentMinute, momentSecond, _⟩ := moment.valid
      have onSecond : (h * 60 + min) * 60 + s ≤ moment.clock ∧
          moment.clock ≤ (h * 60 + min) * 60 + s ↔
            moment.hour = h ∧ moment.minute = min ∧ moment.second = s := by
        unfold Instant.clock
        omega
      rw [Span.single, Span.contains_clock_iff rfl namedNano namedNano whole, namedDate,
        namedClock, onSecond, Date.rank_eq_iff isDate]
      rfl

end

/-! ### Division into parts -/

/-- The literals of the next precision that a year or a month is divided into: its months, or its
days. -/
def DateLiteral.parts? : DateLiteral → Option (List DateLiteral)
  | .year y => some ((List.range' 1 12).map (.month y))
  | .month y m => some ((List.range' 1 (monthLength y m)).map (.day y m))
  | _ => none

/-- The literals divide the span: each of them has a span, and every whole second of the span lies
in the span of one of them and of one only. No other whole second lies in any. -/
structure Span.DividedBy (span : Span) (parts : List DateLiteral) : Prop where
  spans : ∀ part ∈ parts, ∃ partSpan, part.span? = some partSpan
  once : ∀ moment : Instant, moment.IsWholeSecond →
    (span.contains moment = true ↔ ∃! part, part ∈ parts ∧
      ∃ partSpan, part.span? = some partSpan ∧ partSpan.contains moment = true)

/-- A day before one that has a day after has one as well. -/
theorem Date.exists_next_of_le {date last next : Date} (found : last.next? = some next)
    (ordered : date.rank ≤ last.rank) : ∃ following, date.next? = some following := by
  have inCalendar := next.valid.2.1
  by_cases early : date.year < lastYear
  · exact exists_next early
  · have notAfter := mt (rank_lt_iff last date).mpr (Int.not_lt.mpr ordered)
    obtain ⟨first, atMost, january, december, someDay, inMonth⟩ := date.valid
    have month := last.month_bounds
    have day := last.day_bounds
    have length := monthLength_le date.year date.month
    have nextLength := le_monthLength date.year (date.month + 1)
    unfold next?
    split
    · exact ⟨_, ofParts?_of_isDate ⟨first, atMost, january, december, by omega, by omega⟩⟩
    · next ended =>
        split
        · exact ⟨_, ofParts?_of_isDate ⟨first, atMost, by omega, by omega, by omega, by omega⟩⟩
        · have inDecember : date.month = 12 := by omega
          have length : monthLength date.year 12 = 31 := rfl
          rw [inDecember, length] at ended
          have := year_of_next found
          omega

namespace DateLiteral

/-- An instant agrees with a year or a month if it agrees with one of its parts. -/
theorem agreesWith_iff_exists_part {literal : DateLiteral} {parts : List DateLiteral}
    (divided : literal.parts? = some parts) (moment : Instant) :
    literal.AgreesWith moment ↔ ∃ part ∈ parts, part.AgreesWith moment := by
  have month := moment.date.month_bounds
  have day := moment.date.valid.2.2.2.2
  cases literal with
  | year y =>
      cases divided
      simp only [List.mem_map, List.mem_range'_1, exists_exists_and_eq_and, AgreesWith]
      constructor
      · intro sameYear
        exact ⟨moment.date.month, by omega, sameYear, rfl⟩
      · intro given
        obtain ⟨_, _, sameYear, _⟩ := given
        exact sameYear
  | month y m =>
      cases divided
      simp only [List.mem_map, List.mem_range'_1, exists_exists_and_eq_and, AgreesWith]
      constructor
      · intro given
        obtain ⟨rfl, rfl⟩ := given
        exact ⟨moment.date.day, by omega, rfl, rfl, rfl⟩
      · intro given
        obtain ⟨_, _, sameYear, sameMonth, _⟩ := given
        exact ⟨sameYear, sameMonth⟩
  | day => cases divided
  | minute => cases divided
  | second => cases divided

/-- No instant agrees with two parts. -/
theorem part_unique {literal : DateLiteral} {parts : List DateLiteral}
    (divided : literal.parts? = some parts) {moment : Instant} {first second : DateLiteral}
    (isFirst : first ∈ parts) (isSecond : second ∈ parts) (ofFirst : first.AgreesWith moment)
    (ofSecond : second.AgreesWith moment) : first = second := by
  cases literal with
  | year y =>
      cases divided
      obtain ⟨month, _, rfl⟩ := List.mem_map.mp isFirst
      obtain ⟨other, _, rfl⟩ := List.mem_map.mp isSecond
      obtain ⟨_, sameMonth⟩ := ofFirst
      obtain ⟨_, sameOther⟩ := ofSecond
      rw [← sameMonth, ← sameOther]
  | month y m =>
      cases divided
      obtain ⟨day, _, rfl⟩ := List.mem_map.mp isFirst
      obtain ⟨other, _, rfl⟩ := List.mem_map.mp isSecond
      obtain ⟨_, _, sameDay⟩ := ofFirst
      obtain ⟨_, _, sameOther⟩ := ofSecond
      rw [← sameDay, ← sameOther]
  | day => cases divided
  | minute => cases divided
  | second => cases divided

theorem exists_wholeDays (first : Date) {last whole next : Date}
    (found : whole.next? = some next) (ordered : last.rank ≤ whole.rank) :
    ∃ span, Span.wholeDays? first last = some span := by
  obtain ⟨following, isFollowing⟩ := Date.exists_next_of_le found ordered
  rw [Span.wholeDays?, isFollowing]
  exact ⟨_, rfl⟩

/-- The parts of a literal with a span have spans. -/
theorem exists_span_of_part {literal : DateLiteral} {span : Span} {parts : List DateLiteral}
    (found : literal.span? = some span) (divided : literal.parts? = some parts) :
    ∀ part ∈ parts, ∃ partSpan, part.span? = some partSpan := by
  intro part member
  cases literal with
  | year y =>
      cases divided
      obtain ⟨first, isFirst, rest⟩ := Option.bind_eq_some_iff.mp found
      obtain ⟨last, isLast, isSpan⟩ := Option.bind_eq_some_iff.mp rest
      obtain ⟨next, isNext, _⟩ := Option.map_eq_some_iff.mp isSpan
      obtain ⟨sameYear, december, lastDay⟩ := Date.ofParts?_eq_some isLast
      obtain ⟨month, inYear, rfl⟩ := List.mem_map.mp member
      obtain ⟨started, ended⟩ := List.mem_range'_1.mp inYear
      obtain ⟨atLeast, atMost, _⟩ := Date.isDate_of_ofParts? isFirst
      have valid : IsDate y month 1 :=
        ⟨atLeast, atMost, started, by omega, Nat.le_refl 1,
          Nat.le_trans (by decide) (le_monthLength y month)⟩
      have lastValid := Date.isDate_last valid
      rw [span?, Date.ofParts?_of_isDate valid, Date.ofParts?_of_isDate lastValid]
      apply exists_wholeDays _ isNext
      have length := monthLength_le y month
      unfold Date.rank
      dsimp only
      omega
  | month y m =>
      cases divided
      obtain ⟨first, isFirst, rest⟩ := Option.bind_eq_some_iff.mp found
      obtain ⟨last, isLast, isSpan⟩ := Option.bind_eq_some_iff.mp rest
      obtain ⟨next, isNext, _⟩ := Option.map_eq_some_iff.mp isSpan
      obtain ⟨sameYear, sameMonth, lastDay⟩ := Date.ofParts?_eq_some isLast
      obtain ⟨day, inMonth, rfl⟩ := List.mem_map.mp member
      obtain ⟨started, ended⟩ := List.mem_range'_1.mp inMonth
      obtain ⟨atLeast, atMost, january, december, _⟩ := Date.isDate_of_ofParts? isFirst
      have valid : IsDate y m day :=
        ⟨atLeast, atMost, january, december, started, by omega⟩
      rw [span?, Date.ofParts?_of_isDate valid]
      apply exists_wholeDays _ isNext
      unfold Date.rank
      dsimp only
      omega
  | day => cases divided
  | minute => cases divided
  | second => cases divided

/-- A year is divided by its months, and a month by its days. -/
theorem dividedBy_parts {literal : DateLiteral} {span : Span} {parts : List DateLiteral}
    (found : literal.span? = some span) (divided : literal.parts? = some parts) :
    span.DividedBy parts := by
  have spans := exists_span_of_part found divided
  refine ⟨spans, ?_⟩
  intro moment whole
  have within {part : DateLiteral} (member : part ∈ parts) :
      (∃ partSpan, part.span? = some partSpan ∧ partSpan.contains moment = true) ↔
        part.AgreesWith moment := by
    obtain ⟨partSpan, isSpan⟩ := spans part member
    rw [← contains_iff isSpan whole, isSpan]
    simp
  rw [contains_iff found whole, agreesWith_iff_exists_part divided]
  constructor
  · intro given
    obtain ⟨part, member, agrees⟩ := given
    refine ⟨part, ⟨member, (within member).mpr agrees⟩, ?_⟩
    intro other given
    obtain ⟨otherMember, otherWithin⟩ := given
    exact part_unique divided otherMember member ((within otherMember).mp otherWithin) agrees
  · intro given
    obtain ⟨part, ⟨member, inPart⟩, _⟩ := given
    exact ⟨part, member, (within member).mp inPart⟩

end DateLiteral

end Criteria.Calendar

namespace Criteria

open Criteria.Calendar

/-- A text that means a span spells one date literal. The whole seconds of the span are those that
agree with the literal on every field it spells, the span does not end before it begins, and a year
is divided by its months and a month by its days. Reckoning from the start of one unit to a second
before the start of the next gives the same span, and whatever the text, it never leaves the
calendar. -/
theorem date_texts_mean_the_seconds_that_agree (content : String) :
    reckonText content = .ok (DateSupport.standard.spanOf (.text content)) ∧
    ∀ span, DateSupport.standard.spanOf (.text content) = some span →
      (∃! literal : DateLiteral, literal.SpelledBy content.toList) ∧
      ∀ literal : DateLiteral, literal.SpelledBy content.toList →
        (∀ moment : Instant, moment.IsWholeSecond →
          (span.contains moment = true ↔ literal.AgreesWith moment)) ∧
        span.lower ≤ span.upper ∧
        ∀ parts, literal.parts? = some parts → span.DividedBy parts := by
  refine ⟨reckonText_eq content, ?_⟩
  intro span means
  constructor
  · obtain ⟨literal, spelled, _⟩ := DateSupport.exists_spelledBy means
    exact ⟨literal, spelled, fun other otherSpelled => otherSpelled.unique spelled⟩
  · intro literal spelled
    have found : literal.span? = some span := by
      rw [← means]
      exact (DateSupport.spanOf_of_spelledBy spelled).symm
    refine ⟨?_, literal.ordered_span? found, ?_⟩
    · intro moment whole
      exact DateLiteral.contains_iff found whole
    · intro parts divided
      exact DateLiteral.dividedBy_parts found divided

/-- February of the leap year 2024. -/
def leapFebruary : Span where
  lower := Instant.midnight ⟨2024, 2, 1, by decide⟩
  upper := Instant.lastSecond ⟨2024, 2, 29, by decide⟩

/-- A second of the last day of a leap year's February. -/
def leapEvening : Instant :=
  ⟨⟨2024, 2, 29, by decide⟩, 20, 15, 0, 0, by decide⟩

theorem date_texts_mean_the_seconds_that_agree_of_leapFebruary :
    DateSupport.standard.spanOf (.text " 2024/02") = some leapFebruary ∧
    (DateLiteral.month 2024 2).SpelledBy " 2024/02".toList ∧
    leapEvening.IsWholeSecond ∧ leapFebruary.contains leapEvening = true ∧
    leapFebruary.DividedBy ((List.range' 1 29).map (.day 2024 2)) := by
  have means : DateSupport.standard.spanOf (.text " 2024/02") = some leapFebruary := by
    decide +kernel
  have read : DateLiteral.ofChars? " 2024/02".toList = some (.month 2024 2) := by decide +kernel
  have spelled : (DateLiteral.month 2024 2).SpelledBy " 2024/02".toList :=
    (DateLiteral.ofChars?_eq_some_iff.mp read).1
  obtain ⟨_, meaning⟩ := date_texts_mean_the_seconds_that_agree " 2024/02"
  obtain ⟨_, ofLiteral⟩ := meaning leapFebruary means
  obtain ⟨seconds, _, division⟩ := ofLiteral (.month 2024 2) spelled
  exact ⟨means, spelled, rfl, (seconds leapEvening rfl).mpr ⟨rfl, rfl⟩, division _ rfl⟩

end Criteria
