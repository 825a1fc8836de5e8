/-
Module: Criteria.Proofs.Calendar.IndexOrder
Purpose: In the years 0 to 9999 the form of the index sorts instants by time, to the second,
  and one second later is the next one that it can tell apart.
Main exports:
  Instant.wholeSecond, Instant.HasFourDigitYear, Instant.indexForm_lt_iff,
  Instant.indexForm_le_iff, Instant.nextSecond_le_iff
-/
import Criteria.Calendar.Form
import Criteria.Proofs.Text.DigitOrder

namespace Criteria.Calendar

open Criteria.Text

/-! ### Days -/

theorem monthLength_le (year : Int) (month : Nat) : monthLength year month ≤ 31 := by
  unfold monthLength
  split
  · split <;> decide
  · split <;> decide

namespace Date

theorem month_bounds (date : Date) : 1 ≤ date.month ∧ date.month ≤ 12 :=
  ⟨date.valid.2.2.1, date.valid.2.2.2.1⟩

theorem day_bounds (date : Date) : 1 ≤ date.day ∧ date.day ≤ 31 :=
  ⟨date.valid.2.2.2.2.1, Nat.le_trans date.valid.2.2.2.2.2 (monthLength_le _ _)⟩

/-- Days are ordered by year, then month, then day. -/
theorem rank_lt_iff (first second : Date) :
    first.rank < second.rank ↔ first.year < second.year ∨ first.year = second.year ∧
      (first.month < second.month ∨ first.month = second.month ∧ first.day < second.day) := by
  have firstMonth := first.month_bounds
  have secondMonth := second.month_bounds
  have firstDay := first.day_bounds
  have secondDay := second.day_bounds
  unfold rank
  omega

theorem ofParts?_eq_some {year : Int} {month day : Nat} {date : Date}
    (found : ofParts? year month day = some date) :
    date.year = year ∧ date.month = month ∧ date.day = day := by
  unfold ofParts? at found
  split at found
  · cases found
    exact ⟨rfl, rfl, rfl⟩
  · cases found

/-- No day lies between a day and the one after it. -/
theorem next_le_iff {date next : Date} (found : date.next? = some next) (other : Date) :
    next.rank ≤ other.rank ↔ date.rank < other.rank := by
  have otherMonth := other.month_bounds
  have otherDay := other.day_bounds
  have otherLength := other.valid.2.2.2.2.2
  have month := date.month_bounds
  have day := date.day_bounds
  unfold next? at found
  split at found
  · next inside =>
      obtain ⟨sameYear, sameMonth, sameDay⟩ := ofParts?_eq_some found
      unfold rank
      omega
  · next last =>
      have beyond : ¬ (other.year = date.year ∧ other.month = date.month ∧
          date.day < other.day) := by
        intro given
        rcases given with ⟨sameYear, sameMonth, later⟩
        rw [sameYear, sameMonth] at otherLength
        omega
      split at found
      · obtain ⟨sameYear, sameMonth, sameDay⟩ := ofParts?_eq_some found
        unfold rank
        omega
      · obtain ⟨sameYear, sameMonth, sameDay⟩ := ofParts?_eq_some found
        unfold rank
        omega

/-- The digits of year, month and day as one number. -/
def stamp (date : Date) : Nat :=
  (date.year.toNat * 100 + date.month) * 100 + date.day

theorem stamp_lt_iff {first second : Date} (firstCommon : 0 ≤ first.year)
    (secondCommon : 0 ≤ second.year) :
    first.stamp < second.stamp ↔ first.rank < second.rank := by
  have firstMonth := first.month_bounds
  have secondMonth := second.month_bounds
  have firstDay := first.day_bounds
  have secondDay := second.day_bounds
  rw [rank_lt_iff]
  unfold stamp
  omega

end Date

/-! ### Seconds -/

namespace Instant

/-- The instant lies in the years that are written with four digits and no sign. -/
def HasFourDigitYear (moment : Instant) : Prop :=
  0 ≤ moment.date.year ∧ moment.date.year ≤ 9999

/-- The start of the second in which the instant lies. A leap second stays one. -/
def wholeSecond (moment : Instant) : Instant :=
  { moment with
    nano := if moment.isLeapSecond then 1000000000 else 0
    valid := by
      obtain ⟨hour, minute, second, fraction⟩ := moment.valid
      refine ⟨hour, minute, second, ?_⟩
      by_cases leap : moment.isLeapSecond = true
      · have large : 1000000000 ≤ moment.nano := of_decide_eq_true leap
        rw [if_pos leap]
        omega
      · rw [if_neg leap]
        omega }

/-- Seconds since the day began, on a clock without leap seconds. -/
def clock (moment : Instant) : Nat :=
  (moment.hour * 60 + moment.minute) * 60 + moment.second

theorem rank_eq (moment : Instant) :
    moment.rank = (moment.date.rank * 86400 + moment.clock) * 2000000000 + moment.nano := by
  unfold rank clock
  omega

theorem lt_iff_rank_lt (first second : Instant) : first < second ↔ first.rank < second.rank :=
  Iff.rfl

theorem le_iff_rank_le (first second : Instant) : first ≤ second ↔ first.rank ≤ second.rank :=
  Iff.rfl

/-- The digits of hour, minute and second as one number. -/
def clockStamp (moment : Instant) : Nat :=
  (moment.hour * 100 + moment.minute) * 100 + moment.shownSecond

/-- The digits of the index form as one number. -/
def stamp (moment : Instant) : Nat :=
  moment.date.stamp * 1000000 + moment.clockStamp

theorem shownSecond_le (moment : Instant) : moment.shownSecond ≤ 60 := by
  obtain ⟨_, _, second, _⟩ := moment.valid
  unfold shownSecond
  split <;> omega

theorem stamp_lt {moment : Instant} (common : moment.HasFourDigitYear) :
    moment.stamp < 10 ^ 14 := by
  obtain ⟨hour, minute, _, _⟩ := moment.valid
  have month := moment.date.month_bounds
  have day := moment.date.day_bounds
  have second := moment.shownSecond_le
  obtain ⟨_, year⟩ := common
  unfold stamp Date.stamp clockStamp
  omega

theorem indexForm_eq {moment : Instant} (common : moment.HasFourDigitYear) :
    moment.indexForm = String.ofList (fixedWidth 14 moment.stamp) := by
  obtain ⟨hour, minute, _, _⟩ := moment.valid
  have month := moment.date.month_bounds
  have day := moment.date.day_bounds
  have second := moment.shownSecond_le
  have year : yearDigits moment.date.year = fixedWidth 4 moment.date.year.toNat := by
    unfold yearDigits
    exact if_pos common
  have digits : moment.stamp = ((((moment.date.year.toNat * 10 ^ 2 + moment.date.month) *
      10 ^ 2 + moment.date.day) * 10 ^ 2 + moment.hour) * 10 ^ 2 + moment.minute) * 10 ^ 2 +
      moment.shownSecond := by
    unfold stamp Date.stamp clockStamp
    omega
  unfold indexForm
  rw [year, digits, fixedWidth_append 4 2 _ (by omega), fixedWidth_append 6 2 _ (by omega),
    fixedWidth_append 8 2 _ (by omega), fixedWidth_append 10 2 _ (by omega),
    fixedWidth_append 12 2 _ (by omega)]

/-- The nanoseconds that are left of an instant at the start of its second. -/
def leapNano (moment : Instant) : Nat :=
  if moment.isLeapSecond then 1000000000 else 0

theorem wholeSecond_rank (moment : Instant) :
    moment.wholeSecond.rank =
      (moment.date.rank * 86400 + moment.clock) * 2000000000 + moment.leapNano :=
  rank_eq moment.wholeSecond

/-- A leap second stands at the end of a minute. -/
theorem leapNano_cases (moment : Instant) :
    moment.leapNano = 0 ∧ moment.shownSecond = moment.second ∧ moment.nano < 1000000000 ∨
      moment.leapNano = 1000000000 ∧ moment.shownSecond = 60 ∧ moment.second = 59 ∧
        1000000000 ≤ moment.nano := by
  obtain ⟨_, _, _, fraction⟩ := moment.valid
  unfold leapNano shownSecond isLeapSecond
  by_cases leap : 1000000000 ≤ moment.nano
  · have last : moment.second = 59 := by omega
    exact .inr ⟨if_pos (decide_eq_true leap), by simp [leap, last], last, leap⟩
  · exact .inl ⟨by simp [leap], by simp [leap], Nat.lt_of_not_le leap⟩

theorem leapNano_eq_zero {moment : Instant} (ordinary : moment.isLeapSecond = false) :
    moment.leapNano = 0 := by
  unfold leapNano
  rw [ordinary]
  rfl

theorem clock_bounds (moment : Instant) :
    moment.clock < 86400 ∧ moment.leapNano ≤ 1000000000 ∧ moment.clockStamp < 1000000 := by
  obtain ⟨hour, minute, second, _⟩ := moment.valid
  have leap := moment.leapNano_cases
  unfold clock clockStamp
  omega

theorem clockStamp_lt_iff (first second : Instant) :
    first.clockStamp < second.clockStamp ↔
      first.clock * 2000000000 + first.leapNano < second.clock * 2000000000 + second.leapNano := by
  obtain ⟨firstHour, firstMinute, firstSecond, _⟩ := first.valid
  obtain ⟨secondHour, secondMinute, secondSecond, _⟩ := second.valid
  have firstLeap := first.leapNano_cases
  have secondLeap := second.leapNano_cases
  unfold clockStamp clock
  omega

/-- The digits sort as the whole seconds do. -/
theorem stamp_lt_iff {first second : Instant} (firstCommon : first.HasFourDigitYear)
    (secondCommon : second.HasFourDigitYear) :
    first.stamp < second.stamp ↔ first.wholeSecond < second.wholeSecond := by
  have days := Date.stamp_lt_iff firstCommon.1 secondCommon.1
  have daysBack := Date.stamp_lt_iff secondCommon.1 firstCommon.1
  have clocks := clockStamp_lt_iff first second
  have firstClock := first.clock_bounds
  have secondClock := second.clock_bounds
  rw [lt_iff_rank_lt, wholeSecond_rank, wholeSecond_rank]
  unfold stamp
  omega

/-- The form of the index sorts as the whole seconds do. -/
theorem indexForm_lt_iff {first second : Instant} (firstCommon : first.HasFourDigitYear)
    (secondCommon : second.HasFourDigitYear) :
    first.indexForm < second.indexForm ↔ first.wholeSecond < second.wholeSecond := by
  rw [indexForm_eq firstCommon, indexForm_eq secondCommon, String.lt_iff,
    String.toList_ofList, String.toList_ofList,
    fixedWidth_lt_iff (stamp_lt firstCommon) (stamp_lt secondCommon),
    stamp_lt_iff firstCommon secondCommon]

theorem indexForm_le_iff {first second : Instant} (firstCommon : first.HasFourDigitYear)
    (secondCommon : second.HasFourDigitYear) :
    first.indexForm ≤ second.indexForm ↔ first.wholeSecond ≤ second.wholeSecond := by
  have reversed := indexForm_lt_iff secondCommon firstCommon
  rw [lt_iff_rank_lt] at reversed
  rw [le_iff_rank_le, ← String.not_lt, reversed, Int.not_lt]

/-- The start of a second that is no leap second is as early as an instant if it is as early
as the start of the second of the instant. -/
theorem wholeSecond_le_iff {first : Instant} (ordinary : first.isLeapSecond = false)
    (second : Instant) :
    first.wholeSecond ≤ second.wholeSecond ↔ first.wholeSecond ≤ second := by
  have firstLeap := leapNano_eq_zero ordinary
  have secondLeap := second.leapNano_cases
  obtain ⟨_, _, _, fraction⟩ := second.valid
  rw [le_iff_rank_le, le_iff_rank_le, wholeSecond_rank, wholeSecond_rank, rank_eq second,
    firstLeap]
  omega

/-! ### One second later -/

theorem ofParts?_eq_some {date : Date} {hour minute second nano : Nat} {moment : Instant}
    (found : ofParts? date hour minute second nano = some moment) :
    moment.date = date ∧ moment.clock = (hour * 60 + minute) * 60 + second ∧
      moment.nano = nano := by
  unfold ofParts? at found
  split at found
  · cases found
    exact ⟨rfl, rfl, rfl⟩
  · cases found

/-- One second later the clock has moved on by one, or the next day begins. A fraction is
kept, but no leap second. -/
theorem nextSecond?_cases {moment next : Instant}
    (found : moment.nextSecond? = some next) :
    next.nano = moment.shownNano ∧
      (next.date = moment.date ∧ next.clock = moment.clock + 1 ∨
        moment.date.next? = some next.date ∧ moment.clock = 86399 ∧ next.clock = 0) := by
  obtain ⟨hour, minute, second, _⟩ := moment.valid
  unfold nextSecond? at found
  dsimp only at found
  split at found
  · obtain ⟨sameDate, clock, nano⟩ := ofParts?_eq_some found
    refine ⟨nano, .inl ⟨sameDate, ?_⟩⟩
    rw [clock, Instant.clock]
    omega
  · split at found
    · obtain ⟨sameDate, clock, nano⟩ := ofParts?_eq_some found
      refine ⟨nano, .inl ⟨sameDate, ?_⟩⟩
      rw [clock, Instant.clock]
      omega
    · split at found
      · obtain ⟨sameDate, clock, nano⟩ := ofParts?_eq_some found
        refine ⟨nano, .inl ⟨sameDate, ?_⟩⟩
        rw [clock, Instant.clock]
        omega
      · obtain ⟨nextDate, isNext, found⟩ := Option.bind_eq_some_iff.mp found
        obtain ⟨sameDate, clock, nano⟩ := ofParts?_eq_some found
        refine ⟨nano, .inr ⟨?_, ?_, clock⟩⟩
        · rw [isNext, sameDate]
        · unfold Instant.clock
          omega

theorem shownNano_lt (moment : Instant) : moment.shownNano < 1000000000 := by
  obtain ⟨_, _, _, fraction⟩ := moment.valid
  unfold shownNano isLeapSecond
  split
  · omega
  · next ordinary => simpa using ordinary

/-- A second that is no leap second begins after an instant if it begins no earlier than the
second of the instant one second later. -/
theorem nextSecond_le_iff {moment next other : Instant}
    (found : moment.nextSecond? = some next) (ordinary : other.isLeapSecond = false) :
    next.wholeSecond ≤ other.wholeSecond ↔ moment < other.wholeSecond := by
  obtain ⟨nextNano, moved⟩ := nextSecond?_cases found
  have small := moment.shownNano_lt
  have nextLeap := next.leapNano_cases
  have otherLeap := leapNano_eq_zero ordinary
  have fraction : moment.nano < 2000000000 := by
    obtain ⟨_, _, _, fraction⟩ := moment.valid
    omega
  have otherClock := other.clock_bounds
  rw [le_iff_rank_le, lt_iff_rank_lt, wholeSecond_rank, wholeSecond_rank, rank_eq moment]
  rcases moved with ⟨sameDate, clock⟩ | ⟨nextDate, last, first⟩
  · rw [sameDate, clock]
    omega
  · have days := Date.next_le_iff nextDate other.date
    omega

end Instant

end Criteria.Calendar
