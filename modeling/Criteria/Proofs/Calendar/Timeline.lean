/-
Module: Criteria.Proofs.Calendar.Timeline
Purpose: The numbers of days and seconds since 1970 tell days and seconds apart, so a timestamp
  loses nothing of an instant but the fraction of its second.
Main exports:
  Date.dayNumber_lt, Date.eq_of_rank_eq, Date.dayNumber_inj, Instant.onSecond,
  Instant.timestamp_bounds, Instant.timestamp_eq_iff
-/
import Criteria.Proofs.Calendar.IndexOrder

namespace Criteria.Calendar

/-- A year has 365 days, and a leap year one more. -/
def yearLength (year : Int) : Int :=
  if isLeapYear year then 366 else 365

theorem daysBeforeYear_succ (year : Int) :
    daysBeforeYear (year + 1) = daysBeforeYear year + yearLength year := by
  unfold daysBeforeYear yearLength isLeapYear
  split
  · next leap =>
      simp only [Bool.and_eq_true, Bool.or_eq_true, beq_iff_eq, bne_iff_ne] at leap
      omega
  · next common =>
      simp only [Bool.and_eq_true, Bool.or_eq_true, beq_iff_eq, bne_iff_ne] at common
      omega

/-- An earlier year is over when a later one begins. -/
theorem daysBeforeYear_add_le {first second : Int} (earlier : first < second) :
    daysBeforeYear first + yearLength first ≤ daysBeforeYear second := by
  rw [← daysBeforeYear_succ]
  unfold daysBeforeYear
  omega

/-- An earlier month is over when a later one of the same year begins. -/
theorem daysBeforeMonth_add_le (year : Int) {first second : Nat} (some : 1 ≤ first)
    (earlier : first < second) :
    daysBeforeMonth year first + monthLength year first ≤ daysBeforeMonth year second := by
  induction second with
  | zero => omega
  | succ second ih =>
      obtain ⟨before, rfl⟩ : ∃ before, second = before + 1 := ⟨second - 1, by omega⟩
      rw [daysBeforeMonth]
      rcases Nat.lt_or_ge first (before + 1) with less | same
      · have := ih less
        omega
      · obtain rfl : first = before + 1 := by omega
        exact Nat.le_refl _

/-- The twelve months are one year. -/
theorem daysBeforeMonth_thirteen (year : Int) :
    (daysBeforeMonth year 13 : Int) = yearLength year := by
  unfold yearLength
  cases leap : isLeapYear year <;> simp [daysBeforeMonth, monthLength, leap]

namespace Date

/-- The number of a day within its year, from one on. -/
def dayOfYear (date : Date) : Int :=
  daysBeforeMonth date.year date.month + date.day

theorem dayNumber_eq (date : Date) :
    date.dayNumber = daysBeforeYear date.year + date.dayOfYear - 1 - epochDay := by
  unfold dayNumber dayOfYear
  omega

theorem dayOfYear_bounds (date : Date) :
    1 ≤ date.dayOfYear ∧ date.dayOfYear ≤ yearLength date.year := by
  obtain ⟨_, _, month, monthLast, day, dayLast⟩ := date.valid
  have whole := daysBeforeMonth_thirteen date.year
  have within : daysBeforeMonth date.year date.month + monthLength date.year date.month ≤
      daysBeforeMonth date.year 13 :=
    daysBeforeMonth_add_le date.year month (Nat.lt_succ_of_le monthLast)
  unfold dayOfYear
  omega

/-- Within a year, days are numbered by month and day. -/
theorem dayOfYear_lt {first second : Date} (sameYear : first.year = second.year)
    (earlier : first.month < second.month ∨
      first.month = second.month ∧ first.day < second.day) :
    first.dayOfYear < second.dayOfYear := by
  obtain ⟨_, _, month, _, _, dayLast⟩ := first.valid
  obtain ⟨_, _, _, _, day, _⟩ := second.valid
  unfold dayOfYear
  rcases earlier with earlierMonth | ⟨sameMonth, earlierDay⟩
  · have ended := daysBeforeMonth_add_le first.year month earlierMonth
    rw [← sameYear]
    omega
  · rw [sameYear, sameMonth]
    omega

/-- Days are numbered in their order. -/
theorem dayNumber_lt {first second : Date} (earlier : first.rank < second.rank) :
    first.dayNumber < second.dayNumber := by
  rw [dayNumber_eq, dayNumber_eq]
  rcases (rank_lt_iff first second).mp earlier with earlierYear | ⟨sameYear, within⟩
  · have ended := daysBeforeYear_add_le earlierYear
    have firstBounds := first.dayOfYear_bounds
    have secondBounds := second.dayOfYear_bounds
    omega
  · have := dayOfYear_lt sameYear within
    rw [sameYear]
    omega

/-- The rank tells everything of a day. -/
theorem eq_of_rank_eq {first second : Date} (same : first.rank = second.rank) :
    first = second := by
  have notBefore : ¬ first.rank < second.rank := Int.not_lt.mpr (Int.le_of_eq same.symm)
  have notAfter : ¬ second.rank < first.rank := Int.not_lt.mpr (Int.le_of_eq same)
  rw [rank_lt_iff] at notBefore notAfter
  obtain ⟨year, month, day, _⟩ := first
  obtain ⟨otherYear, otherMonth, otherDay, _⟩ := second
  dsimp only at notBefore notAfter
  obtain rfl : year = otherYear := by omega
  obtain rfl : month = otherMonth := by omega
  obtain rfl : day = otherDay := by omega
  rfl

/-- Different days have different numbers. -/
theorem dayNumber_inj {first second : Date} (same : first.dayNumber = second.dayNumber) :
    first = second := by
  apply eq_of_rank_eq
  rcases Int.lt_trichotomy first.rank second.rank with earlier | sameRank | later
  · have := dayNumber_lt earlier
    omega
  · exact sameRank
  · have := dayNumber_lt later
    omega

/-- No day is further from 1970 than the calendar reaches. -/
theorem dayNumber_bounds (date : Date) :
    -100000000 ≤ date.dayNumber ∧ date.dayNumber ≤ 100000000 := by
  obtain ⟨earliest, latest, _⟩ := date.valid
  have within := date.dayOfYear_bounds
  have : yearLength date.year ≤ 366 := by
    unfold yearLength
    split <;> omega
  unfold firstYear at earliest
  unfold lastYear at latest
  rw [dayNumber_eq]
  unfold daysBeforeYear epochDay
  omega

end Date

namespace Instant

/-- The instant without the fraction of its second. A leap second becomes the second that it
follows. -/
def onSecond (moment : Instant) : Instant :=
  { moment with
    nano := 0
    valid := ⟨moment.valid.1, moment.valid.2.1, moment.valid.2.2.1, .inl (by decide)⟩ }

theorem timestamp_eq (moment : Instant) :
    moment.timestamp = moment.date.dayNumber * 86400 + moment.clock := by
  unfold timestamp clock
  omega

@[simp] theorem timestamp_onSecond (moment : Instant) :
    moment.onSecond.timestamp = moment.timestamp := rfl

/-- Timestamps need far fewer than 64 bits. -/
theorem timestamp_bounds (moment : Instant) :
    -9223372036854775808 ≤ moment.timestamp ∧ moment.timestamp < 9223372036854775808 := by
  have days := moment.date.dayNumber_bounds
  have clock := moment.clock_bounds
  rw [timestamp_eq]
  omega

/-- A timestamp tells everything of an instant but the fraction of its second. -/
theorem timestamp_eq_iff (first second : Instant) :
    first.timestamp = second.timestamp ↔ first.onSecond = second.onSecond := by
  constructor
  · intro same
    have firstClock := first.clock_bounds
    have secondClock := second.clock_bounds
    rw [timestamp_eq, timestamp_eq] at same
    have sameDay : first.date = second.date := Date.dayNumber_inj (by omega)
    have sameClock : first.clock = second.clock := by
      rw [sameDay] at same
      omega
    obtain ⟨_, hour, minute, clockSecond, _, hourBound, minuteBound, secondBound, _⟩ := first
    obtain ⟨_, otherHour, otherMinute, otherSecond, _, _, otherMinuteBound, otherSecondBound, _⟩ :=
      second
    unfold clock at sameClock
    dsimp only at sameDay sameClock
    obtain rfl : hour = otherHour := by omega
    obtain rfl : minute = otherMinute := by omega
    obtain rfl : clockSecond = otherSecond := by omega
    rw [sameDay]
    rfl
  · intro same
    rw [← timestamp_onSecond first, same, timestamp_onSecond]

end Instant

end Criteria.Calendar
