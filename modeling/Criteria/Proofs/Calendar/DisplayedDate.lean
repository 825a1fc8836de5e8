/-
Module: Criteria.Proofs.Calendar.DisplayedDate
Purpose: Dates in their display form are read back as the minute that they show, from the year 0 on.
  The sign of an earlier year is taken for a mark between fields.
Main exports:
  Instant.shownMinute, Instant.shownMinute_spelledBy, Instant.minuteSpan,
  Instant.span?_shownMinute, displayed_dates_mean_their_minute
-/
import Criteria.Proofs.Calendar.Precision

namespace Criteria.Calendar

open Criteria.Text

/-! ### Fields in decimal -/

/-- From the year 0 on a year is written as a numeral, with a plus sign where it has five digits. -/
theorem numeral_yearDigits {year : Int} (positive : 0 ≤ year) :
    Numeral (yearDigits year) year.toNat := by
  unfold yearDigits
  split
  · next common => exact numeral_fixedWidth (show year.toNat < 10 ^ 4 by omega)
  · have size : year.natAbs = year.toNat := by omega
    rw [if_neg (by omega), size]
    exact numeral_paddedDecimal 4 year.toNat

/-- No separator stands in a numeral. -/
theorem unbroken_of_numeral {separates : Char → Bool} {text : List Char} {n : Nat}
    (numeral : Numeral text n) (apart : ∀ c, separates c = true → isNumeric c = false) :
    ∀ c ∈ text, separates c = false := by
  intro c member
  apply Bool.eq_false_iff.mpr
  intro mark
  have numeric := numeral.numeric c member
  rw [apart c mark] at numeric
  cases numeric

theorem isNumeric_of_isDash (c : Char) (dash : isDash c = true) : isNumeric c = false := by
  simp only [isDash, Bool.or_eq_true, beq_iff_eq] at dash
  rcases dash with rfl | rfl
  · rfl
  · rfl

theorem isNumeric_of_isColon (c : Char) (colon : isColon c = true) : isNumeric c = false := by
  rw [beq_iff_eq.mp colon]
  rfl

namespace Instant

variable (moment : Instant)

theorem numeral_month : Numeral (fixedWidth 2 moment.date.month) moment.date.month := by
  have bounds := moment.date.month_bounds
  exact numeral_fixedWidth (show moment.date.month < 10 ^ 2 by omega)

theorem numeral_day : Numeral (fixedWidth 2 moment.date.day) moment.date.day := by
  have bounds := moment.date.day_bounds
  exact numeral_fixedWidth (show moment.date.day < 10 ^ 2 by omega)

theorem numeral_hour : Numeral (fixedWidth 2 moment.hour) moment.hour := by
  have bound := moment.valid.1
  exact numeral_fixedWidth (show moment.hour < 10 ^ 2 by omega)

theorem numeral_minute : Numeral (fixedWidth 2 moment.minute) moment.minute := by
  have bound := moment.valid.2.1
  exact numeral_fixedWidth (show moment.minute < 10 ^ 2 by omega)

/-! ### The display form -/

/-- The date as it is displayed. -/
def shownDate : List Char :=
  yearDigits moment.date.year ++ '-' :: (fixedWidth 2 moment.date.month ++
    '-' :: fixedWidth 2 moment.date.day)

/-- The time as it is displayed. -/
def shownTime : List Char :=
  fixedWidth 2 moment.hour ++ ':' :: fixedWidth 2 moment.minute

theorem toList_displayForm :
    moment.displayForm.toList = moment.shownDate ++ ' ' :: ([] ++ moment.shownTime) := by
  simp [displayForm, shownDate, shownTime]

theorem joined_shownTime :
    Joined isColon moment.shownTime [fixedWidth 2 moment.hour, fixedWidth 2 moment.minute] :=
  .next (unbroken_of_numeral moment.numeral_hour isNumeric_of_isColon) rfl
    (.last (unbroken_of_numeral moment.numeral_minute isNumeric_of_isColon))

/-- The literal of the minute in which the instant lies. -/
def shownMinute : DateLiteral :=
  .minute moment.date.year moment.date.month moment.date.day moment.hour moment.minute

variable {moment}

theorem joined_shownDate (positive : 0 ≤ moment.date.year) :
    Joined isDash moment.shownDate [yearDigits moment.date.year, fixedWidth 2 moment.date.month,
      fixedWidth 2 moment.date.day] :=
  .next (unbroken_of_numeral (numeral_yearDigits positive) isNumeric_of_isDash) rfl
    (.next (unbroken_of_numeral moment.numeral_month isNumeric_of_isDash) rfl
      (.last (unbroken_of_numeral moment.numeral_day isNumeric_of_isDash)))

/-- From the year 0 on the display form spells the minute. -/
theorem shownMinute_spelledBy (positive : 0 ≤ moment.date.year) :
    moment.shownMinute.SpelledBy moment.displayForm.toList := by
  have year : ((moment.date.year.toNat : Nat) : Int) = moment.date.year :=
    Int.toNat_of_nonneg positive
  have written := DateLiteral.Written.minute (numeral_yearDigits positive) moment.numeral_month
    moment.numeral_day moment.numeral_hour moment.numeral_minute
  rw [year] at written
  refine ⟨[], moment.displayForm.toList, [], List.forall_mem_nil _, List.forall_mem_nil _,
    (List.append_nil _).symm, ?_⟩
  rw [toList_displayForm]
  exact .timed (joined_shownDate positive) rfl (List.forall_mem_nil _) moment.joined_shownTime
    written

/-- The display form of a date before the year 0 begins with a minus sign. -/
theorem exists_minus_displayForm (negative : moment.date.year < 0) :
    ∃ rest, moment.displayForm.toList = '-' :: rest := by
  have uncommon : ¬ (0 ≤ moment.date.year ∧ moment.date.year ≤ 9999) := by omega
  rw [toList_displayForm, shownDate, yearDigits, if_neg uncommon, if_pos negative]
  exact ⟨_, rfl⟩

variable (moment)

/-! ### The minute -/

/-- The minute in which the instant lies, from its first second to its last. -/
def minuteSpan : Span where
  lower := { moment with
    second := 0
    nano := 0
    valid := ⟨moment.valid.1, moment.valid.2.1, by decide, .inl (by decide)⟩ }
  upper := { moment with
    second := 59
    nano := 0
    valid := ⟨moment.valid.1, moment.valid.2.1, by decide, .inl (by decide)⟩ }

theorem span?_shownMinute : moment.shownMinute.span? = some moment.minuteSpan := by
  have date : Date.ofParts? moment.date.year moment.date.month moment.date.day =
      some moment.date := Date.ofParts?_of_isDate moment.date.valid
  have lower : ofParts? moment.date moment.hour moment.minute 0 0 = some moment.minuteSpan.lower :=
    ofParts?_of_isClock moment.date moment.minuteSpan.lower.valid
  have upper : ofParts? moment.date moment.hour moment.minute 59 0 = some moment.minuteSpan.upper :=
    ofParts?_of_isClock moment.date moment.minuteSpan.upper.valid
  rw [shownMinute, DateLiteral.span?, date]
  dsimp only [Option.bind_eq_bind, Option.bind_some]
  rw [lower, upper]
  rfl

theorem shift_minuteSpan : moment.minuteSpan.lower.shift 59 = .ok moment.minuteSpan.upper := by
  apply shift_eq_ok
  · rw [timestamp_eq, timestamp_eq]
    simp only [minuteSpan, clock]
    omega
  · rfl

end Instant

end Criteria.Calendar

namespace Criteria

open Criteria.Calendar

/-- From the year 0 on, also where a year has more than four digits, the text of a date means the
minute of the date: from its first second, with no fraction, to 59 seconds later, which contains the
date to the second. The text of an earlier date means nothing. -/
theorem displayed_dates_mean_their_minute (moment : Instant) :
    DateSupport.standard.displayForm moment = (Value.date moment).plainText ∧
    (0 ≤ moment.date.year →
      DateSupport.standard.spanOf (.text (Value.date moment).plainText) =
        some moment.minuteSpan ∧
      moment.minuteSpan.lower.shift 59 = .ok moment.minuteSpan.upper ∧
      moment.minuteSpan.contains moment.onSecond = true) ∧
    (moment.date.year < 0 →
      DateSupport.standard.spanOf (.text (Value.date moment).plainText) = none) := by
  refine ⟨rfl, ?_, ?_⟩
  · intro positive
    have means : DateSupport.standard.spanOf (.text moment.displayForm) =
        moment.shownMinute.span? :=
      DateSupport.spanOf_of_spelledBy (Instant.shownMinute_spelledBy positive)
    rw [moment.span?_shownMinute] at means
    have whole : moment.onSecond.IsWholeSecond := rfl
    refine ⟨means, moment.shift_minuteSpan, ?_⟩
    rw [DateLiteral.contains_iff moment.span?_shownMinute whole]
    exact ⟨⟨rfl, rfl, rfl⟩, rfl, rfl⟩
  · intro negative
    apply Option.eq_none_iff_forall_ne_some.mpr
    intro span means
    obtain ⟨literal, spelled, _⟩ := DateSupport.exists_spelledBy means
    obtain ⟨rest, signed⟩ := Instant.exists_minus_displayForm negative
    have displayed : literal.SpelledBy moment.displayForm.toList := spelled
    rw [signed] at displayed
    exact DateLiteral.not_spelledBy_cons rfl rfl rest displayed

/-- The last but one second of the calendar, and part of it. -/
def nearTheEnd : Instant :=
  ⟨⟨262142, 12, 31, by decide⟩, 23, 59, 58, 123456789, by decide⟩

theorem displayed_dates_mean_their_minute_of_nearTheEnd :
    0 ≤ nearTheEnd.date.year ∧ (Value.date nearTheEnd).plainText = "+262142-12-31 23:59" ∧
    DateSupport.standard.spanOf (.text "+262142-12-31 23:59") =
      some ⟨⟨⟨262142, 12, 31, by decide⟩, 23, 59, 0, 0, by decide⟩,
        ⟨⟨262142, 12, 31, by decide⟩, 23, 59, 59, 0, by decide⟩⟩ := by
  have positive : 0 ≤ nearTheEnd.date.year := by decide
  have shown : (Value.date nearTheEnd).plainText = "+262142-12-31 23:59" := by decide +kernel
  obtain ⟨_, fromZero, _⟩ := displayed_dates_mean_their_minute nearTheEnd
  obtain ⟨means, _, _⟩ := fromZero positive
  rw [shown] at means
  exact ⟨positive, shown, means⟩

end Criteria
