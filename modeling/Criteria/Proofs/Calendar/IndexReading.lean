/-
Module: Criteria.Proofs.Calendar.IndexReading
Purpose: The form of the index is read back as the second that it shows in the years 0 to 9999, and
  as nothing in all others. It sorts as the seconds since 1970 do.
Main exports:
  Instant.timestamp_lt_iff, Instant.takeNumber?_fixedWidth_append,
  Instant.readIndexForm?_indexForm, Instant.readIndexForm?_indexForm_of_signed,
  Instant.indexForm_inj, index_forms_stand_for_their_seconds
-/
import Mathlib.Data.List.TakeWhile
import Criteria.Proofs.Calendar.SpanEnds
import Criteria.Proofs.Calendar.Timeline
import Criteria.Proofs.Text.Numeral

namespace Criteria.Calendar

open Criteria.Text

namespace Instant

/-! ### Whole seconds -/

theorem wholeSecond_eq_onSecond {moment : Instant} (ordinary : moment.isLeapSecond = false) :
    moment.wholeSecond = moment.onSecond := by
  unfold wholeSecond onSecond
  simp only [ordinary, Bool.false_eq_true, if_false]

theorem rank_onSecond (moment : Instant) :
    moment.onSecond.rank = (moment.date.rank * 86400 + moment.clock) * 2000000000 := by
  rw [rank_eq]
  exact Int.add_zero _

/-- Without the fractions of their seconds, instants are ordered as the seconds since 1970 are
numbered. -/
theorem timestamp_lt_iff (first second : Instant) :
    first.timestamp < second.timestamp ↔ first.onSecond < second.onSecond := by
  have firstClock := first.clock_bounds
  have secondClock := second.clock_bounds
  rw [lt_iff_rank_lt, rank_onSecond, rank_onSecond, timestamp_eq, timestamp_eq]
  -- The days decide, and the clocks only where both instants lie on one day.
  rcases Int.lt_trichotomy first.date.rank second.date.rank with earlier | same | later
  · have days := Date.dayNumber_lt earlier
    omega
  · rw [Date.eq_of_rank_eq same]
    omega
  · have days := Date.dayNumber_lt later
    omega

theorem isLeapSecond_wholeSecond (moment : Instant) :
    moment.wholeSecond.isLeapSecond = moment.isLeapSecond := by
  have kept : ∀ leap : Bool, decide (1000000000 ≤ if leap = true then 1000000000 else 0) = leap := by
    decide
  exact kept moment.isLeapSecond

/-- The form of the index shows the second and no fraction of it. -/
theorem indexForm_wholeSecond (moment : Instant) :
    moment.wholeSecond.indexForm = moment.indexForm := by
  unfold indexForm shownSecond
  rw [isLeapSecond_wholeSecond]
  rfl

/-! ### Numbers taken off a text -/

theorem dropWhile_isBlank_of_isDigit {digit : Char} (isDigit : digit.isDigit = true)
    (rest : List Char) : (digit :: rest).dropWhile isBlank = digit :: rest := by
  have numeric : isNumeric digit = true := by simp [isNumeric, isDigit]
  have visible : ¬ isBlank digit = true := by
    rw [isBlank_of_isNumeric numeric]
    exact Bool.false_ne_true
  exact List.dropWhile_cons_of_neg visible

/-- A number that fills its width is taken off as a whole, also if more digits follow it. -/
theorem takeNumber?_fixedWidth_append {width n : Nat} (fits : n < 10 ^ (width + 1))
    (rest : List Char) :
    takeNumber? (width + 1) (fixedWidth (width + 1) n ++ rest) = some (n, rest) := by
  have long : (fixedWidth (width + 1) n).length = width + 1 := length_fixedWidth (width + 1) n
  have visible : (fixedWidth (width + 1) n ++ rest).dropWhile isBlank =
      fixedWidth (width + 1) n ++ rest := by
    obtain ⟨digit, others, written, isDigit⟩ := exists_digit_of_fixedWidth width n
    rw [written]
    exact dropWhile_isBlank_of_isDigit isDigit _
  have taken : ((fixedWidth (width + 1) n ++ rest).take (width + 1)).takeWhile Char.isDigit =
      fixedWidth (width + 1) n := by
    rw [List.take_left' long]
    exact List.takeWhile_eq_self_iff.mpr (isDigit_of_mem_fixedWidth (width + 1) n)
  have nonempty : (fixedWidth (width + 1) n).isEmpty = false :=
    List.isEmpty_eq_false_iff.mpr (List.ne_nil_of_length_pos (by omega))
  have value : digitsValue (fixedWidth (width + 1) n) = n := by
    rw [digitsValue_fixedWidth, Nat.mod_eq_of_lt fits]
  unfold takeNumber?
  simp only [visible, taken, nonempty, value, List.drop_left, Bool.false_eq_true, if_false]

/-- A year without a sign is a number of four digits. -/
theorem takeYear?_fixedWidth_append {year : Nat} (fits : year < 10 ^ 4) (rest : List Char) :
    takeYear? (fixedWidth 4 year ++ rest) = some ((year : Int), rest) := by
  have taken := takeNumber?_fixedWidth_append fits rest
  obtain ⟨digit, others, written, isDigit⟩ := exists_digit_of_fixedWidth 3 year
  rw [written, List.cons_append] at taken ⊢
  have minus : digit ≠ '-' := by
    rintro rfl
    cases isDigit
  have plus : digit ≠ '+' := by
    rintro rfl
    cases isDigit
  unfold takeYear?
  rw [dropWhile_isBlank_of_isDigit isDigit]
  simp [minus, plus, taken]

/-- After a sign all digits are taken for the year. -/
theorem takeYear?_of_signed {sign : Char} (isSign : sign = '-' ∨ sign = '+') {digits : List Char}
    (nonempty : digits ≠ []) (each : ∀ c ∈ digits, c.isDigit = true) :
    ∃ year, takeYear? (sign :: digits) = some (year, []) := by
  have present : digits.isEmpty = false := List.isEmpty_eq_false_iff.mpr nonempty
  have taken : takeYear?.takeDigits? digits = some (digitsValue digits, []) := by
    unfold takeYear?.takeDigits?
    simp only [List.takeWhile_eq_self_iff.mpr each, List.dropWhile_eq_nil_iff.mpr each, present,
      Bool.false_eq_true, if_false]
  rcases isSign with rfl | rfl
  · exact ⟨_, congrArg (Option.map _) taken⟩
  · exact ⟨_, congrArg (Option.map _) taken⟩

/-! ### The form of the index -/

/-- What the form of the index shows after the year, two digits a field. -/
def shownFields (moment : Instant) : List Char :=
  fixedWidth 2 moment.date.month ++ (fixedWidth 2 moment.date.day ++ (fixedWidth 2 moment.hour ++
    (fixedWidth 2 moment.minute ++ fixedWidth 2 moment.shownSecond)))

theorem toList_indexForm (moment : Instant) :
    moment.indexForm.toList = yearDigits moment.date.year ++ moment.shownFields := by
  simp [indexForm, shownFields]

theorem isDigit_of_mem_shownFields (moment : Instant) :
    ∀ c ∈ moment.shownFields, c.isDigit = true := by
  have field := isDigit_of_mem_fixedWidth 2
  unfold shownFields
  simp only [List.forall_mem_append]
  exact ⟨field _, field _, field _, field _, field _⟩

/-- The second that is shown, where 60 stands for a leap second, says which whole second it is. -/
theorem ofParts?_shownSecond (moment : Instant) :
    (if moment.shownSecond = 60 then ofParts? moment.date moment.hour moment.minute 59 1000000000
      else ofParts? moment.date moment.hour moment.minute moment.shownSecond 0) =
      some moment.wholeSecond := by
  obtain ⟨_, _, secondBound, _⟩ := moment.valid
  have named : ofParts? moment.date moment.hour moment.minute moment.second moment.leapNano =
      some moment.wholeSecond := ofParts?_of_isClock moment.date moment.wholeSecond.valid
  rcases moment.leapNano_cases with ⟨none, shown, _⟩ | ⟨full, shown, last, _⟩
  · rw [none] at named
    rw [shown, if_neg (by omega), named]
  · rw [full, last] at named
    rw [if_pos shown, named]

theorem takeYear?_of_common {moment : Instant} (common : moment.HasFourDigitYear)
    (rest : List Char) :
    takeYear? (yearDigits moment.date.year ++ rest) = some (moment.date.year, rest) := by
  obtain ⟨positive, small⟩ := common
  have fits : moment.date.year.toNat < 10 ^ 4 := by omega
  rw [yearDigits, if_pos ⟨positive, small⟩, takeYear?_fixedWidth_append fits,
    Int.toNat_of_nonneg positive]

/-- In the years 0 to 9999 the form of the index is read back as the second that it shows. -/
theorem readIndexForm?_indexForm {moment : Instant} (common : moment.HasFourDigitYear) :
    readIndexForm? moment.indexForm = some moment.wholeSecond := by
  obtain ⟨hour, minute, _, _⟩ := moment.valid
  have month := moment.date.month_bounds
  have day := moment.date.day_bounds
  have second := moment.shownSecond_le
  -- Nothing divides the fields, but each of them fills its two digits, also the second 60.
  have takeField {n : Nat} (fits : n < 100) (rest : List Char) :
      takeNumber? 2 (fixedWidth 2 n ++ rest) = some (n, rest) :=
    takeNumber?_fixedWidth_append fits rest
  have takeMonth := takeField (show moment.date.month < 100 by omega)
  have takeDay := takeField (show moment.date.day < 100 by omega)
  have takeHour := takeField (show moment.hour < 100 by omega)
  have takeMinute := takeField (show moment.minute < 100 by omega)
  have takeSecond := takeField (show moment.shownSecond < 100 by omega) []
  rw [List.append_nil] at takeSecond
  have date : Date.ofParts? moment.date.year moment.date.month moment.date.day =
      some moment.date := Date.ofParts?_of_isDate moment.date.valid
  unfold readIndexForm?
  rw [toList_indexForm]
  refine Option.bind_eq_some_iff.mpr ⟨_, takeYear?_of_common common moment.shownFields, ?_⟩
  refine Option.bind_eq_some_iff.mpr ⟨_, takeMonth _, ?_⟩
  refine Option.bind_eq_some_iff.mpr ⟨_, takeDay _, ?_⟩
  refine Option.bind_eq_some_iff.mpr ⟨_, takeHour _, ?_⟩
  refine Option.bind_eq_some_iff.mpr ⟨_, takeMinute _, ?_⟩
  refine Option.bind_eq_some_iff.mpr ⟨_, takeSecond, ?_⟩
  refine Option.bind_eq_some_iff.mpr ⟨(), rfl, ?_⟩
  refine Option.bind_eq_some_iff.mpr ⟨_, date, ?_⟩
  exact moment.ofParts?_shownSecond

/-- The form of the index of any other year is not read back: its year has a sign, and all digits
that follow are taken for the year. -/
theorem readIndexForm?_indexForm_of_signed {moment : Instant}
    (signed : ¬ moment.HasFourDigitYear) : readIndexForm? moment.indexForm = none := by
  have outside : ¬ (0 ≤ moment.date.year ∧ moment.date.year ≤ 9999) := signed
  have isSign : (if moment.date.year < 0 then '-' else '+') = '-' ∨
      (if moment.date.year < 0 then '-' else '+') = '+' :=
    ite_eq_or_eq _ _ _
  have nonempty : paddedDecimal 4 moment.date.year.natAbs ++ moment.shownFields ≠ [] :=
    List.append_ne_nil_of_left_ne_nil (paddedDecimal_ne_nil 4 _) _
  have digits : ∀ c ∈ paddedDecimal 4 moment.date.year.natAbs ++ moment.shownFields,
      c.isDigit = true :=
    List.forall_mem_append.mpr
      ⟨isDigit_of_mem_paddedDecimal 4 _, moment.isDigit_of_mem_shownFields⟩
  obtain ⟨year, taken⟩ := takeYear?_of_signed isSign nonempty digits
  unfold readIndexForm?
  rw [toList_indexForm, yearDigits, if_neg outside, List.cons_append, taken]
  rfl

/-- In the years 0 to 9999 the form of the index tells everything of an instant but the fraction of
its second. -/
theorem indexForm_inj {first second : Instant} (firstCommon : first.HasFourDigitYear)
    (secondCommon : second.HasFourDigitYear) :
    first.indexForm = second.indexForm ↔ first.wholeSecond = second.wholeSecond := by
  constructor
  · intro same
    have read := readIndexForm?_indexForm firstCommon
    rw [same, readIndexForm?_indexForm secondCommon] at read
    exact (Option.some.inj read).symm
  · intro same
    rw [← first.indexForm_wholeSecond, same, indexForm_wholeSecond]

end Instant

end Criteria.Calendar

namespace Criteria

open Criteria.Calendar

/-- In the years 0 to 9999 the form of the index stands for the second of an instant: as a text it
sorts as the seconds follow each other in time, which is how they are numbered since 1970, it is
the same for instants of one second only, and it is read back as the start of the second. -/
theorem index_forms_stand_for_their_seconds {first second : Instant}
    (firstCommon : first.HasFourDigitYear) (secondCommon : second.HasFourDigitYear)
    (firstOrdinary : first.isLeapSecond = false) (secondOrdinary : second.isLeapSecond = false) :
    (DateSupport.standard.indexForm first < DateSupport.standard.indexForm second ↔
      first.onSecond < second.onSecond) ∧
    (first.onSecond < second.onSecond ↔ first.timestamp < second.timestamp) ∧
    (DateSupport.standard.indexForm first = DateSupport.standard.indexForm second ↔
      first.onSecond = second.onSecond) ∧
    DateSupport.standard.readIndexForm? (DateSupport.standard.indexForm first) =
      some first.onSecond := by
  have firstStart := Instant.wholeSecond_eq_onSecond firstOrdinary
  have secondStart := Instant.wholeSecond_eq_onSecond secondOrdinary
  have order := Instant.indexForm_lt_iff firstCommon secondCommon
  have same := Instant.indexForm_inj firstCommon secondCommon
  have read := Instant.readIndexForm?_indexForm firstCommon
  rw [firstStart, secondStart] at order same
  rw [firstStart] at read
  exact ⟨order, (Instant.timestamp_lt_iff first second).symm, same, read⟩

/-- The last day of a leap February. -/
def leapDay : Date :=
  ⟨1996, 2, 29, by decide⟩

/-- Part of the last second of the leap day. -/
def endOfLeapDay : Instant :=
  ⟨leapDay, 23, 59, 59, 999999999, by decide⟩

/-- The first day of the March after the leap day. -/
def firstOfMarch : Date :=
  ⟨1996, 3, 1, by decide⟩

theorem index_forms_stand_for_their_seconds_of_leapDay :
    endOfLeapDay.HasFourDigitYear ∧ (Instant.midnight firstOfMarch).HasFourDigitYear ∧
    endOfLeapDay.isLeapSecond = false ∧ (Instant.midnight firstOfMarch).isLeapSecond = false ∧
    endOfLeapDay.indexForm = "19960229235959" ∧
    (Instant.midnight firstOfMarch).indexForm = "19960301000000" ∧
    "19960229235959" < "19960301000000" ∧
    Instant.readIndexForm? "19960229235959" = some (Instant.lastSecond leapDay) := by
  have before : endOfLeapDay.HasFourDigitYear := by
    unfold Instant.HasFourDigitYear
    decide
  have after : (Instant.midnight firstOfMarch).HasFourDigitYear := by
    unfold Instant.HasFourDigitYear
    decide
  have formBefore : endOfLeapDay.indexForm = "19960229235959" := by decide +kernel
  have formAfter : (Instant.midnight firstOfMarch).indexForm = "19960301000000" := by
    decide +kernel
  obtain ⟨order, _, _, read⟩ := index_forms_stand_for_their_seconds before after rfl rfl
  have earlier : endOfLeapDay.onSecond < (Instant.midnight firstOfMarch).onSecond := by decide
  have sorted : endOfLeapDay.indexForm < (Instant.midnight firstOfMarch).indexForm :=
    order.mpr earlier
  have readBack : Instant.readIndexForm? endOfLeapDay.indexForm =
      some (Instant.lastSecond leapDay) := read
  rw [formBefore] at sorted readBack
  rw [formAfter] at sorted
  exact ⟨before, after, rfl, rfl, formBefore, formAfter, sorted, readBack⟩

end Criteria
