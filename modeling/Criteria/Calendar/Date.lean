/-
Module: Criteria.Calendar.Date
Purpose: The days of the proleptic Gregorian calendar, their order and their numbering.
Main exports:
  IsDate, Date, Date.ofParts?, Date.next?, Date.rank, Date.dayNumber, Date.ofDayNumber?
-/

namespace Criteria.Calendar

/-- Every fourth year is a leap year, except the centuries that 400 does not divide. -/
def isLeapYear (year : Int) : Bool :=
  year % 4 == 0 && (year % 100 != 0 || year % 400 == 0)

/-- The number of days in a month, months counted from one. -/
def monthLength (year : Int) (month : Nat) : Nat :=
  if month = 2 then if isLeapYear year then 29 else 28
  else if month = 4 ∨ month = 6 ∨ month = 9 ∨ month = 11 then 30
  else 31

/-- The earliest year of the calendar. -/
def firstYear : Int := -262143

/-- The latest year of the calendar. -/
def lastYear : Int := 262142

/-- The three numbers name a day of the calendar. -/
def IsDate (year : Int) (month day : Nat) : Prop :=
  firstYear ≤ year ∧ year ≤ lastYear ∧ 1 ≤ month ∧ month ≤ 12 ∧
    1 ≤ day ∧ day ≤ monthLength year month

instance (year : Int) (month day : Nat) : Decidable (IsDate year month day) := by
  unfold IsDate
  infer_instance

/-- A day of the calendar. -/
structure Date where
  year : Int
  month : Nat
  day : Nat
  valid : IsDate year month day
deriving Repr, DecidableEq

namespace Date

/-- The day that the three numbers name, if there is one. -/
def ofParts? (year : Int) (month day : Nat) : Option Date :=
  if valid : IsDate year month day then some ⟨year, month, day, valid⟩ else none

/-- The day after, unless the calendar ends. -/
def next? (date : Date) : Option Date :=
  if date.day < monthLength date.year date.month then
    ofParts? date.year date.month (date.day + 1)
  else if date.month < 12 then ofParts? date.year (date.month + 1) 1
  else ofParts? (date.year + 1) 1 1

/-- One number that orders days by year, then month, then day. -/
def rank (date : Date) : Int :=
  (date.year * 13 + date.month) * 32 + date.day

instance : LE Date := ⟨fun first second => first.rank ≤ second.rank⟩
instance : LT Date := ⟨fun first second => first.rank < second.rank⟩

instance (first second : Date) : Decidable (first ≤ second) :=
  inferInstanceAs (Decidable (first.rank ≤ second.rank))

instance (first second : Date) : Decidable (first < second) :=
  inferInstanceAs (Decidable (first.rank < second.rank))

end Date

/-- Days between the first day of year 1 and the first day of the year. -/
def daysBeforeYear (year : Int) : Int :=
  365 * (year - 1) + (year - 1) / 4 - (year - 1) / 100 + (year - 1) / 400

/-- Days of the year before the month begins. -/
def daysBeforeMonth (year : Int) : Nat → Nat
  | 0 => 0
  | 1 => 0
  | month + 2 => daysBeforeMonth year (month + 1) + monthLength year (month + 1)

/-- Days between the first day of year 1 and 1970-01-01. -/
def epochDay : Int := 719162

/-- Days since 1970-01-01. -/
def Date.dayNumber (date : Date) : Int :=
  daysBeforeYear date.year + daysBeforeMonth date.year date.month + date.day - 1 - epochDay

/-- Month and day for a number of days into the year, from the given month on. The fuel
counts the months that are left. -/
def monthAndDay (year : Int) (month daysIn : Nat) : Nat → Nat × Nat
  | 0 => (month, daysIn + 1)
  | months + 1 =>
      if daysIn < monthLength year month then (month, daysIn + 1)
      else monthAndDay year (month + 1) (daysIn - monthLength year month) months

/-- The day with a number of days since 1970-01-01, if the calendar reaches it. Four
hundred years have 146097 days, a century 36524 but for the last, four years 1461 but for
the last of a century, and a year 365 but for the last of four. -/
def Date.ofDayNumber? (number : Int) : Option Date :=
  let days := number + epochDay
  let cycle := days / 146097
  let inCycle := (days % 146097).toNat
  let century := min (inCycle / 36524) 3
  let inCentury := inCycle - 36524 * century
  let quad := inCentury / 1461
  let inQuad := inCentury % 1461
  let single := min (inQuad / 365) 3
  let inYear := inQuad - 365 * single
  let year := cycle * 400 + ((100 * century + 4 * quad + single : Nat) : Int) + 1
  let parts := monthAndDay year 1 inYear 11
  ofParts? year parts.1 parts.2

end Criteria.Calendar
