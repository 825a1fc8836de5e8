/-
Module: Criteria.Proofs.Calendar.Reckoning
Purpose: Reckoning with days and seconds: numbers of days lead back to days, seconds may be added
  to instants, and the span of a date literal ends a second before its next year, month or day
  begins, for which the calendar always reaches far enough.
Main exports:
  Date.ofDayNumber?_dayNumber, Date.dayNumber_next, Instant.plusSeconds?, OutOfCalendar,
  DateLiteral.reckon, DateLiteral.reckon_eq, reckonText
-/
import Criteria.Calendar.DateLiteral
import Criteria.Proofs.Calendar.SpanEnds
import Criteria.Proofs.Calendar.Timeline

namespace Criteria.Calendar

/-! ### From numbers to days -/

theorem daysBeforeMonth_succ (year : Int) {month : Nat} (started : 1 ≤ month) :
    daysBeforeMonth year (month + 1) = daysBeforeMonth year month + monthLength year month := by
  obtain ⟨before, rfl⟩ : ∃ before, month = before + 1 := ⟨month - 1, by omega⟩
  rfl

/-- Walking through the months finds the month in which a day of the year lies, and the day of the
month. -/
theorem monthAndDay_eq (year : Int) {start month day : Nat} (started : 1 ≤ start)
    (later : start ≤ month) (someDay : 1 ≤ day) (within : day ≤ monthLength year month)
    {daysIn months : Nat} (reaches : month ≤ start + months)
    (count : daysBeforeMonth year start + daysIn + 1 = daysBeforeMonth year month + day) :
    monthAndDay year start daysIn months = (month, day) := by
  induction months generalizing start daysIn with
  | zero =>
      obtain rfl : start = month := Nat.le_antisymm later reaches
      rw [monthAndDay]
      have sameDay : daysIn + 1 = day := by omega
      rw [sameDay]
  | succ months ih =>
      rw [monthAndDay]
      rcases Nat.eq_or_lt_of_le later with here | further
      · subst here
        have sameDay : daysIn + 1 = day := by omega
        have inMonth : daysIn < monthLength year start := by omega
        rw [if_pos inMonth, sameDay]
      · have ended := daysBeforeMonth_add_le year started further
        have beyond : ¬ daysIn < monthLength year start := by omega
        have nextMonth := daysBeforeMonth_succ year started
        rw [if_neg beyond]
        apply ih (Nat.le_add_left 1 start) further
        · omega
        · omega

/-- The place of a year in its cycle of four hundred years, in its century and in its four
years. -/
structure YearPlace (year : Int) (cycle : Int) (century quad single : Nat) : Prop where
  year_eq : year = 400 * cycle + ((100 * century + 4 * quad + single : Nat) : Int) + 1
  century_le : century ≤ 3
  quad_le : quad ≤ 24
  single_le : single ≤ 3

theorem exists_yearPlace (year : Int) :
    ∃ cycle century quad single, YearPlace year cycle century quad single := by
  refine ⟨(year - 1) / 400, ((year - 1) % 400).toNat / 100, ((year - 1) % 400).toNat % 100 / 4,
    ((year - 1) % 400).toNat % 4, ?_, ?_, ?_, ?_⟩ <;> omega

namespace YearPlace

variable {year cycle : Int} {century quad single : Nat}

theorem daysBeforeYear_eq (place : YearPlace year cycle century quad single) :
    daysBeforeYear year =
      146097 * cycle + ((36524 * century + 1461 * quad + 365 * single : Nat) : Int) := by
  obtain ⟨rfl, _, _, _⟩ := place
  unfold daysBeforeYear
  omega

/-- A leap year is the last of its four years, and the last of its century only at the end of a
cycle. -/
theorem yearLength_le (place : YearPlace year cycle century quad single) :
    yearLength year ≤ 366 ∧ (single < 3 → yearLength year = 365) ∧
      (quad = 24 → century < 3 → yearLength year = 365) := by
  obtain ⟨rfl, _, _, _⟩ := place
  unfold yearLength isLeapYear
  split
  · next leap =>
      simp only [Bool.and_eq_true, Bool.or_eq_true, beq_iff_eq, bne_iff_ne] at leap
      omega
  · omega

/-- Dividing the days before a day by the lengths of a cycle, a century, four years and a year leads
to the place of its year. The last century of a cycle and the last of four years may be a day
longer, so the quotient is cut off there. -/
theorem ofDayNumber?_eq (place : YearPlace year cycle century quad single) {number : Int}
    {inYear : Nat} (within : inYear < yearLength year)
    (days : number + epochDay = daysBeforeYear year + inYear) :
    Date.ofDayNumber? number =
      Date.ofParts? year (monthAndDay year 1 inYear 11).1 (monthAndDay year 1 inYear 11).2 := by
  obtain ⟨atMost, common, endOfCentury⟩ := place.yearLength_le
  rw [place.daysBeforeYear_eq] at days
  obtain ⟨yearIs, centuryBound, quadBound, singleBound⟩ := place
  have cycleIs : (number + epochDay) / 146097 = cycle := by omega
  have inCycle : ((number + epochDay) % 146097).toNat =
      36524 * century + 1461 * quad + 365 * single + inYear := by omega
  have centuryIs :
      min ((36524 * century + 1461 * quad + 365 * single + inYear) / 36524) 3 = century := by
    omega
  have inCentury : 36524 * century + 1461 * quad + 365 * single + inYear - 36524 * century =
      1461 * quad + 365 * single + inYear := by omega
  have quadIs : (1461 * quad + 365 * single + inYear) / 1461 = quad := by omega
  have inQuad : (1461 * quad + 365 * single + inYear) % 1461 = 365 * single + inYear := by omega
  have singleIs : min ((365 * single + inYear) / 365) 3 = single := by omega
  have inYearIs : 365 * single + inYear - 365 * single = inYear := by omega
  have yearBack : cycle * 400 + ((100 * century + 4 * quad + single : Nat) : Int) + 1 = year := by
    omega
  unfold Date.ofDayNumber?
  dsimp only
  rw [cycleIs, inCycle, centuryIs, inCentury, quadIs, inQuad, singleIs, inYearIs, yearBack]

end YearPlace

namespace Date

/-- The number of a day leads back to the day. -/
theorem ofDayNumber?_dayNumber (date : Date) : ofDayNumber? date.dayNumber = some date := by
  obtain ⟨cycle, century, quad, single, place⟩ := exists_yearPlace date.year
  obtain ⟨first, last⟩ := date.dayOfYear_bounds
  obtain ⟨inYear, counted⟩ : ∃ inYear : Nat, date.dayOfYear = inYear + 1 :=
    ⟨(date.dayOfYear - 1).toNat, by omega⟩
  have days : date.dayNumber + epochDay = daysBeforeYear date.year + inYear := by
    rw [dayNumber_eq]
    omega
  rw [place.ofDayNumber?_eq (by omega) days]
  obtain ⟨_, _, month, monthLast, day, dayLast⟩ := date.valid
  have count : daysBeforeMonth date.year 1 + inYear + 1 =
      daysBeforeMonth date.year date.month + date.day := by
    unfold dayOfYear at counted
    rw [daysBeforeMonth]
    omega
  rw [monthAndDay_eq date.year (Nat.le_refl 1) month day dayLast (by omega) count]
  exact ofParts?_of_isDate date.valid

/-- The day after has the next number. -/
theorem dayNumber_next {date next : Date} (found : date.next? = some next) :
    next.dayNumber = date.dayNumber + 1 := by
  obtain ⟨_, _, month, monthLast, _, dayLast⟩ := date.valid
  rw [dayNumber_eq, dayNumber_eq]
  unfold dayOfYear
  unfold next? at found
  split at found
  · obtain ⟨sameYear, sameMonth, nextDay⟩ := ofParts?_eq_some found
    rw [sameYear, sameMonth, nextDay]
    omega
  · split at found
    · obtain ⟨sameYear, nextMonth, nextDay⟩ := ofParts?_eq_some found
      rw [sameYear, nextMonth, nextDay, daysBeforeMonth_succ date.year month]
      omega
    · obtain ⟨nextYear, nextMonth, nextDay⟩ := ofParts?_eq_some found
      have whole := daysBeforeMonth_thirteen date.year
      have december : date.month = 12 := by omega
      rw [daysBeforeMonth_succ date.year (by decide), ← december] at whole
      rw [nextYear, nextMonth, nextDay, daysBeforeYear_succ, daysBeforeMonth]
      omega

end Date

/-! ### Adding seconds -/

namespace Instant

/-- The instant a number of seconds later, or earlier for a negative number, with its fraction of a
second kept, if the calendar reaches it. -/
def plusSeconds? (moment : Instant) (seconds : Int) : Option Instant := do
  let total := moment.timestamp + seconds
  let inDay := (total % 86400).toNat
  let date ← Date.ofDayNumber? (total / 86400)
  ofParts? date (inDay / 3600) (inDay / 60 % 60) (inDay % 60) moment.nano

/-- Seconds added lead to the instant with a timestamp larger by their number. -/
theorem plusSeconds?_eq_some {moment target : Instant} {seconds : Int}
    (reached : target.timestamp = moment.timestamp + seconds)
    (sameNano : target.nano = moment.nano) : moment.plusSeconds? seconds = some target := by
  obtain ⟨hour, minute, second, _⟩ := target.valid
  have clock := target.clock_bounds
  rw [timestamp_eq target] at reached
  have day : (moment.timestamp + seconds) / 86400 = target.date.dayNumber := by omega
  have inDay : ((moment.timestamp + seconds) % 86400).toNat = target.clock := by omega
  have hourIs : target.clock / 3600 = target.hour := by
    unfold Instant.clock
    omega
  have minuteIs : target.clock / 60 % 60 = target.minute := by
    unfold Instant.clock
    omega
  have secondIs : target.clock % 60 = target.second := by
    unfold Instant.clock
    omega
  unfold plusSeconds?
  dsimp only
  rw [day, inDay, hourIs, minuteIs, secondIs, ← sameNano, Date.ofDayNumber?_dayNumber]
  exact ofParts?_of_isClock target.date target.valid

end Instant

/-- Seconds were added to an instant, and the calendar does not reach that far. -/
structure OutOfCalendar where
  moment : Instant
  seconds : Int
deriving Repr, DecidableEq

/-- The instant a number of seconds later, which the calendar has to reach. -/
def Instant.shift (moment : Instant) (seconds : Int) : Except OutOfCalendar Instant :=
  match moment.plusSeconds? seconds with
  | some later => .ok later
  | none => .error { moment, seconds }

theorem Instant.shift_eq_ok {moment target : Instant} {seconds : Int}
    (reached : target.timestamp = moment.timestamp + seconds)
    (sameNano : target.nano = moment.nano) : moment.shift seconds = .ok target := by
  unfold shift
  rw [plusSeconds?_eq_some reached sameNano]

/-! ### Spans by reckoning -/

/-- The whole seconds from the start of one day up to the start of another, which is left out: the
span ends a second before. There is none unless there are both days. -/
def Span.until? (first next : Option Date) : Except OutOfCalendar (Option Span) :=
  match first, next with
  | some first, some next =>
      ((Instant.midnight next).shift (-1)).map fun upper => some ⟨Instant.midnight first, upper⟩
  | _, _ => .ok none

/-- The first day of the month after. -/
def monthAfter? (year : Int) (month : Nat) : Option Date :=
  if month = 12 then Date.ofParts? (year + 1) 1 1 else Date.ofParts? year (month + 1) 1

/-- The span of a literal by reckoning: it ends a second before the next year, month or day begins,
and a minute ends 59 seconds after it begins. -/
def DateLiteral.reckon : DateLiteral → Except OutOfCalendar (Option Span)
  | .year y => Span.until? (Date.ofParts? y 1 1) (Date.ofParts? (y + 1) 1 1)
  | .month y m => Span.until? (Date.ofParts? y m 1) (monthAfter? y m)
  | .day y m d => Span.until? (Date.ofParts? y m d) ((Date.ofParts? y m d).bind Date.next?)
  | .minute y m d h min =>
      match (Date.ofParts? y m d).bind fun date => Instant.ofParts? date h min 0 0 with
      | none => .ok none
      | some lower => (lower.shift 59).map fun upper => some ⟨lower, upper⟩
  | .second y m d h min s =>
      .ok (((Date.ofParts? y m d).bind fun date => Instant.ofParts? date h min s 0).map
        Span.single)

namespace Span

/-- A second before a day begins, the day before it ends. -/
theorem shift_midnight {last next : Date} (found : last.next? = some next) :
    (Instant.midnight next).shift (-1) = .ok (Instant.lastSecond last) := by
  apply Instant.shift_eq_ok
  · rw [Instant.timestamp_eq, Instant.timestamp_eq, Instant.midnight, Instant.lastSecond]
    have following := Date.dayNumber_next found
    simp only [Instant.clock]
    omega
  · rfl

theorem until?_eq (first : Date) {last : Date} {next : Option Date}
    (following : last.next? = next) :
    until? (some first) next = .ok (wholeDays? first last) := by
  unfold wholeDays?
  rw [following]
  cases found : next with
  | none => rfl
  | some next =>
      rw [found] at following
      rw [until?, shift_midnight following]
      rfl

end Span

namespace Date

/-- The last day of a month is followed by the first of the next. -/
theorem next?_of_last {date : Date} (last : date.day = monthLength date.year date.month) :
    date.next? = monthAfter? date.year date.month := by
  obtain ⟨_, _, _, monthLast, _, _⟩ := date.valid
  have ended : ¬ date.day < monthLength date.year date.month := by omega
  unfold next? monthAfter?
  rw [if_neg ended]
  by_cases december : date.month = 12
  · rw [if_pos december, if_neg (by omega)]
  · rw [if_neg december, if_pos (by omega)]

/-- If one day of a month is in the calendar, its last one is. -/
theorem isDate_last {year : Int} {month day : Nat} (valid : IsDate year month day) :
    IsDate year month (monthLength year month) := by
  obtain ⟨first, last, january, december, _, _⟩ := valid
  exact ⟨first, last, january, december, Nat.le_trans (by decide) (le_monthLength _ _),
    Nat.le_refl _⟩

theorem ofParts?_of_not_isDate {year : Int} {month day : Nat} (invalid : ¬ IsDate year month day) :
    ofParts? year month day = none :=
  dif_neg invalid

end Date

/-- Reckoning never leaves the calendar, and it gives the span of the literal. -/
theorem DateLiteral.reckon_eq (literal : DateLiteral) : literal.reckon = .ok literal.span? := by
  cases literal with
  | year y =>
      by_cases valid : IsDate y 1 1
      · have lastValid : IsDate y 12 31 :=
          ⟨valid.1, valid.2.1, by decide, by decide, by decide, Nat.le_refl 31⟩
        rw [reckon, span?, Date.ofParts?_of_isDate valid, Date.ofParts?_of_isDate lastValid]
        exact Span.until?_eq _ (Date.next?_of_last rfl)
      · rw [reckon, span?, Date.ofParts?_of_not_isDate valid]
        rfl
  | month y m =>
      by_cases valid : IsDate y m 1
      · rw [reckon, span?, Date.ofParts?_of_isDate valid,
          Date.ofParts?_of_isDate (Date.isDate_last valid)]
        exact Span.until?_eq _ (Date.next?_of_last rfl)
      · rw [reckon, span?, Date.ofParts?_of_not_isDate valid]
        rfl
  | day y m d =>
      rw [reckon, span?]
      cases Date.ofParts? y m d with
      | none => rfl
      | some date => exact Span.until?_eq date rfl
  | minute y m d h min =>
      rw [reckon, span?]
      cases Date.ofParts? y m d with
      | none => rfl
      | some date =>
          by_cases valid : IsClock h min 0 0
          · have lastValid : IsClock h min 59 0 :=
              ⟨valid.1, valid.2.1, by decide, .inl (by decide)⟩
            have ended : (Instant.mk date h min 0 0 valid).shift 59 =
                .ok ⟨date, h, min, 59, 0, lastValid⟩ := by
              apply Instant.shift_eq_ok
              · rw [Instant.timestamp_eq, Instant.timestamp_eq]
                simp only [Instant.clock]
                omega
              · rfl
            simp only [Option.bind_some, Instant.ofParts?_of_isClock date valid, ended,
              Instant.ofParts?_of_isClock date lastValid, Option.bind_eq_bind]
            rfl
          · have missing : Instant.ofParts? date h min 0 0 = none := dif_neg valid
            simp only [Option.bind_some, missing, Option.bind_eq_bind, Option.bind_none]
  | second y m d h min s =>
      rw [reckon, span?]
      cases Date.ofParts? y m d with
      | none => rfl
      | some date =>
          simp only [Option.bind_some, Option.bind_eq_bind]
          cases Instant.ofParts? date h min s 0 with
          | none => rfl
          | some moment => rfl

/-- The span of a text by reckoning. A text that is no literal has none. -/
def reckonText (content : String) : Except OutOfCalendar (Option Span) :=
  match DateLiteral.ofText? content with
  | some literal => literal.reckon
  | none => .ok none

theorem reckonText_eq (content : String) :
    reckonText content = .ok ((DateLiteral.ofText? content).bind DateLiteral.span?) := by
  unfold reckonText
  cases DateLiteral.ofText? content with
  | none => rfl
  | some literal => exact literal.reckon_eq

end Criteria.Calendar
