/-
Module: Criteria.Calendar.Instant
Purpose: Points in time to the nanosecond, leap seconds included, and closed spans of them.
Main exports:
  IsClock, Instant, Instant.ofParts?, Instant.rank, Instant.timestamp, Instant.ofMillis?,
  Instant.nextSecond?, Span
-/
import Criteria.Calendar.Date

namespace Criteria.Calendar

/-- The four numbers name a time of day. A leap second stands at second 59 with a
nanosecond of at least one thousand million. -/
def IsClock (hour minute second nano : Nat) : Prop :=
  hour < 24 ∧ minute < 60 ∧ second < 60 ∧
    (nano < 1000000000 ∨ second = 59 ∧ nano < 2000000000)

instance (hour minute second nano : Nat) : Decidable (IsClock hour minute second nano) := by
  unfold IsClock
  infer_instance

/-- A point in time, without a time zone. -/
structure Instant where
  date : Date
  hour : Nat
  minute : Nat
  second : Nat
  nano : Nat
  valid : IsClock hour minute second nano
deriving Repr, DecidableEq

namespace Instant

/-- The point in time that a day and four numbers name, if there is one. -/
def ofParts? (date : Date) (hour minute second nano : Nat) : Option Instant :=
  if valid : IsClock hour minute second nano then
    some ⟨date, hour, minute, second, nano, valid⟩
  else none

/-- The first instant of a day. -/
def midnight (date : Date) : Instant :=
  ⟨date, 0, 0, 0, 0, by decide⟩

/-- The last whole second of a day. -/
def lastSecond (date : Date) : Instant :=
  ⟨date, 23, 59, 59, 0, by decide⟩

/-- The second is a leap second. -/
def isLeapSecond (moment : Instant) : Bool :=
  1000000000 ≤ moment.nano

/-- The second as a clock shows it, 60 for a leap second. -/
def shownSecond (moment : Instant) : Nat :=
  if moment.isLeapSecond then moment.second + 1 else moment.second

/-- The nanosecond as a clock shows it. -/
def shownNano (moment : Instant) : Nat :=
  if moment.isLeapSecond then moment.nano - 1000000000 else moment.nano

/-- One number that orders instants by date, then hour, minute, second and nanosecond. -/
def rank (moment : Instant) : Int :=
  (((moment.date.rank * 24 + moment.hour) * 60 + moment.minute) * 60 + moment.second) *
    2000000000 + moment.nano

instance : LE Instant := ⟨fun first second => first.rank ≤ second.rank⟩
instance : LT Instant := ⟨fun first second => first.rank < second.rank⟩

instance (first second : Instant) : Decidable (first ≤ second) :=
  inferInstanceAs (Decidable (first.rank ≤ second.rank))

instance (first second : Instant) : Decidable (first < second) :=
  inferInstanceAs (Decidable (first.rank < second.rank))

/-- The earlier of two instants. -/
def earlier (first second : Instant) : Instant :=
  if second < first then second else first

/-- The later of two instants. -/
def later (first second : Instant) : Instant :=
  if second < first then first else second

/-- Whole seconds since 1970-01-01, the fraction and a leap second dropped. -/
def timestamp (moment : Instant) : Int :=
  moment.date.dayNumber * 86400 +
    ((moment.hour * 3600 + moment.minute * 60 + moment.second : Nat) : Int)

/-- The instant with a number of milliseconds since 1970-01-01, if the calendar reaches
it. -/
def ofMillis? (millis : Int) : Option Instant := do
  let seconds := millis / 1000
  let inDay := (seconds % 86400).toNat
  let date ← Date.ofDayNumber? (seconds / 86400)
  ofParts? date (inDay / 3600) (inDay / 60 % 60) (inDay % 60) ((millis % 1000).toNat * 1000000)

/-- One second later, unless the calendar ends. A leap second is left for the second that
follows it. -/
def nextSecond? (moment : Instant) : Option Instant :=
  let nano := moment.shownNano
  if moment.second < 59 then
    ofParts? moment.date moment.hour moment.minute (moment.second + 1) nano
  else if moment.minute < 59 then ofParts? moment.date moment.hour (moment.minute + 1) 0 nano
  else if moment.hour < 23 then ofParts? moment.date (moment.hour + 1) 0 0 nano
  else moment.date.next?.bind fun date => ofParts? date 0 0 0 nano

end Instant

/-- The instants from the lower to the upper bound, both included. -/
structure Span where
  lower : Instant
  upper : Instant
deriving Repr, DecidableEq

namespace Span

/-- The span of a single instant. -/
def single (moment : Instant) : Span :=
  ⟨moment, moment⟩

/-- The smallest span that covers both. -/
def cover (first second : Span) : Span :=
  ⟨first.lower.earlier second.lower, first.upper.later second.upper⟩

/-- The instant lies in the span. -/
def contains (span : Span) (moment : Instant) : Bool :=
  decide (span.lower ≤ moment) && decide (moment ≤ span.upper)

/-- The whole seconds from the start of the first day to the end of the last, unless the
calendar ends with the last day. -/
def wholeDays? (first last : Date) : Option Span :=
  last.next?.map fun _ => ⟨Instant.midnight first, Instant.lastSecond last⟩

end Span

end Criteria.Calendar
