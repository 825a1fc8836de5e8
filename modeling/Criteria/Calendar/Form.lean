/-
Module: Criteria.Calendar.Form
Purpose: The written forms of instants: the sortable form of the index, which is also read
  back, the display form, and the ISO form of the serialized tree.
Main exports:
  yearDigits, indexForm, displayForm, isoForm, readIndexForm?
-/
import Criteria.Calendar.Instant
import Criteria.Text.Blank
import Criteria.Text.Digits

namespace Criteria.Calendar

open Criteria.Text

/-- Four digits for the years 0 to 9999; every other year has a sign and at least four
digits. -/
def yearDigits (year : Int) : List Char :=
  if 0 ≤ year ∧ year ≤ 9999 then fixedWidth 4 year.toNat
  else (if year < 0 then '-' else '+') :: paddedDecimal 4 year.natAbs

namespace Instant

/-- Year, month, day, hour, minute and second without separators. In the years 0 to 9999
the form has 14 digits and sorts by time. -/
def indexForm (moment : Instant) : String :=
  String.ofList (yearDigits moment.date.year ++ fixedWidth 2 moment.date.month ++
    fixedWidth 2 moment.date.day ++ fixedWidth 2 moment.hour ++ fixedWidth 2 moment.minute ++
    fixedWidth 2 moment.shownSecond)

/-- The date, a blank, and the time to the minute. -/
def displayForm (moment : Instant) : String :=
  String.ofList (yearDigits moment.date.year ++ '-' :: fixedWidth 2 moment.date.month ++
    '-' :: fixedWidth 2 moment.date.day ++ ' ' :: fixedWidth 2 moment.hour ++
    ':' :: fixedWidth 2 moment.minute)

/-- The fraction of a second in the fewest of three, six or nine digits that are exact, and
nothing for a whole second. -/
def fractionForm (nano : Nat) : List Char :=
  if nano = 0 then []
  else if nano % 1000000 = 0 then '.' :: fixedWidth 3 (nano / 1000000)
  else if nano % 1000 = 0 then '.' :: fixedWidth 6 (nano / 1000)
  else '.' :: fixedWidth 9 nano

/-- The date, the letter T, and the time with its fraction. -/
def isoForm (moment : Instant) : String :=
  String.ofList (yearDigits moment.date.year ++ '-' :: fixedWidth 2 moment.date.month ++
    '-' :: fixedWidth 2 moment.date.day ++ 'T' :: fixedWidth 2 moment.hour ++
    ':' :: fixedWidth 2 moment.minute ++ ':' :: fixedWidth 2 moment.shownSecond ++
    fractionForm moment.shownNano)

/-- Take one number off the text: blanks are skipped, then as many digits are taken as
there are, up to the width. At least one is needed. -/
def takeNumber? (width : Nat) (text : List Char) : Option (Nat × List Char) :=
  let text := text.dropWhile isBlank
  let digits := (text.take width).takeWhile Char.isDigit
  if digits.isEmpty then none else some (digitsValue digits, text.drop digits.length)

/-- Take the year off the text: four digits at most, or any number of them after a sign. -/
def takeYear? (text : List Char) : Option (Int × List Char) :=
  match text.dropWhile isBlank with
  | '-' :: rest => (takeDigits? rest).map fun taken => (-(taken.1 : Int), taken.2)
  | '+' :: rest => (takeDigits? rest).map fun taken => ((taken.1 : Int), taken.2)
  | text => (takeNumber? 4 text).map fun taken => ((taken.1 : Int), taken.2)
where
  /-- Every digit that follows directly, at least one. -/
  takeDigits? (text : List Char) : Option (Nat × List Char) :=
    let digits := text.takeWhile Char.isDigit
    if digits.isEmpty then none else some (digitsValue digits, text.dropWhile Char.isDigit)

/-- Read the form of the index. Fields after the year have one or two digits, so the last
ones may be short, and second 60 is a leap second. -/
def readIndexForm? (text : String) : Option Instant := do
  let (year, rest) ← takeYear? text.toList
  let (month, rest) ← takeNumber? 2 rest
  let (day, rest) ← takeNumber? 2 rest
  let (hour, rest) ← takeNumber? 2 rest
  let (minute, rest) ← takeNumber? 2 rest
  let (second, rest) ← takeNumber? 2 rest
  guard rest.isEmpty
  let date ← Date.ofParts? year month day
  if second = 60 then ofParts? date hour minute 59 1000000000
  else ofParts? date hour minute second 0

end Instant

end Criteria.Calendar
