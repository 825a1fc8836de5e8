/-
Module: Criteria.Calendar.DateLiteral
Purpose: Date literals of varying precision and the span of instants that each one means.
Main exports:
  DateLiteral, DateLiteral.ofText?, DateLiteral.span?
-/
import Criteria.Calendar.Instant
import Criteria.Text.Blank
import Criteria.Text.Digits

namespace Criteria.Calendar

open Criteria.Text

/-- The calendar fields that a date literal spells, from a year alone down to the second. -/
inductive DateLiteral where
  | year (year : Int)
  | month (year : Int) (month : Nat)
  | day (year : Int) (month day : Nat)
  | minute (year : Int) (month day hour minute : Nat)
  | second (year : Int) (month day hour minute second : Nat)
deriving Repr, DecidableEq

namespace DateLiteral

/-- Read the number of a year, which has to fit 32 bits. -/
def readYear? (text : List Char) : Option Int :=
  signedWithin? (-2147483648) 2147483647 text

/-- Read a month, day, hour, minute or second. -/
def readField? (text : List Char) : Option Nat :=
  unsignedUpTo? 4294967295 text

/-- Cut a text at its first blank or letter T. -/
def cutAtTime (text : List Char) : List Char × Option (List Char) :=
  let divides := fun c : Char => c == ' ' || c == 'T'
  match text.dropWhile fun c => !divides c with
  | [] => (text, none)
  | _ :: time => (text.takeWhile fun c => !divides c, some (trimmed time))

/-- Read the fields of a literal. Slashes and hyphens separate the fields of the date, a
blank or the letter T stands before the time, and a time needs a full date. -/
def ofChars? (text : List Char) : Option DateLiteral :=
  let text := (trimmed text).map fun c => if c = '/' then '-' else c
  let (date, time) := cutAtTime text
  match pieces (· == '-') date, time with
  | [y], none => return .year (← readYear? y)
  | [y, m], none => return .month (← readYear? y) (← readField? m)
  | [y, m, d], none => return .day (← readYear? y) (← readField? m) (← readField? d)
  | [y, m, d], some time =>
      match pieces (· == ':') time with
      | [h, min] =>
          return .minute (← readYear? y) (← readField? m) (← readField? d)
            (← readField? h) (← readField? min)
      | [h, min, s] =>
          return .second (← readYear? y) (← readField? m) (← readField? d)
            (← readField? h) (← readField? min) (← readField? s)
      | _ => none
  | _, _ => none

/-- Read the fields of a literal. -/
def ofText? (text : String) : Option DateLiteral :=
  ofChars? text.toList

/-- The span that a literal means: every instant, to the second, that agrees with the
fields spelled. A literal whose fields name no date has none, and neither has one that
reaches to the end of the calendar in days. -/
def span? : DateLiteral → Option Span
  | .year y => do
      Span.wholeDays? (← Date.ofParts? y 1 1) (← Date.ofParts? y 12 31)
  | .month y m => do
      Span.wholeDays? (← Date.ofParts? y m 1) (← Date.ofParts? y m (monthLength y m))
  | .day y m d => do
      let date ← Date.ofParts? y m d
      Span.wholeDays? date date
  | .minute y m d h min => do
      let date ← Date.ofParts? y m d
      return ⟨← Instant.ofParts? date h min 0 0, ← Instant.ofParts? date h min 59 0⟩
  | .second y m d h min s => do
      let date ← Date.ofParts? y m d
      return Span.single (← Instant.ofParts? date h min s 0)

end DateLiteral

end Criteria.Calendar
