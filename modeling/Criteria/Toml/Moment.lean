/-
Module: Criteria.Toml.Moment
Purpose: Reading the dates and times of a TOML document.
Main exports:
  moment?
-/
import Criteria.Calendar.Date
import Criteria.Text.Blank
import Criteria.Text.Digits
import Criteria.Toml.Item

namespace Criteria.Toml

open Criteria.Calendar
open Criteria.Text

/-- A number of exactly as many digits as the width says. -/
def field? (width : Nat) (text : List Char) : Option Nat :=
  if text.length = width then natural? text else none

/-- Year, month and day, separated by hyphens. -/
def isDay (text : List Char) : Bool :=
  match pieces (· == '-') text with
  | [year, month, day] =>
      match field? 4 year, field? 2 month, field? 2 day with
      | some year, some month, some day => decide (IsDate year month day)
      | _, _, _ => false
  | _ => false

/-- Hour and minute, separated by a colon. -/
def isHourAndMinute (hour minute : List Char) : Bool :=
  match field? 2 hour, field? 2 minute with
  | some hour, some minute => hour < 24 && minute < 60
  | _, _ => false

/-- Seconds, perhaps with a fraction. -/
def isSecond (text : List Char) : Bool :=
  let whole := text.takeWhile (· != '.')
  let fits :=
    match field? 2 whole with
    | some second => second ≤ 60
    | none => false
  fits &&
    match text.drop whole.length with
    | [] => true
    | _ :: fraction => !fraction.isEmpty && fraction.all Char.isDigit

/-- A time of day; the seconds may be left out. -/
def isTime (text : List Char) : Bool :=
  match pieces (· == ':') text with
  | [hour, minute] => isHourAndMinute hour minute
  | [hour, minute, second] => isHourAndMinute hour minute && isSecond second
  | _ => false

/-- A time of day with its distance from universal time. -/
def isTimeWithOffset (text : List Char) : Bool :=
  match text.reverse with
  | 'Z' :: time => isTime time.reverse
  | 'z' :: time => isTime time.reverse
  | _ =>
      let time := text.takeWhile fun c => c != '+' && c != '-'
      isTime time &&
        match pieces (· == ':') (text.drop (time.length + 1)) with
        | [hour, minute] => isHourAndMinute hour minute
        | _ => false

/-- A day, a time of day, or both. -/
def moment? (text : List Char) : Option Item :=
  let day := text.take 10
  let fits :=
    match text.drop 10 with
    | [] => isDay day || isTime text
    | divider :: time =>
        (isDay day && (divider == 'T' || divider == 't' || divider == ' ') &&
          (isTime time || isTimeWithOffset time)) || isTime text
  if fits then some .moment else none

end Criteria.Toml
