/-
Module: Criteria.Toml.Number
Purpose: Reading the numbers of a TOML document.
Main exports:
  number?
-/
import Criteria.Text.Blank
import Criteria.Text.Digits
import Criteria.Toml.Token
import Criteria.Toml.Item

namespace Criteria.Toml

open Criteria.Text

/-- The text after a sign, if it has one. -/
def afterSign : List Char → List Char
  | '+' :: rest => rest
  | '-' :: rest => rest
  | text => text

/-- Every underscore of a text follows a digit and is followed by one. The flag says whether
an underscore may stand first. -/
def underscoresFit (isDigit : Char → Bool) : Bool → List Char → Bool
  | _, [] => true
  | mayStart, '_' :: rest =>
      mayStart && rest.head?.any isDigit && underscoresFit isDigit false rest
  | _, c :: rest => underscoresFit isDigit (isDigit c) rest

/-- The underscores of a number fit; the first may also follow the sign. -/
def separatorsFit (isDigit : Char → Bool) (text : List Char) : Bool :=
  let body := afterSign text
  underscoresFit isDigit (body.length != text.length) body

/-- The value of digits of a base, underscores left out. -/
def valueIn (base : Nat) (text : List Char) : Nat :=
  (text.filterMap hexDigit?).foldl (fun value digit => base * value + digit) 0

/-- A digit of base sixteen. -/
def isHexDigit (c : Char) : Bool :=
  (hexDigit? c).isSome

/-- The text after the letter of a base other than ten. It may be empty, and then has no
value. -/
def based? (base : Nat) (isDigit : Char → Bool) (text : List Char) : Option Item :=
  if (text.all fun c => isDigit c || c == '_') && separatorsFit isHexDigit text then
    some (if text.isEmpty then .garbled else .integer (valueIn base text))
  else none

/-- An integer in base ten. What follows its first underscore may be other than digits, and
then it has no value. -/
def decimal? (text : List Char) : Option Item :=
  let body := afterSign text
  let rest := body.dropWhile Char.isDigit
  let startFits := body.length == 1 || body.head?.any (· != '0')
  let restFits :=
    rest.isEmpty ||
      (rest.head? == some '_' && rest.all (· ∉ [' ', '.', 'e', 'E']))
  if startFits && restFits && separatorsFit isHexDigit text then
    match natural? (body.filter (· != '_')) with
    | some size => some (.integer (if text.head? = some '-' then -size else size))
    | none => some .garbled
  else none

/-- Digits among which there may be underscores. -/
def isDigits (text : List Char) : Bool :=
  text.any Char.isDigit && text.all fun c => c.isDigit || c == '_'

/-- Digits without a leading zero. -/
def isWhole (text : List Char) : Bool :=
  let digits := text.filter (· != '_')
  isDigits text && (digits.length == 1 || digits.head? != some '0')

/-- A number with a fraction, an exponent or both. -/
def real? (text : List Char) : Option Item :=
  let body := afterSign text
  let mantissa := body.takeWhile fun c => c != 'e' && c != 'E'
  let exponent := body.drop mantissa.length
  let exponentFits :=
    match exponent with
    | [] => true
    | _ :: digits => isDigits (afterSign digits)
  let mantissaFits :=
    match pieces (· == '.') mantissa with
    | [whole] => isWhole whole && !exponent.isEmpty
    | [whole, fraction] => isWhole whole && isDigits fraction
    | _ => false
  if mantissaFits && exponentFits && separatorsFit Char.isDigit text then some .real else none

/-- Read a number. Only those in base ten may have a sign. -/
def number? (text : List Char) : Option Item :=
  match text with
  | '0' :: 'x' :: digits => based? 16 isHexDigit digits
  | '0' :: 'o' :: digits => based? 8 (fun c => '0' ≤ c && c ≤ '7') digits
  | '0' :: 'b' :: digits => based? 2 (fun c => c == '0' || c == '1') digits
  | text =>
      if afterSign text = ['i', 'n', 'f'] ∨ afterSign text = ['n', 'a', 'n'] then some .real
      else (decimal? text).or (real? text)

end Criteria.Toml
