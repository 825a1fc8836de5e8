/-
Module: Criteria.Toml.Scalar
Purpose: Reading the values of a TOML document that stand without quotes: numbers, truth
  values, dates and times.
Main exports:
  unquoted?
-/
import Criteria.Toml.Moment
import Criteria.Toml.Number

namespace Criteria.Toml

/-- Read the text of a value without quotes. -/
def scalar? (text : List Char) : Option Item :=
  if text = ['t', 'r', 'u', 'e'] then some (.boolean true)
  else if text = ['f', 'a', 'l', 's', 'e'] then some (.boolean false)
  else (number? text).or (moment? text)

/-- The characters of the atoms and dots at the start of some tokens, and of blanks that an
atom follows: between a day and a time of day there may be a space. -/
def atomText : List Token → List Char × List Token
  | .atom content :: rest =>
      let (more, rest) := atomText rest
      (content ++ more, rest)
  | .dot :: rest =>
      let (more, rest) := atomText rest
      ('.' :: more, rest)
  | .blank content :: .atom next :: rest =>
      let (more, rest) := atomText rest
      (content ++ next ++ more, rest)
  | tokens => ([], tokens)

/-- Read a value without quotes from the start of some tokens. -/
def unquoted? (tokens : List Token) : Option (Item × List Token) :=
  let (content, rest) := atomText tokens
  (scalar? content).map fun value => (value, rest)

end Criteria.Toml
