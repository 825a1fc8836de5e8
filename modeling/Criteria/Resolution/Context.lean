/-
Module: Criteria.Resolution.Context
Purpose: What a search knows of its surroundings, and how it reads dates.
Main exports:
  SearchContext, DateSupport, DateSupport.standard
-/
import Criteria.Calendar.DateLiteral
import Criteria.Clause.Operand

namespace Criteria

open Criteria.Calendar

/-- Who searches, if anyone is known, and when. -/
structure SearchContext where
  user : Option String
  now : Instant
deriving Repr, DecidableEq

/-- How values are read as spans of time and how instants are written for the index. -/
structure DateSupport where
  spanOf : Value → Option Span
  indexForm : Instant → String
  readIndexForm? : String → Option Instant
  displayForm : Instant → String

/-- Dates stand for their instant, numbers for milliseconds since 1970, and texts are read
as date literals. -/
def DateSupport.standard : DateSupport where
  spanOf
    | .date moment => some (Span.single moment)
    | .number millis => (Instant.ofMillis? millis.toInt).map Span.single
    | .text content => (DateLiteral.ofText? content).bind DateLiteral.span?
  indexForm := Instant.indexForm
  readIndexForm? := Instant.readIndexForm?
  displayForm := Instant.displayForm

end Criteria
