/-
Module: Criteria.Resolution.Terms
Purpose: The terms under which values are indexed: plain texts, numbers and dates in forms
  that sort by value, and identifiers looked up by name.
Main exports:
  ValueTerms, plainTerms, foldedTerms, numberTerm, numberTerms, dateTerms, NameTable
-/
import Criteria.Resolution.Context
import Criteria.Search.Query
import Criteria.Text.Lowercase
import Std.Data.ExtTreeMap

namespace Criteria

open Criteria.Text
open Criteria.Search (IdSet)

/-- The terms under which a value is indexed. There may be several, or none. -/
abbrev ValueTerms := Value → List String

/-- Every value is indexed as its plain text. -/
def plainTerms : ValueTerms := fun value =>
  [value.plainText]

/-- Every value is indexed as its plain text, lower-cased. -/
def foldedTerms : ValueTerms := fun value =>
  [lowercase value.plainText]

/-- A number moved up so that none is negative, in twenty digits: terms sort as numbers do. -/
def numberTerm (n : Int64) : String :=
  String.ofList (fixedWidth 20 (n.toInt + 9223372036854775808).toNat)

/-- Read a text as a number of 64 bits; blanks around it are passed over. -/
def readNumber? (text : String) : Option Int64 :=
  (signedWithin? (-9223372036854775808) 9223372036854775807 (trimmed text.toList)).map
    Int64.ofInt

/-- Numbers, and texts that write one, are indexed by value. Dates are not indexed. -/
def numberTerms : ValueTerms
  | .number n => [numberTerm n]
  | .text content => ((readNumber? content).map numberTerm).toList
  | .date _ => []

/-- Values are indexed at the start of the span of time that they mean. -/
def dateTerms (dates : DateSupport) : ValueTerms := fun value =>
  ((dates.spanOf value).map fun span => dates.indexForm span.lower).toList

/-- Identifiers of named objects, by lower-cased name. One name may have several. -/
structure NameTable where
  byName : Std.ExtTreeMap String IdSet
  ids : IdSet

namespace NameTable

/-- The table without names. -/
def empty : NameTable :=
  { byName := ∅, ids := ∅ }

/-- Give an identifier a name. -/
def register (table : NameTable) (id name : String) : NameTable :=
  let name := lowercase name
  { byName := table.byName.insert name ((table.byName[name]?.getD ∅).insert id)
    ids := table.ids.insert id }

/-- A text is looked up as a name first and then as an identifier. A number is an identifier
only, in decimal. Dates are not indexed. -/
def terms (table : NameTable) : ValueTerms
  | .text content =>
      match table.byName[lowercase content]? with
      | some ids => ids.toList
      | none => if table.ids.contains content then [content] else []
  | .number n =>
      let id := (Value.number n).plainText
      if table.ids.contains id then [id] else []
  | .date _ => []

end NameTable

end Criteria
