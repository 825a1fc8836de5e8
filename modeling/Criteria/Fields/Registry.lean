/-
Module: Criteria.Fields.Registry
Purpose: The searchable fields by name, and how each answers operators and questions about
  past changes.
Main exports:
  HistoryField, Registry, Registry.matcher?, Registry.history?, Registry.isRegistered,
  Registry.names
-/
import Criteria.Fields.BuiltIn
import Criteria.Text.Quoted

namespace Criteria.Fields

open Criteria.Search
open Criteria.Text

/-- How the changes of a field are recorded: the name that change documents give it, and the
terms of its values. -/
structure HistoryField where
  changeField : String
  terms : ValueTerms

/-- The configuration as text: the name in change documents. -/
def HistoryField.describe (history : HistoryField) : String :=
  "HistoryField \x7b change_field: " ++ quotedText history.changeField ++ ", .. \x7d"

/-- Field names do not depend on case or on blanks around them. -/
def normalizedName (field : String) : String :=
  lowercase (trim field)

/-- The registered fields. A field may have several matchers, asked in the order in which
they were registered. -/
structure Registry where
  matchers : Std.ExtTreeMap String (List Matcher)
  histories : Std.ExtTreeMap String HistoryField

namespace Registry

/-- The registry without fields. -/
def empty : Registry :=
  { matchers := ∅, histories := ∅ }

/-- The matchers of a field, in order. -/
def matchersOf (registry : Registry) (field : String) : List Matcher :=
  registry.matchers[normalizedName field]?.getD []

/-- Add a matcher to a field, after those it has. -/
def register (registry : Registry) (field : String) (matcher : Matcher) : Registry :=
  { registry with
    matchers := registry.matchers.insert (normalizedName field)
      (registry.matchersOf field ++ [matcher]) }

/-- Say how the changes of a field are recorded, in place of what was said before. -/
def registerHistory (registry : Registry) (field : String) (history : HistoryField) :
    Registry :=
  { registry with histories := registry.histories.insert (normalizedName field) history }

/-- Add equality and order comparisons over one indexed field. -/
def registerOrdered (registry : Registry) (field index : String) (terms : ValueTerms) :
    Registry :=
  (registry.register field (.equality index terms)).register field (.relational index terms)

/-- Add text search over one indexed field and equality over another. -/
def registerText (registry : Registry) (field index exact : String) (terms : ValueTerms) :
    Registry :=
  (registry.register field (.like index)).register field (.equality exact terms)

/-- The first matcher of a field that handles the operator. -/
def matcher? (registry : Registry) (field : String) (operator : Operator) : Option Matcher :=
  (registry.matchersOf field).find? fun matcher => matcher.handles operator

/-- How the changes of a field are recorded. -/
def history? (registry : Registry) (field : String) : Option HistoryField :=
  registry.histories[normalizedName field]?

/-- The field has a matcher or a record of changes. -/
def isRegistered (registry : Registry) (field : String) : Bool :=
  registry.matchers.contains (normalizedName field) ||
    registry.histories.contains (normalizedName field)

/-- The names of all fields, in code point order and without repeats. -/
def names (registry : Registry) : List String :=
  ((.ofList registry.matchers.keys : IdSet) ∪ .ofList registry.histories.keys).toList

/-- The registry as text: the names of its fields. -/
def describe (registry : Registry) : String :=
  "FieldRegistry \x7b fields: [" ++ quotedList registry.names ++ "] \x7d"

end Registry

end Criteria.Fields
