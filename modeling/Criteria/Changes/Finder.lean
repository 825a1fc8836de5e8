/-
Module: Criteria.Changes.Finder
Purpose: Questions about past values and changes, answered from the index of changes.
Main exports:
  Finder, Finder.changeQuery?, Finder.predicateQuery?, Finder.search, Finder.find,
  Found, Found.fragment
-/
import Criteria.Changes.Record
import Criteria.Clause.Terminal
import Criteria.Fields.Registry
import Criteria.Resolution.Function

namespace Criteria.Changes

open Criteria.Calendar
open Criteria.Fields
open Criteria.Search

/-- The entities that a question about changes found. For the negative operators they are
the ones to be left out. -/
structure Found where
  entities : IdSet
  negated : Bool

/-- Membership in the entities found. None found means that nothing matches, or for a
negative operator that everything does. -/
def Found.fragment (found : Found) : Fragment :=
  match found.negated, found.entities.isEmpty with
  | false, true => .nothing
  | false, false => { query := .ids found.entities }
  | true, true => .everything
  | true, false => .excluded (.ids found.entities)

/-- What questions about changes are answered with. -/
structure Finder where
  operands : OperandReader
  dates : DateSupport
  index : ChangeIndex

/-- The terms that a literal may have had in the past. A value that is indexed under no term
any longer is looked for by its plain text. -/
def pastTerms (history : HistoryField) : Literal → List String
  | .empty => [emptyTerm]
  | .value content =>
      match history.terms content with
      | [] => [content.plainText]
      | terms => terms

/-- Any of the literals in any of the fields, unless there are no literals. -/
def valueQuery? (history : HistoryField) (fields : List String) (literals : List Literal) :
    Option Query :=
  match (literals.flatMap (pastTerms history)).flatMap fun term =>
      fields.map fun field => Query.term field term with
  | [] => none
  | queries => some (.anyOf queries)

/-- Any of the values as the one who made the change, unless there are none. -/
def actorQuery? (literals : List Literal) : Option Query :=
  match (literals.filterMap Literal.value?).map fun value =>
      Query.term actorField value.plainText with
  | [] => none
  | queries => some (.anyOf queries)

/-- The terminal asks for the entities that are not found. -/
def isNegative (terminal : Terminal) : Bool :=
  terminal.operator == .wasNot || terminal.operator == .wasNotIn

namespace Finder

/-- The span of time that the first literal means. -/
def firstSpan? (finder : Finder) (literals : List Literal) : Option Span := do
  finder.dates.spanOf (← (← literals.head?).value?)

/-- The smallest span that covers what the first two literals mean, in either order. -/
def coveringSpan? (finder : Finder) : List Literal → Option Span
  | start :: finish :: _ => do
      let start ← finder.dates.spanOf (← start.value?)
      let finish ← finder.dates.spanOf (← finish.value?)
      return start.cover finish
  | _ => none

/-- Changes from an instant on. -/
def sinceQuery (finder : Finder) (moment : Instant) : Query :=
  .range dateField (.included (finder.dates.indexForm moment)) .unbounded

/-- Changes before an instant. -/
def beforeQuery (finder : Finder) (moment : Instant) : Query :=
  .range dateField .unbounded (.excluded (finder.dates.indexForm moment))

/-- Changes within a span of time. -/
def withinQuery (finder : Finder) (span : Span) : Query :=
  .range dateField (.included (finder.dates.indexForm span.lower))
    (.included (finder.dates.indexForm span.upper))

/-- The query for a single constraint, unless its operand makes no sense for it. What lies
after a span begins a second after its end. -/
def constraintQuery? (finder : Finder) (history : HistoryField)
    (operator : PredicateOperator) (literals : List Literal) : Option Query :=
  match operator with
  | .by => actorQuery? literals
  | .from => valueQuery? history [oldValueField] literals
  | .to => valueQuery? history [newValueField] literals
  | .before => (finder.firstSpan? literals).map fun span => finder.beforeQuery span.lower
  | .after => do
      let span ← finder.firstSpan? literals
      return finder.sinceQuery (← span.upper.nextSecond?)
  | .on => (finder.firstSpan? literals).map finder.withinQuery
  | .during => (finder.coveringSpan? literals).map finder.withinQuery

/-- The query for a predicate, unless one of its constraints makes no sense. -/
def predicateQuery? (finder : Finder) (context : SearchContext) (history : HistoryField)
    (predicate : Predicate) : Option Query :=
  (predicate.leaves.mapM fun leaf =>
    finder.constraintQuery? history leaf.1 (finder.operands context leaf.2)).map .allOf

/-- The query for the values that a terminal asks about: none are needed to ask whether a
field changed at all, and for the other operators they have to be some. -/
def heldQueries? (finder : Finder) (context : SearchContext) (history : HistoryField)
    (terminal : Terminal) : Option (List Query) :=
  match terminal.operator with
  | .changed => some []
  | .was | .wasNot | .wasIn | .wasNotIn =>
      (valueQuery? history [oldValueField, newValueField]
        (finder.operands context terminal.operand)).map fun query => [query]
  | _ => none

/-- The query that a terminal puts to the index of changes, unless nothing can match. -/
def changeQuery? (finder : Finder) (context : SearchContext) (history : HistoryField)
    (terminal : Terminal) : Option Query := do
  let held ← finder.heldQueries? context history terminal
  let narrowing ←
    match terminal.predicate with
    | some predicate => (finder.predicateQuery? context history predicate).map fun q => [q]
    | none => some []
  return .allOf (.term changedField history.changeField :: (held ++ narrowing))

/-- Put a query to the index of changes. Without a query no entity is found, and the index
is left alone. -/
def search (finder : Finder) (terminal : Terminal) (query : Option Query) :
    Except BackendError Found :=
  match query with
  | none => .ok { entities := ∅, negated := isNegative terminal }
  | some query =>
      (finder.index query).map fun entities => { entities, negated := isNegative terminal }

/-- Answer a terminal from the index of changes. -/
def find (finder : Finder) (context : SearchContext) (history : HistoryField)
    (terminal : Terminal) : Except BackendError Found :=
  finder.search terminal (finder.changeQuery? context history terminal)

end Finder

end Criteria.Changes
