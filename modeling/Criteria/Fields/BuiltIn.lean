/-
Module: Criteria.Fields.BuiltIn
Purpose: The three standard ways in which fields answer operators: by exact terms, by ranges
  of terms, and by the words of a text.
Main exports:
  Matcher.equality, Matcher.relational, Matcher.like, wordsQuery?
-/
import Criteria.Fields.Matcher
import Criteria.Resolution.Terms

namespace Criteria.Fields

open Criteria.Search
open Criteria.Text

/-- The documents that hold a literal, unless it is indexed under no term. -/
def holds? (field : String) (terms : ValueTerms) : Literal → Option Query
  | .empty => some (emptyQuery field)
  | .value content =>
      match (terms content).map (Query.term field) with
      | [] => none
      | queries => some (.anyOf queries)

/-- The documents with a value other than the literal. -/
def holdsOther (field : String) (terms : ValueTerms) : Literal → Query
  | .empty => visibleExcept field none
  | .value content => visibleExcept field (holds? field terms (.value content))

/-- Equality with one literal. -/
def equalitySingle (field : String) (terms : ValueTerms) (operator : Operator)
    (literal : Literal) : Fragment :=
  if operator.isNegating then { query := holdsOther field terms literal }
  else
    match holds? field terms literal with
    | some query => { query }
    | none => .nothing

/-- Equality, inequality, membership and emptiness over one indexed field. A document on
which the field is not visible never matches an inequality. -/
def Matcher.equality (field : String) (terms : ValueTerms) : Matcher where
  handles operator := operator.family == .equality
  single := equalitySingle field terms
  multiple operator literals :=
    if operator.isNegating then
      { query := .allOf (literals.map (holdsOther field terms)) }
    else unionOf (literals.map (equalitySingle field terms operator))
  empty operator :=
    { query := if operator.isNegating then visibleExcept field none else emptyQuery field }

/-- The range that an operator means for a term. -/
def rangeFor? (field : String) (operator : Operator) (term : String) : Option Query :=
  match operator with
  | .greaterThan => some (.range field (.excluded term) .unbounded)
  | .greaterThanEquals => some (.range field (.included term) .unbounded)
  | .lessThan => some (.range field .unbounded (.excluded term))
  | .lessThanEquals => some (.range field .unbounded (.included term))
  | _ => none

/-- Order comparison with one literal. -/
def relationalSingle (field : String) (terms : ValueTerms) (operator : Operator) :
    Literal → Fragment
  | .empty => .nothing
  | .value content =>
      match (terms content).filterMap (rangeFor? field operator) with
      | [] => .nothing
      | ranges => { query := .anyOf ranges }

/-- The four order comparisons, as ranges over the indexed form. Lists and the empty marker
have no place in an order and match nothing. -/
def Matcher.relational (field : String) (terms : ValueTerms) : Matcher where
  handles operator := operator.family == .relational
  single := relationalSingle field terms
  multiple _ _ := .nothing
  empty _ := .nothing

/-- The query for one lower-cased word. A star at the end asks for words that begin so, and
a star alone asks for nothing. -/
def wordQuery? (field word : String) : Option Query :=
  match word.toList.reverse with
  | ['*'] => none
  | '*' :: beginning => some (.startsWith field (String.ofList beginning.reverse))
  | _ => some (.term field word)

/-- The query for all words of a text, unless none of them asks for anything. -/
def wordsQuery? (field text : String) : Option Query :=
  match (words text).filterMap fun word => wordQuery? field (lowercase word) with
  | [] => none
  | queries => some (.allOf queries)

/-- The documents whose text holds a literal. -/
def containsWords? (field : String) : Literal → Option Query
  | .empty => some (emptyQuery field)
  | .value content => wordsQuery? field content.plainText

/-- Text search for any of the literals. -/
def likeMultiple (field : String) (operator : Operator) (literals : List Literal) :
    Fragment :=
  match operator, literals.filterMap (containsWords? field) with
  | .notLike, [] => { query := visibleExcept field none }
  | .notLike, queries => { query := visibleExcept field (some (.anyOf queries)) }
  | _, [] => .nothing
  | _, queries => { query := .anyOf queries }

/-- The two text searches over a field whose texts are indexed word by word. -/
def Matcher.like (field : String) : Matcher where
  handles operator := operator.family == .like
  single operator literal := likeMultiple field operator [literal]
  multiple := likeMultiple field
  empty operator :=
    { query := if operator.isNegating then visibleExcept field none else emptyQuery field }

end Criteria.Fields
