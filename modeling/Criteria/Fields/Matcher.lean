/-
Module: Criteria.Fields.Matcher
Purpose: How a field answers the operators of terminal clauses, by the number of literals
  that the operand came to.
Main exports:
  Matcher, Matcher.fragment, emptyQuery, visibleQuery, visibleExcept, unionOf
-/
import Criteria.Clause.Operand
import Criteria.Clause.Operator
import Criteria.Search.Fragment

namespace Criteria.Fields

open Criteria.Search

/-- How a field answers some of the operators: for one literal, for several, and for the
marker that there is no value. -/
structure Matcher where
  handles : Operator → Bool
  single : Operator → Literal → Fragment
  multiple : Operator → List Literal → Fragment
  empty : Operator → Fragment

/-- The answer for the literals of an operand. An operand that came to nothing matches
nothing. -/
def Matcher.fragment (matcher : Matcher) (operator : Operator) :
    List Literal → Fragment
  | [] => .nothing
  | [.empty] => matcher.empty operator
  | [literal] => matcher.single operator literal
  | literals => matcher.multiple operator literals

/-- The documents whose field is known to have no value. -/
def emptyQuery (field : String) : Query :=
  .term field emptyTerm

/-- The documents on which the field is visible. -/
def visibleQuery (field : String) : Query :=
  .term visibleFields field

/-- The documents on which the field is visible and has a value, without those that the
other query finds. -/
def visibleExcept (field : String) (excluded : Option Query) : Query :=
  .group ([(.must, visibleQuery field), (.mustNot, emptyQuery field)] ++
    excluded.toList.map fun query => (.mustNot, query))

/-- Any of the fragments that can match at all. -/
def unionOf (fragments : List Fragment) : Fragment :=
  match (fragments.filter fun fragment => !fragment.isFalse).map Fragment.toQuery with
  | [] => .nothing
  | queries => { query := .anyOf queries }

end Criteria.Fields
