/-
Module: Criteria.Search.Fragment
Purpose: The query of one part of a condition, which its surroundings may have to exclude
  instead of require.
Main exports:
  Fragment, Fragment.isFalse, Fragment.isTrue, Fragment.negate, Fragment.toQuery
-/
import Criteria.Search.Query

namespace Criteria.Search

/-- A query together with the word whether its matches are wanted or excluded. -/
structure Fragment where
  query : Query
  negated : Bool := false
deriving DecidableEq

namespace Fragment

/-- The fragment that nothing matches. -/
def nothing : Fragment :=
  { query := .nothing }

/-- The fragment that everything matches. -/
def everything : Fragment :=
  { query := .all }

/-- The matches of the query are excluded. -/
def excluded (query : Query) : Fragment :=
  { query, negated := true }

/-- The fragment is known to match nothing. -/
def isFalse (fragment : Fragment) : Bool :=
  match fragment.query with
  | .nothing => !fragment.negated
  | _ => false

/-- The fragment is known to match everything. -/
def isTrue (fragment : Fragment) : Bool :=
  match fragment.query with
  | .nothing => fragment.negated
  | .all => !fragment.negated
  | _ => false

/-- The complement. Known truth values change into each other, and a second negation takes
the first one back. -/
def negate (fragment : Fragment) : Fragment :=
  if fragment.isFalse then everything
  else if fragment.isTrue then nothing
  else { fragment with negated := !fragment.negated }

/-- The fragment as a query of its own. What is only excluded is taken away from
everything. -/
def toQuery (fragment : Fragment) : Query :=
  if fragment.negated then .excluding .all fragment.query else fragment.query

end Fragment

end Criteria.Search
