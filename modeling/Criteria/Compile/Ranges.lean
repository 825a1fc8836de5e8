/-
Module: Criteria.Compile.Ranges
Purpose: Joining one-sided ranges over the same field into two-sided ones.
Main exports:
  mergeRange?, mergeRanges
-/
import Criteria.Search.Query

namespace Criteria.Compile

open Criteria.Search

/-- The bound limits a range. -/
def limits : Bound → Bool
  | .unbounded => false
  | .included _ | .excluded _ => true

/-- The range that two one-sided ranges over a field come to, if one of them has only a
lower and the other only an upper bound. -/
def mergeRange? : Query → Query → Option Query
  | .range field lower upper, .range otherField otherLower otherUpper =>
      if field ≠ otherField then none
      else if limits upper && !limits lower && limits otherLower && !limits otherUpper then
        some (.range field otherLower upper)
      else if limits lower && !limits upper && limits otherUpper && !limits otherLower then
        some (.range field lower otherUpper)
      else none
  | _, _ => none

/-- Join a query with the first of several that it can be joined with. -/
def mergeInto? (incoming : Query) : List Query → Option (List Query)
  | [] => none
  | query :: queries =>
      match mergeRange? query incoming with
      | some merged => some (merged :: queries)
      | none => (mergeInto? incoming queries).map (query :: ·)

/-- Join the one-sided ranges among several queries, from the first to the last. -/
def mergeRanges (queries : List Query) : List Query :=
  queries.foldl (fun merged query => (mergeInto? query merged).getD (merged ++ [query])) []

end Criteria.Compile
