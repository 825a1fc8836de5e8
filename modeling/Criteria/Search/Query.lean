/-
Module: Criteria.Search.Query
Purpose: Queries to an inverted index, their rendering and the size of their groups.
Main exports:
  IdSet, Occur, Bound, Query, Query.allOf, Query.anyOf, Query.excluding, Query.render,
  Query.fanOut, Query.widestGroup
-/
import Std.Data.ExtTreeSet

namespace Criteria.Search

/-- A set of identifiers, in code point order. -/
abbrev IdSet := Std.ExtTreeSet String

/-- The term of a field that has no value. -/
def emptyTerm : String := "<empty>"

/-- The field that lists the visible fields of a document. -/
def visibleFields : String := "visiblefieldids"

/-- What a clause of a group does: it is required, one of the alternatives, or excluded. -/
inductive Occur where
  | must
  | should
  | mustNot
deriving Repr, DecidableEq

/-- The mark of a clause in a rendered group. -/
def Occur.mark : Occur → String
  | .must => "+"
  | .should => ""
  | .mustNot => "-"

/-- One end of a range of terms. -/
inductive Bound where
  | unbounded
  | included (term : String)
  | excluded (term : String)
deriving Repr, DecidableEq

/-- The lower end of a rendered range. -/
def Bound.lowerText : Bound → String
  | .unbounded => "\x7b*"
  | .included bound => "[" ++ bound
  | .excluded bound => "\x7b" ++ bound

/-- The upper end of a rendered range. -/
def Bound.upperText : Bound → String
  | .unbounded => "*\x7d"
  | .included bound => bound ++ "]"
  | .excluded bound => bound ++ "\x7d"

/-- A query: everything, nothing, the terms of a field, a group of clauses, or a set of
documents given by their identifiers. -/
inductive Query where
  | all
  | nothing
  | term (field value : String)
  | range (field : String) (lower upper : Bound)
  | startsWith (field beginning : String)
  | group (clauses : List (Occur × Query))
  | ids (members : IdSet)

mutual

/-- Structural equality of queries. -/
def Query.decEq : (first second : Query) → Decidable (first = second)
  | .all, .all => .isTrue rfl
  | .nothing, .nothing => .isTrue rfl
  | .term firstField first, .term secondField second =>
      if same : firstField = secondField ∧ first = second then
        .isTrue (by rw [same.1, same.2])
      else .isFalse fun equal => same (Query.term.inj equal)
  | .range firstField firstLower firstUpper, .range secondField secondLower secondUpper =>
      if same : firstField = secondField ∧ firstLower = secondLower ∧
          firstUpper = secondUpper then
        .isTrue (by rw [same.1, same.2.1, same.2.2])
      else .isFalse fun equal => same (Query.range.inj equal)
  | .startsWith firstField first, .startsWith secondField second =>
      if same : firstField = secondField ∧ first = second then
        .isTrue (by rw [same.1, same.2])
      else .isFalse fun equal => same (Query.startsWith.inj equal)
  | .group first, .group second =>
      match Query.decEqClauses first second with
      | .isTrue same => .isTrue (by rw [same])
      | .isFalse differ => .isFalse fun equal => differ (Query.group.inj equal)
  | .ids first, .ids second =>
      if same : first = second then .isTrue (by rw [same])
      else .isFalse fun equal => same (Query.ids.inj equal)
  | .all, .nothing | .all, .term _ _ | .all, .range _ _ _ | .all, .startsWith _ _
  | .all, .group _ | .all, .ids _
  | .nothing, .all | .nothing, .term _ _ | .nothing, .range _ _ _
  | .nothing, .startsWith _ _ | .nothing, .group _ | .nothing, .ids _
  | .term _ _, .all | .term _ _, .nothing | .term _ _, .range _ _ _
  | .term _ _, .startsWith _ _ | .term _ _, .group _ | .term _ _, .ids _
  | .range _ _ _, .all | .range _ _ _, .nothing | .range _ _ _, .term _ _
  | .range _ _ _, .startsWith _ _ | .range _ _ _, .group _ | .range _ _ _, .ids _
  | .startsWith _ _, .all | .startsWith _ _, .nothing | .startsWith _ _, .term _ _
  | .startsWith _ _, .range _ _ _ | .startsWith _ _, .group _ | .startsWith _ _, .ids _
  | .group _, .all | .group _, .nothing | .group _, .term _ _ | .group _, .range _ _ _
  | .group _, .startsWith _ _ | .group _, .ids _
  | .ids _, .all | .ids _, .nothing | .ids _, .term _ _ | .ids _, .range _ _ _
  | .ids _, .startsWith _ _ | .ids _, .group _ => .isFalse nofun

/-- Structural equality of the clauses of groups. -/
def Query.decEqClauses : (first second : List (Occur × Query)) → Decidable (first = second)
  | [], [] => .isTrue rfl
  | (firstOccur, first) :: firsts, (secondOccur, second) :: seconds =>
      if sameOccur : firstOccur = secondOccur then
        match Query.decEq first second, Query.decEqClauses firsts seconds with
        | .isTrue sameHead, .isTrue sameTail =>
            .isTrue (by rw [sameOccur, sameHead, sameTail])
        | .isFalse differ, _ =>
            .isFalse fun equal => differ (Prod.mk.inj (List.cons.inj equal).1).2
        | _, .isFalse differ => .isFalse fun equal => differ (List.cons.inj equal).2
      else .isFalse fun equal => sameOccur (Prod.mk.inj (List.cons.inj equal).1).1
  | [], _ :: _ | _ :: _, [] => .isFalse nofun

end

instance : DecidableEq Query := Query.decEq

namespace Query

/-- Put several queries into a group in which each does the same. One query alone needs no
group. -/
def grouped (occur : Occur) : List Query → Query
  | [only] => only
  | queries => .group (queries.map fun query => (occur, query))

/-- All of the queries. -/
def allOf (queries : List Query) : Query :=
  grouped .must queries

/-- Any of the queries. -/
def anyOf (queries : List Query) : Query :=
  grouped .should queries

/-- What the guard finds, without what the other query finds. -/
def excluding (guard excluded : Query) : Query :=
  .group [(.must, guard), (.mustNot, excluded)]

/-- The number of clauses in the group at the head of the query. -/
def fanOut : Query → Nat
  | .group clauses => clauses.length
  | _ => 0

mutual

/-- The number of clauses in the largest group anywhere in the query. -/
def widestGroup : Query → Nat
  | .group clauses => max clauses.length (widestIn clauses)
  | _ => 0

/-- The number of clauses in the largest group inside several clauses. -/
def widestIn : List (Occur × Query) → Nat
  | [] => 0
  | (_, query) :: clauses => max query.widestGroup (widestIn clauses)

end

mutual

/-- The query as text. -/
def render : Query → String
  | .all => "*:*"
  | .nothing => "-*:*"
  | .term field value => field ++ ":" ++ value
  | .range field lower upper =>
      field ++ ":" ++ lower.lowerText ++ " TO " ++ upper.upperText
  | .startsWith field beginning => field ++ ":" ++ beginning ++ "*"
  | .group clauses => "(" ++ String.intercalate " " (renderClauses clauses) ++ ")"
  | .ids members => "ids:[" ++ String.intercalate "," members.toList ++ "]"

/-- The clauses of a group, each after its mark. -/
def renderClauses : List (Occur × Query) → List String
  | [] => []
  | (occur, query) :: clauses => (occur.mark ++ query.render) :: renderClauses clauses

end

mutual

/-- A set of identifiers stands somewhere in the query. -/
def namesIds : Query → Bool
  | .ids _ => true
  | .group clauses => namesIdsIn clauses
  | _ => false

/-- A set of identifiers stands somewhere in one of the clauses. -/
def namesIdsIn : List (Occur × Query) → Bool
  | [] => false
  | (_, query) :: clauses => query.namesIds || namesIdsIn clauses

end

end Query

/-- No clause of the group is positive. -/
def isAllNegative (clauses : List (Occur × Query)) : Bool :=
  clauses.all fun clause => clause.1 == .mustNot

end Criteria.Search
