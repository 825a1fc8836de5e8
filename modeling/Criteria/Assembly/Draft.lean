/-
Module: Criteria.Assembly.Draft
Purpose: Conditions under assembly: joining drafts, and reading the finished condition off a
  draft.
Main exports:
  Draft, Draft.multi?, Draft.combine?, Draft.toClause?
-/
import Criteria.Assembly.Fault
import Criteria.Clause.Basic

namespace Criteria.Assembly

/-- A condition under assembly. Whole clauses are its leaves. -/
inductive Draft where
  | single (clause : Clause)
  | multi (connective : Connective) (children : List Draft)
  | not (inner : Draft)
deriving Repr

mutual

/-- Structural equality of drafts. -/
def Draft.decEq : (first second : Draft) → Decidable (first = second)
  | .single first, .single second =>
      if same : first = second then .isTrue (by rw [same])
      else .isFalse fun equal => same (Draft.single.inj equal)
  | .multi firstConnective first, .multi secondConnective second =>
      if sameHead : firstConnective = secondConnective then
        match Draft.decEqList first second with
        | .isTrue same => .isTrue (by rw [sameHead, same])
        | .isFalse differ => .isFalse fun equal => differ (Draft.multi.inj equal).2
      else .isFalse fun equal => sameHead (Draft.multi.inj equal).1
  | .not first, .not second =>
      match Draft.decEq first second with
      | .isTrue same => .isTrue (by rw [same])
      | .isFalse differ => .isFalse fun equal => differ (Draft.not.inj equal)
  | .single _, .multi _ _ | .single _, .not _ | .multi _ _, .single _
  | .multi _ _, .not _ | .not _, .single _ | .not _, .multi _ _ => .isFalse nofun

/-- Structural equality of lists of drafts. -/
def Draft.decEqList : (first second : List Draft) → Decidable (first = second)
  | [], [] => .isTrue rfl
  | first :: firsts, second :: seconds =>
      match Draft.decEq first second, Draft.decEqList firsts seconds with
      | .isTrue sameHead, .isTrue sameTail => .isTrue (by rw [sameHead, sameTail])
      | .isFalse differ, _ => .isFalse fun equal => differ (List.cons.inj equal).1
      | _, .isFalse differ => .isFalse fun equal => differ (List.cons.inj equal).2
  | [], _ :: _ | _ :: _, [] => .isFalse nofun

end

instance : DecidableEq Draft := Draft.decEq

namespace Draft

/-- Join several drafts under a connective. Only a connective can head them, and there has
to be one at least. -/
def multi? (symbol : Symbol) (children : List Draft) : Except ArgumentFault Draft :=
  match symbol with
  | .connective c => if children.isEmpty then .error .noChildren else .ok (.multi c children)
  | other => .error (.notConnective other)

/-- Join a draft with another. Negation leaves the other aside. A draft that is already
headed by the connective takes the other as its last child; any other is wrapped together
with it. -/
def combine? (draft : Draft) (symbol : Symbol) (other : Option Draft) :
    Except ArgumentFault Draft :=
  match symbol with
  | .not => .ok (.not draft)
  | .connective c =>
      match other with
      | none => .error (.noRightSide symbol)
      | some other =>
          match draft with
          | .multi head children =>
              if head = c then .ok (.multi head (children ++ [other]))
              else multi? symbol [draft, other]
          | _ => multi? symbol [draft, other]
  | .finish | .openGroup | .closeGroup => .error (.cannotCombine symbol)

/-- Head the clauses by a connective. A single clause stays as it is, and none give
nothing. -/
def joined? (connective : Connective) : List Clause → Option Clause
  | [] => none
  | [only] => some only
  | clauses =>
      match connective with
      | .and => some (.and clauses)
      | .or => some (.or clauses)

mutual

/-- The condition that a draft stands for. Children that stand for nothing are dropped. -/
def toClause? : Draft → Option Clause
  | .single clause => some clause
  | .multi c children => joined? c (toClauses children)
  | .not inner => inner.toClause?.map .not

/-- The conditions that several drafts stand for. -/
def toClauses : List Draft → List Clause
  | [] => []
  | child :: children =>
      match child.toClause? with
      | some clause => clause :: toClauses children
      | none => toClauses children

end

/-- The condition as text, empty if there is none. -/
def render (draft : Draft) : String :=
  match draft.toClause? with
  | some clause => clause.render
  | none => ""

end Draft

end Criteria.Assembly
