/-
Module: Criteria.Clause.Predicate
Purpose: Predicates that narrow a question about past changes by actor, transition or time.
Main exports:
  PredicateOperator, Predicate, Predicate.and, Predicate.leaves, Predicate.render
-/
import Criteria.Clause.Operand

namespace Criteria

/-- What a history predicate looks at: who made the change, the new or the old value, or
when it was made. -/
inductive PredicateOperator where
  | by
  | to
  | from
  | before
  | after
  | on
  | during
deriving Repr, DecidableEq

namespace PredicateOperator

/-- The operator as it is written in a condition. -/
def symbol : PredicateOperator → String
  | .by => "by"
  | .to => "to"
  | .from => "from"
  | .before => "before"
  | .after => "after"
  | .on => "on"
  | .during => "during"

/-- The byte that stands for the operator in a fingerprint. -/
def tag : PredicateOperator → UInt8
  | .by => 0x01
  | .to => 0x02
  | .from => 0x03
  | .before => 0x04
  | .after => 0x05
  | .on => 0x06
  | .during => 0x07

/-- Different operators have different tags. -/
theorem tag_injective {first second : PredicateOperator} (same : first.tag = second.tag) :
    first = second := by
  cases first <;> cases second <;> first | rfl | (exact absurd same (by decide))

/-- The operand is a point or a span in time. -/
def isTemporal : PredicateOperator → Bool
  | .before | .after | .on | .during => true
  | .by | .to | .from => false

/-- All operators, in the order of their tags. -/
def all : List PredicateOperator :=
  [.by, .to, .from, .before, .after, .on, .during]

/-- The operator that a symbol writes. -/
def ofSymbol? (text : String) : Option PredicateOperator :=
  all.find? fun operator => operator.symbol == text

end PredicateOperator

/-- A history predicate: one constraint, or several that hold together. -/
inductive Predicate where
  | leaf (operator : PredicateOperator) (operand : Operand)
  | all (parts : List Predicate)
deriving Repr

mutual

/-- Structural equality of history predicates. -/
def Predicate.decEq : (first second : Predicate) → Decidable (first = second)
  | .leaf firstOperator firstOperand, .leaf secondOperator secondOperand =>
      if same : firstOperator = secondOperator ∧ firstOperand = secondOperand then
        .isTrue (by rw [same.1, same.2])
      else .isFalse fun equal => same (Predicate.leaf.inj equal)
  | .all first, .all second =>
      match Predicate.decEqList first second with
      | .isTrue same => .isTrue (by rw [same])
      | .isFalse differ => .isFalse fun equal => differ (Predicate.all.inj equal)
  | .leaf _ _, .all _ | .all _, .leaf _ _ => .isFalse nofun

/-- Structural equality of lists of history predicates. -/
def Predicate.decEqList : (first second : List Predicate) → Decidable (first = second)
  | [], [] => .isTrue rfl
  | first :: firsts, second :: seconds =>
      match Predicate.decEq first second, Predicate.decEqList firsts seconds with
      | .isTrue sameHead, .isTrue sameTail => .isTrue (by rw [sameHead, sameTail])
      | .isFalse differ, _ => .isFalse fun equal => differ (List.cons.inj equal).1
      | _, .isFalse differ => .isFalse fun equal => differ (List.cons.inj equal).2
  | [], _ :: _ | _ :: _, [] => .isFalse nofun

end

instance : DecidableEq Predicate := Predicate.decEq

namespace Predicate

/-- The change falls between two dates, which may be given in either order. -/
def during (start finish : Operand) : Predicate :=
  .leaf .during (.list [start, finish])

/-- The parts of a conjunction, or the one constraint itself. -/
def parts : Predicate → List Predicate
  | .leaf operator operand => [.leaf operator operand]
  | .all parts => parts

/-- Both predicates hold; conjunctions on either side are joined into one. -/
def and (first second : Predicate) : Predicate :=
  .all (first.parts ++ second.parts)

mutual

/-- The single constraints of a predicate, from left to right. -/
def leaves : Predicate → List (PredicateOperator × Operand)
  | .leaf operator operand => [(operator, operand)]
  | .all parts => leavesOf parts

/-- The single constraints of several predicates, from left to right. -/
def leavesOf : List Predicate → List (PredicateOperator × Operand)
  | [] => []
  | part :: parts => part.leaves ++ leavesOf parts

end

mutual

/-- The predicate as it stands in a condition. -/
def render : Predicate → String
  | .leaf operator operand => operator.symbol ++ " " ++ operand.render
  | .all parts => String.intercalate " " (renderList parts)

/-- The parts of a conjunction, one by one. -/
def renderList : List Predicate → List String
  | [] => []
  | part :: parts => part.render :: renderList parts

end

end Predicate

end Criteria
