/-
Module: Criteria.Clause.Operator
Purpose: The comparison operators of a condition and the families they belong to.
Main exports:
  Family, Operator, Operator.symbol, Operator.tag, Operator.family, Operator.isNegating
-/

namespace Criteria

/-- What answers an operator: exact terms, ordered ranges, tokenized text, or the record of
past changes. -/
inductive Family where
  | equality
  | relational
  | like
  | history
deriving Repr, DecidableEq

/-- The operators of terminal clauses. -/
inductive Operator where
  | equals
  | notEquals
  | like
  | notLike
  | greaterThan
  | greaterThanEquals
  | lessThan
  | lessThanEquals
  | isIn
  | notIn
  | is
  | isNot
  | was
  | wasNot
  | wasIn
  | wasNotIn
  | changed
deriving Repr, DecidableEq

namespace Operator

/-- The operator as it is written in a condition. -/
def symbol : Operator → String
  | equals => "="
  | notEquals => "!="
  | like => "~"
  | notLike => "!~"
  | greaterThan => ">"
  | greaterThanEquals => ">="
  | lessThan => "<"
  | lessThanEquals => "<="
  | isIn => "in"
  | notIn => "not in"
  | is => "is"
  | isNot => "is not"
  | was => "was"
  | wasNot => "was not"
  | wasIn => "was in"
  | wasNotIn => "was not in"
  | changed => "changed"

/-- The byte that stands for the operator in a fingerprint. -/
def tag : Operator → UInt8
  | equals => 0x01
  | notEquals => 0x02
  | like => 0x03
  | notLike => 0x04
  | greaterThan => 0x05
  | greaterThanEquals => 0x06
  | lessThan => 0x07
  | lessThanEquals => 0x08
  | isIn => 0x09
  | notIn => 0x0a
  | is => 0x0b
  | isNot => 0x0c
  | was => 0x0d
  | wasNot => 0x0e
  | wasIn => 0x0f
  | wasNotIn => 0x10
  | changed => 0x11

/-- Different operators have different tags. -/
theorem tag_injective {first second : Operator} (same : first.tag = second.tag) :
    first = second := by
  cases first <;> cases second <;> first | rfl | (exact absurd same (by decide))

/-- The family of an operator; every operator has exactly one. -/
def family : Operator → Family
  | equals | notEquals | isIn | notIn | is | isNot => .equality
  | greaterThan | greaterThanEquals | lessThan | lessThanEquals => .relational
  | like | notLike => .like
  | was | wasNot | wasIn | wasNotIn | changed => .history

/-- The operator is answered from the record of past changes. -/
def isHistory (operator : Operator) : Bool :=
  operator.family == .history

/-- The operator excludes the values that it names. -/
def isNegating : Operator → Bool
  | notEquals | notLike | notIn | isNot | wasNot | wasNotIn => true
  | _ => false

/-- All operators, in the order of their tags. -/
def all : List Operator :=
  [equals, notEquals, like, notLike, greaterThan, greaterThanEquals, lessThan,
    lessThanEquals, isIn, notIn, is, isNot, was, wasNot, wasIn, wasNotIn, changed]

/-- The operator that a symbol writes. -/
def ofSymbol? (text : String) : Option Operator :=
  all.find? fun operator => operator.symbol == text

end Operator

end Criteria
