/-
Module: Criteria.Assembly.Symbol
Purpose: The symbols that an assembler keeps on its stack and how tightly they bind.
Main exports:
  Connective, Symbol, Symbol.rank, Symbol.text
-/

namespace Criteria.Assembly

/-- The two connectives that join clauses. -/
inductive Connective where
  | or
  | and
deriving Repr, DecidableEq

/-- The connective as it is written in a condition. -/
def Connective.text : Connective → String
  | .or => "OR"
  | .and => "AND"

/-- What can stand between two clauses, from the end of the condition, which binds least,
to negation, which binds most. -/
inductive Symbol where
  | finish
  | openGroup
  | closeGroup
  | connective (connective : Connective)
  | not
deriving Repr, DecidableEq

namespace Symbol

/-- The place of a symbol in the order of binding: the higher, the tighter. -/
def rank : Symbol → Nat
  | .finish => 0
  | .openGroup => 1
  | .closeGroup => 2
  | .connective .or => 3
  | .connective .and => 4
  | .not => 5

/-- The symbol as it is written in a condition. -/
def text : Symbol → String
  | .finish => ""
  | .openGroup => "("
  | .closeGroup => ")"
  | .connective c => c.text
  | .not => "NOT"

/-- The symbol joins clauses. -/
def isConnective : Symbol → Bool
  | .connective _ => true
  | _ => false

instance : Ord Symbol := ⟨fun first second => compare first.rank second.rank⟩

end Symbol

end Criteria.Assembly
