/-
Module: Criteria.Clause.Terminal
Purpose: Terminal clauses, which compare one field, and the ways to write one down.
Main exports:
  Terminal, Terminal.render, and one constructor for each kind of comparison
-/
import Criteria.Clause.Operator
import Criteria.Clause.Predicate

namespace Criteria

/-- A comparison of one field. The predicate narrows a question about past changes. -/
structure Terminal where
  field : String
  operator : Operator
  operand : Operand
  predicate : Option Predicate := none
deriving Repr, DecidableEq

namespace Terminal

/-- The terminal as it stands in a condition. A question whether the field changed at all
shows no operand. -/
def render (terminal : Terminal) : String :=
  let operand := if terminal.operator = .changed then "" else " " ++ terminal.operand.render
  let predicate :=
    match terminal.predicate with
    | some predicate => " " ++ predicate.render
    | none => ""
  "\x7b" ++ terminal.field ++ " " ++ terminal.operator.symbol ++ operand ++ predicate ++ "\x7d"

/-- Narrow the terminal by a predicate, in place of the one it has. -/
def narrowed (terminal : Terminal) (predicate : Predicate) : Terminal :=
  { terminal with predicate := some predicate }

/-- The field equals the operand. -/
def equals (field : String) (operand : Operand) : Terminal :=
  { field, operator := .equals, operand }

/-- The field has a value other than the operand. -/
def notEquals (field : String) (operand : Operand) : Terminal :=
  { field, operator := .notEquals, operand }

/-- The field is below the operand. -/
def lessThan (field : String) (operand : Operand) : Terminal :=
  { field, operator := .lessThan, operand }

/-- The field is at most the operand. -/
def lessThanEquals (field : String) (operand : Operand) : Terminal :=
  { field, operator := .lessThanEquals, operand }

/-- The field is above the operand. -/
def greaterThan (field : String) (operand : Operand) : Terminal :=
  { field, operator := .greaterThan, operand }

/-- The field is at least the operand. -/
def greaterThanEquals (field : String) (operand : Operand) : Terminal :=
  { field, operator := .greaterThanEquals, operand }

/-- The text of the field holds the words of the operand. -/
def like (field : String) (operand : Operand) : Terminal :=
  { field, operator := .like, operand }

/-- The text of the field lacks one of the words of the operand. -/
def notLike (field : String) (operand : Operand) : Terminal :=
  { field, operator := .notLike, operand }

/-- The field is one of the values. -/
def isIn (field : String) (values : List Value) : Terminal :=
  { field, operator := .isIn, operand := .ofValues values }

/-- The field has a value other than these. -/
def notIn (field : String) (values : List Value) : Terminal :=
  { field, operator := .notIn, operand := .ofValues values }

/-- The field has no value. -/
def isEmpty (field : String) : Terminal :=
  { field, operator := .is, operand := .empty }

/-- The field has some value. -/
def isNotEmpty (field : String) : Terminal :=
  { field, operator := .isNot, operand := .empty }

/-- The field held the operand at some time. -/
def was (field : String) (operand : Operand) (predicate : Option Predicate) : Terminal :=
  { field, operator := .was, operand, predicate }

/-- The field never held the operand. -/
def wasNot (field : String) (operand : Operand) (predicate : Option Predicate) : Terminal :=
  { field, operator := .wasNot, operand, predicate }

/-- The field held one of the values at some time. -/
def wasIn (field : String) (values : List Value) (predicate : Option Predicate) : Terminal :=
  { field, operator := .wasIn, operand := .ofValues values, predicate }

/-- The field never held any of the values. -/
def wasNotIn (field : String) (values : List Value) (predicate : Option Predicate) :
    Terminal :=
  { field, operator := .wasNotIn, operand := .ofValues values, predicate }

/-- The field changed at some time. -/
def changed (field : String) (predicate : Option Predicate) : Terminal :=
  { field, operator := .changed, operand := .empty, predicate }

/-- The field compares to the result of a function. -/
def function (field : String) (operator : Operator) (call : FunctionCall) : Terminal :=
  { field, operator, operand := .function call }

end Terminal

end Criteria
