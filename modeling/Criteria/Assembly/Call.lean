/-
Module: Criteria.Assembly.Call
Purpose: The calls on an assembler that write down comparisons, with the checks of their
  arguments.
Main exports:
  Comparison, Comparison.terminal, Comparison.fault?, Call, Assembler.perform
-/
import Criteria.Assembly.Assembler
import Criteria.Text.Blank

namespace Criteria.Assembly

open Criteria.Text

/-- A comparison of one field, before its arguments are checked. -/
inductive Comparison where
  | equals (field : String) (operand : Operand)
  | notEquals (field : String) (operand : Operand)
  | lessThan (field : String) (operand : Operand)
  | lessThanEquals (field : String) (operand : Operand)
  | greaterThan (field : String) (operand : Operand)
  | greaterThanEquals (field : String) (operand : Operand)
  | like (field text : String)
  | notLike (field text : String)
  | isIn (field : String) (values : List Value)
  | notIn (field : String) (values : List Value)
  | isEmpty (field : String)
  | isNotEmpty (field : String)
  | was (field : String) (operand : Operand) (predicate : Option Predicate)
  | wasNot (field : String) (operand : Operand) (predicate : Option Predicate)
  | wasIn (field : String) (values : List Value) (predicate : Option Predicate)
  | wasNotIn (field : String) (values : List Value) (predicate : Option Predicate)
  | changed (field : String) (predicate : Option Predicate)
  | function (field : String) (operator : Operator) (call : FunctionCall)
deriving Repr, DecidableEq

namespace Comparison

/-- The terminal that a comparison writes down. -/
def terminal : Comparison → Terminal
  | .equals field operand => .equals field operand
  | .notEquals field operand => .notEquals field operand
  | .lessThan field operand => .lessThan field operand
  | .lessThanEquals field operand => .lessThanEquals field operand
  | .greaterThan field operand => .greaterThan field operand
  | .greaterThanEquals field operand => .greaterThanEquals field operand
  | .like field text => .like field (.value (.text text))
  | .notLike field text => .notLike field (.value (.text text))
  | .isIn field values => .isIn field values
  | .notIn field values => .notIn field values
  | .isEmpty field => .isEmpty field
  | .isNotEmpty field => .isNotEmpty field
  | .was field operand predicate => .was field operand predicate
  | .wasNot field operand predicate => .wasNot field operand predicate
  | .wasIn field values predicate => .wasIn field values predicate
  | .wasNotIn field values predicate => .wasNotIn field values predicate
  | .changed field predicate => .changed field predicate
  | .function field operator call => .function field operator call

/-- What is wrong with the arguments besides the field: a text search needs a text, a list
needs a value, and a function needs a name. -/
def contentFault? : Comparison → Option ArgumentFault
  | .like field text | .notLike field text =>
      if isBlankText text then some (.blankText field) else none
  | .isIn field values | .notIn field values | .wasIn field values _
  | .wasNotIn field values _ => if values.isEmpty then some (.noValues field) else none
  | .function field _ call =>
      if isBlankText call.name then some (.blankFunction field) else none
  | _ => none

/-- What is wrong with the arguments. Every field needs a name, which is checked last. -/
def fault? (comparison : Comparison) : Option ArgumentFault :=
  comparison.contentFault?.or
    (if isBlankText comparison.terminal.field then some .blankField else none)

end Comparison

/-- Every call on an assembler that can change it. -/
inductive Call where
  | event (event : Event)
  | comparison (comparison : Comparison)
  | range (field : String) (lower upper : Option Value)
  | setDefault (connective : Option Connective)
  | clear
deriving Repr, DecidableEq

namespace Assembler

/-- Refuse a call for its arguments. -/
def refuseArgument (assembler : Assembler) (fault : ArgumentFault) : Reply :=
  .refused assembler (.argument fault)

/-- Add a terminal. -/
def addTerminal (assembler : Assembler) (terminal : Terminal) : Reply :=
  assembler.addClause (.terminal terminal)

/-- Add a closed range. One bound gives a single comparison; two give a group of two joined
by AND. -/
def addRange (assembler : Assembler) (field : String) (lower upper : Option Value) : Reply :=
  if isBlankText field then assembler.refuseArgument .blankField
  else
    let atLeast := fun bound : Value => Terminal.greaterThanEquals field (.value bound)
    let atMost := fun bound : Value => Terminal.lessThanEquals field (.value bound)
    match lower, upper with
    | none, none => assembler.refuseArgument (.noBounds field)
    | some lower, none => assembler.addTerminal (atLeast lower)
    | none, some upper => assembler.addTerminal (atMost upper)
    | some lower, some upper =>
        assembler.openGroup.andThen fun opened =>
          (opened.addTerminal (atLeast lower)).andThen fun first =>
            (first.addConnective .and).andThen fun joined =>
              (joined.addTerminal (atMost upper)).andThen closeGroup

/-- Carry out a call. -/
def perform (assembler : Assembler) : Call → Reply
  | .event event => assembler.accept event
  | .comparison comparison =>
      match comparison.fault? with
      | none => assembler.addTerminal comparison.terminal
      | some fault => assembler.refuseArgument fault
  | .range field lower upper => assembler.addRange field lower upper
  | .setDefault connective => .accepted { assembler with defaultConnective := connective }
  | .clear => .accepted .empty

end Assembler

end Criteria.Assembly
