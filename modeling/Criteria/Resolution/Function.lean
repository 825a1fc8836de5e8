/-
Module: Criteria.Resolution.Function
Purpose: Functions that stand for values, and the literals that an operand comes to.
Main exports:
  ClauseFunction, FunctionTable, FunctionTable.literals, OperandReader
-/
import Std.Data.ExtTreeMap
import Criteria.Resolution.Context
import Criteria.Text.Lowercase
import Criteria.Text.Quoted

namespace Criteria

open Criteria.Text

/-- A function of the search and of its call. It may come to no literal at all. -/
abbrev ClauseFunction := SearchContext → FunctionCall → List Literal

/-- How any operand is read in a search. -/
abbrev OperandReader := SearchContext → Operand → List Literal

/-- The searching user, or nothing in a search without one. -/
def currentUser : ClauseFunction := fun context _ =>
  context.user.toList.map fun user => .value (.text user)

/-- The time of the search. -/
def currentTime : ClauseFunction := fun context _ =>
  [.value (.date context.now)]

/-- Functions by name. The letters A to Z count as their small forms. -/
structure FunctionTable where
  functions : Std.ExtTreeMap String ClauseFunction

namespace FunctionTable

/-- The table without functions. -/
def empty : FunctionTable :=
  ⟨∅⟩

/-- Add a function, in place of one of the same name. -/
def register (table : FunctionTable) (name : String) (function : ClauseFunction) :
    FunctionTable :=
  ⟨table.functions.insert (asciiLowercase name) function⟩

/-- The function of a name. -/
def get? (table : FunctionTable) (name : String) : Option ClauseFunction :=
  table.functions[asciiLowercase name]?

/-- The table with the functions for the searching user and the time of the search. -/
def builtIns : FunctionTable :=
  (empty.register "currentuser" currentUser).register "now" currentTime

/-- The names of the functions, in code point order. -/
def names (table : FunctionTable) : List String :=
  table.functions.keys

/-- The table as text: the names of its functions. -/
def describe (table : FunctionTable) : String :=
  "DefaultOperandResolver \x7b functions: \x7b" ++ quotedList table.names ++ "\x7d \x7d"

mutual

/-- The literals of an operand. Lists are flattened, and an unknown function comes to
nothing. -/
def literals (table : FunctionTable) (context : SearchContext) : Operand → List Literal
  | .value content => [.value content]
  | .empty => [.empty]
  | .list items => table.literalsOf context items
  | .function call =>
      match table.get? call.name with
      | some function => function context call
      | none => []

/-- The literals of several operands, one after another. -/
def literalsOf (table : FunctionTable) (context : SearchContext) :
    List Operand → List Literal
  | [] => []
  | item :: items => table.literals context item ++ table.literalsOf context items

end

end FunctionTable

end Criteria
