/-
Module: Criteria.Clause.Operand
Purpose: The right-hand side of a comparison: values, lists, the empty marker and function
  calls, and their rendering.
Main exports:
  Value, FunctionCall, Operand, Value.plainText, Value.render, Operand.render
-/
import Criteria.Calendar.Form

namespace Criteria

open Criteria.Calendar

/-- One value as the caller wrote it. Numbers are 64-bit integers. -/
inductive Value where
  | text (content : String)
  | number (n : Int64)
  | date (moment : Instant)
deriving Repr, DecidableEq

/-- A function to be evaluated when the search runs. -/
structure FunctionCall where
  name : String
  args : List String
deriving Repr, DecidableEq

/-- The right-hand side of a comparison. -/
inductive Operand where
  | value (content : Value)
  | list (items : List Operand)
  | empty
  | function (call : FunctionCall)
deriving Repr

mutual

/-- Structural equality of operands. -/
def Operand.decEq : (first second : Operand) → Decidable (first = second)
  | .value first, .value second =>
      if same : first = second then .isTrue (by rw [same])
      else .isFalse fun equal => same (Operand.value.inj equal)
  | .list first, .list second =>
      match Operand.decEqList first second with
      | .isTrue same => .isTrue (by rw [same])
      | .isFalse differ => .isFalse fun equal => differ (Operand.list.inj equal)
  | .empty, .empty => .isTrue rfl
  | .function first, .function second =>
      if same : first = second then .isTrue (by rw [same])
      else .isFalse fun equal => same (Operand.function.inj equal)
  | .value _, .list _ | .value _, .empty | .value _, .function _
  | .list _, .value _ | .list _, .empty | .list _, .function _
  | .empty, .value _ | .empty, .list _ | .empty, .function _
  | .function _, .value _ | .function _, .list _ | .function _, .empty => .isFalse nofun

/-- Structural equality of lists of operands. -/
def Operand.decEqList : (first second : List Operand) → Decidable (first = second)
  | [], [] => .isTrue rfl
  | first :: firsts, second :: seconds =>
      match Operand.decEq first second, Operand.decEqList firsts seconds with
      | .isTrue sameHead, .isTrue sameTail => .isTrue (by rw [sameHead, sameTail])
      | .isFalse differ, _ => .isFalse fun equal => differ (List.cons.inj equal).1
      | _, .isFalse differ => .isFalse fun equal => differ (List.cons.inj equal).2
  | [], _ :: _ | _ :: _, [] => .isFalse nofun

end

instance : DecidableEq Operand := Operand.decEq

namespace Value

/-- The value as plain text, without quotes. -/
def plainText : Value → String
  | .text content => content
  | .number n => String.ofList (Text.signedDecimal n.toInt)
  | .date moment => moment.displayForm

/-- A text in double quotes, with a backslash before every quote inside. -/
def quoted (text : String) : String :=
  "\"" ++ String.ofList (text.toList.flatMap fun c => if c = '"' then ['\\', '"'] else [c]) ++
    "\""

/-- The value as it stands in a condition: texts and dates are quoted. -/
def render : Value → String
  | .text content => quoted content
  | .number n => plainText (.number n)
  | .date moment => "\"" ++ moment.displayForm ++ "\""

end Value

/-- The call as it stands in a condition. -/
def FunctionCall.render (call : FunctionCall) : String :=
  call.name ++ "(" ++ String.intercalate ", " call.args ++ ")"

namespace Operand

/-- The operand that lists plain values. -/
def ofValues (values : List Value) : Operand :=
  .list (values.map .value)

/-- The operand is the marker for no value. -/
def isEmptyMarker : Operand → Bool
  | .empty => true
  | _ => false

mutual

/-- The operand as it stands in a condition. -/
def render : Operand → String
  | .value content => content.render
  | .list items => "(" ++ String.intercalate ", " (renderList items) ++ ")"
  | .empty => "EMPTY"
  | .function call => call.render

/-- The operands of a list, one by one. -/
def renderList : List Operand → List String
  | [] => []
  | item :: items => item.render :: renderList items

end

end Operand

/-- What an operand comes to when the search runs: a value, or the explicit marker that
there is none. -/
inductive Literal where
  | value (content : Value)
  | empty
deriving Repr, DecidableEq

/-- The value of a literal, if it is one. -/
def Literal.value? : Literal → Option Value
  | .value content => some content
  | .empty => none

end Criteria
