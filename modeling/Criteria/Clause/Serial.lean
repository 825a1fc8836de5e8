/-
Module: Criteria.Clause.Serial
Purpose: The serialized tree of a condition.
Main exports:
  Clause.toJson
-/
import Criteria.Clause.Basic
import Criteria.Json

namespace Criteria

/-- The name of an operator in the serialized tree. -/
def Operator.serialName : Operator → String
  | .equals => "Equals"
  | .notEquals => "NotEquals"
  | .like => "Like"
  | .notLike => "NotLike"
  | .greaterThan => "GreaterThan"
  | .greaterThanEquals => "GreaterThanEquals"
  | .lessThan => "LessThan"
  | .lessThanEquals => "LessThanEquals"
  | .isIn => "In"
  | .notIn => "NotIn"
  | .is => "Is"
  | .isNot => "IsNot"
  | .was => "Was"
  | .wasNot => "WasNot"
  | .wasIn => "WasIn"
  | .wasNotIn => "WasNotIn"
  | .changed => "Changed"

/-- The name of a predicate operator in the serialized tree. -/
def PredicateOperator.serialName : PredicateOperator → String
  | .by => "By"
  | .to => "To"
  | .from => "From"
  | .before => "Before"
  | .after => "After"
  | .on => "On"
  | .during => "During"

/-- A value under the name of its kind. Dates are written in ISO form. -/
def Value.toJson : Value → Json
  | .text content => .tagged "Text" (.text content)
  | .number n => .tagged "Number" (.number n.toInt)
  | .date moment => .tagged "Date" (.text moment.isoForm)

/-- A call with its name and arguments. -/
def FunctionCall.toJson (call : FunctionCall) : Json :=
  .object [("name", .text call.name), ("args", .list (call.args.map .text))]

mutual

/-- An operand under the name of its kind. -/
def Operand.toJson : Operand → Json
  | .value content => .tagged "Value" content.toJson
  | .list items => .tagged "List" (.list (Operand.toJsonList items))
  | .empty => .text "Empty"
  | .function call => .tagged "Function" call.toJson

/-- The operands of a list, one by one. -/
def Operand.toJsonList : List Operand → List Json
  | [] => []
  | item :: items => item.toJson :: Operand.toJsonList items

end

mutual

/-- A predicate under the name of its kind. -/
def Predicate.toJson : Predicate → Json
  | .leaf operator operand =>
      .tagged "Terminal"
        (.object [("op", .text operator.serialName), ("operand", operand.toJson)])
  | .all parts => .tagged "And" (.list (Predicate.toJsonList parts))

/-- The parts of a conjunction, one by one. -/
def Predicate.toJsonList : List Predicate → List Json
  | [] => []
  | part :: parts => part.toJson :: Predicate.toJsonList parts

end

/-- The four fields of a terminal. -/
def Terminal.toJson (terminal : Terminal) : Json :=
  .object
    [("field", .text terminal.field), ("operator", .text terminal.operator.serialName),
      ("operand", terminal.operand.toJson),
      ("predicate", (terminal.predicate.map Predicate.toJson).getD .null)]

mutual

/-- A condition under the name of its head. -/
def Clause.toJson : Clause → Json
  | .terminal leaf => .tagged "Terminal" leaf.toJson
  | .and children => .tagged "And" (.list (Clause.toJsonList children))
  | .or children => .tagged "Or" (.list (Clause.toJsonList children))
  | .not child => .tagged "Not" child.toJson

/-- The children of a connective, one by one. -/
def Clause.toJsonList : List Clause → List Json
  | [] => []
  | child :: children => child.toJson :: Clause.toJsonList children

end

end Criteria
