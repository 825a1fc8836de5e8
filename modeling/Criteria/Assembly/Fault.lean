/-
Module: Criteria.Assembly.Fault
Purpose: The reasons for which an assembler refuses a call, and their wording.
Main exports:
  ArgumentFault, ReductionFault, SequenceFault, Refusal, Refusal.message
-/
import Criteria.Assembly.Symbol

namespace Criteria.Assembly

/-- What is wrong with the values that a call carries. -/
inductive ArgumentFault where
  | notConnective (symbol : Symbol)
  | noChildren
  | noRightSide (symbol : Symbol)
  | cannotCombine (symbol : Symbol)
  | blankField
  | blankText (field : String)
  | noValues (field : String)
  | noBounds (field : String)
  | blankFunction (field : String)
deriving Repr, DecidableEq

/-- The wording of an argument fault. -/
def ArgumentFault.detail : ArgumentFault → String
  | .notConnective symbol =>
      "'" ++ symbol.text ++ "' cannot head a multi clause; expected AND or OR"
  | .noChildren => "multi clause requires at least one child"
  | .noRightSide symbol => "'" ++ symbol.text ++ "' requires a right-hand clause"
  | .cannotCombine symbol => "'" ++ symbol.text ++ "' cannot combine clauses"
  | .blankField => "field name must not be blank"
  | .blankText field => "text for '" ++ field ++ "' must not be blank"
  | .noValues field => "'" ++ field ++ "' requires at least one value"
  | .noBounds field => "range on '" ++ field ++ "' requires at least one bound"
  | .blankFunction field => "function name for '" ++ field ++ "' must not be blank"

/-- The wording of an argument fault on its own. -/
def ArgumentFault.message (fault : ArgumentFault) : String :=
  "invalid argument: " ++ fault.detail

/-- What keeps the stacks from being reduced. -/
inductive ReductionFault where
  | openGroupLeft
  | noOpenGroup
  | notWithoutOperand
  | withoutRight (symbol : Symbol)
  | withoutLeft (symbol : Symbol)
  | refused (fault : ArgumentFault)
deriving Repr, DecidableEq

/-- The wording of a reduction fault. -/
def ReductionFault.message : ReductionFault → String
  | .openGroupLeft => "unbalanced sub-expression"
  | .noOpenGroup => "no matching sub-expression to close"
  | .notWithoutOperand => "NOT without an operand"
  | .withoutRight symbol => symbol.text ++ " without a right operand"
  | .withoutLeft symbol => symbol.text ++ " without a left operand"
  | .refused fault => fault.message

/-- Where the assembler stands in the sequence of calls, by what was accepted last. -/
inductive Phase where
  | start
  | afterNot
  | afterOperand
  | afterConnective (connective : Connective)
  | afterOpen
  | illegal
deriving Repr, DecidableEq

/-- What was accepted last, as it is named in a message. -/
def Phase.token : Phase → String
  | .start => ""
  | .afterNot => "NOT"
  | .afterOperand => "<clause>"
  | .afterConnective c => c.text
  | .afterOpen => "("
  | .illegal => "<illegal>"

/-- What is wrong with the order of the calls. -/
inductive SequenceFault where
  | notAfterOperand
  | clauseAfterOperand
  | groupAfterOperand
  | nothingToClose
  | emptyGroup
  | closeAfter (phase : Phase)
  | unclosed (level : Nat)
  | illegal
  | incomplete
  | notOneClause
  | startsWith (connective : Connective)
  | connectiveAfter (phase : Phase) (connective : Connective)
  | reduction (fault : ReductionFault)
deriving Repr, DecidableEq

/-- The wording of a sequence fault. -/
def SequenceFault.detail : SequenceFault → String
  | .notAfterOperand => "cannot add NOT directly after a clause"
  | .clauseAfterOperand => "two clauses with no operator between them"
  | .groupAfterOperand => "cannot open a sub-expression directly after a clause"
  | .nothingToClose => "no open sub-expression to close"
  | .emptyGroup => "empty sub-expression"
  | .closeAfter phase => "cannot close a sub-expression after '" ++ phase.token ++ "'"
  | .unclosed level =>
      "cannot build with " ++ String.ofList (Nat.toDigits 10 level) ++
        " unclosed sub-expression(s)"
  | .illegal => "builder is in an illegal state and must be cleared"
  | .incomplete => "cannot build an incomplete condition"
  | .notOneClause => "reduction did not produce exactly one clause"
  | .startsWith c => "cannot start a condition with " ++ c.text
  | .connectiveAfter phase c =>
      "illegal operator sequence '" ++ phase.token ++ " " ++ c.text ++ "'"
  | .reduction fault => fault.message

/-- Why a call was refused: for its values, or for its place in the sequence. A refusal for
its place tells the condition accepted so far. -/
inductive Refusal where
  | argument (fault : ArgumentFault)
  | illegalState (fault : SequenceFault) (soFar : String)
deriving Repr, DecidableEq

/-- The reason alone. -/
def Refusal.detail : Refusal → String
  | .argument fault => fault.detail
  | .illegalState fault _ => fault.detail

/-- The wording of a refusal. -/
def Refusal.message : Refusal → String
  | .argument fault => fault.message
  | .illegalState fault soFar => fault.detail ++ " (condition so far: '" ++ soFar ++ "')"

end Criteria.Assembly
