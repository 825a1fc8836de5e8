/-
Module: Criteria.Assembly.Assembler
Purpose: The assembler that turns a sequence of clauses, connectives, negations and groups
  into one condition in which NOT binds tighter than AND, and AND tighter than OR.
Main exports:
  Event, Assembler, Reply, Assembler.accept, Assembler.build?, reduce?
-/
import Criteria.Assembly.Draft

namespace Criteria.Assembly

/-- One step of a condition. -/
inductive Event where
  | clause (clause : Clause)
  | connective (connective : Connective)
  | not
  | openGroup
  | closeGroup
deriving Repr, DecidableEq

/-- The symbol on top of the stack gives way to the incoming one. Negation groups to the
right, so it gives way only to a symbol that binds less. -/
def Symbol.yieldsTo (top incoming : Symbol) : Bool :=
  if top = .not then incoming.rank < top.rank else incoming.rank ≤ top.rank

/-- Apply the symbol taken off the stack to the operands, the last one first. -/
def applySymbol? (symbol : Symbol) (operands : List Draft) :
    Except ReductionFault (List Draft) :=
  if symbol = .not then
    match operands with
    | inner :: rest =>
        match inner.combine? symbol none with
        | .ok draft => .ok (draft :: rest)
        | .error fault => .error (.refused fault)
    | [] => .error .notWithoutOperand
  else
    match operands with
    | right :: left :: rest =>
        match left.combine? symbol (some right) with
        | .ok draft => .ok (draft :: rest)
        | .error fault => .error (.refused fault)
    | [_] => .error (.withoutLeft symbol)
    | [] => .error (.withoutRight symbol)

/-- Put the incoming symbol on the stack once nothing above it is left to reduce. The end of
the condition and opened groups leave the stack alone, and a closed group should have met
its opening. -/
def settle? (incoming : Symbol) (operators : List Symbol) (operands : List Draft) :
    Except ReductionFault (List Symbol × List Draft) :=
  match incoming with
  | .closeGroup => .error .noOpenGroup
  | .connective _ => .ok (incoming :: operators, operands)
  | .finish | .openGroup | .not => .ok (operators, operands)

/-- Reduce the stacks, tops first, ahead of an incoming symbol. The end of the condition
reduces everything, the end of a group everything back to its opening, and a connective
whatever binds at least as tightly. -/
def reduce? (incoming : Symbol) : List Symbol → List Draft →
    Except ReductionFault (List Symbol × List Draft)
  | [], operands => settle? incoming [] operands
  | .openGroup :: rest, operands =>
      match incoming with
      | .closeGroup => .ok (rest, operands)
      | .finish => .error .openGroupLeft
      | _ => settle? incoming (.openGroup :: rest) operands
  | top :: rest, operands =>
      if top.yieldsTo incoming then
        match applySymbol? top operands with
        | .ok operands => reduce? incoming rest operands
        | .error fault => .error fault
      else settle? incoming (top :: rest) operands

/-- A condition in the course of being assembled: the stacks of open symbols and of operands
with their tops first, the number of open groups, what was accepted last, the connective
that is put between adjacent clauses, and everything accepted, as text. -/
structure Assembler where
  operators : List Symbol
  operands : List Draft
  level : Nat
  phase : Phase
  defaultConnective : Option Connective
  tokens : List String
deriving Repr, DecidableEq

/-- The answer to a call: the assembler after it, and the refusal if there was one. -/
inductive Reply where
  | accepted (after : Assembler)
  | refused (after : Assembler) (refusal : Refusal)
deriving Repr, DecidableEq

namespace Reply

/-- The assembler after the call. -/
def assembler : Reply → Assembler
  | .accepted after => after
  | .refused after _ => after

/-- The refusal of the call, if it was refused. -/
def refusal? : Reply → Option Refusal
  | .accepted _ => none
  | .refused _ refusal => some refusal

/-- Go on with a further step unless the call was refused. -/
def andThen (reply : Reply) (next : Assembler → Reply) : Reply :=
  match reply with
  | .accepted after => next after
  | .refused after refusal => .refused after refusal

end Reply

namespace Assembler

/-- The assembler before the first call. -/
def empty : Assembler :=
  { operators := []
    operands := []
    level := 0
    phase := .start
    defaultConnective := none
    tokens := [] }

/-- Everything accepted so far, as text. -/
def soFar (assembler : Assembler) : String :=
  String.intercalate " " assembler.tokens

/-- Refuse a call for its place in the sequence. -/
def refuse (assembler : Assembler) (fault : SequenceFault) : Reply :=
  .refused assembler (.illegalState fault assembler.soFar)

/-- Reduce the stacks ahead of a symbol. A fault in the reduction makes the assembler
unusable until it is cleared. -/
def reduceFor (assembler : Assembler) (incoming : Symbol) : Reply :=
  match reduce? incoming assembler.operators assembler.operands with
  | .ok (operators, operands) => .accepted { assembler with operators, operands }
  | .error fault =>
      .refused { assembler with phase := .illegal }
        (.illegalState (.reduction fault) assembler.soFar)

/-- Add to the text of what was accepted. -/
def log (assembler : Assembler) (token : String) : Assembler :=
  { assembler with tokens := assembler.tokens ++ [token] }

/-- Put a connective after the operands read so far. -/
def joinWith (assembler : Assembler) (connective : Connective) : Reply :=
  (assembler.reduceFor (.connective connective)).andThen fun after =>
    .accepted (after.log connective.text)

/-- Make the assembler ready for an operand. Directly after one, the default connective is
put between, and without a default the call is refused. -/
def readyForOperand (assembler : Assembler) (fault : SequenceFault) : Reply :=
  match assembler.phase with
  | .start | .afterNot | .afterConnective _ | .afterOpen => .accepted assembler
  | .afterOperand =>
      match assembler.defaultConnective with
      | some connective => assembler.joinWith connective
      | none => assembler.refuse fault
  | .illegal => assembler.refuse .illegal

/-- Add a whole clause. -/
def addClause (assembler : Assembler) (clause : Clause) : Reply :=
  (assembler.readyForOperand .clauseAfterOperand).andThen fun ready =>
    .accepted { ready.log clause.render with
      operands := .single clause :: ready.operands
      phase := .afterOperand }

/-- Negate the operand that follows. -/
def addNot (assembler : Assembler) : Reply :=
  (assembler.readyForOperand .notAfterOperand).andThen fun ready =>
    .accepted { ready.log Symbol.not.text with
      operators := .not :: ready.operators
      phase := .afterNot }

/-- Open a group. -/
def openGroup (assembler : Assembler) : Reply :=
  (assembler.readyForOperand .groupAfterOperand).andThen fun ready =>
    .accepted { ready.log Symbol.openGroup.text with
      operators := .openGroup :: ready.operators
      level := ready.level + 1
      phase := .afterOpen }

/-- Close the innermost group. -/
def closeGroup (assembler : Assembler) : Reply :=
  match assembler.phase with
  | .afterOperand =>
      if assembler.level = 0 then assembler.refuse .nothingToClose
      else
        (assembler.reduceFor .closeGroup).andThen fun after =>
          .accepted { after.log Symbol.closeGroup.text with level := after.level - 1 }
  | .afterOpen => assembler.refuse .emptyGroup
  | .illegal => assembler.refuse .illegal
  | phase => assembler.refuse (.closeAfter phase)

/-- Add a connective, which has to follow an operand. -/
def addConnective (assembler : Assembler) (connective : Connective) : Reply :=
  match assembler.phase with
  | .afterOperand =>
      (assembler.joinWith connective).andThen fun after =>
        .accepted { after with phase := .afterConnective connective }
  | .start => assembler.refuse (.startsWith connective)
  | .illegal => assembler.refuse .illegal
  | phase => assembler.refuse (.connectiveAfter phase connective)

/-- Take one step of the condition. -/
def accept (assembler : Assembler) : Event → Reply
  | .clause clause => assembler.addClause clause
  | .connective connective => assembler.addConnective connective
  | .not => assembler.addNot
  | .openGroup => assembler.openGroup
  | .closeGroup => assembler.closeGroup

/-- Reduce everything to one condition. -/
def finish? (assembler : Assembler) : Except SequenceFault (Option Clause) :=
  match reduce? .finish assembler.operators assembler.operands with
  | .ok (_, [root]) => .ok root.toClause?
  | .ok _ => .error .notOneClause
  | .error fault => .error (.reduction fault)

/-- The condition assembled so far. The assembler stays as it is, so it can be asked again
and carried on. An assembler to which nothing was added has no condition. -/
def build? (assembler : Assembler) : Except Refusal (Option Clause) :=
  let built : Except SequenceFault (Option Clause) :=
    match assembler.phase with
    | .start => if assembler.operands.isEmpty then .ok none else .error .incomplete
    | .afterOperand =>
        if assembler.level = 0 then assembler.finish?
        else .error (.unclosed assembler.level)
    | .illegal => .error .illegal
    | _ => .error .incomplete
  built.mapError fun fault => .illegalState fault assembler.soFar

end Assembler

end Criteria.Assembly
