/-
Module: Criteria.Compile.Compiler
Purpose: Compiling a condition to one query, from its terminals upwards.
Main exports:
  Compiler, Compiler.compile, Compiler.compileClause, defaultLimit
-/
import Criteria.Compile.Ranges
import Criteria.Compile.Run

namespace Criteria.Compile

open Criteria.Changes
open Criteria.Fields
open Criteria.Search

/-- The largest group of clauses that an index is taken to accept if nothing else is said. -/
def defaultLimit : Nat := 1024

/-- What conditions are compiled with. Without a finder no question about past changes can
be answered. -/
structure Compiler where
  registry : Registry
  operands : OperandReader
  finder : Option Finder
  limit : Nat := defaultLimit

namespace Compiler

/-- Refuse a clause if a group in its query is wider than the limit. -/
def checkWidth (compiler : Compiler) (clause : Clause) (count : Nat) : Run Unit :=
  if compiler.limit < count then .fail (.tooComplex clause compiler.limit count)
  else .done ()

/-- Put a query to the index of changes. Without a query the index is left alone. -/
def searchChanges (finder : Finder) (terminal : Terminal) (query : Option Query) :
    Run Found :=
  { steps := query.toList.map .search
    result := (finder.search terminal query).mapError .backend }

/-- The fragment of a terminal that nothing is registered for. It matches nothing. -/
def unregistered (terminal : Terminal) : Run Fragment := do
  Run.report (.terminal terminal.field terminal.operator .unregistered)
  return .nothing

/-- Check the width of a terminal's fragment and report it. -/
def finishTerminal (compiler : Compiler) (terminal : Terminal) (fragment : Fragment) :
    Run Fragment := do
  compiler.checkWidth (.terminal terminal) fragment.query.widestGroup
  let outcome : TerminalOutcome := if fragment.isFalse then .nothing else .query
  Run.report (.terminal terminal.field terminal.operator outcome)
  return fragment

/-- Compile a question about past changes. The width of its query is checked before the
index of changes is searched. -/
def compileHistory (compiler : Compiler) (context : SearchContext) (terminal : Terminal) :
    Run Fragment :=
  match compiler.registry.history? terminal.field, compiler.finder with
  | some history, some finder => do
      let query := finder.changeQuery? context history terminal
      compiler.checkWidth (.terminal terminal) ((query.map Query.widestGroup).getD 0)
      let found ← searchChanges finder terminal query
      Run.report (.history terminal.field terminal.operator found.entities.size)
      compiler.finishTerminal terminal found.fragment
  | _, _ => unregistered terminal

/-- Compile a comparison with the present value of a field. -/
def compileComparison (compiler : Compiler) (context : SearchContext) (terminal : Terminal) :
    Run Fragment :=
  match compiler.registry.matcher? terminal.field terminal.operator with
  | some matcher =>
      compiler.finishTerminal terminal
        (matcher.fragment terminal.operator (compiler.operands context terminal.operand))
  | none => unregistered terminal

/-- Compile a terminal. -/
def compileTerminal (compiler : Compiler) (context : SearchContext) (terminal : Terminal) :
    Run Fragment :=
  if terminal.operator.isHistory then compiler.compileHistory context terminal
  else compiler.compileComparison context terminal

/-- A group of clauses as a fragment, if it is not too wide. -/
def groupFragment (compiler : Compiler) (clause : Clause) (clauses : List (Occur × Query)) :
    Run Fragment := do
  compiler.checkWidth clause clauses.length
  return { query := .group clauses }

/-- All of several fragments. What matches everything is left out. A single negation stays a
negation, for its surroundings to place; several are taken away from everything if nothing
else is required. -/
def conjunction (compiler : Compiler) (clause : Clause) (fragments : List Fragment) :
    Run Fragment :=
  let restricting := fragments.filter fun fragment => !fragment.isTrue
  let required := (restricting.filter fun fragment => !fragment.negated).map (·.query)
  let excluded := restricting.filter (·.negated)
  match required, excluded with
  | [], [] => .done .everything
  | [], [only] => .done only
  | _, _ =>
      match mergeRanges required, excluded with
      | [only], [] => .done { query := only }
      | merged, _ =>
          let required := if merged.isEmpty then [Query.all] else merged
          compiler.groupFragment clause
            (required.map (fun query => (.must, query)) ++
              excluded.map fun fragment => (.mustNot, fragment.query))

/-- Any of several fragments. What matches nothing is left out. -/
def disjunction (compiler : Compiler) (clause : Clause) (fragments : List Fragment) :
    Run Fragment :=
  match fragments.filter fun fragment => !fragment.isFalse with
  | [] => .done .nothing
  | [only] => .done only
  | alternatives =>
      compiler.groupFragment clause
        (alternatives.map fun fragment => (.should, fragment.toQuery))

mutual

/-- Compile a condition to a fragment, which may be a negation. -/
def compileClause (compiler : Compiler) (context : SearchContext) : Clause → Run Fragment
  | .terminal leaf => compiler.compileTerminal context leaf
  | .and children => do
      match ← compiler.compileUntil context Fragment.isFalse children with
      | some fragments => compiler.conjunction (.and children) fragments
      | none => return .nothing
  | .or children => do
      match ← compiler.compileUntil context Fragment.isTrue children with
      | some fragments => compiler.disjunction (.or children) fragments
      | none => return .everything
  | .not child => do
      let fragment ← compiler.compileClause context child
      return fragment.negate

/-- Compile children from left to right up to one that decides the whole. If there is one
the children after it are not looked at, and there is no list of fragments. -/
def compileUntil (compiler : Compiler) (context : SearchContext)
    (decides : Fragment → Bool) : List Clause → Run (Option (List Fragment))
  | [] => .done (some [])
  | child :: children => do
      let fragment ← compiler.compileClause context child
      if decides fragment then return none
      else
        let others ← compiler.compileUntil context decides children
        return others.map (fragment :: ·)

end

/-- What a compilation ended with, for its last event. -/
def outcomeOf : Except CompileError Fragment → CompileOutcome
  | .ok fragment => if fragment.isFalse then .nothing else .query
  | .error (.tooComplex _ limit count) => .tooComplex limit count
  | .error (.backend error) => .failed error.errorClass error.origin

/-- Compile a condition to a query of its own, between the events that begin and end it. -/
def compile (compiler : Compiler) (context : SearchContext) (clause : Clause) : Run Query :=
  let body := compiler.compileClause context clause
  let fingerprint := clause.fingerprint
  { steps := .event (.start fingerprint) :: body.steps ++
      [.event (.finish fingerprint (outcomeOf body.result))]
    result := body.result.map Fragment.toQuery }

end Compiler

end Criteria.Compile
