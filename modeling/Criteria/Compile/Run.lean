/-
Module: Criteria.Compile.Run
Purpose: The course of a compilation: its steps in order, and the value or the error that it
  ends with.
Main exports:
  CompileError, TerminalOutcome, CompileOutcome, TraceEvent, Step, Run, Run.events,
  Run.searches
-/
import Criteria.Changes.Finder
import Criteria.Clause.Encoding

namespace Criteria.Compile

open Criteria.Changes
open Criteria.Search

/-- Why a condition was not compiled: a group of clauses is wider than the index accepts, or
a collaborator failed. -/
inductive CompileError where
  | tooComplex (clause : Clause) (limit count : Nat)
  | backend (error : BackendError)
deriving DecidableEq

/-- The wording of a compile error. -/
def CompileError.message : CompileError → String
  | .tooComplex clause limit count =>
      "clause too complex: " ++ String.ofList (Nat.toDigits 10 count) ++
        " clauses in one group, limit is " ++ String.ofList (Nat.toDigits 10 limit) ++ ": " ++
        clause.render
  | .backend error => error.message

/-- What a terminal was compiled to. -/
inductive TerminalOutcome where
  | query
  | nothing
  | unregistered
deriving Repr, DecidableEq

/-- What a whole condition was compiled to. -/
inductive CompileOutcome where
  | query
  | nothing
  | tooComplex (limit count : Nat)
  | failed (errorClass : ErrorClass) (origin : ErrorOrigin)
deriving Repr, DecidableEq

/-- What a compilation reports while it runs. The first and the last event carry the
fingerprint of the whole condition. -/
inductive TraceEvent where
  | start (fingerprint : Fingerprint)
  | terminal (field : String) (operator : Operator) (outcome : TerminalOutcome)
  | history (field : String) (operator : Operator) (entities : Nat)
  | finish (fingerprint : Fingerprint) (outcome : CompileOutcome)
deriving Repr, DecidableEq

/-- One step of a compilation: it reports an event, or it puts a query to the index of
changes. -/
inductive Step where
  | event (event : TraceEvent)
  | search (query : Query)
deriving DecidableEq

/-- The course of a compilation and its end. -/
structure Run (α : Type) where
  steps : List Step
  result : Except CompileError α

namespace Run

/-- End with a value at once. -/
def done {α : Type} (value : α) : Run α :=
  { steps := [], result := .ok value }

/-- End with an error at once. -/
def fail {α : Type} (error : CompileError) : Run α :=
  { steps := [], result := .error error }

/-- Report an event. -/
def report (event : TraceEvent) : Run Unit :=
  { steps := [.event event], result := .ok () }

/-- Go on with the value of a run. After an error nothing more is done. -/
def andThen {α β : Type} (run : Run α) (next : α → Run β) : Run β :=
  match run.result with
  | .ok value =>
      let rest := next value
      { steps := run.steps ++ rest.steps, result := rest.result }
  | .error error => { steps := run.steps, result := .error error }

instance : Monad Run where
  pure := done
  bind := andThen

/-- The events that a run reported, in order. -/
def events {α : Type} (run : Run α) : List TraceEvent :=
  run.steps.filterMap fun
    | .event event => some event
    | .search _ => none

/-- The queries that a run put to the index of changes, in order. -/
def searches {α : Type} (run : Run α) : List Query :=
  run.steps.filterMap fun
    | .event _ => none
    | .search query => some query

end Run

end Criteria.Compile
