/-
Module: Criteria.Failure
Purpose: The one form in which every error reaches a caller: its kind, where it comes from,
  and its wording. Also compiling a condition straight from the assembler.
Main exports:
  Failure, Failure.toJson, Failure.ofJson?, compileAssembled
-/
import Criteria.Json
import Criteria.Settings

namespace Criteria

open Criteria.Assembly
open Criteria.Changes
open Criteria.Compile
open Criteria.Search

/-- What a caller can do about an error: mend the calls or their arguments, narrow the
condition, mend the settings, or nothing. -/
inductive FailureKind where
  | illegalState
  | argument
  | tooComplex
  | config
  | unsupported
  | internal
deriving Repr, DecidableEq

/-- The part of the library that an error comes from. -/
inductive FailureOrigin where
  | builder
  | compile
  | config
  | history
  | index
deriving Repr, DecidableEq

/-- An error as a caller sees it. -/
structure Failure where
  kind : FailureKind
  origin : FailureOrigin
  message : String
deriving Repr, DecidableEq

/-- The name of an origin. -/
def FailureOrigin.text : FailureOrigin → String
  | .builder => "Builder"
  | .compile => "Compile"
  | .config => "Config"
  | .history => "History"
  | .index => "Index"

namespace Failure

/-- A refused call. -/
def ofRefusal (refusal : Refusal) : Failure :=
  let kind : FailureKind :=
    match refusal with
    | .argument _ => .argument
    | .illegalState _ _ => .illegalState
  { kind, origin := .builder, message := refusal.message }

/-- An error of a collaborator. -/
def ofBackend (error : BackendError) : Failure :=
  let kind : FailureKind :=
    match error.errorClass with
    | .internal => .internal
    | .unsupported => .unsupported
  let origin : FailureOrigin :=
    match error.origin with
    | .history => .history
    | .index => .index
  { kind, origin, message := error.message }

/-- A condition that was not compiled. -/
def ofCompile (error : CompileError) : Failure :=
  match error with
  | .tooComplex _ _ _ => { kind := .tooComplex, origin := .compile, message := error.message }
  | .backend error => ofBackend error

/-- Settings that could not be read. -/
def ofSettings (error : SettingsError) : Failure :=
  { kind := .config, origin := .config, message := error.message }

/-- The serialized form of a kind. What concerns conditions and their compilation stands
under a name of its own. -/
def kindToJson : FailureKind → Json
  | .illegalState => .tagged "Condition" (.text "IllegalState")
  | .argument => .tagged "Condition" (.text "Argument")
  | .tooComplex => .tagged "Compile" (.text "TooComplex")
  | .config => .text "Config"
  | .unsupported => .text "Unsupported"
  | .internal => .text "Internal"

/-- The serialized form: kind, origin and message. -/
def toJson (failure : Failure) : Json :=
  .object
    [("kind", kindToJson failure.kind), ("origin", .text failure.origin.text),
      ("message", .text failure.message)]

/-- The name of an alternative without content: a text, or an object whose only member is
null. -/
def plainName? : Json → Option String
  | .text name => some name
  | .object [(name, .null)] => some name
  | _ => none

/-- Read an origin. -/
def originOfJson? (json : Json) : Option FailureOrigin := do
  let name ← plainName? json
  [FailureOrigin.builder, .compile, .config, .history, .index].find? fun origin =>
    origin.text == name

/-- Read a kind without content. -/
def plainKind? (json : Json) : Option FailureKind :=
  match plainName? json with
  | some "Config" => some .config
  | some "Unsupported" => some .unsupported
  | some "Internal" => some .internal
  | _ => none

/-- Read a kind. -/
def kindOfJson? (json : Json) : Option FailureKind :=
  match json with
  | .object [("Condition", content)] =>
      match plainName? content with
      | some "IllegalState" => some .illegalState
      | some "Argument" => some .argument
      | _ => none
  | .object [("Compile", content)] =>
      match plainName? content with
      | some "TooComplex" => some .tooComplex
      | _ => none
  | json => plainKind? json

/-- Read the three parts of a failure. -/
def ofParts? (kind origin message : Json) : Option Failure := do
  let kind ← kindOfJson? kind
  let origin ← originOfJson? origin
  match message with
  | .text message => return { kind, origin, message }
  | _ => none

/-- Read the serialized form: an object, whose other members are passed over, or the three
parts in a list. -/
def ofJson? : Json → Option Failure
  | .object members => do
      ofParts? (← members.lookup "kind") (← members.lookup "origin")
        (← members.lookup "message")
  | .list [kind, origin, message] => ofParts? kind origin message
  | _ => none

end Failure

/-- Compile the condition that an assembler holds. If nothing was added to it there is
neither a query nor a step. -/
def compileAssembled (compiler : Compiler) (context : SearchContext) (assembler : Assembler) :
    List Step × Except Failure (Option Query) :=
  match assembler.build? with
  | .error refusal => ([], .error (.ofRefusal refusal))
  | .ok none => ([], .ok none)
  | .ok (some clause) =>
      let run := compiler.compile context clause
      (run.steps, (run.result.map some).mapError .ofCompile)

end Criteria
