/-
Module: Criteria.Changes.Record
Purpose: The record of past changes as documents of an index of its own.
Main exports:
  Change, Change.document, BackendError, ChangeIndex, storeIndex
-/
import Criteria.Resolution.Context
import Criteria.Search.Store

namespace Criteria.Changes

open Criteria.Calendar
open Criteria.Search

/-- The field of a change document that names the field that changed. -/
def changedField : String := "ch_field"

/-- The field of a change document that holds the old value. -/
def oldValueField : String := "ch_from"

/-- The field of a change document that holds the new value. -/
def newValueField : String := "ch_to"

/-- The field of a change document that tells who made the change. -/
def actorField : String := "ch_who"

/-- The field of a change document that tells when it was made. -/
def dateField : String := "ch_date"

/-- The field of a change document that tells what changed. -/
def entityField : String := "ch_entity"

/-- One change of one field of one entity. Values are in their indexed form, and a missing
one means that the field was empty. -/
structure Change where
  entity : String
  field : String
  oldValue : Option String
  newValue : Option String
  actor : String
  moment : Instant
deriving Repr, DecidableEq

namespace Change

/-- The indexed term of the old value. -/
def oldTerm (change : Change) : String :=
  change.oldValue.getD emptyTerm

/-- The indexed term of the new value. -/
def newTerm (change : Change) : String :=
  change.newValue.getD emptyTerm

/-- The document of a change. None of its fields is listed as visible. -/
def document (change : Change) (id : String) (dates : DateSupport) : Document :=
  ((((((Document.empty id).withTerm entityField change.entity).withTerm
    changedField change.field).withTerm
    oldValueField change.oldTerm).withTerm
    newValueField change.newTerm).withTerm
    actorField change.actor).withTerm
    dateField (dates.indexForm change.moment)

end Change

/-- Whose fault an error of a collaborator is. -/
inductive ErrorClass where
  | internal
  | unsupported
deriving Repr, DecidableEq

/-- The collaborator that an error comes from. -/
inductive ErrorOrigin where
  | history
  | index
deriving Repr, DecidableEq

/-- The class as it is written in a message. -/
def ErrorClass.text : ErrorClass → String
  | .internal => "internal"
  | .unsupported => "unsupported"

/-- The origin as it is written in a message. -/
def ErrorOrigin.text : ErrorOrigin → String
  | .history => "history"
  | .index => "index"

/-- An error of a collaborator, which a search passes on unchanged. -/
structure BackendError where
  errorClass : ErrorClass
  origin : ErrorOrigin
  message : String
deriving Repr, DecidableEq

namespace BackendError

/-- The message together with origin and class. -/
def fullMessage (error : BackendError) : String :=
  error.origin.text ++ ":" ++ error.errorClass.text ++ ": " ++ error.message

/-- An error inside the record of changes. -/
def historyInternal (message : String) : BackendError :=
  ⟨.internal, .history, message⟩

/-- An error inside the index. -/
def indexInternal (message : String) : BackendError :=
  ⟨.internal, .index, message⟩

/-- Something that the index cannot do. -/
def indexUnsupported (message : String) : BackendError :=
  ⟨.unsupported, .index, message⟩

end BackendError

/-- An index of change documents: the entities of the changes that match a query. -/
abbrev ChangeIndex := Query → Except BackendError IdSet

/-- A store of change documents as an index of changes. A query may not name identifiers,
since those of change documents mean nothing outside. -/
def storeIndex (store : Store) : ChangeIndex := fun query =>
  if query.namesIds then
    .error (.indexUnsupported "change-history search cannot filter on entity ids")
  else
    .ok (.ofList ((store.search query).toList.flatMap fun id =>
      match store.get? id with
      | some document => document.terms entityField
      | none => []))

end Criteria.Changes
