/-
Module: Criteria.Search.Document
Purpose: Documents as an index sees them: terms by field, and the list of visible fields.
Main exports:
  Document, Document.withTerm, Document.withField, Document.withEmpty, Document.withText,
  Document.terms, Document.entries
-/
import Std.Data.ExtTreeMap
import Criteria.Search.Query
import Criteria.Text.Blank
import Criteria.Text.Lowercase

namespace Criteria.Search

open Criteria.Text

/-- A document: its identifier, and for every field the terms it holds, in the order in which
they were added. -/
structure Document where
  id : String
  fields : Std.ExtTreeMap String (List String)
deriving DecidableEq

namespace Document

/-- A document without fields. -/
def empty (id : String) : Document :=
  { id, fields := ∅ }

/-- The terms of a field. -/
def terms (document : Document) (field : String) : List String :=
  (document.fields[field]?).getD []

/-- All terms with their fields. -/
def entries (document : Document) : List (String × String) :=
  document.fields.toList.flatMap fun entry => entry.2.map fun term => (entry.1, term)

/-- Add a term to a field. -/
def withTerm (document : Document) (field term : String) : Document :=
  { document with fields := document.fields.insert field (document.terms field ++ [term]) }

/-- List a field as visible, once. -/
def showing (document : Document) (field : String) : Document :=
  if (document.terms visibleFields).contains field then document
  else document.withTerm visibleFields field

/-- Add a term to a visible field. -/
def withField (document : Document) (field term : String) : Document :=
  (document.showing field).withTerm field term

/-- Say of a visible field that it has no value. -/
def withEmpty (document : Document) (field : String) : Document :=
  document.withField field emptyTerm

/-- Add the words of a text, lower-cased, to a visible field. -/
def withText (document : Document) (field text : String) : Document :=
  (words text).foldl (fun document word => document.withTerm field (lowercase word))
    (document.showing field)

end Document

end Criteria.Search
