/-
Module: Criteria.Search.Store
Purpose: An inverted index in memory: documents come and go, and queries find the documents
  that hold certain terms.
Main exports:
  Store, Store.insert, Store.take, Store.remove, Store.get?, Store.size, Store.search
-/
import Criteria.Search.Document

namespace Criteria.Search

/-- For every field and every term, the documents that hold the term in the field. -/
abbrev Postings := Std.ExtTreeMap String (Std.ExtTreeMap String IdSet)

namespace Postings

/-- The documents that hold a term in a field. -/
def find (postings : Postings) (field term : String) : IdSet :=
  ((postings[field]?.getD ∅)[term]?).getD ∅

/-- Note that a document holds a term in a field. -/
def post (postings : Postings) (id field term : String) : Postings :=
  let terms := postings[field]?.getD ∅
  postings.insert field (terms.insert term ((terms[term]?.getD ∅).insert id))

/-- Forget that a document holds a term in a field. A term that no document holds any longer
is dropped. -/
def unpost (postings : Postings) (id field term : String) : Postings :=
  let terms := postings[field]?.getD ∅
  let ids := (terms[term]?.getD ∅).erase id
  postings.insert field (if ids.isEmpty then terms.erase term else terms.insert term ids)

end Postings

/-- Documents by identifier, and the postings of their terms. -/
structure Store where
  documents : Std.ExtTreeMap String Document
  postings : Postings

namespace Store

/-- The store without documents. -/
def empty : Store :=
  { documents := ∅, postings := ∅ }

/-- The document with an identifier. -/
def get? (store : Store) (id : String) : Option Document :=
  store.documents[id]?

/-- The number of documents. -/
def size (store : Store) : Nat :=
  store.documents.size

/-- Take a document out of the store, together with its postings. -/
def take (store : Store) (id : String) : Option Document × Store :=
  match store.get? id with
  | none => (none, store)
  | some document =>
      (some document,
        { documents := store.documents.erase id
          postings := document.entries.foldl
            (fun postings entry => postings.unpost id entry.1 entry.2) store.postings })

/-- The store without a document. -/
def remove (store : Store) (id : String) : Store :=
  (store.take id).2

/-- Put a document into the store, in place of one with the same identifier. -/
def insert (store : Store) (document : Document) : Store :=
  let cleared := store.remove document.id
  { documents := cleared.documents.insert document.id document
    postings := document.entries.foldl
      (fun postings entry => postings.post document.id entry.1 entry.2) cleared.postings }

/-- A term lies within the bounds of a range. -/
def inBounds (lower upper : Bound) (term : String) : Bool :=
  let above :=
    match lower with
    | .unbounded => true
    | .included bound => decide (bound ≤ term)
    | .excluded bound => decide (bound < term)
  let below :=
    match upper with
    | .unbounded => true
    | .included bound => decide (term ≤ bound)
    | .excluded bound => decide (term < bound)
  above && below

/-- The documents that hold, in a field, some term that is wanted. -/
def holding (store : Store) (field : String) (wanted : String → Bool) : IdSet :=
  ((store.postings[field]?.getD ∅).toList.filter fun entry => wanted entry.1).foldl
    (fun found entry => found ∪ entry.2) ∅

/-- Put the matches of the clauses of a group together. Requirements are intersected;
alternatives count only where nothing is required; exclusions are taken away from what the
others found. -/
def combine (matched : List (Occur × IdSet)) : IdSet :=
  let sets := fun occur : Occur => (matched.filter fun entry => entry.1 == occur).map (·.2)
  let positive :=
    match sets .must with
    | first :: others => others.foldl (· ∩ ·) first
    | [] => (sets .should).foldl (· ∪ ·) ∅
  (sets .mustNot).foldl (· \ ·) positive

mutual

/-- The documents that match a query. -/
def search (store : Store) : Query → IdSet
  | .all => .ofList store.documents.keys
  | .nothing => ∅
  | .term field value => store.postings.find field value
  | .range field lower upper => store.holding field (inBounds lower upper)
  | .startsWith field beginning =>
      store.holding field fun term => beginning.toList.isPrefixOf term.toList
  | .group clauses => combine (store.searchClauses clauses)
  | .ids members => members.filter fun id => store.documents.contains id

/-- The documents that match each clause of a group. -/
def searchClauses (store : Store) : List (Occur × Query) → List (Occur × IdSet)
  | [] => []
  | (occur, query) :: clauses => (occur, store.search query) :: store.searchClauses clauses

end

end Store

end Criteria.Search
