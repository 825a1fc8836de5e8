/-
Module: Criteria.Toml.Item
Purpose: The values of a TOML document, and adding keys and tables to them.
Main exports:
  TableKind, Item, Entries, insertKey?, openTable?, addTable?
-/

namespace Criteria.Toml

/-- How a table came to be: by a header of its own, by a longer header, by a dotted key, or
in braces. -/
inductive TableKind where
  | header
  | implied
  | dotted
  | inline
deriving Repr, DecidableEq

/-- A value. Of numbers with a fraction and of dates only the kind is kept; a garbled value is
an integer that its digits do not spell. An array that headers add tables to has the latest
of them first. -/
inductive Item where
  | text (content : String)
  | integer (n : Int)
  | garbled
  | boolean (content : Bool)
  | real
  | moment
  | array (items : List Item)
  | table (kind : TableKind) (entries : List (String × Item))
  | tables (latestFirst : List (List (String × Item)))
deriving Repr

/-- The keys of a table with their values, in order. -/
abbrev Entries := List (String × Item)

/-- Put a new value in place of the one under a key. -/
def replace (entries : Entries) (key : String) (value : Item) : Entries :=
  entries.map fun entry => if entry.1 = key then (key, value) else entry

/-- Change the table at the end of a path. Tables that are missing on the way are made. A
dotted key may not reach into a table that has a header, and makes the tables on its way its
own; nothing may reach into a table in braces. -/
def changeAt? (dotted : Bool) (change : TableKind → Entries → Option Entries) :
    List String → TableKind → Entries → Option Entries
  | [], kind, entries => change kind entries
  | key :: path, _, entries =>
      match entries.lookup key with
      | none => do
          let kind : TableKind := if dotted then .dotted else .implied
          let inner ← changeAt? dotted change path kind []
          return entries ++ [(key, .table kind inner)]
      | some (.table kind inner) =>
          if kind = .inline ∨ (dotted ∧ kind = .header) then none
          else do
            let kind := if dotted then .dotted else kind
            let inner ← changeAt? dotted change path kind inner
            return replace entries key (.table kind inner)
      | some (.tables (latest :: earlier)) => do
          let latest ← changeAt? dotted change path .header latest
          return replace entries key (.tables (latest :: earlier))
      | some _ => none

/-- Add a value under a dotted key. A key may stand only once in a table, and a table made
by dotted keys takes nothing but dotted keys. -/
def insertKey? (path : List String) (key : String) (value : Item) (kind : TableKind)
    (entries : Entries) : Option Entries :=
  let add := fun (kind : TableKind) (entries : Entries) =>
    if (kind = .dotted ↔ path.isEmpty) ∨ (entries.lookup key).isSome then none
    else some (entries ++ [(key, value)])
  changeAt? (!path.isEmpty) add path kind entries

/-- Open a table by a header. It may have been implied by a longer header, but not opened
before. -/
def openTable? (path : List String) (key : String) (root : Entries) : Option Entries :=
  let add := fun (_ : TableKind) (entries : Entries) =>
    match entries.lookup key with
    | none => some (entries ++ [(key, .table .header [])])
    | some (.table .implied inner) => some (replace entries key (.table .header inner))
    | some _ => none
  changeAt? false add path .header root

/-- Add a table to an array of tables by a header. -/
def addTable? (path : List String) (key : String) (root : Entries) : Option Entries :=
  let add := fun (_ : TableKind) (entries : Entries) =>
    match entries.lookup key with
    | none => some (entries ++ [(key, .tables [[]])])
    | some (.tables tables) => some (replace entries key (.tables ([] :: tables)))
    | some _ => none
  changeAt? false add path .header root

end Criteria.Toml
