/-
Module: Criteria.Toml.Document
Purpose: Reading a TOML document into the table at its root.
Main exports:
  document?
-/
import Criteria.Toml.Scalar

namespace Criteria.Toml

/-- The deepest nesting of arrays and tables in braces, and the most parts of a key. -/
def depthLimit : Nat := 80

/-- The tokens after spaces and tabs. -/
def skipBlank : List Token → List Token
  | .blank _ :: rest => rest
  | tokens => tokens

/-- The tokens after spaces, tabs, comments and line ends. -/
def skipLines (tokens : List Token) : List Token :=
  tokens.dropWhile fun
    | .blank _ | .newline | .comment => true
    | _ => false

/-- A character of a key without quotes. -/
def isBareKey (c : Char) : Bool :=
  c.isAlphanum || c == '_' || c == '-'

/-- One part of a key. -/
def keyPart? : List Token → Option (String × List Token)
  | .atom content :: rest =>
      if content.all isBareKey then some (String.ofList content, rest) else none
  | .text content false :: rest => some (String.ofList content, rest)
  | _ => none

/-- Parts of a key with dots between them, at most so many, and the blanks after them. -/
def keyWithin? : Nat → List Token → Option (List String × List Token)
  | 0, _ => none
  | limit + 1, tokens => do
      let (part, rest) ← keyPart? tokens
      match skipBlank rest with
      | .dot :: rest => do
          let (parts, rest) ← keyWithin? limit (skipBlank rest)
          return (part :: parts, rest)
      | rest => return ([part], rest)

/-- A key: it has at most as many parts as arrays and tables may be nested. -/
def key? (tokens : List Token) : Option (List String × List Token) :=
  keyWithin? depthLimit tokens

/-- Add a value under a dotted key. -/
def insertDotted? (key : List String) (value : Item) (kind : TableKind) (entries : Entries) :
    Option Entries := do
  insertKey? key.dropLast (← key.getLast?) value kind entries

mutual

/-- A value. The depth counts how many more arrays and tables may be opened. -/
def value? : Nat → Nat → List Token → Option (Item × List Token)
  | 0, _, _ => none
  | fuel + 1, depth, tokens =>
      match tokens, depth with
      | .openBracket :: rest, depth + 1 =>
          (items? fuel depth rest).map fun read => (.array read.1, read.2)
      | .openBrace :: rest, depth + 1 =>
          (members? fuel depth [] rest).map fun read => (.table .inline read.1, read.2)
      | .openBracket :: _, 0 | .openBrace :: _, 0 => none
      | .text content _ :: rest, _ => some (.text (String.ofList content), rest)
      | tokens, _ => unquoted? tokens

/-- The rest of an array. -/
def items? : Nat → Nat → List Token → Option (List Item × List Token)
  | 0, _, _ => none
  | fuel + 1, depth, tokens =>
      match skipLines tokens with
      | .closeBracket :: rest => some ([], rest)
      | tokens => do
          let (item, rest) ← value? fuel depth tokens
          match skipLines rest with
          | .comma :: rest => do
              let (items, rest) ← items? fuel depth rest
              return (item :: items, rest)
          | .closeBracket :: rest => return ([item], rest)
          | _ => none

/-- The rest of a table in braces, after the entries read so far. Lines may end anywhere but
inside a key. -/
def members? : Nat → Nat → Entries → List Token → Option (Entries × List Token)
  | 0, _, _, _ => none
  | fuel + 1, depth, entries, tokens =>
      match skipLines tokens with
      | .closeBrace :: rest => some (entries, rest)
      | tokens => do
          let (key, rest) ← key? tokens
          match skipLines rest with
          | .equals :: rest => do
              let (value, rest) ← value? fuel depth (skipLines rest)
              let entries ← insertDotted? key value .inline entries
              match skipLines rest with
              | .comma :: rest => members? fuel depth entries rest
              | .closeBrace :: rest => return (entries, rest)
              | _ => none
          | _ => none

end

/-- What one line of a document says. -/
inductive Line where
  | nothing
  | entry (key : List String) (value : Item)
  | table (path : List String)
  | arrayTable (path : List String)

/-- A line up to what follows its content. -/
def line? (tokens : List Token) : Option (Line × List Token) :=
  match skipBlank tokens with
  | .openBracket :: .openBracket :: rest => do
      let (path, rest) ← key? (skipBlank rest)
      match rest with
      | .closeBracket :: .closeBracket :: rest => return (.arrayTable path, rest)
      | _ => none
  | .openBracket :: rest => do
      let (path, rest) ← key? (skipBlank rest)
      match rest with
      | .closeBracket :: rest => return (.table path, rest)
      | _ => none
  | [] => some (.nothing, [])
  | .newline :: rest => some (.nothing, .newline :: rest)
  | .comment :: rest => some (.nothing, .comment :: rest)
  | tokens => do
      let (key, rest) ← key? tokens
      match rest with
      | .equals :: rest => do
          let (value, rest) ← value? (2 * rest.length + 2) depthLimit (skipBlank rest)
          return (.entry key value, rest)
      | _ => none

/-- The tokens after the end of a line, which may have a comment. -/
def endLine? (tokens : List Token) : Option (List Token) :=
  let afterComment :=
    match skipBlank tokens with
    | .comment :: rest => rest
    | tokens => tokens
  match afterComment with
  | [] => some []
  | .newline :: rest => some rest
  | _ => none

/-- Take a line into a document: the path of the last header, and the table at the root. -/
def takeLine? (state : List String × Entries) : Line → Option (List String × Entries)
  | .nothing => some state
  | .entry key value => do
      let (path, root) := state
      let root ← changeAt? false (insertDotted? key value) path .header root
      return (path, root)
  | .table path => do
      let root ← openTable? path.dropLast (← path.getLast?) state.2
      return (path, root)
  | .arrayTable path => do
      let root ← addTable? path.dropLast (← path.getLast?) state.2
      return (path, root)

/-- Read lines into a document until the tokens end. -/
def lines? : Nat → List String × Entries → List Token → Option Entries
  | _, state, [] => some state.2
  | 0, _, _ :: _ => none
  | fuel + 1, state, tokens => do
      let (line, rest) ← line? tokens
      let state ← takeLine? state line
      lines? fuel state (← endLine? rest)

/-- Read a document into the table at its root. -/
def document? (text : String) : Option Entries := do
  let tokens ← tokens? text
  lines? tokens.length ([], []) tokens

end Criteria.Toml
