/-
Module: Criteria.Toml.Token
Purpose: The tokens of a TOML document.
Main exports:
  Token, tokens?
-/
import Criteria.Text.Digits

namespace Criteria.Toml

open Criteria.Text

/-- A token. An atom is a bare key or a value without quotes, or part of one. -/
inductive Token where
  | equals
  | comma
  | dot
  | openBracket
  | closeBracket
  | openBrace
  | closeBrace
  | blank (content : List Char)
  | newline
  | comment
  | text (content : List Char) (multiline : Bool)
  | atom (content : List Char)
deriving Repr, DecidableEq

/-- A control character other than the tab, which may not stand in texts and comments. -/
def isForbidden (c : Char) : Bool :=
  (c.toNat < 0x20 && c != '\t') || c.toNat == 0x7F

/-- A character that ends an atom. -/
def endsAtom (c : Char) : Bool :=
  ['.', '=', ',', '[', ']', '\x7b', '\x7d', '#', ' ', '\t', '\r', '\n'].contains c

/-- A space or a tab. -/
def isSpace (c : Char) : Bool :=
  c == ' ' || c == '\t'

/-- The value of a hexadecimal digit. -/
def hexDigit? (c : Char) : Option Nat :=
  if c.isDigit then some (c.toNat - 48)
  else if 'a' ≤ c ∧ c ≤ 'f' then some (c.toNat - 87)
  else if 'A' ≤ c ∧ c ≤ 'F' then some (c.toNat - 55)
  else none

/-- The character with a code point in hexadecimal digits, if it is one of Unicode's scalar
values. -/
def codePoint? (width : Nat) (text : List Char) : Option (Char × List Char) := do
  let digits ← (text.take width).mapM hexDigit?
  guard (digits.length = width)
  let code := digits.foldl (fun value digit => 16 * value + digit) 0
  if code.isValidChar then some (Char.ofNat code, text.drop width) else none

/-- The character that an escape stands for, read after its backslash. -/
def escape? : List Char → Option (Char × List Char)
  | 'b' :: rest => some ('\x08', rest)
  | 't' :: rest => some ('\t', rest)
  | 'n' :: rest => some ('\n', rest)
  | 'f' :: rest => some ('\x0c', rest)
  | 'r' :: rest => some ('\r', rest)
  | 'e' :: rest => some ('\x1b', rest)
  | '"' :: rest => some ('"', rest)
  | '\\' :: rest => some ('\\', rest)
  | 'x' :: rest => codePoint? 2 rest
  | 'u' :: rest => codePoint? 4 rest
  | 'U' :: rest => codePoint? 8 rest
  | _ => none

/-- Put a character in front of a text that was read. -/
def consRead (c : Char) (read : List Char × List Char) : List Char × List Char :=
  (c :: read.1, read.2)

/-- The rest of a text in double quotes on one line. -/
def basicText? : Nat → List Char → Option (List Char × List Char)
  | 0, _ => none
  | _ + 1, [] => none
  | _ + 1, '"' :: rest => some ([], rest)
  | fuel + 1, '\\' :: rest => do
      let (c, rest) ← escape? rest
      (basicText? fuel rest).map (consRead c)
  | fuel + 1, c :: rest =>
      if isForbidden c then none else (basicText? fuel rest).map (consRead c)

/-- The rest of a text in single quotes on one line. -/
def literalText? (text : List Char) : Option (List Char × List Char) :=
  let content := text.takeWhile (· != '\'')
  match text.dropWhile (· != '\'') with
  | [] => none
  | _ :: rest => if content.any isForbidden then none else some (content, rest)

/-- The line end at the start of a text is left out. -/
def dropLineEnd : List Char → List Char
  | '\n' :: rest => rest
  | '\r' :: '\n' :: rest => rest
  | text => text

/-- A text without the spaces, tabs and line ends at its start. -/
def dropBlankLines : List Char → List Char
  | '\r' :: '\n' :: rest => dropBlankLines rest
  | c :: rest => if isSpace c || c == '\n' then dropBlankLines rest else c :: rest
  | [] => []

/-- A line end follows, perhaps after spaces and tabs. -/
def lineEndFollows (text : List Char) : Bool :=
  match text.dropWhile isSpace with
  | '\n' :: _ => true
  | '\r' :: '\n' :: _ => true
  | _ => false

/-- The quotes beyond the three that close a text over several lines belong to the text, two
at most. -/
def quotesBefore (quote : Char) (rest : List Char) : List Char × List Char :=
  let extra := ((rest.take 2).takeWhile (· == quote)).length
  (List.replicate extra quote, rest.drop extra)

/-- The rest of a text over several lines. In double quotes a backslash at the end of a line
joins it with the next that is not empty. -/
def longText? (quote : Char) : Nat → List Char → Option (List Char × List Char)
  | 0, _ => none
  | fuel + 1, text =>
      match text with
      | [] => none
      | c :: rest =>
          if c == quote && rest.take 2 == [quote, quote] then
            some (quotesBefore quote (rest.drop 2))
          else if c == '\\' && quote == '"' then
            if lineEndFollows rest then
              longText? quote fuel (dropBlankLines rest)
            else do
              let (c, rest) ← escape? rest
              (longText? quote fuel rest).map (consRead c)
          else if c == '\n' then (longText? quote fuel rest).map (consRead '\n')
          else if c == '\r' then
            match rest with
            | '\n' :: rest => (longText? quote fuel rest).map (consRead '\n')
            | _ => none
          else if isForbidden c then none
          else (longText? quote fuel rest).map (consRead c)

/-- A text after its opening quote. -/
def quotedToken? (quote : Char) (text : List Char) : Option (Token × List Char) :=
  if text.take 2 == [quote, quote] then
    (longText? quote (text.length + 1) (dropLineEnd (text.drop 2))).map fun read =>
      (.text read.1 true, read.2)
  else
    let read := if quote == '"' then basicText? (text.length + 1) text else literalText? text
    read.map fun read => (.text read.1 false, read.2)

/-- The token at the start of a text that is not empty. -/
def nextToken? (c : Char) (rest : List Char) : Option (Token × List Char) :=
  match c with
  | '=' => some (.equals, rest)
  | ',' => some (.comma, rest)
  | '.' => some (.dot, rest)
  | '[' => some (.openBracket, rest)
  | ']' => some (.closeBracket, rest)
  | '\x7b' => some (.openBrace, rest)
  | '\x7d' => some (.closeBrace, rest)
  | '\n' => some (.newline, rest)
  | '\r' =>
      match rest with
      | '\n' :: rest => some (.newline, rest)
      | _ => none
  | ' ' | '\t' => some (.blank (c :: rest.takeWhile isSpace), rest.dropWhile isSpace)
  | '#' =>
      let content := rest.takeWhile fun c => c != '\n' && c != '\r'
      if content.any isForbidden then none else some (.comment, rest.drop content.length)
  | '"' | '\'' => quotedToken? c rest
  | _ =>
      let more := rest.takeWhile fun c => !endsAtom c
      some (.atom (c :: more), rest.drop more.length)

/-- Cut a text into tokens. The fuel bounds their number. -/
def tokensWithin? : Nat → List Char → Option (List Token)
  | _, [] => some []
  | 0, _ :: _ => none
  | fuel + 1, c :: rest => do
      let (token, rest) ← nextToken? c rest
      (tokensWithin? fuel rest).map (token :: ·)

/-- Cut a document into tokens. A byte order mark at its start is passed over. -/
def tokens? (text : String) : Option (List Token) :=
  let content :=
    match text.toList with
    | '\ufeff' :: rest => rest
    | content => content
  tokensWithin? content.length content

end Criteria.Toml
