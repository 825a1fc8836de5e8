/-
Module: Criteria.Text.Quoted
Purpose: Quoted texts in which every character can be seen.
Main exports:
  quotedText, quotedList
-/
import Criteria.Text.CaseTable
import Criteria.Text.Invisible

namespace Criteria.Text

/-- A character as it stands in a quoted text. Quotes and backslashes have a backslash before
them, and an invisible character is written by its code point. -/
def quotedChar (c : Char) : List Char :=
  if c = '"' then ['\\', '"']
  else if c = '\\' then ['\\', '\\']
  else if c = '\t' then ['\\', 't']
  else if c = '\n' then ['\\', 'n']
  else if c = '\r' then ['\\', 'r']
  else if c = '\x00' then ['\\', '0']
  else if inRanges invisibleRanges c.toNat then
    ['\\', 'u', '\x7b'] ++ Nat.toDigits 16 c.toNat ++ ['\x7d']
  else [c]

/-- A text in double quotes. -/
def quotedText (text : String) : String :=
  "\"" ++ String.ofList (text.toList.flatMap quotedChar) ++ "\""

/-- Several texts in double quotes, with commas between them. -/
def quotedList (texts : List String) : String :=
  String.intercalate ", " (texts.map quotedText)

end Criteria.Text
