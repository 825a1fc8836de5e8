/-
Module: Criteria.Text.Lowercase
Purpose: Lower-casing of whole texts, by the full Unicode mapping with its one rule that
  looks at the neighbouring letters, and the plain ASCII folding of function names.
Main exports:
  lowercase, lowercaseChars, lowerLetter, asciiLowercase
-/
import Criteria.Text.CaseTable

namespace Criteria.Text

/-- A letter in upper, lower or title case that is not case-ignorable. -/
def isCased (c : Char) : Bool :=
  inRanges casedRanges c.toNat

/-- A mark or modifier that is passed over when looking for the end of a word. -/
def isCaseIgnorable (c : Char) : Bool :=
  inRanges caseIgnorableRanges c.toNat

/-- The first character that is not case-ignorable is a cased letter. -/
def meetsLetter (neighbours : List Char) : Bool :=
  match neighbours.dropWhile isCaseIgnorable with
  | [] => false
  | c :: _ => isCased c

/-- The lower-case form of one character on its own. Only the dotted capital I needs two
characters. -/
def lowerLetter (c : Char) : List Char :=
  if c = 'İ' then ['i', '\u0307']
  else
    match lowerRuns.find? fun run => run.contains c.toNat with
    | some run => [Char.ofNat (c.toNat + run.shift).toNat]
    | none => [c]

/-- A capital sigma that ends its word takes the final form: a letter stands before it and
none stands after it. The characters before it are given nearest first. -/
def lowerSigma (before after : List Char) : Char :=
  if meetsLetter before && !meetsLetter after then 'ς' else 'σ'

/-- Lower-case the rest of a text, given what stands before it, nearest first. -/
def lowercaseAfter (before : List Char) : List Char → List Char
  | [] => []
  | c :: rest =>
      (if c = 'Σ' then [lowerSigma before rest] else lowerLetter c) ++
        lowercaseAfter (c :: before) rest

/-- The lower-case form of a sequence of characters. -/
def lowercaseChars (text : List Char) : List Char :=
  lowercaseAfter [] text

/-- The lower-case form of a text. -/
def lowercase (text : String) : String :=
  String.ofList (lowercaseChars text.toList)

/-- Fold the letters A to Z only. -/
def asciiLowercase (text : String) : String :=
  String.ofList (text.toList.map Char.toLower)

/-- A sigma after a letter is final at the end of the text and not before another letter. -/
theorem lowercase_sigma :
    lowercaseChars ['Α', 'Σ'] = ['α', 'ς'] ∧ lowercaseChars ['Σ', 'Α'] = ['σ', 'α'] := by
  decide +kernel

end Criteria.Text
