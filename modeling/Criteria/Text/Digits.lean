/-
Module: Criteria.Text.Digits
Purpose: Writing numbers in decimal, plainly or in a fixed width, and reading them back.
Main exports:
  fixedWidth, decimal, signedDecimal, natural?, unsigned?, signed?, signedWithin?
-/

namespace Criteria.Text

/-- The last digits of a number, as many as the width says. -/
def fixedWidth : Nat → Nat → List Char
  | 0, _ => []
  | width + 1, n => fixedWidth width (n / 10) ++ [Nat.digitChar (n % 10)]

@[simp] theorem length_fixedWidth (width n : Nat) : (fixedWidth width n).length = width := by
  induction width generalizing n with
  | zero => rfl
  | succ width ih => simp [fixedWidth, ih]

/-- The digits of a number without leading zeros. -/
def decimal (n : Nat) : List Char :=
  Nat.toDigits 10 n

/-- The digits of a number, filled up with zeros to at least the width. -/
def paddedDecimal (width n : Nat) : List Char :=
  let digits := decimal n
  List.replicate (width - digits.length) '0' ++ digits

/-- The digits of an integer, after a minus sign if it is negative. -/
def signedDecimal (n : Int) : List Char :=
  if n < 0 then '-' :: decimal n.natAbs else decimal n.natAbs

/-- The value of a digit 0 to 9. -/
def digitValue (c : Char) : Nat :=
  c.toNat - '0'.toNat

/-- The value of a sequence of digits, most significant first. -/
def digitsValue (digits : List Char) : Nat :=
  digits.foldl (fun value c => 10 * value + digitValue c) 0

/-- Read one or more digits 0 to 9 and nothing else. -/
def natural? (text : List Char) : Option Nat :=
  if !text.isEmpty && text.all Char.isDigit then some (digitsValue text) else none

/-- Read a natural number that may carry one plus sign. -/
def unsigned? : List Char → Option Nat
  | '+' :: digits => natural? digits
  | text => natural? text

/-- Read an integer that may carry one sign. -/
def signed? : List Char → Option Int
  | '-' :: digits => (natural? digits).map fun n => -(n : Int)
  | text => (unsigned? text).map fun n => (n : Int)

/-- Read an integer and refuse it outside the closed range. -/
def signedWithin? (least greatest : Int) (text : List Char) : Option Int :=
  (signed? text).filter fun n => least ≤ n && n ≤ greatest

/-- Read a natural number and refuse it above the limit. -/
def unsignedUpTo? (greatest : Nat) (text : List Char) : Option Nat :=
  (unsigned? text).filter fun n => n ≤ greatest

end Criteria.Text
