/-
Module: Criteria.Proofs.Resolution.NumberOrder
Purpose: The terms of numbers sort as the numbers do, so that ranges of terms are ranges of numbers,
  and all before the term of a field without a value.
Main exports:
  numberTerm_lt_iff, numberTerm_le_iff, numberTerm_inj, numberTerm_lt_emptyTerm, signFlipped,
  NumberBound, inBounds_numberTerm_iff, number_terms_sort_by_value
-/
import Criteria.Proofs.Search.Scan
import Criteria.Proofs.Text.DigitOrder
import Criteria.Resolution.Terms

namespace Criteria

open Criteria.Search
open Criteria.Text

/-- The number of smaller numbers of 64 bits. -/
def numberRank (n : Int64) : Nat :=
  (n.toInt + 9223372036854775808).toNat

theorem numberTerm_eq (n : Int64) :
    numberTerm n = String.ofList (fixedWidth 20 (numberRank n)) :=
  rfl

theorem numberRank_lt (n : Int64) : numberRank n < 10 ^ 20 := by
  have above := n.toInt_lt
  unfold numberRank
  omega

theorem numberRank_lt_iff (first second : Int64) :
    numberRank first < numberRank second ↔ first < second := by
  have firstBelow := first.le_toInt
  have secondBelow := second.le_toInt
  rw [Int64.lt_iff_toInt_lt]
  unfold numberRank
  omega

theorem numberTerm_lt_iff (first second : Int64) :
    numberTerm first < numberTerm second ↔ first < second := by
  rw [numberTerm_eq, numberTerm_eq, String.lt_iff, String.toList_ofList, String.toList_ofList,
    fixedWidth_lt_iff (numberRank_lt first) (numberRank_lt second), numberRank_lt_iff]

theorem numberTerm_le_iff (first second : Int64) :
    numberTerm first ≤ numberTerm second ↔ first ≤ second := by
  rw [← String.not_lt, numberTerm_lt_iff, Int64.not_lt]

theorem numberTerm_inj {first second : Int64} :
    numberTerm first = numberTerm second ↔ first = second := by
  constructor
  · intro same
    have forth : ¬ second < first := by
      rw [← numberTerm_lt_iff, same]
      exact String.lt_irrefl _
    have back : ¬ first < second := by
      rw [← numberTerm_lt_iff, same]
      exact String.lt_irrefl _
    exact Int64.le_antisymm (Int64.not_lt.mp forth) (Int64.not_lt.mp back)
  · intro same
    rw [same]

/-- The term of a field without a value begins with a character that comes after all digits. -/
theorem numberTerm_lt_emptyTerm (n : Int64) : numberTerm n < emptyTerm := by
  have marker : emptyTerm.toList = '<' :: "empty>".toList := rfl
  obtain ⟨first, others, written, isDigit⟩ := exists_digit_of_fixedWidth 19 (numberRank n)
  rw [numberTerm_eq, String.lt_iff, String.toList_ofList, marker, written]
  exact List.cons_lt_cons_iff.mpr (.inl (lt_of_isDigit_of_lt isDigit (by decide)))

theorem numberTerm_le_emptyTerm (n : Int64) : numberTerm n ≤ emptyTerm :=
  String.not_lt.mp (String.lt_asymm (numberTerm_lt_emptyTerm n))

theorem not_emptyTerm_lt_numberTerm (n : Int64) : ¬ emptyTerm < numberTerm n :=
  String.lt_asymm (numberTerm_lt_emptyTerm n)

theorem not_emptyTerm_le_numberTerm (n : Int64) : ¬ emptyTerm ≤ numberTerm n :=
  fun below => String.not_lt.mpr below (numberTerm_lt_emptyTerm n)

/-! ### The word behind a term -/

/-- The 64 bits of a number in two's complement, with the sign bit turned over. -/
def signFlipped (n : Int64) : UInt64 :=
  n.toUInt64 ^^^ (1 : UInt64) <<< (63 : UInt64)

/-- Turning the highest bit of a word over adds its value where the bit was clear and takes it away
where it was set. -/
theorem xor_highBit {word : Nat} (fits : word < 2 ^ 64) :
    word ^^^ 2 ^ 63 = if word < 2 ^ 63 then word + 2 ^ 63 else word - 2 ^ 63 := by
  have quotient : (word ^^^ 2 ^ 63) / 2 ^ 63 = word / 2 ^ 63 ^^^ 1 := by
    rw [Nat.xor_div_two_pow, Nat.div_self (by decide)]
  have remainder : (word ^^^ 2 ^ 63) % 2 ^ 63 = word % 2 ^ 63 := by
    rw [Nat.xor_mod_two_pow, Nat.mod_self, Nat.xor_zero]
  split
  · next clear =>
      rw [Nat.div_eq_of_lt clear] at quotient
      have high : 0 ^^^ 1 = 1 := rfl
      omega
  · next isSet =>
      have one : word / 2 ^ 63 = 1 := by omega
      rw [one] at quotient
      have low : 1 ^^^ 1 = 0 := rfl
      omega

/-- Turning the sign over moves all numbers up, so that none is negative. -/
theorem toNat_signFlipped (n : Int64) : (signFlipped n).toNat = numberRank n := by
  have fits : n.toUInt64.toNat < 2 ^ 64 := n.toUInt64.toNat_lt
  have value : n.toInt = if 2 * n.toUInt64.toNat < 2 ^ 64 then (n.toUInt64.toNat : Int)
      else (n.toUInt64.toNat : Int) - (2 ^ 64 : Nat) :=
    BitVec.toInt_eq_toNat_cond n.toBitVec
  have highBit : ((1 : UInt64) <<< (63 : UInt64)).toNat = 2 ^ 63 := rfl
  unfold signFlipped numberRank
  rw [UInt64.toNat_xor, highBit, xor_highBit fits, value]
  split <;> split <;> omega

/-- The term of a number is this word in decimal, filled up with zeros. -/
theorem numberTerm_eq_paddedDecimal (n : Int64) :
    numberTerm n = String.ofList (paddedDecimal 20 (signFlipped n).toNat) := by
  rw [numberTerm_eq, toNat_signFlipped, paddedDecimal_eq_fixedWidth (numberRank_lt n)]

/-! ### Ranges of numbers -/

/-- One end of a range of numbers. -/
inductive NumberBound where
  | unbounded
  | included (n : Int64)
  | excluded (n : Int64)
deriving Repr, DecidableEq

namespace NumberBound

/-- The end of the range of terms. -/
def ofTerms : NumberBound → Bound
  | .unbounded => .unbounded
  | .included n => .included (numberTerm n)
  | .excluded n => .excluded (numberTerm n)

/-- As a lower end, the bound lets a number in. -/
def AdmitsAbove : NumberBound → Int64 → Prop
  | .unbounded, _ => True
  | .included least, n => least ≤ n
  | .excluded least, n => least < n

/-- As an upper end, the bound lets a number in. -/
def AdmitsBelow : NumberBound → Int64 → Prop
  | .unbounded, _ => True
  | .included greatest, n => n ≤ greatest
  | .excluded greatest, n => n < greatest

theorem admitsAbove_ofTerms_iff (bound : NumberBound) (n : Int64) :
    bound.ofTerms.AdmitsAbove (numberTerm n) ↔ bound.AdmitsAbove n := by
  cases bound with
  | unbounded => rfl
  | included least => exact numberTerm_le_iff least n
  | excluded least => exact numberTerm_lt_iff least n

theorem admitsBelow_ofTerms_iff (bound : NumberBound) (n : Int64) :
    bound.ofTerms.AdmitsBelow (numberTerm n) ↔ bound.AdmitsBelow n := by
  cases bound with
  | unbounded => rfl
  | included greatest => exact numberTerm_le_iff n greatest
  | excluded greatest => exact numberTerm_lt_iff n greatest

end NumberBound

/-- A range of terms of numbers holds the terms of the numbers within its bounds. -/
theorem inBounds_numberTerm_iff (lower upper : NumberBound) (n : Int64) :
    Store.inBounds lower.ofTerms upper.ofTerms (numberTerm n) = true ↔
      lower.AdmitsAbove n ∧ upper.AdmitsBelow n := by
  rw [inBounds_iff, lower.admitsAbove_ofTerms_iff, upper.admitsBelow_ofTerms_iff]

/-- The terms of numbers are the words with their signs turned over, each in exactly twenty digits.
They are different for different numbers and sort by code points as the numbers do, so a range of
terms, whichever of its ends are open, included or excluded, is the range of the numbers. -/
theorem number_terms_sort_by_value :
    (∀ n, numberTerm n = String.ofList (paddedDecimal 20 (signFlipped n).toNat)) ∧
    (∀ n, (numberTerm n).toList.length = 20 ∧ ∀ c ∈ (numberTerm n).toList, c.isDigit = true) ∧
    (∀ first second, (numberTerm first).toList < (numberTerm second).toList ↔ first < second) ∧
    Function.Injective numberTerm ∧
    ∀ lower upper n, Store.inBounds (NumberBound.ofTerms lower) (NumberBound.ofTerms upper)
      (numberTerm n) = true ↔ lower.AdmitsAbove n ∧ upper.AdmitsBelow n := by
  refine ⟨numberTerm_eq_paddedDecimal, ?_, ?_, ?_, inBounds_numberTerm_iff⟩
  · intro n
    rw [numberTerm_eq, String.toList_ofList]
    exact ⟨length_fixedWidth 20 _, isDigit_of_mem_fixedWidth 20 _⟩
  · intro first second
    rw [← String.lt_iff, numberTerm_lt_iff]
  · intro first second same
    exact numberTerm_inj.mp same

example : numberTerm (-9223372036854775808) = "00000000000000000000" ∧
    numberTerm (-1) = "09223372036854775807" ∧ numberTerm 0 = "09223372036854775808" ∧
    numberTerm 9223372036854775807 = "18446744073709551615" := by
  decide

end Criteria
