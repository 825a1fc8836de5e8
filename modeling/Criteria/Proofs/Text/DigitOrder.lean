/-
Module: Criteria.Proofs.Text.DigitOrder
Purpose: Numbers written in a fixed number of digits are read back as they are, and as texts
  they sort by value.
Main exports:
  digitsValue_fixedWidth, fixedWidth_append, fixedWidth_inj, paddedDecimal_eq_fixedWidth,
  fixedWidth_lt_iff
-/
import Mathlib.Algebra.Group.Nat.Defs
import Criteria.Text.Digits

namespace Criteria.Text

theorem digitValue_digitChar {digit : Nat} (small : digit < 10) :
    digitValue (Nat.digitChar digit) = digit := by
  have all : ∀ digit < 10, digitValue (Nat.digitChar digit) = digit := by decide
  exact all digit small

theorem digitChar_lt_iff {first second : Nat} (firstSmall : first < 10)
    (secondSmall : second < 10) :
    Nat.digitChar first < Nat.digitChar second ↔ first < second := by
  have all : ∀ first < 10, ∀ second < 10,
      (Nat.digitChar first < Nat.digitChar second ↔ first < second) := by decide
  exact all first firstSmall second secondSmall

theorem digitsValue_append_singleton (digits : List Char) (digit : Char) :
    digitsValue (digits ++ [digit]) = 10 * digitsValue digits + digitValue digit := by
  simp [digitsValue]

/-- Of a number too long for the width the last digits are left. -/
theorem digitsValue_fixedWidth (width n : Nat) :
    digitsValue (fixedWidth width n) = n % 10 ^ width := by
  induction width generalizing n with
  | zero => simp [fixedWidth, digitsValue, Nat.mod_one]
  | succ width ih =>
      have small : n % 10 < 10 := Nat.mod_lt n (by decide)
      rw [fixedWidth, digitsValue_append_singleton, ih, digitValue_digitChar small,
        Nat.pow_succ', Nat.mod_mul, Nat.add_comm]

/-- Two numbers side by side are one longer number. -/
theorem fixedWidth_append (width extra n : Nat) {rest : Nat} (fits : rest < 10 ^ extra) :
    fixedWidth width n ++ fixedWidth extra rest =
      fixedWidth (width + extra) (n * 10 ^ extra + rest) := by
  induction extra generalizing rest with
  | zero =>
      have nothing : rest = 0 := by simpa using fits
      simp [nothing, fixedWidth]
  | succ extra ih =>
      have restFits : rest / 10 < 10 ^ extra := by
        rw [Nat.pow_succ] at fits
        exact Nat.div_lt_of_lt_mul (by rwa [Nat.mul_comm])
      have front : (n * 10 ^ (extra + 1) + rest) / 10 = n * 10 ^ extra + rest / 10 := by
        rw [Nat.pow_succ, ← Nat.mul_assoc]
        omega
      have last : (n * 10 ^ (extra + 1) + rest) % 10 = rest % 10 := by
        rw [Nat.pow_succ, ← Nat.mul_assoc]
        omega
      rw [← Nat.add_assoc, fixedWidth, fixedWidth, front, last, ← ih restFits,
        List.append_assoc]

theorem fixedWidth_inj {width first second : Nat} (firstFits : first < 10 ^ width)
    (secondFits : second < 10 ^ width) :
    fixedWidth width first = fixedWidth width second ↔ first = second := by
  constructor
  · intro same
    have values := congrArg digitsValue same
    rwa [digitsValue_fixedWidth, digitsValue_fixedWidth, Nat.mod_eq_of_lt firstFits,
      Nat.mod_eq_of_lt secondFits] at values
  · intro same
    rw [same]

theorem isDigit_of_mem_fixedWidth (width n : Nat) :
    ∀ digit ∈ fixedWidth width n, digit.isDigit = true := by
  induction width generalizing n with
  | zero => simp [fixedWidth]
  | succ width ih =>
      have small : n % 10 < 10 := Nat.mod_lt n (by decide)
      intro digit member
      rcases List.mem_append.mp member with front | last
      · exact ih _ digit front
      · rw [List.mem_singleton.mp last, Nat.isDigit_digitChar]
        exact decide_eq_true small

theorem fixedWidth_zero (width : Nat) : fixedWidth width 0 = List.replicate width '0' := by
  induction width with
  | zero => rfl
  | succ width ih =>
      rw [fixedWidth, Nat.zero_div, ih, List.replicate_succ']
      rfl

/-- Filling up with zeros gives the fixed width, if the number is not too long for it. -/
theorem paddedDecimal_eq_fixedWidth {width n : Nat} (fits : n < 10 ^ (width + 1)) :
    paddedDecimal (width + 1) n = fixedWidth (width + 1) n := by
  induction width generalizing n with
  | zero =>
      have small : n < 10 := by simpa using fits
      simp [paddedDecimal, decimal, fixedWidth, Nat.toDigits_of_lt_base small,
        Nat.mod_eq_of_lt small]
  | succ width ih =>
      rw [fixedWidth]
      by_cases small : n < 10
      · rw [Nat.div_eq_of_lt small, Nat.mod_eq_of_lt small, fixedWidth_zero]
        simp [paddedDecimal, decimal, Nat.toDigits_of_lt_base small]
      · have front : n / 10 < 10 ^ (width + 1) := by
          rw [Nat.pow_succ] at fits
          exact Nat.div_lt_of_lt_mul (by rwa [Nat.mul_comm])
        rw [← ih front]
        simp [paddedDecimal, decimal, Nat.toDigits_of_base_le (by decide) (Nat.le_of_not_lt small)]

/-- A number that is written in at least one digit begins with a digit. -/
theorem exists_digit_of_fixedWidth (width n : Nat) :
    ∃ first others, fixedWidth (width + 1) n = first :: others ∧ first.isDigit = true := by
  have long : (fixedWidth (width + 1) n).length = width + 1 := length_fixedWidth (width + 1) n
  have digits := isDigit_of_mem_fixedWidth (width + 1) n
  cases written : fixedWidth (width + 1) n with
  | nil =>
      rw [written] at long
      cases long
  | cons first others =>
      rw [written] at digits
      exact ⟨first, others, rfl, digits first (List.mem_cons_self ..)⟩

/-- The digits come after whatever comes before zero. -/
theorem lt_of_lt_of_isDigit {mark digit : Char} (before : mark < '0')
    (isDigit : digit.isDigit = true) : mark < digit := by
  simp only [Char.isDigit, Bool.and_eq_true, decide_eq_true_eq] at isDigit
  rw [Char.lt_def] at before ⊢
  exact UInt32.lt_of_lt_of_le before isDigit.1

/-- The digits come before whatever comes after nine. -/
theorem lt_of_isDigit_of_lt {digit mark : Char} (isDigit : digit.isDigit = true)
    (after : '9' < mark) : digit < mark := by
  simp only [Char.isDigit, Bool.and_eq_true, decide_eq_true_eq] at isDigit
  rw [Char.lt_def] at after ⊢
  exact UInt32.lt_of_le_of_lt isDigit.2 after

/-- Texts that begin with equally long parts are first compared by these. -/
theorem append_lt_append_iff {first second rest other : List Char}
    (sameLength : first.length = second.length) :
    first ++ rest < second ++ other ↔ first < second ∨ first = second ∧ rest < other := by
  induction first generalizing second with
  | nil =>
      have empty : second = [] := by simpa using sameLength.symm
      simp [empty]
  | cons char first ih =>
      cases second with
      | nil => cases sameLength
      | cons secondChar second =>
          have shorter : first.length = second.length := by simpa using sameLength
          simp only [List.cons_append, List.cons_lt_cons_iff, ih shorter, List.cons.injEq]
          constructor
          · rintro (less | ⟨same, less | ⟨sameRest, less⟩⟩)
            · exact .inl (.inl less)
            · exact .inl (.inr ⟨same, less⟩)
            · exact .inr ⟨⟨same, sameRest⟩, less⟩
          · rintro ((less | ⟨same, less⟩) | ⟨⟨same, sameRest⟩, less⟩)
            · exact .inl less
            · exact .inr ⟨same, .inl less⟩
            · exact .inr ⟨same, .inr ⟨sameRest, less⟩⟩

theorem fixedWidth_lt_iff {width first second : Nat} (firstFits : first < 10 ^ width)
    (secondFits : second < 10 ^ width) :
    fixedWidth width first < fixedWidth width second ↔ first < second := by
  induction width generalizing first second with
  | zero =>
      have firstZero : first = 0 := by simpa using firstFits
      have secondZero : second = 0 := by simpa using secondFits
      simp [firstZero, secondZero]
  | succ width ih =>
      have fits {n : Nat} (nFits : n < 10 ^ (width + 1)) : n / 10 < 10 ^ width := by
        rw [Nat.pow_succ] at nFits
        exact Nat.div_lt_of_lt_mul (by rwa [Nat.mul_comm])
      have firstSmall : first % 10 < 10 := Nat.mod_lt first (by decide)
      have secondSmall : second % 10 < 10 := Nat.mod_lt second (by decide)
      have lastDigit : [Nat.digitChar (first % 10)] < [Nat.digitChar (second % 10)] ↔
          first % 10 < second % 10 := by
        rw [List.cons_lt_cons_iff, digitChar_lt_iff firstSmall secondSmall]
        simp
      rw [fixedWidth, fixedWidth, append_lt_append_iff (by simp), lastDigit,
        ih (fits firstFits) (fits secondFits), fixedWidth_inj (fits firstFits) (fits secondFits)]
      omega

end Criteria.Text
