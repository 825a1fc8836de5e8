/-
Module: Criteria.Proofs.Text.Numeral
Purpose: What a text has to look like to be read as a natural number: decimal digits with at most
  one plus sign before them. Numbers are written like that in any width.
Main exports:
  Numeral, isNumeric, numeral_fixedWidth, numeral_paddedDecimal, unsigned?_eq_some_iff,
  unsignedUpTo?_eq_some_iff, signedWithin?_eq_some_iff
-/
import Criteria.Proofs.Text.DigitOrder
import Criteria.Text.Blank

namespace Criteria.Text

/-- The characters write the number in decimal. There is at least one digit, and there may be one
plus sign before the digits. -/
inductive Numeral : List Char → Nat → Prop where
  | plain {digits : List Char} (some : digits ≠ [])
      (each : ∀ c ∈ digits, c.isDigit = true) : Numeral digits (digitsValue digits)
  | signed {digits : List Char} (some : digits ≠ [])
      (each : ∀ c ∈ digits, c.isDigit = true) : Numeral ('+' :: digits) (digitsValue digits)

/-- A character that can stand in a numeral. -/
def isNumeric (c : Char) : Bool :=
  c.isDigit || c == '+'

theorem natural?_eq_some_iff {text : List Char} {n : Nat} :
    natural? text = some n ↔
      text ≠ [] ∧ (∀ c ∈ text, c.isDigit = true) ∧ digitsValue text = n := by
  unfold natural?
  rw [Option.ite_none_right_eq_some, Option.some.injEq, Bool.and_eq_true, List.all_eq_true,
    and_assoc]
  simp only [Bool.not_eq_true', List.isEmpty_eq_false_iff]

namespace Numeral

variable {text : List Char} {n : Nat}

theorem ne_nil (numeral : Numeral text n) : text ≠ [] := by
  cases numeral with
  | plain some each => exact some
  | signed some each => exact List.cons_ne_nil _ _

theorem numeric (numeral : Numeral text n) : ∀ c ∈ text, isNumeric c = true := by
  have ofDigit {c : Char} (digit : c.isDigit = true) : isNumeric c = true := by
    simp [isNumeric, digit]
  cases numeral with
  | plain some each => exact fun c member => ofDigit (each c member)
  | signed some each =>
      exact List.forall_mem_cons.mpr ⟨rfl, fun c member => ofDigit (each c member)⟩

/-- A character of another kind, such as a separator, is nowhere in a numeral. -/
theorem not_mem (numeral : Numeral text n) {mark : Char} (other : isNumeric mark = false) :
    mark ∉ text := by
  intro member
  rw [numeral.numeric mark member] at other
  cases other

end Numeral

theorem isBlank_of_isNumeric {c : Char} (numeric : isNumeric c = true) : isBlank c = false := by
  have bounds : 43 ≤ c.toNat ∧ c.toNat ≤ 57 := by
    simp only [isNumeric, Bool.or_eq_true, beq_iff_eq] at numeric
    rcases numeric with digit | plus
    · simp only [Char.isDigit, Bool.and_eq_true, decide_eq_true_eq] at digit
      have least : (48 : Nat) ≤ c.toNat := digit.1
      have greatest : c.toNat ≤ 57 := digit.2
      omega
    · rw [plus]
      decide
  unfold isBlank
  simp
  omega

/-! ### Writing -/

theorem digitsValue_paddedDecimal (width n : Nat) : digitsValue (paddedDecimal width n) = n := by
  have value : digitsValue (paddedDecimal width n) = Nat.ofDigitChars 10 (paddedDecimal width n) 0 :=
    Nat.ofDigitChars_eq_foldl.symm
  rw [value, paddedDecimal, decimal, Nat.ofDigitChars_append, Nat.ofDigitChars_replicate_zero,
    Nat.mul_zero, Nat.ofDigitChars_ten_toDigits]

theorem paddedDecimal_ne_nil (width n : Nat) : paddedDecimal width n ≠ [] :=
  List.append_ne_nil_of_right_ne_nil _ Nat.toDigits_ne_nil

theorem isDigit_of_mem_paddedDecimal (width n : Nat) :
    ∀ digit ∈ paddedDecimal width n, digit.isDigit = true := by
  intro digit member
  rcases List.mem_append.mp member with filling | written
  · rw [List.eq_of_mem_replicate filling]
    rfl
  · exact Nat.isDigit_of_mem_toDigits (by decide) (by decide) written

theorem numeral_fixedWidth {width n : Nat} (fits : n < 10 ^ (width + 1)) :
    Numeral (fixedWidth (width + 1) n) n := by
  rw [← paddedDecimal_eq_fixedWidth fits]
  have numeral := Numeral.plain (paddedDecimal_ne_nil (width + 1) n)
    (isDigit_of_mem_paddedDecimal (width + 1) n)
  rwa [digitsValue_paddedDecimal] at numeral

theorem numeral_paddedDecimal (width n : Nat) : Numeral ('+' :: paddedDecimal width n) n := by
  have numeral := Numeral.signed (paddedDecimal_ne_nil width n)
    (isDigit_of_mem_paddedDecimal width n)
  rwa [digitsValue_paddedDecimal] at numeral

/-! ### Reading -/

theorem unsigned?_eq_some_iff {text : List Char} {n : Nat} :
    unsigned? text = some n ↔ Numeral text n := by
  unfold unsigned?
  split
  · next digits =>
      rw [natural?_eq_some_iff]
      constructor
      · intro given
        obtain ⟨some, each, rfl⟩ := given
        exact .signed some each
      · intro numeral
        cases numeral with
        | plain some each =>
            have plus := each '+' (List.mem_cons_self ..)
            cases plus
        | signed some each => exact ⟨some, each, rfl⟩
  · next other =>
      rw [natural?_eq_some_iff]
      constructor
      · intro given
        obtain ⟨some, each, rfl⟩ := given
        exact .plain some each
      · intro numeral
        cases numeral with
        | plain some each => exact ⟨some, each, rfl⟩
        | signed some each => exact absurd rfl (other _)

theorem unsignedUpTo?_eq_some_iff {greatest : Nat} {text : List Char} {n : Nat} :
    unsignedUpTo? greatest text = some n ↔ Numeral text n ∧ n ≤ greatest := by
  rw [unsignedUpTo?, Option.filter_eq_some_iff, unsigned?_eq_some_iff, decide_eq_true_eq]

theorem Numeral.unique {text : List Char} {first second : Nat} (ofFirst : Numeral text first)
    (ofSecond : Numeral text second) : first = second :=
  Option.some.inj ((unsigned?_eq_some_iff.mpr ofFirst).symm.trans
    (unsigned?_eq_some_iff.mpr ofSecond))

/-- Without a minus sign a signed number is read as a natural one. -/
theorem signed?_of_not_mem {text : List Char} (noMinus : '-' ∉ text) :
    signed? text = (unsigned? text).map fun n : Nat => (n : Int) := by
  unfold signed?
  split
  · exact absurd (List.mem_cons_self ..) noMinus
  · cases unsigned? text with
    | none => rfl
    | some n => rfl

theorem signedWithin?_eq_some_iff {least greatest : Int} (least_le : least ≤ 0)
    {text : List Char} (noMinus : '-' ∉ text) {read : Int} :
    signedWithin? least greatest text = some read ↔
      ∃ n : Nat, Numeral text n ∧ (n : Int) = read ∧ (n : Int) ≤ greatest := by
  rw [signedWithin?, Option.filter_eq_some_iff, signed?_of_not_mem noMinus,
    Option.map_eq_some_iff]
  simp only [unsigned?_eq_some_iff, Bool.and_eq_true, decide_eq_true_eq]
  constructor
  · intro given
    obtain ⟨⟨n, numeral, rfl⟩, _, fits⟩ := given
    exact ⟨n, numeral, rfl, fits⟩
  · intro given
    obtain ⟨n, numeral, rfl, fits⟩ := given
    exact ⟨⟨n, numeral, rfl⟩, Int.le_trans least_le (Int.natCast_nonneg n), fits⟩

/-- Changing other characters into one another makes no numeral and spoils none. -/
theorem numeral_map_iff {change : Char → Char} (kept : ∀ c, isNumeric c = true → change c = c)
    (apart : ∀ c, isNumeric (change c) = isNumeric c) {text : List Char} {n : Nat} :
    Numeral (text.map change) n ↔ Numeral text n := by
  have unchanged (numeric : ∀ c ∈ text, isNumeric c = true) : text.map change = text :=
    (List.map_congr_left fun c member => kept c (numeric c member)).trans (List.map_id text)
  constructor
  · intro numeral
    have numeric : ∀ c ∈ text, isNumeric c = true := by
      intro c member
      rw [← apart]
      exact numeral.numeric (change c) (List.mem_map_of_mem member)
    rwa [unchanged numeric] at numeral
  · intro numeral
    rwa [unchanged numeral.numeric]

end Criteria.Text
