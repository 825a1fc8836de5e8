/-
Module: Criteria.Proofs.Clause.Codes
Purpose: Codes that show where they end: numbers of a fixed width, texts, and counted lists of
  codes, whatever bytes follow.
Main exports:
  Delimited, append_eq_append_iff_of_delimited, bigEndian_inj, encodeCount_inj, encodeInteger_inj,
  TextFits, delimited_encodeText, delimited_counted
-/
import Mathlib.Algebra.Group.Nat.Defs
import Criteria.Clause.Encoding

namespace Criteria

/-! ### Numbers -/

@[simp] theorem length_bigEndian (width n : Nat) : (bigEndian width n).length = width := by
  induction width generalizing n with
  | zero => rfl
  | succ width ih => simp [bigEndian, ih]

theorem bigEndian_inj {width first second : Nat} (firstFits : first < 256 ^ width)
    (secondFits : second < 256 ^ width) (same : bigEndian width first = bigEndian width second) :
    first = second := by
  induction width generalizing first second with
  | zero =>
      simp only [Nat.pow_zero, Nat.lt_one_iff] at firstFits secondFits
      rw [firstFits, secondFits]
  | succ width ih =>
      have front {n : Nat} (fits : n < 256 ^ (width + 1)) : n / 256 < 256 ^ width := by
        rw [Nat.pow_succ] at fits
        exact Nat.div_lt_of_lt_mul (by rwa [Nat.mul_comm])
      obtain ⟨sameFront, sameLast⟩ := List.append_inj same (by simp)
      have sameQuotient := ih (front firstFits) (front secondFits) sameFront
      have sameRemainder : first % 256 = second % 256 := by
        have values := congrArg UInt8.toNat (List.cons.inj sameLast).1
        simpa only [UInt8.toNat_ofNat'] using values
      omega

@[simp] theorem length_encodeCount (count : Nat) : (encodeCount count).length = 4 :=
  length_bigEndian 4 count

theorem encodeCount_inj {first second : Nat} (firstFits : first < 4294967296)
    (secondFits : second < 4294967296) (same : encodeCount first = encodeCount second) :
    first = second := by
  have within {count : Nat} (fits : count < 4294967296) : count < 256 ^ 4 := fits
  exact bigEndian_inj (within firstFits) (within secondFits) same

@[simp] theorem length_encodeInteger (n : Int) : (encodeInteger n).length = 8 :=
  length_bigEndian 8 _

/-- Two's complement tells integers of 64 bits apart. -/
theorem encodeInteger_inj {first second : Int}
    (firstFits : -9223372036854775808 ≤ first ∧ first < 9223372036854775808)
    (secondFits : -9223372036854775808 ≤ second ∧ second < 9223372036854775808)
    (same : encodeInteger first = encodeInteger second) : first = second := by
  have within (n : Int) : (n % 18446744073709551616).toNat < 256 ^ 8 := by omega
  have words := bigEndian_inj (within first) (within second) same
  omega

/-! ### Codes that show where they end -/

/-- Whatever follows, the code of an item shows where it ends and what it says of the item, as
far as `core` keeps it. Only items that fit are considered. -/
def Delimited {α β : Type} (code : α → List UInt8) (fits : α → Prop) (core : α → β)
    (item : α) : Prop :=
  fits item → ∀ other, fits other → ∀ rest otherRest,
    code item ++ rest = code other ++ otherRest → core item = core other ∧ rest = otherRest

/-- If a code says nothing but the core of its item, then two items have the same code, and the same
bytes follow, exactly if their cores are the same and the rests are. -/
theorem append_eq_append_iff_of_delimited {α : Type} {code : α → List UInt8} {fits : α → Prop}
    {core : α → α} (delimited : ∀ item, Delimited code fits core item)
    (code_core : ∀ item, code (core item) = code item) {first second : α}
    (firstFits : fits first) (secondFits : fits second) (rest otherRest : List UInt8) :
    code first ++ rest = code second ++ otherRest ↔
      core first = core second ∧ rest = otherRest := by
  constructor
  · intro same
    exact delimited first firstFits second secondFits rest otherRest same
  · rintro ⟨sameCore, rfl⟩
    rw [← code_core first, sameCore, code_core]

section Lists

variable {α β : Type} {code : α → List UInt8} {fits : α → Prop} {core : α → β}
variable {items others : List α} {rest otherRest : List UInt8}

/-- Codes one after another are taken apart one by one, if it is known how many there are. -/
theorem delimited_flatMap (each : ∀ item ∈ items, Delimited code fits core item)
    (itemsFit : ∀ item ∈ items, fits item) (othersFit : ∀ other ∈ others, fits other)
    (sameLength : items.length = others.length)
    (same : items.flatMap code ++ rest = others.flatMap code ++ otherRest) :
    items.map core = others.map core ∧ rest = otherRest := by
  induction items generalizing others with
  | nil =>
      obtain rfl : others = [] := List.eq_nil_of_length_eq_zero sameLength.symm
      exact ⟨rfl, same⟩
  | cons item items ih =>
      cases others with
      | nil => cases sameLength
      | cons other others =>
          rw [List.forall_mem_cons] at each itemsFit othersFit
          rw [List.flatMap_cons, List.flatMap_cons, List.append_assoc, List.append_assoc] at same
          obtain ⟨sameFirst, sameTail⟩ :=
            each.1 itemsFit.1 other othersFit.1 _ _ same
          obtain ⟨sameItems, sameRest⟩ :=
            ih each.2 itemsFit.2 othersFit.2 (Nat.succ.inj sameLength) sameTail
          rw [List.map_cons, List.map_cons, sameFirst, sameItems]
          exact ⟨rfl, sameRest⟩

/-- The number of codes stands in front of them. -/
theorem delimited_counted (each : ∀ item ∈ items, Delimited code fits core item)
    (itemsFit : items.length < 4294967296 ∧ ∀ item ∈ items, fits item)
    (othersFit : others.length < 4294967296 ∧ ∀ other ∈ others, fits other)
    (same : encodeCount items.length ++ (items.flatMap code ++ rest) =
      encodeCount others.length ++ (others.flatMap code ++ otherRest)) :
    items.map core = others.map core ∧ rest = otherRest := by
  obtain ⟨sameCount, sameCodes⟩ := List.append_inj same (by simp)
  have sameLength := encodeCount_inj itemsFit.1 othersFit.1 sameCount
  exact delimited_flatMap each itemsFit.2 othersFit.2 sameLength sameCodes

end Lists

/-! ### Texts -/

theorem utf8Bytes_inj {first second : String} (same : utf8Bytes first = utf8Bytes second) :
    first = second :=
  String.toByteArray_inj.mp (ByteArray.ext (Array.toList_inj.mp same))

/-- The number of bytes of a text fits the four bytes in which it is written. -/
def TextFits (text : String) : Prop :=
  (utf8Bytes text).length < 4294967296

instance (text : String) : Decidable (TextFits text) :=
  inferInstanceAs (Decidable ((utf8Bytes text).length < 4294967296))

theorem delimited_encodeText (text : String) : Delimited encodeText TextFits id text := by
  intro fits other otherFits rest otherRest same
  rw [encodeText, encodeText, List.append_assoc, List.append_assoc] at same
  obtain ⟨sameCount, sameBytes⟩ := List.append_inj same (by simp)
  have sameLength := encodeCount_inj fits otherFits sameCount
  obtain ⟨sameText, sameRest⟩ := List.append_inj sameBytes sameLength
  exact ⟨utf8Bytes_inj sameText, sameRest⟩

end Criteria
