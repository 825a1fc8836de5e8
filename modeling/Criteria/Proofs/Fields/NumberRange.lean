/-
Module: Criteria.Proofs.Fields.NumberRange
Purpose: Which documents an order comparison with a number finds, where a field holds numbers and
  marks of having no value.
Main exports:
  NumbersGiven, terms_eq_of_numbersGiven, Operator.Compares, matches_relational_iff,
  number_comparisons_find_numbers_and_empty_fields, empty_field_is_found_above
-/
import Criteria.Fields.BuiltIn
import Criteria.Proofs.Resolution.NumberOrder
import Criteria.Proofs.Search.Coherence

namespace Criteria.Search.Document

/-! ### Fields that hold numbers -/

theorem terms_showing (document : Document) {field shown : String}
    (other : field ≠ visibleFields) :
    (document.showing shown).terms field = document.terms field := by
  unfold showing
  split
  · rfl
  · rw [terms_withTerm, if_neg other.symm]

theorem terms_withField (document : Document) {field : String} (other : field ≠ visibleFields)
    (term : String) :
    (document.withField field term).terms field = document.terms field ++ [term] := by
  rw [withField, terms_withTerm, if_pos rfl, terms_showing document other]

end Criteria.Search.Document

namespace Criteria.Fields

open Criteria.Search

/-- The term of a number, or of having no value. -/
def givenTerm : Option Int64 → String
  | some n => numberTerm n
  | none => emptyTerm

/-- What a document was given in a field: numbers, and marks of having no value, in this order. What
else is done to the document leaves the field alone. -/
inductive NumbersGiven (field : String) : Document → List (Option Int64) → Prop where
  | nothing (id : String) : NumbersGiven field (.empty id) []
  | number {document : Document} {given : List (Option Int64)} (n : Int64)
      (before : NumbersGiven field document given) :
      NumbersGiven field (document.withField field (numberTerm n)) (given ++ [some n])
  | noValue {document : Document} {given : List (Option Int64)}
      (before : NumbersGiven field document given) :
      NumbersGiven field (document.withEmpty field) (given ++ [none])
  | elsewhere {document changed : Document} {given : List (Option Int64)}
      (before : NumbersGiven field document given)
      (kept : changed.terms field = document.terms field) :
      NumbersGiven field changed given

/-- The field holds the terms of what the document was given, and no others. -/
theorem terms_eq_of_numbersGiven {field : String} {document : Document}
    {given : List (Option Int64)} (plain : field ≠ visibleFields)
    (numbers : NumbersGiven field document given) :
    document.terms field = given.map givenTerm := by
  induction numbers with
  | nothing id => exact Document.terms_empty id field
  | number n before ih =>
      rw [Document.terms_withField _ plain, ih, List.map_append]
      rfl
  | noValue before ih =>
      rw [Document.withEmpty, Document.terms_withField _ plain, ih, List.map_append]
      rfl
  | elsewhere before kept ih => exact kept.trans ih

end Criteria.Fields

namespace Criteria

/-- How an operator compares a number that is held, on its left, with the number on its right. -/
def Operator.Compares (operator : Operator) (held n : Int64) : Prop :=
  match operator with
  | .greaterThan => n < held
  | .greaterThanEquals => n ≤ held
  | .lessThan => held < n
  | .lessThanEquals => held ≤ n
  | _ => False

/-- The operator asks for what comes after a value. -/
def Operator.AsksAbove (operator : Operator) : Prop :=
  operator = .greaterThan ∨ operator = .greaterThanEquals

end Criteria

namespace Criteria.Fields

open Criteria.Search

/-- A comparison with a number is one range, open at one end. Other operators ask for nothing. -/
theorem relational_fragment (field : String) (operator : Operator) (n : Int64) :
    (Matcher.relational field numberTerms).fragment operator [.value (.number n)] =
      ((rangeFor? field operator (numberTerm n)).map fun range => { query := range }).getD
        .nothing := by
  cases operator <;> rfl

theorem exists_givenTerm_iff (given : List (Option Int64)) (admits : String → Prop) :
    (∃ term ∈ given.map givenTerm, admits term) ↔
      (∃ held, some held ∈ given ∧ admits (numberTerm held)) ∨
        none ∈ given ∧ admits emptyTerm := by
  simp only [List.mem_map, exists_exists_and_eq_and]
  rw [Option.exists, or_comm]
  rfl

section

variable {field : String} {document : Document} {given : List (Option Int64)}

/-- A comparison holds of a document that was given a number for which it is true. Upwards, it
holds of one without a value as well, whose mark comes after the terms of all numbers. -/
theorem matches_relational_iff (plain : field ≠ visibleFields)
    (numbers : NumbersGiven field document given) (operator : Operator) (n : Int64) :
    document.Matches
        ((Matcher.relational field numberTerms).fragment operator [.value (.number n)]).query ↔
      (∃ held, some held ∈ given ∧ operator.Compares held n) ∨
        none ∈ given ∧ operator.AsksAbove := by
  have held := terms_eq_of_numbersGiven plain numbers
  rw [relational_fragment]
  cases operator with
  | greaterThan | greaterThanEquals | lessThan | lessThanEquals =>
      simp only [rangeFor?, Option.map_some, Option.getD_some, Document.Matches, held,
        exists_givenTerm_iff, Bound.AdmitsAbove, Bound.AdmitsBelow, and_true, true_and]
      -- What is left compares terms, of two numbers or of a number and the mark.
      simp only [numberTerm_lt_iff, numberTerm_le_iff, numberTerm_lt_emptyTerm,
        numberTerm_le_emptyTerm, not_emptyTerm_lt_numberTerm, not_emptyTerm_le_numberTerm,
        Operator.Compares, Operator.AsksAbove, reduceCtorEq, or_self, or_true, true_or]
  | _ =>
      simp [rangeFor?, Fragment.nothing, Document.Matches, Operator.Compares, Operator.AsksAbove]

end

/-- Where documents were given only numbers and marks of having no value in a field, a comparison of
the field with a number finds the documents that hold a number for which it is true. What asks for
more than the number finds those with a mark besides, whatever the number; what asks for less finds
no others. -/
theorem number_comparisons_find_numbers_and_empty_fields (updates : List Update) (field : String)
    (plain : field ≠ visibleFields)
    (each : ∀ document, Stored updates document → ∃ given, NumbersGiven field document given)
    (operator : Operator) (n : Int64) (id : String) :
    ((Matcher.relational field numberTerms).fragment operator
      [.value (.number n)]).negated = false ∧
    (id ∈ (Store.after updates).search
        ((Matcher.relational field numberTerms).fragment operator [.value (.number n)]).query ↔
      ∃ document given, Stored updates document ∧ document.id = id ∧
        NumbersGiven field document given ∧
        ((∃ held, some held ∈ given ∧ operator.Compares held n) ∨
          none ∈ given ∧ operator.AsksAbove)) := by
  constructor
  · rw [relational_fragment]
    cases rangeFor? field operator (numberTerm n) <;> rfl
  · rw [Store.mem_search_iff (Store.coherent_after updates)]
    constructor
    · rintro ⟨document, found, matched⟩
      obtain ⟨stored, sameId⟩ := (get?_after updates id document).mp found
      obtain ⟨given, numbers⟩ := each document stored
      rw [matches_relational_iff plain numbers] at matched
      exact ⟨document, given, stored, sameId, numbers, matched⟩
    · rintro ⟨document, given, stored, sameId, numbers, finds⟩
      refine ⟨document, (get?_after updates id document).mpr ⟨stored, sameId⟩, ?_⟩
      exact (matches_relational_iff plain numbers operator n).mpr finds

/-- A document that has no votes. -/
def withoutVotes : Document :=
  (Document.empty "none").withEmpty "votes"

/-- A document with the votes of two polls, one of them negative, and a title. -/
def withVotes : Document :=
  (((Document.empty "some").withField "votes" (numberTerm (-5))).withText "title"
    "Two polls").withField "votes" (numberTerm 7)

/-- The two documents. -/
def pollUpdates : List Update :=
  [.insert withoutVotes, .insert withVotes]

theorem numbersGiven_withoutVotes : NumbersGiven "votes" withoutVotes [none] :=
  .noValue (.nothing "none")

theorem numbersGiven_withVotes : NumbersGiven "votes" withVotes [some (-5), some 7] :=
  .number 7 (.elsewhere (.number (-5) (.nothing "some")) (by decide))

/-- What has no votes is found by asking for more than three, though not by asking for less. -/
theorem empty_field_is_found_above :
    ¬ ("none" ∈ (Store.after pollUpdates).search
        ((Matcher.relational "votes" numberTerms).fragment .greaterThan
          [.value (.number 3)]).query ↔
      ∃ document given, Stored pollUpdates document ∧ document.id = "none" ∧
        NumbersGiven "votes" document given ∧
        ∃ held, some held ∈ given ∧ Operator.greaterThan.Compares held 3) ∧
    "none" ∉ (Store.after pollUpdates).search
      ((Matcher.relational "votes" numberTerms).fragment .lessThan [.value (.number 3)]).query := by
  refine ⟨?_, by decide⟩
  intro exact
  obtain ⟨document, given, stored, isNone, numbers, held, member, _⟩ := exact.mp (by decide)
  have found := (get?_after pollUpdates "none" document).mpr ⟨stored, isNone⟩
  have same : withoutVotes = document := Option.some.inj found
  have marked : withoutVotes.terms "votes" = [emptyTerm] := by decide
  have isMark : numberTerm held ∈ [emptyTerm] := by
    rw [← marked, same, terms_eq_of_numbersGiven (by decide) numbers]
    exact List.mem_map.mpr ⟨some held, member, rfl⟩
  have before := numberTerm_lt_emptyTerm held
  rw [List.mem_singleton.mp isMark] at before
  exact String.lt_irrefl _ before

/-- A poll of less than zero votes is found by asking for less than zero; by asking for more than
eight, only what has no votes. -/
theorem number_comparisons_find_numbers_and_empty_fields_of_polls :
    "votes" ≠ visibleFields ∧
    (∀ document, Stored pollUpdates document →
      ∃ given, NumbersGiven "votes" document given) ∧
    "some" ∈ (Store.after pollUpdates).search
      ((Matcher.relational "votes" numberTerms).fragment .lessThan [.value (.number 0)]).query ∧
    "none" ∈ (Store.after pollUpdates).search
      ((Matcher.relational "votes" numberTerms).fragment .greaterThan
        [.value (.number 8)]).query := by
  have plain : "votes" ≠ visibleFields := by decide
  have each : ∀ document, Stored pollUpdates document →
      ∃ given, NumbersGiven "votes" document given := by
    intro document stored
    have inserted := stored.mem
    simp only [pollUpdates, List.mem_cons, Update.insert.injEq, List.not_mem_nil,
      or_false] at inserted
    rcases inserted with rfl | rfl
    · exact ⟨_, numbersGiven_withoutVotes⟩
    · exact ⟨_, numbersGiven_withVotes⟩
  have storedWithout : Stored pollUpdates withoutVotes :=
    ((get?_after pollUpdates "none" withoutVotes).mp (by decide)).1
  have storedWith : Stored pollUpdates withVotes :=
    ((get?_after pollUpdates "some" withVotes).mp (by decide)).1
  obtain ⟨_, below⟩ := number_comparisons_find_numbers_and_empty_fields pollUpdates "votes" plain
    each .lessThan 0 "some"
  obtain ⟨_, above⟩ := number_comparisons_find_numbers_and_empty_fields pollUpdates "votes" plain
    each .greaterThan 8 "none"
  refine ⟨plain, each, below.mpr ?_, above.mpr ?_⟩
  · have negative : Operator.lessThan.Compares (-5) 0 := show (-5 : Int64) < 0 by decide
    exact ⟨withVotes, _, storedWith, rfl, numbersGiven_withVotes, .inl ⟨-5, by simp, negative⟩⟩
  · exact ⟨withoutVotes, _, storedWithout, rfl, numbersGiven_withoutVotes,
      .inr ⟨by simp, .inl rfl⟩⟩

end Criteria.Fields
