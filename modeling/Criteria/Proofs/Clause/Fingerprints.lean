/-
Module: Criteria.Proofs.Clause.Fingerprints
Purpose: What a fingerprint tells of a condition: all of it, but for the fractions of seconds in
  its dates.
Main exports:
  fingerprintInput_eq_iff, fingerprints_tell_all_but_fractions,
  fraction_of_a_second_is_not_fingerprinted
-/
import Criteria.Proofs.Clause.Readability

namespace Criteria

open Criteria.Calendar

/-- The bytes that are digested are the same exactly if the conditions are the same but for
fractions of seconds. -/
theorem Clause.fingerprintInput_eq_iff {first second : Clause} (firstFits : first.Fits)
    (secondFits : second.Fits) :
    first.fingerprintInput = second.fingerprintInput ↔ first.onSecond = second.onSecond := by
  have ends := Clause.encode_append_eq_iff firstFits secondFits [] []
  rw [List.append_nil, List.append_nil, and_iff_left rfl] at ends
  unfold fingerprintInput
  rw [List.append_cancel_left_eq, ends]

/-- If the digest has no collision on them, two conditions have one fingerprint exactly if they are
the same once the fractions of seconds in their dates are left out. Operators, texts, numbers,
lists, functions, predicates and whole seconds are all told apart. -/
theorem fingerprints_tell_all_but_fractions (first second : Clause) (firstFits : first.Fits)
    (secondFits : second.Fits) :
    (first.fingerprintInput = second.fingerprintInput ↔ first.onSecond = second.onSecond) ∧
    ((Digest.sha256 first.fingerprintInput = Digest.sha256 second.fingerprintInput →
        first.fingerprintInput = second.fingerprintInput) →
      (first.fingerprint = second.fingerprint ↔ first.onSecond = second.onSecond)) := by
  have inputs := Clause.fingerprintInput_eq_iff firstFits secondFits
  refine ⟨inputs, ?_⟩
  intro noCollision
  rw [← inputs]
  constructor
  · intro sameFingerprint
    exact noCollision (Fingerprint.mk.inj sameFingerprint)
  · intro sameInput
    rw [Clause.fingerprint, Clause.fingerprint, sameInput]

/-- A moment at nine or shortly after it. -/
def nineAnd (second nano : Nat) (valid : IsClock 9 0 second nano) : Value :=
  .date ⟨⟨2025, 3, 1, by decide⟩, 9, 0, second, nano, valid⟩

/-- What was due at nine, or shortly after it. -/
def dueAt (second nano : Nat) (valid : IsClock 9 0 second nano) : Clause :=
  .terminal (.equals "due" (.value (nineAnd second nano valid)))

theorem fits_dueAt (second nano : Nat) (valid : IsClock 9 0 second nano) :
    (dueAt second nano valid).Fits := by
  have field : TextFits "due" := by decide
  refine ⟨field, trivial, ?_⟩
  intro predicate absent
  cases absent

/-- Two conditions that differ in one nanosecond have the same fingerprint. -/
theorem fraction_of_a_second_is_not_fingerprinted :
    (dueAt 0 0 (by decide)).Fits ∧ (dueAt 0 1 (by decide)).Fits ∧
    dueAt 0 0 (by decide) ≠ dueAt 0 1 (by decide) ∧
    (dueAt 0 0 (by decide)).fingerprintInput = (dueAt 0 1 (by decide)).fingerprintInput ∧
    (dueAt 0 0 (by decide)).fingerprint = (dueAt 0 1 (by decide)).fingerprint := by
  have sameInput : (dueAt 0 0 (by decide)).fingerprintInput =
      (dueAt 0 1 (by decide)).fingerprintInput := rfl
  refine ⟨fits_dueAt .., fits_dueAt .., by decide, sameInput, ?_⟩
  rw [Clause.fingerprint, Clause.fingerprint, sameInput]

/-- What was reopened by one of two people after nine, and is not in a list. -/
def reopenedAfter (second nano : Nat) (valid : IsClock 9 0 second nano) : Clause :=
  .and [.terminal (.was "status" (.value (.text "open"))
      (some (.all [.leaf .by (.list [.value (.text "bob"), .function ⟨"me", ["x"]⟩]),
        .leaf .after (.value (nineAnd second nano valid))]))),
    .not (.terminal (.isIn "votes" [.number (-1), .text "-1"]))]

theorem fits_reopenedAfter (second nano : Nat) (valid : IsClock 9 0 second nano) :
    (reopenedAfter second nano valid).Fits := by
  have status : TextFits "status" := by decide
  have opened : TextFits "open" := by decide
  have bob : TextFits "bob" := by decide
  have call : TextFits "me" ∧ ["x"].length < 4294967296 ∧ ∀ arg ∈ ["x"], TextFits arg := by decide
  have votes : TextFits "votes" := by decide
  have below : TextFits "-1" := by decide
  refine ⟨by simp, ⟨status, opened, ?_⟩, ⟨votes, ⟨by simp, trivial, below, trivial⟩, ?_⟩, trivial⟩
  · intro predicate present
    cases present
    exact ⟨by simp, ⟨by simp, bob, call, trivial⟩, trivial, trivial⟩
  · intro predicate absent
    cases absent

/-- Half a second is lost in a predicate under AND, a whole one is not. -/
theorem fingerprints_tell_all_but_fractions_of_reopened :
    (reopenedAfter 0 0 (by decide)).Fits ∧ (reopenedAfter 0 500000000 (by decide)).Fits ∧
    (reopenedAfter 1 0 (by decide)).Fits ∧
    (reopenedAfter 0 0 (by decide)).fingerprintInput =
      (reopenedAfter 0 500000000 (by decide)).fingerprintInput ∧
    (reopenedAfter 0 0 (by decide)).fingerprintInput ≠
      (reopenedAfter 1 0 (by decide)).fingerprintInput := by
  have exact : (reopenedAfter 0 0 (by decide)).Fits := fits_reopenedAfter ..
  have half : (reopenedAfter 0 500000000 (by decide)).Fits := fits_reopenedAfter ..
  have later : (reopenedAfter 1 0 (by decide)).Fits := fits_reopenedAfter ..
  obtain ⟨lost, _⟩ := fingerprints_tell_all_but_fractions _ _ exact half
  obtain ⟨kept, _⟩ := fingerprints_tell_all_but_fractions _ _ exact later
  refine ⟨exact, half, later, lost.mpr rfl, ?_⟩
  rw [Ne, kept]
  decide

end Criteria
