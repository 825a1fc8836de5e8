/-
Module: Criteria.Proofs.Compile.Joining
Purpose: Joining one-sided ranges asks for the same documents as the ranges do, as long as a
  document has only one term in the field of a range.
Main exports:
  Document.HoldsOne, Document.Settles, TwoSided, mergeRange?_cases, forall_mergeRanges,
  forall_of_forall_mergeRanges, mem_mergeRanges_cases, mergeRanges_ne_nil,
  matches_mergeRanges_iff, settles_mergeRanges
-/
import Criteria.Compile.Ranges
import Criteria.Proofs.Search.Scan

namespace Criteria.Search

/-- The document holds no two different terms in the field. -/
def Document.HoldsOne (document : Document) (field : String) : Prop :=
  ∀ first ∈ document.terms field, ∀ second ∈ document.terms field, first = second

/-- If the query is a range, the document holds no two different terms in its field. -/
def Document.Settles (document : Document) (query : Query) : Prop :=
  ∀ field lower upper, query = .range field lower upper → document.HoldsOne field

end Criteria.Search

namespace Criteria.Compile

open Criteria.Search

theorem eq_unbounded_of_not_limits {bound : Bound} (endless : limits bound = false) :
    bound = .unbounded := by
  cases bound with
  | unbounded => rfl
  | included term => cases endless
  | excluded term => cases endless

/-- The query is a range with a limit at either end. -/
def TwoSided (query : Query) : Prop :=
  ∃ field lower upper,
    query = .range field lower upper ∧ limits lower = true ∧ limits upper = true

/-- Ranges are joined if they are over one field and open at opposite ends. -/
theorem mergeRange?_cases {first second merged : Query}
    (joined : mergeRange? first second = some merged) :
    ∃ field lower upper,
      merged = .range field lower upper ∧ limits lower = true ∧ limits upper = true ∧
      ((first = .range field .unbounded upper ∧ second = .range field lower .unbounded) ∨
        (first = .range field lower .unbounded ∧ second = .range field .unbounded upper)) := by
  unfold mergeRange? at joined
  split at joined
  · next field lower upper otherField otherLower otherUpper =>
      by_cases same : field = otherField
      · subst same
        simp only [ne_eq, not_true_eq_false, if_false] at joined
        split at joined
        · next opposite =>
            simp only [Bool.and_eq_true, Bool.not_eq_true'] at opposite
            obtain ⟨⟨⟨limitsAbove, openBelow⟩, limitsBelow⟩, openAbove⟩ := opposite
            rw [eq_unbounded_of_not_limits openBelow, eq_unbounded_of_not_limits openAbove]
            cases joined
            exact ⟨field, otherLower, upper, rfl, limitsBelow, limitsAbove, .inl ⟨rfl, rfl⟩⟩
        · split at joined
          · next opposite =>
              simp only [Bool.and_eq_true, Bool.not_eq_true'] at opposite
              obtain ⟨⟨⟨limitsBelow, openAbove⟩, limitsAbove⟩, openBelow⟩ := opposite
              rw [eq_unbounded_of_not_limits openAbove, eq_unbounded_of_not_limits openBelow]
              cases joined
              exact ⟨field, lower, otherUpper, rfl, limitsBelow, limitsAbove, .inr ⟨rfl, rfl⟩⟩
          · cases joined
      · rw [if_pos same] at joined
        cases joined
  · cases joined

/-! ### What is true of joined queries

A range that is joined from two gets its properties from them, or they get theirs from it. Either
way the properties are carried through the joining of a whole list. -/

/-- One step of the joining, `mergeRanges` being a fold over it. -/
def joinInto (merged : List Query) (incoming : Query) : List Query :=
  (mergeInto? incoming merged).getD (merged ++ [incoming])

section

variable {holds : Query → Prop}

theorem forall_mergeInto?
    (joins : ∀ {first second merged : Query}, mergeRange? first second = some merged →
      holds first → holds second → holds merged)
    {incoming : Query} {queries merged : List Query}
    (joined : mergeInto? incoming queries = some merged)
    (each : ∀ query ∈ queries, holds query) (also : holds incoming) :
    ∀ query ∈ merged, holds query := by
  induction queries generalizing merged with
  | nil => cases joined
  | cons first queries ih =>
      obtain ⟨ofFirst, others⟩ := List.forall_mem_cons.mp each
      rw [mergeInto?] at joined
      split at joined
      · next pair found =>
          cases joined
          exact List.forall_mem_cons.mpr ⟨joins found ofFirst also, others⟩
      · obtain ⟨rest, found, rfl⟩ := Option.map_eq_some_iff.mp joined
        exact List.forall_mem_cons.mpr ⟨ofFirst, ih found others⟩

/-- What a joined range gets from its halves is true of all that joining leaves if it is true of
all that is joined. -/
theorem forall_mergeRanges
    (joins : ∀ {first second merged : Query}, mergeRange? first second = some merged →
      holds first → holds second → holds merged)
    {queries : List Query} (each : ∀ query ∈ queries, holds query) :
    ∀ query ∈ mergeRanges queries, holds query := by
  have step {merged : List Query} {incoming : Query} (before : ∀ query ∈ merged, holds query)
      (also : holds incoming) : ∀ query ∈ joinInto merged incoming, holds query := by
    cases joined : mergeInto? incoming merged with
    | none =>
        rw [joinInto, joined, Option.getD_none, List.forall_mem_append, List.forall_mem_singleton]
        exact ⟨before, also⟩
    | some others =>
        rw [joinInto, joined, Option.getD_some]
        exact forall_mergeInto? joins joined before also
  have run (merged : List Query) (before : ∀ query ∈ merged, holds query) :
      ∀ query ∈ queries.foldl joinInto merged, holds query := by
    induction queries generalizing merged with
    | nil => exact before
    | cons first queries ih =>
        obtain ⟨ofFirst, others⟩ := List.forall_mem_cons.mp each
        exact ih others _ (step before ofFirst)
  exact run [] (by simp)

theorem forall_of_forall_mergeInto?
    (splits : ∀ {first second merged : Query}, mergeRange? first second = some merged →
      holds merged → holds first ∧ holds second)
    {incoming : Query} {queries merged : List Query}
    (joined : mergeInto? incoming queries = some merged) (each : ∀ query ∈ merged, holds query) :
    (∀ query ∈ queries, holds query) ∧ holds incoming := by
  induction queries generalizing merged with
  | nil => cases joined
  | cons first queries ih =>
      rw [mergeInto?] at joined
      split at joined
      · next pair found =>
          cases joined
          obtain ⟨ofPair, others⟩ := List.forall_mem_cons.mp each
          obtain ⟨ofFirst, ofIncoming⟩ := splits found ofPair
          exact ⟨List.forall_mem_cons.mpr ⟨ofFirst, others⟩, ofIncoming⟩
      · obtain ⟨rest, found, rfl⟩ := Option.map_eq_some_iff.mp joined
        obtain ⟨ofFirst, others⟩ := List.forall_mem_cons.mp each
        obtain ⟨later, ofIncoming⟩ := ih found others
        exact ⟨List.forall_mem_cons.mpr ⟨ofFirst, later⟩, ofIncoming⟩

/-- What a joined range passes on to its halves is true of all that is joined if it is true of all
that joining leaves. -/
theorem forall_of_forall_mergeRanges
    (splits : ∀ {first second merged : Query}, mergeRange? first second = some merged →
      holds merged → holds first ∧ holds second)
    {queries : List Query} (each : ∀ query ∈ mergeRanges queries, holds query) :
    ∀ query ∈ queries, holds query := by
  have step {merged : List Query} {incoming : Query}
      (after : ∀ query ∈ joinInto merged incoming, holds query) :
      (∀ query ∈ merged, holds query) ∧ holds incoming := by
    cases joined : mergeInto? incoming merged with
    | none =>
        rw [joinInto, joined, Option.getD_none, List.forall_mem_append,
          List.forall_mem_singleton] at after
        exact after
    | some others =>
        rw [joinInto, joined, Option.getD_some] at after
        exact forall_of_forall_mergeInto? splits joined after
  have run (queries merged : List Query)
      (after : ∀ query ∈ queries.foldl joinInto merged, holds query) :
      (∀ query ∈ merged, holds query) ∧ ∀ query ∈ queries, holds query := by
    induction queries generalizing merged with
    | nil => exact ⟨after, by simp⟩
    | cons first queries ih =>
        obtain ⟨before, others⟩ := ih _ after
        obtain ⟨earlier, ofFirst⟩ := step before
        exact ⟨earlier, List.forall_mem_cons.mpr ⟨ofFirst, others⟩⟩
  exact (run queries [] each).2

end

/-- What joining leaves is what was there before, and ranges with two ends. -/
theorem mem_mergeRanges_cases {queries : List Query} {query : Query}
    (member : query ∈ mergeRanges queries) : query ∈ queries ∨ TwoSided query := by
  have joins {first second merged : Query} (joined : mergeRange? first second = some merged)
      (_ : first ∈ queries ∨ TwoSided first) (_ : second ∈ queries ∨ TwoSided second) :
      merged ∈ queries ∨ TwoSided merged := by
    obtain ⟨field, lower, upper, isRange, below, above, _⟩ := mergeRange?_cases joined
    exact .inr ⟨field, lower, upper, isRange, below, above⟩
  exact forall_mergeRanges joins (fun _ before => .inl before) query member

/-- Joining leaves something of something. -/
theorem mergeRanges_ne_nil {queries : List Query} (some : queries ≠ []) :
    mergeRanges queries ≠ [] := by
  intro nothing
  have none : ∀ query ∈ queries, False := by
    apply forall_of_forall_mergeRanges
    · intro _ _ _ _ impossible
      exact impossible.elim
    · rw [nothing]
      simp
  exact some (List.eq_nil_iff_forall_not_mem.mpr none)

/-! ### What joined queries ask of a document -/

variable {document : Document}

/-- A term between two bounds lies on the right side of either. -/
theorem matches_halves {first second merged : Query}
    (joined : mergeRange? first second = some merged) (matched : document.Matches merged) :
    document.Matches first ∧ document.Matches second := by
  obtain ⟨field, lower, upper, rfl, _, _, halves⟩ := mergeRange?_cases joined
  rw [Document.Matches] at matched
  obtain ⟨term, held, above, below⟩ := matched
  have lowerHalf : document.Matches (.range field lower .unbounded) := by
    rw [Document.Matches]
    exact ⟨term, held, above, trivial⟩
  have upperHalf : document.Matches (.range field .unbounded upper) := by
    rw [Document.Matches]
    exact ⟨term, held, trivial, below⟩
  rcases halves with ⟨rfl, rfl⟩ | ⟨rfl, rfl⟩
  · exact ⟨upperHalf, lowerHalf⟩
  · exact ⟨lowerHalf, upperHalf⟩

/-- Where there is one term, it lies between two bounds if it lies on the right side of
either. -/
theorem matches_of_matches_halves {first second merged : Query}
    (joined : mergeRange? first second = some merged) (settled : document.Settles first)
    (ofFirst : document.Matches first) (ofSecond : document.Matches second) :
    document.Matches merged := by
  have between {field : String} {lower upper : Bound} (one : document.HoldsOne field)
      (above : document.Matches (.range field lower .unbounded))
      (below : document.Matches (.range field .unbounded upper)) :
      document.Matches (.range field lower upper) := by
    rw [Document.Matches] at above below ⊢
    obtain ⟨term, held, isAbove, _⟩ := above
    obtain ⟨other, otherHeld, _, isBelow⟩ := below
    rw [one other otherHeld term held] at isBelow
    exact ⟨term, held, isAbove, isBelow⟩
  obtain ⟨field, lower, upper, rfl, _, _, ⟨rfl, rfl⟩ | ⟨rfl, rfl⟩⟩ := mergeRange?_cases joined
  · exact between (settled field .unbounded upper rfl) ofSecond ofFirst
  · exact between (settled field lower .unbounded rfl) ofFirst ofSecond

theorem settles_mergeRange? {first second merged : Query}
    (joined : mergeRange? first second = some merged) (settled : document.Settles first) :
    document.Settles merged := by
  intro field lower upper same
  obtain ⟨joinedField, below, above, rfl, _, _, ⟨rfl, _⟩ | ⟨rfl, _⟩⟩ := mergeRange?_cases joined
  · cases same
    exact settled field .unbounded upper rfl
  · cases same
    exact settled field lower .unbounded rfl

theorem settles_mergeRanges {queries : List Query}
    (settled : ∀ query ∈ queries, document.Settles query) :
    ∀ query ∈ mergeRanges queries, document.Settles query :=
  forall_mergeRanges (fun joined ofFirst _ => settles_mergeRange? joined ofFirst) settled

/-- Joined queries all hold of a document if the queries themselves all do. -/
theorem matches_mergeRanges_iff {queries : List Query}
    (settled : ∀ query ∈ queries, document.Settles query) :
    (∀ query ∈ mergeRanges queries, document.Matches query) ↔
      ∀ query ∈ queries, document.Matches query := by
  constructor
  · exact forall_of_forall_mergeRanges matches_halves
  · intro each
    have joins {first second merged : Query} (joined : mergeRange? first second = some merged)
        (ofFirst : document.Settles first ∧ document.Matches first)
        (ofSecond : document.Settles second ∧ document.Matches second) :
        document.Settles merged ∧ document.Matches merged :=
      ⟨settles_mergeRange? joined ofFirst.1,
        matches_of_matches_halves joined ofFirst.1 ofFirst.2 ofSecond.2⟩
    have both : ∀ query ∈ queries, document.Settles query ∧ document.Matches query :=
      fun query member => ⟨settled query member, each query member⟩
    exact fun query member => (forall_mergeRanges joins both query member).2

/-- Joined queries all hold of a document if the queries themselves all do, and the ranges with
two ends among the joined ones do. -/
theorem matches_mergeRanges_iff_and (queries : List Query) :
    (∀ query ∈ mergeRanges queries, document.Matches query) ↔
      (∀ query ∈ queries, document.Matches query) ∧
      ∀ query ∈ mergeRanges queries, TwoSided query → document.Matches query := by
  constructor
  · intro each
    refine ⟨forall_of_forall_mergeRanges matches_halves each, ?_⟩
    intro query member _
    exact each query member
  · rintro ⟨each, twoSided⟩ query member
    rcases mem_mergeRanges_cases member with before | joined
    · exact each query before
    · exact twoSided query member joined

end Criteria.Compile
