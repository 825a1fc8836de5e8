/-
Module: Criteria.Proofs.Compile.JoinedSearch
Purpose: What joining one-sided ranges changes in a search. A document with several terms in a field
  may satisfy either range by another term; the joined range asks for one term that satisfies both.
Main exports:
  joined_ranges_ask_for_one_term, joining_loses_a_document
-/
import Criteria.Proofs.Compile.Meaning

namespace Criteria.Compile

open Criteria.Fields
open Criteria.Search

section

variable {store : Store} {id : String}

theorem forall_mem_search_iff (coherent : store.Coherent) {document : Document}
    (found : store.get? id = some document) (queries : List Query) :
    (∀ query ∈ queries, id ∈ store.search query) ↔
      ∀ query ∈ queries, document.Matches query := by
  simp only [Store.mem_search_iff coherent, found, Option.some.injEq, exists_eq_left']

/-- What is not in the store is found by no query. -/
theorem forall_mem_search_iff_of_absent (coherent : store.Coherent) (absent : store.get? id = none)
    (queries : List Query) : (∀ query ∈ queries, id ∈ store.search query) ↔ queries = [] := by
  have nowhere (query : Query) : id ∉ store.search query := by
    simp [Store.mem_search_iff coherent, absent]
  simp only [nowhere, imp_false, List.eq_nil_iff_forall_not_mem]

end

theorem mergeRanges_eq_nil_iff (queries : List Query) :
    mergeRanges queries = [] ↔ queries = [] := by
  constructor
  · intro nothing
    by_contra something
    exact mergeRanges_ne_nil something nothing
  · intro nothing
    rw [nothing]
    rfl

/-- A document is found by all of several queries once their one-sided ranges are joined exactly if
it is found by all of them as they are, and in the field of every joined range holds one term
between both of its ends. This makes no difference to a document with one term in these fields. -/
theorem joined_ranges_ask_for_one_term (updates : List Update) (queries : List Query)
    (id : String) :
    ((∀ query ∈ mergeRanges queries, id ∈ (Store.after updates).search query) ↔
      (∀ query ∈ queries, id ∈ (Store.after updates).search query) ∧
      ∀ field lower upper, .range field lower upper ∈ mergeRanges queries →
        limits lower = true → limits upper = true →
        ∃ document, Stored updates document ∧ document.id = id ∧
          ∃ term ∈ document.terms field, lower.AdmitsAbove term ∧ upper.AdmitsBelow term) ∧
    ((∀ document, Stored updates document → document.id = id →
        ∀ query ∈ queries, document.Settles query) →
      ((∀ query ∈ mergeRanges queries, id ∈ (Store.after updates).search query) ↔
        ∀ query ∈ queries, id ∈ (Store.after updates).search query)) := by
  have coherent := Store.coherent_after updates
  cases found : (Store.after updates).get? id with
  | none =>
      have absent := forall_mem_search_iff_of_absent coherent found
      rw [absent, absent, mergeRanges_eq_nil_iff]
      refine ⟨?_, fun _ => Iff.rfl⟩
      constructor
      · intro nothing
        refine ⟨nothing, ?_⟩
        intro field lower upper member
        rw [(mergeRanges_eq_nil_iff queries).mpr nothing] at member
        cases member
      · intro given
        exact given.1
  | some document =>
      obtain ⟨stored, sameId⟩ := (get?_after updates id document).mp found
      have present := forall_mem_search_iff coherent found
      rw [present, present]
      constructor
      · rw [matches_mergeRanges_iff_and]
        refine and_congr_right fun _ => ?_
        constructor
        · intro each field lower upper member below above
          have matched := each _ member ⟨field, lower, upper, rfl, below, above⟩
          rw [Document.Matches] at matched
          exact ⟨document, stored, sameId, matched⟩
        · rintro each _ member ⟨field, lower, upper, rfl, below, above⟩
          obtain ⟨other, otherStored, otherId, held⟩ := each field lower upper member below above
          have otherFound := (get?_after updates id other).mpr ⟨otherStored, otherId⟩
          rw [found] at otherFound
          cases otherFound
          rw [Document.Matches]
          exact held
      · intro settled
        exact matches_mergeRanges_iff (settled document stored sameId)

/-- A compiler for one field, ordered by numbers. -/
def voteCompiler : Compiler where
  registry := Registry.empty.registerOrdered "votes" "votes" numberTerms
  operands := FunctionTable.builtIns.literals
  finder := none

/-- At least so many votes, as a terminal. -/
def votesAtLeast (n : Int64) : Clause :=
  .terminal (.greaterThanEquals "votes" (.value (.number n)))

/-- At most so many votes, as a terminal. -/
def votesAtMost (n : Int64) : Clause :=
  .terminal (.lessThanEquals "votes" (.value (.number n)))

/-- The range that at least so many votes are compiled to. -/
def votesFrom (n : Int64) : Query :=
  .range "votes" (.included (numberTerm n)) .unbounded

/-- The range that at most so many votes are compiled to. -/
def votesUpTo (n : Int64) : Query :=
  .range "votes" .unbounded (.included (numberTerm n))

/-- The range that the two are joined to. -/
def votesBetween (least most : Int64) : Query :=
  .range "votes" (.included (numberTerm least)) (.included (numberTerm most))

/-- The votes of a single poll. -/
def onceVoted : Document :=
  (Document.empty "once").withField "votes" (numberTerm 4)

/-- The votes of two polls. -/
def twiceVoted : Document :=
  ((Document.empty "twice").withField "votes" (numberTerm 1)).withField "votes" (numberTerm 9)

/-- The two documents. -/
def voteUpdates : List Update :=
  [.insert twiceVoted, .insert onceVoted]

theorem twiceVoted_by_either : ∀ query ∈ [votesFrom 3, votesUpTo 5],
    "twice" ∈ (Store.after voteUpdates).search query := by
  decide

theorem twiceVoted_not_between :
    "twice" ∉ (Store.after voteUpdates).search (votesBetween 3 5) := by
  decide

/-- Both terminals find the document with the two polls, one by either of them; their conjunction
does not find it. One requirement more, which takes the upper range away to join it with another,
finds it again. -/
theorem joining_loses_a_document :
    ¬ ((∀ query ∈ mergeRanges [votesFrom 3, votesUpTo 5],
          "twice" ∈ (Store.after voteUpdates).search query) ↔
        ∀ query ∈ [votesFrom 3, votesUpTo 5],
          "twice" ∈ (Store.after voteUpdates).search query) ∧
    (voteCompiler.compile ⟨none, .midnight ⟨1970, 1, 1, by decide⟩⟩
        (.and [votesAtLeast 3, votesAtMost 5])).result = .ok (votesBetween 3 5) ∧
    "twice" ∉ (Store.after voteUpdates).search (votesBetween 3 5) ∧
    (voteCompiler.compile ⟨none, .midnight ⟨1970, 1, 1, by decide⟩⟩
        (.and [votesAtLeast 3, .and [votesAtMost 5, votesAtLeast 0]])).result =
      .ok (.allOf [votesFrom 3, votesBetween 0 5]) ∧
    "twice" ∈ (Store.after voteUpdates).search (.allOf [votesFrom 3, votesBetween 0 5]) := by
  refine ⟨?_, rfl, twiceVoted_not_between, rfl, ?_⟩
  · intro keeps
    have joined := keeps.mpr twiceVoted_by_either
    exact twiceVoted_not_between (joined _ (List.mem_singleton_self _))
  · have each : ∀ query ∈ [votesFrom 3, votesBetween 0 5],
        "twice" ∈ (Store.after voteUpdates).search query := by decide
    have coherent := Store.coherent_after voteUpdates
    have found : (Store.after voteUpdates).get? "twice" = some twiceVoted := rfl
    rw [Store.mem_search_iff coherent]
    refine ⟨twiceVoted, found, (twiceVoted.matches_allOf_iff _).mpr ⟨by simp, ?_⟩⟩
    exact (forall_mem_search_iff coherent found _).mp each

theorem onceVoted_settles : ∀ document, Stored voteUpdates document → document.id = "once" →
    ∀ query ∈ [votesFrom 3, votesUpTo 5], document.Settles query := by
  intro document stored isOnce query member
  have same : document = onceVoted := by
    have found := (get?_after voteUpdates "once" document).mpr ⟨stored, isOnce⟩
    exact (Option.some.inj found).symm
  have votes : onceVoted.terms "votes" = [numberTerm 4] := by decide
  have oneTerm : document.HoldsOne "votes" := by
    intro first isFirst second isSecond
    rw [same, votes, List.mem_singleton] at isFirst isSecond
    rw [isFirst, isSecond]
  intro field lower upper isRange
  rcases List.mem_pair.mp member with rfl | rfl
  · cases isRange
    exact oneTerm
  · cases isRange
    exact oneTerm

/-- The document with one poll is found by the joined range. The other is not, since neither of its
polls lies between the ends. -/
theorem joined_ranges_ask_for_one_term_of_votes :
    (∀ document, Stored voteUpdates document → document.id = "once" →
      ∀ query ∈ [votesFrom 3, votesUpTo 5], document.Settles query) ∧
    (∀ query ∈ mergeRanges [votesFrom 3, votesUpTo 5],
      "once" ∈ (Store.after voteUpdates).search query) ∧
    ¬ ∀ field lower upper, .range field lower upper ∈ mergeRanges [votesFrom 3, votesUpTo 5] →
      limits lower = true → limits upper = true →
      ∃ document, Stored voteUpdates document ∧ document.id = "twice" ∧
        ∃ term ∈ document.terms field, lower.AdmitsAbove term ∧ upper.AdmitsBelow term := by
  obtain ⟨_, same⟩ :=
    joined_ranges_ask_for_one_term voteUpdates [votesFrom 3, votesUpTo 5] "once"
  obtain ⟨exact, _⟩ :=
    joined_ranges_ask_for_one_term voteUpdates [votesFrom 3, votesUpTo 5] "twice"
  refine ⟨onceVoted_settles, (same onceVoted_settles).mpr (by decide), ?_⟩
  intro between
  have found := exact.mpr ⟨twiceVoted_by_either, between⟩
  exact twiceVoted_not_between (found _ (List.mem_singleton_self _))

end Criteria.Compile
