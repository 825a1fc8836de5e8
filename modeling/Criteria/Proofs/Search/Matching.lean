/-
Module: Criteria.Proofs.Search.Matching
Purpose: Which documents the composed queries hold of: groups of one kind, exclusions, queries
  that may be missing, and fragments, which carry their negation beside the query.
Main exports:
  Document.matches_group_iff, Document.matches_allOf_iff, Document.matches_anyOf_iff,
  Document.matches_excluding_iff, Document.MatchesSome, Fragment.Accepts,
  Fragment.matches_toQuery_iff, Fragment.accepts_negate_iff
-/
import Criteria.Proofs.Search.Scan
import Criteria.Search.Fragment

namespace Criteria.Search

namespace Document

variable (document : Document)

theorem matches_group_iff (clauses : List (Occur × Query)) :
    document.Matches (.group clauses) ↔
      (∃ clause ∈ clauses, clause.1 ≠ .mustNot) ∧
      (∀ clause ∈ clauses, clause.1 = .mustNot → ¬ document.Matches clause.2) ∧
      (∀ clause ∈ clauses, clause.1 = .must → document.Matches clause.2) ∧
      ((∀ clause ∈ clauses, clause.1 ≠ .must) →
        ∃ clause ∈ clauses, clause.1 = .should ∧ document.Matches clause.2) := by
  rw [Matches, verdicts_eq_map, groupHolds_map_iff]

/-- A group with requirements and exclusions asks for all of the ones and none of the
others. -/
theorem matches_restriction_iff {required : List Query} (nonempty : required ≠ [])
    (excluded : List Query) :
    document.Matches (.group (required.map (fun query => (.must, query)) ++
        excluded.map fun query => (.mustNot, query))) ↔
      (∀ query ∈ required, document.Matches query) ∧
        ∀ query ∈ excluded, ¬ document.Matches query := by
  obtain ⟨first, member⟩ := List.exists_mem_of_ne_nil required nonempty
  rw [matches_group_iff]
  simp only [List.mem_append, List.mem_map]
  constructor
  · intro given
    rcases given with ⟨_, noneHolds, allHold, _⟩
    constructor
    · intro query inRequired
      exact allHold (.must, query) (.inl ⟨query, inRequired, rfl⟩) rfl
    · intro query inExcluded
      exact noneHolds (.mustNot, query) (.inr ⟨query, inExcluded, rfl⟩) rfl
  · intro given
    rcases given with ⟨allHold, noneHolds⟩
    refine ⟨⟨(.must, first), .inl ⟨first, member, rfl⟩, by simp⟩, ?_, ?_, ?_⟩
    · intro clause listed isExcluded
      rcases listed with ⟨query, _, rfl⟩ | ⟨query, inExcluded, rfl⟩
      · cases isExcluded
      · exact noneHolds query inExcluded
    · intro clause listed isRequired
      rcases listed with ⟨query, inRequired, rfl⟩ | ⟨query, _, rfl⟩
      · exact allHold query inRequired
      · cases isRequired
    · intro noRequirement
      exact absurd rfl (noRequirement (.must, first) (.inl ⟨first, member, rfl⟩))

/-- A group of alternatives asks for one of them. -/
theorem matches_alternatives_iff (alternatives : List Query) :
    document.Matches (.group (alternatives.map fun query => (.should, query))) ↔
      ∃ query ∈ alternatives, document.Matches query := by
  rw [matches_group_iff]
  simp only [List.mem_map]
  constructor
  · intro given
    rcases given with ⟨_, _, _, any⟩
    have noRequirement : ∀ clause : Occur × Query,
        (∃ query ∈ alternatives, (.should, query) = clause) → clause.1 ≠ .must := by
      rintro clause ⟨query, _, rfl⟩
      simp
    obtain ⟨clause, ⟨query, member, rfl⟩, _, holds⟩ := any noRequirement
    exact ⟨query, member, holds⟩
  · intro given
    rcases given with ⟨query, member, holds⟩
    refine ⟨⟨(.should, query), ⟨query, member, rfl⟩, by simp⟩, ?_, ?_, ?_⟩
    · rintro clause ⟨other, _, rfl⟩ isExcluded
      cases isExcluded
    · rintro clause ⟨other, _, rfl⟩ isRequired
      cases isRequired
    · intro _
      exact ⟨(.should, query), ⟨query, member, rfl⟩, rfl, holds⟩

/-- All of several queries are asked for, and there has to be one: a group without clauses
holds of nothing. -/
theorem matches_allOf_iff (queries : List Query) :
    document.Matches (.allOf queries) ↔
      queries ≠ [] ∧ ∀ query ∈ queries, document.Matches query := by
  unfold Query.allOf Query.grouped
  split
  · simp
  · by_cases nonempty : queries = []
    · rw [nonempty, matches_group_iff]
      simp
    · have restriction := document.matches_restriction_iff nonempty []
      simpa [nonempty] using restriction

theorem matches_anyOf_iff (queries : List Query) :
    document.Matches (.anyOf queries) ↔ ∃ query ∈ queries, document.Matches query := by
  unfold Query.anyOf Query.grouped
  split
  · simp
  · exact document.matches_alternatives_iff queries

theorem matches_excluding_iff (guard excluded : Query) :
    document.Matches (.excluding guard excluded) ↔
      document.Matches guard ∧ ¬ document.Matches excluded := by
  have nonempty : [guard] ≠ [] := List.cons_ne_nil guard []
  have restriction := document.matches_restriction_iff nonempty [excluded]
  simpa [Query.excluding] using restriction

end Document

/-! ### Queries that may be missing -/

/-- Any of the queries, unless there are none. -/
def Query.anyOf? (queries : List Query) : Option Query :=
  if queries.isEmpty then none else some (.anyOf queries)

namespace Document

variable (document : Document)

/-- There is a query, and it holds of the document. -/
def MatchesSome (query? : Option Query) : Prop :=
  ∃ query, query? = some query ∧ document.Matches query

/-- There are queries, and all of them hold of the document. -/
def MatchesEach (queries? : Option (List Query)) : Prop :=
  ∃ queries, queries? = some queries ∧ ∀ query ∈ queries, document.Matches query

@[simp] theorem matchesSome_some_iff (query : Query) :
    document.MatchesSome (some query) ↔ document.Matches query := by
  simp [MatchesSome]

@[simp] theorem not_matchesSome_none : ¬ document.MatchesSome none := by
  simp [MatchesSome]

theorem matchesSome_map_iff {α : Type} (reading? : Option α)
    (read : α → Query) :
    document.MatchesSome (reading?.map read) ↔
      ∃ reading, reading? = some reading ∧ document.Matches (read reading) := by
  cases reading? with
  | none => simp
  | some reading => simp

theorem matchesSome_bind_iff {α : Type} (reading? : Option α)
    (read : α → Option Query) :
    document.MatchesSome (reading?.bind read) ↔
      ∃ reading, reading? = some reading ∧ document.MatchesSome (read reading) := by
  cases reading? with
  | none => simp
  | some reading => simp

theorem matchesEach_singleton_iff (query? : Option Query) :
    document.MatchesEach (query?.map fun query => [query]) ↔ document.MatchesSome query? := by
  cases query? with
  | none => simp [MatchesEach]
  | some query => simp [MatchesEach]

theorem matchesSome_anyOf?_iff (queries : List Query) :
    document.MatchesSome (Query.anyOf? queries) ↔ ∃ query ∈ queries, document.Matches query := by
  cases queries with
  | nil => simp [Query.anyOf?]
  | cons query queries =>
      rw [← matches_anyOf_iff]
      exact document.matchesSome_some_iff (.anyOf (query :: queries))

/-- Of the queries that there are for several things, one holds if it does for one of them. -/
theorem exists_mem_filterMap_iff {α : Type} (read : α → Option Query) (items : List α) :
    (∃ query ∈ items.filterMap read, document.Matches query) ↔
      ∃ item ∈ items, document.MatchesSome (read item) := by
  simp only [List.mem_filterMap, MatchesSome]
  constructor
  · rintro ⟨query, ⟨item, member, isQuery⟩, holds⟩
    exact ⟨item, member, query, isQuery, holds⟩
  · rintro ⟨item, member, query, isQuery, holds⟩
    exact ⟨query, ⟨item, member, isQuery⟩, holds⟩

end Document

/-! ### Fragments -/

namespace Fragment

variable (document : Document) (fragment : Fragment)

/-- The fragment wants the document: its query holds of it, or, for a negation, does not. -/
def Accepts : Prop :=
  if fragment.negated then ¬ document.Matches fragment.query
  else document.Matches fragment.query

variable {document fragment}

theorem accepts_of_isTrue (known : fragment.isTrue = true) : fragment.Accepts document := by
  unfold isTrue at known
  split at known
  · next query => simp [Accepts, query, known, Document.Matches]
  · next query => simp_all [Accepts, Document.Matches]
  · cases known

theorem not_accepts_of_isFalse (known : fragment.isFalse = true) :
    ¬ fragment.Accepts document := by
  unfold isFalse at known
  split at known
  · next query => simp_all [Accepts, Document.Matches]
  · cases known

variable (document fragment)

/-- A fragment that is not negated accepts what its query holds of. -/
@[simp] theorem accepts_positive_iff (query : Query) :
    Accepts document { query } ↔ document.Matches query := by
  simp [Accepts]

@[simp] theorem accepts_everything : everything.Accepts document :=
  accepts_of_isTrue rfl

@[simp] theorem not_accepts_nothing : ¬ nothing.Accepts document :=
  not_accepts_of_isFalse rfl

theorem accepts_negate_iff : fragment.negate.Accepts document ↔ ¬ fragment.Accepts document := by
  unfold negate
  split
  · next known => simp [not_accepts_of_isFalse known]
  · split
    · next known => simp [accepts_of_isTrue known]
    · cases negated : fragment.negated with
      | true => simp [Accepts, negated]
      | false => simp [Accepts, negated]

theorem matches_toQuery_iff :
    document.Matches fragment.toQuery ↔ fragment.Accepts document := by
  unfold toQuery Accepts
  split
  · simp [Document.matches_excluding_iff, Document.Matches]
  · rfl

end Fragment

end Criteria.Search
