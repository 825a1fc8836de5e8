/-
Module: Criteria.Proofs.Search.Shape
Purpose: Queries that an index answers as they are meant: no group of theirs is empty, purely
  negative or mixed, and the constant queries stand only where they have a meaning.
Main exports:
  Query.groups, GroupShaped, Query.Shaped, Query.Nestable, Query.nestable_alternatives,
  Query.nestable_anyOf, Query.nestable_restriction, Query.nestable_allOf,
  Query.nestable_complement, Fragment.Shaped
-/
import Criteria.Search.Fragment

namespace Criteria.Search

mutual

/-- The groups of clauses anywhere in the query, the outer ones before those inside them. Every
part of a query but the whole is a clause of one of these groups. -/
def Query.groups : Query → List (List (Occur × Query))
  | .group clauses => clauses :: groupsIn clauses
  | _ => []

/-- The groups of clauses anywhere in several clauses. -/
def Query.groupsIn : List (Occur × Query) → List (List (Occur × Query))
  | [] => []
  | (_, query) :: clauses => query.groups ++ groupsIn clauses

end

/-- What an index asks of a group. Both what is required and what is excluded need something
that is required, alternatives are counted only where nothing is required, and a constant adds
nothing to a group unless all other clauses are taken away from everything. -/
structure GroupShaped (clauses : List (Occur × Query)) : Prop where
  several : 2 ≤ clauses.length
  uniform : (∀ clause ∈ clauses, clause.1 = .should) ∨
    ((∃ clause ∈ clauses, clause.1 = .must) ∧ ∀ clause ∈ clauses, clause.1 ≠ .should)
  possible : ∀ clause ∈ clauses, clause.2 ≠ .nothing
  anchored : ∀ before occur after, clauses = before ++ (occur, .all) :: after →
    occur = .must ∧ ∀ other ∈ before ++ after, other.1 = .mustNot

namespace Query

/-- All groups of the query are as an index asks. -/
def Shaped (query : Query) : Prop :=
  ∀ clauses ∈ query.groups, GroupShaped clauses

/-- The query can be any clause of a group. -/
structure Nestable (query : Query) : Prop where
  shaped : query.Shaped
  notAll : query ≠ .all
  notNothing : query ≠ .nothing

theorem mem_groupsIn_iff (clauses : List (Occur × Query)) (group : List (Occur × Query)) :
    group ∈ groupsIn clauses ↔ ∃ clause ∈ clauses, group ∈ clause.2.groups := by
  induction clauses with
  | nil => simp [groupsIn]
  | cons clause clauses ih => simp only [groupsIn, List.mem_append, ih, List.mem_cons,
      exists_eq_or_imp]

theorem shaped_group_iff (clauses : List (Occur × Query)) :
    (group clauses).Shaped ↔
      GroupShaped clauses ∧ ∀ clause ∈ clauses, clause.2.Shaped := by
  simp only [Shaped, groups, List.forall_mem_cons, mem_groupsIn_iff]
  constructor
  · intro given
    refine ⟨given.1, ?_⟩
    intro clause member inner isInner
    exact given.2 inner ⟨clause, member, isInner⟩
  · intro given
    refine ⟨given.1, ?_⟩
    intro inner inside
    obtain ⟨clause, member, isInner⟩ := inside
    exact given.2 clause member inner isInner

/-- A query without groups is shaped. -/
theorem shaped_of_groups_eq_nil {query : Query} (plain : query.groups = []) : query.Shaped := by
  intro clauses member
  rw [plain] at member
  cases member

theorem shaped_all : all.Shaped := shaped_of_groups_eq_nil rfl

theorem shaped_nothing : nothing.Shaped := shaped_of_groups_eq_nil rfl

theorem nestable_term (field value : String) : (term field value).Nestable :=
  ⟨shaped_of_groups_eq_nil rfl, by simp, by simp⟩

theorem nestable_range (field : String) (lower upper : Bound) :
    (range field lower upper).Nestable :=
  ⟨shaped_of_groups_eq_nil rfl, by simp, by simp⟩

theorem nestable_startsWith (field beginning : String) : (startsWith field beginning).Nestable :=
  ⟨shaped_of_groups_eq_nil rfl, by simp, by simp⟩

theorem nestable_ids (members : IdSet) : (ids members).Nestable :=
  ⟨shaped_of_groups_eq_nil rfl, by simp, by simp⟩

/-- A group that is as an index asks can itself be a clause. -/
theorem nestable_group {clauses : List (Occur × Query)} (shaped : GroupShaped clauses)
    (each : ∀ clause ∈ clauses, clause.2.Shaped) : (group clauses).Nestable :=
  ⟨(shaped_group_iff clauses).mpr ⟨shaped, each⟩, by simp, by simp⟩

end Query

/-! ### Groups that are as an index asks -/

/-- Nothing is anchored in a group without constants. -/
theorem anchored_of_forall_ne_all {clauses : List (Occur × Query)}
    (none : ∀ clause ∈ clauses, clause.2 ≠ .all) (before : List (Occur × Query)) (occur : Occur)
    (after : List (Occur × Query)) (split : clauses = before ++ (occur, .all) :: after) :
    occur = .must ∧ ∀ other ∈ before ++ after, other.1 = .mustNot := by
  have member : (occur, Query.all) ∈ clauses := by
    rw [split]
    exact List.mem_append_right _ (List.mem_cons_self ..)
  exact absurd rfl (none _ member)

/-- Two or more alternatives. -/
theorem groupShaped_alternatives {queries : List Query} (several : 2 ≤ queries.length)
    (each : ∀ query ∈ queries, query.Nestable) :
    GroupShaped (queries.map fun query => (.should, query)) := by
  refine ⟨?_, .inl ?_, ?_, anchored_of_forall_ne_all ?_⟩
  · simpa using several
  · simp
  · simpa using fun query member => (each query member).notNothing
  · simpa using fun query member => (each query member).notAll

/-- Requirements and exclusions, with at least one requirement. -/
theorem groupShaped_restriction {required excluded : List Query} (some : required ≠ [])
    (several : 2 ≤ required.length + excluded.length)
    (eachRequired : ∀ query ∈ required, query.Nestable)
    (eachExcluded : ∀ query ∈ excluded, query.Nestable) :
    GroupShaped (required.map (fun query => (.must, query)) ++
      excluded.map fun query => (.mustNot, query)) := by
  obtain ⟨first, others, rfl⟩ := List.exists_cons_of_ne_nil some
  refine ⟨?_, .inr ⟨⟨(.must, first), by simp, rfl⟩, ?_⟩, ?_, anchored_of_forall_ne_all ?_⟩
  · rw [List.length_append, List.length_map, List.length_map]
    exact several
  · simp only [List.forall_mem_append, List.forall_mem_map]
    exact ⟨fun _ _ => by simp, fun _ _ => by simp⟩
  · simp only [List.forall_mem_append, List.forall_mem_map]
    exact ⟨fun query member => (eachRequired query member).notNothing,
      fun query member => (eachExcluded query member).notNothing⟩
  · simp only [List.forall_mem_append, List.forall_mem_map]
    exact ⟨fun query member => (eachRequired query member).notAll,
      fun query member => (eachExcluded query member).notAll⟩

/-- Exclusions that are taken away from everything. -/
theorem groupShaped_complement {excluded : List Query} (some : excluded ≠ [])
    (each : ∀ query ∈ excluded, query.Nestable) :
    GroupShaped ((.must, .all) :: excluded.map fun query => (.mustNot, query)) := by
  refine ⟨?_, .inr ⟨⟨(.must, .all), by simp, rfl⟩, ?_⟩, ?_, ?_⟩
  · have := List.length_pos_iff.mpr some
    simp only [List.length_cons, List.length_map]
    omega
  · simp
  · simpa using fun query member => (each query member).notNothing
  · intro before occur after split
    cases before with
    | nil =>
        obtain ⟨sameOccur, sameAfter⟩ := by simpa using split
        rw [← sameOccur, ← sameAfter]
        simp
    | cons first before =>
        -- further occurrences would be among the exclusions, which are no constants
        have rest : excluded.map (fun query => (Occur.mustNot, query)) =
            before ++ (occur, .all) :: after := by simpa using (List.cons.inj split).2
        have noAll : ∀ clause ∈ excluded.map fun query => (Occur.mustNot, query),
            clause.2 ≠ .all := by
          simpa using fun query member => (each query member).notAll
        have member : (occur, Query.all) ∈ excluded.map fun query => (Occur.mustNot, query) := by
          rw [rest]
          exact List.mem_append_right _ (List.mem_cons_self ..)
        exact absurd rfl (noAll _ member)

namespace Query

theorem nestable_alternatives {queries : List Query} (several : 2 ≤ queries.length)
    (each : ∀ query ∈ queries, query.Nestable) :
    (group (queries.map fun query => (.should, query))).Nestable := by
  apply nestable_group (groupShaped_alternatives several each)
  exact List.forall_mem_map.mpr fun query member => (each query member).shaped

theorem nestable_anyOf {queries : List Query} (some : queries ≠ [])
    (each : ∀ query ∈ queries, query.Nestable) : (anyOf queries).Nestable := by
  match queries, some, each with
  | [only], _, each => exact each only (List.mem_singleton_self only)
  | first :: second :: others, _, each => exact nestable_alternatives (by simp) each

theorem nestable_restriction {required excluded : List Query} (some : required ≠ [])
    (several : 2 ≤ required.length + excluded.length)
    (eachRequired : ∀ query ∈ required, query.Nestable)
    (eachExcluded : ∀ query ∈ excluded, query.Nestable) :
    (group (required.map (fun query => (.must, query)) ++
      excluded.map fun query => (.mustNot, query))).Nestable := by
  apply nestable_group (groupShaped_restriction some several eachRequired eachExcluded)
  simp only [List.forall_mem_append, List.forall_mem_map]
  exact ⟨fun query member => (eachRequired query member).shaped,
    fun query member => (eachExcluded query member).shaped⟩

theorem nestable_allOf {queries : List Query} (some : queries ≠ [])
    (each : ∀ query ∈ queries, query.Nestable) : (allOf queries).Nestable := by
  match queries, some, each with
  | [only], _, each => exact each only (List.mem_singleton_self only)
  | first :: second :: others, some, each =>
      have noneExcluded : ∀ query ∈ ([] : List Query), query.Nestable := by simp
      have nestable := nestable_restriction some (by simp) each noneExcluded
      rwa [List.map_nil, List.append_nil] at nestable

theorem nestable_complement {excluded : List Query} (some : excluded ≠ [])
    (each : ∀ query ∈ excluded, query.Nestable) :
    (group ((.must, .all) :: excluded.map fun query => (.mustNot, query))).Nestable := by
  apply nestable_group (groupShaped_complement some each)
  simp only [List.forall_mem_cons, List.forall_mem_map]
  exact ⟨shaped_all, fun query member => (each query member).shaped⟩

end Query

/-! ### Fragments -/

/-- The query of the fragment is as an index asks, and it can be excluded if it has to be. -/
structure Fragment.Shaped (fragment : Fragment) : Prop where
  query : fragment.query.Shaped
  negated : fragment.negated = true → fragment.query.Nestable

namespace Fragment

theorem shaped_of_nestable {fragment : Fragment} (nestable : fragment.query.Nestable) :
    fragment.Shaped :=
  ⟨nestable.shaped, fun _ => nestable⟩

theorem shaped_nothing : Fragment.nothing.Shaped :=
  ⟨Query.shaped_nothing, by simp [nothing]⟩

theorem shaped_everything : Fragment.everything.Shaped :=
  ⟨Query.shaped_all, by simp [everything]⟩

namespace Shaped

variable {fragment : Fragment}

/-- The constants are known for what they are, so every other query can be a clause. -/
theorem nestable (shaped : fragment.Shaped) (notTrue : fragment.isTrue = false)
    (notFalse : fragment.isFalse = false) : fragment.query.Nestable := by
  obtain ⟨query, negated⟩ := fragment
  cases negated with
  | true => exact shaped.negated rfl
  | false =>
      refine ⟨shaped.query, ?_, ?_⟩
      · intro same
        have isAll : query = .all := same
        rw [isAll] at notTrue
        cases notTrue
      · intro same
        have isNothing : query = .nothing := same
        rw [isNothing] at notFalse
        cases notFalse

theorem negate (shaped : fragment.Shaped) : fragment.negate.Shaped := by
  unfold Fragment.negate
  split
  · exact shaped_everything
  · next notFalse =>
      split
      · exact shaped_nothing
      · next notTrue =>
          have nestable := shaped.nestable (by simpa using notTrue) (by simpa using notFalse)
          exact shaped_of_nestable nestable

theorem toQuery_of_nestable (nestable : fragment.query.Nestable) :
    fragment.toQuery.Nestable := by
  unfold toQuery
  split
  · have each : ∀ query ∈ [fragment.query], query.Nestable := by simpa using nestable
    exact Query.nestable_complement (by simp) each
  · exact nestable

/-- The fragment as a query of its own is as an index asks. -/
theorem toQuery (shaped : fragment.Shaped) : fragment.toQuery.Shaped := by
  cases sign : fragment.negated with
  | true => exact (toQuery_of_nestable (shaped.negated sign)).shaped
  | false => simpa [Fragment.toQuery, sign] using shaped.query

end Shaped

end Fragment

end Criteria.Search
