/-
Module: Criteria.Proofs.Search.Width
Purpose: How wide the groups of a query are, by the way in which the query was put together.
Main exports:
  Query.widestGroup_group_le_iff, Query.widestGroup_restriction_le_iff,
  Query.widestGroup_alternatives_le_iff, Query.widestGroup_excluding_le_iff,
  Fragment.widestGroup_negate_le, Fragment.widestGroup_toQuery_le_iff
-/
import Criteria.Search.Fragment

namespace Criteria.Search

namespace Query

theorem widestIn_le_iff (clauses : List (Occur × Query)) (bound : Nat) :
    widestIn clauses ≤ bound ↔ ∀ clause ∈ clauses, clause.2.widestGroup ≤ bound := by
  induction clauses with
  | nil => simp [widestIn]
  | cons clause clauses ih => simp only [widestIn, Nat.max_le, ih, List.forall_mem_cons]

/-- No group is wider than a bound if the outer one is not, nor any group inside its clauses. -/
theorem widestGroup_group_le_iff (clauses : List (Occur × Query)) (bound : Nat) :
    (group clauses).widestGroup ≤ bound ↔
      clauses.length ≤ bound ∧ ∀ clause ∈ clauses, clause.2.widestGroup ≤ bound := by
  rw [widestGroup, Nat.max_le, widestIn_le_iff]

/-- Requirements and exclusions in one group. -/
theorem widestGroup_restriction_le_iff (required excluded : List Query) (bound : Nat) :
    (group (required.map (fun query => (.must, query)) ++
      excluded.map fun query => (.mustNot, query))).widestGroup ≤ bound ↔
      required.length + excluded.length ≤ bound ∧
        (∀ query ∈ required, query.widestGroup ≤ bound) ∧
        ∀ query ∈ excluded, query.widestGroup ≤ bound := by
  rw [widestGroup_group_le_iff]
  simp only [List.length_append, List.length_map, List.forall_mem_append, List.forall_mem_map]

/-- Alternatives in one group. -/
theorem widestGroup_alternatives_le_iff (queries : List Query) (bound : Nat) :
    (group (queries.map fun query => (.should, query))).widestGroup ≤ bound ↔
      queries.length ≤ bound ∧ ∀ query ∈ queries, query.widestGroup ≤ bound := by
  rw [widestGroup_group_le_iff]
  simp only [List.length_map, List.forall_mem_map]

theorem widestGroup_excluding_le_iff (guard excluded : Query) (bound : Nat) :
    (excluding guard excluded).widestGroup ≤ bound ↔
      2 ≤ bound ∧ guard.widestGroup ≤ bound ∧ excluded.widestGroup ≤ bound := by
  rw [excluding, widestGroup_group_le_iff]
  simp only [List.length_cons, List.length_nil, List.forall_mem_cons, List.not_mem_nil,
    false_imp_iff, implies_true, and_true]

@[simp] theorem widestGroup_all : all.widestGroup = 0 := rfl

end Query

namespace Fragment

/-- A complement is no wider than what it is the complement of. -/
theorem widestGroup_negate_le (fragment : Fragment) :
    fragment.negate.query.widestGroup ≤ fragment.query.widestGroup := by
  unfold negate
  split
  · exact Nat.zero_le _
  · split
    · exact Nat.zero_le _
    · exact Nat.le_refl _

/-- As a query of its own, a negation needs a group of two more. -/
theorem widestGroup_toQuery_le_iff (fragment : Fragment) (bound : Nat) :
    fragment.toQuery.widestGroup ≤ bound ↔
      fragment.query.widestGroup ≤ bound ∧ (fragment.negated = true → 2 ≤ bound) := by
  cases sign : fragment.negated with
  | true => simp [toQuery, sign, Query.widestGroup_excluding_le_iff, and_comm]
  | false => simp [toQuery, sign]

end Fragment

end Criteria.Search
