/-
Module: Criteria.Proofs.Search.Evaluation
Purpose: Fragments and conditions as operations on sets of documents: the reading that needs
  only the set of documents that each query, or each terminal, stands for.
Main exports:
  Store.matching, Store.mem_matching_iff, Store.evaluate, Store.mem_evaluate_iff
-/
import Criteria.Proofs.Clause.Truth
import Criteria.Proofs.Search.Coherence
import Criteria.Proofs.Search.Matching

namespace Criteria.Search

open Std (ExtTreeSet)

namespace Store

/-- The documents that a fragment finds: for a negation, all but those that its query
finds. -/
def matching (store : Store) (fragment : Fragment) : IdSet :=
  if fragment.negated then store.ids \ store.search fragment.query
  else store.search fragment.query

theorem mem_matching_iff {store : Store} (coherent : store.Coherent) (fragment : Fragment)
    (id : String) :
    id ∈ store.matching fragment ↔
      ∃ document, store.get? id = some document ∧ fragment.Accepts document := by
  unfold matching Fragment.Accepts
  split
  · rw [ExtTreeSet.mem_diff_iff, mem_ids_iff, mem_search_iff coherent]
    constructor
    · intro given
      rcases given with ⟨⟨document, stored⟩, outside⟩
      exact ⟨document, stored, fun inside => outside ⟨document, stored, inside⟩⟩
    · intro given
      rcases given with ⟨document, stored, fails⟩
      refine ⟨⟨document, stored⟩, ?_⟩
      intro given
      rcases given with ⟨other, otherStored, inside⟩
      rw [stored, Option.some.injEq] at otherStored
      exact fails (otherStored ▸ inside)
  · exact mem_search_iff coherent id fragment.query

variable (store : Store) (meaning : Terminal → IdSet)

mutual

/-- The documents that a condition stands for. AND intersects, starting from all documents;
OR unites, starting from none; NOT is the complement within the store. -/
def evaluate : Clause → IdSet
  | .terminal leaf => meaning leaf
  | .and children => (evaluateAll children).foldl (· ∩ ·) store.ids
  | .or children => (evaluateAll children).foldl (· ∪ ·) ∅
  | .not child => store.ids \ evaluate child

/-- The documents that each of several conditions stands for. -/
def evaluateAll : List Clause → List IdSet
  | [] => []
  | child :: children => evaluate child :: evaluateAll children

end

mutual

/-- If terminals stand for documents of the store, then a condition stands for the documents
of the store for which it holds. -/
theorem mem_evaluate_iff (within : ∀ leaf, ∀ id ∈ meaning leaf, id ∈ store.ids)
    (id : String) : ∀ clause : Clause,
    id ∈ store.evaluate meaning clause ↔
      id ∈ store.ids ∧ clause.Holds fun leaf => id ∈ meaning leaf
  | .terminal leaf => by
      rw [evaluate, Clause.Holds]
      exact ⟨fun member => ⟨within leaf id member, member⟩, And.right⟩
  | .and children => by
      rw [evaluate, mem_foldl_inter_iff, Clause.Holds]
      exact and_congr_right fun stored => mem_evaluateAll_all_iff within stored children
  | .or children => by
      rw [evaluate, mem_foldl_union_iff, Clause.Holds, mem_evaluateAll_any_iff within id]
      simp
  | .not child => by
      rw [evaluate, ExtTreeSet.mem_diff_iff, mem_evaluate_iff within id child, Clause.Holds]
      constructor
      · intro given
        rcases given with ⟨stored, outside⟩
        exact ⟨stored, fun holds => outside ⟨stored, holds⟩⟩
      · intro given
        rcases given with ⟨stored, fails⟩
        exact ⟨stored, fun inside => fails inside.2⟩

theorem mem_evaluateAll_all_iff (within : ∀ leaf, ∀ id ∈ meaning leaf, id ∈ store.ids)
    {id : String} (stored : id ∈ store.ids) : ∀ children : List Clause,
    (∀ found ∈ store.evaluateAll meaning children, id ∈ found) ↔
      Clause.AllHold (fun leaf => id ∈ meaning leaf) children
  | [] => by simp [evaluateAll, Clause.AllHold]
  | child :: children => by
      rw [evaluateAll, List.forall_mem_cons, mem_evaluate_iff within id child,
        mem_evaluateAll_all_iff within stored children, Clause.AllHold]
      simp [stored]

theorem mem_evaluateAll_any_iff (within : ∀ leaf, ∀ id ∈ meaning leaf, id ∈ store.ids)
    (id : String) : ∀ children : List Clause,
    (∃ found ∈ store.evaluateAll meaning children, id ∈ found) ↔
      id ∈ store.ids ∧ Clause.AnyHolds (fun leaf => id ∈ meaning leaf) children
  | [] => by simp [evaluateAll, Clause.AnyHolds]
  | child :: children => by
      simp only [evaluateAll, Clause.AnyHolds, List.mem_cons, exists_eq_or_imp]
      rw [mem_evaluate_iff within id child, mem_evaluateAll_any_iff within id children,
        ← and_or_left]

end

end Store

end Criteria.Search
