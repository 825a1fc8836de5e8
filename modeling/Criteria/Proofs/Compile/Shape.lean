/-
Module: Criteria.Proofs.Compile.Shape
Purpose: What a condition is compiled to is as an index asks: no group in it is empty, purely
  negative or mixed, and the constant queries stand only where they have a meaning.
Main exports:
  Found.shaped_fragment, Compiler.shaped_conjunction, Compiler.shaped_disjunction,
  Compiler.shaped_of_yields, compiled_queries_are_shaped
-/
import Criteria.Proofs.Compile.Course
import Criteria.Proofs.Fields.Shape

namespace Criteria.Changes

open Criteria.Search

/-- Entities are listed or excluded, and constants are used when there are none. -/
theorem Found.shaped_fragment (found : Found) : found.fragment.Shaped := by
  unfold Found.fragment
  split
  · exact Fragment.shaped_nothing
  · exact Fragment.shaped_of_nestable (Query.nestable_ids _)
  · exact Fragment.shaped_everything
  · exact Fragment.shaped_of_nestable (Query.nestable_ids _)

end Criteria.Changes

namespace Criteria.Compile

open Criteria.Changes
open Criteria.Fields
open Criteria.Search

namespace Compiler

variable {compiler : Compiler} {context : SearchContext} {clause : Clause}
variable {parts : List Fragment} {fragment : Fragment}

/-! ### Terminals -/

/-- Whatever a terminal asks about, its fragment has the right shape. -/
theorem shaped_terminal (standard : compiler.registry.Standard) {leaf : Terminal}
    (yields : compiler.Yields context (.terminal leaf) fragment) : fragment.Shaped := by
  rw [Yields, compileClause, compileTerminal] at yields
  split at yields
  · rcases compileHistory_result yields with rfl | ⟨found, rfl, _⟩
    · exact Fragment.shaped_nothing
    · exact found.shaped_fragment
  · rcases compileComparison_result yields with rfl | ⟨matcher, registered, rfl, _⟩
    · exact Fragment.shaped_nothing
    · have plainly := (standard.standard_of_matcher? registered).answersPlainly
      exact (plainly.plain_fragment _ _).shaped

/-! ### Putting fragments together -/

theorem nestable_of_mem_parts (shaped : ∀ part ∈ parts, part.Shaped)
    (possible : ∀ part ∈ parts, part.isFalse = false) {query : Query}
    (member : query ∈ requiredOf parts ∨ query ∈ excludedOf parts) : query.Nestable := by
  obtain ⟨part, listed, notTrue, rfl⟩ := exists_part_of_mem member
  exact (shaped part listed).nestable notTrue (possible part listed)

theorem nestable_of_mem_mergeRanges {queries : List Query}
    (each : ∀ query ∈ queries, query.Nestable) : ∀ query ∈ mergeRanges queries, query.Nestable := by
  intro query member
  rcases mem_mergeRanges_cases member with before | ⟨field, lower, upper, rfl, _⟩
  · exact each query before
  · exact Query.nestable_range field lower upper

/-- Requirements and exclusions in one group. Without requirements the exclusions are taken away
from everything. -/
theorem nestable_anchored {required excluded : List Query}
    (several : 2 ≤ (anchored required).length + excluded.length)
    (eachRequired : ∀ query ∈ required, query.Nestable)
    (eachExcluded : ∀ query ∈ excluded, query.Nestable) :
    (Query.group ((anchored required).map (fun query => (.must, query)) ++
      excluded.map fun query => (.mustNot, query))).Nestable := by
  cases required with
  | nil =>
      apply Query.nestable_complement _ eachExcluded
      intro none
      rw [none] at several
      exact absurd several (by simp [anchored])
  | cons first others =>
      exact Query.nestable_restriction (List.cons_ne_nil first others) several eachRequired
        eachExcluded

/-- No part is known to match nothing: such a part would have ended the compilation. -/
theorem shaped_conjunction (shaped : ∀ part ∈ parts, part.Shaped)
    (possible : ∀ part ∈ parts, part.isFalse = false)
    (put : (compiler.conjunction clause parts).result = .ok fragment) : fragment.Shaped := by
  have eachRequired : ∀ query ∈ mergeRanges (requiredOf parts), query.Nestable :=
    nestable_of_mem_mergeRanges fun query member =>
      nestable_of_mem_parts shaped possible (.inl member)
  have eachExcluded : ∀ query ∈ excludedOf parts, query.Nestable :=
    fun query member => nestable_of_mem_parts shaped possible (.inr member)
  rcases conjunction_result put with ⟨_, _, rfl⟩ | ⟨only, _, single, rfl⟩ |
    ⟨only, single, _, rfl⟩ | ⟨several, _, _, grouped⟩
  · exact Fragment.shaped_everything
  · apply Fragment.shaped_of_nestable
    exact eachExcluded only (single ▸ List.mem_singleton_self only)
  · apply Fragment.shaped_of_nestable
    exact eachRequired only (single ▸ List.mem_singleton_self only)
  · apply Fragment.shaped_of_nestable
    rw [grouped]
    exact nestable_anchored several eachRequired eachExcluded

/-- No part is known to match everything: such a part would have ended the compilation. -/
theorem shaped_disjunction (shaped : ∀ part ∈ parts, part.Shaped)
    (restricting : ∀ part ∈ parts, part.isTrue = false)
    (put : (compiler.disjunction clause parts).result = .ok fragment) : fragment.Shaped := by
  rcases disjunction_result put with ⟨_, rfl⟩ | single | ⟨several, _, _, grouped⟩
  · exact Fragment.shaped_nothing
  · have kept : fragment ∈ parts.filter fun part => !part.isFalse :=
      single ▸ List.mem_singleton_self fragment
    exact shaped fragment (List.mem_of_mem_filter kept)
  · have each : ∀ query ∈ (parts.filter fun part => !part.isFalse).map Fragment.toQuery,
        query.Nestable := by
      intro query member
      obtain ⟨part, kept, rfl⟩ := List.mem_map.mp member
      obtain ⟨listed, notFalse⟩ := List.mem_filter.mp kept
      apply Fragment.Shaped.toQuery_of_nestable
      exact (shaped part listed).nestable (restricting part listed) (by simpa using notFalse)
    apply Fragment.shaped_of_nestable
    rw [grouped]
    exact Query.nestable_alternatives (by simpa using several) each

/-! ### Conditions -/

theorem shaped_and {children : List Clause}
    (shaped : ∀ child ∈ children, ∀ part, compiler.Yields context child part → part.Shaped)
    (yields : compiler.Yields context (.and children) fragment) : fragment.Shaped := by
  rcases yields_and yields with ⟨rfl, _⟩ | ⟨parts, each, possible, put⟩
  · exact Fragment.shaped_nothing
  · exact shaped_conjunction (forall_parts each shaped) possible put

theorem shaped_or {children : List Clause}
    (shaped : ∀ child ∈ children, ∀ part, compiler.Yields context child part → part.Shaped)
    (yields : compiler.Yields context (.or children) fragment) : fragment.Shaped := by
  rcases yields_or yields with ⟨rfl, _⟩ | ⟨parts, each, restricting, put⟩
  · exact Fragment.shaped_everything
  · exact shaped_disjunction (forall_parts each shaped) restricting put

/-- The fragment of any condition has the right shape. -/
theorem shaped_of_yields (standard : compiler.registry.Standard) (clause : Clause)
    (fragment : Fragment) (yields : compiler.Yields context clause fragment) :
    fragment.Shaped := by
  induction clause using Clause.byHead generalizing fragment with
  | terminal leaf => exact shaped_terminal standard yields
  | and children ih => exact shaped_and ih yields
  | or children ih => exact shaped_or ih yields
  | not child ih =>
      obtain ⟨part, partYields, rfl⟩ := yields_not yields
      exact (ih part partYields).negate

end Compiler

/-- If only standard matchers are registered, a compiled query has no group that is empty, purely
negative or mixed. A query for nothing is in no group, and everything is in a group only as the
one thing that all others are taken away from. -/
theorem compiled_queries_are_shaped (compiler : Compiler) (context : SearchContext)
    (clause : Clause) (query : Query) (standard : compiler.registry.Standard)
    (compiled : (compiler.compile context clause).result = .ok query) :
    ∀ group ∈ query.groups, GroupShaped group := by
  obtain ⟨fragment, yields, rfl⟩ := Compiler.compile_result compiled
  exact (Compiler.shaped_of_yields standard clause fragment yields).toQuery

/-- A compiler for a ranked field and for the words of a text. -/
def shelfCompiler : Compiler where
  registry := (Registry.empty.registerOrdered "rank" "rank" plainTerms).registerText
    "title" "title" "exact_title" plainTerms
  operands := FunctionTable.builtIns.literals
  finder := none

/-- Everything but one rank, or a title that has a value and is not of one rank. -/
def offTheShelf : Clause :=
  .or [.not (.terminal (.equals "rank" (.value (.text "5")))),
    .and [.not (.terminal (.equals "title" .empty)),
      .not (.terminal (.equals "rank" (.value (.text "7"))))]]

/-- The query for it. Exclusions on their own are taken away from everything, in two places. -/
def offTheShelfQuery : Query :=
  .group [
    (.should, .group [(.must, .all), (.mustNot, .term "rank" "5")]),
    (.should, .group [(.must, .all), (.mustNot, emptyQuery "exact_title"),
      (.mustNot, .term "rank" "7")])]

theorem compiled_queries_are_shaped_of_offTheShelf :
    shelfCompiler.registry.Standard ∧
    (shelfCompiler.compile ⟨none, .midnight ⟨1970, 1, 1, by decide⟩⟩ offTheShelf).result =
      .ok offTheShelfQuery ∧
    ∀ group ∈ offTheShelfQuery.groups, GroupShaped group := by
  have standard : shelfCompiler.registry.Standard :=
    (Registry.Standard.empty.registerOrdered "rank" "rank" plainTerms).registerText
      "title" "title" "exact_title" plainTerms
  have compiled : (shelfCompiler.compile ⟨none, .midnight ⟨1970, 1, 1, by decide⟩⟩
      offTheShelf).result = .ok offTheShelfQuery := rfl
  exact ⟨standard, compiled, compiled_queries_are_shaped _ _ _ _ standard compiled⟩

end Criteria.Compile
