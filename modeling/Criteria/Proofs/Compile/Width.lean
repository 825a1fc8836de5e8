/-
Module: Criteria.Proofs.Compile.Width
Purpose: No group of a compiled query is wider than the limit, but for the one that a lone
  negation needs; and no wider query is put to the index of changes on the way.
Main exports:
  Compiler.narrow_conjunction, Compiler.narrow_disjunction, Compiler.narrow_of_yields,
  Compiler.compileTerminal_searches, compiled_groups_fit_unless_anchored,
  searches_fit_the_limit
-/
import Criteria.Proofs.Compile.Reach

namespace Criteria.Compile

open Criteria.Changes
open Criteria.Fields
open Criteria.Search

namespace Compiler

variable {compiler : Compiler} {context : SearchContext} {clause : Clause} {leaf : Terminal}
variable {parts : List Fragment} {fragment : Fragment}

/-! ### Fragments -/

theorem narrow_terminal (yields : compiler.Yields context (.terminal leaf) fragment) :
    fragment.query.widestGroup ≤ compiler.limit := by
  rw [Yields, compileClause, compileTerminal] at yields
  split at yields
  · rcases compileHistory_result yields with rfl | ⟨found, rfl, narrow⟩
    · exact Nat.zero_le _
    · exact narrow
  · rcases compileComparison_result yields with rfl | ⟨matcher, _, rfl, narrow⟩
    · exact Nat.zero_le _
    · exact narrow

theorem narrow_of_mem_mergeRanges {queries : List Query} {bound : Nat}
    (each : ∀ query ∈ queries, query.widestGroup ≤ bound) :
    ∀ query ∈ mergeRanges queries, query.widestGroup ≤ bound := by
  intro query member
  rcases mem_mergeRanges_cases member with before | ⟨field, lower, upper, rfl, _⟩
  · exact each query before
  · exact Nat.zero_le _

theorem narrow_of_mem_anchored {queries : List Query} {bound : Nat}
    (each : ∀ query ∈ queries, query.widestGroup ≤ bound) :
    ∀ query ∈ anchored queries, query.widestGroup ≤ bound := by
  unfold anchored
  split
  · simp
  · exact each

/-- A conjunction checks only the group that it makes itself. The groups inside are those of its
parts. -/
theorem narrow_conjunction (narrow : ∀ part ∈ parts, part.query.widestGroup ≤ compiler.limit)
    (put : (compiler.conjunction clause parts).result = .ok fragment) :
    fragment.query.widestGroup ≤ compiler.limit := by
  have ofParts (query : Query) (member : query ∈ requiredOf parts ∨ query ∈ excludedOf parts) :
      query.widestGroup ≤ compiler.limit := by
    obtain ⟨part, listed, _, rfl⟩ := exists_part_of_mem member
    exact narrow part listed
  have eachRequired : ∀ query ∈ mergeRanges (requiredOf parts),
      query.widestGroup ≤ compiler.limit :=
    narrow_of_mem_mergeRanges fun query member => ofParts query (.inl member)
  have eachExcluded : ∀ query ∈ excludedOf parts, query.widestGroup ≤ compiler.limit :=
    fun query member => ofParts query (.inr member)
  rcases conjunction_result put with ⟨_, _, rfl⟩ | ⟨only, _, single, rfl⟩ |
    ⟨only, single, _, rfl⟩ | ⟨_, fits, _, grouped⟩
  · exact Nat.zero_le _
  · exact eachExcluded only (single ▸ List.mem_singleton_self only)
  · exact eachRequired only (single ▸ List.mem_singleton_self only)
  · rw [grouped, Query.widestGroup_restriction_le_iff]
    exact ⟨fits, narrow_of_mem_anchored eachRequired, eachExcluded⟩

/-- A group of alternatives has at least two of them, so there is room for the pairs that negated
alternatives need. -/
theorem narrow_disjunction (narrow : ∀ part ∈ parts, part.query.widestGroup ≤ compiler.limit)
    (put : (compiler.disjunction clause parts).result = .ok fragment) :
    fragment.query.widestGroup ≤ compiler.limit := by
  rcases disjunction_result put with ⟨_, rfl⟩ | single | ⟨several, fits, _, grouped⟩
  · exact Nat.zero_le _
  · have kept : fragment ∈ parts.filter fun part => !part.isFalse :=
      single ▸ List.mem_singleton_self fragment
    exact narrow fragment (List.mem_of_mem_filter kept)
  · rw [grouped, Query.widestGroup_alternatives_le_iff, List.length_map]
    refine ⟨fits, ?_⟩
    intro query member
    obtain ⟨part, kept, rfl⟩ := List.mem_map.mp member
    rw [Fragment.widestGroup_toQuery_le_iff]
    exact ⟨narrow part (List.mem_of_mem_filter kept), fun _ => Nat.le_trans several fits⟩

/-- No group of a fragment is wider than the limit, whatever the limit. -/
theorem narrow_of_yields (clause : Clause) (fragment : Fragment)
    (yields : compiler.Yields context clause fragment) :
    fragment.query.widestGroup ≤ compiler.limit := by
  induction clause using Clause.byHead generalizing fragment with
  | terminal leaf => exact narrow_terminal yields
  | and children ih =>
      rcases yields_and yields with ⟨rfl, _⟩ | ⟨parts, each, _, put⟩
      · exact Nat.zero_le _
      · exact narrow_conjunction (forall_parts each ih) put
  | or children ih =>
      rcases yields_or yields with ⟨rfl, _⟩ | ⟨parts, each, _, put⟩
      · exact Nat.zero_le _
      · exact narrow_disjunction (forall_parts each ih) put
  | not child ih =>
      obtain ⟨part, partYields, rfl⟩ := yields_not yields
      exact Nat.le_trans part.widestGroup_negate_le (ih part partYields)

/-! ### Searches among the changes -/

/-- A terminal puts its question to the index of changes if it has one that fits the limit. -/
theorem compileTerminal_searches (compiler : Compiler) (context : SearchContext)
    (leaf : Terminal) :
    (compiler.compileTerminal context leaf).searches =
      ((compiler.question? context leaf).filter
        fun query => query.widestGroup ≤ compiler.limit).toList := by
  have course := compiler.terminalCourse_compileTerminal context leaf
  generalize compiler.compileTerminal context leaf = run at course ⊢
  cases course with
  | unregistered unknown noQuestion => simp [Run.searches, noQuestion]
  | refused count wide unasked =>
      cases asked : compiler.question? context leaf with
      | none => rfl
      | some query => simp [Run.searches, Option.filter, unasked query asked]
  | failed query asked narrow error => simp [Run.searches, Option.filter, asked, narrow]
  | compared known noQuestion fragment => simp [Run.searches, noQuestion]
  | answered known narrow found =>
      cases asked : compiler.question? context leaf with
      | none => rfl
      | some query => simp [Run.searches, Option.filter, narrow query asked]

theorem mem_compileTerminal_searches_iff (compiler : Compiler) (context : SearchContext)
    (leaf : Terminal) (query : Query) :
    query ∈ (compiler.compileTerminal context leaf).searches ↔
      compiler.question? context leaf = some query ∧ query.widestGroup ≤ compiler.limit := by
  rw [compileTerminal_searches, Option.mem_toList, Option.filter_eq_some_iff,
    decide_eq_true_iff]

/-- A terminal that is refused for its width has asked nothing. -/
theorem searches_of_tooComplex {part : Clause} {limit count : Nat}
    (refused : (compiler.compileTerminal context leaf).result =
      .error (.tooComplex part limit count)) :
    (compiler.compileTerminal context leaf).searches = [] := by
  have course := compiler.terminalCourse_compileTerminal context leaf
  generalize compiler.compileTerminal context leaf = run at course refused ⊢
  cases course with
  | unregistered | failed | compared | answered => cases refused
  | refused => rfl

/-- A compilation puts the questions of the terminals that it gets to, and no others. -/
theorem compileClause_searches (compiler : Compiler) (context : SearchContext) (clause : Clause) :
    (compiler.compileClause context clause).searches =
      (compiler.reached context clause).flatMap fun leaf =>
        (compiler.compileTerminal context leaf).searches := by
  rw [Run.searches, compileClause_steps, List.filterMap_flatMap]
  rfl

theorem narrow_of_mem_searches {query : Query}
    (asked : query ∈ (compiler.compileClause context clause).searches) :
    query.widestGroup ≤ compiler.limit := by
  rw [compileClause_searches] at asked
  obtain ⟨leaf, _, put⟩ := List.mem_flatMap.mp asked
  exact ((mem_compileTerminal_searches_iff compiler context leaf query).mp put).2

theorem compile_searches (compiler : Compiler) (context : SearchContext) (clause : Clause) :
    (compiler.compile context clause).searches =
      (compiler.compileClause context clause).searches := by
  simp [compile, Run.searches]

end Compiler

/-- A compiled query fits the limit, unless the limit is below two and the whole condition came to
a negation: what it is taken away from makes a group of two, which no check sees. -/
theorem compiled_groups_fit_unless_anchored (compiler : Compiler) (context : SearchContext)
    (clause : Clause) (query : Query)
    (compiled : (compiler.compile context clause).result = .ok query) :
    query.widestGroup ≤ max 2 compiler.limit ∧
      (query.widestGroup ≤ compiler.limit ↔
        2 ≤ compiler.limit ∨
          ∃ fragment, compiler.Yields context clause fragment ∧ fragment.negated = false) := by
  obtain ⟨fragment, yields, rfl⟩ := Compiler.compile_result compiled
  have narrow := Compiler.narrow_of_yields clause fragment yields
  rw [Fragment.widestGroup_toQuery_le_iff, Fragment.widestGroup_toQuery_le_iff]
  refine ⟨⟨Nat.le_trans narrow (Nat.le_max_right ..), fun _ => Nat.le_max_left ..⟩, ?_⟩
  constructor
  · intro fits
    cases sign : fragment.negated with
    | true => exact .inl (fits.2 sign)
    | false => exact .inr ⟨fragment, yields, sign⟩
  · intro room
    refine ⟨narrow, ?_⟩
    intro negation
    rcases room with wideLimit | ⟨other, otherYields, positive⟩
    · exact wideLimit
    · rw [Compiler.yields_unique otherYields yields, negation] at positive
      cases positive

/-- A compiler for one field, for an index that accepts no group of two. -/
def narrowCompiler : Compiler where
  registry := Registry.empty.register "status" (.equality "status" plainTerms)
  operands := FunctionTable.builtIns.literals
  finder := none
  limit := 1

/-- Anything but open. -/
def notOpen : Clause :=
  .not (.terminal (.equals "status" (.value (.text "open"))))

/-- The query for it is two wide, and is still compiled. -/
theorem lone_negation_exceeds_a_limit_of_one :
    1 ≤ narrowCompiler.limit ∧
    (narrowCompiler.compile ⟨none, .midnight ⟨1970, 1, 1, by decide⟩⟩ notOpen).result =
      .ok (.excluding .all (.term "status" "open")) ∧
    narrowCompiler.limit < (Query.excluding .all (.term "status" "open")).widestGroup :=
  ⟨by decide, rfl, by decide⟩

theorem compiled_groups_fit_unless_anchored_of_notOpen :
    (narrowCompiler.compile ⟨none, .midnight ⟨1970, 1, 1, by decide⟩⟩ notOpen).result =
      .ok (.excluding .all (.term "status" "open")) ∧
    (Query.excluding .all (.term "status" "open")).widestGroup ≤ max 2 narrowCompiler.limit ∧
      ((Query.excluding .all (.term "status" "open")).widestGroup ≤ narrowCompiler.limit ↔
        2 ≤ narrowCompiler.limit ∨
          ∃ fragment, narrowCompiler.Yields ⟨none, .midnight ⟨1970, 1, 1, by decide⟩⟩ notOpen
            fragment ∧ fragment.negated = false) :=
  ⟨rfl, compiled_groups_fit_unless_anchored narrowCompiler _ notOpen _ rfl⟩

/-- Whatever the limit, a fragment fits it, and so does every query that is put to the index of
changes on the way, also if the compilation ends with an error. Each terminal that the
compilation gets to asks once at most, and those that have no question or are refused ask
nothing. -/
theorem searches_fit_the_limit (compiler : Compiler) (context : SearchContext)
    (clause : Clause) :
    (∀ fragment, compiler.Yields context clause fragment →
      fragment.query.widestGroup ≤ compiler.limit) ∧
    (compiler.compile context clause).searches =
      (compiler.compileClause context clause).searches ∧
    (∀ query ∈ (compiler.compileClause context clause).searches,
      query.widestGroup ≤ compiler.limit) ∧
    (compiler.compileClause context clause).searches =
      (compiler.reached context clause).flatMap (fun leaf =>
        (compiler.compileTerminal context leaf).searches) ∧
    (compiler.reached context clause).Sublist clause.terminals ∧
    ∀ leaf ∈ compiler.reached context clause,
      (compiler.compileTerminal context leaf).searches.length ≤ 1 ∧
      (∀ query, query ∈ (compiler.compileTerminal context leaf).searches ↔
        compiler.question? context leaf = some query ∧ query.widestGroup ≤ compiler.limit) ∧
      (compiler.question? context leaf = none →
        (compiler.compileTerminal context leaf).searches = []) ∧
      ∀ part limit count,
        (compiler.compileTerminal context leaf).result = .error (.tooComplex part limit count) →
          (compiler.compileTerminal context leaf).searches = [] := by
  refine ⟨compiler.narrow_of_yields clause, compiler.compile_searches context clause,
    fun query => Compiler.narrow_of_mem_searches, compiler.compileClause_searches context clause,
    compiler.reached_sublist_terminals context clause, ?_⟩
  intro leaf _
  refine ⟨?_, compiler.mem_compileTerminal_searches_iff context leaf, ?_,
    fun _ _ _ => Compiler.searches_of_tooComplex⟩
  · rw [Compiler.compileTerminal_searches]
    exact Option.length_toList_le
  · intro noQuestion
    rw [Compiler.compileTerminal_searches, noQuestion]
    rfl

end Criteria.Compile
