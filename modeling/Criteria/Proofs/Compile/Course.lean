/-
Module: Criteria.Proofs.Compile.Course
Purpose: What a compilation that ends with a value has done before: the values of the parts
  that it went through, one lemma for each kind of condition.
Main exports:
  Run.bind_result_eq_ok_iff, Compiler.Yields, Compiler.compileHistory_result,
  Compiler.compileComparison_result, Compiler.conjunction_result, Compiler.disjunction_result,
  Compiler.compileUntil_result, Compiler.exists_yields_of_mem, Compiler.forall_parts,
  Compiler.yields_and, Compiler.yields_or, Compiler.yields_not, Compiler.compile_result,
  Compiler.compile_result_eq_error_iff
-/
import Mathlib.Data.List.Forall2
import Criteria.Compile.Compiler
import Criteria.Proofs.Compile.Joining

namespace Criteria.Compile

open Criteria.Changes
open Criteria.Fields
open Criteria.Search

namespace Run

variable {α β : Type}

/-- A run in two parts ends with a value if the first part ends with some value, and the
second, told of it, with this one. -/
theorem bind_result_eq_ok_iff (run : Run α) (next : α → Run β) (value : β) :
    (run >>= next).result = .ok value ↔
      ∃ middle, run.result = .ok middle ∧ (next middle).result = .ok value := by
  change (run.andThen next).result = .ok value ↔ _
  unfold andThen
  cases ending : run.result with
  | ok middle => simp
  | error error => simp

@[simp] theorem pure_result (value : α) : (pure value : Run α).result = .ok value :=
  rfl

@[simp] theorem done_result (value : α) : (Run.done value).result = .ok value :=
  rfl

@[simp] theorem fail_result (error : CompileError) :
    (Run.fail error : Run α).result = .error error :=
  rfl

end Run

namespace Compiler

variable {compiler : Compiler} {context : SearchContext}

/-- The condition is compiled to the fragment. -/
def Yields (compiler : Compiler) (context : SearchContext) (clause : Clause)
    (fragment : Fragment) : Prop :=
  (compiler.compileClause context clause).result = .ok fragment

/-- A condition is compiled to one fragment at most. -/
theorem yields_unique {clause : Clause} {first second : Fragment}
    (one : compiler.Yields context clause first) (two : compiler.Yields context clause second) :
    first = second :=
  Except.ok.inj (one.symm.trans two)

theorem checkWidth_result_eq_ok_iff (clause : Clause) (count : Nat) (value : Unit) :
    (compiler.checkWidth clause count).result = .ok value ↔ count ≤ compiler.limit := by
  unfold checkWidth
  split
  · next wide => simp [Nat.not_le.mpr wide]
  · next narrow => simpa using Nat.not_lt.mp narrow

theorem groupFragment_result {clause : Clause} {clauses : List (Occur × Query)}
    {fragment : Fragment}
    (grouped : (compiler.groupFragment clause clauses).result = .ok fragment) :
    clauses.length ≤ compiler.limit ∧ fragment = { query := .group clauses } := by
  unfold groupFragment at grouped
  obtain ⟨value, narrow, same⟩ := (Run.bind_result_eq_ok_iff ..).mp grouped
  rw [Run.pure_result, Except.ok.injEq] at same
  exact ⟨(checkWidth_result_eq_ok_iff ..).mp narrow, same.symm⟩

/-- A terminal's fragment is kept as it is if it is not too wide. -/
theorem finishTerminal_result {terminal : Terminal} {given fragment : Fragment}
    (finished : (compiler.finishTerminal terminal given).result = .ok fragment) :
    given.query.widestGroup ≤ compiler.limit ∧ fragment = given := by
  unfold finishTerminal at finished
  obtain ⟨value, narrow, rest⟩ := (Run.bind_result_eq_ok_iff ..).mp finished
  obtain ⟨reported, _, same⟩ := (Run.bind_result_eq_ok_iff ..).mp rest
  rw [Run.pure_result, Except.ok.injEq] at same
  exact ⟨(checkWidth_result_eq_ok_iff ..).mp narrow, same.symm⟩

theorem unregistered_result {terminal : Terminal} {fragment : Fragment}
    (unknown : (unregistered terminal).result = .ok fragment) : fragment = .nothing := by
  unfold unregistered at unknown
  obtain ⟨reported, _, same⟩ := (Run.bind_result_eq_ok_iff ..).mp unknown
  rw [Run.pure_result, Except.ok.injEq] at same
  exact same.symm

/-- A question about past changes comes to what was found among the changes, unless nothing is
registered for it. -/
theorem compileHistory_result {terminal : Terminal} {fragment : Fragment}
    (compiled : (compiler.compileHistory context terminal).result = .ok fragment) :
    fragment = .nothing ∨
      ∃ found : Found, fragment = found.fragment ∧
        fragment.query.widestGroup ≤ compiler.limit := by
  unfold compileHistory at compiled
  split at compiled
  · obtain ⟨value, _, rest⟩ := (Run.bind_result_eq_ok_iff ..).mp compiled
    obtain ⟨found, _, rest⟩ := (Run.bind_result_eq_ok_iff ..).mp rest
    obtain ⟨reported, _, rest⟩ := (Run.bind_result_eq_ok_iff ..).mp rest
    obtain ⟨narrow, rfl⟩ := finishTerminal_result rest
    exact .inr ⟨found, rfl, narrow⟩
  · exact .inl (unregistered_result compiled)

/-- A comparison comes to what the matcher of its field and operator answers, unless nothing is
registered for it. -/
theorem compileComparison_result {terminal : Terminal} {fragment : Fragment}
    (compiled : (compiler.compileComparison context terminal).result = .ok fragment) :
    fragment = .nothing ∨
      ∃ matcher, compiler.registry.matcher? terminal.field terminal.operator = some matcher ∧
        fragment =
          matcher.fragment terminal.operator (compiler.operands context terminal.operand) ∧
        fragment.query.widestGroup ≤ compiler.limit := by
  unfold compileComparison at compiled
  split at compiled
  · next matcher registered =>
      obtain ⟨narrow, rfl⟩ := finishTerminal_result compiled
      exact .inr ⟨matcher, registered, rfl, narrow⟩
  · exact .inl (unregistered_result compiled)

/-- The queries that a conjunction of fragments requires. -/
def requiredOf (parts : List Fragment) : List Query :=
  ((parts.filter fun part => !part.isTrue).filter fun part => !part.negated).map (·.query)

/-- The queries that a conjunction of fragments excludes. -/
def excludedOf (parts : List Fragment) : List Query :=
  ((parts.filter fun part => !part.isTrue).filter (·.negated)).map (·.query)

/-- What a conjunction requires or excludes comes from a part that is not known to match
everything. -/
theorem exists_part_of_mem {parts : List Fragment} {query : Query}
    (member : query ∈ requiredOf parts ∨ query ∈ excludedOf parts) :
    ∃ part ∈ parts, part.isTrue = false ∧ part.query = query := by
  have restricting : ∃ part ∈ parts.filter fun part => !part.isTrue, part.query = query := by
    rcases member with required | excluded
    · obtain ⟨part, listed, same⟩ := List.mem_map.mp required
      exact ⟨part, List.mem_of_mem_filter listed, same⟩
    · obtain ⟨part, listed, same⟩ := List.mem_map.mp excluded
      exact ⟨part, List.mem_of_mem_filter listed, same⟩
  obtain ⟨part, kept, same⟩ := restricting
  obtain ⟨listed, notTrue⟩ := List.mem_filter.mp kept
  exact ⟨part, listed, by simpa using notTrue, same⟩

/-- Exclusions need something to be taken away from. -/
def anchored (queries : List Query) : List Query :=
  if queries.isEmpty then [.all] else queries

theorem anchored_ne_nil (queries : List Query) : anchored queries ≠ [] := by
  unfold anchored
  split
  · simp
  · next some => simpa using some

/-- What is neither nothing nor a single clause is two clauses at least. -/
theorem two_le_restriction {required : List Query} {excluded : List Fragment}
    (notEmpty : required = [] → excluded = [] → False)
    (notNegation : ∀ only, required = [] → excluded = [only] → False)
    (notRequirement : ∀ only, mergeRanges required = [only] → excluded = [] → False) :
    2 ≤ (anchored (mergeRanges required)).length + excluded.length := by
  have anchor := List.length_pos_iff.mpr (anchored_ne_nil (mergeRanges required))
  match excluded with
  | [] =>
      have some : mergeRanges required ≠ [] := mergeRanges_ne_nil fun none => notEmpty none rfl
      have notOne : (mergeRanges required).length ≠ 1 := by
        intro one
        obtain ⟨only, same⟩ := List.length_eq_one_iff.mp one
        exact notRequirement only same rfl
      have several := List.length_pos_iff.mpr some
      have unanchored : anchored (mergeRanges required) = mergeRanges required := by
        simp [anchored, some]
      rw [unanchored]
      simp only [List.length_nil]
      omega
  | [only] => exact Nat.succ_le_succ anchor
  | first :: second :: others =>
      simp only [List.length_cons]
      omega

/-- A conjunction comes to everything, to a single negation, to a single requirement, or to
a group of at least two clauses that fits the limit. -/
theorem conjunction_result {clause : Clause} {parts : List Fragment} {fragment : Fragment}
    (put : (compiler.conjunction clause parts).result = .ok fragment) :
    (requiredOf parts = [] ∧ excludedOf parts = [] ∧ fragment = .everything) ∨
    (∃ only, requiredOf parts = [] ∧ excludedOf parts = [only] ∧
      fragment = .excluded only) ∨
    (∃ only, mergeRanges (requiredOf parts) = [only] ∧ excludedOf parts = [] ∧
      fragment = { query := only }) ∨
    (2 ≤ (anchored (mergeRanges (requiredOf parts))).length + (excludedOf parts).length ∧
      (anchored (mergeRanges (requiredOf parts))).length + (excludedOf parts).length ≤
        compiler.limit ∧
      fragment.negated = false ∧
      fragment.query = .group
        ((anchored (mergeRanges (requiredOf parts))).map (fun query => (.must, query)) ++
          (excludedOf parts).map fun query => (.mustNot, query))) := by
  have negative : ∀ part ∈ (parts.filter fun part => !part.isTrue).filter (·.negated),
      part.negated = true := by
    intro part member
    exact (List.mem_filter.mp member).2
  unfold conjunction at put
  dsimp only at put
  unfold requiredOf excludedOf
  generalize (parts.filter fun part => !part.isTrue).filter (·.negated) = excluded
    at put negative ⊢
  generalize ((parts.filter fun part => !part.isTrue).filter fun part =>
    !part.negated).map (·.query) = required at put ⊢
  split at put
  · cases put
    exact .inl ⟨rfl, rfl, rfl⟩
  · next only =>
      cases put
      have isNegation : fragment.negated = true := negative fragment (List.mem_singleton_self _)
      have same : fragment = .excluded fragment.query := by
        rw [Fragment.excluded, ← isNegation]
      exact .inr (.inl ⟨fragment.query, rfl, rfl, same⟩)
  · next notEmpty notNegation =>
      split at put
      · next only single =>
          cases put
          exact .inr (.inr (.inl ⟨only, single, rfl, rfl⟩))
      · next notRequirement =>
          rw [← anchored] at put
          obtain ⟨narrow, rfl⟩ := groupFragment_result put
          refine .inr (.inr (.inr ⟨?_, ?_, rfl, ?_⟩))
          · rw [List.length_map]
            exact two_le_restriction notEmpty notNegation notRequirement
          · simpa using narrow
          · simp

/-- A disjunction comes to nothing, to its only possible alternative, or to a group of
at least two clauses that fits the limit. -/
theorem disjunction_result {clause : Clause} {parts : List Fragment} {fragment : Fragment}
    (put : (compiler.disjunction clause parts).result = .ok fragment) :
    ((parts.filter fun part => !part.isFalse) = [] ∧ fragment = .nothing) ∨
    (parts.filter fun part => !part.isFalse) = [fragment] ∨
    (2 ≤ (parts.filter fun part => !part.isFalse).length ∧
      (parts.filter fun part => !part.isFalse).length ≤ compiler.limit ∧
      fragment.negated = false ∧
      fragment.query = .group (((parts.filter fun part => !part.isFalse).map
        Fragment.toQuery).map fun query => (.should, query))) := by
  unfold disjunction at put
  generalize (parts.filter fun part => !part.isFalse) = kept at put ⊢
  split at put
  · cases put
    exact .inl ⟨rfl, rfl⟩
  · cases put
    exact .inr (.inl rfl)
  · next notEmpty notSingle =>
      obtain ⟨narrow, rfl⟩ := groupFragment_result put
      refine .inr (.inr ⟨?_, ?_, rfl, ?_⟩)
      · match kept, notEmpty, notSingle with
        | first :: second :: others, _, _ => simp
        | [only], _, notSingle => exact absurd rfl (notSingle only)
        | [], notEmpty, _ => exact absurd rfl notEmpty
      · simpa using narrow
      · simp

/-- Children are compiled up to one that decides the whole, or else all of them are, and none
decides. -/
theorem compileUntil_result {decides : Fragment → Bool} {children : List Clause}
    {outcome : Option (List Fragment)}
    (compiled : (compiler.compileUntil context decides children).result = .ok outcome) :
    (outcome = none ∧ ∃ child ∈ children, ∃ fragment,
      compiler.Yields context child fragment ∧ decides fragment = true) ∨
    (∃ fragments, outcome = some fragments ∧
      List.Forall₂ (compiler.Yields context) children fragments ∧
      ∀ fragment ∈ fragments, decides fragment = false) := by
  induction children generalizing outcome with
  | nil =>
      rw [compileUntil, Run.done_result, Except.ok.injEq] at compiled
      exact .inr ⟨[], compiled.symm, .nil, by simp⟩
  | cons child children ih =>
      rw [compileUntil] at compiled
      obtain ⟨fragment, first, rest⟩ := (Run.bind_result_eq_ok_iff ..).mp compiled
      cases decided : decides fragment with
      | true =>
          simp only [decided, if_true, Run.pure_result, Except.ok.injEq] at rest
          exact .inl ⟨rest.symm, child, List.mem_cons_self .., fragment, first, decided⟩
      | false =>
          simp only [decided, Bool.false_eq_true, if_false] at rest
          obtain ⟨others, later, same⟩ := (Run.bind_result_eq_ok_iff ..).mp rest
          rw [Run.pure_result, Except.ok.injEq] at same
          subst same
          rcases ih later with ⟨rfl, decider, member, found⟩ | ⟨fragments, rfl, each, none⟩
          · exact .inl ⟨rfl, decider, List.mem_cons_of_mem _ member, found⟩
          · refine .inr ⟨fragment :: fragments, rfl, .cons first each, ?_⟩
            exact List.forall_mem_cons.mpr ⟨decided, none⟩

/-- Every part comes from a child. -/
theorem exists_yields_of_mem {children : List Clause} {parts : List Fragment}
    (each : List.Forall₂ (compiler.Yields context) children parts) :
    ∀ part ∈ parts, ∃ child ∈ children, compiler.Yields context child part := by
  induction each with
  | nil => simp
  | cons first _ ih =>
      intro part member
      rcases List.mem_cons.mp member with same | later
      · exact ⟨_, List.mem_cons_self .., same ▸ first⟩
      · obtain ⟨child, listed, yields⟩ := ih part later
        exact ⟨child, List.mem_cons_of_mem _ listed, yields⟩

/-- What holds of all that the children can be compiled to holds of each part. -/
theorem forall_parts {children : List Clause} {parts : List Fragment} {holds : Fragment → Prop}
    (each : List.Forall₂ (compiler.Yields context) children parts)
    (ofChild : ∀ child ∈ children, ∀ part, compiler.Yields context child part → holds part) :
    ∀ part ∈ parts, holds part := by
  intro part member
  obtain ⟨child, listed, yields⟩ := exists_yields_of_mem each part member
  exact ofChild child listed part yields

/-- A conjunction is nothing if one of its children is, and else it is put together from the
fragments of its children. -/
theorem yields_and {children : List Clause} {fragment : Fragment}
    (compiled : compiler.Yields context (.and children) fragment) :
    (fragment = .nothing ∧ ∃ child ∈ children, ∃ part,
      compiler.Yields context child part ∧ part.isFalse = true) ∨
    (∃ parts, List.Forall₂ (compiler.Yields context) children parts ∧
      (∀ part ∈ parts, part.isFalse = false) ∧
      (compiler.conjunction (.and children) parts).result = .ok fragment) := by
  rw [Yields, compileClause] at compiled
  obtain ⟨outcome, before, after⟩ := (Run.bind_result_eq_ok_iff ..).mp compiled
  rcases compileUntil_result before with ⟨rfl, decider⟩ | ⟨parts, rfl, each, none⟩
  · rw [Run.pure_result, Except.ok.injEq] at after
    exact .inl ⟨after.symm, decider⟩
  · exact .inr ⟨parts, each, none, after⟩

/-- A disjunction is everything if one of its children is, and else it is put together from
the fragments of its children. -/
theorem yields_or {children : List Clause} {fragment : Fragment}
    (compiled : compiler.Yields context (.or children) fragment) :
    (fragment = .everything ∧ ∃ child ∈ children, ∃ part,
      compiler.Yields context child part ∧ part.isTrue = true) ∨
    (∃ parts, List.Forall₂ (compiler.Yields context) children parts ∧
      (∀ part ∈ parts, part.isTrue = false) ∧
      (compiler.disjunction (.or children) parts).result = .ok fragment) := by
  rw [Yields, compileClause] at compiled
  obtain ⟨outcome, before, after⟩ := (Run.bind_result_eq_ok_iff ..).mp compiled
  rcases compileUntil_result before with ⟨rfl, decider⟩ | ⟨parts, rfl, each, none⟩
  · rw [Run.pure_result, Except.ok.injEq] at after
    exact .inl ⟨after.symm, decider⟩
  · exact .inr ⟨parts, each, none, after⟩

theorem yields_not {child : Clause} {fragment : Fragment}
    (compiled : compiler.Yields context (.not child) fragment) :
    ∃ part, compiler.Yields context child part ∧ fragment = part.negate := by
  rw [Yields, compileClause] at compiled
  obtain ⟨part, before, after⟩ := (Run.bind_result_eq_ok_iff ..).mp compiled
  rw [Run.pure_result, Except.ok.injEq] at after
  exact ⟨part, before, after.symm⟩

theorem compile_result {clause : Clause} {query : Query}
    (compiled : (compiler.compile context clause).result = .ok query) :
    ∃ fragment, compiler.Yields context clause fragment ∧ query = fragment.toQuery := by
  have body : (compiler.compileClause context clause).result.map Fragment.toQuery =
      .ok query := compiled
  cases ending : (compiler.compileClause context clause).result with
  | error error =>
      rw [ending] at body
      cases body
  | ok fragment =>
      rw [ending] at body
      cases body
      exact ⟨fragment, ending, rfl⟩

/-- A whole compilation ends with the error that compiling its condition ends with. -/
theorem compile_result_eq_error_iff {clause : Clause} (error : CompileError) :
    (compiler.compile context clause).result = .error error ↔
      (compiler.compileClause context clause).result = .error error := by
  change (compiler.compileClause context clause).result.map Fragment.toQuery = _ ↔ _
  cases (compiler.compileClause context clause).result with
  | ok fragment => simp [Except.map]
  | error other => simp [Except.map]

end Compiler

end Criteria.Compile
