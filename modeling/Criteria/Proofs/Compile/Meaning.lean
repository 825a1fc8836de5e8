/-
Module: Criteria.Proofs.Compile.Meaning
Purpose: Compiling keeps the meaning of a condition: the query finds the documents that the
  condition stands for when each terminal stands for the documents that its own fragment
  finds.
Main exports:
  Compiler.conjunction_accepts, Compiler.disjunction_accepts, Compiler.yields_reads,
  Compiler.found, compiling_keeps_meaning
-/
import Criteria.Proofs.Compile.Course
import Criteria.Proofs.Compile.Joining
import Criteria.Proofs.Search.Evaluation

namespace Criteria.Compile

open Criteria.Fields
open Criteria.Search

open Std (ExtTreeSet)

/-! ### Putting fragments together -/

namespace Compiler

variable {compiler : Compiler} {clause : Clause} {parts : List Fragment} {fragment : Fragment}
variable {document : Document}

/-- All fragments accept a document if the required queries hold of it and the excluded ones
do not. What matches everything may be left out. -/
theorem accepts_all_iff (parts : List Fragment) :
    (∀ part ∈ parts, part.Accepts document) ↔
      (∀ query ∈ requiredOf parts, document.Matches query) ∧
        ∀ query ∈ excludedOf parts, ¬ document.Matches query := by
  simp only [requiredOf, excludedOf, List.forall_mem_map, List.mem_filter, Bool.not_eq_true',
    and_imp]
  constructor
  · intro allAccept
    constructor
    · intro part member _ positive
      simpa [Fragment.Accepts, positive] using allAccept part member
    · intro part member _ negative
      simpa [Fragment.Accepts, negative] using allAccept part member
  · intro given part member
    rcases given with ⟨positives, negatives⟩
    cases known : part.isTrue with
    | true => exact Fragment.accepts_of_isTrue known
    | false =>
        cases sign : part.negated with
        | true => simpa [Fragment.Accepts, sign] using negatives part member known sign
        | false => simpa [Fragment.Accepts, sign] using positives part member known sign

/-- Some fragment accepts a document if one does that may match something at all. -/
theorem accepts_any_iff (parts : List Fragment) :
    (∃ part ∈ parts, part.Accepts document) ↔
      ∃ part ∈ parts.filter fun part => !part.isFalse, part.Accepts document := by
  simp only [List.mem_filter, Bool.not_eq_true']
  constructor
  · intro given
    rcases given with ⟨part, member, accepts⟩
    cases known : part.isFalse with
    | true => exact absurd accepts (Fragment.not_accepts_of_isFalse known)
    | false => exact ⟨part, ⟨member, known⟩, accepts⟩
  · intro given
    rcases given with ⟨part, ⟨member, _⟩, accepts⟩
    exact ⟨part, member, accepts⟩

theorem settles_group (clauses : List (Occur × Query)) :
    document.Settles (.group clauses) := by
  intro field lower upper same
  cases same

theorem matches_anchored_iff (queries : List Query) :
    (∀ query ∈ anchored queries, document.Matches query) ↔
      ∀ query ∈ queries, document.Matches query := by
  cases queries with
  | nil => simp [anchored, Document.Matches]
  | cons query queries => rfl

/-- A conjunction accepts what all of its parts accept. -/
theorem conjunction_accepts (settled : ∀ part ∈ parts, document.Settles part.query)
    (put : (compiler.conjunction clause parts).result = .ok fragment) :
    (fragment.Accepts document ↔ ∀ part ∈ parts, part.Accepts document) ∧
      document.Settles fragment.query := by
  have requiredSettled : ∀ query ∈ requiredOf parts, document.Settles query := by
    intro query member
    obtain ⟨part, listed, _, rfl⟩ := exists_part_of_mem (.inl member)
    exact settled part listed
  have excludedSettled : ∀ query ∈ excludedOf parts, document.Settles query := by
    intro query member
    obtain ⟨part, listed, _, rfl⟩ := exists_part_of_mem (.inr member)
    exact settled part listed
  have mergedSettled := settles_mergeRanges requiredSettled
  -- joining ranges is where a second term in a field would change the answer
  rw [accepts_all_iff, ← matches_mergeRanges_iff requiredSettled]
  rcases conjunction_result put with ⟨noneRequired, noneExcluded, rfl⟩ |
    ⟨only, noneRequired, single, rfl⟩ | ⟨only, single, noneExcluded, rfl⟩ |
    ⟨_, _, positive, grouped⟩
  · rw [noneRequired, noneExcluded]
    refine ⟨by simp [mergeRanges], ?_⟩
    simp [Fragment.everything, Document.Settles]
  · rw [single] at excludedSettled ⊢
    rw [noneRequired]
    simp only [List.forall_mem_singleton] at excludedSettled ⊢
    simp [mergeRanges, Fragment.Accepts, Fragment.excluded, excludedSettled]
  · rw [single] at mergedSettled ⊢
    rw [noneExcluded]
    simp only [List.forall_mem_singleton] at mergedSettled ⊢
    simp [Fragment.Accepts, mergedSettled]
  · rw [Fragment.Accepts, positive, if_neg Bool.false_ne_true, grouped]
    rw [document.matches_restriction_iff (anchored_ne_nil _), matches_anchored_iff]
    exact ⟨Iff.rfl, settles_group _⟩

/-- A disjunction accepts what one of its parts accepts. -/
theorem disjunction_accepts (settled : ∀ part ∈ parts, document.Settles part.query)
    (put : (compiler.disjunction clause parts).result = .ok fragment) :
    (fragment.Accepts document ↔ ∃ part ∈ parts, part.Accepts document) ∧
      document.Settles fragment.query := by
  have keptSettled : ∀ part ∈ parts.filter fun part => !part.isFalse,
      document.Settles part.query := by
    intro part member
    exact settled part (List.mem_of_mem_filter member)
  rw [accepts_any_iff]
  rcases disjunction_result put with ⟨noneKept, rfl⟩ | single | ⟨_, _, positive, grouped⟩
  · rw [noneKept]
    simp [Fragment.nothing, Fragment.Accepts, Document.Matches, Document.Settles]
  · rw [single] at keptSettled ⊢
    simpa using keptSettled
  · rw [Fragment.Accepts, positive, if_neg Bool.false_ne_true, grouped]
    refine ⟨?_, settles_group _⟩
    rw [document.matches_alternatives_iff]
    simp only [List.mem_map, exists_exists_and_eq_and, Fragment.matches_toQuery_iff]

/-! ### Conditions -/

variable {context : SearchContext}

/-- The terminal wants the document: the fragment that it is compiled to on its own does. -/
def Answers (compiler : Compiler) (context : SearchContext) (document : Document)
    (leaf : Terminal) : Prop :=
  ∃ fragment, compiler.Yields context (.terminal leaf) fragment ∧ fragment.Accepts document

/-- A document has only one term in the fields of the ranges that terminals are compiled
to. -/
def SettlesLeaves (compiler : Compiler) (context : SearchContext) (document : Document)
    (leaves : List Terminal) : Prop :=
  ∀ leaf ∈ leaves, ∀ fragment, compiler.Yields context (.terminal leaf) fragment →
    document.Settles fragment.query

/-- What has to be shown of a condition and its fragment. -/
structure Reads (compiler : Compiler) (context : SearchContext) (document : Document)
    (clause : Clause) (fragment : Fragment) : Prop where
  accepts_iff : fragment.Accepts document ↔
    clause.Holds (compiler.Answers context document)
  settled : document.Settles fragment.query

theorem allHold_iff_of_reads {children : List Clause}
    (each : List.Forall₂ (compiler.Reads context document) children parts) :
    Clause.AllHold (compiler.Answers context document) children ↔
      ∀ part ∈ parts, part.Accepts document := by
  induction each with
  | nil => simp [Clause.AllHold]
  | cons first _ ih => rw [Clause.AllHold, ← first.accepts_iff, ih, List.forall_mem_cons]

theorem anyHolds_iff_of_reads {children : List Clause}
    (each : List.Forall₂ (compiler.Reads context document) children parts) :
    Clause.AnyHolds (compiler.Answers context document) children ↔
      ∃ part ∈ parts, part.Accepts document := by
  induction each with
  | nil => simp [Clause.AnyHolds]
  | cons first _ ih =>
      rw [Clause.AnyHolds, ← first.accepts_iff, ih]
      simp only [List.mem_cons, exists_eq_or_imp]

theorem settled_of_reads {children : List Clause}
    (each : List.Forall₂ (compiler.Reads context document) children parts) :
    ∀ part ∈ parts, document.Settles part.query := by
  induction each with
  | nil => simp
  | cons first _ ih => exact List.forall_mem_cons.mpr ⟨first.settled, ih⟩

theorem reads_each {children : List Clause}
    (reads : ∀ child ∈ children, ∀ part, compiler.Yields context child part →
      compiler.Reads context document child part)
    (each : List.Forall₂ (compiler.Yields context) children parts) :
    List.Forall₂ (compiler.Reads context document) children parts := by
  induction each with
  | nil => exact .nil
  | cons first _ ih =>
      rw [List.forall_mem_cons] at reads
      exact .cons (reads.1 _ first) (ih reads.2)

theorem reads_terminal {leaf : Terminal} (settles : document.Settles fragment.query)
    (yields : compiler.Yields context (.terminal leaf) fragment) :
    compiler.Reads context document (.terminal leaf) fragment := by
  refine ⟨?_, settles⟩
  constructor
  · intro accepts
    exact ⟨fragment, yields, accepts⟩
  · intro given
    rcases given with ⟨other, otherYields, accepts⟩
    rw [Yields, yields, Except.ok.injEq] at otherYields
    rw [otherYields]
    exact accepts

theorem reads_and {children : List Clause}
    (reads : ∀ child ∈ children, ∀ part, compiler.Yields context child part →
      compiler.Reads context document child part)
    (yields : compiler.Yields context (.and children) fragment) :
    compiler.Reads context document (.and children) fragment := by
  rcases yields_and yields with ⟨rfl, child, member, part, partYields, isFalse⟩ |
    ⟨parts, each, _, put⟩
  -- a part that matches nothing ends the compilation, so nothing is known of the later ones
  · refine ⟨?_, by simp [Fragment.nothing, Document.Settles]⟩
    have fails : ¬ child.Holds (compiler.Answers context document) := by
      rw [← (reads child member part partYields).accepts_iff]
      exact Fragment.not_accepts_of_isFalse isFalse
    rw [Clause.Holds, Clause.allHold_iff]
    simp only [Fragment.not_accepts_nothing, false_iff]
    intro allHold
    exact fails (allHold child member)
  · have eachReads := reads_each reads each
    obtain ⟨accepts_iff, settled⟩ := conjunction_accepts (settled_of_reads eachReads) put
    refine ⟨?_, settled⟩
    rw [accepts_iff, Clause.Holds, allHold_iff_of_reads eachReads]

theorem reads_or {children : List Clause}
    (reads : ∀ child ∈ children, ∀ part, compiler.Yields context child part →
      compiler.Reads context document child part)
    (yields : compiler.Yields context (.or children) fragment) :
    compiler.Reads context document (.or children) fragment := by
  rcases yields_or yields with ⟨rfl, child, member, part, partYields, isTrue⟩ |
    ⟨parts, each, _, put⟩
  · refine ⟨?_, by simp [Fragment.everything, Document.Settles]⟩
    have holds : child.Holds (compiler.Answers context document) := by
      rw [← (reads child member part partYields).accepts_iff]
      exact Fragment.accepts_of_isTrue isTrue
    rw [Clause.Holds, Clause.anyHolds_iff]
    simp only [Fragment.accepts_everything, true_iff]
    exact ⟨child, member, holds⟩
  · have eachReads := reads_each reads each
    obtain ⟨accepts_iff, settled⟩ := disjunction_accepts (settled_of_reads eachReads) put
    refine ⟨?_, settled⟩
    rw [accepts_iff, Clause.Holds, anyHolds_iff_of_reads eachReads]

theorem settles_negate (settled : document.Settles fragment.query) :
    document.Settles fragment.negate.query := by
  unfold Fragment.negate
  split
  · simp [Fragment.everything, Document.Settles]
  · split
    · simp [Fragment.nothing, Document.Settles]
    · exact settled

mutual

/-- The fragment of a condition accepts the documents for which the condition holds. -/
theorem yields_reads : ∀ {clause : Clause} {fragment : Fragment},
    compiler.SettlesLeaves context document clause.terminals →
    compiler.Yields context clause fragment → compiler.Reads context document clause fragment
  | .terminal leaf, fragment, settles, yields =>
      reads_terminal (settles leaf (List.mem_singleton_self leaf) fragment yields) yields
  | .and children, _, settles, yields => reads_and (yields_reads_of_mem settles) yields
  | .or children, _, settles, yields => reads_or (yields_reads_of_mem settles) yields
  | .not child, _, settles, yields => by
      obtain ⟨part, partYields, rfl⟩ := yields_not yields
      have childReads : compiler.Reads context document child part :=
        yields_reads settles partYields
      refine ⟨?_, settles_negate childReads.settled⟩
      rw [Fragment.accepts_negate_iff, childReads.accepts_iff, Clause.Holds]

theorem yields_reads_of_mem : ∀ {children : List Clause},
    compiler.SettlesLeaves context document (Clause.terminalsOf children) →
    ∀ child ∈ children, ∀ part, compiler.Yields context child part →
      compiler.Reads context document child part
  | first :: others, settles, child, member, part, yields => by
      rw [Clause.terminalsOf, SettlesLeaves, List.forall_mem_append] at settles
      rcases List.mem_cons.mp member with same | later
      · rw [same] at yields ⊢
        exact yields_reads settles.1 yields
      · exact yields_reads_of_mem settles.2 child later part yields

end

end Compiler

/-! ### Conditions as operations on sets -/

/-- The documents that a terminal stands for: those that its own fragment finds. -/
def Compiler.found (compiler : Compiler) (context : SearchContext) (store : Store)
    (leaf : Terminal) : IdSet :=
  match (compiler.compileClause context (.terminal leaf)).result with
  | .ok fragment => store.matching fragment
  | .error _ => ∅

theorem Compiler.mem_found_iff {store : Store} (coherent : store.Coherent)
    (compiler : Compiler) (context : SearchContext) (leaf : Terminal) (id : String) :
    id ∈ compiler.found context store leaf ↔
      ∃ document, store.get? id = some document ∧ compiler.Answers context document leaf := by
  unfold Compiler.found Compiler.Answers Compiler.Yields
  cases compiled : (compiler.compileClause context (.terminal leaf)).result with
  | ok fragment => simp [Store.mem_matching_iff coherent]
  | error error => simp

/-- A compiled query finds what the condition stands for, read as an operation on sets of
documents, if each document has only one term in the fields of the ranges that terminals are
compiled to. Terminals that are not compiled because their surroundings are decided without
them may come to anything, errors included. -/
theorem compiling_keeps_meaning (compiler : Compiler) (context : SearchContext)
    (clause : Clause) (updates : List Update) (query : Query)
    (compiled : (compiler.compile context clause).result = .ok query)
    (single : ∀ document, Stored updates document →
      compiler.SettlesLeaves context document clause.terminals) :
    (Store.after updates).search query =
      (Store.after updates).evaluate
        (compiler.found context (Store.after updates)) clause := by
  have coherent := Store.coherent_after updates
  have within : ∀ leaf, ∀ id ∈ compiler.found context (Store.after updates) leaf,
      id ∈ (Store.after updates).ids := by
    intro leaf id member
    obtain ⟨document, stored, _⟩ :=
      (Compiler.mem_found_iff coherent compiler context leaf id).mp member
    exact (Store.mem_ids_iff _ id).mpr ⟨document, stored⟩
  obtain ⟨fragment, yields, rfl⟩ := Compiler.compile_result compiled
  apply ExtTreeSet.ext_mem
  intro id
  rw [Store.mem_search_iff coherent, Store.mem_evaluate_iff _ _ within, Store.mem_ids_iff]
  simp only [Compiler.mem_found_iff coherent, Fragment.matches_toQuery_iff]
  cases stored : (Store.after updates).get? id with
  | none => simp
  | some document =>
      have isStored := ((get?_after updates id document).mp stored).1
      have reads := Compiler.yields_reads (single document isStored) yields
      simp [reads.accepts_iff]

/-- A compiler for one field, ranked by its plain terms. -/
def rankCompiler : Compiler where
  registry := Registry.empty.registerOrdered "rank" "rank" plainTerms
  operands := FunctionTable.builtIns.literals
  finder := none

/-- The ranks from 3 up to 7, without 5. -/
def middleRanks : Clause :=
  .and [.terminal (.greaterThanEquals "rank" (.value (.text "3"))),
    .terminal (.lessThan "rank" (.value (.text "7"))),
    .not (.terminal (.equals "rank" (.value (.text "5"))))]

/-- Two documents of middle ranks, one of which is replaced by the excluded rank. -/
def rankUpdates : List Update :=
  [.insert ((Document.empty "a").withTerm "rank" "4"),
    .insert ((Document.empty "b").withTerm "rank" "6"),
    .insert ((Document.empty "b").withTerm "rank" "5")]

/-- The three terminals become one range and one exclusion. -/
theorem compiling_keeps_meaning_of_middleRanks :
    (rankCompiler.compile ⟨none, .midnight ⟨1970, 1, 1, by decide⟩⟩ middleRanks).result =
      .ok (.group [(.must, .range "rank" (.included "3") (.excluded "7")),
        (.mustNot, .term "rank" "5")]) ∧
    (Store.after rankUpdates).search
        (.group [(.must, .range "rank" (.included "3") (.excluded "7")),
          (.mustNot, .term "rank" "5")]) =
      (Store.after rankUpdates).evaluate
        (rankCompiler.found ⟨none, .midnight ⟨1970, 1, 1, by decide⟩⟩
          (Store.after rankUpdates)) middleRanks := by
  refine ⟨rfl, compiling_keeps_meaning _ _ _ _ _ rfl ?_⟩
  intro document stored leaf _ fragment _ field lower upper _
  have oneTerm (id term : String) :
      ((Document.empty id).withTerm "rank" term).HoldsOne field := by
    intro first isFirst second isSecond
    by_cases here : "rank" = field <;>
      simp_all [Document.terms, Document.withTerm, Document.empty]
  have inserted := stored.mem
  simp only [rankUpdates, List.mem_cons, Update.insert.injEq, List.not_mem_nil,
    or_false] at inserted
  rcases inserted with rfl | rfl | rfl
  · exact oneTerm "a" "4"
  · exact oneTerm "b" "6"
  · exact oneTerm "b" "5"

end Criteria.Compile
