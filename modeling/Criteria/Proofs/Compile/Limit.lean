/-
Module: Criteria.Proofs.Compile.Limit
Purpose: The limit decides only whether a condition is compiled, not what it is compiled to: with a
  higher limit a compilation takes the same course, up to the check that the lower one fails.
Main exports:
  Clause.nodes, Compiler.withLimit, Run.TooWide, Foretells, Foretells.bind,
  Compiler.foretells_compileClause, raising_the_limit_changes_refusals_only
-/
import Criteria.Proofs.Compile.Reach

namespace Criteria.Clause

mutual

/-- The nodes of the tree, each before those below it. -/
def nodes : Clause → List Clause
  | .terminal leaf => [.terminal leaf]
  | .and children => .and children :: nodesOf children
  | .or children => .or children :: nodesOf children
  | .not child => .not child :: child.nodes

/-- The nodes of several trees. -/
def nodesOf : List Clause → List Clause
  | [] => []
  | child :: children => child.nodes ++ nodesOf children

end

theorem length_nodesOf {children : List Clause}
    (each : ∀ child ∈ children, child.nodes.length = child.nodeCount) :
    (nodesOf children).length = nodeCountOf children := by
  induction children with
  | nil => rfl
  | cons child children ih =>
      obtain ⟨first, others⟩ := List.forall_mem_cons.mp each
      rw [nodesOf, nodeCountOf, List.length_append, first, ih others]

/-- The list of nodes is as long as the number of nodes says. -/
theorem length_nodes (clause : Clause) : clause.nodes.length = clause.nodeCount := by
  induction clause using Clause.byHead with
  | terminal leaf => rfl
  | and children ih => rw [nodes, nodeCount, List.length_cons, length_nodesOf ih, Nat.add_comm]
  | or children ih => rw [nodes, nodeCount, List.length_cons, length_nodesOf ih, Nat.add_comm]
  | not child ih => rw [nodes, nodeCount, List.length_cons, ih, Nat.add_comm]

theorem mem_nodes_self (clause : Clause) : clause ∈ clause.nodes := by
  cases clause <;> exact List.mem_cons_self ..

end Criteria.Clause

namespace Criteria.Compile

open Criteria.Changes
open Criteria.Fields
open Criteria.Search

/-- The run ends because a group is wider than the limit. -/
def Run.TooWide {α : Type} (run : Run α) : Prop :=
  ∃ part limit count, run.result = .error (.tooComplex part limit count)

theorem Run.not_tooWide_of_ok {α : Type} {run : Run α} {value : α}
    (ended : run.result = .ok value) : ¬ run.TooWide := by
  rintro ⟨part, limit, count, refused⟩
  rw [ended] at refused
  cases refused

/-- What a run with a low limit tells of the same run with a higher one. If nothing was too wide
the other run is the same. Else one of the nodes was too wide for the low limit, and the other run
is refused at the same place if it is too wide for the high limit as well. -/
inductive Foretells {α : Type} (low high : Nat) (nodes : List Clause) : Run α → Run α → Prop where
  | same (run : Run α) (fits : ¬ run.TooWide) : Foretells low high nodes run run
  | refused (steps : List Step) (part : Clause) (count : Nat) (node : part ∈ nodes)
      (wide : low < count) (other : Run α)
      (again : high < count → other = ⟨steps, .error (.tooComplex part high count)⟩) :
      Foretells low high nodes ⟨steps, .error (.tooComplex part low count)⟩ other

namespace Foretells

variable {α β : Type} {low high : Nat} {nodes : List Clause}

theorem of_ok {run : Run α} {value : α} (ended : run.result = .ok value) :
    Foretells low high nodes run run :=
  .same run (Run.not_tooWide_of_ok ended)

theorem after {narrow wide : Run α} (steps : List Step)
    (foretells : Foretells low high nodes narrow wide) :
    Foretells low high nodes (narrow.after steps) (wide.after steps) := by
  cases foretells with
  | same _ fits => exact .same _ fits
  | refused earlier part count node tooWide _ again =>
      refine .refused (steps ++ earlier) part count node tooWide _ ?_
      intro still
      rw [again still]
      rfl

/-- Runs are compared part by part. -/
theorem bind {narrow wide : Run α} {next nextWide : α → Run β}
    (first : Foretells low high nodes narrow wide)
    (rest : ∀ value, Foretells low high nodes (next value) (nextWide value)) :
    Foretells low high nodes (narrow >>= next) (wide >>= nextWide) := by
  cases first with
  | same _ fits =>
      cases ended : narrow.result with
      | ok value =>
          rw [Run.bind_of_ok ended, Run.bind_of_ok ended]
          exact (rest value).after narrow.steps
      | error error =>
          rw [Run.bind_of_error ended, Run.bind_of_error ended]
          apply same
          rintro ⟨part, limit, count, refused⟩
          cases refused
          exact fits ⟨part, limit, count, ended⟩
  | refused steps part count node tooWide _ again =>
      rw [Run.bind_of_error rfl]
      refine .refused steps part count node tooWide _ ?_
      intro still
      rw [again still, Run.bind_of_error rfl]

theorem mono {narrow wide : Run α} {more : List Clause} (within : nodes ⊆ more)
    (foretells : Foretells low high nodes narrow wide) : Foretells low high more narrow wide := by
  cases foretells with
  | same _ fits => exact .same _ fits
  | refused steps part count node tooWide _ again =>
      exact .refused steps part count (within node) tooWide _ again

end Foretells

namespace Compiler

variable {compiler : Compiler} {context : SearchContext} {clause : Clause} {leaf : Terminal}
variable {low high : Nat} {nodes : List Clause}

/-- The compiler with another limit. -/
def withLimit (compiler : Compiler) (limit : Nat) : Compiler :=
  { compiler with limit }

theorem foretells_checkWidth (raised : low ≤ high) (node : clause ∈ nodes) (count : Nat) :
    Foretells low high nodes ((compiler.withLimit low).checkWidth clause count)
      ((compiler.withLimit high).checkWidth clause count) := by
  rcases Nat.lt_or_ge low count with wide | narrow
  · have refused : (compiler.withLimit low).checkWidth clause count =
        .fail (.tooComplex clause low count) := checkWidth_of_lt wide
    rw [refused]
    exact .refused [] clause count node wide _ fun still => checkWidth_of_lt still
  · have passed (limit : Nat) (fits : count ≤ limit) :
        (compiler.withLimit limit).checkWidth clause count = .done () := checkWidth_of_le fits
    rw [passed low narrow, passed high (Nat.le_trans narrow raised)]
    exact .of_ok rfl

theorem foretells_finishTerminal (raised : low ≤ high) (node : .terminal leaf ∈ nodes)
    (fragment : Fragment) :
    Foretells low high nodes ((compiler.withLimit low).finishTerminal leaf fragment)
      ((compiler.withLimit high).finishTerminal leaf fragment) :=
  (foretells_checkWidth raised node _).bind fun _ => .of_ok rfl

theorem foretells_searchChanges (finder : Finder) (query? : Option Query) :
    Foretells low high nodes (searchChanges finder leaf query?)
      (searchChanges finder leaf query?) := by
  apply Foretells.same
  rintro ⟨part, limit, count, refused⟩
  obtain ⟨_, _, _, same, _⟩ := searchChanges_of_error refused
  cases same

theorem foretells_compileHistory (raised : low ≤ high) (node : .terminal leaf ∈ nodes) :
    Foretells low high nodes ((compiler.withLimit low).compileHistory context leaf)
      ((compiler.withLimit high).compileHistory context leaf) := by
  unfold compileHistory withLimit
  dsimp only
  split
  · refine (foretells_checkWidth raised node _).bind fun _ => ?_
    refine (foretells_searchChanges ..).bind fun found => ?_
    exact (Foretells.of_ok rfl).bind fun _ => foretells_finishTerminal raised node _
  · exact .of_ok rfl

theorem foretells_compileTerminal (raised : low ≤ high) (node : .terminal leaf ∈ nodes) :
    Foretells low high nodes ((compiler.withLimit low).compileTerminal context leaf)
      ((compiler.withLimit high).compileTerminal context leaf) := by
  unfold compileTerminal
  split
  · exact foretells_compileHistory raised node
  · unfold compileComparison withLimit
    dsimp only
    split
    · exact foretells_finishTerminal raised node _
    · exact .of_ok rfl

theorem foretells_groupFragment (raised : low ≤ high) (node : clause ∈ nodes)
    (clauses : List (Occur × Query)) :
    Foretells low high nodes ((compiler.withLimit low).groupFragment clause clauses)
      ((compiler.withLimit high).groupFragment clause clauses) :=
  (foretells_checkWidth raised node _).bind fun _ => .of_ok rfl

theorem foretells_conjunction (raised : low ≤ high) (node : clause ∈ nodes)
    (parts : List Fragment) :
    Foretells low high nodes ((compiler.withLimit low).conjunction clause parts)
      ((compiler.withLimit high).conjunction clause parts) := by
  unfold conjunction
  dsimp only
  split
  · exact .of_ok rfl
  · exact .of_ok rfl
  · split
    · exact .of_ok rfl
    · exact foretells_groupFragment raised node _

theorem foretells_disjunction (raised : low ≤ high) (node : clause ∈ nodes)
    (parts : List Fragment) :
    Foretells low high nodes ((compiler.withLimit low).disjunction clause parts)
      ((compiler.withLimit high).disjunction clause parts) := by
  unfold disjunction
  split
  · exact .of_ok rfl
  · exact .of_ok rfl
  · exact foretells_groupFragment raised node _

theorem foretells_compileUntil {decides : Fragment → Bool} {children : List Clause}
    (within : Clause.nodesOf children ⊆ nodes)
    (each : ∀ child ∈ children,
      Foretells low high child.nodes ((compiler.withLimit low).compileClause context child)
        ((compiler.withLimit high).compileClause context child)) :
    Foretells low high nodes ((compiler.withLimit low).compileUntil context decides children)
      ((compiler.withLimit high).compileUntil context decides children) := by
  induction children with
  | nil => exact .of_ok rfl
  | cons child children ih =>
      obtain ⟨first, others⟩ := List.forall_mem_cons.mp each
      rw [Clause.nodesOf, List.append_subset] at within
      rw [compileUntil, compileUntil]
      refine (first.mono within.1).bind fun fragment => ?_
      split
      · exact .of_ok rfl
      · exact (ih within.2 others).bind fun _ => .of_ok rfl

/-- With a higher limit a compilation takes the same course, up to the first node that is too wide
for the lower one. -/
theorem foretells_compileClause (compiler : Compiler) (context : SearchContext)
    (raised : low ≤ high) (clause : Clause) :
    Foretells low high clause.nodes ((compiler.withLimit low).compileClause context clause)
      ((compiler.withLimit high).compileClause context clause) := by
  induction clause using Clause.byHead with
  | terminal leaf => exact foretells_compileTerminal raised (Clause.mem_nodes_self _)
  | and children ih =>
      have root : Clause.and children ∈ (Clause.and children).nodes := Clause.mem_nodes_self _
      rw [compileClause, compileClause]
      refine (foretells_compileUntil (List.subset_cons_self ..) ih).bind fun parts? => ?_
      cases parts? with
      | none => exact .of_ok rfl
      | some parts => exact foretells_conjunction raised root parts
  | or children ih =>
      have root : Clause.or children ∈ (Clause.or children).nodes := Clause.mem_nodes_self _
      rw [compileClause, compileClause]
      refine (foretells_compileUntil (List.subset_cons_self ..) ih).bind fun parts? => ?_
      cases parts? with
      | none => exact .of_ok rfl
      | some parts => exact foretells_disjunction raised root parts
  | not child ih =>
      rw [compileClause, compileClause]
      exact (ih.mono (List.subset_cons_self ..)).bind fun _ => .of_ok rfl

/-- The whole compilation is that of its condition, with events before and after. -/
theorem compile_congr {other : Compiler}
    (same : other.compileClause context clause = compiler.compileClause context clause) :
    other.compile context clause = compiler.compile context clause := by
  simp only [compile, same]

end Compiler

/-- With a higher limit a condition is compiled in the same way, event by event, unless it is
refused with the lower one. What is refused is a node of the condition whose group is too wide; it
is refused with every limit below the width of that group. -/
theorem raising_the_limit_changes_refusals_only (compiler : Compiler) (context : SearchContext)
    (clause : Clause) (low high : Nat) (raised : low ≤ high) :
    (¬ ((compiler.withLimit low).compile context clause).TooWide →
      (compiler.withLimit high).compile context clause =
        (compiler.withLimit low).compile context clause) ∧
    ∀ part limit count,
      ((compiler.withLimit low).compile context clause).result =
        .error (.tooComplex part limit count) →
      limit = low ∧ low < count ∧ part ∈ clause.nodes ∧
        (high < count → ((compiler.withLimit high).compile context clause).result =
          .error (.tooComplex part high count)) := by
  have foretells := compiler.foretells_compileClause context raised clause
  generalize narrowRun : (compiler.withLimit low).compileClause context clause = narrow
    at foretells
  generalize wideRun : (compiler.withLimit high).compileClause context clause = wide at foretells
  simp only [Run.TooWide, Compiler.compile_result_eq_error_iff, narrowRun, wideRun]
  cases foretells with
  | same _ fits =>
      refine ⟨fun _ => Compiler.compile_congr (wideRun.trans narrowRun.symm), ?_⟩
      intro part limit count refused
      exact absurd ⟨part, limit, count, refused⟩ fits
  | refused steps part count node tooWide _ again =>
      refine ⟨fun fits => absurd ⟨part, low, count, rfl⟩ fits, ?_⟩
      intro otherPart limit otherCount refused
      cases refused
      refine ⟨rfl, tooWide, node, ?_⟩
      intro still
      rw [again still]

/-- A compiler for the state of things. -/
def stateCompiler : Compiler where
  registry := Registry.empty.register "state" (.equality "state" plainTerms)
  operands := FunctionTable.builtIns.literals
  finder := none

/-- One of three states, and not another one: a group of three in a group of two. -/
def inUse : Clause :=
  .and [.or [.terminal (.equals "state" (.value (.text "new"))),
      .terminal (.equals "state" (.value (.text "open"))),
      .terminal (.equals "state" (.value (.text "held")))],
    .not (.terminal (.equals "state" (.value (.text "lost"))))]

/-- The group of three is refused with the limits 1 and 2 alike. With 3 and more the whole
condition is compiled, to the same query. -/
theorem raising_the_limit_changes_refusals_only_of_inUse :
    1 ≤ 2 ∧ 3 ≤ 1024 ∧
    (∃ part, ((stateCompiler.withLimit 1).compile ⟨none, .midnight ⟨1970, 1, 1, by decide⟩⟩
        inUse).result = .error (.tooComplex part 1 3) ∧
      ((stateCompiler.withLimit 2).compile ⟨none, .midnight ⟨1970, 1, 1, by decide⟩⟩
        inUse).result = .error (.tooComplex part 2 3)) ∧
    ¬ ((stateCompiler.withLimit 3).compile ⟨none, .midnight ⟨1970, 1, 1, by decide⟩⟩
      inUse).TooWide ∧
    (stateCompiler.withLimit 1024).compile ⟨none, .midnight ⟨1970, 1, 1, by decide⟩⟩ inUse =
      (stateCompiler.withLimit 3).compile ⟨none, .midnight ⟨1970, 1, 1, by decide⟩⟩ inUse := by
  have small : 1 ≤ 2 := by decide
  have large : 3 ≤ 1024 := by decide
  have fits : ¬ ((stateCompiler.withLimit 3).compile
      ⟨none, .midnight ⟨1970, 1, 1, by decide⟩⟩ inUse).TooWide :=
    Run.not_tooWide_of_ok rfl
  refine ⟨small, large, ⟨_, rfl, ?_⟩, fits, ?_⟩
  · exact ((raising_the_limit_changes_refusals_only stateCompiler _ inUse 1 2 small).2
      _ 1 3 rfl).2.2.2 (by decide)
  · exact (raising_the_limit_changes_refusals_only stateCompiler _ inUse 3 1024 large).1 fits

end Criteria.Compile
