/-
Module: Criteria.Proofs.Compile.Reach
Purpose: The terminals that a compilation gets to, in order, and what it does at each of them.
  The steps of a compilation are those that it takes at these terminals, and no others.
Main exports:
  Run.after, Run.bind_of_ok, Run.bind_of_error, Compiler.reached, Compiler.knows,
  Compiler.question?, Compiler.TerminalCourse,
  Compiler.terminalCourse_compileTerminal, Compiler.compileClause_steps,
  Compiler.reached_sublist_terminals, Compiler.reached_of_error
-/
import Criteria.Proofs.Compile.Course
import Criteria.Proofs.Search.Width

namespace Criteria.Changes

open Criteria.Search

/-- What was found among the changes is listed without a group. -/
theorem Found.widestGroup_fragment (found : Found) : found.fragment.query.widestGroup = 0 := by
  unfold Found.fragment
  split <;> rfl

end Criteria.Changes

namespace Criteria.Compile

open Criteria.Changes
open Criteria.Fields
open Criteria.Search

namespace Run

variable {α β : Type} {run : Run α}

/-- A run with other steps before its own. -/
def after (steps : List Step) (run : Run α) : Run α :=
  { run with steps := steps ++ run.steps }

@[simp] theorem after_steps (steps : List Step) (run : Run α) :
    (run.after steps).steps = steps ++ run.steps :=
  rfl

@[simp] theorem after_result (steps : List Step) (run : Run α) :
    (run.after steps).result = run.result :=
  rfl

theorem bind_of_ok {value : α} (ended : run.result = .ok value) (next : α → Run β) :
    run >>= next = (next value).after run.steps := by
  change run.andThen next = _
  simp only [andThen, ended]
  rfl

theorem bind_of_error {error : CompileError} (ended : run.result = .error error)
    (next : α → Run β) : run >>= next = { steps := run.steps, result := .error error } := by
  change run.andThen next = _
  simp only [andThen, ended]

@[simp] theorem pure_steps (value : α) : (pure value : Run α).steps = [] :=
  rfl

@[simp] theorem done_bind (value : α) (next : α → Run β) : Run.done value >>= next = next value :=
  rfl

@[simp] theorem fail_bind (error : CompileError) (next : α → Run β) :
    Run.fail error >>= next = Run.fail error :=
  rfl

@[simp] theorem report_bind (event : TraceEvent) (next : Unit → Run β) :
    Run.report event >>= next = (next ()).after [.event event] :=
  rfl

/-- What is only put together afterwards adds no steps. -/
theorem bind_steps_of_silent {next : α → Run β} (silent : ∀ value, (next value).steps = []) :
    (run >>= next).steps = run.steps := by
  cases ended : run.result with
  | ok value => rw [bind_of_ok ended, after_steps, silent, List.append_nil]
  | error error => rw [bind_of_error ended]

end Run

namespace Compiler

variable {compiler : Compiler} {context : SearchContext} {clause : Clause} {leaf : Terminal}
variable {fragment : Fragment}

/-! ### The order of compilation -/

mutual

/-- The terminals that a compilation gets to, from left to right. A conjunction is left after its
first child that matches nothing, a disjunction after its first child that matches everything,
and either of them after a child that ends with an error. -/
def reached (compiler : Compiler) (context : SearchContext) : Clause → List Terminal
  | .terminal leaf => [leaf]
  | .and children => compiler.reachedUntil context Fragment.isFalse children
  | .or children => compiler.reachedUntil context Fragment.isTrue children
  | .not child => compiler.reached context child

/-- The same for several children, up to one that decides the whole. -/
def reachedUntil (compiler : Compiler) (context : SearchContext) (decides : Fragment → Bool) :
    List Clause → List Terminal
  | [] => []
  | child :: children =>
      compiler.reached context child ++
        match (compiler.compileClause context child).result with
        | .ok fragment =>
            if decides fragment then [] else compiler.reachedUntil context decides children
        | .error _ => []

end

/-! ### Single terminals -/

/-- Something is registered for the terminal. A question about past changes also needs someone
to answer it. -/
def knows (compiler : Compiler) (leaf : Terminal) : Bool :=
  if leaf.operator.isHistory then
    (compiler.registry.history? leaf.field).isSome && compiler.finder.isSome
  else (compiler.registry.matcher? leaf.field leaf.operator).isSome

/-- What a terminal about past changes would ask the index of changes, if anything can match. -/
def question? (compiler : Compiler) (context : SearchContext) (leaf : Terminal) : Option Query :=
  if leaf.operator.isHistory then do
    let history ← compiler.registry.history? leaf.field
    let finder ← compiler.finder
    finder.changeQuery? context history leaf
  else none

/-- The event that reports the fragment of a terminal that something is registered for. -/
def finished (leaf : Terminal) (fragment : Fragment) : TraceEvent :=
  .terminal leaf.field leaf.operator (if fragment.isFalse then .nothing else .query)

/-- The ways in which the compilation of a terminal can go. Its question is put to the index of
changes only if it is narrow enough, and it is reported only after the last check. -/
inductive TerminalCourse (compiler : Compiler) (context : SearchContext) (leaf : Terminal) :
    Run Fragment → Prop where
  | unregistered (unknown : compiler.knows leaf = false)
      (noQuestion : compiler.question? context leaf = none) :
      TerminalCourse compiler context leaf
        ⟨[.event (.terminal leaf.field leaf.operator .unregistered)], .ok .nothing⟩
  | refused (count : Nat) (wide : compiler.limit < count)
      (unasked : ∀ query, compiler.question? context leaf = some query →
        compiler.limit < query.widestGroup) :
      TerminalCourse compiler context leaf
        ⟨[], .error (.tooComplex (.terminal leaf) compiler.limit count)⟩
  | failed (query : Query) (asked : compiler.question? context leaf = some query)
      (narrow : query.widestGroup ≤ compiler.limit) (error : BackendError) :
      TerminalCourse compiler context leaf ⟨[.search query], .error (.backend error)⟩
  | compared (known : compiler.knows leaf = true)
      (noQuestion : compiler.question? context leaf = none) (fragment : Fragment) :
      TerminalCourse compiler context leaf ⟨[.event (finished leaf fragment)], .ok fragment⟩
  | answered (known : compiler.knows leaf = true)
      (narrow : ∀ query, compiler.question? context leaf = some query →
        query.widestGroup ≤ compiler.limit) (found : Found) :
      TerminalCourse compiler context leaf
        ⟨(compiler.question? context leaf).toList.map .search ++
          [.event (.history leaf.field leaf.operator found.entities.size),
            .event (finished leaf found.fragment)], .ok found.fragment⟩

theorem checkWidth_of_le {count : Nat} (narrow : count ≤ compiler.limit) :
    compiler.checkWidth clause count = .done () :=
  if_neg (Nat.not_lt.mpr narrow)

theorem checkWidth_of_lt {count : Nat} (wide : compiler.limit < count) :
    compiler.checkWidth clause count = .fail (.tooComplex clause compiler.limit count) :=
  if_pos wide

theorem finishTerminal_of_le (narrow : fragment.query.widestGroup ≤ compiler.limit) :
    compiler.finishTerminal leaf fragment = ⟨[.event (finished leaf fragment)], .ok fragment⟩ := by
  rw [finishTerminal, checkWidth_of_le narrow]
  rfl

theorem finishTerminal_of_lt (wide : compiler.limit < fragment.query.widestGroup) :
    compiler.finishTerminal leaf fragment =
      .fail (.tooComplex (.terminal leaf) compiler.limit fragment.query.widestGroup) := by
  rw [finishTerminal, checkWidth_of_lt wide]
  rfl

/-- A comparison puts no question to the index of changes. -/
theorem terminalCourse_compileComparison (present : leaf.operator.isHistory = false) :
    TerminalCourse compiler context leaf (compiler.compileComparison context leaf) := by
  have noQuestion : compiler.question? context leaf = none := by simp [question?, present]
  unfold compileComparison
  split
  · next matcher registered =>
      have known : compiler.knows leaf = true := by simp [knows, present, registered]
      generalize matcher.fragment leaf.operator (compiler.operands context leaf.operand) = fragment
      rcases Nat.lt_or_ge compiler.limit fragment.query.widestGroup with wide | narrow
      · rw [finishTerminal_of_lt wide]
        exact .refused _ wide (by simp [noQuestion])
      · rw [finishTerminal_of_le narrow]
        exact .compared known noQuestion fragment
  · next unregistered =>
      have unknown : compiler.knows leaf = false := by simp [knows, present, unregistered]
      exact .unregistered unknown noQuestion

/-- Without a question the index of changes is left alone, and cannot fail. -/
theorem searchChanges_of_error {finder : Finder} {query? : Option Query} {error : CompileError}
    (ended : (searchChanges finder leaf query?).result = .error error) :
    ∃ query reason, query? = some query ∧ error = .backend reason ∧
      (searchChanges finder leaf query?).steps = [.search query] := by
  cases query? with
  | none => cases ended
  | some query =>
      unfold searchChanges Finder.search at ended
      dsimp only at ended
      cases answer : finder.index query with
      | ok entities =>
          rw [answer] at ended
          cases ended
      | error reason =>
          rw [answer] at ended
          cases ended
          exact ⟨query, reason, rfl, rfl, rfl⟩

theorem terminalCourse_compileHistory (past : leaf.operator.isHistory = true) :
    TerminalCourse compiler context leaf (compiler.compileHistory context leaf) := by
  unfold compileHistory
  split
  · next history finder registered installed =>
      have known : compiler.knows leaf = true := by simp [knows, past, registered, installed]
      have asks : compiler.question? context leaf = finder.changeQuery? context history leaf := by
        simp [question?, past, registered, installed]
      rw [← asks]
      dsimp only
      rcases Nat.lt_or_ge compiler.limit
        (((compiler.question? context leaf).map Query.widestGroup).getD 0) with wide | narrow
      · rw [checkWidth_of_lt wide]
        refine .refused _ wide ?_
        intro query isQuestion
        simpa [isQuestion] using wide
      · rw [checkWidth_of_le narrow, Run.done_bind]
        have narrowQuestion : ∀ query, compiler.question? context leaf = some query →
            query.widestGroup ≤ compiler.limit := by
          intro query isQuestion
          simpa [isQuestion] using narrow
        cases ended : (searchChanges finder leaf (compiler.question? context leaf)).result with
        | error error =>
            obtain ⟨query, reason, isQuestion, rfl, asked⟩ := searchChanges_of_error ended
            rw [Run.bind_of_error ended, asked]
            exact .failed query isQuestion (narrowQuestion query isQuestion) reason
        | ok found =>
            -- a set of entities is no group, so the second check is always passed
            have fits : found.fragment.query.widestGroup ≤ compiler.limit := by
              simp [found.widestGroup_fragment]
            rw [Run.bind_of_ok ended, Run.report_bind, finishTerminal_of_le fits]
            exact .answered known narrowQuestion found
  · next unregistered =>
      have missing : compiler.registry.history? leaf.field = none ∨ compiler.finder = none := by
        cases registered : compiler.registry.history? leaf.field with
        | none => exact .inl rfl
        | some history =>
            cases installed : compiler.finder with
            | none => exact .inr rfl
            | some finder => exact absurd installed (unregistered history finder registered)
      have unknown : compiler.knows leaf = false := by
        rcases missing with absent | absent <;> simp [knows, past, absent]
      have noQuestion : compiler.question? context leaf = none := by
        rcases missing with absent | absent <;> simp [question?, absent]
      exact .unregistered unknown noQuestion

/-- The compilation of every terminal goes in one of these ways. -/
theorem terminalCourse_compileTerminal (compiler : Compiler) (context : SearchContext)
    (leaf : Terminal) :
    TerminalCourse compiler context leaf (compiler.compileTerminal context leaf) := by
  unfold compileTerminal
  split
  · next past => exact terminalCourse_compileHistory past
  · next present => exact terminalCourse_compileComparison (by simpa using present)

/-! ### Whole conditions -/

theorem checkWidth_steps (clause : Clause) (count : Nat) :
    (compiler.checkWidth clause count).steps = [] := by
  unfold checkWidth
  split <;> rfl

theorem groupFragment_steps (clause : Clause) (clauses : List (Occur × Query)) :
    (compiler.groupFragment clause clauses).steps = [] := by
  rw [groupFragment, Run.bind_steps_of_silent fun _ => rfl, checkWidth_steps]

theorem conjunction_steps (clause : Clause) (parts : List Fragment) :
    (compiler.conjunction clause parts).steps = [] := by
  unfold conjunction
  dsimp only
  split
  · rfl
  · rfl
  · split
    · rfl
    · exact groupFragment_steps ..

theorem disjunction_steps (clause : Clause) (parts : List Fragment) :
    (compiler.disjunction clause parts).steps = [] := by
  unfold disjunction
  split
  · rfl
  · rfl
  · exact groupFragment_steps ..

theorem compileUntil_steps {decides : Fragment → Bool} {children : List Clause}
    (each : ∀ child ∈ children, (compiler.compileClause context child).steps =
      (compiler.reached context child).flatMap fun leaf =>
        (compiler.compileTerminal context leaf).steps) :
    (compiler.compileUntil context decides children).steps =
      (compiler.reachedUntil context decides children).flatMap fun leaf =>
        (compiler.compileTerminal context leaf).steps := by
  induction children with
  | nil => rfl
  | cons child children ih =>
      obtain ⟨first, others⟩ := List.forall_mem_cons.mp each
      rw [compileUntil, reachedUntil, List.flatMap_append, ← first]
      cases ended : (compiler.compileClause context child).result with
      | error error => simp [Run.bind_of_error ended]
      | ok fragment =>
          rw [Run.bind_of_ok ended, Run.after_steps]
          dsimp only
          cases decided : decides fragment with
          | true => simp
          | false =>
              simp only [Bool.false_eq_true, if_false]
              rw [Run.bind_steps_of_silent fun _ => rfl, ih others]

/-- A compilation takes the steps of the terminals that it gets to, one after the other. -/
theorem compileClause_steps (compiler : Compiler) (context : SearchContext) (clause : Clause) :
    (compiler.compileClause context clause).steps =
      (compiler.reached context clause).flatMap fun leaf =>
        (compiler.compileTerminal context leaf).steps := by
  induction clause using Clause.byHead with
  | terminal leaf => simp [compileClause, reached]
  | and children ih =>
      rw [compileClause, reached, ← compileUntil_steps ih]
      apply Run.bind_steps_of_silent
      rintro (_ | parts)
      · rfl
      · exact conjunction_steps ..
  | or children ih =>
      rw [compileClause, reached, ← compileUntil_steps ih]
      apply Run.bind_steps_of_silent
      rintro (_ | parts)
      · rfl
      · exact disjunction_steps ..
  | not child ih =>
      rw [compileClause, reached, ← ih]
      exact Run.bind_steps_of_silent fun _ => rfl

theorem reachedUntil_sublist {decides : Fragment → Bool} {children : List Clause}
    (each : ∀ child ∈ children, (compiler.reached context child).Sublist child.terminals) :
    (compiler.reachedUntil context decides children).Sublist (Clause.terminalsOf children) := by
  induction children with
  | nil => exact .slnil
  | cons child children ih =>
      obtain ⟨first, others⟩ := List.forall_mem_cons.mp each
      rw [reachedUntil, Clause.terminalsOf]
      apply first.append
      split
      · split
        · exact List.nil_sublist _
        · exact ih others
      · exact List.nil_sublist _

/-- No terminal is compiled twice, or before one to its left. -/
theorem reached_sublist_terminals (compiler : Compiler) (context : SearchContext)
    (clause : Clause) : (compiler.reached context clause).Sublist clause.terminals := by
  induction clause using Clause.byHead with
  | terminal leaf => exact .refl _
  | and children ih => exact reachedUntil_sublist ih
  | or children ih => exact reachedUntil_sublist ih
  | not child ih => exact ih

/-- What a failed terminal means for what it is part of: nothing comes after it, and its error
is that of the whole. -/
theorem reachedUntil_of_error {decides : Fragment → Bool} {children : List Clause}
    {error : CompileError}
    (each : ∀ child ∈ children, leaf ∈ compiler.reached context child →
      (compiler.compileClause context child).result = .error error ∧
        (compiler.reached context child).getLast? = some leaf)
    (member : leaf ∈ compiler.reachedUntil context decides children) :
    (compiler.compileUntil context decides children).result = .error error ∧
      (compiler.reachedUntil context decides children).getLast? = some leaf := by
  induction children with
  | nil => cases member
  | cons child children ih =>
      obtain ⟨first, others⟩ := List.forall_mem_cons.mp each
      rw [reachedUntil] at member ⊢
      rw [compileUntil]
      cases ended : (compiler.compileClause context child).result with
      | error failure =>
          simp only [ended, List.append_nil] at member ⊢
          obtain ⟨same, isLast⟩ := first member
          obtain rfl : failure = error := Except.error.inj (ended.symm.trans same)
          rw [Run.bind_of_error ended]
          exact ⟨rfl, isLast⟩
      | ok fragment =>
          simp only [ended] at member ⊢
          -- a child with a value has no terminal that failed
          have notHere : leaf ∉ compiler.reached context child := by
            intro here
            rw [ended] at first
            cases (first here).1
          have later := (List.mem_append.mp member).resolve_left notHere
          rw [Run.bind_of_ok ended, Run.after_result]
          cases decided : decides fragment with
          | true => simp [decided] at later
          | false =>
              simp only [decided, Bool.false_eq_true, if_false] at later ⊢
              obtain ⟨same, isLast⟩ := ih others later
              rw [Run.bind_of_error same, List.getLast?_append, isLast]
              exact ⟨rfl, rfl⟩

/-- A compilation ends at the first terminal that fails, with its error. -/
theorem reached_of_error {error : CompileError}
    (failed : (compiler.compileTerminal context leaf).result = .error error) (clause : Clause)
    (member : leaf ∈ compiler.reached context clause) :
    (compiler.compileClause context clause).result = .error error ∧
      (compiler.reached context clause).getLast? = some leaf := by
  induction clause using Clause.byHead with
  | terminal other =>
      obtain rfl := List.mem_singleton.mp member
      exact ⟨failed, rfl⟩
  | and children ih =>
      obtain ⟨same, isLast⟩ := reachedUntil_of_error ih member
      rw [compileClause, Run.bind_of_error same]
      exact ⟨rfl, isLast⟩
  | or children ih =>
      obtain ⟨same, isLast⟩ := reachedUntil_of_error ih member
      rw [compileClause, Run.bind_of_error same]
      exact ⟨rfl, isLast⟩
  | not child ih =>
      obtain ⟨same, isLast⟩ := ih member
      rw [compileClause, Run.bind_of_error same]
      exact ⟨rfl, isLast⟩

end Compiler

end Criteria.Compile
