/-
Module: Criteria.Proofs.Compile.Trace
Purpose: What a compilation reports while it runs: a first and a last event for the whole
  condition, and between them one event for each terminal that was compiled, in order.
Main exports:
  HistoriesAnswered, finishOf, Compiler.completed, Compiler.report,
  Compiler.Reports, Compiler.reports_compileTerminal, Compiler.compileClause_terminals,
  Compiler.compile_events, compilations_are_reported
-/
import Criteria.Proofs.Compile.Reach

namespace Criteria.Compile

open Criteria.Changes
open Criteria.Fields
open Criteria.Search

/-! ### Lists of events -/

/-- The event reports a terminal. -/
def TraceEvent.isTerminal : TraceEvent → Bool
  | .terminal _ _ _ => true
  | _ => false

/-- The event is about a part of the condition, and not about the whole. -/
def TraceEvent.IsInner : TraceEvent → Prop
  | .terminal _ _ _ | .history _ _ _ => True
  | .start _ | .finish _ _ => False

/-- Every event of a search among the changes is followed at once by that of its terminal. -/
def HistoriesAnswered : List TraceEvent → Prop
  | [] => True
  | .history field operator _ :: later =>
      (∃ outcome others, later = .terminal field operator outcome :: others) ∧
        HistoriesAnswered later
  | _ :: later => HistoriesAnswered later

namespace HistoriesAnswered

theorem append {first second : List TraceEvent} (one : HistoriesAnswered first)
    (two : HistoriesAnswered second) : HistoriesAnswered (first ++ second) := by
  induction first with
  | nil => exact two
  | cons event later ih =>
      cases event with
      | history field operator entities =>
          obtain ⟨⟨outcome, others, rfl⟩, rest⟩ := one
          exact ⟨⟨outcome, others ++ second, rfl⟩, ih rest⟩
      | start fingerprint => exact ih one
      | terminal field operator outcome => exact ih one
      | finish fingerprint outcome => exact ih one

theorem flatMap {α : Type} {events : α → List TraceEvent} (each : ∀ x, HistoriesAnswered (events x))
    (xs : List α) : HistoriesAnswered (xs.flatMap events) := by
  induction xs with
  | nil => trivial
  | cons x xs ih =>
      rw [List.flatMap_cons]
      exact (each x).append ih

theorem of_split {before after : List TraceEvent} {field : String} {operator : Operator}
    {entities : Nat}
    (answered : HistoriesAnswered (before ++ .history field operator entities :: after)) :
    ∃ outcome later, after = .terminal field operator outcome :: later := by
  induction before with
  | nil => exact answered.1
  | cons event before ih =>
      cases event with
      | history => exact ih answered.2
      | start | terminal | finish => exact ih answered

end HistoriesAnswered

/-- What the last event says of a compilation that ended so. -/
def finishOf : Except CompileError Query → CompileOutcome
  | .ok .nothing => .nothing
  | .ok _ => .query
  | .error (.tooComplex _ limit count) => .tooComplex limit count
  | .error (.backend error) => .failed error.errorClass error.origin

namespace Compiler

variable {compiler : Compiler} {context : SearchContext}

/-- A fragment is known to match nothing if its query is the one that nothing matches. -/
theorem outcomeOf_eq (result : Except CompileError Fragment) :
    outcomeOf result = finishOf (result.map Fragment.toQuery) := by
  cases result with
  | ok fragment =>
      obtain ⟨query, negated⟩ := fragment
      cases negated <;> cases query <;> rfl
  | error error => cases error <;> rfl

/-! ### Events of terminals -/

/-- The terminals that a compilation gets to and ends with a fragment, in order. -/
def completed (compiler : Compiler) (context : SearchContext) (clause : Clause) :
    List (Terminal × Fragment) :=
  (compiler.reached context clause).filterMap fun leaf =>
    (compiler.compileTerminal context leaf).result.toOption.map fun fragment => (leaf, fragment)

/-- The event that reports a terminal compiled to a fragment. -/
def report (compiler : Compiler) (leaf : Terminal) (fragment : Fragment) : TraceEvent :=
  if compiler.knows leaf then finished leaf fragment
  else .terminal leaf.field leaf.operator .unregistered

/-- What is reported of one terminal. -/
structure Reports (compiler : Compiler) (leaf : Terminal) (run : Run Fragment) : Prop where
  terminals : run.events.filter TraceEvent.isTerminal =
    (run.result.toOption.map (compiler.report leaf)).toList
  inner : ∀ event ∈ run.events, event.IsInner
  answered : HistoriesAnswered run.events

theorem reports_compileTerminal (compiler : Compiler) (context : SearchContext)
    (leaf : Terminal) : compiler.Reports leaf (compiler.compileTerminal context leaf) := by
  have course := compiler.terminalCourse_compileTerminal context leaf
  generalize compiler.compileTerminal context leaf = run at course ⊢
  cases course with
  | unregistered unknown noQuestion =>
      refine ⟨?_, ?_, trivial⟩
      · simp [Run.events, report, unknown, TraceEvent.isTerminal, Except.toOption]
      · simp [Run.events, TraceEvent.IsInner]
  | refused count wide unasked =>
      exact ⟨rfl, by simp [Run.events], trivial⟩
  | failed query asked narrow error =>
      exact ⟨rfl, by simp [Run.events], trivial⟩
  | compared known noQuestion fragment =>
      refine ⟨?_, ?_, trivial⟩
      · simp [Run.events, report, known, finished, TraceEvent.isTerminal, Except.toOption]
      · simp [Run.events, finished, TraceEvent.IsInner]
  | answered known narrow found =>
      have events : (⟨(compiler.question? context leaf).toList.map .search ++
          [.event (.history leaf.field leaf.operator found.entities.size),
            .event (finished leaf found.fragment)], .ok found.fragment⟩ : Run Fragment).events =
          [.history leaf.field leaf.operator found.entities.size,
            finished leaf found.fragment] := by
        cases compiler.question? context leaf <;> rfl
      refine ⟨?_, ?_, ?_⟩ <;> rw [events]
      · simp [report, known, finished, TraceEvent.isTerminal, Except.toOption]
      · simp [finished, TraceEvent.IsInner]
      · exact ⟨⟨_, _, rfl⟩, trivial⟩

/-! ### Events of whole conditions -/

/-- A compilation reports what it does at the terminals that it gets to, and nothing else. -/
theorem compileClause_events (compiler : Compiler) (context : SearchContext) (clause : Clause) :
    (compiler.compileClause context clause).events =
      (compiler.reached context clause).flatMap fun leaf =>
        (compiler.compileTerminal context leaf).events := by
  rw [Run.events, compileClause_steps, List.filterMap_flatMap]
  rfl

/-- The terminals that are reported are the completed ones, in order. -/
theorem compileClause_terminals (compiler : Compiler) (context : SearchContext)
    (clause : Clause) :
    (compiler.compileClause context clause).events.filter TraceEvent.isTerminal =
      (compiler.completed context clause).map fun entry => compiler.report entry.1 entry.2 := by
  rw [compileClause_events, List.filter_flatMap, completed, List.map_filterMap,
    List.filterMap_eq_flatMap_toList]
  congr 1
  funext leaf
  rw [(compiler.reports_compileTerminal context leaf).terminals, Option.map_map]
  rfl

theorem isInner_of_mem_events {event : TraceEvent} {clause : Clause}
    (reported : event ∈ (compiler.compileClause context clause).events) : event.IsInner := by
  rw [compileClause_events] at reported
  obtain ⟨leaf, _, ofLeaf⟩ := List.mem_flatMap.mp reported
  exact (compiler.reports_compileTerminal context leaf).inner event ofLeaf

theorem compile_events (compiler : Compiler) (context : SearchContext) (clause : Clause) :
    (compiler.compile context clause).events =
      .start clause.fingerprint :: (compiler.compileClause context clause).events ++
        [.finish clause.fingerprint (finishOf (compiler.compile context clause).result)] := by
  change List.filterMap _ (_ :: (compiler.compileClause context clause).steps ++ [_]) = _
  rw [List.cons_append, List.filterMap_cons, List.filterMap_append, outcomeOf_eq]
  rfl

theorem historiesAnswered_compile (compiler : Compiler) (context : SearchContext)
    (clause : Clause) : HistoriesAnswered (compiler.compile context clause).events := by
  rw [compile_events, compileClause_events]
  have body := HistoriesAnswered.flatMap
    (fun leaf => (compiler.reports_compileTerminal context leaf).answered)
    (compiler.reached context clause)
  exact HistoriesAnswered.append body trivial

end Compiler

/-- Every compilation, however it ends, reports its start first and its end last, with the
fingerprint of the whole condition. Between them it reports the terminals that were compiled, in
order, up to the first one that fails. A search among the changes is reported right before its
terminal. The last event tells how the compilation ended; and it ends as that of the fragment
does, but for what a negation is taken away from. -/
theorem compilations_are_reported (compiler : Compiler) (context : SearchContext)
    (clause : Clause) :
    (∃ body, (compiler.compile context clause).events =
        .start clause.fingerprint :: body ++
          [.finish clause.fingerprint (finishOf (compiler.compile context clause).result)] ∧
      (∀ event ∈ body, event.IsInner) ∧
      body.filter TraceEvent.isTerminal =
        (compiler.completed context clause).map fun entry => compiler.report entry.1 entry.2) ∧
    (∀ leaf ∈ compiler.reached context clause, ∀ error,
      (compiler.compileTerminal context leaf).result = .error error →
        (compiler.compile context clause).result = .error error ∧
          (compiler.reached context clause).getLast? = some leaf) ∧
    (∀ before field operator entities after,
      (compiler.compile context clause).events =
        before ++ .history field operator entities :: after →
      ∃ outcome later, after = .terminal field operator outcome :: later) ∧
    (compiler.compile context clause).result =
      (compiler.compileClause context clause).result.map Fragment.toQuery := by
  refine ⟨⟨_, compiler.compile_events context clause, fun event => Compiler.isInner_of_mem_events,
    compiler.compileClause_terminals context clause⟩, ?_, ?_, rfl⟩
  · intro leaf member error failed
    obtain ⟨same, isLast⟩ := Compiler.reached_of_error failed clause member
    exact ⟨(Compiler.compile_result_eq_error_iff error).mpr same, isLast⟩
  · intro before field operator entities after split
    have answered := compiler.historiesAnswered_compile context clause
    rw [split] at answered
    exact answered.of_split

/-- A compiler for the rank and the past states of things, of which no change is on record. -/
def blankRecord : Compiler where
  registry := (Registry.empty.registerOrdered "rank" "rank" plainTerms).registerHistory
    "state" ⟨"state", plainTerms⟩
  operands := FunctionTable.builtIns.literals
  finder := some ⟨FunctionTable.builtIns.literals, .standard, fun _ => .ok ∅⟩

-- Nothing was ever open, so the conjunction ends before the rank is compiled.
example : (blankRecord.compileClause ⟨none, .midnight ⟨1970, 1, 1, by decide⟩⟩
    (.and [.terminal (.was "state" (.value (.text "open")) none),
      .terminal (.equals "rank" (.value (.text "5")))])).events =
      [.history "state" .was 0, .terminal "state" .was .nothing] :=
  rfl

end Criteria.Compile
