/-
Module: Criteria.Proofs.Compile.PastNegation
Purpose: A negative question about past values is compiled like the negation of the positive one, and
  nothing around them tells the two apart.
Main exports:
  PastOpposite, Found.fragment_negated, EndsAlike, EndsAlike.bind, Surroundings,
  Compiler.endsAlike_fill, Compiler.compileClause_past_result, past_negations_compile_alike
-/
import Criteria.Proofs.Changes.Finding
import Criteria.Proofs.Compile.Reach

namespace Criteria.Changes

open Criteria.Search

/-! ### The answer to a negative question -/

/-- What is left out by a negative question is the complement of what is found by the positive one,
whether any entities were found or not. -/
theorem Found.fragment_negated (entities : IdSet) :
    Found.fragment ⟨entities, true⟩ = (Found.fragment ⟨entities, false⟩).negate := by
  unfold Found.fragment
  cases entities.isEmpty with
  | true => rfl
  | false => rfl

/-- The entities that a query finds among the changes. Without a query there are none. -/
def Finder.entitiesFound (finder : Finder) : Option Query → Except BackendError IdSet
  | none => .ok ∅
  | some query => finder.index query

theorem Finder.search_eq (finder : Finder) (leaf : Terminal) (query? : Option Query) :
    finder.search leaf query? =
      (finder.entitiesFound query?).map fun entities => ⟨entities, isNegative leaf⟩ := by
  cases query? with
  | none => rfl
  | some query => rfl

/-- An operator about past values and the one that asks for the opposite. -/
inductive PastOpposite : Operator → Operator → Prop where
  | was : PastOpposite .was .wasNot
  | wasIn : PastOpposite .wasIn .wasNotIn

namespace PastOpposite

variable {leaf : Terminal} {opposite : Operator}

theorem isHistory (opposed : PastOpposite leaf.operator opposite) :
    leaf.operator.isHistory = true ∧ opposite.isHistory = true := by
  generalize leaf.operator = operator at opposed
  cases opposed with
  | was => decide
  | wasIn => decide

theorem isNegative (opposed : PastOpposite leaf.operator opposite) :
    isNegative leaf = false ∧ isNegative { leaf with operator := opposite } = true := by
  unfold Changes.isNegative
  generalize leaf.operator = operator at opposed
  cases opposed with
  | was => exact ⟨rfl, rfl⟩
  | wasIn => exact ⟨rfl, rfl⟩

/-- Both questions are put to the index of changes in the same way. -/
theorem changeQuery? (opposed : PastOpposite leaf.operator opposite) (finder : Finder)
    (context : SearchContext) (history : Fields.HistoryField) :
    finder.changeQuery? context history { leaf with operator := opposite } =
      finder.changeQuery? context history leaf := by
  have held : finder.heldQueries? context history { leaf with operator := opposite } =
      finder.heldQueries? context history leaf := by
    unfold Finder.heldQueries?
    generalize leaf.operator = operator at opposed
    cases opposed with
    | was => rfl
    | wasIn => rfl
  unfold Finder.changeQuery?
  rw [held]

end PastOpposite

end Criteria.Changes

namespace Criteria.Compile

open Criteria.Changes
open Criteria.Fields
open Criteria.Search

/-! ### Compilations that end alike -/

/-- Two compilations end with the same value, or with the same failure of a collaborator, or with the
refusal of equally wide groups, which may belong to different clauses. -/
inductive EndsAlike {α : Type} : Except CompileError α → Except CompileError α → Prop where
  | value (value : α) : EndsAlike (.ok value) (.ok value)
  | failed (reason : BackendError) :
      EndsAlike (.error (.backend reason)) (.error (.backend reason))
  | refused (first second : Clause) (limit count : Nat) :
      EndsAlike (.error (.tooComplex first limit count)) (.error (.tooComplex second limit count))

namespace EndsAlike

variable {α β : Type} {first second : Except CompileError α}

theorem refl (ending : Except CompileError α) : EndsAlike ending ending := by
  cases ending with
  | ok value => exact .value value
  | error error =>
      cases error with
      | tooComplex clause limit count => exact .refused clause clause limit count
      | backend reason => exact .failed reason

theorem bind (alike : EndsAlike first second) {next other : α → Except CompileError β}
    (rest : ∀ value, EndsAlike (next value) (other value)) :
    EndsAlike (first.bind next) (second.bind other) := by
  cases alike with
  | value value => exact rest value
  | failed reason => exact .failed reason
  | refused clause otherClause limit count => exact .refused clause otherClause limit count

theorem map (alike : EndsAlike first second) (read : α → β) :
    EndsAlike (first.map read) (second.map read) := by
  cases alike with
  | value value => exact .value (read value)
  | failed reason => exact .failed reason
  | refused clause otherClause limit count => exact .refused clause otherClause limit count

theorem eq_ok_iff (alike : EndsAlike first second) (value : α) :
    first = .ok value ↔ second = .ok value := by
  cases alike with
  | value other => exact Iff.rfl
  | failed reason => simp
  | refused clause otherClause limit count => simp

end EndsAlike

theorem Run.bind_result {α β : Type} (run : Run α) (next : α → Run β) :
    (run >>= next).result = run.result.bind fun value => (next value).result := by
  cases ended : run.result with
  | ok value =>
      rw [Run.bind_of_ok ended]
      rfl
  | error error =>
      rw [Run.bind_of_error ended]
      rfl

namespace Compiler

variable {compiler : Compiler} {context : SearchContext} {first second : Clause}

theorem endsAlike_checkWidth (first second : Clause) (count : Nat) :
    EndsAlike (compiler.checkWidth first count).result
      (compiler.checkWidth second count).result := by
  unfold checkWidth
  split
  · exact .refused first second compiler.limit count
  · exact .value ()

theorem endsAlike_groupFragment (first second : Clause) (clauses : List (Occur × Query)) :
    EndsAlike (compiler.groupFragment first clauses).result
      (compiler.groupFragment second clauses).result := by
  rw [groupFragment, groupFragment, Run.bind_result, Run.bind_result]
  exact (endsAlike_checkWidth first second _).bind fun _ => .refl _

theorem endsAlike_conjunction (first second : Clause) (parts : List Fragment) :
    EndsAlike (compiler.conjunction first parts).result
      (compiler.conjunction second parts).result := by
  unfold conjunction
  dsimp only
  split
  · exact .refl _
  · exact .refl _
  · split
    · exact .refl _
    · exact endsAlike_groupFragment first second _

theorem endsAlike_disjunction (first second : Clause) (parts : List Fragment) :
    EndsAlike (compiler.disjunction first parts).result
      (compiler.disjunction second parts).result := by
  unfold disjunction
  split
  · exact .refl _
  · exact .refl _
  · exact endsAlike_groupFragment first second _

/-! ### The same surroundings -/

theorem endsAlike_compileUntil {decides : Fragment → Bool}
    (alike : EndsAlike (compiler.compileClause context first).result
      (compiler.compileClause context second).result) (before after : List Clause) :
    EndsAlike (compiler.compileUntil context decides (before ++ first :: after)).result
      (compiler.compileUntil context decides (before ++ second :: after)).result := by
  induction before with
  | nil =>
      rw [List.nil_append, List.nil_append, compileUntil, compileUntil, Run.bind_result,
        Run.bind_result]
      exact alike.bind fun _ => .refl _
  | cons child children ih =>
      rw [List.cons_append, List.cons_append, compileUntil, compileUntil, Run.bind_result,
        Run.bind_result]
      refine (EndsAlike.refl _).bind fun fragment => ?_
      split
      · exact .refl _
      · rw [Run.bind_result, Run.bind_result]
        exact ih.bind fun _ => .refl _

theorem endsAlike_and
    (alike : EndsAlike (compiler.compileClause context first).result
      (compiler.compileClause context second).result) (before after : List Clause) :
    EndsAlike (compiler.compileClause context (.and (before ++ first :: after))).result
      (compiler.compileClause context (.and (before ++ second :: after))).result := by
  rw [compileClause, compileClause, Run.bind_result, Run.bind_result]
  refine (endsAlike_compileUntil alike before after).bind fun parts? => ?_
  cases parts? with
  | none => exact .refl _
  | some parts => exact endsAlike_conjunction _ _ parts

theorem endsAlike_or
    (alike : EndsAlike (compiler.compileClause context first).result
      (compiler.compileClause context second).result) (before after : List Clause) :
    EndsAlike (compiler.compileClause context (.or (before ++ first :: after))).result
      (compiler.compileClause context (.or (before ++ second :: after))).result := by
  rw [compileClause, compileClause, Run.bind_result, Run.bind_result]
  refine (endsAlike_compileUntil alike before after).bind fun parts? => ?_
  cases parts? with
  | none => exact .refl _
  | some parts => exact endsAlike_disjunction _ _ parts

theorem compileClause_not_result (clause : Clause) :
    (compiler.compileClause context (.not clause)).result =
      (compiler.compileClause context clause).result.map Fragment.negate := by
  rw [compileClause, Run.bind_result]
  cases (compiler.compileClause context clause).result with
  | ok fragment => rfl
  | error error => rfl

end Compiler

/-- A condition with a place for another one in it. -/
inductive Surroundings where
  | here
  | and (before : List Clause) (inner : Surroundings) (after : List Clause)
  | or (before : List Clause) (inner : Surroundings) (after : List Clause)
  | not (inner : Surroundings)

/-- The condition with another one in its place. -/
def Surroundings.fill (clause : Clause) : Surroundings → Clause
  | .here => clause
  | .and before inner after => .and (before ++ inner.fill clause :: after)
  | .or before inner after => .or (before ++ inner.fill clause :: after)
  | .not inner => .not (inner.fill clause)

namespace Compiler

variable {compiler : Compiler} {context : SearchContext} {first second : Clause}

/-- What ends alike by itself ends alike in any surroundings. -/
theorem endsAlike_fill
    (alike : EndsAlike (compiler.compileClause context first).result
      (compiler.compileClause context second).result) (around : Surroundings) :
    EndsAlike (compiler.compileClause context (around.fill first)).result
      (compiler.compileClause context (around.fill second)).result := by
  induction around with
  | here => exact alike
  | and before inner after ih => exact endsAlike_and ih before after
  | or before inner after ih => exact endsAlike_or ih before after
  | not inner ih =>
      rw [Surroundings.fill, Surroundings.fill, compileClause_not_result, compileClause_not_result]
      exact ih.map Fragment.negate

/-! ### Questions about past values -/

/-- The entities that a question about past values finds with its query, unless the query is too
wide. -/
def pastEntities (compiler : Compiler) (finder : Finder) (leaf : Terminal) (query? : Option Query) :
    Except CompileError IdSet :=
  (compiler.checkWidth (.terminal leaf) ((query?.map Query.widestGroup).getD 0)).result.bind
    fun _ => (finder.entitiesFound query?).mapError .backend

theorem endsAlike_pastEntities (finder : Finder) (leaf other : Terminal) (query? : Option Query) :
    EndsAlike (compiler.pastEntities finder leaf query?)
      (compiler.pastEntities finder other query?) :=
  (endsAlike_checkWidth _ _ _).bind fun _ => .refl _

variable {opposite : Operator} {history : HistoryField} {finder : Finder}

/-- A question about past values comes to the entities that it finds, to be left out if it is
negative. -/
theorem compileClause_past_result (leaf : Terminal) (past : leaf.operator.isHistory = true)
    (registered : compiler.registry.history? leaf.field = some history)
    (installed : compiler.finder = some finder) :
    (compiler.compileClause context (.terminal leaf)).result =
      (compiler.pastEntities finder leaf (finder.changeQuery? context history leaf)).map
        fun entities => Found.fragment ⟨entities, isNegative leaf⟩ := by
  -- a set of entities is no group, so nothing is refused after the search
  have finished (found : Found) :
      (compiler.finishTerminal leaf found.fragment).result = .ok found.fragment := by
    rw [finishTerminal_of_le (by simp [found.widestGroup_fragment])]
  rw [compileClause, compileTerminal, if_pos past]
  simp only [compileHistory, registered, installed, Run.bind_result, Run.report_bind,
    Run.after_result, finished, searchChanges, finder.search_eq, pastEntities]
  cases (compiler.checkWidth (.terminal leaf) _).result with
  | error error => rfl
  | ok _ =>
      cases finder.entitiesFound (finder.changeQuery? context history leaf) with
      | ok entities => rfl
      | error reason => rfl

/-- A negative question about past values is compiled like the negation of the positive one. -/
theorem endsAlike_pastOpposite (compiler : Compiler) (context : SearchContext) (leaf : Terminal)
    (opposed : PastOpposite leaf.operator opposite)
    (registered : compiler.registry.history? leaf.field = some history)
    (installed : compiler.finder = some finder) :
    EndsAlike
      (compiler.compileClause context (.terminal { leaf with operator := opposite })).result
      (compiler.compileClause context (.not (.terminal leaf))).result := by
  obtain ⟨past, pastOpposite⟩ := opposed.isHistory
  obtain ⟨positive, negative⟩ := opposed.isNegative
  rw [compileClause_not_result,
    compileClause_past_result { leaf with operator := opposite } pastOpposite registered installed,
    compileClause_past_result leaf past registered installed, positive, negative,
    opposed.changeQuery?]
  have complement (ending : Except CompileError IdSet) :
      ending.map (fun entities => Found.fragment ⟨entities, true⟩) =
        (ending.map fun entities => Found.fragment ⟨entities, false⟩).map Fragment.negate := by
    cases ending with
    | ok entities => exact congrArg Except.ok (Found.fragment_negated entities)
    | error error => rfl
  rw [complement]
  exact ((endsAlike_pastEntities ..).map _).map _

end Compiler

/-- WAS NOT and WAS NOT IN are compiled like the negations of WAS and WAS IN, and inside a larger
condition either can take the place of the other: it is compiled to the same query. -/
theorem past_negations_compile_alike (compiler : Compiler) (context : SearchContext)
    (leaf : Terminal) {opposite : Operator} (opposed : PastOpposite leaf.operator opposite)
    {history : HistoryField} {finder : Finder}
    (registered : compiler.registry.history? leaf.field = some history)
    (installed : compiler.finder = some finder) :
    EndsAlike
      (compiler.compileClause context (.terminal { leaf with operator := opposite })).result
      (compiler.compileClause context (.not (.terminal leaf))).result ∧
    ∀ (around : Surroundings) (query : Query),
      (compiler.compile context
        (around.fill (.terminal { leaf with operator := opposite }))).result = .ok query ↔
      (compiler.compile context (around.fill (.not (.terminal leaf)))).result = .ok query := by
  have alike := compiler.endsAlike_pastOpposite context leaf opposed registered installed
  refine ⟨alike, ?_⟩
  intro around query
  exact ((Compiler.endsAlike_fill alike around).map Fragment.toQuery).eq_ok_iff query

/-- A compiler for the past of the status, with the changes of a day on record. -/
def dayRecord : Compiler where
  registry := Registry.empty.registerHistory "status" statusHistory
  operands := FunctionTable.builtIns.literals
  finder := some (logFinder FunctionTable.builtIns.literals dayLog)

/-- Neither was the status y, nor does the rest hold. -/
def neitherY : Surroundings :=
  .not (.or [.terminal (.was "status" (.value (.text "y")) none)] .here [])

theorem past_negations_compile_alike_of_dayRecord :
    PastOpposite .was .wasNot ∧ dayRecord.registry.history? "status" = some statusHistory ∧
    dayRecord.finder = some (logFinder FunctionTable.builtIns.literals dayLog) ∧
    ∃ query, (dayRecord.compile ⟨none, noon⟩ (neitherY.fill (.terminal neverAfterNoon))).result =
        .ok query ∧
      (dayRecord.compile ⟨none, noon⟩
        (neitherY.fill (.not (.terminal { neverAfterNoon with operator := .was })))).result =
        .ok query := by
  have registered : dayRecord.registry.history? "status" = some statusHistory := rfl
  obtain ⟨_, same⟩ := past_negations_compile_alike dayRecord ⟨none, noon⟩
    { neverAfterNoon with operator := .was } .was registered rfl
  have succeeds : (dayRecord.compile ⟨none, noon⟩
      (neitherY.fill (.terminal neverAfterNoon))).result.isOk = true := by
    decide +kernel
  cases compiled : (dayRecord.compile ⟨none, noon⟩
      (neitherY.fill (.terminal neverAfterNoon))).result with
  | error error =>
      rw [compiled] at succeeds
      cases succeeds
  | ok query => exact ⟨.was, registered, rfl, query, rfl, (same neitherY query).mp compiled⟩

end Criteria.Compile
