/-
Module: Criteria.Proofs.Changes.Conjunction
Purpose: Predicates joined with AND narrow a question about changes to what each of them leaves of
  it, if each of them has a constraint.
Main exports:
  Predicate.leaves_and, Finder.matchesSome_narrowed_iff, joined_predicates_narrow_together
-/
import Criteria.Proofs.Changes.Finding

namespace Criteria.Predicate

/-! ### The constraints of joined predicates -/

theorem leavesOf_append (first second : List Predicate) :
    leavesOf (first ++ second) = leavesOf first ++ leavesOf second := by
  induction first with
  | nil => rfl
  | cons part parts ih => rw [List.cons_append, leavesOf, leavesOf, ih, List.append_assoc]

theorem leavesOf_parts (predicate : Predicate) :
    leavesOf predicate.parts = predicate.leaves := by
  cases predicate with
  | leaf operator operand => rfl
  | all parts => rfl

theorem leaves_and (first second : Predicate) :
    (first.and second).leaves = first.leaves ++ second.leaves := by
  rw [and, leaves, leavesOf_append, leavesOf_parts, leavesOf_parts]

end Criteria.Predicate

namespace Criteria.Changes

open Criteria.Fields
open Criteria.Search

namespace Finder

variable {finder : Finder} {context : SearchContext} {history : HistoryField}
variable {document : Document} {terminal : Terminal}

/-- The document is about the field and the values that a terminal asks about, whatever its
predicate. -/
structure Concerns (finder : Finder) (context : SearchContext) (history : HistoryField)
    (terminal : Terminal) (document : Document) : Prop where
  field : history.changeField ∈ document.terms changedField
  held : document.MatchesEach (finder.heldQueries? context history terminal)

/-- A constraint admits the document. -/
def Admits (finder : Finder) (context : SearchContext) (history : HistoryField)
    (document : Document) (leaf : PredicateOperator × Operand) : Prop :=
  document.MatchesSome
    (finder.constraintQuery? history leaf.1 (finder.operands context leaf.2))

/-- A narrowed question asks for all constraints of the predicate, and for at least one. -/
theorem matchesSome_narrowed_iff (predicate : Predicate) :
    document.MatchesSome
        (finder.changeQuery? context history (terminal.narrowed predicate)) ↔
      finder.Concerns context history terminal document ∧ predicate.leaves ≠ [] ∧
        ∀ leaf ∈ predicate.leaves, finder.Admits context history document leaf := by
  have sameHeld : finder.heldQueries? context history (terminal.narrowed predicate) =
      finder.heldQueries? context history terminal := rfl
  have isPredicate : (terminal.narrowed predicate).predicate = some predicate := rfl
  rw [finder.matchesSome_changeQuery?_iff_each, finder.matchesEach_narrowingQueries?_iff,
    sameHeld, isPredicate]
  simp only [Option.some.injEq, forall_eq', finder.matchesSome_predicateQuery?_iff]
  constructor
  · intro given
    rcases given with ⟨field, held, narrowed⟩
    exact ⟨⟨field, held⟩, narrowed⟩
  · intro given
    rcases given with ⟨⟨field, held⟩, narrowed⟩
    exact ⟨field, held, narrowed⟩

theorem mem_changesFound_narrowed_iff (updates : List Update) (predicate : Predicate)
    (id : String) :
    id ∈ finder.changesFound context history (Store.after updates) (terminal.narrowed predicate) ↔
      predicate.leaves ≠ [] ∧ ∃ document, Stored updates document ∧ document.id = id ∧
        finder.Concerns context history terminal document ∧
        ∀ leaf ∈ predicate.leaves, finder.Admits context history document leaf := by
  simp only [finder.mem_changesFound_iff, matchesSome_narrowed_iff]
  constructor
  · rintro ⟨document, stored, sameId, concerns, some, each⟩
    exact ⟨some, document, stored, sameId, concerns, each⟩
  · rintro ⟨some, document, stored, sameId, concerns, each⟩
    exact ⟨document, stored, sameId, concerns, some, each⟩

/-- Two predicates that have constraints find together what each of them finds. -/
theorem mem_changesFound_and_iff (updates : List Update) {first second : Predicate}
    (firstSome : first.leaves ≠ []) (secondSome : second.leaves ≠ []) (id : String) :
    id ∈ finder.changesFound context history (Store.after updates)
        (terminal.narrowed (first.and second)) ↔
      id ∈ finder.changesFound context history (Store.after updates) (terminal.narrowed first) ∧
      id ∈ finder.changesFound context history (Store.after updates)
        (terminal.narrowed second) := by
  simp only [mem_changesFound_narrowed_iff, Predicate.leaves_and, List.forall_mem_append]
  constructor
  · rintro ⟨_, document, stored, sameId, concerns, firstHolds, secondHolds⟩
    exact ⟨⟨firstSome, document, stored, sameId, concerns, firstHolds⟩,
      ⟨secondSome, document, stored, sameId, concerns, secondHolds⟩⟩
  · rintro ⟨⟨_, document, stored, sameId, concerns, firstHolds⟩,
      ⟨_, other, otherStored, otherId, _, secondHolds⟩⟩
    rw [otherStored.eq_of_id_eq stored (otherId.trans sameId.symm)] at secondHolds
    exact ⟨List.append_ne_nil_of_left_ne_nil firstSome _, document, stored, sameId, concerns,
      firstHolds, secondHolds⟩

/-- Only its constraints matter of a predicate, not how they are put together. -/
theorem mem_changesFound_congr (updates : List Update) {first second : Predicate}
    (same : first.leaves = second.leaves) (id : String) :
    id ∈ finder.changesFound context history (Store.after updates) (terminal.narrowed first) ↔
      id ∈ finder.changesFound context history (Store.after updates)
        (terminal.narrowed second) := by
  rw [mem_changesFound_narrowed_iff, mem_changesFound_narrowed_iff, same]

end Finder

/-- A question narrowed by two joined predicates finds the changes that it finds narrowed by either
of them. A predicate without a constraint finds nothing by itself, and yet joining it to another
predicate takes nothing away from what the other one finds. -/
theorem joined_predicates_narrow_together (updates : List Update) (finder : Finder)
    (context : SearchContext) (history : HistoryField) (terminal : Terminal)
    (first second : Predicate) (id : String) :
    (first.leaves ≠ [] → second.leaves ≠ [] →
      (id ∈ finder.changesFound context history (Store.after updates)
          (terminal.narrowed (first.and second)) ↔
        id ∈ finder.changesFound context history (Store.after updates)
            (terminal.narrowed first) ∧
          id ∈ finder.changesFound context history (Store.after updates)
            (terminal.narrowed second))) ∧
    (first.leaves = [] →
      id ∉ finder.changesFound context history (Store.after updates) (terminal.narrowed first) ∧
      (id ∈ finder.changesFound context history (Store.after updates)
          (terminal.narrowed (first.and second)) ↔
        id ∈ finder.changesFound context history (Store.after updates)
          (terminal.narrowed second))) ∧
    (second.leaves = [] →
      id ∉ finder.changesFound context history (Store.after updates) (terminal.narrowed second) ∧
      (id ∈ finder.changesFound context history (Store.after updates)
          (terminal.narrowed (first.and second)) ↔
        id ∈ finder.changesFound context history (Store.after updates)
          (terminal.narrowed first))) := by
  have foundNothing {predicate : Predicate} (none : predicate.leaves = []) :
      id ∉ finder.changesFound context history (Store.after updates)
        (terminal.narrowed predicate) := by
    rw [Finder.mem_changesFound_narrowed_iff]
    exact fun found => found.1 none
  refine ⟨?_, ?_, ?_⟩
  · intro firstSome secondSome
    exact Finder.mem_changesFound_and_iff updates firstSome secondSome id
  · intro none
    refine ⟨foundNothing none, Finder.mem_changesFound_congr updates ?_ id⟩
    rw [Predicate.leaves_and, none, List.nil_append]
  · intro none
    refine ⟨foundNothing none, Finder.mem_changesFound_congr updates ?_ id⟩
    rw [Predicate.leaves_and, none, List.append_nil]

/-- Made by u, and nothing more: a constraint beside a predicate that has none. -/
def madeByU : Predicate :=
  .all [.all [], .leaf .by (.value (.text "u"))]

/-- Made after noon. -/
def afterNoonOf2024 : Predicate :=
  .leaf .after (.value (.date noon))

/-- The status was y. -/
def wasY : Terminal :=
  .was "status" (.value (.text "y")) none

theorem joined_predicates_narrow_together_of_dayLog :
    madeByU.leaves ≠ [] ∧ afterNoonOf2024.leaves ≠ [] ∧ (Predicate.all []).leaves = [] ∧
    "c1" ∈ (logFinder FunctionTable.builtIns.literals dayLog).changesFound ⟨none, noon⟩
      statusHistory (Store.after (logUpdates dayLog))
      (wasY.narrowed (madeByU.and afterNoonOf2024)) ∧
    "c1" ∉ (logFinder FunctionTable.builtIns.literals dayLog).changesFound ⟨none, noon⟩
      statusHistory (Store.after (logUpdates dayLog)) (wasY.narrowed (.all [])) ∧
    "c1" ∈ (logFinder FunctionTable.builtIns.literals dayLog).changesFound ⟨none, noon⟩
      statusHistory (Store.after (logUpdates dayLog))
      (wasY.narrowed ((Predicate.all []).and afterNoonOf2024)) := by
  have byU : madeByU.leaves ≠ [] := by decide
  have afterNoon : afterNoonOf2024.leaves ≠ [] := by decide
  have unconstrained : (Predicate.all []).leaves = [] := rfl
  obtain ⟨together, _, _⟩ := joined_predicates_narrow_together (logUpdates dayLog)
    (logFinder FunctionTable.builtIns.literals dayLog) ⟨none, noon⟩ statusHistory wasY madeByU
    afterNoonOf2024 "c1"
  obtain ⟨_, passedOver, _⟩ := joined_predicates_narrow_together (logUpdates dayLog)
    (logFinder FunctionTable.builtIns.literals dayLog) ⟨none, noon⟩ statusHistory wasY (.all [])
    afterNoonOf2024 "c1"
  obtain ⟨nothing, same⟩ := passedOver unconstrained
  exact ⟨byU, afterNoon, unconstrained,
    (together byU afterNoon).mpr ⟨by decide +kernel, by decide +kernel⟩, nothing,
    same.mpr (by decide +kernel)⟩

/-- Joined to a predicate without a constraint, which finds nothing by itself, a constraint finds
what it found before. -/
theorem joining_no_constraint_excludes_nothing :
    ¬ ("c0" ∈ (logFinder FunctionTable.builtIns.literals noonLog).changesFound ⟨none, noon⟩
        statusHistory (Store.after (logUpdates noonLog))
        (.changed "status" (some ((Predicate.all []).and (.leaf .by (.value (.text "u")))))) ↔
      "c0" ∈ (logFinder FunctionTable.builtIns.literals noonLog).changesFound ⟨none, noon⟩
        statusHistory (Store.after (logUpdates noonLog))
        (.changed "status" (some (.all []))) ∧
      "c0" ∈ (logFinder FunctionTable.builtIns.literals noonLog).changesFound ⟨none, noon⟩
        statusHistory (Store.after (logUpdates noonLog))
        (.changed "status" (some (.leaf .by (.value (.text "u")))))) := by
  decide +kernel

end Criteria.Changes
