/-
Module: Criteria.Proofs.Changes.QueryMeaning
Purpose: Which documents the queries to the index of changes hold of, constraint by
  constraint; a query that is not put holds of none.
Main exports:
  PastValue, matchesSome_valueQuery?_iff, matchesSome_actorQuery?_iff,
  Finder.matchesSome_predicateQuery?_iff, Finder.matchesSome_changeQuery?_iff,
  Finder.changesFound, Finder.mem_changesFound_iff
-/
import Mathlib.Data.List.Forall2
import Criteria.Changes.Finder
import Criteria.Proofs.Search.Coherence
import Criteria.Proofs.Search.Matching

namespace Criteria.Changes

open Criteria.Fields
open Criteria.Search

variable {history : HistoryField} {document : Document}

/-- The term is one that the literal may have had in the past. A value that is indexed under
no term any longer had its plain text. -/
def PastTerm (history : HistoryField) : Literal → String → Prop
  | .empty, term => term = emptyTerm
  | .value content, term => term ∈ history.terms content ∨
      history.terms content = [] ∧ term = content.plainText

/-- The term is one that some of the literals may have had in the past. -/
def PastValue (history : HistoryField) (literals : List Literal) (term : String) : Prop :=
  ∃ literal ∈ literals, PastTerm history literal term

theorem mem_pastTerms_iff (literal : Literal) (term : String) :
    term ∈ pastTerms history literal ↔ PastTerm history literal term := by
  cases literal with
  | empty => simp [pastTerms, PastTerm]
  | value content =>
      rw [pastTerms, PastTerm]
      cases history.terms content with
      | nil => simp
      | cons first others => simp

theorem valueQuery?_eq (history : HistoryField) (fields : List String)
    (literals : List Literal) :
    valueQuery? history fields literals =
      Query.anyOf? ((literals.flatMap (pastTerms history)).flatMap fun term =>
        fields.map fun field => Query.term field term) := by
  unfold valueQuery?
  generalize ((literals.flatMap (pastTerms history)).flatMap fun term =>
    fields.map fun field => Query.term field term) = queries
  cases queries with
  | nil => rfl
  | cons query queries => rfl

theorem actorQuery?_eq (literals : List Literal) :
    actorQuery? literals =
      Query.anyOf? ((literals.filterMap Literal.value?).map fun value =>
        Query.term actorField value.plainText) := by
  unfold actorQuery?
  generalize ((literals.filterMap Literal.value?).map fun value =>
    Query.term actorField value.plainText) = queries
  cases queries with
  | nil => rfl
  | cons query queries => rfl

theorem matchesSome_valueQuery?_iff (fields : List String) (literals : List Literal) :
    document.MatchesSome (valueQuery? history fields literals) ↔
      ∃ field ∈ fields, ∃ term ∈ document.terms field, PastValue history literals term := by
  rw [valueQuery?_eq, document.matchesSome_anyOf?_iff]
  simp only [List.mem_flatMap, List.mem_map, mem_pastTerms_iff, PastValue]
  constructor
  · rintro ⟨query, ⟨term, past, field, member, rfl⟩, held⟩
    exact ⟨field, member, term, held, past⟩
  · intro given
    rcases given with ⟨field, member, term, held, past⟩
    exact ⟨.term field term, ⟨term, past, field, member, rfl⟩, held⟩

theorem mem_filterMap_value? (literals : List Literal) (value : Value) :
    value ∈ literals.filterMap Literal.value? ↔ .value value ∈ literals := by
  rw [List.mem_filterMap]
  constructor
  · intro given
    rcases given with ⟨literal, member, same⟩
    cases literal with
    | value content =>
        cases same
        exact member
    | empty => cases same
  · intro member
    exact ⟨.value value, member, rfl⟩

theorem matchesSome_actorQuery?_iff (literals : List Literal) :
    document.MatchesSome (actorQuery? literals) ↔
      ∃ value, .value value ∈ literals ∧ value.plainText ∈ document.terms actorField := by
  rw [actorQuery?_eq, document.matchesSome_anyOf?_iff]
  simp only [List.mem_map, mem_filterMap_value?]
  constructor
  · rintro ⟨query, ⟨value, member, rfl⟩, held⟩
    exact ⟨value, member, held⟩
  · intro given
    rcases given with ⟨value, member, held⟩
    exact ⟨.term actorField value.plainText, ⟨value, member, rfl⟩, held⟩

/-! ### Predicates -/

theorem mapM_eq_some_iff {α β : Type} {read : α → Option β} {items : List α}
    {results : List β} :
    items.mapM read = some results ↔
      List.Forall₂ (fun item result => read item = some result) items results := by
  induction items generalizing results with
  | nil =>
      rw [List.mapM_nil]
      constructor
      · intro same
        cases same
        exact .nil
      · intro each
        cases each
        rfl
  | cons item items ih =>
      rw [List.mapM_cons]
      simp only [Option.bind_eq_bind, Option.bind_eq_some_iff, Option.pure_def,
        Option.some.injEq, ih]
      constructor
      · rintro ⟨result, first, others, rest, rfl⟩
        exact .cons first rest
      · intro each
        cases each with
        | cons first rest => exact ⟨_, first, _, rest, rfl⟩

/-- All of several readings hold of a document, if each of them exists and holds. -/
theorem matchesEach_mapM_iff {α : Type} (read : α → Option Query) (items : List α) :
    document.MatchesEach (items.mapM read) ↔
      ∀ item ∈ items, document.MatchesSome (read item) := by
  simp only [Document.MatchesEach, mapM_eq_some_iff]
  induction items with
  | nil => simp
  | cons item items ih =>
      rw [List.forall_mem_cons, ← ih]
      constructor
      · rintro ⟨queries, each, holds⟩
        cases each with
        | cons first rest =>
            rw [List.forall_mem_cons] at holds
            exact ⟨⟨_, first, holds.1⟩, ⟨_, rest, holds.2⟩⟩
      · intro given
        rcases given with ⟨⟨query, first, holds⟩, ⟨queries, rest, otherHold⟩⟩
        exact ⟨query :: queries, .cons first rest, List.forall_mem_cons.mpr ⟨holds, otherHold⟩⟩

namespace Finder

variable (finder : Finder) (context : SearchContext)

/-- A predicate asks for all of its constraints, and for at least one. -/
theorem matchesSome_predicateQuery?_iff (predicate : Predicate) :
    document.MatchesSome (finder.predicateQuery? context history predicate) ↔
      predicate.leaves ≠ [] ∧ ∀ leaf ∈ predicate.leaves, document.MatchesSome
        (finder.constraintQuery? history leaf.1 (finder.operands context leaf.2)) := by
  unfold predicateQuery?
  rw [← matchesEach_mapM_iff]
  simp only [Document.MatchesSome, Document.MatchesEach, Option.map_eq_some_iff]
  have sameLength {queries : List Query}
      (each : predicate.leaves.mapM (fun leaf => finder.constraintQuery? history leaf.1
        (finder.operands context leaf.2)) = some queries) :
      predicate.leaves.length = queries.length :=
    (mapM_eq_some_iff.mp each).length_eq
  constructor
  · rintro ⟨query, ⟨queries, each, rfl⟩, holds⟩
    obtain ⟨nonempty, allHold⟩ := (document.matches_allOf_iff queries).mp holds
    refine ⟨?_, queries, each, allHold⟩
    rw [← List.length_pos_iff, sameLength each, List.length_pos_iff]
    exact nonempty
  · intro given
    rcases given with ⟨nonempty, queries, each, allHold⟩
    refine ⟨.allOf queries, ⟨queries, each, rfl⟩, ?_⟩
    rw [document.matches_allOf_iff]
    refine ⟨?_, allHold⟩
    rw [← List.length_pos_iff, ← sameLength each, List.length_pos_iff]
    exact nonempty

/-- The query for the predicate of a terminal, if it has one. -/
def narrowingQueries? (history : HistoryField) (terminal : Terminal) : Option (List Query) :=
  match terminal.predicate with
  | some predicate =>
      (finder.predicateQuery? context history predicate).map fun query => [query]
  | none => some []

theorem changeQuery?_eq_some_iff {terminal : Terminal} {query : Query} :
    finder.changeQuery? context history terminal = some query ↔
      ∃ held narrowing, finder.heldQueries? context history terminal = some held ∧
        finder.narrowingQueries? context history terminal = some narrowing ∧
        query = .allOf (.term changedField history.changeField :: (held ++ narrowing)) := by
  have unfolded : finder.changeQuery? context history terminal =
      (finder.heldQueries? context history terminal).bind fun held =>
        (finder.narrowingQueries? context history terminal).bind fun narrowing =>
          some (.allOf (.term changedField history.changeField :: (held ++ narrowing))) := by
    unfold changeQuery? narrowingQueries?
    cases terminal.predicate with
    | none => rfl
    | some predicate => rfl
  simp only [unfolded, Option.bind_eq_some_iff, Option.some.injEq]
  constructor
  · intro given
    rcases given with ⟨held, isHeld, narrowing, isNarrowing, same⟩
    exact ⟨held, narrowing, isHeld, isNarrowing, same.symm⟩
  · intro given
    rcases given with ⟨held, narrowing, isHeld, isNarrowing, same⟩
    exact ⟨held, isHeld, narrowing, isNarrowing, same.symm⟩

theorem matchesEach_heldQueries?_iff {terminal : Terminal}
    (asksHistory : terminal.operator.isHistory = true) :
    document.MatchesEach (finder.heldQueries? context history terminal) ↔
      (terminal.operator ≠ .changed → document.MatchesSome
        (valueQuery? history [oldValueField, newValueField]
          (finder.operands context terminal.operand))) := by
  unfold heldQueries?
  cases kind : terminal.operator with
  | changed => simp [Document.MatchesEach]
  | was | wasNot | wasIn | wasNotIn => simp [document.matchesEach_singleton_iff]
  | _ =>
      rw [kind] at asksHistory
      cases asksHistory

theorem matchesEach_narrowingQueries?_iff (terminal : Terminal) :
    document.MatchesEach (finder.narrowingQueries? context history terminal) ↔
      ∀ predicate, terminal.predicate = some predicate →
        document.MatchesSome (finder.predicateQuery? context history predicate) := by
  unfold narrowingQueries?
  cases terminal.predicate with
  | none => simp [Document.MatchesEach]
  | some predicate => simp [document.matchesEach_singleton_iff]

/-- A question about changes asks for changes of the field, for the values that it is about, and
for what its predicate asks. -/
theorem matchesSome_changeQuery?_iff_each (terminal : Terminal) :
    document.MatchesSome (finder.changeQuery? context history terminal) ↔
      history.changeField ∈ document.terms changedField ∧
      document.MatchesEach (finder.heldQueries? context history terminal) ∧
      document.MatchesEach (finder.narrowingQueries? context history terminal) := by
  simp only [Document.MatchesSome, Document.MatchesEach, changeQuery?_eq_some_iff]
  constructor
  · rintro ⟨query, ⟨held, narrowing, isHeld, isNarrowing, rfl⟩, holds⟩
    obtain ⟨_, each⟩ := (document.matches_allOf_iff _).mp holds
    rw [List.forall_mem_cons, List.forall_mem_append] at each
    exact ⟨each.1, ⟨held, isHeld, each.2.1⟩, ⟨narrowing, isNarrowing, each.2.2⟩⟩
  · intro given
    rcases given with ⟨field, ⟨held, isHeld, heldHolds⟩, ⟨narrowing, isNarrowing, narrowingHolds⟩⟩
    refine ⟨_, ⟨held, narrowing, isHeld, isNarrowing, rfl⟩, ?_⟩
    rw [document.matches_allOf_iff, List.forall_mem_cons, List.forall_mem_append]
    exact ⟨List.cons_ne_nil _ _, field, heldHolds, narrowingHolds⟩

/-- An operator about changes asks for one of the values, unless it asks for any change. -/
theorem matchesSome_changeQuery?_iff {terminal : Terminal}
    (asksHistory : terminal.operator.isHistory = true) :
    document.MatchesSome (finder.changeQuery? context history terminal) ↔
      history.changeField ∈ document.terms changedField ∧
      (terminal.operator ≠ .changed → document.MatchesSome
        (valueQuery? history [oldValueField, newValueField]
          (finder.operands context terminal.operand))) ∧
      ∀ predicate, terminal.predicate = some predicate →
        document.MatchesSome (finder.predicateQuery? context history predicate) := by
  rw [← finder.matchesEach_heldQueries?_iff context asksHistory,
    ← finder.matchesEach_narrowingQueries?_iff context]
  exact finder.matchesSome_changeQuery?_iff_each context terminal

/-- The change documents that a terminal's query finds in a store. Without a query there are
none. -/
def changesFound (history : HistoryField) (store : Store) (terminal : Terminal) : IdSet :=
  match finder.changeQuery? context history terminal with
  | some query => store.search query
  | none => ∅

theorem mem_changesFound_iff (updates : List Update) (terminal : Terminal) (id : String) :
    id ∈ finder.changesFound context history (Store.after updates) terminal ↔
      ∃ document, Stored updates document ∧ document.id = id ∧
        document.MatchesSome (finder.changeQuery? context history terminal) := by
  unfold changesFound
  cases finder.changeQuery? context history terminal with
  | none => simp
  | some query =>
      simp only [Store.mem_search_iff (Store.coherent_after updates), get?_after,
        Document.matchesSome_some_iff, and_assoc]

theorem mem_changesFound_iff_of_stored {updates : List Update} (stored : Stored updates document)
    (terminal : Terminal) :
    document.id ∈ finder.changesFound context history (Store.after updates) terminal ↔
      document.MatchesSome (finder.changeQuery? context history terminal) := by
  rw [mem_changesFound_iff]
  constructor
  · rintro ⟨other, otherStored, sameId, holds⟩
    rwa [otherStored.eq_of_id_eq stored sameId] at holds
  · intro holds
    exact ⟨document, stored, rfl, holds⟩

end Finder

end Criteria.Changes
