/-
Module: Criteria.Proofs.Search.Scan
Purpose: What a query says of a single document, and which documents a sequence of updates
  leaves: the two halves of a search that looks at every document in turn.
Main exports:
  GroupHolds, Document.Matches, Update, Store.after, Stored, get?_after
-/
import Mathlib.Data.List.Induction
import Criteria.Search.Store

namespace Criteria.Search

/-! ### Queries and single documents -/

namespace Document

theorem terms_withTerm (document : Document) (field term other : String) :
    (document.withTerm field term).terms other =
      if field = other then document.terms other ++ [term] else document.terms other := by
  by_cases here : field = other
  · subst here
    simp [withTerm, terms]
  · simp [withTerm, terms, here, Std.ExtTreeMap.getElem?_insert]

theorem terms_empty (id field : String) : (empty id).terms field = [] := by
  simp [empty, terms]

end Document

/-- The lower end of a range admits a term. -/
def Bound.AdmitsAbove : Bound → String → Prop
  | .unbounded, _ => True
  | .included bound, term => bound ≤ term
  | .excluded bound, term => bound < term

/-- The upper end of a range admits a term. -/
def Bound.AdmitsBelow : Bound → String → Prop
  | .unbounded, _ => True
  | .included bound, term => term ≤ bound
  | .excluded bound, term => term < bound

/-- A group holds if it has a positive clause, no excluded clause holds, and every required
clause holds. The alternatives count only where nothing is required, and then one of them has
to hold. -/
structure GroupHolds (verdicts : List (Occur × Prop)) : Prop where
  positive : ∃ verdict ∈ verdicts, verdict.1 ≠ .mustNot
  excluded : ∀ verdict ∈ verdicts, verdict.1 = .mustNot → ¬ verdict.2
  required : ∀ verdict ∈ verdicts, verdict.1 = .must → verdict.2
  alternative : (∀ verdict ∈ verdicts, verdict.1 ≠ .must) →
    ∃ verdict ∈ verdicts, verdict.1 = .should ∧ verdict.2

/-- A group is judged by its verdicts, wherever they come from. -/
theorem groupHolds_map_iff {α : Type} (clauses : List (Occur × α)) (holds : α → Prop) :
    GroupHolds (clauses.map fun clause => (clause.1, holds clause.2)) ↔
      (∃ clause ∈ clauses, clause.1 ≠ .mustNot) ∧
      (∀ clause ∈ clauses, clause.1 = .mustNot → ¬ holds clause.2) ∧
      (∀ clause ∈ clauses, clause.1 = .must → holds clause.2) ∧
      ((∀ clause ∈ clauses, clause.1 ≠ .must) →
        ∃ clause ∈ clauses, clause.1 = .should ∧ holds clause.2) := by
  constructor
  · rintro ⟨positive, excluded, required, alternative⟩
    simp only [List.mem_map, forall_exists_index, and_imp, forall_apply_eq_imp_iff₂,
      exists_exists_and_eq_and] at *
    exact ⟨positive, excluded, required, alternative⟩
  · rintro ⟨positive, excluded, required, alternative⟩
    constructor
    all_goals simp only [List.mem_map, forall_exists_index, and_imp,
      forall_apply_eq_imp_iff₂, exists_exists_and_eq_and]
    all_goals assumption

mutual

/-- A query holds of a document. -/
def Document.Matches (document : Document) : Query → Prop
  | .all => True
  | .nothing => False
  | .term field value => value ∈ document.terms field
  | .range field lower upper =>
      ∃ term ∈ document.terms field, lower.AdmitsAbove term ∧ upper.AdmitsBelow term
  | .startsWith field beginning => ∃ rest, beginning ++ rest ∈ document.terms field
  | .group clauses => GroupHolds (document.verdicts clauses)
  | .ids members => document.id ∈ members

/-- Whether each clause of a group holds of a document. -/
def Document.verdicts (document : Document) : List (Occur × Query) → List (Occur × Prop)
  | [] => []
  | (occur, query) :: clauses => (occur, document.Matches query) :: document.verdicts clauses

end

theorem Document.verdicts_eq_map (document : Document) (clauses : List (Occur × Query)) :
    document.verdicts clauses =
      clauses.map fun clause => (clause.1, document.Matches clause.2) := by
  induction clauses with
  | nil => rfl
  | cons clause clauses ih =>
      obtain ⟨occur, query⟩ := clause
      rw [Document.verdicts, ih, List.map_cons]

theorem inBounds_iff (lower upper : Bound) (term : String) :
    Store.inBounds lower upper term = true ↔
      lower.AdmitsAbove term ∧ upper.AdmitsBelow term := by
  cases lower <;> cases upper <;> simp [Store.inBounds, Bound.AdmitsAbove, Bound.AdmitsBelow]

theorem isPrefixOf_iff (beginning term : String) :
    beginning.toList.isPrefixOf term.toList = true ↔ ∃ rest, beginning ++ rest = term := by
  rw [List.isPrefixOf_iff_prefix]
  constructor
  · rintro ⟨rest, same⟩
    refine ⟨String.ofList rest, ?_⟩
    rw [← String.toList_inj, String.toList_append, String.toList_ofList, same]
  · rintro ⟨rest, rfl⟩
    exact ⟨rest.toList, String.toList_append.symm⟩

/-! ### The documents that updates leave -/

/-- A change of a store. -/
inductive Update where
  | insert (document : Document)
  | remove (id : String)

/-- The identifier that an update is about. -/
def Update.id : Update → String
  | .insert document => document.id
  | .remove id => id

/-- Carry out an update. -/
def Store.update (store : Store) : Update → Store
  | .insert document => store.insert document
  | .remove id => store.remove id

/-- The store that updates of an empty one lead to. -/
def Store.after (updates : List Update) : Store :=
  updates.foldl Store.update .empty

/-- The document was inserted, and no later update is about its identifier. -/
def Stored (updates : List Update) (document : Document) : Prop :=
  ∃ earlier later, updates = earlier ++ .insert document :: later ∧
    ∀ update ∈ later, update.id ≠ document.id

theorem Stored.mem {updates : List Update} {document : Document}
    (stored : Stored updates document) : .insert document ∈ updates := by
  obtain ⟨earlier, later, rfl, _⟩ := stored
  exact List.mem_append_right _ (List.mem_cons_self ..)

theorem Store.after_append (updates : List Update) (update : Update) :
    Store.after (updates ++ [update]) = (Store.after updates).update update := by
  simp only [Store.after, List.foldl_append, List.foldl_cons, List.foldl_nil]

theorem not_stored_nil (document : Document) : ¬ Stored [] document := by
  rintro ⟨earlier, later, split, _⟩
  simp at split

/-- A document is stored after one more update if this update inserts it, or if it was stored
before and the update is about another. -/
theorem stored_append_iff (updates : List Update) (update : Update) (document : Document) :
    Stored (updates ++ [update]) document ↔
      update = .insert document ∨ Stored updates document ∧ update.id ≠ document.id := by
  constructor
  · rintro ⟨earlier, later, split, untouched⟩
    cases later using List.reverseRecOn with
    | nil =>
        have last := (List.append_inj' split rfl).2
        exact .inl (List.cons.inj last).1
    | append_singleton later last =>
        rw [← List.cons_append, ← List.append_assoc] at split
        obtain ⟨same, sameLast⟩ := List.append_inj' split rfl
        cases sameLast
        refine .inr ⟨⟨earlier, later, same, fun other member => ?_⟩, ?_⟩
        · exact untouched other (List.mem_append_left _ member)
        · exact untouched update (List.mem_append_right _ (List.mem_singleton_self _))
  · rintro (rfl | ⟨⟨earlier, later, rfl, untouched⟩, other⟩)
    · exact ⟨updates, [], rfl, by simp⟩
    · refine ⟨earlier, later ++ [update], by simp, fun further member => ?_⟩
      rcases List.mem_append.mp member with before | last
      · exact untouched further before
      · rw [List.mem_singleton.mp last]
        exact other

namespace Store

variable (store : Store)

theorem get?_remove (removed id : String) :
    (store.remove removed).get? id = if removed = id then none else store.get? id := by
  unfold remove take
  cases found : store.get? removed with
  | none =>
      by_cases same : removed = id
      · subst same
        simp [found]
      · simp [same]
  | some document => simp [get?, Std.ExtTreeMap.getElem?_erase]

theorem get?_insert (document : Document) (id : String) :
    (store.insert document).get? id =
      if document.id = id then some document else store.get? id := by
  have cleared := store.get?_remove document.id id
  unfold get? at cleared ⊢
  simp only [insert, Std.ExtTreeMap.getElem?_insert, Std.compare_eq_iff_eq, cleared]
  split <;> rfl

end Store

/-- The store holds exactly the stored documents, each under its own identifier. -/
theorem get?_after (updates : List Update) (id : String) (document : Document) :
    (Store.after updates).get? id = some document ↔
      Stored updates document ∧ document.id = id := by
  induction updates using List.reverseRecOn with
  | nil =>
      have nothing : (Store.after []).get? id = none := by
        simp [Store.after, Store.empty, Store.get?]
      simp [nothing, not_stored_nil]
  | append_singleton updates update ih =>
      rw [Store.after_append, stored_append_iff]
      cases update with
      | insert inserted =>
          rw [Store.update, Store.get?_insert]
          by_cases same : inserted.id = id
          · simp only [same, if_true, Option.some.injEq, Update.insert.injEq, Update.id]
            constructor
            · rintro rfl
              exact ⟨.inl rfl, same⟩
            · rintro ⟨rfl | ⟨_, other⟩, rfl⟩
              · rfl
              · exact absurd rfl other
          · simp only [same, if_false, ih, Update.insert.injEq, Update.id]
            constructor
            · rintro ⟨stored, rfl⟩
              exact ⟨.inr ⟨stored, same⟩, rfl⟩
            · rintro ⟨rfl | ⟨stored, _⟩, here⟩
              · exact absurd here same
              · exact ⟨stored, here⟩
      | remove removed =>
          rw [Store.update, Store.get?_remove]
          by_cases same : removed = id
          · simp only [same, if_true, reduceCtorEq, false_or, Update.id, false_iff]
            rintro ⟨⟨_, other⟩, rfl⟩
            exact other rfl
          · simp only [same, if_false, ih, reduceCtorEq, false_or, Update.id]
            constructor
            · rintro ⟨stored, rfl⟩
              exact ⟨⟨stored, same⟩, rfl⟩
            · rintro ⟨⟨stored, _⟩, here⟩
              exact ⟨stored, here⟩

/-- There is one stored document for an identifier at most. -/
theorem Stored.eq_of_id_eq {updates : List Update} {first second : Document}
    (firstStored : Stored updates first) (secondStored : Stored updates second)
    (same : first.id = second.id) : first = second := by
  have firstFound := (get?_after updates second.id first).mpr ⟨firstStored, same⟩
  have secondFound := (get?_after updates second.id second).mpr ⟨secondStored, rfl⟩
  exact Option.some.inj (firstFound.symm.trans secondFound)

end Criteria.Search
