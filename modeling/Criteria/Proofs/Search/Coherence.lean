/-
Module: Criteria.Proofs.Search.Coherence
Purpose: Postings and documents of a store agree after any updates, so that searching the
  postings comes to looking at every stored document.
Main exports:
  Postings.Lists, Store.Coherent, Store.coherent_after, Store.mem_search_iff,
  searching_is_scanning
-/
import Criteria.Proofs.Search.Scan

namespace Criteria.Search

open Std (ExtTreeMap ExtTreeSet)

theorem Document.mem_entries_iff (document : Document) (field term : String) :
    (field, term) ∈ document.entries ↔ term ∈ document.terms field := by
  simp only [entries, List.mem_flatMap, List.mem_map, Prod.mk.injEq, terms]
  constructor
  · rintro ⟨⟨listed, held⟩, member, found, inHeld, rfl, rfl⟩
    rw [ExtTreeMap.mem_toList_iff_getElem?_eq_some] at member
    simpa [member] using inHeld
  · intro inHeld
    cases found : document.fields[field]? with
    | none => simp [found] at inHeld
    | some held =>
        refine ⟨(field, held), ExtTreeMap.mem_toList_iff_getElem?_eq_some.mpr found, term, ?_⟩
        simpa [found] using inHeld

/-! ### Postings -/

namespace Postings

variable (postings : Postings)

/-- The postings list documents for a term of a field. -/
def Lists (field term : String) (ids : IdSet) : Prop :=
  ∃ terms, postings[field]? = some terms ∧ terms[term]? = some ids

/-- No term is kept for which no document is listed. -/
def Trimmed : Prop :=
  ∀ field term ids, postings.Lists field term ids → ids ≠ ∅

theorem find_eq_of_lists {postings : Postings} {field term : String} {ids : IdSet}
    (lists : postings.Lists field term ids) : postings.find field term = ids := by
  obtain ⟨terms, found, foundTerm⟩ := lists
  simp [find, found, foundTerm]

theorem lists_of_mem_find {postings : Postings} {field term id : String}
    (member : id ∈ postings.find field term) :
    postings.Lists field term (postings.find field term) := by
  unfold find at member ⊢
  cases found : postings[field]? with
  | none => simp [found] at member
  | some terms =>
      cases foundTerm : terms[term]? with
      | none => simp [found, foundTerm] at member
      | some ids => exact ⟨terms, found, by simp [foundTerm]⟩

theorem find_post (id field term otherField otherTerm : String) :
    (postings.post id field term).find otherField otherTerm =
      if field = otherField ∧ term = otherTerm then (postings.find field term).insert id
      else postings.find otherField otherTerm := by
  unfold post find
  by_cases sameField : field = otherField
  · subst sameField
    by_cases sameTerm : term = otherTerm
    · simp [sameTerm]
    · simp [sameTerm, ExtTreeMap.getElem?_insert]
  · simp [sameField, ExtTreeMap.getElem?_insert]

theorem find_unpost (id field term otherField otherTerm : String) :
    (postings.unpost id field term).find otherField otherTerm =
      if field = otherField ∧ term = otherTerm then (postings.find field term).erase id
      else postings.find otherField otherTerm := by
  unfold unpost find
  by_cases sameField : field = otherField
  · subst sameField
    by_cases sameTerm : term = otherTerm
    · subst sameTerm
      simp only [and_self, if_true, ExtTreeMap.getElem?_insert_self, Option.getD_some]
      split
      · next empty =>
          rw [ExtTreeMap.getElem?_erase_self, Option.getD_none]
          exact (ExtTreeSet.isEmpty_iff.mp empty).symm
      · simp
    · simp only [sameTerm, and_false, if_false, ExtTreeMap.getElem?_insert_self,
        Option.getD_some]
      split <;> simp [sameTerm, ExtTreeMap.getElem?_erase, ExtTreeMap.getElem?_insert]
  · simp [sameField, ExtTreeMap.getElem?_insert]

theorem trimmed_post {postings : Postings} (trimmed : postings.Trimmed)
    (id field term : String) : (postings.post id field term).Trimmed := by
  intro otherField otherTerm ids lists
  have found := find_eq_of_lists lists
  rw [find_post] at found
  split at found
  · rintro rfl
    have member : id ∈ (postings.find field term).insert id := by simp
    rw [found] at member
    simp at member
  · next other =>
      apply trimmed otherField otherTerm ids
      obtain ⟨terms, foundTerms, foundIds⟩ := lists
      by_cases sameField : field = otherField
      · subst sameField
        have otherTerm' : term ≠ otherTerm := fun same => other ⟨rfl, same⟩
        simp only [post, ExtTreeMap.getElem?_insert_self, Option.some.injEq] at foundTerms
        subst foundTerms
        simp only [ExtTreeMap.getElem?_insert, Std.compare_eq_iff_eq, otherTerm',
          if_false] at foundIds
        cases before : postings[field]? with
        | none => simp [before] at foundIds
        | some terms => exact ⟨terms, before, by simpa [before] using foundIds⟩
      · simp only [post, ExtTreeMap.getElem?_insert, Std.compare_eq_iff_eq, sameField,
          if_false] at foundTerms
        exact ⟨terms, foundTerms, foundIds⟩

theorem trimmed_unpost {postings : Postings} (trimmed : postings.Trimmed)
    (id field term : String) : (postings.unpost id field term).Trimmed := by
  intro otherField otherTerm ids lists
  obtain ⟨terms, foundTerms, foundIds⟩ := lists
  by_cases sameField : field = otherField
  · subst sameField
    simp only [unpost, ExtTreeMap.getElem?_insert_self, Option.some.injEq] at foundTerms
    subst foundTerms
    have kept (other : term ≠ otherTerm)
        (before : (postings[field]?.getD ∅)[otherTerm]? = some ids) : ids ≠ ∅ := by
      cases found : postings[field]? with
      | none => simp [found] at before
      | some terms =>
          exact trimmed field otherTerm ids ⟨terms, found, by simpa [found] using before⟩
    split at foundIds
    · rw [ExtTreeMap.getElem?_erase] at foundIds
      split at foundIds
      · cases foundIds
      · next other => exact kept (by simpa using other) foundIds
    · next nonempty =>
        rw [ExtTreeMap.getElem?_insert] at foundIds
        split at foundIds
        · cases foundIds
          simpa [ExtTreeSet.isEmpty_iff] using nonempty
        · next other => exact kept (by simpa using other) foundIds
  · simp only [unpost, ExtTreeMap.getElem?_insert, Std.compare_eq_iff_eq, sameField,
      if_false] at foundTerms
    exact trimmed otherField otherTerm ids ⟨terms, foundTerms, foundIds⟩

/-- Note all terms of a document. -/
def postAll (id : String) (entries : List (String × String)) : Postings :=
  entries.foldl (fun postings entry => postings.post id entry.1 entry.2) postings

/-- Forget all terms of a document. -/
def unpostAll (id : String) (entries : List (String × String)) : Postings :=
  entries.foldl (fun postings entry => postings.unpost id entry.1 entry.2) postings

theorem mem_find_postAll_iff (id : String) (entries : List (String × String))
    (other field term : String) :
    other ∈ (postings.postAll id entries).find field term ↔
      other = id ∧ (field, term) ∈ entries ∨ other ∈ postings.find field term := by
  induction entries generalizing postings with
  | nil => simp [postAll]
  | cons entry entries ih =>
      obtain ⟨entryField, entryTerm⟩ := entry
      have step := ih (postings.post id entryField entryTerm)
      rw [find_post] at step
      refine step.trans ?_
      by_cases here : entryField = field ∧ entryTerm = term
      · obtain ⟨rfl, rfl⟩ := here
        simp only [and_self, if_true, ExtTreeSet.mem_insert, Std.compare_eq_iff_eq,
          List.mem_cons, true_or, and_true]
        grind
      · have otherEntry : (field, term) ≠ (entryField, entryTerm) := by grind
        simp [here, otherEntry]

theorem mem_find_unpostAll_iff (id : String) (entries : List (String × String))
    (other field term : String) :
    other ∈ (postings.unpostAll id entries).find field term ↔
      other ∈ postings.find field term ∧ ¬ (other = id ∧ (field, term) ∈ entries) := by
  induction entries generalizing postings with
  | nil => simp [unpostAll]
  | cons entry entries ih =>
      obtain ⟨entryField, entryTerm⟩ := entry
      have step := ih (postings.unpost id entryField entryTerm)
      rw [find_unpost] at step
      refine step.trans ?_
      by_cases here : entryField = field ∧ entryTerm = term
      · obtain ⟨rfl, rfl⟩ := here
        simp only [and_self, if_true, ExtTreeSet.mem_erase,
          List.mem_cons, true_or, and_true]
        grind
      · have otherEntry : (field, term) ≠ (entryField, entryTerm) := by grind
        simp [here, otherEntry]

theorem trimmed_postAll {postings : Postings} (trimmed : postings.Trimmed) (id : String)
    (entries : List (String × String)) : (postings.postAll id entries).Trimmed := by
  induction entries generalizing postings with
  | nil => exact trimmed
  | cons entry entries ih => exact ih (trimmed_post trimmed id entry.1 entry.2)

theorem trimmed_unpostAll {postings : Postings} (trimmed : postings.Trimmed) (id : String)
    (entries : List (String × String)) : (postings.unpostAll id entries).Trimmed := by
  induction entries generalizing postings with
  | nil => exact trimmed
  | cons entry entries ih => exact ih (trimmed_unpost trimmed id entry.1 entry.2)

end Postings

/-! ### Coherent stores -/

namespace Store

/-- Documents stand under their own identifiers, and the postings say of a document exactly
what it holds. -/
structure Coherent (store : Store) : Prop where
  keyed : ∀ id document, store.get? id = some document → document.id = id
  posted : ∀ id field term, id ∈ store.postings.find field term ↔
    ∃ document, store.get? id = some document ∧ term ∈ document.terms field
  trimmed : store.postings.Trimmed

theorem coherent_empty : Store.empty.Coherent := by
  refine ⟨fun id document found => ?_, fun id field term => ?_, ?_⟩
  · simp [Store.empty, Store.get?] at found
  · simp [Store.empty, Store.get?, Postings.find]
  · rintro field term ids ⟨terms, found, _⟩
    simp [Store.empty] at found

variable {store : Store}

theorem take_fst (store : Store) (id : String) : (store.take id).1 = store.get? id := by
  unfold take
  cases store.get? id <;> rfl

theorem coherent_remove (coherent : store.Coherent) (removed : String) :
    (store.remove removed).Coherent := by
  cases found : store.get? removed with
  | none =>
      have unchanged : store.remove removed = store := by
        rw [remove, take, found]
      rw [unchanged]
      exact coherent
  | some document =>
      have postings : (store.remove removed).postings =
          store.postings.unpostAll removed document.entries := by
        rw [remove, take, found]
        rfl
      refine ⟨fun id other stored => ?_, fun id field term => ?_, ?_⟩
      · rw [get?_remove] at stored
        split at stored
        · cases stored
        · exact coherent.keyed id other stored
      · rw [postings, Postings.mem_find_unpostAll_iff, coherent.posted, get?_remove]
        by_cases same : removed = id
        · subst same
          simp only [found, document.mem_entries_iff, true_and, if_true, reduceCtorEq,
            false_and, exists_false, iff_false, not_and, not_not]
          rintro ⟨_, same, held⟩
          cases same
          exact held
        · have other : id ≠ removed := fun equal => same equal.symm
          simp only [same, if_false, other, false_and, not_false_iff, and_true]
      · rw [postings]
        exact Postings.trimmed_unpostAll coherent.trimmed _ _

theorem coherent_insert (coherent : store.Coherent) (document : Document) :
    (store.insert document).Coherent := by
  have cleared := coherent_remove coherent document.id
  have postings : (store.insert document).postings =
      (store.remove document.id).postings.postAll document.id document.entries := rfl
  refine ⟨fun id other stored => ?_, fun id field term => ?_, ?_⟩
  · rw [get?_insert] at stored
    split at stored
    · next same =>
        cases stored
        exact same
    · exact coherent.keyed id other stored
  · rw [postings, Postings.mem_find_postAll_iff, cleared.posted, get?_remove, get?_insert]
    by_cases same : document.id = id
    · subst same
      simp [document.mem_entries_iff]
    · have other : id ≠ document.id := fun equal => same equal.symm
      simp [same, other]
  · rw [postings]
    exact Postings.trimmed_postAll cleared.trimmed _ _

theorem coherent_update (coherent : store.Coherent) (update : Update) :
    (store.update update).Coherent := by
  cases update with
  | insert document => exact coherent_insert coherent document
  | remove id => exact coherent_remove coherent id

/-- Whatever the updates, postings and documents agree. -/
theorem coherent_after (updates : List Update) : (Store.after updates).Coherent := by
  induction updates using List.reverseRecOn with
  | nil => exact coherent_empty
  | append_singleton updates update ih =>
      rw [Store.after_append]
      exact coherent_update ih update

/-! ### Searching a coherent store -/

theorem mem_holding_iff (coherent : store.Coherent) (field : String) (wanted : String → Bool)
    (id : String) :
    id ∈ store.holding field wanted ↔
      ∃ document, store.get? id = some document ∧
        ∃ term ∈ document.terms field, wanted term = true := by
  have gathered (entries : List (String × IdSet)) (found : IdSet) :
      id ∈ entries.foldl (fun found entry => found ∪ entry.2) found ↔
        id ∈ found ∨ ∃ entry ∈ entries, id ∈ entry.2 := by
    induction entries generalizing found with
    | nil => simp
    | cons entry entries ih => simp [ih, ExtTreeSet.mem_union_iff, or_assoc]
  have listed (term : String) (ids : IdSet) :
      (term, ids) ∈ (store.postings[field]?.getD ∅).toList ↔
        store.postings.Lists field term ids := by
    rw [ExtTreeMap.mem_toList_iff_getElem?_eq_some, Postings.Lists]
    cases store.postings[field]? <;> simp
  rw [holding, gathered]
  constructor
  · rintro (nowhere | ⟨⟨term, ids⟩, member, inIds⟩)
    · simp at nowhere
    · obtain ⟨inPostings, isWanted⟩ := List.mem_filter.mp member
      rw [listed] at inPostings
      rw [← Postings.find_eq_of_lists inPostings, coherent.posted] at inIds
      obtain ⟨document, stored, held⟩ := inIds
      exact ⟨document, stored, term, held, isWanted⟩
  · rintro ⟨document, stored, term, held, isWanted⟩
    have posted := (coherent.posted id field term).mpr ⟨document, stored, held⟩
    refine .inr ⟨(term, store.postings.find field term), ?_, posted⟩
    rw [List.mem_filter, listed]
    exact ⟨Postings.lists_of_mem_find posted, isWanted⟩

end Store

theorem mem_foldl_inter_iff (sets : List IdSet) (first : IdSet) (id : String) :
    id ∈ sets.foldl (· ∩ ·) first ↔ id ∈ first ∧ ∀ ids ∈ sets, id ∈ ids := by
  induction sets generalizing first with
  | nil => simp
  | cons ids sets ih => simp [ih, ExtTreeSet.mem_inter_iff, and_assoc]

theorem mem_foldl_union_iff (sets : List IdSet) (first : IdSet) (id : String) :
    id ∈ sets.foldl (· ∪ ·) first ↔ id ∈ first ∨ ∃ ids ∈ sets, id ∈ ids := by
  induction sets generalizing first with
  | nil => simp
  | cons ids sets ih => simp [ih, ExtTreeSet.mem_union_iff, or_assoc]

theorem mem_foldl_diff_iff (sets : List IdSet) (first : IdSet) (id : String) :
    id ∈ sets.foldl (· \ ·) first ↔ id ∈ first ∧ ∀ ids ∈ sets, id ∉ ids := by
  induction sets generalizing first with
  | nil => simp
  | cons ids sets ih => simp [ih, ExtTreeSet.mem_diff_iff, and_assoc]

/-- The sets of a group are put together as the group asks of each document. -/
theorem mem_combine_iff (matched : List (Occur × IdSet)) (id : String) :
    id ∈ Store.combine matched ↔
      GroupHolds (matched.map fun entry => (entry.1, id ∈ entry.2)) := by
  rw [groupHolds_map_iff matched fun ids => id ∈ ids]
  have mem_sets (occur : Occur) (ids : IdSet) :
      ids ∈ (matched.filter fun entry => entry.1 == occur).map (·.2) ↔
        ∃ entry ∈ matched, entry.1 = occur ∧ entry.2 = ids := by
    simp [and_assoc]
  rw [Store.combine, mem_foldl_diff_iff]
  simp only [mem_sets]
  split
  · next first others musts =>
      have mem_musts (ids : IdSet) :
          ids ∈ first :: others ↔ ∃ entry ∈ matched, entry.1 = .must ∧ entry.2 = ids := by
        rw [← musts, mem_sets]
      rw [mem_foldl_inter_iff]
      obtain ⟨some, member, isMust, _⟩ := (mem_musts first).mp (List.mem_cons_self ..)
      have required : (id ∈ first ∧ ∀ ids ∈ others, id ∈ ids) ↔
          ∀ entry ∈ matched, entry.1 = .must → id ∈ entry.2 := by
        have all := List.forall_mem_cons (p := fun ids => id ∈ ids) (a := first) (l := others)
        rw [← all]
        simp only [mem_musts]
        grind
      rw [required]
      grind
  · next noMusts =>
      have noMust : ∀ entry ∈ matched, entry.1 ≠ .must := by
        intro entry member isMust
        have listed := (mem_sets .must entry.2).mpr ⟨entry, member, isMust, rfl⟩
        rw [noMusts] at listed
        cases listed
      rw [mem_foldl_union_iff]
      simp only [mem_sets, ExtTreeSet.not_mem_empty, false_or]
      grind

namespace Store

variable {store : Store}

theorem contains_iff (store : Store) (id : String) :
    store.documents.contains id = true ↔ ∃ document, store.get? id = some document := by
  rw [get?, ExtTreeMap.contains_eq_isSome_getElem?, Option.isSome_iff_exists]

/-- The identifiers of all documents. -/
def ids (store : Store) : IdSet :=
  .ofList store.documents.keys

theorem mem_ids_iff (store : Store) (id : String) :
    id ∈ store.ids ↔ ∃ document, store.get? id = some document := by
  rw [ids, ExtTreeSet.mem_ofList, List.contains_iff_mem, ExtTreeMap.mem_keys,
    ← ExtTreeMap.contains_iff_mem, contains_iff]

mutual

/-- A query finds the stored documents that it holds of. -/
theorem mem_search_iff (coherent : store.Coherent) (id : String) : ∀ query : Query,
    id ∈ store.search query ↔
      ∃ document, store.get? id = some document ∧ document.Matches query
  | .all => by
      rw [search, ← ids, mem_ids_iff]
      simp [Document.Matches]
  | .nothing => by simp [search, Document.Matches]
  | .term field value => coherent.posted id field value
  | .range field lower upper => by
      rw [search, mem_holding_iff coherent]
      simp only [inBounds_iff, Document.Matches]
  | .startsWith field beginning => by
      rw [search, mem_holding_iff coherent]
      simp only [isPrefixOf_iff, Document.Matches]
      grind
  | .ids members => by
      simp only [search, Document.Matches, ExtTreeSet.mem_filter, ExtTreeSet.get_eq,
        contains_iff]
      constructor
      · rintro ⟨member, document, stored⟩
        refine ⟨document, stored, ?_⟩
        rw [coherent.keyed id document stored]
        exact member
      · rintro ⟨document, stored, member⟩
        rw [coherent.keyed id document stored] at member
        exact ⟨member, document, stored⟩
  | .group clauses => by
      rw [search, mem_combine_iff]
      cases stored : store.get? id with
      | none =>
          have nowhere := searchClauses_of_absent coherent stored clauses
          simp only [reduceCtorEq, false_and, exists_false, iff_false]
          rw [groupHolds_map_iff _ fun ids => id ∈ ids]
          grind
      | some document =>
          rw [searchClauses_verdicts coherent stored clauses]
          simp [Document.Matches]

theorem searchClauses_verdicts (coherent : store.Coherent) {id : String} {document : Document}
    (stored : store.get? id = some document) : ∀ clauses : List (Occur × Query),
    (store.searchClauses clauses).map (fun entry => (entry.1, id ∈ entry.2)) =
      document.verdicts clauses
  | [] => rfl
  | (occur, query) :: clauses => by
      have same : (id ∈ store.search query) = document.Matches query := by
        rw [mem_search_iff coherent id query, stored]
        simp
      rw [searchClauses, Document.verdicts, List.map_cons,
        searchClauses_verdicts coherent stored clauses, same]

theorem searchClauses_of_absent (coherent : store.Coherent) {id : String}
    (absent : store.get? id = none) : ∀ clauses : List (Occur × Query),
    ∀ entry ∈ store.searchClauses clauses, id ∉ entry.2
  | [] => by simp [searchClauses]
  | (occur, query) :: clauses => by
      intro entry member
      rw [searchClauses] at member
      rcases List.mem_cons.mp member with rfl | later
      · rw [mem_search_iff coherent id query, absent]
        simp
      · exact searchClauses_of_absent coherent absent clauses entry later

end

end Store

/-- A search finds a stored document exactly if the query holds of it. -/
theorem Stored.mem_search_iff {updates : List Update} {document : Document}
    (stored : Stored updates document) (query : Query) :
    document.id ∈ (Store.after updates).search query ↔ document.Matches query := by
  rw [Store.mem_search_iff (Store.coherent_after updates)]
  constructor
  · rintro ⟨other, found, holds⟩
    obtain ⟨otherStored, sameId⟩ := (get?_after updates document.id other).mp found
    rwa [otherStored.eq_of_id_eq stored sameId] at holds
  · intro holds
    exact ⟨document, (get?_after updates document.id document).mpr ⟨stored, rfl⟩, holds⟩

/-- After any updates, a search finds exactly the stored documents that the query holds of.
Taking a document out hands over exactly the stored one, and afterwards its identifier is
listed for no term, and no term is left without a document. -/
theorem searching_is_scanning (updates : List Update) :
    (∀ query id, id ∈ (Store.after updates).search query ↔
      ∃ document, Stored updates document ∧ document.id = id ∧ document.Matches query) ∧
    (∀ id document, ((Store.after updates).take id).1 = some document ↔
      Stored updates document ∧ document.id = id) ∧
    ∀ id field term ids, ((Store.after updates).remove id).postings.Lists field term ids →
      id ∉ ids ∧ ids ≠ ∅ := by
  have coherent := Store.coherent_after updates
  refine ⟨fun query id => ?_, fun id document => ?_, fun id field term ids lists => ?_⟩
  · rw [Store.mem_search_iff coherent]
    simp only [get?_after, and_assoc]
  · rw [Store.take_fst, get?_after]
  · have cleared := Store.coherent_remove coherent id
    refine ⟨fun member => ?_, cleared.trimmed field term ids lists⟩
    rw [← Postings.find_eq_of_lists lists, cleared.posted, Store.get?_remove] at member
    simp at member

end Criteria.Search
