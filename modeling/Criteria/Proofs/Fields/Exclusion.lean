/-
Module: Criteria.Proofs.Fields.Exclusion
Purpose: Asking for values of a field and asking for other values: between them they find every
  document that shows a value of the field, and each such document once.
Main exports:
  Document.ShowsValue, Matcher.found, Matcher.FindsAny, Matcher.FindsOthers, Opposed,
  Opposed.reads, opposites_divide_the_documents_with_a_value
-/
import Criteria.Fields.BuiltIn
import Criteria.Proofs.Search.Coherence
import Criteria.Proofs.Search.Matching

namespace Criteria.Search

/-- The field is visible on the document and is not said to have no value. -/
structure Document.ShowsValue (document : Document) (field : String) : Prop where
  visible : field ∈ document.terms visibleFields
  valued : emptyTerm ∉ document.terms field

end Criteria.Search

namespace Criteria.Fields

open Criteria.Search

variable {document : Document} {field : String} {terms : ValueTerms} {operator : Operator}

/-! ### The parts of an answer -/

theorem matches_emptyQuery_iff :
    document.Matches (emptyQuery field) ↔ emptyTerm ∈ document.terms field := by
  rw [emptyQuery, Document.Matches]

/-- What is found beside a query shows a value, which the query does not hold of. -/
theorem matches_visibleExcept_iff (excluded : Option Query) :
    document.Matches (visibleExcept field excluded) ↔
      document.ShowsValue field ∧ ¬ document.MatchesSome excluded := by
  have restriction := document.matches_restriction_iff (List.cons_ne_nil (visibleQuery field) [])
    (emptyQuery field :: excluded.toList)
  have sameGroup : visibleExcept field excluded =
      .group ([visibleQuery field].map (fun query => (.must, query)) ++
        (emptyQuery field :: excluded.toList).map fun query => (.mustNot, query)) := rfl
  rw [sameGroup, restriction, List.forall_mem_singleton, List.forall_mem_cons,
    matches_emptyQuery_iff, visibleQuery, Document.Matches]
  simp only [Option.mem_toList, Document.MatchesSome, not_exists, not_and]
  constructor
  · intro given
    rcases given with ⟨visible, valued, others⟩
    exact ⟨⟨visible, valued⟩, others⟩
  · intro given
    rcases given with ⟨⟨visible, valued⟩, others⟩
    exact ⟨visible, valued, others⟩

/-- A document that shows a value lacks the mark of having none. -/
theorem matches_visibleExcept_none_iff :
    document.Matches (visibleExcept field none) ↔
      document.ShowsValue field ∧ ¬ document.MatchesSome (some (emptyQuery field)) := by
  rw [matches_visibleExcept_iff, document.matchesSome_some_iff, matches_emptyQuery_iff]
  simp only [document.not_matchesSome_none, not_false_eq_true, and_true]
  exact ⟨fun shows => ⟨shows, shows.valued⟩, And.left⟩

/-- Of several fragments those that match nothing may be left out. -/
theorem accepts_unionOf_iff (fragments : List Fragment) :
    (unionOf fragments).Accepts document ↔ ∃ fragment ∈ fragments, fragment.Accepts document := by
  have kept : (∃ fragment ∈ fragments, fragment.Accepts document) ↔
      ∃ query ∈ (fragments.filter fun fragment => !fragment.isFalse).map Fragment.toQuery,
        document.Matches query := by
    simp only [List.mem_map, List.mem_filter, exists_exists_and_eq_and,
      Fragment.matches_toQuery_iff]
    apply exists_congr
    intro fragment
    cases known : fragment.isFalse with
    | true => simp [Fragment.not_accepts_of_isFalse known]
    | false => simp
  rw [kept]
  unfold unionOf
  split
  · next none => simp [none]
  · rw [Fragment.accepts_positive_iff, document.matches_anyOf_iff]

/-! ### Reading literals one by one -/

/-- An operator finds the documents that one of its literals asks for. -/
def Matcher.FindsAny (matcher : Matcher) (operator : Operator) (ask : Literal → Option Query) :
    Prop :=
  ∀ (document : Document) (literals : List Literal), literals ≠ [] →
    ((matcher.fragment operator literals).Accepts document ↔
      ∃ literal ∈ literals, document.MatchesSome (ask literal))

/-- An operator finds the documents that show a value of the field and that none of its literals
asks for. -/
def Matcher.FindsOthers (matcher : Matcher) (operator : Operator) (field : String)
    (ask : Literal → Option Query) : Prop :=
  ∀ (document : Document) (literals : List Literal), literals ≠ [] →
    ((matcher.fragment operator literals).Accepts document ↔
      document.ShowsValue field ∧ ¬ ∃ literal ∈ literals, document.MatchesSome (ask literal))

/-! #### Exact terms -/

theorem accepts_equalitySingle_iff (positive : operator.isNegating = false) (literal : Literal) :
    (equalitySingle field terms operator literal).Accepts document ↔
      document.MatchesSome (holds? field terms literal) := by
  unfold equalitySingle
  rw [positive, if_neg Bool.false_ne_true]
  cases holds? field terms literal with
  | none => simp
  | some query => simp

theorem matches_holdsOther_iff (literal : Literal) :
    document.Matches (holdsOther field terms literal) ↔
      document.ShowsValue field ∧ ¬ document.MatchesSome (holds? field terms literal) := by
  cases literal with
  | empty => exact matches_visibleExcept_none_iff
  | value content => exact matches_visibleExcept_iff _

theorem equality_findsAny (field : String) (terms : ValueTerms)
    (positive : operator.isNegating = false) :
    (Matcher.equality field terms).FindsAny operator (holds? field terms) := by
  intro document literals some
  unfold Matcher.fragment
  split
  · exact absurd rfl some
  · simp [Matcher.equality, positive, holds?]
  · simp only [List.mem_singleton, exists_eq_left]
    exact accepts_equalitySingle_iff positive _
  · simp only [Matcher.equality, positive, Bool.false_eq_true, if_false]
    simp only [accepts_unionOf_iff, List.mem_map, exists_exists_and_eq_and,
      accepts_equalitySingle_iff positive]

theorem equality_findsOthers (field : String) (terms : ValueTerms)
    (negative : operator.isNegating = true) :
    (Matcher.equality field terms).FindsOthers operator field (holds? field terms) := by
  intro document literals some
  unfold Matcher.fragment
  split
  · exact absurd rfl some
  · simp only [Matcher.equality, negative, if_true, Fragment.accepts_positive_iff,
      List.mem_singleton, exists_eq_left]
    exact matches_holdsOther_iff .empty
  · simp only [Matcher.equality, equalitySingle, negative, if_true,
      Fragment.accepts_positive_iff, List.mem_singleton, exists_eq_left]
    exact matches_holdsOther_iff _
  · simp only [Matcher.equality, negative, if_true, Fragment.accepts_positive_iff,
      document.matches_allOf_iff, List.forall_mem_map, matches_holdsOther_iff]
    constructor
    · intro given
      rcases given with ⟨_, each⟩
      obtain ⟨literal, member⟩ := List.exists_mem_of_ne_nil _ some
      refine ⟨(each literal member).1, ?_⟩
      intro given
      rcases given with ⟨other, listed, holds⟩
      exact (each other listed).2 holds
    · intro given
      rcases given with ⟨shows, noneHolds⟩
      refine ⟨by simpa using some, ?_⟩
      intro literal member
      exact ⟨shows, fun holds => noneHolds ⟨literal, member, holds⟩⟩

/-! #### Words of a text -/

theorem accepts_likeMultiple_iff (literals : List Literal) :
    (likeMultiple field .like literals).Accepts document ↔
      ∃ literal ∈ literals, document.MatchesSome (containsWords? field literal) := by
  rw [← document.exists_mem_filterMap_iff, ← document.matches_anyOf_iff]
  unfold likeMultiple
  cases literals.filterMap (containsWords? field) with
  | nil => simp [document.matches_anyOf_iff]
  | cons query queries => simp

theorem accepts_likeMultiple_notLike_iff (literals : List Literal) :
    (likeMultiple field .notLike literals).Accepts document ↔
      document.ShowsValue field ∧
        ¬ ∃ literal ∈ literals, document.MatchesSome (containsWords? field literal) := by
  rw [← document.exists_mem_filterMap_iff, ← document.matches_anyOf_iff]
  unfold likeMultiple
  cases literals.filterMap (containsWords? field) with
  | nil => simp [matches_visibleExcept_iff, document.matches_anyOf_iff]
  | cons query queries => simp [matches_visibleExcept_iff]

theorem like_findsAny (field : String) :
    (Matcher.like field).FindsAny .like (containsWords? field) := by
  intro document literals some
  unfold Matcher.fragment
  split
  · exact absurd rfl some
  · simp [Matcher.like, Operator.isNegating, containsWords?]
  · exact accepts_likeMultiple_iff _
  · exact accepts_likeMultiple_iff _

theorem like_findsOthers (field : String) :
    (Matcher.like field).FindsOthers .notLike field (containsWords? field) := by
  intro document literals some
  unfold Matcher.fragment
  split
  · exact absurd rfl some
  · simp only [Matcher.like, Operator.isNegating, if_true, Fragment.accepts_positive_iff,
      List.mem_singleton, exists_eq_left]
    exact matches_visibleExcept_none_iff
  · exact accepts_likeMultiple_notLike_iff _
  · exact accepts_likeMultiple_notLike_iff _

/-! ### Opposite operators -/

/-- A standard matcher over a field, an operator that asks for values, and the one that asks for
other values. -/
inductive Opposed (field : String) : Matcher → Operator → Operator → Prop where
  | equals (terms : ValueTerms) : Opposed field (.equality field terms) .equals .notEquals
  | isIn (terms : ValueTerms) : Opposed field (.equality field terms) .isIn .notIn
  | is (terms : ValueTerms) : Opposed field (.equality field terms) .is .isNot
  | like : Opposed field (.like field) .like .notLike

/-- Both operators read the same literals in the same way. -/
theorem Opposed.reads {matcher : Matcher} {opposite : Operator}
    (opposed : Opposed field matcher operator opposite) :
    ∃ ask, matcher.FindsAny operator ask ∧ matcher.FindsOthers opposite field ask := by
  cases opposed with
  | equals terms => exact ⟨_, equality_findsAny field terms rfl, equality_findsOthers field terms rfl⟩
  | isIn terms => exact ⟨_, equality_findsAny field terms rfl, equality_findsOthers field terms rfl⟩
  | is terms => exact ⟨_, equality_findsAny field terms rfl, equality_findsOthers field terms rfl⟩
  | like => exact ⟨_, like_findsAny field, like_findsOthers field⟩

/-- The documents of a store that a matcher finds for an operator and literals. -/
def Matcher.found (matcher : Matcher) (store : Store) (operator : Operator)
    (literals : List Literal) : IdSet :=
  store.search (matcher.fragment operator literals).toQuery

theorem Matcher.mem_found_iff (matcher : Matcher) (updates : List Update)
    (literals : List Literal) (id : String) :
    id ∈ matcher.found (Store.after updates) operator literals ↔
      ∃ document, Stored updates document ∧ document.id = id ∧
        (matcher.fragment operator literals).Accepts document := by
  unfold found
  rw [Store.mem_search_iff (Store.coherent_after updates)]
  simp only [get?_after, Fragment.matches_toQuery_iff, and_assoc]

section

variable {matcher : Matcher} {updates : List Update} {literals : List Literal}
variable {ask : Literal → Option Query} {id : String}

theorem Matcher.FindsAny.mem_found_iff (findsAny : matcher.FindsAny operator ask)
    (some : literals ≠ []) :
    id ∈ matcher.found (Store.after updates) operator literals ↔
      ∃ document, Stored updates document ∧ document.id = id ∧
        ∃ literal ∈ literals, document.MatchesSome (ask literal) := by
  simp only [matcher.mem_found_iff, findsAny _ literals some]

theorem Matcher.FindsOthers.mem_found_iff (findsOthers : matcher.FindsOthers operator field ask)
    (some : literals ≠ []) :
    id ∈ matcher.found (Store.after updates) operator literals ↔
      ∃ document, Stored updates document ∧ document.id = id ∧ document.ShowsValue field ∧
        ¬ ∃ literal ∈ literals, document.MatchesSome (ask literal) := by
  simp only [matcher.mem_found_iff, findsOthers _ literals some]

theorem Matcher.FindsAny.mem_found_iff_exists (findsAny : matcher.FindsAny operator ask)
    (some : literals ≠ []) :
    id ∈ matcher.found (Store.after updates) operator literals ↔
      ∃ literal ∈ literals, id ∈ matcher.found (Store.after updates) operator [literal] := by
  simp only [findsAny.mem_found_iff some, findsAny.mem_found_iff (List.cons_ne_nil _ []),
    List.mem_singleton, exists_eq_left]
  constructor
  · rintro ⟨document, stored, sameId, literal, member, holds⟩
    exact ⟨literal, member, document, stored, sameId, holds⟩
  · rintro ⟨literal, member, document, stored, sameId, holds⟩
    exact ⟨document, stored, sameId, literal, member, holds⟩

theorem Matcher.FindsOthers.mem_found_iff_not_mem {opposite : Operator}
    (findsOthers : matcher.FindsOthers opposite field ask)
    (findsAny : matcher.FindsAny operator ask) (some : literals ≠ []) :
    id ∈ matcher.found (Store.after updates) opposite literals ↔
      (∃ document, Stored updates document ∧ document.id = id ∧ document.ShowsValue field) ∧
        id ∉ matcher.found (Store.after updates) operator literals := by
  rw [findsOthers.mem_found_iff some, findsAny.mem_found_iff some]
  constructor
  · rintro ⟨document, stored, sameId, shows, noneHolds⟩
    refine ⟨⟨document, stored, sameId, shows⟩, ?_⟩
    rintro ⟨other, otherStored, otherId, holds⟩
    rw [otherStored.eq_of_id_eq stored (otherId.trans sameId.symm)] at holds
    exact noneHolds holds
  · rintro ⟨⟨document, stored, sameId, shows⟩, outside⟩
    exact ⟨document, stored, sameId, shows,
      fun holds => outside ⟨document, stored, sameId, holds⟩⟩

end

/-- An operator finds the documents that its literals find one by one. Its opposite finds the
others among the documents that show a value of the field. So the two have no document in common,
and of these documents they leave out none. -/
theorem opposites_divide_the_documents_with_a_value (updates : List Update) {field : String}
    {matcher : Matcher} {operator opposite : Operator}
    (opposed : Opposed field matcher operator opposite) {literals : List Literal}
    (some : literals ≠ []) (id : String) :
    (id ∈ matcher.found (Store.after updates) operator literals ↔
      ∃ literal ∈ literals, id ∈ matcher.found (Store.after updates) operator [literal]) ∧
    (id ∈ matcher.found (Store.after updates) opposite literals ↔
      (∃ document, Stored updates document ∧ document.id = id ∧ document.ShowsValue field) ∧
        id ∉ matcher.found (Store.after updates) operator literals) ∧
    ¬ (id ∈ matcher.found (Store.after updates) operator literals ∧
      id ∈ matcher.found (Store.after updates) opposite literals) ∧
    ((∃ document, Stored updates document ∧ document.id = id ∧ document.ShowsValue field) →
      id ∈ matcher.found (Store.after updates) operator literals ∨
        id ∈ matcher.found (Store.after updates) opposite literals) := by
  obtain ⟨ask, findsAny, findsOthers⟩ := opposed.reads
  have others : id ∈ matcher.found (Store.after updates) opposite literals ↔ _ :=
    findsOthers.mem_found_iff_not_mem findsAny some
  refine ⟨findsAny.mem_found_iff_exists some, others, ?_, ?_⟩
  · rintro ⟨asked, other⟩
    exact (others.mp other).2 asked
  · intro shown
    by_cases asked : id ∈ matcher.found (Store.after updates) operator literals
    · exact .inl asked
    · exact .inr (others.mpr ⟨shown, asked⟩)

/-- Two resolutions of one name, and a third of another. -/
def resolutionNames : NameTable :=
  ((NameTable.empty.register "1" "Fixed").register "2" "Fixed").register "3" "Invalid"

/-- A document with the third resolution. -/
def invalidDocument : Document :=
  (Document.empty "invalid").withField "resolution" "3"

/-- A document with the second resolution, one with the third, one that has none, and one without
the field. -/
def resolutionUpdates : List Update :=
  [.insert ((Document.empty "fixed").withField "resolution" "2"), .insert invalidDocument,
    .insert ((Document.empty "open").withEmpty "resolution"),
    .insert ((Document.empty "note").withField "title" "2")]

/-- A name of no resolution, no resolution, and a name of two. -/
def mixedLiterals : List Literal :=
  [.value (.text "Retired"), .empty, .value (.text "Fixed")]

theorem opposites_divide_the_documents_with_a_value_of_resolutions :
    Opposed "resolution" (.equality "resolution" resolutionNames.terms) .isIn .notIn ∧
    mixedLiterals ≠ [] ∧
    (∃ literal ∈ mixedLiterals,
      "fixed" ∈ (Matcher.equality "resolution" resolutionNames.terms).found
        (Store.after resolutionUpdates) .isIn [literal]) ∧
    "invalid" ∈ (Matcher.equality "resolution" resolutionNames.terms).found
      (Store.after resolutionUpdates) .notIn mixedLiterals := by
  have opposed : Opposed "resolution" (.equality "resolution" resolutionNames.terms) .isIn .notIn :=
    .isIn resolutionNames.terms
  have some : mixedLiterals ≠ [] := List.cons_ne_nil _ _
  have stored : Stored resolutionUpdates invalidDocument :=
    ((get?_after resolutionUpdates "invalid" invalidDocument).mp (by decide +kernel)).1
  have shows : invalidDocument.ShowsValue "resolution" := ⟨by decide, by decide⟩
  obtain ⟨fixed, _⟩ :=
    opposites_divide_the_documents_with_a_value resolutionUpdates opposed some "fixed"
  obtain ⟨_, invalid, _⟩ :=
    opposites_divide_the_documents_with_a_value resolutionUpdates opposed some "invalid"
  refine ⟨opposed, some, fixed.mp (by decide +kernel), invalid.mpr ⟨?_, by decide +kernel⟩⟩
  exact ⟨invalidDocument, stored, rfl, shows⟩

end Criteria.Fields
