/-
Module: Criteria.Proofs.Fields.Shape
Purpose: Registries that hold only the three standard ways to answer operators, and the shape of
  the queries that these answer with.
Main exports:
  Fragment.Plain, Matcher.Standard, Registry.Standard, Registry.Standard.standard_of_matcher?,
  Matcher.AnswersPlainly, Matcher.Standard.answersPlainly, Matcher.AnswersPlainly.plain_fragment
-/
import Criteria.Fields.Registry
import Criteria.Proofs.Search.Shape

namespace Criteria.Search

/-- The fragment is a positive query that can be a clause, unless it is known to match
nothing. -/
def Fragment.Plain (fragment : Fragment) : Prop :=
  fragment = .nothing ∨ fragment.negated = false ∧ fragment.query.Nestable

namespace Fragment

theorem plain_nothing : Fragment.nothing.Plain :=
  .inl rfl

theorem plain_of_nestable {query : Query} (nestable : query.Nestable) :
    Plain { query } :=
  .inr ⟨rfl, nestable⟩

theorem Plain.shaped {fragment : Fragment} (plain : fragment.Plain) : fragment.Shaped := by
  rcases plain with rfl | ⟨_, nestable⟩
  · exact shaped_nothing
  · exact shaped_of_nestable nestable

theorem Plain.nestable_toQuery {fragment : Fragment} (plain : fragment.Plain)
    (notFalse : fragment.isFalse = false) : fragment.toQuery.Nestable := by
  rcases plain with rfl | ⟨_, nestable⟩
  · cases notFalse
  · exact Shaped.toQuery_of_nestable nestable

end Fragment

end Criteria.Search

namespace Criteria.Fields

open Criteria.Search

/-! ### Standard matchers -/

/-- The matcher is one of the three standard ones, over any indexed field and any terms. -/
inductive Matcher.Standard : Matcher → Prop where
  | equality (field : String) (terms : ValueTerms) : Standard (.equality field terms)
  | relational (field : String) (terms : ValueTerms) : Standard (.relational field terms)
  | like (field : String) : Standard (.like field)

/-- Everything in the registry was registered, in any order and any number of times, and all its
matchers are standard. -/
inductive Registry.Standard : Registry → Prop where
  | empty : Standard .empty
  | register {registry : Registry} (standard : Standard registry) (field : String)
      {matcher : Matcher} (isStandard : matcher.Standard) :
      Standard (registry.register field matcher)
  | registerHistory {registry : Registry} (standard : Standard registry) (field : String)
      (history : HistoryField) : Standard (registry.registerHistory field history)

namespace Registry

theorem matchersOf_register (registry : Registry) (field other : String) (matcher : Matcher) :
    (registry.register field matcher).matchersOf other =
      if normalizedName field = normalizedName other then
        registry.matchersOf field ++ [matcher]
      else registry.matchersOf other := by
  simp only [matchersOf, register, Std.ExtTreeMap.getElem?_insert, Std.compare_eq_iff_eq]
  split <;> rfl

namespace Standard

variable {registry : Registry}

theorem registerOrdered (standard : registry.Standard) (field index : String)
    (terms : ValueTerms) : (registry.registerOrdered field index terms).Standard :=
  (standard.register field (.equality index terms)).register field (.relational index terms)

theorem registerText (standard : registry.Standard) (field index exact : String)
    (terms : ValueTerms) : (registry.registerText field index exact terms).Standard :=
  (standard.register field (.like index)).register field (.equality exact terms)

theorem standard_of_mem (standard : registry.Standard) {field : String} {matcher : Matcher}
    (member : matcher ∈ registry.matchersOf field) : matcher.Standard := by
  induction standard generalizing field with
  | empty => simp [matchersOf, Registry.empty] at member
  | register before name isStandard ih =>
      rw [matchersOf_register] at member
      split at member
      · rcases List.mem_append.mp member with earlier | last
        · exact ih earlier
        · rw [List.mem_singleton.mp last]
          exact isStandard
      · exact ih member
  | registerHistory before name history ih => exact ih member

/-- Whatever answers an operator is standard. -/
theorem standard_of_matcher? (standard : registry.Standard) {field : String}
    {operator : Operator} {matcher : Matcher}
    (found : registry.matcher? field operator = some matcher) : matcher.Standard :=
  standard.standard_of_mem (List.mem_of_find?_eq_some found)

end Standard

end Registry

/-! ### What standard matchers answer -/

/-- The matcher answers with plain fragments whenever it is asked. It is not asked for several
literals if there are none. -/
structure Matcher.AnswersPlainly (matcher : Matcher) : Prop where
  single (operator : Operator) (literal : Literal) : (matcher.single operator literal).Plain
  multiple (operator : Operator) {literals : List Literal} (some : literals ≠ []) :
    (matcher.multiple operator literals).Plain
  empty (operator : Operator) : (matcher.empty operator).Plain

theorem Matcher.AnswersPlainly.plain_fragment {matcher : Matcher}
    (plainly : matcher.AnswersPlainly) (operator : Operator) (literals : List Literal) :
    (matcher.fragment operator literals).Plain := by
  unfold Matcher.fragment
  split
  · exact Fragment.plain_nothing
  · exact plainly.empty operator
  · exact plainly.single operator _
  · next notNone _ _ => exact plainly.multiple operator notNone

theorem nestable_emptyQuery (field : String) : (emptyQuery field).Nestable :=
  Query.nestable_term field emptyTerm

theorem nestable_visibleExcept (field : String) {excluded : Option Query}
    (each : ∀ query ∈ excluded, query.Nestable) : (visibleExcept field excluded).Nestable := by
  have eachRequired : ∀ query ∈ [visibleQuery field], query.Nestable :=
    List.forall_mem_singleton.mpr (Query.nestable_term visibleFields field)
  have eachExcluded : ∀ query ∈ emptyQuery field :: excluded.toList, query.Nestable := by
    simpa using And.intro (nestable_emptyQuery field) each
  have two : 2 ≤ [visibleQuery field].length + (emptyQuery field :: excluded.toList).length := by
    simp only [List.length_cons, List.length_nil]
    omega
  exact Query.nestable_restriction (List.cons_ne_nil _ _) two eachRequired eachExcluded

theorem plain_unionOf {fragments : List Fragment}
    (each : ∀ fragment ∈ fragments, fragment.Plain) : (unionOf fragments).Plain := by
  have eachQuery : ∀ query ∈
      (fragments.filter fun fragment => !fragment.isFalse).map Fragment.toQuery,
      query.Nestable := by
    intro query member
    obtain ⟨fragment, kept, rfl⟩ := List.mem_map.mp member
    obtain ⟨listed, notFalse⟩ := List.mem_filter.mp kept
    exact (each fragment listed).nestable_toQuery (by simpa using notFalse)
  unfold unionOf
  split
  · exact Fragment.plain_nothing
  · next some => exact Fragment.plain_of_nestable (Query.nestable_anyOf some eachQuery)

/-! #### Exact terms -/

theorem nestable_of_holds? {field : String} {terms : ValueTerms} {literal : Literal}
    {query : Query} (held : holds? field terms literal = some query) : query.Nestable := by
  cases literal with
  | empty =>
      cases held
      exact nestable_emptyQuery field
  | value content =>
      simp only [holds?] at held
      split at held
      · cases held
      · next some =>
          cases held
          apply Query.nestable_anyOf some
          exact List.forall_mem_map.mpr fun term _ => Query.nestable_term field term

theorem nestable_holdsOther (field : String) (terms : ValueTerms) (literal : Literal) :
    (holdsOther field terms literal).Nestable := by
  cases literal with
  | empty => exact nestable_visibleExcept field (by simp)
  | value content =>
      apply nestable_visibleExcept
      intro query held
      exact nestable_of_holds? held

theorem plain_equalitySingle (field : String) (terms : ValueTerms) (operator : Operator)
    (literal : Literal) : (equalitySingle field terms operator literal).Plain := by
  unfold equalitySingle
  split
  · exact Fragment.plain_of_nestable (nestable_holdsOther field terms literal)
  · split
    · next query held => exact Fragment.plain_of_nestable (nestable_of_holds? held)
    · exact Fragment.plain_nothing

/-- Whether a value is asked for or not, a field that is visible or empty answers. -/
theorem plain_emptiness (field : String) (operator : Operator) :
    Fragment.Plain
      { query := if operator.isNegating then visibleExcept field none else emptyQuery field } := by
  apply Fragment.plain_of_nestable
  split
  · exact nestable_visibleExcept field (by simp)
  · exact nestable_emptyQuery field

theorem equality_answersPlainly (field : String) (terms : ValueTerms) :
    (Matcher.equality field terms).AnswersPlainly := by
  constructor
  · exact plain_equalitySingle field terms
  · intro operator literals some
    simp only [Matcher.equality]
    split
    · apply Fragment.plain_of_nestable
      apply Query.nestable_allOf (by simpa using some)
      exact List.forall_mem_map.mpr fun literal _ => nestable_holdsOther field terms literal
    · apply plain_unionOf
      exact List.forall_mem_map.mpr fun literal _ =>
        plain_equalitySingle field terms operator literal
  · exact plain_emptiness field

/-! #### Ranges of terms -/

theorem nestable_of_rangeFor? {field term : String} {operator : Operator} {query : Query}
    (range : rangeFor? field operator term = some query) : query.Nestable := by
  unfold rangeFor? at range
  split at range <;> cases range
  all_goals exact Query.nestable_range _ _ _

theorem relational_answersPlainly (field : String) (terms : ValueTerms) :
    (Matcher.relational field terms).AnswersPlainly := by
  constructor
  · intro operator literal
    cases literal with
    | empty => exact Fragment.plain_nothing
    | value content =>
        simp only [Matcher.relational, relationalSingle]
        split
        · exact Fragment.plain_nothing
        · next some =>
            apply Fragment.plain_of_nestable
            apply Query.nestable_anyOf some
            intro query member
            obtain ⟨term, _, range⟩ := List.mem_filterMap.mp member
            exact nestable_of_rangeFor? range
  · intro operator literals some
    exact Fragment.plain_nothing
  · intro operator
    exact Fragment.plain_nothing

/-! #### Words of a text -/

theorem nestable_of_wordQuery? {field word : String} {query : Query}
    (asked : wordQuery? field word = some query) : query.Nestable := by
  unfold wordQuery? at asked
  split at asked <;> cases asked
  · exact Query.nestable_startsWith field _
  · exact Query.nestable_term field word

theorem nestable_of_containsWords? {field : String} {literal : Literal} {query : Query}
    (asked : containsWords? field literal = some query) : query.Nestable := by
  cases literal with
  | empty =>
      cases asked
      exact nestable_emptyQuery field
  | value content =>
      simp only [containsWords?, wordsQuery?] at asked
      split at asked
      · cases asked
      · next some =>
          cases asked
          apply Query.nestable_allOf some
          intro query member
          obtain ⟨word, _, found⟩ := List.mem_filterMap.mp member
          exact nestable_of_wordQuery? found

theorem plain_likeMultiple (field : String) (operator : Operator) (literals : List Literal) :
    (likeMultiple field operator literals).Plain := by
  have each : ∀ query ∈ literals.filterMap (containsWords? field), query.Nestable := by
    intro query member
    obtain ⟨literal, _, found⟩ := List.mem_filterMap.mp member
    exact nestable_of_containsWords? found
  unfold likeMultiple
  split
  · exact Fragment.plain_of_nestable (nestable_visibleExcept field (by simp))
  · next some =>
      have nestable := Query.nestable_anyOf some each
      exact Fragment.plain_of_nestable (nestable_visibleExcept field (by simpa using nestable))
  · exact Fragment.plain_nothing
  · next some _ => exact Fragment.plain_of_nestable (Query.nestable_anyOf some each)

theorem like_answersPlainly (field : String) : (Matcher.like field).AnswersPlainly := by
  constructor
  · intro operator literal
    exact plain_likeMultiple field operator [literal]
  · intro operator literals some
    exact plain_likeMultiple field operator literals
  · exact plain_emptiness field

/-- All standard matchers answer plainly. -/
theorem Matcher.Standard.answersPlainly {matcher : Matcher} (standard : matcher.Standard) :
    matcher.AnswersPlainly := by
  cases standard with
  | equality field terms => exact equality_answersPlainly field terms
  | relational field terms => exact relational_answersPlainly field terms
  | like field => exact like_answersPlainly field

end Criteria.Fields
