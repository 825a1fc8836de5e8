/-
Module: Criteria.Proofs.Fields.BeginningSearch
Purpose: Which words are found by what they begin with, when the beginning is cut off before
  anything is lower-cased.
Main exports:
  words_append_star, matches_beginning_iff, beginnings_find_their_words,
  capital_sigma_is_not_found_by_its_beginning
-/
import Criteria.Proofs.Fields.TextSearch
import Criteria.Proofs.Text.Cutting

namespace Criteria.Text

/-- What a word begins with is one word with a star after it. -/
theorem words_append_star {text beginning rest : String}
    (member : beginning ++ rest ∈ words text) : words (beginning ++ "*") = [beginning ++ "*"] := by
  apply words_of_not_isBlank
  · simp
  · have unbroken := not_isBlank_of_mem_words member
    have ofStar : ∀ c ∈ "*".toList, isBlank c = false := List.forall_mem_singleton.mpr rfl
    rw [String.toList_append] at unbroken ⊢
    exact List.forall_mem_append.mpr ⟨(List.forall_mem_append.mp unbroken).1, ofStar⟩

end Criteria.Text

namespace Criteria.Fields

open Criteria.Search
open Criteria.Text

/-- A beginning is asked for by the word that a star makes of it. -/
theorem exists_wordsQuery?_append_star (field : String) {beginning : String}
    (some : beginning ≠ "") (oneWord : words (beginning ++ "*") = [beginning ++ "*"]) :
    ∃ query, wordsQuery? field (beginning ++ "*") = .some query := by
  apply Option.ne_none_iff_exists'.mp
  rw [Ne, wordsQuery?_eq_none_iff, oneWord, List.forall_mem_singleton]
  exact append_star_ne_star some

/-- Asking for a beginning finds a document that holds a word whose lower-case form begins with that
of the beginning cut off. -/
theorem matches_beginning_iff {field text : String} {document : Document}
    (plain : field ≠ visibleFields) (given : TextGiven field text document) {beginning : String}
    (some : beginning ≠ "") (oneWord : words (beginning ++ "*") = [beginning ++ "*"])
    {query : Query} (isQuery : wordsQuery? field (beginning ++ "*") = .some query) :
    document.Matches query ↔
      ∃ held ∈ words text, ∃ later, lowercase held = lowercaseCut beginning ++ later := by
  have notStar : lowercase (beginning ++ "*") ≠ "*" := by
    rw [Ne, lowercase_eq_star_iff]
    exact append_star_ne_star some
  rw [matches_wordsQuery?_iff plain given isQuery, oneWord, List.forall_mem_singleton,
    imp_iff_right notStar]
  simp only [lowercase_append_star, answers_beginning_iff]

/-- Let a word of a text be cut in two. Asking for the first part with a star after it finds a
stored document that was given the text, unless the cut goes through the word at a capital sigma:
after a letter the sigma takes its final form at the end of the first part, but not in the whole
word. Then the document is not found if all words of its text are this one. -/
theorem beginnings_find_their_words (field text beginning rest : String)
    (plain : field ≠ visibleFields) (some : beginning ≠ "")
    (member : beginning ++ rest ∈ words text) :
    ∃ query, wordsQuery? field (beginning ++ "*") = .some query ∧
      ∀ (updates : List Update) (document : Document), Stored updates document →
        TextGiven field text document →
        (¬ CutAtSigma [] beginning.toList rest.toList →
          document.id ∈ (Store.after updates).search query) ∧
        (CutAtSigma [] beginning.toList rest.toList →
          (∀ word ∈ words text, word = beginning ++ rest) →
            document.id ∉ (Store.after updates).search query) := by
  have oneWord := words_append_star member
  obtain ⟨query, isQuery⟩ := exists_wordsQuery?_append_star field some oneWord
  refine ⟨query, isQuery, ?_⟩
  intro updates document stored given
  rw [stored.mem_search_iff, matches_beginning_iff plain given some oneWord isQuery]
  constructor
  · intro elsewhere
    exact ⟨beginning ++ rest, member, (lowercase_begins_iff beginning rest).mpr elsewhere⟩
  · rintro atSigma onlyWord ⟨held, isHeld, begins⟩
    rw [onlyWord held isHeld, lowercase_begins_iff] at begins
    exact begins atSigma

/-- A document with one word, in which a letter follows a capital sigma. -/
def withSigma : Document :=
  (Document.empty "d").withText "body" "ΜΕΣΟ"

theorem textGiven_withSigma : TextGiven "body" "ΜΕΣΟ" withSigma :=
  .first (by decide)

/-- The first three letters of the word do not find it. -/
theorem capital_sigma_is_not_found_by_its_beginning :
    TextGiven "body" "ΜΕΣΟ" withSigma ∧ "ΜΕΣ" ++ "Ο" ∈ words "ΜΕΣΟ" ∧
    wordsQuery? "body" ("ΜΕΣ" ++ "*") = some (.startsWith "body" "μες") ∧
    "d" ∉ (Store.after [.insert withSigma]).search (.startsWith "body" "μες") :=
  ⟨textGiven_withSigma, by decide +kernel, by decide +kernel, by decide +kernel⟩

/-- The first two letters find the word, and the first three are cut off at the sigma. -/
theorem beginnings_find_their_words_of_withSigma :
    "body" ≠ visibleFields ∧ "ΜΕ" ≠ "" ∧ "ΜΕ" ++ "ΣΟ" ∈ words "ΜΕΣΟ" ∧
    (∃ query, wordsQuery? "body" ("ΜΕ" ++ "*") = some query ∧
      "d" ∈ (Store.after [.insert withSigma]).search query) ∧
    CutAtSigma [] "ΜΕΣ".toList "Ο".toList ∧
    ∃ query, wordsQuery? "body" ("ΜΕΣ" ++ "*") = some query ∧
      "d" ∉ (Store.after [.insert withSigma]).search query := by
  have plain : "body" ≠ visibleFields := by decide
  have stored : Stored [.insert withSigma] withSigma := ⟨[], [], rfl, List.forall_mem_nil _⟩
  have oneWord : words "ΜΕΣΟ" = ["ΜΕΣΟ"] := by decide +kernel
  have inTwo : "ΜΕ" ++ "ΣΟ" ∈ words "ΜΕΣΟ" := by decide +kernel
  have inThree : "ΜΕΣ" ++ "Ο" ∈ words "ΜΕΣΟ" := by decide +kernel
  have atSigma : CutAtSigma [] "ΜΕΣ".toList "Ο".toList :=
    ⟨['Μ', 'Ε'], [], rfl, rfl, by decide +kernel, by decide +kernel⟩
  refine ⟨plain, by decide, inTwo, ?_, atSigma, ?_⟩
  · obtain ⟨query, isQuery, finds⟩ :=
      beginnings_find_their_words "body" "ΜΕΣΟ" "ΜΕ" "ΣΟ" plain (by decide) inTwo
    exact ⟨query, isQuery, (finds _ withSigma stored textGiven_withSigma).1
      (not_cutAtSigma_of_notMem (by decide))⟩
  · obtain ⟨query, isQuery, finds⟩ :=
      beginnings_find_their_words "body" "ΜΕΣΟ" "ΜΕΣ" "Ο" plain (by decide) inThree
    refine ⟨query, isQuery, (finds _ withSigma stored textGiven_withSigma).2 atSigma ?_⟩
    rw [oneWord]
    exact List.forall_mem_singleton.mpr rfl

end Criteria.Fields
