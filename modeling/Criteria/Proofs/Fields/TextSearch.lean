/-
Module: Criteria.Proofs.Fields.TextSearch
Purpose: Text search finds a document by the words of its text: the words that are asked for are
  lower-cased like those that are held, and a star at the end of one asks for a beginning.
Main exports:
  TextGiven, mem_terms_iff_of_textGiven, Answers, wordQuery?_cases, wordsQuery?_eq_none_iff,
  matches_wordsQuery?_iff, text_search_finds_what_answers_every_word
-/
import Criteria.Fields.BuiltIn
import Criteria.Proofs.Fields.NumberRange
import Criteria.Proofs.Search.Matching
import Criteria.Proofs.Text.Casing

namespace Criteria.Fields

open Criteria.Search
open Criteria.Text

/-! ### Fields that hold a text -/

/-- The document was given the text in the field, once or more often, and nothing else in it. What
else is done to the document leaves the field alone. -/
inductive TextGiven (field text : String) : Document → Prop where
  | first {document : Document} (unused : document.terms field = []) :
      TextGiven field text (document.withText field text)
  | again {document : Document} (before : TextGiven field text document) :
      TextGiven field text (document.withText field text)
  | elsewhere {document changed : Document} (before : TextGiven field text document)
      (kept : changed.terms field = document.terms field) : TextGiven field text changed

/-- Giving a text adds the lower-cased words to the terms of the field. -/
theorem terms_withText (document : Document) {field : String} (plain : field ≠ visibleFields)
    (text : String) :
    (document.withText field text).terms field =
      document.terms field ++ (words text).map lowercase := by
  rw [Document.withText, ← Document.terms_showing document plain]
  generalize document.showing field = shown
  induction words text generalizing shown with
  | nil => exact (List.append_nil _).symm
  | cons word later ih =>
      rw [List.foldl_cons, ih, Document.terms_withTerm, if_pos rfl, List.map_cons,
        List.append_assoc, List.singleton_append]

/-- The field holds the lower-cased words of the text, and no other terms. -/
theorem mem_terms_iff_of_textGiven {field text : String} {document : Document}
    (plain : field ≠ visibleFields) (given : TextGiven field text document) (term : String) :
    term ∈ document.terms field ↔ ∃ held ∈ words text, lowercase held = term := by
  induction given with
  | first unused => rw [terms_withText _ plain, unused, List.nil_append, List.mem_map]
  | again before ih => rw [terms_withText _ plain, List.mem_append, ih, List.mem_map, or_self]
  | elsewhere before kept ih => rw [kept, ih]

/-! ### Words that are asked for -/

/-- A held word answers one that is asked for, both lower-cased: it is the same, or it begins with
what stands before a star at the end. -/
def Answers (held asked : String) : Prop :=
  ((∀ beginning, asked ≠ beginning ++ "*") ∧ held = asked) ∨
    ∃ beginning rest, asked = beginning ++ "*" ∧ held = beginning ++ rest

theorem answers_beginning_iff (held beginning : String) :
    Answers held (beginning ++ "*") ↔ ∃ rest, held = beginning ++ rest := by
  constructor
  · rintro (⟨plain, -⟩ | ⟨other, rest, same, begins⟩)
    · exact absurd rfl (plain beginning)
    · exact ⟨rest, (String.append_left_inj "*").mp same ▸ begins⟩
  · exact fun ⟨rest, begins⟩ => .inr ⟨beginning, rest, rfl, begins⟩

theorem answers_plain_iff (held : String) {asked : String}
    (plain : ∀ beginning, asked ≠ beginning ++ "*") : Answers held asked ↔ held = asked := by
  constructor
  · rintro (⟨-, same⟩ | ⟨beginning, -, star, -⟩)
    · exact same
    · exact absurd star (plain beginning)
  · exact fun same => .inl ⟨plain, same⟩

/-- Every word answers itself, even if it ends in a star. -/
theorem answers_self (word : String) : Answers word word := by
  by_cases plain : ∀ beginning, word ≠ beginning ++ "*"
  · exact .inl ⟨plain, rfl⟩
  · obtain ⟨beginning, ends⟩ := not_forall_not.mp plain
    exact .inr ⟨beginning, "*", ends, ends⟩

theorem append_star_ne_star {beginning : String} (some : beginning ≠ "") :
    beginning ++ "*" ≠ "*" :=
  fun star => some ((String.append_left_inj "*").mp star)

theorem toList_reverse_append_star (beginning : String) :
    (beginning ++ "*").toList.reverse = '*' :: beginning.toList.reverse := by
  rw [String.toList_append, List.reverse_append]
  rfl

theorem eq_append_star_of_reverse {word : String} {reversed : List Char}
    (ends : word.toList.reverse = '*' :: reversed) :
    word = String.ofList reversed.reverse ++ "*" := by
  rw [← String.toList_inj, String.toList_append, String.toList_ofList, ← List.reverse_inj, ends,
    List.reverse_append, List.reverse_reverse]
  rfl

/-- What a word asks for: nothing if it is a star, a beginning if it ends in one, and otherwise
itself. -/
theorem wordQuery?_cases (field word : String) :
    (word = "*" ∧ wordQuery? field word = none) ∨
    (∃ beginning, beginning ≠ "" ∧ word = beginning ++ "*" ∧
      wordQuery? field word = some (.startsWith field beginning)) ∨
    ((∀ beginning, word ≠ beginning ++ "*") ∧
      wordQuery? field word = some (.term field word)) := by
  unfold wordQuery?
  split
  · next ends => exact .inl ⟨eq_append_star_of_reverse ends, rfl⟩
  · next reversed more ends =>
    refine .inr (.inl ⟨_, ?_, eq_append_star_of_reverse ends, rfl⟩)
    intro nothing
    have none : reversed = [] := by simpa using congrArg String.toList nothing
    exact more none
  · next star beginning =>
    refine .inr (.inr ⟨?_, rfl⟩)
    rintro before rfl
    exact beginning _ (toList_reverse_append_star before)

/-- Only a star by itself asks for nothing. -/
theorem wordQuery?_eq_none_iff (field word : String) :
    wordQuery? field word = none ↔ word = "*" := by
  rcases wordQuery?_cases field word with
    ⟨star, asked⟩ | ⟨beginning, some, ends, asked⟩ | ⟨plain, asked⟩
  · exact iff_of_true asked star
  · refine iff_of_false (by simp [asked]) ?_
    rw [ends]
    exact append_star_ne_star some
  · exact iff_of_false (by simp [asked]) (plain "")

section

variable {field text : String} {document : Document}

/-- What a word asks for holds of a document of which a word answers it. -/
theorem matches_wordQuery?_iff (plain : field ≠ visibleFields)
    (given : TextGiven field text document) {asked : String} {query : Query}
    (isQuery : wordQuery? field asked = some query) :
    document.Matches query ↔ ∃ held ∈ words text, Answers (lowercase held) asked := by
  rcases wordQuery?_cases field asked with
    ⟨star, nothing⟩ | ⟨beginning, some, rfl, asksBeginning⟩ | ⟨noStar, asksWord⟩
  · rw [nothing] at isQuery
    cases isQuery
  · rw [asksBeginning] at isQuery
    cases isQuery
    simp only [Document.Matches, mem_terms_iff_of_textGiven plain given, answers_beginning_iff]
    exact ⟨fun ⟨rest, held, member, begins⟩ => ⟨held, member, rest, begins⟩,
      fun ⟨held, member, rest, begins⟩ => ⟨rest, held, member, begins⟩⟩
  · rw [asksWord] at isQuery
    cases isQuery
    simp only [Document.Matches, mem_terms_iff_of_textGiven plain given,
      answers_plain_iff _ noStar]

/-! ### Texts that are asked for -/

/-- A text asks for something unless its words are stars. -/
theorem wordsQuery?_eq_none_iff (field sought : String) :
    wordsQuery? field sought = none ↔ ∀ word ∈ words sought, word = "*" := by
  have each : (words sought).filterMap (fun word => wordQuery? field (lowercase word)) = [] ↔
      ∀ word ∈ words sought, word = "*" := by
    simp only [List.filterMap_eq_nil_iff, wordQuery?_eq_none_iff, lowercase_eq_star_iff]
  rw [← each, wordsQuery?]
  split
  · next nothing => exact iff_of_true rfl nothing
  · next some => exact iff_of_false (by simp) some

/-- What a text asks for holds of a document of which a word answers each word but stars. -/
theorem matches_wordsQuery?_iff (plain : field ≠ visibleFields)
    (given : TextGiven field text document) {sought : String} {query : Query}
    (isQuery : wordsQuery? field sought = some query) :
    document.Matches query ↔ ∀ word ∈ words sought, lowercase word ≠ "*" →
      ∃ held ∈ words text, Answers (lowercase held) (lowercase word) := by
  unfold wordsQuery? at isQuery
  split at isQuery
  · cases isQuery
  · cases isQuery
    next nonempty =>
    rw [Document.matches_allOf_iff]
    constructor
    · rintro ⟨-, each⟩ word member more
      obtain ⟨query, asked⟩ := Option.ne_none_iff_exists'.mp
        (mt (wordQuery?_eq_none_iff field (lowercase word)).mp more)
      exact (matches_wordQuery?_iff plain given asked).mp
        (each query (List.mem_filterMap.mpr ⟨word, member, asked⟩))
    · intro answered
      refine ⟨nonempty, fun query isAsked => ?_⟩
      obtain ⟨word, member, asked⟩ := List.mem_filterMap.mp isAsked
      have more : lowercase word ≠ "*" := by
        rw [Ne, ← wordQuery?_eq_none_iff field, asked]
        exact Option.some_ne_none query
      exact (matches_wordQuery?_iff plain given asked).mpr (answered word member more)

end

/-- Text search asks for nothing exactly if all words of the text that is sought are stars.
Otherwise its query finds a stored document that was given a text in the field, and nothing else in
it, exactly if every word that is sought but stars is answered by a word of the text, all of them
lower-cased: it is the same, or it begins with what stands before a star at the end. In particular,
the document is found by its own text. -/
theorem text_search_finds_what_answers_every_word (field sought : String) :
    (wordsQuery? field sought = none ↔ ∀ word ∈ words sought, word = "*") ∧
    ∀ query, wordsQuery? field sought = some query →
      ∀ (text : String) (updates : List Update) (document : Document), field ≠ visibleFields →
        Stored updates document → TextGiven field text document →
        (document.id ∈ (Store.after updates).search query ↔
          ∀ word ∈ words sought, lowercase word ≠ "*" →
            ∃ held ∈ words text, Answers (lowercase held) (lowercase word)) ∧
        (sought = text → document.id ∈ (Store.after updates).search query) := by
  refine ⟨wordsQuery?_eq_none_iff field sought, ?_⟩
  intro query isQuery text updates document plain stored given
  rw [stored.mem_search_iff, matches_wordsQuery?_iff plain given isQuery]
  refine ⟨Iff.rfl, ?_⟩
  rintro rfl word member -
  exact ⟨word, member, answers_self (lowercase word)⟩

/-- A document with a text in which a star stands at the end of a word and one by itself. -/
def withStars : Document :=
  (Document.empty "d").withText "body" "Rate* of\u00a0CHANGE *"

/-- The document is found by the beginning of a word and by a word with a star at its end, in
whatever case and next to a star by itself, but not by a beginning without a star. -/
theorem text_search_finds_what_answers_every_word_of_withStars :
    TextGiven "body" "Rate* of\u00a0CHANGE *" withStars ∧
    wordsQuery? "body" "* chan* RATE*" =
      some (.allOf [.startsWith "body" "chan", .startsWith "body" "rate"]) ∧
    "d" ∈ (Store.after [.insert withStars]).search
      (.allOf [.startsWith "body" "chan", .startsWith "body" "rate"]) ∧
    wordsQuery? "body" "Chan" = some (.term "body" "chan") ∧
    "d" ∉ (Store.after [.insert withStars]).search (.term "body" "chan") := by
  have plain : "body" ≠ visibleFields := by decide
  have given : TextGiven "body" "Rate* of\u00a0CHANGE *" withStars := .first (by decide)
  have stored : Stored [.insert withStars] withStars := ⟨[], [], rfl, List.forall_mem_nil _⟩
  have held : words "Rate* of\u00a0CHANGE *" = ["Rate*", "of", "CHANGE", "*"] := by decide +kernel
  have asksBeginnings : wordsQuery? "body" "* chan* RATE*" =
      some (.allOf [.startsWith "body" "chan", .startsWith "body" "rate"]) := by decide +kernel
  have asksWord : wordsQuery? "body" "Chan" = some (.term "body" "chan") := by decide +kernel
  refine ⟨given, asksBeginnings, ?_, asksWord, ?_⟩
  · obtain ⟨found, -⟩ := (text_search_finds_what_answers_every_word "body" "* chan* RATE*").2 _
      asksBeginnings _ _ _ plain stored given
    apply found.mpr
    have sought : words "* chan* RATE*" = ["*", "chan*", "RATE*"] := by decide +kernel
    rw [sought, held]
    simp only [List.forall_mem_cons]
    refine ⟨?_, ?_, ?_, List.forall_mem_nil _⟩
    · exact fun more => absurd (by decide +kernel) more
    · exact fun _ => ⟨"CHANGE", by decide, .inr ⟨"chan", "ge", by decide +kernel⟩⟩
    · exact fun _ => ⟨"Rate*", by decide, .inr ⟨"rate", "*", by decide +kernel⟩⟩
  · obtain ⟨found, -⟩ := (text_search_finds_what_answers_every_word "body" "Chan").2 _
      asksWord _ _ _ plain stored given
    intro isFound
    have lowered : lowercase "Chan" = "chan" := by decide +kernel
    have others : ∀ word ∈ ["Rate*", "of", "CHANGE", "*"], lowercase word ≠ "chan" := by
      decide +kernel
    obtain ⟨word, member, answers⟩ :=
      found.mp isFound "Chan" (by decide +kernel) (by decide +kernel)
    rw [held] at member
    rcases answers with ⟨-, same⟩ | ⟨beginning, -, ends, -⟩
    · exact others word member (same.trans lowered)
    · have last := congrArg (·.toList.reverse.head?) (lowered.symm.trans ends)
      rw [toList_reverse_append_star] at last
      cases last

end Criteria.Fields
