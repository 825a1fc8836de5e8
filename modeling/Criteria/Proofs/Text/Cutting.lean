/-
Module: Criteria.Proofs.Text.Cutting
Purpose: Cutting texts at separators and trimming blanks, said of the text that is cut: the pieces
  are what stands between the separators, and only blanks are trimmed.
Main exports:
  Joined, Joined.pieces_eq, joined_pieces, pieces_map, words_of_not_isBlank, AllBlank,
  exists_trimmed, EndsIn, trimmed_append_append
-/
import Criteria.Text.Blank

namespace Criteria.Text

variable {separates : Char → Bool}

/-! ### Pieces -/

/-- The text consists of the pieces, in their order, with one separator between any two. No piece
holds a separator. -/
inductive Joined (separates : Char → Bool) : List Char → List (List Char) → Prop where
  | last {piece : List Char} (unbroken : ∀ c ∈ piece, separates c = false) :
      Joined separates piece [piece]
  | next {piece rest : List Char} {mark : Char} {others : List (List Char)}
      (unbroken : ∀ c ∈ piece, separates c = false) (separator : separates mark = true)
      (later : Joined separates rest others) :
      Joined separates (piece ++ mark :: rest) (piece :: others)

theorem Joined.pieces_eq {text : List Char} {others : List (List Char)}
    (joined : Joined separates text others) : pieces separates text = others := by
  induction joined with
  | last unbroken => exact pieces_of_forall_not unbroken
  | next unbroken separator later ih => rw [pieces_append_cons _ unbroken separator, ih]

/-- A character that is no separator goes to the first piece. -/
theorem Joined.cons {c : Char} {text first : List Char} {others : List (List Char)}
    (plain : separates c = false) (joined : Joined separates text (first :: others)) :
    Joined separates (c :: text) ((c :: first) :: others) := by
  cases joined with
  | last unbroken => exact .last (List.forall_mem_cons.mpr ⟨plain, unbroken⟩)
  | next unbroken separator later =>
      exact .next (List.forall_mem_cons.mpr ⟨plain, unbroken⟩) separator later

theorem joined_pieces (separates : Char → Bool) (text : List Char) :
    Joined separates text (pieces separates text) := by
  induction text with
  | nil => exact .last nofun
  | cons c text ih =>
      rw [pieces]
      cases known : separates c with
      | true => exact Joined.next (List.forall_mem_nil _) known ih
      | false =>
          rw [if_neg Bool.false_ne_true]
          split
          · next none => exact absurd none (pieces_ne_nil separates text)
          · next first others cut =>
              rw [cut] at ih
              exact ih.cons known

/-- What holds of separators and of all characters of the pieces holds of the whole text. -/
theorem Joined.forall_mem {property : Char → Prop} {text : List Char} {others : List (List Char)}
    (joined : Joined separates text others) (marks : ∀ c, separates c = true → property c)
    (each : ∀ piece ∈ others, ∀ c ∈ piece, property c) : ∀ c ∈ text, property c := by
  induction joined with
  | last unbroken => exact each _ (List.mem_singleton_self _)
  | next unbroken separator later ih =>
      obtain ⟨here, eachLater⟩ := List.forall_mem_cons.mp each
      exact List.forall_mem_append.mpr
        ⟨here, List.forall_mem_cons.mpr ⟨marks _ separator, ih eachLater⟩⟩

/-- Changing characters, but no separator into another character or the other way round, changes
only the pieces. -/
theorem pieces_map {change : Char → Char} {separatesBefore : Char → Bool}
    (kept : ∀ c, separates (change c) = separatesBefore c) (text : List Char) :
    pieces separates (text.map change) = (pieces separatesBefore text).map (List.map change) := by
  induction text with
  | nil => rfl
  | cons c text ih =>
      rw [List.map_cons, pieces, pieces, kept, ih]
      cases separatesBefore c with
      | true => rfl
      | false =>
          cases pieces separatesBefore text with
          | nil => rfl
          | cons first others => rfl

/-! ### Words -/

/-- No word holds a blank. -/
theorem not_isBlank_of_mem_words {text word : String} (member : word ∈ words text) :
    ∀ c ∈ word.toList, isBlank c = false := by
  obtain ⟨characters, inText, rfl⟩ := List.mem_map.mp member
  rw [String.toList_ofList]
  exact not_separates_of_mem_pieces (List.mem_filter.mp inText).1

/-- A text that holds something and no blank is one word. -/
theorem words_of_not_isBlank {text : String} (some : text ≠ "")
    (unbroken : ∀ c ∈ text.toList, isBlank c = false) : words text = [text] := by
  have nonempty : text.toList.isEmpty = false := by
    rw [List.isEmpty_eq_false_iff]
    exact fun none => some (String.toList_inj.mp none)
  rw [words, wordsOf, pieces_of_forall_not unbroken]
  simp [nonempty]

/-! ### Trimming -/

/-- Every character of the text is blank. -/
def AllBlank (text : List Char) : Prop :=
  ∀ c ∈ text, isBlank c = true

theorem AllBlank.append {first second : List Char} (ofFirst : AllBlank first)
    (ofSecond : AllBlank second) : AllBlank (first ++ second) :=
  List.forall_mem_append.mpr ⟨ofFirst, ofSecond⟩

theorem allBlank_takeWhile (text : List Char) : AllBlank (text.takeWhile isBlank) :=
  List.all_eq_true.mp List.all_takeWhile

/-- Only blanks are trimmed. -/
theorem exists_trimmed (text : List Char) :
    ∃ before after, AllBlank before ∧ AllBlank after ∧
      text = before ++ (trimmed text ++ after) := by
  refine ⟨text.takeWhile isBlank,
    ((text.dropWhile isBlank).reverse.takeWhile isBlank).reverse, allBlank_takeWhile text, ?_, ?_⟩
  · intro c member
    exact allBlank_takeWhile _ c (List.mem_reverse.mp member)
  · have inner := congrArg List.reverse
      (List.takeWhile_append_dropWhile (p := isBlank) (l := (text.dropWhile isBlank).reverse))
    rw [List.reverse_append, List.reverse_reverse] at inner
    rw [trimmed, inner, List.takeWhile_append_dropWhile]

/-- The text begins and ends with characters of a kind. -/
structure EndsIn (kind : Char → Bool) (text : List Char) : Prop where
  some : text ≠ []
  first : ∀ c ∈ text.head?, kind c = true
  last : ∀ c ∈ text.getLast?, kind c = true

section

variable {kind : Char → Bool}

theorem endsIn_of_forall {text : List Char} (some : text ≠ [])
    (each : ∀ c ∈ text, kind c = true) : EndsIn kind text where
  some := some
  first c atStart := each c (List.mem_of_mem_head? atStart)
  last c atEnd := each c (List.mem_of_getLast? atEnd)

theorem EndsIn.append {start finish : List Char} (ofStart : EndsIn kind start)
    (ofFinish : EndsIn kind finish) (middle : List Char) :
    EndsIn kind (start ++ (middle ++ finish)) where
  some := List.append_ne_nil_of_left_ne_nil ofStart.some _
  first := by
    rw [List.head?_append, List.head?_eq_some_head ofStart.some, Option.some_or,
      ← List.head?_eq_some_head ofStart.some]
    exact ofStart.first
  last := by
    rw [← List.append_assoc, List.getLast?_append, List.getLast?_eq_some_getLast ofFinish.some,
      Option.some_or, ← List.getLast?_eq_some_getLast ofFinish.some]
    exact ofFinish.last

theorem Joined.endsIn {text : List Char} {others : List (List Char)}
    (joined : Joined separates text others)
    (each : ∀ piece ∈ others, piece ≠ [] ∧ ∀ c ∈ piece, kind c = true) : EndsIn kind text := by
  induction joined with
  | last unbroken =>
      obtain ⟨some, ofKind⟩ := each _ (List.mem_singleton_self _)
      exact endsIn_of_forall some ofKind
  | @next piece rest mark others unbroken separator later ih =>
      obtain ⟨⟨some, ofKind⟩, eachLater⟩ := List.forall_mem_cons.mp each
      exact (endsIn_of_forall some ofKind).append (ih eachLater) [mark]

/-- What stands between blanks is what trimming leaves, if it has no blanks at its ends. -/
theorem trimmed_append_append {before core after : List Char} (blankBefore : AllBlank before)
    (blankAfter : AllBlank after) (visible : ∀ c, kind c = true → isBlank c = false)
    (ends : EndsIn kind core) : trimmed (before ++ (core ++ after)) = core := by
  have start : (before ++ (core ++ after)).dropWhile isBlank = core ++ after := by
    obtain ⟨c, rest, split⟩ := List.exists_cons_of_ne_nil ends.some
    have plain : ¬ isBlank c = true := by
      rw [visible c (ends.first c (by rw [split]; rfl))]
      exact Bool.false_ne_true
    rw [List.dropWhile_append_of_pos blankBefore, split]
    exact List.dropWhile_cons_of_neg plain
  have finish : (core ++ after).reverse.dropWhile isBlank = core.reverse := by
    have blankBack : ∀ c ∈ after.reverse, isBlank c = true :=
      fun c member => blankAfter c (List.mem_reverse.mp member)
    have someBack : core.reverse ≠ [] := List.reverse_ne_nil_iff.mpr ends.some
    obtain ⟨c, rest, split⟩ := List.exists_cons_of_ne_nil someBack
    have atEnd : c ∈ core.getLast? := by
      rw [← List.head?_reverse, split]
      rfl
    have plain : ¬ isBlank c = true := by
      rw [visible c (ends.last c atEnd)]
      exact Bool.false_ne_true
    rw [List.reverse_append, List.dropWhile_append_of_pos blankBack, split]
    exact List.dropWhile_cons_of_neg plain
  rw [trimmed, start, finish, List.reverse_reverse]

theorem trimmed_map {change : Char → Char} (kept : ∀ c, isBlank (change c) = isBlank c)
    (text : List Char) : trimmed (text.map change) = (trimmed text).map change := by
  have same : isBlank ∘ change = isBlank := funext kept
  unfold trimmed
  rw [List.dropWhile_map, same, ← List.map_reverse, List.dropWhile_map, same, List.map_reverse]

end

end Criteria.Text
