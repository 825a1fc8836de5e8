/-
Module: Criteria.Text.Blank
Purpose: Blank characters, trimming, and the pieces and words of a text.
Main exports:
  isBlank, trim, isBlankText, pieces, words
-/

namespace Criteria.Text

/-- A character with the Unicode property White_Space. -/
def isBlank (c : Char) : Bool :=
  let code := c.toNat
  (0x9 ≤ code && code ≤ 0xD) || code == 0x20 || code == 0x85 || code == 0xA0 ||
    code == 0x1680 || (0x2000 ≤ code && code ≤ 0x200A) || code == 0x2028 || code == 0x2029 ||
    code == 0x202F || code == 0x205F || code == 0x3000

/-- The characters left after dropping the blanks at both ends. -/
def trimmed (text : List Char) : List Char :=
  ((text.dropWhile isBlank).reverse.dropWhile isBlank).reverse

/-- A text without the blanks at its two ends. -/
def trim (text : String) : String :=
  String.ofList (trimmed text.toList)

/-- A text that is empty or holds blanks only. -/
def isBlankText (text : String) : Bool :=
  text.toList.all isBlank

/-- The stretches between separators, empty ones included: a text with n separators has
n + 1 pieces. -/
def pieces (separates : Char → Bool) : List Char → List (List Char)
  | [] => [[]]
  | c :: rest =>
      if separates c then [] :: pieces separates rest
      else
        match pieces separates rest with
        | [] => [[c]]
        | piece :: others => (c :: piece) :: others

/-- The maximal stretches of characters that are not blank. -/
def wordsOf (text : List Char) : List (List Char) :=
  (pieces isBlank text).filter fun piece => !piece.isEmpty

/-- The words of a text, in order. -/
def words (text : String) : List String :=
  (wordsOf text.toList).map String.ofList

theorem pieces_ne_nil (separates : Char → Bool) (text : List Char) :
    pieces separates text ≠ [] := by
  cases text with
  | nil => simp [pieces]
  | cons c rest =>
      rw [pieces]
      split
      · simp
      · split <;> simp

/-- A text without separators is its own single piece. -/
theorem pieces_of_forall_not {separates : Char → Bool} {text : List Char}
    (unbroken : ∀ c ∈ text, separates c = false) : pieces separates text = [text] := by
  induction text with
  | nil => rfl
  | cons c rest ih =>
      have here : separates c = false := unbroken c (by simp)
      have later := ih fun d member => unbroken d (by simp [member])
      simp [pieces, here, later]

/-- The first separator closes the first piece. -/
theorem pieces_append_cons {separates : Char → Bool} {before : List Char} {c : Char}
    (rest : List Char) (unbroken : ∀ d ∈ before, separates d = false)
    (separator : separates c = true) :
    pieces separates (before ++ c :: rest) = before :: pieces separates rest := by
  induction before with
  | nil => simp [pieces, separator]
  | cons d later ih =>
      have here : separates d = false := unbroken d (by simp)
      have tail := ih fun e member => unbroken e (by simp [member])
      simp [pieces, here, tail]

/-- A word holds at least one character. -/
theorem ne_nil_of_mem_wordsOf {text word : List Char} (member : word ∈ wordsOf text) :
    word ≠ [] := by
  have := (List.mem_filter.mp member).2
  simpa using this

/-- No piece holds a separator. -/
theorem not_separates_of_mem_pieces {separates : Char → Bool} {text piece : List Char}
    (member : piece ∈ pieces separates text) : ∀ c ∈ piece, separates c = false := by
  induction text generalizing piece with
  | nil => simp_all [pieces]
  | cons c rest ih =>
      rw [pieces] at member
      split at member
      · rcases List.mem_cons.mp member with rfl | later
        · simp
        · exact ih later
      · next plain =>
        split at member
        · simp_all
        · next first others split =>
          rw [split] at ih
          rcases List.mem_cons.mp member with rfl | later
          · intro d inPiece
            rcases List.mem_cons.mp inPiece with rfl | inFirst
            · simpa using plain
            · exact ih (List.mem_cons_self) d inFirst
          · exact ih (List.mem_cons_of_mem _ later)

end Criteria.Text
