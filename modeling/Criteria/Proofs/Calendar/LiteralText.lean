/-
Module: Criteria.Proofs.Calendar.LiteralText
Purpose: Which texts spell a date literal, said of the text alone: decimal fields with hyphens or
  slashes between those of the date, and a blank or the letter T before those of the time.
Main exports:
  DateLiteral.Written, DateLiteral.SpelledBy, DateLiteral.ofChars?_eq_some_iff,
  DateLiteral.SpelledBy.unique, DateSupport.spanOf_of_spelledBy, DateSupport.exists_spelledBy
-/
import Criteria.Proofs.Calendar.SpanEnds
import Criteria.Proofs.Text.Cutting
import Criteria.Proofs.Text.Numeral
import Criteria.Resolution.Context

namespace Criteria.Calendar

open Criteria.Text

/-- A mark between the fields of a date. -/
def isDash (c : Char) : Bool :=
  c == '-' || c == '/'

/-- A mark between a date and a time. -/
def isTimeMark (c : Char) : Bool :=
  c == ' ' || c == 'T'

/-- A mark between the fields of a time. -/
def isColon (c : Char) : Bool :=
  c == ':'

namespace DateLiteral

/-! ### What spells a literal -/

/-- The fields of a date, and those of a time if there is one, are the numerals of a literal, from
the year on. -/
inductive Written : List (List Char) → Option (List (List Char)) → DateLiteral → Prop where
  | year {y : List Char} {year : Nat} (ofYear : Numeral y year) :
      Written [y] none (.year year)
  | month {y m : List Char} {year month : Nat} (ofYear : Numeral y year)
      (ofMonth : Numeral m month) : Written [y, m] none (.month year month)
  | day {y m d : List Char} {year month day : Nat} (ofYear : Numeral y year)
      (ofMonth : Numeral m month) (ofDay : Numeral d day) :
      Written [y, m, d] none (.day year month day)
  | minute {y m d h min : List Char} {year month day hour minute : Nat}
      (ofYear : Numeral y year) (ofMonth : Numeral m month) (ofDay : Numeral d day)
      (ofHour : Numeral h hour) (ofMinute : Numeral min minute) :
      Written [y, m, d] (some [h, min]) (.minute year month day hour minute)
  | second {y m d h min s : List Char} {year month day hour minute second : Nat}
      (ofYear : Numeral y year) (ofMonth : Numeral m month) (ofDay : Numeral d day)
      (ofHour : Numeral h hour) (ofMinute : Numeral min minute) (ofSecond : Numeral s second) :
      Written [y, m, d] (some [h, min, s]) (.second year month day hour minute second)

/-- The characters spell the literal, with no blanks around. After the mark before a time there may
be blanks. -/
inductive Spells : List Char → DateLiteral → Prop where
  | date {date : List Char} {dateFields : List (List Char)} {literal : DateLiteral}
      (joined : Joined isDash date dateFields) (written : Written dateFields none literal) :
      Spells date literal
  | timed {date gap time : List Char} {mark : Char} {dateFields timeFields : List (List Char)}
      {literal : DateLiteral} (joined : Joined isDash date dateFields)
      (marked : isTimeMark mark = true) (blank : AllBlank gap)
      (joinedTime : Joined isColon time timeFields)
      (written : Written dateFields (some timeFields) literal) :
      Spells (date ++ mark :: (gap ++ time)) literal

/-- The text spells the literal, blanks around it left aside. -/
def SpelledBy (literal : DateLiteral) (text : List Char) : Prop :=
  ∃ before core after, AllBlank before ∧ AllBlank after ∧ text = before ++ (core ++ after) ∧
    Spells core literal

/-! ### Fields -/

/-- The literal of the fields of a date and of a time, if all can be read. -/
def ofFields? (dateFields : List (List Char)) (timeFields : Option (List (List Char))) :
    Option DateLiteral :=
  match dateFields, timeFields with
  | [y], none => return .year (← readYear? y)
  | [y, m], none => return .month (← readYear? y) (← readField? m)
  | [y, m, d], none => return .day (← readYear? y) (← readField? m) (← readField? d)
  | [y, m, d], some [h, min] =>
      return .minute (← readYear? y) (← readField? m) (← readField? d)
        (← readField? h) (← readField? min)
  | [y, m, d], some [h, min, s] =>
      return .second (← readYear? y) (← readField? m) (← readField? d)
        (← readField? h) (← readField? min) (← readField? s)
  | _, _ => none

/-- The fields are small enough to be read. -/
def Fits : DateLiteral → Prop
  | .year y => y ≤ 2147483647
  | .month y m => y ≤ 2147483647 ∧ m ≤ 4294967295
  | .day y m d => y ≤ 2147483647 ∧ m ≤ 4294967295 ∧ d ≤ 4294967295
  | .minute y m d h min =>
      y ≤ 2147483647 ∧ m ≤ 4294967295 ∧ d ≤ 4294967295 ∧ h ≤ 4294967295 ∧ min ≤ 4294967295
  | .second y m d h min s =>
      y ≤ 2147483647 ∧ m ≤ 4294967295 ∧ d ≤ 4294967295 ∧ h ≤ 4294967295 ∧ min ≤ 4294967295 ∧
        s ≤ 4294967295

theorem readField?_eq_some_iff {text : List Char} {n : Nat} :
    readField? text = some n ↔ Numeral text n ∧ n ≤ 4294967295 :=
  unsignedUpTo?_eq_some_iff

theorem readYear?_eq_some_iff {text : List Char} (noHyphen : '-' ∉ text) {read : Int} :
    readYear? text = some read ↔
      ∃ n : Nat, Numeral text n ∧ (n : Int) = read ∧ (n : Int) ≤ 2147483647 :=
  signedWithin?_eq_some_iff (by decide) noHyphen

section

variable {dateFields : List (List Char)} {timeFields : Option (List (List Char))}
variable {literal : DateLiteral}

/-- What is read of fields is the literal whose numerals they are. -/
theorem written_of_ofFields? (noHyphen : ∀ field ∈ dateFields, '-' ∉ field)
    (read : ofFields? dateFields timeFields = some literal) :
    Written dateFields timeFields literal ∧ literal.Fits := by
  unfold ofFields? at read
  split at read
  all_goals simp only [Option.bind_eq_bind, Option.pure_def, Option.bind_eq_some_iff,
    readField?_eq_some_iff, reduceCtorEq, Option.some.injEq] at read
  all_goals obtain ⟨_, yearRead, read⟩ := read
  all_goals
    obtain ⟨year, ofYear, rfl, yearFits⟩ :=
      (readYear?_eq_some_iff (noHyphen _ (List.mem_cons_self ..))).mp yearRead
  · subst read
    exact ⟨.year ofYear, yearFits⟩
  · obtain ⟨month, ⟨ofMonth, monthFits⟩, rfl⟩ := read
    exact ⟨.month ofYear ofMonth, yearFits, monthFits⟩
  · obtain ⟨month, ⟨ofMonth, monthFits⟩, day, ⟨ofDay, dayFits⟩, rfl⟩ := read
    exact ⟨.day ofYear ofMonth ofDay, yearFits, monthFits, dayFits⟩
  · obtain ⟨month, ⟨ofMonth, monthFits⟩, day, ⟨ofDay, dayFits⟩, hour, ⟨ofHour, hourFits⟩,
      minute, ⟨ofMinute, minuteFits⟩, rfl⟩ := read
    exact ⟨.minute ofYear ofMonth ofDay ofHour ofMinute,
      yearFits, monthFits, dayFits, hourFits, minuteFits⟩
  · obtain ⟨month, ⟨ofMonth, monthFits⟩, day, ⟨ofDay, dayFits⟩, hour, ⟨ofHour, hourFits⟩,
      minute, ⟨ofMinute, minuteFits⟩, second, ⟨ofSecond, secondFits⟩, rfl⟩ := read
    exact ⟨.second ofYear ofMonth ofDay ofHour ofMinute ofSecond,
      yearFits, monthFits, dayFits, hourFits, minuteFits, secondFits⟩

/-- A literal that is small enough is read off its numerals. -/
theorem Written.ofFields?_eq (written : Written dateFields timeFields literal)
    (fits : literal.Fits) : ofFields? dateFields timeFields = some literal := by
  have readYear {y : List Char} {year : Nat} (ofYear : Numeral y year)
      (yearFits : (year : Int) ≤ 2147483647) : readYear? y = some (year : Int) :=
    (readYear?_eq_some_iff (ofYear.not_mem rfl)).mpr ⟨year, ofYear, rfl, yearFits⟩
  have readField {text : List Char} {n : Nat} (ofField : Numeral text n)
      (fieldFits : n ≤ 4294967295) : readField? text = some n :=
    readField?_eq_some_iff.mpr ⟨ofField, fieldFits⟩
  cases written with
  | year ofYear =>
      rw [ofFields?, readYear ofYear fits]
      rfl
  | month ofYear ofMonth =>
      obtain ⟨yearFits, monthFits⟩ := fits
      rw [ofFields?, readYear ofYear yearFits, readField ofMonth monthFits]
      rfl
  | day ofYear ofMonth ofDay =>
      obtain ⟨yearFits, monthFits, dayFits⟩ := fits
      rw [ofFields?, readYear ofYear yearFits, readField ofMonth monthFits,
        readField ofDay dayFits]
      rfl
  | minute ofYear ofMonth ofDay ofHour ofMinute =>
      obtain ⟨yearFits, monthFits, dayFits, hourFits, minuteFits⟩ := fits
      rw [ofFields?, readYear ofYear yearFits, readField ofMonth monthFits,
        readField ofDay dayFits, readField ofHour hourFits, readField ofMinute minuteFits]
      rfl
  | second ofYear ofMonth ofDay ofHour ofMinute ofSecond =>
      obtain ⟨yearFits, monthFits, dayFits, hourFits, minuteFits, secondFits⟩ := fits
      rw [ofFields?, readYear ofYear yearFits, readField ofMonth monthFits,
        readField ofDay dayFits, readField ofHour hourFits, readField ofMinute minuteFits,
        readField ofSecond secondFits]
      rfl

theorem ofFields?_eq_some_iff (noHyphen : ∀ field ∈ dateFields, '-' ∉ field) :
    ofFields? dateFields timeFields = some literal ↔
      Written dateFields timeFields literal ∧ literal.Fits := by
  constructor
  · exact written_of_ofFields? noHyphen
  · intro given
    exact given.1.ofFields?_eq given.2

/-- The numerals of one literal are not those of another. -/
theorem Written.unique {other : DateLiteral} (written : Written dateFields timeFields literal)
    (otherWritten : Written dateFields timeFields other) : literal = other := by
  cases written with
  | year ofYear =>
      cases otherWritten with
      | year ofOther => rw [ofYear.unique ofOther]
  | month ofYear ofMonth =>
      cases otherWritten with
      | month otherYear otherMonth => rw [ofYear.unique otherYear, ofMonth.unique otherMonth]
  | day ofYear ofMonth ofDay =>
      cases otherWritten with
      | day otherYear otherMonth otherDay =>
          rw [ofYear.unique otherYear, ofMonth.unique otherMonth, ofDay.unique otherDay]
  | minute ofYear ofMonth ofDay ofHour ofMinute =>
      cases otherWritten with
      | minute otherYear otherMonth otherDay otherHour otherMinute =>
          rw [ofYear.unique otherYear, ofMonth.unique otherMonth, ofDay.unique otherDay,
            ofHour.unique otherHour, ofMinute.unique otherMinute]
  | second ofYear ofMonth ofDay ofHour ofMinute ofSecond =>
      cases otherWritten with
      | second otherYear otherMonth otherDay otherHour otherMinute otherSecond =>
          rw [ofYear.unique otherYear, ofMonth.unique otherMonth, ofDay.unique otherDay,
            ofHour.unique otherHour, ofMinute.unique otherMinute, ofSecond.unique otherSecond]

theorem Written.numerals (written : Written dateFields timeFields literal) :
    (∀ field ∈ dateFields, ∃ n, Numeral field n) ∧
      ∀ fields ∈ timeFields, ∀ field ∈ fields, ∃ n, Numeral field n := by
  cases written <;> grind

end

/-! ### Cutting a text into fields -/

theorem cutAtTime_eq (text : List Char) :
    cutAtTime text =
      match text.dropWhile fun c => !isTimeMark c with
      | [] => (text, none)
      | _ :: time => (text.takeWhile fun c => !isTimeMark c, some (trimmed time)) := rfl

theorem cutAtTime_of_forall_not {text : List Char} (unmarked : ∀ c ∈ text, isTimeMark c = false) :
    cutAtTime text = (text, none) := by
  have kept : ∀ c ∈ text, (!isTimeMark c) = true := fun c member => by rw [unmarked c member]; rfl
  have nothing : text.dropWhile (fun c => !isTimeMark c) = [] := by
    rw [← List.append_nil text, List.dropWhile_append_of_pos kept, List.dropWhile_nil]
  rw [cutAtTime_eq, nothing]

theorem cutAtTime_append_cons {date : List Char} {mark : Char} (rest : List Char)
    (unmarked : ∀ c ∈ date, isTimeMark c = false) (marked : isTimeMark mark = true) :
    cutAtTime (date ++ mark :: rest) = (date, some (trimmed rest)) := by
  have kept : ∀ c ∈ date, (!isTimeMark c) = true := fun c member => by rw [unmarked c member]; rfl
  rw [cutAtTime_eq, List.dropWhile_append_of_pos kept, List.takeWhile_append_of_pos kept]
  simp [marked]

/-- A text has no mark before a time, or a first one. -/
theorem unmarked_or_exists_mark (text : List Char) :
    (∀ c ∈ text, isTimeMark c = false) ∨
      ∃ date mark rest, text = date ++ mark :: rest ∧ (∀ c ∈ date, isTimeMark c = false) ∧
        isTimeMark mark = true := by
  induction text with
  | nil => exact .inl nofun
  | cons c text ih =>
      cases known : isTimeMark c with
      | true => exact .inr ⟨[], c, text, rfl, nofun, known⟩
      | false =>
          rcases ih with unmarked | ⟨date, mark, rest, rfl, unmarked, marked⟩
          · exact .inl (List.forall_mem_cons.mpr ⟨known, unmarked⟩)
          · exact .inr ⟨c :: date, mark, rest, rfl,
              List.forall_mem_cons.mpr ⟨known, unmarked⟩, marked⟩

/-- The fields of the date in a text. -/
def dateFieldsOf (text : List Char) : List (List Char) :=
  pieces isDash (cutAtTime (trimmed text)).1

/-- The fields of the time in a text, if there is one. -/
def timeFieldsOf (text : List Char) : Option (List (List Char)) :=
  (cutAtTime (trimmed text)).2.map (pieces isColon)

/-- A slash is as good as a hyphen. -/
def hyphened (c : Char) : Char :=
  if c = '/' then '-' else c

theorem hyphened_of_ne {c : Char} (other : c ≠ '/') : hyphened c = c :=
  if_neg other

/-- Slashes are hyphens to those who tell neither. -/
theorem hyphened_kept (kind : Char → Bool) (same : kind '-' = kind '/') (c : Char) :
    kind (hyphened c) = kind c := by
  by_cases slash : c = '/'
  · rw [slash]
    exact same
  · rw [hyphened_of_ne slash]

theorem isDash_eq (c : Char) : (hyphened c == '-') = isDash c := by
  by_cases slash : c = '/'
  · rw [slash]
    rfl
  · have notSlash : (c == '/') = false := beq_eq_false_iff_ne.mpr slash
    rw [hyphened_of_ne slash, isDash, notSlash, Bool.or_false]

theorem cutAtTime_map_hyphened (text : List Char) :
    cutAtTime (text.map hyphened) =
      ((cutAtTime text).1.map hyphened, (cutAtTime text).2.map (List.map hyphened)) := by
  have unmarkedMap {part : List Char} (unmarked : ∀ c ∈ part, isTimeMark c = false) :
      ∀ c ∈ part.map hyphened, isTimeMark c = false := by
    intro c member
    obtain ⟨plain, inPart, rfl⟩ := List.mem_map.mp member
    rw [hyphened_kept isTimeMark rfl]
    exact unmarked plain inPart
  rcases unmarked_or_exists_mark text with unmarked | ⟨date, mark, rest, rfl, unmarked, marked⟩
  · rw [cutAtTime_of_forall_not unmarked, cutAtTime_of_forall_not (unmarkedMap unmarked)]
    rfl
  · have markedMap : isTimeMark (hyphened mark) = true :=
      (hyphened_kept isTimeMark rfl mark).trans marked
    rw [cutAtTime_append_cons rest unmarked marked, List.map_append, List.map_cons,
      cutAtTime_append_cons _ (unmarkedMap unmarked) markedMap,
      trimmed_map (hyphened_kept isBlank rfl)]
    rfl

theorem readField?_map_hyphened (field : List Char) :
    readField? (field.map hyphened) = readField? field := by
  apply Option.ext
  intro n
  have numeric (c : Char) (known : isNumeric c = true) : hyphened c = c := by
    apply hyphened_of_ne
    rintro rfl
    cases known
  rw [readField?_eq_some_iff, readField?_eq_some_iff,
    numeral_map_iff numeric (hyphened_kept isNumeric rfl)]

/-- A piece of a date holds no slash to replace. -/
theorem pieces_map_hyphened (date : List Char) :
    pieces (· == '-') (date.map hyphened) = pieces isDash date := by
  have unslashed : ∀ piece ∈ pieces isDash date, piece.map hyphened = piece := by
    intro piece member
    have plain := not_separates_of_mem_pieces member
    have fixed : ∀ c ∈ piece, hyphened c = c := by
      intro c inPiece
      apply hyphened_of_ne
      intro slash
      rw [slash] at inPiece
      cases plain '/' inPiece
    exact (List.map_congr_left fixed).trans (List.map_id piece)
  rw [pieces_map isDash_eq]
  exact (List.map_congr_left unslashed).trans (List.map_id _)

/-- Slashes among the fields of a time are no digits, whether or not they are replaced. -/
theorem ofFields?_map_hyphened (y m d : List Char) (timeFields : List (List Char)) :
    ofFields? [y, m, d] (some (timeFields.map (List.map hyphened))) =
      ofFields? [y, m, d] (some timeFields) := by
  rcases timeFields with _ | ⟨h, _ | ⟨min, _ | ⟨s, _ | ⟨extra, more⟩⟩⟩⟩
  · rfl
  · rfl
  · simp only [List.map_cons, List.map_nil, ofFields?, readField?_map_hyphened]
  · simp only [List.map_cons, List.map_nil, ofFields?, readField?_map_hyphened]
  · rfl

/-- A literal is read off the fields of its text. -/
theorem ofChars?_eq (text : List Char) :
    ofChars? text = ofFields? (dateFieldsOf text) (timeFieldsOf text) := by
  have cut : cutAtTime ((trimmed text).map fun c => if c = '/' then '-' else c) = _ :=
    cutAtTime_map_hyphened (trimmed text)
  unfold ofChars? timeFieldsOf
  dsimp only
  rw [cut]
  dsimp only
  rw [pieces_map_hyphened, dateFieldsOf]
  rcases pieces isDash (cutAtTime (trimmed text)).1 with
    _ | ⟨y, _ | ⟨m, _ | ⟨d, _ | ⟨extra, more⟩⟩⟩⟩
  · cases (cutAtTime (trimmed text)).2 <;> rfl
  · cases (cutAtTime (trimmed text)).2 <;> rfl
  · cases (cutAtTime (trimmed text)).2 <;> rfl
  · cases (cutAtTime (trimmed text)).2 with
    | none => rfl
    | some time =>
        have timeFields : pieces (· == ':') (time.map hyphened) =
            (pieces isColon time).map (List.map hyphened) :=
          pieces_map (hyphened_kept isColon rfl) time
        simp only [Option.map_some, timeFields]
        rw [← ofFields?_map_hyphened]
        rcases (pieces isColon time).map (List.map hyphened) with
          _ | ⟨h, _ | ⟨min, _ | ⟨s, _ | ⟨extra, more⟩⟩⟩⟩ <;> rfl
  · cases (cutAtTime (trimmed text)).2 <;> rfl

/-! ### Texts and their literals -/

section

variable {text : List Char} {literal : DateLiteral}

theorem isTimeMark_of_isNumeric {c : Char} (numeric : isNumeric c = true) :
    isTimeMark c = false := by
  apply Bool.eq_false_iff.mpr
  intro marked
  simp only [isTimeMark, Bool.or_eq_true, beq_iff_eq] at marked
  rcases marked with rfl | rfl
  · cases numeric
  · cases numeric

theorem isTimeMark_of_isDash {c : Char} (dash : isDash c = true) : isTimeMark c = false := by
  simp only [isDash, Bool.or_eq_true, beq_iff_eq] at dash
  rcases dash with rfl | rfl
  · rfl
  · rfl

theorem endsIn_of_numerals {separates : Char → Bool} {fields : List (List Char)}
    (joined : Joined separates text fields) (numerals : ∀ field ∈ fields, ∃ n, Numeral field n) :
    EndsIn isNumeric text := by
  apply joined.endsIn
  intro field member
  obtain ⟨n, numeral⟩ := numerals field member
  exact ⟨numeral.ne_nil, numeral.numeric⟩

/-- There is no mark before a time inside a date. -/
theorem unmarked_of_numerals {fields : List (List Char)} (joined : Joined isDash text fields)
    (numerals : ∀ field ∈ fields, ∃ n, Numeral field n) : ∀ c ∈ text, isTimeMark c = false := by
  refine joined.forall_mem (fun c dash => isTimeMark_of_isDash dash) ?_
  intro field member c inField
  obtain ⟨n, numeral⟩ := numerals field member
  exact isTimeMark_of_isNumeric (numeral.numeric c inField)

theorem Spells.endsIn (spells : Spells text literal) : EndsIn isNumeric text := by
  cases spells with
  | date joined written => exact endsIn_of_numerals joined written.numerals.1
  | @timed date gap time mark _ _ _ joined marked blank joinedTime written =>
      obtain ⟨numerals, timeNumerals⟩ := written.numerals
      have timeEnds := endsIn_of_numerals joinedTime (timeNumerals _ rfl)
      exact (endsIn_of_numerals joined numerals).append timeEnds (mark :: gap)

/-- Cutting finds the fields that a text was put together of. -/
theorem SpelledBy.written (spelled : literal.SpelledBy text) :
    Written (dateFieldsOf text) (timeFieldsOf text) literal := by
  obtain ⟨before, core, after, blankBefore, blankAfter, rfl, spells⟩ := spelled
  have visible : ∀ c, isNumeric c = true → isBlank c = false := fun c => isBlank_of_isNumeric
  unfold dateFieldsOf timeFieldsOf
  rw [trimmed_append_append blankBefore blankAfter visible spells.endsIn]
  cases spells with
  | date joined written =>
      obtain ⟨numerals, _⟩ := written.numerals
      rw [cutAtTime_of_forall_not (unmarked_of_numerals joined numerals), joined.pieces_eq]
      exact written
  | @timed date gap time mark _ _ _ joined marked blank joinedTime written =>
      obtain ⟨numerals, timeNumerals⟩ := written.numerals
      have timeEnds := endsIn_of_numerals joinedTime (timeNumerals _ rfl)
      have inner : trimmed (gap ++ time) = time := by
        have := trimmed_append_append blank (List.forall_mem_nil _) visible timeEnds
        rwa [List.append_nil] at this
      rw [cutAtTime_append_cons _ (unmarked_of_numerals joined numerals) marked, inner,
        Option.map_some, joined.pieces_eq, joinedTime.pieces_eq]
      exact written

/-- A text that begins with a minus sign, or with any other mark, spells nothing. -/
theorem not_spelledBy_cons {mark : Char} (visible : isBlank mark = false)
    (other : isNumeric mark = false) (rest : List Char) : ¬ literal.SpelledBy (mark :: rest) := by
  rintro ⟨before, core, after, blankBefore, _, whole, spells⟩
  have ends := spells.endsIn
  cases before with
  | nil =>
      obtain ⟨c, more, rfl⟩ := List.exists_cons_of_ne_nil ends.some
      obtain ⟨rfl, _⟩ := List.cons.inj whole
      have numeric := ends.first mark rfl
      rw [other] at numeric
      cases numeric
  | cons c before =>
      obtain ⟨rfl, _⟩ := List.cons.inj whole
      have blank := blankBefore mark (List.mem_cons_self ..)
      rw [visible] at blank
      cases blank

/-- A text is put together of the fields that cutting finds. -/
theorem Written.spelledBy (written : Written (dateFieldsOf text) (timeFieldsOf text) literal) :
    literal.SpelledBy text := by
  unfold dateFieldsOf timeFieldsOf at written
  obtain ⟨before, after, blankBefore, blankAfter, whole⟩ := exists_trimmed text
  rcases unmarked_or_exists_mark (trimmed text) with
    unmarked | ⟨date, mark, rest, split, unmarked, marked⟩
  · rw [cutAtTime_of_forall_not unmarked] at written
    exact ⟨before, trimmed text, after, blankBefore, blankAfter, whole,
      .date (joined_pieces isDash _) written⟩
  · rw [split, cutAtTime_append_cons rest unmarked marked] at written
    obtain ⟨gap, trail, blankGap, blankTrail, inner⟩ := exists_trimmed rest
    refine ⟨before, date ++ mark :: (gap ++ trimmed rest), trail ++ after, blankBefore,
      blankTrail.append blankAfter, ?_,
      .timed (joined_pieces isDash date) marked blankGap (joined_pieces isColon _) written⟩
    calc text = before ++ (date ++ mark :: rest ++ after) := by rw [← split, ← whole]
      _ = before ++ (date ++ mark :: (gap ++ (trimmed rest ++ trail)) ++ after) := by rw [← inner]
      _ = before ++ (date ++ mark :: (gap ++ trimmed rest) ++ (trail ++ after)) := by simp

/-- A text is read as the literal that it spells, if the fields are small enough to be read. -/
theorem ofChars?_eq_some_iff :
    ofChars? text = some literal ↔ literal.SpelledBy text ∧ literal.Fits := by
  have noHyphen : ∀ field ∈ dateFieldsOf text, '-' ∉ field := by
    intro field member hyphen
    cases not_separates_of_mem_pieces member '-' hyphen
  rw [ofChars?_eq, ofFields?_eq_some_iff noHyphen]
  exact and_congr_left fun _ => ⟨Written.spelledBy, SpelledBy.written⟩

/-- A text spells one literal at most. -/
theorem SpelledBy.unique {other : DateLiteral} (spelled : literal.SpelledBy text)
    (otherSpelled : other.SpelledBy text) : literal = other :=
  spelled.written.unique otherSpelled.written

/-- A literal that names a date is small enough to be read. -/
theorem fits_of_span? {span : Span} (found : literal.span? = some span) : literal.Fits := by
  have dateFits {year : Int} {month day : Nat} (valid : IsDate year month day) :
      year ≤ 2147483647 ∧ month ≤ 4294967295 ∧ day ≤ 4294967295 := by
    obtain ⟨_, last, _, december, _, dayLast⟩ := valid
    have length := monthLength_le year month
    unfold lastYear at last
    omega
  have clockFits {hour minute second nano : Nat} (valid : IsClock hour minute second nano) :
      hour ≤ 4294967295 ∧ minute ≤ 4294967295 ∧ second ≤ 4294967295 := by
    obtain ⟨hourBound, minuteBound, secondBound, _⟩ := valid
    omega
  cases literal with
  | year year =>
      obtain ⟨first, isFirst, _⟩ := Option.bind_eq_some_iff.mp found
      exact (dateFits (Date.isDate_of_ofParts? isFirst)).1
  | month year month =>
      obtain ⟨first, isFirst, _⟩ := Option.bind_eq_some_iff.mp found
      obtain ⟨yearFits, monthFits, _⟩ := dateFits (Date.isDate_of_ofParts? isFirst)
      exact ⟨yearFits, monthFits⟩
  | day year month day =>
      obtain ⟨date, isDate, _⟩ := Option.bind_eq_some_iff.mp found
      exact dateFits (Date.isDate_of_ofParts? isDate)
  | minute year month day hour minute =>
      obtain ⟨date, isDate, rest⟩ := Option.bind_eq_some_iff.mp found
      obtain ⟨lower, isLower, _⟩ := Option.bind_eq_some_iff.mp rest
      obtain ⟨yearFits, monthFits, dayFits⟩ := dateFits (Date.isDate_of_ofParts? isDate)
      obtain ⟨hourFits, minuteFits, _⟩ := clockFits (Instant.isClock_of_ofParts? isLower)
      exact ⟨yearFits, monthFits, dayFits, hourFits, minuteFits⟩
  | second year month day hour minute second =>
      obtain ⟨date, isDate, rest⟩ := Option.bind_eq_some_iff.mp found
      obtain ⟨moment, isMoment, _⟩ := Option.bind_eq_some_iff.mp rest
      obtain ⟨yearFits, monthFits, dayFits⟩ := dateFits (Date.isDate_of_ofParts? isDate)
      obtain ⟨hourFits, minuteFits, secondFits⟩ :=
        clockFits (Instant.isClock_of_ofParts? isMoment)
      exact ⟨yearFits, monthFits, dayFits, hourFits, minuteFits, secondFits⟩

end

end DateLiteral

end Criteria.Calendar

namespace Criteria

open Criteria.Calendar

/-- A text means the span of the literal that it spells. -/
theorem DateSupport.spanOf_of_spelledBy {content : String} {literal : DateLiteral}
    (spelled : literal.SpelledBy content.toList) :
    DateSupport.standard.spanOf (.text content) = literal.span? := by
  change (DateLiteral.ofText? content).bind DateLiteral.span? = literal.span?
  rw [DateLiteral.ofText?]
  cases read : DateLiteral.ofChars? content.toList with
  | some other =>
      obtain ⟨otherSpelled, _⟩ := DateLiteral.ofChars?_eq_some_iff.mp read
      rw [otherSpelled.unique spelled, Option.bind_some]
  | none =>
      rw [Option.bind_none]
      cases found : literal.span? with
      | none => rfl
      | some span =>
          have fits := DateLiteral.fits_of_span? found
          rw [DateLiteral.ofChars?_eq_some_iff.mpr ⟨spelled, fits⟩] at read
          cases read

/-- A text that means a span spells a literal. -/
theorem DateSupport.exists_spelledBy {content : String} {span : Span}
    (found : DateSupport.standard.spanOf (.text content) = some span) :
    ∃ literal : DateLiteral, literal.SpelledBy content.toList ∧ literal.span? = some span := by
  obtain ⟨literal, read, isSpan⟩ := Option.bind_eq_some_iff.mp found
  exact ⟨literal, (DateLiteral.ofChars?_eq_some_iff.mp read).1, isSpan⟩

end Criteria
