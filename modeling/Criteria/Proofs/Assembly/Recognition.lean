/-
Module: Criteria.Proofs.Assembly.Recognition
Purpose: An assembler without a default connective accepts exactly the beginnings of
  sentences, and what it builds from a sentence is the tree of its derivation.
Main exports:
  Feed, feed, assembler_reads_sentences
-/
import Criteria.Proofs.Assembly.Steps

namespace Criteria.Assembly

/-- An assembler that is fed steps, and the steps that it accepted. -/
structure Feed where
  assembler : Assembler
  accepted : List Event

/-- Offer a further step. A step that is refused is not offered again. -/
def Feed.next (feed : Feed) (event : Event) : Feed :=
  match feed.assembler.accept event with
  | .accepted after => { assembler := after, accepted := feed.accepted ++ [event] }
  | .refused after _ => { feed with assembler := after }

/-- Offer steps to an assembler before its first call, which has no default connective. -/
def feed (events : List Event) : Feed :=
  events.foldl Feed.next { assembler := .empty, accepted := [] }

/-- The accepted steps spell a beginning of a sentence, and the assembler is in the state that
belongs to it. -/
structure Feed.Reads (feed : Feed) (outline : Outline) : Prop where
  follows : feed.assembler.Follows outline
  noDefault : feed.assembler.defaultConnective = none
  spelled : outline.tokens = feed.accepted
  cursor : Cursor.run? ⟨true, 0⟩ feed.accepted = some outline.cursor

/-- A step that can follow is added to the beginning. -/
theorem Feed.Reads.next {feed : Feed} {outline after : Outline} {event : Event}
    (reads : feed.Reads outline) (step : outline.next? event = some after) :
    (feed.next event).Reads after := by
  obtain ⟨next, accepted, follows, sameDefault⟩ := accept_of_next? reads.follows step
  have fed : feed.next event = { assembler := next, accepted := feed.accepted ++ [event] } := by
    rw [Feed.next, accepted]
  rw [fed]
  refine ⟨follows, sameDefault.trans reads.noDefault, ?_, ?_⟩
  · rw [Outline.tokens_of_next? step, reads.spelled]
  · rw [Cursor.run?_append, reads.cursor, Option.bind_some, Cursor.run?_cons,
      outline.cursor_next?, step]
    rfl

/-- A step that cannot follow changes nothing. -/
theorem Feed.Reads.next_eq {feed : Feed} {outline : Outline} {event : Event}
    (reads : feed.Reads outline) (step : outline.next? event = none) :
    feed.next event = feed := by
  obtain ⟨refusal, refused⟩ := accept_of_next?_eq_none reads.follows reads.noDefault step
  rw [Feed.next, refused]

/-- Whatever further steps are offered, the accepted ones spell a beginning of a sentence. -/
theorem Feed.Reads.foldl {start : Feed} {outline : Outline} (reads : start.Reads outline)
    (events : List Event) : ∃ after, (events.foldl Feed.next start).Reads after := by
  induction events generalizing start outline with
  | nil => exact ⟨outline, reads⟩
  | cons event events ih =>
      cases step : outline.next? event with
      | none =>
          rw [List.foldl_cons, reads.next_eq step]
          exact ih reads
      | some after => exact ih (reads.next step)

/-- From the first call on, the accepted steps spell a beginning of a sentence. -/
theorem exists_reads (events : List Event) : ∃ outline, (feed events).Reads outline := by
  have start : Feed.Reads { assembler := .empty, accepted := [] } .empty :=
    ⟨empty_follows, rfl, rfl, rfl⟩
  exact start.foldl events

namespace Feed.Reads

variable {feed : Feed} {outline : Outline}

/-- A step is accepted exactly if some sentence goes on with it. -/
theorem accepts_iff (reads : feed.Reads outline) (event : Event) :
    (∃ after, feed.assembler.accept event = .accepted after) ↔
      ∃ sentence, IsSentence sentence ∧ feed.accepted ++ [event] <+: sentence := by
  constructor
  · rintro ⟨after, accepted⟩
    cases step : outline.next? event with
    | none =>
        obtain ⟨refusal, refused⟩ :=
          accept_of_next?_eq_none reads.follows reads.noDefault step
        rw [refused] at accepted
        cases accepted
    | some further =>
        obtain ⟨rest, sentence⟩ := further.exists_sentence
        rw [Outline.tokens_of_next? step, reads.spelled] at sentence
        exact ⟨_, sentence, List.prefix_append _ rest⟩
  · rintro ⟨_, ⟨sentence, rfl⟩, rest, begins⟩
    -- The cursor runs through the whole sentence, so it gets past the step in question.
    have whole := run?_disjunction 0 sentence
    rw [← begins, Cursor.run?_append, Cursor.run?_append, reads.cursor, Option.bind_some,
      Cursor.run?_cons, outline.cursor_next?] at whole
    cases step : outline.next? event with
    | none => simp [step] at whole
    | some further =>
        obtain ⟨after, accepted, _⟩ := accept_of_next? reads.follows step
        exact ⟨after, accepted⟩

/-- Where the accepted steps are a sentence, the beginning ends in an operand outside all
groups. -/
theorem complete_of_isSentence (reads : feed.Reads outline)
    (sentence : IsSentence feed.accepted) :
    ∃ current last, outline = { outer := [], current, operand := some last } := by
  obtain ⟨derivation, spelled⟩ := sentence
  have same := reads.cursor
  rw [← spelled, run?_disjunction 0 derivation] at same
  obtain ⟨outer, current, operand⟩ := outline
  simp only [Outline.cursor, Option.some.injEq, Cursor.mk.injEq] at same
  obtain ⟨ends, outside⟩ := same
  cases operand with
  | none => simp at ends
  | some last =>
      cases outer with
      | nil => exact ⟨current, last, rfl⟩
      | cons level outer => simp at outside

/-- The condition is the tree of the derivation that the parser finds. -/
theorem build?_iff (reads : feed.Reads outline) (clause : Clause) :
    feed.assembler.build? = .ok (some clause) ↔
      (parse? feed.accepted).map Disjunction.tree = some clause := by
  rw [Option.map_eq_some_iff]
  constructor
  · intro built
    have complete : ∃ current last,
        outline = { outer := [], current, operand := some last } := by
      obtain ⟨outer, current, operand⟩ := outline
      cases outer with
      | cons level outer =>
          exact absurd built (build?_ne_some reads.follows (.inr (by simp)) clause)
      | nil =>
          cases operand with
          | none => exact absurd built (build?_ne_some reads.follows (.inl rfl) clause)
          | some last => exact ⟨current, last, rfl⟩
    obtain ⟨current, last, rfl⟩ := complete
    refine ⟨current.disjunction last, ?_, ?_⟩
    · rw [parse?_eq_some_iff, ← reads.spelled, Outline.tokens_of_complete]
    · rw [build?_of_complete reads.follows] at built
      simpa using built
  · rintro ⟨derivation, parsed, rfl⟩
    have spelled := parse?_eq_some_iff.mp parsed
    obtain ⟨current, last, rfl⟩ := reads.complete_of_isSentence ⟨derivation, spelled⟩
    have found : parse? feed.accepted = some (current.disjunction last) := by
      rw [parse?_eq_some_iff, ← reads.spelled, Outline.tokens_of_complete]
    rw [build?_of_complete reads.follows, Option.some.inj (parsed.symm.trans found)]

end Feed.Reads

/-- Whatever steps are offered to an assembler without a default connective: a step is accepted
exactly if the accepted steps and this one begin some sentence of the grammar; there is a
condition exactly if the accepted steps are a whole sentence; and the condition is the tree that
the parser by recursive descent gives. -/
theorem assembler_reads_sentences (events : List Event) :
    (∀ event, (∃ after, (feed events).assembler.accept event = .accepted after) ↔
      ∃ sentence, IsSentence sentence ∧ (feed events).accepted ++ [event] <+: sentence) ∧
    ((∃ clause, (feed events).assembler.build? = .ok (some clause)) ↔
      IsSentence (feed events).accepted) ∧
    ∀ clause, (feed events).assembler.build? = .ok (some clause) ↔
      (parse? (feed events).accepted).map Disjunction.tree = some clause := by
  obtain ⟨outline, reads⟩ := exists_reads events
  refine ⟨reads.accepts_iff, ?_, reads.build?_iff⟩
  simp only [reads.build?_iff, Option.map_eq_some_iff, parse?_eq_some_iff, IsSentence]
  constructor
  · rintro ⟨_, derivation, spelled, _⟩
    exact ⟨derivation, spelled⟩
  · rintro ⟨derivation, spelled⟩
    exact ⟨_, derivation, spelled, rfl⟩

end Criteria.Assembly
