/-
Module: Criteria.Proofs.Assembly.Steps
Purpose: What a step does from any state that an assembler can be in. A default connective acts as
  if it had been given, and a step that cannot follow is refused for its place.
Main exports:
  SequenceFault.BreaksDown, Outline.step?, accept_eq_of_default, accept_of_step?,
  accept_eq_refuse_of_step?, accept_of_next?_eq_none, refusal_of_build?
-/
import Criteria.Proofs.Assembly.Simulation

namespace Criteria.Assembly

/-- The fault is no matter of the order of the calls: the stacks could not be reduced, or the
assembler was unusable before. -/
def SequenceFault.BreaksDown : SequenceFault → Prop
  | .reduction _ | .notOneClause | .illegal => True
  | _ => False

/-- Go on by a step. Where an operand follows another directly, the default connective, if there
is one, is put between. -/
def Outline.step? (outline : Outline) (default : Option Connective) (event : Event) :
    Option Outline :=
  (outline.next? event).or
    (default.bind fun connective =>
      (outline.next? (.connective connective)).bind fun joined => joined.next? event)

theorem Outline.step?_none (outline : Outline) (event : Event) :
    outline.step? none event = outline.next? event := by
  simp [step?]

/-- The step is the first of an operand. -/
def Event.BeginsOperand : Event → Prop
  | .clause _ | .not | .openGroup => True
  | .connective _ | .closeGroup => False

/-- Where an operand is awaited, nothing else can follow. -/
theorem Outline.beginsOperand_of_next? {outline after : Outline} {event : Event}
    (awaits : outline.operand = none) (step : outline.next? event = some after) :
    event.BeginsOperand := by
  obtain ⟨outer, current, operand⟩ := outline
  cases awaits
  cases event with
  | clause clause => trivial
  | not => trivial
  | openGroup => trivial
  | connective connective => cases step
  | closeGroup => cases step

/-- A connective follows operands only. -/
theorem Outline.operand_of_next?_connective {outline joined : Outline} {connective : Connective}
    (step : outline.next? (.connective connective) = some joined) :
    outline.operand.isSome ∧ joined.operand = none := by
  obtain ⟨outer, current, operand⟩ := outline
  cases operand with
  | none => cases step
  | some last =>
      cases step
      exact ⟨rfl, rfl⟩

section

variable {assembler : Assembler} {outline : Outline}

/-- Directly after an operand, what leads to the next one is taken as if the default connective
had been given before it. -/
theorem accept_eq_of_default {connective : Connective}
    (afterOperand : assembler.phase = .afterOperand)
    (isDefault : assembler.defaultConnective = some connective) {event : Event}
    (begins : event.BeginsOperand) :
    assembler.accept event =
      (assembler.accept (.connective connective)).andThen fun joined => joined.accept event := by
  have ready (fault : SequenceFault) :
      assembler.readyForOperand fault = assembler.joinWith connective := by
    simp only [Assembler.readyForOperand, afterOperand, isDefault]
  have given : assembler.accept (.connective connective) =
      (assembler.joinWith connective).andThen fun after =>
        .accepted { after with phase := .afterConnective connective } := by
    simp only [Assembler.accept, Assembler.addConnective, afterOperand]
  rw [given]
  cases event with
  | clause clause =>
      rw [Assembler.accept, Assembler.addClause, ready]
      cases assembler.joinWith connective <;> rfl
  | not =>
      rw [Assembler.accept, Assembler.addNot, ready]
      cases assembler.joinWith connective <;> rfl
  | openGroup =>
      rw [Assembler.accept, Assembler.openGroup, ready]
      cases assembler.joinWith connective <;> rfl
  | connective other => cases begins
  | closeGroup => cases begins

/-- A step that can follow, directly or after the default connective, is accepted. -/
theorem accept_of_step? {after : Outline} {event : Event} (follows : assembler.Follows outline)
    (step : outline.step? assembler.defaultConnective event = some after) :
    ∃ next, assembler.accept event = .accepted next ∧ next.Follows after ∧
      next.defaultConnective = assembler.defaultConnective := by
  cases direct : outline.next? event with
  | some further =>
      rw [Outline.step?, direct, Option.some_or, Option.some.injEq] at step
      rw [← step]
      exact accept_of_next? follows direct
  | none =>
      rw [Outline.step?, direct, Option.none_or] at step
      obtain ⟨connective, isDefault, through⟩ := Option.bind_eq_some_iff.mp step
      obtain ⟨joined, toJoined, fromJoined⟩ := Option.bind_eq_some_iff.mp through
      obtain ⟨ends, awaits⟩ := Outline.operand_of_next?_connective toJoined
      have afterOperand : assembler.phase = .afterOperand := by
        rw [follows.phase, outline.phase_eq_afterOperand_iff]
        exact ends
      have begins := Outline.beginsOperand_of_next? awaits fromJoined
      obtain ⟨middle, joins, middleFollows, middleDefault⟩ := accept_of_next? follows toJoined
      obtain ⟨next, accepted, nextFollows, nextDefault⟩ :=
        accept_of_next? middleFollows fromJoined
      refine ⟨next, ?_, nextFollows, nextDefault.trans middleDefault⟩
      rw [accept_eq_of_default afterOperand isDefault begins, joins]
      exact accepted

/-- A step that cannot follow is refused for its place, and the assembler stays as it was. -/
theorem accept_eq_refuse_of_step? {event : Event} (follows : assembler.Follows outline)
    (step : outline.step? assembler.defaultConnective event = none) :
    ∃ fault, assembler.accept event = assembler.refuse fault ∧ ¬ fault.BreaksDown := by
  have legal : assembler.phase ≠ .illegal := follows.phase ▸ outline.phase_ne_illegal
  obtain ⟨direct, throughDefault⟩ := Option.or_eq_none_iff.mp step
  obtain ⟨outer, current, _ | last⟩ := outline
  · have notOperand : assembler.phase ≠ .afterOperand := by
      rw [follows.phase, Ne, Outline.phase_eq_afterOperand_iff]
      simp
    cases event with
    | clause clause => cases direct
    | not => cases direct
    | openGroup => cases direct
    | connective connective =>
        simp only [Assembler.accept, Assembler.addConnective]
        split
        · contradiction
        · exact ⟨_, rfl, id⟩
        · contradiction
        · exact ⟨_, rfl, id⟩
    | closeGroup =>
        simp only [Assembler.accept, Assembler.closeGroup]
        split
        · contradiction
        · exact ⟨_, rfl, id⟩
        · contradiction
        · exact ⟨_, rfl, id⟩
  · have afterOperand : assembler.phase = .afterOperand := follows.phase
    cases event with
    | connective connective => cases direct
    | closeGroup =>
        cases outer with
        | cons level outer => cases direct
        | nil =>
            have outside : assembler.level = 0 := follows.level
            simp only [Assembler.accept, Assembler.closeGroup, afterOperand, outside, if_true]
            exact ⟨_, rfl, id⟩
    -- with a default connective, what leads to an operand could follow
    | clause _ | not | openGroup =>
        have noDefault : assembler.defaultConnective = none := by
          cases isDefault : assembler.defaultConnective with
          | none => rfl
          | some connective =>
              rw [isDefault] at throughDefault
              cases throughDefault
        have refused (fault : SequenceFault) :
            assembler.readyForOperand fault = assembler.refuse fault := by
          simp only [Assembler.readyForOperand, afterOperand, noDefault]
        simp only [Assembler.accept, Assembler.addClause, Assembler.addNot,
          Assembler.openGroup, refused]
        exact ⟨_, rfl, id⟩

/-- Without a default connective, a step that cannot follow is refused, and the assembler
stays as it was. -/
theorem accept_of_next?_eq_none {event : Event} (follows : assembler.Follows outline)
    (noDefault : assembler.defaultConnective = none) (step : outline.next? event = none) :
    ∃ refusal, assembler.accept event = .refused assembler refusal := by
  rw [← outline.step?_none, ← noDefault] at step
  obtain ⟨fault, refused, _⟩ := accept_eq_refuse_of_step? follows step
  exact ⟨_, refused⟩

/-- Asking for the condition is refused only for the place, in the words of what was accepted so
far. -/
theorem refusal_of_build? {refusal : Refusal} (follows : assembler.Follows outline)
    (refused : assembler.build? = .error refusal) :
    ∃ fault, refusal = .illegalState fault assembler.soFar ∧ ¬ fault.BreaksDown := by
  cases ends : outline.operand with
  | none =>
      rw [build?_of_awaiting follows ends] at refused
      split at refused
      · cases refused
      · cases refused
        exact ⟨.incomplete, rfl, id⟩
  | some last =>
      cases opened : outline.outer with
      | nil =>
          obtain ⟨outer, current, operand⟩ := outline
          cases ends
          cases opened
          rw [build?_of_complete follows] at refused
          cases refused
      | cons level outer =>
          rw [build?_of_inside follows (by simp [ends]) (by simp [opened])] at refused
          cases refused
          exact ⟨.unclosed assembler.level, rfl, id⟩

end

end Criteria.Assembly
