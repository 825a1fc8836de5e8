/-
Module: Criteria.Proofs.Assembly.Balance
Purpose: How the two stacks of an assembler, its level and its phase belong together after any
  calls, and which phase gives which answer to a request for the condition.
Main exports:
  Assembler.Balanced, balanced_of_follows, build?_eq_ok_none_iff, exists_build?_eq_ok_some_iff,
  assemblers_stay_balanced
-/
import Criteria.Proofs.Assembly.Bench

namespace Criteria.Assembly

/-- What belongs together in an assembler: it is usable, its level counts the groups on the stack
of symbols, and each connective there waits for one operand more than there is, unless the last
operand was just read. -/
structure Assembler.Balanced (assembler : Assembler) : Prop where
  legal : assembler.phase ≠ .illegal
  level : assembler.level = assembler.operators.count .openGroup
  operands : assembler.operands.length =
    assembler.operators.countP Symbol.isConnective +
      if assembler.phase = .afterOperand then 1 else 0

namespace Level

/-- Nothing inside a group is the opening of a group. -/
theorem count_openGroup (level : Level) : level.operators.count .openGroup = 0 := by
  obtain ⟨alternatives, requirements, negations⟩ := level
  cases alternatives <;> cases requirements <;> simp [operators, List.count_replicate]

/-- Inside a group, each connective has its left operand. -/
theorem countP_isConnective (level : Level) :
    level.operators.countP Symbol.isConnective = level.operands.length := by
  have negation : Symbol.isConnective .not = false := rfl
  have joins (connective : Connective) : Symbol.isConnective (.connective connective) = true :=
    rfl
  obtain ⟨alternatives, requirements, negations⟩ := level
  cases alternatives <;> cases requirements <;>
    simp [operators, operands, List.countP_replicate, negation, joins]

end Level

theorem count_outerOperators (outer : List Level) :
    (outerOperators outer).count .openGroup = outer.length := by
  induction outer with
  | nil => rfl
  | cons level outer ih => simp [outerOperators, level.count_openGroup, ih]

theorem countP_outerOperators (outer : List Level) :
    (outerOperators outer).countP Symbol.isConnective = (outerOperands outer).length := by
  induction outer with
  | nil => rfl
  | cons level outer ih =>
      have opened : outerOperands (level :: outer) = level.operands ++ outerOperands outer := rfl
      rw [outerOperators, List.countP_cons_of_neg (by decide), List.countP_append,
        level.countP_isConnective, ih, opened, List.length_append]

section

variable {assembler : Assembler} {outline : Outline}

/-- At every beginning of a sentence, all belongs together. -/
theorem balanced_of_follows (follows : assembler.Follows outline) : assembler.Balanced := by
  obtain ⟨outer, current, operand⟩ := outline
  refine ⟨?_, ?_, ?_⟩
  · rw [follows.phase]
    exact Outline.phase_ne_illegal _
  · rw [follows.level, follows.operators, Outline.operators, List.count_append,
      current.count_openGroup, count_outerOperators, Nat.zero_add]
  · rw [follows.operands, follows.operators, follows.phase, Outline.operators,
      List.countP_append, current.countP_isConnective, countP_outerOperators]
    simp only [Outline.phase_eq_afterOperand_iff, Outline.operands, List.length_append]
    cases operand with
    | none => simp
    | some last => simp; omega

/-- Only after an operand outside all groups there is a condition. -/
theorem exists_build?_eq_ok_some_iff (follows : assembler.Follows outline) :
    (∃ clause, assembler.build? = .ok (some clause)) ↔
      assembler.phase = .afterOperand ∧ assembler.level = 0 := by
  rw [follows.phase, outline.phase_eq_afterOperand_iff, follows.level, List.length_eq_zero_iff]
  constructor
  · intro given
    obtain ⟨clause, built⟩ := given
    apply Classical.byContradiction
    intro notComplete
    apply build?_ne_some follows ?_ clause built
    cases ends : outline.operand with
    | none => exact .inl rfl
    | some last => exact .inr fun outside => notComplete ⟨by simp [ends], outside⟩
  · intro given
    obtain ⟨outer, current, operand⟩ := outline
    obtain ⟨ends, outside⟩ := given
    cases outside
    obtain ⟨last, rfl⟩ := Option.isSome_iff_exists.mp ends
    exact ⟨_, build?_of_complete follows⟩

/-- Only before the first step it is no fault that there is no condition. -/
theorem build?_eq_ok_none_iff (follows : assembler.Follows outline) :
    assembler.build? = .ok none ↔ assembler.phase = .start := by
  rw [follows.phase]
  cases ends : outline.operand with
  | none =>
      rw [build?_of_awaiting follows ends]
      by_cases starts : outline.phase = .start
      · simp [starts]
      · simp [starts]
  | some last =>
      have notStart : outline.phase ≠ .start := by
        have afterOperand := outline.phase_eq_afterOperand_iff.mpr (by simp [ends])
        simp [afterOperand]
      simp only [notStart, iff_false]
      intro built
      obtain ⟨outer, current, operand⟩ := outline
      cases ends
      cases outer with
      | nil =>
          rw [build?_of_complete follows] at built
          cases built
      | cons level outer =>
          rw [build?_of_inside follows rfl (List.cons_ne_nil _ _)] at built
          cases built

end

/-- Whatever was done with an assembler and its copies, accepted or refused, what belongs together
in each of them does so; no call and no request for the condition finds stacks that cannot be
reduced; there is a condition exactly after an operand outside all groups, and exactly before the
first step there is none without a fault. -/
theorem assemblers_stay_balanced (actions : List Action) (assembler : Assembler)
    (kept : assembler ∈ benchAfter actions) :
    assembler.Balanced ∧
    (∀ call after fault soFar,
      assembler.perform call = .refused after (.illegalState fault soFar) →
        ¬ fault.BreaksDown) ∧
    ((∃ clause, assembler.build? = .ok (some clause)) ↔
      assembler.phase = .afterOperand ∧ assembler.level = 0) ∧
    (assembler.build? = .ok none ↔ assembler.phase = .start) ∧
    ∀ refusal, assembler.build? = .error refusal →
      ∃ fault, refusal = .illegalState fault assembler.soFar ∧ ¬ fault.BreaksDown := by
  obtain ⟨outline, follows⟩ := exists_follows_of_mem actions assembler kept
  refine ⟨balanced_of_follows follows, ?_, exists_build?_eq_ok_some_iff follows,
    build?_eq_ok_none_iff follows, fun refusal => refusal_of_build? follows⟩
  intro call after fault soFar refused
  have proper := perform_proper follows call
  rw [refused] at proper
  cases proper with
  | outOfPlace sound => exact sound

/-- A clause that an example calls `a` or `b`. -/
def namedClause (field : String) : Clause :=
  .terminal (.isEmpty field)

/-- A group is opened directly after an operand, and closed where it cannot be. -/
def nestedActions : List Action :=
  [.call 0 (.setDefault (some .and)), .call 0 (.event (.clause (namedClause "a"))),
    .call 0 (.event .openGroup), .call 0 (.event .not),
    .call 0 (.event (.clause (namedClause "b"))), .call 0 (.event (.connective .or)),
    .call 0 (.event .closeGroup), .build 0, .copy 0, .call 0 .clear]

/-- The copy that was made before the original was cleared. -/
def nestedCopy : Assembler :=
  { operators := [.connective .or, .openGroup, .connective .and]
    operands := [.not (.single (namedClause "b")), .single (namedClause "a")]
    level := 1
    phase := .afterConnective .or
    defaultConnective := some .and
    tokens := ["\x7ba is EMPTY\x7d", "AND", "(", "NOT", "\x7bb is EMPTY\x7d", "OR"] }

theorem assemblers_stay_balanced_of_nestedCopy :
    nestedCopy ∈ benchAfter nestedActions ∧ nestedCopy.Balanced ∧
    nestedCopy.perform (.event .closeGroup) =
      .refused nestedCopy (.illegalState (.closeAfter (.afterConnective .or))
        "\x7ba is EMPTY\x7d AND ( NOT \x7bb is EMPTY\x7d OR") ∧
    ¬ (SequenceFault.closeAfter (.afterConnective .or)).BreaksDown ∧
    ¬ ∃ clause, nestedCopy.build? = .ok (some clause) := by
  have kept : nestedCopy ∈ benchAfter nestedActions := by decide
  have refused : nestedCopy.perform (.event .closeGroup) =
      .refused nestedCopy (.illegalState (.closeAfter (.afterConnective .or))
        "\x7ba is EMPTY\x7d AND ( NOT \x7bb is EMPTY\x7d OR") := by decide
  obtain ⟨balanced, sound, complete, _, _⟩ :=
    assemblers_stay_balanced nestedActions nestedCopy kept
  refine ⟨kept, balanced, refused, sound _ _ _ _ refused, ?_⟩
  rw [complete]
  decide

end Criteria.Assembly
