/-
Module: Criteria.Proofs.Assembly.Simulation
Purpose: The two stacks of an assembler hold exactly the pending parts of what it accepted, and
  reducing them completes these parts.
Main exports:
  Draft.chained, Draft.Spells, Disjunction.draft, Outline.operators, Outline.operands,
  Assembler.Follows, accept_of_next?, build?_of_complete
-/
import Criteria.Proofs.Assembly.Outline

namespace Criteria.Assembly

/-! ### Drafts of derivations -/

/-- What a draft brings in as the first operand of a chain. -/
def Draft.operandsUnder (connective : Connective) : Draft → List Draft
  | .multi head children => if head = connective then children else [.multi head children]
  | draft => [draft]

/-- A chain of drafts. One draft alone stays as it is. -/
def Draft.chained (connective : Connective) (first : Draft) (others : List Draft) : Draft :=
  match others with
  | [] => first
  | _ :: _ => .multi connective (first.operandsUnder connective ++ others)

/-- Combining a chain with a further draft appends the draft to the chain. -/
theorem Draft.combine?_chained (connective : Connective) (first last : Draft)
    (others : List Draft) :
    (Draft.chained connective first others).combine? (.connective connective) (some last) =
      .ok (.chained connective first (others ++ [last])) := by
  cases others with
  | nil =>
      cases first with
      | single clause => rfl
      | not inner => rfl
      | multi head children =>
          by_cases same : head = connective
          · subst same
            simp [chained, combine?, operandsUnder]
          · simp [chained, combine?, operandsUnder, multi?, same]
  | cons next others => simp [chained, combine?]

mutual

/-- The draft of a disjunction. -/
def Disjunction.draft : Disjunction → Draft
  | .chain first others => .chained .or first.draft (Conjunction.drafts others)

/-- The drafts of several conjunctions. -/
def Conjunction.drafts : List Conjunction → List Draft
  | [] => []
  | next :: others => next.draft :: Conjunction.drafts others

/-- The draft of a conjunction. -/
def Conjunction.draft : Conjunction → Draft
  | .chain first others => .chained .and first.draft (Factor.drafts others)

/-- The drafts of several factors. -/
def Factor.drafts : List Factor → List Draft
  | [] => []
  | next :: others => next.draft :: Factor.drafts others

/-- The draft of a factor. -/
def Factor.draft : Factor → Draft
  | .not inner => .not inner.draft
  | .group inner => inner.draft
  | .clause clause => .single clause

end

theorem drafts_append_conjunction (others : List Conjunction) (last : Conjunction) :
    Conjunction.drafts (others ++ [last]) = Conjunction.drafts others ++ [last.draft] := by
  induction others with
  | nil => rfl
  | cons next others ih => simp [Conjunction.drafts, ih]

theorem drafts_append_factor (others : List Factor) (last : Factor) :
    Factor.drafts (others ++ [last]) = Factor.drafts others ++ [last.draft] := by
  induction others with
  | nil => rfl
  | cons next others ih => simp [Factor.drafts, ih]

/-- A draft stands for what a derivation comes to, as a whole and as the first operand of a
chain. -/
structure Draft.Spells (draft : Draft) (reading : Reading) : Prop where
  whole : draft.toClause? = some reading.condition
  operands (connective : Connective) :
    toClauses (draft.operandsUnder connective) = reading.operands connective
  operands_ne_nil (connective : Connective) : reading.operands connective ≠ []

theorem Draft.toClauses_append (first second : List Draft) :
    toClauses (first ++ second) = toClauses first ++ toClauses second := by
  induction first with
  | nil => rfl
  | cons draft first ih =>
      rw [List.cons_append, toClauses, toClauses]
      cases draft.toClause? <;> simp [ih]

/-- Two or more clauses are joined under their connective. -/
theorem Draft.joined?_of_two_le (connective : Connective) {clauses : List Clause}
    (several : 2 ≤ clauses.length) :
    joined? connective clauses = some (connective.node clauses) := by
  match clauses, several with
  | first :: second :: others, _ => cases connective <;> rfl

/-- A chain of drafts stands for the chain of what its parts stand for. -/
theorem Draft.Spells.chained {connective : Connective} {first : Draft} {others : List Draft}
    {reading : Reading} {readings : List Reading} (spellsFirst : first.Spells reading)
    (sameLength : others.length = readings.length)
    (spellsOthers : toClauses others = readings.map (·.condition)) :
    (Draft.chained connective first others).Spells (.chain connective reading readings) := by
  cases others with
  | nil =>
      cases readings with
      | nil => exact spellsFirst
      | cons _ _ => simp at sameLength
  | cons next others =>
      cases readings with
      | nil => simp at sameLength
      | cons nextReading readings =>
          have children : toClauses (first.operandsUnder connective ++ next :: others) =
              reading.operands connective ++ (nextReading :: readings).map (·.condition) := by
            rw [toClauses_append, spellsFirst.operands, spellsOthers]
          have several : 2 ≤ (reading.operands connective ++
              (nextReading :: readings).map (·.condition)).length := by
            have := List.length_pos_iff.mpr (spellsFirst.operands_ne_nil connective)
            simp only [List.length_append, List.map_cons, List.length_cons]
            omega
          have whole : (Draft.chained connective first (next :: others)).toClause? =
              some (Reading.chain connective reading (nextReading :: readings)).condition := by
            rw [Draft.chained, toClause?, children, joined?_of_two_le connective several,
              Reading.chain]
          refine ⟨whole, fun other => ?_, fun other => ?_⟩
          · by_cases same : connective = other
            · simp only [Draft.chained, operandsUnder, same, if_true, Reading.chain,
                Reading.operands, childrenOf_node]
              rw [← same]
              exact children
            · have unchained : Draft.operandsUnder other
                  (Draft.chained connective first (next :: others)) =
                  [Draft.chained connective first (next :: others)] := by
                simp [Draft.chained, operandsUnder, same]
              rw [unchained, toClauses, whole]
              simp [Reading.chain, Reading.operands, same, toClauses]
          · by_cases same : connective = other
            · simp [Reading.chain, Reading.operands, same, childrenOf_node]
            · simp [Reading.chain, Reading.operands, same]

/-- A draft that is no chain brings in only itself. -/
theorem Draft.Spells.of_unchained {draft : Draft} {clause : Clause}
    (whole : draft.toClause? = some clause)
    (unchained : ∀ connective, draft.operandsUnder connective = [draft]) :
    draft.Spells { condition := clause, chained := none } := by
  refine ⟨whole, fun connective => ?_, fun connective => by simp [Reading.operands]⟩
  rw [unchained, toClauses, whole]
  simp [toClauses, Reading.operands]

mutual

/-- The draft of a disjunction stands for what the disjunction comes to. -/
theorem spells_disjunction : ∀ disjunction : Disjunction,
    disjunction.draft.Spells disjunction.reading
  | .chain first others => by
      obtain ⟨sameLength, clauses⟩ := spells_conjunctions others
      exact (spells_conjunction first).chained sameLength clauses

/-- The drafts of conjunctions stand for what the conjunctions come to. -/
theorem spells_conjunctions : ∀ others : List Conjunction,
    (Conjunction.drafts others).length = (Conjunction.readings others).length ∧
      Draft.toClauses (Conjunction.drafts others) =
        (Conjunction.readings others).map (·.condition)
  | [] => ⟨rfl, rfl⟩
  | next :: others => by
      obtain ⟨sameLength, clauses⟩ := spells_conjunctions others
      simp [Conjunction.drafts, Conjunction.readings, Draft.toClauses,
        (spells_conjunction next).whole, sameLength, clauses]

/-- The draft of a conjunction stands for what the conjunction comes to. -/
theorem spells_conjunction : ∀ conjunction : Conjunction,
    conjunction.draft.Spells conjunction.reading
  | .chain first others => by
      obtain ⟨sameLength, clauses⟩ := spells_factors others
      exact (spells_factor first).chained sameLength clauses

/-- The drafts of factors stand for what the factors come to. -/
theorem spells_factors : ∀ others : List Factor,
    (Factor.drafts others).length = (Factor.readings others).length ∧
      Draft.toClauses (Factor.drafts others) = (Factor.readings others).map (·.condition)
  | [] => ⟨rfl, rfl⟩
  | next :: others => by
      obtain ⟨sameLength, clauses⟩ := spells_factors others
      simp [Factor.drafts, Factor.readings, Draft.toClauses, (spells_factor next).whole,
        sameLength, clauses]

/-- The draft of a factor stands for what the factor comes to. -/
theorem spells_factor : ∀ factor : Factor, factor.draft.Spells factor.reading
  | .not inner =>
      .of_unchained (by simp [Factor.draft, Draft.toClause?, (spells_factor inner).whole])
        fun _ => rfl
  | .group inner => spells_disjunction inner
  | .clause _ => .of_unchained rfl fun _ => rfl

end

/-! ### The stacks of a beginning -/

namespace Level

/-- The symbols that wait for what follows in the group, the top first. -/
def operators (level : Level) : List Symbol :=
  List.replicate level.negations .not ++
    (level.requirements.map fun _ => Symbol.connective .and).toList ++
    (level.alternatives.map fun _ => Symbol.connective .or).toList

/-- The drafts that wait for what follows in the group, the top first. -/
def operands (level : Level) : List Draft :=
  (level.requirements.map Conjunction.draft).toList ++
    (level.alternatives.map Disjunction.draft).toList

end Level

/-- The symbols of the opened groups. -/
def outerOperators : List Level → List Symbol
  | [] => []
  | level :: outer => .openGroup :: (level.operators ++ outerOperators outer)

/-- The drafts of the opened groups. -/
def outerOperands (outer : List Level) : List Draft :=
  outer.flatMap Level.operands

namespace Outline

/-- The stack of symbols for a beginning. -/
def operators (outline : Outline) : List Symbol :=
  outline.current.operators ++ outerOperators outline.outer

/-- The stack of drafts for a beginning. -/
def operands (outline : Outline) : List Draft :=
  (outline.operand.map Factor.draft).toList ++ outline.current.operands ++
    outerOperands outline.outer

/-- What a beginning ends in. -/
def phase (outline : Outline) : Phase :=
  match outline.operand with
  | some _ => .afterOperand
  | none =>
      match outline.current, outline.outer with
      | { negations := _ + 1, .. }, _ => .afterNot
      | { requirements := some _, .. }, _ => .afterConnective .and
      | { alternatives := some _, .. }, _ => .afterConnective .or
      | _, _ :: _ => .afterOpen
      | _, [] => .start

theorem phase_ne_illegal (outline : Outline) : outline.phase ≠ .illegal := by
  unfold phase
  split
  · simp
  · split <;> simp

theorem phase_eq_afterOperand_iff (outline : Outline) :
    outline.phase = .afterOperand ↔ outline.operand.isSome := by
  unfold phase
  split
  · next ends => simp [ends]
  · next awaits => split <;> simp [awaits]

end Outline

/-! ### Reducing the stacks -/

/-- Every symbol but an opened group is applied if it yields, and otherwise stays. -/
theorem reduce?_cons {top : Symbol} (notOpen : top ≠ .openGroup) (incoming : Symbol)
    (operators : List Symbol) (operands : List Draft) :
    reduce? incoming (top :: operators) operands =
      if top.yieldsTo incoming then
        match applySymbol? top operands with
        | .ok operands => reduce? incoming operators operands
        | .error fault => .error fault
      else settle? incoming (top :: operators) operands := by
  cases top with
  | openGroup => exact absurd rfl notOpen
  | _ => rfl

/-- Pending negations are applied to the operand ahead of every symbol but NOT. -/
theorem reduce?_negations {incoming : Symbol} (looser : incoming.rank < Symbol.not.rank)
    (count : Nat) (factor : Factor) (operators : List Symbol) (operands : List Draft) :
    reduce? incoming (List.replicate count .not ++ operators) (factor.draft :: operands) =
      reduce? incoming operators ((Factor.negated count factor).draft :: operands) := by
  induction count generalizing factor with
  | zero => rfl
  | succ count ih =>
      have yields : Symbol.yieldsTo .not incoming = true := by
        simpa [Symbol.yieldsTo] using looser
      rw [List.replicate_succ, List.cons_append, reduce?_cons (by simp)]
      simp only [yields, if_true, applySymbol?, Draft.combine?]
      exact ih (.not factor)

/-- A pending connective appends the operand to its chain. -/
theorem reduce?_connective {incoming : Symbol} {connective : Connective}
    (looser : incoming.rank ≤ (Symbol.connective connective).rank) (first last : Draft)
    (others : List Draft) (operators : List Symbol) (operands : List Draft) :
    reduce? incoming (.connective connective :: operators)
        (last :: .chained connective first others :: operands) =
      reduce? incoming operators
        (.chained connective first (others ++ [last]) :: operands) := by
  have yields : Symbol.yieldsTo (.connective connective) incoming = true := by
    simpa [Symbol.yieldsTo] using looser
  rw [reduce?_cons (by simp)]
  simp only [yields, if_true, applySymbol?, reduceCtorEq, if_false, Draft.combine?_chained]

namespace Level

/-- Ahead of AND and everything looser, the pending factors become one conjunction. -/
theorem reduce?_conjunction {incoming : Symbol}
    (looser : incoming.rank ≤ (Symbol.connective .and).rank) (level : Level) (last : Factor)
    (operators : List Symbol) (operands : List Draft) :
    reduce? incoming (level.operators ++ operators)
        (last.draft :: (level.operands ++ operands)) =
      reduce? incoming
        ((level.alternatives.map fun _ => Symbol.connective .or).toList ++ operators)
        ((level.conjunction last).draft ::
          ((level.alternatives.map Disjunction.draft).toList ++ operands)) := by
  have looserThanNot : incoming.rank < Symbol.not.rank := Nat.lt_succ_of_le looser
  simp only [Level.operators, Level.operands, List.append_assoc]
  rw [reduce?_negations looserThanNot]
  obtain ⟨alternatives, requirements, negations⟩ := level
  rcases requirements with _ | ⟨first, others⟩
  · rfl
  · simp only [Option.map_some, Option.toList_some, List.singleton_append, Conjunction.draft,
      conjunction, Conjunction.extend, drafts_append_factor]
    exact reduce?_connective looser _ _ _ _ _

/-- Ahead of OR and everything looser, all that is pending in the group becomes one
disjunction. -/
theorem reduce?_disjunction {incoming : Symbol}
    (looser : incoming.rank ≤ (Symbol.connective .or).rank) (level : Level) (last : Factor)
    (operators : List Symbol) (operands : List Draft) :
    reduce? incoming (level.operators ++ operators)
        (last.draft :: (level.operands ++ operands)) =
      reduce? incoming operators ((level.disjunction last).draft :: operands) := by
  rw [reduce?_conjunction (Nat.le_succ_of_le looser)]
  obtain ⟨alternatives, requirements, negations⟩ := level
  rcases alternatives with _ | ⟨first, others⟩
  · rfl
  · simp only [Option.map_some, Option.toList_some, List.singleton_append, Disjunction.draft,
      disjunction, Disjunction.extend, drafts_append_conjunction]
    exact reduce?_connective looser _ _ _ _ _

end Level

/-- A connective stays on the stack of the opened groups. -/
theorem reduce?_outer (connective : Connective) (outer : List Level) (operands : List Draft) :
    reduce? (.connective connective) (outerOperators outer) operands =
      .ok (.connective connective :: outerOperators outer, operands) := by
  cases outer <;> rfl

/-- An AND stays above a pending OR. -/
theorem reduce?_and_above_or (operators : List Symbol) (operands : List Draft) :
    reduce? (.connective .and) (.connective .or :: operators) operands =
      .ok (.connective .and :: .connective .or :: operators, operands) := by
  rw [reduce?_cons (by simp)]
  rfl

/-- Ahead of a connective, the stacks become those of the beginning with the operand and the
connective added. -/
theorem reduce?_joined (connective : Connective) (outer : List Level) (current : Level)
    (last : Factor) :
    reduce? (.connective connective)
        (Outline.operators { outer, current, operand := some last })
        (Outline.operands { outer, current, operand := some last }) =
      .ok (Outline.operators { outer, current := current.joined last connective,
                               operand := none },
        Outline.operands { outer, current := current.joined last connective,
                           operand := none }) := by
  simp only [Outline.operators, Outline.operands, Option.map_some, Option.toList_some,
    Option.map_none, Option.toList_none, List.nil_append,
    List.cons_append]
  cases connective with
  | and =>
      rw [Level.reduce?_conjunction (Nat.le_refl _)]
      obtain ⟨alternatives, requirements, negations⟩ := current
      cases alternatives with
      | none => exact reduce?_outer .and outer _
      | some before => exact reduce?_and_above_or (outerOperators outer) _
  | or =>
      rw [Level.reduce?_disjunction (Nat.le_refl _)]
      exact reduce?_outer .or outer _

/-- Ahead of the end of a group, the stacks become those of the beginning with the group as
its operand. -/
theorem reduce?_closed (level : Level) (outer : List Level) (current : Level) (last : Factor) :
    reduce? .closeGroup
        (Outline.operators { outer := level :: outer, current, operand := some last })
        (Outline.operands { outer := level :: outer, current, operand := some last }) =
      .ok (Outline.operators { outer, current := level,
                               operand := some (.group (current.disjunction last)) },
        Outline.operands { outer, current := level,
                           operand := some (.group (current.disjunction last)) }) := by
  simp only [Outline.operators, Outline.operands, Option.map_some, Option.toList_some,
    List.nil_append, List.cons_append]
  rw [Level.reduce?_disjunction (by decide)]
  simp [outerOperators, outerOperands, reduce?, Factor.draft]

/-- At the end of the condition, a beginning outside all groups is reduced to one draft. -/
theorem reduce?_finished (current : Level) (last : Factor) :
    reduce? .finish (Outline.operators { outer := [], current, operand := some last })
        (Outline.operands { outer := [], current, operand := some last }) =
      .ok ([], [(current.disjunction last).draft]) := by
  simp only [Outline.operators, Outline.operands, Option.map_some, Option.toList_some,
    List.nil_append, List.cons_append]
  rw [Level.reduce?_disjunction (by decide)]
  rfl

/-! ### Steps of an assembler -/

/-- The assembler is in the state that belongs to a beginning. -/
structure Assembler.Follows (assembler : Assembler) (outline : Outline) : Prop where
  operators : assembler.operators = outline.operators
  operands : assembler.operands = outline.operands
  level : assembler.level = outline.outer.length
  phase : assembler.phase = outline.phase

/-- The assembler before the first call belongs to the beginning without steps. -/
theorem empty_follows : Assembler.empty.Follows .empty :=
  ⟨rfl, rfl, rfl, rfl⟩

section

variable {assembler : Assembler} {outline : Outline}

/-- An assembler that awaits an operand is ready for one. -/
theorem readyForOperand_of_awaiting (follows : assembler.Follows outline)
    (awaiting : outline.operand = none) (fault : SequenceFault) :
    assembler.readyForOperand fault = .accepted assembler := by
  have notOperand : outline.phase ≠ .afterOperand := by
    rw [Ne, outline.phase_eq_afterOperand_iff, awaiting]
    simp
  have legal := outline.phase_ne_illegal
  unfold Assembler.readyForOperand
  rw [follows.phase]
  split <;> simp_all

/-- Joining puts the connective behind the last operand. -/
theorem joinWith_follows {last : Factor} (follows : assembler.Follows outline)
    (ends : outline.operand = some last) (connective : Connective) :
    ∃ after, assembler.joinWith connective = .accepted after ∧
      after.operators = Outline.operators
        { outline with current := outline.current.joined last connective, operand := none } ∧
      after.operands = Outline.operands
        { outline with current := outline.current.joined last connective, operand := none } ∧
      after.level = assembler.level ∧ after.phase = assembler.phase ∧
      after.defaultConnective = assembler.defaultConnective := by
  obtain ⟨outer, current, operand⟩ := outline
  cases ends
  unfold Assembler.joinWith Assembler.reduceFor
  rw [follows.operators, follows.operands, reduce?_joined]
  exact ⟨_, rfl, rfl, rfl, rfl, rfl, rfl⟩

/-- What leads to an operand is accepted where an operand is awaited. -/
theorem accept_awaiting {after : Outline} {event : Event} (follows : assembler.Follows outline)
    (awaiting : outline.operand = none) (step : outline.next? event = some after) :
    ∃ next, assembler.accept event = .accepted next ∧ next.Follows after ∧
      next.defaultConnective = assembler.defaultConnective := by
  have ready := readyForOperand_of_awaiting follows awaiting
  obtain ⟨operators, operands, level, phase⟩ := follows
  obtain ⟨outer, current, operand⟩ := outline
  cases awaiting
  cases event with
  | clause clause =>
      cases step
      rw [Assembler.accept, Assembler.addClause, ready]
      refine ⟨_, rfl, ?_, rfl⟩
      exact ⟨operators, by rw [operands]; rfl, level, rfl⟩
  | not =>
      cases step
      rw [Assembler.accept, Assembler.addNot, ready]
      refine ⟨_, rfl, ?_, rfl⟩
      exact ⟨by rw [operators]; rfl, operands, level, rfl⟩
  | openGroup =>
      cases step
      rw [Assembler.accept, Assembler.openGroup, ready]
      refine ⟨_, rfl, ?_, rfl⟩
      exact ⟨by rw [operators]; rfl, operands, by rw [level]; rfl, rfl⟩
  | connective connective => cases step
  | closeGroup => cases step

/-- A connective is accepted after an operand. -/
theorem accept_connective {last : Factor} (follows : assembler.Follows outline)
    (ends : outline.operand = some last) (connective : Connective) :
    ∃ next, assembler.accept (.connective connective) = .accepted next ∧
      next.Follows
        { outline with current := outline.current.joined last connective, operand := none } ∧
      next.defaultConnective = assembler.defaultConnective := by
  obtain ⟨joined, accepted, operators, operands, level, phase, sameDefault⟩ :=
    joinWith_follows follows ends connective
  have afterOperand : assembler.phase = .afterOperand := by
    rw [follows.phase, outline.phase_eq_afterOperand_iff, ends]
    rfl
  refine ⟨{ joined with phase := .afterConnective connective }, ?_, ?_, sameDefault⟩
  · simp only [Assembler.accept, Assembler.addConnective, afterOperand, accepted,
      Reply.andThen]
  · refine ⟨operators, operands, level.trans follows.level, ?_⟩
    cases connective <;> rfl

/-- The end of a group is accepted after an operand inside a group. -/
theorem accept_closeGroup {level : Level} {outer : List Level} {current : Level}
    {last : Factor}
    (follows : assembler.Follows { outer := level :: outer, current, operand := some last }) :
    ∃ next, assembler.accept .closeGroup = .accepted next ∧
      next.Follows
        { outer, current := level, operand := some (.group (current.disjunction last)) } ∧
      next.defaultConnective = assembler.defaultConnective := by
  have afterOperand : assembler.phase = .afterOperand := follows.phase
  have inside : assembler.level ≠ 0 := by
    rw [follows.level]
    simp
  have closed : assembler.accept .closeGroup =
      (assembler.reduceFor .closeGroup).andThen fun after =>
        .accepted { after.log Symbol.closeGroup.text with level := after.level - 1 } := by
    simp only [Assembler.accept, Assembler.closeGroup, afterOperand, inside, if_false]
  rw [closed, Assembler.reduceFor, follows.operators, follows.operands, reduce?_closed]
  refine ⟨_, rfl, ⟨rfl, rfl, ?_, afterOperand⟩, rfl⟩
  simp [follows.level]

/-- A step that can follow is accepted. -/
theorem accept_of_next? {after : Outline} {event : Event} (follows : assembler.Follows outline)
    (step : outline.next? event = some after) :
    ∃ next, assembler.accept event = .accepted next ∧ next.Follows after ∧
      next.defaultConnective = assembler.defaultConnective := by
  cases ends : outline.operand with
  | none => exact accept_awaiting follows ends step
  | some last =>
      obtain ⟨outer, current, operand⟩ := outline
      cases ends
      cases event with
      | clause clause => cases step
      | not => cases step
      | openGroup => cases step
      | connective connective =>
          cases step
          exact accept_connective follows rfl connective
      | closeGroup =>
          cases outer with
          | nil => cases step
          | cons level outer =>
              cases step
              exact accept_closeGroup follows

/-- Outside all groups and after an operand, the condition is the tree of the one sentence
that was accepted. -/
theorem build?_of_complete {current : Level} {last : Factor}
    (follows : assembler.Follows { outer := [], current, operand := some last }) :
    assembler.build? = .ok (some (current.disjunction last).tree) := by
  have afterOperand : assembler.phase = .afterOperand := follows.phase
  have outside : assembler.level = 0 := follows.level
  have finished : assembler.finish? = .ok (some (current.disjunction last).tree) := by
    rw [Assembler.finish?, follows.operators, follows.operands, reduce?_finished]
    simp only [(spells_disjunction (current.disjunction last)).whole, Disjunction.tree]
  simp only [Assembler.build?, afterOperand, outside, if_true, finished]
  rfl

theorem Outline.operands_of_phase_start {outline : Outline} (starts : outline.phase = .start) :
    outline.operands = [] := by
  obtain ⟨outer, ⟨alternatives, requirements, negations⟩, operand⟩ := outline
  cases operand with
  | some last => cases starts
  | none =>
      cases negations with
      | succ count => cases starts
      | zero =>
          cases requirements with
          | some before => cases starts
          | none =>
              cases alternatives with
              | some before => cases starts
              | none =>
                  cases outer with
                  | cons level outer => cases starts
                  | nil => rfl

/-- Where an operand is awaited, there is no condition, which is no fault before the first
call. -/
theorem build?_of_awaiting (follows : assembler.Follows outline)
    (awaits : outline.operand = none) :
    assembler.build? =
      if outline.phase = .start then .ok none
      else .error (.illegalState .incomplete assembler.soFar) := by
  have notOperand : outline.phase ≠ .afterOperand := by
    rw [Ne, outline.phase_eq_afterOperand_iff, awaits]
    simp
  have legal := outline.phase_ne_illegal
  by_cases starts : outline.phase = .start
  · have noOperands : assembler.operands = [] :=
      follows.operands.trans (Outline.operands_of_phase_start starts)
    simp only [Assembler.build?, follows.phase, starts, noOperands]
    rfl
  · rw [if_neg starts, Assembler.build?, follows.phase]
    split
    · contradiction
    · contradiction
    · contradiction
    · rfl

/-- After an operand inside a group, the groups that are open are counted. -/
theorem build?_of_inside (follows : assembler.Follows outline)
    (ends : outline.operand.isSome) (inside : outline.outer ≠ []) :
    assembler.build? = .error (.illegalState (.unclosed assembler.level) assembler.soFar) := by
  have afterOperand : assembler.phase = .afterOperand := by
    rw [follows.phase, outline.phase_eq_afterOperand_iff]
    exact ends
  have opened : assembler.level ≠ 0 := by
    rw [follows.level]
    simpa using inside
  simp only [Assembler.build?, afterOperand, opened, if_false]
  rfl

/-- Anywhere else there is no condition. -/
theorem build?_ne_some (follows : assembler.Follows outline)
    (incomplete : outline.operand = none ∨ outline.outer ≠ []) (clause : Clause) :
    assembler.build? ≠ .ok (some clause) := by
  cases ends : outline.operand with
  | none =>
      rw [build?_of_awaiting follows ends]
      split <;> simp
  | some last =>
      have inside : outline.outer ≠ [] := by simpa [ends] using incomplete
      rw [build?_of_inside follows (by simp [ends]) inside]
      simp

end

end Criteria.Assembly
