/-
Module: Criteria.Proofs.Assembly.Outline
Purpose: Beginnings of sentences, cut into what is complete and what still waits, and the
  steps that can follow.
Main exports:
  Level, Outline, Outline.tokens, Outline.next?, Outline.tokens_of_complete,
  Outline.exists_sentence, Cursor, Cursor.run?_disjunction, Outline.cursor_next?
-/
import Criteria.Proofs.Assembly.Grammar

namespace Criteria.Assembly

/-- A disjunction with one more conjunction at its end. -/
def Disjunction.extend : Option Disjunction → Conjunction → Disjunction
  | none, last => .chain last []
  | some (.chain first others), last => .chain first (others ++ [last])

/-- A conjunction with one more factor at its end. -/
def Conjunction.extend : Option Conjunction → Factor → Conjunction
  | none, last => .chain last []
  | some (.chain first others), last => .chain first (others ++ [last])

/-- A factor behind a number of negations. -/
def Factor.negated : Nat → Factor → Factor
  | 0, factor => factor
  | count + 1, factor => Factor.negated count (.not factor)

theorem tailTokens_append_conjunction (others : List Conjunction) (last : Conjunction) :
    Conjunction.tailTokens (others ++ [last]) =
      Conjunction.tailTokens others ++ .connective .or :: last.tokens := by
  induction others with
  | nil => simp [Conjunction.tailTokens]
  | cons next others ih => simp [Conjunction.tailTokens, ih]

theorem tailTokens_append_factor (others : List Factor) (last : Factor) :
    Factor.tailTokens (others ++ [last]) =
      Factor.tailTokens others ++ .connective .and :: last.tokens := by
  induction others with
  | nil => simp [Factor.tailTokens]
  | cons next others ih => simp [Factor.tailTokens, ih]

@[simp] theorem tokens_negated (count : Nat) (factor : Factor) :
    (Factor.negated count factor).tokens = List.replicate count .not ++ factor.tokens := by
  induction count generalizing factor with
  | zero => rfl
  | succ count ih => simp [Factor.negated, ih, Factor.tokens, List.replicate_succ']

/-- What stands in one group ahead of the operand that comes next: the conjunctions before
the last OR, the factors after it and before the last AND, and the negations after that. -/
structure Level where
  alternatives : Option Disjunction
  requirements : Option Conjunction
  negations : Nat

namespace Level

/-- Nothing stands in the group yet. -/
def empty : Level :=
  { alternatives := none, requirements := none, negations := 0 }

/-- The steps that spell what stands in the group. -/
def tokens (level : Level) : List Event :=
  (match level.alternatives with
    | none => []
    | some before => before.tokens ++ [.connective .or]) ++
  (match level.requirements with
    | none => []
    | some before => before.tokens ++ [.connective .and]) ++
  List.replicate level.negations .not

/-- The conjunction that a last factor completes. -/
def conjunction (level : Level) (last : Factor) : Conjunction :=
  .extend level.requirements (.negated level.negations last)

/-- The disjunction that a last factor completes. -/
def disjunction (level : Level) (last : Factor) : Disjunction :=
  .extend level.alternatives (level.conjunction last)

/-- What stands in the group once a factor and a connective are added to it. -/
def joined (level : Level) (last : Factor) : Connective → Level
  | .and =>
      { alternatives := level.alternatives
        requirements := some (level.conjunction last)
        negations := 0 }
  | .or =>
      { alternatives := some (level.disjunction last), requirements := none, negations := 0 }

theorem tokens_conjunction (level : Level) (last : Factor) :
    (match level.alternatives with
      | none => []
      | some before => before.tokens ++ [.connective .or]) ++
      (level.conjunction last).tokens = level.tokens ++ last.tokens := by
  obtain ⟨alternatives, requirements, negations⟩ := level
  rcases requirements with _ | ⟨first, others⟩
  · simp [conjunction, Conjunction.extend, tokens, Conjunction.tokens, Factor.tailTokens]
  · simp [conjunction, Conjunction.extend, tokens, Conjunction.tokens,
      tailTokens_append_factor]

@[simp] theorem tokens_disjunction (level : Level) (last : Factor) :
    (level.disjunction last).tokens = level.tokens ++ last.tokens := by
  rw [← tokens_conjunction]
  obtain ⟨alternatives, requirements, negations⟩ := level
  rcases alternatives with _ | ⟨first, others⟩
  · simp [disjunction, Disjunction.extend, Disjunction.tokens, Conjunction.tailTokens]
  · simp [disjunction, Disjunction.extend, Disjunction.tokens, tailTokens_append_conjunction]

@[simp] theorem tokens_joined (level : Level) (last : Factor) (connective : Connective) :
    (level.joined last connective).tokens =
      level.tokens ++ last.tokens ++ [.connective connective] := by
  cases connective with
  | and =>
      rw [← tokens_conjunction]
      simp [joined, tokens]
  | or =>
      rw [← tokens_disjunction]
      simp [joined, tokens]

end Level

/-- The beginning of a sentence: the groups around the place where it breaks off, the
innermost first, what stands in the group there, and the operand that was read last, if the
beginning ends in one. -/
structure Outline where
  outer : List Level
  current : Level
  operand : Option Factor

/-- The steps that spell the opened groups, the innermost first. -/
def outerTokens : List Level → List Event
  | [] => []
  | level :: outer => outerTokens outer ++ level.tokens ++ [.openGroup]

namespace Outline

/-- The beginning without steps. -/
def empty : Outline :=
  { outer := [], current := .empty, operand := none }

/-- The steps of the beginning. -/
def tokens (outline : Outline) : List Event :=
  outerTokens outline.outer ++ outline.current.tokens ++
    (match outline.operand with
      | none => []
      | some last => last.tokens)

/-- Go on by a step. An operand and what leads to one may not follow an operand directly;
connectives and the end of a group have to. -/
def next? (outline : Outline) (event : Event) : Option Outline :=
  match outline.operand, event with
  | none, .clause clause => some { outline with operand := some (.clause clause) }
  | none, .not =>
      some { outline with
        current := { outline.current with negations := outline.current.negations + 1 } }
  | none, .openGroup =>
      some { outer := outline.current :: outline.outer, current := .empty, operand := none }
  | some last, .connective connective =>
      some { outline with current := outline.current.joined last connective, operand := none }
  | some last, .closeGroup =>
      match outline.outer with
      | [] => none
      | level :: outer =>
          some { outer
                 current := level
                 operand := some (.group (outline.current.disjunction last)) }
  | _, _ => none

/-- A further step is spelled at the end. -/
theorem tokens_of_next? {outline after : Outline} {event : Event}
    (step : outline.next? event = some after) : after.tokens = outline.tokens ++ [event] := by
  obtain ⟨outer, current, operand⟩ := outline
  rcases operand with _ | last <;> cases event
  all_goals simp only [next?, Option.some.injEq, reduceCtorEq] at step
  case none.clause clause =>
    subst step
    simp [tokens, Factor.tokens]
  case none.not =>
    subst step
    simp [tokens, Level.tokens, List.replicate_succ']
  case none.openGroup =>
    subst step
    simp [tokens, outerTokens, Level.tokens, Level.empty]
  case some.connective connective =>
    subst step
    simp [tokens]
  case some.closeGroup =>
    cases outer with
    | nil => cases step
    | cons level outer =>
        simp only [Option.some.injEq] at step
        subst step
        simp [tokens, outerTokens, Factor.tokens]

/-- A beginning that ends in an operand outside all groups is a sentence. -/
theorem tokens_of_complete {current : Level} {last : Factor} :
    tokens { outer := [], current, operand := some last } =
      (current.disjunction last).tokens := by
  simp [tokens, outerTokens]

/-- Closing the open groups completes a beginning that ends in an operand. -/
theorem exists_sentence_of_operand (outer : List Level) (current : Level) (last : Factor) :
    ∃ rest, IsSentence (tokens { outer, current, operand := some last } ++ rest) := by
  induction outer generalizing current last with
  | nil =>
      refine ⟨[], current.disjunction last, ?_⟩
      rw [List.append_nil, tokens_of_complete]
  | cons level outer ih =>
      obtain ⟨rest, sentence⟩ := ih level (.group (current.disjunction last))
      refine ⟨.closeGroup :: rest, ?_⟩
      have step : next? { outer := level :: outer, current, operand := some last } .closeGroup =
          some { outer
                 current := level
                 operand := some (.group (current.disjunction last)) } := rfl
      rw [tokens_of_next? step] at sentence
      simpa using sentence

/-- Every beginning is the beginning of some sentence. -/
theorem exists_sentence (outline : Outline) :
    ∃ rest, IsSentence (outline.tokens ++ rest) := by
  obtain ⟨outer, current, _ | last⟩ := outline
  · -- An operand is missing; any clause will do.
    obtain ⟨rest, sentence⟩ := exists_sentence_of_operand outer current (.clause (.and []))
    refine ⟨.clause (.and []) :: rest, ?_⟩
    have step : next? { outer, current, operand := none } (.clause (.and [])) =
        some { outer, current, operand := some (.clause (.and [])) } := rfl
    rw [tokens_of_next? step] at sentence
    simpa using sentence
  · exact exists_sentence_of_operand outer current last

end Outline

/-- All that decides which steps can follow: whether an operand is awaited, and how many
groups are open. -/
structure Cursor where
  awaiting : Bool
  depth : Nat
deriving Repr, DecidableEq

namespace Cursor

/-- Go on by a step. -/
def next? : Cursor → Event → Option Cursor
  | ⟨true, depth⟩, .clause _ => some ⟨false, depth⟩
  | ⟨true, depth⟩, .not => some ⟨true, depth⟩
  | ⟨true, depth⟩, .openGroup => some ⟨true, depth + 1⟩
  | ⟨false, depth⟩, .connective _ => some ⟨true, depth⟩
  | ⟨false, depth + 1⟩, .closeGroup => some ⟨false, depth⟩
  | _, _ => none

/-- Go on by several steps. -/
def run? (cursor : Cursor) (tokens : List Event) : Option Cursor :=
  tokens.foldlM next? cursor

@[simp] theorem run?_nil (cursor : Cursor) : cursor.run? [] = some cursor := rfl

theorem run?_cons (cursor : Cursor) (event : Event) (tokens : List Event) :
    cursor.run? (event :: tokens) = (cursor.next? event).bind fun after => after.run? tokens :=
  rfl

theorem run?_append (cursor : Cursor) (tokens rest : List Event) :
    cursor.run? (tokens ++ rest) = (cursor.run? tokens).bind fun after => after.run? rest := by
  simp only [run?, List.foldlM_append, Option.bind_eq_bind]

end Cursor

mutual

/-- A disjunction leads from awaiting an operand to having one, at the same depth. -/
theorem run?_disjunction (depth : Nat) : ∀ disjunction : Disjunction,
    Cursor.run? ⟨true, depth⟩ disjunction.tokens = some ⟨false, depth⟩
  | .chain first others => by
      rw [Disjunction.tokens, Cursor.run?_append, run?_conjunction depth first]
      exact run?_alternatives depth others

/-- Further conjunctions keep the place after an operand. -/
theorem run?_alternatives (depth : Nat) : ∀ others : List Conjunction,
    Cursor.run? ⟨false, depth⟩ (Conjunction.tailTokens others) = some ⟨false, depth⟩
  | [] => rfl
  | next :: others => by
      rw [Conjunction.tailTokens, Cursor.run?_cons]
      simp only [Cursor.next?, Option.bind_some]
      rw [Cursor.run?_append, run?_conjunction depth next]
      exact run?_alternatives depth others

/-- A conjunction leads from awaiting an operand to having one. -/
theorem run?_conjunction (depth : Nat) : ∀ conjunction : Conjunction,
    Cursor.run? ⟨true, depth⟩ conjunction.tokens = some ⟨false, depth⟩
  | .chain first others => by
      rw [Conjunction.tokens, Cursor.run?_append, run?_factor depth first]
      exact run?_requirements depth others

/-- Further factors keep the place after an operand. -/
theorem run?_requirements (depth : Nat) : ∀ others : List Factor,
    Cursor.run? ⟨false, depth⟩ (Factor.tailTokens others) = some ⟨false, depth⟩
  | [] => rfl
  | next :: others => by
      rw [Factor.tailTokens, Cursor.run?_cons]
      simp only [Cursor.next?, Option.bind_some]
      rw [Cursor.run?_append, run?_factor depth next]
      exact run?_requirements depth others

/-- A factor leads from awaiting an operand to having one. -/
theorem run?_factor (depth : Nat) : ∀ factor : Factor,
    Cursor.run? ⟨true, depth⟩ factor.tokens = some ⟨false, depth⟩
  | .not inner => by
      rw [Factor.tokens, Cursor.run?_cons]
      exact run?_factor depth inner
  | .group inner => by
      rw [Factor.tokens, Cursor.run?_cons]
      simp only [Cursor.next?, Option.bind_some]
      rw [Cursor.run?_append, run?_disjunction (depth + 1) inner]
      rfl
  | .clause clause => rfl

end

/-- The place where a beginning breaks off. -/
def Outline.cursor (outline : Outline) : Cursor :=
  { awaiting := outline.operand.isNone, depth := outline.outer.length }

/-- The cursor alone decides whether a step can follow. -/
theorem Outline.cursor_next? (outline : Outline) (event : Event) :
    outline.cursor.next? event = (outline.next? event).map Outline.cursor := by
  obtain ⟨outer, current, _ | last⟩ := outline <;> cases event <;> try rfl
  cases outer <;> rfl

end Criteria.Assembly
