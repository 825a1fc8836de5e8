/-
Module: Criteria.Proofs.Assembly.Grammar
Purpose: The grammar of conditions over the steps of an assembler, the condition that a
  derivation stands for, and a parser by recursive descent that finds the only derivation.
Main exports:
  Disjunction, Conjunction, Factor, Disjunction.tokens, Disjunction.reading, parse?,
  parse?_eq_some_iff
-/
import Criteria.Assembly.Assembler

namespace Criteria.Assembly

mutual

/-- One or more conjunctions with OR between them. -/
inductive Disjunction where
  | chain (first : Conjunction) (others : List Conjunction)

/-- One or more factors with AND between them. -/
inductive Conjunction where
  | chain (first : Factor) (others : List Factor)

/-- A negated factor, a disjunction in parentheses, or a clause. -/
inductive Factor where
  | not (inner : Factor)
  | group (inner : Disjunction)
  | clause (clause : Clause)

end

mutual

/-- The steps that spell a disjunction. -/
def Disjunction.tokens : Disjunction → List Event
  | .chain first others => first.tokens ++ Conjunction.tailTokens others

/-- The steps that spell the conjunctions after the first, each with its OR. -/
def Conjunction.tailTokens : List Conjunction → List Event
  | [] => []
  | next :: others => .connective .or :: (next.tokens ++ Conjunction.tailTokens others)

/-- The steps that spell a conjunction. -/
def Conjunction.tokens : Conjunction → List Event
  | .chain first others => first.tokens ++ Factor.tailTokens others

/-- The steps that spell the factors after the first, each with its AND. -/
def Factor.tailTokens : List Factor → List Event
  | [] => []
  | next :: others => .connective .and :: (next.tokens ++ Factor.tailTokens others)

/-- The steps that spell a factor. -/
def Factor.tokens : Factor → List Event
  | .not inner => .not :: inner.tokens
  | .group inner => .openGroup :: (inner.tokens ++ [.closeGroup])
  | .clause clause => [.clause clause]

end

/-- The steps spell a whole condition. -/
def IsSentence (tokens : List Event) : Prop :=
  ∃ sentence : Disjunction, sentence.tokens = tokens

/-- What a part of a sentence comes to: a condition, and the connective if that condition is
a chain of operands. A clause that was given whole is no chain, whatever its head is. -/
structure Reading where
  condition : Clause
  chained : Option Connective

/-- Head several conditions by a connective. -/
def Connective.node : Connective → List Clause → Clause
  | .and => .and
  | .or => .or

/-- The conditions directly below the head. -/
def childrenOf : Clause → List Clause
  | .and children => children
  | .or children => children
  | _ => []

@[simp] theorem childrenOf_node (connective : Connective) (children : List Clause) :
    childrenOf (connective.node children) = children := by
  cases connective <;> rfl

/-- The operands that the first part of a chain brings in: its own operands if it is a chain
under the same connective, and otherwise itself. -/
def Reading.operands (connective : Connective) (first : Reading) : List Clause :=
  if first.chained = some connective then childrenOf first.condition else [first.condition]

/-- A chain of parts under a connective. One part alone stays as it is; several become one
node with the operands in order. -/
def Reading.chain (connective : Connective) (first : Reading) (others : List Reading) :
    Reading :=
  match others with
  | [] => first
  | _ :: _ =>
      { condition := connective.node
          (first.operands connective ++ others.map (·.condition))
        chained := some connective }

mutual

/-- What a disjunction comes to. -/
def Disjunction.reading : Disjunction → Reading
  | .chain first others => .chain .or first.reading (Conjunction.readings others)

/-- What several conjunctions come to. -/
def Conjunction.readings : List Conjunction → List Reading
  | [] => []
  | next :: others => next.reading :: Conjunction.readings others

/-- What a conjunction comes to. -/
def Conjunction.reading : Conjunction → Reading
  | .chain first others => .chain .and first.reading (Factor.readings others)

/-- What several factors come to. -/
def Factor.readings : List Factor → List Reading
  | [] => []
  | next :: others => next.reading :: Factor.readings others

/-- What a factor comes to. Parentheses leave no trace but the chain inside them. -/
def Factor.reading : Factor → Reading
  | .not inner => { condition := .not inner.reading.condition, chained := none }
  | .group inner => inner.reading
  | .clause clause => { condition := clause, chained := none }

end

/-- The condition that a sentence stands for. -/
def Disjunction.tree (sentence : Disjunction) : Clause :=
  sentence.reading.condition

/-- What is left of a list of steps after at least one was read. -/
abbrev Rest (tokens : List Event) := { rest : List Event // rest.length < tokens.length }

/-- What is left of a list of steps after none or more were read. -/
abbrev Tail (tokens : List Event) := { rest : List Event // rest.length ≤ tokens.length }

theorem within_of_within {token : Event} {tokens rest left : List Event}
    (leftWithin : left.length ≤ rest.length) (restWithin : rest.length < tokens.length) :
    left.length ≤ (token :: tokens).length :=
  Nat.le_trans leftWithin (Nat.le_of_lt (Nat.lt_succ_of_lt restWithin))

mutual

/-- Read a disjunction off the front: a conjunction, and further ones after OR. -/
def disjunction? (tokens : List Event) : Option (Disjunction × Rest tokens) := do
  let (first, rest) ← conjunction? tokens
  let (others, left) ← alternatives? rest.1
  return (.chain first others, ⟨left.1, Nat.lt_of_le_of_lt left.2 rest.2⟩)
termination_by (tokens.length, 3)

/-- Read conjunctions for as long as an OR comes first. -/
def alternatives? (tokens : List Event) : Option (List Conjunction × Tail tokens) :=
  match tokens with
  | .connective .or :: tokens => do
      let (next, rest) ← conjunction? tokens
      let (others, left) ← alternatives? rest.1
      return (next :: others, ⟨left.1, within_of_within left.2 rest.2⟩)
  | tokens => some ([], ⟨tokens, Nat.le_refl _⟩)
termination_by (tokens.length, 2)

/-- Read a conjunction off the front: a factor, and further ones after AND. -/
def conjunction? (tokens : List Event) : Option (Conjunction × Rest tokens) := do
  let (first, rest) ← factor? tokens
  let (others, left) ← requirements? rest.1
  return (.chain first others, ⟨left.1, Nat.lt_of_le_of_lt left.2 rest.2⟩)
termination_by (tokens.length, 1)

/-- Read factors for as long as an AND comes first. -/
def requirements? (tokens : List Event) : Option (List Factor × Tail tokens) :=
  match tokens with
  | .connective .and :: tokens => do
      let (next, rest) ← factor? tokens
      let (others, left) ← requirements? rest.1
      return (next :: others, ⟨left.1, within_of_within left.2 rest.2⟩)
  | tokens => some ([], ⟨tokens, Nat.le_refl _⟩)
termination_by (tokens.length, 0)

/-- Read a factor off the front; the first step tells which. -/
def factor? (tokens : List Event) : Option (Factor × Rest tokens) :=
  match tokens with
  | .not :: tokens => do
      let (inner, rest) ← factor? tokens
      return (.not inner, ⟨rest.1, Nat.lt_succ_of_lt rest.2⟩)
  | .openGroup :: tokens => do
      match ← disjunction? tokens with
      | (inner, ⟨.closeGroup :: rest, shorter⟩) =>
          return (.group inner, ⟨rest, Nat.lt_succ_of_lt (Nat.lt_of_succ_lt shorter)⟩)
      | _ => none
  | .clause clause :: tokens => some (.clause clause, ⟨tokens, Nat.lt_succ_self _⟩)
  | _ => none
termination_by (tokens.length, 0)

end

/-- Read a whole sentence, with nothing left over. -/
def parse? (tokens : List Event) : Option Disjunction :=
  match disjunction? tokens with
  | some (sentence, ⟨[], _⟩) => some sentence
  | _ => none

/-- What follows a conjunction inside a disjunction does not begin with AND. -/
theorem head?_tailTokens_ne (others : List Conjunction) {rest : List Event}
    (noAnd : rest.head? ≠ some (.connective .and)) :
    (Conjunction.tailTokens others ++ rest).head? ≠ some (.connective .and) := by
  cases others with
  | nil => simpa [Conjunction.tailTokens] using noAnd
  | cons next others => simp [Conjunction.tailTokens]

mutual

/-- Reading the spelling of a factor gives the factor back, whatever follows. -/
theorem factor?_tokens : ∀ (factor : Factor) (rest : List Event) (tokens : List Event),
    tokens = factor.tokens ++ rest → ∃ shorter, factor? tokens = some (factor, ⟨rest, shorter⟩)
  | .not inner, rest, tokens, spelled => by
      obtain ⟨shorter, read⟩ := factor?_tokens inner rest _ rfl
      simp only [Factor.tokens, List.cons_append] at spelled
      subst spelled
      have within : rest.length < inner.tokens.length + rest.length + 1 := by omega
      rw [factor?]
      simp [read, within]
  | .group inner, rest, tokens, spelled => by
      simp only [Factor.tokens, List.cons_append, List.append_assoc, List.nil_append] at spelled
      subst spelled
      obtain ⟨shorter, read⟩ :=
        disjunction?_tokens inner (.closeGroup :: rest) _ (by simp) (by simp) rfl
      rw [factor?]
      simp [read]
      omega
  | .clause clause, rest, tokens, spelled => by
      simp only [Factor.tokens, List.cons_append, List.nil_append] at spelled
      subst spelled
      rw [factor?]
      simp

/-- Reading the spelling of a conjunction gives it back unless an AND follows. -/
theorem conjunction?_tokens : ∀ (conjunction : Conjunction) (rest : List Event)
    (tokens : List Event), rest.head? ≠ some (.connective .and) →
    tokens = conjunction.tokens ++ rest →
    ∃ shorter, conjunction? tokens = some (conjunction, ⟨rest, shorter⟩)
  | .chain first others, rest, tokens, ended, spelled => by
      simp only [Conjunction.tokens, List.append_assoc] at spelled
      obtain ⟨shorter, readFirst⟩ := factor?_tokens first _ tokens spelled
      obtain ⟨noLonger, readOthers⟩ := requirements?_tokens others rest _ ended rfl
      rw [conjunction?]
      simp [readFirst, readOthers]
      omega

/-- Reading the spelling of further factors gives them back unless an AND follows. -/
theorem requirements?_tokens : ∀ (others : List Factor) (rest : List Event)
    (tokens : List Event), rest.head? ≠ some (.connective .and) →
    tokens = Factor.tailTokens others ++ rest →
    ∃ noLonger, requirements? tokens = some (others, ⟨rest, noLonger⟩)
  | [], rest, tokens, ended, spelled => by
      simp only [Factor.tailTokens, List.nil_append] at spelled
      subst spelled
      rw [requirements?]
      · simp
      · rintro after rfl
        exact ended rfl
  | next :: others, rest, tokens, ended, spelled => by
      simp only [Factor.tailTokens, List.cons_append, List.append_assoc] at spelled
      subst spelled
      obtain ⟨shorter, readNext⟩ :=
        factor?_tokens next (Factor.tailTokens others ++ rest) _ rfl
      obtain ⟨noLonger, readOthers⟩ := requirements?_tokens others rest _ ended rfl
      rw [requirements?]
      simp [readNext, readOthers]
      omega

/-- Reading the spelling of a disjunction gives it back unless a connective follows. -/
theorem disjunction?_tokens : ∀ (disjunction : Disjunction) (rest : List Event)
    (tokens : List Event), rest.head? ≠ some (.connective .and) →
    rest.head? ≠ some (.connective .or) → tokens = disjunction.tokens ++ rest →
    ∃ shorter, disjunction? tokens = some (disjunction, ⟨rest, shorter⟩)
  | .chain first others, rest, tokens, noAnd, noOr, spelled => by
      simp only [Disjunction.tokens, List.append_assoc] at spelled
      have ended := head?_tailTokens_ne others noAnd
      obtain ⟨shorter, readFirst⟩ := conjunction?_tokens first _ tokens ended spelled
      obtain ⟨noLonger, readOthers⟩ := alternatives?_tokens others rest _ noAnd noOr rfl
      rw [disjunction?]
      simp [readFirst, readOthers]
      omega

/-- Reading the spelling of further conjunctions gives them back unless a connective
follows. -/
theorem alternatives?_tokens : ∀ (others : List Conjunction) (rest : List Event)
    (tokens : List Event), rest.head? ≠ some (.connective .and) →
    rest.head? ≠ some (.connective .or) → tokens = Conjunction.tailTokens others ++ rest →
    ∃ noLonger, alternatives? tokens = some (others, ⟨rest, noLonger⟩)
  | [], rest, tokens, _, noOr, spelled => by
      simp only [Conjunction.tailTokens, List.nil_append] at spelled
      subst spelled
      rw [alternatives?]
      · simp
      · rintro after rfl
        exact noOr rfl
  | next :: others, rest, tokens, noAnd, noOr, spelled => by
      simp only [Conjunction.tailTokens, List.cons_append, List.append_assoc] at spelled
      subst spelled
      have ended := head?_tailTokens_ne others noAnd
      obtain ⟨shorter, readNext⟩ := conjunction?_tokens next _ _ ended rfl
      obtain ⟨noLonger, readOthers⟩ := alternatives?_tokens others rest _ noAnd noOr rfl
      rw [alternatives?]
      simp [readNext, readOthers]
      omega

end


mutual

/-- A factor that was read is spelled by what was taken off. -/
theorem tokens_of_factor? (tokens : List Event) {factor : Factor} {rest : Rest tokens}
    (read : factor? tokens = some (factor, rest)) : factor.tokens ++ rest.1 = tokens := by
  match tokens with
  | .not :: after =>
      rw [factor?] at read
      simp only [Option.pure_def, Option.bind_eq_bind, Option.bind_eq_some_iff] at read
      obtain ⟨⟨inner, left⟩, readInner, same⟩ := read
      cases same
      simp [Factor.tokens, tokens_of_factor? after readInner]
  | .openGroup :: after =>
      rw [factor?] at read
      simp only [Option.pure_def, Option.bind_eq_bind, Option.bind_eq_some_iff] at read
      obtain ⟨⟨inner, left⟩, readInner, closed⟩ := read
      split at closed
      · next found =>
          cases closed
          cases found
          have spelled := tokens_of_disjunction? after readInner
          simpa [Factor.tokens] using spelled
      · cases closed
  | .clause clause :: after =>
      rw [factor?] at read
      cases read
      simp [Factor.tokens]
  | [] | .connective _ :: _ | .closeGroup :: _ =>
      rw [factor?] at read
      · cases read
      all_goals simp
termination_by (tokens.length, 0)

/-- A disjunction that was read is spelled by what was taken off. -/
theorem tokens_of_disjunction? (tokens : List Event) {disjunction : Disjunction}
    {rest : Rest tokens} (read : disjunction? tokens = some (disjunction, rest)) :
    disjunction.tokens ++ rest.1 = tokens := by
  rw [disjunction?] at read
  simp only [Option.pure_def, Option.bind_eq_bind, Option.bind_eq_some_iff] at read
  obtain ⟨⟨first, left⟩, readFirst, ⟨others, final⟩, readOthers, same⟩ := read
  cases same
  have spelledFirst := tokens_of_conjunction? tokens readFirst
  have spelledOthers := tokens_of_alternatives? left.1 readOthers
  simp [Disjunction.tokens, spelledOthers, spelledFirst]
termination_by (tokens.length, 3)

/-- Further conjunctions that were read are spelled by what was taken off. -/
theorem tokens_of_alternatives? (tokens : List Event) {others : List Conjunction}
    {rest : Tail tokens} (read : alternatives? tokens = some (others, rest)) :
    Conjunction.tailTokens others ++ rest.1 = tokens := by
  match tokens with
  | .connective .or :: after =>
      rw [alternatives?] at read
      simp only [Option.pure_def, Option.bind_eq_bind, Option.bind_eq_some_iff] at read
      obtain ⟨⟨next, left⟩, readNext, ⟨later, final⟩, readLater, same⟩ := read
      cases same
      have spelledNext := tokens_of_conjunction? after readNext
      have spelledLater := tokens_of_alternatives? left.1 readLater
      simp [Conjunction.tailTokens, spelledLater, spelledNext]
  | [] | .connective .and :: _ | .clause _ :: _ | .not :: _ | .openGroup :: _
  | .closeGroup :: _ =>
      rw [alternatives?] at read
      · cases read
        simp [Conjunction.tailTokens]
      · simp
termination_by (tokens.length, 2)

/-- A conjunction that was read is spelled by what was taken off. -/
theorem tokens_of_conjunction? (tokens : List Event) {conjunction : Conjunction}
    {rest : Rest tokens} (read : conjunction? tokens = some (conjunction, rest)) :
    conjunction.tokens ++ rest.1 = tokens := by
  rw [conjunction?] at read
  simp only [Option.pure_def, Option.bind_eq_bind, Option.bind_eq_some_iff] at read
  obtain ⟨⟨first, left⟩, readFirst, ⟨others, final⟩, readOthers, same⟩ := read
  cases same
  have spelledFirst := tokens_of_factor? tokens readFirst
  have spelledOthers := tokens_of_requirements? left.1 readOthers
  simp [Conjunction.tokens, spelledOthers, spelledFirst]
termination_by (tokens.length, 1)

/-- Further factors that were read are spelled by what was taken off. -/
theorem tokens_of_requirements? (tokens : List Event) {others : List Factor}
    {rest : Tail tokens} (read : requirements? tokens = some (others, rest)) :
    Factor.tailTokens others ++ rest.1 = tokens := by
  match tokens with
  | .connective .and :: after =>
      rw [requirements?] at read
      simp only [Option.pure_def, Option.bind_eq_bind, Option.bind_eq_some_iff] at read
      obtain ⟨⟨next, left⟩, readNext, ⟨later, final⟩, readLater, same⟩ := read
      cases same
      have spelledNext := tokens_of_factor? after readNext
      have spelledLater := tokens_of_requirements? left.1 readLater
      simp [Factor.tailTokens, spelledLater, spelledNext]
  | [] | .connective .or :: _ | .clause _ :: _ | .not :: _ | .openGroup :: _
  | .closeGroup :: _ =>
      rw [requirements?] at read
      · cases read
        simp [Factor.tailTokens]
      · simp
termination_by (tokens.length, 0)

end

/-- The parser finds a derivation of exactly what spells it, so there is never a second
derivation. -/
theorem parse?_eq_some_iff {tokens : List Event} {sentence : Disjunction} :
    parse? tokens = some sentence ↔ sentence.tokens = tokens := by
  constructor
  · intro parsed
    unfold parse? at parsed
    split at parsed
    · next found read =>
        cases parsed
        simpa using tokens_of_disjunction? tokens read
    · cases parsed
  · intro spelled
    obtain ⟨shorter, read⟩ :=
      disjunction?_tokens sentence [] tokens (by simp) (by simp) (by simp [spelled])
    simp [parse?, read]

end Criteria.Assembly
