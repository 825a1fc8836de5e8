/-
Module: Criteria.Proofs.Assembly.ReadingBack
Purpose: The text of a condition says what the condition means: an assembler that is fed its
  steps builds the condition again, up to splicing.
Main exports:
  Clause.reading, Clause.Spelled, Clause.Flat.spelled, feed_of_isSentence,
  rendering_loses_no_meaning
-/
import Mathlib.Data.List.Induction
import Criteria.Proofs.Assembly.Recognition
import Criteria.Proofs.Assembly.Spelling

namespace Criteria.Clause

open Criteria.Assembly

/-- The condition as what a part of a sentence comes to: a chain if a connective heads it. -/
def reading (clause : Clause) : Reading :=
  { condition := clause, chained := clause.head? }

/-- In each place of a sentence there is a part that shows the steps that the condition shows
there, and that comes to the condition. -/
structure Spelled (clause : Clause) : Prop where
  factor : ∃ factor : Factor,
    factor.tokens = clause.eventsWithin 3 ∧ factor.reading = clause.reading
  conjunction : ∃ conjunction : Conjunction,
    conjunction.tokens = clause.eventsWithin 2 ∧ conjunction.reading = clause.reading
  disjunction : ∃ disjunction : Disjunction,
    disjunction.tokens = clause.events ∧ disjunction.reading = clause.reading

/-! ### Chains -/

/-- Children that are not headed by the connective are the operands of the chain. -/
theorem chain_reading {connective : Connective} {first : Clause} {others : List Clause}
    (apart : first.head? ≠ some connective) (several : others ≠ []) :
    Reading.chain connective first.reading (others.map reading) =
      (connective.node (first :: others)).reading := by
  obtain ⟨second, rest, rfl⟩ := List.exists_cons_of_ne_nil several
  have operands : first.reading.operands connective = [first] := if_neg apart
  have conditions : ((second :: rest).map reading).map (·.condition) = second :: rest := by
    rw [List.map_map]
    exact List.map_id _
  calc Reading.chain connective first.reading ((second :: rest).map reading)
      = { condition := connective.node (first.reading.operands connective ++
            ((second :: rest).map reading).map (·.condition))
          chained := some connective } := rfl
    _ = (connective.node (first :: second :: rest)).reading := by
        rw [operands, conditions, List.singleton_append, reading, head?_node]

theorem eventsWithin_of_not_and {clause : Clause} (apart : clause.head? ≠ some .and) :
    clause.eventsWithin 3 = clause.eventsWithin 2 := by
  cases clause with
  | and children => exact absurd rfl apart
  | terminal leaf => rfl
  | or children => rfl
  | not child => rfl

theorem eventsWithin_of_not_or {clause : Clause} (apart : clause.head? ≠ some .or) :
    clause.eventsWithin 2 = clause.eventsWithin 1 := by
  cases clause with
  | or children => exact absurd rfl apart
  | terminal leaf => rfl
  | and children => rfl
  | not child => rfl

/-- The children of an AND are factors. -/
theorem exists_factors {children : List Clause}
    (apart : ∀ child ∈ children, child.head? ≠ some .and)
    (each : ∀ child ∈ children, child.Spelled) :
    ∃ factors : List Factor, Factor.tailTokens factors = tailEvents .and children ∧
      Factor.readings factors = children.map reading := by
  induction children with
  | nil => exact ⟨[], rfl, rfl⟩
  | cons child children ih =>
      rw [List.forall_mem_cons] at apart each
      obtain ⟨factor, tokens, same⟩ := each.1.factor
      obtain ⟨factors, tailTokens, sames⟩ := ih apart.2 each.2
      refine ⟨factor :: factors, ?_, ?_⟩
      · rw [Factor.tailTokens, tokens, eventsWithin_of_not_and apart.1, tailTokens]
        rfl
      · rw [Factor.readings, same, sames, List.map_cons]

/-- The children of an OR are conjunctions. -/
theorem exists_conjunctions {children : List Clause}
    (apart : ∀ child ∈ children, child.head? ≠ some .or)
    (each : ∀ child ∈ children, child.Spelled) :
    ∃ conjunctions : List Conjunction,
      Conjunction.tailTokens conjunctions = tailEvents .or children ∧
      Conjunction.readings conjunctions = children.map reading := by
  induction children with
  | nil => exact ⟨[], rfl, rfl⟩
  | cons child children ih =>
      rw [List.forall_mem_cons] at apart each
      obtain ⟨conjunction, tokens, same⟩ := each.1.conjunction
      obtain ⟨conjunctions, tailTokens, sames⟩ := ih apart.2 each.2
      refine ⟨conjunction :: conjunctions, ?_, ?_⟩
      · rw [Conjunction.tailTokens, tokens, eventsWithin_of_not_or apart.1, tailTokens]
        rfl
      · rw [Conjunction.readings, same, sames, List.map_cons]

/-! ### Places of a sentence -/

/-- A disjunction of a single conjunction. -/
theorem tokens_single_conjunction (only : Conjunction) :
    (Disjunction.chain only []).tokens = only.tokens := by
  rw [Disjunction.tokens, Conjunction.tailTokens, List.append_nil]

/-- A conjunction of a single factor. -/
theorem tokens_single_factor (only : Factor) :
    (Conjunction.chain only []).tokens = only.tokens := by
  rw [Conjunction.tokens, Factor.tailTokens, List.append_nil]

/-- What never needs parentheses is a factor, and in the other places a chain of one. -/
theorem spelled_of_factor {clause : Clause} (tight : 3 ≤ clause.precedence)
    (spelled : ∃ factor : Factor,
      factor.tokens = clause.events ∧ factor.reading = clause.reading) : clause.Spelled := by
  obtain ⟨factor, tokens, same⟩ := spelled
  constructor
  · exact ⟨factor, tokens.trans (eventsWithin_of_le tight).symm, same⟩
  · refine ⟨.chain factor [], ?_, same⟩
    rw [tokens_single_factor, tokens, eventsWithin_of_le (Nat.le_of_succ_le tight)]
  · refine ⟨.chain (.chain factor []) [], ?_, same⟩
    rw [tokens_single_conjunction, tokens_single_factor, tokens]

theorem spelled_terminal (leaf : Terminal) : (terminal leaf).Spelled :=
  spelled_of_factor (Nat.le_succ 3) ⟨.clause (.terminal leaf), rfl, rfl⟩

theorem spelled_not {child : Clause} (spelled : child.Spelled) : (not child).Spelled := by
  obtain ⟨factor, tokens, same⟩ := spelled.factor
  have tight : 3 ≤ (not child).precedence := Nat.le_refl 3
  apply spelled_of_factor tight
  refine ⟨.not factor, ?_, ?_⟩
  · rw [Factor.tokens, tokens]
    rfl
  · rw [Factor.reading, same]
    rfl

/-- An AND is a conjunction. Under NOT it stands in parentheses. -/
theorem spelled_and {children : List Clause} (several : 2 ≤ children.length)
    (apart : ∀ child ∈ children, child.head? ≠ some .and)
    (each : ∀ child ∈ children, child.Spelled) : (and children).Spelled := by
  have spelled : ∃ conjunction : Conjunction,
      conjunction.tokens = (and children).events ∧
        conjunction.reading = (and children).reading := by
    obtain ⟨factors, tokens, same⟩ := exists_factors apart each
    match children, factors with
    | first :: second :: others, factor :: factors =>
        have someChildren : first :: second :: others ≠ [] := List.cons_ne_nil _ _
        rw [← cons_events_node someChildren, Factor.tailTokens, List.cons.injEq] at tokens
        rw [Factor.readings, List.map_cons, List.cons.injEq] at same
        refine ⟨.chain factor factors, tokens.2, ?_⟩
        rw [Conjunction.reading, same.1, same.2]
        exact chain_reading (apart first (List.mem_cons_self ..)) (List.cons_ne_nil _ _)
  obtain ⟨conjunction, tokens, same⟩ := spelled
  constructor
  · refine ⟨.group (.chain conjunction []), ?_, same⟩
    rw [Factor.tokens, tokens_single_conjunction, tokens, eventsWithin_of_lt (Nat.lt_succ_self 2)]
  · exact ⟨conjunction, tokens, same⟩
  · exact ⟨.chain conjunction [], (tokens_single_conjunction conjunction).trans tokens, same⟩

/-- An OR is a disjunction. Under AND and NOT it stands in parentheses. -/
theorem spelled_or {children : List Clause} (several : 2 ≤ children.length)
    (apart : ∀ child ∈ children, child.head? ≠ some .or)
    (each : ∀ child ∈ children, child.Spelled) : (or children).Spelled := by
  have spelled : ∃ disjunction : Disjunction,
      disjunction.tokens = (or children).events ∧
        disjunction.reading = (or children).reading := by
    obtain ⟨conjunctions, tokens, same⟩ := exists_conjunctions apart each
    match children, conjunctions with
    | first :: second :: others, conjunction :: conjunctions =>
        have someChildren : first :: second :: others ≠ [] := List.cons_ne_nil _ _
        rw [← cons_events_node someChildren, Conjunction.tailTokens, List.cons.injEq] at tokens
        rw [Conjunction.readings, List.map_cons, List.cons.injEq] at same
        refine ⟨.chain conjunction conjunctions, tokens.2, ?_⟩
        rw [Disjunction.reading, same.1, same.2]
        exact chain_reading (apart first (List.mem_cons_self ..)) (List.cons_ne_nil _ _)
  obtain ⟨disjunction, tokens, same⟩ := spelled
  have grouped : (Factor.group disjunction).tokens =
      .openGroup :: ((or children).events ++ [.closeGroup]) := by
    rw [Factor.tokens, tokens]
  constructor
  · exact ⟨.group disjunction, grouped, same⟩
  · exact ⟨.chain (.group disjunction) [], (tokens_single_factor _).trans grouped, same⟩
  · exact ⟨disjunction, tokens, same⟩

/-- A condition with nothing to splice is spelled by a sentence that comes to it. -/
theorem Flat.spelled {clause : Clause} (flat : clause.Flat) : clause.Spelled := by
  induction flat with
  | terminal leaf => exact spelled_terminal leaf
  | node connective several apart each ih =>
      cases connective with
      | and => exact spelled_and several apart ih
      | or => exact spelled_or several apart ih
  | not inner ih => exact spelled_not ih

end Criteria.Clause

namespace Criteria.Assembly

/-! ### Feeding sentences -/

/-- Every step on the way to a sentence is accepted. -/
theorem feed_accepted_of_prefix {before events : List Event} (sentence : IsSentence events)
    (begins : before <+: events) : (feed before).accepted = before := by
  induction before using List.reverseRecOn with
  | nil => rfl
  | append_singleton before event ih =>
      have earlier : (feed before).accepted = before :=
        ih ((List.prefix_append before [event]).trans begins)
      obtain ⟨outline, reads⟩ := exists_reads before
      obtain ⟨after, accepted⟩ := (reads.accepts_iff event).mpr
        ⟨events, sentence, by rwa [earlier]⟩
      have last : feed (before ++ [event]) = (feed before).next event := by
        rw [feed, List.foldl_append]
        rfl
      rw [last, Feed.next, accepted]
      exact congrArg (· ++ [event]) earlier

/-- A sentence is accepted as a whole, and it leaves the assembler outside all groups. -/
theorem feed_of_isSentence {events : List Event} (sentence : IsSentence events) :
    (feed events).accepted = events ∧ (feed events).assembler.phase = .afterOperand ∧
      (feed events).assembler.level = 0 := by
  have accepted := feed_accepted_of_prefix sentence (List.prefix_refl events)
  obtain ⟨outline, reads⟩ := exists_reads events
  have whole : IsSentence (feed events).accepted := by rwa [accepted]
  obtain ⟨current, last, rfl⟩ := reads.complete_of_isSentence whole
  exact ⟨accepted, reads.follows.phase, reads.follows.level⟩

/-- The steps that the text of a condition shows are all accepted, and what is built from them
is the condition with nothing left to splice: it has the same text, the same terminals in the
same order and the same truth value whatever the terminals mean. -/
theorem rendering_loses_no_meaning (clause : Clause) (branches : clause.Branches) :
    spelling clause.events = clause.render ∧
    (feed clause.events).accepted = clause.events ∧
    (feed clause.events).assembler.phase = .afterOperand ∧
    (feed clause.events).assembler.level = 0 ∧
    ∃ built, (feed clause.events).assembler.build? = .ok (some built) ∧
      built = clause.spliced ∧
      built.render = clause.render ∧
      built.terminals = clause.terminals ∧
      ∀ truth, built.Holds truth ↔ clause.Holds truth := by
  obtain ⟨sentence, tokens, reading⟩ := branches.flat_spliced.spelled.disjunction
  rw [branches.events_spliced] at tokens
  obtain ⟨accepted, phase, level⟩ := feed_of_isSentence ⟨sentence, tokens⟩
  have built : (feed clause.events).assembler.build? = .ok (some clause.spliced) := by
    obtain ⟨outline, reads⟩ := exists_reads clause.events
    rw [reads.build?_iff, accepted, parse?_eq_some_iff.mpr tokens, Option.map_some,
      Disjunction.tree, reading]
    rfl
  exact ⟨clause.spelling_events, accepted, phase, level, clause.spliced, built, rfl,
    branches.render_spliced, clause.terminals_spliced, fun _ => clause.holds_spliced_iff⟩

/-- A rank that is asked for. -/
def rankIs (rank : String) : Clause :=
  .terminal (.equals "rank" (.value (.text rank)))

/-- Chains inside chains, on the left of an AND and on the right under NOT. -/
def nestedChains : Clause :=
  .or [.and [.and [rankIs "1", rankIs "2"], rankIs "3"],
    .or [rankIs "4", .not (.or [rankIs "5", .not (rankIs "6")])]]

/-- Only the OR under NOT stands in parentheses. The AND inside the AND and the OR inside the OR
are spliced. -/
theorem rendering_loses_no_meaning_of_nestedChains :
    nestedChains.Branches ∧
    ∃ built, (feed nestedChains.events).assembler.build? = .ok (some built) ∧
      built = .or [.and [rankIs "1", rankIs "2", rankIs "3"], rankIs "4",
        .not (.or [rankIs "5", .not (rankIs "6")])] ∧
      built.render = nestedChains.render := by
  have leaf (rank : String) : (rankIs rank).Branches := .terminal _
  have branches : nestedChains.Branches :=
    .pair .or (.pair .and (.pair .and (leaf "1") (leaf "2")) (leaf "3"))
      (.pair .or (leaf "4") (.not (.pair .or (leaf "5") (.not (leaf "6")))))
  obtain ⟨_, _, _, _, built, isBuilt, same, text, _⟩ :=
    rendering_loses_no_meaning nestedChains branches
  exact ⟨branches, built, isBuilt, same, text⟩

end Criteria.Assembly
