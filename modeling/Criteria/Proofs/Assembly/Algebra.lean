/-
Module: Criteria.Proofs.Assembly.Algebra
Purpose: The algebra of drafts: whatever was joined, combined and negated, the condition that comes
  out has the leaves and the meaning of the expression it was put together by.
Main exports:
  Draft.Filled, Draft.Holds, Draft.leaves, Draft.StandsFor, Draft.Filled.standsFor, Expression,
  Expression.draft?, drafts_keep_the_meaning_of_expressions
-/
import Criteria.Proofs.Assembly.ReadingBack

namespace Criteria.Assembly

/-- What a connective makes of two truth values. -/
def Connective.Joins : Connective → Prop → Prop → Prop
  | .and, first, second => first ∧ second
  | .or, first, second => first ∨ second

theorem Connective.joins_assoc (connective : Connective) (first second third : Prop) :
    connective.Joins (connective.Joins first second) third ↔
      connective.Joins first (connective.Joins second third) := by
  cases connective with
  | and => exact and_assoc
  | or => exact or_assoc

theorem Connective.joins_congr (connective : Connective) {first second other another : Prop}
    (sameFirst : first ↔ other) (sameSecond : second ↔ another) :
    connective.Joins first second ↔ connective.Joins other another := by
  rw [sameFirst, sameSecond]

/-! ### Drafts -/

namespace Draft

/-- Every connective in the draft has a child. -/
inductive Filled : Draft → Prop where
  | single (clause : Clause) : Filled (.single clause)
  | multi (connective : Connective) {children : List Draft} (some : children ≠ [])
      (each : ∀ child ∈ children, Filled child) : Filled (.multi connective children)
  | not {inner : Draft} (filled : Filled inner) : Filled (.not inner)

mutual

/-- The clauses at the leaves of the draft, from left to right. -/
def leaves : Draft → List Clause
  | .single clause => [clause]
  | .multi _ children => leavesOf children
  | .not inner => inner.leaves

/-- The clauses at the leaves of several drafts. -/
def leavesOf : List Draft → List Clause
  | [] => []
  | child :: children => child.leaves ++ leavesOf children

end

mutual

/-- The draft holds if its terminals hold as told. -/
def Holds (truth : Terminal → Prop) : Draft → Prop
  | .single clause => clause.Holds truth
  | .multi .and children => AllHold truth children
  | .multi .or children => AnyHolds truth children
  | .not inner => ¬ inner.Holds truth

/-- All of several drafts hold. -/
def AllHold (truth : Terminal → Prop) : List Draft → Prop
  | [] => True
  | child :: children => child.Holds truth ∧ AllHold truth children

/-- Any of several drafts holds. -/
def AnyHolds (truth : Terminal → Prop) : List Draft → Prop
  | [] => False
  | child :: children => child.Holds truth ∨ AnyHolds truth children

end

/-- The draft stands for the condition: it has the terminals of the leaves in their order and the
meaning of the draft, and if every connective in the leaves has two children at least, so has every
one in it. -/
structure StandsFor (draft : Draft) (clause : Clause) : Prop where
  whole : draft.toClause? = some clause
  terminals : clause.terminals = Clause.terminalsOf draft.leaves
  truth : ∀ truth, clause.Holds truth ↔ draft.Holds truth
  branches : (∀ leaf ∈ draft.leaves, leaf.Branches) → clause.Branches

theorem standsFor_single (clause : Clause) : (single clause).StandsFor clause where
  whole := rfl
  terminals := (List.append_nil _).symm
  truth _ := Iff.rfl
  branches each := each clause (List.mem_singleton_self clause)

theorem StandsFor.not {inner : Draft} {clause : Clause} (stands : inner.StandsFor clause) :
    (Draft.not inner).StandsFor (.not clause) where
  whole := by rw [toClause?, stands.whole, Option.map_some]
  terminals := stands.terminals
  truth truth := not_congr (stands.truth truth)
  branches each := .not (stands.branches each)

/-- Clauses headed by a connective have the meaning of the connective, even if there is only one,
which stays as it is. -/
theorem exists_joined (connective : Connective) {clauses : List Clause} (some : clauses ≠ []) :
    ∃ clause, joined? connective clauses = Option.some clause ∧
      clause.terminals = Clause.terminalsOf clauses ∧
      (∀ truth, clause.Holds truth ↔ (connective.node clauses).Holds truth) ∧
      ((∀ child ∈ clauses, child.Branches) → clause.Branches) := by
  match clauses, some with
  | [only], _ =>
      refine ⟨only, rfl, (List.append_nil _).symm, ?_, ?_⟩
      · intro truth
        cases connective with
        | and => simp [Connective.node, Clause.Holds, Clause.AllHold]
        | or => simp [Connective.node, Clause.Holds, Clause.AnyHolds]
      · exact fun each => each only (List.mem_singleton_self only)
  | first :: second :: others, _ =>
      have several : 2 ≤ (first :: second :: others).length := Nat.le_add_left 2 others.length
      refine ⟨connective.node (first :: second :: others), joined?_of_two_le connective several,
        Clause.terminals_node _ _, fun truth => Iff.rfl, ?_⟩
      exact fun each => .node connective several each

/-- Several drafts stand for several clauses, one for one. -/
structure StandFor (drafts : List Draft) (clauses : List Clause) : Prop where
  whole : toClauses drafts = clauses
  sameLength : drafts.length = clauses.length
  terminals : Clause.terminalsOf clauses = Clause.terminalsOf (leavesOf drafts)
  all : ∀ truth, Clause.AllHold truth clauses ↔ AllHold truth drafts
  any : ∀ truth, Clause.AnyHolds truth clauses ↔ AnyHolds truth drafts
  branches : (∀ leaf ∈ leavesOf drafts, leaf.Branches) → ∀ clause ∈ clauses, clause.Branches

theorem standFor_of_forall {drafts : List Draft}
    (each : ∀ draft ∈ drafts, ∃ clause, draft.StandsFor clause) :
    ∃ clauses, StandFor drafts clauses := by
  induction drafts with
  | nil =>
      exact ⟨[], rfl, rfl, rfl, fun _ => Iff.rfl, fun _ => Iff.rfl, fun _ => List.forall_mem_nil _⟩
  | cons draft drafts ih =>
      obtain ⟨first, eachLater⟩ := List.forall_mem_cons.mp each
      obtain ⟨clause, stands⟩ := first
      obtain ⟨clauses, later⟩ := ih eachLater
      refine ⟨clause :: clauses, ?_, ?_, ?_, ?_, ?_, ?_⟩
      · rw [toClauses, stands.whole, later.whole]
      · rw [List.length_cons, List.length_cons, later.sameLength]
      · rw [Clause.terminalsOf, leavesOf, Clause.terminalsOf_append, stands.terminals,
          later.terminals]
      · exact fun truth => and_congr (stands.truth truth) (later.all truth)
      · exact fun truth => or_congr (stands.truth truth) (later.any truth)
      · intro eachLeaf
        obtain ⟨ofFirst, ofLater⟩ := List.forall_mem_append.mp eachLeaf
        exact List.forall_mem_cons.mpr ⟨stands.branches ofFirst, later.branches ofLater⟩

/-- A draft in which every connective has a child stands for a condition. -/
theorem Filled.standsFor {draft : Draft} (filled : draft.Filled) :
    ∃ clause, draft.StandsFor clause := by
  induction filled with
  | single clause => exact ⟨clause, standsFor_single clause⟩
  | @multi connective children some each ih =>
      obtain ⟨clauses, stand⟩ := standFor_of_forall ih
      have someClause : clauses ≠ [] := by
        rw [← List.length_pos_iff, ← stand.sameLength]
        exact List.length_pos_iff.mpr some
      obtain ⟨clause, joined, terminals, truth, branches⟩ := exists_joined connective someClause
      refine ⟨clause, ?_, ?_, ?_, ?_⟩
      · rw [toClause?, stand.whole, joined]
      · rw [terminals, stand.terminals, leaves]
      · intro assigned
        rw [truth]
        cases connective with
        | and => exact stand.all assigned
        | or => exact stand.any assigned
      · exact fun eachLeaf => branches (stand.branches eachLeaf)
  | not filled ih =>
      obtain ⟨clause, stands⟩ := ih
      exact ⟨.not clause, stands.not⟩

/-! ### One step of the algebra -/

section

variable {truth : Terminal → Prop}

theorem leavesOf_append (first second : List Draft) :
    leavesOf (first ++ second) = leavesOf first ++ leavesOf second := by
  induction first with
  | nil => rfl
  | cons child first ih => rw [List.cons_append, leavesOf, ih, leavesOf, List.append_assoc]

theorem allHold_append_iff (first second : List Draft) :
    AllHold truth (first ++ second) ↔ AllHold truth first ∧ AllHold truth second := by
  induction first with
  | nil => simp [AllHold]
  | cons child first ih => rw [List.cons_append, AllHold, ih, AllHold, and_assoc]

theorem anyHolds_append_iff (first second : List Draft) :
    AnyHolds truth (first ++ second) ↔ AnyHolds truth first ∨ AnyHolds truth second := by
  induction first with
  | nil => simp [AnyHolds]
  | cons child first ih => rw [List.cons_append, AnyHolds, ih, AnyHolds, or_assoc]

/-- The draft is one connective over two others, in whatever way it is nested: it has their leaves,
one after the other, and says what the connective makes of them. -/
structure Combines (connective : Connective) (left right draft : Draft) : Prop where
  filled : draft.Filled
  leaves : draft.leaves = left.leaves ++ right.leaves
  truth : ∀ truth, draft.Holds truth ↔ connective.Joins (left.Holds truth) (right.Holds truth)

theorem combines_appended (connective : Connective) {children : List Draft} {right : Draft}
    (filled : (multi connective children).Filled) (ofRight : right.Filled) :
    Combines connective (multi connective children) right
      (multi connective (children ++ [right])) where
  filled := by
    cases filled with
    | multi _ some each =>
        refine .multi connective (List.append_ne_nil_of_left_ne_nil some _) ?_
        exact List.forall_mem_append.mpr ⟨each, List.forall_mem_singleton.mpr ofRight⟩
  leaves := by
    rw [Draft.leaves, leavesOf_append, leavesOf, leavesOf, List.append_nil, Draft.leaves]
  truth truth := by
    cases connective with
    | and =>
        rw [Holds, allHold_append_iff, AllHold, AllHold, and_true, Holds]
        rfl
    | or =>
        rw [Holds, anyHolds_append_iff, AnyHolds, AnyHolds, or_false, Holds]
        rfl

theorem combines_wrapped (connective : Connective) {left right : Draft} (ofLeft : left.Filled)
    (ofRight : right.Filled) : Combines connective left right (multi connective [left, right]) where
  filled := by
    refine .multi connective (List.cons_ne_nil _ _) ?_
    exact List.forall_mem_cons.mpr ⟨ofLeft, List.forall_mem_singleton.mpr ofRight⟩
  leaves := by rw [Draft.leaves, leavesOf, leavesOf, leavesOf, List.append_nil]
  truth truth := by
    cases connective with
    | and =>
        rw [Holds, AllHold, AllHold, AllHold, and_true]
        rfl
    | or =>
        rw [Holds, AnyHolds, AnyHolds, AnyHolds, or_false]
        rfl

/-- Drafts can always be combined under a connective. -/
theorem exists_combine? (connective : Connective) {left right : Draft} (ofLeft : left.Filled)
    (ofRight : right.Filled) :
    ∃ draft, left.combine? (.connective connective) (some right) = .ok draft ∧
      Combines connective left right draft := by
  have wrapped := combines_wrapped connective ofLeft ofRight
  cases left with
  | single clause => exact ⟨_, rfl, wrapped⟩
  | not inner => exact ⟨_, rfl, wrapped⟩
  | multi head children =>
      by_cases same : head = connective
      · subst same
        exact ⟨_, if_pos rfl, combines_appended head ofLeft ofRight⟩
      · exact ⟨_, if_neg same, wrapped⟩

end

end Draft

/-! ### Expressions -/

/-- How a draft is put together: a clause taken as it is, several drafts joined under a symbol, a
draft combined with another or with none, or a copy. -/
inductive Expression where
  | single (clause : Clause)
  | multi (symbol : Symbol) (children : List Expression)
  | combine (left : Expression) (symbol : Symbol) (right : Expression)
  | combineAlone (left : Expression) (symbol : Symbol)
  | copy (original : Expression)

namespace Expression

mutual

/-- Carry out the operations. The first that is refused ends it. -/
def draft? : Expression → Except ArgumentFault Draft
  | .single clause => .ok (.single clause)
  | .multi symbol children => do
      let drafts ← draftsOf? children
      Draft.multi? symbol drafts
  | .combine left symbol right => do
      let leftDraft ← left.draft?
      let rightDraft ← right.draft?
      leftDraft.combine? symbol (some rightDraft)
  | .combineAlone left symbol => do
      let leftDraft ← left.draft?
      leftDraft.combine? symbol none
  | .copy original => original.draft?

/-- Carry out the operations of several expressions. -/
def draftsOf? : List Expression → Except ArgumentFault (List Draft)
  | [] => .ok []
  | child :: children => do
      let draft ← child.draft?
      let drafts ← draftsOf? children
      return draft :: drafts

end

mutual

/-- The clauses that the expression is about, from left to right. Negation leaves what stands on its
right aside. -/
def leaves : Expression → List Clause
  | .single clause => [clause]
  | .multi _ children => leavesOf children
  | .combine left .not _ => left.leaves
  | .combine left _ right => left.leaves ++ right.leaves
  | .combineAlone left _ => left.leaves
  | .copy original => original.leaves

/-- The clauses that several expressions are about. -/
def leavesOf : List Expression → List Clause
  | [] => []
  | child :: children => child.leaves ++ leavesOf children

end

mutual

/-- What the expression says: a connective joins what stands under it, negation is of the left side,
and other symbols say nothing. -/
def Holds (truth : Terminal → Prop) : Expression → Prop
  | .single clause => clause.Holds truth
  | .multi (.connective .and) children => AllHold truth children
  | .multi (.connective .or) children => AnyHolds truth children
  | .multi _ _ => False
  | .combine left .not _ => ¬ left.Holds truth
  | .combine left (.connective connective) right =>
      connective.Joins (left.Holds truth) (right.Holds truth)
  | .combine _ _ _ => False
  | .combineAlone left .not => ¬ left.Holds truth
  | .combineAlone _ _ => False
  | .copy original => original.Holds truth

/-- All of several expressions hold. -/
def AllHold (truth : Terminal → Prop) : List Expression → Prop
  | [] => True
  | child :: children => child.Holds truth ∧ AllHold truth children

/-- Any of several expressions holds. -/
def AnyHolds (truth : Terminal → Prop) : List Expression → Prop
  | [] => False
  | child :: children => child.Holds truth ∨ AnyHolds truth children

end

/-- The condition that comes out of the expression, if no operation is refused. -/
def clause? (expression : Expression) : Option Clause :=
  match expression.draft? with
  | .ok draft => draft.toClause?
  | .error _ => none

/-- The draft is what the expression says: every connective in it has a child, and it has the leaves
and the meaning of the expression. -/
structure Describes (expression : Expression) (draft : Draft) : Prop where
  filled : draft.Filled
  leaves : draft.leaves = expression.leaves
  truth : ∀ truth, draft.Holds truth ↔ expression.Holds truth

/-- The drafts are what the expressions say, one for one. -/
structure DescribeEach (expressions : List Expression) (drafts : List Draft) : Prop where
  filled : ∀ draft ∈ drafts, draft.Filled
  leaves : Draft.leavesOf drafts = leavesOf expressions
  all : ∀ truth, Draft.AllHold truth drafts ↔ AllHold truth expressions
  any : ∀ truth, Draft.AnyHolds truth drafts ↔ AnyHolds truth expressions

theorem DescribeEach.multi {symbol : Symbol} {children : List Expression} {drafts : List Draft}
    {draft : Draft} (each : DescribeEach children drafts)
    (made : Draft.multi? symbol drafts = .ok draft) : (multi symbol children).Describes draft := by
  cases symbol with
  | connective connective =>
      cases drafts with
      | nil => cases made
      | cons first others =>
          cases made
          refine ⟨.multi connective (List.cons_ne_nil first others) each.filled, each.leaves, ?_⟩
          intro truth
          cases connective with
          | and => exact each.all truth
          | or => exact each.any truth
  | finish => cases made
  | openGroup => cases made
  | closeGroup => cases made
  | not => cases made

theorem Describes.combine {left right : Expression} {symbol : Symbol}
    {leftDraft rightDraft draft : Draft} (ofLeft : left.Describes leftDraft)
    (ofRight : right.Describes rightDraft)
    (made : leftDraft.combine? symbol (some rightDraft) = .ok draft) :
    (combine left symbol right).Describes draft := by
  cases symbol with
  | not =>
      cases made
      exact ⟨.not ofLeft.filled, ofLeft.leaves, fun truth => not_congr (ofLeft.truth truth)⟩
  | connective connective =>
      obtain ⟨combined, isCombined, combines⟩ :=
        Draft.exists_combine? connective ofLeft.filled ofRight.filled
      rw [isCombined] at made
      cases made
      refine ⟨combines.filled, ?_, ?_⟩
      · rw [combines.leaves, ofLeft.leaves, ofRight.leaves]
        rfl
      · intro truth
        rw [combines.truth]
        exact connective.joins_congr (ofLeft.truth truth) (ofRight.truth truth)
  | finish => cases made
  | openGroup => cases made
  | closeGroup => cases made

theorem Describes.combineAlone {left : Expression} {symbol : Symbol} {leftDraft draft : Draft}
    (ofLeft : left.Describes leftDraft) (made : leftDraft.combine? symbol none = .ok draft) :
    (combineAlone left symbol).Describes draft := by
  cases symbol with
  | not =>
      cases made
      exact ⟨.not ofLeft.filled, ofLeft.leaves, fun truth => not_congr (ofLeft.truth truth)⟩
  | connective connective => cases made
  | finish => cases made
  | openGroup => cases made
  | closeGroup => cases made

/-- What comes out of two steps, one after the other, comes out of the second. -/
theorem exists_of_bind_eq_ok {α β ε : Type} {first : Except ε α} {second : α → Except ε β}
    {result : β} (done : (do let value ← first; second value) = .ok result) :
    ∃ value, first = .ok value ∧ second value = .ok result := by
  cases first with
  | ok value => exact ⟨value, rfl, done⟩
  | error fault => cases done

mutual

/-- Whatever the operations, the draft that they make is what the expression says. -/
theorem describes_of_draft? : ∀ (expression : Expression) {draft : Draft},
    expression.draft? = .ok draft → expression.Describes draft
  | .single clause, draft, made => by
      cases made
      exact ⟨.single clause, rfl, fun _ => Iff.rfl⟩
  | .multi symbol children, draft, made => by
      obtain ⟨drafts, fromChildren, made⟩ := exists_of_bind_eq_ok made
      exact (describeEach_of_draftsOf? children fromChildren).multi made
  | .combine left symbol right, draft, made => by
      obtain ⟨leftDraft, fromLeft, made⟩ := exists_of_bind_eq_ok made
      obtain ⟨rightDraft, fromRight, made⟩ := exists_of_bind_eq_ok made
      exact (describes_of_draft? left fromLeft).combine (describes_of_draft? right fromRight) made
  | .combineAlone left symbol, draft, made => by
      obtain ⟨leftDraft, fromLeft, made⟩ := exists_of_bind_eq_ok made
      exact (describes_of_draft? left fromLeft).combineAlone made
  | .copy original, draft, made => by
      obtain ⟨filled, leaves, truth⟩ := describes_of_draft? original made
      exact ⟨filled, leaves, truth⟩

/-- The same for several expressions. -/
theorem describeEach_of_draftsOf? : ∀ (expressions : List Expression) {drafts : List Draft},
    draftsOf? expressions = .ok drafts → DescribeEach expressions drafts
  | [], drafts, made => by
      cases made
      exact ⟨List.forall_mem_nil _, rfl, fun _ => Iff.rfl, fun _ => Iff.rfl⟩
  | child :: children, drafts, made => by
      obtain ⟨draft, fromChild, made⟩ := exists_of_bind_eq_ok made
      obtain ⟨others, fromChildren, made⟩ := exists_of_bind_eq_ok made
      cases made
      have first := describes_of_draft? child fromChild
      have later := describeEach_of_draftsOf? children fromChildren
      refine ⟨List.forall_mem_cons.mpr ⟨first.filled, later.filled⟩, ?_, ?_, ?_⟩
      · rw [Draft.leavesOf, leavesOf, first.leaves, later.leaves]
      · exact fun truth => and_congr (first.truth truth) (later.all truth)
      · exact fun truth => or_congr (first.truth truth) (later.any truth)

end

/-! ### The condition of an expression -/

/-- The condition says what the expression says: it has the terminals of the expression's clauses
in their order, its meaning under every assignment of truth values to terminals, and nowhere a
connective with less than two children. -/
structure Means (expression : Expression) (clause : Clause) : Prop where
  terminals : clause.terminals = Clause.terminalsOf expression.leaves
  truth : ∀ truth, clause.Holds truth ↔ expression.Holds truth
  branches : clause.Branches

/-- An expression that makes a draft gives a condition, which says what the expression says. -/
theorem exists_means {expression : Expression} {draft : Draft}
    (made : expression.draft? = .ok draft) (each : ∀ leaf ∈ expression.leaves, leaf.Branches) :
    ∃ clause, expression.clause? = some clause ∧ expression.Means clause := by
  have describes := describes_of_draft? expression made
  obtain ⟨clause, stands⟩ := describes.filled.standsFor
  refine ⟨clause, ?_, ?_, ?_, ?_⟩
  · rw [clause?, made]
    exact stands.whole
  · rw [stands.terminals, describes.leaves]
  · exact fun truth => (stands.truth truth).trans (describes.truth truth)
  · apply stands.branches
    rw [describes.leaves]
    exact each

/-- Under a connective every two drafts can be combined, and the outcome is what the combination
says. -/
theorem exists_draft?_combine (connective : Connective) {left right : Expression}
    {leftDraft rightDraft : Draft} (fromLeft : left.draft? = .ok leftDraft)
    (fromRight : right.draft? = .ok rightDraft) :
    ∃ draft, (combine left (.connective connective) right).draft? = .ok draft := by
  obtain ⟨draft, combined, -⟩ := Draft.exists_combine? connective
    (describes_of_draft? left fromLeft).filled (describes_of_draft? right fromRight).filled
  refine ⟨draft, ?_⟩
  rw [draft?, fromLeft, fromRight]
  exact combined

/-- Both groupings of three expressions under one connective have the same clauses in the same
order. -/
theorem leaves_regrouped (connective : Connective) (first second third : Expression) :
    (combine (combine first (.connective connective) second) (.connective connective) third).leaves
      = (combine first (.connective connective)
          (combine second (.connective connective) third)).leaves :=
  List.append_assoc first.leaves second.leaves third.leaves

/-- Both groupings of three expressions under one connective say the same. -/
theorem holds_regrouped_iff (truth : Terminal → Prop) (connective : Connective)
    (first second third : Expression) :
    (combine (combine first (.connective connective) second) (.connective connective) third).Holds
        truth ↔
      (combine first (.connective connective)
        (combine second (.connective connective) third)).Holds truth :=
  connective.joins_assoc (first.Holds truth) (second.Holds truth) (third.Holds truth)

end Expression

/-- Let a draft be put together in any way out of clauses in which every AND and OR has two
children at least. Then it stands for a condition, and that condition has the terminals of the
clauses in their order, the meaning of the expression under every assignment of truth values to
terminals, and two children at least under every AND and OR. Combining it with two others under one
connective can be grouped either way: both groupings stand for conditions, with the same terminals
in the same order and with the same truth value under every assignment. -/
theorem drafts_keep_the_meaning_of_expressions (expression : Expression) (draft : Draft)
    (made : expression.draft? = .ok draft)
    (eachLeaf : ∀ leaf ∈ expression.leaves, leaf.Branches) :
    (∃ clause, draft.toClause? = some clause ∧
      clause.terminals = Clause.terminalsOf expression.leaves ∧
      (∀ truth, clause.Holds truth ↔ expression.Holds truth) ∧
      clause.Branches) ∧
    ∀ (connective : Connective) (second third : Expression) (secondDraft thirdDraft : Draft),
      second.draft? = .ok secondDraft → third.draft? = .ok thirdDraft →
      (∀ leaf ∈ second.leaves ++ third.leaves, leaf.Branches) →
      ∃ leftwards rightwards,
        Expression.clause? (.combine (.combine expression (.connective connective) second)
          (.connective connective) third) = some leftwards ∧
        Expression.clause? (.combine expression (.connective connective)
          (.combine second (.connective connective) third)) = some rightwards ∧
        leftwards.terminals = rightwards.terminals ∧
        leftwards.Branches ∧ rightwards.Branches ∧
        ∀ truth, leftwards.Holds truth ↔ rightwards.Holds truth := by
  refine ⟨?_, ?_⟩
  · obtain ⟨clause, whole, means⟩ := Expression.exists_means made eachLeaf
    rw [Expression.clause?, made] at whole
    exact ⟨clause, whole, means.terminals, means.truth, means.branches⟩
  · intro connective second third secondDraft thirdDraft madeSecond madeThird eachOther
    -- Either grouping can be made, over the same clauses.
    obtain ⟨_, madeInner⟩ := Expression.exists_draft?_combine connective made madeSecond
    obtain ⟨_, madeLeft⟩ := Expression.exists_draft?_combine connective madeInner madeThird
    obtain ⟨_, madeOuter⟩ := Expression.exists_draft?_combine connective madeSecond madeThird
    obtain ⟨_, madeRight⟩ := Expression.exists_draft?_combine connective made madeOuter
    have eachRight : ∀ leaf ∈ (Expression.combine expression (.connective connective)
        (.combine second (.connective connective) third)).leaves, leaf.Branches :=
      List.forall_mem_append.mpr ⟨eachLeaf, eachOther⟩
    have eachLeft := eachRight
    rw [← Expression.leaves_regrouped] at eachLeft
    obtain ⟨leftwards, fromLeft, left⟩ := Expression.exists_means madeLeft eachLeft
    obtain ⟨rightwards, fromRight, right⟩ := Expression.exists_means madeRight eachRight
    refine ⟨leftwards, rightwards, fromLeft, fromRight, ?_, left.branches, right.branches, ?_⟩
    · rw [left.terminals, right.terminals, Expression.leaves_regrouped]
    · intro truth
      rw [left.truth, right.truth]
      exact Expression.holds_regrouped_iff truth connective expression second third

/-- A negation of two ranks, joined with a third that stands alone under its connective. -/
def nestedExpression : Expression :=
  .combine
    (.combine (.multi (.connective .or) [.single (rankIs "1"), .single (rankIs "2")]) .not
      (.single (rankIs "8")))
    (.connective .and)
    (.copy (.multi (.connective .or) [.single (rankIs "3")]))

/-- What stands on the right of the negation is left aside, and the connective over one rank is not
in the condition. With two more ranks one grouping appends to the AND and the other nests another
AND under it. -/
theorem drafts_keep_the_meaning_of_expressions_of_nestedExpression :
    (∃ draft, nestedExpression.draft? = .ok draft ∧
      draft.toClause? =
        some (.and [.not (.or [rankIs "1", rankIs "2"]), rankIs "3"])) ∧
    ∃ leftwards rightwards,
      Expression.clause? (.combine (.combine nestedExpression (.connective .and)
        (.single (rankIs "4"))) (.connective .and) (.single (rankIs "5"))) = some leftwards ∧
      Expression.clause? (.combine nestedExpression (.connective .and)
        (.combine (.single (rankIs "4")) (.connective .and) (.single (rankIs "5")))) =
          some rightwards ∧
      leftwards ≠ rightwards ∧ ∀ truth, leftwards.Holds truth ↔ rightwards.Holds truth := by
  have leaf (rank : String) : (rankIs rank).Branches := .terminal _
  have eachLeaf : ∀ clause ∈ nestedExpression.leaves, clause.Branches :=
    List.forall_mem_cons.mpr ⟨leaf "1", List.forall_mem_cons.mpr
      ⟨leaf "2", List.forall_mem_singleton.mpr (leaf "3")⟩⟩
  have eachOther : ∀ clause ∈ (Expression.single (rankIs "4")).leaves ++
      (Expression.single (rankIs "5")).leaves, clause.Branches :=
    List.forall_mem_cons.mpr ⟨leaf "4", List.forall_mem_singleton.mpr (leaf "5")⟩
  obtain ⟨-, regrouped⟩ :=
    drafts_keep_the_meaning_of_expressions nestedExpression _ rfl eachLeaf
  obtain ⟨leftwards, rightwards, fromLeft, fromRight, -, -, -, same⟩ :=
    regrouped .and (.single (rankIs "4")) (.single (rankIs "5")) _ _ rfl rfl eachOther
  refine ⟨⟨_, rfl, rfl⟩, leftwards, rightwards, fromLeft, fromRight, ?_, same⟩
  cases fromLeft
  cases fromRight
  decide

end Criteria.Assembly
