/-
Module: Criteria.Proofs.Assembly.Splicing
Purpose: Conditions in which no AND stands directly under an AND and no OR directly under an OR,
  and how every condition comes to be one with the same terminals and the same truth value.
Main exports:
  Clause.head?, Clause.byNode, Clause.Branches, Clause.Flat, Clause.spliced,
  Clause.terminals_spliced, Clause.holds_spliced_iff, Clause.Branches.flat_spliced
-/
import Criteria.Proofs.Assembly.Grammar
import Criteria.Proofs.Clause.Truth

namespace Criteria.Clause

open Criteria.Assembly

/-! ### Heads of conditions -/

/-- The connective that heads the condition, if one does. -/
def head? : Clause → Option Connective
  | .and _ => some .and
  | .or _ => some .or
  | .terminal _ | .not _ => none

@[simp] theorem head?_node (connective : Connective) (children : List Clause) :
    (connective.node children).head? = some connective := by
  cases connective <;> rfl

theorem eq_node_of_head? {clause : Clause} {connective : Connective}
    (headed : clause.head? = some connective) :
    clause = connective.node (childrenOf clause) := by
  cases clause <;> cases headed <;> rfl

/-- Induction over conditions in which the two connectives are one case. -/
@[elab_as_elim]
theorem byNode {motive : Clause → Prop} (terminal : ∀ leaf, motive (.terminal leaf))
    (node : ∀ (connective : Connective) (children : List Clause),
      (∀ child ∈ children, motive child) → motive (connective.node children))
    (not : ∀ child, motive child → motive (.not child)) (clause : Clause) : motive clause := by
  induction clause using byHead with
  | terminal leaf => exact terminal leaf
  | and children ih => exact node .and children ih
  | or children ih => exact node .or children ih
  | not child ih => exact not child ih

/-- Every AND and every OR in the condition has two children at least. -/
inductive Branches : Clause → Prop where
  | terminal (leaf : Terminal) : Branches (.terminal leaf)
  | node (connective : Connective) {children : List Clause} (several : 2 ≤ children.length)
      (each : ∀ child ∈ children, Branches child) : Branches (connective.node children)
  | not {child : Clause} (inner : Branches child) : Branches (.not child)

theorem Branches.pair (connective : Connective) {first second : Clause}
    (ofFirst : first.Branches) (ofSecond : second.Branches) :
    (connective.node [first, second]).Branches :=
  .node connective (Nat.le_refl 2)
    (List.forall_mem_cons.mpr ⟨ofFirst, List.forall_mem_singleton.mpr ofSecond⟩)

/-- Every AND and every OR in the condition has two children at least, none of which is headed
by the same connective. -/
inductive Flat : Clause → Prop where
  | terminal (leaf : Terminal) : Flat (.terminal leaf)
  | node (connective : Connective) {children : List Clause} (several : 2 ≤ children.length)
      (apart : ∀ child ∈ children, child.head? ≠ some connective)
      (each : ∀ child ∈ children, Flat child) : Flat (connective.node children)
  | not {child : Clause} (inner : Flat child) : Flat (.not child)

/-! ### Splicing -/

/-- What the condition brings into a node above it: its own children if the node has the same
head, and otherwise itself. -/
def operandsUnder (connective : Connective) (clause : Clause) : List Clause :=
  if clause.head? = some connective then childrenOf clause else [clause]

mutual

/-- The condition with the children of every AND directly under an AND, and of every OR directly
under an OR, put in the place of that child. -/
def spliced : Clause → Clause
  | .terminal leaf => .terminal leaf
  | .and children => .and (splicedInto .and children)
  | .or children => .or (splicedInto .or children)
  | .not child => .not child.spliced

/-- What several children bring into their node once they are spliced themselves. -/
def splicedInto (connective : Connective) : List Clause → List Clause
  | [] => []
  | child :: children =>
      child.spliced.operandsUnder connective ++ splicedInto connective children

end

@[simp] theorem operandsUnder_node (connective : Connective) (children : List Clause) :
    (connective.node children).operandsUnder connective = children := by
  simp [operandsUnder]

theorem operandsUnder_of_apart {connective : Connective} {clause : Clause}
    (apart : clause.head? ≠ some connective) : clause.operandsUnder connective = [clause] :=
  if_neg apart

theorem spliced_node (connective : Connective) (children : List Clause) :
    (connective.node children).spliced = connective.node (splicedInto connective children) := by
  cases connective <;> rfl

theorem mem_splicedInto_iff {connective : Connective} {children : List Clause}
    {operand : Clause} :
    operand ∈ splicedInto connective children ↔
      ∃ child ∈ children, operand ∈ child.spliced.operandsUnder connective := by
  induction children with
  | nil => simp [splicedInto]
  | cons child children ih =>
      rw [splicedInto, List.mem_append, ih]
      simp only [List.mem_cons, exists_eq_or_imp]

/-! #### Terminals -/

theorem terminals_node (connective : Connective) (children : List Clause) :
    (connective.node children).terminals = terminalsOf children := by
  cases connective <;> rfl

theorem terminalsOf_append (first second : List Clause) :
    terminalsOf (first ++ second) = terminalsOf first ++ terminalsOf second := by
  induction first with
  | nil => rfl
  | cons child first ih => rw [List.cons_append, terminalsOf, ih, terminalsOf, List.append_assoc]

theorem terminalsOf_operandsUnder (connective : Connective) (clause : Clause) :
    terminalsOf (clause.operandsUnder connective) = clause.terminals := by
  by_cases headed : clause.head? = some connective
  · rw [eq_node_of_head? headed, operandsUnder_node, terminals_node]
  · rw [operandsUnder_of_apart headed, terminalsOf, terminalsOf, List.append_nil]

theorem terminalsOf_splicedInto {connective : Connective} {children : List Clause}
    (each : ∀ child ∈ children, child.spliced.terminals = child.terminals) :
    terminalsOf (splicedInto connective children) = terminalsOf children := by
  induction children with
  | nil => rfl
  | cons child children ih =>
      rw [List.forall_mem_cons] at each
      rw [splicedInto, terminalsOf_append, terminalsOf_operandsUnder, each.1, ih each.2,
        terminalsOf]

/-- Splicing keeps the terminals and their order. -/
theorem terminals_spliced (clause : Clause) : clause.spliced.terminals = clause.terminals := by
  induction clause using byNode with
  | terminal leaf => rfl
  | node connective children ih =>
      rw [spliced_node, terminals_node, terminals_node, terminalsOf_splicedInto ih]
  | not child ih => exact ih

/-! #### Truth -/

variable {truth : Terminal → Prop}

theorem forall_operandsUnder_and (clause : Clause) :
    (∀ operand ∈ clause.operandsUnder .and, operand.Holds truth) ↔ clause.Holds truth := by
  by_cases headed : clause.head? = some .and
  · rw [eq_node_of_head? headed, operandsUnder_node, Connective.node, Holds, allHold_iff]
  · rw [operandsUnder_of_apart headed, List.forall_mem_singleton]

theorem exists_operandsUnder_or (clause : Clause) :
    (∃ operand ∈ clause.operandsUnder .or, operand.Holds truth) ↔ clause.Holds truth := by
  by_cases headed : clause.head? = some .or
  · rw [eq_node_of_head? headed, operandsUnder_node, Connective.node, Holds, anyHolds_iff]
  · simp [operandsUnder_of_apart headed]

theorem allHold_splicedInto_iff {children : List Clause}
    (each : ∀ child ∈ children, child.spliced.Holds truth ↔ child.Holds truth) :
    AllHold truth (splicedInto .and children) ↔ AllHold truth children := by
  simp only [allHold_iff, mem_splicedInto_iff, forall_exists_index, and_imp]
  constructor
  · intro given child member
    rw [← each child member, ← forall_operandsUnder_and]
    exact fun operand inside => given operand child member inside
  · intro given operand child member inside
    have holds := (each child member).mpr (given child member)
    exact (forall_operandsUnder_and child.spliced).mpr holds operand inside

theorem anyHolds_splicedInto_iff {children : List Clause}
    (each : ∀ child ∈ children, child.spliced.Holds truth ↔ child.Holds truth) :
    AnyHolds truth (splicedInto .or children) ↔ AnyHolds truth children := by
  simp only [anyHolds_iff, mem_splicedInto_iff]
  constructor
  · intro given
    obtain ⟨operand, ⟨child, member, inside⟩, holds⟩ := given
    refine ⟨child, member, ?_⟩
    rw [← each child member, ← exists_operandsUnder_or]
    exact ⟨operand, inside, holds⟩
  · intro given
    obtain ⟨child, member, holds⟩ := given
    rw [← each child member, ← exists_operandsUnder_or] at holds
    obtain ⟨operand, inside, holds⟩ := holds
    exact ⟨operand, ⟨child, member, inside⟩, holds⟩

/-- Splicing keeps the truth value, whatever the terminals mean. -/
theorem holds_spliced_iff (clause : Clause) :
    clause.spliced.Holds truth ↔ clause.Holds truth := by
  induction clause using byNode with
  | terminal leaf => rfl
  | node connective children ih =>
      cases connective with
      | and => exact allHold_splicedInto_iff ih
      | or => exact anyHolds_splicedInto_iff ih
  | not child ih => exact not_congr ih

/-! #### Flatness -/

/-- A flat condition brings something into a node above it, and nothing that the node would have
to take apart. -/
theorem Flat.operandsUnder {clause : Clause} (flat : clause.Flat) (connective : Connective) :
    clause.operandsUnder connective ≠ [] ∧
      ∀ operand ∈ clause.operandsUnder connective,
        operand.head? ≠ some connective ∧ operand.Flat := by
  by_cases headed : clause.head? = some connective
  · cases flat with
    | terminal leaf => cases headed
    | node other several apart each =>
        obtain rfl : other = connective := by simpa using headed
        rw [operandsUnder_node]
        refine ⟨?_, fun operand member => ⟨apart operand member, each operand member⟩⟩
        exact List.ne_nil_of_length_pos (Nat.lt_of_lt_of_le Nat.zero_lt_two several)
    | not inner => cases headed
  · rw [operandsUnder_of_apart headed]
    exact ⟨List.cons_ne_nil _ _, List.forall_mem_singleton.mpr ⟨headed, flat⟩⟩

theorem length_le_splicedInto {connective : Connective} {children : List Clause}
    (each : ∀ child ∈ children, child.spliced.Flat) :
    children.length ≤ (splicedInto connective children).length := by
  induction children with
  | nil => exact Nat.le_refl _
  | cons child children ih =>
      rw [List.forall_mem_cons] at each
      have brings := List.length_pos_iff.mpr (each.1.operandsUnder connective).1
      have others := ih each.2
      rw [splicedInto, List.length_append, List.length_cons]
      omega

/-- Splicing leaves nothing to splice. -/
theorem Branches.flat_spliced {clause : Clause} (branches : clause.Branches) :
    clause.spliced.Flat := by
  induction branches with
  | terminal leaf => exact .terminal leaf
  | @node connective children several each ih =>
      rw [spliced_node]
      have eachOperand : ∀ operand ∈ splicedInto connective children,
          operand.head? ≠ some connective ∧ operand.Flat := by
        intro operand member
        obtain ⟨child, listed, inside⟩ := mem_splicedInto_iff.mp member
        exact ((ih child listed).operandsUnder connective).2 operand inside
      apply Flat.node connective (Nat.le_trans several (length_le_splicedInto ih))
      · exact fun operand member => (eachOperand operand member).1
      · exact fun operand member => (eachOperand operand member).2
  | not inner ih => exact .not ih

end Criteria.Clause
