/-
Module: Criteria.Clause.Basic
Purpose: The condition tree, its terminals and its rendering with the fewest parentheses.
Main exports:
  Clause, Clause.byHead, Clause.nodeCount, Clause.terminals, Clause.render
-/
import Criteria.Clause.Terminal

namespace Criteria

/-- A condition: terminals joined by AND, OR and NOT. -/
inductive Clause where
  | terminal (leaf : Terminal)
  | and (children : List Clause)
  | or (children : List Clause)
  | not (child : Clause)
deriving Repr

mutual

/-- Structural equality of conditions. -/
def Clause.decEq : (first second : Clause) → Decidable (first = second)
  | .terminal first, .terminal second =>
      if same : first = second then .isTrue (by rw [same])
      else .isFalse fun equal => same (Clause.terminal.inj equal)
  | .and first, .and second =>
      match Clause.decEqList first second with
      | .isTrue same => .isTrue (by rw [same])
      | .isFalse differ => .isFalse fun equal => differ (Clause.and.inj equal)
  | .or first, .or second =>
      match Clause.decEqList first second with
      | .isTrue same => .isTrue (by rw [same])
      | .isFalse differ => .isFalse fun equal => differ (Clause.or.inj equal)
  | .not first, .not second =>
      match Clause.decEq first second with
      | .isTrue same => .isTrue (by rw [same])
      | .isFalse differ => .isFalse fun equal => differ (Clause.not.inj equal)
  | .terminal _, .and _ | .terminal _, .or _ | .terminal _, .not _
  | .and _, .terminal _ | .and _, .or _ | .and _, .not _
  | .or _, .terminal _ | .or _, .and _ | .or _, .not _
  | .not _, .terminal _ | .not _, .and _ | .not _, .or _ => .isFalse nofun

/-- Structural equality of lists of conditions. -/
def Clause.decEqList : (first second : List Clause) → Decidable (first = second)
  | [], [] => .isTrue rfl
  | first :: firsts, second :: seconds =>
      match Clause.decEq first second, Clause.decEqList firsts seconds with
      | .isTrue sameHead, .isTrue sameTail => .isTrue (by rw [sameHead, sameTail])
      | .isFalse differ, _ => .isFalse fun equal => differ (List.cons.inj equal).1
      | _, .isFalse differ => .isFalse fun equal => differ (List.cons.inj equal).2
  | [], _ :: _ | _ :: _, [] => .isFalse nofun

end

instance : DecidableEq Clause := Clause.decEq

section

variable {motive : Clause → Prop}

mutual

/-- What holds of a condition if it holds of its children holds of every condition. -/
@[elab_as_elim]
theorem Clause.byHead (terminal : ∀ leaf, motive (.terminal leaf))
    (and : ∀ children, (∀ child ∈ children, motive child) → motive (.and children))
    (or : ∀ children, (∀ child ∈ children, motive child) → motive (.or children))
    (not : ∀ child, motive child → motive (.not child)) : ∀ clause, motive clause
  | .terminal leaf => terminal leaf
  | .and children => and children (Clause.byHeads terminal and or not children)
  | .or children => or children (Clause.byHeads terminal and or not children)
  | .not child => not child (Clause.byHead terminal and or not child)

/-- The same for each of several conditions. -/
theorem Clause.byHeads (terminal : ∀ leaf, motive (.terminal leaf))
    (and : ∀ children, (∀ child ∈ children, motive child) → motive (.and children))
    (or : ∀ children, (∀ child ∈ children, motive child) → motive (.or children))
    (not : ∀ child, motive child → motive (.not child)) :
    ∀ children : List Clause, ∀ child ∈ children, motive child
  | first :: others, child, member => by
      rcases List.mem_cons.mp member with same | later
      · rw [same]
        exact Clause.byHead terminal and or not first
      · exact Clause.byHeads terminal and or not others child later

end

end

namespace Clause

/-- How tightly the head of a condition binds: NOT above AND above OR. -/
def precedence : Clause → Nat
  | .or _ => 1
  | .and _ => 2
  | .not _ => 3
  | .terminal _ => 4

mutual

/-- The number of nodes in the tree. -/
def nodeCount : Clause → Nat
  | .terminal _ => 1
  | .and children => 1 + nodeCountOf children
  | .or children => 1 + nodeCountOf children
  | .not child => 1 + child.nodeCount

/-- The number of nodes in several trees. -/
def nodeCountOf : List Clause → Nat
  | [] => 0
  | child :: children => child.nodeCount + nodeCountOf children

end

mutual

/-- The terminals of the tree, from left to right. -/
def terminals : Clause → List Terminal
  | .terminal leaf => [leaf]
  | .and children => terminalsOf children
  | .or children => terminalsOf children
  | .not child => child.terminals

/-- The terminals of several trees, from left to right. -/
def terminalsOf : List Clause → List Terminal
  | [] => []
  | child :: children => child.terminals ++ terminalsOf children

end

/-- Put a rendered child into the context of its parent: parentheses are needed only where
the child binds less tightly. -/
def parenthesized (outer inner : Nat) (text : String) : String :=
  if inner < outer then "(" ++ text ++ ")" else text

mutual

/-- The condition as text. -/
def render : Clause → String
  | .terminal leaf => leaf.render
  | .and children => String.intercalate " AND " (renderChildren 2 children)
  | .or children => String.intercalate " OR " (renderChildren 1 children)
  | .not child => "NOT " ++ parenthesized 3 child.precedence child.render

/-- The children of a connective, each with the parentheses it needs. -/
def renderChildren (outer : Nat) : List Clause → List String
  | [] => []
  | child :: children =>
      parenthesized outer child.precedence child.render :: renderChildren outer children

end

end Clause

end Criteria
