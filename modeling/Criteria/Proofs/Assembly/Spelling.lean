/-
Module: Criteria.Proofs.Assembly.Spelling
Purpose: The steps that the text of a condition shows to an assembler, and that a condition and
  its spliced form show the same ones.
Main exports:
  spelling, Clause.events, Clause.spelling_events, Clause.eventsWithin, Clause.tailEvents,
  Clause.Branches.events_spliced, Clause.Branches.render_spliced
-/
import Criteria.Proofs.Assembly.Splicing

namespace Criteria.Assembly

/-- Put the steps of a child into the context of its parent: a group stands exactly where the text
has parentheses. -/
def grouped (outer inner : Nat) (events : List Event) : List Event :=
  if inner < outer then .openGroup :: (events ++ [.closeGroup]) else events

/-- A step as it stands in the text of a condition. -/
def Event.spelling : Event → String
  | .clause whole => whole.render
  | .connective .and => " AND "
  | .connective .or => " OR "
  | .not => "NOT "
  | .openGroup => "("
  | .closeGroup => ")"

/-- Several steps as they stand in the text of a condition. -/
def spelling (events : List Event) : String :=
  String.join (events.map Event.spelling)

/-- How tightly a connective binds in the text of a condition. -/
def Connective.precedence : Connective → Nat
  | .or => 1
  | .and => 2

theorem spelling_append (first second : List Event) :
    spelling (first ++ second) = spelling first ++ spelling second := by
  rw [spelling, List.map_append, String.join_append, spelling, spelling]

theorem spelling_cons (event : Event) (events : List Event) :
    spelling (event :: events) = event.spelling ++ spelling events := by
  rw [spelling, List.map_cons, String.join_cons, spelling]

@[simp] theorem spelling_nil : spelling [] = "" :=
  String.join_nil

theorem spelling_grouped (outer inner : Nat) (events : List Event) :
    spelling (grouped outer inner events) =
      Clause.parenthesized outer inner (spelling events) := by
  unfold grouped Clause.parenthesized
  split
  · rw [spelling_cons, spelling_append, spelling_cons, spelling_nil, String.append_empty,
      String.append_assoc]
    rfl
  · rfl

theorem spelling_intercalate (event : Event) (groups : List (List Event)) :
    spelling (List.intercalate [event] groups) =
      String.intercalate event.spelling (groups.map spelling) := by
  match groups with
  | [] => rw [List.intercalate_nil, spelling_nil, List.map_nil, String.intercalate_nil]
  | [only] => rw [List.intercalate_singleton, List.map_singleton, String.intercalate_singleton]
  | first :: second :: others =>
      have rest := spelling_intercalate event (second :: others)
      rw [List.map_cons] at rest
      rw [List.intercalate_cons_cons, spelling_append, spelling_append, rest, List.map_cons,
        List.map_cons, String.intercalate_cons_cons, spelling_cons event, spelling_nil,
        String.append_empty]

theorem cons_intercalate (event : Event) {groups : List (List Event)} (some : groups ≠ []) :
    event :: List.intercalate [event] groups = groups.flatMap (event :: ·) := by
  match groups with
  | [only] => rw [List.intercalate_singleton, List.flatMap_singleton]
  | first :: second :: others =>
      have rest := cons_intercalate event (List.cons_ne_nil second others)
      rw [List.intercalate_cons_cons, List.flatMap_cons, ← rest, List.append_assoc,
        List.singleton_append, List.cons_append]

end Criteria.Assembly

namespace Criteria.Clause

open Criteria.Assembly

mutual

/-- The steps that the text of the condition shows, from left to right. -/
def events : Clause → List Event
  | .terminal leaf => [.clause (.terminal leaf)]
  | .and children => List.intercalate [.connective .and] (eventsOfChildren 2 children)
  | .or children => List.intercalate [.connective .or] (eventsOfChildren 1 children)
  | .not child => .not :: grouped 3 child.precedence child.events

/-- The steps of the children of a connective, each in the group that it needs. -/
def eventsOfChildren (outer : Nat) : List Clause → List (List Event)
  | [] => []
  | child :: children =>
      grouped outer child.precedence child.events :: eventsOfChildren outer children

end

/-! ### The text -/

theorem spelling_eventsOfChildren {outer : Nat} {children : List Clause}
    (each : ∀ child ∈ children, spelling child.events = child.render) :
    (eventsOfChildren outer children).map spelling = renderChildren outer children := by
  induction children with
  | nil => rfl
  | cons child children ih =>
      rw [List.forall_mem_cons] at each
      rw [eventsOfChildren, List.map_cons, spelling_grouped, each.1, ih each.2, renderChildren]

/-- The steps are those that the text shows: spelled out they are the text. -/
theorem spelling_events (clause : Clause) : spelling clause.events = clause.render := by
  induction clause using byNode with
  | terminal leaf =>
      rw [events, spelling_cons, spelling_nil, String.append_empty]
      rfl
  | node connective children ih =>
      cases connective with
      | and =>
          rw [Connective.node, events, spelling_intercalate, spelling_eventsOfChildren ih, render]
          rfl
      | or =>
          rw [Connective.node, events, spelling_intercalate, spelling_eventsOfChildren ih, render]
          rfl
  | not child ih =>
      rw [events, spelling_cons, spelling_grouped, ih, render]
      rfl

/-! ### The steps of a condition inside another one -/

/-- The steps of the condition as the child of something that binds as given. -/
def eventsWithin (outer : Nat) (clause : Clause) : List Event :=
  grouped outer clause.precedence clause.events

/-- The steps of further children of a connective, each after the connective. -/
def tailEvents (connective : Connective) (children : List Clause) : List Event :=
  children.flatMap fun child =>
    .connective connective :: child.eventsWithin connective.precedence

theorem tailEvents_append (connective : Connective) (first second : List Clause) :
    tailEvents connective (first ++ second) =
      tailEvents connective first ++ tailEvents connective second :=
  List.flatMap_append

theorem eventsWithin_of_le {outer : Nat} {clause : Clause} (tight : outer ≤ clause.precedence) :
    clause.eventsWithin outer = clause.events :=
  if_neg (Nat.not_lt.mpr tight)

theorem eventsWithin_of_lt {outer : Nat} {clause : Clause} (loose : clause.precedence < outer) :
    clause.eventsWithin outer = .openGroup :: (clause.events ++ [.closeGroup]) :=
  if_pos loose

theorem precedence_node (connective : Connective) (children : List Clause) :
    (connective.node children).precedence = connective.precedence := by
  cases connective <;> rfl

theorem precedence_spliced (clause : Clause) :
    clause.spliced.precedence = clause.precedence := by
  cases clause <;> rfl

theorem eventsOfChildren_eq_map (outer : Nat) (children : List Clause) :
    eventsOfChildren outer children = children.map (eventsWithin outer) := by
  induction children with
  | nil => rfl
  | cons child children ih => rw [eventsOfChildren, ih, List.map_cons, eventsWithin]

theorem events_node (connective : Connective) (children : List Clause) :
    (connective.node children).events =
      List.intercalate [.connective connective]
        (children.map (eventsWithin connective.precedence)) := by
  cases connective <;> rw [← eventsOfChildren_eq_map] <;> rfl

/-- With one more connective in front, all children of a node show their steps alike. -/
theorem cons_events_node {connective : Connective} {children : List Clause}
    (some : children ≠ []) :
    .connective connective :: (connective.node children).events =
      tailEvents connective children := by
  have someGroups : children.map (eventsWithin connective.precedence) ≠ [] := by
    simpa using some
  rw [events_node, cons_intercalate _ someGroups, List.flatMap_map, tailEvents]

/-! ### The steps of a spliced condition -/

/-- What a condition brings into a node above it shows the steps of the condition itself. -/
theorem tailEvents_operandsUnder {connective : Connective} {clause : Clause}
    (some : clause.operandsUnder connective ≠ []) :
    tailEvents connective (clause.operandsUnder connective) =
      .connective connective :: clause.eventsWithin connective.precedence := by
  by_cases headed : clause.head? = .some connective
  · -- the text has no parentheses here, so the connectives of both nodes are in one row
    rw [eq_node_of_head? headed, operandsUnder_node] at some ⊢
    rw [← cons_events_node some, eventsWithin_of_le (Nat.le_of_eq (precedence_node ..).symm)]
  · rw [operandsUnder_of_apart headed, tailEvents, List.flatMap_singleton]

theorem tailEvents_splicedInto (connective : Connective) {children : List Clause}
    (flat : ∀ child ∈ children, child.spliced.Flat)
    (each : ∀ child ∈ children, child.spliced.events = child.events) :
    tailEvents connective (splicedInto connective children) = tailEvents connective children := by
  induction children with
  | nil => rfl
  | cons child children ih =>
      rw [List.forall_mem_cons] at flat each
      have brings := (flat.1.operandsUnder connective).1
      have sameChild : child.spliced.eventsWithin connective.precedence =
          child.eventsWithin connective.precedence := by
        rw [eventsWithin, precedence_spliced, each.1, eventsWithin]
      rw [splicedInto, tailEvents_append, tailEvents_operandsUnder brings, sameChild,
        ih flat.2 each.2]
      rfl

/-- Splicing does not show in the steps. -/
theorem Branches.events_spliced {clause : Clause} (branches : clause.Branches) :
    clause.spliced.events = clause.events := by
  induction branches with
  | terminal leaf => rfl
  | @node connective children several each ih =>
      have flat : ∀ child ∈ children, child.spliced.Flat :=
        fun child member => (each child member).flat_spliced
      have some : children ≠ [] :=
        List.ne_nil_of_length_pos (Nat.lt_of_lt_of_le Nat.zero_lt_two several)
      have someSpliced : splicedInto connective children ≠ [] :=
        List.ne_nil_of_length_pos (Nat.lt_of_lt_of_le (List.length_pos_iff.mpr some)
          (length_le_splicedInto flat))
      have same := tailEvents_splicedInto connective flat ih
      rw [← cons_events_node some, ← cons_events_node someSpliced, List.cons.injEq] at same
      rw [spliced_node]
      exact same.2
  | @not child inner ih =>
      rw [spliced, events, ih, precedence_spliced, events]

/-- Splicing does not show in the text. -/
theorem Branches.render_spliced {clause : Clause} (branches : clause.Branches) :
    clause.spliced.render = clause.render := by
  rw [← spelling_events, branches.events_spliced, spelling_events]

end Criteria.Clause
