/-
Module: Criteria.Proofs.Clause.Truth
Purpose: The truth value of a condition when the truth values of its terminals are given.
Main exports:
  Clause.Holds, Clause.AllHold, Clause.AnyHolds
-/
import Criteria.Clause.Basic

namespace Criteria.Clause

mutual

/-- The condition holds if its terminals hold as told: AND asks for all of its children, OR
for any of them, and NOT for the opposite of its child. -/
def Holds (truth : Terminal → Prop) : Clause → Prop
  | .terminal leaf => truth leaf
  | .and children => AllHold truth children
  | .or children => AnyHolds truth children
  | .not child => ¬ child.Holds truth

/-- All of several conditions hold. -/
def AllHold (truth : Terminal → Prop) : List Clause → Prop
  | [] => True
  | child :: children => child.Holds truth ∧ AllHold truth children

/-- Any of several conditions holds. -/
def AnyHolds (truth : Terminal → Prop) : List Clause → Prop
  | [] => False
  | child :: children => child.Holds truth ∨ AnyHolds truth children

end

variable {truth : Terminal → Prop}

theorem allHold_iff (children : List Clause) :
    AllHold truth children ↔ ∀ child ∈ children, child.Holds truth := by
  induction children with
  | nil => simp [AllHold]
  | cons child children ih => rw [AllHold, ih, List.forall_mem_cons]

theorem anyHolds_iff (children : List Clause) :
    AnyHolds truth children ↔ ∃ child ∈ children, child.Holds truth := by
  induction children with
  | nil => simp [AnyHolds]
  | cons child children ih => simp only [AnyHolds, ih, List.mem_cons, exists_eq_or_imp]

end Criteria.Clause
