import Mathlib.Data.List.Basic
import Mathlib.Logic.Relation

/-!
# Pipelines

Items that are worked on one at a time, in order: those that are done, the
current one, and those that wait.  Finishing the current item makes the first
that waits the current one.

Whatever is finished, the items stay what they were and in their order
(`Leads.items`), so that what is done at any time is a prefix of them
(`Leads.done_prefix`), and all of them once nothing is current
(`Leads.done_eq`).
-/

namespace Base

/-- What is done, what is current, and what waits. -/
structure Pipeline (σ : Type) where
  done : List σ
  current : Option σ
  waiting : List σ

namespace Pipeline

variable {σ : Type}

/-- All items, in order. -/
def items (p : Pipeline σ) : List σ := p.done ++ p.current.toList ++ p.waiting

/-- The current item is finished. -/
def finish (p : Pipeline σ) (a : σ) : Pipeline σ :=
  ⟨p.done ++ [a], p.waiting.head?, p.waiting.tail⟩

/-- One move of a pipeline. -/
inductive Move : Pipeline σ → Pipeline σ → Prop
  | finish {p : Pipeline σ} {a : σ} (h : p.current = some a) : Move p (p.finish a)

/-- A pipeline leads to another by moves. -/
def Leads : Pipeline σ → Pipeline σ → Prop := Relation.ReflTransGen Move

/-- Nothing waits unless something is current. -/
def Busy (p : Pipeline σ) : Prop := p.current = none → p.waiting = []

theorem head?_append_tail (l : List σ) : l.head?.toList ++ l.tail = l := by
  cases l <;> rfl

theorem Move.items {p q : Pipeline σ} (h : Move p q) : q.items = p.items := by
  cases h with
  | @finish a hcurrent =>
      unfold Pipeline.items Pipeline.finish
      rw [hcurrent, List.append_assoc _ p.waiting.head?.toList, head?_append_tail]
      rfl

theorem Move.done_prefix {p q : Pipeline σ} (h : Move p q) : p.done <+: q.done := by
  cases h with
  | finish _ => exact List.prefix_append _ _

/-- After a move, nothing waits unless something is current. -/
theorem Move.busy {p q : Pipeline σ} (h : Move p q) : q.Busy := by
  cases h with
  | finish _ =>
      intro hnone
      have hwaiting : p.waiting = [] := List.head?_eq_none_iff.mp hnone
      change p.waiting.tail = []
      rw [hwaiting]
      rfl

/-- The items are neither skipped nor repeated, and keep their order. -/
theorem Leads.items {p q : Pipeline σ} (h : p.Leads q) : q.items = p.items := by
  induction h with
  | refl => rfl
  | tail _ hmove ih => rw [hmove.items, ih]

theorem Leads.busy {p q : Pipeline σ} (h : p.Leads q) (hp : p.Busy) : q.Busy := by
  induction h with
  | refl => exact hp
  | tail _ hmove _ => exact hmove.busy

/-- What is done is the beginning of the items. -/
theorem Leads.done_prefix {p q : Pipeline σ} (h : p.Leads q) :
    p.done <+: q.done ∧ q.done <+: p.items := by
  constructor
  · induction h with
    | refl => exact List.prefix_refl _
    | tail _ hmove ih => exact ih.trans hmove.done_prefix
  · rw [← h.items]
    unfold Pipeline.items
    rw [List.append_assoc]
    exact List.prefix_append _ _

/-- Once nothing is current, all items are done. -/
theorem Leads.done_eq {p q : Pipeline σ} (h : p.Leads q) (hp : p.Busy) (hq : q.current = none) :
    q.done = p.items := by
  rw [← h.items]
  unfold Pipeline.items
  rw [hq, h.busy hp hq]
  simp

end Pipeline

end Base
