import Mathlib.Logic.Relation

/-!
# Labelled transition systems

A system is a step relation on states, one relation per label.  A label says
who moves and with what arguments, so that a state may have many successors and
a run is one choice of labels.

A *discipline* is a condition on the state before a step and its label.  A run
under a discipline takes only steps that meet it.  `Reaches.invariant` is the
induction over such a run: what holds at its start and is preserved by every
disciplined step holds at every state it reaches.  The trivial discipline
`always` gives the runs of the whole system.
-/

namespace Base

variable {Label State : Type}

/-- The discipline every step meets. -/
def always (_ : State) (_ : Label) : Prop := True

/-- A step of the system that meets the discipline. -/
def Moves (step : Label → State → State → Prop) (ok : State → Label → Prop) (s t : State) :
    Prop := ∃ l, ok s l ∧ step l s t

/-- The states that a run under the discipline reaches. -/
def Reaches (step : Label → State → State → Prop) (ok : State → Label → Prop) :
    State → State → Prop := Relation.ReflTransGen (Moves step ok)

namespace Reaches

variable {step : Label → State → State → Prop} {ok ok' : State → Label → Prop}

theorem refl (s : State) : Reaches step ok s s := Relation.ReflTransGen.refl

theorem tail {s t u : State} {l : Label} (h : Reaches step ok s t) (hok : ok t l)
    (hstep : step l t u) : Reaches step ok s u := Relation.ReflTransGen.tail h ⟨l, hok, hstep⟩

theorem trans {s t u : State} (h : Reaches step ok s t) (h' : Reaches step ok t u) :
    Reaches step ok s u := Relation.ReflTransGen.trans h h'

/-- One step is a run. -/
theorem single {s t : State} {l : Label} (hok : ok s l) (hstep : step l s t) :
    Reaches step ok s t := tail (refl s) hok hstep

/-- A run under a discipline is a run under a weaker one. -/
theorem mono (hok : ∀ s l, ok s l → ok' s l) {s t : State} (h : Reaches step ok s t) :
    Reaches step ok' s t :=
  Relation.ReflTransGen.mono (fun a _ ⟨l, hl, hs⟩ => ⟨l, hok a l hl, hs⟩) _ _ h

/-- What every disciplined step preserves holds along every disciplined run. -/
theorem invariant {I : State → Prop} (hI : ∀ s l t, ok s l → I s → step l s t → I t)
    {s t : State} (h : Reaches step ok s t) (hs : I s) : I t := by
  induction h with
  | refl => exact hs
  | tail _ hmove ih =>
      obtain ⟨l, hl, hstep⟩ := hmove
      exact hI _ _ _ hl ih hstep

/-- What every disciplined step relates, and composes, relates the ends of a run. -/
theorem related {R : State → State → Prop} (hrefl : ∀ s, R s s)
    (htrans : ∀ s t u, R s t → R t u → R s u)
    (hstep : ∀ s l t, ok s l → step l s t → R s t) {s t : State} (h : Reaches step ok s t) :
    R s t := by
  induction h with
  | refl => exact hrefl _
  | tail _ hmove ih =>
      obtain ⟨l, hl, hm⟩ := hmove
      exact htrans _ _ _ ih (hstep _ l _ hl hm)

/-- A system that runs any label reaches what a list of labels makes of a state. -/
theorem foldl {f : State → Label → State} (hstep : ∀ s l, step l s (f s l))
    (ls : List Label) (s : State) : Reaches step always s (ls.foldl f s) := by
  induction ls generalizing s with
  | nil => exact refl s
  | cons l ls ih => exact (single trivial (hstep s l)).trans (ih (f s l))

/-- A list of labels that all fit is a run, under a discipline that all of them meet. -/
theorem foldlM {f : State → Label → Option State} (hstep : ∀ s l t, f s l = some t → step l s t)
    (ls : List Label) (hok : ∀ s, ∀ l ∈ ls, ok s l) :
    ∀ s t, ls.foldlM f s = some t → Reaches step ok s t := by
  induction ls with
  | nil =>
      intro s t h
      cases h
      exact refl s
  | cons l ls ih =>
      intro s t h
      rw [List.foldlM_cons] at h
      cases hs : f s l with
      | none => rw [hs] at h; cases h
      | some u =>
          rw [hs] at h
          have hrest := ih (fun v k hk => hok v k (List.mem_cons_of_mem l hk)) u t h
          exact (single (hok s l (List.mem_cons_self ..)) (hstep s l u hs)).trans hrest

end Reaches

end Base
