import AgentPact.Agent.Replanning
import AgentPact.Agent.ScopeOrder

/-!
# Replans of a whole plan

`assess_replan` of `agent/work_orders.py`, and what a plan may hold that it lets
pass.

The assessment compares the steps of two plans id by id.  It reads the
capability of a step, its inputs and its expected transition.  It does not read
the version of the capability, the grant or the contract, and of steps with one
id it reads the last.  So what an accepted plan holds is decided by the fields
that are not read, and by how often the steps occur.
-/

namespace AgentPact

/-! ## The assessment -/

/-- `previous_by_step[step_id]`: of the steps with one id the last. -/
def previousStep (previous : List BusinessPlanStep) (stepId : String) : Option BusinessPlanStep :=
  previous.reverse.find? fun s => s.stepId = stepId

/-- The authority a step holds. -/
structure HeldAuthority where
  capabilityId : String
  capabilityVersion : Option String
  grantId : String
  contractId : String
  inputs : Json
  expectedTransition : Json
deriving DecidableEq

namespace BusinessPlanStep

/-- The authority of a step, with its documents in canonical form. -/
def held (s : BusinessPlanStep) : HeldAuthority where
  capabilityId := s.capabilityId
  capabilityVersion := s.capabilityVersion
  grantId := s.grantId
  contractId := s.contractId
  inputs := s.inputs.toJson.canonical
  expectedTransition := s.expectedTransition.toJson.canonical

/-- What the assessment reads of a step. -/
def action (s : BusinessPlanStep) : String × Json × Json :=
  (s.capabilityId, s.inputs.toJson.canonical, s.expectedTransition.toJson.canonical)

/-- What it does not read. -/
def unread (s : BusinessPlanStep) : Option String × String × String :=
  (s.capabilityVersion, s.grantId, s.contractId)

theorem held_eq_iff {s t : BusinessPlanStep} :
    s.held = t.held ↔ s.action = t.action ∧ s.unread = t.unread := by
  simp only [held, action, unread, HeldAuthority.mk.injEq, Prod.mk.injEq]
  constructor
  · rintro ⟨hcapability, hversion, hgrant, hcontract, hinputs, htransition⟩
    exact ⟨⟨hcapability, hinputs, htransition⟩, hversion, hgrant, hcontract⟩
  · rintro ⟨⟨hcapability, hinputs, htransition⟩, hversion, hgrant, hcontract⟩
    exact ⟨hcapability, hversion, hgrant, hcontract, hinputs, htransition⟩

end BusinessPlanStep

/-- The authorities of some steps, with how often each occurs. -/
def heldAuthorities (steps : List BusinessPlanStep) : Multiset HeldAuthority :=
  steps.map BusinessPlanStep.held

/-- The two plans agree in all that is compared. -/
structure ComparesAlike (previous proposed : BusinessPlan) : Prop where
  contract : previous.contractId = proposed.contractId
  scope : previous.dataScope.expandsFrom proposed.dataScope = false
  capabilities : ∀ s ∈ proposed.steps, ∃ p ∈ previous.steps, p.capabilityId = s.capabilityId
  ids : ∀ id, (∃ p ∈ previous.steps, p.stepId = id) ↔ ∃ s ∈ proposed.steps, s.stepId = id
  actions : ∀ s ∈ proposed.steps, ∃ p, previousStep previous.steps s.stepId = some p ∧
    p.action = s.action

/-- Of the steps that stand for one action, none has its version, grant and contract more often in
the proposed plan than in the previous one. -/
def UnreadNoMoreOften (previous proposed : BusinessPlan) : Prop :=
  ∀ s ∈ proposed.steps,
    (proposed.steps.filter fun t => t.action = s.action).countP (·.unread = s.unread) ≤
      (previous.steps.filter fun t => t.action = s.action).countP (·.unread = s.unread)

theorem count_heldAuthorities (steps : List BusinessPlanStep) (s : BusinessPlanStep) :
    (heldAuthorities steps).count s.held =
      (steps.filter fun t => t.action = s.action).countP (·.unread = s.unread) := by
  unfold heldAuthorities
  rw [Multiset.coe_count, List.count_eq_countP, List.countP_map, List.countP_filter]
  refine List.countP_congr fun t _ => ?_
  simp [BusinessPlanStep.held_eq_iff, and_comm]

theorem heldAuthorities_le_iff {previous proposed : BusinessPlan} :
    heldAuthorities proposed.steps ≤ heldAuthorities previous.steps ↔
      UnreadNoMoreOften previous proposed := by
  rw [Multiset.le_iff_count]
  constructor
  · intro h s _
    have hcount := h s.held
    rwa [count_heldAuthorities, count_heldAuthorities] at hcount
  · intro h a
    by_cases ha : a ∈ heldAuthorities proposed.steps
    · obtain ⟨s, hs, rfl⟩ := List.mem_map.mp (Multiset.mem_coe.mp ha)
      rw [count_heldAuthorities, count_heldAuthorities]
      exact h s hs
    · rw [Multiset.count_eq_zero_of_notMem ha]
      exact Nat.zero_le _

theorem previousStep_eq_some {previous : List BusinessPlanStep} {stepId : String}
    {p : BusinessPlanStep} (h : previousStep previous stepId = some p) :
    p ∈ previous ∧ p.stepId = stepId := by
  have hmem := List.mem_of_find?_eq_some h
  have hid := List.find?_some h
  exact ⟨List.mem_reverse.mp hmem, by simpa using hid⟩

/-- Where no id occurs twice and every step keeps the version, the grant and the contract that its
id had, that is so. -/
theorem ComparesAlike.unreadNoMoreOften {previous proposed : BusinessPlan}
    (h : ComparesAlike previous proposed) (hdistinct : (proposed.steps.map (·.stepId)).Nodup)
    (hkept : ∀ s ∈ proposed.steps, ∀ p ∈ previous.steps, p.stepId = s.stepId →
      p.unread = s.unread) : UnreadNoMoreOften previous proposed := by
  rw [← heldAuthorities_le_iff]
  -- with its id, a step of the proposed plan occurs once, and the previous plan has it
  have hpairs :
      (proposed.steps.map fun s => (s.stepId, s.held) : Multiset (String × HeldAuthority)) ≤
        (previous.steps.map fun p => (p.stepId, p.held) : Multiset (String × HeldAuthority)) := by
    refine (Multiset.le_iff_subset ?_).mpr fun pair hpair => ?_
    · refine Multiset.coe_nodup.mpr (List.Nodup.of_map Prod.fst ?_)
      rwa [List.map_map]
    · obtain ⟨s, hs, rfl⟩ := List.mem_map.mp (Multiset.mem_coe.mp hpair)
      obtain ⟨p, hprevious, haction⟩ := h.actions s hs
      obtain ⟨hp, hid⟩ := previousStep_eq_some hprevious
      have hheld : p.held = s.held :=
        BusinessPlanStep.held_eq_iff.mpr ⟨haction, hkept s hs p hp hid⟩
      exact Multiset.mem_coe.mpr (List.mem_map.mpr ⟨p, hp, by rw [hid, hheld]⟩)
  have hheld := Multiset.map_le_map (f := Prod.snd) hpairs
  simpa [heldAuthorities, Function.comp_def] using hheld

/-! ## The result -/

end AgentPact
