import AgentPact.Agent.Interactions
import AgentPact.Texts

/-!
# Chains of replans

What a chain of accepted replans leaves of the plan it started from.

One acceptance compares neighbours: the completed steps are the same, and the
rest carries no authority that the rest of the plan before did not carry as
often.  `Replaces` says so of two plans, and `ReplanChain.replaces` of the ends
of a chain, at the steps that were completed at its first replan.

The ids of the replaced steps are compared with nothing.  That they are new is
what `validate_plan_proposal` asks of a plan as a whole.
-/

namespace AgentPact

/-! ## Steps -/

namespace BusinessPlanStep

/-- `_canonical_json` of a step. -/
def canonical (s : BusinessPlanStep) : Json := s.modelDump.canonical

/-- The document of a step, as a dictionary. -/
def dict (s : BusinessPlanStep) : JsonDict where
  fields := ("step_id", .str s.stepId) :: s.authority
  distinct := by simp [authority]

/-- The document of a step without its id, as a dictionary. -/
def authorityDict (s : BusinessPlanStep) : JsonDict where
  fields := s.authority
  distinct := by simp [authority]

/-- Steps of one authority agree on everything but their ids. -/
structure SameAuthority (a b : BusinessPlanStep) : Prop where
  capability : a.capabilityId = b.capabilityId
  version : a.capabilityVersion = b.capabilityVersion
  grant : a.grantId = b.grantId
  contract : a.contractId = b.contractId
  inputs : a.inputs.toJson.canonical = b.inputs.toJson.canonical
  transition : a.expectedTransition.toJson.canonical = b.expectedTransition.toJson.canonical
  criteria : a.successCriteria = b.successCriteria

/-- The authority digest tells whether two steps have one authority. -/
theorem authorityDigest_eq_iff {a b : BusinessPlanStep} :
    a.authorityDigest = b.authorityDigest ↔ a.SameAuthority b := by
  constructor
  · intro h
    have hget := JsonDict.normal_get (a := a.authorityDict) (b := b.authorityDict) h
    exact ⟨Json.str.inj (hget "capability_id"),
      Json.canonical_ofOption_str_inj.mp (hget "capability_version"),
      Json.str.inj (hget "grant_id"), Json.str.inj (hget "contract_id"), hget "inputs",
      hget "expected_transition", Json.canonical_strs_inj.mp (hget "success_criteria")⟩
  · intro h
    have hinputs : a.inputs.toJson.normal id = b.inputs.toJson.normal id := h.inputs
    have htransition : a.expectedTransition.toJson.normal id =
      b.expectedTransition.toJson.normal id := h.transition
    unfold authorityDigest Json.canonical
    simp only [Json.normal, Json.normalFields_eq_map, authority, List.map_cons, List.map_nil,
      h.capability, h.version, h.grant, h.contract, hinputs, htransition, h.criteria]

/-- Steps are the same if they have one id and one authority. -/
theorem canonical_eq_iff {a b : BusinessPlanStep} :
    a.canonical = b.canonical ↔ a.stepId = b.stepId ∧ a.authorityDigest = b.authorityDigest := by
  rw [authorityDigest_eq_iff]
  constructor
  · intro h
    have hget := JsonDict.normal_get (a := a.dict) (b := b.dict) h
    exact ⟨Json.str.inj (hget "step_id"), Json.str.inj (hget "capability_id"),
      Json.canonical_ofOption_str_inj.mp (hget "capability_version"), Json.str.inj (hget "grant_id"),
      Json.str.inj (hget "contract_id"), hget "inputs", hget "expected_transition",
      Json.canonical_strs_inj.mp (hget "success_criteria")⟩
  · rintro ⟨hid, h⟩
    have hinputs : a.inputs.toJson.normal id = b.inputs.toJson.normal id := h.inputs
    have htransition : a.expectedTransition.toJson.normal id =
      b.expectedTransition.toJson.normal id := h.transition
    unfold canonical modelDump Json.canonical
    simp only [Json.normal, Json.normalFields_eq_map, authority, List.map_cons, List.map_nil,
      hid, h.capability, h.version, h.grant, h.contract, hinputs, htransition, h.criteria]

end BusinessPlanStep

/-! ## One replan -/

/-- A plan that replaces the rest of another, after its first `k` steps. -/
structure Replaces (previous proposed : BusinessPlan) (k : Nat) : Prop where
  within : k ≤ previous.steps.length
  completed : (proposed.steps.take k).map (·.canonical) = (previous.steps.take k).map (·.canonical)
  authority : authorities (proposed.steps.drop k) ≤ authorities (previous.steps.drop k)

/-- `assess_suffix_replan` accepts a plan. -/
def AcceptsReplan (previous proposed : BusinessPlan) (k : Nat) : Prop :=
  ∃ assessment, assessSuffixReplan previous proposed k = .ok assessment ∧
    assessment.requiresReauthorization = false

theorem assessSuffixReplan_eq_ok {previous proposed : BusinessPlan} {k : Nat}
    {assessment : ReplanAssessment} (h : assessSuffixReplan previous proposed k = .ok assessment) :
    k ≤ previous.steps.length ∧ assessment.reasons = suffixReplanReasons previous proposed k ∧
      (assessment.requiresReauthorization = false ↔ assessment.reasons = []) := by
  obtain ⟨_, hwithin, h⟩ := except_bind_eq_ok.mp h
  rw [ensure_eq_ok] at hwithin
  cases h
  refine ⟨by omega, rfl, ?_⟩
  simp

/-- A plan is accepted exactly when there is no reason against it. -/
theorem acceptsReplan_iff {previous proposed : BusinessPlan} {k : Nat} :
    AcceptsReplan previous proposed k ↔
      k ≤ previous.steps.length ∧ suffixReplanReasons previous proposed k = [] := by
  constructor
  · rintro ⟨assessment, hok, haccepted⟩
    obtain ⟨hwithin, hreasons, hiff⟩ := assessSuffixReplan_eq_ok hok
    exact ⟨hwithin, hreasons.symm.trans (hiff.mp haccepted)⟩
  · rintro ⟨hwithin, hreasons⟩
    have hrange : (0 : Int) ≤ k ∧ (k : Int) ≤ previous.steps.length := by omega
    refine ⟨_, except_bind_eq_ok.mpr ⟨(), ensure_eq_ok.mpr hrange, rfl⟩, ?_⟩
    simp [hreasons]

theorem keepsPrefix_eq_true {k : Nat} {previous proposed : List BusinessPlanStep}
    (h : keepsPrefix k previous proposed = true) :
    (proposed.take k).map (·.canonical) = (previous.take k).map (·.canonical) := by
  unfold keepsPrefix at h
  rw [Bool.and_eq_true, decide_eq_true_iff] at h
  obtain ⟨hlength, hsame⟩ := h
  revert hlength hsame
  generalize previous.take k = xs
  generalize proposed.take k = ys
  intro hlength hsame
  induction xs generalizing ys with
  | nil =>
      rw [List.length_nil] at hlength
      rw [List.eq_nil_of_length_eq_zero hlength]
  | cons x xs ih =>
      cases ys with
      | nil => cases hlength
      | cons y ys =>
          rw [List.zip_cons_cons, List.all_cons, Bool.and_eq_true, decide_eq_true_iff] at hsame
          have hrest := ih ys (by simpa using hlength) hsame.2
          have hhead : y.canonical = x.canonical := hsame.1.symm
          rw [List.map_cons, List.map_cons, hhead, hrest]

/-- An accepted plan replaces the rest of the one before it. -/
theorem AcceptsReplan.replaces {previous proposed : BusinessPlan} {k : Nat}
    (h : AcceptsReplan previous proposed k) : Replaces previous proposed k := by
  obtain ⟨hwithin, hreasons⟩ := acceptsReplan_iff.mp h
  simp only [suffixReplanReasons, List.append_eq_nil_iff] at hreasons
  obtain ⟨⟨_, hprefix⟩, hauthority⟩ := hreasons
  refine ⟨hwithin, keepsPrefix_eq_true ?_, ?_⟩
  · by_contra hchanged
    rw [if_neg hchanged] at hprefix
    cases hprefix
  · have hzero : authorities (proposed.steps.drop k) - authorities (previous.steps.drop k) = 0 := by
      by_contra hmore
      rw [if_neg hmore] at hauthority
      cases hauthority
    have hle := Multiset.sub_le_iff_le_add.mp hzero.le
    rwa [Multiset.zero_add] at hle

/-! ## Chains -/

/-- Plans accepted one after another, none with fewer completed steps than the one before.  The
first was accepted after `k₁` steps, and the last after `k`. -/
inductive ReplanChain (start : BusinessPlan) (k₁ : Nat) : Nat → BusinessPlan → Prop
  | first {plan : BusinessPlan} (h : AcceptsReplan start plan k₁) : ReplanChain start k₁ k₁ plan
  | next {k k' : Nat} {plan plan' : BusinessPlan} (hchain : ReplanChain start k₁ k plan)
      (hmore : k ≤ k') (h : AcceptsReplan plan plan' k') : ReplanChain start k₁ k' plan'

theorem authorities_append (xs ys : List BusinessPlanStep) :
    authorities (xs ++ ys) = authorities xs + authorities ys := by
  unfold authorities
  rw [List.map_append]
  rfl

/-- Steps that are the same have the same authorities. -/
theorem map_authorityDigest_of_canonical {xs ys : List BusinessPlanStep}
    (h : xs.map (·.canonical) = ys.map (·.canonical)) :
    xs.map (·.authorityDigest) = ys.map (·.authorityDigest) := by
  induction xs generalizing ys with
  | nil =>
      rw [List.map_nil, eq_comm, List.map_eq_nil_iff] at h
      rw [h]
  | cons x xs ih =>
      cases ys with
      | nil => cases h
      | cons y ys =>
          rw [List.map_cons, List.map_cons, List.cons.injEq] at h
          have hhead := (BusinessPlanStep.canonical_eq_iff.mp h.1).2
          rw [List.map_cons, List.map_cons, hhead, ih h.2]

/-- What comes after the first steps is split at a later one. -/
theorem drop_eq_append {α : Type} {k k' : Nat} {xs : List α} (h : k ≤ k')
    (hlength : k' ≤ xs.length) : xs.drop k = (xs.take k').drop k ++ xs.drop k' := by
  have htake : k ≤ (xs.take k').length := by
    rw [List.length_take]
    omega
  rw [← List.drop_append_of_le_length htake, List.take_append_drop]

/-- A plan that replaces the rest after some steps also replaces it after fewer. -/
theorem Replaces.mono {previous proposed : BusinessPlan} {k k' : Nat}
    (h : Replaces previous proposed k') (hle : k ≤ k') : Replaces previous proposed k := by
  have hlength : (proposed.steps.take k').length = (previous.steps.take k').length := by
    have hmap := congrArg List.length h.completed
    rwa [List.length_map, List.length_map] at hmap
  have hwithin : k' ≤ proposed.steps.length := by
    have hprevious := h.within
    rw [List.length_take, List.length_take] at hlength
    omega
  have hcompleted : ∀ steps : List BusinessPlanStep,
      (steps.take k).map (·.canonical) = ((steps.take k').map (·.canonical)).take k := by
    intro steps
    rw [← List.map_take, List.take_take, Nat.min_eq_left hle]
  have hauthority := map_authorityDigest_of_canonical h.completed
  refine ⟨hle.trans h.within, ?_, ?_⟩
  · rw [hcompleted, hcompleted, h.completed]
  · rw [drop_eq_append hle hwithin, drop_eq_append hle h.within, authorities_append,
      authorities_append]
    have hsame : authorities ((proposed.steps.take k').drop k) =
        authorities ((previous.steps.take k').drop k) := by
      unfold authorities
      rw [List.map_drop, List.map_drop, hauthority]
    rw [hsame]
    exact Multiset.add_le_add_left h.authority

/-- Replacements after the same steps compose. -/
theorem Replaces.trans {p q r : BusinessPlan} {k : Nat} (h : Replaces p q k)
    (h' : Replaces q r k) : Replaces p r k :=
  ⟨h.within, h'.completed.trans h.completed, h'.authority.trans h.authority⟩

/-- The last plan of a chain replaces the rest of the first. -/
theorem ReplanChain.replaces {start plan : BusinessPlan} {k₁ k : Nat}
    (h : ReplanChain start k₁ k plan) : k₁ ≤ k ∧ Replaces start plan k₁ := by
  induction h with
  | first h => exact ⟨le_refl _, h.replaces⟩
  | next _ hmore h ih =>
      obtain ⟨hle, hreplaces⟩ := ih
      have hle' := hle.trans hmore
      exact ⟨hle', hreplaces.trans (h.replaces.mono hle')⟩

/-- A plan that passed `validate_plan_proposal` has distinct step ids. -/
theorem validatePlanProposal_nodup {plan : BusinessPlan} {request : CapabilityRequest}
    {projection : GrantSetProjection} {grants : CapabilityGrantSet} {registry : CapabilityRegistry}
    {now : DateTime} {validator : Option CapabilityInputValidator}
    (h : validatePlanProposal plan request projection grants registry now validator = .ok ()) :
    (plan.steps.map (·.stepId)).Nodup := by
  simp only [validatePlanProposal, except_bind_eq_ok, ensure_eq_ok] at h
  obtain ⟨_, _, _, _, _, _, _, _, _, hnodup, _⟩ := h
  exact hnodup

/-- A chain of replans leaves the steps that were completed at its first replan as they were.  The
steps after them carry no authority more often than the steps after them did, and the plan none
more often than the plan.  In a plan that passed `validate_plan_proposal`, no other step has the
id of a completed one. -/
theorem replans_keep_prefix_and_authority {start plan : BusinessPlan} {k₁ k : Nat}
    (h : ReplanChain start k₁ k plan) :
    (∀ j ≤ k₁, (plan.steps.take j).map (·.canonical) = (start.steps.take j).map (·.canonical)) ∧
    (∀ digest, (authorities (plan.steps.drop k₁)).count digest ≤
      (authorities (start.steps.drop k₁)).count digest) ∧
    (∀ digest, (authorities plan.steps).count digest ≤ (authorities start.steps).count digest) ∧
    ∀ request projection grants registry now validator,
      validatePlanProposal plan request projection grants registry now validator = .ok () →
      ∀ i j s s', i < k → plan.steps[i]? = some s → plan.steps[j]? = some s' →
        s.stepId = s'.stepId → i = j := by
  obtain ⟨_, hreplaces⟩ := h.replaces
  refine ⟨?_, ?_, ?_, ?_⟩
  · intro j hj
    exact (hreplaces.mono hj).completed
  · intro digest
    exact Multiset.count_le_of_le digest hreplaces.authority
  · intro digest
    exact Multiset.count_le_of_le digest (hreplaces.mono (Nat.zero_le k₁)).authority
  · intro request projection grants registry now validator hvalid i j s s' _ hi hj hid
    have hnodup := validatePlanProposal_nodup hvalid
    have hlength : i < (plan.steps.map (·.stepId)).length := by
      rw [List.length_map]
      exact (List.getElem?_eq_some_iff.mp hi).1
    refine (List.getElem?_inj hlength hnodup).mp ?_
    rw [List.getElem?_map, List.getElem?_map, hi, hj]
    exact congrArg some hid

/-- A step without inputs. -/
def capabilityStep (stepId capabilityId : String) : BusinessPlanStep :=
  ⟨stepId, capabilityId, none, "grant", "contract", .empty, .empty, []⟩

/-- A plan of steps. -/
def stepPlan (version : Int) (steps : List BusinessPlanStep) : BusinessPlan :=
  ⟨"plan", none, "task", "contract", ⟨none, none, ∅, .empty⟩, version, none, steps⟩

/-- The step after a completed one may get any id. -/
theorem acceptsReplan_renamed (stepId : String) :
    AcceptsReplan (stepPlan 1 [capabilityStep "read" "read", capabilityStep "pay" "pay"])
      (stepPlan 2 [capabilityStep "read" "read", capabilityStep stepId "pay"]) 1 := by
  refine acceptsReplan_iff.mpr ⟨by decide, ?_⟩
  have hauthority : (capabilityStep stepId "pay").authorityDigest =
      (capabilityStep "pay" "pay").authorityDigest := rfl
  simp [suffixReplanReasons, stepPlan, keepsPrefix, CapabilityDataScope.expandsFrom,
    JsonDict.empty, authorities, hauthority]

theorem replans_keep_prefix_and_authority_sample :
    (authorities [capabilityStep "read" "read", capabilityStep "pay again" "pay"]).count
        (capabilityStep "pay" "pay").authorityDigest ≤
      (authorities [capabilityStep "read" "read", capabilityStep "pay" "pay"]).count
        (capabilityStep "pay" "pay").authorityDigest :=
  (replans_keep_prefix_and_authority (.first (acceptsReplan_renamed "pay again"))).2.2.1 _

/-- A replacement step that takes the id of a completed step is accepted. -/
theorem completed_id_reused : ¬ ∀ start plan k₁ k, ReplanChain start k₁ k plan →
    ∀ i j s s', i < k → plan.steps[i]? = some s → plan.steps[j]? = some s' →
      s.stepId = s'.stepId → i = j := by
  intro h
  have hsame := h _ _ 1 1 (.first (acceptsReplan_renamed "read")) 0 1 _ _ (by decide) rfl rfl rfl
  cases hsame

end AgentPact
