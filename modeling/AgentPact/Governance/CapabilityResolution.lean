import AgentPact.Governance.Capabilities

/-!
# What a resolution grants

`CapabilityResolver.resolve` makes one grant for each registered capability.

A grant denies a capability that is not installed for the tenant, or that
another tenant asks for.  Every dimension it allows is one that a role of the
user in the scope has by itself, or one that goes with a special permission of
the user (`Provides`).  A user with more roles is granted no less.
-/

namespace AgentPact

/-- How much a disposition lets a user do. -/
def AccessDisposition.rank : AccessDisposition → Nat
  | .deny => 0
  | .needClarification => 1
  | .allow => 2
  | .allowRequestApproval => 3
  | .allowExecute => 4

/-- A grant of the same capability that allows no less. -/
def CapabilityGrant.AtMost (g g' : CapabilityGrant) : Prop :=
  g'.grantId = g.grantId ∧ g'.capabilityId = g.capabilityId ∧
    g.disposition.rank ≤ g'.disposition.rank ∧ g.allowedDimensions ⊆ g'.allowedDimensions

namespace CapabilityResolutionContext

variable {context : CapabilityResolutionContext} {policy : CapabilityAccessPolicy}
  {dimension : AuthorizationDimension}

/-- A role counts in the scope: its department is the one of the scope, and the business line of
the scope, if it has one, is one of the user. -/
def InScope (context : CapabilityResolutionContext) (dr : DepartmentRole) : Prop :=
  dr.departmentId ≠ "" ∧ context.dataScope.departmentId = some dr.departmentId ∧
    ∀ line, context.dataScope.businessLineId = some line → line ≠ "" →
      context.user.hasBusinessLine line = true

/-- A role of the user in the scope has a dimension, or a special permission goes with it. -/
def Provides (context : CapabilityResolutionContext) (policy : CapabilityAccessPolicy)
    (dimension : AuthorizationDimension) : Prop :=
  (∃ dr ∈ context.user.departmentRoles,
      context.InScope dr ∧ dimension ∈ policy.dimensionsForRole dr.role) ∨
    (context.user.hasCrossOrgRead = true ∧ dimension = .readRecord) ∨
    (context.user.hasCrossOrgApprove = true ∧ dimension = .adjudicateApproval)

theorem mem_foldr_union {α β : Type} [DecidableEq β] {f : α → Finset β} {as : List α} {b : β} :
    b ∈ as.foldr (fun a acc => f a ∪ acc) ∅ ↔ ∃ a ∈ as, b ∈ f a := by
  induction as with
  | nil => simp
  | cons a as ih => simp [ih]

theorem mem_rolesInScope {role : String} : role ∈ context.rolesInScope ↔
    ∃ dr ∈ context.user.departmentRoles, context.InScope dr ∧ dr.role = role := by
  have hline : (!context.names .businessLine ||
        context.user.hasBusinessLine (context.dataScope.businessLineId.getD "")) = true ↔
      ∀ line, context.dataScope.businessLineId = some line → line ≠ "" →
        context.user.hasBusinessLine line = true := by
    unfold names
    cases context.dataScope.businessLineId with
    | none => simp
    | some line => by_cases hempty : line = "" <;> simp [hempty]
  have hscope : ∀ dr : DepartmentRole, (context.names .department &&
        decide (context.dataScope.departmentId = some dr.departmentId) &&
        (!context.names .businessLine ||
          context.user.hasBusinessLine (context.dataScope.businessLineId.getD ""))) = true ↔
      context.InScope dr := by
    intro dr
    rw [Bool.and_eq_true, Bool.and_eq_true, hline, decide_eq_true_eq, and_assoc]
    unfold InScope
    refine and_congr_left fun ⟨hdepartment, _⟩ => ?_
    simp [names, hdepartment]
  unfold rolesInScope
  rw [List.mem_map]
  constructor
  · rintro ⟨dr, hdr, hrole⟩
    obtain ⟨hmem, hin⟩ := List.mem_filter.mp hdr
    exact ⟨dr, hmem, (hscope dr).mp hin, hrole⟩
  · rintro ⟨dr, hmem, hin, hrole⟩
    exact ⟨dr, List.mem_filter.mpr ⟨hmem, (hscope dr).mpr hin⟩, hrole⟩

/-- The dimensions of a user are exactly those that something provides. -/
theorem mem_dimensions :
    dimension ∈ context.dimensions policy ↔ context.Provides policy dimension := by
  have hflag : ∀ (flag : Bool) (y : AuthorizationDimension),
      (dimension ∈ if flag = true then ({y} : Finset AuthorizationDimension) else ∅) ↔
        flag = true ∧ dimension = y := by
    intro flag y
    cases flag <;> simp
  unfold dimensions Provides
  rw [Finset.mem_union, Finset.mem_union, mem_foldr_union, hflag, hflag, or_assoc]
  refine or_congr ?_ Iff.rfl
  constructor
  · rintro ⟨role, hrole, hdimension⟩
    obtain ⟨dr, hdr, hin, rfl⟩ := mem_rolesInScope.mp hrole
    exact ⟨dr, hdr, hin, hdimension⟩
  · rintro ⟨dr, hdr, hin, hdimension⟩
    exact ⟨dr.role, mem_rolesInScope.mpr ⟨dr, hdr, hin, rfl⟩, hdimension⟩

/-! ## One grant -/

theorem grant_eq_ok {definition : CapabilityDefinition} {disposition : AccessDisposition}
    {allowed : Finset AuthorizationDimension} {grantId : String} {g : CapabilityGrant}
    (h : context.grant definition disposition allowed grantId = .ok g) :
    g.grantId = grantId ∧ g.capabilityId = definition.capabilityId ∧
      g.disposition = disposition ∧ g.allowedDimensions = allowed := by
  obtain ⟨_, _, h⟩ := except_bind_eq_ok.mp h
  cases h
  exact ⟨rfl, rfl, rfl, rfl⟩

/-- The disposition and the dimensions that a capability is resolved to. -/
def outcome (context : CapabilityResolutionContext) (definition : CapabilityDefinition) :
    AccessDisposition × Finset AuthorizationDimension :=
  if context.tenantId ≠ context.user.orgId then (.deny, ∅)
  else if definition.capabilityId ∉ context.installedCapabilityIds then (.deny, ∅)
  else if ∃ part ∈ definition.accessPolicy.requiredScopeDimensions, ¬ context.names part then
    (.needClarification, ∅)
  else if context.dimensions definition.accessPolicy = ∅ then (.deny, ∅)
  else (disposition (context.dimensions definition.accessPolicy),
    context.dimensions definition.accessPolicy)

theorem resolveDefinition_eq (definition : CapabilityDefinition) (grantId : String) :
    context.resolveDefinition definition grantId =
      context.grant definition (context.outcome definition).1 (context.outcome definition).2
        grantId := by
  unfold resolveDefinition outcome
  split_ifs <;> rfl

/-- What another tenant asks for, or what is not installed, is denied. -/
theorem outcome_of_foreign {definition : CapabilityDefinition}
    (h : context.tenantId ≠ context.user.orgId ∨
      definition.capabilityId ∉ context.installedCapabilityIds) :
    context.outcome definition = (.deny, ∅) := by
  unfold outcome
  by_cases htenant : context.tenantId = context.user.orgId
  · rw [if_neg (not_not.mpr htenant), if_pos (h.resolve_left (not_not.mpr htenant))]
  · rw [if_pos htenant]

theorem mem_outcome {definition : CapabilityDefinition}
    (h : dimension ∈ (context.outcome definition).2) :
    context.Provides definition.accessPolicy dimension := by
  rw [← mem_dimensions]
  unfold outcome at h
  split_ifs at h
  all_goals first | exact h | exact absurd h (Finset.notMem_empty _)

/-! ## More roles -/

/-- The same question, for the same user with other roles. -/
def withRoles (context : CapabilityResolutionContext) (roles : List DepartmentRole) :
    CapabilityResolutionContext :=
  { context with user := { context.user with departmentRoles := roles } }

/-- A user with more roles has no fewer dimensions. -/
theorem dimensions_withRoles {roles : List DepartmentRole}
    (hmore : context.user.departmentRoles ⊆ roles) (policy : CapabilityAccessPolicy) :
    context.dimensions policy ⊆ (context.withRoles roles).dimensions policy := by
  intro dimension hdimension
  rw [mem_dimensions] at hdimension ⊢
  refine hdimension.imp_left ?_
  rintro ⟨dr, hdr, hin, hrole⟩
  exact ⟨dr, hmore hdr, hin, hrole⟩

theorem rank_disposition_mono {allowed more : Finset AuthorizationDimension}
    (hmore : allowed ⊆ more) : (disposition allowed).rank ≤ (disposition more).rank := by
  unfold disposition
  by_cases hexecute : .executeTransition ∈ more
  · rw [if_pos hexecute]
    split_ifs <;> decide
  · rw [if_neg hexecute, if_neg fun h => hexecute (hmore h)]
    by_cases hrequest : .requestApproval ∈ more
    · rw [if_pos hrequest]
      split_ifs <;> decide
    · rw [if_neg hrequest, if_neg fun h => hrequest (hmore h)]

/-- A user with more roles gets an outcome that is no smaller. -/
theorem outcome_withRoles {roles : List DepartmentRole}
    (hmore : context.user.departmentRoles ⊆ roles) (definition : CapabilityDefinition) :
    (context.outcome definition).1.rank ≤ ((context.withRoles roles).outcome definition).1.rank ∧
      (context.outcome definition).2 ⊆ ((context.withRoles roles).outcome definition).2 := by
  -- The tenant, the installed ids and the scope are those of the same question.
  have hdimensions := dimensions_withRoles hmore definition.accessPolicy
  have hout : (context.withRoles roles).outcome definition =
      if context.tenantId ≠ context.user.orgId then (.deny, ∅)
      else if definition.capabilityId ∉ context.installedCapabilityIds then (.deny, ∅)
      else if ∃ part ∈ definition.accessPolicy.requiredScopeDimensions, ¬ context.names part then
        (.needClarification, ∅)
      else if (context.withRoles roles).dimensions definition.accessPolicy = ∅ then (.deny, ∅)
      else (disposition ((context.withRoles roles).dimensions definition.accessPolicy),
        (context.withRoles roles).dimensions definition.accessPolicy) := rfl
  rw [hout]
  unfold outcome
  by_cases htenant : context.tenantId ≠ context.user.orgId
  · rw [if_pos htenant, if_pos htenant]
    exact ⟨le_rfl, Finset.Subset.refl _⟩
  rw [if_neg htenant, if_neg htenant]
  by_cases hinstalled : definition.capabilityId ∉ context.installedCapabilityIds
  · rw [if_pos hinstalled, if_pos hinstalled]
    exact ⟨le_rfl, Finset.Subset.refl _⟩
  rw [if_neg hinstalled, if_neg hinstalled]
  by_cases hmissing : ∃ part ∈ definition.accessPolicy.requiredScopeDimensions,
      ¬ context.names part
  · rw [if_pos hmissing, if_pos hmissing]
    exact ⟨le_rfl, Finset.Subset.refl _⟩
  rw [if_neg hmissing, if_neg hmissing]
  by_cases hempty : context.dimensions definition.accessPolicy = ∅
  · rw [if_pos hempty]
    exact ⟨Nat.zero_le _, Finset.empty_subset _⟩
  · have hmoreEmpty : (context.withRoles roles).dimensions definition.accessPolicy ≠ ∅ := by
      intro hnone
      rw [hnone] at hdimensions
      exact hempty (Finset.subset_empty.mp hdimensions)
    rw [if_neg hempty, if_neg hmoreEmpty]
    exact ⟨rank_disposition_mono hdimensions, hdimensions⟩

/-- The grant of a capability exists for a user with other roles if it does for this one. -/
theorem resolveDefinition_withRoles {roles : List DepartmentRole}
    (hmore : context.user.departmentRoles ⊆ roles) {definition : CapabilityDefinition}
    {grantId : String} {g : CapabilityGrant}
    (h : context.resolveDefinition definition grantId = .ok g) :
    ∃ g', (context.withRoles roles).resolveDefinition definition grantId = .ok g' ∧ g.AtMost g' := by
  rw [resolveDefinition_eq] at h
  obtain ⟨hid, hcapability, hdisposition, hallowed⟩ := grant_eq_ok h
  obtain ⟨expiresAt, hexpires, _⟩ := except_bind_eq_ok.mp h
  have hgrows := outcome_withRoles hmore definition
  rw [resolveDefinition_eq]
  refine ⟨_, except_bind_eq_ok.mpr ⟨expiresAt, hexpires, rfl⟩, hid.symm, hcapability.symm, ?_, ?_⟩
  · rw [hdisposition]
    exact hgrows.1
  · rw [hallowed]
    exact hgrows.2

end CapabilityResolutionContext

namespace CapabilityRegistry

open CapabilityResolutionContext

variable {r : CapabilityRegistry} {context : CapabilityResolutionContext}
  {grantId : String → String} {s : CapabilityGrantSet}

theorem ofGrants_eq_ok {grants : List CapabilityGrant} :
    CapabilityGrantSet.ofGrants grants = .ok s ↔ s.grants = grants := by
  unfold CapabilityGrantSet.ofGrants
  constructor
  · intro h
    split at h
    · cases h
      rfl
    · cases h
  · rintro rfl
    rw [dif_pos s.unique]

/-- The grants of a resolution are those of the registered capabilities, in their order. -/
theorem resolve_eq_ok : r.resolve context grantId = .ok s ↔
    List.Forall₂ (fun d g => context.resolveDefinition d (grantId d.capabilityId) = .ok g)
      r.definitions s.grants := by
  rw [← mapM_eq_ok_iff]
  unfold resolve
  rw [except_bind_eq_ok]
  constructor
  · rintro ⟨grants, hgrants, hset⟩
    rw [ofGrants_eq_ok.mp hset, hgrants]
  · intro hgrants
    exact ⟨s.grants, hgrants, ofGrants_eq_ok.mpr rfl⟩

/-- With more roles, the capabilities that were granted are granted no less. -/
theorem grants_withRoles {roles : List DepartmentRole}
    (hmore : context.user.departmentRoles ⊆ roles) {ds : List CapabilityDefinition}
    {gs : List CapabilityGrant} (h : List.Forall₂
      (fun d g => context.resolveDefinition d (grantId d.capabilityId) = .ok g) ds gs) :
    ∃ gs', List.Forall₂
      (fun d g => (context.withRoles roles).resolveDefinition d (grantId d.capabilityId) = .ok g)
      ds gs' ∧ List.Forall₂ CapabilityGrant.AtMost gs gs' := by
  induction h with
  | nil => exact ⟨[], .nil, .nil⟩
  | cons hd _ ih =>
      obtain ⟨g', hg', hmost⟩ := resolveDefinition_withRoles hmore hd
      obtain ⟨gs', hgs', hmosts⟩ := ih
      exact ⟨g' :: gs', .cons hg' hgs', .cons hmost hmosts⟩

/-- A larger set of grants has the same ids. -/
theorem grantIds_of_atMost {gs gs' : List CapabilityGrant}
    (h : List.Forall₂ CapabilityGrant.AtMost gs gs') :
    gs'.map (·.grantId) = gs.map (·.grantId) := by
  induction h with
  | nil => rfl
  | cons hmost _ ih => rw [List.map_cons, List.map_cons, hmost.1, ih]

/-- A capability that another tenant asks for, or that is not installed, is denied.  A dimension is
allowed only where a role in the scope has it or a special permission goes with it.  With more
roles the same capabilities are resolved, and each grant is at most its counterpart. -/
theorem resolve_sound_mono (h : r.resolve context grantId = .ok s) :
    (∀ g ∈ s.grants, context.tenantId ≠ context.user.orgId ∨
        g.capabilityId ∉ context.installedCapabilityIds →
      g.disposition = .deny ∧ g.allowedDimensions = ∅) ∧
    (∀ g ∈ s.grants, ∃ d ∈ r.definitions, d.capabilityId = g.capabilityId ∧
      ∀ dimension ∈ g.allowedDimensions, context.Provides d.accessPolicy dimension) ∧
    (∀ roles, context.user.departmentRoles ⊆ roles →
      ∃ s', r.resolve (context.withRoles roles) grantId = .ok s' ∧
        List.Forall₂ CapabilityGrant.AtMost s.grants s'.grants) := by
  have hgrants := resolve_eq_ok.mp h
  refine ⟨?_, ?_, ?_⟩
  · intro g hg hforeign
    obtain ⟨d, _, hd⟩ := exists_of_forall₂_right hgrants hg
    rw [resolveDefinition_eq] at hd
    obtain ⟨_, hcapability, hdisposition, hallowed⟩ := grant_eq_ok hd
    rw [hcapability] at hforeign
    rw [hdisposition, hallowed, outcome_of_foreign hforeign]
    exact ⟨rfl, rfl⟩
  · intro g hg
    obtain ⟨d, hmem, hd⟩ := exists_of_forall₂_right hgrants hg
    rw [resolveDefinition_eq] at hd
    obtain ⟨_, hcapability, _, hallowed⟩ := grant_eq_ok hd
    refine ⟨d, hmem, hcapability.symm, ?_⟩
    intro dimension hdimension
    rw [hallowed] at hdimension
    exact mem_outcome hdimension
  · intro roles hmore
    obtain ⟨gs', hgs', hmosts⟩ := grants_withRoles hmore hgrants
    have hunique : (gs'.map (·.grantId)).Nodup := by
      rw [grantIds_of_atMost hmosts]
      exact s.unique
    exact ⟨⟨gs', hunique⟩, resolve_eq_ok.mpr hgs', hmosts⟩

/-- A registry of one capability. -/
def sampleRegistry : CapabilityRegistry where
  definitions := [{
    capabilityId := "payment.refund"
    version := "1"
    inputSchema := .empty
    resultProbeRef := "probe" }]
  unique := by decide

/-- A user who may only read across the organization, and is a viewer of another department. -/
def sampleContext : CapabilityResolutionContext where
  user := {
    userId := "u"
    orgId := "org"
    departmentRoles := [⟨"other", "operator"⟩]
    hasCrossOrgRead := true }
  tenantId := "org"
  dataScope := ⟨some "payments", none, ∅, .empty⟩
  installedCapabilityIds := {"payment.refund"}
  policySnapshotVersion := "1"
  resolvedAt := ⟨0, true⟩

/-- The grant that the user gets. -/
def sampleGrants : CapabilityGrantSet where
  grants := [{
    grantId := "grant-payment.refund"
    capabilityId := "payment.refund"
    capabilityVersion := "1"
    principalId := "u"
    businessPrincipalId := some "u"
    workloadPrincipalId := none
    tenantId := "org"
    dataScope := ⟨some "payments", none, ∅, .empty⟩
    disposition := .allow
    allowedDimensions := {.readRecord}
    policySnapshotVersion := "1"
    revocationEpoch := "0"
    resolvedAt := ⟨0, true⟩
    notBefore := some ⟨0, true⟩
    expiresAt := ⟨300000000, true⟩ }]
  unique := by decide

theorem resolve_sample :
    sampleRegistry.resolve sampleContext ("grant-" ++ ·) = .ok sampleGrants := by
  refine resolve_eq_ok.mpr (.cons ?_ .nil)
  decide

/-- An operator of the department is granted what goes with the special permission, and more. -/
theorem resolve_sample_operator : ∃ s',
    sampleRegistry.resolve
      (sampleContext.withRoles [⟨"other", "operator"⟩, ⟨"payments", "operator"⟩])
      ("grant-" ++ ·) = .ok s' ∧
    List.Forall₂ CapabilityGrant.AtMost sampleGrants.grants s'.grants :=
  (resolve_sound_mono resolve_sample).2.2 _ fun _ h => List.mem_append_left _ h

end CapabilityRegistry

end AgentPact
