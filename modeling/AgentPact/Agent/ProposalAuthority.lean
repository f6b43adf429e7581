import AgentPact.Governance.AdmissionAuthority

/-!
# Proposals within grants

`build_grant_projection` of `agent/interactions.py`, and what it means for a request or a
plan that it passed the checks against a projection of grants.

A projection is made at one time and used at a later one.  What it shows of a
grant is enough to know that the grant is still in force: it was in force when
it was projected, the projection is not from the future, and an entry that is
used has not expired.
-/

namespace AgentPact

open Admission

/-! ## The projection -/

/-- `_REQUEST_DIMENSIONS`. -/
def CapabilityRequestKind.dimension : CapabilityRequestKind → AuthorizationDimension
  | .discover => .discover
  | .read => .readRecord
  | .transition => .requestTransition
  | .approvalRequest => .requestApproval
  | .approvalAdjudication => .adjudicateApproval

/-- The kinds of requests that some dimensions allow. -/
def requestKinds (dimensions : Finset AuthorizationDimension) : Finset CapabilityRequestKind :=
  Finset.filter (fun kind => kind.dimension ∈ dimensions)
    {.discover, .read, .transition, .approvalRequest, .approvalAdjudication}

/-- The entry of a grant. -/
def CapabilityGrant.entry (g : CapabilityGrant) : GrantProjectionEntry where
  grantId := g.grantId
  capabilityId := g.capabilityId
  capabilityVersion := g.capabilityVersion
  dataScope := g.dataScope
  allowedRequestKinds := requestKinds g.allowedDimensions
  expiresAt := g.expiresAt

/-- The entries of some grants, without those that allow no kind of request. -/
def projectedEntries (registry : CapabilityRegistry) :
    List CapabilityGrant → Except Raised (List GrantProjectionEntry)
  | [] => .ok []
  | g :: gs => do
      let definition ← registry.require g.capabilityId
      ensure (definition.version = g.capabilityVersion)
        ⟨.valueError, "Grant capability version does not match the registry"⟩
      let rest ← projectedEntries registry gs
      pure (if requestKinds g.allowedDimensions = ∅ then rest else g.entry :: rest)

/-- By capability, then by grant. -/
def entryOrder (a b : GrantProjectionEntry) : Prop :=
  a.capabilityId < b.capabilityId ∨ (a.capabilityId = b.capabilityId ∧ a.grantId ≤ b.grantId)

instance : DecidableRel entryOrder := fun a b => by
  unfold entryOrder
  infer_instance

/-- Whether two grants are for the same principals and tenant, in one revocation epoch. -/
def CapabilityGrant.SameHolder (a b : CapabilityGrant) : Prop :=
  a.principal = b.principal ∧ a.workloadPrincipalId = b.workloadPrincipalId ∧
    a.tenantId = b.tenantId ∧ a.revocationEpoch = b.revocationEpoch

instance (a b : CapabilityGrant) : Decidable (a.SameHolder b) := by
  unfold CapabilityGrant.SameHolder
  infer_instance

/-- `build_grant_projection`. -/
def buildGrantProjection (grants : CapabilityGrantSet) (registry : CapabilityRegistry)
    (now : DateTime) : Except Raised GrantSetProjection := do
  let active ← grants.activeGrants now
  let holder ← orRaise active.head?
    ⟨.valueError, "No active Capability Grants are available for projection"⟩
  ensure (∀ g ∈ active, g.SameHolder holder)
    ⟨.valueError, "Grant projection cannot combine principals, tenants, or revocation epochs"⟩
  let entries ← projectedEntries registry active
  let sorted := entries.insertionSort entryOrder
  if unique : (sorted.map (·.grantId)).Nodup then
    pure
      { principalId := holder.principal
        workloadPrincipalId := holder.workloadPrincipalId
        tenantId := holder.tenantId
        revocationEpoch := holder.revocationEpoch
        generatedAt := now
        entries := sorted
        unique := unique }
  else throw ⟨.validationError, "GrantSetProjection grant_id values must be unique"⟩

/-! ## What an entry says of its grant -/

/-- A grant that stands behind an entry of a projection. -/
structure Behind (grants : CapabilityGrantSet) (t : DateTime) (projection : GrantSetProjection)
    (entry : GrantProjectionEntry) (g : CapabilityGrant) : Prop where
  mem : g ∈ grants.grants
  granted : g.disposition ≠ .deny
  inForce : g.isActiveAt t = .ok true
  entry : entry = g.entry
  principal : g.principal = projection.principalId
  tenant : g.tenantId = projection.tenantId

theorem mem_projectedEntries {registry : CapabilityRegistry} {gs : List CapabilityGrant}
    {entries : List GrantProjectionEntry} (h : projectedEntries registry gs = .ok entries)
    {entry : GrantProjectionEntry} (hentry : entry ∈ entries) : ∃ g ∈ gs, entry = g.entry := by
  induction gs generalizing entries with
  | nil =>
      cases h
      cases hentry
  | cons g gs ih =>
      simp only [projectedEntries, except_bind_eq_ok, ensure_eq_ok] at h
      obtain ⟨_, _, _, _, rest, hrest, hpure⟩ := h
      have hcases : entry = g.entry ∨ entry ∈ rest := by
        cases hpure
        split at hentry
        · exact .inr hentry
        · exact List.mem_cons.mp hentry
      rcases hcases with hfirst | hmem
      · exact ⟨g, List.mem_cons_self .., hfirst⟩
      · obtain ⟨g', hg', heq⟩ := ih hrest hmem
        exact ⟨g', List.mem_cons_of_mem g hg', heq⟩

/-- A grant stands behind every entry of a projection, which is dated. -/
theorem buildGrantProjection_eq_ok {grants : CapabilityGrantSet} {registry : CapabilityRegistry}
    {t : DateTime} {projection : GrantSetProjection}
    (h : buildGrantProjection grants registry t = .ok projection) :
    projection.generatedAt = t ∧
      ∀ entry ∈ projection.entries, ∃ g, Behind grants t projection entry g := by
  simp only [buildGrantProjection, except_bind_eq_ok, ensure_eq_ok] at h
  obtain ⟨active, hactive, holder, _, _, hholder, entries, hentries, h⟩ := h
  split at h
  case isFalse => cases h
  case isTrue =>
    cases h
    refine ⟨rfl, fun entry hentry => ?_⟩
    rw [List.mem_insertionSort] at hentry
    obtain ⟨g, hg, heq⟩ := mem_projectedEntries hentries hentry
    obtain ⟨hmem, hactiveAt⟩ := mem_activeAmong hactive hg
    obtain ⟨hgranted, hinForce⟩ := CapabilityGrant.activeAt_eq_true.mp hactiveAt
    exact ⟨g, hmem, hgranted, hinForce, heq, (hholder g hg).1, (hholder g hg).2.2.1⟩

theorem mem_requestKinds {dimensions : Finset AuthorizationDimension}
    {kind : CapabilityRequestKind} :
    kind ∈ requestKinds dimensions ↔ kind.dimension ∈ dimensions := by
  unfold requestKinds
  rw [Finset.mem_filter]
  exact and_iff_right (by cases kind <;> decide)

/-- A grant that was in force stays so until it expires. -/
theorem CapabilityGrant.isActiveAt_later {g : CapabilityGrant} {t now : DateTime}
    (h : g.isActiveAt t = .ok true) (hlater : t.micros ≤ now.micros)
    (hexpires : now.lt g.expiresAt = .ok true) : g.isActiveAt now = .ok true := by
  unfold isActiveAt at h ⊢
  rw [DateTime.within_eq_true] at h ⊢
  obtain ⟨⟨hstart, hstop⟩, hstarted, _⟩ := h
  obtain ⟨haware, hbefore⟩ := DateTime.lt_eq_ok.mp hexpires
  refine ⟨⟨hstart.trans (hstop.trans haware.symm), haware⟩, hstarted.trans hlater, ?_⟩
  simpa using hbefore.symm

/-! ## Requests -/

/-- A grant in force that allows a request. -/
structure RequestWithin (request : CapabilityRequest) (now : DateTime) (g : CapabilityGrant) :
    Prop where
  id : g.grantId = request.grantRef
  capability : g.capabilityId = request.capabilityRef
  version : g.capabilityVersion = request.capabilityVersion
  principal : g.principal = request.principalRef
  tenant : g.tenantId = request.tenantId
  usable : g.Usable request.requestKind.dimension now
  scope : request.requestedScope.exceeds g.dataScope = false
  resources : g.dataScope.resourceIds ≠ ∅ → request.resourceRefs ⊆ g.dataScope.resourceIds

/-- A request that passed against a projection is allowed by one of the grants projected. -/
theorem validateCapabilityRequest_within {projected : CapabilityGrantSet}
    {source registry : CapabilityRegistry} {t now : DateTime} {projection : GrantSetProjection}
    (hbuild : buildGrantProjection projected source t = .ok projection)
    {request : CapabilityRequest} {validator : Option CapabilityInputValidator}
    {entry : GrantProjectionEntry}
    (h : validateCapabilityRequest request projection registry now validator = .ok entry) :
    ∃ g ∈ projected.grants, RequestWithin request now g := by
  obtain ⟨hgenerated, hbehind⟩ := buildGrantProjection_eq_ok hbuild
  simp only [validateCapabilityRequest, except_bind_eq_ok, ensure_eq_ok] at h
  obtain ⟨_, _, _, _, unborn, hunborn, _, hpast, _, ⟨hprincipal, htenant⟩, e, hentry, _, hversion,
    _, hkind, _, hscope, _, hresources, _⟩ := h
  obtain ⟨hmem, hcapability, hid, hcurrent⟩ := firstCurrent_eq_ok hentry
  obtain ⟨g, hg, hgranted, hinForce, rfl, hgprincipal, hgtenant⟩ := hbehind e hmem
  have hlater : t.micros ≤ now.micros := by
    obtain ⟨_, hunborn⟩ := DateTime.lt_eq_ok.mp hunborn
    rw [hpast, hgenerated] at hunborn
    have hnot := of_decide_eq_false hunborn.symm
    omega
  exact ⟨g, hg, {
    id := hid
    capability := hcapability
    version := hversion.symm
    principal := hgprincipal.trans hprincipal.symm
    tenant := hgtenant.trans htenant.symm
    usable := ⟨hgranted, g.isActiveAt_later hinForce hlater hcurrent, mem_requestKinds.mp hkind⟩
    scope := hscope
    resources := hresources }⟩

/-! ## Plans -/

/-- A step of a plan within a projection and the one grant with the id it names. -/
structure StepWithin (plan : BusinessPlan) (step : BusinessPlanStep)
    (projection : GrantSetProjection) (grants : CapabilityGrantSet) (now : DateTime)
    (entry : GrantProjectionEntry) (g : CapabilityGrant) : Prop where
  listed : entry ∈ projection.entries
  listedFor : entry.capabilityId = step.capabilityId ∧ entry.grantId = step.grantId
  version : step.capabilityVersion = some entry.capabilityVersion
  held : g ∈ grants.grants
  id : g.grantId = step.grantId
  only : ∀ g' ∈ grants.grants, g'.grantId = step.grantId → g' = g
  capability : g.capabilityId = step.capabilityId
  requestable : g.Usable .requestTransition now
  executable : g.Usable .executeTransition now
  tenant : g.tenantId = projection.tenantId
  principal : g.principal = projection.principalId
  workload : g.workloadPrincipalId = projection.workloadPrincipalId
  epoch : g.revocationEpoch = projection.revocationEpoch
  expiry : g.expiresAt = entry.expiresAt
  scope : g.dataScope.same entry.dataScope
  within : plan.dataScope.exceeds g.dataScope = false

/-- A plan within a projection, the grants in force and its request. -/
structure PlanWithin (plan : BusinessPlan) (request : CapabilityRequest)
    (projection : GrantSetProjection) (grants : CapabilityGrantSet) (now : DateTime) : Prop where
  distinct : (plan.steps.map (·.stepId)).Nodup
  steps : ∀ step ∈ plan.steps, ∃ entry g, StepWithin plan step projection grants now entry g
  scope : plan.dataScope.exceeds request.requestedScope = false
  first : ∃ first, plan.steps.head? = some first ∧ first.capabilityId = request.capabilityRef ∧
    first.grantId = request.grantRef ∧
    first.inputs.toJson.canonical = request.typedInputs.toJson.canonical

/-- Every step of a plan that passed is within the projection and one grant in force. -/
theorem validatePlanProposal_step {plan : BusinessPlan} {projection : GrantSetProjection}
    {grants : CapabilityGrantSet} {registry : CapabilityRegistry} {now : DateTime}
    {validator : Option CapabilityInputValidator}
    (hsteps : validatePlanSteps plan projection grants registry now validator plan.steps = .ok ())
    (hplan : validateBusinessPlan plan grants now = .ok ()) {step : BusinessPlanStep}
    (hstep : step ∈ plan.steps) :
    ∃ entry g, StepWithin plan step projection grants now entry g := by
  have hvalid := validatePlanSteps_eq_ok hsteps hstep
  simp only [validatePlanStep, validateGrantProjectionBinding, except_bind_eq_ok, ensure_eq_ok,
    orRaise_eq_ok] at hvalid
  obtain ⟨entry, hentry, _, hversion, g, hg, _,
    ⟨_, ⟨hprincipal, hworkload, htenant, hepoch⟩, hcapability, _, hscope, hexpiry⟩, g', hg', _,
    hwithin, _⟩ := hvalid
  obtain ⟨hmem, hid⟩ := CapabilityGrantSet.requireGrant_eq_ok hg
  have honly : ∀ other ∈ grants.grants, other.grantId = step.grantId → other = g :=
    fun other hother hsame => CapabilityGrantSet.eq_of_grantId hother hmem (hsame.trans hid.symm)
  -- the grants that the two lookups of a dimension return have the same id
  obtain ⟨hmem', hfor, hid', hrequestable⟩ := CapabilityGrantSet.requireDimension_eq_ok hg'
  rw [honly g' hmem' hid'] at hfor hrequestable
  obtain ⟨_, e, hmemE, hidE, hexecutable⟩ := validateSteps_eq_ok hplan hstep
  rw [honly e hmemE hidE] at hexecutable
  have hfound : entry.capabilityId = step.capabilityId ∧ entry.grantId = step.grantId := by
    simpa using List.find?_some hentry
  exact ⟨entry, g, {
    listed := List.mem_of_find?_eq_some hentry
    listedFor := hfound
    version := hversion
    held := hmem
    id := hid
    only := honly
    capability := hfor
    requestable := hrequestable
    executable := hexecutable
    tenant := htenant
    principal := hprincipal
    workload := hworkload
    epoch := hepoch
    expiry := hexpiry
    scope := hscope
    within := hwithin }⟩

theorem validatePlanProposal_within {plan : BusinessPlan} {request : CapabilityRequest}
    {projection : GrantSetProjection} {grants : CapabilityGrantSet}
    {registry : CapabilityRegistry} {now : DateTime}
    {validator : Option CapabilityInputValidator}
    (h : validatePlanProposal plan request projection grants registry now validator = .ok ()) :
    PlanWithin plan request projection grants now := by
  simp only [validatePlanProposal, except_bind_eq_ok, ensure_eq_ok, orRaise_eq_ok] at h
  obtain ⟨_, _, _, _, first, hfirst, _, _, _, hdistinct, _, ⟨hcapability, hgrant⟩, _, hinputs, _,
    hscope, _, _, _, hsteps, hplan⟩ := h
  exact ⟨hdistinct, fun step hstep => validatePlanProposal_step hsteps hplan hstep, hscope, first,
    hfirst, hcapability, hgrant, hinputs⟩

/-- Against a projection of grants, a plan that passes is within the projection, the grants in force
and its request, and a request that passes is allowed by a grant that was projected and is still in
force. -/
theorem proposals_within_grants {projected : CapabilityGrantSet} {source : CapabilityRegistry}
    {t : DateTime} {projection : GrantSetProjection}
    (hbuild : buildGrantProjection projected source t = .ok projection) :
    (∀ plan request grants registry now validator,
      validatePlanProposal plan request projection grants registry now validator = .ok () →
      PlanWithin plan request projection grants now) ∧
    ∀ request registry now validator entry,
      validateCapabilityRequest request projection registry now validator = .ok entry →
      ∃ g ∈ projected.grants, RequestWithin request now g :=
  ⟨fun _ _ _ _ _ _ h => validatePlanProposal_within h,
    fun _ _ _ _ _ h => validateCapabilityRequest_within hbuild h⟩

/-- The sample plan, against the projection of its grants. -/
theorem proposals_within_grants_sample : ∃ projection,
    buildGrantProjection paymentProposal.grants paymentProposal.registry (.utc 1) =
      .ok projection ∧
    PlanWithin paymentProposal.plan paymentProposal.request projection paymentProposal.grants
      (.utc 2) := by
  have hran : (buildGrantProjection paymentProposal.grants paymentProposal.registry (.utc 1) >>=
      fun projection => validatePlanProposal paymentProposal.plan paymentProposal.request projection
        paymentProposal.grants paymentProposal.registry (.utc 2) none) = .ok () := by
    decide +kernel
  obtain ⟨projection, hbuild, hplan⟩ := except_bind_eq_ok.mp hran
  exact ⟨projection, hbuild, (proposals_within_grants hbuild).1 _ _ _ _ _ _ hplan⟩

end AgentPact
