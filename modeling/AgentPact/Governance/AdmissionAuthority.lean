import AgentPact.Governance.Admission

/-!
# What an admission may authorize

A bundle that `prepare` returns carries no more authority than its grants.

Each check of the source says something about one step of the plan, or about the
request.  The lemmas here read these facts off the checks that passed, one
validator at a time, and `Authorized` gathers those about a step.  A grant that
two validators look up by one id is one grant, since the ids of a set are
distinct.
-/

namespace AgentPact

namespace Admission

/-! ## The validators -/

/-- Every step of a validated plan has an executable grant and the contract of the plan. -/
theorem validateSteps_eq_ok {contractId : String} {grants : CapabilityGrantSet} {now : DateTime}
    {steps : List BusinessPlanStep} (h : validateSteps contractId grants now steps = .ok ())
    {step : BusinessPlanStep} (hstep : step ∈ steps) :
    step.contractId = contractId ∧ ∃ g ∈ grants.grants, g.grantId = step.grantId ∧
      g.Usable .executeTransition now := by
  induction steps with
  | nil => cases hstep
  | cons first rest ih =>
      simp only [validateSteps, except_bind_eq_ok, ensure_eq_ok] at h
      obtain ⟨_, hcontract, g, hg, hrest⟩ := h
      rcases List.mem_cons.mp hstep with rfl | hmem
      · obtain ⟨hmem, _, hid, husable⟩ := CapabilityGrantSet.requireExecutable_eq_ok hg
        exact ⟨hcontract, g, hmem, hid, husable⟩
      · exact ih hrest hmem

/-- What a work order is bound to. -/
structure WorkOrderFits (w : ExecutionWorkOrder) (plan : BusinessPlan) (step : BusinessPlanStep) :
    Prop where
  task : w.boundTask = plan.taskId
  stepId : w.businessPlanStepId = step.stepId
  contract : w.boundContract = plan.contractId
  grant : w.grantId = step.grantId
  disjoint : Disjoint w.allowedOperations w.prohibitedOperations

theorem validateTaskBinding_eq_ok {w : ExecutionWorkOrder} {plan : BusinessPlan}
    (h : validateTaskBinding w plan = .ok ()) : w.boundTask = plan.taskId := by
  unfold validateTaskBinding at h
  unfold ExecutionWorkOrder.boundTask
  cases hplan : w.planTaskId with
  | none => simpa [hplan] using h
  | some planTaskId => simpa [hplan] using h

theorem validateContractBinding_eq_ok {w : ExecutionWorkOrder} {plan : BusinessPlan}
    {step : BusinessPlanStep} (h : validateContractBinding w plan step = .ok ()) :
    w.boundContract = plan.contractId := by
  unfold validateContractBinding at h
  unfold ExecutionWorkOrder.boundContract
  cases hauthority : w.authorityContractId with
  | none =>
      simp only [hauthority, except_bind_eq_ok, ensure_eq_ok] at h
      exact h.choose_spec.1
  | some authorityContractId =>
      simp only [hauthority, ensure_eq_ok] at h
      exact h.1

theorem validateWorkOrder_eq_ok {w : ExecutionWorkOrder} {plan : BusinessPlan}
    {step : BusinessPlanStep} {grants : CapabilityGrantSet} {now : DateTime}
    (h : validateWorkOrder w plan step grants now = .ok ()) : WorkOrderFits w plan step := by
  simp only [validateWorkOrder, ExecutionWorkOrder.validateBoundaries, except_bind_eq_ok,
    ensure_eq_ok] at h
  obtain ⟨_, htask, _, hstep, _, _, _, hcontract, _, hgrant, _, _, _, hdisjoint, _⟩ := h
  exact ⟨validateTaskBinding_eq_ok htask, hstep, validateContractBinding_eq_ok hcontract, hgrant,
    Finset.disjoint_iff_inter_eq_empty.mpr hdisjoint⟩

theorem firstCurrent_eq_ok {capabilityId grantId : String} {now : DateTime}
    {entries : List GrantProjectionEntry} {e : GrantProjectionEntry}
    (h : firstCurrent capabilityId grantId now entries = .ok e) :
    e ∈ entries ∧ e.capabilityId = capabilityId ∧ e.grantId = grantId ∧
      now.lt e.expiresAt = .ok true := by
  induction entries with
  | nil => cases h
  | cons first rest ih =>
      unfold firstCurrent at h
      split at h
      case isFalse =>
        obtain ⟨hmem, hfound⟩ := ih h
        exact ⟨List.mem_cons_of_mem first hmem, hfound⟩
      case isTrue hids =>
        obtain ⟨current, hcurrent, h⟩ := except_bind_eq_ok.mp h
        cases current with
        | true =>
            cases h
            exact ⟨List.mem_cons_self .., hids.1, hids.2, hcurrent⟩
        | false =>
            obtain ⟨hmem, hfound⟩ := ih h
            exact ⟨List.mem_cons_of_mem first hmem, hfound⟩

/-- A request that passed is for the principal and tenant of the projection, within one entry. -/
theorem validateCapabilityRequest_eq_ok {request : CapabilityRequest}
    {projection : GrantSetProjection} {registry : CapabilityRegistry} {now : DateTime}
    {validator : Option CapabilityInputValidator} {entry : GrantProjectionEntry}
    (h : validateCapabilityRequest request projection registry now validator = .ok entry) :
    request.principalRef = projection.principalId ∧ request.tenantId = projection.tenantId ∧
      entry ∈ projection.entries ∧ entry.grantId = request.grantRef ∧
      request.requestedScope.exceeds entry.dataScope = false := by
  simp only [validateCapabilityRequest, except_bind_eq_ok, ensure_eq_ok] at h
  obtain ⟨_, _, _, _, _, _, _, _, _, ⟨hprincipal, htenant⟩, e, hentry, _, _, _, _, _, hscope, _, _,
    _, _, _, _, _, _, _, _, hpure⟩ := h
  cases hpure
  obtain ⟨hmem, _, hid, _⟩ := firstCurrent_eq_ok hentry
  exact ⟨hprincipal, htenant, hmem, hid, hscope⟩

/-- A grant of which a projection shows an entry. -/
structure Shown (g : CapabilityGrant) (projection : GrantSetProjection) (entry : GrantProjectionEntry) :
    Prop where
  mem : entry ∈ projection.entries
  id : entry.grantId = g.grantId
  principal : g.principal = projection.principalId
  workload : g.workloadPrincipalId = projection.workloadPrincipalId
  tenant : g.tenantId = projection.tenantId
  epoch : g.revocationEpoch = projection.revocationEpoch
  capability : g.capabilityId = entry.capabilityId
  scope : g.dataScope.same entry.dataScope

/-- Every step of a proposed plan that passed has a grant that the projection shows. -/
theorem validatePlanStep_eq_ok {plan : BusinessPlan} {step : BusinessPlanStep}
    {projection : GrantSetProjection} {grants : CapabilityGrantSet} {registry : CapabilityRegistry}
    {now : DateTime} {validator : Option CapabilityInputValidator}
    (h : validatePlanStep plan step projection grants registry now validator = .ok ()) :
    ∃ g ∈ grants.grants, ∃ entry, g.grantId = step.grantId ∧ Shown g projection entry ∧
      entry.capabilityId = step.capabilityId ∧ g.Usable .requestTransition now ∧
      plan.dataScope.exceeds g.dataScope = false := by
  simp only [validatePlanStep, validateGrantProjectionBinding, except_bind_eq_ok, ensure_eq_ok,
    orRaise_eq_ok] at h
  obtain ⟨entry, hentry, _, _, g, hg, _, ⟨_, ⟨hprincipal, hworkload, htenant, hepoch⟩,
    hcapability, _, hscope, _⟩, g', hg', _, hwithin, _⟩ := h
  obtain ⟨hmem, hid⟩ := CapabilityGrantSet.requireGrant_eq_ok hg
  obtain ⟨hmem', _, hid', husable⟩ := CapabilityGrantSet.requireDimension_eq_ok hg'
  have hsame : g' = g := CapabilityGrantSet.eq_of_grantId hmem' hmem (hid'.trans hid.symm)
  subst hsame
  have hfound : entry.capabilityId = step.capabilityId ∧ entry.grantId = step.grantId := by
    simpa using List.find?_some hentry
  exact ⟨g', hmem, entry, hid, ⟨List.mem_of_find?_eq_some hentry, hfound.2.trans hid.symm, hprincipal,
    hworkload, htenant, hepoch, hcapability, hscope⟩, hfound.1, husable, hwithin⟩

theorem validatePlanSteps_eq_ok {plan : BusinessPlan} {projection : GrantSetProjection}
    {grants : CapabilityGrantSet} {registry : CapabilityRegistry} {now : DateTime}
    {validator : Option CapabilityInputValidator} {steps : List BusinessPlanStep}
    (h : validatePlanSteps plan projection grants registry now validator steps = .ok ())
    {step : BusinessPlanStep} (hstep : step ∈ steps) :
    validatePlanStep plan step projection grants registry now validator = .ok () := by
  induction steps with
  | nil => cases hstep
  | cons first rest ih =>
      obtain ⟨_, hfirst, hrest⟩ := except_bind_eq_ok.mp h
      rcases List.mem_cons.mp hstep with rfl | hmem
      · exact hfirst
      · exact ih hrest hmem

/-- Every step of a checked plan has its work order, with the probe of its capability. -/
theorem checkWorkOrders_eq_ok {a : Proposal} {steps : List BusinessPlanStep}
    (h : checkWorkOrders a steps = .ok ()) {step : BusinessPlanStep} (hstep : step ∈ steps) :
    ∃ w definition, workOrderOf a.workOrders step.stepId = some w ∧
      WorkOrderFits w a.plan step ∧ a.registry.require step.capabilityId = .ok definition ∧
      w.resultProbeRef = definition.resultProbeRef := by
  induction steps with
  | nil => cases hstep
  | cons first rest ih =>
      simp only [checkWorkOrders, check, except_bind_eq_ok, ensure_eq_ok, orRaise_eq_ok] at h
      obtain ⟨w, hw, _, hfits, definition, hdefinition, _, hprobe, hrest⟩ := h
      rcases List.mem_cons.mp hstep with rfl | hmem
      · exact ⟨w, definition, hw, validateWorkOrder_eq_ok hfits, hdefinition, hprobe⟩
      · exact ih hrest hmem

/-! ## Bundles -/

/-- What a bundle may do at a step of its plan: one work order, and one grant. -/
structure Authorized (a : Proposal) (b : TaskAdmissionBundle) (step : BusinessPlanStep)
    (w : ExecutionWorkOrder) (definition : CapabilityDefinition) (g : CapabilityGrant) : Prop where
  workOrder : b.workOrders.filter (fun w => w.businessPlanStepId = step.stepId) = [w]
  fits : WorkOrderFits w b.plan step
  registered : a.registry.require step.capabilityId = .ok definition
  probe : w.resultProbeRef = definition.resultProbeRef
  bundled : g ∈ b.grants
  grantId : g.grantId = step.grantId
  capability : g.capabilityId = step.capabilityId
  requestable : g.Usable .requestTransition a.now
  executable : g.Usable .executeTransition a.now
  organization : g.tenantId = b.task.organizationId
  principal : g.principal = b.request.principalRef
  workload : g.workloadPrincipalId = a.projection.workloadPrincipalId
  epoch : g.revocationEpoch = a.projection.revocationEpoch
  policy : g.policySnapshotVersion = b.contract.policyVersion
  allowed : step.capabilityId ∈ b.contract.allowedOperations
  within : b.plan.dataScope.exceeds g.dataScope = false

theorem mem_referencedGrants {a : Proposal} {g : CapabilityGrant} :
    g ∈ referencedGrants a ↔
      g ∈ a.grants.grants ∧ ∃ step ∈ a.plan.steps, step.grantId = g.grantId := by
  unfold referencedGrants
  rw [List.mem_insertionSort, List.mem_filter, decide_eq_true_iff, List.mem_map]

/-- The only one of some elements with a key is all that a filter by the key leaves. -/
theorem filter_eq_singleton {α β : Type} [DecidableEq β] {key : α → β} {xs : List α}
    (hnodup : (xs.map key).Nodup) {x : α} (hx : x ∈ xs) :
    xs.filter (fun y => key y = key x) = [x] := by
  induction xs with
  | nil => cases hx
  | cons y ys ih =>
      rw [List.map_cons, List.nodup_cons] at hnodup
      rcases List.mem_cons.mp hx with rfl | hmem
      · have hrest : ys.filter (fun y => key y = key x) = [] := by
          refine List.filter_eq_nil_iff.mpr fun z hz hkey => hnodup.1 ?_
          exact List.mem_map.mpr ⟨z, hz, of_decide_eq_true hkey⟩
        rw [List.filter_cons_of_pos (by simp), hrest]
      · have hne : key y ≠ key x := by
          intro heq
          exact hnodup.1 (List.mem_map.mpr ⟨x, hmem, heq.symm⟩)
        rw [List.filter_cons_of_neg (by simpa using hne)]
        exact ih hnodup.2 hmem

/-- What the three parts of `prepare` checked, and the bundle they led to. -/
structure Prepared (a : Proposal) (b : TaskAdmissionBundle) (entry : GrantProjectionEntry) :
    Prop where
  task : b.task = a.task
  contract : b.contract = a.contract
  request : b.request = a.request
  plan : b.plan = a.plan
  workOrders : b.workOrders = a.workOrders
  grants : b.grants = referencedGrants a
  tenant : a.request.tenantId = a.task.organizationId
  requested : validateCapabilityRequest a.request a.projection a.registry a.now a.inputValidator =
    .ok entry
  proposed : validatePlanProposal a.plan a.request a.projection a.grants a.registry a.now
    a.inputValidator = .ok ()
  operations : ∀ step ∈ a.plan.steps, step.capabilityId ∈ a.contract.allowedOperations
  oneEach : (a.workOrders.map (·.businessPlanStepId)).Nodup
  ordered : checkWorkOrders a a.plan.steps = .ok ()
  policies : ∀ g ∈ referencedGrants a, g.policySnapshotVersion = a.contract.policyVersion

theorem prepare_eq_ok {O : Process} {a : Proposal} {b : TaskAdmissionBundle}
    (h : prepare O a = .ok b) : ∃ entry, Prepared a b entry := by
  obtain ⟨_, hidentities, h⟩ := except_bind_eq_ok.mp h
  obtain ⟨⟨entry, grant⟩, hrequest, h⟩ := except_bind_eq_ok.mp h
  obtain ⟨_, hplan, h⟩ := except_bind_eq_ok.mp h
  obtain ⟨_, _, h⟩ := except_bind_eq_ok.mp h
  obtain ⟨_, hpolicies, h⟩ := except_bind_eq_ok.mp h
  cases h
  simp only [checkIdentities, check, except_bind_eq_ok, ensure_eq_ok] at hidentities
  obtain ⟨_, _, _, _, _, _, _, htenant, _⟩ := hidentities
  simp only [checkPlan, check, except_bind_eq_ok, ensure_eq_ok] at hplan
  obtain ⟨_, hproposed, _, hoperations, _, _, _, ⟨honeEach, _⟩, hordered⟩ := hplan
  obtain ⟨entry', hentry, hrequest⟩ := except_bind_eq_ok.mp hrequest
  exact ⟨entry', rfl, rfl, rfl, rfl, rfl, rfl, htenant, hentry, hproposed, hoperations, honeEach,
    hordered, ensure_eq_ok.mp hpolicies⟩

/-- What a proposed plan that passed satisfies. -/
theorem validatePlanProposal_eq_ok {plan : BusinessPlan} {request : CapabilityRequest}
    {projection : GrantSetProjection} {grants : CapabilityGrantSet} {registry : CapabilityRegistry}
    {now : DateTime} {validator : Option CapabilityInputValidator}
    (h : validatePlanProposal plan request projection grants registry now validator = .ok ()) :
    (∃ first, plan.steps.head? = some first ∧ first.grantId = request.grantRef) ∧
      plan.dataScope.exceeds request.requestedScope = false ∧
      validatePlanSteps plan projection grants registry now validator plan.steps = .ok () ∧
      validateBusinessPlan plan grants now = .ok () := by
  simp only [validatePlanProposal, except_bind_eq_ok, ensure_eq_ok, orRaise_eq_ok] at h
  obtain ⟨_, _, _, _, first, hfirst, _, _, _, _, _, ⟨_, hgrant⟩, _, _, _, hscope, _, _, _, hsteps,
    hplan⟩ := h
  exact ⟨⟨first, hfirst, hgrant⟩, hscope, hsteps, hplan⟩

/-- Every step of a prepared plan is authorized. -/
theorem Prepared.authorized {a : Proposal} {b : TaskAdmissionBundle} {entry : GrantProjectionEntry}
    (h : Prepared a b entry) {step : BusinessPlanStep} (hstep : step ∈ b.plan.steps) :
    ∃ w definition g, Authorized a b step w definition g := by
  rw [h.plan] at hstep
  obtain ⟨hprincipal, htenant, _, _, _⟩ := validateCapabilityRequest_eq_ok h.requested
  obtain ⟨_, _, hsteps, hplan⟩ := validatePlanProposal_eq_ok h.proposed
  obtain ⟨g, hg, e, hid, hshown, hcapability, hrequestable, hwithin⟩ :=
    validatePlanStep_eq_ok (validatePlanSteps_eq_ok hsteps hstep)
  obtain ⟨_, g', hg', hid', hexecutable⟩ := validateSteps_eq_ok hplan hstep
  have hsame : g' = g := CapabilityGrantSet.eq_of_grantId hg' hg (hid'.trans hid.symm)
  subst hsame
  obtain ⟨w, definition, hw, hfits, hdefinition, hprobe⟩ := checkWorkOrders_eq_ok h.ordered hstep
  have hreferenced : g' ∈ referencedGrants a :=
    mem_referencedGrants.mpr ⟨hg, step, hstep, hid.symm⟩
  have hone : a.workOrders.filter (fun w => w.businessPlanStepId = step.stepId) = [w] := by
    rw [← hfits.stepId]
    exact filter_eq_singleton h.oneEach (List.mem_of_find?_eq_some hw)
  exact ⟨w, definition, g', {
    workOrder := by rw [h.workOrders]; exact hone
    fits := by rw [h.plan]; exact hfits
    registered := hdefinition
    probe := hprobe
    bundled := by rw [h.grants]; exact hreferenced
    grantId := hid
    capability := hshown.capability.trans hcapability
    requestable := hrequestable
    executable := hexecutable
    organization := by rw [h.task, hshown.tenant, ← htenant, h.tenant]
    principal := by rw [h.request, hshown.principal, hprincipal]
    workload := hshown.workload
    epoch := hshown.epoch
    policy := by rw [h.contract]; exact h.policies g' hreferenced
    allowed := by rw [h.contract]; exact h.operations step hstep
    within := by rw [h.plan]; exact hwithin }⟩

/-- The requested scope is within the requested grant, which is bundled. -/
theorem Prepared.requestedGrant {a : Proposal} {b : TaskAdmissionBundle}
    {entry : GrantProjectionEntry} (h : Prepared a b entry) :
    ∃ g ∈ b.grants, g.grantId = b.request.grantRef ∧
      b.request.requestedScope.exceeds g.dataScope = false := by
  obtain ⟨_, _, hentry, hentryId, hscope⟩ := validateCapabilityRequest_eq_ok h.requested
  obtain ⟨⟨first, hfirst, hfirstGrant⟩, _, hsteps, _⟩ := validatePlanProposal_eq_ok h.proposed
  have hmem : first ∈ a.plan.steps := List.mem_of_mem_head? hfirst
  obtain ⟨g, hg, e, hid, hshown, _⟩ := validatePlanStep_eq_ok (validatePlanSteps_eq_ok hsteps hmem)
  have hids : e.grantId = entry.grantId := by
    rw [hshown.id, hid, hfirstGrant, hentryId]
  have hsame : e = entry := List.inj_on_of_nodup_map a.projection.unique hshown.mem hentry hids
  subst hsame
  refine ⟨g, ?_, ?_, ?_⟩
  · rw [h.grants]
    exact mem_referencedGrants.mpr ⟨hg, first, hmem, hid.symm⟩
  · rw [h.request, hid, hfirstGrant]
  · rw [h.request, hshown.scope.exceeds_eq]
    exact hscope

/-- A bundle that `prepare` returns authorizes every step of its plan by one work order and one
grant of the bundle.  The plan is within the request and the request within its grant.  The grants
of the bundle are those that steps reference, each once. -/
theorem prepare_never_widens {O : Process} {a : Proposal} {b : TaskAdmissionBundle}
    (h : prepare O a = .ok b) :
    (∀ step ∈ b.plan.steps, ∃ w definition g, Authorized a b step w definition g) ∧
    b.plan.dataScope.exceeds b.request.requestedScope = false ∧
    (∃ g ∈ b.grants, g.grantId = b.request.grantRef ∧
      b.request.requestedScope.exceeds g.dataScope = false) ∧
    (∀ g, g ∈ b.grants ↔ g ∈ a.grants.grants ∧ ∃ step ∈ b.plan.steps, step.grantId = g.grantId) ∧
    b.grants.Nodup := by
  obtain ⟨entry, hprepared⟩ := prepare_eq_ok h
  obtain ⟨_, hscope, _, _⟩ := validatePlanProposal_eq_ok hprepared.proposed
  refine ⟨fun step hstep => hprepared.authorized hstep, ?_, hprepared.requestedGrant, ?_, ?_⟩
  · rw [hprepared.plan, hprepared.request]
    exact hscope
  · intro g
    rw [hprepared.grants, hprepared.plan]
    exact mem_referencedGrants
  · rw [hprepared.grants]
    unfold referencedGrants
    refine (List.perm_insertionSort _ _).nodup_iff.mpr ?_
    exact (List.Nodup.of_map _ a.grants.unique).filter _

/-- A process to prepare the sample on. -/
def sampleProcess : Process := ⟨samplePlatform, fun s => s.sort (· ≤ ·), fun _ => "0"⟩

/-- The scope of one payment. -/
def paymentScope : CapabilityDataScope := ⟨some "dept", none, {"payment"}, .empty⟩

/-- A grant to pay. -/
def paymentGrant : CapabilityGrant :=
  ⟨"grant", "pay", "1", "user", none, some "agent", "org", paymentScope, .allowExecute,
    {.requestTransition, .executeTransition}, "policy", "0", .utc 0, none, .utc 100⟩

/-- What the creator of the sample task says about it. -/
def paymentSnapshot : TrustedTaskCreationSnapshot :=
  ⟨"task", "org", .native, "user", some "agent", none, none,
    ⟨[("revocation_epoch", .str "0")], by decide⟩, "policy", 1, .utc 0, some "request", none, none,
    none, none, none, none⟩

/-- A contract for the sample task. -/
def paymentContract : TaskContract where
  contractId := "contract"
  taskId := "task"
  organizationId := "org"
  initiatorId := some "user"
  servicePrincipalId := some "agent"
  departmentId := none
  businessLineId := none
  goal := "Pay"
  allowedOperations := {"pay"}
  dataScope := ⟨[("resource_ids", .arr [.str "payment"]), ("department_id", .str "dept"),
    ("business_line_id", .null), ("attributes", .obj [])], by decide⟩
  authorizationSnapshot :=
    match paymentSnapshot.modelDump samplePlatform with
    | .obj fields => if h : (fields.map (·.1)).Nodup then ⟨fields, h⟩ else .empty
    | _ => .empty
  policyProfile := ""
  policyVersion := "policy"
  successCriteria := []
  expiresAt := some (.utc 50)
  version := 1
  mode := .audit

/-- A request to pay. -/
def paymentRequest : CapabilityRequest :=
  ⟨"request", .utc 1, .ui, "user", "session", "org", paymentScope, "pay", "1", .transition, .empty,
    {"payment"}, none, "", "grant", ⟨[("policy", "policy"), ("task_contract", "1")], by decide⟩⟩

/-- The proposal to admit the sample task. -/
def paymentProposal : Proposal where
  task := ⟨"task", "org", "Pay", .audit⟩
  creationSnapshot := paymentSnapshot
  contract := paymentContract
  request := paymentRequest
  projection := ⟨"user", some "agent", "org", "0", .utc 1,
    [⟨"grant", "pay", "1", paymentScope, {.transition}, .utc 100⟩], by decide⟩
  grants := ⟨[paymentGrant], by decide⟩
  registry := ⟨[⟨"pay", "1", .empty, "probe", {}⟩], by decide⟩
  plan := ⟨"plan", some "request", "task", "contract", paymentScope, 1, none,
    [⟨"step", "pay", some "1", "grant", "contract", .empty, .empty, []⟩]⟩
  workOrders := [⟨"order", "step", "native", "contract", some "task", none, "grant", "Pay",
    {"pay"}, {"delete"}, [], [], .l1, "probe"⟩]
  now := .utc 2
  inputValidator := none

theorem prepare_paymentProposal : ∃ b, prepare sampleProcess paymentProposal = .ok b := by
  have hok : (prepare sampleProcess paymentProposal).isOk = true := by decide +kernel
  cases hprepare : prepare sampleProcess paymentProposal with
  | error e => rw [hprepare] at hok; cases hok
  | ok b => exact ⟨b, rfl⟩

theorem prepare_never_widens_sample : ∃ b, prepare sampleProcess paymentProposal = .ok b ∧
    ∀ step ∈ b.plan.steps, ∃ w definition g, Authorized paymentProposal b step w definition g := by
  obtain ⟨b, hprepare⟩ := prepare_paymentProposal
  exact ⟨b, hprepare, (prepare_never_widens hprepare).1⟩

end Admission

end AgentPact
