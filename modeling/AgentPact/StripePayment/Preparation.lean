import AgentPact.StripePayment.Compilation

/-!
# Preparing a Stripe run

`domains/stripe_payment/m10_runtime.py`: `prepare_run` compiles the request of a
user into the admission of a run, and `restore_run` compiles the same run again
from what the admission stores.
-/

namespace AgentPact

namespace Stripe

open Admission

/-! ## The admission -/

/-- `M10_ADAPTER_ID`. -/
def m10AdapterId : String := "stripe.payment.agent-run-runtime.v1"

/-- The binding of `STRIPE_RUNTIME_CONTRACT`. -/
def stripeBinding : PackRuntimeBinding :=
  ⟨packId, packVersion, m10AdapterId, ["stripe.payment.read", capabilityId]⟩

/-- `derive_stripe_admission_id`. -/
def Compiler.admissionIdOf (C : Compiler) (tenantId requestId : String) : String :=
  "admission_m10_" ++ C.digestOf ["agentpact-agent-run-admission/v1", tenantId, requestId]

namespace Compiler

variable (C : Compiler)

/-- The text that a planner is given for a token. -/
def planningText (intentDigest : String) : String :=
  "Process one authorized Stripe payment intent token " ++ intentDigest

/-- The context that a run is compiled in. -/
def runContext (user : UserContext) (requestId runId : String) (facts : StripePaymentFacts)
    (now : DateTime) : StripeM6TrustedContext where
  requestId := requestId
  taskId := runId
  contractId := "contract_m10_" ++ C.digestOf [runId, "root-contract"]
  tenantId := user.orgId
  user := user
  dataScope := paymentScopeOf facts.paymentIntentId
  resolvedAt := now
  sameTenant := rfl

/-- `_compile_authority`. -/
def compileAuthority (user : UserContext) (requestId runId intentDigest : String)
    (facts : StripePaymentFacts) (now : DateTime) (planner : ConstrainedPlanner)
    (resolvedId : String → String) : Except Raised StripeM6Compilation := do
  let acceptedAt ← now.add (-DateTime.second)
  let expiresAt ← now.add (20 * 60 * DateTime.second)
  C.compileStripeRequest (planningText intentDigest) (C.runContext user requestId runId facts now)
    (C.stripeInstallation user.orgId acceptedAt expiresAt packConformanceManifestDigest)
    stripeConformanceAttestation planner resolvedId

/-- The admission of a run, under a grant. -/
def admissionFor (user : UserContext) (facts : StripePaymentFacts)
    (authority : StripeM6Compilation) (grant : CapabilityGrant)
    (admissionId intentDigest providerMode : String) (now : DateTime) :
    Admission.TaskAdmissionBundle where
  schemaVersion := "phase2-task-admission-bundle-v1"
  providerMode := providerMode
  runtimeBinding := some stripeBinding
  admissionId := admissionId
  task := {
    taskId := authority.businessPlan.taskId
    organizationId := user.orgId
    goal := authority.taskContract.goal
    mode := .audit }
  creationSnapshot := {
    taskId := authority.businessPlan.taskId
    organizationId := user.orgId
    creationPath := .sdkApi
    initiatorId := user.userId
    servicePrincipalId := authority.taskContract.servicePrincipalId
    departmentId := some paymentsDepartmentId
    businessLineId := some businessLineId
    authorizationSnapshot :=
      ⟨[("installation_id", .str authority.installation.installationId)], by simp⟩
    policyVersion := policyVersion
    contractVersion := 1
    createdAt := now
    requestId := some authority.requestId
    workflowId := none
    workflowRunId := none
    templateId := none
    templateVersion := none
    templateRunId := none
    callerId := some "m10-agent-run-api" }
  contract := authority.taskContract
  request := {
    requestId := authority.requestId
    submittedAt := now
    entryMode := .ui
    principalRef := user.userId
    sessionRef := "m10-session:" ++ C.digestOf [user.userId, authority.requestId]
    tenantId := user.orgId
    requestedScope := authority.businessPlan.dataScope
    capabilityRef := capabilityId
    capabilityVersion := packVersion
    requestKind := .transition
    typedInputs := facts.inputs
    resourceRefs := {facts.paymentIntentId}
    approvalRoundRef := none
    userIntentSummary := "Authorized stripe intent token " ++ intentDigest
    grantRef := grant.grantId
    contractVersions := ⟨[("pack", packVersion), ("policy", policyVersion),
      ("task_contract", "1")], by decide⟩ }
  grants := authority.grants.grants
  plan := authority.businessPlan
  workOrders := [authority.workOrder]
  auditRecord := {
    eventType := "governed_task_admitted"
    admissionId := admissionId
    requestId := authority.requestId
    taskId := authority.businessPlan.taskId
    organizationId := user.orgId
    contractId := authority.taskContract.contractId
    planId := authority.businessPlan.planId
    grantId := grant.grantId
    capabilityId := capabilityId
    capabilityVersion := packVersion
    policyVersion := policyVersion
    revocationEpoch := grant.revocationEpoch
    mode := authority.taskContract.mode
    createdAt := now }

/-- `_admission_bundle`. -/
def admissionBundle (user : UserContext) (facts : StripePaymentFacts)
    (authority : StripeM6Compilation) (admissionId intentDigest providerMode : String)
    (now : DateTime) : Except Raised Admission.TaskAdmissionBundle := do
  let grant ← orRaise authority.grants.grants.head? ⟨.lookupError, "list index out of range"⟩
  valid (user.userId ≠ "")
  pure (C.admissionFor user facts authority grant admissionId intentDigest providerMode now)

end Compiler

/-! ## What a run compiles to -/

/-- The times of a run are in the range of years. -/
structure InRange (now : DateTime) : Prop where
  accepted : DateTime.second ≤ now.micros
  expires : now.micros + 20 * 60 * DateTime.second ≤ DateTime.maxMicros

namespace Compiler

section

variable (C : Compiler) (user : UserContext) (requestId runId intentDigest : String)
  (facts : StripePaymentFacts) (now : DateTime)

/-- The grant of a run, once it has an id. -/
def runGrant (grantId : String) : CapabilityGrant where
  grantId := grantId
  capabilityId := capabilityId
  capabilityVersion := packVersion
  principalId := user.userId
  businessPrincipalId := some user.userId
  workloadPrincipalId := some "stripe_m6_planner_service"
  tenantId := user.orgId
  dataScope := paymentScopeOf facts.paymentIntentId
  disposition :=
    if C.setup.dimensionsOf user = ∅ then .deny
    else CapabilityResolutionContext.disposition (C.setup.dimensionsOf user)
  allowedDimensions := C.setup.dimensionsOf user
  policySnapshotVersion := policyVersion
  revocationEpoch := "stripe-m6-epoch-1"
  resolvedAt := now
  notBefore := some now
  expiresAt := ⟨now.micros + 300 * DateTime.second, now.aware⟩

/-- The installation that a run is compiled under. -/
def runInstallation : DomainPackInstallation :=
  C.stripeInstallation user.orgId ⟨now.micros + -DateTime.second, now.aware⟩
    ⟨now.micros + 20 * 60 * DateTime.second, now.aware⟩ packConformanceManifestDigest

/-- What a planner sees of the capability. -/
def modelSafe : ModelSafeCapability := ⟨capabilityId, packVersion, C.setup.inputSchema⟩

/-- What the planner of a run proposes, with the facts that its inputs are normalized to. -/
def proposed (planner : ConstrainedPlanner) :
    Except Raised (PlannerProposal × StripePaymentFacts) := do
  let proposal ← parsePlannerProposal C.loads
    (← planner ⟨planningText intentDigest, [C.modelSafe]⟩)
  let _ ← requireProjectedCapability proposal [C.modelSafe]
  let normalized ← C.normalizeBusinessInputs proposal.businessInputs
  pure (proposal, normalized)

/-- What a run is compiled to from a proposal. -/
def runCompilation (proposal : PlannerProposal) (normalized : StripePaymentFacts) :
    StripeM6Compilation :=
  let context := C.runContext user requestId runId facts now
  let grant := C.runGrant user facts now (C.stableId requestId ("grant-" ++ capabilityId))
  let contract :=
    C.contractOf (planningText intentDigest) context (C.runInstallation user now) grant
  let step := C.stepOf context grant contract.successCriteria normalized.inputs
  { installation := C.runInstallation user now
    grants := ⟨[grant], List.nodup_singleton _⟩
    projection := [C.modelSafe]
    proposal := proposal
    taskContract := contract
    businessPlan := C.planOf context step
    workOrder := C.workOrderFor context grant step contract.successCriteria
    requestId := requestId }

variable {C user requestId runId intentDigest facts now}

/-- The capability of the manifest is active. -/
theorem runInstallation_active :
    buildActiveDomainPackSet user.orgId C.setup.manifest stripeConformanceAttestation
      (C.runInstallation user now)
      (fun id => if id = packId then some policyVersion else none)
      (fun id => if id = packId then some stripeAdapterRef else none) now =
        .ok (some C.setup.registry) := by
  have hsecond : (0 : Int) < DateTime.second := by decide
  have hcurrent : now.within (C.runInstallation user now).acceptedAt
      (C.runInstallation user now).expiresAt = .ok true := by
    refine DateTime.within_eq_true.mpr ⟨⟨rfl, rfl⟩, ?_, ?_⟩
    · show now.micros + -DateTime.second ≤ now.micros
      omega
    · show now.micros < now.micros + 20 * 60 * DateTime.second
      omega
  unfold buildActiveDomainPackSet
  rw [if_neg (by simp [runInstallation, stripeInstallation]), hcurrent]
  rfl

theorem resolve_run (h : InRange now) (resolvedId : String → String) :
    C.setup.registry.resolve
      (resolutionContext (C.runContext user requestId runId facts now) {capabilityId}) resolvedId =
        .ok ⟨[C.runGrant user facts now (resolvedId capabilityId)], List.nodup_singleton _⟩ := by
  have hadd : now.add (300 * DateTime.second) =
      .ok ⟨now.micros + 300 * DateTime.second, now.aware⟩ := by
    refine DateTime.add_eq_ok.mpr ⟨?_, rfl⟩
    have hsecond : DateTime.second = 1000000 := rfl
    have haccepted := h.accepted
    have hexpires := h.expires
    omega
  have hdefinition : (resolutionContext (C.runContext user requestId runId facts now)
      {capabilityId}).resolveDefinition C.setup.capability (resolvedId capabilityId) =
        .ok (C.runGrant user facts now (resolvedId capabilityId)) := by
    have hnames : ¬ ∃ part ∈ C.setup.capability.accessPolicy.requiredScopeDimensions,
        ¬ (resolutionContext (C.runContext user requestId runId facts now)
          {capabilityId}).names part := by
      rintro ⟨part, _, hnames⟩
      cases part with
      | department =>
          have hne : decide (paymentsDepartmentId ≠ "") = true := by decide
          exact hnames hne
      | businessLine =>
          have hne : decide (businessLineId ≠ "") = true := by decide
          exact hnames hne
    have hdimensions : (resolutionContext (C.runContext user requestId runId facts now)
        {capabilityId}).dimensions C.setup.capability.accessPolicy =
          C.setup.dimensionsOf user := rfl
    unfold CapabilityResolutionContext.resolveDefinition
    rw [if_neg fun hne => hne rfl, if_neg fun hne => hne (Finset.mem_singleton_self _),
      if_neg hnames, hdimensions]
    by_cases hempty : C.setup.dimensionsOf user = ∅
    · rw [if_pos hempty]
      refine except_bind_eq_ok.mpr ⟨_, hadd, ?_⟩
      unfold runGrant
      rw [if_pos hempty, hempty]
      rfl
    · rw [if_neg hempty]
      refine except_bind_eq_ok.mpr ⟨_, hadd, ?_⟩
      unfold runGrant
      rw [if_neg hempty]
      rfl
  refine except_bind_eq_ok.mpr
    ⟨[C.runGrant user facts now (resolvedId capabilityId)], ?_, dif_pos (List.nodup_singleton _)⟩
  show List.mapM _ [C.setup.capability] = _
  rw [List.mapM_cons, List.mapM_nil]
  refine except_bind_eq_ok.mpr ⟨_, hdefinition, ?_⟩
  rfl

/-- The grant of a run expires before the installation. -/
theorem runGrant_expires (grantId : String) :
    (C.runInstallation user now).expiresAt.lt (C.runGrant user facts now grantId).expiresAt =
      .ok false := by
  have hexpires : (C.runInstallation user now).expiresAt =
      ⟨now.micros + 20 * 60 * DateTime.second, now.aware⟩ := rfl
  have hgrant : (C.runGrant user facts now grantId).expiresAt =
      ⟨now.micros + 300 * DateTime.second, now.aware⟩ := rfl
  have hsecond : DateTime.second = 1000000 := rfl
  rw [hexpires, hgrant]
  refine DateTime.lt_eq_ok.mpr ⟨rfl, (decide_eq_false ?_).symm⟩
  dsimp only
  omega

/-- A resolved grant is bound to a run with its own expiry. -/
theorem boundGrant_run (grantId : String) :
    C.boundGrant (C.runContext user requestId runId facts now) (C.runInstallation user now)
        (C.runGrant user facts now grantId) =
      .ok (C.runGrant user facts now (C.stableId requestId ("grant-" ++ capabilityId))) := by
  have hearlier : earlier (C.runGrant user facts now grantId).expiresAt
      (C.runInstallation user now).expiresAt =
        .ok (C.runGrant user facts now grantId).expiresAt :=
    except_bind_eq_ok.mpr ⟨false, runGrant_expires grantId, rfl⟩
  refine except_bind_eq_ok.mpr ⟨_, hearlier, ?_⟩
  rfl

/-- The grant of a run is active when the run is compiled. -/
theorem runGrant_active (grantId : String) :
    (C.runGrant user facts now grantId).isActiveAt now = .ok true := by
  have hsecond : DateTime.second = 1000000 := rfl
  refine DateTime.within_eq_true.mpr ⟨⟨rfl, rfl⟩, le_refl now.micros, ?_⟩
  show now.micros < now.micros + 300 * DateTime.second
  omega

/-- The grant of a run may be used, if the user may execute. -/
theorem runGrant_usable (grantId : String)
    (h : .executeTransition ∈ C.setup.dimensionsOf user) :
    (C.runGrant user facts now grantId).Usable .executeTransition now := by
  refine ⟨?_, runGrant_active grantId, h⟩
  unfold runGrant CapabilityResolutionContext.disposition
  rw [if_neg (Finset.ne_empty_of_mem h), if_pos h]
  exact fun hdeny => by cases hdeny

/-- The projection of the grants of a run: its capability, if the user may execute it. -/
theorem projection_run (grantId : String) {unique} :
    buildModelSafeProjection ⟨[C.runGrant user facts now grantId], unique⟩ C.setup.registry now =
      if .executeTransition ∈ C.setup.dimensionsOf user then .ok [C.modelSafe]
      else .error ⟨.valueError,
        "No installed executable Capability is available to the Planner"⟩ := by
  have hexecutable : (CapabilityGrantSet.mk [C.runGrant user facts now grantId]
      unique).executableGrants now = _ := executableGrants_single (runGrant_active grantId)
  unfold buildModelSafeProjection
  rw [hexecutable]
  by_cases hexecute : .executeTransition ∈ C.setup.dimensionsOf user
  · rw [if_pos hexecute, if_pos ⟨(runGrant_usable grantId hexecute).granted, hexecute⟩]
    rfl
  · rw [if_neg hexecute, if_neg fun h => hexecute h.2]
    rfl

/-- The one grant of a run is the one that its plan and its work order are for. -/
theorem requireSingle_run (grantId : String) {unique}
    (h : .executeTransition ∈ C.setup.dimensionsOf user) :
    requireSingleExecutableGrant ⟨[C.runGrant user facts now grantId], unique⟩ capabilityId now =
      .ok (C.runGrant user facts now grantId) := by
  have hexecutable : (CapabilityGrantSet.mk [C.runGrant user facts now grantId]
      unique).executableGrants now = _ := executableGrants_single (runGrant_active grantId)
  rw [if_pos ⟨(runGrant_usable grantId h).granted, h⟩] at hexecutable
  refine except_bind_eq_ok.mpr ⟨_, hexecutable, ?_⟩
  rfl

/-- What a run is compiled to, once its proposal is known, passes every check. -/
theorem validate_run (h : .executeTransition ∈ C.setup.dimensionsOf user)
    (proposal : PlannerProposal) (normalized : StripePaymentFacts) :
    let context := C.runContext user requestId runId facts now
    let grant := C.runGrant user facts now (C.stableId requestId ("grant-" ++ capabilityId))
    let c := C.runCompilation user requestId runId intentDigest facts now proposal normalized
    let step := C.stepOf context grant c.taskContract.successCriteria normalized.inputs
    C.validateContract c.taskContract context grant (C.runInstallation user now) = .ok () ∧
      validateBusinessPlan c.businessPlan c.grants now = .ok () ∧
      validateWorkOrder c.workOrder c.businessPlan step c.grants now = .ok () := by
  intro context grant c step
  have husable : grant.Usable .executeTransition now := runGrant_usable _ h
  have hexecutable : c.grants.requireExecutable capabilityId grant.grantId now = .ok grant :=
    requireExecutable_single husable
  have hdisjoint : ({"read", "input", "select", "submit"} : Finset String) ∩
      {"javascript", "coordinate", "download", "upload"} = ∅ := by
    decide
  have hprobe : resultProbeRef ≠ "" := by decide
  have hcontract : validateContractBinding c.workOrder c.businessPlan step = .ok () :=
    ensure_bind_of rfl (ensure_eq_ok.mpr rfl)
  refine ⟨?_, ?_, ?_⟩
  · have hexpires : (C.runInstallation user now).expiresAt.lt grant.expiresAt = .ok false :=
      runGrant_expires _
    refine ensure_bind_of ⟨rfl, rfl⟩ ?_
    refine ensure_bind_of rfl ?_
    refine ensure_bind_of rfl ?_
    refine ensure_bind_of ⟨rfl, rfl⟩ ?_
    refine ensure_bind_of rfl ?_
    exact except_bind_of_ok hexpires (ensure_eq_ok.mpr rfl)
  · refine ensure_bind_of rfl ?_
    exact except_bind_of_ok hexecutable rfl
  · refine ensure_bind_of rfl ?_
    refine ensure_bind_of rfl ?_
    refine ensure_bind_of
      ⟨step, List.mem_singleton_self _, rfl, rfl, rfl, rfl, rfl, rfl, rfl, rfl⟩ ?_
    refine except_bind_of_ok hcontract ?_
    refine ensure_bind_of rfl ?_
    refine except_bind_of_ok hexecutable ?_
    refine ensure_bind_of hdisjoint ?_
    exact ensure_eq_ok.mpr hprobe

/-- The only capability that is projected is the one that can be selected. -/
theorem requireProjected_single {proposal : PlannerProposal} {projected : ModelSafeCapability}
    (h : requireProjectedCapability proposal [C.modelSafe] = .ok projected) :
    projected.capabilityId = capabilityId := by
  have hmem := List.mem_of_find?_eq_some (orRaise_eq_ok.mp h)
  rw [List.mem_singleton.mp hmem]
  rfl

/-- Compiling a run. -/
theorem compileAuthority_eq (h : InRange now) (planner : ConstrainedPlanner)
    (resolvedId : String → String) :
    C.compileAuthority user requestId runId intentDigest facts now planner resolvedId =
      if .executeTransition ∈ C.setup.dimensionsOf user then do
        let (proposal, normalized) ← C.proposed intentDigest planner
        pure (C.runCompilation user requestId runId intentDigest facts now proposal normalized)
      else .error
        ⟨.valueError, "No installed executable Capability is available to the Planner"⟩ := by
  have haccepted : now.add (-DateTime.second) =
      .ok ⟨now.micros + -DateTime.second, now.aware⟩ := by
    refine DateTime.add_eq_ok.mpr ⟨?_, rfl⟩
    have hsecond : DateTime.second = 1000000 := rfl
    have hlow := h.accepted
    have hhigh := h.expires
    omega
  have hexpires : now.add (20 * 60 * DateTime.second) =
      .ok ⟨now.micros + 20 * 60 * DateTime.second, now.aware⟩ := by
    refine DateTime.add_eq_ok.mpr ⟨?_, rfl⟩
    have hsecond : DateTime.second = 1000000 := rfl
    have hlow := h.accepted
    have hhigh := h.expires
    omega
  refine except_bind_of_ok haccepted (except_bind_of_ok hexpires ?_)
  refine except_bind_of_ok runInstallation_active ?_
  refine except_bind_of_ok (orRaise_eq_ok.mpr rfl) ?_
  refine except_bind_of_ok (resolve_run h resolvedId) ?_
  have hbound : List.mapM (C.boundGrant (C.runContext user requestId runId facts now)
      (C.runInstallation user now)) [C.runGrant user facts now (resolvedId capabilityId)] =
        .ok [C.runGrant user facts now (C.stableId requestId ("grant-" ++ capabilityId))] := by
    rw [List.mapM_cons, List.mapM_nil]
    exact except_bind_of_ok (boundGrant_run _) rfl
  refine except_bind_of_ok hbound ?_
  refine except_bind_of_ok (dif_pos (List.nodup_singleton _)) ?_
  have hprojection : buildModelSafeProjection
      ⟨[C.runGrant user facts now (C.stableId requestId ("grant-" ++ capabilityId))],
        List.nodup_singleton _⟩ C.setup.registry now = _ := projection_run _
  by_cases hexecute : .executeTransition ∈ C.setup.dimensionsOf user
  · rw [if_pos hexecute] at hprojection
    rw [if_pos hexecute]
    refine except_bind_of_ok hprojection ?_
    unfold proposed
    dsimp only
    cases planner ⟨planningText intentDigest, [C.modelSafe]⟩ with
    | error e => rfl
    | ok answer =>
      rw [except_ok_bind, except_ok_bind]
      cases parsePlannerProposal C.loads answer with
      | error e => rfl
      | ok proposal =>
        rw [except_ok_bind, except_ok_bind]
        cases hprojected : requireProjectedCapability proposal [C.modelSafe] with
        | error e => rfl
        | ok projected =>
          have hid := requireProjected_single hprojected
          rw [except_ok_bind, except_ok_bind]
          refine ensure_bind_of hid ?_
          cases C.normalizeBusinessInputs proposal.businessInputs with
          | error e => rfl
          | ok normalized =>
            obtain ⟨hcontract, hplan, horder⟩ := validate_run (C := C) hexecute proposal normalized
            rw [except_ok_bind, except_ok_bind]
            refine except_bind_of_ok (requireSingle_run _ hexecute) ?_
            refine except_bind_of_ok rfl ?_
            refine except_bind_of_ok hcontract ?_
            refine except_bind_of_ok hplan ?_
            exact except_bind_of_ok horder rfl
  · rw [if_neg hexecute] at hprojection
    rw [if_neg hexecute]
    exact except_bind_eq_error.mpr (.inl hprojection)

/-- A deterministic planner proposes the facts whose inputs it has. -/
theorem proposed_deterministicPlanner (h : facts.WellFormed) :
    C.proposed intentDigest (deterministicPlanner facts.inputs) =
      .ok (⟨capabilityId, facts.inputs⟩, facts) := by
  have hne : C.modelSafe.capabilityId ≠ "" := by
    show capabilityId ≠ ""
    decide
  obtain ⟨answer, hanswer, hparse⟩ := except_bind_eq_ok.mp
    (parse_deterministicPlanner C.loads facts.inputs (planningText intentDigest) hne)
  refine except_bind_of_ok hanswer (except_bind_of_ok hparse ?_)
  refine except_bind_of_ok (orRaise_eq_ok.mpr rfl) ?_
  exact except_bind_of_ok (normalizeBusinessInputs_inputs h) rfl

/-- When a run compiles, and to what. -/
theorem compileAuthority_eq_ok {planner : ConstrainedPlanner} {resolvedId : String → String}
    {c : StripeM6Compilation} :
    C.compileAuthority user requestId runId intentDigest facts now planner resolvedId = .ok c ↔
      InRange now ∧ .executeTransition ∈ C.setup.dimensionsOf user ∧
        ∃ proposal normalized, C.proposed intentDigest planner = .ok (proposal, normalized) ∧
          c = C.runCompilation user requestId runId intentDigest facts now proposal normalized := by
  constructor
  · intro h
    have hrange : InRange now := by
      obtain ⟨_, haccepted, hrest⟩ := except_bind_eq_ok.mp h
      obtain ⟨_, hexpires, _⟩ := except_bind_eq_ok.mp hrest
      have hlow := (DateTime.add_eq_ok.mp haccepted).1.1
      exact ⟨by omega, (DateTime.add_eq_ok.mp hexpires).1.2⟩
    rw [compileAuthority_eq hrange] at h
    split at h
    case isTrue hexecute =>
      obtain ⟨⟨proposal, normalized⟩, hproposed, hc⟩ := except_bind_eq_ok.mp h
      cases hc
      exact ⟨hrange, hexecute, proposal, normalized, hproposed, rfl⟩
    case isFalse => cases h
  · rintro ⟨hrange, hexecute, proposal, normalized, hproposed, rfl⟩
    rw [compileAuthority_eq hrange, if_pos hexecute]
    exact except_bind_of_ok hproposed rfl

end

end Compiler

/-! ## The adapter -/

/-- What a run is requested with. -/
structure PackRunRequest where
  tenantId : String
  requestId : String
  intentDigest : Digest
  businessInputs : JsonDict
  targetUrl : String
  principal : UserContext
  now : DateTime
  tenantId_ne : tenantId ≠ ""
  requestId_ne : requestId ≠ ""

/-- A prepared run. -/
structure StripeM10PreparedRun where
  runId : String
  intentDigest : String
  businessInputsDigest : Digest
  businessInputs : JsonDict
  user : UserContext
  compilation : StripeM6Compilation
  admissionBundle : Admission.TaskAdmissionBundle
  targetUrl : String

/-- `StripePaymentRuntimeAdapter`, as far as preparing a run goes. -/
structure StripeAdapter extends Compiler where
  providerMode : String
  providerFactory : JsonDict → ConstrainedPlanner
  /-- The id that a resolved grant of a capability gets before it is copied. -/
  resolvedId : String → String

namespace StripeAdapter

variable (A : StripeAdapter)

/-- `prepare_run`, up to the run its reference is about. -/
def prepareRun (request : PackRunRequest) : Except Raised StripeM10PreparedRun := do
  let facts ← A.readFacts request.businessInputs.toJson
  ensure (request.principal.orgId = request.tenantId)
    ⟨.valueError, "M10 authenticated tenant does not match the trusted adapter context"⟩
  let runId := derivePackRunId A.process.platform request.principal.orgId request.requestId
  let authority ← A.compileAuthority request.principal request.requestId runId
    request.intentDigest.hex facts request.now (A.providerFactory facts.inputs) A.resolvedId
  let admission ← A.admissionBundle request.principal facts authority
    (A.admissionIdOf request.principal.orgId request.requestId) request.intentDigest.hex
    A.providerMode request.now
  pure {
    runId := runId
    intentDigest := request.intentDigest.hex
    businessInputsDigest := A.process.platform.digest facts.modelDump
    businessInputs := facts.inputs
    user := request.principal
    compilation := authority
    admissionBundle := admission
    targetUrl := request.targetUrl }

/-- The run that a request prepares from a proposal. -/
def preparedFrom (request : PackRunRequest) (facts : StripePaymentFacts)
    (proposal : PlannerProposal) (normalized : StripePaymentFacts) : StripeM10PreparedRun :=
  let user := request.principal
  let runId := derivePackRunId A.process.platform user.orgId request.requestId
  let authority := A.runCompilation user request.requestId runId request.intentDigest.hex facts
    request.now proposal normalized
  { runId := runId
    intentDigest := request.intentDigest.hex
    businessInputsDigest := A.process.platform.digest facts.modelDump
    businessInputs := facts.inputs
    user := user
    compilation := authority
    admissionBundle := A.admissionFor user facts authority
      (A.runGrant user facts request.now (A.stableId request.requestId ("grant-" ++ capabilityId)))
      (A.admissionIdOf user.orgId request.requestId) request.intentDigest.hex A.providerMode
      request.now
    targetUrl := request.targetUrl }

/-- When a request prepares a run from facts and a proposal. -/
structure Prepares (request : PackRunRequest) (facts : StripePaymentFacts)
    (proposal : PlannerProposal) (normalized : StripePaymentFacts) : Prop where
  read : A.readFacts request.businessInputs.toJson = .ok facts
  tenant : request.principal.orgId = request.tenantId
  named : request.principal.userId ≠ ""
  range : InRange request.now
  executes : .executeTransition ∈ A.setup.dimensionsOf request.principal
  proposes : A.proposed request.intentDigest.hex (A.providerFactory facts.inputs) =
    .ok (proposal, normalized)

variable {A}

/-- When `prepare_run` succeeds, and with what. -/
theorem prepareRun_eq_ok {request : PackRunRequest} {run : StripeM10PreparedRun} :
    A.prepareRun request = .ok run ↔ ∃ facts proposal normalized,
      A.Prepares request facts proposal normalized ∧
        run = A.preparedFrom request facts proposal normalized := by
  constructor
  · intro h
    obtain ⟨facts, hread, h⟩ := except_bind_eq_ok.mp h
    obtain ⟨_, htenant, h⟩ := except_bind_eq_ok.mp h
    obtain ⟨authority, hauthority, h⟩ := except_bind_eq_ok.mp h
    obtain ⟨hrange, hexecutes, proposal, normalized, hproposes, rfl⟩ :=
      Compiler.compileAuthority_eq_ok.mp hauthority
    obtain ⟨bundle, hbundle, h⟩ := except_bind_eq_ok.mp h
    obtain ⟨grant, hgrant, hbundle⟩ := except_bind_eq_ok.mp hbundle
    obtain ⟨_, hnamed, hbundle⟩ := except_bind_eq_ok.mp hbundle
    cases h
    cases hbundle
    cases hgrant
    exact ⟨facts, proposal, normalized, ⟨hread, ensure_eq_ok.mp htenant, valid_eq_ok.mp hnamed,
      hrange, hexecutes, hproposes⟩, rfl⟩
  · rintro ⟨facts, proposal, normalized, h, rfl⟩
    refine except_bind_of_ok h.read (ensure_bind_of h.tenant ?_)
    refine except_bind_of_ok (Compiler.compileAuthority_eq_ok.mpr
      ⟨h.range, h.executes, proposal, normalized, h.proposes, rfl⟩) ?_
    have hvalid : valid (request.principal.userId ≠ "") = .ok () := valid_eq_ok.mpr h.named
    have hbundle : A.admissionBundle request.principal facts (A.preparedFrom request facts proposal
        normalized).compilation (A.admissionIdOf request.principal.orgId request.requestId)
        request.intentDigest.hex A.providerMode request.now =
          .ok (A.preparedFrom request facts proposal normalized).admissionBundle :=
      except_bind_of_ok rfl (except_bind_of_ok hvalid rfl)
    exact except_bind_of_ok hbundle rfl

end StripeAdapter

end Stripe

end AgentPact
