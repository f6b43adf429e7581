import AgentPact.StripePayment.Harness

/-!
# Compiling a Stripe run

`agent/constrained_planner.py`, `governance/domain_pack_installations.py`,
`domains/stripe_payment/m6_runtime.py` and the part of `m10_runtime.py` that
prepares a run: a planner that is not trusted proposes a capability and its
inputs, and trusted code compiles one plan with one work order from them and
puts it into an admission.

The planner is any function from what it may see to a document.
-/

namespace AgentPact

/-! ## The planner -/

/-- Read a dictionary of documents. -/
def readJsonDict : Reader JsonDict
  | .obj fields =>
      if distinct : (fields.map (·.1)).Nodup then .ok ⟨fields, distinct⟩
      else .error invalidDocument
  | _ => .error invalidDocument

/-- What a planner sees of a capability. -/
structure ModelSafeCapability where
  capabilityId : String
  capabilityVersion : String
  inputSchema : JsonDict

/-- What a planner sees. -/
structure ModelSafePlannerInput where
  naturalLanguageRequest : String
  capabilities : List ModelSafeCapability

/-- What a planner proposes. -/
structure PlannerProposal where
  capabilityId : String
  businessInputs : JsonDict

/-- `propose`. -/
abbrev ConstrainedPlanner := ModelSafePlannerInput → Except Raised Json

/-- A `PlannerOutputError`. -/
def plannerOutputError (text : String) : Raised := ⟨.plannerOutputError, text⟩

/-- `DeterministicPlanner`. -/
def deterministicPlanner (businessInputs : JsonDict) : ConstrainedPlanner := fun input =>
  match input.capabilities with
  | [capability] => .ok (.obj [("capability_id", .str capability.capabilityId),
      ("business_inputs", businessInputs.toJson)])
  | _ => .error
      (plannerOutputError "Deterministic Planner requires exactly one projected Capability")

/-- `PlannerProposal.model_validate`. -/
def PlannerProposal.modelValidate : Reader PlannerProposal := fun doc => do
  valid (doc.hasOnly ["capability_id", "business_inputs"] = true)
  let capabilityId ← doc.get "capability_id" readString
  let businessInputs ← doc.get "business_inputs" readJsonDict
  valid (capabilityId ≠ "")
  pure ⟨capabilityId, businessInputs⟩

/-- `parse_planner_proposal`, with `json.loads` for a text that it accepts. -/
def parsePlannerProposal (loads : String → Option Json) (value : Json) :
    Except Raised PlannerProposal :=
  Except.mapError
    (fun _ => plannerOutputError "Planner output does not match the closed proposal schema")
    (match value with
      | .str text => do
          PlannerProposal.modelValidate (← orRaise (loads text) ⟨.valueError, "json.loads"⟩)
      | doc => PlannerProposal.modelValidate doc)

/-- The grants of some that may be executed. -/
def executableAmong (now : DateTime) : List CapabilityGrant → Except Raised (List CapabilityGrant)
  | [] => .ok []
  | g :: gs => do
      let allowed ← g.allows .executeTransition now
      let rest ← executableAmong now gs
      pure (if allowed then g :: rest else rest)

/-- `executable_grants`. -/
def CapabilityGrantSet.executableGrants (s : CapabilityGrantSet) (now : DateTime) :
    Except Raised (List CapabilityGrant) := do
  executableAmong now (← s.activeGrants now)

/-- Put the capability of a grant among those that are projected already, under its id. -/
def projectGrant (registry : CapabilityRegistry) (projected : List ModelSafeCapability)
    (g : CapabilityGrant) : Except Raised (List ModelSafeCapability) := do
  let definition ← registry.require g.capabilityId
  ensure (definition.version = g.capabilityVersion)
    ⟨.valueError, "Executable Grant version does not match the active registry"⟩
  pure ((projected.filter fun c => c.capabilityId ≠ definition.capabilityId) ++
    [⟨definition.capabilityId, definition.version, definition.inputSchema⟩])

/-- `build_model_safe_projection`. -/
def buildModelSafeProjection (grants : CapabilityGrantSet) (registry : CapabilityRegistry)
    (now : DateTime) : Except Raised (List ModelSafeCapability) := do
  let projected ← (← grants.executableGrants now).foldlM (projectGrant registry) []
  ensure (projected ≠ [])
    ⟨.valueError, "No installed executable Capability is available to the Planner"⟩
  pure (projected.insertionSort fun c d => c.capabilityId ≤ d.capabilityId)

/-- `require_projected_capability`. -/
def requireProjectedCapability (proposal : PlannerProposal)
    (projection : List ModelSafeCapability) : Except Raised ModelSafeCapability :=
  orRaise (projection.find? fun c => c.capabilityId = proposal.capabilityId)
    (plannerOutputError "Planner selected a Capability outside its projection")

/-! ## Installations -/

/-- Whether a Pack is installed. -/
inductive DomainPackInstallationStatus where
  | accepted | rejected | disabled
deriving DecidableEq, Repr

/-- The installation of a Pack for a tenant. -/
structure DomainPackInstallation where
  installationId : String
  tenantId : String
  packId : String
  packVersion : String
  contractDigest : String
  enabledCapabilityIds : List String
  adapterRef : String
  resultProbeRef : String
  policyVersion : String
  status : DomainPackInstallationStatus
  acceptedAt : DateTime
  expiresAt : DateTime

/-- The manifest of a Pack. -/
structure DomainPackManifest where
  packId : String
  version : String
  capabilities : List CapabilityDefinition
  resultProbeRefs : List String

/-- What a conformance check found. -/
structure StaticConformanceReport where
  candidatePackId : String
  candidatePackVersion : String
  manifestDigest : String
  passed : Bool

/-- `_require_pack`, for the only item there is, which has an identity. -/
def requirePack (identity : String × String) (installation : DomainPackInstallation)
    (label : String) : Except Raised Unit := do
  let named := installation.packId ++ "@" ++ installation.packVersion
  ensure (identity = (installation.packId, installation.packVersion)) ⟨.valueError,
    if identity.1 = installation.packId then
      "Domain Pack installation version does not match its " ++ label ++ ": " ++ named
    else "Accepted installation has no matching " ++ label ++ ": " ++ named⟩

/-- `build_active_domain_pack_set`, for one manifest, one report and one installation: the active
capabilities, or `none` where the installation is not active for the tenant. -/
def buildActiveDomainPackSet (tenantId : String) (manifest : DomainPackManifest)
    (report : StaticConformanceReport) (installation : DomainPackInstallation)
    (expectedPolicyVersions expectedAdapterRefs : String → Option String) (now : DateTime) :
    Except Raised (Option CapabilityRegistry) :=
  if installation.tenantId ≠ tenantId ∨ installation.status ≠ .accepted then .ok none
  else do
    let current ← now.within installation.acceptedAt installation.expiresAt
    ensure (current = true) ⟨.valueError, "Accepted Domain Pack installation is stale"⟩
    requirePack (manifest.packId, manifest.version) installation "runtime manifest"
    requirePack (report.candidatePackId, report.candidatePackVersion) installation
      "static conformance report"
    ensure (report.passed = true)
      ⟨.valueError, "Accepted Domain Pack contract failed static conformance"⟩
    ensure (report.manifestDigest = installation.contractDigest)
      ⟨.valueError, "Domain Pack installation digest does not match its accepted contract"⟩
    ensure (expectedPolicyVersions installation.packId = some installation.policyVersion)
      ⟨.valueError, "Domain Pack installation policy version is stale"⟩
    ensure (expectedAdapterRefs installation.packId = some installation.adapterRef)
      ⟨.valueError, "Domain Pack installation adapter reference is not trusted"⟩
    ensure (∀ id ∈ installation.enabledCapabilityIds,
        id ∈ manifest.capabilities.map (·.capabilityId))
      ⟨.valueError, "Domain Pack installation enables an unresolved Capability"⟩
    ensure (installation.resultProbeRef ∈ manifest.resultProbeRefs)
      ⟨.valueError, "Domain Pack installation result probe does not resolve"⟩
    let enabled := manifest.capabilities.filter fun c =>
      c.capabilityId ∈ installation.enabledCapabilityIds
    ensure (∀ c ∈ enabled, c.version = installation.packVersion)
      ⟨.valueError, "Enabled Capability version does not match its installation"⟩
    ensure (∀ c ∈ enabled, c.resultProbeRef = installation.resultProbeRef)
      ⟨.valueError, "Enabled Capability result probe does not match its installation"⟩
    if unique : (enabled.map (·.capabilityId)).Nodup then pure (some ⟨enabled, unique⟩)
    else throw ⟨.valueError, "Duplicate capability_id"⟩

namespace Stripe

/-! ## What the adapter runs on -/

/-- What the code that compiles a run depends on. -/
structure Compiler where
  process : Admission.Process
  setup : HarnessSetup
  /-- `json.loads`, for a text that it accepts. -/
  loads : String → Option Json
  /-- The integer that a value is taken for where a model declares an `int`. -/
  laxInt : Json → Option Int
  /-- A set is iterated over its members, each once. -/
  iterates : ∀ s, (process.iterate s : Multiset String) = s.val
  laxInt_num : ∀ n, laxInt (.num n) = some n

/-- Whether a text matches `^pi_[A-Za-z0-9_]+$`. -/
def isPaymentIntentId (s : String) : Bool :=
  match s.toList with
  | 'p' :: 'i' :: '_' :: c :: cs => (c :: cs).all fun x => x.isAlphanum || x = '_'
  | _ => false

namespace StripePaymentFacts

/-- What the fields of the facts are checked for, besides the ranges of the numbers. -/
structure WellFormed (f : StripePaymentFacts) : Prop where
  intent : isPaymentIntentId f.paymentIntentId = true
  intent_length : f.paymentIntentId.length ≤ 100
  customer_length : ∀ id ∈ f.customerId, id.length ≤ 100
  description_length : f.description.length ≤ 500

instance (f : StripePaymentFacts) : Decidable f.WellFormed :=
  decidable_of_iff (isPaymentIntentId f.paymentIntentId = true ∧ f.paymentIntentId.length ≤ 100 ∧
      (∀ id ∈ f.customerId, id.length ≤ 100) ∧ f.description.length ≤ 500)
    ⟨fun ⟨h, h', h'', h'''⟩ => ⟨h, h', h'', h'''⟩, fun ⟨h, h', h'', h'''⟩ => ⟨h, h', h'', h'''⟩⟩

theorem inputs_distinct (f : StripePaymentFacts) :
    ([("payment_intent_id", .str f.paymentIntentId),
      ("customer_id", .ofOption .str f.customerId), ("amount_minor", .num f.amountMinor),
      ("currency", .str f.currency.value), ("description", .str f.description),
      ("object_version", .num f.objectVersion)].map fun field : String × Json => field.1).Nodup := by
  simp

/-- The inputs that `model_dump(mode="json")` of the facts is. -/
def inputs (f : StripePaymentFacts) : JsonDict :=
  ⟨[("payment_intent_id", .str f.paymentIntentId),
    ("customer_id", .ofOption .str f.customerId), ("amount_minor", .num f.amountMinor),
    ("currency", .str f.currency.value), ("description", .str f.description),
    ("object_version", .num f.objectVersion)], f.inputs_distinct⟩

end StripePaymentFacts

namespace Compiler

variable (C : Compiler)

/-- Read an integer. -/
def readInt : Reader Int := fun doc => orRaise (C.laxInt doc) invalidDocument

/-- `StripePaymentFacts.model_validate`. -/
def readFacts : Reader StripePaymentFacts := fun doc => do
  let paymentIntentId ← doc.get "payment_intent_id" readString
  let customerId ← doc.getD "customer_id" (readOption readString) none
  let amountMinor ← doc.get "amount_minor" C.readInt
  let currency ←
    doc.getD "currency" (readMember [.usd, .eur, .gbp, .cny] AllowedCurrency.value) .usd
  let description ← doc.getD "description" readString ""
  let objectVersion ← doc.getD "object_version" C.readInt 1
  if ranges : (0 < amountMinor ∧ amountMinor ≤ 1000000000) ∧ 1 ≤ objectVersion then do
    let facts : StripePaymentFacts := ⟨paymentIntentId, customerId, amountMinor, currency,
      description, objectVersion, ranges.1, ranges.2⟩
    valid facts.WellFormed
    pure facts
  else throw invalidDocument

/-- The fields of the facts. -/
def factFields : List String :=
  ["payment_intent_id", "customer_id", "amount_minor", "currency", "description", "object_version"]

/-- `_normalize_business_inputs`, whose result is the dump of the facts it reads. -/
def normalizeBusinessInputs (value : JsonDict) : Except Raised StripePaymentFacts := do
  let unknown := ((value.fields.map (·.1)).filter fun key => key ∉ factFields).toFinset
  ensure (unknown = ∅) ⟨.valueError,
    "Stripe payment inputs contain unknown fields: " ++ ExecutionWorkOrder.sortedText unknown⟩
  C.readFacts value.toJson

/-- `_stable_id`. -/
def stableId (seed kind : String) : String :=
  "m6_" ++ kind.map (fun c => if c = '-' then '_' else c) ++ "_" ++
    C.process.uuid5 (packId ++ "|" ++ seed ++ "|" ++ kind)

/-- `model_dump(mode="json")` of a scope, as a dictionary. -/
def scopeFields (s : CapabilityDataScope) : JsonDict :=
  ⟨[("department_id", .ofOption .str s.departmentId),
    ("business_line_id", .ofOption .str s.businessLineId),
    ("resource_ids", .arr ((C.process.iterate s.resourceIds).map .str)),
    ("attributes", s.attributes.toJson)], by simp⟩

/-- `_digest` of a list of texts. -/
def digestOf (texts : List String) : String :=
  (C.process.platform.digest (.arr (texts.map .str))).hex

end Compiler

/-! ## The installation -/

/-- `STRIPE_ADAPTER_REF`. -/
def stripeAdapterRef : String := "stripe.payment.skyvern-locator-adapter.v1"

/-- `PACK_CONFORMANCE_MANIFEST_DIGEST`. -/
def packConformanceManifestDigest : String :=
  "7c6585a38c4bb6f617039ce1241b1dae9dda0aa7a1e72e66108f9e749c0e5366"

/-- `state_transition` of the capability of `build_manifest`. -/
def stateTransition : JsonDict := ⟨[("from", .str "draft"), ("to", .str "submitted")], by simp⟩

/-- `build_manifest`. -/
def HarnessSetup.manifest (H : HarnessSetup) : DomainPackManifest :=
  ⟨packId, packVersion, [H.capability], [resultProbeRef]⟩

/-- `build_stripe_conformance_attestation`. -/
def stripeConformanceAttestation : StaticConformanceReport :=
  ⟨packId, packVersion, packConformanceManifestDigest, true⟩

/-- `build_stripe_installation`. -/
def Compiler.stripeInstallation (C : Compiler) (tenantId : String) (acceptedAt expiresAt : DateTime)
    (contractDigest : String) : DomainPackInstallation where
  installationId := C.stableId tenantId "installation"
  tenantId := tenantId
  packId := packId
  packVersion := packVersion
  contractDigest := contractDigest
  enabledCapabilityIds := [capabilityId]
  adapterRef := stripeAdapterRef
  resultProbeRef := resultProbeRef
  policyVersion := policyVersion
  status := .accepted
  acceptedAt := acceptedAt
  expiresAt := expiresAt

/-! ## Compiling -/

/-- What the server says of a request. -/
structure StripeM6TrustedContext where
  requestId : String
  taskId : String
  contractId : String
  tenantId : String
  user : UserContext
  dataScope : CapabilityDataScope
  resolvedAt : DateTime
  policyVersion : String := policyVersion
  workloadPrincipalId : String := "stripe_m6_planner_service"
  /-- `validate_identity_scope`. -/
  sameTenant : user.orgId = tenantId

/-- What a request is compiled to. -/
structure StripeM6Compilation where
  installation : DomainPackInstallation
  grants : CapabilityGrantSet
  projection : List ModelSafeCapability
  proposal : PlannerProposal
  taskContract : Admission.TaskContract
  businessPlan : BusinessPlan
  workOrder : ExecutionWorkOrder
  /-- `request_id` of the trace. -/
  requestId : String

/-- `min` of two datetimes. -/
def earlier (a b : DateTime) : Except Raised DateTime := do
  if ← b.lt a then pure b else pure a

/-- `_require_single_executable_grant`. -/
def requireSingleExecutableGrant (grants : CapabilityGrantSet) (capabilityId : String)
    (now : DateTime) : Except Raised CapabilityGrant := do
  let executable ← grants.executableGrants now
  match executable.filter fun g => g.capabilityId = capabilityId with
  | [grant] => pure grant
  | _ => throw ⟨.valueError, "Trusted compiler requires exactly one executable CapabilityGrant"⟩

namespace Compiler

variable (C : Compiler)

/-- What the grants of a request are resolved from. -/
def resolutionContext (context : StripeM6TrustedContext) (installed : Finset String) :
    CapabilityResolutionContext where
  user := context.user
  tenantId := context.tenantId
  dataScope := context.dataScope
  installedCapabilityIds := installed
  policySnapshotVersion := context.policyVersion
  resolvedAt := context.resolvedAt
  workloadPrincipalId := some context.workloadPrincipalId
  revocationEpoch := "stripe-m6-epoch-1"

/-- The copy of a resolved grant that a request gets. -/
def boundGrant (context : StripeM6TrustedContext) (installation : DomainPackInstallation)
    (g : CapabilityGrant) : Except Raised CapabilityGrant := do
  let expiresAt ← earlier g.expiresAt installation.expiresAt
  pure { g with
    grantId := C.stableId context.requestId ("grant-" ++ g.capabilityId)
    expiresAt := expiresAt }

/-- The contract of a request. -/
def contractOf (naturalLanguageRequest : String) (context : StripeM6TrustedContext)
    (installation : DomainPackInstallation) (grant : CapabilityGrant) : Admission.TaskContract where
  contractId := context.contractId
  taskId := context.taskId
  organizationId := context.tenantId
  initiatorId := some context.user.userId
  servicePrincipalId := some context.workloadPrincipalId
  departmentId := context.dataScope.departmentId
  businessLineId := context.dataScope.businessLineId
  goal := naturalLanguageRequest
  allowedOperations := {capabilityId}
  dataScope := C.scopeFields context.dataScope
  authorizationSnapshot := ⟨[("installation_id", .str installation.installationId),
    ("contract_digest", .str installation.contractDigest), ("grant_id", .str grant.grantId),
    ("revocation_epoch", .str grant.revocationEpoch)], by simp⟩
  policyProfile := packId
  policyVersion := context.policyVersion
  successCriteria := ["Independent Stripe API result probe confirms one submission"]
  expiresAt := some grant.expiresAt
  version := 1
  mode := .audit

/-- The step of a request, with the inputs it gets. -/
def stepOf (context : StripeM6TrustedContext) (grant : CapabilityGrant)
    (successCriteria : List String) (normalizedInputs : JsonDict) : BusinessPlanStep where
  stepId := C.stableId context.requestId "plan-step"
  capabilityId := capabilityId
  capabilityVersion := some packVersion
  grantId := grant.grantId
  contractId := context.contractId
  inputs := normalizedInputs
  expectedTransition := stateTransition
  successCriteria := successCriteria

/-- The plan of a request, with its step. -/
def planOf (context : StripeM6TrustedContext) (step : BusinessPlanStep) : BusinessPlan where
  planId := C.stableId context.requestId "business-plan"
  requestId := some context.requestId
  taskId := context.taskId
  contractId := context.contractId
  dataScope := context.dataScope
  version := 1
  replanReason := none
  steps := [step]

/-- The work order of a step. -/
def workOrderFor (context : StripeM6TrustedContext) (grant : CapabilityGrant)
    (step : BusinessPlanStep) (successCriteria : List String) : ExecutionWorkOrder where
  workOrderId := C.stableId context.requestId "work-order"
  businessPlanStepId := step.stepId
  taskId := context.taskId
  contractId := context.contractId
  planTaskId := none
  authorityContractId := none
  grantId := grant.grantId
  navigationGoal :=
    "Submit the approved Stripe test-mode payment exactly once through the governed locator path"
  allowedOperations := {"read", "input", "select", "submit"}
  prohibitedOperations := {"javascript", "coordinate", "download", "upload"}
  successCriteria := successCriteria
  requiredEvidence := ["permit", "execution_attempt", resultProbeRef]
  maxRecoveryLevel := .l2
  resultProbeRef := resultProbeRef

/-- `_validate_contract`. -/
def validateContract (contract : Admission.TaskContract) (context : StripeM6TrustedContext)
    (grant : CapabilityGrant) (installation : DomainPackInstallation) : Except Raised Unit := do
  Admission.check (contract.taskId = context.taskId ∧ contract.organizationId = grant.tenantId)
    "TaskContract identity does not match trusted context and Grant"
  Admission.check (contract.allowedOperations = {grant.capabilityId})
    "TaskContract operation does not match the executable Grant"
  Admission.check (contract.dataScope.same (C.scopeFields grant.dataScope))
    "TaskContract data scope does not match the executable Grant"
  Admission.check (contract.policyVersion = grant.policySnapshotVersion ∧
      contract.policyVersion = installation.policyVersion)
    "TaskContract policy does not match Grant and installation"
  Admission.check (contract.expiresAt = some grant.expiresAt)
    "TaskContract expiry does not match the executable Grant"
  let exceeds ← match contract.expiresAt with
    | none => pure true
    | some t => installation.expiresAt.lt t
  Admission.check (exceeds = false)
    "TaskContract authority exceeds the Domain Pack installation expiry"

/-- `compile_stripe_request`, with the ids that resolved grants get. -/
def compileStripeRequest (naturalLanguageRequest : String) (context : StripeM6TrustedContext)
    (installation : DomainPackInstallation) (report : StaticConformanceReport)
    (planner : ConstrainedPlanner) (resolvedId : String → String) :
    Except Raised StripeM6Compilation := do
  let active ← buildActiveDomainPackSet context.tenantId C.setup.manifest report installation
    (fun id => if id = packId then some context.policyVersion else none)
    (fun id => if id = packId then some stripeAdapterRef else none) context.resolvedAt
  let registry ← orRaise active
    ⟨.valueError, "Stripe M6 requires one accepted active Domain Pack installation"⟩
  let installed := (registry.definitions.map (·.capabilityId)).toFinset
  let resolved ← registry.resolve (resolutionContext context installed) resolvedId
  let grants ← CapabilityGrantSet.ofGrants
    (← resolved.grants.mapM (C.boundGrant context installation))
  let projection ← buildModelSafeProjection grants registry context.resolvedAt
  let proposal ← parsePlannerProposal C.loads (← planner ⟨naturalLanguageRequest, projection⟩)
  let projected ← requireProjectedCapability proposal projection
  ensure (projected.capabilityId = capabilityId)
    ⟨.valueError, "Stripe M6 Planner selected an unsupported Capability"⟩
  let normalized ← C.normalizeBusinessInputs proposal.businessInputs
  let grant ← requireSingleExecutableGrant grants capabilityId context.resolvedAt
  let _ ← registry.require capabilityId
  let contract := C.contractOf naturalLanguageRequest context installation grant
  let step := C.stepOf context grant contract.successCriteria normalized.inputs
  let plan := C.planOf context step
  let workOrder := C.workOrderFor context grant step contract.successCriteria
  C.validateContract contract context grant installation
  validateBusinessPlan plan grants context.resolvedAt
  validateWorkOrder workOrder plan step grants context.resolvedAt
  pure ⟨installation, grants, projection, proposal, contract, plan, workOrder, context.requestId⟩

end Compiler

/-! ## Facts that are read back -/

namespace Compiler

variable {C : Compiler}

theorem readInt_num (n : Int) : C.readInt (.num n) = .ok n := by
  unfold readInt
  rw [C.laxInt_num]
  rfl

/-- Facts that are read satisfy the checks of their fields. -/
theorem readFacts_wellFormed {doc : Json} {f : StripePaymentFacts} (h : C.readFacts doc = .ok f) :
    f.WellFormed := by
  unfold readFacts at h
  obtain ⟨_, _, h⟩ := except_bind_eq_ok.mp h
  obtain ⟨_, _, h⟩ := except_bind_eq_ok.mp h
  obtain ⟨_, _, h⟩ := except_bind_eq_ok.mp h
  obtain ⟨_, _, h⟩ := except_bind_eq_ok.mp h
  obtain ⟨_, _, h⟩ := except_bind_eq_ok.mp h
  obtain ⟨_, _, h⟩ := except_bind_eq_ok.mp h
  split at h
  case isTrue ranges =>
    obtain ⟨_, hvalid, h⟩ := except_bind_eq_ok.mp h
    cases h
    exact valid_eq_ok.mp hvalid
  case isFalse => cases h

/-- The dump of facts is read back. -/
theorem readFacts_modelDump {f : StripePaymentFacts} (h : f.WellFormed) :
    C.readFacts f.modelDump = .ok f := by
  have hcurrency : readMember [.usd, .eur, .gbp, .cny] AllowedCurrency.value
      (.str f.currency.value) = .ok f.currency := by
    cases f.currency <;> rfl
  have hcustomer : readOption readString (.ofOption .str f.customerId) = .ok f.customerId := by
    cases f.customerId <;> rfl
  have hranges : (0 < f.amountMinor ∧ f.amountMinor ≤ 1000000000) ∧ 1 ≤ f.objectVersion :=
    ⟨f.amount_range, f.version_pos⟩
  have hvalid : valid f.WellFormed = .ok () := valid_eq_ok.mpr h
  unfold readFacts
  simp [Json.get, Json.getD, Json.field?, StripePaymentFacts.modelDump, hcurrency, hcustomer,
    readInt_num, hranges, hvalid, except_ok_bind]

/-- The inputs of facts are normalized to the facts. -/
theorem normalizeBusinessInputs_inputs {f : StripePaymentFacts} (h : f.WellFormed) :
    C.normalizeBusinessInputs f.inputs = .ok f := by
  have hknown : ((f.inputs.fields.map (·.1)).filter fun key => key ∉ factFields).toFinset = ∅ := by
    simp [StripePaymentFacts.inputs, factFields]
  unfold normalizeBusinessInputs
  rw [hknown]
  exact readFacts_modelDump h

end Compiler

/-- A deterministic planner that sees one capability proposes it with its own inputs. -/
theorem parse_deterministicPlanner (loads : String → Option Json) (inputs : JsonDict)
    (text : String) {capability : ModelSafeCapability} (hid : capability.capabilityId ≠ "") :
    (deterministicPlanner inputs ⟨text, [capability]⟩ >>= parsePlannerProposal loads) =
      .ok ⟨capability.capabilityId, inputs⟩ := by
  have hread : readJsonDict inputs.toJson = .ok inputs := dif_pos inputs.distinct
  unfold deterministicPlanner parsePlannerProposal PlannerProposal.modelValidate
  simp [Json.hasOnly, Json.get, Json.field?, hread, except_ok_bind, valid]
  rw [if_neg hid]
  rfl

/-! ## What a request compiles to -/

/-- The dimensions that a user has on the payments of its tenant. -/
def HarnessSetup.dimensionsOf (H : HarnessSetup) (user : UserContext) :
    Finset AuthorizationDimension :=
  CapabilityResolutionContext.dimensions {
    user := user
    tenantId := user.orgId
    dataScope := paymentScopeOf ""
    installedCapabilityIds := {capabilityId}
    policySnapshotVersion := policyVersion
    resolvedAt := .utc 0 } H.capability.accessPolicy

section

variable {g : CapabilityGrant} {now : DateTime} {unique : ([g].map (·.grantId)).Nodup}

theorem activeGrants_single (hactive : g.isActiveAt now = .ok true) :
    (CapabilityGrantSet.mk [g] unique).activeGrants now =
      .ok (if g.disposition = .deny then [] else [g]) := by
  by_cases hdenied : g.disposition = .deny
  · have hactiveAt : g.activeAt now = .ok false := if_pos hdenied
    rw [if_pos hdenied]
    exact except_bind_eq_ok.mpr ⟨false, hactiveAt, rfl⟩
  · have hactiveAt : g.activeAt now = .ok true :=
      CapabilityGrant.activeAt_eq_true.mpr ⟨hdenied, hactive⟩
    rw [if_neg hdenied]
    exact except_bind_eq_ok.mpr ⟨true, hactiveAt, rfl⟩

/-- A grant that stands alone is found where it may be used. -/
theorem requireExecutable_single (h : g.Usable .executeTransition now) :
    (CapabilityGrantSet.mk [g] unique).requireExecutable g.capabilityId g.grantId now = .ok g := by
  have hallows : g.allowsFor g.capabilityId g.grantId .executeTransition now = .ok true := by
    unfold CapabilityGrant.allowsFor
    rw [if_pos ⟨rfl, rfl⟩]
    exact CapabilityGrant.allows_eq_true.mpr ⟨h.inForce, h.allowed⟩
  have hfirst : firstAllowing g.capabilityId g.grantId .executeTransition now [g] = .ok g :=
    except_bind_eq_ok.mpr ⟨true, hallows, rfl⟩
  have hactive : (CapabilityGrantSet.mk [g] unique).activeGrants now = _ :=
    activeGrants_single h.inForce
  rw [if_neg h.granted] at hactive
  exact mapError_eq_ok.mpr (except_bind_eq_ok.mpr ⟨[g], hactive, hfirst⟩)

/-- The grants that may be executed are one that stands alone, where it allows that. -/
theorem executableGrants_single (hactive : g.isActiveAt now = .ok true) :
    (CapabilityGrantSet.mk [g] unique).executableGrants now =
      .ok (if g.disposition ≠ .deny ∧ .executeTransition ∈ g.allowedDimensions then [g]
        else []) := by
  have hallows : g.allows .executeTransition now =
      .ok (decide (.executeTransition ∈ g.allowedDimensions)) := by
    unfold CapabilityGrant.allows
    rw [hactive]
    rfl
  refine except_bind_eq_ok.mpr ⟨_, activeGrants_single hactive, ?_⟩
  by_cases hdenied : g.disposition = .deny
  · rw [if_pos hdenied, if_neg fun h => h.1 hdenied]
    rfl
  · rw [if_neg hdenied]
    refine except_bind_eq_ok.mpr ⟨_, hallows, ?_⟩
    by_cases h : .executeTransition ∈ g.allowedDimensions
    · rw [if_pos ⟨hdenied, h⟩, decide_eq_true h]
      rfl
    · rw [if_neg fun hboth => h hboth.2, decide_eq_false h]
      rfl

end

end Stripe

end AgentPact
