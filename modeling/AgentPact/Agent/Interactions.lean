import AgentPact.Agent.WorkOrders

/-!
# Requests and proposed plans

`agent/interactions.py`: the request of a principal, the projection of the
grants it may see, and the checks of a request and of a proposed plan against
it.

The checks refuse by raising, so what an accepted request or plan satisfies is
read off the checks that it passed.
-/

namespace AgentPact

/-! ## Requests and projections -/

/-- What a request asks for. -/
inductive CapabilityRequestKind where
  | discover | read | transition | approvalRequest | approvalAdjudication
deriving DecidableEq, Repr

/-- How a request was entered. -/
inductive EntryMode where
  | ui | chat
deriving DecidableEq, Repr

/-- A request to use a capability. -/
structure CapabilityRequest where
  requestId : String
  submittedAt : DateTime
  entryMode : EntryMode
  principalRef : String
  sessionRef : String
  tenantId : String
  requestedScope : CapabilityDataScope
  capabilityRef : String
  capabilityVersion : String
  requestKind : CapabilityRequestKind
  typedInputs : JsonDict
  resourceRefs : Finset String
  approvalRoundRef : Option String
  userIntentSummary : String
  grantRef : String
  contractVersions : Dict

/-- What a principal sees of a grant. -/
structure GrantProjectionEntry where
  grantId : String
  capabilityId : String
  capabilityVersion : String
  dataScope : CapabilityDataScope
  allowedRequestKinds : Finset CapabilityRequestKind
  expiresAt : DateTime
deriving DecidableEq

/-- What a principal sees of its grants. -/
structure GrantSetProjection where
  principalId : String
  workloadPrincipalId : Option String
  tenantId : String
  revocationEpoch : String
  generatedAt : DateTime
  entries : List GrantProjectionEntry
  unique : (entries.map (·.grantId)).Nodup

/-- A trusted validator of the inputs of a capability. -/
abbrev CapabilityInputValidator := CapabilityDefinition → JsonDict → Except Raised Unit

/-- `_scope_expands` of `interactions.py`: an empty set of allowed resources allows them all. -/
def CapabilityDataScope.exceeds (requested allowed : CapabilityDataScope) : Bool :=
  decide (allowed.departmentId ≠ requested.departmentId) ||
  decide (allowed.businessLineId ≠ requested.businessLineId) ||
  (decide (allowed.resourceIds ≠ ∅) && !decide (requested.resourceIds ⊆ allowed.resourceIds)) ||
  requested.attributes.fields.any fun f => (allowed.attributes.get f.1).value ≠ f.2.value

/-- What exceeds a scope exceeds an equal one. -/
theorem CapabilityDataScope.same.exceeds_eq {a b requested : CapabilityDataScope} (h : a.same b) :
    requested.exceeds a = requested.exceeds b := by
  obtain ⟨hdepartment, hbusiness, hresources, hattributes⟩ := h
  have hvalues : (requested.attributes.fields.any fun f =>
      (a.attributes.get f.1).value ≠ f.2.value) = requested.attributes.fields.any fun f =>
        (b.attributes.get f.1).value ≠ f.2.value := by
    refine congrArg _ (funext fun f => ?_)
    rw [hattributes.get f.1]
  unfold CapabilityDataScope.exceeds
  rw [hvalues, hdepartment, hbusiness, hresources]

/-! ## The checks -/

/-- The first of some entries for a capability and a grant that has not expired. -/
def firstCurrent (capabilityId grantId : String) (now : DateTime) :
    List GrantProjectionEntry → Except Raised GrantProjectionEntry
  | [] => .error ⟨.valueError, "Capability request is outside the active Grant projection"⟩
  | e :: es =>
      if e.capabilityId = capabilityId ∧ e.grantId = grantId then do
        let current ← now.lt e.expiresAt
        if current then pure e else firstCurrent capabilityId grantId now es
      else firstCurrent capabilityId grantId now es

/-- `require_entry`. -/
def GrantSetProjection.requireEntry (p : GrantSetProjection) (capabilityId grantId : String)
    (now : DateTime) : Except Raised GrantProjectionEntry :=
  firstCurrent capabilityId grantId now p.entries

/-- `_validate_inputs`. -/
def validateInputs (definition : CapabilityDefinition) (value : JsonDict) :
    Option CapabilityInputValidator → Except Raised Unit
  | none =>
      if definition.inputSchema.fields = [] then
        ensure (value.fields = []) ⟨.valueError, "Capability has no registered input schema"⟩
      else .error ⟨.valueError, "Capability input schema requires a trusted validator"⟩
  | some validate =>
      if definition.inputSchema.fields = [] then
        ensure (value.fields = []) ⟨.valueError, "Capability has no registered input schema"⟩
      else (validate definition value).mapError fun e =>
        if ErrorClass.typeError.caughtBy e || ErrorClass.valueError.caughtBy e then
          ⟨.valueError, "Capability inputs do not match the registered schema: " ++ e.text⟩
        else e

/-- `validate_capability_request`. -/
def validateCapabilityRequest (request : CapabilityRequest) (projection : GrantSetProjection)
    (registry : CapabilityRegistry) (now : DateTime)
    (inputValidator : Option CapabilityInputValidator) : Except Raised GrantProjectionEntry := do
  let future ← now.lt request.submittedAt
  ensure (future = false)
    ⟨.valueError, "Capability request submission time cannot be in the future"⟩
  let unborn ← now.lt projection.generatedAt
  ensure (unborn = false)
    ⟨.valueError, "Grant projection generation time cannot be in the future"⟩
  ensure (request.principalRef = projection.principalId ∧ request.tenantId = projection.tenantId)
    ⟨.valueError,
      "Capability request principal or tenant does not match the Grant projection"⟩
  let entry ← projection.requireEntry request.capabilityRef request.grantRef now
  ensure (request.capabilityVersion = entry.capabilityVersion)
    ⟨.valueError, "Capability request version does not match the Grant projection"⟩
  ensure (request.requestKind ∈ entry.allowedRequestKinds)
    ⟨.valueError, "Capability request kind is not allowed by the Grant"⟩
  ensure (request.requestedScope.exceeds entry.dataScope = false)
    ⟨.valueError, "Capability request scope exceeds the Grant"⟩
  ensure (entry.dataScope.resourceIds ≠ ∅ → request.resourceRefs ⊆ entry.dataScope.resourceIds)
    ⟨.valueError, "Capability request references a resource outside the Grant"⟩
  ensure (request.requestedScope.resourceIds ≠ ∅ →
      request.resourceRefs ⊆ request.requestedScope.resourceIds)
    ⟨.valueError, "Capability request resource refs exceed its requested scope"⟩
  let definition ← registry.require request.capabilityRef
  ensure (definition.version = request.capabilityVersion)
    ⟨.valueError, "Capability request version does not match the registry"⟩
  validateInputs definition request.typedInputs inputValidator
  pure entry

/-- `_validate_grant_projection_binding`. -/
def validateGrantProjectionBinding (grant : CapabilityGrant) (entry : GrantProjectionEntry)
    (projection : GrantSetProjection) : Except Raised Unit := do
  ensure (grant.principal = projection.principalId ∧
      grant.workloadPrincipalId = projection.workloadPrincipalId ∧
      grant.tenantId = projection.tenantId ∧
      grant.revocationEpoch = projection.revocationEpoch)
    ⟨.valueError, "CapabilityGrant identity binding does not match the Grant projection"⟩
  ensure (grant.capabilityId = entry.capabilityId ∧
      grant.capabilityVersion = entry.capabilityVersion ∧ grant.dataScope.same entry.dataScope ∧
      grant.expiresAt = entry.expiresAt)
    ⟨.valueError, "CapabilityGrant content does not match the Grant projection"⟩

/-- Check one step of a proposed plan. -/
def validatePlanStep (plan : BusinessPlan) (step : BusinessPlanStep)
    (projection : GrantSetProjection) (grants : CapabilityGrantSet)
    (registry : CapabilityRegistry) (now : DateTime)
    (inputValidator : Option CapabilityInputValidator) : Except Raised Unit := do
  let entry ← orRaise
    (projection.entries.find? fun e => e.capabilityId = step.capabilityId ∧ e.grantId = step.grantId)
    ⟨.valueError, "BusinessPlan step is outside the Grant projection"⟩
  ensure (step.capabilityVersion = some entry.capabilityVersion)
    ⟨.valueError, "BusinessPlan step capability version does not match its Grant"⟩
  let grant ← grants.requireGrant step.grantId "BusinessPlan references an unknown Grant"
  validateGrantProjectionBinding grant entry projection
  let _ ← grants.requireDimension step.capabilityId step.grantId .requestTransition now
  ensure (plan.dataScope.exceeds grant.dataScope = false)
    ⟨.valueError, "BusinessPlan scope exceeds a referenced Grant"⟩
  let definition ← registry.require step.capabilityId
  ensure (some definition.version = step.capabilityVersion)
    ⟨.valueError, "BusinessPlan step capability version does not match the registry"⟩
  validateInputs definition step.inputs inputValidator

/-- Check the steps of a proposed plan one by one. -/
def validatePlanSteps (plan : BusinessPlan) (projection : GrantSetProjection)
    (grants : CapabilityGrantSet) (registry : CapabilityRegistry) (now : DateTime)
    (inputValidator : Option CapabilityInputValidator) :
    List BusinessPlanStep → Except Raised Unit
  | [] => .ok ()
  | step :: steps => do
      validatePlanStep plan step projection grants registry now inputValidator
      validatePlanSteps plan projection grants registry now inputValidator steps

/-- `validate_plan_proposal`. -/
def validatePlanProposal (plan : BusinessPlan) (request : CapabilityRequest)
    (projection : GrantSetProjection) (grants : CapabilityGrantSet)
    (registry : CapabilityRegistry) (now : DateTime)
    (inputValidator : Option CapabilityInputValidator) : Except Raised Unit := do
  ensure (request.requestKind = .transition)
    ⟨.valueError, "Only a transition request may produce a BusinessPlan"⟩
  let _ ← validateCapabilityRequest request projection registry now inputValidator
  let firstStep ← orRaise plan.steps.head?
    ⟨.valueError, "BusinessPlan must contain at least one step"⟩
  ensure (plan.requestId = some request.requestId)
    ⟨.valueError, "BusinessPlan request_id must match the CapabilityRequest"⟩
  ensure (plan.steps.map (·.stepId)).Nodup
    ⟨.valueError, "BusinessPlan step_id values must be unique"⟩
  ensure (firstStep.capabilityId = request.capabilityRef ∧ firstStep.grantId = request.grantRef)
    ⟨.valueError, "BusinessPlan first step must represent the requested capability"⟩
  ensure (firstStep.inputs.toJson.canonical = request.typedInputs.toJson.canonical)
    ⟨.valueError, "BusinessPlan first step inputs must match the CapabilityRequest"⟩
  ensure (plan.dataScope.exceeds request.requestedScope = false)
    ⟨.valueError, "BusinessPlan scope exceeds the CapabilityRequest"⟩
  ensure (request.resourceRefs ≠ ∅ → request.resourceRefs ⊆ plan.dataScope.resourceIds)
    ⟨.valueError, "BusinessPlan scope omits a requested resource"⟩
  validatePlanSteps plan projection grants registry now inputValidator plan.steps
  validateBusinessPlan plan grants now

end AgentPact
