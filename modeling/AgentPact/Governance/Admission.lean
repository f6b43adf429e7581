import Mathlib.Data.Finset.Sort
import AgentPact.Agent.Interactions
import AgentPact.Governance.PackRuntime

/-!
# Admission of a task

`governance/admission.py`: the records a governed task is created from, and
`prepare`, which checks them against one another and puts them into the bundle
that is persisted.

The order in which a process iterates over a set, and the version 5 UUID of a
text, are parameters: the checks only ask what they are for equality.
-/

namespace AgentPact

namespace Admission

/-! ## Records -/

/-- How far governance reaches. -/
inductive GovernanceMode where
  | off | audit | enforce
deriving DecidableEq, Repr

/-- The text of a mode. -/
def GovernanceMode.value : GovernanceMode → String
  | .off => "off"
  | .audit => "audit"
  | .enforce => "enforce"

/-- The authorization of a task. -/
structure TaskContract where
  contractId : String
  taskId : String
  organizationId : String
  initiatorId : Option String
  servicePrincipalId : Option String
  departmentId : Option String
  businessLineId : Option String
  goal : String
  allowedOperations : Finset String
  dataScope : JsonDict
  authorizationSnapshot : JsonDict
  policyProfile : String
  policyVersion : String
  successCriteria : List String
  expiresAt : Option DateTime
  version : Int
  mode : GovernanceMode

/-- By which path a task was created. -/
inductive TaskCreationPath where
  | native | workflow | template | sdkApi | directInternal
deriving DecidableEq, Repr

/-- The text of a path. -/
def TaskCreationPath.value : TaskCreationPath → String
  | .native => "native_task"
  | .workflow => "workflow_task"
  | .template => "template_task"
  | .sdkApi => "sdk_api_task"
  | .directInternal => "direct_internal_task"

/-- What a creator of a task says about it. -/
structure TrustedTaskCreationSnapshot where
  taskId : String
  organizationId : String
  creationPath : TaskCreationPath
  initiatorId : String
  servicePrincipalId : Option String
  departmentId : Option String
  businessLineId : Option String
  authorizationSnapshot : JsonDict
  policyVersion : String
  contractVersion : Nat
  createdAt : DateTime
  requestId : Option String
  workflowId : Option String
  workflowRunId : Option String
  templateId : Option String
  templateVersion : Option String
  templateRunId : Option String
  callerId : Option String

/-- `model_dump(mode="json")`. -/
def TrustedTaskCreationSnapshot.modelDump (P : Platform) (s : TrustedTaskCreationSnapshot) :
    Json :=
  .obj [("task_id", .str s.taskId), ("organization_id", .str s.organizationId),
    ("creation_path", .str s.creationPath.value), ("initiator_id", .str s.initiatorId),
    ("service_principal_id", .ofOption .str s.servicePrincipalId),
    ("department_id", .ofOption .str s.departmentId),
    ("business_line_id", .ofOption .str s.businessLineId),
    ("authorization_snapshot", s.authorizationSnapshot.toJson),
    ("policy_version", .str s.policyVersion), ("contract_version", .num s.contractVersion),
    ("created_at", .str (P.isoformat s.createdAt)), ("request_id", .ofOption .str s.requestId),
    ("workflow_id", .ofOption .str s.workflowId),
    ("workflow_run_id", .ofOption .str s.workflowRunId),
    ("template_id", .ofOption .str s.templateId),
    ("template_version", .ofOption .str s.templateVersion),
    ("template_run_id", .ofOption .str s.templateRunId), ("caller_id", .ofOption .str s.callerId)]

/-- The row a task is created from. -/
structure GovernedTaskDraft where
  taskId : String
  organizationId : String
  goal : String
  mode : GovernanceMode
deriving DecidableEq

/-- The evidence of an admission. -/
structure AdmissionAuditRecord where
  eventType : String
  admissionId : String
  requestId : String
  taskId : String
  organizationId : String
  contractId : String
  planId : String
  grantId : String
  capabilityId : String
  capabilityVersion : String
  policyVersion : String
  revocationEpoch : String
  mode : GovernanceMode
  createdAt : DateTime
deriving DecidableEq

/-- All records of an admission. -/
structure TaskAdmissionBundle where
  schemaVersion : String
  providerMode : String
  runtimeBinding : Option PackRuntimeBinding
  admissionId : String
  task : GovernedTaskDraft
  creationSnapshot : TrustedTaskCreationSnapshot
  contract : TaskContract
  request : CapabilityRequest
  grants : List CapabilityGrant
  plan : BusinessPlan
  workOrders : List ExecutionWorkOrder
  auditRecord : AdmissionAuditRecord

/-- What the process that prepares an admission runs on. -/
structure Process where
  platform : Platform
  /-- The order a set is iterated in. -/
  iterate : Finset String → List String
  /-- `uuid5(NAMESPACE_URL, text).hex`. -/
  uuid5 : String → String

/-- `model_dump(mode="json")` of a scope. -/
def Process.scopeDump (O : Process) (s : CapabilityDataScope) : Json :=
  .obj [("department_id", .ofOption .str s.departmentId),
    ("business_line_id", .ofOption .str s.businessLineId),
    ("resource_ids", .arr ((O.iterate s.resourceIds).map .str)),
    ("attributes", s.attributes.toJson)]

/-- The value of a key of a dictionary of strings. -/
def dictGet (d : Dict) (key : String) : Option String := d.entries.lookup key

/-! ## Preparing -/

/-- What `prepare` is given. -/
structure Proposal where
  task : GovernedTaskDraft
  creationSnapshot : TrustedTaskCreationSnapshot
  contract : TaskContract
  request : CapabilityRequest
  projection : GrantSetProjection
  grants : CapabilityGrantSet
  registry : CapabilityRegistry
  plan : BusinessPlan
  workOrders : List ExecutionWorkOrder
  now : DateTime
  inputValidator : Option CapabilityInputValidator

/-- Raise a `ValueError` unless a condition holds. -/
def check (p : Prop) [Decidable p] (text : String) : Except Raised Unit :=
  ensure p ⟨.valueError, text⟩

/-- Whether a contract has expired. -/
def TaskContract.expired (c : TaskContract) (now : DateTime) : Except Raised Bool :=
  match c.expiresAt with
  | none => .ok false
  | some t => t.le now

/-- The first part of `prepare`: the records are about one task. -/
def checkIdentities (O : Process) (a : Proposal) : Except Raised Unit := do
  check (a.task.mode = .audit ∧ a.contract.mode = .audit)
    "Governed Task admission remains audit-only; enforce is not authorized"
  check (a.task.taskId = a.creationSnapshot.taskId ∧
      a.task.organizationId = a.creationSnapshot.organizationId)
    "Task does not match its trusted creation snapshot"
  check (a.contract.taskId = a.task.taskId ∧ a.contract.organizationId = a.task.organizationId)
    "TaskContract does not match the Task"
  check (a.request.tenantId = a.task.organizationId)
    "CapabilityRequest tenant must match the Task"
  check (a.contract.goal = a.task.goal) "TaskContract goal must match the Task draft"
  check (a.plan.taskId = a.task.taskId ∧ a.plan.contractId = a.contract.contractId)
    "BusinessPlan does not match the TaskContract"
  check (a.creationSnapshot.requestId = some a.request.requestId)
    "Creation snapshot request_id must match the CapabilityRequest"
  check (a.creationSnapshot.initiatorId = a.request.principalRef)
    "Creation snapshot initiator must match the CapabilityRequest principal"
  check (a.creationSnapshot.servicePrincipalId = a.projection.workloadPrincipalId)
    "Creation snapshot workload identity must match the Grant projection"
  check (a.contract.initiatorId = some a.request.principalRef)
    "TaskContract initiator must match the CapabilityRequest principal"
  check (a.contract.servicePrincipalId = a.projection.workloadPrincipalId)
    "TaskContract workload identity must match the Grant projection"
  check (a.contract.policyVersion = a.creationSnapshot.policyVersion)
    "TaskContract policy version must match the trusted snapshot"
  check (a.contract.authorizationSnapshot.toJson.value =
      (a.creationSnapshot.modelDump O.platform).value)
    "TaskContract authorization snapshot must match the trusted snapshot"
  let expired ← a.contract.expired a.now
  check (expired = false) "TaskContract is expired"
  check (dictGet a.request.contractVersions "policy" = some a.contract.policyVersion)
    "CapabilityRequest policy version must match the TaskContract"
  check (dictGet a.request.contractVersions "task_contract" = some (toString a.contract.version))
    "CapabilityRequest contract version must match the TaskContract"
  check (a.contract.dataScope.toJson.value = (O.scopeDump a.request.requestedScope).value)
    "TaskContract data scope must match the CapabilityRequest"

/-- The second part of `prepare`: the request is within its grant and the contract. -/
def checkRequest (a : Proposal) : Except Raised (GrantProjectionEntry × CapabilityGrant) := do
  let entry ← validateCapabilityRequest a.request a.projection a.registry a.now a.inputValidator
  let grant ← a.grants.requireGrant a.request.grantRef
    "CapabilityRequest references an unknown Grant"
  check (grant.capabilityId = a.request.capabilityRef ∧
      grant.capabilityVersion = a.request.capabilityVersion)
    "CapabilityRequest does not match its Grant"
  check (grant.policySnapshotVersion = a.contract.policyVersion)
    "Grant policy version must match the TaskContract"
  check ((a.creationSnapshot.authorizationSnapshot.get "revocation_epoch").value =
      .str grant.revocationEpoch)
    "Trusted snapshot revocation epoch must match the Grant"
  check (a.request.capabilityRef ∈ a.contract.allowedOperations)
    "TaskContract does not allow the requested capability"
  pure (entry, grant)

/-- The work order of a step. -/
def workOrderOf (workOrders : List ExecutionWorkOrder) (stepId : String) :
    Option ExecutionWorkOrder := workOrders.find? fun w => w.businessPlanStepId = stepId

/-- Check the work order of each step. -/
def checkWorkOrders (a : Proposal) : List BusinessPlanStep → Except Raised Unit
  | [] => .ok ()
  | step :: steps => do
      let w ← orRaise (workOrderOf a.workOrders step.stepId) ⟨.keyError, step.stepId⟩
      validateWorkOrder w a.plan step a.grants a.now
      let definition ← a.registry.require step.capabilityId
      check (w.resultProbeRef = definition.resultProbeRef)
        "ExecutionWorkOrder result probe must match the capability registry"
      checkWorkOrders a steps

/-- The third part of `prepare`: the plan is within its grants, and has its work orders. -/
def checkPlan (a : Proposal) : Except Raised Unit := do
  validatePlanProposal a.plan a.request a.projection a.grants a.registry a.now a.inputValidator
  check (∀ step ∈ a.plan.steps, step.capabilityId ∈ a.contract.allowedOperations)
    "TaskContract must allow every BusinessPlan capability"
  check (a.workOrders.map (·.workOrderId)).Nodup
    "ExecutionWorkOrder work_order_id values must be unique"
  check ((a.workOrders.map (·.businessPlanStepId)).Nodup ∧
      (a.workOrders.map (·.businessPlanStepId)).toFinset = (a.plan.steps.map (·.stepId)).toFinset)
    "Admission requires exactly one Work Order for every BusinessPlan step"
  checkWorkOrders a a.plan.steps

/-- The grants that steps of a plan reference, by their ids. -/
def referencedGrants (a : Proposal) : List CapabilityGrant :=
  (a.grants.grants.filter fun g => g.grantId ∈ a.plan.steps.map (·.grantId)).insertionSort
    fun g h => g.grantId ≤ h.grantId

/-- `prepare`. -/
def prepare (O : Process) (a : Proposal) : Except Raised TaskAdmissionBundle := do
  checkIdentities O a
  let (entry, grant) ← checkRequest a
  checkPlan a
  let referenced := referencedGrants a
  check ((referenced.map (·.grantId)).toFinset = (a.plan.steps.map (·.grantId)).toFinset)
    "BusinessPlan references a Grant missing from the admission bundle"
  check (∀ g ∈ referenced, g.policySnapshotVersion = a.contract.policyVersion)
    "Every CapabilityGrant policy version must match the TaskContract"
  let admissionId := "admission_" ++ O.uuid5 (O.platform.dumps
    (.arr [.str a.task.organizationId, .str a.request.requestId]))
  pure {
    schemaVersion := "phase2-task-admission-bundle-v1"
    providerMode := "recorded"
    runtimeBinding := none
    admissionId := admissionId
    task := a.task
    creationSnapshot := a.creationSnapshot
    contract := a.contract
    request := a.request
    grants := referenced
    plan := a.plan
    workOrders := a.workOrders
    auditRecord := {
      eventType := "governed_task_admitted"
      admissionId := admissionId
      requestId := a.request.requestId
      taskId := a.task.taskId
      organizationId := a.task.organizationId
      contractId := a.contract.contractId
      planId := a.plan.planId
      grantId := entry.grantId
      capabilityId := entry.capabilityId
      capabilityVersion := entry.capabilityVersion
      policyVersion := a.contract.policyVersion
      revocationEpoch := grant.revocationEpoch
      mode := a.task.mode
      createdAt := a.now } }

end Admission

end AgentPact
