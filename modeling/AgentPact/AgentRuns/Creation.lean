import AgentPact.AgentRuns.ApprovalPauses
import AgentPact.StripePayment.Restoration

/-!
# Creating a run

`AgentRunService.create` (`agent_runs/service.py`).

Under the gate of its request, a call looks the run up.  If its root and its
admission are there, it compares the request with the admission and projects the
run.  If neither is there, it has the Pack prepare and admit the run.  If only one
is there, it refuses.

The store is the database, with the columns that only the creation of a run reads,
and what the process keeps of a Pack.  The registry and the Pack are parameters.
-/

namespace AgentPact

open Base Transaction

/-! ## Requests -/

/-- The pattern of a request id: letters, digits and marks, a letter or a digit first. -/
def isRequestId (id : String) : Bool :=
  id.toList.length ≤ 128 && match id.toList with
    | [] => false
    | c :: cs => c.isAlphanum && cs.all fun c => c.isAlphanum || c ∈ ['.', '_', ':', '-']

/-- A caller's request for a run. -/
structure AgentRunCreateRequest where
  requestId : String
  intent : String
  businessInputs : JsonDict
  /-- The Pack and its version, which are given together. -/
  pack : Option (String × String)
  requestId_shape : isRequestId requestId = true
  intent_length : 1 ≤ intent.length ∧ intent.length ≤ 2000

/-! ## The store -/

/-- The unique constraints of `task_contracts`. -/
def Admission.TaskContract.clash (a b : Admission.TaskContract) : Bool :=
  a.contractId = b.contractId || a.taskId = b.taskId

instance : Schema Admission.TaskContract String where
  key r := r.contractId
  clash := Admission.TaskContract.clash
  clash_of_key h := by simp [Admission.TaskContract.clash, h]
  clash_symm {a b} h := by
    simp only [Admission.TaskContract.clash, Bool.or_eq_true, decide_eq_true_eq] at h ⊢
    exact h.imp Eq.symm Eq.symm

/-- The database, with what only the creation of a run reads of it, and the memory of a Pack. -/
structure CreationStore (μ : Type) where
  db : Database
  /-- The whole bundle of an admission, by its id. -/
  bundles : String → Option Admission.TaskAdmissionBundle
  /-- `task_contracts`. -/
  contracts : Table Admission.TaskContract
  /-- `created_by` of a step, by its id. -/
  stepCreators : String → Option String
  memory : μ

/-- A program on the store. -/
abbrev CreationTx (μ α : Type) := Transaction Raised (CreationStore μ) α

/-- The part of a bundle that the commands read. -/
def Admission.TaskAdmissionBundle.stored (b : Admission.TaskAdmissionBundle) :
    AgentPact.TaskAdmissionBundle where
  providerMode := b.providerMode
  runtimeBinding := b.runtimeBinding
  admissionId := b.admissionId
  taskId := b.task.taskId
  contractId := b.contract.contractId
  tenantId := b.request.tenantId
  requestId := b.request.requestId
  capabilityRef := b.request.capabilityRef
  principalRef := b.request.principalRef

/-- The admission of a request. -/
def Database.admissionFor (db : Database) (organizationId requestId : String) :
    Option GovernedTaskAdmissionModel :=
  (db.admissions.select fun a => a.organizationId = organizationId && a.requestId = requestId).head?

section

variable {μ : Type}

/-- A program on the database. -/
def onDatabase {α : Type} (x : AgentRunTx α) : CreationTx μ α :=
  on CreationStore.db (fun db s => { s with db := db }) x

/-- A program on the memory of a Pack. -/
def onMemory {α : Type} (x : Transaction Raised μ α) : CreationTx μ α :=
  on CreationStore.memory (fun m s => { s with memory := m }) x

end

/-! ## Packs that create runs -/

/-- What a Pack says about a run it admitted. -/
structure PackAdmissionResult where
  prepared : PreparedRunReference
  admissionId : String
  initial : PackAdvanceResult
  run : initial.runId = prepared.runId
  admission : ∀ id ∈ prepared.admissionId, admissionId = id

/-- `==` on references. -/
def PreparedRunReference.same (a b : PreparedRunReference) : Prop :=
  { a with opaquePayload := b.opaquePayload } = b ∧
    (Json.obj a.opaquePayload).value = (Json.obj b.opaquePayload).value

deriving instance DecidableEq for PreparedRunReference

instance (a b : PreparedRunReference) : Decidable (a.same b) := by
  unfold PreparedRunReference.same
  infer_instance

/-- `validate_pack_admission_result`. -/
def validatePackAdmissionResult (value : Option PackAdmissionResult)
    (prepared : PreparedRunReference) : Except Raised PackAdmissionResult :=
  match value with
  | none => .error (packLifecycleError "PACK_ADMISSION_RESULT_INVALID")
  | some result =>
      if result.prepared.same prepared then .ok result
      else .error (packLifecycleError "PACK_ADMISSION_RESULT_CORRELATION_MISMATCH")

/-- What a Pack calls to have a prepared run wait for an approval. -/
abbrev ApprovalHandler :=
  PreparedRunReference → ApprovalRequestSpecification → String → AgentRunTx GovernedPlanCheckpoint

/-- A Pack, as far as creating a run goes. -/
structure CreatingAdapter (μ : Type) where
  binding : PackRuntimeBinding
  /-- What it returns or raises, unless it does not do so in time. -/
  prepareRun : Stripe.PackRunRequest → Option (Except Raised (Option PreparedRunReference))
  admitRun : ApprovalHandler → PreparedRunReference → String →
    CreationTx μ (Option PackAdmissionResult)

/-- The registry of Packs that create runs. -/
structure CreationRegistry (μ : Type) where
  tenantScoped : Bool
  requireForTenant : String → String → String → Option String → DateTime →
    Except Raised (CreatingAdapter μ)
  requirePack : String → String → Except Raised (CreatingAdapter μ)
  requireBinding : PackRuntimeBinding → Except Raised (CreatingAdapter μ)

/-- What a call finds around it: the registries, what the clock says where it is read, and the
keys that are generated. -/
structure CreationEnvironment (μ : Type) where
  registry : CreationRegistry μ
  defaultPackBinding : Option PackRuntimeBinding
  projecting : Environment
  selectedAt : DateTime
  resolvedAt : DateTime
  preparedAt : DateTime
  pendingActionId : String
  approvalId : String
  ttlReadAt : DateTime
  createdAt : DateTime
  attachedAt : DateTime
  appendedAt : DateTime

/-! ## The steps of a call -/

section Create

variable {μ : Type} (P : Platform) (E : CreationEnvironment μ) (user : UserContext)
  (request : AgentRunCreateRequest)

/-- The digest of an intent. -/
def intentDigest : Digest := P.digest (.arr [.str "agent-run-intent", .str request.intent])

/-- The id of the run of a request. -/
def createdRunId : String := derivePackRunId P user.orgId request.requestId

/-- `_operation_key` of a creation. -/
def createOperationKey (runId : String) : String :=
  "agent-run:create:" ++ (P.digest (.arr [.str user.orgId, .str runId, .str "create",
    .str request.requestId, .str "reservation"])).hex

/-- The binding of the Pack that a request selects. -/
def selectPack : Except Raised PackRuntimeBinding :=
  (match request.pack, E.defaultPackBinding with
  | some (packId, packVersion), _ =>
      (if E.registry.tenantScoped then
        E.registry.requireForTenant user.orgId packId packVersion none E.selectedAt
      else E.registry.requirePack packId packVersion).map CreatingAdapter.binding
  | none, some binding => .ok binding
  | none, none => .error ⟨.lookupError, "No Pack was selected for this Agent Run"⟩).mapError
    (asAgentRunError [.lookupError] "PACK_RUNTIME_UNAVAILABLE")

/-- `_adapter`, for no capability in particular. -/
def creatingAdapter (binding : PackRuntimeBinding) : Except Raised (CreatingAdapter μ) := do
  let adapter ← (if E.registry.tenantScoped then
      E.registry.requireForTenant user.orgId binding.packId binding.packVersion
        (some binding.adapterId) E.resolvedAt
    else E.registry.requireBinding binding).mapError
      (asAgentRunError [.lookupError] "PACK_RUNTIME_UNAVAILABLE")
  demand (adapter.binding = binding) "ADAPTER_CONFORMANCE_FAILED"
  pure adapter

/-- A stored bundle is what the request asks for again. -/
def asksAgain (selected : PackRuntimeBinding) (bundle : Admission.TaskAdmissionBundle) :
    Except Raised Unit := do
  demand (bundle.task.taskId = createdRunId P user request ∧
      Stripe.lastWord bundle.request.userIntentSummary = (intentDigest P request).hex ∧
      bundle.request.typedInputs.same request.businessInputs) "IDEMPOTENCY_CONFLICT"
  let binding ← orAgentRunError "RUNTIME_BINDING_MISSING" bundle.runtimeBinding
  demand (binding = selected) "IDEMPOTENCY_CONFLICT"

/-- The first transaction of `create`: the projection of the run that is there, if one is. -/
def existingRun (selected : PackRuntimeBinding) (s : CreationStore μ) :
    Except Raised (Option AgentRunProjection) :=
  match s.db.getRoot (createdRunId P user request) user.orgId,
      s.db.admissionFor user.orgId request.requestId with
  | none, none => .ok none
  | some _, some admission => do
      let bundle ← orRaise (s.bundles admission.admissionId)
        ⟨.validationError, "TaskAdmissionBundle"⟩
      asksAgain P user request selected bundle
      let projection ← getRun P E.projecting user (createdRunId P user request) s.db
      pure (some projection)
  | _, _ => .error (agentRunError "STATE_CONFLICT")

/-- What a Pack is asked to prepare, if that passes the checks of its fields. -/
def packRunRequest : Except Raised Stripe.PackRunRequest :=
  if h : user.orgId ≠ "" ∧ request.requestId ≠ "" ∧ E.projecting.targetUrl ≠ "" then
    .ok {
      tenantId := user.orgId
      requestId := request.requestId
      intentDigest := intentDigest P request
      businessInputs := request.businessInputs
      targetUrl := E.projecting.targetUrl
      principal := user
      now := E.preparedAt
      tenantId_ne := h.1
      requestId_ne := h.2.1 }
  else .error ⟨.validationError, "PackRunRequest"⟩

/-- The exceptions of a planner, as the service reports them. -/
def asPlannerError (e : Raised) : Raised :=
  if ErrorClass.packLifecycleError.caughtBy e then agentRunError e.text
  else asAgentRunError [.valueError, .governedPlanError] "PLANNER_REJECTED" e

/-- A reference is to the run that the request asks for. -/
def PreparedRunReference.prepares (prepared : PreparedRunReference)
    (selected : PackRuntimeBinding) : Bool :=
  prepared.runId = createdRunId P user request && prepared.tenantId = user.orgId &&
    prepared.requestId = request.requestId && prepared.packId = selected.packId &&
    prepared.packVersion = selected.packVersion && prepared.adapterId = selected.adapterId

/-- `adapter.prepare_run`, and the check of what it returns. -/
def preparedRun (selected : PackRuntimeBinding) (adapter : CreatingAdapter μ) :
    Except Raised PreparedRunReference := do
  let packRequest ← (packRunRequest P E user request).mapError asPlannerError
  let answer ← orAgentRunError "PLANNER_TIMEOUT" (adapter.prepareRun packRequest)
  let returned ← answer.mapError asPlannerError
  let prepared ← orAgentRunError "PACK_PREPARE_RESULT_INVALID" returned
  demand (prepared.prepares P user request selected = true) "PACK_PREPARE_RESULT_INVALID"
  pure prepared

/-- `_pause_for_approval`, as a Pack is given it. -/
def approvalHandler : ApprovalHandler := fun prepared specification operationKey =>
  pauseRunForApproval P
    { prepared := prepared
      specification := specification
      operationKey := operationKey
      pendingActionId := E.pendingActionId
      approvalId := E.approvalId
      ttlReadAt := E.ttlReadAt
      createdAt := E.createdAt
      attachedAt := E.attachedAt
      appendedAt := E.appendedAt }

/-- Have a Pack admit a run that it prepared. -/
def admitPrepared (adapter : CreatingAdapter μ) (prepared : PreparedRunReference) :
    CreationTx μ Unit :=
  translating (asPackError "PACK_ADMISSION_FAILED") do
    let admitted ← adapter.admitRun (approvalHandler P E) prepared
      (createOperationKey P user request prepared.runId)
    let _ ← lift (validatePackAdmissionResult admitted prepared)
    pure ()

/-- `AgentRunService.create`. -/
def create : CreationTx μ AgentRunProjection := do
  require (user.isAnyOperator = true) (agentRunError "OPERATOR_REQUIRED")
  let selected ← lift (selectPack E user request)
  let adapter ← lift (creatingAdapter E user selected)
  match ← query (existingRun P E user request selected) with
  | some projection => pure projection
  | none => do
      let prepared ← lift (preparedRun P E user request selected adapter)
      admitPrepared P E user request adapter prepared
      onDatabase (getProjection P E.projecting user prepared.runId)

end Create

end AgentPact
