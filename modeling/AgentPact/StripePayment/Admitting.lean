import AgentPact.AgentRuns.Creation
import AgentPact.StripePayment.Advancing

/-!
# Admitting a Stripe run

`admit_run` of `domains/stripe_payment/m10_runtime.py`.  It commits the admission,
then the root with its native step, its contract and its first event, prepares a
challenge in the memory of the process, and asks for an approval.

The native task of a Stripe run is its root, so the lookup of the child finds the
row that the lookup of the root has just added.
-/

namespace AgentPact

namespace Stripe

open Base Transaction

/-- `PLAN_APPLICATION_MARKER`. -/
def planApplicationMarker : String := "agentpact:agent-run:plan:v1"

/-- What the process keeps of the adapter.  A run without a harness gets an empty one. -/
structure StripeMemory where
  /-- `_harnesses`. -/
  harnesses : String → Harness
  /-- `_challenge_ids`. -/
  challengeIds : String → Option String

/-- A program on the store, with the memory of the adapter. -/
abbrev AdmissionTx (α : Type) := CreationTx StripeMemory α

/-- `model_validate` and `model_dump` of a run, and `str` of the models whose digests are taken. -/
structure AdmissionCodec extends RunCodec where
  validateRun : List (String × Json) → Except Raised StripeM10PreparedRun
  bundleText : Admission.TaskAdmissionBundle → String
  compilationText : StripeM6Compilation → String
  stepText : BusinessPlanStep → String
  workOrderText : ExecutionWorkOrder → String

/-- What `admit_run` gets from the clock and from `uuid4`. -/
structure AdmitEnvironment where
  admittedAt : DateTime
  specifiedAt : DateTime
  prepare : PrepareEnvironment

/-! ## The first checkpoint -/

section

variable (A : StripeAdapter) (K : AdmissionCodec) (run : StripeM10PreparedRun)

/-- The only step of a run. -/
def initialStep (step : BusinessPlanStep) : GovernedPlanStepRef where
  businessPlanStepId := step.stepId
  stepDigest := A.process.platform.digest (.str (K.stepText step))
  workOrderId := run.compilation.workOrder.workOrderId
  workOrderDigest := A.process.platform.digest (.str (K.workOrderText run.compilation.workOrder))
  nativeTaskId := run.runId
  nativeStepId := A.nativeStepId run
  nativeContractId := run.compilation.workOrder.contractId
  authorityContractId := run.compilation.taskContract.contractId
  state := .active
  permitId := none
  attemptId := none
  probeRef := none

theorem stripeReplans_le : 2 ≤ 2 := Nat.le_refl 2

/-- `_stripe_initial_checkpoint`. -/
def stripeInitialCheckpoint : Except Raised GovernedPlanCheckpoint := do
  let step ← orRaise run.compilation.businessPlan.steps.head?
    ⟨.lookupError, "list index out of range"⟩
  if h : 1 ≤ run.compilation.businessPlan.version.toNat then
    pure {
      planRunId := run.runId
      admissionId := run.admissionBundle.admissionId
      rootTaskId := run.runId
      planId := run.compilation.businessPlan.planId
      planVersion := run.compilation.businessPlan.version.toNat
      authorityContractId := run.compilation.taskContract.contractId
      completedPrefix := []
      activeStep := some (initialStep A K run step)
      remainingSuffix := []
      supersededSuffix := []
      state := .active
      replanCount := 0
      maxReplans := 2
      journalSequence := 0
      journalDigest := .zero
      planVersion_pos := h
      maxReplans_le := stripeReplans_le }
  else throw ⟨.validationError, "GovernedPlanCheckpoint"⟩

theorem authority_sorted : ("admission" : String) < "compilation" := by decide

/-- The digests of the admission and of the compilation. -/
def authorityDigests : Dict where
  entries := [
    ("admission", (A.process.platform.digest (.str (K.bundleText run.admissionBundle))).hex),
    ("compilation", (A.process.platform.digest (.str (K.compilationText run.compilation))).hex)]
  sorted := List.pairwise_pair.mpr authority_sorted

/-- `_event` of an admission, which has no reason. -/
def admittedEvent (P : Platform) (checkpoint : GovernedPlanCheckpoint) (digests : Dict)
    (createdAt : DateTime) : PlanJournalEvent :=
  let unsigned : PlanJournalEvent :=
    { planEvent P checkpoint .admitted digests "" createdAt with
      reason := none
      eventDigest := .zero }
  { unsigned with eventDigest := P.digest (unsigned.modelDump P) }

end

/-! ## Writes -/

section

variable {μ : Type}

/-- Add an admission, with its whole bundle. -/
def insertAdmission? (bundle : Admission.TaskAdmissionBundle) (s : CreationStore μ) :
    Option (CreationStore μ) :=
  (s.db.admissions.insert? ⟨bundle.admissionId, bundle.task.organizationId,
    bundle.request.requestId, bundle.task.taskId, bundle.stored⟩).map fun admissions =>
      { s with
        db := { s.db with admissions := admissions }
        bundles := Function.update s.bundles bundle.admissionId (some bundle) }

/-- Add a task. -/
def insertTask? (row : TaskModel) (s : CreationStore μ) : Option (CreationStore μ) :=
  (s.db.tasks.insert? row).map fun tasks => { s with db := { s.db with tasks := tasks } }

/-- Add a step, with its creator. -/
def insertStep? (row : StepModel) (createdBy : String) (s : CreationStore μ) :
    Option (CreationStore μ) :=
  (s.db.steps.insert? row).map fun steps =>
    { s with
      db := { s.db with steps := steps }
      stepCreators := Function.update s.stepCreators row.stepId (some createdBy) }

/-- Add a contract. -/
def insertContract? (row : Admission.TaskContract) (s : CreationStore μ) :
    Option (CreationStore μ) :=
  (s.contracts.insert? row).map fun contracts => { s with contracts := contracts }

/-- Add an audit row. -/
def insertAuditRow? (row : GovernanceAuditEventModel) (s : CreationStore μ) :
    Option (CreationStore μ) :=
  (s.db.insertAudit? row).map fun db => { s with db := db }

end

/-- A `ValueError`. -/
def valueError (text : String) : Raised := ⟨.valueError, text⟩

/-! ## The transactions -/

/-- Whether a row is the first event of a run. -/
def isAdmittedEvent (runId : String) (row : GovernanceAuditEventModel) : Bool :=
  row.taskId = runId && match row.payload with
    | .journal event => event.transition = .admitted
    | _ => false

section

variable (A : StripeAdapter) (K : AdmissionCodec) (run : StripeM10PreparedRun)

/-- `_persist_admission`. -/
def persistAdmission : AdmissionTx Unit := atomic do
  let bundle := run.admissionBundle
  let existing ← read fun s =>
    s.db.admissionFor bundle.task.organizationId bundle.request.requestId
  match existing with
  | some row => do
      let stored ← fetch (fun s => s.bundles row.admissionId)
        ⟨.validationError, "TaskAdmissionBundle"⟩
      require (stored.Same bundle)
        (valueError "M10 request id was reused with different trusted semantics")
  | none => write? (insertAdmission? bundle) ⟨.integrityError, "governed_task_admissions"⟩

/-- Add a task that runs the plan, unless it is there and is marked as one. -/
def publishTask (taskId text : String) : AdmissionTx Unit := do
  let found ← read fun s => s.db.task? taskId run.user.orgId
  match found with
  | none =>
      write? (insertTask? ⟨taskId, run.user.orgId, .running, some planApplicationMarker⟩)
        ⟨.integrityError, "tasks"⟩
  | some task => require (task.application = some planApplicationMarker) (valueError text)

/-- Add the native step, unless it is there and was created by a plan. -/
def publishStep : AdmissionTx Unit := do
  let found ← read fun s => s.db.step? (A.nativeStepId run) run.runId run.user.orgId
  match found with
  | none =>
      write? (insertStep? ⟨A.nativeStepId run, run.runId, run.user.orgId, .running⟩
        planApplicationMarker) ⟨.integrityError, "steps"⟩
  | some _ => do
      let creator ← read fun s => s.stepCreators (A.nativeStepId run)
      require (creator = some planApplicationMarker)
        (valueError "Stripe Agent Run native Step has an untrusted creator")

/-- `_task_contract_model`. -/
def taskContractModel (authority : Admission.TaskContract) (taskId contractId : String) :
    Admission.TaskContract :=
  { authority with contractId := contractId, taskId := taskId, mode := .audit }

/-- Add a contract of a task, unless it is there. -/
def publishContract (taskId contractId text : String) : AdmissionTx Unit := do
  let found ← read fun s => s.contracts.find? contractId
  match found with
  | none =>
      write? (insertContract? (taskContractModel run.compilation.taskContract taskId contractId))
        ⟨.integrityError, "task_contracts"⟩
  | some contract => require (contract.taskId = taskId) (valueError text)

/-- Add the contract of the native task, unless it is the contract of the root. -/
def publishNativeContract : AdmissionTx Unit := do
  let authorityId := run.compilation.taskContract.contractId
  let nativeId := run.compilation.workOrder.contractId
  if nativeId = authorityId then do
    let found ← read fun s => s.contracts.find? nativeId
    require (found.any fun contract => contract.taskId = run.runId)
      (valueError "Stripe Agent Run shared contract identity conflicts")
  else do
    publishContract run run.runId nativeId "Stripe Agent Run native contract identity conflicts"

/-- Add the first event, unless there is one. -/
def publishEvent (event : PlanJournalEvent) : AdmissionTx Unit := do
  let admitted ← read fun s => s.db.audit.select (isAdmittedEvent run.runId)
  if admitted = [] then write? (insertAuditRow? (eventRow event run.user.orgId)) integrityError
  else pure ()

/-- `_initialize_agent_run_state`. -/
def initializeAgentRunState (createdAt : DateTime) : AdmissionTx Unit := do
  let checkpoint ← lift (stripeInitialCheckpoint A K run)
  atomic do
    publishTask run run.runId "Stripe Agent Run root Task has an untrusted application marker"
    publishTask run run.runId "Stripe Agent Run child Task has an untrusted application marker"
    publishStep A run
    publishContract run run.runId run.compilation.taskContract.contractId
      "Stripe Agent Run authority contract identity conflicts"
    publishNativeContract run
    publishEvent run (admittedEvent A.process.platform checkpoint (authorityDigests A K run)
      createdAt)

/-! ## The challenge -/

/-- `harness.prepare_submission` for a run, and the challenge that the process keeps of it. -/
def prepareChallenge (env : PrepareEnvironment) : AdmissionTx StripeSubmissionChallenge := do
  let facts ← lift (A.readFacts run.businessInputs.toJson)
  onMemory do
    let challenge ← on (fun m : StripeMemory => m.harnesses run.runId)
      (fun h m => { m with harnesses := Function.update m.harnesses run.runId h })
      (prepareSubmission A.process.platform A.setup env run.user facts (some run.runId)
        (some (A.nativeStepId run)) (some run.compilation.workOrder.contractId))
    write fun m => { m with
      challengeIds := Function.update m.challengeIds run.runId (some challenge.challengeId) }
    pure challenge

/-- The department that a decision wants an approver of. -/
def requiredApprover (c : StripeSubmissionChallenge) : Except Raised String :=
  if c.decision.outcome = .requireApproval then
    (assessSubmission c.facts).map (·.approverDepartmentId)
  else .ok paymentsDepartmentId

/-- `_approval_specification`. -/
def approvalSpecification (c : StripeSubmissionChallenge) (now : DateTime) :
    Except Raised ApprovalRequestSpecification := do
  let department ← requiredApprover c
  let expiresAt ← match c.contract.expiresAt with
    | some t => .ok t
    | none => now.add (60 * 60 * DateTime.second)
  pure {
    taskId := run.runId
    stepId := A.nativeStepId run
    contractId := run.compilation.workOrder.contractId
    organizationId := run.user.orgId
    intentId := c.intent.intentId
    observationHash := c.observationHash
    requestedApprovalRoute := department ++ ":approver"
    sourceDepartmentId := paymentsDepartmentId
    riskLevel := c.decision.riskLevel
    effect := c.intent.effect.value
    expiresAt := expiresAt
    policyDecision := some c.decision }

end

/-! ## The adapter -/

theorem awaiting_approval (stepId : String) :
    (some stepId).isSome ↔ PackAdvanceStatus.awaitingApproval = .awaitingApproval := by
  simp

theorem awaiting_checkpoint :
    (none : Option ExecutionCheckpoint).isSome ↔
      PackAdvanceStatus.awaitingApproval = .pendingResultProbe := by
  decide

/-- A run that waits for the approval of a step. -/
def awaitingResult (runId stepId : String) : PackAdvanceResult where
  status := .awaitingApproval
  runId := runId
  stepId := some stepId
  reasonCode := some "BUSINESS_APPROVAL_REQUIRED"
  approvalStepId := some stepId
  executionCheckpoint := none
  approval_iff := awaiting_approval stepId
  checkpoint_iff := awaiting_checkpoint
  reason := fun _ => rfl
  approval_step := fun _ h => h
  checkpoint_step := fun _ h => by cases h

namespace StripeAdapter

variable (A : StripeAdapter) (K : AdmissionCodec) (env : AdmitEnvironment)

/-- `_unwrap`. -/
def unwrap (prepared : PreparedRunReference) : Except Raised StripeM10PreparedRun := do
  ensure (prepared.packId = stripeBinding.packId ∧
      prepared.packVersion = stripeBinding.packVersion ∧
      prepared.adapterId = stripeBinding.adapterId)
    (valueError "Prepared run reference does not match this immutable adapter")
  let run ← K.validateRun prepared.opaquePayload
  ensure (run.runId = prepared.runId ∧
      some run.admissionBundle.admissionId = prepared.admissionId ∧
      some run.admissionBundle.contract.contractId = prepared.contractId)
    (valueError "Prepared run reference identity does not match its opaque payload")
  pure run

/-- The answer to an admission, if the reference is to the run. -/
def admissionResult (prepared : PreparedRunReference) (run : StripeM10PreparedRun)
    (stepId : String) : Option PackAdmissionResult :=
  if h : run.runId = prepared.runId ∧
      some run.admissionBundle.admissionId = prepared.admissionId then
    some {
      prepared := prepared
      admissionId := run.admissionBundle.admissionId
      initial := awaitingResult run.runId stepId
      run := h.1
      admission := fun _ hid => Option.some.inj (h.2.trans hid) }
  else none

/-- `admit_run`. -/
def admitRun (handler : ApprovalHandler) (prepared : PreparedRunReference)
    (operationKey : String) : AdmissionTx (Option PackAdmissionResult) := do
  let run ← lift (unwrap K prepared)
  persistAdmission run
  initializeAgentRunState A K run env.admittedAt
  let challenge ← prepareChallenge A run env.prepare
  let specification ← lift (approvalSpecification A run challenge env.specifiedAt)
  let _ ← onDatabase (handler prepared specification operationKey)
  pure (admissionResult prepared run specification.stepId)

/-- The adapter, as far as creating a run goes. -/
def creating (inTime : Bool) : CreatingAdapter StripeMemory where
  binding := stripeBinding
  prepareRun request :=
    if inTime then some ((A.prepareRun request).map fun run => some (A.reference K.toRunCodec run))
    else none
  admitRun := A.admitRun K env

end StripeAdapter

end Stripe

end AgentPact
