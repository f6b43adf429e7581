import AgentPact.Agent.WorkOrders
import AgentPact.Base.Lts
import AgentPact.Governance.Admission
import AgentPact.StripePayment.Store

/-!
# The Stripe harness

`domains/stripe_payment/policy.py` and `harness.py`: a payment is prepared as a
challenge, approved by a second user, submitted once under a permit, and its
result is what the probe says.

A challenge is changed in place, so what an operation did to it before it raised
stays.  An operation takes the times that `_now` and the clock
give it, and the ids of `uuid4`, as arguments.  `HarnessStep` is the system of calls in any order.
-/

namespace AgentPact

open Base Transaction

namespace Stripe

/-! ## Constants -/

def packId : String := "stripe.payment"
def packVersion : String := "0.1.0-draft.1"
def capabilityId : String := "stripe.payment.submit"
def policyVersion : String := "stripe-payment-policy-v0.1.0-draft.1"
def tenantId : String := "stripe_sandbox_tenant"
def paymentsDepartmentId : String := "stripe_payments"
def complianceDepartmentId : String := "stripe_compliance"
def businessLineId : String := "stripe_treasury"

/-- `_account`. -/
def account (userId departmentId role : String) : UserContext where
  userId := userId
  orgId := tenantId
  departmentRoles := [⟨departmentId, role⟩]
  businessLineIds := [businessLineId]

/-- `STRIPE_ACCOUNTS`. -/
def stripeAccounts : List UserContext :=
  [account "stripe_operator" paymentsDepartmentId "operator",
    account "stripe_approver" paymentsDepartmentId "approver",
    account "stripe_compliance" complianceDepartmentId "approver",
    account "stripe_viewer" paymentsDepartmentId "viewer"]

/-! ## Policy -/

/-- What a policy decision is about. -/
structure ActionIntent where
  intentId : String
  taskId : String
  stepId : String
  actionFingerprint : String
  observationId : String
  operation : String
  effect : ExecutionEffect
deriving DecidableEq

/-- How risky a submission is, and who may approve it. -/
structure SubmissionRisk where
  riskLevel : RiskLevel
  approverDepartmentId : String
  reasons : List String

/-- `CRITICAL_AMOUNT_MINOR`. -/
def criticalAmountMinor : Int := 1000000

/-- `assess_submission`. -/
def assessSubmission (facts : StripePaymentFacts) : Except Raised SubmissionRisk := do
  ensure (0 < facts.amountMinor) (paymentError "Stripe payment amount must be positive minor units")
  if criticalAmountMinor ≤ facts.amountMinor then
    pure ⟨.critical, complianceDepartmentId, ["Amount meets the critical approval threshold"]⟩
  else
    pure ⟨.high, paymentsDepartmentId, ["Every Stripe payment submission requires dual control"]⟩

/-- The text of a risk in a rule. -/
def riskText : RiskLevel → String
  | .low => "low"
  | .medium => "medium"
  | .high => "high"
  | .critical => "critical"
  | .unknown => "unknown"

/-- `require_approval_decision`. -/
def requireApprovalDecision (intent : ActionIntent) (facts : StripePaymentFacts)
    (decisionId : String) : Except Raised PolicyDecision := do
  let risk ← assessSubmission facts
  pure {
    decisionId := decisionId
    intentId := intent.intentId
    outcome := .requireApproval
    riskLevel := risk.riskLevel
    reasons := risk.reasons
    matchedRules := ["stripe.payment.submit.always-approve",
      "stripe.payment." ++ riskText risk.riskLevel]
    policyVersion := policyVersion }

/-- `authorize_after_approval`. -/
def authorizeAfterApproval (intent : ActionIntent) (facts : StripePaymentFacts)
    (requester approver : UserContext) (decisionId : String) : Except Raised PolicyDecision := do
  let risk ← assessSubmission facts
  ensure (requester.userId ≠ approver.userId)
    (paymentError "Requester cannot approve the same Stripe payment")
  ensure (requester.orgId = tenantId ∧ approver.orgId = tenantId)
    (paymentError "Stripe identities must belong to the sandbox tenant")
  ensure (approver.getRoleInDepartment risk.approverDepartmentId ∈
      [some "approver", some "org_admin", some "super_admin"])
    (paymentError "Approver lacks the required Stripe department role")
  ensure (approver.isOrgAdmin ∨ approver.hasBusinessLine businessLineId)
    (paymentError "Approver lacks the Stripe business-line scope")
  pure {
    decisionId := decisionId
    intentId := intent.intentId
    outcome := .allow
    riskLevel := risk.riskLevel
    reasons := ["Independent Stripe approver accepted the current facts and observation"]
    matchedRules := ["stripe.payment.separation-of-duties", "stripe.payment.approved"]
    policyVersion := policyVersion }

theorem authorizeAfterApproval_separates {intent : ActionIntent} {facts : StripePaymentFacts}
    {requester approver : UserContext} {decisionId : String} {d : PolicyDecision}
    (h : authorizeAfterApproval intent facts requester approver decisionId = .ok d) :
    requester.userId ≠ approver.userId := by
  obtain ⟨risk, _, h⟩ := except_bind_eq_ok.mp h
  obtain ⟨_, hdistinct, _⟩ := except_bind_eq_ok.mp h
  exact ensure_eq_ok.mp hdistinct

/-! ## Challenges -/

/-- How far a challenge is. -/
inductive ChallengeState where
  | pendingApproval | rejected | ready | invalidated | confirmed | unknown | failed
deriving DecidableEq, Repr

/-- An approval. -/
structure StripeApproval where
  approvalId : String
  requesterUserId : String
  approverUserId : String
  approvedAt : DateTime
deriving DecidableEq

/-- A permit. -/
structure ExecutionPermit where
  permitId : String
  taskId : String
  stepId : String
  actionFingerprint : String
  observationId : String
  policyDecisionId : String
  issuedAt : DateTime
  expiresAt : DateTime
  usedAt : Option DateTime
deriving DecidableEq

/-- `matches`. -/
def ExecutionPermit.admits (p : ExecutionPermit) (actionFingerprint observationId : String)
    (now : DateTime) : Except Raised Bool :=
  if p.usedAt = none ∧ p.actionFingerprint = actionFingerprint ∧ p.observationId = observationId then
    now.le p.expiresAt
  else .ok false

/-- An attempt. -/
structure ExecutionAttempt where
  attemptId : String
  taskId : String
  stepId : String
  contractId : String
  actionFingerprint : String
  observationHash : String
  idempotencyKey : String
  status : ExecutionAttemptStatus
  startedAt : DateTime
  completedAt : Option DateTime
  resultProbe : Option ResultProbeEvidence
  errorMessage : Option String

/-- A challenge. -/
structure StripeSubmissionChallenge where
  challengeId : String
  state : ChallengeState
  facts : StripePaymentFacts
  requesterUserId : String
  contract : Admission.TaskContract
  plan : BusinessPlan
  workOrder : ExecutionWorkOrder
  intent : ActionIntent
  observationHash : String
  decision : PolicyDecision
  approval : Option StripeApproval
  permit : Option ExecutionPermit
  attempt : Option ExecutionAttempt
  resultProbe : Option ResultProbeEvidence

/-- The challenges by their ids, and the store. -/
structure Harness where
  store : StripePaymentStore
  challenges : String → Option StripeSubmissionChallenge

/-- A program on the harness. -/
abbrev HarnessTx (α : Type) := Transaction Raised Harness α

/-- Keep a challenge. -/
def Harness.put (h : Harness) (id : String) (c : StripeSubmissionChallenge) : Harness :=
  { h with challenges := Function.update h.challenges id (some c) }

/-- What a harness is built with. -/
structure HarnessSetup where
  secret : String
  /-- The schema of the facts. -/
  inputSchema : JsonDict
  /-- `datetime.fromisoformat(str(value))`, for a value that has one. -/
  fromisoformat : Json → Option DateTime
  secret_ne : secret ≠ ""

/-- The capability of `build_manifest`. -/
def HarnessSetup.capability (H : HarnessSetup) : CapabilityDefinition where
  capabilityId := capabilityId
  version := packVersion
  inputSchema := H.inputSchema
  resultProbeRef := resultProbeRef
  accessPolicy := {
    requiredScopeDimensions := {.department, .businessLine}
    roleDimensions := some [
      ("operator",
        {.discover, .readRecord, .requestTransition, .executeTransition, .requestApproval}),
      ("approver", {.discover, .readRecord, .adjudicateApproval})] }

/-- `capability_registry`. -/
def HarnessSetup.registry (H : HarnessSetup) : CapabilityRegistry :=
  ⟨[H.capability], List.nodup_singleton _⟩

/-- The scope of a payment. -/
def paymentScopeOf (paymentIntentId : String) : CapabilityDataScope :=
  ⟨some paymentsDepartmentId, some businessLineId, {paymentIntentId}, .empty⟩

/-- The grants that a requester has for a payment. -/
def HarnessSetup.resolve (H : HarnessSetup) (requester : UserContext) (paymentIntentId : String)
    (now : DateTime) (grantId : String) : Except Raised CapabilityGrantSet :=
  H.registry.resolve {
    user := requester
    tenantId := tenantId
    dataScope := paymentScopeOf paymentIntentId
    installedCapabilityIds := {capabilityId}
    policySnapshotVersion := policyVersion
    resolvedAt := now } fun _ => grantId

/-! ## Bindings -/

section

variable (P : Platform) (H : HarnessSetup)

/-- `action_fingerprint`. -/
def actionFingerprint (taskId stepId : String) (actionPayload : Json)
    (observationHash : String) : String :=
  P.hmac H.secret (P.dumps (.obj [("schema", .str "phase2-action-fingerprint-v1"),
    ("task_id", .str taskId), ("step_id", .str stepId),
    ("observation_hash", .str observationHash), ("action", actionPayload)]))

/-- `_observation_hash`. -/
def observationHash (r : StripePaymentRecord) : String := P.hmac H.secret (P.dumps r.modelDump)

/-- `_action_payload`. -/
def actionPayload (r : StripePaymentRecord) : Json :=
  .obj [("operation", .str capabilityId), ("payment_intent_id", .str r.facts.paymentIntentId),
    ("object_version", .num r.facts.objectVersion), ("status", .str r.status.value)]

/-- `_require_current_bindings`. -/
def requireCurrentBindings (c : StripeSubmissionChallenge) (r : StripePaymentRecord) :
    Except Raised Unit :=
  ensure (observationHash P H r = c.observationHash ∧
      actionFingerprint P H c.contract.taskId c.intent.stepId (actionPayload r)
        (observationHash P H r) = c.intent.actionFingerprint)
    (paymentError "Stripe payment changed after authorization; replan is required")

/-- Raise once a deadline has come. -/
def requireBefore (now : DateTime) (text : String) : Option DateTime → Except Raised Unit
  | none => .ok ()
  | some deadline => do
      let passed ← deadline.le now
      ensure (passed = false) (paymentError text)

/-- The expiry of the grant in a snapshot. -/
def HarnessSetup.grantExpiresAt (snapshot : JsonDict) : Except Raised DateTime := do
  ensure (falsy (snapshot.get "grant_expires_at") = false)
    (paymentError "Stripe authorization snapshot has no grant expiry")
  let expiresAt ← orRaise (H.fromisoformat (snapshot.get "grant_expires_at"))
    (paymentError "Stripe authorization snapshot has an invalid grant expiry")
  pure expiresAt.asUtc

/-- `_require_current_authorization`, with the id that the grant resolved again gets. -/
def requireCurrentAuthorization (c : StripeSubmissionChallenge) (now : DateTime)
    (requester : Option UserContext) (grantId : String) : Except Raised Unit := do
  requireBefore now "Stripe task contract has expired; reauthorization is required"
    c.contract.expiresAt
  let grantExpiresAt ← H.grantExpiresAt c.contract.authorizationSnapshot
  requireBefore now "Stripe capability grant has expired; reauthorization is required"
    (some grantExpiresAt)
  let user ← orRaise
    (requester.or (stripeAccounts.find? fun user => user.userId = c.requesterUserId))
    (paymentError "Stripe requester identity is no longer available")
  ensure (user.userId = c.requesterUserId)
    (paymentError "Stripe requester identity is no longer available")
  ensure (c.contract.authorizationSnapshot.get "principal_id" = .str user.userId ∧
      c.contract.authorizationSnapshot.get "tenant_id" = .str user.orgId)
    (paymentError "Stripe authorization principal snapshot changed")
  let grants ← H.resolve user c.facts.paymentIntentId now grantId
  let currentGrant ← orRaise (grants.grants.find? fun g => g.capabilityId = capabilityId)
    (paymentError "Stripe capability is no longer installed")
  let _ ← (grants.requireExecutable capabilityId currentGrant.grantId now).mapError fun e =>
    if ErrorClass.valueError.caughtBy e then
      paymentError "Stripe requester authorization is no longer executable"
    else e

/-! ## Preparing a challenge -/

/-- The times and ids that `prepare_submission` gets. -/
structure PrepareEnvironment where
  now : DateTime
  grantId : String
  taskId : String
  stepId : String
  contractId : String
  planId : String
  planStepId : String
  workOrderId : String
  intentId : String
  decisionId : String
  challengeId : String

/-- `given or fresh`. -/
def orFresh (given : Option String) (fresh : String) : String :=
  match given with
  | some id => if id = "" then fresh else id
  | none => fresh

/-- `_require_operator`. -/
def requireOperator (requester : UserContext) : Except Raised Unit := do
  ensure (requester.orgId = tenantId)
    (paymentError "Requester is outside the Stripe sandbox tenant")
  ensure (requester.getRoleInDepartment paymentsDepartmentId = some "operator")
    (paymentError "Only the Stripe payments operator may request submission")
  ensure (requester.hasBusinessLine businessLineId)
    (paymentError "Requester lacks the Stripe business-line scope")

/-- `timedelta(minutes=15)`. -/
def contractLifetime : Int := 15 * 60 * DateTime.second

/-- The contract of a payment. -/
def paymentContractOf (env : PrepareEnvironment) (requester : UserContext)
    (facts : StripePaymentFacts) (grant : CapabilityGrant) (taskId contractId : String) :
    Except Raised Admission.TaskContract := do
  let expiresAt ← env.now.add contractLifetime
  pure {
    contractId := contractId
    taskId := taskId
    organizationId := tenantId
    initiatorId := some requester.userId
    servicePrincipalId := none
    departmentId := some paymentsDepartmentId
    businessLineId := some businessLineId
    goal := "Submit one Stripe test-mode payment after independent approval"
    allowedOperations := {capabilityId}
    dataScope := ⟨[("department_id", .str paymentsDepartmentId),
      ("business_line_id", .str businessLineId),
      ("resource_ids", .arr [.str facts.paymentIntentId]), ("attributes", .obj [])], by simp⟩
    authorizationSnapshot := ⟨[("grant_id", .str grant.grantId),
      ("grant_expires_at", .str (P.isoformat grant.expiresAt)),
      ("principal_id", .str requester.userId), ("tenant_id", .str tenantId),
      ("pack_id", .str packId)], by simp⟩
    policyProfile := packId
    policyVersion := policyVersion
    successCriteria := ["Authoritative result probe confirms the submitted payment"]
    expiresAt := some expiresAt
    version := 1
    mode := .enforce }

/-- The step that submits a payment. -/
def paymentStepOf (env : PrepareEnvironment) (facts : StripePaymentFacts)
    (contract : Admission.TaskContract) (grantId : String) : BusinessPlanStep where
  stepId := env.planStepId
  capabilityId := capabilityId
  capabilityVersion := none
  grantId := grantId
  contractId := contract.contractId
  inputs := ⟨[("payment_intent_id", .str facts.paymentIntentId),
    ("customer_id", .ofOption .str facts.customerId), ("amount_minor", .num facts.amountMinor),
    ("currency", .str facts.currency.value), ("description", .str facts.description),
    ("object_version", .num facts.objectVersion)], by simp⟩
  expectedTransition := ⟨[("from", .str "draft"), ("to", .str "submitted"),
    ("version", .num (facts.objectVersion + 1))], by simp⟩
  successCriteria := contract.successCriteria

/-- The work order of that step. -/
def paymentOrderOf (env : PrepareEnvironment) (contract : Admission.TaskContract)
    (step : BusinessPlanStep) : ExecutionWorkOrder where
  workOrderId := env.workOrderId
  businessPlanStepId := step.stepId
  taskId := contract.taskId
  contractId := contract.contractId
  planTaskId := none
  authorityContractId := none
  grantId := step.grantId
  navigationGoal := "Submit only the declared Stripe test-mode payment on the checkout page"
  allowedOperations := {"read", "input", capabilityId}
  prohibitedOperations := {"delete", "change_amount_after_approval"}
  successCriteria := contract.successCriteria
  requiredEvidence := ["canonical_payment_version", "approval", "result_probe"]
  maxRecoveryLevel := .l1
  resultProbeRef := resultProbeRef

/-- The challenge for a draft. -/
def challengeFor (env : PrepareEnvironment) (requester : UserContext) (facts : StripePaymentFacts)
    (grants : CapabilityGrantSet) (grant : CapabilityGrant) (r : StripePaymentRecord)
    (taskId stepId contractId : Option String) : Except Raised StripeSubmissionChallenge := do
  let task := orFresh taskId env.taskId
  let step := orFresh stepId env.stepId
  let contract ← paymentContractOf P env requester facts grant task
    (orFresh contractId env.contractId)
  let planStep := paymentStepOf env facts contract grant.grantId
  let plan : BusinessPlan := ⟨env.planId, none, task, contract.contractId,
    paymentScopeOf facts.paymentIntentId, 1, none, [planStep]⟩
  validateBusinessPlan plan grants env.now
  let workOrder := paymentOrderOf env contract planStep
  validateWorkOrder workOrder plan planStep grants env.now
  let observed := observationHash P H r
  let intent : ActionIntent := ⟨env.intentId, task, step,
    actionFingerprint P H task step (actionPayload r) observed, observed, capabilityId,
    .externalWrite⟩
  let decision ← requireApprovalDecision intent facts env.decisionId
  pure {
    challengeId := env.challengeId
    state := .pendingApproval
    facts := facts
    requesterUserId := requester.userId
    contract := contract
    plan := plan
    workOrder := workOrder
    intent := intent
    observationHash := observed
    decision := decision
    approval := none
    permit := none
    attempt := none
    resultProbe := none }

/-- A program on the store of a harness. -/
def onStore {α : Type} (x : StoreTx α) : HarnessTx α :=
  on Harness.store (fun s h => { h with store := s }) x

/-- `prepare_submission`. -/
def prepareSubmission (env : PrepareEnvironment) (requester : UserContext)
    (facts : StripePaymentFacts) (taskId stepId contractId : Option String) :
    HarnessTx StripeSubmissionChallenge := do
  lift (requireOperator requester)
  let grants ← lift (H.resolve requester facts.paymentIntentId env.now env.grantId)
  let grant ← lift (orRaise grants.grants.head? ⟨.lookupError, "list index out of range"⟩)
  let _ ← lift (grants.requireExecutable capabilityId grant.grantId env.now)
  let r ← onStore (createDraft facts requester.userId)
  let c ← lift (challengeFor P H env requester facts grants grant r taskId stepId contractId)
  write fun h => h.put c.challengeId c
  pure c

/-! ## Deciding an approval -/

/-- `_require_challenge`. -/
def requireChallenge (challengeId : String) : HarnessTx StripeSubmissionChallenge :=
  fetch (fun h => h.challenges challengeId) (paymentError "Stripe challenge does not exist")

/-- Check a challenge, and invalidate it if a `StripePaymentError` says that it is not current. -/
def invalidating (id : String) (c : StripeSubmissionChallenge) (x : Harness → Except Raised Unit) :
    HarnessTx Unit := fun h =>
  match x h with
  | .ok () => .ok () h
  | .error e =>
      if ErrorClass.stripePaymentError.caughtBy e then
        .error e (h.put id { c with state := .invalidated })
      else .error e h

/-- The times and ids that `decide_approval` gets. -/
structure DecideEnvironment where
  now : DateTime
  grantId : String
  decisionId : String
  approvalId : String
  permitId : String

/-- `timedelta(seconds=60)`. -/
def permitLifetime : Int := 60 * DateTime.second

/-- A challenge that was approved. -/
def approveChallenge (env : DecideEnvironment) (c : StripeSubmissionChallenge)
    (requester approver : UserContext) : Except Raised StripeSubmissionChallenge := do
  let decision ← authorizeAfterApproval c.intent c.facts requester approver env.decisionId
  let expiresAt ← env.now.add permitLifetime
  pure { c with
    approval := some ⟨env.approvalId, requester.userId, approver.userId, env.now⟩
    decision := decision
    permit := some {
      permitId := env.permitId
      taskId := c.contract.taskId
      stepId := c.intent.stepId
      actionFingerprint := c.intent.actionFingerprint
      observationId := c.observationHash
      policyDecisionId := decision.decisionId
      issuedAt := env.now
      expiresAt := expiresAt
      usedAt := none }
    state := .ready }

/-- Whether a challenge may be approved now. -/
def currentForDecision (env : DecideEnvironment) (c : StripeSubmissionChallenge)
    (requester : UserContext) (h : Harness) : Except Raised Unit := do
  requireCurrentAuthorization H c env.now (some requester) env.grantId
  let current ← orRaise (h.store.records c.facts.paymentIntentId)
    (paymentError "Stripe PaymentIntent does not exist")
  requireCurrentBindings P H c current

/-- `decide_approval`. -/
def decideApproval (env : DecideEnvironment) (challengeId : String)
    (requester approver : UserContext) (approved : Bool) :
    HarnessTx StripeSubmissionChallenge := do
  let c ← requireChallenge challengeId
  require (c.state = .pendingApproval)
    (paymentError "Stripe challenge is not awaiting approval")
  require (requester.userId = c.requesterUserId)
    (paymentError "Requester identity does not match the challenge snapshot")
  if approved then
    invalidating challengeId c (currentForDecision P H env c requester)
    let decided ← lift (approveChallenge env c requester approver)
    write fun h => h.put challengeId decided
    pure decided
  else
    write fun h => h.put challengeId { c with state := .rejected }
    pure { c with state := .rejected }

/-! ## Executing a submission -/

/-- The times and ids that `execute_submission` and `resolve_unknown` get. -/
structure ExecuteEnvironment where
  now : DateTime
  grantId : String
  attemptId : String
  probedAt : DateTime
  finishedAt : DateTime

/-- A challenge with a result. -/
inductive FinalState where
  | confirmed | failed | unknown

/-- The state a result leads to. -/
def FinalState.state : FinalState → ChallengeState
  | .confirmed => .confirmed
  | .failed => .failed
  | .unknown => .unknown

/-- The status a result gives its attempt. -/
def FinalState.status : FinalState → ExecutionAttemptStatus
  | .confirmed => .confirmed
  | .failed => .failed
  | .unknown => .unknown

/-- A challenge whose attempt has ended. -/
def StripeSubmissionChallenge.finished (c : StripeSubmissionChallenge) (attempt : ExecutionAttempt)
    (final : FinalState) (evidence : ResultProbeEvidence) (finishedAt : DateTime)
    (errorMessage : Option String) : StripeSubmissionChallenge :=
  { c with
    state := final.state
    resultProbe := some evidence
    attempt := some { attempt with
      status := final.status
      completedAt := some finishedAt
      resultProbe := some evidence
      errorMessage := errorMessage } }

/-- `_finish`. -/
def finish (id : String) (c : StripeSubmissionChallenge) (final : FinalState)
    (evidence : ResultProbeEvidence) (finishedAt : DateTime) (errorMessage : Option String) :
    HarnessTx StripeSubmissionChallenge := do
  let attempt ← lift (orRaise c.attempt (paymentError "Stripe attempt is missing"))
  let finished := c.finished attempt final evidence finishedAt errorMessage
  write fun h => h.put id finished
  pure finished

/-- The permit and the approval of a challenge that can be executed. -/
def StripeSubmissionChallenge.executable (c : StripeSubmissionChallenge) :
    Except Raised (ExecutionPermit × StripeApproval) :=
  match c.state, c.permit, c.approval with
  | .ready, some permit, some approval => .ok (permit, approval)
  | _, _, _ => .error (paymentError "Stripe challenge has no executable approval and permit")

/-- The key that a challenge is submitted under. -/
def idempotencyKey (challengeId : String) : String := "stripe:" ++ challengeId

/-- A challenge whose permit is used and whose attempt executes. -/
def StripeSubmissionChallenge.executing (c : StripeSubmissionChallenge)
    (env : ExecuteEnvironment) (permit : ExecutionPermit) : StripeSubmissionChallenge :=
  { c with
    permit := some { permit with usedAt := some env.now }
    attempt := some {
      attemptId := env.attemptId
      taskId := c.contract.taskId
      stepId := c.intent.stepId
      contractId := c.contract.contractId
      actionFingerprint := c.intent.actionFingerprint
      observationHash := c.observationHash
      idempotencyKey := idempotencyKey c.challengeId
      status := .executing
      startedAt := env.now
      completedAt := none
      resultProbe := none
      errorMessage := none } }

/-- The submission of a challenge. -/
def StripeSubmissionChallenge.submission (c : StripeSubmissionChallenge)
    (approval : StripeApproval) (outcome : StripeOutcome) (faultMode : StripeFaultMode) :
    Submission where
  paymentIntentId := c.facts.paymentIntentId
  expectedVersion := c.facts.objectVersion
  approvalId := approval.approvalId
  idempotencyKey := idempotencyKey c.challengeId
  outcome := outcome
  faultMode := faultMode
  version_pos := c.facts.version_pos

/-- The state that a probe after a submission leads to. -/
def finalState (evidence : ResultProbeEvidence) : FinalState :=
  if evidence.status = .confirmed then .confirmed else .unknown

/-- Submit an executing challenge, and finish it with what the probe says. -/
def submitAndFinish (env : ExecuteEnvironment) (id : String) (c : StripeSubmissionChallenge)
    (x : Submission) : HarnessTx StripeSubmissionChallenge := fun h =>
  let evidence (s : StripePaymentStore) : ResultProbeEvidence :=
    s.probe P env.probedAt x.paymentIntentId x.idempotencyKey
  match submit x h.store with
  | .ok _ s => finish id c (finalState (evidence s)) (evidence s) env.finishedAt none
      { h with store := s }
  | .error e s =>
      if ErrorClass.definiteSubmissionFailure.caughtBy e then
        finish id c .failed (evidence s) env.finishedAt (some e.text) { h with store := s }
      else if ErrorClass.ambiguousSubmissionFailure.caughtBy e then
        finish id c (finalState (evidence s)) (evidence s) env.finishedAt (some e.text)
          { h with store := s }
      else .error e { h with store := s }

/-- Whether a challenge may be executed now. -/
def currentForExecution (env : ExecuteEnvironment) (c : StripeSubmissionChallenge)
    (current : StripePaymentRecord) : Except Raised Unit := do
  requireCurrentAuthorization H c env.now none env.grantId
  requireCurrentBindings P H c current

/-- Whether the permit of a challenge matches its intent. -/
def requirePermit (env : ExecuteEnvironment) (c : StripeSubmissionChallenge)
    (permit : ExecutionPermit) : Except Raised Unit := do
  let admitted ← permit.admits c.intent.actionFingerprint c.observationHash env.now
  ensure (admitted = true)
    (paymentError "Stripe permit is expired, consumed, or binding-mismatched")

/-- `execute_submission`. -/
def executeSubmission (env : ExecuteEnvironment) (challengeId : String)
    (faultMode : StripeFaultMode) (outcome : StripeOutcome) :
    HarnessTx StripeSubmissionChallenge := do
  let c ← requireChallenge challengeId
  let (permit, approval) ← lift c.executable
  let current ← onStore (requireRecord c.facts.paymentIntentId)
  invalidating challengeId c fun _ => currentForExecution P H env c current
  invalidating challengeId c fun _ => requirePermit env c permit
  write fun h => h.put challengeId (c.executing env permit)
  submitAndFinish P env challengeId (c.executing env permit)
    (c.submission approval outcome faultMode)

/-- What a probe makes of an unknown challenge. -/
def resolveWith (env : ExecuteEnvironment) (id : String) (c : StripeSubmissionChallenge)
    (evidence : ResultProbeEvidence) : HarnessTx StripeSubmissionChallenge :=
  match evidence.status with
  | .confirmed => finish id c .confirmed evidence env.finishedAt none
  | .notConfirmed => finish id c .failed evidence env.finishedAt
      (some "Result probe confirmed no submission")
  | .unknown => do
      write fun h => h.put id { c with resultProbe := some evidence }
      pure { c with resultProbe := some evidence }

/-- `resolve_unknown`. -/
def resolveUnknown (env : ExecuteEnvironment) (challengeId : String) :
    HarnessTx StripeSubmissionChallenge := do
  let c ← requireChallenge challengeId
  require (c.state = .unknown) (paymentError "Only an unknown Stripe attempt can be probed")
  let attempt ← lift (orRaise c.attempt
    (paymentError "Only an unknown Stripe attempt can be probed"))
  let evidence ← read fun h =>
    h.store.probe P env.probedAt c.facts.paymentIntentId attempt.idempotencyKey
  resolveWith env challengeId c evidence

/-! ## Calls in any order -/

/-- A call of the harness, or the end of a fault of the probe. -/
inductive HarnessCall where
  | prepareSubmission (env : PrepareEnvironment) (requester : UserContext)
      (facts : StripePaymentFacts) (taskId stepId contractId : Option String)
  | decideApproval (env : DecideEnvironment) (challengeId : String)
      (requester approver : UserContext) (approved : Bool)
  | executeSubmission (env : ExecuteEnvironment) (challengeId : String)
      (faultMode : StripeFaultMode) (outcome : StripeOutcome)
  | resolveUnknown (env : ExecuteEnvironment) (challengeId : String)
  | clearProbeFault (paymentIntentId : String)

/-- What a call does. -/
def HarnessCall.run : HarnessCall → HarnessTx (Option StripeSubmissionChallenge)
  | .prepareSubmission env requester facts taskId stepId contractId =>
      some <$> Stripe.prepareSubmission P H env requester facts taskId stepId contractId
  | .decideApproval env challengeId requester approver approved =>
      some <$> Stripe.decideApproval P H env challengeId requester approver approved
  | .executeSubmission env challengeId faultMode outcome =>
      some <$> Stripe.executeSubmission P H env challengeId faultMode outcome
  | .resolveUnknown env challengeId => some <$> Stripe.resolveUnknown P env challengeId
  | .clearProbeFault paymentIntentId => do
      write fun h => { h with store := h.store.clearProbeFault paymentIntentId }
      pure none

/-- A call, whether it returned or raised. -/
def HarnessStep (call : HarnessCall) (h h' : Harness) : Prop := h' = left (call.run P H h)

end

/-- `uuid4` gives a challenge an id that no challenge has. -/
def freshChallenge (h : Harness) : HarnessCall → Prop
  | .prepareSubmission env _ _ _ _ _ => h.challenges env.challengeId = none
  | _ => True

end Stripe

end AgentPact
