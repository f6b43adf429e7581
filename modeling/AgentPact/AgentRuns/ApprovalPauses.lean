import AgentPact.AgentRuns.Service

/-!
# Approval pauses

How a step is paused for an approval (`governance/pending_action_service.py`,
`governance/approval_orchestrator.py`, `governance/approval_pause_service.py`
and `AgentRunService._pause_for_approval`).

A pause is one transaction.  It adds a pending action and the approval request
it waits for, pauses the native pair, and appends to the journal.
-/

namespace AgentPact

open Base Transaction

/-! ## Creating a pending action -/

namespace Database

/-- Add a pending action. -/
def insertPending? (db : Database) (row : PendingActionModel) : Option Database :=
  (db.pendingActions.insert? row).map fun t => { db with pendingActions := t }

/-- Add an approval request. -/
def insertApproval? (db : Database) (row : ApprovalRequestModel) : Option Database :=
  (db.approvals.insert? row).map fun t => { db with approvals := t }

/-- Change a pending action, if that breaks no constraint. -/
def rewritePending? (db : Database) (pendingActionId : String)
    (f : PendingActionModel → PendingActionModel) : Option Database :=
  (db.pendingActions.rewrite? pendingActionId f).map fun t => { db with pendingActions := t }

/-- The pending actions of a step. -/
def pendingActionsOf (db : Database) (taskId stepId : String) : List PendingActionModel :=
  db.pendingActions.select fun m => m.taskId = taskId && m.stepId = stepId

end Database

/-- A `PendingActionError`. -/
def pendingActionError (text : String) : Raised := ⟨.pendingActionError, text⟩

/-- What a pending action is created from.  The key is generated. -/
structure PendingActionRequest where
  pendingActionId : String
  taskId : String
  stepId : String
  organizationId : String
  observationHash : String
  decision : PolicyDecision
  ttlSeconds : Int
  now : DateTime

/-- `create_pending_action`. -/
def createPendingAction (r : PendingActionRequest) : AgentRunTx PendingActionModel := do
  require (r.decision.outcome = .requireApproval)
    (pendingActionError "Only approval-required decisions can create pending actions")
  require (0 < r.ttlSeconds) (pendingActionError "Pending action TTL must be positive")
  require (r.observationHash ≠ "")
    (pendingActionError "Pending action requires an observation hash")
  let existing ← read fun db =>
    (db.pendingActionsOf r.taskId r.stepId).find? fun m => m.status.unresolved
  require (existing = none) (pendingActionError "Task step already has a pending approval action")
  let expiresAt ← lift (r.now.add (r.ttlSeconds * DateTime.second))
  let model : PendingActionModel :=
    { pendingActionId := r.pendingActionId
      taskId := r.taskId
      stepId := r.stepId
      organizationId := r.organizationId
      approvalId := none
      status := .pending
      rowVersion := 1
      expiresAt := expiresAt.bind }
  write? (·.insertPending? model) ⟨.integrityError, "pending_actions"⟩
  pure model

/-- The row with an approval request linked to it. -/
def PendingActionModel.attach (approvalId : String) (m : PendingActionModel) : PendingActionModel :=
  { m with approvalId := some approvalId, rowVersion := m.rowVersion + 1 }

/-- `attach_approval`. -/
def attachApproval (pendingActionId approvalId : String) (expectedRowVersion : Nat)
    (now : DateTime) : AgentRunTx PendingActionModel := do
  require (approvalId ≠ "") (pendingActionError "Approval id is required")
  let model ← getForUpdate pendingActionId
  requirePending model expectedRowVersion now
  require (model.approvalId = none)
    (pendingActionError "Pending action already has an approval request")
  write? (·.rewritePending? pendingActionId (PendingActionModel.attach approvalId))
    ⟨.integrityError, "pending_actions"⟩
  pure (model.attach approvalId)

/-! ## Pausing a step -/

/-- `pause_for_approval`. -/
def pauseForApproval (taskId stepId organizationId : String) (action : PendingActionModel) :
    AgentRunTx ApprovalPauseState := do
  require (action.taskId = taskId ∧ action.stepId = stepId)
    ⟨.approvalPauseError, "Pending action does not belong to this task step"⟩
  require (action.status = .pending)
    ⟨.approvalPauseError, "Pending action is not in a pause-compatible state"⟩
  let (task, step) ← loadTaskAndStep taskId stepId organizationId
  require (task.status = .running ∧ step.status = .running)
    ⟨.approvalPauseError, "Only running task and step can enter pending approval"⟩
  write (·.setNativeStatus taskId stepId .pendingApproval .pendingApproval)
  pure ⟨taskId, stepId, .pendingApproval, .pendingApproval, action⟩

/-- The arguments of a pause, with the keys that are generated and the times that are read. -/
structure ApprovalPauseRequest where
  pendingActionId : String
  approvalId : String
  taskId : String
  stepId : String
  organizationId : String
  sourceDepartmentId : String
  observationHash : String
  decision : PolicyDecision
  approverDepartmentId : Option String
  requesterUserId : Option String
  ttlSeconds : Int
  createdAt : DateTime
  attachedAt : DateTime

/-- `create_pending_action` for a pause. -/
def ApprovalPauseRequest.pending (r : ApprovalPauseRequest) : PendingActionRequest :=
  ⟨r.pendingActionId, r.taskId, r.stepId, r.organizationId, r.observationHash, r.decision,
    r.ttlSeconds, r.createdAt⟩

/-- `build_approval_request`. -/
def ApprovalPauseRequest.approval (r : ApprovalPauseRequest) : ApprovalRequestModel where
  approvalId := r.approvalId
  taskId := r.taskId
  organizationId := r.organizationId
  requesterUserId := r.requesterUserId
  approverDepartmentId := (r.approverDepartmentId.filter (· ≠ "")).getD r.sourceDepartmentId
  status := .pending
  approverUserId := none
  decisionNote := none
  decidedAt := none

/-- `create_approval_pause`. -/
def createApprovalPause (r : ApprovalPauseRequest) : AgentRunTx ApprovalPauseState := do
  let created ← createPendingAction r.pending
  write? (·.insertApproval? r.approval) ⟨.integrityError, "approval_requests"⟩
  let action ← attachApproval created.pendingActionId r.approvalId created.rowVersion r.attachedAt
  pauseForApproval r.taskId r.stepId r.organizationId action

/-! ## Pausing a run -/

/-- What a Pack asks an approval for. -/
structure ApprovalRequestSpecification where
  taskId : String
  stepId : String
  contractId : String
  organizationId : String
  intentId : String
  observationHash : String
  requestedApprovalRoute : String
  sourceDepartmentId : String
  riskLevel : RiskLevel
  effect : String
  expiresAt : DateTime
  /-- The decision it carries as a document, if that is one. -/
  policyDecision : Option PolicyDecision

/-- `text.rpartition(":")`, if there is a colon. -/
def rpartition (text : String) : Option (String × String) :=
  match text.toList.reverse.span (· ≠ ':') with
  | (after, _ :: before) => some (String.ofList before.reverse, String.ofList after.reverse)
  | (_, []) => none

/-- The effects an action can have. -/
def ExecutionEffect.members : List ExecutionEffect := [.none, .read, .internalWrite, .externalWrite]

/-- The arguments of a pause of a run, with the keys that are generated and the times that are
read. -/
structure RunApprovalPause where
  prepared : PreparedRunReference
  specification : ApprovalRequestSpecification
  operationKey : String
  pendingActionId : String
  approvalId : String
  ttlReadAt : DateTime
  createdAt : DateTime
  attachedAt : DateTime
  appendedAt : DateTime

namespace RunApprovalPause

variable (r : RunApprovalPause)

/-- The specification is about the active step, and the reference about the run of the bundle. -/
def fits (active : GovernedPlanStepRef) (bundle : TaskAdmissionBundle)
    (binding : PackRuntimeBinding) : Bool :=
  active.nativeTaskId = r.specification.taskId && active.nativeStepId = r.specification.stepId &&
    active.nativeContractId = r.specification.contractId &&
    r.prepared.admissionId = some bundle.admissionId &&
    r.prepared.contractId = some bundle.contractId && r.prepared.tenantId = bundle.tenantId &&
    r.prepared.requestId = bundle.requestId && r.prepared.providerMode = bundle.providerMode &&
    r.prepared.packId = binding.packId && r.prepared.packVersion = binding.packVersion &&
    r.prepared.adapterId = binding.adapterId

/-- `max(1, int((expires_at - now).total_seconds()))`. -/
def ttlSeconds : Except Raised Int :=
  (r.specification.expiresAt.sub r.ttlReadAt).map fun d => max 1 (d.tdiv DateTime.second)

/-- The pause of the step. -/
def pause (decision : PolicyDecision) (department : String) (bundle : TaskAdmissionBundle)
    (ttl : Int) : ApprovalPauseRequest where
  pendingActionId := r.pendingActionId
  approvalId := r.approvalId
  taskId := r.specification.taskId
  stepId := r.specification.stepId
  organizationId := r.specification.organizationId
  sourceDepartmentId := r.specification.sourceDepartmentId
  observationHash := r.specification.observationHash
  decision := decision
  approverDepartmentId := some department
  requesterUserId := some bundle.principalRef
  ttlSeconds := ttl
  createdAt := r.createdAt
  attachedAt := r.attachedAt

/-- The append of the pause. -/
def append (current : GovernedPlanCheckpoint) (latest : PlanJournalEvent) : AppendRequest where
  organizationId := r.prepared.tenantId
  checkpoint := { current with state := .approvalRequired }
  transition := .approvalRequired
  authorityDigests := latest.authorityDigests
  operationKey := r.operationKey
  createdAt := r.appendedAt

end RunApprovalPause

/-- `AgentRunService._pause_for_approval`. -/
def pauseRunForApproval (P : Platform) (r : RunApprovalPause) :
    AgentRunTx GovernedPlanCheckpoint := do
  let (department, role) ← lift
    (orAgentRunError "STATE_CONFLICT" (rpartition r.specification.requestedApprovalRoute))
  require (department ≠ "" ∧ role ≠ "") (agentRunError "STATE_CONFLICT")
  atomic do
    let root ← fetch (·.getRoot r.prepared.runId r.prepared.tenantId) (agentRunError "STATE_CONFLICT")
    require (isPlanApplicationMarker root.application = true) (agentRunError "STATE_CONFLICT")
    let admission ← fetch (·.admissionOf r.prepared.runId r.prepared.tenantId)
      ⟨.noResultFound, "governed_task_admissions"⟩
    let bundle := admission.bundlePayload
    let events ← read (·.loadEvents r.prepared.runId)
    let current ← lift (replayPlanJournal P events)
    let binding ← lift (bindingForBundle bundle)
    let active ← lift (orAgentRunError "STATE_CONFLICT" current.activeStep)
    require (r.fits active bundle binding = true) (agentRunError "STATE_CONFLICT")
    let decision ← fetch (fun _ => r.specification.policyDecision)
      ⟨.validationError, "PolicyDecision"⟩
    require (decision.intentId = r.specification.intentId ∧
        decision.riskLevel = r.specification.riskLevel ∧
        r.specification.organizationId = r.prepared.tenantId) (agentRunError "STATE_CONFLICT")
    require (∃ effect ∈ ExecutionEffect.members, effect.value = r.specification.effect)
      ⟨.valueError, "ExecutionEffect"⟩
    let ttl ← lift r.ttlSeconds
    let _ ← createApprovalPause (r.pause decision department bundle ttl)
    let latest ← fetch (fun _ => events.getLast?) ⟨.lookupError, "tuple index out of range"⟩
    appendAgentRunTransition P (r.append current latest)

/-! ## What a pause writes -/

theorem createPendingAction_eq_ok {r : PendingActionRequest} {s t : Database}
    {m : PendingActionModel} (h : createPendingAction r s = .ok m t) :
    (∀ x ∈ s.pendingActionsOf r.taskId r.stepId, x.status.unresolved = false) ∧
      ∃ expiresAt : DateTime, m = ⟨r.pendingActionId, r.taskId, r.stepId, r.organizationId, none,
          .pending, 1, expiresAt.bind⟩ ∧
        ∃ pendingActions, s.pendingActions.insert? m = some pendingActions ∧
          t = { s with pendingActions := pendingActions } := by
  simp only [createPendingAction, bind_eq_ok, require_eq_ok, read_eq_ok, lift_eq_ok,
    write?_eq_ok] at h
  obtain ⟨_, _, ⟨_, rfl⟩, _, _, ⟨_, rfl⟩, _, _, ⟨_, rfl⟩, _, _, ⟨rfl, rfl⟩, _, _, ⟨hfree, rfl⟩,
    expiresAt, _, ⟨_, rfl⟩, _, _, hinsert, hpure⟩ := h
  cases hpure
  obtain ⟨pendingActions, hrow, rfl⟩ := Option.map_eq_some_iff.mp hinsert
  refine ⟨fun x hx => ?_, expiresAt, rfl, pendingActions, hrow, rfl⟩
  simpa using List.find?_eq_none.mp hfree x hx

theorem attachApproval_eq_ok {id approvalId : String} {version : Nat} {now : DateTime}
    {s t : Database} {m : PendingActionModel}
    (h : attachApproval id approvalId version now s = .ok m t) :
    approvalId ≠ "" ∧ ∃ model pendingActions, s.pendingActions.find? id = some model ∧
      model.status = .pending ∧ model.rowVersion = version ∧ now.bind ≤ model.expiresAt ∧
      model.approvalId = none ∧
      s.pendingActions.rewrite? id (PendingActionModel.attach approvalId) = some pendingActions ∧
      t = { s with pendingActions := pendingActions } ∧ m = model.attach approvalId := by
  simp only [attachApproval, getForUpdate, bind_eq_ok, require_eq_ok, fetch_eq_ok,
    requirePending_eq_ok, write?_eq_ok] at h
  obtain ⟨_, _, ⟨hid, rfl⟩, model, _, ⟨hfind, rfl⟩, _, _, ⟨hstatus, hversion, hle, rfl⟩, _, _,
    ⟨hnone, rfl⟩, _, _, hwrite, hpure⟩ := h
  cases hpure
  obtain ⟨pendingActions, hrewrite, rfl⟩ := Option.map_eq_some_iff.mp hwrite
  exact ⟨hid, model, pendingActions, hfind, hstatus, hversion, hle, hnone, hrewrite, rfl, rfl⟩

theorem pauseForApproval_eq_ok {taskId stepId organizationId : String}
    {action : PendingActionModel} {s t : Database} {r : ApprovalPauseState}
    (h : pauseForApproval taskId stepId organizationId action s = .ok r t) :
    (∃ task step, s.task? taskId organizationId = some task ∧ task.status = .running ∧
      s.step? stepId taskId organizationId = some step ∧ step.status = .running) ∧
      t = s.setNativeStatus taskId stepId .pendingApproval .pendingApproval := by
  simp only [pauseForApproval, loadTaskAndStep, bind_eq_ok, require_eq_ok, fetch_eq_ok,
    write_eq_ok, Option.bind_eq_some_iff, Option.map_eq_some_iff] at h
  obtain ⟨_, _, ⟨_, rfl⟩, _, _, ⟨_, rfl⟩, ⟨task, step⟩, _, ⟨⟨_, htask, _, hstep, hpair⟩, rfl⟩, _, _,
    ⟨⟨htaskStatus, hstepStatus⟩, rfl⟩, _, _, rfl, hpure⟩ := h
  cases hpair
  cases hpure
  exact ⟨⟨_, _, htask, htaskStatus, hstep, hstepStatus⟩, rfl⟩

/-- The pending action of a pause. -/
structure ApprovalPauseRequest.Adds (r : ApprovalPauseRequest) (row : PendingActionModel) : Prop where
  pendingActionId : row.pendingActionId = r.pendingActionId
  taskId : row.taskId = r.taskId
  stepId : row.stepId = r.stepId
  organizationId : row.organizationId = r.organizationId
  approvalId : row.approvalId = some r.approvalId
  status : row.status = .pending

/-- What a pause of a step found, and what it left. -/
structure PausedStep (r : ApprovalPauseRequest) (s t : Database) (row : PendingActionModel) :
    Prop where
  unresolved : ∀ x ∈ s.pendingActionsOf r.taskId r.stepId, x.status.unresolved = false
  approvalId : r.approvalId ≠ ""
  running : ∃ task step, s.task? r.taskId r.organizationId = some task ∧ task.status = .running ∧
    s.step? r.stepId r.taskId r.organizationId = some step ∧ step.status = .running
  adds : r.Adds row
  pendingActions : t.pendingActions.rows = s.pendingActions.rows ++ [row]
  approvals : s.approvals.insert? r.approval = some t.approvals
  same : t = { s.setNativeStatus r.taskId r.stepId .pendingApproval .pendingApproval with
    pendingActions := t.pendingActions
    approvals := t.approvals }

/-- A pause adds a pending action linked to an approval request, and pauses the native pair. -/
theorem createApprovalPause_eq_ok {r : ApprovalPauseRequest} {s t : Database}
    {p : ApprovalPauseState} (h : createApprovalPause r s = .ok p t) :
    ∃ row, PausedStep r s t row := by
  simp only [createApprovalPause, bind_eq_ok, write?_eq_ok] at h
  obtain ⟨created, _, hcreate, _, _, hinsert, action, _, hattach, hpause⟩ := h
  obtain ⟨hunresolved, expiresAt, hcreated, created', hrow, rfl⟩ :=
    createPendingAction_eq_ok hcreate
  obtain ⟨approvals, happroval, rfl⟩ := Option.map_eq_some_iff.mp hinsert
  obtain ⟨hid, model, attached, hmodel, hstatus, hversion, hle, hnone, hrewrite, rfl, rfl⟩ :=
    attachApproval_eq_ok hattach
  obtain ⟨hrunning, rfl⟩ := pauseForApproval_eq_ok hpause
  have hrows : attached.rows = s.pendingActions.rows ++ [created.attach r.approvalId] :=
    Table.rewrite?_insert? hrow hrewrite
  subst hcreated
  exact ⟨_, hunresolved, hid, hrunning, ⟨rfl, rfl, rfl, rfl, rfl, rfl⟩, hrows, happroval, rfl⟩

/-- What a pause of a run found, and what it left. -/
structure PausedRun (P : Platform) (r : RunApprovalPause) (s u t : Database) (root : TaskModel)
    (bundle : TaskAdmissionBundle) (current : GovernedPlanCheckpoint) (latest : PlanJournalEvent)
    (active : GovernedPlanStepRef) (pause : ApprovalPauseRequest) (row : PendingActionModel)
    (c : GovernedPlanCheckpoint) : Prop where
  getRoot : s.getRoot r.prepared.runId r.prepared.tenantId = some root
  marker : isPlanApplicationMarker root.application = true
  admission : (s.admissionOf r.prepared.runId r.prepared.tenantId).map (·.bundlePayload) = some bundle
  binding : bundle.runtimeBinding.isSome
  replay : replayPlanJournal P (s.loadEvents r.prepared.runId) = .ok current
  getLast : (s.loadEvents r.prepared.runId).getLast? = some latest
  activeStep : current.activeStep = some active
  step : pause.taskId = active.nativeTaskId ∧ pause.stepId = active.nativeStepId
  organizationId : pause.organizationId = r.prepared.tenantId
  requesterUserId : pause.requesterUserId = some bundle.principalRef
  paused : PausedStep pause s u row
  appended : appendAgentRunTransition P (r.append current latest) u = .ok c t

/-- A pause of a run pauses its active step, and appends to the journal. -/
theorem pauseRunForApproval_eq_ok {P : Platform} {r : RunApprovalPause} {s t : Database}
    {c : GovernedPlanCheckpoint} (h : pauseRunForApproval P r s = .ok c t) :
    ∃ u root bundle current latest active pause row,
      PausedRun P r s u t root bundle current latest active pause row c := by
  obtain ⟨⟨department, role⟩, _, h⟩ := lift_bind_eq_ok.mp h
  obtain ⟨_, h⟩ := require_bind_eq_ok.mp h
  obtain ⟨root, hroot, h⟩ := fetch_bind_eq_ok.mp (atomic_eq_ok.mp h)
  obtain ⟨hmarker, h⟩ := require_bind_eq_ok.mp h
  obtain ⟨admission, hadmission, h⟩ := fetch_bind_eq_ok.mp h
  rw [read_bind] at h
  obtain ⟨current, hreplay, h⟩ := lift_bind_eq_ok.mp h
  obtain ⟨binding, hbinding, h⟩ := lift_bind_eq_ok.mp h
  obtain ⟨active, hactive, h⟩ := lift_bind_eq_ok.mp h
  obtain ⟨hfits, h⟩ := require_bind_eq_ok.mp h
  obtain ⟨decision, _, h⟩ := fetch_bind_eq_ok.mp h
  obtain ⟨⟨_, _, horganization⟩, h⟩ := require_bind_eq_ok.mp h
  obtain ⟨_, h⟩ := require_bind_eq_ok.mp h
  obtain ⟨ttl, _, h⟩ := lift_bind_eq_ok.mp h
  obtain ⟨p, u, hcreate, h⟩ := bind_eq_ok.mp h
  obtain ⟨latest, hlatest, happend⟩ := fetch_bind_eq_ok.mp h
  obtain ⟨row, hpaused⟩ := createApprovalPause_eq_ok hcreate
  simp only [RunApprovalPause.fits, Bool.and_eq_true, decide_eq_true_eq] at hfits
  exact ⟨_, root, _, current, latest, active, _, row,
    { getRoot := hroot
      marker := hmarker
      admission := by rw [hadmission]; rfl
      binding := by rw [orAgentRunError_eq_ok.mp hbinding]; rfl
      replay := hreplay
      getLast := hlatest
      activeStep := orAgentRunError_eq_ok.mp hactive
      step := ⟨hfits.1.1.1.1.1.1.1.1.1.1.symm, hfits.1.1.1.1.1.1.1.1.1.2.symm⟩
      organizationId := horganization
      requesterUserId := rfl
      paused := hpaused
      appended := happend }⟩

/-- A pause that is refused leaves everything as it was. -/
theorem pauseRunForApproval_clean (P : Platform) (r : RunApprovalPause) :
    Clean (pauseRunForApproval P r) :=
  .bind_keeps (fun _ => .lift _) fun _ => .bind_keeps (fun _ => .require _ _) fun _ => .atomic _

end AgentPact
