import Mathlib.Data.List.Sort
import AgentPact.AgentRuns.Journal
import AgentPact.AgentRuns.PauseSignal
import AgentPact.Governance.Attempts
import AgentPact.Governance.PackRuntime

/-!
# The database behind agent runs

The rows that an agent run is spread over, and what
`integrations/skyvern_agent_run_store.py` reads and writes of them.

The journal of a run and its pauses are rows of one audit table, told apart by
their payload.  Permits and attempts are in the store that the execution
services use.

A native task and its step come and go together, so the two are read as one
optional pair.  A status column whose text is no status reads as `unknown`.
-/

namespace AgentPact

open Base Transaction

/-! ## Rows -/

/-- The status of a native task. -/
inductive AgentRunTaskStatus where
  | unknown | created | queued | running | pendingApproval | resuming | needsHuman
  | pendingResultProbe | timedOut | failed | terminated | completed | canceled
deriving DecidableEq, Repr

/-- The status of a native step. -/
inductive AgentRunStepStatus where
  | unknown | created | running | pendingApproval | resuming | needsHuman | pendingResultProbe
  | failed | completed | canceled
deriving DecidableEq, Repr

/-- A row of `tasks`. -/
structure TaskModel where
  taskId : String
  organizationId : String
  status : AgentRunTaskStatus
  application : Option String
deriving DecidableEq

/-- A row of `steps`. -/
structure StepModel where
  stepId : String
  taskId : String
  organizationId : String
  status : AgentRunStepStatus
deriving DecidableEq

/-- The records a run was admitted with. -/
structure TaskAdmissionBundle where
  providerMode : String
  runtimeBinding : Option PackRuntimeBinding
  admissionId : String
  taskId : String
  contractId : String
  tenantId : String
  requestId : String
  capabilityRef : String
  principalRef : String
deriving DecidableEq

/-- A row of `governed_task_admissions`. -/
structure GovernedTaskAdmissionModel where
  admissionId : String
  organizationId : String
  requestId : String
  taskId : String
  bundlePayload : TaskAdmissionBundle
deriving DecidableEq

/-- The payload of an audit row. -/
inductive AuditPayload where
  /-- An event of a plan journal. -/
  | journal (event : PlanJournalEvent)
  /-- A pause at a checkpoint. -/
  | pause (runId : String) (checkpointDigest : Digest) (signal : RunPauseSignal)
  /-- The resolution of a pause. -/
  | pauseResolved (runId : String) (pauseEventId : String)
  | other
deriving DecidableEq

/-- A row of `governance_audit_events`. -/
structure GovernanceAuditEventModel where
  eventId : String
  taskId : String
  organizationId : String
  payload : AuditPayload
  createdAt : Stamp
deriving DecidableEq

/-- The status of a pending action. -/
inductive PendingActionStatus where
  | pending | approved | rejected | expired | invalidated
deriving DecidableEq, Repr

/-- A row of `pending_actions`. -/
structure PendingActionModel where
  pendingActionId : String
  taskId : String
  stepId : String
  organizationId : String
  approvalId : Option String
  status : PendingActionStatus
  rowVersion : Nat
  expiresAt : Stamp
deriving DecidableEq

/-- The status of an approval request. -/
inductive ApprovalStatus where
  | pending | approved | rejected | timeout
deriving DecidableEq, Repr

/-- A row of `approval_requests`. -/
structure ApprovalRequestModel where
  approvalId : String
  taskId : String
  organizationId : String
  requesterUserId : Option String
  approverDepartmentId : String
  status : ApprovalStatus
  approverUserId : Option String
  decisionNote : Option String
  decidedAt : Option Stamp
deriving DecidableEq

instance : Schema TaskModel String where
  key r := r.taskId
  clash a b := a.taskId = b.taskId
  clash_of_key h := by simpa using h
  clash_symm h := by simpa [eq_comm] using h

instance : Schema StepModel String where
  key r := r.stepId
  clash a b := a.stepId = b.stepId
  clash_of_key h := by simpa using h
  clash_symm h := by simpa [eq_comm] using h

/-- The unique constraints of `governed_task_admissions`. -/
def GovernedTaskAdmissionModel.clash (a b : GovernedTaskAdmissionModel) : Bool :=
  a.admissionId = b.admissionId ||
    (a.organizationId = b.organizationId && (a.requestId = b.requestId || a.taskId = b.taskId))

instance : Schema GovernedTaskAdmissionModel String where
  key r := r.admissionId
  clash := GovernedTaskAdmissionModel.clash
  clash_of_key h := by simp [GovernedTaskAdmissionModel.clash, h]
  clash_symm {a b} h := by
    simp only [GovernedTaskAdmissionModel.clash, Bool.or_eq_true, Bool.and_eq_true,
      decide_eq_true_eq] at h ⊢
    rcases h with h | ⟨ho, h | h⟩
    · exact .inl h.symm
    · exact .inr ⟨ho.symm, .inl h.symm⟩
    · exact .inr ⟨ho.symm, .inr h.symm⟩

instance : Schema GovernanceAuditEventModel String where
  key r := r.eventId
  clash a b := a.eventId = b.eventId
  clash_of_key h := by simpa using h
  clash_symm h := by simpa [eq_comm] using h

/-- Whether a pending action still waits, for `uq_pending_action_active_step`. -/
def PendingActionStatus.unresolved : PendingActionStatus → Bool
  | .pending | .approved => true
  | _ => false

/-- The unique constraints of `pending_actions`. -/
def PendingActionModel.clash (a b : PendingActionModel) : Bool :=
  a.pendingActionId = b.pendingActionId || bothEqual a.approvalId b.approvalId ||
    (a.taskId = b.taskId && a.stepId = b.stepId && a.status.unresolved && b.status.unresolved)

instance : Schema PendingActionModel String where
  key r := r.pendingActionId
  clash := PendingActionModel.clash
  clash_of_key h := by simp [PendingActionModel.clash, h]
  clash_symm {a b} h := by
    simp only [PendingActionModel.clash, Bool.or_eq_true, Bool.and_eq_true, decide_eq_true_eq,
      bothEqual_iff] at h ⊢
    rcases h with (h | ⟨x, ha, hb⟩) | ⟨⟨⟨ht, hs⟩, ha⟩, hb⟩
    · exact .inl (.inl h.symm)
    · exact .inl (.inr ⟨x, hb, ha⟩)
    · exact .inr ⟨⟨⟨ht.symm, hs.symm⟩, hb⟩, ha⟩

instance : Schema ApprovalRequestModel String where
  key r := r.approvalId
  clash a b := a.approvalId = b.approvalId
  clash_of_key h := by simpa using h
  clash_symm h := by simpa [eq_comm] using h

/-! ## The database -/

/-- The tables an agent run is spread over. -/
structure Database where
  tasks : Table TaskModel
  steps : Table StepModel
  admissions : Table GovernedTaskAdmissionModel
  audit : Table GovernanceAuditEventModel
  pendingActions : Table PendingActionModel
  approvals : Table ApprovalRequestModel
  execution : ExecutionStore

/-- A program on the database. -/
abbrev AgentRunTx (α : Type) := Transaction Raised Database α

/-- Set the status of a task. -/
def TaskModel.setStatus (status : AgentRunTaskStatus) : Edit TaskModel where
  apply r := { r with status := status }
  key_apply _ := rfl
  tame h := h

/-- Set the status of a step. -/
def StepModel.setStatus (status : AgentRunStepStatus) : Edit StepModel where
  apply r := { r with status := status }
  key_apply _ := rfl
  tame h := h

namespace Database

variable (db : Database)

/-- The task of an organization. -/
def task? (taskId organizationId : String) : Option TaskModel :=
  (db.tasks.find? taskId).filter fun t => t.organizationId = organizationId

/-- The step of a task of an organization. -/
def step? (stepId taskId organizationId : String) : Option StepModel :=
  (db.steps.find? stepId).filter fun s => s.taskId = taskId && s.organizationId = organizationId

/-- Set the status of a task and a step. -/
def setNativeStatus (taskId stepId : String) (taskStatus : AgentRunTaskStatus)
    (stepStatus : AgentRunStepStatus) : Database :=
  { db with
    tasks := db.tasks.update taskId (TaskModel.setStatus taskStatus)
    steps := db.steps.update stepId (StepModel.setStatus stepStatus) }

/-- Add an audit row. -/
def insertAudit? (row : GovernanceAuditEventModel) : Option Database :=
  (db.audit.insert? row).map fun t => { db with audit := t }

/-! ## The native pair -/

/-- `get_root`. -/
def getRoot (runId organizationId : String) : Option TaskModel := db.task? runId organizationId

/-- `get_native_pair`. -/
def getNativePair (taskId stepId organizationId : String) :
    Except Raised (Option (TaskModel × StepModel)) :=
  match db.task? taskId organizationId, db.step? stepId taskId organizationId with
  | none, none => .ok none
  | some task, some step => .ok (some (task, step))
  | _, _ => .error ⟨.valueError, "Agent Run native task/step pair is inconsistent"⟩

/-! ## The journal rows -/

/-- The plan journal event of a row of a task. -/
def journalEvent (rootTaskId : String) (row : GovernanceAuditEventModel) :
    Option PlanJournalEvent :=
  if row.taskId = rootTaskId then
    match row.payload with
    | .journal event => some event
    | _ => none
  else none

/-- `_load_events`. -/
def loadEvents (rootTaskId : String) : List PlanJournalEvent :=
  (db.audit.rows.filterMap (journalEvent rootTaskId)).insertionSort
    fun a b => a.sequence ≤ b.sequence

/-! ## The pause rows -/

/-- Whether a row is a pause of a run. -/
def isPause (runId organizationId : String) (row : GovernanceAuditEventModel) : Bool :=
  row.taskId = runId && row.organizationId = organizationId && match row.payload with
    | .pause _ _ _ => true
    | _ => false

/-- Whether a row is a pause of a run, or resolves one. -/
def isPauseOrResolution (runId organizationId : String) (row : GovernanceAuditEventModel) : Bool :=
  row.taskId = runId && row.organizationId = organizationId && match row.payload with
    | .pause _ _ _ => true
    | .pauseResolved _ _ => true
    | _ => false

/-- By creation, then by identifier. -/
def auditOrder (a b : GovernanceAuditEventModel) : Prop :=
  a.createdAt < b.createdAt ∨ (a.createdAt = b.createdAt ∧ a.eventId ≤ b.eventId)

instance : DecidableRel auditOrder := fun a b => by
  unfold auditOrder; infer_instance

/-- The pause that is open after one more row. -/
def openPause (candidate : Option (String × Digest × RunPauseSignal))
    (row : GovernanceAuditEventModel) : Option (String × Digest × RunPauseSignal) :=
  match row.payload with
  | .pause _ checkpointDigest signal => some (row.eventId, checkpointDigest, signal)
  | .pauseResolved _ pauseEventId => candidate.filter fun c => pauseEventId ≠ c.1
  | _ => candidate

/-- `get_pause_signal`: the checkpoint digest and the signal of the open pause. -/
def getPauseSignal (runId organizationId : String) : Option (Digest × RunPauseSignal) :=
  let rows := (db.audit.select (isPauseOrResolution runId organizationId)).insertionSort auditOrder
  (rows.foldl openPause none).map (·.2)

end Database

/-- The document of a pause. -/
def pausePayload (P : Platform) (runId : String) (checkpointDigest : Digest)
    (signal : RunPauseSignal) : Json :=
  .obj [("schema_version", .str "agentpact.run-pause/v1"), ("run_id", .str runId),
    ("checkpoint_digest", .str checkpointDigest.hex), ("signal", signal.modelDump P)]

/-- The document of the resolution of a pause. -/
def resolutionPayload (runId pauseEventId : String) : Json :=
  .obj [("schema_version", .str "agentpact.run-pause-resolution/v1"), ("run_id", .str runId),
    ("pause_event_id", .str pauseEventId), ("status", .str "cleared")]

/-- The row of a pause. -/
def pauseRow (P : Platform) (signal : RunPauseSignal) (checkpointDigest : Digest)
    (organizationId : String) (modifiedAt : DateTime) : GovernanceAuditEventModel where
  eventId := "agent_run_pause_" ++
    (P.digest (pausePayload P signal.runId checkpointDigest signal)).hex
  taskId := signal.runId
  organizationId := organizationId
  payload := .pause signal.runId checkpointDigest signal
  createdAt := modifiedAt.bind

/-- The row that resolves a pause. -/
def resolutionRow (P : Platform) (runId organizationId : String)
    (pause : GovernanceAuditEventModel) : GovernanceAuditEventModel where
  eventId := "agent_run_pause_resolution_" ++
    (P.digest (resolutionPayload runId pause.eventId)).hex
  taskId := runId
  organizationId := organizationId
  payload := .pauseResolved runId pause.eventId
  createdAt := pause.createdAt + 1

/-- A flush that breaks a constraint. -/
def integrityError : Raised := ⟨.integrityError, "governance_audit_events"⟩

/-- The latest pause of a run. -/
def Database.latestPause (db : Database) (runId organizationId : String) :
    Option GovernanceAuditEventModel :=
  ((db.audit.select (Database.isPause runId organizationId)).insertionSort fun a b =>
    Database.auditOrder b a).head?

/-- `save_pause_signal`. -/
def savePauseSignal (P : Platform) (signal : RunPauseSignal) (checkpointDigest : Digest)
    (organizationId : String) (modifiedAt : DateTime) : AgentRunTx Unit := do
  let existing ← read fun db => db.latestPause signal.runId organizationId
  match existing with
  | some row =>
      require (row.payload = .pause signal.runId checkpointDigest signal)
        ⟨.valueError, "Conflicting pause signal already exists"⟩
  | none =>
      write? (·.insertAudit? (pauseRow P signal checkpointDigest organizationId modifiedAt))
        integrityError

/-- `clear_pause_signal`. -/
def clearPauseSignal (P : Platform) (runId organizationId : String) : AgentRunTx Unit := do
  let latest ← read fun db => db.latestPause runId organizationId
  match latest with
  | none => pure ()
  | some pause =>
      let row := resolutionRow P runId organizationId pause
      let existing ← read fun db => db.audit.find? row.eventId
      if existing.isSome then pure ()
      else write? (·.insertAudit? row) integrityError

/-- `cancel_native_pair`. -/
def cancelNativePair (taskId stepId organizationId : String) : AgentRunTx Bool := do
  let task ← read fun db => db.task? taskId organizationId
  let step ← read fun db => db.step? stepId taskId organizationId
  if task.isNone || step.isNone then pure false
  else
    write (·.setNativeStatus taskId stepId .canceled .canceled)
    pure true

/-! ## What a checkpoint says of the native rows -/

/-- `_verify_attempt_identity`. -/
def verifyAttemptIdentity (db : Database) (item : GovernedPlanStepRef)
    (expectedStatus : ExecutionAttemptStatus) (organizationId : String) : Except Raised Unit :=
  match item.attemptId, item.permitId with
  | none, none => .ok ()
  | some attemptId, some permitId =>
      let attempt := (db.execution.attempts.find? attemptId).filter fun a =>
        (db.task? a.taskId organizationId).isSome
      let permit := (db.execution.permits.find? permitId).filter fun p =>
        (db.task? p.taskId organizationId).isSome
      match attempt, permit with
      | some attempt, some permit =>
          if attempt.taskId = item.nativeTaskId ∧ attempt.stepId = item.nativeStepId ∧
              attempt.contractId = item.nativeContractId ∧ attempt.status = expectedStatus ∧
              permit.taskId = item.nativeTaskId ∧ permit.stepId = item.nativeStepId ∧
              permit.contractId = item.nativeContractId ∧ permit.status = .consumed then .ok ()
          else .error ⟨.valueError,
            "Checkpoint disagrees with authoritative Permit/Attempt state"⟩
      | _, _ => .error ⟨.valueError,
          "Checkpoint disagrees with authoritative Permit/Attempt state"⟩
  | _, _ => .error ⟨.valueError, "Effect checkpoint has partial Permit/Attempt identity"⟩

/-- A completed step is completed natively, and its attempt is confirmed. -/
def verifyCompleted (db : Database) (organizationId : String) (item : GovernedPlanStepRef) :
    Except Raised Unit := do
  match ← db.getNativePair item.nativeTaskId item.nativeStepId organizationId with
  | some (task, step) =>
      if task.status = .completed ∧ step.status = .completed then
        verifyAttemptIdentity db item .confirmed organizationId
      else throw ⟨.valueError, "Completed prefix disagrees with native Task/Step state"⟩
  | none => throw ⟨.valueError, "Completed prefix disagrees with native Task/Step state"⟩

/-- A remaining step does not exist natively. -/
def verifyRemaining (db : Database) (organizationId : String) (item : GovernedPlanStepRef) :
    Except Raised Unit := do
  match ← db.getNativePair item.nativeTaskId item.nativeStepId organizationId with
  | some _ => throw ⟨.valueError, "Non-current suffix child became runnable"⟩
  | none => pure ()

/-- A superseded step is canceled natively, if it exists. -/
def verifySuperseded (db : Database) (organizationId : String) (item : GovernedPlanStepRef) :
    Except Raised Unit := do
  match ← db.getNativePair item.nativeTaskId item.nativeStepId organizationId with
  | some (task, step) =>
      if task.status ≠ .canceled then
        throw ⟨.valueError, "Superseded native Task remains runnable"⟩
      else if step.status ≠ .canceled then
        throw ⟨.valueError, "Superseded native Step remains runnable"⟩
      else pure ()
  | none => pure ()

/-- The active step is in the native state its transition calls for. -/
def verifyActive (db : Database) (transition : PlanJournalTransition) (organizationId : String)
    (active : GovernedPlanStepRef) : Except Raised Unit := do
  match ← db.getNativePair active.nativeTaskId active.nativeStepId organizationId with
  | none => throw ⟨.valueError, "Active native Task/Step state is partial or missing"⟩
  | some (task, step) =>
      match transition with
      | .probeBlocked =>
          if task.status = .pendingResultProbe ∧ step.status = .pendingResultProbe ∧
              (active.attemptId.any (· ≠ "")) ∧ (active.permitId.any (· ≠ "")) then
            verifyAttemptIdentity db active .unknown organizationId
          else throw ⟨.valueError, "Probe-blocked checkpoint lacks exact native state"⟩
      | .approvalRequired =>
          if task.status = .pendingApproval ∧ step.status = .pendingApproval then pure ()
          else throw ⟨.valueError, "Approval checkpoint lacks exact pending native state"⟩
      | .approvalResumed =>
          if task.status = .resuming ∧ step.status = .resuming then pure ()
          else throw ⟨.valueError, "Resume checkpoint lacks exact resuming native state"⟩
      | .approvalRejected | .runCancelled =>
          if task.status = .canceled ∧ step.status = .canceled then pure ()
          else throw ⟨.valueError, "Terminal non-effect checkpoint lacks exact cancelled native state"⟩
      | _ => pure ()

/-- `_verify_checkpoint_native_state`. -/
def verifyCheckpointNativeState (db : Database) (checkpoint : GovernedPlanCheckpoint)
    (transition : PlanJournalTransition) (organizationId : String) : Except Raised Unit := do
  checkpoint.completedPrefix.forM (verifyCompleted db organizationId)
  checkpoint.remainingSuffix.forM (verifyRemaining db organizationId)
  checkpoint.supersededSuffix.forM (verifySuperseded db organizationId)
  match checkpoint.activeStep with
  | none => pure ()
  | some active => verifyActive db transition organizationId active

/-- A check that went through a list passed at each of its elements. -/
theorem forM_eq_ok {α : Type} {f : α → Except Raised Unit} {l : List α}
    (h : l.forM f = .ok ()) : ∀ a ∈ l, f a = .ok () := by
  induction l with
  | nil => exact fun _ ha => by cases ha
  | cons b l ih =>
      obtain ⟨_, hb, hl⟩ := except_bind_eq_ok.mp h
      intro a ha
      rcases List.mem_cons.mp ha with rfl | ha
      · exact hb
      · exact ih hl a ha

end AgentPact
