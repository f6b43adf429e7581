import AgentPact.AgentRuns.Approvals
import AgentPact.AgentRuns.Projection

/-!
# The commands of the service

`AgentRunService` (`agent_runs/service.py`): recording a pause, approving,
rejecting, cancelling, probing, submitting input and resuming.

A command is a program on the database.  Each of its `session.begin` blocks is
`atomic`, and what an adapter does between two blocks stays whatever the
command does next.  A block that checks before it writes is split there, so that
`cancelAdmits` and `cancelWrites` can be told apart in an interleaving; its
checks do not write, so the split makes no difference to a command run alone.
-/

namespace AgentPact

open Base Transaction

/-! ## Requests -/

/-- A command of a caller. -/
structure AgentRunCommandRequest where
  operationKey : String
  reason : Option String

/-- Inputs of a caller. -/
structure AgentRunInputSubmissionRequest where
  operationKey : String
  values : List (String × Json)

/-- `_safe_reason`. -/
def safeReason (P : Platform) : Option String → String
  | none => "Authenticated decision"
  | some reason =>
      if reason = "" then "Authenticated decision"
      else "Authenticated decision (" ++
        String.ofList ((P.digest (.str reason)).hex.toList.take 12) ++ ")"

/-- `_operation_key`. -/
def operationKeyOf (P : Platform) (tenantId runId command callerKey : String)
    (predecessor : Digest) : String :=
  "agent-run:" ++ command ++ ":" ++ (P.digest (.arr [.str tenantId, .str runId, .str command,
    .str callerKey, .str predecessor.hex])).hex

/-- The exceptions of a Pack, as the service reports them. -/
def asPackError (code : String) (e : Raised) : Raised :=
  if ErrorClass.packLifecycleError.caughtBy e then agentRunError e.text
  else asAgentRunError [.valueError, .governedPlanError] code e

/-! ## Restoring a run -/

/-- `_adapter`. -/
def resolveAdapter (E : Environment) (binding : PackRuntimeBinding) (tenantId : String)
    (capabilityIds : List String) : Except Raised PackRuntimeAdapter := do
  let adapter ← (if E.registry.tenantScoped then
      E.registry.resolveForExecution tenantId binding capabilityIds E.resolvedAt
    else E.registry.requireBinding binding).mapError
      (asAgentRunError [.lookupError] "PACK_RUNTIME_UNAVAILABLE")
  demand (adapter.binding = binding) "ADAPTER_CONFORMANCE_FAILED"
  pure adapter

/-- A reference is to the run of a bundle. -/
def PreparedRunReference.restores (prepared : PreparedRunReference) (bundle : TaskAdmissionBundle)
    (binding : PackRuntimeBinding) : Bool :=
  prepared.runId = bundle.taskId && prepared.admissionId = some bundle.admissionId &&
    prepared.contractId = some bundle.contractId && prepared.packId = binding.packId &&
    prepared.packVersion = binding.packVersion && prepared.adapterId = binding.adapterId &&
    prepared.tenantId = bundle.tenantId && prepared.requestId = bundle.requestId &&
    prepared.providerMode = bundle.providerMode

/-- `_restore_prepared`. -/
def restorePrepared (E : Environment) (bundle : TaskAdmissionBundle) :
    Except Raised (PackRuntimeAdapter × PreparedRunReference) := do
  let binding ← bindingForBundle bundle
  let adapter ← resolveAdapter E binding bundle.tenantId [bundle.capabilityRef]
  let restored ← (adapter.restoreRun ⟨bundle.taskId, bundle.tenantId, bundle.requestId, binding,
    bundle.providerMode, E.targetUrl, bundle⟩).mapError (asPackError "STATE_CONFLICT")
  let prepared ← orAgentRunError "PACK_RESTORE_RESULT_INVALID" restored
  demand (prepared.restores bundle binding = true) "STATE_CONFLICT"
  pure (adapter, prepared)

/-- The adapter of a run that its Pack resumes, and how. -/
def restoreResumable (E : Environment) (user : UserContext) (bundle : TaskAdmissionBundle)
    (code : String) :
    Except Raised (PreparedRunReference × (PreparedRunReference → ResumeRequest → AgentRunTx Unit)) := do
  let binding ← bindingForBundle bundle
  let adapter ← resolveAdapter E binding user.orgId [bundle.capabilityRef]
  let (_, prepared) ← restorePrepared E bundle
  let resume ← orAgentRunError code adapter.resumeRun
  pure (prepared, resume)

section Commands

variable (P : Platform) (E : Environment) (user : UserContext) (runId : String)

/-! ## What the commands share -/

/-- `AgentRunService.get`. -/
def getProjection : AgentRunTx AgentRunProjection := query (getRun P E user runId)

/-- The locked run and its projection. -/
def lockedProjection (db : Database) : Except Raised (LockedRun × AgentRunProjection) := do
  let locked ← loadLocked P db user runId
  let projection ← projectLocked P E db locked
  pure (locked, projection)

/-- Append the transition of a command. -/
def appendCommand (command callerKey : String) (locked : LockedRun)
    (checkpoint : GovernedPlanCheckpoint) (transition : PlanJournalTransition) :
    AgentRunTx GovernedPlanCheckpoint :=
  appendAgentRunTransition P
    { organizationId := user.orgId
      checkpoint := checkpoint
      transition := transition
      authorityDigests := locked.authorityDigests
      operationKey := operationKeyOf P user.orgId runId command callerKey
        locked.checkpoint.journalDigest
      createdAt := E.appendedAt }

/-- Append what the coordinator made of a result. -/
def appendResult (operationKey : String) (locked : LockedRun)
    (translated : Option (GovernedPlanCheckpoint × PlanJournalTransition)) : AgentRunTx Unit :=
  match translated with
  | none => pure ()
  | some (checkpoint, transition) => do
      let _ ← appendAgentRunTransition P
        { organizationId := user.orgId
          checkpoint := checkpoint
          transition := transition
          authorityDigests := locked.authorityDigests
          operationKey := operationKey
          createdAt := E.reflectedAt }
      pure ()

/-- A checkpoint whose active step ended without an effect. -/
def GovernedPlanCheckpoint.terminated (c : GovernedPlanCheckpoint) (state : PlanRunState) :
    GovernedPlanCheckpoint :=
  { c with state := state, activeStep := c.activeStep.map fun s => { s with state := .failed } }

/-- `_cancel_native_pair`. -/
def cancelActivePair (checkpoint : GovernedPlanCheckpoint) : AgentRunTx Unit :=
  match checkpoint.activeStep with
  | none => throw (agentRunError "STATE_CONFLICT")
  | some active => do
      let cancelled ← cancelNativePair active.nativeTaskId active.nativeStepId user.orgId
      require (cancelled = true) (agentRunError "STATE_CONFLICT")

/-! ## Pauses -/

/-- The part of `record_pause_signal` that compares the signal with the run. -/
def pauseAdmits (signal : RunPauseSignal) (db : Database) : Except Raised LockedRun := do
  demand (user.isAnyOperator = true) "OPERATOR_REQUIRED"
  demand (signal.runId = runId) "PAUSE_SIGNAL_CORRELATION_INVALID"
  let locked ← loadLocked P db user runId
  let active := locked.checkpoint.activeStep
  demand (∀ s ∈ signal.stepId, active.map (·.nativeStepId) = some s)
    "PAUSE_SIGNAL_CHECKPOINT_INVALID"
  demand (∀ t ∈ signal.taskId, t = runId ∨ t = (active.map (·.nativeTaskId)).getD "")
    "PAUSE_SIGNAL_CHECKPOINT_INVALID"
  demand (signal.externalEffectStarted = db.effectMayHaveStarted locked.checkpoint)
    "PAUSE_SIGNAL_EFFECT_BOUNDARY"
  demand (signal.runId = locked.checkpoint.rootTaskId) "PAUSE_SIGNAL_CORRELATION_INVALID"
  demand (¬ (signal.outcome = .awaitingInput ∧ signal.externalEffectStarted = true))
    "PAUSE_SIGNAL_EFFECT_BOUNDARY"
  pure locked

/-- `AgentRunService.record_pause_signal`. -/
def recordPauseSignal (signal : RunPauseSignal) : AgentRunTx AgentRunProjection := do
  let locked ← query (pauseAdmits P user runId signal)
  atomic (savePauseSignal P signal.redact (P.digest locked.checkpoint.modelDump) user.orgId
    E.pausedAt)
  getProjection P E user runId

/-! ## Approving -/

/-- Resume a step whose approval is granted, and restore its run. -/
def resumeApproved (request : AgentRunCommandRequest) (locked : LockedRun)
    (action : PendingActionModel) :
    AgentRunTx (Bool × PackRuntimeAdapter × PreparedRunReference) := do
  let shouldAdvance ←
    if action.status = .approved then do
      let resumed ← beginReobservationAfterApproval action.taskId action.stepId user.orgId
        action.pendingActionId action.rowVersion
      let _ ← appendCommand P E user runId "approve" request.operationKey locked
        { locked.checkpoint with state := .active } .approvalResumed
      require (resumed.pendingAction.status = .invalidated) (agentRunError "STATE_CONFLICT")
      pure true
    else pure false
  let (adapter, prepared) ← lift (restorePrepared E locked.bundle)
  pure (shouldAdvance, adapter, prepared)

/-- The first transaction of `approve`: the projection to return, or the run to advance. -/
def approveDecision (request : AgentRunCommandRequest) :
    AgentRunTx (AgentRunProjection ⊕ (Bool × PackRuntimeAdapter × PreparedRunReference)) := do
  let (locked, projection) ← query (lockedProjection P E user runId)
  let rows ← query (·.pendingApproval locked.checkpoint)
  match rows with
  | none =>
      if projection.view.state = .awaitingApproval then throw (agentRunError "ILLEGAL_ACTION")
      else pure (.inl projection)
  | some (action, approval) =>
      if projection.view.state = .awaitingApproval then do
        require (.approve ∈ projection.view.legalActions) (agentRunError "ILLEGAL_ACTION")
        let _ ← decideApprovalRequest ⟨approval.approvalId, user.orgId, user.userId, true,
          safeReason P request.reason, E.decidedAt⟩
        let decided ← fetch (·.pendingActions.find? action.pendingActionId)
          (agentRunError "STATE_CONFLICT")
        let advance ← resumeApproved P E user runId request locked decided
        pure (.inr advance)
      else if approval.status = .approved then do
        let advance ← resumeApproved P E user runId request locked action
        pure (.inr advance)
      else pure (.inl projection)

/-- `_reflect_advance_result`. -/
def reflectAdvanceResult (result : PackAdvanceResult) (operationKey : String) : AgentRunTx Unit :=
  atomic do
    let locked ← query fun db => loadLocked P db user result.runId
    let translated ← lift (AgentRunResultCoordinator.advance locked.checkpoint result)
    appendResult P E user operationKey locked translated

/-- Advance a run, and reflect the result in its journal. -/
def advanceAndReflect (request : AgentRunCommandRequest) (adapter : PackRuntimeAdapter)
    (prepared : PreparedRunReference) : AgentRunTx Unit := do
  let advanced ← adapter.advanceRun prepared request.operationKey
  let result ← lift (validatePackAdvanceResult advanced prepared.runId)
  require (result.status ≠ .failed)
    (agentRunError ((result.reasonCode.filter (· ≠ "")).getD "PACK_ADVANCE_FAILED"))
  reflectAdvanceResult P E user result request.operationKey

/-- `AgentRunService.approve`. -/
def approve (request : AgentRunCommandRequest) : AgentRunTx AgentRunProjection := do
  require (user.isAnyApprover = true) (agentRunError "APPROVER_REQUIRED")
  let decision ← atomic (approveDecision P E user runId request)
  match decision with
  | .inl projection => pure projection
  | .inr (shouldAdvance, adapter, prepared) =>
      if shouldAdvance then
        translating (asPackError "PACK_ADVANCE_FAILED")
          (advanceAndReflect P E user request adapter prepared)
        getProjection P E user runId
      else getProjection P E user runId

/-! ## Rejecting and cancelling -/

/-- The checks of `reject`: the projection to return, or the run to reject. -/
def rejectAdmits (db : Database) : Except Raised (AgentRunProjection ⊕ LockedRun) := do
  demand (user.isAnyApprover = true) "APPROVER_REQUIRED"
  let (locked, projection) ← lockedProjection P E user runId db
  if projection.view.state = .rejected then pure (.inl projection)
  else do
    demand (.reject ∈ projection.view.legalActions) "ILLEGAL_ACTION"
    pure (.inr locked)

/-- The writes of `reject`. -/
def rejectWrites (request : AgentRunCommandRequest) (locked : LockedRun) : AgentRunTx Unit := do
  let rows ← query (·.pendingApproval locked.checkpoint)
  let (_, approval) ← lift (orAgentRunError "STATE_CONFLICT" rows)
  let _ ← decideApprovalRequest ⟨approval.approvalId, user.orgId, user.userId, false,
    safeReason P request.reason, E.decidedAt⟩
  cancelActivePair user locked.checkpoint
  let _ ← appendCommand P E user runId "reject" request.operationKey locked
    (locked.checkpoint.terminated .rejected) .approvalRejected
  pure ()

/-- The checks of `cancel`: the projection to return, or the run to cancel. -/
def cancelAdmits (db : Database) : Except Raised (AgentRunProjection ⊕ LockedRun) := do
  demand (user.isAnyOperator = true) "OPERATOR_REQUIRED"
  let (locked, projection) ← lockedProjection P E user runId db
  if projection.view.state = .cancelled then pure (.inl projection)
  else do
    demand (.cancel ∈ projection.view.legalActions) "ILLEGAL_ACTION"
    demand (db.effectMayHaveStarted locked.checkpoint = false) "CANCEL_EFFECT_BOUNDARY_CROSSED"
    pure (.inr locked)

/-- The writes of `cancel`. -/
def cancelWrites (request : AgentRunCommandRequest) (locked : LockedRun) : AgentRunTx Unit := do
  cancelActivePair user locked.checkpoint
  clearPauseSignal P runId user.orgId
  let _ ← appendCommand P E user runId "cancel" request.operationKey locked
    (locked.checkpoint.terminated .cancelled) .runCancelled
  pure ()

/-- Ending a run without an effect. -/
inductive Termination where
  | reject | cancel
deriving DecidableEq, Repr

/-- The checks of a termination. -/
def Termination.admits : Termination → Database → Except Raised (AgentRunProjection ⊕ LockedRun)
  | .reject => rejectAdmits P E user runId
  | .cancel => cancelAdmits P E user runId

/-- The writes of a termination. -/
def Termination.writes (request : AgentRunCommandRequest) (locked : LockedRun) :
    Termination → AgentRunTx Unit
  | .reject => rejectWrites P E user runId request locked
  | .cancel => cancelWrites P E user runId request locked

/-- `AgentRunService.reject` and `AgentRunService.cancel`. -/
def Termination.run (request : AgentRunCommandRequest) (t : Termination) :
    AgentRunTx AgentRunProjection := do
  let admitted ← query (t.admits P E user runId)
  match admitted with
  | .inl projection => pure projection
  | .inr locked =>
      atomic (t.writes P E user runId request locked)
      getProjection P E user runId

/-! ## Probing -/

/-- The first transaction of `probe`: the projection to return, or the run to probe. -/
def probeAdmits (db : Database) :
    Except Raised (AgentRunProjection ⊕ (LockedRun × PackRuntimeAdapter × PreparedRunReference)) := do
  demand (user.isAnyOperator = true) "OPERATOR_REQUIRED"
  let (locked, projection) ← lockedProjection P E user runId db
  if .probe ∈ projection.view.legalActions then do
    let (adapter, prepared) ← restorePrepared E locked.bundle
    pure (.inr (locked, adapter, prepared))
  else do
    demand (projection.view.state ≠ .unknown) "STATE_CONFLICT"
    pure (.inl projection)

/-- The result of a probe, if it is about the active step. -/
def probedResult (locked : LockedRun) (prepared : PreparedRunReference)
    (probed : Option PackProbeResult) : Except Raised PackProbeResult :=
  match locked.checkpoint.activeStep with
  | none => .error (agentRunError "STATE_CONFLICT")
  | some active =>
      match active.permitId, active.attemptId with
      | some permitId, some attemptId => validatePackProbeResult probed prepared.runId
          active.nativeTaskId active.nativeStepId permitId attemptId
      | _, _ => .error (agentRunError "STATE_CONFLICT")

/-- `_reflect_probe_result`. -/
def reflectProbeResult (result : PackProbeResult) (operationKey : String) : AgentRunTx Unit :=
  atomic do
    let locked ← query fun db => loadLocked P db user runId
    if locked.checkpoint.state = .probeBlocked then do
      let translated ← lift (AgentRunResultCoordinator.probe locked.checkpoint result)
      appendResult P E user operationKey locked translated
    else pure ()

/-- What `probe` does with what its Pack found. -/
def settleProbe (request : AgentRunCommandRequest) (locked : LockedRun)
    (prepared : PreparedRunReference) (probed : Option PackProbeResult) : AgentRunTx Unit := do
  let result ← lift (probedResult locked prepared probed)
  reflectProbeResult P E user runId result request.operationKey

/-- `AgentRunService.probe`. -/
def probe (request : AgentRunCommandRequest) : AgentRunTx AgentRunProjection := do
  let admitted ← query (probeAdmits P E user runId)
  match admitted with
  | .inl projection => pure projection
  | .inr (locked, adapter, prepared) =>
      translating (asPackError "PACK_PROBE_FAILED") (do
        let probed ← adapter.probeRun prepared request.operationKey
        settleProbe P E user runId request locked prepared probed)
      getProjection P E user runId

/-! ## Resuming a pause -/

/-- The checks of `submit_input`. -/
def submitAdmits (request : AgentRunInputSubmissionRequest) (db : Database) :
    Except Raised (PreparedRunReference × (PreparedRunReference → ResumeRequest → AgentRunTx Unit)) := do
  demand (user.isAnyOperator = true) "OPERATOR_REQUIRED"
  let (locked, projection) ← lockedProjection P E user runId db
  let signal ← orAgentRunError "ILLEGAL_ACTION" projection.view.pauseSignal
  demand (projection.view.state = .awaitingInput ∧
      .submitInput ∈ projection.view.legalActions ∧ signal.externalEffectStarted = false)
    "ILLEGAL_ACTION"
  let inputs ← orAgentRunError "ILLEGAL_ACTION" signal.inputRequest
  let names := request.values.map (·.1)
  demand (∀ name ∈ names, name ∈ inputs.slots.map (·.slotName)) "INPUT_CONTRACT_INVALID"
  demand (∀ slot ∈ inputs.slots, slot.required = true → slot.slotName ∈ names)
    "INPUT_CONTRACT_INVALID"
  restoreResumable E user locked.bundle "INPUT_RESUME_UNSUPPORTED"

/-- `AgentRunService.submit_input`. -/
def submitInput (request : AgentRunInputSubmissionRequest) : AgentRunTx AgentRunProjection := do
  let (prepared, resume) ← query (submitAdmits P E user runId request)
  resume prepared (.inputs request.values request.operationKey)
  atomic (clearPauseSignal P runId user.orgId)
  getProjection P E user runId

/-- The checks of `resume`: the projection to return, or how to resume. -/
def resumeAdmits (db : Database) : Except Raised (AgentRunProjection ⊕
    (PreparedRunReference × (PreparedRunReference → ResumeRequest → AgentRunTx Unit))) := do
  demand (user.isAnyOperator = true) "OPERATOR_REQUIRED"
  let (locked, projection) ← lockedProjection P E user runId db
  match projection.view.pauseSignal with
  | none => pure (.inl projection)
  | some signal =>
      if projection.view.state = .needsHuman then do
        demand (.resume ∈ signal.allowedActions ∨ .takeOver ∈ signal.allowedActions)
          "ILLEGAL_ACTION"
        let resumable ← restoreResumable E user locked.bundle "HUMAN_RESUME_UNSUPPORTED"
        pure (.inr resumable)
      else pure (.inl projection)

/-- `AgentRunService.resume`. -/
def resumeRun (request : AgentRunCommandRequest) : AgentRunTx AgentRunProjection := do
  let admitted ← query (resumeAdmits P E user runId)
  match admitted with
  | .inl projection => pure projection
  | .inr (prepared, resume) =>
      resume prepared (.takeover request.operationKey)
      atomic (clearPauseSignal P runId user.orgId)
      getProjection P E user runId

end Commands

/-! ## Inverting the commands -/

section Inversion

variable {P : Platform} {E : Environment} {user : UserContext} {runId : String}

theorem lockedProjection_eq_ok {db : Database} {locked : LockedRun} {p : AgentRunProjection} :
    lockedProjection P E user runId db = .ok (locked, p) ↔
      LoadedFrom P db user.orgId runId locked ∧ projectLocked P E db locked = .ok p := by
  simp only [lockedProjection, except_bind_eq_ok, loadLocked_eq_ok]
  constructor
  · rintro ⟨_, hload, _, hproject, hpure⟩
    cases hpure
    exact ⟨hload, hproject⟩
  · rintro ⟨hload, hproject⟩
    exact ⟨locked, hload, p, hproject, rfl⟩

/-- A restored reference is to the run of the bundle. -/
theorem restorePrepared_runId {bundle : TaskAdmissionBundle} {adapter : PackRuntimeAdapter}
    {prepared : PreparedRunReference}
    (h : restorePrepared E bundle = .ok (adapter, prepared)) : prepared.runId = bundle.taskId := by
  simp only [restorePrepared, except_bind_eq_ok, demand_eq_ok, exists_const] at h
  obtain ⟨_, _, _, _, _, _, _, _, hrestores, hpure⟩ := h
  cases hpure
  simp only [PreparedRunReference.restores, Bool.and_eq_true, decide_eq_true_eq] at hrestores
  exact hrestores.1.1.1.1.1.1.1.1

/-- A step resumes if its action is approved, and otherwise nothing is written. -/
theorem resumeApproved_eq_ok {request : AgentRunCommandRequest} {locked : LockedRun}
    {action : PendingActionModel} {advance : Bool} {adapter : PackRuntimeAdapter}
    {prepared : PreparedRunReference} {db db' : Database}
    (h : resumeApproved P E user runId request locked action db =
      .ok (advance, adapter, prepared) db') :
    (advance = false ∧ db' = db) ∨
      (advance = true ∧ action.status = .approved ∧ ∃ resumed db₁ c,
        beginReobservationAfterApproval action.taskId action.stepId user.orgId
          action.pendingActionId action.rowVersion db = .ok resumed db₁ ∧
        appendCommand P E user runId "approve" request.operationKey locked
          { locked.checkpoint with state := .active } .approvalResumed db₁ = .ok c db') := by
  unfold resumeApproved at h
  split at h
  case isTrue happroved =>
    simp only [bind_eq_ok, require_eq_ok, lift_eq_ok] at h
    obtain ⟨resumed, db₁, hbegin, c, _, happend, _, _, ⟨_, rfl⟩, _, _, hadvance, _, _,
      ⟨_, rfl⟩, hpure⟩ := h
    cases hadvance
    cases hpure
    exact .inr ⟨rfl, happroved, resumed, db₁, c, hbegin, happend⟩
  case isFalse =>
    simp only [bind_eq_ok, lift_eq_ok] at h
    obtain ⟨_, _, hadvance, _, _, ⟨_, rfl⟩, hpure⟩ := h
    cases hadvance
    cases hpure
    exact .inl ⟨rfl, rfl⟩

/-- How the first transaction of `approve` ends. -/
inductive ApproveDecided (P : Platform) (E : Environment) (user : UserContext) (runId : String)
    (request : AgentRunCommandRequest) (db db' : Database) :
    AgentRunProjection ⊕ (Bool × PackRuntimeAdapter × PreparedRunReference) → Prop
  /-- There is nothing to decide. -/
  | returned {projection : AgentRunProjection} (hsame : db' = db) :
      ApproveDecided P E user runId request db db' (.inl projection)
  /-- The run awaits its approval, and gets it. -/
  | decided {locked : LockedRun} {projection : AgentRunProjection} {action row : PendingActionModel}
      {approval decision : ApprovalRequestModel} {db₁ : Database}
      {advance : Bool × PackRuntimeAdapter × PreparedRunReference}
      (hlocked : lockedProjection P E user runId db = .ok (locked, projection))
      (hrows : db.pendingApproval locked.checkpoint = .ok (some (action, approval)))
      (hstate : projection.view.state = .awaitingApproval)
      (hdecide : decideApprovalRequest ⟨approval.approvalId, user.orgId, user.userId, true,
        safeReason P request.reason, E.decidedAt⟩ db = .ok decision db₁)
      (hrow : db₁.pendingActions.find? action.pendingActionId = some row)
      (hresume : resumeApproved P E user runId request locked row db₁ = .ok advance db') :
      ApproveDecided P E user runId request db db' (.inr advance)
  /-- The approval was granted before. -/
  | again {locked : LockedRun} {projection : AgentRunProjection} {action : PendingActionModel}
      {approval : ApprovalRequestModel}
      {advance : Bool × PackRuntimeAdapter × PreparedRunReference}
      (hlocked : lockedProjection P E user runId db = .ok (locked, projection))
      (hrows : db.pendingApproval locked.checkpoint = .ok (some (action, approval)))
      (hstate : projection.view.state ≠ .awaitingApproval) (happroved : approval.status = .approved)
      (hresume : resumeApproved P E user runId request locked action db = .ok advance db') :
      ApproveDecided P E user runId request db db' (.inr advance)

theorem approveDecision_eq_ok {request : AgentRunCommandRequest} {db db' : Database}
    {decision : AgentRunProjection ⊕ (Bool × PackRuntimeAdapter × PreparedRunReference)}
    (h : approveDecision P E user runId request db = .ok decision db') :
    ApproveDecided P E user runId request db db' decision := by
  simp only [approveDecision, bind_eq_ok, query_eq_ok] at h
  obtain ⟨⟨locked, projection⟩, _, ⟨hlocked, rfl⟩, rows, _, ⟨hrows, rfl⟩, h⟩ := h
  cases rows with
  | none =>
      dsimp only at h
      split at h
      case isTrue => cases h
      case isFalse => cases h; exact .returned rfl
  | some found =>
      obtain ⟨action, approval⟩ := found
      dsimp only at h
      split at h
      case isTrue hstate =>
        simp only [bind_eq_ok, require_eq_ok, fetch_eq_ok] at h
        obtain ⟨_, _, ⟨_, rfl⟩, _, _, hdecide, _, _, ⟨hrow, rfl⟩, _, _, hresume, hpure⟩ := h
        cases hpure
        exact .decided hlocked hrows hstate hdecide hrow hresume
      case isFalse hstate =>
        split at h
        case isTrue happroved =>
          obtain ⟨_, _, hresume, hpure⟩ := bind_eq_ok.mp h
          cases hpure
          exact .again hlocked hrows hstate happroved hresume
        case isFalse => cases h; exact .returned rfl

/-- The checks of a termination pass only where its action is legal. -/
theorem Termination.admits_eq_ok {t : Termination} {db : Database} {locked : LockedRun}
    (h : t.admits P E user runId db = .ok (.inr locked)) :
    ∃ p, lockedProjection P E user runId db = .ok (locked, p) ∧
      (t = .reject → .reject ∈ p.view.legalActions) ∧
      (t = .cancel → .cancel ∈ p.view.legalActions ∧
        db.effectMayHaveStarted locked.checkpoint = false) := by
  cases t with
  | reject =>
      simp only [Termination.admits, rejectAdmits, except_bind_eq_ok, demand_eq_ok,
        exists_const] at h
      obtain ⟨_, ⟨locked', p⟩, hlocked, h⟩ := h
      dsimp only at h
      split at h
      case isTrue => cases h
      case isFalse =>
        simp only [except_bind_eq_ok, demand_eq_ok, exists_const] at h
        obtain ⟨hlegal, hpure⟩ := h
        cases hpure
        exact ⟨p, hlocked, fun _ => hlegal, nofun⟩
  | cancel =>
      simp only [Termination.admits, cancelAdmits, except_bind_eq_ok, demand_eq_ok,
        exists_const] at h
      obtain ⟨_, ⟨locked', p⟩, hlocked, h⟩ := h
      dsimp only at h
      split at h
      case isTrue => cases h
      case isFalse =>
        simp only [except_bind_eq_ok, demand_eq_ok, exists_const] at h
        obtain ⟨hlegal, heffect, hpure⟩ := h
        cases hpure
        exact ⟨p, hlocked, nofun, fun _ => ⟨hlegal, heffect⟩⟩

/-- A probe gets past its checks only where it is legal. -/
theorem probeAdmits_eq_ok {db : Database} {locked : LockedRun} {adapter : PackRuntimeAdapter}
    {prepared : PreparedRunReference}
    (h : probeAdmits P E user runId db = .ok (.inr (locked, adapter, prepared))) :
    ∃ p, lockedProjection P E user runId db = .ok (locked, p) ∧
      .probe ∈ p.view.legalActions ∧ restorePrepared E locked.bundle = .ok (adapter, prepared) := by
  simp only [probeAdmits, except_bind_eq_ok, demand_eq_ok, exists_const] at h
  obtain ⟨_, ⟨locked', p⟩, hlocked, h⟩ := h
  dsimp only at h
  split at h
  case isTrue hlegal =>
    obtain ⟨restored, hrestore, hpure⟩ := except_bind_eq_ok.mp h
    cases hpure
    exact ⟨p, hlocked, hlegal, hrestore⟩
  case isFalse =>
    obtain ⟨_, _, hpure⟩ := except_bind_eq_ok.mp h
    cases hpure

/-- Submitting input needs a pause. -/
theorem submitAdmits_eq_ok {request : AgentRunInputSubmissionRequest} {db : Database}
    {x : PreparedRunReference × (PreparedRunReference → ResumeRequest → AgentRunTx Unit)}
    (h : submitAdmits P E user runId request db = .ok x) :
    ∃ locked p, lockedProjection P E user runId db = .ok (locked, p) ∧
      p.view.pauseSignal ≠ none := by
  simp only [submitAdmits, except_bind_eq_ok, orAgentRunError_eq_ok] at h
  obtain ⟨_, _, ⟨locked, p⟩, hlocked, signal, hsignal, _⟩ := h
  exact ⟨locked, p, hlocked, by rw [hsignal]; exact Option.some_ne_none signal⟩

/-- So does resuming. -/
theorem resumeAdmits_eq_ok {db : Database}
    {x : PreparedRunReference × (PreparedRunReference → ResumeRequest → AgentRunTx Unit)}
    (h : resumeAdmits P E user runId db = .ok (.inr x)) :
    ∃ locked p, lockedProjection P E user runId db = .ok (locked, p) ∧
      p.view.pauseSignal ≠ none := by
  simp only [resumeAdmits, except_bind_eq_ok] at h
  obtain ⟨_, _, ⟨locked, p⟩, hlocked, h⟩ := h
  refine ⟨locked, p, hlocked, fun hnone => ?_⟩
  simp only [hnone] at h
  cases h

/-! ## Commands that do nothing -/

/-- `approve` changes nothing where the run does not await its approval, and the step behind a
granted approval is not paused for it. -/
theorem approve_keeps {request : AgentRunCommandRequest} {db : Database}
    (hstate : ∀ locked p, lockedProjection P E user runId db = .ok (locked, p) →
      p.view.state ≠ .awaitingApproval)
    (hspent : ∀ locked action approval task, LoadedFrom P db user.orgId runId locked →
      db.pendingApproval locked.checkpoint = .ok (some (action, approval)) →
      approval.status = .approved → db.task? action.taskId user.orgId = some task →
      task.status ≠ .pendingApproval) :
    Keeps (approve P E user runId request) db := by
  have hdecision : ∀ decision t, approveDecision P E user runId request db = .ok decision t →
      t = db ∧ ∀ adapter prepared, decision ≠ .inr (true, adapter, prepared) := by
    intro decision t h
    cases approveDecision_eq_ok h with
    | returned hsame => exact ⟨hsame, fun _ _ heq => nomatch heq⟩
    | decided hlocked _ hawaiting _ _ _ => exact absurd hawaiting (hstate _ _ hlocked)
    | @again locked _ action approval advance hlocked hrows _ happroved hresume =>
        obtain ⟨advance, adapter, prepared⟩ := advance
        rcases resumeApproved_eq_ok hresume with
          ⟨rfl, hsame⟩ | ⟨_, _, _, _, _, hbegin, _⟩
        · refine ⟨hsame, fun _ _ heq => ?_⟩
          cases heq
        · obtain ⟨_, task, _, _, _, _, _, _, htask, hpending, _⟩ :=
            beginReobservationAfterApproval_eq_ok hbegin
          have hload := (lockedProjection_eq_ok.mp hlocked).1
          exact absurd hpending (hspent _ _ _ _ hload hrows happroved htask)
  refine .bind (.require _ _) fun _ _ =>
    .bind (.atomic fun decision t h => (hdecision decision t h).1) fun decision h => ?_
  have hquiet := (hdecision decision db (atomic_eq_ok.mp h)).2
  match decision, hquiet with
  | .inl p, _ => exact .pure p
  | .inr (false, _, _), _ => exact .query _
  | .inr (true, adapter, prepared), hquiet => exact absurd rfl (hquiet adapter prepared)

/-- A termination that its checks do not admit changes nothing. -/
theorem Termination.run_keeps {t : Termination} {request : AgentRunCommandRequest} {db : Database}
    (h : ∀ locked, t.admits P E user runId db ≠ .ok (.inr locked)) :
    Keeps (t.run P E user runId request) db := by
  refine .bind (.query _) fun admitted hadmitted => ?_
  match admitted with
  | .inl p => exact .pure p
  | .inr locked => exact absurd (query_eq_ok.mp hadmitted).1 (h locked)

/-- So does a probe. -/
theorem probe_keeps {request : AgentRunCommandRequest} {db : Database}
    (h : ∀ x, probeAdmits P E user runId db ≠ .ok (.inr x)) :
    Keeps (probe P E user runId request) db := by
  refine .bind (.query _) fun admitted hadmitted => ?_
  match admitted with
  | .inl p => exact .pure p
  | .inr x => exact absurd (query_eq_ok.mp hadmitted).1 (h x)

/-- Where there is no pause, there is nothing to submit. -/
theorem submitInput_keeps {request : AgentRunInputSubmissionRequest} {db : Database}
    (h : ∀ locked p, lockedProjection P E user runId db = .ok (locked, p) →
      p.view.pauseSignal = none) : Keeps (submitInput P E user runId request) db := by
  refine .bind (.query _) fun x hx => ?_
  obtain ⟨locked, p, hlocked, hsome⟩ := submitAdmits_eq_ok (query_eq_ok.mp hx).1
  exact absurd (h locked p hlocked) hsome

/-- And nothing to resume. -/
theorem resumeRun_keeps {request : AgentRunCommandRequest} {db : Database}
    (h : ∀ locked p, lockedProjection P E user runId db = .ok (locked, p) →
      p.view.pauseSignal = none) : Keeps (resumeRun P E user runId request) db := by
  refine .bind (.query _) fun admitted hadmitted => ?_
  match admitted with
  | .inl p => exact .pure p
  | .inr x =>
      obtain ⟨locked, p, hlocked, hsome⟩ := resumeAdmits_eq_ok (query_eq_ok.mp hadmitted).1
      exact absurd (h locked p hlocked) hsome

end Inversion

/-! ## Commands as data -/

/-- A command on a run. -/
inductive AgentRunCommand where
  | approve (request : AgentRunCommandRequest)
  | terminate (t : Termination) (request : AgentRunCommandRequest)
  | probe (request : AgentRunCommandRequest)
  | submitInput (request : AgentRunInputSubmissionRequest)
  | resume (request : AgentRunCommandRequest)
  | recordPauseSignal (signal : RunPauseSignal)

/-- The action of a termination. -/
def Termination.action : Termination → AgentRunAction
  | .reject => .reject
  | .cancel => .cancel

/-- The actions that a command carries out. -/
def AgentRunCommand.serves : AgentRunCommand → List AgentRunAction
  | .approve _ => [.approve]
  | .terminate t _ => [t.action]
  | .probe _ => [.probe]
  | .submitInput _ => [.submitInput]
  | .resume _ => [.resume, .takeOver]
  | .recordPauseSignal _ => []

/-- Run a command. -/
def AgentRunCommand.run (P : Platform) (E : Environment) (user : UserContext) (runId : String) :
    AgentRunCommand → AgentRunTx AgentRunProjection
  | .approve request => AgentPact.approve P E user runId request
  | .terminate t request => t.run P E user runId request
  | .probe request => AgentPact.probe P E user runId request
  | .submitInput request => AgentPact.submitInput P E user runId request
  | .resume request => resumeRun P E user runId request
  | .recordPauseSignal signal => AgentPact.recordPauseSignal P E user runId signal

/-- A command on a run that offers nothing changes nothing, unless it records a pause. -/
theorem AgentRunCommand.run_keeps {P : Platform} {E : Environment} {user : UserContext}
    {runId : String} {db : Database} {command : AgentRunCommand} (hserves : command.serves ≠ [])
    (hview : ∀ locked p, lockedProjection P E user runId db = .ok (locked, p) →
      p.view.state ≠ .awaitingApproval ∧ p.view.legalActions = [] ∧ p.view.pauseSignal = none)
    (hspent : ∀ locked action approval task, LoadedFrom P db user.orgId runId locked →
      db.pendingApproval locked.checkpoint = .ok (some (action, approval)) →
      approval.status = .approved → db.task? action.taskId user.orgId = some task →
      task.status ≠ .pendingApproval) :
    Keeps (command.run P E user runId) db := by
  cases command with
  | approve request =>
      exact approve_keeps (fun locked p hlocked => (hview locked p hlocked).1) hspent
  | terminate t request =>
      refine Termination.run_keeps fun locked hadmits => ?_
      obtain ⟨p, hlocked, hreject, hcancel⟩ := Termination.admits_eq_ok hadmits
      have hlegal := (hview locked p hlocked).2.1
      cases t with
      | reject => simpa [hlegal] using hreject rfl
      | cancel => simpa [hlegal] using (hcancel rfl).1
  | probe request =>
      refine probe_keeps fun x hadmits => ?_
      obtain ⟨p, hlocked, hlegal, _⟩ := probeAdmits_eq_ok hadmits
      rw [(hview _ p hlocked).2.1] at hlegal
      cases hlegal
  | submitInput request =>
      exact submitInput_keeps fun locked p hlocked => (hview locked p hlocked).2.2
  | resume request =>
      exact resumeRun_keeps fun locked p hlocked => (hview locked p hlocked).2.2
  | recordPauseSignal signal => exact absurd rfl hserves

/-- A command that is run, by whom, and in what environment. -/
structure ServiceCall where
  environment : Environment
  user : UserContext
  command : AgentRunCommand

/-- One command on a run. -/
def ServiceStep (P : Platform) (runId : String) (call : ServiceCall) (db db' : Database) : Prop :=
  db' = left (call.command.run P call.environment call.user runId db)

/-! ## An environment to run examples in -/

section Run

/-- A Pack that restores every run, and neither advances nor probes one. -/
def idleAdapter (binding : PackRuntimeBinding) : PackRuntimeAdapter where
  binding := binding
  restoreRun r := .ok (some ⟨r.runId, r.tenantId, r.requestId, r.binding.packId,
    r.binding.packVersion, r.binding.adapterId, some r.admissionPayload.admissionId,
    some r.admissionPayload.contractId, r.providerMode, []⟩)
  advanceRun _ _ := pure none
  probeRun _ _ := pure none
  resumeRun := none

/-- An environment with one Pack for all tenants, at one moment. -/
def sampleEnvironment (adapter : PackRuntimeBinding → PackRuntimeAdapter) (now : DateTime) :
    Environment where
  registry :=
    { tenantScoped := false
      resolveForExecution := fun _ _ _ _ => .error ⟨.lookupError, "No active installation"⟩
      requireBinding := fun binding => .ok (adapter binding)
      publicMetadataForTenant := fun _ packId packVersion => .ok ⟨packId, packVersion, "Pack"⟩
      publicMetadata := fun packId packVersion => .ok ⟨packId, packVersion, "Pack"⟩ }
  targetUrl := "target"
  resolvedAt := now
  decidedAt := now
  appendedAt := now
  reflectedAt := now
  pausedAt := now

/-- What it restores is restored by that Pack. -/
theorem sampleEnvironment_restores {adapter : PackRuntimeBinding → PackRuntimeAdapter}
    {now : DateTime} {bundle : TaskAdmissionBundle} {a : PackRuntimeAdapter}
    {prepared : PreparedRunReference}
    (h : restorePrepared (sampleEnvironment adapter now) bundle = .ok (a, prepared)) :
    ∃ binding, a = adapter binding := by
  simp only [restorePrepared, resolveAdapter, except_bind_eq_ok, demand_eq_ok, exists_const] at h
  obtain ⟨binding, _, _, ⟨a', hresolved, _, hpure⟩, _, _, _, _, _, hret⟩ := h
  cases hpure
  cases hret
  exact ⟨binding, (Except.ok.inj (mapError_eq_ok.mp hresolved)).symm⟩

/-- A user of the tenant who operates and approves. -/
def sampleUser : UserContext :=
  ⟨"user", "org", [⟨"dept", "approver"⟩, ⟨"dept", "operator"⟩], [], false, false⟩

/-- A call by that user. -/
def sampleCall (adapter : PackRuntimeBinding → PackRuntimeAdapter) (now : DateTime)
    (command : AgentRunCommand) : ServiceCall := ⟨sampleEnvironment adapter now, sampleUser, command⟩

/-- The database after a call on the run of the examples. -/
def afterCall (call : ServiceCall) (db : Database) : Database :=
  left (call.command.run samplePlatform call.environment call.user sampleRunId db)

/-- What that user sees of it. -/
def sampleView (now : DateTime) (db : Database) : Option RunView :=
  (getRun samplePlatform (sampleEnvironment idleAdapter now) sampleUser sampleRunId
    db).toOption.map (·.view)

theorem sampleView_eq_some {now : DateTime} {db : Database} {view : RunView} :
    sampleView now db = some view ↔ ∃ p, getRun samplePlatform (sampleEnvironment idleAdapter now)
      sampleUser sampleRunId db = .ok p ∧ p.view = view := by
  unfold sampleView
  cases getRun samplePlatform (sampleEnvironment idleAdapter now) sampleUser sampleRunId db <;>
    simp [Except.toOption]

/-- The native rows, the pending action and the approval request of a paused step. -/
def pausedNatively : Database :=
  { admittedDatabase.setNativeStatus "task" "step" .pendingApproval .pendingApproval with
    pendingActions := ⟨[⟨"action", "task", "step", "org", some "approval", .pending, 2,
      (DateTime.utc 1000).bind⟩], List.pairwise_singleton _ _⟩
    approvals := ⟨[⟨"approval", "task", "org", some "requester", "dept", .pending, none, none, none⟩],
      List.pairwise_singleton _ _⟩ }

/-- The append that pauses the run for it. -/
def approvalRequest : AppendRequest where
  organizationId := "org"
  checkpoint := { lastCheckpoint pausedNatively with state := .approvalRequired }
  transition := .approvalRequired
  authorityDigests := .empty
  operationKey := "pause"
  createdAt := .utc 11

/-- A run that awaits its approval. -/
def awaitingDatabase : Database :=
  left (appendAgentRunTransition samplePlatform approvalRequest pausedNatively)

end Run

end AgentPact
