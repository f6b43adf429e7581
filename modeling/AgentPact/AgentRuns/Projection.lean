import AgentPact.AgentRuns.Append
import AgentPact.AgentRuns.Coordinator
import AgentPact.Auth

/-!
# Projecting a run

How `AgentRunService` reads a run back (`agent_runs/service.py`): it loads the
root, the admission and the journal, and projects them with the pause, the
native rows, the approval, the permits and the attempts.

`viewLocked` is what the projection says of the state of the run.  It looks at
the database only.  `projectLocked` adds the public names, which it asks the
registry of Packs for.

The registry and the adapters are code of their own.  They are parameters here,
and nothing is assumed about what they return.
-/

namespace AgentPact

open Base Transaction

/-! ## Public values -/

/-- The public state of a run. -/
inductive AgentRunState where
  | planning | awaitingApproval | awaitingInput | needsHuman | running | unknown | succeeded
  | rejected | cancelled | failed
deriving DecidableEq, Repr

/-- What a user may do about a run. -/
inductive AgentRunAction where
  | approve | reject | probe | cancel | submitInput | resume | takeOver
deriving DecidableEq, Repr

/-- The public state of a step. -/
inductive AgentRunPlanStepState where
  | pending | active | completed | blocked | terminal
deriving DecidableEq, Repr

/-- A step of the public plan. -/
structure AgentRunPlanStep where
  sequence : Nat
  role : String
  state : AgentRunPlanStepState
deriving DecidableEq

/-- What a projection says of the state of a run. -/
structure RunView where
  state : AgentRunState
  legalActions : List AgentRunAction
  reasonCode : Option String
  pauseSignal : Option RunPauseSignal
deriving DecidableEq

/-- A projection. -/
structure AgentRunProjection where
  runId : String
  packId : String
  packVersion : String
  packDisplayName : String
  providerMode : String
  plan : List AgentRunPlanStep
  completedSteps : Nat
  totalSteps : Nat
  view : RunView
  totalSteps_pos : 1 ≤ totalSteps

instance : DecidableEq AgentRunProjection := fun a b =>
  decidable_of_iff (a.runId = b.runId ∧ a.packId = b.packId ∧ a.packVersion = b.packVersion ∧
      a.packDisplayName = b.packDisplayName ∧ a.providerMode = b.providerMode ∧ a.plan = b.plan ∧
      a.completedSteps = b.completedSteps ∧ a.totalSteps = b.totalSteps ∧ a.view = b.view)
    ⟨fun h => by cases a; cases b; simpa using h, fun h => h ▸ by simp⟩

/-- An `AgentRunError` with a code. -/
def agentRunError (code : String) : Raised := ⟨.agentRunError, code⟩

/-- `raise AgentRunError(code) from exc`, for the exceptions an `except` clause catches. -/
def asAgentRunError (classes : List ErrorClass) (code : String) (e : Raised) : Raised :=
  if classes.any (·.caughtBy e) then agentRunError code else e

/-! ## Packs -/

/-- What a Pack is asked to restore. -/
structure PackRunRestoreRequest where
  runId : String
  tenantId : String
  requestId : String
  binding : PackRuntimeBinding
  providerMode : String
  targetUrl : String
  admissionPayload : TaskAdmissionBundle

/-- What a paused run is resumed with. -/
inductive ResumeRequest where
  | inputs (businessInputs : List (String × Json)) (operationKey : String)
  | takeover (operationKey : String)

/-- A Pack.  What it commits itself, it commits in transactions of its own. -/
structure PackRuntimeAdapter where
  binding : PackRuntimeBinding
  restoreRun : PackRunRestoreRequest → Except Raised (Option PreparedRunReference)
  advanceRun : PreparedRunReference → String → AgentRunTx (Option PackAdvanceResult)
  probeRun : PreparedRunReference → String → AgentRunTx (Option PackProbeResult)
  /-- The optional `resume_run`. -/
  resumeRun : Option (PreparedRunReference → ResumeRequest → AgentRunTx Unit)

/-- The public names of a Pack. -/
structure PackMetadata where
  packId : String
  packVersion : String
  displayName : String

/-- The registry of Packs. -/
structure PackRuntimeRegistry where
  tenantScoped : Bool
  resolveForExecution : String → PackRuntimeBinding → List String → DateTime →
    Except Raised PackRuntimeAdapter
  requireBinding : PackRuntimeBinding → Except Raised PackRuntimeAdapter
  publicMetadataForTenant : String → String → String → Except Raised PackMetadata
  publicMetadata : String → String → Except Raised PackMetadata

/-- What a command finds around it: the registry, and what the clock says where it is read. -/
structure Environment where
  registry : PackRuntimeRegistry
  targetUrl : String
  resolvedAt : DateTime
  decidedAt : DateTime
  appendedAt : DateTime
  reflectedAt : DateTime
  pausedAt : DateTime

/-! ## Loading -/

/-- A run under the lock of its root. -/
structure LockedRun where
  root : TaskModel
  bundle : TaskAdmissionBundle
  checkpoint : GovernedPlanCheckpoint
  events : List PlanJournalEvent
  latest : PlanJournalEvent

/-- `locked.authority_digests`. -/
def LockedRun.authorityDigests (locked : LockedRun) : Dict := locked.latest.authorityDigests

/-- The admission of a run. -/
def Database.admissionOf (db : Database) (runId organizationId : String) :
    Option GovernedTaskAdmissionModel :=
  (db.admissions.select fun a => a.taskId = runId && a.organizationId = organizationId).head?

/-- Raise an `AgentRunError` unless a condition holds. -/
def demand (p : Prop) [Decidable p] (code : String) : Except Raised Unit :=
  if p then .ok () else .error (agentRunError code)

/-- A value, or an `AgentRunError`. -/
def orAgentRunError {α : Type} (code : String) : Option α → Except Raised α
  | some a => .ok a
  | none => .error (agentRunError code)

/-- `_load_locked`. -/
def loadLocked (P : Platform) (db : Database) (user : UserContext) (runId : String) :
    Except Raised LockedRun := do
  let root ← orAgentRunError "RUN_NOT_FOUND" (db.getRoot runId user.orgId)
  demand (isPlanApplicationMarker root.application = true) "STATE_CONFLICT"
  let admission ← orAgentRunError "RUN_NOT_FOUND" (db.admissionOf runId user.orgId)
  let bundle := admission.bundlePayload
  let expectedRunId := derivePackRunId P user.orgId bundle.requestId
  demand (root.taskId = expectedRunId ∧ bundle.taskId = expectedRunId) "STATE_CONFLICT"
  let events := db.loadEvents runId
  let checkpoint ← (replayPlanJournal P events).mapError
    (asAgentRunError [.valueError, .governedPlanError] "STATE_CONFLICT")
  let latest ← orAgentRunError "STATE_CONFLICT" events.getLast?
  pure ⟨root, bundle, checkpoint, events, latest⟩

@[simp] theorem demand_eq_ok {p : Prop} [Decidable p] {code : String} {u : Unit} :
    demand p code = .ok u ↔ p := by
  unfold demand
  split
  case isTrue h => simp [h]
  case isFalse h => simp [h]

@[simp] theorem orAgentRunError_eq_ok {α : Type} {code : String} {x : Option α} {a : α} :
    orAgentRunError code x = .ok a ↔ x = some a := by
  cases x <;> simp [orAgentRunError]

/-- A locked run is what its rows say. -/
structure LoadedFrom (P : Platform) (db : Database) (organizationId runId : String)
    (locked : LockedRun) : Prop where
  root : db.getRoot runId organizationId = some locked.root
  marker : isPlanApplicationMarker locked.root.application = true
  admission : (db.admissionOf runId organizationId).map (·.bundlePayload) = some locked.bundle
  identity : locked.root.taskId = derivePackRunId P organizationId locked.bundle.requestId ∧
    locked.bundle.taskId = derivePackRunId P organizationId locked.bundle.requestId
  events : locked.events = db.loadEvents runId
  replay : replayPlanJournal P (db.loadEvents runId) = .ok locked.checkpoint
  latest : (db.loadEvents runId).getLast? = some locked.latest

theorem loadLocked_eq_ok {P : Platform} {db : Database} {user : UserContext} {runId : String}
    {locked : LockedRun} :
    loadLocked P db user runId = .ok locked ↔ LoadedFrom P db user.orgId runId locked := by
  simp only [loadLocked, except_bind_eq_ok, orAgentRunError_eq_ok, demand_eq_ok, mapError_eq_ok,
    exists_const]
  constructor
  · rintro ⟨root, hroot, hmarker, admission, hadmission, hidentity, checkpoint, hreplay, latest,
      hlatest, hpure⟩
    cases hpure
    exact ⟨hroot, hmarker, by rw [hadmission]; rfl, hidentity, rfl, hreplay, hlatest⟩
  · rintro ⟨hroot, hmarker, hadmission, hidentity, hevents, hreplay, hlatest⟩
    obtain ⟨admission, hadmission, hbundle⟩ := Option.map_eq_some_iff.mp hadmission
    refine ⟨locked.root, hroot, hmarker, admission, hadmission, hbundle ▸ hidentity,
      locked.checkpoint, hreplay, locked.latest, hlatest, ?_⟩
    rw [hbundle, ← hevents]
    rfl

/-- The root of a run says whose it is. -/
theorem LoadedFrom.organization {P : Platform} {db : Database} {organizationId runId : String}
    {locked : LockedRun} (h : LoadedFrom P db organizationId runId locked) :
    locked.root.organizationId = organizationId ∧ locked.root.taskId = runId := by
  obtain ⟨hfind, horganization⟩ := Option.filter_eq_some_iff.mp h.root
  exact ⟨by simpa using horganization, Table.key_of_find? hfind⟩

/-- Whoever loads a run loads the same. -/
theorem LoadedFrom.unique {P : Platform} {db : Database} {a b runId : String}
    {locked locked' : LockedRun} (h : LoadedFrom P db a runId locked)
    (h' : LoadedFrom P db b runId locked') : locked = locked' := by
  obtain ⟨hfind, ha⟩ := Option.filter_eq_some_iff.mp h.root
  obtain ⟨hfind', hb⟩ := Option.filter_eq_some_iff.mp h'.root
  have hroot : locked.root = locked'.root := Option.some.inj (hfind.symm.trans hfind')
  have hab : a = b := by
    rw [← h.organization.1, ← h'.organization.1, hroot]
  subst hab
  have hbundle := Option.some.inj (h.admission.symm.trans h'.admission)
  have hcheckpoint := Except.ok.inj (h.replay.symm.trans h'.replay)
  have hlatest := Option.some.inj (h.latest.symm.trans h'.latest)
  have hevents := h.events.trans h'.events.symm
  cases locked
  cases locked'
  simp_all

/-! ## What surrounds the active step -/

/-- `_pending_approval`. -/
def Database.pendingApproval (db : Database) (checkpoint : GovernedPlanCheckpoint) :
    Except Raised (Option (PendingActionModel × ApprovalRequestModel)) :=
  match checkpoint.activeStep with
  | none => .ok none
  | some active =>
      match db.pendingActions.select fun m =>
          m.taskId = active.nativeTaskId && m.stepId = active.nativeStepId with
      | [] => .ok none
      | [action] =>
          match action.approvalId.bind fun id => if id = "" then none
              else db.approvals.find? id with
          | none => .error (agentRunError "STATE_CONFLICT")
          | some approval =>
              if approval.taskId = action.taskId ∧
                  approval.organizationId = action.organizationId then
                .ok (some (action, approval))
              else .error (agentRunError "STATE_CONFLICT")
      | _ => .error (agentRunError "STATE_CONFLICT")

/-- The pending action is the only one of the active step, and linked to the approval request. -/
theorem Database.pendingApproval_rows {db : Database} {checkpoint : GovernedPlanCheckpoint}
    {action : PendingActionModel} {approval : ApprovalRequestModel} :
    db.pendingApproval checkpoint = .ok (some (action, approval)) ↔
      ∃ active, checkpoint.activeStep = some active ∧
        db.pendingActions.select (fun m =>
          m.taskId = active.nativeTaskId && m.stepId = active.nativeStepId) = [action] ∧
        ∃ id, action.approvalId = some id ∧ id ≠ "" ∧ db.approvals.find? id = some approval ∧
          approval.taskId = action.taskId ∧ approval.organizationId = action.organizationId := by
  unfold pendingApproval
  cases hactive : checkpoint.activeStep with
  | none => simp
  | some active =>
      simp only [Option.some.injEq, exists_eq_left']
      generalize db.pendingActions.select _ = rows
      rcases rows with _ | ⟨only, _ | ⟨second, rest⟩⟩
      case nil => simp
      case cons.cons => simp
      case cons.nil =>
        dsimp only
        constructor
        · intro h
          split at h
          case h_1 => cases h
          case h_2 row hrow =>
            split at h
            case isFalse => cases h
            case isTrue hsame =>
              cases h
              obtain ⟨id, hid, hlookup⟩ := Option.bind_eq_some_iff.mp hrow
              split at hlookup
              case isTrue => cases hlookup
              case isFalse hne => exact ⟨rfl, id, hid, hne, hlookup, hsame⟩
        · rintro ⟨hrows, id, hid, hne, hlookup, hsame⟩
          cases hrows
          simp only [hid, Option.bind_some, if_neg hne, hlookup, if_pos hsame]

/-- It is an action of the active step, and in the table. -/
theorem Database.pendingApproval_eq_some {db : Database} {checkpoint : GovernedPlanCheckpoint}
    {action : PendingActionModel} {approval : ApprovalRequestModel}
    (h : db.pendingApproval checkpoint = .ok (some (action, approval))) :
    ∃ active, checkpoint.activeStep = some active ∧ action.taskId = active.nativeTaskId ∧
      action.stepId = active.nativeStepId ∧
      db.pendingActions.find? action.pendingActionId = some action := by
  obtain ⟨active, hactive, hselect, _⟩ := pendingApproval_rows.mp h
  have hmem := List.mem_singleton_self action
  rw [← hselect] at hmem
  obtain ⟨hrow, hsame⟩ := Table.mem_select.mp hmem
  simp only [Bool.and_eq_true, decide_eq_true_eq] at hsame
  exact ⟨active, hactive, hsame.1, hsame.2, Table.find?_key hrow⟩

/-- The attempts of a task. -/
def Database.attemptsOf (db : Database) (taskId : String) : List ExecutionAttemptModel :=
  db.execution.attempts.select fun a => a.taskId = taskId

/-- The permits of a task. -/
def Database.permitsOf (db : Database) (taskId : String) : List ExecutionPermitModel :=
  db.execution.permits.select fun p => p.taskId = taskId

/-- An attempt exists, or a permit is consumed. -/
def effectStarted (attempts : List ExecutionAttemptModel) (permits : List ExecutionPermitModel) :
    Bool := !attempts.isEmpty || permits.any (·.status = .consumed)

/-- `_effect_may_have_started`. -/
def Database.effectMayHaveStarted (db : Database) (checkpoint : GovernedPlanCheckpoint) : Bool :=
  checkpoint.activeStep.any fun active =>
    effectStarted (db.attemptsOf active.nativeTaskId) (db.permitsOf active.nativeTaskId)

/-- The rows around the active step. -/
structure ActiveRows where
  native : Option (TaskModel × StepModel)
  approval : Option (PendingActionModel × ApprovalRequestModel)
  attempts : List ExecutionAttemptModel
  permits : List ExecutionPermitModel

namespace ActiveRows

variable (rows : ActiveRows)

/-- The task and the step have these statuses. -/
def nativeIs (taskStatus : AgentRunTaskStatus) (stepStatus : AgentRunStepStatus) : Bool :=
  rows.native.any fun n => n.1.status = taskStatus && n.2.status = stepStatus

/-- The pending action and its approval request have these statuses. -/
def approvalIs (actionStatus : PendingActionStatus) (approvalStatus : ApprovalStatus) : Bool :=
  rows.approval.any fun a => a.1.status = actionStatus && a.2.status = approvalStatus

/-- The effect of the step may have started. -/
def started : Bool := effectStarted rows.attempts rows.permits

/-- The rows a blocked step waits on: one unknown attempt, and the consumed permit of the same
action. -/
def blocked (active : GovernedPlanStepRef) : Bool :=
  match rows.attempts.filter fun a => some a.attemptId = active.attemptId && a.status = .unknown,
      rows.permits.filter fun p => some p.permitId = active.permitId && p.status = .consumed with
  | [attempt], [permit] => attempt.actionFingerprint = permit.actionFingerprint &&
      attempt.observationHash = permit.observationHash
  | _, _ => false

/-- The task and the step can still be started. -/
def runnable : Bool :=
  rows.native.any fun n => n.1.status ∈ [.created, .running, .resuming] &&
    n.2.status ∈ [.created, .running, .resuming]

variable {rows : ActiveRows}

theorem nativeIs_eq_true {taskStatus : AgentRunTaskStatus} {stepStatus : AgentRunStepStatus} :
    rows.nativeIs taskStatus stepStatus = true ↔
      ∃ n, rows.native = some n ∧ n.1.status = taskStatus ∧ n.2.status = stepStatus := by
  unfold nativeIs
  cases rows.native <;> simp

theorem approvalIs_eq_true {actionStatus : PendingActionStatus} {approvalStatus : ApprovalStatus} :
    rows.approvalIs actionStatus approvalStatus = true ↔
      ∃ a, rows.approval = some a ∧ a.1.status = actionStatus ∧ a.2.status = approvalStatus := by
  unfold approvalIs
  cases rows.approval <;> simp

theorem runnable_eq_true : rows.runnable = true ↔ ∃ n, rows.native = some n ∧
    n.1.status ∈ [.created, .running, .resuming] ∧ n.2.status ∈ [.created, .running, .resuming] := by
  unfold runnable
  cases rows.native <;> simp

end ActiveRows

/-! ## The view -/

namespace RunView

/-- The rows disagree. -/
def stateConflict : RunView := ⟨.failed, [], some "STATE_CONFLICT", none⟩

/-- The view if a condition holds, and a conflict otherwise. -/
def orConflict (p : Bool) (view : RunView) : RunView := if p then view else stateConflict

end RunView

/-- `_pause_legal_actions`. -/
def RunPauseAction.legal : RunPauseAction → AgentRunAction
  | .submitInput => .submitInput
  | .resume => .resume
  | .takeOver => .takeOver
  | .cancel => .cancel

/-- The view of a pause. -/
def RunPauseSignal.view (signal : RunPauseSignal) : RunView where
  state := match signal.outcome with
    | .awaitingInput => .awaitingInput
    | .needsHuman => .needsHuman
  legalActions := signal.allowedActions.map (·.legal)
  reasonCode := some signal.reasonCode
  pauseSignal := some signal

/-- The view of a run with an active step and no pause. -/
def viewActive (state : PlanRunState) (latest : PlanJournalTransition)
    (active : GovernedPlanStepRef) (rows : ActiveRows) : RunView :=
  if state = .probeBlocked then
    .orConflict (rows.nativeIs .pendingResultProbe .pendingResultProbe && rows.blocked active)
      ⟨.unknown, [.probe], some "RESULT_UNCERTAIN", none⟩
  else if latest = .approvalRejected then
    .orConflict (state = .rejected && rows.nativeIs .canceled .canceled &&
        rows.approvalIs .rejected .rejected && !rows.started)
      ⟨.rejected, [], some "APPROVAL_REJECTED", none⟩
  else if latest = .runCancelled then
    .orConflict (state = .cancelled && rows.nativeIs .canceled .canceled &&
        !rows.started)
      ⟨.cancelled, [], some "RUN_CANCELLED", none⟩
  else if state = .approvalRequired then
    if rows.nativeIs .pendingApproval .pendingApproval && rows.approvalIs .pending .pending &&
        rows.attempts.isEmpty && rows.permits.isEmpty then
      ⟨.awaitingApproval, [.approve, .reject], none, none⟩
    else .orConflict (rows.approval.any (·.1.status = .approved))
      ⟨.running, [], some "APPROVAL_RECORDED", none⟩
  else if state = .active then
    if rows.native.isNone && latest = .admitted then ⟨.planning, [.cancel], none, none⟩
    else .orConflict (rows.runnable && !rows.started)
      ⟨.running, if rows.native.any (·.1.status = .resuming) then [] else [.cancel], none, none⟩
  else .stateConflict

/-- The rows around an active step. -/
def Database.activeRows (db : Database) (checkpoint : GovernedPlanCheckpoint)
    (active : GovernedPlanStepRef) (organizationId : String) : Except Raised ActiveRows := do
  let native ← (db.getNativePair active.nativeTaskId active.nativeStepId
    organizationId).mapError (asAgentRunError [.valueError] "STATE_CONFLICT")
  let approval ← db.pendingApproval checkpoint
  pure ⟨native, approval, db.attemptsOf active.nativeTaskId, db.permitsOf active.nativeTaskId⟩

/-- What `_project_locked` says of the state of a run. -/
def viewLocked (P : Platform) (db : Database) (locked : LockedRun) : Except Raised RunView :=
  let checkpoint := locked.checkpoint
  match db.getPauseSignal checkpoint.rootTaskId locked.root.organizationId with
  | some (digest, signal) =>
      .ok (.orConflict (digest = P.digest checkpoint.modelDump &&
        signal.runId = checkpoint.rootTaskId) signal.view)
  | none =>
      match checkpoint.activeStep with
      | none => .ok (.orConflict (checkpoint.state = .completed) ⟨.succeeded, [], none, none⟩)
      | some active => do
          let rows ← db.activeRows checkpoint active locked.root.organizationId
          pure (viewActive checkpoint.state locked.latest.transition active rows)

/-! ## The projection -/

/-- The public state of a step. -/
def PlanStepState.public : PlanStepState → AgentRunPlanStepState
  | .pending => .pending
  | .active => .active
  | .completed => .completed
  | .probeBlocked => .blocked
  | .failed => .terminal
  | .superseded => .terminal

/-- `_public_plan`. -/
def publicPlan (checkpoint : GovernedPlanCheckpoint) : List AgentRunPlanStep :=
  (checkpoint.completedPrefix ++ checkpoint.activeStep.toList ++
    checkpoint.remainingSuffix).mapIdx fun i r => ⟨i + 1, "step", r.state.public⟩

/-- `_binding_for_bundle`. -/
def bindingForBundle (bundle : TaskAdmissionBundle) : Except Raised PackRuntimeBinding :=
  orAgentRunError "RUNTIME_BINDING_MISSING" bundle.runtimeBinding

/-- The public names of the Pack of a run. -/
def PackRuntimeRegistry.metadata (registry : PackRuntimeRegistry) (bundle : TaskAdmissionBundle)
    (binding : PackRuntimeBinding) : Except Raised PackMetadata :=
  if registry.tenantScoped then
    registry.publicMetadataForTenant bundle.tenantId binding.packId binding.packVersion
  else registry.publicMetadata binding.packId binding.packVersion

/-- `_projection`. -/
def projection (E : Environment) (locked : LockedRun) (view : RunView) :
    Except Raised AgentRunProjection := do
  let binding ← bindingForBundle locked.bundle
  let metadata ← E.registry.metadata locked.bundle binding
  let plan := publicPlan locked.checkpoint
  if h : 1 ≤ plan.length then
    pure
      { runId := locked.checkpoint.rootTaskId
        packId := metadata.packId
        packVersion := metadata.packVersion
        packDisplayName := metadata.displayName
        providerMode := locked.bundle.providerMode
        plan := plan
        completedSteps := locked.checkpoint.completedPrefix.length
        totalSteps := plan.length
        view := view
        totalSteps_pos := h }
  else throw ⟨.validationError, "AgentRunProjection"⟩

/-- `_project_locked`. -/
def projectLocked (P : Platform) (E : Environment) (db : Database) (locked : LockedRun) :
    Except Raised AgentRunProjection := do
  let view ← viewLocked P db locked
  projection E locked view

/-- `AgentRunService.get`. -/
def getRun (P : Platform) (E : Environment) (user : UserContext) (runId : String)
    (db : Database) : Except Raised AgentRunProjection := do
  let locked ← loadLocked P db user runId
  projectLocked P E db locked

/-! ## Inverting a projection -/

/-- A view in any state but a conflict is the one its condition guards. -/
theorem RunView.orConflict_eq {p : Bool} {view : RunView} :
    (p = true ∧ RunView.orConflict p view = view) ∨ RunView.orConflict p view = .stateConflict := by
  cases p with
  | true => exact .inl ⟨rfl, rfl⟩
  | false => exact .inr rfl

/-- The views of an active step, and what each says of the rows. -/
inductive ViewedAs (state : PlanRunState) (latest : PlanJournalTransition)
    (active : GovernedPlanStepRef) (rows : ActiveRows) : RunView → Prop
  | conflict : ViewedAs state latest active rows .stateConflict
  | blocked (hstate : state = .probeBlocked)
      (hnative : rows.nativeIs .pendingResultProbe .pendingResultProbe = true)
      (hrows : rows.blocked active = true) :
      ViewedAs state latest active rows ⟨.unknown, [.probe], some "RESULT_UNCERTAIN", none⟩
  | rejected (hlatest : latest = .approvalRejected) (hstate : state = .rejected)
      (hnative : rows.nativeIs .canceled .canceled = true)
      (happroval : rows.approvalIs .rejected .rejected = true) (hstarted : rows.started = false) :
      ViewedAs state latest active rows ⟨.rejected, [], some "APPROVAL_REJECTED", none⟩
  | cancelled (hlatest : latest = .runCancelled) (hstate : state = .cancelled)
      (hnative : rows.nativeIs .canceled .canceled = true) (hstarted : rows.started = false) :
      ViewedAs state latest active rows ⟨.cancelled, [], some "RUN_CANCELLED", none⟩
  | awaiting (hstate : state = .approvalRequired)
      (hnative : rows.nativeIs .pendingApproval .pendingApproval = true)
      (happroval : rows.approvalIs .pending .pending = true) (hattempts : rows.attempts = [])
      (hpermits : rows.permits = []) :
      ViewedAs state latest active rows ⟨.awaitingApproval, [.approve, .reject], none, none⟩
  | recorded (hstate : state = .approvalRequired) :
      ViewedAs state latest active rows ⟨.running, [], some "APPROVAL_RECORDED", none⟩
  | planning (hstate : state = .active) (hnative : rows.native = none)
      (hlatest : latest = .admitted) :
      ViewedAs state latest active rows ⟨.planning, [.cancel], none, none⟩
  | running (hstate : state = .active) (hnative : rows.runnable = true)
      (hstarted : rows.started = false) :
      ViewedAs state latest active rows ⟨.running,
        if rows.native.any (·.1.status = .resuming) then [] else [.cancel], none, none⟩

/-- The view of an active step is one of these. -/
theorem viewActive_viewed (state : PlanRunState) (latest : PlanJournalTransition)
    (active : GovernedPlanStepRef) (rows : ActiveRows) :
    ViewedAs state latest active rows (viewActive state latest active rows) := by
  have hguard : ∀ {p : Bool} {view : RunView}, (p = true → ViewedAs state latest active rows view) →
      ViewedAs state latest active rows (RunView.orConflict p view) := fun {p view} h => by
    rcases @RunView.orConflict_eq p view with ⟨hp, hview⟩ | hconflict
    · rw [hview]; exact h hp
    · rw [hconflict]; exact .conflict
  unfold viewActive
  split
  case isTrue hstate =>
    refine hguard fun hp => ?_
    simp only [Bool.and_eq_true] at hp
    exact .blocked hstate hp.1 hp.2
  case isFalse =>
  split
  case isTrue hlatest =>
    refine hguard fun hp => ?_
    simp only [Bool.and_eq_true, decide_eq_true_eq, Bool.not_eq_true'] at hp
    exact .rejected hlatest hp.1.1.1 hp.1.1.2 hp.1.2 hp.2
  case isFalse =>
  split
  case isTrue hlatest =>
    refine hguard fun hp => ?_
    simp only [Bool.and_eq_true, decide_eq_true_eq, Bool.not_eq_true'] at hp
    exact .cancelled hlatest hp.1.1 hp.1.2 hp.2
  case isFalse =>
  split
  case isTrue hstate =>
    split
    case isTrue hp =>
      simp only [Bool.and_eq_true, List.isEmpty_iff] at hp
      exact .awaiting hstate hp.1.1.1 hp.1.1.2 hp.1.2 hp.2
    case isFalse => exact hguard fun _ => .recorded hstate
  case isFalse =>
  split
  case isTrue hstate =>
    split
    case isTrue hp =>
      simp only [Bool.and_eq_true, Option.isNone_iff_eq_none, decide_eq_true_eq] at hp
      exact .planning hstate hp.1 hp.2
    case isFalse =>
      refine hguard fun hp => ?_
      simp only [Bool.and_eq_true, Bool.not_eq_true'] at hp
      exact .running hstate hp.1 hp.2
  case isFalse => exact .conflict

theorem projectLocked_eq_ok {P : Platform} {E : Environment} {db : Database}
    {locked : LockedRun} {p : AgentRunProjection} (h : projectLocked P E db locked = .ok p) :
    viewLocked P db locked = .ok p.view ∧ projection E locked p.view = .ok p := by
  obtain ⟨view, hview, hprojection⟩ := except_bind_eq_ok.mp h
  have hsame : p.view = view := by
    simp only [projection, except_bind_eq_ok] at hprojection
    obtain ⟨_, _, _, _, hp⟩ := hprojection
    split at hp
    case isTrue => cases hp; rfl
    case isFalse => cases hp
  rw [hsame]
  exact ⟨hview, hprojection⟩

theorem getRun_eq_ok {P : Platform} {E : Environment} {user : UserContext} {runId : String}
    {db : Database} {p : AgentRunProjection} (h : getRun P E user runId db = .ok p) :
    ∃ locked, LoadedFrom P db user.orgId runId locked ∧
      viewLocked P db locked = .ok p.view := by
  obtain ⟨locked, hload, hproject⟩ := except_bind_eq_ok.mp h
  exact ⟨locked, loadLocked_eq_ok.mp hload, (projectLocked_eq_ok hproject).1⟩

theorem getNativePair_eq_some {db : Database} {taskId stepId organizationId : String}
    {n : TaskModel × StepModel} :
    db.getNativePair taskId stepId organizationId = .ok (some n) ↔
      db.task? taskId organizationId = some n.1 ∧
        db.step? stepId taskId organizationId = some n.2 := by
  unfold Database.getNativePair
  cases db.task? taskId organizationId <;> cases db.step? stepId taskId organizationId <;>
    simp [Prod.ext_iff]

theorem getNativePair_eq_none {db : Database} {taskId stepId organizationId : String} :
    db.getNativePair taskId stepId organizationId = .ok none ↔
      db.task? taskId organizationId = none ∧ db.step? stepId taskId organizationId = none := by
  unfold Database.getNativePair
  cases db.task? taskId organizationId <;> cases db.step? stepId taskId organizationId <;> simp

theorem activeRows_eq_ok {db : Database} {checkpoint : GovernedPlanCheckpoint}
    {active : GovernedPlanStepRef} {organizationId : String} {rows : ActiveRows}
    (h : db.activeRows checkpoint active organizationId = .ok rows) :
    db.getNativePair active.nativeTaskId active.nativeStepId organizationId = .ok rows.native ∧
      db.pendingApproval checkpoint = .ok rows.approval ∧
      rows.attempts = db.attemptsOf active.nativeTaskId ∧
      rows.permits = db.permitsOf active.nativeTaskId := by
  simp only [Database.activeRows, except_bind_eq_ok, mapError_eq_ok] at h
  obtain ⟨_, hnative, _, happroval, hpure⟩ := h
  cases hpure
  exact ⟨hnative, happroval, rfl, rfl⟩

/-- The view of a run without a pause, by its active step. -/
theorem viewLocked_of_no_pause {P : Platform} {db : Database} {locked : LockedRun}
    {view : RunView}
    (hpause : db.getPauseSignal locked.checkpoint.rootTaskId locked.root.organizationId = none) :
    viewLocked P db locked = .ok view ↔
      (locked.checkpoint.activeStep = none ∧
        view = .orConflict (locked.checkpoint.state = .completed) ⟨.succeeded, [], none, none⟩) ∨
      ∃ active rows, locked.checkpoint.activeStep = some active ∧
        db.activeRows locked.checkpoint active locked.root.organizationId = .ok rows ∧
        view = viewActive locked.checkpoint.state locked.latest.transition active rows := by
  unfold viewLocked
  simp only [hpause]
  cases hactive : locked.checkpoint.activeStep with
  | none => simp [eq_comm]
  | some active =>
      simp only [except_bind_eq_ok, reduceCtorEq, false_and, false_or, Option.some.injEq]
      constructor
      · rintro ⟨rows, hrows, hpure⟩
        cases hpure
        exact ⟨active, rows, rfl, hrows, rfl⟩
      · rintro ⟨_, rows, rfl, hrows, rfl⟩
        exact ⟨rows, hrows, rfl⟩

/-- The views of a run, and what each says of the database. -/
inductive LockedView (P : Platform) (db : Database) (locked : LockedRun) : RunView → Prop
  | conflict : LockedView P db locked .stateConflict
  | paused {signal : RunPauseSignal}
      (hpause : db.getPauseSignal locked.checkpoint.rootTaskId locked.root.organizationId =
        some (P.digest locked.checkpoint.modelDump, signal))
      (hrun : signal.runId = locked.checkpoint.rootTaskId) : LockedView P db locked signal.view
  | succeeded
      (hpause : db.getPauseSignal locked.checkpoint.rootTaskId locked.root.organizationId = none)
      (hactive : locked.checkpoint.activeStep = none) (hstate : locked.checkpoint.state = .completed) :
      LockedView P db locked ⟨.succeeded, [], none, none⟩
  | active {active : GovernedPlanStepRef} {rows : ActiveRows} {view : RunView}
      (hpause : db.getPauseSignal locked.checkpoint.rootTaskId locked.root.organizationId = none)
      (hactive : locked.checkpoint.activeStep = some active)
      (hrows : db.activeRows locked.checkpoint active locked.root.organizationId = .ok rows)
      (hview : ViewedAs locked.checkpoint.state locked.latest.transition active rows view) :
      LockedView P db locked view

theorem viewLocked_viewed {P : Platform} {db : Database} {locked : LockedRun} {view : RunView}
    (h : viewLocked P db locked = .ok view) : LockedView P db locked view := by
  cases hpause : db.getPauseSignal locked.checkpoint.rootTaskId locked.root.organizationId with
  | some pause =>
      obtain ⟨digest, signal⟩ := pause
      simp only [viewLocked, hpause, Except.ok.injEq] at h
      subst h
      unfold RunView.orConflict
      split
      case isTrue hguard =>
        simp only [Bool.and_eq_true, decide_eq_true_eq] at hguard
        exact .paused (hguard.1 ▸ hpause) hguard.2
      case isFalse => exact .conflict
  | none =>
      rcases (viewLocked_of_no_pause hpause).mp h with
        ⟨hactive, rfl⟩ | ⟨active, rows, hactive, hrows, rfl⟩
      · unfold RunView.orConflict
        split
        case isTrue hstate => exact .succeeded hpause hactive (by simpa using hstate)
        case isFalse => exact .conflict
      · exact .active hpause hactive hrows (viewActive_viewed _ _ active rows)

/-- A pause offers no decision and no probe. -/
theorem RunPauseSignal.view_legalActions (signal : RunPauseSignal) :
    ∀ a ∈ signal.view.legalActions, a ∉ [.approve, .reject, .probe] := by
  intro a ha
  obtain ⟨allowed, _, rfl⟩ := List.mem_map.mp ha
  cases allowed <;> simp [RunPauseAction.legal]

end AgentPact
