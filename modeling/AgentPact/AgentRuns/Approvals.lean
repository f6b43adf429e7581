import AgentPact.AgentRuns.Database

/-!
# Approval decisions

`approval/persistence.py`, the decisions of
`governance/pending_action_service.py`, and how a paused step resumes
(`governance/approval_pause_service.py`).

A decision settles an approval request and the pending action behind it.  The
action is not executed from its row: resuming the step invalidates the row and
leaves the step to be observed again.

None of these writes touches a permit, an attempt or the audit table.
-/

namespace AgentPact

open Base Transaction

/-! ## Changes of rows -/

/-- Move a pending action from one status to another, to its next version. -/
def PendingActionModel.move (fromStatus toStatus : PendingActionStatus)
    (h : toStatus.unresolved = true → fromStatus.unresolved = true) : Edit PendingActionModel where
  apply r :=
    if r.status = fromStatus then { r with status := toStatus, rowVersion := r.rowVersion + 1 }
    else r
  key_apply r := by split <;> rfl
  tame {r x} hclash := by
    split at hclash
    case isTrue hstatus =>
      simp only [Schema.clash, PendingActionModel.clash, Bool.or_eq_true, Bool.and_eq_true,
        decide_eq_true_eq] at hclash ⊢
      rcases hclash with hclash | ⟨⟨hsame, hto⟩, hx⟩
      · exact .inl hclash
      · exact .inr ⟨⟨hsame, by rw [hstatus]; exact h hto⟩, hx⟩
    case isFalse => exact hclash

/-- An invalidated action is resolved. -/
theorem invalidated_resolved (h : PendingActionStatus.invalidated.unresolved = true) :
    PendingActionStatus.approved.unresolved = true := by
  cases h

/-- The arguments of a decision. -/
structure ApprovalDecision where
  approvalId : String
  organizationId : String
  approverUserId : String
  approved : Bool
  decisionNote : String
  now : DateTime

/-- The status a decision gives an approval request. -/
def ApprovalDecision.status (d : ApprovalDecision) : ApprovalStatus :=
  if d.approved then .approved else .rejected

/-- The status a decision gives a pending action. -/
def ApprovalDecision.pendingStatus (d : ApprovalDecision) : PendingActionStatus :=
  if d.approved then .approved else .rejected

/-- Record a decision on an approval request. -/
def ApprovalRequestModel.decide (d : ApprovalDecision) : Edit ApprovalRequestModel where
  apply r := { r with
    status := d.status
    approverUserId := some d.approverUserId
    decisionNote := some d.decisionNote
    decidedAt := some d.now.bind }
  key_apply _ := rfl
  tame h := h

namespace Database

/-- Change a pending action. -/
def updatePending (db : Database) (pendingActionId : String) (e : Edit PendingActionModel) :
    Database := { db with pendingActions := db.pendingActions.update pendingActionId e }

/-- Change an approval request. -/
def updateApproval (db : Database) (approvalId : String) (e : Edit ApprovalRequestModel) :
    Database := { db with approvals := db.approvals.update approvalId e }

end Database

/-! ## Pending actions -/

/-- `_get_for_update`. -/
def getForUpdate (pendingActionId : String) : AgentRunTx PendingActionModel :=
  fetch (·.pendingActions.find? pendingActionId)
    ⟨.pendingActionError, "Pending action does not exist"⟩

/-- `_require_pending`. -/
def requirePending (model : PendingActionModel) (expectedRowVersion : Nat) (now : DateTime) :
    AgentRunTx Unit := do
  require (model.status = .pending)
    ⟨.pendingActionError, "Pending action is not available for this transition"⟩
  require (model.rowVersion = expectedRowVersion)
    ⟨.pendingActionError, "Pending action version conflict"⟩
  if now.bind ≤ model.expiresAt then pure ()
  else
    write (·.updatePending model.pendingActionId (PendingActionModel.move .pending .expired (nomatch ·)))
    throw ⟨.pendingActionError, "Pending action has expired"⟩

/-- `record_approval_decision`. -/
def recordApprovalDecision (pendingActionId : String) (d : ApprovalDecision)
    (expectedRowVersion : Nat) : AgentRunTx PendingActionModel := do
  let model ← getForUpdate pendingActionId
  requirePending model expectedRowVersion d.now
  require (model.approvalId = some d.approvalId)
    ⟨.pendingActionError, "Approval decision does not match the pending action"⟩
  let edit := PendingActionModel.move .pending d.pendingStatus fun _ => rfl
  write (·.updatePending pendingActionId edit)
  pure (edit.apply model)

/-- `invalidate_approved_action_for_reobservation`. -/
def invalidateApprovedActionForReobservation (pendingActionId : String)
    (expectedRowVersion : Nat) : AgentRunTx PendingActionModel := do
  let model ← getForUpdate pendingActionId
  require (model.status = .approved)
    ⟨.pendingActionError, "Only approved actions can be invalidated for re-observation"⟩
  require (model.rowVersion = expectedRowVersion)
    ⟨.pendingActionError, "Pending action version conflict"⟩
  let edit := PendingActionModel.move .approved .invalidated invalidated_resolved
  write (·.updatePending pendingActionId edit)
  pure (edit.apply model)

/-! ## Approval requests -/

/-- The pending action an approval request decides. -/
def Database.pendingOf (db : Database) (approvalId : String) : Option PendingActionModel :=
  (db.pendingActions.select fun m => m.approvalId = some approvalId).head?

/-- `decide_approval_request`. -/
def decideApprovalRequest (d : ApprovalDecision) : AgentRunTx ApprovalRequestModel := do
  let approval ← fetch (·.approvals.find? d.approvalId)
    ⟨.approvalPersistenceError, "Approval request does not exist"⟩
  require (approval.organizationId = d.organizationId)
    ⟨.approvalPersistenceError, "Approval request belongs to another organization"⟩
  require (approval.status = .pending)
    ⟨.approvalPersistenceError, "Approval request is not pending"⟩
  require (approval.requesterUserId ≠ some d.approverUserId)
    ⟨.approvalPersistenceError, "Requester cannot approve their own request"⟩
  let pending ← read (·.pendingOf d.approvalId)
  write (·.updateApproval d.approvalId (ApprovalRequestModel.decide d))
  match pending with
  | none => pure ()
  | some model =>
      let _ ← recordApprovalDecision model.pendingActionId d model.rowVersion
      pure ()
  pure ((ApprovalRequestModel.decide d).apply approval)

/-! ## Resuming a paused step -/

/-- A step that was paused, and the action it was paused for. -/
structure ApprovalPauseState where
  taskId : String
  stepId : String
  taskStatus : AgentRunTaskStatus
  stepStatus : AgentRunStepStatus
  pendingAction : PendingActionModel

/-- `_load_task_and_step`. -/
def loadTaskAndStep (taskId stepId organizationId : String) :
    AgentRunTx (TaskModel × StepModel) :=
  fetch (fun db => (db.task? taskId organizationId).bind fun task =>
      (db.step? stepId taskId organizationId).map fun step => (task, step))
    ⟨.approvalPauseError, "Task or step does not exist"⟩

/-- `begin_reobservation_after_approval`. -/
def beginReobservationAfterApproval (taskId stepId organizationId pendingActionId : String)
    (expectedRowVersion : Nat) : AgentRunTx ApprovalPauseState := do
  let pending ← fetch (fun db => (db.pendingActions.find? pendingActionId).filter fun m =>
      m.status = .approved && m.rowVersion = expectedRowVersion)
    ⟨.approvalPauseError, "Approved pending action is not available for re-observation"⟩
  require (pending.taskId = taskId ∧ pending.stepId = stepId)
    ⟨.approvalPauseError, "Pending action does not belong to this task step"⟩
  let (task, step) ← loadTaskAndStep taskId stepId organizationId
  require (task.status = .pendingApproval ∧ step.status = .pendingApproval)
    ⟨.approvalPauseError, "Only pending-approval task and step can resume"⟩
  let action ← invalidateApprovedActionForReobservation pendingActionId expectedRowVersion
  write (·.setNativeStatus taskId stepId .resuming .resuming)
  pure ⟨taskId, stepId, .resuming, .resuming, action⟩

/-! ## What the decisions write -/

/-- Only approval requests and pending actions differ. -/
def Database.SameButApprovals (s t : Database) : Prop :=
  t = { s with approvals := t.approvals, pendingActions := t.pendingActions }

namespace Database.SameButApprovals

theorem refl (s : Database) : s.SameButApprovals s := rfl

theorem trans (s t u : Database) (h : s.SameButApprovals t) (h' : t.SameButApprovals u) :
    s.SameButApprovals u := by
  rw [SameButApprovals] at *
  rw [h] at h'
  exact h'

theorem updatePending (db : Database) (id : String) (e : Edit PendingActionModel) :
    db.SameButApprovals (db.updatePending id e) := rfl

theorem updateApproval (db : Database) (id : String) (e : Edit ApprovalRequestModel) :
    db.SameButApprovals (db.updateApproval id e) := rfl

end Database.SameButApprovals

theorem requirePending_eq_ok {model : PendingActionModel} {version : Nat} {now : DateTime}
    {s t : Database} {u : Unit} :
    requirePending model version now s = .ok u t ↔
      model.status = .pending ∧ model.rowVersion = version ∧ now.bind ≤ model.expiresAt ∧ t = s := by
  simp only [requirePending, bind_eq_ok, require_eq_ok]
  constructor
  · rintro ⟨_, _, ⟨hstatus, rfl⟩, _, _, ⟨hversion, rfl⟩, h⟩
    split at h
    case isTrue hle => cases h; exact ⟨hstatus, hversion, hle, rfl⟩
    case isFalse =>
      obtain ⟨_, _, _, h⟩ := bind_eq_ok.mp h
      cases h
  · rintro ⟨hstatus, hversion, hle, rfl⟩
    refine ⟨(), t, ⟨hstatus, rfl⟩, (), t, ⟨hversion, rfl⟩, ?_⟩
    rw [if_pos hle]
    rfl

/-- A recorded decision moves a pending action that is linked to the approval and not expired. -/
theorem recordApprovalDecision_eq_ok {id : String} {d : ApprovalDecision} {version : Nat}
    {s t : Database} {m : PendingActionModel} :
    recordApprovalDecision id d version s = .ok m t ↔
      ∃ model : PendingActionModel, s.pendingActions.find? id = some model ∧
        model.status = .pending ∧ model.rowVersion = version ∧ d.now.bind ≤ model.expiresAt ∧
        model.approvalId = some d.approvalId ∧
        t = s.updatePending id (PendingActionModel.move .pending d.pendingStatus fun _ => rfl) ∧
        m = (PendingActionModel.move .pending d.pendingStatus fun _ => rfl).apply model := by
  simp only [recordApprovalDecision, getForUpdate, bind_eq_ok, fetch_eq_ok, require_eq_ok,
    write_eq_ok, requirePending_eq_ok]
  constructor
  · rintro ⟨model, _, ⟨hfind, rfl⟩, _, _, ⟨hstatus, hversion, hle, rfl⟩, _, _, ⟨hlinked, rfl⟩, _, _,
      rfl, hpure⟩
    cases hpure
    exact ⟨model, hfind, hstatus, hversion, hle, hlinked, rfl, rfl⟩
  · rintro ⟨model, hfind, hstatus, hversion, hle, hlinked, rfl, rfl⟩
    exact ⟨model, s, ⟨hfind, rfl⟩, (), s, ⟨hstatus, hversion, hle, rfl⟩, (), s, ⟨hlinked, rfl⟩, (),
      _, rfl, rfl⟩

/-- The pending action of an approval is linked to it. -/
theorem Database.pendingOf_eq_some {db : Database} {approvalId : String}
    {m : PendingActionModel} (h : db.pendingOf approvalId = some m) :
    db.pendingActions.find? m.pendingActionId = some m ∧ m.approvalId = some approvalId := by
  have hmem : m ∈ db.pendingActions.select fun m => m.approvalId = some approvalId :=
    List.mem_of_mem_head? h
  obtain ⟨hrow, hlinked⟩ := Table.mem_select.mp hmem
  exact ⟨Table.find?_key hrow, by simpa using hlinked⟩

/-- What a decision writes: the approval request, and the pending action linked to it. -/
inductive DecisionWrites (d : ApprovalDecision) (s : Database) : Database → Prop
  | alone (hnone : s.pendingOf d.approvalId = none) :
      DecisionWrites d s (s.updateApproval d.approvalId (ApprovalRequestModel.decide d))
  | linked {model : PendingActionModel} (hsome : s.pendingOf d.approvalId = some model)
      (hpending : model.status = .pending) (hle : d.now.bind ≤ model.expiresAt) :
      DecisionWrites d s
        ((s.updateApproval d.approvalId (ApprovalRequestModel.decide d)).updatePending
          model.pendingActionId (PendingActionModel.move .pending d.pendingStatus fun _ => rfl))

theorem DecisionWrites.same {d : ApprovalDecision} {s t : Database} (h : DecisionWrites d s t) :
    s.SameButApprovals t := by
  cases h with
  | alone _ => exact .updateApproval _ _ _
  | linked _ _ _ => exact .trans _ _ _ (.updateApproval _ _ _) (.updatePending _ _ _)

/-- A pending action keeps its step through a decision. -/
theorem DecisionWrites.pendingActions {d : ApprovalDecision} {s t : Database}
    (h : DecisionWrites d s t) {id : String} {m : PendingActionModel}
    (hm : t.pendingActions.find? id = some m) :
    ∃ m₀, s.pendingActions.find? id = some m₀ ∧ m.taskId = m₀.taskId ∧ m.stepId = m₀.stepId := by
  cases h with
  | alone _ => exact ⟨m, hm, rfl, rfl⟩
  | linked _ _ _ =>
      obtain ⟨m₀, hm₀, rfl | ⟨_, rfl⟩⟩ := Table.find?_update_some hm
      · exact ⟨m, hm₀, rfl, rfl⟩
      · refine ⟨m₀, hm₀, ?_⟩
        unfold PendingActionModel.move
        dsimp only
        split <;> exact ⟨rfl, rfl⟩

/-- A decision settles a pending approval that somebody else requested. -/
theorem decideApprovalRequest_eq_ok {d : ApprovalDecision} {s t : Database}
    {r : ApprovalRequestModel} (h : decideApprovalRequest d s = .ok r t) :
    (∃ approval : ApprovalRequestModel, s.approvals.find? d.approvalId = some approval ∧
      approval.organizationId = d.organizationId ∧ approval.status = .pending ∧
      approval.requesterUserId ≠ some d.approverUserId ∧
      r = (ApprovalRequestModel.decide d).apply approval) ∧ DecisionWrites d s t := by
  simp only [decideApprovalRequest, bind_eq_ok, fetch_eq_ok, require_eq_ok, read_eq_ok,
    write_eq_ok] at h
  obtain ⟨approval, _, ⟨hfind, rfl⟩, _, _, ⟨horganization, rfl⟩, _, _, ⟨hpending, rfl⟩, _, _,
    ⟨hrequester, rfl⟩, pending, _, ⟨hpendingOf, rfl⟩, _, _, rfl, hrecord⟩ := h
  cases pending with
  | none =>
      cases hrecord
      exact ⟨⟨approval, hfind, horganization, hpending, hrequester, rfl⟩, .alone hpendingOf.symm⟩
  | some model =>
      obtain ⟨_, _, hrecord, hpure⟩ := bind_eq_ok.mp hrecord
      cases hpure
      obtain ⟨model', hmodel', hstatus, _, hle, _, rfl, _⟩ :=
        recordApprovalDecision_eq_ok.mp hrecord
      have hmodel := (Database.pendingOf_eq_some hpendingOf.symm).1
      cases hmodel.symm.trans hmodel'
      exact ⟨⟨approval, hfind, horganization, hpending, hrequester, rfl⟩,
        .linked hpendingOf.symm hstatus hle⟩

/-- A step resumes only from its approval pause, and its approved action is invalidated. -/
theorem beginReobservationAfterApproval_eq_ok {taskId stepId organizationId id : String}
    {version : Nat} {s t : Database} {r : ApprovalPauseState}
    (h : beginReobservationAfterApproval taskId stepId organizationId id version s = .ok r t) :
    ∃ (pending : PendingActionModel) (task : TaskModel) (step : StepModel),
      s.pendingActions.find? id = some pending ∧ pending.status = .approved ∧
      pending.rowVersion = version ∧ pending.taskId = taskId ∧ pending.stepId = stepId ∧
      s.task? taskId organizationId = some task ∧ task.status = .pendingApproval ∧
      s.step? stepId taskId organizationId = some step ∧ step.status = .pendingApproval ∧
      r.pendingAction.status = .invalidated ∧
      t = (s.updatePending id (PendingActionModel.move .approved .invalidated
        invalidated_resolved)).setNativeStatus taskId stepId .resuming .resuming := by
  simp only [beginReobservationAfterApproval, loadTaskAndStep,
    invalidateApprovedActionForReobservation, getForUpdate, bind_eq_ok, fetch_eq_ok,
    require_eq_ok, write_eq_ok, Option.bind_eq_some_iff, Option.map_eq_some_iff,
    Option.filter_eq_some_iff, Bool.and_eq_true, decide_eq_true_eq] at h
  obtain ⟨pending, _, ⟨⟨hfind, hstatus, hversion⟩, rfl⟩, _, _, ⟨⟨htaskId, hstepId⟩, rfl⟩,
    ⟨task, step⟩, _, ⟨⟨_, htask, _, hstep, hpair⟩, rfl⟩, _, _, ⟨⟨htaskStatus, hstepStatus⟩, rfl⟩, _,
    s', ⟨model, _, ⟨hmodel, rfl⟩, _, _, ⟨happroved, rfl⟩, _, _, ⟨_, rfl⟩, _, _, rfl, hpure⟩, _, _,
    rfl, hret⟩ := h
  cases hpair
  cases hpure
  cases hret
  refine ⟨pending, _, _, hfind, hstatus, hversion, htaskId, hstepId, htask, htaskStatus, hstep,
    hstepStatus, ?_, rfl⟩
  simp [PendingActionModel.move, happroved]

/-- A step that cannot resume is left as it is. -/
theorem beginReobservationAfterApproval_clean (taskId stepId organizationId id : String)
    (version : Nat) :
    Clean (beginReobservationAfterApproval taskId stepId organizationId id version) := by
  have hinvalidate : Clean (invalidateApprovedActionForReobservation id version) := by
    refine .bind_keeps (fun _ => .fetch _ _) fun model => .bind_keeps (fun _ => .require _ _)
      fun _ => .bind_keeps (fun _ => .require _ _) fun _ => .of_returns fun s e t h => ?_
    rcases bind_eq_error.mp h with h | ⟨_, _, _, h⟩
    · exact write_ne_error h
    · cases h
  refine .bind_keeps (fun _ => .fetch _ _) fun pending => .bind_keeps (fun _ => .require _ _)
    fun _ => .bind_keeps (fun _ => .fetch _ _) fun pair => .bind_keeps (fun _ => .require _ _)
    fun _ => .bind_returns hinvalidate fun action s e t h => ?_
  rcases bind_eq_error.mp h with h | ⟨_, _, _, h⟩
  · exact write_ne_error h
  · cases h

end AgentPact
