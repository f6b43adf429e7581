import AgentPact.AgentRuns.ApprovalQueue
import AgentPact.AgentRuns.ApprovalRounds

/-!
# Who may decide an approval

An approval request names the department that decides it.  There are two ways
in: the endpoint asks for a role in that department (`userCanApprove`), and the
service asks for the role of an approver in any department (`is_any_approver`).

Through the endpoint only those decide a request who may
(`ApprovalEntry.Moves.canApprove`).  Through the service every approver of the
tenant does, and `only_authorized_iff` says for which users the two ways in
grant the same.
-/

namespace AgentPact

open Base Transaction

/-! ## The two ways in -/

/-- A way to decide an approval request. -/
inductive ApprovalEntry where
  /-- `AgentRunService.approve` and `AgentRunService.reject`. -/
  | service (E : Environment) (runId : String) (request : AgentRunCommandRequest)
  /-- The endpoints `approve` and `reject`. -/
  | endpoint (approvalId : String) (body : DecisionRequest) (now : DateTime)

/-- The database after a decision of a user. -/
def ApprovalEntry.decide (P : Platform) (user : UserContext) (approved : Bool) (db : Database) :
    ApprovalEntry → Database
  | .service E runId request =>
      if approved then left (approve P E user runId request db)
      else left (Termination.run P E user runId request .reject db)
  | .endpoint approvalId body now =>
      left (decidePersistedRequest user approvalId approved body now db)

/-- The status that a decision gives a request. -/
def decisionStatus (approved : Bool) : ApprovalStatus := if approved then .approved else .rejected

/-- A user moves a request to the status of a decision. -/
def ApprovalEntry.Moves (entry : ApprovalEntry) (P : Platform) (user : UserContext)
    (approved : Bool) (db : Database) (approval : ApprovalRequestModel) : Prop :=
  db.approvals.find? approval.approvalId = some approval ∧
    approval.status ≠ decisionStatus approved ∧
    ∃ decided, (entry.decide P user approved db).approvals.find? approval.approvalId = some decided ∧
      decided.status = decisionStatus approved

/-- A user moves the requests of a department in their tenant only if they may decide them. -/
def OnlyAuthorized (user : UserContext) (departmentId : String) : Prop :=
  ∀ (P : Platform) (entry : ApprovalEntry) (approved : Bool) (db : Database)
    (approval : ApprovalRequestModel), approval.organizationId = user.orgId →
      approval.approverDepartmentId = departmentId → entry.Moves P user approved db approval →
      userCanApprove user departmentId = true

section Entries

variable {P : Platform} {user : UserContext} {approved : Bool} {db : Database}
  {approval : ApprovalRequestModel}

/-- A decision on a pending request that somebody else made, before its action expires. -/
theorem decideApprovalRequest_linked {d : ApprovalDecision} {s : Database}
    {row : ApprovalRequestModel} {model : PendingActionModel}
    (hfind : s.approvals.find? d.approvalId = some row)
    (horganization : row.organizationId = d.organizationId) (hpending : row.status = .pending)
    (hrequester : row.requesterUserId ≠ some d.approverUserId)
    (hof : s.pendingOf d.approvalId = some model) (hstatus : model.status = .pending)
    (hle : d.now.bind ≤ model.expiresAt) :
    ∃ r, decideApprovalRequest d s = .ok r
      ((s.updateApproval d.approvalId (ApprovalRequestModel.decide d)).updatePending
        model.pendingActionId (PendingActionModel.move .pending d.pendingStatus fun _ => rfl)) := by
  obtain ⟨hmodel, hlinked⟩ := Database.pendingOf_eq_some hof
  simp only [decideApprovalRequest, bind_eq_ok, fetch_eq_ok, require_eq_ok, read_eq_ok, write_eq_ok]
  refine ⟨(ApprovalRequestModel.decide d).apply row, row, s, ⟨hfind, rfl⟩, (), s,
    ⟨horganization, rfl⟩, (), s, ⟨hpending, rfl⟩, (), s, ⟨hrequester, rfl⟩, some model, s,
    ⟨hof.symm, rfl⟩, (), _, rfl, ?_⟩
  exact bind_eq_ok.mpr ⟨_, _, recordApprovalDecision_eq_ok.mpr
    ⟨model, hmodel, hstatus, rfl, hle, hlinked, rfl, rfl⟩, rfl⟩

/-- What stays as it is was not moved. -/
theorem ApprovalEntry.Moves.changed {entry : ApprovalEntry}
    (h : entry.Moves P user approved db approval) :
    (entry.decide P user approved db).approvals.find? approval.approvalId ≠
      db.approvals.find? approval.approvalId := by
  obtain ⟨hfind, hne, decided, hdecided, hstatus⟩ := h
  intro hsame
  rw [hdecided, hfind] at hsame
  cases hsame
  exact hne hstatus

/-- The endpoint moves a request only for a user who may decide it. -/
theorem ApprovalEntry.Moves.canApprove {approvalId : String} {body : DecisionRequest}
    {now : DateTime}
    (h : (ApprovalEntry.endpoint approvalId body now).Moves P user approved db approval) :
    userCanApprove user approval.approverDepartmentId = true := by
  have hchanged : (left (decidePersistedRequest user approvalId approved body now db)).approvals.find?
      approval.approvalId ≠ db.approvals.find? approval.approvalId := h.changed
  cases hrun : decidePersistedRequest user approvalId approved body now db with
  | error e t =>
      have hclean : t = db := decidePersistedRequest_clean user approvalId approved body now _ _ _ hrun
      rw [hrun, left_error, hclean] at hchanged
      exact absurd rfl hchanged
  | ok r t =>
      rw [hrun, left_ok] at hchanged
      obtain ⟨_, row, hrow, _, hcan, hdecide⟩ := decidePersistedRequest_eq_ok.mp hrun
      have happrovals : t.approvals = db.approvals.update approvalId
          (ApprovalRequestModel.decide
            ⟨approvalId, user.orgId, user.userId, approved, body.note, now⟩) := by
        cases (decideApprovalRequest_eq_ok hdecide).2 <;> rfl
      have hid : approval.approvalId = approvalId := by
        by_contra hother
        rw [happrovals, Table.find?_update_ne hother] at hchanged
        exact hchanged rfl
      have hsame : approval = row := Option.some.inj (h.1.symm.trans (hid ▸ hrow))
      rw [hsame]
      exact hcan

/-- The service moves a request only for an approver. -/
theorem ApprovalEntry.Moves.isAnyApprover {E : Environment} {runId : String}
    {request : AgentRunCommandRequest}
    (h : (ApprovalEntry.service E runId request).Moves P user approved db approval) :
    user.isAnyApprover = true := by
  by_contra hnot
  have hchanged := h.changed
  refine hchanged (congrArg (fun t : Database => t.approvals.find? approval.approvalId) ?_)
  unfold ApprovalEntry.decide
  cases approved with
  | true =>
      have hrefused : approve P E user runId request db =
          .error (agentRunError "APPROVER_REQUIRED") db := require_bind_not hnot
      dsimp only
      rw [if_pos rfl, hrefused, left_error]
  | false =>
      refine Termination.run_keeps fun locked hadmits => ?_
      simp only [Termination.admits, rejectAdmits, except_bind_eq_ok, demand_eq_ok] at hadmits
      obtain ⟨_, hrole, _⟩ := hadmits
      exact hnot hrole

end Entries

/-! ## A run that awaits its approval, in any tenant and for any department -/

section Tenant

/-- The event of the pause of the examples. -/
def pausedEvent : PlanJournalEvent := approvalRequest.event samplePlatform

/-- Where the paused run stands. -/
@[irreducible] def pausedCheckpoint : GovernedPlanCheckpoint := lastCheckpoint awaitingDatabase

theorem sampleRunId_ne_task : sampleRunId ≠ "task" := by decide +kernel

theorem pausedEvent_fresh : admittedEvent.eventId ≠ pausedEvent.eventId := by decide +kernel

/-- The journal of the paused run replays to where it stands. -/
theorem paused_replays :
    replayPlanJournal samplePlatform [admittedEvent, pausedEvent] = .ok pausedCheckpoint ∧
      pausedCheckpoint.rootTaskId = sampleRunId ∧ pausedCheckpoint.state = .approvalRequired ∧
      pausedCheckpoint.activeStep = some sampleStep ∧ pausedCheckpoint.completedPrefix = [] ∧
      pausedCheckpoint.remainingSuffix = [] ∧ pausedCheckpoint.supersededSuffix = [] := by
  decide +kernel

/-- The event of a rejection has an identity of its own. -/
theorem rejection_fresh : ∀ event ∈ [admittedEvent, pausedEvent], event.eventId ≠
    stableId samplePlatform pausedCheckpoint.planRunId (eventKind pausedCheckpoint.planVersion
      (pausedCheckpoint.journalSequence + 1) .approvalRejected) := by
  decide +kernel

/-- The hash of the examples gives all tenants one run. -/
theorem derivePackRunId_sample (tenantId requestId : String) :
    derivePackRunId samplePlatform tenantId requestId = sampleRunId :=
  congrArg (fun text => "run_" ++ (samplePlatform.sha256 text).hex)
    (rfl : samplePlatform.dumps _ = samplePlatform.dumps _)

variable (organizationId departmentId : String)

/-- The root of the run. -/
def tenantRoot : TaskModel :=
  ⟨sampleRunId, organizationId, .created, some "agentpact:agent-run:plan:v1"⟩

/-- The task of its step. -/
def tenantTask : TaskModel := ⟨"task", organizationId, .pendingApproval, none⟩

/-- Its step. -/
def tenantStep : StepModel := ⟨"step", "task", organizationId, .pendingApproval⟩

/-- The records it was admitted with. -/
def tenantBundle : TaskAdmissionBundle := { sampleBundle with tenantId := organizationId }

/-- The action that waits for its approval. -/
def tenantAction : PendingActionModel :=
  ⟨"action", "task", "step", organizationId, some "approval", .pending, 2, (DateTime.utc 1000).bind⟩

/-- The approval request, which names no requester. -/
def tenantApproval : ApprovalRequestModel :=
  ⟨"approval", "task", organizationId, none, departmentId, .pending, none, none, none⟩

/-- The run in the database. -/
def tenantDatabase : Database where
  tasks := ⟨[tenantRoot organizationId, tenantTask organizationId],
    List.pairwise_pair.mpr fun h => sampleRunId_ne_task (of_decide_eq_true h)⟩
  steps := ⟨[tenantStep organizationId], List.pairwise_singleton _ _⟩
  admissions := ⟨[⟨"admission", organizationId, "request", sampleRunId, tenantBundle organizationId⟩],
    List.pairwise_singleton _ _⟩
  audit := ⟨[eventRow admittedEvent organizationId, eventRow pausedEvent organizationId],
    List.pairwise_pair.mpr fun h => pausedEvent_fresh (of_decide_eq_true h)⟩
  pendingActions := ⟨[tenantAction organizationId], List.pairwise_singleton _ _⟩
  approvals := ⟨[tenantApproval organizationId departmentId], List.pairwise_singleton _ _⟩
  execution := .empty

/-- The run under its lock. -/
def tenantLocked : LockedRun where
  root := tenantRoot organizationId
  bundle := tenantBundle organizationId
  checkpoint := pausedCheckpoint
  events := [admittedEvent, pausedEvent]
  latest := pausedEvent

variable {organizationId departmentId}

theorem tenant_loadEvents : (tenantDatabase organizationId departmentId).loadEvents sampleRunId =
    [admittedEvent, pausedEvent] := by
  have hroot : admittedEvent.rootTaskId = sampleRunId ∧ pausedEvent.rootTaskId = sampleRunId := by
    decide +kernel
  have hsequence : admittedEvent.sequence ≤ pausedEvent.sequence := by decide +kernel
  simp [Database.loadEvents, tenantDatabase, Database.journalEvent, eventRow, hroot.1, hroot.2,
    hsequence]

theorem tenant_task : (tenantDatabase organizationId departmentId).task? "task" organizationId =
    some (tenantTask organizationId) := by
  refine Option.filter_eq_some_iff.mpr ⟨Table.find?_eq_some.mpr ⟨?_, rfl⟩, by simp [tenantTask]⟩
  exact List.mem_cons_of_mem _ (List.mem_singleton_self _)

theorem tenant_step : (tenantDatabase organizationId departmentId).step? "step" "task"
    organizationId = some (tenantStep organizationId) := by
  refine Option.filter_eq_some_iff.mpr ⟨Table.find?_eq_some.mpr ⟨?_, rfl⟩, by simp [tenantStep]⟩
  exact List.mem_singleton_self _

theorem tenant_loaded : LoadedFrom samplePlatform (tenantDatabase organizationId departmentId)
    organizationId sampleRunId (tenantLocked organizationId) where
  root := by
    have hfind : (tenantDatabase organizationId departmentId).tasks.find? sampleRunId =
        some (tenantRoot organizationId) :=
      Table.find?_eq_some.mpr ⟨List.mem_cons_self .., by simp [Schema.key, tenantRoot]⟩
    change (tenantDatabase organizationId departmentId).task? sampleRunId organizationId =
      some (tenantRoot organizationId)
    exact Option.filter_eq_some_iff.mpr ⟨hfind, by simp [tenantRoot]⟩
  marker := rfl
  admission := by
    simp [Database.admissionOf, Table.select, tenantDatabase, tenantLocked]
  identity := by
    rw [derivePackRunId_sample]
    simp only [tenantLocked, tenantRoot, tenantBundle, sampleBundle, and_self]
  events := tenant_loadEvents.symm
  replay := by
    rw [tenant_loadEvents]
    exact paused_replays.1
  latest := by
    rw [tenant_loadEvents]
    rfl

/-- The pending action of the active step, and its approval request. -/
theorem tenant_pendingApproval :
    (tenantDatabase organizationId departmentId).pendingApproval pausedCheckpoint =
      .ok (some (tenantAction organizationId, tenantApproval organizationId departmentId)) := by
  refine Database.pendingApproval_rows.mpr ⟨sampleStep, paused_replays.2.2.2.1, rfl, "approval", rfl,
    by decide, ?_, rfl, rfl⟩
  exact Table.find?_eq_some.mpr ⟨List.mem_singleton_self _, rfl⟩

/-- The run awaits its approval. -/
theorem tenant_awaits : viewLocked samplePlatform (tenantDatabase organizationId departmentId)
    (tenantLocked organizationId) = .ok .awaitingApproval := by
  refine tenant_loaded.awaiting_iff.mpr ⟨?_, paused_replays.2.2.1, sampleStep,
    ⟨some (tenantTask organizationId, tenantStep organizationId),
      some (tenantAction organizationId, tenantApproval organizationId departmentId), [], []⟩,
    paused_replays.2.2.2.1, ?_, rfl, rfl, rfl, rfl⟩
  · simp [Database.getPauseSignal, Database.isPauseOrResolution, Table.select, tenantDatabase,
      eventRow]
  · have hnative : (tenantDatabase organizationId departmentId).getNativePair
        "task" "step" organizationId =
          .ok (some (tenantTask organizationId, tenantStep organizationId)) :=
      getNativePair_eq_some.mpr ⟨tenant_task, tenant_step⟩
    simp only [Database.activeRows, sampleStep, except_bind_eq_ok, mapError_eq_ok]
    exact ⟨_, hnative, _, tenant_pendingApproval, rfl⟩

/-- The decision of a user who rejects the request. -/
def tenantDecision (user : UserContext) : ApprovalDecision :=
  ⟨"approval", user.orgId, user.userId, false, safeReason samplePlatform none, .utc 12⟩

/-- What the decision leaves. -/
def tenantDecided (user : UserContext) (departmentId : String) : Database :=
  ((tenantDatabase user.orgId departmentId).updateApproval "approval"
    (ApprovalRequestModel.decide (tenantDecision user))).updatePending "action"
      (PendingActionModel.move .pending .rejected fun _ => rfl)

/-- What canceling the native pair leaves then. -/
def tenantCanceled (user : UserContext) (departmentId : String) : Database :=
  (tenantDecided user departmentId).setNativeStatus "task" "step" .canceled .canceled

theorem tenant_decides (user : UserContext) (departmentId : String) :
    ∃ r, decideApprovalRequest (tenantDecision user) (tenantDatabase user.orgId departmentId) =
      .ok r (tenantDecided user departmentId) := by
  have hfind : (tenantDatabase user.orgId departmentId).approvals.find? "approval" =
      some (tenantApproval user.orgId departmentId) :=
    Table.find?_eq_some.mpr ⟨List.mem_singleton_self _, rfl⟩
  have hpending : (tenantDatabase user.orgId departmentId).pendingOf "approval" =
      some (tenantAction user.orgId) := rfl
  have hother : (tenantApproval user.orgId departmentId).requesterUserId ≠ some user.userId := by
    simp [tenantApproval]
  have hle : (tenantDecision user).now.bind ≤ (tenantAction user.orgId).expiresAt :=
    show (DateTime.utc 12).bind ≤ (DateTime.utc 1000).bind by decide
  exact decideApprovalRequest_linked (d := tenantDecision user) hfind rfl rfl hother hpending rfl hle

theorem tenant_cancels (user : UserContext) (departmentId : String) :
    cancelActivePair user pausedCheckpoint (tenantDecided user departmentId) =
      .ok () (tenantCanceled user departmentId) := by
  have htask : (tenantDecided user departmentId).task? "task" user.orgId =
      some (tenantTask user.orgId) := (@tenant_task user.orgId departmentId)
  have hstep : (tenantDecided user departmentId).step? "step" "task" user.orgId =
      some (tenantStep user.orgId) := (@tenant_step user.orgId departmentId)
  simp only [cancelActivePair, paused_replays.2.2.2.1, sampleStep, cancelNativePair]
  refine bind_eq_ok.mpr ⟨true, tenantCanceled user departmentId, ?_, ?_⟩
  · rw [read_bind, read_bind, htask, hstep]
    rfl
  · exact require_eq_ok.mpr ⟨rfl, rfl⟩

/-- The rejection is appended to the journal. -/
theorem tenant_appends (user : UserContext) (departmentId : String) :
    ∃ c t, appendCommand samplePlatform (sampleEnvironment idleAdapter (.utc 12)) user sampleRunId
      "reject" "reject" (tenantLocked user.orgId) (pausedCheckpoint.terminated .rejected)
      .approvalRejected (tenantCanceled user departmentId) = .ok c t := by
  obtain ⟨hreplay, hroot, _, hactive, hcompleted, hremaining, hsuperseded⟩ := paused_replays
  have hruns : (tenantDatabase user.orgId departmentId).SameRuns (tenantCanceled user departmentId) :=
    .trans (.of_approvals (.trans _ _ _ (.updateApproval _ _ _) (.updatePending _ _ _)))
      (.setNativeStatus _ _ _ _ _)
  obtain ⟨root, _, hload⟩ := hruns.loaded tenant_loaded
  have htask : (tenantCanceled user departmentId).task? "task" user.orgId =
      some { tenantTask user.orgId with status := .canceled } :=
    Database.task?_setNativeStatus ((@tenant_task user.orgId departmentId))
  have hstep : (tenantCanceled user departmentId).step? "step" "task" user.orgId =
      some { tenantStep user.orgId with status := .canceled } :=
    Database.step?_setNativeStatus ((@tenant_step user.orgId departmentId))
  have hpair : (tenantCanceled user departmentId).getNativePair "task" "step" user.orgId =
      .ok (some ({ tenantTask user.orgId with status := .canceled },
        { tenantStep user.orgId with status := .canceled })) :=
    getNativePair_eq_some.mpr ⟨htask, hstep⟩
  have hverify : verifyCheckpointNativeState (tenantCanceled user departmentId)
      (pausedCheckpoint.terminated .rejected) .approvalRejected user.orgId = .ok () := by
    simp only [verifyCheckpointNativeState, GovernedPlanCheckpoint.terminated, hcompleted, hremaining,
      hsuperseded, hactive, Option.map_some, verifyActive, sampleStep, hpair]
    rfl
  have hinsert : ∃ audit, (tenantCanceled user departmentId).audit.insert?
      (eventRow (AppendRequest.event samplePlatform
        ⟨user.orgId, pausedCheckpoint.terminated .rejected, .approvalRejected,
          (tenantLocked user.orgId).authorityDigests,
          operationKeyOf samplePlatform user.orgId sampleRunId "reject" "reject"
            pausedCheckpoint.journalDigest, .utc 12⟩) root.organizationId) = some audit := by
    refine Table.exists_insert? fun x hx hclash => ?_
    have hid := of_decide_eq_true hclash
    rcases List.mem_pair.mp hx with rfl | rfl
    · exact rejection_fresh admittedEvent (by simp) hid
    · exact rejection_fresh pausedEvent (by simp) hid
  obtain ⟨audit, hinsert⟩ := hinsert
  refine ⟨_, { tenantCanceled user departmentId with audit := audit },
    appendAgentRunTransition_eq_ok.mpr ⟨rfl, root, pausedCheckpoint, ?_, hload.marker, ?_, .inl
      ⟨⟨rfl, rfl⟩, hverify, Database.insertAudit?_eq_some.mpr ⟨audit, hinsert, rfl⟩, rfl⟩⟩⟩
  · change (tenantCanceled user departmentId).getRoot pausedCheckpoint.rootTaskId user.orgId = some root
    rw [hroot]
    exact hload.root
  · change replayPlanJournal samplePlatform
      ((tenantCanceled user departmentId).loadEvents pausedCheckpoint.rootTaskId) = .ok pausedCheckpoint
    rw [hroot]
    exact hload.replay

/-- Through the service, every approver of a tenant rejects this request. -/
theorem tenant_moves (user : UserContext) (departmentId : String)
    (hrole : user.isAnyApprover = true) :
    (ApprovalEntry.service (sampleEnvironment idleAdapter (.utc 12)) sampleRunId
      ⟨"reject", none⟩).Moves samplePlatform user false (tenantDatabase user.orgId departmentId)
        (tenantApproval user.orgId departmentId) := by
  have hfind : (tenantDatabase user.orgId departmentId).approvals.find? "approval" =
      some (tenantApproval user.orgId departmentId) :=
    Table.find?_eq_some.mpr ⟨List.mem_singleton_self _, rfl⟩
  obtain ⟨p, hp, hview⟩ := (projectLocked_view_iff (P := samplePlatform)
    (E := sampleEnvironment idleAdapter (.utc 12)) paused_replays.2.2.2.1).mpr
      ⟨tenant_awaits, ⟨"pack", "1", "adapter", ["pay"]⟩, ⟨"pack", "1", "Pack"⟩, rfl, rfl⟩
  have hadmits : Termination.admits samplePlatform (sampleEnvironment idleAdapter (.utc 12)) user
      sampleRunId .reject (tenantDatabase user.orgId departmentId) =
        .ok (.inr (tenantLocked user.orgId)) := by
    simp only [Termination.admits, rejectAdmits, except_bind_eq_ok, demand_eq_ok, exists_const]
    refine ⟨hrole, (tenantLocked user.orgId, p), lockedProjection_eq_ok.mpr ⟨tenant_loaded, hp⟩, ?_⟩
    dsimp only
    rw [hview, if_neg (by simp [RunView.awaitingApproval])]
    exact except_bind_eq_ok.mpr ⟨(), demand_eq_ok.mpr (by simp [RunView.awaitingApproval]), rfl⟩
  obtain ⟨r, hdecide⟩ := tenant_decides user departmentId
  obtain ⟨c, t, happend⟩ := tenant_appends user departmentId
  have hwrites : Termination.writes samplePlatform (sampleEnvironment idleAdapter (.utc 12)) user
      sampleRunId ⟨"reject", none⟩ (tenantLocked user.orgId) .reject
      (tenantDatabase user.orgId departmentId) = .ok () t := by
    simp only [Termination.writes, rejectWrites, bind_eq_ok, query_eq_ok, lift_eq_ok,
      orAgentRunError_eq_ok]
    exact ⟨_, _, ⟨tenant_pendingApproval, rfl⟩, (_, _), _, ⟨rfl, rfl⟩, r, _, hdecide, (), _,
      tenant_cancels user departmentId, c, t, happend, rfl⟩
  have hleft : left (Termination.run samplePlatform (sampleEnvironment idleAdapter (.utc 12)) user
      sampleRunId ⟨"reject", none⟩ .reject (tenantDatabase user.orgId departmentId)) = t := by
    unfold Termination.run
    rw [bind_of_ok (query_eq_ok.mpr ⟨hadmits, rfl⟩)]
    dsimp only
    rw [bind_of_ok (atomic_eq_ok.mpr hwrites)]
    exact left_query
  refine ⟨hfind, by simp [tenantApproval, decisionStatus],
    (ApprovalRequestModel.decide (tenantDecision user)).apply
      (tenantApproval user.orgId departmentId), ?_, rfl⟩
  change (left (Termination.run samplePlatform _ user sampleRunId _ .reject _)).approvals.find? _ = _
  rw [hleft, appendAgentRunTransition_frame happend]
  exact Table.find?_update_self hfind

end Tenant

/-! ## Who the service lets decide -/

/-- The two ways in grant a user the same over the requests of a department exactly when the user is
no approver at all, or may decide the requests of that department. -/
theorem only_authorized_iff (user : UserContext) (departmentId : String) :
    OnlyAuthorized user departmentId ↔
      (user.isAnyApprover = true → userCanApprove user departmentId = true) := by
  constructor
  · intro honly hrole
    exact honly samplePlatform _ false _ _ rfl rfl (tenant_moves user departmentId hrole)
  · rintro hcan P entry approved db approval _ rfl hmoves
    cases entry with
    | service E runId request => exact hcan hmoves.isAnyApprover
    | endpoint approvalId body now => exact hmoves.canApprove

/-- An approver of another department. -/
def outsider : UserContext := ⟨"outsider", "org", [⟨"other", "approver"⟩], [], false, false⟩

/-- The service lets them approve a request they may not decide. -/
theorem outsider_approves : ¬ OnlyAuthorized outsider "dept" := by
  intro honly
  have hran : (awaitingDatabase.approvals.find? "approval").map (fun a =>
        (a.organizationId, a.approverDepartmentId, a.status)) = some ("org", "dept", .pending) ∧
      (((ApprovalEntry.service (sampleEnvironment idleAdapter (.utc 12)) sampleRunId
        ⟨"approve", none⟩).decide samplePlatform outsider true awaitingDatabase).approvals.find?
          "approval").map (·.status) = some .approved ∧
      userCanApprove outsider "dept" = false := by
    decide +kernel
  obtain ⟨hrow, hmoved, hcannot⟩ := hran
  obtain ⟨row, hfind, hrow⟩ := Option.map_eq_some_iff.mp hrow
  obtain ⟨decided, hdecided, hstatus⟩ := Option.map_eq_some_iff.mp hmoved
  simp only [Prod.mk.injEq] at hrow
  obtain ⟨horganization, hdepartment, hpending⟩ := hrow
  have hid : row.approvalId = "approval" := Table.key_of_find? hfind
  have hcan := honly samplePlatform _ true awaitingDatabase row horganization hdepartment
    ⟨hid ▸ hfind, by rw [hpending]; decide, decided, hid ▸ hdecided, hstatus⟩
  rw [hcannot] at hcan
  cases hcan

end AgentPact
