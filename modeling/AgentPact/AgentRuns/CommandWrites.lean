import AgentPact.AgentRuns.TenantCommands

/-!
# Commands as writes

What the commands of a user write, one row at a time (`CommandWrite`): the status of
native rows, of actions and of requests of the tenant, and audit rows.  A relation
that follows every such write, and everything that the Packs of the tenant's runs
do, follows every command (`AgentRunCommand.within`).
-/

namespace AgentPact

open Base Transaction

/-- An audit row that a command adds is about a task of the tenant, or stands beside a row about
the same task. -/
structure CommandRow (tenant : String) (s : Database) (row : GovernanceAuditEventModel) :
    Prop where
  organization : row.organizationId = tenant
  owned : (s.task? row.taskId tenant).isSome ∨
    ∃ r ∈ s.audit.rows, r.taskId = row.taskId ∧ r.organizationId = tenant
  appended : ∀ event, row.payload = .journal event → event.transition.appendable = true

/-- One write of a command of a user. -/
inductive CommandWrite (user : UserContext) (s : Database) : Database → Prop
  /-- The status of a native pair. -/
  | native {taskId stepId : String} {task : TaskModel} {step : StepModel}
      (taskStatus : AgentRunTaskStatus) (stepStatus : AgentRunStepStatus)
      (htask : s.task? taskId user.orgId = some task)
      (hstep : s.step? stepId taskId user.orgId = some step) :
      CommandWrite user s (s.setNativeStatus taskId stepId taskStatus stepStatus)
  /-- The status of an action. -/
  | action {id : String} {m : PendingActionModel} {fromStatus toStatus : PendingActionStatus}
      {hfrom : toStatus.unresolved = true → fromStatus.unresolved = true}
      (hfind : s.pendingActions.find? id = some m)
      (hown : m.organizationId = user.orgId ∨ (s.task? m.taskId user.orgId).isSome) :
      CommandWrite user s (s.updatePending id (PendingActionModel.move fromStatus toStatus hfrom))
  /-- A decision on a request that waits for one, by somebody else than its requester. -/
  | request {d : ApprovalDecision} {a : ApprovalRequestModel}
      (hfind : s.approvals.find? d.approvalId = some a) (horganization : a.organizationId = user.orgId)
      (hpending : a.status = .pending) (hdecider : d.approverUserId = user.userId)
      (hrequester : a.requesterUserId ≠ some user.userId) (hrole : user.isAnyApprover = true) :
      CommandWrite user s (s.updateApproval d.approvalId (ApprovalRequestModel.decide d))
  /-- An audit row. -/
  | row {row : GovernanceAuditEventModel} {t : Database} (hrow : CommandRow user.orgId s row)
      (hinsert : s.insertAudit? row = some t) : CommandWrite user s t

/-- A relation that the writes of a user's commands keep to, one after the other. -/
structure Frames (user : UserContext) (R : Database → Database → Prop) : Prop where
  refl : ∀ s, R s s
  trans : ∀ s t u, R s t → R t u → R s u
  write : ∀ s t, CommandWrite user s t → R s t

/-- The Packs of the runs of a user's tenant keep to a relation. -/
structure PacksWithin (P : Platform) (E : Environment) (user : UserContext)
    (R : Database → Database → Prop) (db : Database) : Prop where
  advance : ∀ runId locked adapter prepared, LoadedFrom P db user.orgId runId locked →
    restorePrepared E locked.bundle = .ok (adapter, prepared) →
    ∀ key, Within R (adapter.advanceRun prepared key)
  probe : ∀ runId locked adapter prepared, LoadedFrom P db user.orgId runId locked →
    restorePrepared E locked.bundle = .ok (adapter, prepared) →
    ∀ key, Within R (adapter.probeRun prepared key)
  resume : ∀ runId locked code prepared resume, LoadedFrom P db user.orgId runId locked →
    restoreResumable E user locked.bundle code = .ok (prepared, resume) →
    ∀ request, Within R (resume prepared request)

theorem PacksWithin.mono {P : Platform} {E : Environment} {user : UserContext}
    {R S : Database → Database → Prop} {db : Database} (h : PacksWithin P E user R db)
    (hRS : ∀ s t, R s t → S s t) : PacksWithin P E user S db where
  advance runId locked adapter prepared hload hrestored key :=
    (h.advance runId locked adapter prepared hload hrestored key).mono hRS
  probe runId locked adapter prepared hload hrestored key :=
    (h.probe runId locked adapter prepared hload hrestored key).mono hRS
  resume runId locked code prepared resume hload hrestored request :=
    (h.resume runId locked code prepared resume hload hrestored request).mono hRS

namespace Frames

variable {P : Platform} {E : Environment} {user : UserContext} {runId : String}
  {R : Database → Database → Prop} {s t : Database}

theorem of_eq (h : Frames user R) (hsame : t = s) : R s t := hsame ▸ h.refl s

/-- A program that keeps to a relation, and what follows it. -/
theorem bind {α β : Type} {x : AgentRunTx α} {f : α → AgentRunTx β} (h : Frames user R)
    (hx : R s (left (x s))) (hf : ∀ a t, x s = .ok a t → R t (left (f a t))) :
    R s (left ((x >>= f) s)) := by
  cases hrun : x s with
  | ok a t =>
      rw [hrun] at hx
      rw [bind_of_ok hrun]
      exact h.trans _ _ _ hx (hf a t hrun)
  | error e t =>
      rw [hrun] at hx
      rwa [bind_of_error hrun]

/-! ## Transactions -/

/-- A row of a run that the tenant has. -/
theorem append {r : AppendRequest} {c : GovernedPlanCheckpoint} (h : Frames user R)
    (happend : appendAgentRunTransition P r s = .ok c t) (hown : r.organizationId = user.orgId) :
    R s t := by
  obtain ⟨hallowed, root, _, hroot, _, _, ⟨_, _, hinsert, _⟩ | ⟨_, _, _, rfl⟩⟩ :=
    appendAgentRunTransition_eq_ok.mp happend
  case inr => exact h.refl t
  refine h.write _ _ (.row ⟨?_, .inl ?_, ?_⟩ hinsert)
  · exact (of_decide_eq_true (Option.filter_eq_some_iff.mp hroot).2).trans hown
  · have hfound : s.task? r.checkpoint.rootTaskId user.orgId = some root := hown ▸ hroot
    exact Option.isSome_iff_exists.mpr ⟨root, hfound⟩
  · intro event hevent
    cases hevent
    exact hallowed

theorem clearPauseSignal {u : Unit} (h : Frames user R)
    (hclear : clearPauseSignal P runId user.orgId s = .ok u t) : R s t := by
  rcases clearPauseSignal_writes hclear with rfl | ⟨pause, hlatest, hinsert⟩
  · exact h.refl t
  · have hpause : pause ∈ s.audit.rows ∧ Database.isPause runId user.orgId pause = true :=
      Table.mem_select.mp ((List.mem_insertionSort _).mp (List.mem_of_head? hlatest))
    have hof := hpause.2
    simp only [Database.isPause, Bool.and_eq_true, decide_eq_true_eq] at hof
    refine h.write _ _ (.row ⟨rfl, .inr ⟨pause, hpause.1, hof.1.1, hof.1.2⟩, ?_⟩ hinsert)
    intro event hevent
    cases hevent

theorem savePauseSignal {signal : RunPauseSignal} {checkpointDigest : Digest}
    {modifiedAt : DateTime} {u : Unit} (h : Frames user R)
    (hsave : savePauseSignal P signal checkpointDigest user.orgId modifiedAt s = .ok u t)
    (hroot : (s.task? signal.runId user.orgId).isSome) : R s t := by
  simp only [AgentPact.savePauseSignal, bind_eq_ok, read_eq_ok] at hsave
  obtain ⟨existing, found, ⟨_, hfound⟩, hsave⟩ := hsave
  subst found
  cases existing with
  | some row => exact h.of_eq (require_eq_ok.mp hsave).2
  | none =>
      refine h.write _ _ (.row ⟨rfl, .inl hroot, ?_⟩ (write?_eq_ok.mp hsave))
      intro event hevent
      cases hevent

/-- A decision of the user on the request of an action of the tenant. -/
theorem decision {d : ApprovalDecision} {r : ApprovalRequestModel} (h : Frames user R)
    (hdecide : decideApprovalRequest d s = .ok r t) (hown : d.organizationId = user.orgId)
    (hdecider : d.approverUserId = user.userId) (hrole : user.isAnyApprover = true)
    (hlinked : ∀ a m, s.approvals.find? d.approvalId = some a →
      s.pendingOf d.approvalId = some m → m.organizationId = a.organizationId) : R s t := by
  obtain ⟨⟨approval, hfind, horganization, hpending, hrequester, _⟩, hwrites⟩ :=
    decideApprovalRequest_eq_ok hdecide
  have hrequest : R s (s.updateApproval d.approvalId (ApprovalRequestModel.decide d)) :=
    h.write _ _ (.request hfind (horganization.trans hown) hpending hdecider
      (hdecider ▸ hrequester) hrole)
  cases hwrites with
  | alone _ => exact hrequest
  | @linked model hsome _ _ =>
      have hof : model.organizationId = user.orgId :=
        (hlinked _ _ hfind hsome).trans (horganization.trans hown)
      have hrow : (s.updateApproval d.approvalId (ApprovalRequestModel.decide d)).pendingActions.find?
        model.pendingActionId = some model := (Database.pendingOf_eq_some hsome).1
      exact h.trans _ _ _ hrequest (h.write _ _ (.action hrow (.inl hof)))

/-- Resuming a step of the tenant. -/
theorem reobserve {taskId stepId id : String} {version : Nat} {r : ApprovalPauseState}
    (h : Frames user R)
    (hbegin : beginReobservationAfterApproval taskId stepId user.orgId id version s = .ok r t) :
    R s t := by
  obtain ⟨pending, task, step, hfind, _, _, htaskId, _, htask, _, hstep, _, _, rfl⟩ :=
    beginReobservationAfterApproval_eq_ok hbegin
  have hmove : R s (s.updatePending id (PendingActionModel.move .approved .invalidated
      invalidated_resolved)) := by
    refine h.write _ _ (.action hfind (.inr ?_))
    rw [htaskId, htask]
    rfl
  have htask' : (s.updatePending id (PendingActionModel.move .approved .invalidated
    invalidated_resolved)).task? taskId user.orgId = some task := htask
  exact h.trans _ _ _ hmove (h.write _ _ (.native _ _ htask' hstep))

theorem resumeApproved {request : AgentRunCommandRequest} {locked : LockedRun}
    {action : PendingActionModel} {advance : Bool × PackRuntimeAdapter × PreparedRunReference}
    (h : Frames user R)
    (hresume : resumeApproved P E user runId request locked action s = .ok advance t) : R s t := by
  obtain ⟨advance, adapter, prepared⟩ := advance
  rcases resumeApproved_eq_ok hresume with ⟨_, rfl⟩ | ⟨_, _, resumed, u, c, hbegin, happend⟩
  · exact h.refl t
  · exact h.trans _ _ _ (h.reobserve hbegin) (h.append happend rfl)

theorem approveDecision {request : AgentRunCommandRequest} (h : Frames user R)
    (hrole : user.isAnyApprover = true) :
    R s (left (atomic (approveDecision P E user runId request) s)) := by
  cases hrun : atomic (AgentPact.approveDecision P E user runId request) s with
  | error e t => exact h.of_eq (atomic_eq_error.mp hrun).2
  | ok decided t =>
      cases approveDecision_eq_ok (atomic_eq_ok.mp hrun) with
      | returned hsame => exact h.of_eq hsame
      | decided _ hrows _ hdecide _ hresume =>
          have hdecided := h.decision hdecide rfl rfl hrole (Database.Spares.linked_of_rows hrows)
          exact h.trans _ _ _ hdecided (h.resumeApproved hresume)
      | again _ _ _ _ hresume => exact h.resumeApproved hresume

theorem reflectAdvanceResult {result : PackAdvanceResult} {operationKey : String}
    (h : Frames user R) : R s (left (reflectAdvanceResult P E user result operationKey s)) := by
  rcases reflectAdvanceResult_left (P := P) (E := E) (s := s) with
    hsame | ⟨locked, updated, transition, c, _, _, happend⟩
  · exact h.of_eq hsame
  · exact h.append happend rfl

theorem reflectProbeResult {result : PackProbeResult} {operationKey : String}
    (h : Frames user R) :
    R s (left (reflectProbeResult P E user runId result operationKey s)) := by
  rcases reflectProbeResult_left (P := P) (E := E) with
    hsame | ⟨locked, active, c, _, _, _, happend⟩
  · exact h.of_eq hsame
  · exact h.append happend rfl

theorem clear (h : Frames user R) :
    R s (left (atomic (AgentPact.clearPauseSignal P runId user.orgId) s)) := by
  cases hrun : atomic (AgentPact.clearPauseSignal P runId user.orgId) s with
  | error e t => exact h.of_eq (atomic_eq_error.mp hrun).2
  | ok u t => exact h.clearPauseSignal (atomic_eq_ok.mp hrun)

/-- A rejection is an approver's. -/
theorem rejects {locked : LockedRun}
    (h : rejectAdmits P E user runId s = .ok (.inr locked)) : user.isAnyApprover = true := by
  simp only [rejectAdmits, except_bind_eq_ok, demand_eq_ok, exists_const] at h
  exact h.1

/-- Ending a run of the tenant. -/
theorem terminate {end_ : Termination} {request : AgentRunCommandRequest} (h : Frames user R) :
    R s (left (end_.run P E user runId request s)) := by
  rcases Termination.run_left (P := P) (E := E) (s := s) with
    hsame | ⟨locked, hadmits, hterminated⟩
  · exact h.of_eq hsame
  generalize left (end_.run P E user runId request s) = t at hterminated ⊢
  cases hterminated with
  | @rejected action approval _ decided active task step c hrows hdecide _ htask hstep happend =>
      have hdecided : R s decided :=
        h.decision hdecide rfl rfl (rejects hadmits) (Database.Spares.linked_of_rows hrows)
      have hnative := h.write _ _ (.native .canceled .canceled htask hstep)
      exact h.trans _ _ _ hdecided (h.trans _ _ _ hnative (h.append happend rfl))
  | cancelled _ htask hstep hclear happend =>
      have hnative := h.write _ _ (.native .canceled .canceled htask hstep)
      exact h.trans _ _ _ hnative
        (h.trans _ _ _ (h.clearPauseSignal hclear) (h.append happend rfl))

theorem recordPauseSignal {signal : RunPauseSignal} (h : Frames user R) :
    R s (left (recordPauseSignal P E user runId signal s)) := by
  rcases recordPauseSignal_left (P := P) (E := E) (s := s) with hsame | ⟨locked, hadmits, hsave⟩
  · exact h.of_eq hsame
  · obtain ⟨hrun, hload⟩ := pauseAdmits_eq_ok hadmits
    refine h.savePauseSignal hsave ?_
    have hroot : s.task? runId user.orgId = some locked.root := hload.root
    show (s.task? signal.runId user.orgId).isSome = true
    rw [hrun, hroot]
    rfl

/-! ## Commands -/

/-- Advancing a run, and reflecting what came of it. -/
theorem advanceAndReflect {request : AgentRunCommandRequest} {adapter : PackRuntimeAdapter}
    {prepared : PreparedRunReference} (h : Frames user R)
    (hpack : ∀ key, Within R (adapter.advanceRun prepared key)) :
    Within R (advanceAndReflect P E user request adapter prepared) := by
  refine .bind h.trans (hpack _) fun advanced => ?_
  refine .bind h.trans (.lift h.refl _) fun result => ?_
  refine .bind h.trans (.require h.refl _) fun _ => ?_
  exact fun s => h.reflectAdvanceResult

theorem settleProbe {request : AgentRunCommandRequest} {locked : LockedRun}
    {prepared : PreparedRunReference} {probed : Option PackProbeResult} (h : Frames user R) :
    Within R (settleProbe P E user runId request locked prepared probed) := by
  refine .bind h.trans (.lift h.refl _) fun result => ?_
  exact fun s => h.reflectProbeResult

theorem approve {request : AgentRunCommandRequest} (h : Frames user R)
    (hpacks : PacksWithin P E user R s) : R s (left (approve P E user runId request s)) := by
  refine h.bind ?_ fun _ t hrole => h.bind ?_ fun decision u hdecision => ?_
  · have hrequire : Within R (require (user.isAnyApprover = true)
        (agentRunError "APPROVER_REQUIRED")) := .require h.refl _
    exact hrequire s
  · exact h.approveDecision (require_eq_ok.mp hrole).1
  · obtain ⟨_, rfl⟩ := require_eq_ok.mp hrole
    rcases decision with projection | ⟨advance, adapter, prepared⟩
    · exact h.refl u
    have hget : ∀ db, left (getProjection P E user runId db) = db := fun _ => left_query
    dsimp only
    split
    case isFalse => exact h.of_eq (hget u)
    case isTrue =>
      obtain ⟨locked, hload, hrestored⟩ := approveDecision_restored (atomic_eq_ok.mp hdecision)
      rw [left_bind_of_keeps fun _ t _ => hget t, left_translating]
      exact h.advanceAndReflect (hpacks.advance _ _ _ _ hload hrestored) u

theorem probe {request : AgentRunCommandRequest} (h : Frames user R)
    (hpacks : PacksWithin P E user R s) : R s (left (probe P E user runId request s)) := by
  refine h.bind ?_ fun admitted t hadmitted => ?_
  · exact h.of_eq left_query
  · obtain ⟨hadmits, rfl⟩ := query_eq_ok.mp hadmitted
    rcases admitted with projection | ⟨locked, adapter, prepared⟩
    · exact h.refl t
    obtain ⟨p, hlocked, _, hrestored⟩ := probeAdmits_eq_ok hadmits
    have hget : ∀ db, left (getProjection P E user runId db) = db := fun _ => left_query
    dsimp only
    rw [left_bind_of_keeps fun _ t _ => hget t, left_translating]
    have hprobe := hpacks.probe _ _ _ _ (lockedProjection_eq_ok.mp hlocked).1 hrestored
    exact h.bind (hprobe _ t) fun probed u _ => h.settleProbe u

/-- Resuming a run, and resolving its pause. -/
theorem resumed {prepared : PreparedRunReference} {request : ResumeRequest}
    {resume : PreparedRunReference → ResumeRequest → AgentRunTx Unit} (h : Frames user R)
    (hresume : Within R (resume prepared request)) :
    R s (left ((do
      resume prepared request
      atomic (AgentPact.clearPauseSignal P runId user.orgId)
      getProjection P E user runId) s)) := by
  refine h.bind (hresume s) fun _ t _ => h.bind h.clear fun _ u _ => ?_
  exact h.of_eq left_query

theorem submitInput {request : AgentRunInputSubmissionRequest} (h : Frames user R)
    (hpacks : PacksWithin P E user R s) : R s (left (submitInput P E user runId request s)) := by
  refine h.bind ?_ fun x t hadmitted => ?_
  · exact h.of_eq left_query
  · obtain ⟨hadmits, rfl⟩ := query_eq_ok.mp hadmitted
    obtain ⟨locked, code, hload, hrestore⟩ := Database.Spares.submitAdmits_restored hadmits
    exact h.resumed (hpacks.resume _ _ _ _ _ hload hrestore _)

theorem resumeRun {request : AgentRunCommandRequest} (h : Frames user R)
    (hpacks : PacksWithin P E user R s) : R s (left (resumeRun P E user runId request s)) := by
  refine h.bind ?_ fun admitted t hadmitted => ?_
  · exact h.of_eq left_query
  · obtain ⟨hadmits, rfl⟩ := query_eq_ok.mp hadmitted
    rcases admitted with projection | x
    · exact h.refl t
    obtain ⟨locked, code, hload, hrestore⟩ := Database.Spares.resumeAdmits_restored hadmits
    exact h.resumed (hpacks.resume _ _ _ _ _ hload hrestore _)

end Frames

/-- A relation that follows the writes of a user's commands, and the Packs of the tenant's runs,
follows the commands. -/
theorem AgentRunCommand.within {P : Platform} {E : Environment} {user : UserContext}
    {R : Database → Database → Prop} {s : Database} (h : Frames user R)
    (hpacks : PacksWithin P E user R s) (runId : String) (command : AgentRunCommand) :
    R s (left (command.run P E user runId s)) := by
  cases command with
  | approve request => exact h.approve hpacks
  | terminate t request => exact h.terminate
  | probe request => exact h.probe hpacks
  | submitInput request => exact h.submitInput hpacks
  | resume request => exact h.resumeRun hpacks
  | recordPauseSignal signal => exact h.recordPauseSignal

end AgentPact
