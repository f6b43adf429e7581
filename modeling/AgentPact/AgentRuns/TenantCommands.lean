import AgentPact.AgentRuns.ApprovalPairs
import AgentPact.AgentRuns.TenantRows
import AgentPact.AgentRuns.CoherentRuns
import AgentPact.AgentRuns.PauseDigests
import AgentPact.AgentRuns.ProbeRecovery

/-!
# Commands and the rows of other tenants

What a command writes.  Every row it changes or adds is of the tenant of the user
(`Spares`), if the Packs of the tenant's runs keep to the tenant, too.
-/

namespace AgentPact

open Base Transaction

/-- The rows of all other tenants are the same. -/
def Database.Spares (s t : Database) (tenant : String) : Prop :=
  s.rowsOf (fun x => x ≠ tenant) = t.rowsOf fun x => x ≠ tenant

namespace Database.Spares

variable {s t u : Database} {tenant : String}

theorem refl (s : Database) : s.Spares s tenant := rfl

theorem of_eq (h : t = s) : s.Spares t tenant := h ▸ refl s

theorem trans (h : s.Spares t tenant) (h' : t.Spares u tenant) : s.Spares u tenant := Eq.trans h h'

/-- A program that spares, and what follows it. -/
theorem bind {α β : Type} {x : AgentRunTx α} {f : α → AgentRunTx β}
    (hx : s.Spares (left (x s)) tenant)
    (hf : ∀ a t, x s = .ok a t → t.Spares (left (f a t)) tenant) :
    s.Spares (left ((x >>= f) s)) tenant := by
  cases h : x s with
  | ok a t =>
      rw [h] at hx
      rw [bind_of_ok h]
      exact hx.trans (hf a t h)
  | error e t =>
      rw [h] at hx
      rwa [bind_of_error h]

/-! ## Writes -/

/-- Where no permit and no attempt changes, the other tables say it. -/
theorem of_tables (htasks : (s.tasks.select fun r => r.organizationId ≠ tenant) =
      t.tasks.select fun r => r.organizationId ≠ tenant)
    (hsteps : (s.steps.select fun r => r.organizationId ≠ tenant) =
      t.steps.select fun r => r.organizationId ≠ tenant)
    (hadmissions : t.admissions = s.admissions)
    (haudit : (s.audit.select fun r => r.organizationId ≠ tenant) =
      t.audit.select fun r => r.organizationId ≠ tenant)
    (hactions : (s.pendingActions.select fun r => r.organizationId ≠ tenant) =
      t.pendingActions.select fun r => r.organizationId ≠ tenant)
    (happrovals : (s.approvals.select fun r => r.organizationId ≠ tenant) =
      t.approvals.select fun r => r.organizationId ≠ tenant)
    (hexecution : t.execution = s.execution) : s.Spares t tenant := by
  have hown : ∀ taskId, s.isTaskOf (fun x => x ≠ tenant) taskId =
      t.isTaskOf (fun x => x ≠ tenant) taskId := by
    intro taskId
    have hfind := Table.find?_filter_congr htasks taskId
    unfold isTaskOf
    rw [← Option.isSome_filter, ← Option.isSome_filter, hfind]
  unfold Spares rowsOf
  simp only [htasks, hsteps, hadmissions, haudit, hactions, happrovals, hexecution, hown]

/-- The native pair of a task of the tenant. -/
theorem setNativeStatus {taskId stepId : String} {task : TaskModel} {step : StepModel}
    (htask : s.task? taskId tenant = some task) (hstep : s.step? stepId taskId tenant = some step)
    (taskStatus : AgentRunTaskStatus) (stepStatus : AgentRunStepStatus) :
    s.Spares (s.setNativeStatus taskId stepId taskStatus stepStatus) tenant := by
  obtain ⟨htask, htaskOwn⟩ := Option.filter_eq_some_iff.mp htask
  obtain ⟨hstep, hstepOwn⟩ := Option.filter_eq_some_iff.mp hstep
  simp only [Bool.and_eq_true, decide_eq_true_eq] at htaskOwn hstepOwn
  refine of_tables (Table.select_update fun r hr => ?_).symm (Table.select_update fun r hr => ?_).symm
    rfl rfl rfl rfl rfl
  · cases htask.symm.trans hr
    simp [TaskModel.setStatus, htaskOwn]
  · cases hstep.symm.trans hr
    simp [StepModel.setStatus, hstepOwn.2]

/-- The status of an action of the tenant. -/
theorem updatePending {id : String} {fromStatus toStatus : PendingActionStatus}
    {hfrom : toStatus.unresolved = true → fromStatus.unresolved = true}
    (hown : ∀ m, s.pendingActions.find? id = some m → m.organizationId = tenant) :
    s.Spares (s.updatePending id (PendingActionModel.move fromStatus toStatus hfrom)) tenant := by
  refine of_tables rfl rfl rfl rfl (Table.select_update fun m hm => ?_).symm rfl rfl
  obtain ⟨_, _, hsame, _⟩ := PendingActionModel.move_same fromStatus toStatus hfrom m
  simp [hsame, hown m hm]

/-- A request of the tenant. -/
theorem updateApproval {id : String} {d : ApprovalDecision}
    (hown : ∀ a, s.approvals.find? id = some a → a.organizationId = tenant) :
    s.Spares (s.updateApproval id (ApprovalRequestModel.decide d)) tenant := by
  refine of_tables rfl rfl rfl rfl rfl (Table.select_update fun a ha => ?_).symm rfl
  simp [ApprovalRequestModel.decide, hown a ha]

/-- An audit row of the tenant. -/
theorem insertAudit {row : GovernanceAuditEventModel} (h : s.insertAudit? row = some t)
    (hown : row.organizationId = tenant) : s.Spares t tenant := by
  obtain ⟨audit, haudit, rfl⟩ := Database.insertAudit?_eq_some.mp h
  refine of_tables rfl rfl rfl ?_ rfl rfl rfl
  rw [Table.select_insert? haudit]
  simp [hown]

/-! ## Transactions -/

variable {P : Platform} {E : Environment} {user : UserContext} {runId : String}

/-- An append to a journal of the tenant. -/
theorem append {r : AppendRequest} {c : GovernedPlanCheckpoint}
    (h : appendAgentRunTransition P r s = .ok c t) (hown : r.organizationId = tenant) :
    s.Spares t tenant := by
  obtain ⟨_, root, _, hroot, _, _, ⟨_, _, hinsert, _⟩ | ⟨_, _, _, rfl⟩⟩ :=
    appendAgentRunTransition_eq_ok.mp h
  · obtain ⟨_, hsame⟩ := Option.filter_eq_some_iff.mp hroot
    exact insertAudit hinsert ((of_decide_eq_true hsame).trans hown)
  · exact refl t

theorem clearPauseSignal {u : Unit} (h : clearPauseSignal P runId tenant s = .ok u t) :
    s.Spares t tenant := by
  rcases clearPauseSignal_writes h with rfl | ⟨pause, _, hinsert⟩
  · exact refl t
  · exact insertAudit hinsert rfl

theorem savePauseSignal {signal : RunPauseSignal} {checkpointDigest : Digest}
    {modifiedAt : DateTime} {u : Unit}
    (h : savePauseSignal P signal checkpointDigest tenant modifiedAt s = .ok u t) :
    s.Spares t tenant := by
  simp only [AgentPact.savePauseSignal, bind_eq_ok, read_eq_ok] at h
  obtain ⟨existing, found, ⟨_, hfound⟩, h⟩ := h
  subst found
  cases existing with
  | some row => exact of_eq (require_eq_ok.mp h).2
  | none => exact insertAudit (write?_eq_ok.mp h) rfl

/-- A decision on a request of the tenant, and on its action. -/
theorem decision {d : ApprovalDecision} {r : ApprovalRequestModel}
    (h : decideApprovalRequest d s = .ok r t) (hown : d.organizationId = tenant)
    (hlinked : ∀ a m, s.approvals.find? d.approvalId = some a →
      s.pendingOf d.approvalId = some m → m.organizationId = a.organizationId) :
    s.Spares t tenant := by
  obtain ⟨⟨approval, hfind, horganization, _⟩, hwrites⟩ := decideApprovalRequest_eq_ok h
  have hrequest : s.Spares (s.updateApproval d.approvalId (ApprovalRequestModel.decide d)) tenant := by
    refine updateApproval fun a ha => ?_
    cases hfind.symm.trans ha
    exact horganization.trans hown
  cases hwrites with
  | alone _ => exact hrequest
  | @linked model hsome _ _ =>
      refine hrequest.trans (updatePending fun m hm => ?_)
      cases (pendingOf_eq_some hsome).1.symm.trans hm
      exact (hlinked _ _ hfind hsome).trans (horganization.trans hown)

/-- The action of a pending approval is of the tenant of its request. -/
theorem linked_of_rows {checkpoint : GovernedPlanCheckpoint} {action : PendingActionModel}
    {approval : ApprovalRequestModel}
    (hrows : s.pendingApproval checkpoint = .ok (some (action, approval))) (a : ApprovalRequestModel)
    (m : PendingActionModel) (ha : s.approvals.find? approval.approvalId = some a)
    (hm : s.pendingOf approval.approvalId = some m) : m.organizationId = a.organizationId := by
  obtain ⟨active, _, hone, id, hid, _, hfind, _, horganization⟩ := pendingApproval_rows.mp hrows
  have hkey : approval.approvalId = id := Table.key_of_find? hfind
  rw [hkey, hfind] at ha
  cases ha
  have haction : action ∈ s.pendingActions.rows :=
    (Table.mem_select.mp (hone ▸ List.mem_singleton_self action)).1
  obtain ⟨hfindm, hlinked⟩ := pendingOf_eq_some hm
  rw [hkey] at hlinked
  rw [PendingActionModel.eq_of_linked (Table.mem_of_find? hfindm) haction hlinked hid]
  exact horganization.symm

/-- Resuming a step of the tenant. -/
theorem reobserve {taskId stepId id : String} {version : Nat} {r : ApprovalPauseState}
    (hactions : ∀ m ∈ s.pendingActions.rows, (s.task? m.taskId m.organizationId).isSome)
    (h : beginReobservationAfterApproval taskId stepId tenant id version s = .ok r t) :
    s.Spares t tenant := by
  obtain ⟨pending, task, step, hfind, _, _, htaskId, _, htask, _, hstep, _, _, rfl⟩ :=
    beginReobservationAfterApproval_eq_ok h
  have honly : s.OnlyOf tenant taskId := onlyOf_of_task? (by rw [htask]; rfl)
  have hown : pending.organizationId = tenant :=
    organization_of_task? (hactions _ (Table.mem_of_find? hfind)) (htaskId ▸ honly)
  have hmove : s.Spares (s.updatePending id (PendingActionModel.move .approved .invalidated
      invalidated_resolved)) tenant := by
    refine updatePending fun m hm => ?_
    cases hfind.symm.trans hm
    exact hown
  have htask' : (s.updatePending id (PendingActionModel.move .approved .invalidated
    invalidated_resolved)).task? taskId tenant = some task := htask
  exact hmove.trans (setNativeStatus htask' hstep _ _)

theorem resumeApproved {request : AgentRunCommandRequest} {locked : LockedRun}
    {action : PendingActionModel} {advance : Bool × PackRuntimeAdapter × PreparedRunReference}
    (hactions : ∀ m ∈ s.pendingActions.rows, (s.task? m.taskId m.organizationId).isSome)
    (h : resumeApproved P E user runId request locked action s = .ok advance t) :
    s.Spares t user.orgId := by
  obtain ⟨advance, adapter, prepared⟩ := advance
  rcases resumeApproved_eq_ok h with ⟨_, rfl⟩ | ⟨_, _, resumed, u, c, hbegin, happend⟩
  · exact refl t
  · exact (reobserve hactions hbegin).trans (append happend rfl)

/-- A decision leaves the tenants of the actions alone. -/
theorem actions_of_decision {d : ApprovalDecision} (hwrites : DecisionWrites d s t)
    (hactions : ∀ m ∈ s.pendingActions.rows, (s.task? m.taskId m.organizationId).isSome) :
    ∀ m ∈ t.pendingActions.rows, (t.task? m.taskId m.organizationId).isSome := by
  cases hwrites with
  | alone _ => exact hactions
  | linked _ _ _ =>
      intro m hm
      obtain ⟨m₀, hm₀, rfl⟩ := Table.mem_update.mp hm
      obtain ⟨htask, _, horganization, _⟩ :=
        PendingActionModel.move_same .pending d.pendingStatus (fun _ => rfl) m₀
      unfold Table.editAt
      split
      case isTrue =>
        rw [htask, horganization]
        exact hactions m₀ hm₀
      case isFalse => exact hactions m₀ hm₀

theorem approveDecision {request : AgentRunCommandRequest} (hs : s.Attributed) :
    s.Spares (left (atomic (approveDecision P E user runId request) s)) user.orgId := by
  cases hrun : atomic (AgentPact.approveDecision P E user runId request) s with
  | error e t => exact of_eq (atomic_eq_error.mp hrun).2
  | ok decided t =>
      cases approveDecision_eq_ok (atomic_eq_ok.mp hrun) with
      | returned hsame => exact hsame ▸ refl s
      | @decided _ _ action _ approval _ u _ _ hrows _ hdecide _ hresume =>
          have hdecided : s.Spares u user.orgId := decision hdecide rfl (linked_of_rows hrows)
          have hactions := actions_of_decision (decideApprovalRequest_eq_ok hdecide).2
            hs.pendingActions
          exact hdecided.trans (resumeApproved hactions hresume)
      | again _ _ _ _ hresume => exact resumeApproved hs.pendingActions hresume

theorem reflectAdvanceResult {result : PackAdvanceResult} {operationKey : String} :
    s.Spares (left (reflectAdvanceResult P E user result operationKey s)) user.orgId := by
  rcases reflectAdvanceResult_left (P := P) (E := E) (s := s) with
    hsame | ⟨locked, updated, transition, c, _, _, happend⟩
  · exact of_eq hsame
  · exact append happend rfl

theorem reflectProbeResult {result : PackProbeResult} {operationKey : String} :
    s.Spares (left (reflectProbeResult P E user runId result operationKey s)) user.orgId := by
  rcases reflectProbeResult_left (P := P) (E := E) with
    hsame | ⟨locked, active, c, _, _, _, happend⟩
  · exact of_eq hsame
  · exact append happend rfl

theorem clear : s.Spares (left (atomic (AgentPact.clearPauseSignal P runId tenant) s)) tenant := by
  cases hrun : atomic (AgentPact.clearPauseSignal P runId tenant) s with
  | error e t => exact of_eq (atomic_eq_error.mp hrun).2
  | ok u t => exact clearPauseSignal (atomic_eq_ok.mp hrun)

/-- Ending a run of the tenant. -/
theorem terminate {end_ : Termination} {request : AgentRunCommandRequest} :
    s.Spares (left (end_.run P E user runId request s)) user.orgId := by
  rcases Termination.run_left (P := P) (E := E) (s := s) with hsame | ⟨locked, _, hterminated⟩
  · exact of_eq hsame
  generalize left (end_.run P E user runId request s) = t at hterminated ⊢
  cases hterminated with
  | @rejected action approval _ decided active task step c hrows hdecide _ htask hstep happend =>
      have hdecided : s.Spares decided user.orgId := decision hdecide rfl (linked_of_rows hrows)
      exact hdecided.trans ((setNativeStatus htask hstep _ _).trans (append happend rfl))
  | cancelled _ htask hstep hclear happend =>
      exact (setNativeStatus htask hstep _ _).trans
        ((clearPauseSignal hclear).trans (append happend rfl))

theorem recordPauseSignal {signal : RunPauseSignal} :
    s.Spares (left (recordPauseSignal P E user runId signal s)) user.orgId := by
  rcases recordPauseSignal_left (P := P) (E := E) (s := s) with hsame | ⟨locked, _, hsave⟩
  · exact of_eq hsame
  · exact savePauseSignal hsave

end Database.Spares

/-! ## Commands -/

/-- A program that changes rows of a tenant only. -/
def Sparing {α : Type} (tenant : String) (x : AgentRunTx α) : Prop :=
  Within (fun s t => s.Spares t tenant) x

/-- The Packs of the runs of a tenant change rows of the tenant only. -/
structure PacksSpare (P : Platform) (E : Environment) (user : UserContext) (db : Database) :
    Prop where
  advance : ∀ runId locked adapter prepared, LoadedFrom P db user.orgId runId locked →
    restorePrepared E locked.bundle = .ok (adapter, prepared) →
    ∀ key, Sparing user.orgId (adapter.advanceRun prepared key)
  probe : ∀ runId locked adapter prepared, LoadedFrom P db user.orgId runId locked →
    restorePrepared E locked.bundle = .ok (adapter, prepared) →
    ∀ key, Sparing user.orgId (adapter.probeRun prepared key)
  resume : ∀ runId locked code prepared resume, LoadedFrom P db user.orgId runId locked →
    restoreResumable E user locked.bundle code = .ok (prepared, resume) →
    ∀ request, Sparing user.orgId (resume prepared request)

section Commands

variable {P : Platform} {E : Environment} {user : UserContext} {runId : String} {s : Database}

/-- Advancing a run, and reflecting what came of it. -/
theorem Sparing.advanceAndReflect {request : AgentRunCommandRequest} {adapter : PackRuntimeAdapter}
    {prepared : PreparedRunReference}
    (hpack : ∀ key, Sparing user.orgId (adapter.advanceRun prepared key)) :
    Sparing user.orgId (advanceAndReflect P E user request adapter prepared) := by
  refine .bind (fun _ _ _ => .trans) (hpack _) fun advanced => ?_
  refine .bind (fun _ _ _ => .trans) (.lift .refl _) fun result => ?_
  refine .bind (fun _ _ _ => .trans) (.require .refl _) fun _ => ?_
  exact fun s => .reflectAdvanceResult

theorem Sparing.settleProbe {request : AgentRunCommandRequest} {locked : LockedRun}
    {prepared : PreparedRunReference} {probed : Option PackProbeResult} :
    Sparing user.orgId (settleProbe P E user runId request locked prepared probed) := by
  refine .bind (fun _ _ _ => .trans) (.lift .refl _) fun result => ?_
  exact fun s => .reflectProbeResult

/-- The run that an approval advances was restored from an admission of the tenant. -/
theorem approveDecision_restored {request : AgentRunCommandRequest} {advance : Bool}
    {adapter : PackRuntimeAdapter} {prepared : PreparedRunReference} {t : Database}
    (h : approveDecision P E user runId request s = .ok (.inr (advance, adapter, prepared)) t) :
    ∃ locked, LoadedFrom P s user.orgId runId locked ∧
      restorePrepared E locked.bundle = .ok (adapter, prepared) := by
  cases approveDecision_eq_ok h with
  | decided hlocked _ _ _ _ hresume =>
      exact ⟨_, (lockedProjection_eq_ok.mp hlocked).1, resumeApproved_restores hresume⟩
  | again hlocked _ _ _ hresume =>
      exact ⟨_, (lockedProjection_eq_ok.mp hlocked).1, resumeApproved_restores hresume⟩

namespace Database.Spares

theorem approve {request : AgentRunCommandRequest} (hs : s.Attributed)
    (hpacks : PacksSpare P E user s) :
    s.Spares (left (approve P E user runId request s)) user.orgId := by
  refine bind ?_ fun _ t hrole => bind ?_ fun decision u hdecision => ?_
  · have hrequire : Sparing user.orgId (require (user.isAnyApprover = true)
        (agentRunError "APPROVER_REQUIRED")) := .require refl _
    exact hrequire s
  · obtain ⟨_, rfl⟩ := require_eq_ok.mp hrole
    exact approveDecision hs
  · obtain ⟨_, rfl⟩ := require_eq_ok.mp hrole
    rcases decision with projection | ⟨advance, adapter, prepared⟩
    · exact refl u
    have hget : ∀ db, left (getProjection P E user runId db) = db := fun _ => left_query
    dsimp only
    split
    case isFalse => exact of_eq (hget u)
    case isTrue =>
      obtain ⟨locked, hload, hrestored⟩ := approveDecision_restored (atomic_eq_ok.mp hdecision)
      rw [left_bind_of_keeps fun _ t _ => hget t, left_translating]
      exact Sparing.advanceAndReflect (hpacks.advance _ _ _ _ hload hrestored) u

theorem probe {request : AgentRunCommandRequest} (hpacks : PacksSpare P E user s) :
    s.Spares (left (probe P E user runId request s)) user.orgId := by
  refine bind ?_ fun admitted t hadmitted => ?_
  · exact of_eq left_query
  · obtain ⟨hadmits, rfl⟩ := query_eq_ok.mp hadmitted
    rcases admitted with projection | ⟨locked, adapter, prepared⟩
    · exact refl t
    obtain ⟨p, hlocked, _, hrestored⟩ := probeAdmits_eq_ok hadmits
    have hget : ∀ db, left (getProjection P E user runId db) = db := fun _ => left_query
    dsimp only
    rw [left_bind_of_keeps fun _ t _ => hget t, left_translating]
    have hprobe := hpacks.probe _ _ _ _ (lockedProjection_eq_ok.mp hlocked).1 hrestored
    exact bind (hprobe _ t) fun probed u _ => Sparing.settleProbe u

/-- The run that input is submitted to was restored from an admission of the tenant. -/
theorem submitAdmits_restored {request : AgentRunInputSubmissionRequest}
    {x : PreparedRunReference × (PreparedRunReference → ResumeRequest → AgentRunTx Unit)}
    (h : submitAdmits P E user runId request s = .ok x) :
    ∃ locked code, LoadedFrom P s user.orgId runId locked ∧
      restoreResumable E user locked.bundle code = .ok x := by
  simp only [submitAdmits, except_bind_eq_ok] at h
  obtain ⟨_, _, ⟨locked, p⟩, hlocked, _, _, _, _, _, _, _, _, _, _, hrestore⟩ := h
  exact ⟨locked, _, (lockedProjection_eq_ok.mp hlocked).1, hrestore⟩

/-- So was the run that is resumed. -/
theorem resumeAdmits_restored
    {x : PreparedRunReference × (PreparedRunReference → ResumeRequest → AgentRunTx Unit)}
    (h : resumeAdmits P E user runId s = .ok (.inr x)) :
    ∃ locked code, LoadedFrom P s user.orgId runId locked ∧
      restoreResumable E user locked.bundle code = .ok x := by
  simp only [resumeAdmits, except_bind_eq_ok] at h
  obtain ⟨_, _, ⟨locked, p⟩, hlocked, h⟩ := h
  dsimp only at h
  split at h
  case h_1 => cases h
  case h_2 =>
    split at h
    case isFalse => cases h
    case isTrue =>
      simp only [except_bind_eq_ok] at h
      obtain ⟨_, _, resumable, hrestore, hpure⟩ := h
      cases hpure
      exact ⟨locked, _, (lockedProjection_eq_ok.mp hlocked).1, hrestore⟩

/-- Resuming a run, and resolving its pause. -/
theorem resumed {prepared : PreparedRunReference} {request : ResumeRequest}
    {resume : PreparedRunReference → ResumeRequest → AgentRunTx Unit}
    (hresume : Sparing user.orgId (resume prepared request)) :
    s.Spares (left ((do
      resume prepared request
      atomic (AgentPact.clearPauseSignal P runId user.orgId)
      getProjection P E user runId) s)) user.orgId := by
  refine bind (hresume s) fun _ t _ => bind clear fun _ u _ => ?_
  exact of_eq left_query

theorem submitInput {request : AgentRunInputSubmissionRequest} (hpacks : PacksSpare P E user s) :
    s.Spares (left (submitInput P E user runId request s)) user.orgId := by
  refine bind ?_ fun x t hadmitted => ?_
  · exact of_eq left_query
  · obtain ⟨hadmits, rfl⟩ := query_eq_ok.mp hadmitted
    obtain ⟨locked, code, hload, hrestore⟩ := submitAdmits_restored hadmits
    exact resumed (hpacks.resume _ _ _ _ _ hload hrestore _)

theorem resumeRun {request : AgentRunCommandRequest} (hpacks : PacksSpare P E user s) :
    s.Spares (left (resumeRun P E user runId request s)) user.orgId := by
  refine bind ?_ fun admitted t hadmitted => ?_
  · exact of_eq left_query
  · obtain ⟨hadmits, rfl⟩ := query_eq_ok.mp hadmitted
    rcases admitted with projection | x
    · exact refl t
    obtain ⟨locked, code, hload, hrestore⟩ := resumeAdmits_restored hadmits
    exact resumed (hpacks.resume _ _ _ _ _ hload hrestore _)

/-- Every command of a user changes rows of the tenant of the user only. -/
theorem command (hs : s.Attributed) (hpacks : PacksSpare P E user s) (command : AgentRunCommand) :
    s.Spares (left (command.run P E user runId s)) user.orgId := by
  cases command with
  | approve request => exact approve hs hpacks
  | terminate t request => exact terminate
  | probe request => exact probe hpacks
  | submitInput request => exact submitInput hpacks
  | resume request => exact resumeRun hpacks
  | recordPauseSignal signal => exact recordPauseSignal

end Database.Spares

end Commands

end AgentPact
