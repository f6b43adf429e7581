import AgentPact.AgentRuns.ApprovalPauses

/-!
# The approval queue and its recovery scan

The two ways an approval is settled without the service: the approval endpoint
(`approval/routes.py`), which decides any request of the user's organization,
and the recovery scan (`governance/approval_recovery_service.py`), which resumes
the steps whose approval was granted.  Neither writes to a journal.
-/

namespace AgentPact

open Base Transaction

/-! ## The endpoint -/

/-- `HTTPException`. -/
def httpException (statusCode : Nat) (detail : String) : Raised :=
  ⟨.httpException, toString statusCode ++ ": " ++ detail⟩

/-- The body of a decision. -/
structure DecisionRequest where
  note : String
  note_length : note.length ≤ 2000

/-- `_user_can_approve`. -/
def userCanApprove (user : UserContext) (approvalDeptId : String) : Bool :=
  user.isOrgAdmin || user.hasCrossOrgApprove ||
    (user.getRoleInDepartment approvalDeptId).any (· ∈ ["approver", "org_admin", "super_admin"])

/-- An `ApprovalPersistenceError`, as the endpoint reports it. -/
def asConflict (e : Raised) : Raised :=
  if ErrorClass.approvalPersistenceError.caughtBy e then httpException 409 e.text else e

/-- `_decide_persisted_request`, behind `require_approver`. -/
def decidePersistedRequest (user : UserContext) (approvalId : String) (approved : Bool)
    (body : DecisionRequest) (now : DateTime) : AgentRunTx ApprovalRequestModel := do
  require (user.isAnyApprover = true) (httpException 403 "Approver role or higher required")
  atomic do
    let approval ← fetch (·.approvals.find? approvalId)
      (httpException 404 ("Approval request " ++ approvalId ++ " not found"))
    require (approval.organizationId = user.orgId ∧
        userCanApprove user approval.approverDepartmentId = true)
      (httpException 403 "You are not authorized for this approval")
    translating asConflict
      (decideApprovalRequest ⟨approvalId, user.orgId, user.userId, approved, body.note, now⟩)

/-! ## The scan -/

/-- The approved actions that a scan claims: in order, up to a limit, and without those that another
session holds. -/
def Database.approvedActions (db : Database) (organizationId : Option String)
    (held : PendingActionModel → Bool) (limit : Nat) : List PendingActionModel :=
  (db.pendingActions.select fun m =>
    m.status = .approved && organizationId.all (· = m.organizationId) && !held m).take limit

/-- Resume the steps of the claimed actions that can be resumed. -/
def reobserveAll : List PendingActionModel → AgentRunTx (List ApprovalPauseState)
  | [] => pure []
  | m :: ms => do
      let resumed ← attempt (ErrorClass.approvalPauseError.caughtBy ·)
        (beginReobservationAfterApproval m.taskId m.stepId m.organizationId m.pendingActionId
          m.rowVersion)
      let resumptions ← reobserveAll ms
      pure (resumed.toList ++ resumptions)

/-- `prepare_approved_pauses_for_reobservation`. -/
def prepareApprovedPausesForReobservation (organizationId : Option String) (limit : Int)
    (held : PendingActionModel → Bool) : AgentRunTx (List ApprovalPauseState) := do
  require (0 < limit) ⟨.valueError, "Recovery scan limit must be positive"⟩
  let pendingActions ← read (·.approvedActions organizationId held limit.toNat)
  reobserveAll pendingActions

/-! ## What they write -/

/-- The endpoint decides as the service does, for an approver of the request's department. -/
theorem decidePersistedRequest_eq_ok {user : UserContext} {approvalId : String} {approved : Bool}
    {body : DecisionRequest} {now : DateTime} {s t : Database} {r : ApprovalRequestModel} :
    decidePersistedRequest user approvalId approved body now s = .ok r t ↔
      user.isAnyApprover = true ∧ ∃ approval : ApprovalRequestModel,
        s.approvals.find? approvalId = some approval ∧ approval.organizationId = user.orgId ∧
        userCanApprove user approval.approverDepartmentId = true ∧
        decideApprovalRequest ⟨approvalId, user.orgId, user.userId, approved, body.note, now⟩ s =
          .ok r t := by
  simp only [decidePersistedRequest, bind_eq_ok, require_eq_ok, atomic_eq_ok, fetch_eq_ok,
    translating_eq_ok]
  constructor
  · rintro ⟨_, _, ⟨hrole, rfl⟩, approval, _, ⟨hfind, rfl⟩, _, _, ⟨⟨horg, hcan⟩, rfl⟩, hdecide⟩
    exact ⟨hrole, approval, hfind, horg, hcan, hdecide⟩
  · rintro ⟨hrole, approval, hfind, horg, hcan, hdecide⟩
    exact ⟨(), s, ⟨hrole, rfl⟩, approval, s, ⟨hfind, rfl⟩, (), s, ⟨⟨horg, hcan⟩, rfl⟩, hdecide⟩

/-- A decision that the endpoint refuses writes nothing. -/
theorem decidePersistedRequest_clean (user : UserContext) (approvalId : String) (approved : Bool)
    (body : DecisionRequest) (now : DateTime) :
    Clean (decidePersistedRequest user approvalId approved body now) :=
  .bind_keeps (fun _ => .require _ _) fun _ => .atomic _

end AgentPact
