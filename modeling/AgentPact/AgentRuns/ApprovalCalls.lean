import AgentPact.AgentRuns.ApprovalRounds

/-!
# Calls of the approval operations

Six operations write the approval requests and the pending actions
(`governance/pending_action_service.py`, `governance/approval_orchestrator.py`,
`governance/approval_pause_service.py`, `approval/persistence.py`).  Callers
make them in any order and at the same time, each in a transaction that is
rolled back when it raises.

Every row that an operation reads is locked until its transaction ends, so what
it reads is what is committed when it commits.  A query that finds no row locks
nothing.  There are two such queries, for an unresolved action of the step of a
pause and for the action of a request that is decided.  They are answered from
any earlier state, so that another caller may commit between the query and the
commit.

`record_approval_decision` is half of a decision.  Called on its own it moves
the action and leaves the request pending, and that is all that can set the two
apart (`approval_calls_sound`, `recorded_alone`).
-/

namespace AgentPact

open Base Transaction

/-! ## Queries that lock nothing -/

/-- `create_pending_action`, after its query for an unresolved action of the step. -/
def createPendingActionAfter (existing : Option PendingActionModel) (r : PendingActionRequest) :
    AgentRunTx PendingActionModel := do
  require (r.decision.outcome = .requireApproval)
    (pendingActionError "Only approval-required decisions can create pending actions")
  require (0 < r.ttlSeconds) (pendingActionError "Pending action TTL must be positive")
  require (r.observationHash ≠ "")
    (pendingActionError "Pending action requires an observation hash")
  require (existing = none) (pendingActionError "Task step already has a pending approval action")
  let expiresAt ← lift (r.now.add (r.ttlSeconds * DateTime.second))
  let model : PendingActionModel :=
    { pendingActionId := r.pendingActionId
      taskId := r.taskId
      stepId := r.stepId
      organizationId := r.organizationId
      approvalId := none
      status := .pending
      rowVersion := 1
      expiresAt := expiresAt.bind }
  write? (·.insertPending? model) ⟨.integrityError, "pending_actions"⟩
  pure model

/-- `create_approval_pause`, after that query. -/
def createApprovalPauseAfter (existing : Option PendingActionModel) (r : ApprovalPauseRequest) :
    AgentRunTx ApprovalPauseState := do
  let created ← createPendingActionAfter existing r.pending
  write? (·.insertApproval? r.approval) ⟨.integrityError, "approval_requests"⟩
  let action ← attachApproval created.pendingActionId r.approvalId created.rowVersion r.attachedAt
  pauseForApproval r.taskId r.stepId r.organizationId action

/-- `decide_approval_request`, after its query for the action of the request. -/
def decideApprovalRequestAfter (pending : Option PendingActionModel) (d : ApprovalDecision) :
    AgentRunTx ApprovalRequestModel := do
  let approval ← fetch (·.approvals.find? d.approvalId)
    ⟨.approvalPersistenceError, "Approval request does not exist"⟩
  require (approval.organizationId = d.organizationId)
    ⟨.approvalPersistenceError, "Approval request belongs to another organization"⟩
  require (approval.status = .pending)
    ⟨.approvalPersistenceError, "Approval request is not pending"⟩
  require (approval.requesterUserId ≠ some d.approverUserId)
    ⟨.approvalPersistenceError, "Requester cannot approve their own request"⟩
  write (·.updateApproval d.approvalId (ApprovalRequestModel.decide d))
  match pending with
  | none => pure ()
  | some model =>
      let _ ← recordApprovalDecision model.pendingActionId d model.rowVersion
      pure ()
  pure ((ApprovalRequestModel.decide d).apply approval)

/-- The unresolved action of a step. -/
def Database.unresolvedOf (db : Database) (taskId stepId : String) : Option PendingActionModel :=
  (db.pendingActionsOf taskId stepId).find? fun m => m.status.unresolved

/-- Programs that go on alike after a part that only reads are alike. -/
theorem bind_congr_of_keeps {ε σ α β : Type} {x : Transaction ε σ α} {f g : α → Transaction ε σ β}
    {s : σ} (hx : Keeps x s) (h : ∀ a, f a s = g a s) : (x >>= f) s = (x >>= g) s := by
  unfold Keeps at hx
  cases hrun : x s with
  | ok a t =>
      rw [hrun, left_ok] at hx
      subst hx
      rw [bind_of_ok hrun, bind_of_ok hrun, h a]
  | error e t => rw [bind_of_error hrun, bind_of_error hrun]

theorem createPendingAction_eq_after (r : PendingActionRequest) (s : Database) :
    createPendingAction r s = createPendingActionAfter (s.unresolvedOf r.taskId r.stepId) r s :=
  bind_congr_of_keeps (.require _ _) fun _ => bind_congr_of_keeps (.require _ _) fun _ =>
    bind_congr_of_keeps (.require _ _) fun _ => rfl

/-- A pause whose query is answered when it commits. -/
theorem createApprovalPause_eq_after (r : ApprovalPauseRequest) (s : Database) :
    createApprovalPause r s = createApprovalPauseAfter (s.unresolvedOf r.taskId r.stepId) r s := by
  unfold createApprovalPause createApprovalPauseAfter
  have hcreate : createPendingAction r.pending s =
      createPendingActionAfter (s.unresolvedOf r.taskId r.stepId) r.pending s :=
    createPendingAction_eq_after r.pending s
  cases hrun : createPendingAction r.pending s with
  | ok m t => rw [bind_of_ok hrun, bind_of_ok (hcreate.symm.trans hrun)]
  | error e t => rw [bind_of_error hrun, bind_of_error (hcreate.symm.trans hrun)]

/-- A decision whose query is answered when it commits. -/
theorem decideApprovalRequest_eq_after (d : ApprovalDecision) (s : Database) :
    decideApprovalRequest d s = decideApprovalRequestAfter (s.pendingOf d.approvalId) d s :=
  bind_congr_of_keeps (.fetch _ _) fun _ => bind_congr_of_keeps (.require _ _) fun _ =>
    bind_congr_of_keeps (.require _ _) fun _ => bind_congr_of_keeps (.require _ _) fun _ => rfl

/-! ## Calls -/

/-- A call of one of the operations. -/
inductive ApprovalCall where
  /-- `create_approval_pause`. -/
  | create (r : ApprovalPauseRequest)
  /-- `decide_approval_request`. -/
  | decide (d : ApprovalDecision)
  /-- `begin_reobservation_after_approval`. -/
  | reobserve (taskId stepId organizationId pendingActionId : String) (expectedRowVersion : Nat)
  /-- `attach_approval`. -/
  | attach (pendingActionId approvalId : String) (expectedRowVersion : Nat) (now : DateTime)
  /-- `record_approval_decision`. -/
  | record (pendingActionId : String) (d : ApprovalDecision) (expectedRowVersion : Nat)
  /-- `invalidate_approved_action_for_reobservation`. -/
  | invalidate (pendingActionId : String) (expectedRowVersion : Nat)

namespace ApprovalCall

/-- The operation that is called, with its query answered from a database. -/
def run (seen : Database) : ApprovalCall → AgentRunTx Unit
  | create r => do
      let _ ← createApprovalPauseAfter (seen.unresolvedOf r.taskId r.stepId) r
      pure ()
  | decide d => do
      let _ ← decideApprovalRequestAfter (seen.pendingOf d.approvalId) d
      pure ()
  | reobserve taskId stepId organizationId pendingActionId expectedRowVersion => do
      let _ ← beginReobservationAfterApproval taskId stepId organizationId pendingActionId
        expectedRowVersion
      pure ()
  | attach pendingActionId approvalId expectedRowVersion now => do
      let _ ← attachApproval pendingActionId approvalId expectedRowVersion now
      pure ()
  | record pendingActionId d expectedRowVersion => do
      let _ ← recordApprovalDecision pendingActionId d expectedRowVersion
      pure ()
  | invalidate pendingActionId expectedRowVersion => do
      let _ ← invalidateApprovedActionForReobservation pendingActionId expectedRowVersion
      pure ()

/-- The query comes after the row that the call locks first: a request that is decided was there
when its action was looked for. -/
def LocksBefore (seen db : Database) : ApprovalCall → Prop
  | decide d => (db.approvals.find? d.approvalId).isSome → (seen.approvals.find? d.approvalId).isSome
  | _ => True

/-- The request that a call decides. -/
def decided : ApprovalCall → Option String
  | decide d => some d.approvalId
  | _ => none

/-- The action for which a call makes the native pair RESUMING. -/
def resumed : ApprovalCall → Option String
  | reobserve _ _ _ pendingActionId _ => some pendingActionId
  | _ => none

end ApprovalCall

/-- The committed states, and the calls that returned. -/
structure ApprovalWorld where
  database : Database
  /-- The states before, latest first. -/
  past : List Database
  /-- The calls that returned, latest first. -/
  returned : List ApprovalCall

/-- What happens next. -/
inductive ApprovalEvent where
  | call (c : ApprovalCall) (seen : Database)
  /-- A write to other tables. -/
  | other (t : Database)

/-- A call commits when it returns, and is rolled back when it raises. -/
inductive ApprovalCallStep : ApprovalEvent → ApprovalWorld → ApprovalWorld → Prop
  | returns {w : ApprovalWorld} {c : ApprovalCall} {seen t : Database}
      (hseen : seen ∈ w.database :: w.past) (hlocks : c.LocksBefore seen w.database)
      (hrun : c.run seen w.database = .ok () t) :
      ApprovalCallStep (.call c seen) w ⟨t, w.database :: w.past, c :: w.returned⟩
  | raises {w : ApprovalWorld} {c : ApprovalCall} {seen t : Database} {e : Raised}
      (hseen : seen ∈ w.database :: w.past) (hlocks : c.LocksBefore seen w.database)
      (hrun : c.run seen w.database = .error e t) : ApprovalCallStep (.call c seen) w w
  | other {w : ApprovalWorld} {t : Database}
      (hactions : t.pendingActions = w.database.pendingActions)
      (happrovals : t.approvals = w.database.approvals) :
      ApprovalCallStep (.other t) w ⟨t, w.database :: w.past, w.returned⟩

end AgentPact
