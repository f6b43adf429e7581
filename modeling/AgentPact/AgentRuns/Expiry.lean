import AgentPact.AgentRuns.ApprovalAuthority
import AgentPact.AgentRuns.CoherentRuns
import AgentPact.BrowserLoop.ExecutorSafety

/-!
# What is left of an expired permit or action

A permit and a pending action are marked expired by the attempt that finds them
late, and the same attempt raises.  Their callers run it in a transaction of
their own, so the exception takes the mark back: a late attempt leaves its store
as it found it (`ExecutorPhase.authorize_late`, `ApprovalEntry.Decides.late`),
and a row is marked expired afterwards only if it was before
(`expiry_durable_iff`).
-/

namespace AgentPact

open Base Transaction

/-- A permit is marked expired. -/
def ExecutionStore.MarkedExpired (s : ExecutionStore) (permitId : String) : Prop :=
  ∃ permit, s.permits.find? permitId = some permit ∧ permit.status = .expired

/-- A pending action is marked expired. -/
def Database.MarkedExpired (db : Database) (pendingActionId : String) : Prop :=
  ∃ action, db.pendingActions.find? pendingActionId = some action ∧ action.status = .expired

/-! ## Permits -/

/-- An execution under a permit that has expired raises, and commits nothing. -/
theorem ExecutorPhase.authorize_late {P : Platform} {s : ExecutionStore}
    {command : AuthorizedAction} {resultProbeRef attemptId : String} {now : DateTime}
    {clock : AuthorizeClock} {permit : ExecutionPermitModel}
    (hfind : s.permits.find? command.authorization.permitId = some permit)
    (hlate : permit.expiresAt < now.bind) :
    ∃ e, (ExecutorPhase.authorizing command resultProbeRef).next P s
      (.authorize attemptId now clock) = some (s, .raised e, []) := by
  have hraises : ∀ a t, authorizeExecutionAttempt P attemptId
      (command.authorizeRequest resultProbeRef now) clock s ≠ .ok a t := by
    intro a t hok
    obtain ⟨found, _, at_, hfound, _, _, _, _, _, _, hat, hle, _⟩ :=
      authorizeExecutionAttempt_eq_ok hok
    have hsame : found = permit := Option.some.inj (hfound.symm.trans hfind)
    have hnow : at_ = now := hat
    subst hsame hnow
    exact absurd hle (Int.not_le.mpr hlate)
  cases hrun : authorizeExecutionAttempt P attemptId
      (command.authorizeRequest resultProbeRef now) clock s with
  | ok a t => exact absurd hrun (hraises a t)
  | error e t =>
      have hatomic : atomic (authorizeExecutionAttempt P attemptId
          (command.authorizeRequest resultProbeRef now) clock) s = .error e s :=
        atomic_eq_error.mpr ⟨⟨t, hrun⟩, rfl⟩
      refine ⟨e, ?_⟩
      simp only [ExecutorPhase.next, checkpointed, hatomic]

/-! ## Pending actions -/

/-- The clock that a decision is made by. -/
def ApprovalEntry.clock : ApprovalEntry → DateTime
  | .service E _ _ => E.decidedAt
  | .endpoint _ _ now => now

/-- Whether a decision of a user returns, and does not raise. -/
def ApprovalEntry.returns (P : Platform) (user : UserContext) (approved : Bool) (db : Database) :
    ApprovalEntry → Bool
  | .service E runId request =>
      if approved then returned (approve P E user runId request db)
      else returned (Termination.run P E user runId request .reject db)
  | .endpoint approvalId body now =>
      returned (decidePersistedRequest user approvalId approved body now db)

/-- The pending action that a decision of a user is about. -/
def ApprovalEntry.Decides (P : Platform) (user : UserContext) (db : Database)
    (action : PendingActionModel) : ApprovalEntry → Prop
  | .service E runId _ => ∃ locked projection approval,
      lockedProjection P E user runId db = .ok (locked, projection) ∧
        projection.view.state = .awaitingApproval ∧
        db.pendingApproval locked.checkpoint = .ok (some (action, approval))
  | .endpoint approvalId _ _ => db.pendingOf approvalId = some action

/-- An approval request is not decided once its action has expired. -/
theorem decideApprovalRequest_late {d : ApprovalDecision} {s : Database}
    {action : PendingActionModel} (hof : s.pendingOf d.approvalId = some action)
    (hlate : action.expiresAt < d.now.bind) (r : ApprovalRequestModel) (t : Database) :
    decideApprovalRequest d s ≠ .ok r t := by
  intro hok
  cases (decideApprovalRequest_eq_ok hok).2 with
  | alone hnone =>
      rw [hof] at hnone
      cases hnone
  | linked hsome _ hle =>
      have hsame := Option.some.inj (hof.symm.trans hsome)
      subst hsame
      exact absurd hle (Int.not_le.mpr hlate)

/-- The action of an approval is the one that the approval request decides. -/
theorem Database.pendingOf_of_pendingApproval {db : Database} {c : GovernedPlanCheckpoint}
    {action : PendingActionModel} {approval : ApprovalRequestModel}
    (h : db.pendingApproval c = .ok (some (action, approval))) :
    db.pendingOf approval.approvalId = some action := by
  obtain ⟨_, _, hrows, id, hlinked, _, hfind, _⟩ := Database.pendingApproval_rows.mp h
  have hid : approval.approvalId = id := Table.key_of_find? hfind
  have hselected := List.mem_singleton_self action
  rw [← hrows] at hselected
  have hmem : action ∈ db.pendingActions.rows := (Table.mem_select.mp hselected).1
  rw [← hid] at hlinked
  obtain ⟨model, hmodel⟩ := Database.pendingOf_of_linked hmem hlinked
  rw [Database.pendingOf_unique hmodel hmem hlinked]
  exact hmodel

section Late

variable {P : Platform} {E : Environment} {user : UserContext} {runId : String} {db : Database}
  {locked : LockedRun} {projection : AgentRunProjection} {action : PendingActionModel}
  {approval : ApprovalRequestModel} {request : AgentRunCommandRequest}

/-- A run whose action has expired is not approved. -/
theorem approve_late (hlocked : lockedProjection P E user runId db = .ok (locked, projection))
    (hstate : projection.view.state = .awaitingApproval)
    (hrows : db.pendingApproval locked.checkpoint = .ok (some (action, approval)))
    (hlate : action.expiresAt < E.decidedAt.bind) :
    ∃ e, approve P E user runId request db = .error e db := by
  by_cases hrole : user.isAnyApprover = true
  case neg => exact ⟨_, require_bind_not hrole⟩
  have hof := Database.pendingOf_of_pendingApproval hrows
  cases hrun : approveDecision P E user runId request db with
  | error e t =>
      refine ⟨e, (require_bind hrole).trans (bind_of_error ?_)⟩
      exact atomic_eq_error.mpr ⟨⟨t, hrun⟩, rfl⟩
  | ok decision t =>
      -- the decision would have gone through
      exfalso
      simp only [approveDecision, bind_eq_ok, query_eq_ok] at hrun
      obtain ⟨⟨locked', projection'⟩, _, ⟨hlocked', rfl⟩, rows, _, ⟨hrows', rfl⟩, hrun⟩ := hrun
      cases hlocked.symm.trans hlocked'
      cases hrows.symm.trans hrows'
      simp only [hstate, if_true, bind_eq_ok] at hrun
      obtain ⟨_, _, hlegal, decision, _, hdecide, _⟩ := hrun
      cases (require_eq_ok.mp hlegal).2
      exact decideApprovalRequest_late hof hlate _ _ hdecide

/-- Nor is it rejected. -/
theorem reject_late (hlocked : lockedProjection P E user runId db = .ok (locked, projection))
    (hstate : projection.view.state = .awaitingApproval)
    (hrows : db.pendingApproval locked.checkpoint = .ok (some (action, approval)))
    (hlate : action.expiresAt < E.decidedAt.bind) :
    ∃ e, Termination.run P E user runId request .reject db = .error e db := by
  have hof := Database.pendingOf_of_pendingApproval hrows
  unfold Termination.run
  cases hadmits : Termination.admits P E user runId .reject db with
  | error e => exact ⟨e, bind_of_error (query_eq_error.mpr ⟨hadmits, rfl⟩)⟩
  | ok admitted =>
      rw [bind_of_ok (query_eq_ok.mpr ⟨hadmits, rfl⟩)]
      simp only [Termination.admits, rejectAdmits, except_bind_eq_ok, hlocked] at hadmits
      obtain ⟨_, _, _, hpair, hadmits⟩ := hadmits
      cases hpair
      simp only [hstate, reduceCtorEq, if_false, except_bind_eq_ok] at hadmits
      obtain ⟨_, _, hpure⟩ := hadmits
      cases hpure
      cases hwrites : Termination.writes P E user runId request locked .reject db with
      | error e t =>
          exact ⟨e, bind_of_error (atomic_eq_error.mpr ⟨⟨t, hwrites⟩, rfl⟩)⟩
      | ok u t =>
          exfalso
          cases Termination.writes_terminated hwrites with
          | rejected hrows' hdecide _ _ _ _ =>
              cases hrows.symm.trans hrows'
              exact decideApprovalRequest_late hof hlate _ _ hdecide

end Late

/-- What is decided is in the database. -/
theorem ApprovalEntry.Decides.find {P : Platform} {user : UserContext} {db : Database}
    {action : PendingActionModel} {entry : ApprovalEntry} (h : entry.Decides P user db action) :
    db.pendingActions.find? action.pendingActionId = some action := by
  cases entry with
  | service E runId request =>
      obtain ⟨_, _, _, _, _, hrows⟩ := h
      exact (Database.pendingOf_eq_some (Database.pendingOf_of_pendingApproval hrows)).1
  | endpoint approvalId body now => exact (Database.pendingOf_eq_some h).1

/-- A decision on an action that has expired raises, and commits nothing. -/
theorem ApprovalEntry.Decides.late {P : Platform} {user : UserContext} {approved : Bool}
    {db : Database} {action : PendingActionModel} {entry : ApprovalEntry}
    (h : entry.Decides P user db action) (hlate : action.expiresAt < entry.clock.bind) :
    entry.returns P user approved db = false ∧ entry.decide P user approved db = db := by
  cases entry with
  | service E runId request =>
      obtain ⟨locked, projection, approval, hlocked, hstate, hrows⟩ := h
      cases approved with
      | true =>
          have hraises : ∃ e, approve P E user runId request db = .error e db :=
            approve_late hlocked hstate hrows hlate
          obtain ⟨e, hrun⟩ := hraises
          simp only [ApprovalEntry.returns, ApprovalEntry.decide, hrun, if_true]
          exact ⟨rfl, rfl⟩
      | false =>
          have hraises : ∃ e, Termination.run P E user runId request .reject db = .error e db :=
            reject_late hlocked hstate hrows hlate
          obtain ⟨e, hrun⟩ := hraises
          simp only [ApprovalEntry.returns, ApprovalEntry.decide, hrun, Bool.false_eq_true,
            if_false]
          exact ⟨rfl, rfl⟩
  | endpoint approvalId body now =>
      have hof : db.pendingOf approvalId = some action := h
      simp only [ApprovalEntry.returns, ApprovalEntry.decide]
      cases hrun : decidePersistedRequest user approvalId approved body now db with
      | error e t =>
          have hclean : t = db :=
            decidePersistedRequest_clean user approvalId approved body now _ _ _ hrun
          exact ⟨rfl, hclean⟩
      | ok r t =>
          obtain ⟨_, _, _, _, _, hdecide⟩ := decidePersistedRequest_eq_ok.mp hrun
          exact absurd hdecide (decideApprovalRequest_late hof hlate r t)

/-! ## What is marked expired -/

/-- After a late attempt has raised, the permit or the action is marked expired exactly if it was so
before the attempt. -/
theorem expiry_durable_iff (P : Platform) :
    (∀ s command resultProbeRef attemptId now clock permit,
      s.permits.find? command.authorization.permitId = some permit →
      permit.expiresAt < now.bind → ∃ t e,
        (ExecutorPhase.authorizing command resultProbeRef).next P s
          (.authorize attemptId now clock) = some (t, .raised e, []) ∧
        (t.MarkedExpired command.authorization.permitId ↔ permit.status = .expired)) ∧
    ∀ user approved db action (entry : ApprovalEntry),
      entry.Decides P user db action → action.expiresAt < entry.clock.bind →
      entry.returns P user approved db = false ∧
        ((entry.decide P user approved db).MarkedExpired action.pendingActionId ↔
          action.status = .expired) := by
  constructor
  · intro s command resultProbeRef attemptId now clock permit hfind hlate
    have hraises : ∃ e, (ExecutorPhase.authorizing command resultProbeRef).next P s
        (.authorize attemptId now clock) = some (s, .raised e, []) :=
      ExecutorPhase.authorize_late hfind hlate
    obtain ⟨e, hnext⟩ := hraises
    refine ⟨s, e, hnext, ?_, fun hstatus => ⟨permit, hfind, hstatus⟩⟩
    rintro ⟨found, hfound, hstatus⟩
    cases hfind.symm.trans hfound
    exact hstatus
  · intro user approved db action entry hdecides hlate
    have hlast : entry.returns P user approved db = false ∧ entry.decide P user approved db = db :=
      hdecides.late hlate
    obtain ⟨hraises, hsame⟩ := hlast
    have hfind := hdecides.find
    rw [hsame]
    refine ⟨hraises, ?_, fun hstatus => ⟨action, hfind, hstatus⟩⟩
    rintro ⟨found, hfound, hstatus⟩
    cases hfind.symm.trans hfound
    exact hstatus

/-! ## Late attempts, and attempts by an earlier clock -/

section Run

/-- A permit that is valid for a minute. -/
def issuedStore : ExecutionStore :=
  (GovernanceCall.issuePermit "permit" sampleIssue 0).leaves samplePlatform .empty

/-- The sample command asks for its attempt. -/
def sampleAuthorizing (at_ : Int) (s : ExecutionStore) :
    Option (ExecutionStore × ExecutorPhase × List ExecutorEvent) :=
  (ExecutorPhase.authorizing sampleCommand "probe").next samplePlatform s
    (.authorize "attempt" (secondOfRun at_) ⟨0, 0, 0⟩)

/-- An approver grants the sample run. -/
def sampleEntry (at_ : Int) : ApprovalEntry :=
  .service (sampleEnvironment idleAdapter (.utc at_)) sampleRunId ⟨"approve", none⟩

/-- The sample run after an approver was too late to grant it. -/
def decidedLate : Database :=
  (sampleEntry 2000).decide samplePlatform sampleUser true awaitingDatabase

theorem issuedStore_permit : ∃ permit, issuedStore.permits.find? "permit" = some permit ∧
    permit.status = .issued ∧ permit.expiresAt < (secondOfRun 61).bind := by
  have hfound : (issuedStore.permits.find? "permit").any (fun permit =>
      permit.status = .issued ∧ permit.expiresAt < (secondOfRun 61).bind) = true := by
    decide +kernel
  obtain ⟨permit, hfind, hpermit⟩ := (Option.any_eq_true _ _).mp hfound
  exact ⟨permit, hfind, of_decide_eq_true hpermit⟩

/-- Both attempts raise, and neither marks its row. -/
theorem expiry_durable_iff_sample :
    (∃ permit t e, issuedStore.permits.find? "permit" = some permit ∧
      sampleAuthorizing 61 issuedStore = some (t, .raised e, []) ∧
      (t.MarkedExpired "permit" ↔ permit.status = .expired)) ∧
    ∃ (entry : ApprovalEntry) (action : PendingActionModel),
      entry.returns samplePlatform sampleUser true awaitingDatabase = false ∧
      ((entry.decide samplePlatform sampleUser true awaitingDatabase).MarkedExpired
        action.pendingActionId ↔ action.status = .expired) := by
  obtain ⟨permit, hfind, _, hlate⟩ := issuedStore_permit
  obtain ⟨t, e, hnext, hiff⟩ := (expiry_durable_iff samplePlatform).1 issuedStore sampleCommand
    "probe" "attempt" (secondOfRun 61) ⟨0, 0, 0⟩ permit hfind hlate
  have hfound : (awaitingDatabase.pendingOf "approval").any
      (fun action => action.expiresAt < (DateTime.utc 2000).bind) = true := by decide +kernel
  obtain ⟨action, hof, hlate'⟩ := (Option.any_eq_true _ _).mp hfound
  exact ⟨⟨permit, t, e, hfind, hnext, hiff⟩, .endpoint "approval" ⟨"", by decide⟩ (.utc 2000), action,
    (expiry_durable_iff samplePlatform).2 sampleUser true awaitingDatabase action
      (.endpoint "approval" ⟨"", by decide⟩ (.utc 2000)) hof (of_decide_eq_true hlate')⟩

/-- After the late attempts nothing is marked, and attempts by an earlier clock go through: the
permit is used, and the action is decided. -/
theorem late_attempts_forgotten :
    (∃ t e, sampleAuthorizing 61 issuedStore = some (t, .raised e, []) ∧
      ¬ t.MarkedExpired "permit" ∧
      (sampleAuthorizing 59 t).map (fun r => (r.1.permits.find? "permit").map (·.status)) =
        some (some .consumed)) ∧
    (sampleEntry 2000).returns samplePlatform sampleUser true awaitingDatabase = false ∧
      ¬ decidedLate.MarkedExpired "action" ∧
      (((sampleEntry 12).decide samplePlatform sampleUser true decidedLate).approvals.find?
        "approval").map (·.status) = some .approved := by
  constructor
  · obtain ⟨permit, hfind, hissued, hlate⟩ := issuedStore_permit
    have hraises : ∃ e, sampleAuthorizing 61 issuedStore = some (issuedStore, .raised e, []) :=
      ExecutorPhase.authorize_late hfind hlate
    obtain ⟨e, hnext⟩ := hraises
    refine ⟨issuedStore, e, hnext, ?_, by decide +kernel⟩
    rintro ⟨found, hfound, hstatus⟩
    cases hfind.symm.trans hfound
    rw [hissued] at hstatus
    cases hstatus
  · have hran : (sampleEntry 2000).returns samplePlatform sampleUser true awaitingDatabase = false ∧
        (decidedLate.pendingActions.find? "action").map (·.status) = some .pending ∧
        (((sampleEntry 12).decide samplePlatform sampleUser true decidedLate).approvals.find?
          "approval").map (·.status) = some .approved := by decide +kernel
    obtain ⟨hraises, hpending, hdecided⟩ := hran
    refine ⟨hraises, ?_, hdecided⟩
    rintro ⟨found, hfound, hstatus⟩
    rw [hfound, Option.map_some, hstatus] at hpending
    cases hpending

end Run

end AgentPact
