import AgentPact.AgentRuns.Coherence

/-!
# Runs of the three drivers

Every interleaving of the service, the approval endpoint and the recovery scan
keeps the approvals of a run coherent with its journal, if no step of it goes
behind the journal (`Journaled`): no rejection through the endpoint is granted
for a step of the run, and no scan resumes a task of the run.

An `approve` is several transactions: the decision, what its Pack commits, and
the reflection of what the Pack returned.  Each is a label of its own, and
`approve_reaches` says that the command is a run of them.
-/

namespace AgentPact

open Base Transaction

/-! ## Steps -/

/-- What a Pack commits: native rows, permits and attempts, and no step that resumes. -/
structure PackWrites (s t : Database) : Prop where
  frame : t = { s with tasks := t.tasks, steps := t.steps, execution := t.execution }
  resuming : ∀ row ∈ t.steps.rows, row.status = .resuming → row ∈ s.steps.rows

/-- A transaction on the approvals of a run. -/
inductive ApprovalLabel where
  | pause (request : RunApprovalPause)
  /-- The first transaction of `approve`. -/
  | approve (environment : Environment) (user : UserContext) (request : AgentRunCommandRequest)
  /-- What a Pack commits while it advances the run. -/
  | pack
  /-- The last transaction of `approve`. -/
  | reflect (environment : Environment) (user : UserContext) (result : PackAdvanceResult)
      (operationKey : String)
  | terminate (environment : Environment) (user : UserContext) (t : Termination)
      (request : AgentRunCommandRequest)
  /-- A decision through the endpoint. -/
  | decide (user : UserContext) (approvalId : String) (approved : Bool) (body : DecisionRequest)
      (now : DateTime)
  /-- A recovery scan. -/
  | scan (organizationId : Option String) (limit : Int) (held : PendingActionModel → Bool)

/-- One transaction on the approvals of a run. -/
def ApprovalStep (P : Platform) (runId : String) : ApprovalLabel → Database → Database → Prop
  | .pause r, s, t => r.prepared.runId = runId ∧ t = left (pauseRunForApproval P r s)
  | .approve E user request, s, t =>
      t = left (atomic (approveDecision P E user runId request) s)
  | .pack, s, t => PackWrites s t
  | .reflect E user result operationKey, s, t =>
      result.runId = runId ∧ t = left (reflectAdvanceResult P E user result operationKey s)
  | .terminate E user end_ request, s, t => t = left (end_.run P E user runId request s)
  | .decide user approvalId approved body now, s, t =>
      t = left (decidePersistedRequest user approvalId approved body now s)
  | .scan organizationId limit held, s, t =>
      t = left (atomic (prepareApprovedPausesForReobservation organizationId limit held) s)

/-- The step of an approved action waits to be resumed. -/
def Database.Resumable (db : Database) (m : PendingActionModel) : Prop :=
  ∃ task step, db.task? m.taskId m.organizationId = some task ∧ task.status = .pendingApproval ∧
    db.step? m.stepId m.taskId m.organizationId = some step ∧ step.status = .pendingApproval

/-- The endpoint lets a user decide the approval request of a pending action. -/
structure Database.Decidable (db : Database) (user : UserContext) (approvalId : String)
    (now : DateTime) (m : PendingActionModel) : Prop where
  role : user.isAnyApprover = true
  request : ∃ approval, db.approvals.find? approvalId = some approval ∧
    approval.organizationId = user.orgId ∧
    userCanApprove user approval.approverDepartmentId = true ∧ approval.status = .pending ∧
    approval.requesterUserId ≠ some user.userId
  action : db.pendingOf approvalId = some m
  pending : m.status = .pending
  unexpired : now.bind ≤ m.expiresAt

/-- A transaction does not go behind the journal of the run: it is no rejection through the endpoint
of an action of a step ahead, and no scan that resumes the task of a step ahead. -/
def Journaled (P : Platform) (runId : String) (db : Database) : ApprovalLabel → Prop
  | .decide user approvalId false _ now =>
      ∀ c, replayPlanJournal P (db.loadEvents runId) = .ok c →
        ∀ x ∈ c.ahead, ∀ m, db.Decidable user approvalId now m → ¬ x.Owns m
  | .scan organizationId limit held =>
      ∀ c, replayPlanJournal P (db.loadEvents runId) = .ok c →
        ∀ x ∈ c.ahead, ∀ m ∈ db.approvedActions organizationId held limit.toNat,
          m.taskId = x.nativeTaskId → ¬ db.Resumable m
  | _ => True

/-- What the endpoint writes, and what it checked before. -/
theorem decidePersistedRequest_writes {user : UserContext} {approvalId : String} {approved : Bool}
    {body : DecisionRequest} {now : DateTime} {s t : Database} {r : ApprovalRequestModel}
    (h : decidePersistedRequest user approvalId approved body now s = .ok r t) :
    DecisionWrites ⟨approvalId, user.orgId, user.userId, approved, body.note, now⟩ s t ∧
      ∀ m, s.pendingOf approvalId = some m → s.Decidable user approvalId now m := by
  obtain ⟨hrole, approval, hfind, horg, hcan, hdecide⟩ := decidePersistedRequest_eq_ok.mp h
  obtain ⟨⟨approval', hfind', _, hpending, hrequester, _⟩, hwrites⟩ :=
    decideApprovalRequest_eq_ok hdecide
  cases hfind.symm.trans hfind'
  refine ⟨hwrites, fun m hm => ?_⟩
  have hrequest : ∃ approval, s.approvals.find? approvalId = some approval ∧
      approval.organizationId = user.orgId ∧
      userCanApprove user approval.approverDepartmentId = true ∧ approval.status = .pending ∧
      approval.requesterUserId ≠ some user.userId :=
    ⟨approval, hfind, horg, hcan, hpending, hrequester⟩
  cases hwrites with
  | alone hnone => exact absurd (hm.symm.trans hnone) (Option.some_ne_none m)
  | linked hsome hstatus hle =>
      cases hm.symm.trans hsome
      exact ⟨hrole, hrequest, hm, hstatus, hle⟩

namespace Coherent

variable {P : Platform} {runId : String} {s t : Database}

/-- A Pack keeps the rows in agreement. -/
theorem pack (h : Coherent P runId s) (hpack : PackWrites s t) : Coherent P runId t := by
  have hevents : t.loadEvents runId = s.loadEvents runId := by rw [hpack.frame]; rfl
  refine h.quiet hevents fun _ _ x _ => ⟨?_, ?_, ?_⟩
  · rintro ⟨row, hfind, htask, hstatus⟩
    have hrow := hpack.resuming row (Table.mem_of_find? hfind) hstatus
    exact ⟨row, Table.find?_eq_some.mpr ⟨hrow, Table.key_of_find? hfind⟩, htask, hstatus⟩
  · rw [hpack.frame]
    exact id
  · rw [hpack.frame]
    exact id

/-- A decision that rejects no approval of a step ahead keeps the rows in agreement. -/
theorem decision (h : Coherent P runId s) {d : ApprovalDecision} (hwrites : DecisionWrites d s t)
    (hd : d.approved = true ∨ ∀ c, replayPlanJournal P (s.loadEvents runId) = .ok c →
      ∀ x ∈ c.ahead, ∀ m, s.pendingOf d.approvalId = some m → ¬ x.Owns m) :
    Coherent P runId t :=
  h.quiet (Database.SameRuns.of_approvals hwrites.same |>.loadEvents runId) fun c hc x hx =>
    hwrites.calm (hd.imp_right fun hother => hother c hc x hx)

/-- So does a decision through the endpoint. -/
theorem decide (h : Coherent P runId s) {user : UserContext} {approvalId : String}
    {approved : Bool} {body : DecisionRequest} {now : DateTime}
    (hok : Journaled P runId s (.decide user approvalId approved body now)) :
    Coherent P runId (left (decidePersistedRequest user approvalId approved body now s)) := by
  rcases (decidePersistedRequest_clean user approvalId approved body now).left_cases s with
    hsame | ⟨r, hdecide⟩
  · rw [hsame]
    exact h
  · obtain ⟨hwrites, hgranted⟩ := decidePersistedRequest_writes hdecide
    refine h.decision hwrites ?_
    cases approved with
    | true => exact .inl rfl
    | false => exact .inr fun c hc x hx m hm => hok c hc x hx m (hgranted m hm)

/-- Resuming an action of no task ahead keeps the rows in agreement. -/
theorem reobserve (h : Coherent P runId s) {m : PendingActionModel} {r : ApprovalPauseState}
    (hbegin : beginReobservationAfterApproval m.taskId m.stepId m.organizationId m.pendingActionId
      m.rowVersion s = .ok r t)
    (hother : ∀ c, replayPlanJournal P (s.loadEvents runId) = .ok c →
      ∀ x ∈ c.ahead, m.taskId ≠ x.nativeTaskId) : Coherent P runId t := by
  obtain ⟨pending, task, step, hfind, _, _, htaskId, _, _, _, hstep, _, _, rfl⟩ :=
    beginReobservationAfterApproval_eq_ok hbegin
  refine h.quiet rfl fun c hc x hx => ⟨fun hresuming => ?_, fun hrejected => ?_, fun hunresolved => ?_⟩
  · rcases hresuming.of_setNativeStatus with ⟨_, hbefore⟩ | ⟨_, _, row, hrow, htask⟩
    · exact hbefore
    · -- the step that resumes is one of another task
      obtain ⟨hfound, hsame⟩ := Option.filter_eq_some_iff.mp hstep
      cases hfound.symm.trans hrow
      simp only [Bool.and_eq_true, decide_eq_true_eq] at hsame
      exact absurd (hsame.1.symm.trans htask) (hother c hc x hx)
  · exact Database.HasRejected.of_invalidate hrejected
  · exact Database.HasUnresolved.invalidate hunresolved hfind fun howns =>
      hother c hc x hx (htaskId.symm.trans howns.1)

end Coherent

/-- What waits to be resumed after another step resumed waited before. -/
theorem Database.Resumable.of_reobserved {s : Database} {m : PendingActionModel}
    {id taskId stepId : String} {e : Edit PendingActionModel}
    (h : ((s.updatePending id e).setNativeStatus taskId stepId .resuming .resuming).Resumable m) :
    s.Resumable m := by
  obtain ⟨task, step, htask, htaskStatus, hstep, hstepStatus⟩ := h
  obtain ⟨hfindTask, htaskOrg⟩ := Option.filter_eq_some_iff.mp htask
  obtain ⟨hfindStep, hstepOrg⟩ := Option.filter_eq_some_iff.mp hstep
  obtain ⟨task₀, htask₀, rfl | ⟨_, rfl⟩⟩ := Table.find?_update_some hfindTask
  case inr => cases htaskStatus
  obtain ⟨step₀, hstep₀, rfl | ⟨_, rfl⟩⟩ := Table.find?_update_some hfindStep
  case inr => cases hstepStatus
  exact ⟨task, step, Option.filter_eq_some_iff.mpr ⟨htask₀, htaskOrg⟩, htaskStatus,
    Option.filter_eq_some_iff.mpr ⟨hstep₀, hstepOrg⟩, hstepStatus⟩

/-- No scan of these actions resumes the task of a step ahead. -/
def Foreign (P : Platform) (runId : String) (s : Database) (ms : List PendingActionModel) : Prop :=
  ∀ c, replayPlanJournal P (s.loadEvents runId) = .ok c →
    ∀ x ∈ c.ahead, ∀ m ∈ ms, m.taskId = x.nativeTaskId → ¬ s.Resumable m

/-- What resuming a step of another task relates, and composes, relates the ends of a scan. -/
theorem reobserveAll_related {P : Platform} {runId : String} {R : Database → Database → Prop}
    (hrefl : ∀ s, R s s) (htrans : ∀ s t u, R s t → R t u → R s u)
    (hbegin : ∀ {s t : Database} {m : PendingActionModel} {r : ApprovalPauseState},
      beginReobservationAfterApproval m.taskId m.stepId m.organizationId m.pendingActionId
        m.rowVersion s = .ok r t →
      (∀ c, replayPlanJournal P (s.loadEvents runId) = .ok c →
        ∀ x ∈ c.ahead, m.taskId ≠ x.nativeTaskId) → R s t)
    {ms : List PendingActionModel} {s t : Database} {r : List ApprovalPauseState}
    (hforeign : Foreign P runId s ms) (hscan : reobserveAll ms s = .ok r t) : R s t := by
  induction ms generalizing s r with
  | nil => cases hscan; exact hrefl _
  | cons m ms ih =>
      simp only [reobserveAll, bind_eq_ok] at hscan
      obtain ⟨resumed, s', hattempt, rest, _, hrest, hpure⟩ := hscan
      cases hpure
      rcases attempt_eq_ok.mp hattempt with ⟨resumed, hresumed, _⟩ | ⟨e, hraised, _, _⟩
      · obtain ⟨_, task, step, _, _, _, _, _, htask, htaskStatus, hstep, hstepStatus, _, hleft⟩ :=
          beginReobservationAfterApproval_eq_ok hresumed
        have hresumable : s.Resumable m := ⟨task, step, htask, htaskStatus, hstep, hstepStatus⟩
        have hfirst := hbegin hresumed fun c hc x hx hsame =>
          hforeign c hc x hx m (List.mem_cons_self ..) hsame hresumable
        subst hleft
        exact htrans _ _ _ hfirst (ih (fun c hc x hx m' hm' hsame hagain =>
          hforeign c hc x hx m' (List.mem_cons_of_mem _ hm') hsame hagain.of_reobserved) hrest)
      · have hsame := beginReobservationAfterApproval_clean _ _ _ _ _ s e s' hraised
        subst hsame
        exact ih (fun c hc x hx m' hm' => hforeign c hc x hx m' (List.mem_cons_of_mem _ hm')) hrest

/-- And of one that is a transaction. -/
theorem scan_related {P : Platform} {runId : String} {R : Database → Database → Prop}
    (hrefl : ∀ s, R s s) (htrans : ∀ s t u, R s t → R t u → R s u)
    (hbegin : ∀ {s t : Database} {m : PendingActionModel} {r : ApprovalPauseState},
      beginReobservationAfterApproval m.taskId m.stepId m.organizationId m.pendingActionId
        m.rowVersion s = .ok r t →
      (∀ c, replayPlanJournal P (s.loadEvents runId) = .ok c →
        ∀ x ∈ c.ahead, m.taskId ≠ x.nativeTaskId) → R s t)
    {s : Database} {organizationId : Option String} {limit : Int}
    {held : PendingActionModel → Bool}
    (hok : Journaled P runId s (.scan organizationId limit held)) :
    R s (left (atomic (prepareApprovedPausesForReobservation organizationId limit held) s)) := by
  rcases (Clean.atomic (prepareApprovedPausesForReobservation organizationId limit held)).left_cases s
    with hsame | ⟨r, hscan⟩
  · rw [hsame]
    exact hrefl s
  · simp only [prepareApprovedPausesForReobservation, atomic_eq_ok, bind_eq_ok, require_eq_ok,
      read_eq_ok] at hscan
    obtain ⟨_, _, ⟨_, rfl⟩, claimed, _, ⟨rfl, rfl⟩, hscan⟩ := hscan
    exact reobserveAll_related hrefl htrans hbegin hok hscan

namespace Coherent

variable {P : Platform} {runId : String} {s t : Database}

/-- A scan that resumes no task ahead keeps the rows in agreement. -/
theorem scan (h : Coherent P runId s) {organizationId : Option String} {limit : Int}
    {held : PendingActionModel → Bool}
    (hok : Journaled P runId s (.scan organizationId limit held)) :
    Coherent P runId
      (left (atomic (prepareApprovedPausesForReobservation organizationId limit held) s)) :=
  scan_related (R := fun s t => Coherent P runId s → Coherent P runId t) (fun _ => id)
    (fun _ _ _ hfirst hsecond => hsecond ∘ hfirst)
    (fun hbegin hother hbefore => hbefore.reobserve hbegin hother) hok h

/-- So does a pause. -/
theorem pause (h : Coherent P runId s) {r : RunApprovalPause} (hrun : r.prepared.runId = runId) :
    Coherent P runId (left (pauseRunForApproval P r s)) := by
  rcases (pauseRunForApproval_clean P r).left_cases s with hsame | ⟨c, hpause⟩
  · rw [hsame]
    exact h
  generalize left (pauseRunForApproval P r s) = t at hpause ⊢
  obtain ⟨u, root, bundle, current, latest, active, pause, row, hpaused⟩ :=
    pauseRunForApproval_eq_ok hpause
  have hreplay := hpaused.replay
  rw [hrun] at hreplay
  have hroot := h.root hreplay
  refine h.appended (hpaused.sameRuns.loadEvents runId) hreplay hpaused.appended ⟨rfl, rfl⟩
    hroot (fun x hx => ⟨x, hx, rfl, rfl⟩) (fun x hresuming => .inr ?_)
    (.inr fun x => (hpaused.paused.quiet x).2.1)
    fun _ => ⟨active, hpaused.activeStep, (hpaused.paused.quiet active).2.2 hpaused.step⟩
  -- the step that is paused does not resume
  obtain ⟨hbefore, hother⟩ := (hpaused.paused.quiet x).1 hresuming
  refine ⟨hbefore, ?_⟩
  rintro ⟨_, a, hactive, hnative⟩
  cases hpaused.activeStep.symm.trans hactive
  exact hother (hpaused.step.2.trans hnative.2)

/-- Resuming the active step with the journal keeps the rows in agreement. -/
theorem resume (h : Coherent P runId s) {u v : Database} {E : Environment} {user : UserContext}
    {request : AgentRunCommandRequest} {locked : LockedRun} {active : GovernedPlanStepRef}
    {action : PendingActionModel} {resumed : ApprovalPauseState} {c : GovernedPlanCheckpoint}
    (hload : LoadedFrom P s user.orgId runId locked)
    (hactive : locked.checkpoint.activeStep = some active) (howns : active.Owns action)
    (hsame : s.SameButApprovals v) (hrejected : ∀ x, v.HasRejected x → s.HasRejected x)
    (hbegin : beginReobservationAfterApproval action.taskId action.stepId user.orgId
      action.pendingActionId action.rowVersion v = .ok resumed u)
    (happend : appendCommand P E user runId "approve" request.operationKey locked
      { locked.checkpoint with state := .active } .approvalResumed u = .ok c t) :
    Coherent P runId t := by
  obtain ⟨pending, task, step, _, _, _, _, _, _, _, hstep, _, _, hu⟩ :=
    beginReobservationAfterApproval_eq_ok hbegin
  have hevents : u.loadEvents runId = s.loadEvents runId := by
    rw [hu]
    exact (Database.SameRuns.of_approvals hsame).loadEvents runId
  have hsteps : v.steps = s.steps := by rw [hsame]
  have hroot := h.root hload.replay
  have happended : appendAgentRunTransition P (commandAppend P E user runId "approve"
    request.operationKey locked { locked.checkpoint with state := .active } .approvalResumed) u =
      .ok c t := happend
  refine h.appended hevents hload.replay happended ⟨rfl, rfl⟩ hroot (fun x hx => ⟨x, hx, rfl, rfl⟩)
    (fun x hresuming => ?_) (.inr fun x hhas => ?_) fun hstate => by cases hstate
  case refine_2 =>
    rw [hu] at hhas
    exact hrejected x (Database.HasRejected.of_invalidate hhas)
  rw [hu] at hresuming
  rcases hresuming.of_setNativeStatus with ⟨_, hbefore⟩ | ⟨hstepId, _, row, hrow, htask⟩
  · refine .inr ⟨?_, fun hrecords => nomatch hrecords.1⟩
    unfold Database.Resuming at hbefore ⊢
    rwa [← hsteps]
  · -- the step that resumes is the one the journal resumes
    obtain ⟨hfound, hsameTask⟩ := Option.filter_eq_some_iff.mp hstep
    cases hfound.symm.trans hrow
    simp only [Bool.and_eq_true, decide_eq_true_eq] at hsameTask
    refine .inl ⟨rfl, active, hactive, ?_, ?_⟩
    · rw [← howns.1, ← hsameTask.1, htask]
    · rw [← howns.2, ← hstepId]

/-- So does the first transaction of `approve`. -/
theorem approve (h : Coherent P runId s) {E : Environment} {user : UserContext}
    {request : AgentRunCommandRequest} :
    Coherent P runId (left (atomic (approveDecision P E user runId request) s)) := by
  rcases (Clean.atomic (approveDecision P E user runId request)).left_cases s with
    hsame | ⟨decision, hdecision⟩
  · rw [hsame]
    exact h
  generalize left (atomic (approveDecision P E user runId request) s) = t at hdecision ⊢
  cases approveDecision_eq_ok (atomic_eq_ok.mp hdecision) with
  | returned hsame =>
      rw [hsame]
      exact h
  | @decided locked _ action row _ _ decided advance hlocked hrows _ hdecide hrow hresume =>
      obtain ⟨advance, adapter, prepared⟩ := advance
      have hload := (lockedProjection_eq_ok.mp hlocked).1
      have hwrites := (decideApprovalRequest_eq_ok hdecide).2
      obtain ⟨active, hactive, htask, hstep, haction⟩ := Database.pendingApproval_eq_some hrows
      obtain ⟨action', haction', hrowTask, hrowStep⟩ := hwrites.pendingActions hrow
      cases haction.symm.trans haction'
      rcases resumeApproved_eq_ok hresume with ⟨_, rfl⟩ | ⟨_, _, resumed, u, c, hbegin, happend⟩
      · exact h.decision hwrites (.inl rfl)
      · exact h.resume hload hactive ⟨hrowTask.trans htask, hrowStep.trans hstep⟩ hwrites.same
          (fun x => (hwrites.calm (.inl rfl)).rejected) hbegin happend
  | @again locked _ action _ advance hlocked hrows _ _ hresume =>
      obtain ⟨advance, adapter, prepared⟩ := advance
      have hload := (lockedProjection_eq_ok.mp hlocked).1
      obtain ⟨active, hactive, htask, hstep, _⟩ := Database.pendingApproval_eq_some hrows
      rcases resumeApproved_eq_ok hresume with ⟨_, rfl⟩ | ⟨_, _, resumed, u, c, hbegin, happend⟩
      · exact h
      · exact h.resume hload hactive ⟨htask, hstep⟩ (.refl s) (fun _ => id) hbegin happend

/-- Reflecting what a Pack returned appends nothing about an approval. -/
theorem reflect (h : Coherent P runId s) {E : Environment} {user : UserContext}
    {result : PackAdvanceResult} {operationKey : String} (hrun : result.runId = runId) :
    Coherent P runId (left (reflectAdvanceResult P E user result operationKey s)) := by
  subst hrun
  rcases @reflectAdvanceResult_left P E user s result operationKey with
    hsame | ⟨locked, updated, transition, c, hload, hadvance, happend⟩
  · rw [hsame]
    exact h
  have hroot := h.root hload.replay
  have hother := AgentRunResultCoordinator.advance_transition hadvance
  have hresumed : ∀ x, s.Resuming x →
      ((resultAppend E user operationKey locked updated transition).event P).Records
          .approvalResumed x ∨
        s.Resuming x ∧ ¬ ((resultAppend E user operationKey locked updated transition).event
          P).Records .approvalRequired x :=
    fun x hresuming => .inr ⟨hresuming, fun hrecords => hother.1 hrecords.1⟩
  cases (AgentRunResultCoordinator.advance_eq_ok.mp ⟨transition, hadvance⟩).2 with
  | @completed active _ _ _ _ =>
      refine h.appended rfl hload.replay happend ⟨rfl, rfl⟩ hroot
        (fun x hx => GovernedPlanCheckpoint.completeActive_ahead hx) hresumed (.inr fun _ => id)
        fun hstate => absurd hstate ?_
      exact hother.2
  | @blocked active execution _ hactive _ _ _ =>
      refine h.appended rfl hload.replay happend ⟨rfl, rfl⟩ hroot (fun x hx => ?_) hresumed
        (.inr fun _ => id) fun hstate => absurd hstate hother.2
      rcases List.mem_append.mp hx with hx | hx
      · cases Option.mem_toList.mp hx
        exact ⟨active, List.mem_append_left _ (Option.mem_toList.mpr hactive), rfl, rfl⟩
      · exact ⟨x, List.mem_append_right _ hx, .refl x⟩

/-- So does rejecting or cancelling a run. -/
theorem terminate (h : Coherent P runId s) {E : Environment} {user : UserContext}
    {end_ : Termination} {request : AgentRunCommandRequest} :
    Coherent P runId (left (end_.run P E user runId request s)) := by
  rcases @Termination.run_left P E user runId request s end_ with
    hsame | ⟨locked, hadmits, hterminated⟩
  · rw [hsame]
    exact h
  generalize left (end_.run P E user runId request s) = t at hterminated ⊢
  obtain ⟨p, hlocked, _⟩ := Termination.admits_eq_ok hadmits
  have hload := (lockedProjection_eq_ok.mp hlocked).1
  have hroot := h.root hload.replay
  cases hterminated with
  | @rejected _ _ _ decided active _ _ c _ hdecide _ _ _ happend =>
      have hwrites := (decideApprovalRequest_eq_ok hdecide).2
      have hsteps : decided.steps = s.steps := by rw [hwrites.same]
      have hevents : (decided.setNativeStatus active.nativeTaskId active.nativeStepId .canceled
          .canceled).loadEvents runId = s.loadEvents runId :=
        (Database.SameRuns.of_approvals hwrites.same).loadEvents runId
      refine h.appended hevents hload.replay happend ⟨rfl, rfl⟩ hroot
        (fun x hx => GovernedPlanCheckpoint.terminated_ahead hx)
        (fun x hresuming => .inr ⟨?_, fun hrecords => nomatch hrecords.1⟩) (.inl rfl)
        fun hstate => by cases hstate
      have hbefore := (Database.Calm.setNativeStatus (by decide)).resuming hresuming
      unfold Database.Resuming at hbefore ⊢
      rwa [← hsteps]
  | @cancelled cleared active _ _ c _ _ _ hclear happend =>
      obtain ⟨hframe, hevents⟩ := clearPauseSignal_frame hclear
      refine h.appended (hevents runId) hload.replay happend ⟨rfl, rfl⟩ hroot
        (fun x hx => GovernedPlanCheckpoint.terminated_ahead hx)
        (fun x hresuming => .inr ⟨?_, fun hrecords => nomatch hrecords.1⟩) (.inr fun x hhas => ?_)
        fun hstate => by cases hstate
      · rw [hframe] at hresuming
        have hcanceled : (s.setNativeStatus active.nativeTaskId active.nativeStepId .canceled
          .canceled).Resuming x := hresuming
        exact (Database.Calm.setNativeStatus (by decide)).resuming hcanceled
      · rw [hframe] at hhas
        exact hhas

/-- Every transaction that does not go behind the journal keeps the rows in agreement. -/
theorem step (h : Coherent P runId s) {l : ApprovalLabel} (hok : Journaled P runId s l)
    (hstep : ApprovalStep P runId l s t) : Coherent P runId t := by
  cases l with
  | pause r =>
      obtain ⟨hrun, rfl⟩ := hstep
      exact h.pause hrun
  | approve E user request =>
      cases hstep
      exact h.approve
  | pack => exact h.pack hstep
  | reflect E user result operationKey =>
      obtain ⟨hrun, rfl⟩ := hstep
      exact h.reflect hrun
  | terminate E user end_ request =>
      cases hstep
      exact h.terminate
  | decide user approvalId approved body now =>
      cases hstep
      exact h.decide hok
  | scan organizationId limit held =>
      cases hstep
      exact h.scan hok

end Coherent

/-! ## The command -/

section Approve

variable {P : Platform} {E : Environment} {user : UserContext} {runId : String}

/-- What is resumed is restored, too. -/
theorem resumeApproved_restores {request : AgentRunCommandRequest} {locked : LockedRun}
    {action : PendingActionModel} {advance : Bool} {adapter : PackRuntimeAdapter}
    {prepared : PreparedRunReference} {s t : Database}
    (h : resumeApproved P E user runId request locked action s = .ok (advance, adapter, prepared) t) :
    restorePrepared E locked.bundle = .ok (adapter, prepared) := by
  unfold resumeApproved at h
  split at h
  case isTrue =>
    simp only [bind_eq_ok, lift_eq_ok] at h
    obtain ⟨_, _, _, _, _, _, _, _, _, _, _, _, _, _, ⟨hrestored, _⟩, hpure⟩ := h
    cases hpure
    exact hrestored
  case isFalse =>
    simp only [bind_eq_ok, lift_eq_ok] at h
    obtain ⟨_, _, _, _, _, ⟨hrestored, _⟩, hpure⟩ := h
    cases hpure
    exact hrestored

/-- The run that an approval advances. -/
theorem approveDecision_prepared {request : AgentRunCommandRequest} {advance : Bool}
    {adapter : PackRuntimeAdapter} {prepared : PreparedRunReference} {s t : Database}
    (h : approveDecision P E user runId request s = .ok (.inr (advance, adapter, prepared)) t) :
    prepared.runId = runId ∧ ∃ bundle, restorePrepared E bundle = .ok (adapter, prepared) := by
  have hprepared : ∀ {locked : LockedRun} {projection : AgentRunProjection},
      lockedProjection P E user runId s = .ok (locked, projection) →
      restorePrepared E locked.bundle = .ok (adapter, prepared) → prepared.runId = runId := by
    intro locked projection hlocked hrestored
    have hload := (lockedProjection_eq_ok.mp hlocked).1
    rw [restorePrepared_runId hrestored, hload.identity.2, ← hload.identity.1]
    exact hload.organization.2
  cases approveDecision_eq_ok h with
  | decided hlocked _ _ _ _ hresume =>
      have hrestored := resumeApproved_restores hresume
      exact ⟨hprepared hlocked hrestored, _, hrestored⟩
  | again hlocked _ _ _ hresume =>
      have hrestored := resumeApproved_restores hresume
      exact ⟨hprepared hlocked hrestored, _, hrestored⟩

/-- Advancing a run is what its Pack commits, and what is reflected of it. -/
theorem advanceAndReflect_reaches {request : AgentRunCommandRequest} {adapter : PackRuntimeAdapter}
    {prepared : PreparedRunReference} {s : Database} (hrun : prepared.runId = runId)
    (hpack : ∀ key db, PackWrites db (left (adapter.advanceRun prepared key db))) :
    Reaches (ApprovalStep P runId) (Journaled P runId) s
      (left (advanceAndReflect P E user request adapter prepared s)) := by
  have hadvance : ApprovalStep P runId .pack s
      (left (adapter.advanceRun prepared request.operationKey s)) := hpack _ s
  have hjournaled : Journaled P runId s .pack := trivial
  have hadvanced : Reaches (ApprovalStep P runId) (Journaled P runId) s
      (left (adapter.advanceRun prepared request.operationKey s)) := .single hjournaled hadvance
  unfold advanceAndReflect
  cases hcall : adapter.advanceRun prepared request.operationKey s with
  | error e t =>
      rw [bind_of_error hcall]
      rwa [hcall] at hadvanced
  | ok advanced t =>
      rw [bind_of_ok hcall]
      rw [hcall] at hadvanced
      cases hresult : validatePackAdvanceResult advanced prepared.runId with
      | error e =>
          rw [bind_of_error (lift_eq_error.mpr ⟨rfl, rfl⟩)]
          exact hadvanced
      | ok result =>
          rw [bind_of_ok (lift_eq_ok.mpr ⟨rfl, rfl⟩)]
          have hsame : result.runId = runId := (validatePackAdvanceResult_runId hresult).trans hrun
          by_cases hfailed : result.status ≠ .failed
          case neg =>
            rw [require_bind_not hfailed]
            exact hadvanced
          case pos =>
            rw [require_bind hfailed]
            have hreflect : ApprovalStep P runId (.reflect E user result request.operationKey) t
                (left (reflectAdvanceResult P E user result request.operationKey t)) := ⟨hsame, rfl⟩
            exact hadvanced.tail (l := .reflect E user result request.operationKey) trivial hreflect

/-- The command is a run of its transactions, if the Packs write what they may. -/
theorem approve_reaches {request : AgentRunCommandRequest} {s : Database}
    (hpack : ∀ bundle adapter prepared, restorePrepared E bundle = .ok (adapter, prepared) →
      ∀ key db, PackWrites db (left (adapter.advanceRun prepared key db))) :
    Reaches (ApprovalStep P runId) (Journaled P runId) s
      (left (approve P E user runId request s)) := by
  by_cases hrole : user.isAnyApprover = true
  case neg =>
    unfold approve
    rw [require_bind_not hrole]
    exact .refl s
  have hfirst : ApprovalStep P runId (.approve E user request) s
      (left (atomic (approveDecision P E user runId request) s)) := rfl
  have hjournaled : Journaled P runId s (.approve E user request) := trivial
  have hdecision : Reaches (ApprovalStep P runId) (Journaled P runId) s
      (left (atomic (approveDecision P E user runId request) s)) := .single hjournaled hfirst
  unfold approve
  rw [require_bind hrole]
  cases hrun : atomic (approveDecision P E user runId request) s with
  | error e u =>
      rw [bind_of_error hrun]
      rwa [hrun] at hdecision
  | ok decision u =>
      rw [bind_of_ok hrun]
      rw [hrun] at hdecision
      rcases decision with projection | ⟨advance, adapter, prepared⟩
      · exact hdecision
      obtain ⟨hrunId, bundle, hrestored⟩ := approveDecision_prepared (atomic_eq_ok.mp hrun)
      have hget : ∀ db, left (getProjection P E user runId db) = db := fun _ => left_query
      dsimp only
      split
      case isFalse =>
        rw [hget]
        exact hdecision
      case isTrue =>
        rw [left_bind_of_keeps fun _ t _ => hget t, left_translating]
        exact hdecision.trans (advanceAndReflect_reaches hrunId (hpack bundle adapter prepared hrestored))

end Approve

end AgentPact
