import AgentPact.AgentRuns.ApproveRecovery
import AgentPact.AgentRuns.CoherentRuns
import AgentPact.AgentRuns.PauseDigests

/-!
# One approval, one advance

`approve` grants and resumes in one transaction, and calls the Pack after it.
Between the two the process may crash, and other calls of `approve` and every
other transaction on the approvals of the run may come.

The transaction that resumes a step invalidates the pending action behind the
approval request, and nothing makes an invalidated action anything else
(`Database.Kept`).  So a request is granted at most once, and whoever calls the
Pack holds a grant of its own, with an event of its own in the journal
(`approval_advances_once`).
-/

namespace AgentPact

open Base Transaction

/-! ## What every transaction keeps -/

/-- A row keeps its approval request, and stays invalidated. -/
structure PendingActionModel.Kept (a b : PendingActionModel) : Prop where
  approvalId : ∀ id, a.approvalId = some id → b.approvalId = some id
  invalidated : a.status = .invalidated → b.status = .invalidated

theorem PendingActionModel.Kept.refl (a : PendingActionModel) : a.Kept a := ⟨fun _ => id, id⟩

theorem PendingActionModel.Kept.trans (a b c : PendingActionModel) (h : a.Kept b) (h' : b.Kept c) :
    a.Kept c :=
  ⟨fun id hid => h'.approvalId id (h.approvalId id hid), h'.invalidated ∘ h.invalidated⟩

/-- A move from another status keeps what is invalidated. -/
theorem PendingActionModel.Kept.move {fromStatus toStatus : PendingActionStatus}
    {h : toStatus.unresolved = true → fromStatus.unresolved = true}
    (hfrom : fromStatus ≠ .invalidated) (m : PendingActionModel) :
    m.Kept ((PendingActionModel.move fromStatus toStatus h).apply m) := by
  obtain ⟨_, _, _, hlinked, hstatus⟩ := PendingActionModel.move_same fromStatus toStatus h m
  refine ⟨fun id hid => hlinked.trans hid, fun hinvalidated => ?_⟩
  rcases hstatus with hsame | ⟨hmoved, _⟩
  · exact hsame.trans hinvalidated
  · exact absurd (hmoved.symm.trans hinvalidated) hfrom

namespace Database

/-- Every plan journal event is filed under its run. -/
def Filed (db : Database) : Prop :=
  ∀ row ∈ db.audit.rows, ∀ event, row.payload = .journal event → event.rootTaskId = row.taskId

/-- The step of an approval request was resumed. -/
def Spent (db : Database) (approvalId : String) : Prop :=
  ∃ m ∈ db.pendingActions.rows, m.approvalId = some approvalId ∧ m.status = .invalidated

/-- Pending actions are kept, audit rows stay, and events that are added are filed. -/
structure Kept (s t : Database) : Prop where
  pending : s.pendingActions.Evolves PendingActionModel.Kept t.pendingActions
  audit : ∀ row ∈ s.audit.rows, row ∈ t.audit.rows
  filed : s.Filed → t.Filed

namespace Kept

variable {s t u : Database}

theorem refl (s : Database) : s.Kept s := ⟨.refl PendingActionModel.Kept.refl _, fun _ => id, id⟩

theorem trans (h : s.Kept t) (h' : t.Kept u) : s.Kept u where
  pending := h.pending.trans PendingActionModel.Kept.trans h'.pending
  audit row hrow := h'.audit row (h.audit row hrow)
  filed := h'.filed ∘ h.filed

theorem of_eq (h : t = s) : s.Kept t := h ▸ refl s

/-- Writes to pending actions only. -/
theorem of_pending (haudit : t.audit = s.audit)
    (hpending : s.pendingActions.Evolves PendingActionModel.Kept t.pendingActions) : s.Kept t := by
  refine ⟨hpending, ?_, ?_⟩
  · rw [haudit]
    exact fun _ => id
  · unfold Filed
    rw [haudit]
    exact id

/-- Writes to neither table. -/
theorem of_same (haudit : t.audit = s.audit) (hpending : t.pendingActions = s.pendingActions) :
    s.Kept t :=
  of_pending haudit (hpending ▸ .refl PendingActionModel.Kept.refl _)

theorem setNativeStatus (db : Database) (taskId stepId : String) (taskStatus : AgentRunTaskStatus)
    (stepStatus : AgentRunStepStatus) :
    db.Kept (db.setNativeStatus taskId stepId taskStatus stepStatus) := of_same rfl rfl

/-- A new audit row. -/
theorem insertAudit {row : GovernanceAuditEventModel} (hinsert : s.insertAudit? row = some t)
    (hrow : ∀ event, row.payload = .journal event → event.rootTaskId = row.taskId) : s.Kept t := by
  obtain ⟨audit, haudit, rfl⟩ := insertAudit?_eq_some.mp hinsert
  have hmem : ∀ x, x ∈ audit.rows ↔ x ∈ s.audit.rows ∨ x = row := fun x => Table.mem_insert? haudit
  refine ⟨.refl PendingActionModel.Kept.refl _, fun x hx => (hmem x).mpr (.inl hx),
    fun hfiled x hx => ?_⟩
  rcases (hmem x).mp hx with hx | rfl
  · exact hfiled x hx
  · exact hrow

theorem append {P : Platform} {r : AppendRequest} {c : GovernedPlanCheckpoint}
    (h : appendAgentRunTransition P r s = .ok c t) : s.Kept t := by
  rcases append_accepted h with rfl | ⟨_, root, hinsert⟩
  · exact .refl t
  · refine .insertAudit hinsert fun event hevent => ?_
    cases hevent
    rfl

theorem decision {d : ApprovalDecision} (h : DecisionWrites d s t) : s.Kept t := by
  refine of_pending (by rw [h.same]) ?_
  cases h with
  | alone _ => exact .refl PendingActionModel.Kept.refl _
  | linked _ _ _ => exact .update PendingActionModel.Kept.refl fun m _ => .move (by decide) m

theorem reobservation {taskId stepId organizationId id : String} {version : Nat}
    {r : ApprovalPauseState}
    (h : beginReobservationAfterApproval taskId stepId organizationId id version s = .ok r t) :
    s.Kept t := by
  obtain ⟨_, _, _, _, _, _, _, _, _, _, _, _, _, rfl⟩ := beginReobservationAfterApproval_eq_ok h
  exact of_pending rfl (.update PendingActionModel.Kept.refl fun m _ => .move (by decide) m)

theorem pausedStep {pause : ApprovalPauseRequest} {row : PendingActionModel}
    (h : PausedStep pause s t row) : s.Kept t := by
  refine of_pending (by rw [h.same]; rfl) fun id m hm => ⟨m, ?_, .refl m⟩
  refine Table.find?_eq_some.mpr ⟨?_, Table.key_of_find? hm⟩
  rw [h.pendingActions]
  exact List.mem_append_left _ (Table.mem_of_find? hm)

/-- Resuming one after the other. -/
theorem reobserveAll {ms : List PendingActionModel} {rs : List ApprovalPauseState}
    (h : reobserveAll ms s = .ok rs t) : s.Kept t := by
  induction ms generalizing s rs with
  | nil =>
      cases h
      exact .refl _
  | cons m ms ih =>
      simp only [AgentPact.reobserveAll, bind_eq_ok, attempt_eq_ok] at h
      obtain ⟨resumed, v, hfirst, rest, _, hrest, hpure⟩ := h
      cases hpure
      rcases hfirst with ⟨r, hbegin, _⟩ | ⟨e, hraised, _, _⟩
      · exact (reobservation hbegin).trans (ih hrest)
      · have hsame := beginReobservationAfterApproval_clean _ _ _ _ _ s e v hraised
        exact hsame ▸ ih hrest

theorem clearPauseSignal {P : Platform} {runId organizationId : String} {v : Unit}
    (h : clearPauseSignal P runId organizationId s = .ok v t) : s.Kept t := by
  rcases clearPauseSignal_writes h with rfl | ⟨pause, _, hinsert⟩
  · exact .refl t
  · refine .insertAudit hinsert fun event hevent => ?_
    rw [resolutionRow_payload] at hevent
    cases hevent

end Kept

end Database

/-- The first transaction of `approve` keeps them. -/
theorem resumeApproved_kept {P : Platform} {E : Environment} {user : UserContext} {runId : String}
    {request : AgentRunCommandRequest} {locked : LockedRun} {action : PendingActionModel}
    {advance : Bool × PackRuntimeAdapter × PreparedRunReference} {s t : Database}
    (h : resumeApproved P E user runId request locked action s = .ok advance t) : s.Kept t := by
  obtain ⟨advance, adapter, prepared⟩ := advance
  rcases resumeApproved_eq_ok h with ⟨_, rfl⟩ | ⟨_, _, resumed, u, c, hbegin, happend⟩
  · exact .refl t
  · exact (Database.Kept.reobservation hbegin).trans (.append happend)

theorem approveDecision_kept {P : Platform} {E : Environment} {user : UserContext}
    {runId : String} {request : AgentRunCommandRequest} {s t : Database}
    {decision : AgentRunProjection ⊕ (Bool × PackRuntimeAdapter × PreparedRunReference)}
    (h : approveDecision P E user runId request s = .ok decision t) : s.Kept t := by
  cases approveDecision_eq_ok h with
  | returned hsame => exact .of_eq hsame
  | decided _ _ _ hdecide _ hresume =>
      exact (Database.Kept.decision (decideApprovalRequest_eq_ok hdecide).2).trans
        (resumeApproved_kept hresume)
  | again _ _ _ _ hresume => exact resumeApproved_kept hresume

/-- So does every other transaction on the approvals of a run. -/
theorem ApprovalStep.kept {P : Platform} {runId : String} {l : ApprovalLabel} {s t : Database}
    (h : ApprovalStep P runId l s t) : s.Kept t := by
  cases l with
  | pause r =>
      obtain ⟨_, rfl⟩ := h
      rcases (pauseRunForApproval_clean P r).left_cases s with hsame | ⟨c, hpause⟩
      · exact .of_eq hsame
      · obtain ⟨_, _, _, _, _, _, _, _, hpaused⟩ := pauseRunForApproval_eq_ok hpause
        exact (Database.Kept.pausedStep hpaused.paused).trans (.append hpaused.appended)
  | approve E user request =>
      cases h
      rcases (Clean.atomic (approveDecision P E user runId request)).left_cases s with
        hsame | ⟨decision, hdecision⟩
      · exact .of_eq hsame
      · exact approveDecision_kept (atomic_eq_ok.mp hdecision)
  | pack =>
      obtain ⟨hframe, _⟩ := h
      exact .of_same (by rw [hframe]) (by rw [hframe])
  | reflect E user result operationKey =>
      obtain ⟨_, rfl⟩ := h
      rcases @reflectAdvanceResult_left P E user s result operationKey with
        hsame | ⟨_, _, _, _, _, _, happend⟩
      · exact .of_eq hsame
      · exact .append happend
  | terminate E user end_ request =>
      cases h
      rcases @Termination.run_left P E user runId request s end_ with
        hsame | ⟨locked, _, hterminated⟩
      · exact .of_eq hsame
      generalize left (end_.run P E user runId request s) = t at hterminated ⊢
      cases hterminated with
      | rejected _ hdecide _ _ _ happend =>
          have hdecided := Database.Kept.decision (decideApprovalRequest_eq_ok hdecide).2
          exact hdecided.trans ((Database.Kept.setNativeStatus _ _ _ _ _).trans (.append happend))
      | cancelled _ _ _ hclear happend =>
          have hcleared := Database.Kept.clearPauseSignal hclear
          exact (Database.Kept.setNativeStatus s _ _ _ _).trans (hcleared.trans (.append happend))
  | decide user approvalId approved body now =>
      cases h
      rcases (decidePersistedRequest_clean user approvalId approved body now).left_cases s with
        hsame | ⟨r, hdecide⟩
      · exact .of_eq hsame
      · exact .decision (decidePersistedRequest_writes hdecide).1
  | scan organizationId limit held =>
      cases h
      rcases (Clean.atomic (prepareApprovedPausesForReobservation organizationId limit
        held)).left_cases s with hsame | ⟨r, hscan⟩
      · exact .of_eq hsame
      · simp only [prepareApprovedPausesForReobservation, atomic_eq_ok, bind_eq_ok, require_eq_ok,
          read_eq_ok] at hscan
        obtain ⟨_, _, ⟨_, rfl⟩, claimed, _, ⟨rfl, rfl⟩, hscan⟩ := hscan
        exact .reobserveAll hscan

namespace Database

variable {s t : Database}

/-- Events stay in their journal. -/
theorem Kept.loadEvents (h : s.Kept t) {runId : String} {event : PlanJournalEvent}
    (hevent : event ∈ s.loadEvents runId) : event ∈ t.loadEvents runId := by
  obtain ⟨row, hrow, hof⟩ := mem_loadEvents.mp hevent
  exact mem_loadEvents.mpr ⟨row, h.audit row hrow, hof⟩

theorem Filed.root (h : s.Filed) {runId : String} {event : PlanJournalEvent}
    (hevent : event ∈ s.loadEvents runId) : event.rootTaskId = runId := by
  obtain ⟨row, hrow, htask, hpayload⟩ := mem_loadEvents.mp hevent
  exact (h row hrow event hpayload).trans htask

/-- What is spent stays so. -/
theorem Spent.kept {id : String} (h : s.Spent id) (hkept : s.Kept t) : t.Spent id := by
  obtain ⟨m, hm, hlinked, hstatus⟩ := h
  obtain ⟨m', hm', hsame⟩ := hkept.pending _ m (Table.find?_key hm)
  exact ⟨m', Table.mem_of_find? hm', hsame.approvalId id hlinked, hsame.invalidated hstatus⟩

/-- An approval request with an action that is not invalidated is not spent. -/
theorem not_spent {id : String} {m : PendingActionModel} (hm : m ∈ s.pendingActions.rows)
    (hlinked : m.approvalId = some id) (hstatus : m.status ≠ .invalidated) : ¬ s.Spent id := by
  rintro ⟨m', hm', hlinked', hstatus'⟩
  have hclash : Schema.clash m m' = true := by
    simp [Schema.clash, PendingActionModel.clash, bothEqual_iff, hlinked, hlinked']
  exact hstatus (Table.eq_of_clash hm hm' hclash ▸ hstatus')

end Database

/-! ## What a grant commits -/

/-- The approval request that `approve` finds, and the last event of the journal after it. -/
structure Grant where
  approvalId : Option String
  event : Option PlanJournalEvent

section Grants

variable {P : Platform} {E : Environment} {user : UserContext} {runId : String}
  {request : AgentRunCommandRequest} {s t u : Database}

/-- What a grant that leads from one database to another is. -/
def grantOf (P : Platform) (E : Environment) (user : UserContext) (runId : String)
    (s t : Database) : Grant where
  approvalId := do
    let (locked, _) ← (lockedProjection P E user runId s).toOption
    let rows ← (s.pendingApproval locked.checkpoint).toOption
    rows.map (·.2.approvalId)
  event := (t.loadEvents runId).getLast?

/-- The request of a grant was not spent and now is, and its event is new in the journal. -/
structure Grants (runId : String) (s t : Database) (g : Grant) (id : String)
    (event : PlanJournalEvent) : Prop where
  grant : g = ⟨some id, some event⟩
  fresh : ¬ s.Spent id
  spent : t.Spent id
  unwritten : event ∉ s.loadEvents runId
  written : event ∈ t.loadEvents runId
  resumed : event.transition = .approvalResumed

/-- Resuming an approved action spends its approval request, and journals it. -/
theorem resumeApproved_grants {locked : LockedRun} {row : PendingActionModel} {id : String}
    {adapter : PackRuntimeAdapter} {prepared : PreparedRunReference} (hfiled : s.Filed)
    (hload : LoadedFrom P s user.orgId runId locked) (haudit : u.audit = s.audit)
    (hrow : u.pendingActions.find? row.pendingActionId = some row)
    (hlinked : row.approvalId = some id)
    (hresume : resumeApproved P E user runId request locked row u =
      .ok (true, adapter, prepared) t) :
    t.Spent id ∧ ∃ event, t.loadEvents runId = s.loadEvents runId ++ [event] ∧
      event ∉ s.loadEvents runId ∧ event.transition = .approvalResumed := by
  rcases resumeApproved_eq_ok hresume with
    ⟨hfalse, _⟩ | ⟨_, happroved, resumed, v, c, hbegin, happend⟩
  · cases hfalse
  obtain ⟨_, _, _, _, _, _, _, _, _, _, _, _, _, hv⟩ :=
    beginReobservationAfterApproval_eq_ok hbegin
  have hmoved := Table.find?_update_self
    (e := PendingActionModel.move .approved .invalidated invalidated_resolved) hrow
  have hspent : v.Spent id := by
    rw [hv]
    refine ⟨_, Table.mem_of_find? hmoved, ?_, ?_⟩
    · simp [PendingActionModel.move, happroved, hlinked]
    · simp [PendingActionModel.move, happroved]
  have hevents : v.loadEvents runId = s.loadEvents runId := by
    rw [hv]
    show u.loadEvents runId = s.loadEvents runId
    unfold Database.loadEvents
    rw [haudit]
  refine ⟨hspent.kept (.append happend), ?_⟩
  obtain ⟨last, hlast, hrestored, _, _, hrootLast, _, hbound⟩ := replayPlanJournal_last hload.replay
  have hroot : locked.checkpoint.rootTaskId = runId := by
    rw [hrestored]
    exact hrootLast.trans (hfiled.root (List.mem_of_getLast? hlast))
  obtain ⟨_, root, restored, _, _, hreplay, ⟨hfresh, _, hinsert, _⟩ | ⟨hstale, _⟩⟩ :=
    appendAgentRunTransition_eq_ok.mp happend
  case inr =>
    have hreplay' : replayPlanJournal P (v.loadEvents locked.checkpoint.rootTaskId) =
      .ok restored := hreplay
    rw [hroot, hevents, hload.replay] at hreplay'
    cases hreplay'
    exact absurd ⟨rfl, rfl⟩ hstale
  have hlonger := hfresh.loadEvents hreplay hinsert
  have hlonger' : t.loadEvents locked.checkpoint.rootTaskId =
    v.loadEvents locked.checkpoint.rootTaskId ++ [_] := hlonger
  rw [hroot, hevents] at hlonger'
  refine ⟨_, hlonger', fun hmem => ?_, rfl⟩
  -- the new event comes after all others
  have hsequence := hbound _ hmem
  have hnumber : locked.checkpoint.journalSequence + 1 ≤ last.sequence := hsequence
  rw [hrestored] at hnumber
  exact absurd hnumber (Nat.not_succ_le_self _)

/-- The action that `approve` finds is linked to the approval request that it finds. -/
theorem pendingApproval_linked {checkpoint : GovernedPlanCheckpoint} {action : PendingActionModel}
    {approval : ApprovalRequestModel}
    (h : s.pendingApproval checkpoint = .ok (some (action, approval))) :
    action.approvalId = some approval.approvalId := by
  obtain ⟨_, _, _, id, hid, _, hfind, _⟩ := Database.pendingApproval_rows.mp h
  rw [hid]
  exact congrArg some (Table.key_of_find? hfind).symm

/-- A decision of `approve` that advances its run is a grant. -/
theorem approveDecision_grants {adapter : PackRuntimeAdapter} {prepared : PreparedRunReference}
    (hfiled : s.Filed) (h : approveDecision P E user runId request s =
      .ok (.inr (true, adapter, prepared)) t) :
    ∃ id event, Grants runId s t (grantOf P E user runId s t) id event := by
  have hgrant : ∀ {u : Database} {locked : LockedRun} {projection : AgentRunProjection}
      {action row : PendingActionModel} {approval : ApprovalRequestModel},
      lockedProjection P E user runId s = .ok (locked, projection) →
      s.pendingApproval locked.checkpoint = .ok (some (action, approval)) →
      ¬ s.Spent approval.approvalId → u.audit = s.audit →
      u.pendingActions.find? row.pendingActionId = some row →
      row.approvalId = some approval.approvalId →
      resumeApproved P E user runId request locked row u = .ok (true, adapter, prepared) t →
      ∃ id event, Grants runId s t (grantOf P E user runId s t) id event := by
    intro u locked projection action row approval hlocked hrows hfresh haudit hrow hlinked hresume
    obtain ⟨hspent, event, hevents, hnew, hresumed⟩ := resumeApproved_grants hfiled
      (lockedProjection_eq_ok.mp hlocked).1 haudit hrow hlinked hresume
    refine ⟨approval.approvalId, event, ⟨?_, hfresh, hspent, hnew, by rw [hevents]; simp, hresumed⟩⟩
    unfold grantOf
    rw [hlocked, hevents, List.getLast?_concat]
    simp [Except.toOption, hrows]
  have happroved : ∀ {u : Database} {locked : LockedRun} {row : PendingActionModel},
      resumeApproved P E user runId request locked row u = .ok (true, adapter, prepared) t →
      row.status = .approved := by
    intro u locked row hresume
    rcases resumeApproved_eq_ok hresume with ⟨hfalse, _⟩ | ⟨_, happroved, _⟩
    · cases hfalse
    · exact happroved
  cases approveDecision_eq_ok h with
  | @decided locked _ action row approval _ u _ hlocked hrows _ hdecide hrow hresume =>
      obtain ⟨_, _, _, _, hfind⟩ := Database.pendingApproval_eq_some hrows
      have hlinked := pendingApproval_linked hrows
      have hwrites := (decideApprovalRequest_eq_ok hdecide).2
      obtain ⟨_, f, _, hf⟩ := hwrites.rows
      -- the action was pending when it was decided
      have hpending := ((hf action (Table.mem_of_find? hfind)).linked hlinked).1
      obtain ⟨decided, hdecided, hkept⟩ := (Database.Kept.decision hwrites).pending _ action hfind
      cases hrow.symm.trans hdecided
      have hkey : row.pendingActionId = action.pendingActionId := Table.key_of_find? hrow
      refine hgrant hlocked hrows (Database.not_spent (Table.mem_of_find? hfind) hlinked ?_)
        (by rw [hwrites.same]) (hkey ▸ hrow) (hkept.approvalId _ hlinked) hresume
      simp [hpending]
  | @again locked _ action approval _ hlocked hrows _ _ hresume =>
      obtain ⟨_, _, _, _, hfind⟩ := Database.pendingApproval_eq_some hrows
      have hlinked := pendingApproval_linked hrows
      refine hgrant hlocked hrows (Database.not_spent (Table.mem_of_find? hfind) hlinked ?_) rfl
        hfind hlinked hresume
      simp [happroved hresume]

end Grants

/-! ## Calls -/

/-- Where a caller of `approve` is. -/
inductive ApprovePhase where
  | idle
  /-- The first transaction granted an approval, and the Pack is not called yet. -/
  | resumed (grant : Grant)
  /-- `adapter.advance_run` is called. -/
  | advancing
  | crashed

/-- The database, the callers, the grants that were committed and those that the Pack was called
for, newest first. -/
structure ApproveWorld (ι : Type) where
  database : Database
  phase : ι → ApprovePhase
  granted : List Grant
  advanced : List Grant

/-- What happens while callers approve. -/
inductive ApproveLabel (ι : Type) where
  /-- The first transaction of a call. -/
  | decide (i : ι) (environment : Environment) (user : UserContext)
      (request : AgentRunCommandRequest)
  /-- The Pack is called. -/
  | advance (i : ι)
  /-- The call is over. -/
  | ended (i : ι)
  | crash (i : ι)
  /-- Another transaction, of the Pack that was called or of anything else. -/
  | other (label : ApprovalLabel)

section Calls

variable {ι : Type} [DecidableEq ι]

/-- A caller goes to a phase. -/
def ApproveWorld.goes (w : ApproveWorld ι) (i : ι) (phase : ApprovePhase) : ApproveWorld ι :=
  { w with phase := Function.update w.phase i phase }

/-- A call up to the end of its first transaction.  A call that does not advance the run only reads
after it. -/
def ApproveWorld.decides (P : Platform) (runId : String) (w : ApproveWorld ι) (i : ι)
    (E : Environment) (user : UserContext) (request : AgentRunCommandRequest) : ApproveWorld ι :=
  if user.isAnyApprover then
    match atomic (approveDecision P E user runId request) w.database with
    | .ok (.inr (true, _, _)) db =>
        { w.goes i (.resumed (grantOf P E user runId w.database db)) with
          database := db
          granted := grantOf P E user runId w.database db :: w.granted }
    | result => { w with database := left result }
  else w

/-- The steps of callers that approve a run. -/
def ApproveStep (P : Platform) (runId : String) :
    ApproveLabel ι → ApproveWorld ι → ApproveWorld ι → Prop
  | .decide i E user request, w, v => w.phase i = .idle ∧ v = w.decides P runId i E user request
  | .advance i, w, v => ∃ grant, w.phase i = .resumed grant ∧
      v = { w.goes i .advancing with advanced := grant :: w.advanced }
  | .ended i, w, v => w.phase i = .advancing ∧ v = w.goes i .idle
  | .crash i, w, v => v = w.goes i .crashed
  | .other l, w, v => (∀ E user request, l ≠ .approve E user request) ∧
      ∃ db, ApprovalStep P runId l w.database db ∧ v = { w with database := db }

/-- Nobody has called. -/
def ApproveWorld.beginning (database : Database) : ApproveWorld ι :=
  ⟨database, fun _ => .idle, [], []⟩

/-! ## What a run keeps -/

omit [DecidableEq ι] in
/-- What a function tells apart in a list it tells apart in a list of some of it. -/
theorem nodup_map_of_nodup_map {α β : Type} {f : α → β} {l k : List α} (h : (l.map f).Nodup)
    (hk : k.Nodup) (hsub : ∀ a ∈ k, a ∈ l) : (k.map f).Nodup :=
  hk.map_on fun _ ha _ hb hsame => List.inj_on_of_nodup_map h (hsub _ ha) (hsub _ hb) hsame

/-- A grant that was committed: its request is spent, and its event is in the journal. -/
structure Committed (runId : String) (db : Database) (g : Grant) (id : String)
    (event : PlanJournalEvent) : Prop where
  grant : g = ⟨some id, some event⟩
  spent : db.Spent id
  written : event ∈ db.loadEvents runId
  resumed : event.transition = .approvalResumed

/-- Every grant is of a request and an event of its own, and the Pack is called by who holds one. -/
structure Held (runId : String) (w : ApproveWorld ι) : Prop where
  filed : w.database.Filed
  committed : ∀ g ∈ w.granted, ∃ id event, Committed runId w.database g id event
  requests : (w.granted.map (·.approvalId)).Nodup
  events : (w.granted.map (·.event)).Nodup
  holds : ∀ i g, w.phase i = .resumed g → g ∈ w.granted ∧ g ∉ w.advanced
  apart : ∀ i j g, w.phase i = .resumed g → w.phase j = .resumed g → i = j
  once : w.advanced.Nodup
  advanced : ∀ g ∈ w.advanced, g ∈ w.granted

variable {P : Platform} {runId : String} {w v : ApproveWorld ι}

/-- Whoever holds a grant elsewhere held it before. -/
theorem ApproveWorld.goes_resumed {i j : ι} {phase : ApprovePhase} {g : Grant}
    (hphase : ∀ g, phase ≠ .resumed g) (h : (w.goes i phase).phase j = .resumed g) :
    j ≠ i ∧ w.phase j = .resumed g := by
  unfold ApproveWorld.goes at h
  by_cases hsame : j = i
  · rw [hsame] at h
    simp only [Function.update_self] at h
    exact absurd h (hphase g)
  · simp only [Function.update_of_ne hsame] at h
    exact ⟨hsame, h⟩

/-- A caller that lets its grant go. -/
theorem Held.goes (h : Held runId w) {i : ι} {phase : ApprovePhase}
    (hphase : ∀ g, phase ≠ .resumed g) : Held runId (w.goes i phase) where
  filed := h.filed
  committed := h.committed
  requests := h.requests
  events := h.events
  holds j g hj := h.holds j g (ApproveWorld.goes_resumed hphase hj).2
  apart j k g hj hk := h.apart j k g (ApproveWorld.goes_resumed hphase hj).2
    (ApproveWorld.goes_resumed hphase hk).2
  once := h.once
  advanced := h.advanced

omit [DecidableEq ι] in
/-- A transaction keeps the grants. -/
theorem Held.kept (h : Held runId w) {db : Database} (hkept : w.database.Kept db) :
    Held runId { w with database := db } where
  filed := hkept.filed h.filed
  committed g hg := by
    obtain ⟨id, event, hgrant, hspent, hwritten, hresumed⟩ := h.committed g hg
    exact ⟨id, event, hgrant, hspent.kept hkept, hkept.loadEvents hwritten, hresumed⟩
  requests := h.requests
  events := h.events
  holds := h.holds
  apart := h.apart
  once := h.once
  advanced := h.advanced

/-- A new grant differs from every other. -/
theorem Held.grant (h : Held runId w) {db : Database} {i : ι} {g : Grant} {id : String}
    {event : PlanJournalEvent} (hkept : w.database.Kept db)
    (hgrants : Grants runId w.database db g id event) :
    Held runId { w.goes i (.resumed g) with database := db, granted := g :: w.granted } := by
  have hnew : ∀ g' ∈ w.granted, g'.approvalId ≠ g.approvalId ∧ g'.event ≠ g.event := by
    intro g' hg'
    obtain ⟨id', event', rfl, hspent, hwritten, _⟩ := h.committed g' hg'
    rw [hgrants.grant]
    constructor
    · intro hsame
      cases hsame
      exact hgrants.fresh hspent
    · intro hsame
      cases hsame
      exact hgrants.unwritten hwritten
  have hunknown : g ∉ w.granted := fun hmem => (hnew g hmem).1 rfl
  have hphase : ∀ j g', (w.goes i (.resumed g)).phase j = .resumed g' →
      (j = i ∧ g' = g) ∨ (j ≠ i ∧ w.phase j = .resumed g') := by
    intro j g' hj
    unfold ApproveWorld.goes at hj
    by_cases hsame : j = i
    · rw [hsame] at hj
      simp only [Function.update_self, ApprovePhase.resumed.injEq] at hj
      exact .inl ⟨hsame, hj.symm⟩
    · simp only [Function.update_of_ne hsame] at hj
      exact .inr ⟨hsame, hj⟩
  refine ⟨hkept.filed h.filed, fun g' hg' => ?_, ?_, ?_, fun j g' hj => ?_, fun j k g' hj hk => ?_,
    h.once, fun g' hg' => List.mem_cons_of_mem _ (h.advanced g' hg')⟩
  · rcases List.mem_cons.mp hg' with rfl | hg'
    · exact ⟨id, event, hgrants.grant, hgrants.spent, hgrants.written, hgrants.resumed⟩
    · exact (h.kept hkept).committed g' hg'
  · refine List.nodup_cons.mpr ⟨fun hmem => ?_, h.requests⟩
    obtain ⟨g', hg', hsame⟩ := List.mem_map.mp hmem
    exact (hnew g' hg').1 hsame
  · refine List.nodup_cons.mpr ⟨fun hmem => ?_, h.events⟩
    obtain ⟨g', hg', hsame⟩ := List.mem_map.mp hmem
    exact (hnew g' hg').2 hsame
  · rcases hphase j g' hj with ⟨_, rfl⟩ | ⟨_, hbefore⟩
    · exact ⟨List.mem_cons_self, fun hmem => hunknown (h.advanced g' hmem)⟩
    · obtain ⟨hgranted, hnot⟩ := h.holds j g' hbefore
      exact ⟨List.mem_cons_of_mem _ hgranted, hnot⟩
  · rcases hphase j g' hj with ⟨hji, hg⟩ | ⟨_, hj'⟩ <;>
      rcases hphase k g' hk with ⟨hki, hg'⟩ | ⟨_, hk'⟩
    · exact hji.trans hki.symm
    · exact absurd (hg ▸ (h.holds k g' hk').1) hunknown
    · exact absurd (hg' ▸ (h.holds j g' hj').1) hunknown
    · exact h.apart j k g' hj' hk'

/-- What the first transaction of a call makes of the callers. -/
theorem Held.decides (h : Held runId w) {i : ι} {E : Environment} {user : UserContext}
    {request : AgentRunCommandRequest} : Held runId (w.decides P runId i E user request) := by
  unfold ApproveWorld.decides
  split
  case isFalse => exact h
  split
  case h_1 adapter prepared db hdecision =>
    have hok := atomic_eq_ok.mp hdecision
    obtain ⟨id, event, hgrants⟩ := approveDecision_grants h.filed hok
    exact h.grant (approveDecision_kept hok) hgrants
  case h_2 =>
    rcases (Clean.atomic (approveDecision P E user runId request)).left_cases w.database with
      hsame | ⟨decision, hdecision⟩
    · rw [hsame]
      exact h
    · exact h.kept (approveDecision_kept (atomic_eq_ok.mp hdecision))

/-- Calling the Pack uses up the grant. -/
theorem Held.advance (h : Held runId w) {i : ι} {g : Grant} (hresumed : w.phase i = .resumed g) :
    Held runId { w.goes i .advancing with advanced := g :: w.advanced } := by
  obtain ⟨hgranted, hnot⟩ := h.holds i g hresumed
  have hgoes : ∀ j g', (w.goes i .advancing).phase j = .resumed g' →
      j ≠ i ∧ w.phase j = .resumed g' :=
    fun j g' hj => ApproveWorld.goes_resumed (fun _ hphase => by cases hphase) hj
  refine ⟨h.filed, h.committed, h.requests, h.events, fun j g' hj => ?_, fun j k g' hj hk => ?_, ?_,
    fun g' hg' => ?_⟩
  · obtain ⟨hother, hbefore⟩ := hgoes j g' hj
    obtain ⟨hgranted', hnot'⟩ := h.holds j g' hbefore
    refine ⟨hgranted', fun hmem => ?_⟩
    rcases List.mem_cons.mp hmem with rfl | hmem
    · exact hother (h.apart j i g' hbefore hresumed)
    · exact hnot' hmem
  · exact h.apart j k g' (hgoes j g' hj).2 (hgoes k g' hk).2
  · exact List.nodup_cons.mpr ⟨hnot, h.once⟩
  · rcases List.mem_cons.mp hg' with rfl | hg'
    · exact hgranted
    · exact h.advanced g' hg'

theorem Held.step (h : Held runId w) {l : ApproveLabel ι} (hstep : ApproveStep P runId l w v) :
    Held runId v := by
  cases l with
  | decide i E user request =>
      obtain ⟨_, rfl⟩ := hstep
      exact h.decides
  | advance i =>
      obtain ⟨g, hresumed, rfl⟩ := hstep
      exact h.advance hresumed
  | ended i =>
      obtain ⟨_, rfl⟩ := hstep
      exact h.goes fun _ hphase => by cases hphase
  | crash i =>
      cases hstep
      exact h.goes fun _ hphase => by cases hphase
  | other l =>
      obtain ⟨_, db, hother, rfl⟩ := hstep
      exact h.kept hother.kept

end Calls

/-! ## Calls that grant nothing -/

section Refused

variable {P : Platform} {E : Environment} {user : UserContext} {runId : String}
  {request : AgentRunCommandRequest} {s t : Database}

/-- The locked projection is what `get` shows. -/
theorem lockedProjection_getRun {locked : LockedRun} {p : AgentRunProjection}
    (h : lockedProjection P E user runId s = .ok (locked, p)) :
    getRun P E user runId s = .ok p := by
  obtain ⟨hload, hproject⟩ := lockedProjection_eq_ok.mp h
  exact except_bind_eq_ok.mpr ⟨locked, loadLocked_eq_ok.mpr hload, hproject⟩

/-- What the first transaction of `approve` returns without a run is what `get` shows. -/
theorem approveDecision_projection {p : AgentRunProjection}
    (h : approveDecision P E user runId request s = .ok (.inl p) t) :
    t = s ∧ getRun P E user runId s = .ok p := by
  simp only [approveDecision, bind_eq_ok, query_eq_ok] at h
  obtain ⟨⟨locked, projection⟩, _, ⟨hlocked, rfl⟩, rows, _, ⟨_, rfl⟩, h⟩ := h
  have hget := lockedProjection_getRun hlocked
  cases rows with
  | none =>
      dsimp only at h
      split at h
      case isTrue => cases h
      case isFalse =>
        cases h
        exact ⟨rfl, hget⟩
  | some found =>
      obtain ⟨action, approval⟩ := found
      dsimp only at h
      split at h
      case isTrue =>
        simp only [bind_eq_ok] at h
        obtain ⟨_, _, _, _, _, _, _, _, _, _, _, _, hpure⟩ := h
        cases hpure
      case isFalse =>
        split at h
        case isTrue =>
          obtain ⟨_, _, _, hpure⟩ := bind_eq_ok.mp h
          cases hpure
        case isFalse =>
          cases h
          exact ⟨rfl, hget⟩

/-- Without an advance, it writes to no journal. -/
theorem approveDecision_audit {adapter : PackRuntimeAdapter} {prepared : PreparedRunReference}
    (h : approveDecision P E user runId request s = .ok (.inr (false, adapter, prepared)) t) :
    t.audit = s.audit := by
  cases approveDecision_eq_ok h with
  | decided _ _ _ hdecide _ hresume =>
      rcases resumeApproved_eq_ok hresume with ⟨_, rfl⟩ | ⟨htrue, _⟩
      · rw [(decideApprovalRequest_eq_ok hdecide).2.same]
      · cases htrue
  | again _ _ _ _ hresume =>
      rcases resumeApproved_eq_ok hresume with ⟨_, rfl⟩ | ⟨htrue, _⟩
      · rfl
      · cases htrue

/-- A call that grants nothing appends to no journal, and what it returns is what `get` shows. -/
theorem approve_without_grant
    (h : ∀ adapter prepared t, approveDecision P E user runId request s ≠
      .ok (.inr (true, adapter, prepared)) t) :
    (left (approve P E user runId request s)).audit = s.audit ∧
      ∀ p t, approve P E user runId request s = .ok p t → getRun P E user runId t = .ok p := by
  unfold approve
  by_cases hrole : user.isAnyApprover = true
  case neg =>
    rw [require_bind_not hrole]
    exact ⟨rfl, fun _ _ hreturned => by cases hreturned⟩
  rw [require_bind hrole]
  cases hrun : atomic (approveDecision P E user runId request) s with
  | error e u =>
      rw [bind_of_error hrun]
      have hsame : u = s := (atomic_eq_error.mp hrun).2
      exact ⟨by rw [hsame]; rfl, fun _ _ hreturned => by cases hreturned⟩
  | ok decision u =>
      rw [bind_of_ok hrun]
      have hdecision := atomic_eq_ok.mp hrun
      match decision with
      | .inl projection =>
          obtain ⟨rfl, hget⟩ := approveDecision_projection hdecision
          refine ⟨rfl, fun p t hreturned => ?_⟩
          cases hreturned
          exact hget
      | .inr (true, adapter, prepared) => exact absurd hdecision (h adapter prepared u)
      | .inr (false, adapter, prepared) =>
          have hget : ∀ db, left (getProjection P E user runId db) = db := fun _ => left_query
          refine ⟨?_, fun p t hreturned => ?_⟩
          · show (left (getProjection P E user runId u)).audit = s.audit
            rw [hget]
            exact approveDecision_audit hdecision
          · obtain ⟨hprojection, rfl⟩ := query_eq_ok.mp hreturned
            exact hprojection

end Refused

/-! ## Every run -/

/-- However calls of `approve` interleave and crash, the Pack is called at most once for an approval
request, and only with an event in the journal that resumed the run for it.  A call that resumes
nothing appends to no journal, and what it returns is what `get` shows. -/
theorem approval_advances_once {ι : Type} [DecidableEq ι] {P : Platform} {runId : String}
    {db₀ : Database} (hfiled : db₀.Filed) :
    (∀ w : ApproveWorld ι, Reaches (ApproveStep P runId) always (.beginning db₀) w →
      (w.advanced.map (·.approvalId)).Nodup ∧ (w.advanced.map (·.event)).Nodup ∧
      ∀ g ∈ w.advanced, ∃ id event, g = ⟨some id, some event⟩ ∧
        event ∈ w.database.loadEvents runId ∧ event.transition = .approvalResumed) ∧
    ∀ E user request s, (∀ adapter prepared t, approveDecision P E user runId request s ≠
        .ok (.inr (true, adapter, prepared)) t) →
      (left (approve P E user runId request s)).audit = s.audit ∧
        ∀ p t, approve P E user runId request s = .ok p t → getRun P E user runId t = .ok p := by
  refine ⟨fun w hrun => ?_, fun E user request s h => approve_without_grant h⟩
  have hbeginning : Held runId (ApproveWorld.beginning db₀ : ApproveWorld ι) := by
    refine ⟨hfiled, fun g hg => absurd hg List.not_mem_nil, .nil, .nil, fun i g hi => ?_,
      fun i j g hi => ?_, .nil, fun g hg => absurd hg List.not_mem_nil⟩
    · cases hi
    · cases hi
  have hheld : Held runId w := hrun.invariant (fun _ _ _ _ h hstep => h.step hstep) hbeginning
  refine ⟨?_, ?_, fun g hg => ?_⟩
  · exact nodup_map_of_nodup_map hheld.requests hheld.once hheld.advanced
  · exact nodup_map_of_nodup_map hheld.events hheld.once hheld.advanced
  · obtain ⟨id, event, hgrant, _, hwritten, hresumed⟩ := hheld.committed g (hheld.advanced g hg)
    exact ⟨id, event, hgrant, hwritten, hresumed⟩

/-! ## The waiting run -/

section Run

theorem awaitingDatabase_filed : awaitingDatabase.Filed := by
  have hpaused : pausedNatively.Filed := by
    intro row hrow event hevent
    rw [List.mem_singleton.mp hrow] at hevent ⊢
    cases hevent
    rfl
  rcases (appendAgentRunTransition_clean samplePlatform approvalRequest).left_cases pausedNatively
    with hsame | ⟨c, happend⟩
  · unfold awaitingDatabase
    rw [hsame]
    exact hpaused
  · exact (Database.Kept.append happend).filed hpaused

/-- A call that is granted, and then calls its Pack. -/
theorem ApproveStep.advances {P : Platform} {E : Environment} {user : UserContext} {runId : String}
    {request : AgentRunCommandRequest} {s t : Database} {adapter : PackRuntimeAdapter}
    {prepared : PreparedRunReference} (hrole : user.isAnyApprover = true)
    (hdecision : approveDecision P E user runId request s =
      .ok (.inr (true, adapter, prepared)) t) :
    ∃ w : ApproveWorld Unit, Reaches (ApproveStep P runId) always (.beginning s) w ∧
      w.advanced.length = 1 := by
  let start : ApproveWorld Unit := .beginning s
  let grant := grantOf P E user runId s t
  have hdecides : start.decides P runId () E user request =
      ⟨t, Function.update start.phase () (.resumed grant), [grant], []⟩ := by
    have hok : atomic (approveDecision P E user runId request) start.database =
        .ok (.inr (true, adapter, prepared)) t := atomic_eq_ok.mpr hdecision
    unfold ApproveWorld.decides
    rw [if_pos hrole, hok]
    rfl
  have hfirst : ApproveStep P runId (.decide () E user request) start
      (start.decides P runId () E user request) := ⟨rfl, rfl⟩
  rw [hdecides] at hfirst
  have hsecond : ApproveStep P runId (.advance ())
      (⟨t, Function.update start.phase () (.resumed grant), [grant], []⟩ : ApproveWorld Unit)
      ⟨t, Function.update (Function.update start.phase () (.resumed grant)) () .advancing, [grant],
        [grant]⟩ := by
    refine ⟨grant, ?_, rfl⟩
    show Function.update start.phase () (.resumed grant) () = .resumed grant
    exact Function.update_self ..
  exact ⟨_, (Reaches.single trivial hfirst).tail trivial hsecond, rfl⟩

/-- A call is granted, and calls its Pack. -/
theorem approval_advances_once_sample : ∃ w : ApproveWorld Unit,
    Reaches (ApproveStep samplePlatform sampleRunId) always (.beginning awaitingDatabase) w ∧
      w.advanced.length = 1 ∧ ∀ g ∈ w.advanced, ∃ id event, g = ⟨some id, some event⟩ ∧
        event ∈ w.database.loadEvents sampleRunId ∧ event.transition = .approvalResumed := by
  obtain ⟨_, _, adapter, prepared, db, _, _, _, hdecision, _⟩ := grantedDatabase_granted
  obtain ⟨w, hrun, hadvanced⟩ := ApproveStep.advances (by decide) hdecision
  exact ⟨w, hrun, hadvanced, ((approval_advances_once awaitingDatabase_filed).1 w hrun).2.2⟩

/-- Who requested the approval of the waiting run, and approves. -/
def requestingApprover : UserContext :=
  ⟨"requester", "org", [⟨"dept", "approver"⟩], [], false, false⟩

/-- A call of `approve` for a run that awaits its approval, which raises. -/
theorem own_request_raises :
    (getRun samplePlatform (sampleEnvironment idleAdapter (.utc 20)) requestingApprover sampleRunId
        awaitingDatabase).toOption.map (·.view.state) = some .awaitingApproval ∧
      ∀ p t, approve samplePlatform (sampleEnvironment idleAdapter (.utc 20)) requestingApprover
        sampleRunId ⟨"approve", none⟩ awaitingDatabase ≠ .ok p t := by
  have hran : (getRun samplePlatform (sampleEnvironment idleAdapter (.utc 20)) requestingApprover
      sampleRunId awaitingDatabase).toOption.map (·.view.state) = some .awaitingApproval ∧
      returned (approve samplePlatform (sampleEnvironment idleAdapter (.utc 20)) requestingApprover
        sampleRunId ⟨"approve", none⟩ awaitingDatabase) = false := by decide +kernel
  refine ⟨hran.1, fun p t hreturned => ?_⟩
  have hnot := hran.2
  rw [hreturned] at hnot
  cases hnot

end Run

end AgentPact
