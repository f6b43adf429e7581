import AgentPact.AgentRuns.ProbeRecovery
import AgentPact.BrowserLoop.PersistedExecutor

/-!
# Approvals that stop half way

`approve` commits the decision and the resumption of the step before its Pack
advances the run.  If the process stops anywhere between that commit and the
reflection of what the Pack returned, the journal says that the step is active
while its native rows are resuming or wait for a probe.

Such a run is `Drifting`.  Its projection offers no action, so every command
leaves it as it is, and recovery writes attempts only.  Nothing brings it to an
end or to a probe.
-/

namespace AgentPact

open Base Transaction

/-! ## Drifting runs -/

/-- A view that offers nothing and is no end. -/
def RunView.Adrift (v : RunView) : Prop :=
  v.state ∈ [.running, .failed] ∧ v.legalActions = [] ∧ v.pauseSignal = none

/-- A run whose journal says that its step is active, or still awaits an approval, and whose native
task is resuming or waits for a probe. -/
structure Drifting (P : Platform) (runId organizationId : String) (active : GovernedPlanStepRef)
    (db : Database) : Prop where
  journal : ∀ c, replayPlanJournal P (db.loadEvents runId) = .ok c →
    c.activeStep = some active ∧ c.state ∈ [.active, .approvalRequired] ∧
      db.getPauseSignal c.rootTaskId organizationId = none
  latest : ∀ last, (db.loadEvents runId).getLast? = some last →
    last.transition ∉ [.approvalRejected, .runCancelled]
  root : ∀ t, db.tasks.find? runId = some t → t.organizationId = organizationId
  native : ∃ task, db.tasks.find? active.nativeTaskId = some task ∧
    task.organizationId = organizationId ∧ task.status ∈ [.resuming, .pendingResultProbe]

/-- The status a Pack gives the native rows while it advances a run. -/
def AwaitsProbe (taskStatus : AgentRunTaskStatus) (stepStatus : AgentRunStepStatus) : Prop :=
  taskStatus = .pendingResultProbe ∧ stepStatus = .pendingResultProbe

namespace Drifting

variable {P : Platform} {runId organizationId : String} {active : GovernedPlanStepRef}
  {db db' : Database}

/-- Who loads the run belongs to its organization. -/
theorem organization (h : Drifting P runId organizationId active db) {viewer : String}
    {locked : LockedRun} (hload : LoadedFrom P db viewer runId locked) :
    viewer = organizationId := by
  rw [← hload.organization.1]
  exact h.root _ (Option.filter_eq_some_iff.mp hload.root).1

/-- Nobody is offered anything. -/
theorem adrift (h : Drifting P runId organizationId active db) {viewer : String}
    {locked : LockedRun} {view : RunView} (hload : LoadedFrom P db viewer runId locked)
    (hview : viewLocked P db locked = .ok view) : view.Adrift := by
  obtain ⟨hactive, hstate, hpause⟩ := h.journal _ hload.replay
  have hlatest := h.latest _ hload.latest
  have hviewer := hload.organization.1.trans (h.organization hload)
  obtain ⟨task, htask, horganization, hstatus⟩ := h.native
  cases viewLocked_viewed hview with
  | conflict => exact ⟨by simp [RunView.stateConflict], rfl, rfl⟩
  | paused hsignal _ =>
      rw [hviewer, hpause] at hsignal
      cases hsignal
  | succeeded _ hnone _ =>
      rw [hactive] at hnone
      cases hnone
  | @active _ rows _ _ hactive' hrows hviewed =>
      cases hactive.symm.trans hactive'
      -- the native task is the one that drifts
      have hnative : ∀ n, rows.native = some n → n.1 = task := by
        intro n hn
        have hpair := (activeRows_eq_ok hrows).1
        rw [hn, hviewer] at hpair
        have hfound := (Option.filter_eq_some_iff.mp (getNativePair_eq_some.mp hpair).1).1
        exact Option.some.inj (hfound.symm.trans htask)
      cases hviewed with
      | conflict => exact ⟨by simp [RunView.stateConflict], rfl, rfl⟩
      | blocked hblocked _ _ => simp [hblocked] at hstate
      | rejected hrejected _ _ _ _ => simp [hrejected] at hlatest
      | cancelled hcancelled _ _ _ => simp [hcancelled] at hlatest
      | awaiting _ hpending _ _ _ =>
          obtain ⟨n, hn, htaskStatus, _⟩ := ActiveRows.nativeIs_eq_true.mp hpending
          rw [← hnative n hn, htaskStatus] at hstatus
          simp at hstatus
      | recorded _ => exact ⟨by simp, rfl, rfl⟩
      | planning _ hnone _ =>
          -- the native task exists, so the pair does or is inconsistent
          have hpair := (activeRows_eq_ok hrows).1
          rw [hnone] at hpair
          have hfound : db.task? active.nativeTaskId locked.root.organizationId = some task :=
            Option.filter_eq_some_iff.mpr ⟨htask, by simp [horganization, hviewer]⟩
          rw [(getNativePair_eq_none.mp hpair).1] at hfound
          cases hfound
      | running _ hrunnable _ =>
          obtain ⟨n, hn, htaskStatus, _⟩ := ActiveRows.runnable_eq_true.mp hrunnable
          have hresuming : n.1.status = .resuming := by
            rw [hnative n hn] at htaskStatus ⊢
            generalize task.status = status at hstatus htaskStatus
            cases status <;> simp at hstatus htaskStatus ⊢
          simp [RunView.Adrift, hn, hresuming]

/-- A Pack that goes on working leaves the run drifting. -/
theorem packCommit (h : Drifting P runId organizationId active db)
    (hcommit : PackCommit active AwaitsProbe db db') : Drifting P runId organizationId active db' := by
  cases hcommit with
  | execution s => exact ⟨h.journal, h.latest, h.root, h.native⟩
  | native hallowed =>
      obtain ⟨rfl, rfl⟩ := hallowed
      obtain ⟨task, htask, horganization, _⟩ := h.native
      refine ⟨h.journal, h.latest, fun t ht => ?_, ?_⟩
      · obtain ⟨t₀, ht₀, rfl | ⟨_, rfl⟩⟩ := Table.find?_update_some ht
        · exact h.root _ ht₀
        · exact h.root t₀ ht₀
      · exact ⟨_, Table.find?_update_self htask, horganization, by simp [TaskModel.setStatus]⟩

theorem packCommits (h : Drifting P runId organizationId active db)
    (hcommits : PackCommits active AwaitsProbe db db') :
    Drifting P runId organizationId active db' := by
  induction hcommits with
  | refl => exact h
  | tail _ hcommit ih => exact ih.packCommit hcommit

/-- An append that says that the step is active leaves the run drifting. -/
theorem append (h : Drifting P runId organizationId active db) {r : AppendRequest}
    {c : GovernedPlanCheckpoint} (happend : appendAgentRunTransition P r db = .ok c db')
    (hactive : r.checkpoint.activeStep = some active) (hstate : r.checkpoint.state = .active)
    (htransition : r.transition = .approvalResumed) :
    Drifting P runId organizationId active db' := by
  obtain ⟨happendable, root, restored, _, _, hreplay, ⟨hfresh, _, hinsert, _⟩ | ⟨_, _, _, rfl⟩⟩ :=
    appendAgentRunTransition_eq_ok.mp happend
  case inr => exact h
  obtain ⟨last, hlast, hrestored, _, _, hfiled, _⟩ := replayPlanJournal_last hreplay
  have hpauses := getPauseSignal_insert hinsert
  have htasks : db'.tasks = db.tasks := by
    obtain ⟨_, _, rfl⟩ := Database.insertAudit?_eq_some.mp hinsert
    rfl
  refine ⟨fun c' hc' => ?_, fun last' hlast' => ?_, by rw [htasks]; exact h.root,
    by rw [htasks]; exact h.native⟩
  · rw [hpauses]
    by_cases hroot : r.checkpoint.rootTaskId = runId
    · subst hroot
      rw [hfresh.loadEvents hreplay hinsert] at hc'
      obtain ⟨hextends, rfl⟩ := (hfresh.replay_iff happendable hlast hreplay).mp hc'
      refine ⟨hactive, by simp [GovernedPlanCheckpoint.bound, hstate], ?_⟩
      have hsame : r.checkpoint.rootTaskId = restored.rootTaskId := by
        rw [hextends.identity.2.2, hrestored, ← hfiled]
        rfl
      show db.getPauseSignal r.checkpoint.rootTaskId organizationId = none
      rw [hsame]
      exact (h.journal _ hreplay).2.2
    · rw [loadEvents_insert_other hinsert hroot] at hc'
      exact h.journal c' hc'
  · by_cases hroot : r.checkpoint.rootTaskId = runId
    · subst hroot
      rw [hfresh.loadEvents hreplay hinsert, List.getLast?_concat] at hlast'
      cases hlast'
      simp [AppendRequest.event, planEvent, htransition]
    · rw [loadEvents_insert_other hinsert hroot] at hlast'
      exact h.latest last' hlast'

/-- A command that is no pause does nothing about it. -/
theorem keeps (h : Drifting P runId organizationId active db) {call : ServiceCall}
    (hcall : call.command.serves ≠ []) :
    Keeps (call.command.run P call.environment call.user runId) db := by
  refine AgentRunCommand.run_keeps hcall ?_ ?_
  · intro locked p hlocked
    obtain ⟨hload, hproject⟩ := lockedProjection_eq_ok.mp hlocked
    obtain ⟨hstate, hlegal, hpause⟩ := h.adrift hload (projectLocked_eq_ok hproject).1
    refine ⟨fun hawaiting => ?_, hlegal, hpause⟩
    rw [hawaiting] at hstate
    simp at hstate
  · intro locked action approval task hload hrows _ htask hpending
    obtain ⟨active', hactive', htaskId, _⟩ := Database.pendingApproval_eq_some hrows
    rw [(h.journal _ hload.replay).1] at hactive'
    cases hactive'
    obtain ⟨drifting, hdrifting, _, hstatus⟩ := h.native
    rw [htaskId] at htask
    cases (Option.filter_eq_some_iff.mp htask).1.symm.trans hdrifting
    rw [hpending] at hstatus
    simp at hstatus

end Drifting

/-! ## A granted approval -/

section Granted

variable {P : Platform} {E : Environment} {user : UserContext} {runId : String}
  {request : AgentRunCommandRequest} {locked : LockedRun} {p : AgentRunProjection}
  {active : GovernedPlanStepRef} {db db' : Database}

/-- What a run that awaits its approval has: no pause, and a journal that says so. -/
theorem awaiting_view (hlocked : lockedProjection P E user runId db = .ok (locked, p))
    (hawaiting : p.view.state = .awaitingApproval) :
    db.getPauseSignal locked.checkpoint.rootTaskId locked.root.organizationId = none ∧
      locked.checkpoint.state = .approvalRequired := by
  have hview := (projectLocked_eq_ok (lockedProjection_eq_ok.mp hlocked).2).1
  generalize p.view = view at hview hawaiting
  cases viewLocked_viewed hview with
  | conflict => cases hawaiting
  | @paused signal _ _ =>
      unfold RunPauseSignal.view at hawaiting
      cases hout : signal.outcome <;> simp [hout] at hawaiting
  | succeeded _ _ _ => cases hawaiting
  | active hpause _ _ hviewed =>
      cases hviewed with
      | awaiting hstate _ _ _ _ => exact ⟨hpause, hstate⟩
      | _ => cases hawaiting

/-- What the first transaction of `approve` commits when it grants an approval: the native pair
resumes, and the journal gets at most one event, which says that the step is active. -/
theorem approveDecision_granted {adapter : PackRuntimeAdapter} {prepared : PreparedRunReference}
    (hlocked : lockedProjection P E user runId db = .ok (locked, p))
    (hawaiting : p.view.state = .awaitingApproval)
    (hactive : locked.checkpoint.activeStep = some active)
    (hdecision : approveDecision P E user runId request db = .ok (.inr (true, adapter, prepared)) db') :
    ∃ db₁ db₂ task c, db.SameButApprovals db₁ ∧
      db₂ = db₁.setNativeStatus active.nativeTaskId active.nativeStepId .resuming .resuming ∧
      db.task? active.nativeTaskId user.orgId = some task ∧
      appendCommand P E user runId "approve" request.operationKey locked
        { locked.checkpoint with state := .active } .approvalResumed db₂ = .ok c db' := by
  cases approveDecision_eq_ok hdecision with
  | again hlocked' _ hstate _ _ =>
      rw [hlocked] at hlocked'
      cases hlocked'
      exact absurd hawaiting hstate
  | @decided _ _ action row _ _ db₁ _ hlocked' hrows _ hdecide hrow hresume =>
      rw [hlocked] at hlocked'
      cases hlocked'
      obtain ⟨_, hactive', htaskId, hstepId, haction⟩ := Database.pendingApproval_eq_some hrows
      cases hactive.symm.trans hactive'
      have hwrites := (decideApprovalRequest_eq_ok hdecide).2
      -- the row that resumes is the action of the active step
      obtain ⟨action', haction', hrowTask, hrowStep⟩ := hwrites.pendingActions hrow
      cases haction.symm.trans haction'
      rcases resumeApproved_eq_ok hresume with ⟨hfalse, _⟩ | ⟨_, _, resumed, db₂, c, hbegin, happend⟩
      · cases hfalse
      · obtain ⟨_, task, _, _, _, _, _, _, htask, _, _, _, _, rfl⟩ :=
          beginReobservationAfterApproval_eq_ok hbegin
        rw [hrowTask, hrowStep, htaskId, hstepId] at *
        refine ⟨_, _, task, c, .trans _ _ _ hwrites.same (.updatePending _ _ _), rfl, ?_, happend⟩
        unfold Database.task? at htask ⊢
        rw [← htask, hwrites.same]

/-- Such a run drifts, until the result of its Pack is reflected. -/
theorem approveDecision_drifts {adapter : PackRuntimeAdapter} {prepared : PreparedRunReference}
    (hlocked : lockedProjection P E user runId db = .ok (locked, p))
    (hawaiting : p.view.state = .awaitingApproval)
    (hactive : locked.checkpoint.activeStep = some active)
    (hdecision : approveDecision P E user runId request db =
      .ok (.inr (true, adapter, prepared)) db') : Drifting P runId user.orgId active db' := by
  obtain ⟨db₁, db₂, task, c, hsame, rfl, htask, happend⟩ :=
    approveDecision_granted hlocked hawaiting hactive hdecision
  obtain ⟨hpause, hstate⟩ := awaiting_view hlocked hawaiting
  have hload := (lockedProjection_eq_ok.mp hlocked).1
  obtain ⟨hfind, horganization⟩ := Option.filter_eq_some_iff.mp htask
  rw [hload.organization.1] at hpause
  have haudit : db₁.audit = db.audit := by rw [hsame]
  have htasks : db₁.tasks = db.tasks := by rw [hsame]
  have hevents : ∀ id, (db₁.setNativeStatus active.nativeTaskId active.nativeStepId
      .resuming .resuming).loadEvents id = db.loadEvents id := fun id => by
    show db₁.loadEvents id = _
    unfold Database.loadEvents
    rw [haudit]
  refine Drifting.append ?_ happend hactive rfl rfl
  -- before the append, the journal still awaits the approval
  refine ⟨fun c hc => ?_, fun last hlast hmem => ?_, fun t ht => ?_, ?_⟩
  · rw [hevents, hload.replay] at hc
    cases hc
    refine ⟨hactive, by simp [hstate], ?_⟩
    rw [← hpause]
    unfold Database.getPauseSignal
    rw [← haudit]
    rfl
  · rw [hevents] at hlast
    have hexpected := replayed_state hlast hload.replay
    rw [hstate] at hexpected
    rcases List.mem_cons.mp hmem with hl | hl
    · simp [hl, PlanJournalTransition.expectedStates] at hexpected
    · simp [List.mem_singleton.mp hl, PlanJournalTransition.expectedStates] at hexpected
  · obtain ⟨t₀, ht₀, hcases⟩ := Table.find?_update_some ht
    rw [htasks] at ht₀
    cases ht₀.symm.trans (Option.filter_eq_some_iff.mp hload.root).1
    rcases hcases with rfl | ⟨_, rfl⟩ <;> exact hload.organization.1
  · rw [← htasks] at hfind
    refine ⟨_, Table.find?_update_self hfind, ?_, by simp [TaskModel.setStatus]⟩
    show task.organizationId = user.orgId
    simpa using horganization

end Granted

/-! ## Recovering -/

/-- A step of recovery: the scan for abandoned executions, or a command. -/
inductive RecoveryLabel where
  | recover (minimumAge : Int) (now : Option DateTime) (clock : Stamp) (locked : String → Bool)
  | command (call : ServiceCall)

/-- The database after the scan. -/
def Database.afterScan (db : Database) (minimumAge : Int) (now : Option DateTime) (clock : Stamp)
    (locked : String → Bool) : Database :=
  let scan := recoverAbandonedPersistedExecutions minimumAge now clock locked
  { db with execution := Transaction.left (atomic scan db.execution) }

/-- One step of recovery. -/
def RecoveryStep (P : Platform) (runId : String) : RecoveryLabel → Database → Database → Prop
  | .recover minimumAge now clock locked, db, db' => db' = db.afterScan minimumAge now clock locked
  | .command call, db, db' => ServiceStep P runId call db db'

/-- The commands that somebody who looks at the run would try: a legal one, or `approve` again. -/
def Offered (P : Platform) (runId : String) (db : Database) : RecoveryLabel → Prop
  | .recover _ _ _ _ => True
  | .command call => (∃ request, call.command = .approve request) ∨
      ∃ p, getRun P call.environment call.user runId db = .ok p ∧
        ∃ a ∈ call.command.serves, a ∈ p.view.legalActions

/-- The run is at an end if nothing was attempted, and waits for its probe otherwise. -/
def Recovered (active : GovernedPlanStepRef) (db : Database) (v : RunView) : Prop :=
  (db.attemptsOf active.nativeTaskId = [] ∧ v.state ∈ [.succeeded, .rejected, .cancelled]) ∨
    (db.attemptsOf active.nativeTaskId ≠ [] ∧ v.state = .unknown ∧ .probe ∈ v.legalActions)

theorem RunView.Adrift.not_recovered {v : RunView} (h : v.Adrift) (active : GovernedPlanStepRef)
    (db : Database) : ¬ Recovered active db v := by
  rintro (⟨_, hend⟩ | ⟨_, hunknown, _⟩)
  · have hstate := h.1
    generalize v.state = state at hstate hend
    cases state <;> simp at hstate hend
  · have hstate := h.1
    rw [hunknown] at hstate
    simp at hstate

/-- Recovery leaves a drifting run drifting. -/
theorem Drifting.recovery {P : Platform} {runId organizationId : String}
    {active : GovernedPlanStepRef} {db db' : Database} {label : RecoveryLabel}
    (h : Drifting P runId organizationId active db) (hoffered : Offered P runId db label)
    (hstep : RecoveryStep P runId label db db') : Drifting P runId organizationId active db' := by
  cases label with
  | recover minimumAge now clock locked =>
      cases hstep
      exact h.packCommit (.execution _ _)
  | command call =>
      have hserves : call.command.serves ≠ [] := by
        rcases hoffered with ⟨request, hcommand⟩ | ⟨_, _, a, ha, _⟩
        · rw [hcommand]
          exact List.cons_ne_nil _ _
        · exact List.ne_nil_of_mem ha
      have hsame : db' = db := by
        have hleft : db' = left (call.command.run P call.environment call.user runId db) := hstep
        rw [hleft]
        exact h.keeps hserves
      rw [hsame]
      exact h

/-- Once the first transaction of `approve` has granted an approval, a process that stops before
the result of its Pack is reflected leaves a run that nothing recovers, whatever the Pack has
committed by then: recovery, re-issued approvals and legal commands never bring it to an end or to
its probe. -/
theorem approve_never_recovers {P : Platform} {E : Environment} {user : UserContext}
    {runId : String} {request : AgentRunCommandRequest} {locked : LockedRun}
    {p : AgentRunProjection} {active : GovernedPlanStepRef} {adapter : PackRuntimeAdapter}
    {prepared : PreparedRunReference} {db₀ db₁ db₂ db₃ : Database}
    (hlocked : lockedProjection P E user runId db₀ = .ok (locked, p))
    (hawaiting : p.view.state = .awaitingApproval)
    (hactive : locked.checkpoint.activeStep = some active)
    (hdecision : approveDecision P E user runId request db₀ =
      .ok (.inr (true, adapter, prepared)) db₁)
    (hstop : PackCommits active AwaitsProbe db₁ db₂)
    (hrun : Reaches (RecoveryStep P runId) (Offered P runId) db₂ db₃) :
    ∀ E' viewer p', getRun P E' viewer runId db₃ = .ok p' →
      p'.view.Adrift ∧ ¬ Recovered active db₃ p'.view := by
  have hgranted := approveDecision_drifts hlocked hawaiting hactive hdecision
  have hdrifting : Drifting P runId user.orgId active db₃ :=
    hrun.invariant (fun _ _ _ hoffered h hstep => h.recovery hoffered hstep)
      (hgranted.packCommits hstop)
  intro E' viewer p' hget
  obtain ⟨_, hload, hview⟩ := getRun_eq_ok hget
  have hadrift := hdrifting.adrift hload hview
  exact ⟨hadrift, hadrift.not_recovered active db₃⟩

/-! ## A run that stops after its approval -/

section Run

/-- The first transaction of an approval of the waiting run. -/
def grantedDecision : EStateM.Result Raised Database
    (AgentRunProjection ⊕ (Bool × PackRuntimeAdapter × PreparedRunReference)) :=
  approveDecision samplePlatform (sampleEnvironment idleAdapter (.utc 20)) sampleUser sampleRunId
    ⟨"approve", none⟩ awaitingDatabase

/-- The database after it, if it grants the approval. -/
def grantedDatabase : Option Database :=
  match grantedDecision with
  | .ok (.inr (true, _, _)) db => some db
  | _ => none

/-- What the run is seen as before and after. -/
theorem grantedDatabase_views :
    (lockedProjection samplePlatform (sampleEnvironment idleAdapter (.utc 20)) sampleUser sampleRunId
      awaitingDatabase).toOption.map (fun x => (x.2.view.state, x.1.checkpoint.activeStep)) =
        some (.awaitingApproval, some sampleStep) ∧
      grantedDatabase.map (fun db => (sampleView (.utc 21) db).map fun v =>
        (v.state, v.legalActions)) = some (some (.running, [])) := by decide +kernel

/-- The approval of the waiting run is granted, and what the run is before and after. -/
theorem grantedDatabase_granted : ∃ locked p adapter prepared db,
    lockedProjection samplePlatform (sampleEnvironment idleAdapter (.utc 20)) sampleUser sampleRunId
      awaitingDatabase = .ok (locked, p) ∧ p.view.state = .awaitingApproval ∧
    locked.checkpoint.activeStep = some sampleStep ∧
    grantedDecision = .ok (.inr (true, adapter, prepared)) db ∧ grantedDatabase = some db := by
  obtain ⟨hbefore, hafter⟩ := grantedDatabase_views
  cases hlocked : lockedProjection samplePlatform (sampleEnvironment idleAdapter (.utc 20))
      sampleUser sampleRunId awaitingDatabase with
  | error e => rw [hlocked] at hbefore; cases hbefore
  | ok x =>
      rw [hlocked] at hbefore
      obtain ⟨hstate, hactive⟩ := Prod.ext_iff.mp (Option.some.inj hbefore)
      obtain ⟨db, hdb, _⟩ := Option.map_eq_some_iff.mp hafter
      have hgranted := hdb
      unfold grantedDatabase at hgranted
      split at hgranted
      case h_1 adapter prepared db' hdecision =>
        cases hgranted
        exact ⟨x.1, x.2, adapter, prepared, db, rfl, hstate, hactive, hdecision, hdb⟩
      case h_2 => cases hgranted

/-- The run that stops there can still be read, and is recovered by nothing. -/
theorem approve_never_recovers_sample :
    ∃ db p, grantedDatabase = some db ∧
      getRun samplePlatform (sampleEnvironment idleAdapter (.utc 21)) sampleUser sampleRunId db =
        .ok p ∧ ¬ Recovered sampleStep db p.view := by
  obtain ⟨locked, p, adapter, prepared, db, hlocked, hawaiting, hactive, hdecision, hdb⟩ :=
    grantedDatabase_granted
  have hafter := grantedDatabase_views.2
  rw [hdb] at hafter
  cases hget : getRun samplePlatform (sampleEnvironment idleAdapter (.utc 21)) sampleUser
      sampleRunId db with
  | error e => simp [sampleView, hget, Except.toOption] at hafter
  | ok p' =>
      exact ⟨db, p', hdb, hget, (approve_never_recovers hlocked hawaiting hactive hdecision .refl
        (.refl _) _ _ p' hget).2⟩

/-- A run whose approval was granted, and which is RUNNING with no legal action for ever. -/
theorem granted_never_recovers :
    ∃ db, grantedDatabase = some db ∧
      (sampleView (.utc 21) db).map (fun v => (v.state, v.legalActions)) = some (.running, []) ∧
      ∀ db', Reaches (RecoveryStep samplePlatform sampleRunId) (Offered samplePlatform sampleRunId)
          db db' → ∀ E viewer p, getRun samplePlatform E viewer sampleRunId db' = .ok p →
        ¬ Recovered sampleStep db' p.view := by
  obtain ⟨locked, p, adapter, prepared, db, hlocked, hawaiting, hactive, hdecision, hdb⟩ :=
    grantedDatabase_granted
  have hafter := grantedDatabase_views.2
  rw [hdb] at hafter
  refine ⟨db, hdb, Option.some.inj hafter, fun db' hrun E viewer p' hget => ?_⟩
  have hdrifting := hrun.invariant (fun _ _ _ hoffered h hstep => h.recovery hoffered hstep)
    (approveDecision_drifts hlocked hawaiting hactive hdecision)
  obtain ⟨_, hload, hview⟩ := getRun_eq_ok hget
  exact (hdrifting.adrift hload hview).not_recovered _ _

end Run

end AgentPact
