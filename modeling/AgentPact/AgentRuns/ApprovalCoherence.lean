import AgentPact.AgentRuns.CoherentReads

/-!
# Coherence of approvals and journal

What holds of the active step of a run in every state that the service, the
approval endpoint and the recovery scan lead to, in any order, if no rejection
and no scan goes behind the journal of the run.

Both do, and `decided_behind_journal` shows what becomes of the run then.
-/

namespace AgentPact

open Base Transaction

/-! ## Where a run starts -/

/-- The run has not been paused for an approval, and no step of it ahead has an action or resumes. -/
structure NeverPaused (P : Platform) (runId : String) (db : Database) : Prop where
  filed : ∀ event ∈ db.loadEvents runId, event.rootTaskId = runId
  state : ∀ c, replayPlanJournal P (db.loadEvents runId) = .ok c → c.state ≠ .approvalRequired
  ahead : ∀ c, replayPlanJournal P (db.loadEvents runId) = .ok c →
    ∀ x ∈ c.ahead, ¬ db.Resuming x ∧ ∀ m ∈ db.pendingActions.rows, ¬ x.Owns m

theorem NeverPaused.coherent {P : Platform} {runId : String} {db : Database}
    (h : NeverPaused P runId db) : Coherent P runId db where
  filed := h.filed
  resumed c hc x hx hresuming := absurd hresuming (h.ahead c hc x hx).1
  rejected c hc x hx hrejected := by
    obtain ⟨m, hm, howns, _⟩ := hrejected
    exact absurd howns ((h.ahead c hc x hx).2 m hm)
  required c hc hstate := absurd hstate (h.state c hc)

/-- A transaction that settles approvals without the service. -/
def ApprovalLabel.behindService : ApprovalLabel → Bool
  | .decide _ _ _ _ _ => true
  | .scan _ _ _ => true
  | _ => false

/-- A run reads on after such a transaction, if it does not go behind the journal. -/
theorem ReadsOn.behindService {P : Platform} {organizationId runId : String} {s t : Database}
    {l : ApprovalLabel} (hlabel : l.behindService = true) (hok : Journaled P runId s l)
    (hstep : ApprovalStep P runId l s t) : ReadsOn P organizationId runId s t := by
  cases l with
  | decide user approvalId approved body now =>
      cases hstep
      exact .decide hok
  | scan organizationId limit held =>
      cases hstep
      exact .scan hok
  | _ => cases hlabel

/-! ## Every state -/

/-- Whatever order the drivers move in, if none goes behind the journal of the run: a step that
resumes is resumed by the journal, a rejected approval ends the journal, a journal that waits for an
approval has one that is pending or granted, and no decision of others makes the run unreadable. -/
theorem approvals_coherent {P : Platform} {runId : String} {db₀ db : Database}
    {user : UserContext} {locked : LockedRun} {active : GovernedPlanStepRef}
    (hstart : NeverPaused P runId db₀)
    (hrun : Reaches (ApprovalStep P runId) (Journaled P runId) db₀ db)
    (hload : LoadedFrom P db user.orgId runId locked)
    (hactive : locked.checkpoint.activeStep = some active) :
    (db.Resuming active → ResumedIn locked.events active) ∧
      (db.HasRejected active → locked.latest.transition = .approvalRejected) ∧
      (locked.checkpoint.state = .approvalRequired → db.HasUnresolved active) ∧
      ∀ l t E, l.behindService = true → Journaled P runId db l → ApprovalStep P runId l db t →
        Conflicts (getRun P E user runId t) → Conflicts (getRun P E user runId db) := by
  have h : Coherent P runId db :=
    hrun.invariant (fun _ _ _ hok hbefore hstep => hbefore.step hok hstep) hstart.coherent
  have hahead : active ∈ locked.checkpoint.ahead :=
    List.mem_append_left _ (Option.mem_toList.mpr hactive)
  refine ⟨fun hresuming => ?_, fun hrejected => ?_, fun hstate => ?_,
    fun l t E hlabel hok hstep => ?_⟩
  · rw [hload.events]
    exact h.resumed _ hload.replay active hahead hresuming
  · obtain ⟨last, hlast, hended⟩ := h.rejected _ hload.replay active hahead hrejected
    cases hload.latest.symm.trans hlast
    exact hended
  · obtain ⟨x, hx, hunresolved⟩ := h.required _ hload.replay hstate
    cases hactive.symm.trans hx
    exact hunresolved
  · exact (ReadsOn.behindService hlabel hok hstep).conflicts hload

/-! ## Behind the journal -/

section Run

/-- The run of the examples, before its first pause. -/
theorem runningDatabase_neverPaused : NeverPaused samplePlatform sampleRunId runningDatabase := by
  have hran : (∀ event ∈ runningDatabase.loadEvents sampleRunId, event.rootTaskId = sampleRunId) ∧
      (replayPlanJournal samplePlatform (runningDatabase.loadEvents sampleRunId)).toOption.map
        (·.state) = some .active ∧
      (∀ row ∈ runningDatabase.steps.rows, row.status ≠ .resuming) ∧
      runningDatabase.pendingActions.rows = [] := by decide +kernel
  obtain ⟨hfiled, hstate, hsteps, hactions⟩ := hran
  refine ⟨hfiled, fun c hc => ?_, fun c _ x _ => ⟨?_, ?_⟩⟩
  · rw [hc] at hstate
    have hactive : c.state = .active := Option.some.inj hstate
    rw [hactive]
    exact nofun
  · rintro ⟨row, hfind, _, hstatus⟩
    exact hsteps row (Table.mem_of_find? hfind) hstatus
  · rw [hactions]
    exact fun m hm => absurd hm List.not_mem_nil

/-- What loads of a run, by what is seen of it. -/
theorem exists_loaded {α : Type} {P : Platform} {db : Database} {user : UserContext}
    {runId : String} {f : LockedRun → α} {a : α}
    (h : (loadLocked P db user runId).toOption.map f = some a) :
    ∃ locked, LoadedFrom P db user.orgId runId locked ∧ f locked = a := by
  cases hload : loadLocked P db user runId with
  | error e => rw [hload] at h; cases h
  | ok locked =>
      rw [hload] at h
      exact ⟨locked, loadLocked_eq_ok.mp hload, Option.some.inj h⟩

/-- After its first pause the run has an approval to wait for. -/
theorem approvals_coherent_sample : ∃ locked active,
    LoadedFrom samplePlatform pausedOnce sampleUser.orgId sampleRunId locked ∧
      locked.checkpoint.activeStep = some active ∧ pausedOnce.HasUnresolved active := by
  have hran : (loadLocked samplePlatform pausedOnce sampleUser sampleRunId).toOption.map
      (fun locked => (locked.checkpoint.state, locked.checkpoint.activeStep.isSome)) =
        some (.approvalRequired, true) := by decide +kernel
  obtain ⟨locked, hload, hseen⟩ := exists_loaded hran
  obtain ⟨hstate, hsome⟩ := Prod.mk.inj hseen
  obtain ⟨active, hactive⟩ := Option.isSome_iff_exists.mp hsome
  have hpause : ApprovalStep samplePlatform sampleRunId (.pause firstPause) runningDatabase
      pausedOnce := ⟨rfl, rfl⟩
  have hcoherent := approvals_coherent runningDatabase_neverPaused
    (.single (l := .pause firstPause) trivial hpause) hload hactive
  exact ⟨locked, active, hload, hactive, hcoherent.2.2.1 hstate⟩

/-- The note of a decision of the examples. -/
def sampleDecision : DecisionRequest := ⟨"", by decide⟩

/-- The paused run, after the endpoint rejected its approval. -/
def rejectedBehind : Database :=
  left (decidePersistedRequest sampleUser "approval" false sampleDecision (.utc 12) pausedOnce)

/-- The paused run, after the endpoint granted its approval. -/
def grantedBehind : Database :=
  left (decidePersistedRequest sampleUser "approval" true sampleDecision (.utc 12) pausedOnce)

/-- And after a scan resumed its step. -/
def resumedBehind : Database :=
  left (atomic (prepareApprovedPausesForReobservation none 100 fun _ => false) grantedBehind)

/-- A step whose only action is rejected has nothing to wait for. -/
theorem Database.only_rejected {db : Database} {x : GovernedPlanStepRef}
    (h : (db.pendingActionsOf x.nativeTaskId x.nativeStepId).map (·.status) = [.rejected]) :
    db.HasRejected x ∧ ¬ db.HasUnresolved x := by
  obtain ⟨m, hm, hstatus⟩ := List.map_eq_singleton_iff.mp h
  have hmem := List.mem_singleton_self m
  rw [← hm] at hmem
  obtain ⟨hrow, howns⟩ := Table.mem_select.mp hmem
  simp only [Bool.and_eq_true, decide_eq_true_eq] at howns
  refine ⟨⟨m, hrow, howns, .inl hstatus⟩, ?_⟩
  rintro ⟨m', hm', howns', hunresolved⟩
  have hmem' : m' ∈ db.pendingActionsOf x.nativeTaskId x.nativeStepId :=
    Table.mem_select.mpr ⟨hm', by simp [howns'.1, howns'.2]⟩
  rw [hm] at hmem'
  rw [List.mem_singleton.mp hmem', hstatus] at hunresolved
  simp at hunresolved

/-- A run is paused, and an approver rejects its approval through the endpoint.  The run could be
read before; now it is in a conflict, and the service refuses to reject it.  Or the approver grants
it, and a scan resumes the step, which no event of the journal does. -/
theorem decided_behind_journal :
    NeverPaused samplePlatform sampleRunId runningDatabase ∧
      (Reaches (ApprovalStep samplePlatform sampleRunId) always runningDatabase rejectedBehind ∧
        (∃ locked active,
          LoadedFrom samplePlatform rejectedBehind sampleUser.orgId sampleRunId locked ∧
          locked.checkpoint.activeStep = some active ∧
          locked.checkpoint.state = .approvalRequired ∧
          locked.latest.transition = .approvalRequired ∧
          rejectedBehind.HasRejected active ∧ ¬ rejectedBehind.HasUnresolved active) ∧
        sampleView (.utc 13) pausedOnce = some .awaitingApproval ∧
        sampleView (.utc 13) rejectedBehind = some .stateConflict ∧
        rejectAdmits samplePlatform (sampleEnvironment idleAdapter (.utc 13)) sampleUser sampleRunId
          rejectedBehind = .error (agentRunError "ILLEGAL_ACTION")) ∧
      Reaches (ApprovalStep samplePlatform sampleRunId) always runningDatabase resumedBehind ∧
        sampleView (.utc 13) resumedBehind = some .stateConflict ∧
        ∃ locked active,
          LoadedFrom samplePlatform resumedBehind sampleUser.orgId sampleRunId locked ∧
          locked.checkpoint.activeStep = some active ∧ resumedBehind.Resuming active ∧
          ¬ ResumedIn locked.events active := by
  have hran : (loadLocked samplePlatform rejectedBehind sampleUser sampleRunId).toOption.map
        (fun locked => (locked.checkpoint.state, locked.latest.transition,
          locked.checkpoint.activeStep.map fun a => (a.nativeTaskId, a.nativeStepId))) =
          some (.approvalRequired, .approvalRequired, some ("task", "step")) ∧
      (rejectedBehind.pendingActionsOf "task" "step").map (·.status) = [.rejected] ∧
      sampleView (.utc 13) pausedOnce = some .awaitingApproval ∧
      sampleView (.utc 13) rejectedBehind = some .stateConflict ∧
      (rejectAdmits samplePlatform (sampleEnvironment idleAdapter (.utc 13)) sampleUser sampleRunId
        rejectedBehind).map (fun _ => ()) = .error (agentRunError "ILLEGAL_ACTION") := by
    decide +kernel
  have hscanned : sampleView (.utc 13) resumedBehind = some .stateConflict ∧
      (loadLocked samplePlatform resumedBehind sampleUser sampleRunId).toOption.map
        (fun locked => (locked.checkpoint.activeStep.map fun a => (a.nativeTaskId, a.nativeStepId),
          locked.events.all (·.transition ≠ .approvalResumed))) =
          some (some ("task", "step"), true) ∧
      (resumedBehind.steps.find? "step").map (fun row => (row.taskId, row.status)) =
        some ("task", .resuming) := by decide +kernel
  obtain ⟨hseen, hactions, hbefore, hafter, hrefused⟩ := hran
  obtain ⟨hconflict, hseen', hstep⟩ := hscanned
  have hpause : ApprovalStep samplePlatform sampleRunId (.pause firstPause) runningDatabase
      pausedOnce := ⟨rfl, rfl⟩
  have hpaused : Reaches (ApprovalStep samplePlatform sampleRunId) always runningDatabase
      pausedOnce := .single (l := .pause firstPause) trivial hpause
  have hreject : ApprovalStep samplePlatform sampleRunId
      (.decide sampleUser "approval" false sampleDecision (.utc 12)) pausedOnce rejectedBehind := rfl
  have hgrant : ApprovalStep samplePlatform sampleRunId
      (.decide sampleUser "approval" true sampleDecision (.utc 12)) pausedOnce grantedBehind := rfl
  have hscan : ApprovalStep samplePlatform sampleRunId
      (.scan none 100 fun _ => false) grantedBehind resumedBehind := rfl
  refine ⟨runningDatabase_neverPaused, ⟨hpaused.tail trivial hreject, ?_, hbefore, hafter, ?_⟩,
    (hpaused.tail trivial hgrant).tail trivial hscan, hconflict, ?_⟩
  · obtain ⟨locked, hload, hsees⟩ := exists_loaded hseen
    simp only [Prod.mk.injEq] at hsees
    obtain ⟨hstate, hlatest, hnative⟩ := hsees
    obtain ⟨active, hactive, hids⟩ := Option.map_eq_some_iff.mp hnative
    obtain ⟨htaskId, hstepId⟩ := Prod.mk.inj hids
    rw [← htaskId, ← hstepId] at hactions
    exact ⟨locked, active, hload, hactive, hstate, hlatest, Database.only_rejected hactions⟩
  · cases hadmits : rejectAdmits samplePlatform (sampleEnvironment idleAdapter (.utc 13)) sampleUser
      sampleRunId rejectedBehind with
    | ok _ => rw [hadmits] at hrefused; cases hrefused
    | error e => rw [hadmits] at hrefused; cases hrefused; rfl
  · obtain ⟨locked, hload, hsees⟩ := exists_loaded hseen'
    obtain ⟨hnative, hevents⟩ := Prod.mk.inj hsees
    obtain ⟨active, hactive, hids⟩ := Option.map_eq_some_iff.mp hnative
    obtain ⟨htaskId, hstepId⟩ := Prod.mk.inj hids
    obtain ⟨row, hfind, hrow⟩ := Option.map_eq_some_iff.mp hstep
    obtain ⟨hrowTask, hstatus⟩ := Prod.mk.inj hrow
    refine ⟨locked, active, hload, hactive, ⟨row, hstepId ▸ hfind, hrowTask.trans htaskId.symm,
      hstatus⟩, ?_⟩
    rintro ⟨before, event, after, hsplit, ⟨hresumed, _⟩, _⟩
    have hmem : event ∈ locked.events := by rw [hsplit]; simp
    have hother := List.all_eq_true.mp hevents event hmem
    simp [hresumed] at hother

end Run

end AgentPact
