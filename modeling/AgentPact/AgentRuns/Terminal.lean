import AgentPact.Base.Lts
import AgentPact.AgentRuns.Service

/-!
# Finished runs

What a command can still do about a run that succeeded, was rejected or was
cancelled.

A finished run has no legal action, and its rows keep its approval from being
resumed.  So every command but one leaves the database as it found it
(`Finished.keeps`).  Recording a pause does not ask whether the run is finished.
A pause hides the end of the run from the projection, and may make a second
cancellation legal, which ends the journal for good.
-/

namespace AgentPact

open Base Transaction

/-! ## Views of finished runs -/

/-- The state a run ends in by a terminal transition. -/
def PlanJournalTransition.endState : PlanJournalTransition → Option AgentRunState
  | .planCompleted => some .succeeded
  | .approvalRejected => some .rejected
  | .runCancelled => some .cancelled
  | _ => none

/-- A view that offers nothing. -/
def RunView.Over (v : RunView) : Prop :=
  v.state ∈ [.succeeded, .rejected, .cancelled] ∧ v.legalActions = [] ∧ v.pauseSignal = none

/-- A guarded view that shows an end is the view behind the guard. -/
theorem RunView.orConflict_over {p : Bool} {view : RunView}
    (h : (RunView.orConflict p view).state ∈ [.succeeded, .rejected, .cancelled]) :
    RunView.orConflict p view = view := by
  rcases @RunView.orConflict_eq p view with ⟨_, hview⟩ | hconflict
  · exact hview
  · rw [hconflict] at h
    simp [RunView.stateConflict] at h

/-- A view of an active step that is over shows a rejected approval or canceled native rows. -/
theorem ViewedAs.over {state : PlanRunState} {latest : PlanJournalTransition}
    {active : GovernedPlanStepRef} {rows : ActiveRows} {view : RunView}
    (h : ViewedAs state latest active rows view)
    (hstate : view.state ∈ [.succeeded, .rejected, .cancelled]) :
    view.Over ∧
      (rows.approvalIs .rejected .rejected = true ∨ rows.nativeIs .canceled .canceled = true) := by
  cases h with
  | rejected _ _ _ happroval _ => exact ⟨⟨hstate, rfl, rfl⟩, .inl happroval⟩
  | cancelled _ _ hnative _ => exact ⟨⟨hstate, rfl, rfl⟩, .inr hnative⟩
  | _ => simp [RunView.stateConflict] at hstate

/-- A pause is no end. -/
theorem RunPauseSignal.view_state (signal : RunPauseSignal) :
    signal.view.state ∉ [.succeeded, .rejected, .cancelled] := by
  unfold RunPauseSignal.view
  cases signal.outcome <;> simp

/-- The run is over, and its approval cannot be resumed. -/
structure Finished (P : Platform) (runId : String) (db : Database) : Prop where
  ended : ∀ organizationId locked view, LoadedFrom P db organizationId runId locked →
    viewLocked P db locked = .ok view → view.Over
  spent : ∀ organizationId locked action approval task,
    LoadedFrom P db organizationId runId locked →
    db.pendingApproval locked.checkpoint = .ok (some (action, approval)) →
    approval.status = .approved → db.task? action.taskId organizationId = some task →
    task.status ≠ .pendingApproval

/-- A run that somebody sees at its end is finished. -/
theorem Finished.of_view {P : Platform} {organizationId runId : String} {db : Database}
    {locked : LockedRun} {view : RunView} (hload : LoadedFrom P db organizationId runId locked)
    (hview : viewLocked P db locked = .ok view)
    (hstate : view.state ∈ [.succeeded, .rejected, .cancelled]) : Finished P runId db := by
  have hpause :
      db.getPauseSignal locked.checkpoint.rootTaskId locked.root.organizationId = none := by
    cases hsignal : db.getPauseSignal locked.checkpoint.rootTaskId
        locked.root.organizationId with
    | none => rfl
    | some pause =>
        simp only [viewLocked, hsignal, Except.ok.injEq] at hview
        subst hview
        rw [RunView.orConflict_over hstate] at hstate
        exact absurd hstate pause.2.view_state
  rcases (viewLocked_of_no_pause hpause).mp hview with
    ⟨hactive, rfl⟩ | ⟨active, rows, hactive, hrows, rfl⟩
  · have hsame := RunView.orConflict_over hstate
    constructor
    · intro _ locked' view' hload' hview'
      rw [hload'.unique hload, hview] at hview'
      cases hview'
      rw [hsame]
      exact ⟨by simp, rfl, rfl⟩
    · intro _ locked' action approval _ hload' hpending
      rw [hload'.unique hload] at hpending
      obtain ⟨active, hactive', _⟩ := Database.pendingApproval_eq_some hpending
      rw [hactive] at hactive'
      cases hactive'
  · obtain ⟨hover, hspent⟩ := (viewActive_viewed _ _ active rows).over hstate
    obtain ⟨hnative, happroval, _, _⟩ := activeRows_eq_ok hrows
    constructor
    · intro _ locked' view' hload' hview'
      rw [hload'.unique hload, hview] at hview'
      cases hview'
      exact hover
    · intro organizationId' locked' action approval task hload' hpending happroved htask
      have hsame := hload'.unique hload
      rw [hsame] at hpending hload'
      rcases hspent with hrejected | hcanceled
      · -- a rejected approval is not an approved one
        rw [hpending] at happroval
        simp only [ActiveRows.approvalIs, ← Except.ok.inj happroval, Option.any_some,
          Bool.and_eq_true, decide_eq_true_eq] at hrejected
        rw [hrejected.2] at happroved
        cases happroved
      · -- a canceled task does not await an approval
        cases hn : rows.native with
        | none => simp [ActiveRows.nativeIs, hn] at hcanceled
        | some n =>
            rw [hn] at hnative
            obtain ⟨active', hactive', htaskId, _⟩ := Database.pendingApproval_eq_some hpending
            cases hactive.symm.trans hactive'
            have hfound := (getNativePair_eq_some.mp hnative).1
            rw [hload'.organization.1, ← htaskId, htask] at hfound
            cases hfound
            simp only [ActiveRows.nativeIs, hn, Option.any_some, Bool.and_eq_true,
              decide_eq_true_eq] at hcanceled
            rw [hcanceled.1]
            decide

/-! ## Commands on finished runs -/

/-- The pause that a command records: it passes its checks, and the run has none yet. -/
def RecordsPause (P : Platform) (runId : String) (db : Database) (call : ServiceCall) : Prop :=
  ∃ signal locked, call.command = .recordPauseSignal signal ∧
    pauseAdmits P call.user runId signal db = .ok locked ∧
    db.latestPause signal.runId call.user.orgId = none

/-- A pause that is not recorded changes nothing. -/
theorem recordPauseSignal_keeps {P : Platform} {E : Environment} {user : UserContext}
    {runId : String} {signal : RunPauseSignal} {db : Database}
    (h : ∀ locked, pauseAdmits P user runId signal db = .ok locked →
      db.latestPause signal.runId user.orgId ≠ none) :
    Keeps (recordPauseSignal P E user runId signal) db := by
  refine .bind (.query _) fun locked hlocked => .bind (.atomic fun _ t hsave => ?_) fun _ _ =>
    .query _
  have hexists := h locked (query_eq_ok.mp hlocked).1
  simp only [savePauseSignal, bind_eq_ok, read_eq_ok] at hsave
  obtain ⟨existing, _, ⟨hexisting, rfl⟩, hsave⟩ := hsave
  match existing with
  | none => exact absurd hexisting.symm hexists
  | some row => exact (require_eq_ok.mp hsave).2

/-- A command on a finished run that records no pause changes nothing. -/
theorem Finished.keeps {P : Platform} {runId : String} {db : Database} (h : Finished P runId db)
    {call : ServiceCall} (hcall : ¬ RecordsPause P runId db call) :
    Keeps (call.command.run P call.environment call.user runId) db := by
  cases hcommand : call.command with
  | recordPauseSignal signal =>
      exact recordPauseSignal_keeps fun locked hadmits hnone =>
        hcall ⟨signal, locked, hcommand, hadmits, hnone⟩
  | _ =>
      refine AgentRunCommand.run_keeps (by simp [AgentRunCommand.serves]) ?_ (h.spent _)
      intro locked p hlocked
      obtain ⟨hload, hproject⟩ := lockedProjection_eq_ok.mp hlocked
      obtain ⟨hstate, hlegal, hpause⟩ := h.ended _ _ _ hload (projectLocked_eq_ok hproject).1
      refine ⟨fun hawaiting => ?_, hlegal, hpause⟩
      rw [hawaiting] at hstate
      simp at hstate

/-- In a run of commands that record no pause, a finished run stays as it is: its journal gets
no event and still replays, and it is projected as before. -/
theorem finished_absorbing {P : Platform} {E : Environment} {viewer : UserContext}
    {runId : String} {db db' : Database} {restored : GovernedPlanCheckpoint}
    {p : AgentRunProjection}
    (hreplay : replayPlanJournal P (db.loadEvents runId) = .ok restored)
    (hget : getRun P E viewer runId db = .ok p)
    (hend : ∃ last, (db.loadEvents runId).getLast? = some last ∧
      last.transition.endState = some p.view.state)
    (hrun : Reaches (ServiceStep P runId) (fun db call => ¬ RecordsPause P runId db call) db db') :
    db'.loadEvents runId = db.loadEvents runId ∧
      replayPlanJournal P (db'.loadEvents runId) = .ok restored ∧
      getRun P E viewer runId db' = .ok p := by
  obtain ⟨locked, hload, hview⟩ := getRun_eq_ok hget
  obtain ⟨last, _, hend⟩ := hend
  have hstate : p.view.state ∈ [.succeeded, .rejected, .cancelled] := by
    cases htransition : last.transition <;> rw [htransition] at hend <;>
      simp [PlanJournalTransition.endState] at hend <;> simp [← hend]
  have hfinished : Finished P runId db := .of_view hload hview hstate
  have hsame : db' = db := by
    refine Reaches.invariant (I := (· = db)) ?_ hrun rfl
    rintro s call t hcall rfl hstep
    rw [hstep]
    exact hfinished.keeps hcall
  rw [hsame]
  exact ⟨rfl, hreplay, hget⟩

/-! ## A cancelled run -/

section Run

/-- A second cancellation of the run. -/
def cancelAgain : ServiceCall :=
  sampleCall idleAdapter (.utc 21) (.terminate .cancel ⟨"again", none⟩)

/-- The cancelled run is seen as one, and stays one when it is cancelled again. -/
theorem finished_absorbing_sample :
    ∃ p db', p.view.state = .cancelled ∧
      ServiceStep samplePlatform sampleRunId cancelAgain cancelledDatabase db' ∧
      getRun samplePlatform (sampleEnvironment idleAdapter (.utc 20)) sampleUser sampleRunId
        db' = .ok p := by
  have hran : (sampleView (.utc 20) cancelledDatabase).map (·.state) = some .cancelled ∧
      ((cancelledDatabase.loadEvents sampleRunId).getLast?.map (·.transition.endState) =
        some (some .cancelled)) ∧
      replayPlanJournal samplePlatform (cancelledDatabase.loadEvents sampleRunId) =
        .ok (lastCheckpoint cancelledDatabase) := by decide +kernel
  obtain ⟨hview, hend, hreplay⟩ := hran
  unfold sampleView at hview
  cases hget : getRun samplePlatform (sampleEnvironment idleAdapter (.utc 20)) sampleUser
      sampleRunId cancelledDatabase with
  | error e => rw [hget] at hview; cases hview
  | ok p =>
      rw [hget] at hview
      have hstate : p.view.state = .cancelled := Option.some.inj hview
      obtain ⟨last, hlast, hlastEnd⟩ := Option.map_eq_some_iff.mp hend
      have hquiet : ¬ RecordsPause samplePlatform sampleRunId cancelledDatabase cancelAgain := by
        rintro ⟨_, _, hcommand, _⟩
        cases hcommand
      have h := finished_absorbing hreplay hget ⟨last, hlast, by rw [hlastEnd, hstate]⟩
        (.single hquiet rfl)
      exact ⟨p, _, hstate, rfl, h.2.2⟩

/-- A pause for a human who may cancel. -/
def cancellablePause : RunPauseSignal where
  outcome := .needsHuman
  reasonCode := "NEEDS_HUMAN"
  runId := sampleRunId
  taskId := none
  stepId := none
  checkpointId := none
  inputRequest := none
  prompt := none
  allowedActions := [.cancel]
  resumePolicy := .manualReview
  externalEffectStarted := false
  expiresAt := none
  valid := by constructor <;> simp

/-- The cancelled run, paused. -/
def pausedDatabase : Database :=
  afterCall (sampleCall idleAdapter (.utc 20) (.recordPauseSignal cancellablePause))
    cancelledDatabase

/-- A pause of a cancelled run makes it cancellable again, and then its journal replays no
more. -/
theorem pause_reopens_cancelled :
    (sampleView (.utc 20) cancelledDatabase).map (·.state) = some .cancelled ∧
      (sampleView (.utc 20) pausedDatabase).map (·.state) = some .needsHuman ∧
      Reaches (ServiceStep samplePlatform sampleRunId) always cancelledDatabase
        (afterCall cancelAgain pausedDatabase) ∧
      (cancelledDatabase.loadEvents sampleRunId).length = 2 ∧
      ((afterCall cancelAgain pausedDatabase).loadEvents sampleRunId).length = 3 ∧
      (replayPlanJournal samplePlatform
        ((afterCall cancelAgain pausedDatabase).loadEvents sampleRunId)).toOption = none ∧
      sampleView (.utc 20) (afterCall cancelAgain pausedDatabase) = none := by
  have hrun : Reaches (ServiceStep samplePlatform sampleRunId) always cancelledDatabase
      (afterCall cancelAgain pausedDatabase) :=
    .trans (.single (l := sampleCall idleAdapter (.utc 20) (.recordPauseSignal cancellablePause))
      trivial rfl) (.single (l := cancelAgain) trivial rfl)
  have hran : (sampleView (.utc 20) cancelledDatabase).map (·.state) = some .cancelled ∧
      (sampleView (.utc 20) pausedDatabase).map (·.state) = some .needsHuman ∧
      (cancelledDatabase.loadEvents sampleRunId).length = 2 ∧
      ((afterCall cancelAgain pausedDatabase).loadEvents sampleRunId).length = 3 ∧
      (replayPlanJournal samplePlatform
        ((afterCall cancelAgain pausedDatabase).loadEvents sampleRunId)).toOption = none ∧
      sampleView (.utc 20) (afterCall cancelAgain pausedDatabase) = none := by decide +kernel
  exact ⟨hran.1, hran.2.1, hrun, hran.2.2⟩

end Run

end AgentPact
