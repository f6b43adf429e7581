import AgentPact.AgentRuns.ApprovalPauses
import AgentPact.AgentRuns.Frames

/-!
# Rounds of approval

Whether a run whose pause was committed can be decided.

The pause leaves its pending action beside those of earlier rounds, and appends
to the journal without comparing its clock.  The projection wants exactly one
pending action, no permit, and a journal that replays.  `pause_decidable_iff`
says what the pause must have found for both to hold.
-/

namespace AgentPact

open Base Transaction

/-! ## Awaiting an approval -/

/-- The view of a run that awaits its approval. -/
def RunView.awaitingApproval : RunView := ⟨.awaitingApproval, [.approve, .reject], none, none⟩

/-- A run awaits its approval when its journal says so, and the rows around its step agree. -/
theorem LoadedFrom.awaiting_iff {P : Platform} {db : Database} {organizationId runId : String}
    {locked : LockedRun} (hload : LoadedFrom P db organizationId runId locked) :
    viewLocked P db locked = .ok .awaitingApproval ↔
      db.getPauseSignal locked.checkpoint.rootTaskId organizationId = none ∧
        locked.checkpoint.state = .approvalRequired ∧
        ∃ active rows, locked.checkpoint.activeStep = some active ∧
          db.activeRows locked.checkpoint active organizationId = .ok rows ∧
          rows.nativeIs .pendingApproval .pendingApproval = true ∧
          rows.approvalIs .pending .pending = true ∧ rows.attempts = [] ∧ rows.permits = [] := by
  rw [← hload.organization.1]
  constructor
  · intro h
    have hviewed := viewLocked_viewed h
    generalize hview : RunView.awaitingApproval = view at hviewed
    cases hviewed with
    | conflict => cases hview
    | @paused signal _ _ =>
        have hsignal : (none : Option RunPauseSignal) = some signal := congrArg (·.pauseSignal) hview
        cases hsignal
    | succeeded _ _ _ => cases hview
    | active hpause hactive hrows hviewed =>
        cases hviewed with
        | awaiting hstate hnative happroval hattempts hpermits =>
            exact ⟨hpause, hstate, _, _, hactive, hrows, hnative, happroval, hattempts, hpermits⟩
        | _ => cases hview
  · rintro ⟨hpause, hstate, active, rows, hactive, hrows, hnative, happroval, hattempts, hpermits⟩
    refine (viewLocked_of_no_pause hpause).mpr (.inr ⟨active, rows, hactive, hrows, ?_⟩)
    -- the last event led to this state, so it ended nothing
    have hlatest := replayed_state hload.latest hload.replay
    rw [hstate] at hlatest ⊢
    generalize locked.latest.transition = transition at hlatest ⊢
    have htransition : transition = .approvalRequired := by
      cases transition <;> simp [PlanJournalTransition.expectedStates] at hlatest
      rfl
    rw [htransition]
    simp [viewActive, hnative, happroval, hattempts, hpermits, RunView.awaitingApproval]

/-- Reading a run is loading it and projecting it. -/
theorem getRun_view_iff {P : Platform} {E : Environment} {user : UserContext} {runId : String}
    {db : Database} {view : RunView} :
    (∃ p, getRun P E user runId db = .ok p ∧ p.view = view) ↔
      ∃ locked, LoadedFrom P db user.orgId runId locked ∧
        ∃ p, projectLocked P E db locked = .ok p ∧ p.view = view := by
  simp only [getRun, except_bind_eq_ok, loadLocked_eq_ok]
  constructor
  · rintro ⟨p, ⟨locked, hload, hp⟩, hview⟩
    exact ⟨locked, hload, p, hp, hview⟩
  · rintro ⟨locked, hload, p, hp, hview⟩
    exact ⟨p, ⟨locked, hload, hp⟩, hview⟩

/-- The registry has the public names of the Pack of a run. -/
def PackRuntimeRegistry.Names (registry : PackRuntimeRegistry) (bundle : TaskAdmissionBundle) :
    Prop :=
  ∃ binding metadata, bundle.runtimeBinding = some binding ∧
    registry.metadata bundle binding = .ok metadata

/-- What a run with an active step projects to, if the registry has its names. -/
theorem projectLocked_view_iff {P : Platform} {E : Environment} {db : Database}
    {locked : LockedRun} {active : GovernedPlanStepRef} {view : RunView}
    (hactive : locked.checkpoint.activeStep = some active) :
    (∃ p, projectLocked P E db locked = .ok p ∧ p.view = view) ↔
      viewLocked P db locked = .ok view ∧ E.registry.Names locked.bundle := by
  have hplan : 1 ≤ (publicPlan locked.checkpoint).length := by
    simp only [publicPlan, hactive, List.length_mapIdx, List.length_append]
    simp
    omega
  constructor
  · rintro ⟨p, hp, rfl⟩
    obtain ⟨hview, hprojection⟩ := projectLocked_eq_ok hp
    simp only [projection, except_bind_eq_ok] at hprojection
    obtain ⟨binding, hbinding, metadata, hmetadata, _⟩ := hprojection
    exact ⟨hview, binding, metadata, orAgentRunError_eq_ok.mp hbinding, hmetadata⟩
  · rintro ⟨hview, binding, metadata, hbinding, hmetadata⟩
    refine ⟨⟨locked.checkpoint.rootTaskId, metadata.packId, metadata.packVersion,
      metadata.displayName, locked.bundle.providerMode, publicPlan locked.checkpoint,
      locked.checkpoint.completedPrefix.length, (publicPlan locked.checkpoint).length, view, hplan⟩,
      except_bind_eq_ok.mpr ⟨view, hview, ?_⟩, rfl⟩
    refine except_bind_eq_ok.mpr ⟨binding, orAgentRunError_eq_ok.mpr hbinding, ?_⟩
    refine except_bind_eq_ok.mpr ⟨metadata, hmetadata, ?_⟩
    rw [dif_pos hplan]
    rfl

/-! ## What a pause leaves -/

/-- A paused step awaits its approval if the pause was its first, and nothing was executed. -/
theorem PausedStep.awaits_iff {pause : ApprovalPauseRequest} {s u : Database}
    {row : PendingActionModel} {checkpoint : GovernedPlanCheckpoint}
    {active : GovernedPlanStepRef} (h : PausedStep pause s u row)
    (hactive : checkpoint.activeStep = some active)
    (hstep : pause.taskId = active.nativeTaskId ∧ pause.stepId = active.nativeStepId) :
    (∃ rows, u.activeRows checkpoint active pause.organizationId = .ok rows ∧
        rows.nativeIs .pendingApproval .pendingApproval = true ∧
        rows.approvalIs .pending .pending = true ∧ rows.attempts = [] ∧ rows.permits = []) ↔
      s.pendingActionsOf active.nativeTaskId active.nativeStepId = [] ∧
        s.attemptsOf active.nativeTaskId = [] ∧ s.permitsOf active.nativeTaskId = [] := by
  obtain ⟨htask, hstepId⟩ := hstep
  have hactions : u.pendingActions.select (fun m =>
      m.taskId = active.nativeTaskId && m.stepId = active.nativeStepId) =
        s.pendingActionsOf active.nativeTaskId active.nativeStepId ++ [row] := by
    have hrow : (row.taskId = active.nativeTaskId && row.stepId = active.nativeStepId) = true := by
      simp [h.adds.taskId, h.adds.stepId, htask, hstepId]
    unfold Database.pendingActionsOf Table.select
    rw [h.pendingActions, List.filter_append, List.filter_singleton, hrow]
    rfl
  have hattempts : u.attemptsOf active.nativeTaskId = s.attemptsOf active.nativeTaskId := by
    rw [h.same]
    rfl
  have hpermits : u.permitsOf active.nativeTaskId = s.permitsOf active.nativeTaskId := by
    rw [h.same]
    rfl
  constructor
  · rintro ⟨rows, hrows, _, happroval, hnone, hnone'⟩
    obtain ⟨_, hpending, hrowAttempts, hrowPermits⟩ := activeRows_eq_ok hrows
    obtain ⟨⟨action, approval⟩, hsome, _⟩ := ActiveRows.approvalIs_eq_true.mp happroval
    rw [hsome] at hpending
    obtain ⟨active', hactive', hselect, _⟩ := Database.pendingApproval_rows.mp hpending
    cases hactive.symm.trans hactive'
    rw [hactions] at hselect
    refine ⟨?_, by rw [← hattempts, ← hrowAttempts, hnone], by rw [← hpermits, ← hrowPermits, hnone']⟩
    have hlength := congrArg List.length hselect
    simp only [List.length_append, List.length_singleton] at hlength
    exact List.length_eq_zero_iff.mp (by omega)
  · rintro ⟨hfirst, hnone, hnone'⟩
    obtain ⟨task, step, htaskRow, _, hstepRow, _⟩ := h.running
    rw [htask] at htaskRow hstepRow
    rw [hstepId] at hstepRow
    have hnative : u.getNativePair active.nativeTaskId active.nativeStepId pause.organizationId =
        .ok (some ({ task with status := .pendingApproval },
          { step with status := .pendingApproval })) := by
      rw [h.same, htask, hstepId]
      refine getNativePair_eq_some.mpr ⟨?_, ?_⟩
      · show (s.setNativeStatus active.nativeTaskId active.nativeStepId .pendingApproval
          .pendingApproval).task? active.nativeTaskId pause.organizationId = _
        exact Database.task?_setNativeStatus htaskRow
      · show (s.setNativeStatus active.nativeTaskId active.nativeStepId .pendingApproval
          .pendingApproval).step? active.nativeStepId active.nativeTaskId pause.organizationId = _
        exact Database.step?_setNativeStatus hstepRow
    have hpending : u.pendingApproval checkpoint = .ok (some (row, pause.approval)) := by
      refine Database.pendingApproval_rows.mpr ⟨active, hactive, by rw [hactions, hfirst]; rfl,
        pause.approvalId, h.adds.approvalId, h.approvalId, Table.find?_insert?_self h.approvals,
        ?_, ?_⟩
      · exact h.adds.taskId.symm
      · exact h.adds.organizationId.symm
    have hrows : u.activeRows checkpoint active pause.organizationId =
        .ok ⟨some ({ task with status := .pendingApproval },
          { step with status := .pendingApproval }), some (row, pause.approval),
          u.attemptsOf active.nativeTaskId, u.permitsOf active.nativeTaskId⟩ :=
      except_bind_eq_ok.mpr ⟨_, mapError_eq_ok.mpr hnative,
        except_bind_eq_ok.mpr ⟨_, hpending, rfl⟩⟩
    exact ⟨_, hrows, rfl, ActiveRows.approvalIs_eq_true.mpr ⟨_, rfl, h.adds.status, rfl⟩,
      hattempts.trans hnone, hpermits.trans hnone'⟩

/-! ## Deciding a pause -/

/-- What a pause must find for its run to await a decision. -/
structure PauseShows (P : Platform) (E : Environment) (r : RunApprovalPause) (db : Database)
    (locked : LockedRun) (active : GovernedPlanStepRef) : Prop where
  loaded : LoadedFrom P db r.prepared.tenantId r.prepared.runId locked
  activeStep : locked.checkpoint.activeStep = some active
  named : E.registry.Names locked.bundle
  /-- Nobody waits for input or for a human. -/
  unpaused : db.getPauseSignal locked.checkpoint.rootTaskId r.prepared.tenantId = none
  /-- The step was never paused for an approval. -/
  first : db.pendingActionsOf active.nativeTaskId active.nativeStepId = []
  unexecuted : db.attemptsOf active.nativeTaskId = [] ∧ db.permitsOf active.nativeTaskId = []
  /-- The journal takes the event, or it is filed under another run and awaits an approval already. -/
  journal : (locked.checkpoint.rootTaskId = r.prepared.runId ∧
      locked.latest.transition.terminal = false ∧
      r.appendedAt.lt locked.latest.createdAt = .ok false) ∨
    (locked.checkpoint.rootTaskId ≠ r.prepared.runId ∧ locked.checkpoint.state = .approvalRequired)

section Pause

variable {P : Platform} {E : Environment} {r : RunApprovalPause} {s u t : Database}
  {root : TaskModel} {bundle : TaskAdmissionBundle} {current : GovernedPlanCheckpoint}
  {latest : PlanJournalEvent} {active : GovernedPlanStepRef} {pause : ApprovalPauseRequest}
  {row : PendingActionModel} {c : GovernedPlanCheckpoint}

/-- The run that a pause found. -/
theorem PausedRun.loaded_iff
    (h : PausedRun P r s u t root bundle current latest active pause row c) {locked : LockedRun} :
    LoadedFrom P s r.prepared.tenantId r.prepared.runId locked ↔
      (root.taskId = derivePackRunId P r.prepared.tenantId bundle.requestId ∧
        bundle.taskId = derivePackRunId P r.prepared.tenantId bundle.requestId) ∧
      locked = ⟨root, bundle, current, s.loadEvents r.prepared.runId, latest⟩ := by
  constructor
  · intro hload
    have hroot := Option.some.inj (hload.root.symm.trans h.getRoot)
    have hbundle := Option.some.inj (hload.admission.symm.trans h.admission)
    have hcheckpoint := Except.ok.inj (hload.replay.symm.trans h.replay)
    have hlatest := Option.some.inj (hload.latest.symm.trans h.getLast)
    have hidentity := hload.identity
    rw [hroot, hbundle] at hidentity
    refine ⟨hidentity, ?_⟩
    rw [← hroot, ← hbundle, ← hcheckpoint, ← hlatest, ← hload.events]
  · rintro ⟨hidentity, rfl⟩
    exact ⟨h.getRoot, h.marker, h.admission, hidentity, rfl, h.replay, h.getLast⟩

/-- It changes no journal before it appends. -/
theorem PausedRun.sameRuns
    (h : PausedRun P r s u t root bundle current latest active pause row c) : s.SameRuns u := by
  rw [h.paused.same]
  exact ⟨rfl, rfl, .update SameTask.refl fun _ _ => rfl⟩

/-- A run with this active step awaits a decision after the pause, if the journal says so and the
pause found no trace of an earlier round. -/
theorem PausedRun.awaits_iff
    (h : PausedRun P r s u t root bundle current latest active pause row c) {locked : LockedRun}
    (hload : LoadedFrom P t r.prepared.tenantId r.prepared.runId locked)
    (hactive : locked.checkpoint.activeStep = some active) :
    viewLocked P t locked = .ok .awaitingApproval ↔
      s.getPauseSignal locked.checkpoint.rootTaskId r.prepared.tenantId = none ∧
        locked.checkpoint.state = .approvalRequired ∧
        s.pendingActionsOf active.nativeTaskId active.nativeStepId = [] ∧
        s.attemptsOf active.nativeTaskId = [] ∧ s.permitsOf active.nativeTaskId = [] := by
  have hrows : t.activeRows locked.checkpoint active r.prepared.tenantId =
      u.activeRows locked.checkpoint active pause.organizationId := by
    rw [appendAgentRunTransition_frame h.appended, h.organizationId]
    rfl
  rw [hload.awaiting_iff, appendAgentRunTransition_getPauseSignal h.appended,
    h.sameRuns.getPauseSignal, ← h.paused.awaits_iff hactive h.step]
  refine and_congr_right fun _ => and_congr_right fun _ => ?_
  simp only [hactive, Option.some.injEq, exists_and_left, exists_eq_left', hrows]

/-- The state of a run that loads after the pause. -/
theorem PausedRun.loads
    (h : PausedRun P r s u t root bundle current latest active pause row c) {root' : TaskModel}
    {locked' : LockedRun} (hload : LoadedFrom P u r.prepared.tenantId r.prepared.runId
      ⟨root', bundle, current, s.loadEvents r.prepared.runId, latest⟩)
    (hload' : LoadedFrom P t r.prepared.tenantId r.prepared.runId locked') :
    locked'.bundle = bundle ∧ locked'.checkpoint.activeStep = some active ∧
      locked'.checkpoint.rootTaskId = current.rootTaskId ∧
      ((current.rootTaskId = r.prepared.runId ∧ latest.transition.terminal = false ∧
          r.appendedAt.lt latest.createdAt = .ok false ∧
          locked'.checkpoint.state = .approvalRequired) ∨
        (current.rootTaskId ≠ r.prepared.runId ∧ locked'.checkpoint.state = current.state)) := by
  by_cases hown : current.rootTaskId = r.prepared.runId
  · obtain ⟨hextends, rfl⟩ := (hload.appended_iff h.appended ⟨rfl, rfl⟩ hown).mp hload'
    exact ⟨rfl, h.activeStep, rfl, .inl ⟨hown, hextends.open_, hextends.timely, rfl⟩⟩
  · rw [hload'.unique (hload.appended_other h.appended hown)]
    exact ⟨rfl, h.activeStep, rfl, .inr ⟨hown, rfl⟩⟩

/-- A run that the pause leaves readable. -/
theorem PausedRun.exists_loaded
    (h : PausedRun P r s u t root bundle current latest active pause row c) {root' : TaskModel}
    (hload : LoadedFrom P u r.prepared.tenantId r.prepared.runId
      ⟨root', bundle, current, s.loadEvents r.prepared.runId, latest⟩)
    (hopen : current.rootTaskId = r.prepared.runId → latest.transition.terminal = false ∧
      r.appendedAt.lt latest.createdAt = .ok false) :
    ∃ locked', LoadedFrom P t r.prepared.tenantId r.prepared.runId locked' := by
  by_cases hown : current.rootTaskId = r.prepared.runId
  · obtain ⟨hopen, htimely⟩ := hopen hown
    have hfits : TransitionFits .approvalRequired { current with state := .approvalRequired } :=
      ⟨by simp [PlanJournalTransition.expectedStates], nofun,
        fun _ => Option.isSome_iff_exists.mpr ⟨active, h.activeStep⟩⟩
    exact ⟨_, (hload.appended_iff h.appended ⟨rfl, rfl⟩ hown).mpr
      ⟨.of_replay h.getLast h.replay rfl rfl rfl rfl hopen htimely hfits, rfl⟩⟩
  · exact ⟨_, hload.appended_other h.appended hown⟩

/-- A run that can be read after the pause could be read before it. -/
theorem PausedRun.loaded_before
    (h : PausedRun P r s u t root bundle current latest active pause row c) {locked' : LockedRun}
    (hload' : LoadedFrom P t r.prepared.tenantId r.prepared.runId locked') :
    LoadedFrom P s r.prepared.tenantId r.prepared.runId
      ⟨root, bundle, current, s.loadEvents r.prepared.runId, latest⟩ := by
  refine h.loaded_iff.mpr ⟨?_, rfl⟩
  have hbundle : locked'.bundle = bundle := by
    have hadmission := hload'.admission
    unfold Database.admissionOf at hadmission
    rw [appendAgentRunTransition_frame h.appended, h.sameRuns.admissions] at hadmission
    exact Option.some.inj (hadmission.symm.trans h.admission)
  have hroot : root.taskId = r.prepared.runId :=
    Table.key_of_find? (Option.filter_eq_some_iff.mp h.getRoot).1
  have hidentity := hload'.identity
  rwa [hload'.organization.2, hbundle, ← hroot] at hidentity

/-- After a pause that was committed, whoever reads the run may approve or reject it exactly when
the pause found what it must. -/
theorem pause_decidable_iff {user : UserContext} {db : Database}
    (hpause : pauseRunForApproval P r db = .ok c t) (huser : user.orgId = r.prepared.tenantId) :
    (∃ p, getRun P E user r.prepared.runId t = .ok p ∧ p.view = .awaitingApproval) ↔
      ∃ locked active, PauseShows P E r db locked active := by
  obtain ⟨u, root, bundle, current, latest, active, pause, row, h⟩ :=
    pauseRunForApproval_eq_ok hpause
  rw [getRun_view_iff, huser]
  constructor
  · rintro ⟨locked', hload', hprojected⟩
    have hload := h.loaded_before hload'
    obtain ⟨_, _, hloadu⟩ := h.sameRuns.loaded hload
    obtain ⟨hbundle, hactive, hroot, hjournal⟩ := h.loads hloadu hload'
    obtain ⟨hview, hnamed⟩ := (projectLocked_view_iff hactive).mp hprojected
    obtain ⟨hunpaused, hstate, hfirst, hunexecuted⟩ := (h.awaits_iff hload' hactive).mp hview
    rw [hroot] at hunpaused
    rw [hbundle] at hnamed
    refine ⟨_, active, hload, h.activeStep, hnamed, hunpaused, hfirst, hunexecuted, ?_⟩
    rcases hjournal with ⟨hown, hopen, htimely, _⟩ | ⟨hother, hsame⟩
    · exact .inl ⟨hown, hopen, htimely⟩
    · exact .inr ⟨hother, hsame.symm.trans hstate⟩
  · rintro ⟨locked, active', hshows⟩
    obtain ⟨_, rfl⟩ := h.loaded_iff.mp hshows.loaded
    cases h.activeStep.symm.trans hshows.activeStep
    obtain ⟨_, _, hloadu⟩ := h.sameRuns.loaded hshows.loaded
    obtain ⟨locked', hload'⟩ := h.exists_loaded hloadu fun hown =>
      (hshows.journal.resolve_right fun hother => hother.1 hown).2
    obtain ⟨hbundle, hactive, hroot, hjournal⟩ := h.loads hloadu hload'
    refine ⟨locked', hload', (projectLocked_view_iff hactive).mpr ⟨?_, hbundle ▸ hshows.named⟩⟩
    refine (h.awaits_iff hload' hactive).mpr ⟨hroot ▸ hshows.unpaused, ?_, hshows.first,
      hshows.unexecuted⟩
    rcases hjournal with ⟨_, _, _, hstate⟩ | ⟨hother, hsame⟩
    · exact hstate
    · exact hsame.trans (hshows.journal.resolve_left fun hown => hother hown.1).2

end Pause

/-! ## Two rounds -/

section Run

/-- A pause of the step of the examples. -/
def samplePause (pendingActionId approvalId operationKey : String) (now : DateTime) :
    RunApprovalPause where
  prepared := ⟨sampleRunId, "org", "request", "pack", "1", "adapter", some "admission",
    some "authority", "recorded", []⟩
  specification := ⟨"task", "step", "contract", "org", "intent", "observation", "dept:approver",
    "dept", .high, "external_write", .utc (1000 * DateTime.second),
    some ⟨"decision", "intent", .requireApproval, .high, [], [], "1"⟩⟩
  operationKey := operationKey
  pendingActionId := pendingActionId
  approvalId := approvalId
  ttlReadAt := now
  createdAt := now
  attachedAt := now
  appendedAt := now

/-- The run, with its step running. -/
def runningDatabase : Database :=
  admittedDatabase.setNativeStatus "task" "step" .running .running

/-- The first pause. -/
def firstPause : RunApprovalPause := samplePause "action" "approval" "pause" (.utc 11)

/-- The run after it. -/
def pausedOnce : Database := left (pauseRunForApproval samplePlatform firstPause runningDatabase)

/-- The approval was granted, and the step is running again. -/
def runningAgain : Database :=
  (afterCall (sampleCall idleAdapter (.utc 12) (.approve ⟨"approve", none⟩))
    pausedOnce).setNativeStatus "task" "step" .running .running

/-- The second pause. -/
def secondPause : RunApprovalPause := samplePause "again" "approval-2" "pause-2" (.utc 13)

/-- The run after it. -/
def pausedTwice : Database := left (pauseRunForApproval samplePlatform secondPause runningAgain)

/-- The first pause can be decided: it found no trace of an earlier one. -/
theorem pause_decidable_iff_sample :
    ∃ locked active, PauseShows samplePlatform (sampleEnvironment idleAdapter (.utc 14)) firstPause
      runningDatabase locked active := by
  have hran : returned (pauseRunForApproval samplePlatform firstPause runningDatabase) = true ∧
      sampleView (.utc 14) pausedOnce = some .awaitingApproval := by decide +kernel
  obtain ⟨c, hpause⟩ := exists_of_returned hran.1
  exact (pause_decidable_iff hpause rfl).mp (sampleView_eq_some.mp hran.2)

/-- A run is paused, approved, and paused again once its step is running.  The second pause is
committed, and then the run cannot be read. -/
theorem second_pause_conflicts :
    (∃ c, pauseRunForApproval samplePlatform firstPause runningDatabase = .ok c pausedOnce) ∧
      sampleView (.utc 14) pausedOnce = some .awaitingApproval ∧
      (runningAgain.pendingActionsOf "task" "step").map (·.status) = [.invalidated] ∧
      (∃ c, pauseRunForApproval samplePlatform secondPause runningAgain = .ok c pausedTwice) ∧
      getRun samplePlatform (sampleEnvironment idleAdapter (.utc 14)) sampleUser sampleRunId
        pausedTwice = .error (agentRunError "STATE_CONFLICT") := by
  have hran : returned (pauseRunForApproval samplePlatform firstPause runningDatabase) = true ∧
      sampleView (.utc 14) pausedOnce = some .awaitingApproval ∧
      (runningAgain.pendingActionsOf "task" "step").map (·.status) = [.invalidated] ∧
      returned (pauseRunForApproval samplePlatform secondPause runningAgain) = true ∧
      getRun samplePlatform (sampleEnvironment idleAdapter (.utc 14)) sampleUser sampleRunId
        pausedTwice = .error (agentRunError "STATE_CONFLICT") := by decide +kernel
  obtain ⟨hfirst, hview, hinvalidated, hsecond, hconflict⟩ := hran
  exact ⟨exists_of_returned hfirst, hview, hinvalidated, exists_of_returned hsecond, hconflict⟩

end Run

end AgentPact
