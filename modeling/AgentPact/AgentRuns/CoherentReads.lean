import AgentPact.AgentRuns.CoherentRuns

/-!
# Reading a run between decisions

A decision that is taken behind the service changes what a reader sees of a run,
but it makes no conflict.  The view of a run looks at the statuses of its
approval only, and a granted approval that nobody has used yet is a view of its
own.
-/

namespace AgentPact

open Base Transaction

/-! ## Approvals that move -/

/-- The approval of a step keeps its statuses, or is granted. -/
def ApprovalMoves (a b : Option (PendingActionModel × ApprovalRequestModel)) : Prop :=
  (a = none ∧ b = none) ∨ ∃ x y, a = some x ∧ b = some y ∧
    ((y.1.status = x.1.status ∧ y.2.status = x.2.status) ∨
      (x.1.status = .pending ∧ y.1.status = .approved))

theorem ApprovalMoves.refl (a : Option (PendingActionModel × ApprovalRequestModel)) :
    ApprovalMoves a a := by
  cases a with
  | none => exact .inl ⟨rfl, rfl⟩
  | some x => exact .inr ⟨x, x, rfl, rfl, .inl ⟨rfl, rfl⟩⟩

/-- A granted approval that nobody has used yet is no conflict, where there was none before. -/
theorem viewActive_granted {state : PlanRunState} {latest : PlanJournalTransition}
    {active : GovernedPlanStepRef} {native : Option (TaskModel × StepModel)}
    {x y : PendingActionModel × ApprovalRequestModel} {attempts : List ExecutionAttemptModel}
    {permits : List ExecutionPermitModel} (hpending : x.1.status = .pending)
    (hgranted : y.1.status = .approved)
    (h : viewActive state latest active ⟨native, some x, attempts, permits⟩ ≠ .stateConflict) :
    viewActive state latest active ⟨native, some y, attempts, permits⟩ ≠ .stateConflict := by
  unfold viewActive at h ⊢
  split at h
  case isTrue hblocked =>
    rw [if_pos hblocked]
    exact h
  case isFalse hblocked =>
  rw [if_neg hblocked]
  split at h
  case isTrue =>
    -- the approval of a rejected step is not pending
    simp [ActiveRows.approvalIs, hpending, RunView.orConflict] at h
  case isFalse hrejected =>
  rw [if_neg hrejected]
  split at h
  case isTrue hcancelled =>
    rw [if_pos hcancelled]
    exact h
  case isFalse hcancelled =>
  rw [if_neg hcancelled]
  split at h
  case isTrue hrequired =>
    rw [if_pos hrequired]
    simp [ActiveRows.approvalIs, hgranted, RunView.orConflict, RunView.stateConflict]
  case isFalse hrequired =>
  rw [if_neg hrequired]
  exact h

/-- A view that is no conflict stays none when the approval moves. -/
theorem viewActive_moves {state : PlanRunState} {latest : PlanJournalTransition}
    {active : GovernedPlanStepRef} {rows : ActiveRows}
    {approval : Option (PendingActionModel × ApprovalRequestModel)}
    (hmoves : ApprovalMoves rows.approval approval)
    (h : viewActive state latest active rows ≠ .stateConflict) :
    viewActive state latest active { rows with approval := approval } ≠ .stateConflict := by
  obtain ⟨native, before, attempts, permits⟩ := rows
  rcases hmoves with ⟨hbefore, hafter⟩ | ⟨x, y, hbefore, hafter, hstatus⟩
  · dsimp only at hbefore
    rw [hafter, ← hbefore]
    exact h
  dsimp only at hbefore
  subst hbefore hafter
  rcases hstatus with ⟨haction, hrequest⟩ | ⟨hpending, hgranted⟩
  · have hsame : viewActive state latest active ⟨native, some y, attempts, permits⟩ =
        viewActive state latest active ⟨native, some x, attempts, permits⟩ := by
      simp [viewActive, ActiveRows.approvalIs, haction, hrequest, ActiveRows.nativeIs,
        ActiveRows.blocked, ActiveRows.started, ActiveRows.runnable]
    rw [hsame]
    exact h
  · exact viewActive_granted hpending hgranted h

/-! ## Reading on -/

/-- Whoever reads the run after `s` reads it after `t`, and no conflict that was not there. -/
def ReadsOn (P : Platform) (organizationId runId : String) (s t : Database) : Prop :=
  ∀ locked, LoadedFrom P s organizationId runId locked →
    ∃ root, LoadedFrom P t organizationId runId { locked with root := root } ∧
      ∀ view, viewLocked P s locked = .ok view →
        ∃ view', viewLocked P t { locked with root := root } = .ok view' ∧
          (view ≠ .stateConflict → view' ≠ .stateConflict)

namespace ReadsOn

variable {P : Platform} {organizationId runId : String} {s t u : Database}

theorem refl (s : Database) : ReadsOn P organizationId runId s s :=
  fun locked hload => ⟨locked.root, hload, fun view hview => ⟨view, hview, id⟩⟩

theorem trans (h : ReadsOn P organizationId runId s t) (h' : ReadsOn P organizationId runId t u) :
    ReadsOn P organizationId runId s u := by
  intro locked hload
  obtain ⟨root, hload', hviews⟩ := h locked hload
  obtain ⟨root', hload'', hviews'⟩ := h' _ hload'
  refine ⟨root', hload'', fun view hview => ?_⟩
  obtain ⟨view', hview', hkeeps⟩ := hviews view hview
  obtain ⟨view'', hview'', hkeeps'⟩ := hviews' view' hview'
  exact ⟨view'', hview'', hkeeps' ∘ hkeeps⟩

/-- A run reads on if only the approval of its active step moves. -/
theorem of_rows (hruns : s.SameRuns t)
    (h : ∀ locked, LoadedFrom P s organizationId runId locked →
      ∀ active, locked.checkpoint.activeStep = some active →
        ∀ rows, s.activeRows locked.checkpoint active organizationId = .ok rows →
          ∃ approval, ApprovalMoves rows.approval approval ∧
            t.activeRows locked.checkpoint active organizationId =
              .ok { rows with approval := approval }) : ReadsOn P organizationId runId s t := by
  intro locked hload
  obtain ⟨root, _, hload'⟩ := hruns.loaded hload
  refine ⟨root, hload', fun view hview => ?_⟩
  have horg := hload.organization.1
  have horg' : root.organizationId = organizationId := hload'.organization.1
  cases hpause : s.getPauseSignal locked.checkpoint.rootTaskId organizationId with
  | some pause =>
      have hpause' : t.getPauseSignal locked.checkpoint.rootTaskId organizationId = some pause :=
        (hruns.getPauseSignal ..).trans hpause
      refine ⟨view, ?_, id⟩
      simp only [viewLocked, horg, hpause] at hview
      simp only [viewLocked, horg', hpause']
      exact hview
  | none =>
      have hpause' : t.getPauseSignal locked.checkpoint.rootTaskId organizationId = none :=
        (hruns.getPauseSignal ..).trans hpause
      rcases (viewLocked_of_no_pause (by rw [horg]; exact hpause)).mp hview with
        hdone | ⟨active, rows, hactive, hrows, rfl⟩
      · refine ⟨view, (viewLocked_of_no_pause ?_).mpr (.inl hdone), id⟩
        rw [horg']
        exact hpause'
      · rw [horg] at hrows
        obtain ⟨approval, hmoves, hrows'⟩ := h locked hload active hactive rows hrows
        refine ⟨_, (viewLocked_of_no_pause ?_).mpr (.inr ⟨active, _, hactive, ?_, rfl⟩),
          viewActive_moves hmoves⟩
        · rw [horg']
          exact hpause'
        · rw [horg']
          exact hrows'

end ReadsOn

/-! ## Decisions -/

/-- The active step has no pending action. -/
theorem Database.pendingApproval_eq_none {db : Database} {checkpoint : GovernedPlanCheckpoint} :
    db.pendingApproval checkpoint = .ok none ↔
      ∀ active, checkpoint.activeStep = some active →
        db.pendingActionsOf active.nativeTaskId active.nativeStepId = [] := by
  unfold pendingApproval pendingActionsOf
  cases hactive : checkpoint.activeStep with
  | none => simp
  | some active =>
      simp only [Option.some.injEq, forall_eq']
      generalize db.pendingActions.select _ = rows
      rcases rows with _ | ⟨only, _ | ⟨second, rest⟩⟩
      case nil => simp
      case cons.cons => simp
      case cons.nil =>
        dsimp only
        split
        · simp
        · split <;> simp

/-- The approval of the active step is that of its pending actions. -/
theorem Database.pendingApproval_of_same {s t : Database} {checkpoint : GovernedPlanCheckpoint}
    (happrovals : t.approvals = s.approvals)
    (hactions : ∀ active, checkpoint.activeStep = some active →
      t.pendingActionsOf active.nativeTaskId active.nativeStepId =
        s.pendingActionsOf active.nativeTaskId active.nativeStepId) :
    t.pendingApproval checkpoint = s.pendingApproval checkpoint := by
  unfold pendingApproval
  cases hactive : checkpoint.activeStep with
  | none => rfl
  | some active =>
      have hsame := hactions active hactive
      unfold pendingActionsOf at hsame
      dsimp only
      rw [hsame, happrovals]

/-- A decision moves the approval of the active step, unless it rejects it. -/
theorem DecisionWrites.pendingApproval {d : ApprovalDecision} {s t : Database}
    {checkpoint : GovernedPlanCheckpoint}
    {approval : Option (PendingActionModel × ApprovalRequestModel)} (h : DecisionWrites d s t)
    (hd : d.approved = true ∨ ∀ x, checkpoint.activeStep = some x →
      ∀ m, s.pendingOf d.approvalId = some m → ¬ x.Owns m)
    (happroval : s.pendingApproval checkpoint = .ok approval) :
    ∃ approval', t.pendingApproval checkpoint = .ok approval' ∧ ApprovalMoves approval approval' := by
  obtain ⟨happrovals, f, hrows, hf⟩ := h.rows
  -- the actions of the active step are those before, moved
  have hselect : ∀ active : GovernedPlanStepRef,
      t.pendingActionsOf active.nativeTaskId active.nativeStepId =
        (s.pendingActionsOf active.nativeTaskId active.nativeStepId).map f := by
    intro active
    unfold Database.pendingActionsOf Table.select
    rw [hrows, List.filter_map]
    congr 1
    refine List.filter_congr fun m hm => ?_
    simp only [Function.comp_apply, (hf m hm).taskId, (hf m hm).stepId]
  cases approval with
  | none =>
      refine ⟨none, Database.pendingApproval_eq_none.mpr fun active hactive => ?_, .inl ⟨rfl, rfl⟩⟩
      rw [hselect, Database.pendingApproval_eq_none.mp happroval active hactive, List.map_nil]
  | some pair =>
      obtain ⟨action, request⟩ := pair
      obtain ⟨active, hactive, haction, id, hlinked, hid, hfind, htask, horg⟩ :=
        Database.pendingApproval_rows.mp happroval
      have hmem : action ∈ s.pendingActionsOf active.nativeTaskId active.nativeStepId := by
        show action ∈ s.pendingActions.select _
        rw [haction]
        exact List.mem_singleton_self action
      obtain ⟨hm, hsame⟩ := Table.mem_select.mp hmem
      simp only [Bool.and_eq_true, decide_eq_true_eq] at hsame
      have hrow := hf action hm
      obtain ⟨request', hfind', hrequest⟩ : ∃ request', t.approvals.find? id = some request' ∧
          (request' = request ∨
            id = d.approvalId ∧ request' = (ApprovalRequestModel.decide d).apply request) := by
        rw [happrovals]
        by_cases hdecided : id = d.approvalId
        · subst hdecided
          exact ⟨_, Table.find?_update_self hfind, .inr ⟨rfl, rfl⟩⟩
        · exact ⟨request, (Table.find?_update_ne hdecided).trans hfind, .inl rfl⟩
      have hsameRequest : request'.taskId = request.taskId ∧
          request'.organizationId = request.organizationId := by
        rcases hrequest with rfl | ⟨_, rfl⟩
        · exact ⟨rfl, rfl⟩
        · exact ⟨rfl, rfl⟩
      have hsameOrg : (f action).organizationId = action.organizationId := hrow.organizationId
      refine ⟨some (f action, request'), Database.pendingApproval_rows.mpr ⟨active, hactive, ?_, id,
        hrow.approvalId.trans hlinked, hid, hfind', ?_, ?_⟩, .inr ⟨_, _, rfl, rfl, ?_⟩⟩
      · show t.pendingActionsOf active.nativeTaskId active.nativeStepId = _
        rw [hselect]
        show (s.pendingActions.select _).map f = _
        rw [haction, List.map_singleton]
      · rw [hsameRequest.1, hrow.taskId, htask]
      · rw [hsameRequest.2, hsameOrg, horg]
      · rcases hrow.status with hstatus | ⟨hpendingOf, hpending, hmoved⟩
        · refine .inl ⟨hstatus, ?_⟩
          rcases hrequest with rfl | ⟨rfl, _⟩
          · rfl
          · -- the action that is linked to the decided request would have moved
            obtain ⟨hpending, hmoved⟩ := hrow.linked hlinked
            rw [hstatus, hpending] at hmoved
            unfold ApprovalDecision.pendingStatus at hmoved
            split at hmoved <;> cases hmoved
        · rcases hd with happroved | hother
          · exact .inr ⟨hpending, by simp [hmoved, ApprovalDecision.pendingStatus, happroved]⟩
          · exact absurd hsame (hother active hactive action hpendingOf)

/-- The rows around an active step, after its approval moved. -/
theorem activeRows_moved {s t : Database} {checkpoint : GovernedPlanCheckpoint}
    {active : GovernedPlanStepRef} {organizationId : String} {rows : ActiveRows}
    {approval : Option (PendingActionModel × ApprovalRequestModel)}
    (hrows : s.activeRows checkpoint active organizationId = .ok rows)
    (hnative : t.getNativePair active.nativeTaskId active.nativeStepId organizationId =
      s.getNativePair active.nativeTaskId active.nativeStepId organizationId)
    (hexecution : t.execution = s.execution)
    (happroval : t.pendingApproval checkpoint = .ok approval) :
    t.activeRows checkpoint active organizationId = .ok { rows with approval := approval } := by
  obtain ⟨hrowsNative, _, hattempts, hpermits⟩ := activeRows_eq_ok hrows
  refine except_bind_eq_ok.mpr ⟨rows.native, mapError_eq_ok.mpr (hnative.trans hrowsNative),
    except_bind_eq_ok.mpr ⟨approval, happroval, ?_⟩⟩
  rw [hattempts, hpermits]
  unfold Database.attemptsOf Database.permitsOf
  rw [hexecution]
  rfl

namespace ReadsOn

variable {P : Platform} {organizationId runId : String} {s t : Database}

/-- A run reads on after a decision that rejects no approval of its steps ahead. -/
theorem decision {d : ApprovalDecision} (hwrites : DecisionWrites d s t)
    (hd : d.approved = true ∨ ∀ c, replayPlanJournal P (s.loadEvents runId) = .ok c →
      ∀ x ∈ c.ahead, ∀ m, s.pendingOf d.approvalId = some m → ¬ x.Owns m) :
    ReadsOn P organizationId runId s t := by
  refine of_rows (.of_approvals hwrites.same) fun locked hload active hactive rows hrows => ?_
  have hrejects : d.approved = true ∨ ∀ x, locked.checkpoint.activeStep = some x →
      ∀ m, s.pendingOf d.approvalId = some m → ¬ x.Owns m :=
    hd.imp_right fun hother x hx => hother _ hload.replay x
      (List.mem_append_left _ (Option.mem_toList.mpr hx))
  obtain ⟨approval, happroval, hmoves⟩ :=
    hwrites.pendingApproval hrejects (activeRows_eq_ok hrows).2.1
  refine ⟨approval, hmoves, activeRows_moved hrows ?_ ?_ happroval⟩
  · rw [hwrites.same]
    rfl
  · rw [hwrites.same]

/-- A run reads on after a decision through the endpoint. -/
theorem decide {user : UserContext} {approvalId : String} {approved : Bool}
    {body : DecisionRequest} {now : DateTime}
    (hok : Journaled P runId s (.decide user approvalId approved body now)) :
    ReadsOn P organizationId runId s
      (left (decidePersistedRequest user approvalId approved body now s)) := by
  rcases (decidePersistedRequest_clean user approvalId approved body now).left_cases s with
    hsame | ⟨r, hdecide⟩
  · rw [hsame]
    exact refl s
  · obtain ⟨hwrites, hgranted⟩ := decidePersistedRequest_writes hdecide
    refine decision hwrites ?_
    cases approved with
    | true => exact .inl rfl
    | false => exact .inr fun c hc x hx m hm => hok c hc x hx m (hgranted m hm)

/-- A run reads on after the step of another task resumed. -/
theorem reobserve {m : PendingActionModel} {r : ApprovalPauseState}
    (hbegin : beginReobservationAfterApproval m.taskId m.stepId m.organizationId m.pendingActionId
      m.rowVersion s = .ok r t)
    (hother : ∀ c, replayPlanJournal P (s.loadEvents runId) = .ok c →
      ∀ x ∈ c.ahead, m.taskId ≠ x.nativeTaskId) : ReadsOn P organizationId runId s t := by
  obtain ⟨pending, task, step, hfind, _, _, htaskId, _, _, _, hstep, _, _, rfl⟩ :=
    beginReobservationAfterApproval_eq_ok hbegin
  have hruns : s.SameRuns ((s.updatePending m.pendingActionId (PendingActionModel.move .approved
      .invalidated invalidated_resolved)).setNativeStatus m.taskId m.stepId .resuming .resuming) :=
    .trans (.of_approvals (.updatePending ..)) (.setNativeStatus ..)
  refine of_rows hruns fun locked hload active hactive rows hrows => ?_
  have hne := hother _ hload.replay active (List.mem_append_left _ (Option.mem_toList.mpr hactive))
  have hnative : ((s.updatePending m.pendingActionId (PendingActionModel.move .approved
      .invalidated invalidated_resolved)).setNativeStatus m.taskId m.stepId .resuming .resuming).getNativePair
        active.nativeTaskId active.nativeStepId organizationId =
      s.getNativePair active.nativeTaskId active.nativeStepId organizationId :=
    Database.getNativePair_setNativeStatus hne.symm hstep
  have happroval : ((s.updatePending m.pendingActionId (PendingActionModel.move .approved
      .invalidated invalidated_resolved)).setNativeStatus m.taskId m.stepId .resuming
        .resuming).pendingApproval locked.checkpoint = s.pendingApproval locked.checkpoint := by
    refine Database.pendingApproval_of_same rfl fun a ha => Table.select_update fun row hrow => ?_
    -- the action that is used up is one of another task
    cases hactive.symm.trans ha
    cases hfind.symm.trans hrow
    have hforeign : pending.taskId ≠ active.nativeTaskId := htaskId ▸ hne
    obtain ⟨htask, _⟩ := PendingActionModel.move_same .approved .invalidated invalidated_resolved pending
    simp [htask, hforeign]
  exact ⟨rows.approval, .refl _, activeRows_moved hrows hnative rfl
    (happroval.trans (activeRows_eq_ok hrows).2.1)⟩

/-- A run reads on after a scan that resumes no task of a step ahead. -/
theorem scan {organizationId' : Option String} {limit : Int} {held : PendingActionModel → Bool}
    (hok : Journaled P runId s (.scan organizationId' limit held)) :
    ReadsOn P organizationId runId s
      (left (atomic (prepareApprovedPausesForReobservation organizationId' limit held) s)) :=
  scan_related refl (fun _ _ _ => trans) reobserve hok

end ReadsOn

/-! ## Conflicts -/

/-- A reader gets a state conflict, as an error or as the state of the run. -/
def Conflicts (x : Except Raised AgentRunProjection) : Prop :=
  x = .error (agentRunError "STATE_CONFLICT") ∨ ∃ p, x = .ok p ∧ p.view = .stateConflict

/-- Pending actions that do not fit are a conflict. -/
theorem Database.pendingApproval_error {db : Database} {checkpoint : GovernedPlanCheckpoint}
    {e : Raised} (h : db.pendingApproval checkpoint = .error e) :
    e = agentRunError "STATE_CONFLICT" := by
  unfold pendingApproval at h
  split at h
  case h_1 => cases h
  case h_2 =>
    split at h
    case h_1 => cases h
    case h_3 => cases h; rfl
    case h_2 =>
      split at h
      case h_1 => cases h; rfl
      case h_2 => split at h <;> cases h; rfl

/-- So is half a native pair. -/
theorem Database.getNativePair_error {db : Database} {taskId stepId organizationId : String}
    {e : Raised} (h : (db.getNativePair taskId stepId organizationId).mapError
      (asAgentRunError [.valueError] "STATE_CONFLICT") = .error e) :
    e = agentRunError "STATE_CONFLICT" := by
  unfold getNativePair at h
  split at h
  case h_1 => cases h
  case h_2 => cases h
  case h_3 => cases h; rfl

/-- Only a conflict keeps a run from being viewed. -/
theorem viewLocked_error {P : Platform} {db : Database} {locked : LockedRun} {e : Raised}
    (h : viewLocked P db locked = .error e) : e = agentRunError "STATE_CONFLICT" := by
  unfold viewLocked at h
  dsimp only at h
  split at h
  case h_1 => cases h
  case h_2 =>
    split at h
    case h_1 => cases h
    case h_2 active _ =>
      rcases except_bind_eq_error.mp h with hrows | ⟨_, _, hpure⟩
      case inr => cases hpure
      rcases except_bind_eq_error.mp hrows with hnative | ⟨_, _, hrest⟩
      case inl => exact Database.getNativePair_error hnative
      rcases except_bind_eq_error.mp hrest with happroval | ⟨_, _, hpure⟩
      · exact Database.pendingApproval_error happroval
      · cases hpure

/-- The names of a run do not depend on its view. -/
theorem projection_error {E : Environment} {locked : LockedRun} {root : TaskModel}
    {view view' : RunView} {e : Raised}
    (h : projection E { locked with root := root } view' = .error e) :
    projection E locked view = .error e := by
  unfold projection at h ⊢
  rcases except_bind_eq_error.mp h with hbinding | ⟨binding, hbinding, hrest⟩
  · exact except_bind_eq_error.mpr (.inl hbinding)
  refine except_bind_eq_error.mpr (.inr ⟨binding, hbinding, ?_⟩)
  rcases except_bind_eq_error.mp hrest with hmetadata | ⟨metadata, hmetadata, hrest⟩
  · exact except_bind_eq_error.mpr (.inl hmetadata)
  refine except_bind_eq_error.mpr (.inr ⟨metadata, hmetadata, ?_⟩)
  dsimp only at hrest ⊢
  split at hrest
  case isTrue => cases hrest
  case isFalse hplan =>
    rw [dif_neg hplan]
    exact hrest

/-- No conflict shows up in a run that reads on. -/
theorem ReadsOn.conflicts {P : Platform} {E : Environment} {user : UserContext} {runId : String}
    {s t : Database} {locked : LockedRun} (h : ReadsOn P user.orgId runId s t)
    (hload : LoadedFrom P s user.orgId runId locked)
    (hconflicts : Conflicts (getRun P E user runId t)) : Conflicts (getRun P E user runId s) := by
  obtain ⟨root, hload', hviews⟩ := h locked hload
  have hget : getRun P E user runId s = projectLocked P E s locked :=
    (congrArg (· >>= _) (loadLocked_eq_ok.mpr hload)).trans rfl
  have hget' : getRun P E user runId t = projectLocked P E t { locked with root := root } :=
    (congrArg (· >>= _) (loadLocked_eq_ok.mpr hload')).trans rfl
  rw [hget]
  rw [hget'] at hconflicts
  cases hview : viewLocked P s locked with
  | error e =>
      refine .inl (except_bind_eq_error.mpr (.inl ?_))
      rw [hview, viewLocked_error hview]
  | ok view =>
      obtain ⟨view', hview', hkeeps⟩ := hviews view hview
      rcases hconflicts with herror | ⟨p, hp, hconflict⟩
      · rcases except_bind_eq_error.mp herror with hraised | ⟨_, hsame, hraised⟩
        · rw [hview'] at hraised
          cases hraised
        · cases hview'.symm.trans hsame
          exact .inl (except_bind_eq_error.mpr (.inr ⟨view, hview, projection_error hraised⟩))
      · obtain ⟨hsame, hprojection⟩ := projectLocked_eq_ok hp
        cases hview'.symm.trans hsame
        have hbefore : view = .stateConflict := by
          by_contra hne
          exact hkeeps hne hconflict
        cases hrun : projectLocked P E s locked with
        | ok q =>
            have hq := (projectLocked_eq_ok hrun).1
            cases hview.symm.trans hq
            exact .inr ⟨q, rfl, hbefore⟩
        | error e =>
            rcases except_bind_eq_error.mp hrun with hraised | ⟨_, _, hraised⟩
            · rw [hview] at hraised
              cases hraised
            · have hraised' : projection E { locked with root := root } p.view = .error e :=
                projection_error hraised
              cases hprojection.symm.trans hraised'

end AgentPact
