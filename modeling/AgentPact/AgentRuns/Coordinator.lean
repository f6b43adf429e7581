import AgentPact.AgentRuns.Journal
import AgentPact.Governance.PackRuntime

/-!
# From Pack results to journal transitions

`AgentRunResultCoordinator` (`agent_runs/coordinator.py`).  It compares a
result with the checkpoint the run stands at, and says which checkpoint the
journal should move to, if any.

Completing the active step is the same for an advance and for a probe, so it is
one function.  The two differ in the transition they record when a step
remains, and in what else a result may say.
-/

namespace AgentPact

/-- The active step is completed, and the first remaining one is active. -/
def GovernedPlanCheckpoint.completeActive (c : GovernedPlanCheckpoint)
    (active : GovernedPlanStepRef) : GovernedPlanCheckpoint :=
  let next := c.remainingSuffix.head?.map fun r => { r with state := .active }
  { c with
    completedPrefix := c.completedPrefix ++ [{ active with state := .completed }]
    activeStep := next
    remainingSuffix := c.remainingSuffix.tail
    state := if next.isSome then .active else .completed }

/-- The transition that records a confirmed probe. -/
def GovernedPlanCheckpoint.probeTransition (c : GovernedPlanCheckpoint)
    (active : GovernedPlanStepRef) : PlanJournalTransition :=
  if (c.completeActive active).activeStep.isSome then .probeResolved else .planCompleted

/-- A completed step is recorded by a transition to an active run while a step remains, and by the
end of the plan otherwise. -/
theorem GovernedPlanCheckpoint.completeActive_fits (c : GovernedPlanCheckpoint)
    (active : GovernedPlanStepRef) {transition : PlanJournalTransition}
    (hactive : .active ∈ transition.expectedStates) :
    TransitionFits (if (c.completeActive active).activeStep.isSome then transition
      else .planCompleted) (c.completeActive active) := by
  unfold completeActive
  cases c.remainingSuffix.head? with
  | none => exact ⟨by simp [PlanJournalTransition.expectedStates], fun _ => rfl, by simp⟩
  | some next => exact ⟨hactive, by simp, fun _ => rfl⟩

theorem GovernedPlanCheckpoint.probeTransition_fits (c : GovernedPlanCheckpoint)
    (active : GovernedPlanStepRef) :
    TransitionFits (c.probeTransition active) (c.completeActive active) :=
  c.completeActive_fits active (by decide)

/-- An execution is the one a step refers to. -/
def ExecutionCheckpoint.fits (execution : ExecutionCheckpoint) (active : GovernedPlanStepRef) :
    Bool :=
  execution.taskId = active.nativeTaskId && execution.stepId = active.nativeStepId &&
    active.permitId.all (· = execution.permitId) && active.attemptId.all (· = execution.attemptId)

/-- The step waits for the proof of an execution. -/
def GovernedPlanStepRef.blockedOn (active : GovernedPlanStepRef) (execution : ExecutionCheckpoint) :
    GovernedPlanStepRef :=
  { active with
    state := .probeBlocked
    permitId := some execution.permitId
    attemptId := some execution.attemptId
    probeRef := some execution.resultProbeRef }

namespace AgentRunResultCoordinator

/-- `AgentRunResultCoordinator.advance`. -/
def advance (checkpoint : GovernedPlanCheckpoint) (result : PackAdvanceResult) :
    Except Raised (Option (GovernedPlanCheckpoint × PlanJournalTransition)) := do
  expect (result.runId = checkpoint.rootTaskId)
    "Pack advance result does not match the Agent Run root"
  match result.status with
  | .completed =>
      if checkpoint.state = .completed then pure none
      else match checkpoint.activeStep with
        | none => throw ⟨.governedPlanError, "Completed Pack result has no active Agent Run step"⟩
        | some active => do
            expect (result.stepId = some active.nativeStepId)
              "Completed Pack result does not match the active Agent Run step"
            let updated := checkpoint.completeActive active
            pure (some (updated,
              if updated.activeStep.isSome then .childCompleted else .planCompleted))
  | .pendingResultProbe =>
      match checkpoint.activeStep, result.executionCheckpoint with
      | some active, some execution => do
          expect (execution.fits active = true)
            "Pack execution checkpoint does not match the active Agent Run step"
          if checkpoint.state = .probeBlocked ∧ active.attemptId = some execution.attemptId then
            pure none
          else
            pure (some ({ checkpoint with
              state := .probeBlocked
              activeStep := some (active.blockedOn execution) }, .probeBlocked))
      | _, _ =>
          throw ⟨.governedPlanError, "Pending Pack result has no active execution checkpoint"⟩
  | _ => pure none

/-- `AgentRunResultCoordinator.probe`. -/
def probe (checkpoint : GovernedPlanCheckpoint) (result : PackProbeResult) :
    Except Raised (Option (GovernedPlanCheckpoint × PlanJournalTransition)) :=
  match checkpoint.activeStep with
  | none =>
      .error ⟨.governedPlanError, "Probe result requires a probe-blocked Agent Run step"⟩
  | some active => do
      expect (checkpoint.state = .probeBlocked)
        "Probe result requires a probe-blocked Agent Run step"
      expect (result.checkpoint.taskId = active.nativeTaskId ∧
          result.checkpoint.stepId = active.nativeStepId ∧
          some result.checkpoint.permitId = active.permitId ∧
          some result.checkpoint.attemptId = active.attemptId)
        "Pack probe checkpoint does not match the blocked Agent Run step"
      match result.status with
      | .inconclusive => pure none
      | .notConfirmed =>
          throw ⟨.governedPlanError, "Pack probe did not confirm the blocked Agent Run step"⟩
      | .confirmed =>
          let updated := checkpoint.completeActive active
          pure (some (updated,
            if updated.activeStep.isSome then .probeResolved else .planCompleted))

/-! ## Inverting a translation -/

/-- The coordinator goes on from a confirmed result only. -/
theorem probe_eq_ok {checkpoint updated : GovernedPlanCheckpoint}
    {transition : PlanJournalTransition} {active : GovernedPlanStepRef}
    {result : PackProbeResult}
    (hactive : checkpoint.activeStep = some active) :
    probe checkpoint result = .ok (some (updated, transition)) ↔
      checkpoint.state = .probeBlocked ∧
      (result.checkpoint.taskId = active.nativeTaskId ∧
        result.checkpoint.stepId = active.nativeStepId ∧
        some result.checkpoint.permitId = active.permitId ∧
        some result.checkpoint.attemptId = active.attemptId) ∧
      result.status = .confirmed ∧ updated = checkpoint.completeActive active ∧
      transition = checkpoint.probeTransition active := by
  unfold probe
  simp only [hactive, expect_bind_eq_ok]
  refine and_congr_right fun _ => and_congr_right fun _ => ?_
  cases hstatus : result.status with
  | inconclusive => simp [pure, Except.pure]
  | notConfirmed => simp [throw, throwThe, MonadExceptOf.throw]
  | confirmed =>
      constructor
      · intro h
        cases h
        exact ⟨rfl, rfl, rfl⟩
      · rintro ⟨_, rfl, rfl⟩
        rfl

/-- A blocked run goes on from a probe only if the result confirms the attempt it is blocked on. -/
theorem probe_settles {checkpoint updated : GovernedPlanCheckpoint}
    {transition : PlanJournalTransition} {result : PackProbeResult}
    (h : probe checkpoint result = .ok (some (updated, transition))) :
    checkpoint.state = .probeBlocked ∧ ∃ active, checkpoint.activeStep = some active ∧
      (result.checkpoint.taskId = active.nativeTaskId ∧
        result.checkpoint.stepId = active.nativeStepId ∧
        some result.checkpoint.permitId = active.permitId ∧
        some result.checkpoint.attemptId = active.attemptId) ∧
      result.status = .confirmed ∧ updated = checkpoint.completeActive active := by
  cases hactive : checkpoint.activeStep with
  | none => simp [probe, hactive] at h
  | some active =>
      obtain ⟨hblocked, hnames, hconfirmed, hupdated, _⟩ := (probe_eq_ok hactive).mp h
      exact ⟨hblocked, active, rfl, hnames, hconfirmed, hupdated⟩

/-- What an advance may move a checkpoint to. -/
inductive Advanced (checkpoint : GovernedPlanCheckpoint) (result : PackAdvanceResult) :
    GovernedPlanCheckpoint → Prop
  | completed {active : GovernedPlanStepRef} (hstatus : result.status = .completed)
      (hopen : checkpoint.state ≠ .completed) (hactive : checkpoint.activeStep = some active)
      (hstep : result.stepId = some active.nativeStepId) :
      Advanced checkpoint result (checkpoint.completeActive active)
  | blocked {active : GovernedPlanStepRef} {execution : ExecutionCheckpoint}
      (hstatus : result.status = .pendingResultProbe)
      (hactive : checkpoint.activeStep = some active)
      (hexecution : result.executionCheckpoint = some execution)
      (hfits : execution.fits active = true)
      (hnew : ¬ (checkpoint.state = .probeBlocked ∧ active.attemptId = some execution.attemptId)) :
      Advanced checkpoint result { checkpoint with
        state := .probeBlocked, activeStep := some (active.blockedOn execution) }

theorem advance_eq_ok {checkpoint updated : GovernedPlanCheckpoint}
    {result : PackAdvanceResult} :
    (∃ transition, advance checkpoint result = .ok (some (updated, transition))) ↔
      result.runId = checkpoint.rootTaskId ∧ Advanced checkpoint result updated := by
  unfold advance
  simp only [expect_bind_eq_ok, exists_and_left]
  refine and_congr_right fun _ => ?_
  cases hstatus : result.status with
  | completed =>
      dsimp only
      by_cases hcompleted : checkpoint.state = .completed
      · rw [if_pos hcompleted]
        constructor
        · rintro ⟨_, ⟨⟩⟩
        · rintro (⟨_, hopen, _, _⟩ | ⟨hpending, _, _, _, _⟩)
          · exact absurd hcompleted hopen
          · rw [hstatus] at hpending; cases hpending
      rw [if_neg hcompleted]
      cases hactive : checkpoint.activeStep with
      | none =>
          constructor
          · rintro ⟨_, ⟨⟩⟩
          · rintro (⟨_, _, hsome, _⟩ | ⟨_, hsome, _, _, _⟩) <;> rw [hactive] at hsome <;> cases hsome
      | some active =>
          simp only [expect_bind_eq_ok]
          constructor
          · rintro ⟨_, hstep, hpure⟩
            cases hpure
            exact .completed hstatus hcompleted hactive hstep
          · rintro (⟨_, _, hsome, hstep⟩ | ⟨hpending, _, _, _, _⟩)
            · cases hactive.symm.trans hsome
              exact ⟨_, hstep, rfl⟩
            · rw [hstatus] at hpending; cases hpending
  | pendingResultProbe =>
      dsimp only
      obtain ⟨execution, hexecution⟩ :=
        Option.isSome_iff_exists.mp (result.checkpoint_iff.mpr hstatus)
      rw [hexecution]
      cases hactive : checkpoint.activeStep with
      | none =>
          constructor
          · rintro ⟨_, ⟨⟩⟩
          · rintro (⟨_, _, hsome, _⟩ | ⟨_, hsome, _, _, _⟩) <;> rw [hactive] at hsome <;> cases hsome
      | some active =>
          simp only [expect_bind_eq_ok]
          constructor
          · rintro ⟨_, hfits, h⟩
            split at h
            case isTrue => cases h
            case isFalse hnew =>
              cases h
              exact .blocked hstatus hactive hexecution hfits hnew
          · rintro (⟨hcompleted, _, _, _⟩ | ⟨_, hsome, hsome', hfits, hnew⟩)
            · rw [hstatus] at hcompleted; cases hcompleted
            · cases hactive.symm.trans hsome
              cases hexecution.symm.trans hsome'
              exact ⟨_, hfits, by rw [if_neg hnew]; rfl⟩
  | _ =>
      constructor
      · rintro ⟨_, ⟨⟩⟩
      · rintro (⟨h, _, _, _⟩ | ⟨h, _, _, _, _⟩) <;> rw [hstatus] at h <;> cases h

/-- An advance asks for no approval. -/
theorem advance_transition {checkpoint updated : GovernedPlanCheckpoint}
    {transition : PlanJournalTransition} {result : PackAdvanceResult}
    (h : advance checkpoint result = .ok (some (updated, transition))) :
    transition ≠ .approvalRequired ∧ updated.state ≠ .approvalRequired := by
  simp only [advance, expect_bind_eq_ok] at h
  obtain ⟨_, h⟩ := h
  split at h
  case h_1 =>
    split at h
    case isTrue => cases h
    case isFalse =>
      split at h
      case h_1 => cases h
      case h_2 active _ =>
        obtain ⟨_, h⟩ := expect_bind_eq_ok.mp h
        cases h
        unfold GovernedPlanCheckpoint.completeActive
        dsimp only
        constructor <;> split <;> decide
  case h_2 =>
    split at h
    case h_1 active execution _ _ =>
      obtain ⟨_, h⟩ := expect_bind_eq_ok.mp h
      split at h
      case isTrue => cases h
      case isFalse => cases h; simp
    case h_2 => cases h
  case h_3 => cases h

end AgentRunResultCoordinator

end AgentPact
