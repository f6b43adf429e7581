import AgentPact.AgentRuns.ProbeRecovery

/-!
# What settles a lost attempt

A run that is blocked on a lost attempt, or is over, should stay where it is
until a probe confirms that very attempt.  The coordinator asks this of probe
results.  Of the results of an advance it asks only that they are about the
active step, whatever state the run is in.
-/

namespace AgentPact

/-- A checkpoint in the same state, with no step completed, and with the permit and the attempt that
the active step had. -/
structure SettledAs (checkpoint updated : GovernedPlanCheckpoint) : Prop where
  state : updated.state = checkpoint.state
  completed : updated.completedPrefix = checkpoint.completedPrefix
  permit : ∀ active ∈ checkpoint.activeStep, ∀ id ∈ active.permitId,
    updated.activeStep.bind (·.permitId) = some id
  attempt : ∀ active ∈ checkpoint.activeStep, ∀ id ∈ active.attemptId,
    updated.activeStep.bind (·.attemptId) = some id

/-- The result says nothing new about the active step: it does not complete it, unless the run is
completed, and it does not block it, unless the run is blocked. -/
structure SaysNothing (checkpoint : GovernedPlanCheckpoint) (result : PackAdvanceResult) : Prop where
  completed : result.status = .completed → checkpoint.state = .completed ∨
    ∀ active ∈ checkpoint.activeStep, result.stepId ≠ some active.nativeStepId
  blocked : result.status = .pendingResultProbe → checkpoint.state = .probeBlocked ∨
    ∀ active ∈ checkpoint.activeStep, ∀ execution ∈ result.executionCheckpoint,
      execution.fits active = false

/-- A step keeps the identities that an execution fits. -/
theorem ExecutionCheckpoint.fits_identities {execution : ExecutionCheckpoint}
    {active : GovernedPlanStepRef} (h : execution.fits active = true) :
    (∀ id ∈ active.permitId, execution.permitId = id) ∧
      ∀ id ∈ active.attemptId, execution.attemptId = id := by
  simp only [fits, Bool.and_eq_true, Option.all_eq_true, decide_eq_true_eq] at h
  exact ⟨fun id hid => (h.1.2 id hid).symm, fun id hid => (h.2 id hid).symm⟩

/-- Completing a step does not settle it as it was. -/
theorem SettledAs.not_completeActive {checkpoint : GovernedPlanCheckpoint}
    {active : GovernedPlanStepRef} :
    ¬ SettledAs checkpoint (checkpoint.completeActive active) := by
  intro h
  have hlength := congrArg List.length h.completed
  simp [GovernedPlanCheckpoint.completeActive] at hlength

/-- An advance leaves a run as it is, blocked, finished or neither, exactly when its result says
nothing new about the active step.  A probe moves a run on only if it confirms the attempt the run
is blocked on. -/
theorem advance_settles_iff (checkpoint : GovernedPlanCheckpoint) (result : PackAdvanceResult) :
    ((∀ updated transition,
        AgentRunResultCoordinator.advance checkpoint result = .ok (some (updated, transition)) →
        SettledAs checkpoint updated) ↔
      (result.runId = checkpoint.rootTaskId → SaysNothing checkpoint result)) ∧
    ∀ probed updated transition,
      AgentRunResultCoordinator.probe checkpoint probed = .ok (some (updated, transition)) →
      checkpoint.state = .probeBlocked ∧ ∃ active, checkpoint.activeStep = some active ∧
        (probed.checkpoint.taskId = active.nativeTaskId ∧
          probed.checkpoint.stepId = active.nativeStepId ∧
          some probed.checkpoint.permitId = active.permitId ∧
          some probed.checkpoint.attemptId = active.attemptId) ∧
        probed.status = .confirmed ∧ updated = checkpoint.completeActive active := by
  refine ⟨⟨fun hsettles hrun => ?_, fun hnothing updated transition hadvance => ?_⟩,
    fun _ _ _ => AgentRunResultCoordinator.probe_settles⟩
  · -- what is not excluded is an advance that unsettles the run
    have hmoves : ∀ updated, AgentRunResultCoordinator.Advanced checkpoint result updated →
        SettledAs checkpoint updated := fun updated hadvanced => by
      obtain ⟨transition, h⟩ :=
        AgentRunResultCoordinator.advance_eq_ok.mpr ⟨hrun, hadvanced⟩
      exact hsettles updated transition h
    constructor
    · intro hstatus
      refine or_iff_not_imp_left.mpr fun hopen active hactive hstep => ?_
      exact SettledAs.not_completeActive (hmoves _ (.completed hstatus hopen hactive hstep))
    · intro hstatus
      refine or_iff_not_imp_left.mpr fun hfree active hactive execution hexecution => ?_
      by_contra hfits
      have hsettled := hmoves _ (.blocked hstatus hactive hexecution (by simpa using hfits)
        fun h => hfree h.1)
      exact hfree hsettled.state.symm
  · obtain ⟨hrun, hadvanced⟩ := AgentRunResultCoordinator.advance_eq_ok.mp ⟨transition, hadvance⟩
    obtain ⟨hcompleted, hblocked⟩ := hnothing hrun
    cases hadvanced with
    | completed hstatus hopen hactive hstep =>
        rcases hcompleted hstatus with hclosed | hother
        · exact absurd hclosed hopen
        · exact absurd hstep (hother _ hactive)
    | @blocked active execution hstatus hactive hexecution hfits hnew =>
        rcases hblocked hstatus with hprobe | hother
        · -- the run is blocked already, and the execution fits what it is blocked on
          obtain ⟨hpermit, hattempt⟩ := execution.fits_identities hfits
          refine ⟨hprobe.symm, rfl, fun a ha id hid => ?_, fun a ha id hid => ?_⟩
          · cases hactive.symm.trans ha
            exact congrArg some (hpermit id hid)
          · cases hactive.symm.trans ha
            exact congrArg some (hattempt id hid)
        · have hunfit := hother active hactive execution hexecution
          rw [hfits] at hunfit
          cases hunfit

/-- The blocked step of the examples. -/
def blockedCheckpoint : GovernedPlanCheckpoint :=
  { admittedCheckpoint with state := .probeBlocked, activeStep := some blockedStep }

/-- A result that completes it. -/
def completedResult : PackAdvanceResult where
  status := .completed
  runId := sampleRunId
  stepId := some "step"
  reasonCode := none
  approvalStepId := none
  executionCheckpoint := none
  approval_iff := by simp
  checkpoint_iff := by simp
  reason := fun h => absurd rfl h
  approval_step := nofun
  checkpoint_step := nofun

/-- An advance completes the step that the run is blocked on, and nothing was probed. -/
theorem advance_completes_blocked :
    blockedCheckpoint.state = .probeBlocked ∧ ∃ updated transition,
      AgentRunResultCoordinator.advance blockedCheckpoint completedResult =
        .ok (some (updated, transition)) ∧
      ¬ SettledAs blockedCheckpoint updated := by
  have hadvanced : AgentRunResultCoordinator.Advanced blockedCheckpoint completedResult
      (blockedCheckpoint.completeActive blockedStep) :=
    .completed rfl (by decide) rfl rfl
  obtain ⟨transition, h⟩ := AgentRunResultCoordinator.advance_eq_ok.mpr ⟨rfl, hadvanced⟩
  exact ⟨rfl, _, transition, h, SettledAs.not_completeActive⟩

end AgentPact
