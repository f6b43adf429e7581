import AgentPact.AgentRuns.Coordinator
import AgentPact.Base.Lts
import AgentPact.Base.Pipeline

/-!
# The coordinator conserves the plan

A checkpoint is a pipeline of steps: the completed ones, the active one and the
remaining ones (`GovernedPlanCheckpoint.pipeline`).  Whatever the Pack answers,
the coordinator leaves the pipeline as it is or finishes its current step
(`PackResult.pipeline_moves`).  So a run of results of any length completes the
steps of the plan in their order, and none of them twice.
-/

namespace AgentPact

open Base

/-! ## The pipeline of a checkpoint -/

/-- A step without what changes while it is worked on. -/
def GovernedPlanStepRef.identity (r : GovernedPlanStepRef) : GovernedPlanStepRef :=
  { r with state := .pending, permitId := none, attemptId := none, probeRef := none }

namespace GovernedPlanCheckpoint

variable (c : GovernedPlanCheckpoint)

/-- The steps of a checkpoint, by their identities. -/
def pipeline : Pipeline GovernedPlanStepRef where
  done := c.completedPrefix.map (·.identity)
  current := c.activeStep.map (·.identity)
  waiting := c.remainingSuffix.map (·.identity)

/-- The identities of the steps, in order. -/
def stepIdentities : List GovernedPlanStepRef :=
  (c.completedPrefix ++ c.activeStep.toList ++ c.remainingSuffix).map (·.identity)

theorem items_pipeline : c.pipeline.items = c.stepIdentities := by
  unfold Pipeline.items pipeline stepIdentities
  cases c.activeStep <;> simp

/-- Finishing the current item is completing the active step. -/
theorem pipeline_completeActive (active : GovernedPlanStepRef) :
    (c.completeActive active).pipeline = c.pipeline.finish active.identity := by
  unfold pipeline Pipeline.finish completeActive
  cases c.remainingSuffix <;> simp [GovernedPlanStepRef.identity]

@[simp] theorem pipeline_bound (sequence : Nat) (digest : Digest) :
    (c.bound sequence digest).pipeline = c.pipeline := rfl

end GovernedPlanCheckpoint

/-- Two checkpoints of one plan, replanned as often and with the same superseded steps. -/
structure SamePlan (c d : GovernedPlanCheckpoint) : Prop where
  planRunId : d.planRunId = c.planRunId
  admissionId : d.admissionId = c.admissionId
  rootTaskId : d.rootTaskId = c.rootTaskId
  planId : d.planId = c.planId
  planVersion : d.planVersion = c.planVersion
  authorityContractId : d.authorityContractId = c.authorityContractId
  supersededSuffix : d.supersededSuffix = c.supersededSuffix
  replanCount : d.replanCount = c.replanCount
  maxReplans : d.maxReplans = c.maxReplans

theorem SamePlan.refl (c : GovernedPlanCheckpoint) : SamePlan c c :=
  ⟨rfl, rfl, rfl, rfl, rfl, rfl, rfl, rfl, rfl⟩

theorem SamePlan.trans {c d e : GovernedPlanCheckpoint} (h : SamePlan c d) (h' : SamePlan d e) :
    SamePlan c e where
  planRunId := h'.planRunId.trans h.planRunId
  admissionId := h'.admissionId.trans h.admissionId
  rootTaskId := h'.rootTaskId.trans h.rootTaskId
  planId := h'.planId.trans h.planId
  planVersion := h'.planVersion.trans h.planVersion
  authorityContractId := h'.authorityContractId.trans h.authorityContractId
  supersededSuffix := h'.supersededSuffix.trans h.supersededSuffix
  replanCount := h'.replanCount.trans h.replanCount
  maxReplans := h'.maxReplans.trans h.maxReplans

/-! ## Results -/

/-- A result of a Pack. -/
inductive PackResult where
  | advance (result : PackAdvanceResult)
  | probe (result : PackProbeResult)

/-- What the coordinator makes of a result. -/
def PackResult.translate (checkpoint : GovernedPlanCheckpoint) :
    PackResult → Except Raised (Option (GovernedPlanCheckpoint × PlanJournalTransition))
  | .advance result => AgentRunResultCoordinator.advance checkpoint result
  | .probe result => AgentRunResultCoordinator.probe checkpoint result

/-- The plan is the same, and its steps are in the same order. -/
structure Conserves (c updated : GovernedPlanCheckpoint) : Prop where
  plan : SamePlan c updated
  steps : updated.stepIdentities = c.stepIdentities
  completed : updated.completedPrefix = c.completedPrefix ∨ ∃ active, c.activeStep = some active ∧
    updated.completedPrefix = c.completedPrefix ++ [{ active with state := .completed }]
  finished : updated.state = .completed ↔ updated.activeStep = none

/-- What a translated result may be. -/
inductive Translated (c : GovernedPlanCheckpoint) :
    GovernedPlanCheckpoint → PlanJournalTransition → Prop
  | completed {active : GovernedPlanStepRef} {transition : PlanJournalTransition}
      (hactive : c.activeStep = some active)
      (hfits : TransitionFits transition (c.completeActive active)) :
      Translated c (c.completeActive active) transition
  | blocked {active : GovernedPlanStepRef} {execution : ExecutionCheckpoint}
      (hactive : c.activeStep = some active) :
      Translated c { c with
        state := .probeBlocked, activeStep := some (active.blockedOn execution) } .probeBlocked

theorem PackResult.translate_eq_ok {c updated : GovernedPlanCheckpoint}
    {transition : PlanJournalTransition} {result : PackResult}
    (h : result.translate c = .ok (some (updated, transition))) :
    Translated c updated transition := by
  cases result with
  | advance result =>
      simp only [translate, AgentRunResultCoordinator.advance, expect_bind_eq_ok] at h
      obtain ⟨_, h⟩ := h
      split at h
      case h_1 =>
        split at h
        case isTrue => cases h
        case isFalse =>
          split at h
          case h_1 => cases h
          case h_2 active hactive =>
            obtain ⟨_, h⟩ := expect_bind_eq_ok.mp h
            cases h
            exact .completed hactive (c.completeActive_fits active (by decide))
      case h_2 =>
        split at h
        case h_1 active execution hactive _ =>
          obtain ⟨_, h⟩ := expect_bind_eq_ok.mp h
          split at h
          case isTrue => cases h
          case isFalse => cases h; exact .blocked hactive
        case h_2 => cases h
      case h_3 => cases h
  | probe result =>
      cases hactive : c.activeStep with
      | none => simp [translate, AgentRunResultCoordinator.probe, hactive] at h
      | some active =>
          obtain ⟨_, _, _, rfl, rfl⟩ := (AgentRunResultCoordinator.probe_eq_ok hactive).mp h
          exact .completed hactive (c.probeTransition_fits active)

/-- A translated result conserves the plan, and its transition fits its checkpoint. -/
theorem Translated.conserves {c updated : GovernedPlanCheckpoint}
    {transition : PlanJournalTransition} (h : Translated c updated transition) :
    Conserves c updated ∧ TransitionFits transition updated := by
  cases h with
  | @completed active _ hactive hfits =>
      refine ⟨⟨⟨rfl, rfl, rfl, rfl, rfl, rfl, rfl, rfl, rfl⟩, ?_, .inr ⟨active, hactive, rfl⟩, ?_⟩,
        hfits⟩
      · have hmove : c.pipeline.Move (c.completeActive active).pipeline := by
          rw [c.pipeline_completeActive active]
          exact .finish (by simp [GovernedPlanCheckpoint.pipeline, hactive])
        rw [← GovernedPlanCheckpoint.items_pipeline, hmove.items,
          GovernedPlanCheckpoint.items_pipeline]
      · unfold GovernedPlanCheckpoint.completeActive
        cases c.remainingSuffix.head? <;> simp
  | @blocked active execution hactive =>
      refine ⟨⟨⟨rfl, rfl, rfl, rfl, rfl, rfl, rfl, rfl, rfl⟩, ?_, .inl rfl, by simp⟩, ?_⟩
      · simp [GovernedPlanCheckpoint.stepIdentities, hactive, GovernedPlanStepRef.identity,
          GovernedPlanStepRef.blockedOn]
      · exact ⟨by simp [PlanJournalTransition.expectedStates], by simp, fun _ => rfl⟩

/-- It leaves the pipeline as it is, or finishes its current step. -/
theorem Translated.pipeline_moves {c updated : GovernedPlanCheckpoint}
    {transition : PlanJournalTransition} (h : Translated c updated transition) :
    updated.pipeline = c.pipeline ∨ c.pipeline.Move updated.pipeline := by
  cases h with
  | @completed active _ hactive _ =>
      rw [c.pipeline_completeActive active]
      exact .inr (.finish (by simp [GovernedPlanCheckpoint.pipeline, hactive]))
  | blocked hactive =>
      refine .inl ?_
      simp [GovernedPlanCheckpoint.pipeline, hactive, GovernedPlanStepRef.identity,
        GovernedPlanStepRef.blockedOn]

/-! ## Runs of results -/

/-- A result is accepted: there is nothing to record, or its checkpoint is appended to the journal,
wherever that binds it. -/
def ResultStep (result : PackResult) (c d : GovernedPlanCheckpoint) : Prop :=
  (result.translate c = .ok none ∧ d = c) ∨ ∃ updated transition sequence digest,
    result.translate c = .ok (some (updated, transition)) ∧ d = updated.bound sequence digest

/-- What a run of results conserves. -/
structure RunConserves (c d : GovernedPlanCheckpoint) : Prop where
  plan : SamePlan c d
  leads : c.pipeline.Leads d.pipeline

theorem ResultStep.conserves {result : PackResult} {c d : GovernedPlanCheckpoint}
    (h : ResultStep result c d) : RunConserves c d := by
  rcases h with ⟨_, rfl⟩ | ⟨updated, transition, sequence, digest, htranslate, rfl⟩
  · exact ⟨.refl _, .refl⟩
  · have htranslated := PackResult.translate_eq_ok htranslate
    have hplan := htranslated.conserves.1.plan
    refine ⟨⟨hplan.planRunId, hplan.admissionId, hplan.rootTaskId, hplan.planId, hplan.planVersion,
      hplan.authorityContractId, hplan.supersededSuffix, hplan.replanCount, hplan.maxReplans⟩, ?_⟩
    rw [GovernedPlanCheckpoint.pipeline_bound]
    rcases htranslated.pipeline_moves with hsame | hmove
    · rw [hsame]
      exact .refl
    · exact .single hmove

/-- The coordinator conserves the plan with every result, and so does every run of results: it
completes the steps in their order, each once, and all of them before none is active. -/
theorem coordinator_conserves_plan :
    (∀ (c updated : GovernedPlanCheckpoint) (transition : PlanJournalTransition)
      (result : PackResult), result.translate c = .ok (some (updated, transition)) →
        Conserves c updated ∧ validateTransitionCheckpoint transition updated = .ok ()) ∧
    ∀ c d : GovernedPlanCheckpoint, Reaches ResultStep always c d →
      SamePlan c d ∧ d.stepIdentities = c.stepIdentities ∧
      c.completedPrefix.map (·.identity) <+: d.completedPrefix.map (·.identity) ∧
      d.completedPrefix.map (·.identity) <+: c.stepIdentities ∧
      (c.activeStep.isSome → d.activeStep = none →
        d.completedPrefix.map (·.identity) = c.stepIdentities) := by
  refine ⟨fun c updated transition result htranslate => ?_, fun c d hreaches => ?_⟩
  · obtain ⟨hconserves, hfits⟩ := (PackResult.translate_eq_ok htranslate).conserves
    exact ⟨hconserves, validateTransitionCheckpoint_eq_ok.mpr hfits⟩
  · obtain ⟨hplan, hleads⟩ : RunConserves c d := by
      refine hreaches.related (fun c => ⟨.refl c, .refl⟩) (fun a b e hab hbe => ?_)
        fun _ _ _ _ hstep => hstep.conserves
      exact ⟨hab.plan.trans hbe.plan, hab.leads.trans hbe.leads⟩
    have hitems := hleads.items
    rw [GovernedPlanCheckpoint.items_pipeline, GovernedPlanCheckpoint.items_pipeline] at hitems
    obtain ⟨hkept, hbegins⟩ := hleads.done_prefix
    rw [GovernedPlanCheckpoint.items_pipeline] at hbegins
    refine ⟨hplan, hitems, hkept, hbegins, fun hactive hnone => ?_⟩
    have hbusy : c.pipeline.Busy := by
      intro hidle
      rw [Option.map_eq_none_iff.mp hidle] at hactive
      cases hactive
    have hdone := hleads.done_eq hbusy (Option.map_eq_none_iff.mpr hnone)
    rw [GovernedPlanCheckpoint.items_pipeline] at hdone
    exact hdone

end AgentPact
