import AgentPact.AgentRuns.Frames
import AgentPact.AgentRuns.Service

/-!
# What the commands write

The writes of the commands, one transaction at a time: canceling the native
pair, resolving a pause, rejecting, cancelling, and reflecting an advance.
-/

namespace AgentPact

open Base Transaction

variable {P : Platform} {E : Environment} {user : UserContext} {runId : String}
  {request : AgentRunCommandRequest} {locked : LockedRun} {s t : Database}

/-! ## The native pair -/

/-- The native pair is canceled if there is one. -/
theorem cancelActivePair_writes {checkpoint : GovernedPlanCheckpoint} {u : Unit} :
    cancelActivePair user checkpoint s = .ok u t ↔
      ∃ active task step, checkpoint.activeStep = some active ∧
        s.task? active.nativeTaskId user.orgId = some task ∧
        s.step? active.nativeStepId active.nativeTaskId user.orgId = some step ∧
        t = s.setNativeStatus active.nativeTaskId active.nativeStepId .canceled .canceled := by
  unfold cancelActivePair
  cases hactive : checkpoint.activeStep with
  | none => simp
  | some active =>
      simp only [cancelNativePair, bind_eq_ok, read_eq_ok, require_eq_ok]
      constructor
      · rintro ⟨cancelled, _, ⟨task, _, ⟨htask, rfl⟩, step, _, ⟨hstep, rfl⟩, h⟩, hcancelled, rfl⟩
        split at h
        case isTrue => cases h; cases hcancelled
        case isFalse hfound =>
          simp only [bind_eq_ok, write_eq_ok] at h
          obtain ⟨_, _, rfl, h⟩ := h
          cases h
          simp only [Bool.or_eq_true, Option.isNone_iff_eq_none, not_or] at hfound
          obtain ⟨task, rfl⟩ := Option.ne_none_iff_exists'.mp hfound.1
          obtain ⟨step, rfl⟩ := Option.ne_none_iff_exists'.mp hfound.2
          exact ⟨active, task, step, rfl, htask.symm, hstep.symm, rfl⟩
      · rintro ⟨_, task, step, ⟨⟩, htask, hstep, rfl⟩
        refine ⟨true, _, ⟨some task, s, ⟨htask.symm, rfl⟩, some step, s, ⟨hstep.symm, rfl⟩, ?_⟩, rfl,
          rfl⟩
        rw [if_neg (by simp)]
        exact bind_eq_ok.mpr ⟨(), _, rfl, rfl⟩

/-! ## Pauses -/

/-- A row that is no event is in no journal. -/
theorem loadEvents_insert_quiet {row : GovernanceAuditEventModel}
    (hinsert : s.insertAudit? row = some t) (hquiet : ∀ event, row.payload ≠ .journal event)
    (runId : String) : t.loadEvents runId = s.loadEvents runId := by
  obtain ⟨audit, haudit, rfl⟩ := Database.insertAudit?_eq_some.mp hinsert
  unfold Database.loadEvents
  rw [(Table.insert?_eq_some.mp haudit).2, List.filterMap_append]
  have hnone : Database.journalEvent runId row = none := by
    unfold Database.journalEvent
    cases hpayload : row.payload with
    | journal event => exact absurd hpayload (hquiet event)
    | _ => simp
  rw [List.filterMap_cons_none hnone, List.filterMap_nil, List.append_nil]

/-- Resolving a pause adds at most the row that resolves it. -/
theorem clearPauseSignal_writes {organizationId : String} {u : Unit}
    (h : clearPauseSignal P runId organizationId s = .ok u t) :
    t = s ∨ ∃ pause, s.latestPause runId organizationId = some pause ∧
      s.insertAudit? (resolutionRow P runId organizationId pause) = some t := by
  simp only [clearPauseSignal, bind_eq_ok, read_eq_ok] at h
  obtain ⟨latest, _, ⟨hlatest, rfl⟩, h⟩ := h
  match latest with
  | none => cases h; exact .inl rfl
  | some pause =>
      simp only [bind_eq_ok, read_eq_ok] at h
      obtain ⟨existing, _, ⟨_, rfl⟩, h⟩ := h
      split at h
      case isTrue => cases h; exact .inl rfl
      case isFalse => exact .inr ⟨pause, hlatest.symm, write?_eq_ok.mp h⟩

theorem resolutionRow_payload {organizationId : String} {pause : GovernanceAuditEventModel} :
    (resolutionRow P runId organizationId pause).payload = .pauseResolved runId pause.eventId := rfl

/-- It leaves the other tables and the journals alone. -/
theorem clearPauseSignal_frame {organizationId : String} {u : Unit}
    (h : clearPauseSignal P runId organizationId s = .ok u t) :
    t = { s with audit := t.audit } ∧ ∀ id, t.loadEvents id = s.loadEvents id := by
  rcases clearPauseSignal_writes h with rfl | ⟨pause, _, hinsert⟩
  · exact ⟨rfl, fun _ => rfl⟩
  · have hquiet : ∀ event, (resolutionRow P runId organizationId pause).payload ≠ .journal event := by
      intro event h
      rw [resolutionRow_payload] at h
      cases h
    refine ⟨?_, loadEvents_insert_quiet hinsert hquiet⟩
    obtain ⟨_, _, rfl⟩ := Database.insertAudit?_eq_some.mp hinsert
    rfl

/-! ## Terminations -/

/-- The append of a command. -/
def commandAppend (P : Platform) (E : Environment) (user : UserContext) (runId command callerKey : String)
    (locked : LockedRun) (checkpoint : GovernedPlanCheckpoint) (transition : PlanJournalTransition) :
    AppendRequest where
  organizationId := user.orgId
  checkpoint := checkpoint
  transition := transition
  authorityDigests := locked.authorityDigests
  operationKey := operationKeyOf P user.orgId runId command callerKey
    locked.checkpoint.journalDigest
  createdAt := E.appendedAt

/-- What ending a run writes: a decision that rejects it, or none; the native pair; and an event. -/
inductive Terminated (P : Platform) (E : Environment) (user : UserContext) (runId : String)
    (request : AgentRunCommandRequest) (locked : LockedRun) (s t : Database) : Termination → Prop
  | rejected {action : PendingActionModel} {approval decision : ApprovalRequestModel}
      {decided : Database} {active : GovernedPlanStepRef} {task : TaskModel} {step : StepModel}
      {c : GovernedPlanCheckpoint}
      (hrows : s.pendingApproval locked.checkpoint = .ok (some (action, approval)))
      (hdecide : decideApprovalRequest ⟨approval.approvalId, user.orgId, user.userId, false,
        safeReason P request.reason, E.decidedAt⟩ s = .ok decision decided)
      (hactive : locked.checkpoint.activeStep = some active)
      (htask : decided.task? active.nativeTaskId user.orgId = some task)
      (hstep : decided.step? active.nativeStepId active.nativeTaskId user.orgId = some step)
      (happend : appendAgentRunTransition P
        (commandAppend P E user runId "reject" request.operationKey locked
          (locked.checkpoint.terminated .rejected) .approvalRejected)
        (decided.setNativeStatus active.nativeTaskId active.nativeStepId .canceled .canceled) =
          .ok c t) : Terminated P E user runId request locked s t .reject
  | cancelled {cleared : Database} {active : GovernedPlanStepRef} {task : TaskModel}
      {step : StepModel} {c : GovernedPlanCheckpoint}
      (hactive : locked.checkpoint.activeStep = some active)
      (htask : s.task? active.nativeTaskId user.orgId = some task)
      (hstep : s.step? active.nativeStepId active.nativeTaskId user.orgId = some step)
      (hclear : clearPauseSignal P runId user.orgId
        (s.setNativeStatus active.nativeTaskId active.nativeStepId .canceled .canceled) =
          .ok () cleared)
      (happend : appendAgentRunTransition P
        (commandAppend P E user runId "cancel" request.operationKey locked
          (locked.checkpoint.terminated .cancelled) .runCancelled) cleared = .ok c t) :
      Terminated P E user runId request locked s t .cancel

theorem Termination.writes_terminated {end_ : Termination} {u : Unit}
    (h : end_.writes P E user runId request locked s = .ok u t) :
    Terminated P E user runId request locked s t end_ := by
  cases end_ with
  | reject =>
      simp only [Termination.writes, rejectWrites, bind_eq_ok, query_eq_ok, lift_eq_ok,
        orAgentRunError_eq_ok] at h
      obtain ⟨rows, _, ⟨hrows, rfl⟩, ⟨action, approval⟩, _, ⟨hsome, rfl⟩, decision, decided, hdecide,
        _, db₂, hcancel, c, _, happend, hpure⟩ := h
      cases hpure
      subst hsome
      obtain ⟨active, task, step, hactive, htask, hstep, rfl⟩ := cancelActivePair_writes.mp hcancel
      exact .rejected hrows hdecide hactive htask hstep happend
  | cancel =>
      simp only [Termination.writes, cancelWrites, bind_eq_ok] at h
      obtain ⟨_, db₁, hcancel, _, cleared, hclear, c, _, happend, hpure⟩ := h
      cases hpure
      obtain ⟨active, task, step, hactive, htask, hstep, rfl⟩ := cancelActivePair_writes.mp hcancel
      exact .cancelled hactive htask hstep hclear happend

/-- A termination leaves the database as it was, or as its writes made it. -/
theorem Termination.run_left {end_ : Termination} :
    left (end_.run P E user runId request s) = s ∨ ∃ locked,
      end_.admits P E user runId s = .ok (.inr locked) ∧
      Terminated P E user runId request locked s (left (end_.run P E user runId request s))
        end_ := by
  cases hadmits : end_.admits P E user runId s with
  | error e => exact .inl (Termination.run_keeps fun _ h => by rw [hadmits] at h; cases h)
  | ok admitted =>
      match admitted with
      | .inl p => exact .inl (Termination.run_keeps fun _ h => by rw [hadmits] at h; cases h)
      | .inr locked =>
          have hleft : left (end_.run P E user runId request s) =
              left (atomic (end_.writes P E user runId request locked) s) := by
            unfold Termination.run
            rw [bind_of_ok (query_eq_ok.mpr ⟨hadmits, rfl⟩)]
            exact left_bind_of_keeps fun _ _ _ => left_query
          cases hwrites : atomic (end_.writes P E user runId request locked) s with
          | error e t =>
              rw [hleft, hwrites]
              exact .inl (atomic_eq_error.mp hwrites).2
          | ok u t =>
              rw [hleft, hwrites]
              exact .inr ⟨locked, rfl, Termination.writes_terminated (atomic_eq_ok.mp hwrites)⟩

/-! ## Advances -/

/-- The append of what the coordinator made of a result. -/
def resultAppend (E : Environment) (user : UserContext) (operationKey : String)
    (locked : LockedRun) (checkpoint : GovernedPlanCheckpoint) (transition : PlanJournalTransition) :
    AppendRequest where
  organizationId := user.orgId
  checkpoint := checkpoint
  transition := transition
  authorityDigests := locked.authorityDigests
  operationKey := operationKey
  createdAt := E.reflectedAt

/-- Reflecting an advance appends what the coordinator made of it, or does nothing. -/
theorem reflectAdvanceResult_left {result : PackAdvanceResult} {operationKey : String} :
    left (reflectAdvanceResult P E user result operationKey s) = s ∨
      ∃ locked updated transition c, LoadedFrom P s user.orgId result.runId locked ∧
        AgentRunResultCoordinator.advance locked.checkpoint result =
          .ok (some (updated, transition)) ∧
        appendAgentRunTransition P (resultAppend E user operationKey locked updated transition) s =
          .ok c (left (reflectAdvanceResult P E user result operationKey s)) := by
  cases hreflect : reflectAdvanceResult P E user result operationKey s with
  | error e t => exact .inl (atomic_eq_error.mp hreflect).2
  | ok u t =>
      simp only [reflectAdvanceResult, atomic_eq_ok, bind_eq_ok, query_eq_ok, lift_eq_ok] at hreflect
      obtain ⟨locked, _, ⟨hload, rfl⟩, translated, _, ⟨htranslated, rfl⟩, happend⟩ := hreflect
      cases translated with
      | none => cases happend; exact .inl rfl
      | some found =>
          obtain ⟨updated, transition⟩ := found
          obtain ⟨c, _, happend, hpure⟩ := bind_eq_ok.mp happend
          cases hpure
          exact .inr ⟨locked, updated, transition, c, loadLocked_eq_ok.mp hload, htranslated, happend⟩

end AgentPact
