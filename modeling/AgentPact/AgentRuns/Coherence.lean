import AgentPact.Base.Lts
import AgentPact.AgentRuns.ApprovalQueue
import AgentPact.AgentRuns.ApprovalRounds
import AgentPact.AgentRuns.Writes

/-!
# Approvals and the journal

Three drivers settle an approval: the service, the approval endpoint and the
recovery scan.  Only the service journals what it does.

`Coherent` says how the rows around the steps of a run agree with its journal.
Every driver preserves it, as long as the endpoint rejects no approval that a
step of the run waits for, and the scan resumes no task of the run.

A transaction that appends changes rows first, and the rows alone are not
coherent with the journal.  So what it does to the rows (`Database.Calm`) and
what its event makes of the journal are told apart, and `Coherent.appended`
puts them together.
-/

namespace AgentPact

open Base Transaction

/-! ## Steps and their rows -/

/-- The steps that are not completed. -/
def GovernedPlanCheckpoint.ahead (c : GovernedPlanCheckpoint) : List GovernedPlanStepRef :=
  c.activeStep.toList ++ c.remainingSuffix

namespace GovernedPlanStepRef

variable (a b : GovernedPlanStepRef)

/-- Two references are to one native step. -/
def SameNative : Prop := a.nativeTaskId = b.nativeTaskId ∧ a.nativeStepId = b.nativeStepId

/-- A pending action is of the native step. -/
def Owns (m : PendingActionModel) : Prop :=
  m.taskId = a.nativeTaskId ∧ m.stepId = a.nativeStepId

end GovernedPlanStepRef

theorem GovernedPlanStepRef.SameNative.refl (a : GovernedPlanStepRef) : a.SameNative a := ⟨rfl, rfl⟩

/-- Ending a run leaves its steps ahead the same. -/
theorem GovernedPlanCheckpoint.terminated_ahead {c : GovernedPlanCheckpoint} {state : PlanRunState}
    {x : GovernedPlanStepRef} (hx : x ∈ (c.terminated state).ahead) :
    ∃ x₀ ∈ c.ahead, x₀.SameNative x := by
  rcases List.mem_append.mp hx with hx | hx
  · obtain ⟨x₀, hx₀, rfl⟩ := Option.map_eq_some_iff.mp (Option.mem_toList.mp hx)
    exact ⟨x₀, List.mem_append_left _ (Option.mem_toList.mpr hx₀), rfl, rfl⟩
  · exact ⟨x, List.mem_append_right _ hx, .refl x⟩

/-- Completing the active step leaves the others ahead. -/
theorem GovernedPlanCheckpoint.completeActive_ahead {c : GovernedPlanCheckpoint}
    {active x : GovernedPlanStepRef} (hx : x ∈ (c.completeActive active).ahead) :
    ∃ x₀ ∈ c.ahead, x₀.SameNative x := by
  rcases List.mem_append.mp hx with hx | hx
  · obtain ⟨x₀, hx₀, rfl⟩ := Option.map_eq_some_iff.mp (Option.mem_toList.mp hx)
    exact ⟨x₀, List.mem_append_right _ (List.mem_of_mem_head? hx₀), rfl, rfl⟩
  · exact ⟨x, List.mem_append_right _ (List.mem_of_mem_tail hx), .refl x⟩

/-- The event records a transition of the native step. -/
def PlanJournalEvent.Records (event : PlanJournalEvent) (transition : PlanJournalTransition)
    (x : GovernedPlanStepRef) : Prop :=
  event.transition = transition ∧ ∃ a, event.checkpoint.activeStep = some a ∧ a.SameNative x

/-- The journal resumes the last approval pause of the step. -/
def ResumedIn (events : List PlanJournalEvent) (x : GovernedPlanStepRef) : Prop :=
  ∃ before event after, events = before ++ event :: after ∧
    event.Records .approvalResumed x ∧ ∀ e ∈ after, ¬ e.Records .approvalRequired x

theorem PlanJournalEvent.Records.of_sameNative {event : PlanJournalEvent}
    {transition : PlanJournalTransition} {a b : GovernedPlanStepRef} (h : a.SameNative b)
    (ha : event.Records transition a) : event.Records transition b := by
  obtain ⟨htransition, active, hactive, hnative⟩ := ha
  exact ⟨htransition, active, hactive, hnative.1.trans h.1, hnative.2.trans h.2⟩

theorem ResumedIn.of_sameNative {events : List PlanJournalEvent} {a b : GovernedPlanStepRef}
    (h : a.SameNative b) (ha : ResumedIn events a) : ResumedIn events b := by
  obtain ⟨before, event, after, hevents, hresumed, hafter⟩ := ha
  exact ⟨before, event, after, hevents, hresumed.of_sameNative h,
    fun e he hrecords => hafter e he (hrecords.of_sameNative ⟨h.1.symm, h.2.symm⟩)⟩

theorem ResumedIn.of_last {events : List PlanJournalEvent} {event : PlanJournalEvent}
    {x : GovernedPlanStepRef} (h : event.Records .approvalResumed x) :
    ResumedIn (events ++ [event]) x :=
  ⟨events, event, [], rfl, h, fun _ he => absurd he List.not_mem_nil⟩

theorem ResumedIn.concat {events : List PlanJournalEvent} {event : PlanJournalEvent}
    {x : GovernedPlanStepRef} (h : ResumedIn events x)
    (hevent : ¬ event.Records .approvalRequired x) : ResumedIn (events ++ [event]) x := by
  obtain ⟨before, resumed, after, rfl, hresumed, hafter⟩ := h
  refine ⟨before, resumed, after ++ [event], by simp, hresumed, fun e he => ?_⟩
  rcases List.mem_append.mp he with he | he
  · exact hafter e he
  · rw [List.mem_singleton.mp he]
    exact hevent

namespace Database

/-- The native step resumes. -/
def Resuming (db : Database) (x : GovernedPlanStepRef) : Prop :=
  ∃ row, db.steps.find? x.nativeStepId = some row ∧ row.taskId = x.nativeTaskId ∧
    row.status = .resuming

/-- The pending action is rejected, or the approval request it is linked to. -/
def Rejected (db : Database) (m : PendingActionModel) : Prop :=
  m.status = .rejected ∨ ∃ id approval, m.approvalId = some id ∧
    db.approvals.find? id = some approval ∧ approval.status = .rejected

/-- An approval of the step is rejected. -/
def HasRejected (db : Database) (x : GovernedPlanStepRef) : Prop :=
  ∃ m ∈ db.pendingActions.rows, x.Owns m ∧ db.Rejected m

/-- An approval of the step is pending, or granted and not used. -/
def HasUnresolved (db : Database) (x : GovernedPlanStepRef) : Prop :=
  ∃ m ∈ db.pendingActions.rows, x.Owns m ∧ m.status ∈ [.pending, .approved]

/-- The step does not start to resume, no approval of it is rejected, and none is used up. -/
structure Calm (s t : Database) (x : GovernedPlanStepRef) : Prop where
  resuming : t.Resuming x → s.Resuming x
  rejected : t.HasRejected x → s.HasRejected x
  unresolved : s.HasUnresolved x → t.HasUnresolved x

theorem Calm.refl (s : Database) (x : GovernedPlanStepRef) : s.Calm s x := ⟨id, id, id⟩

theorem Calm.trans {s t u : Database} {x : GovernedPlanStepRef} (h : s.Calm t x)
    (h' : t.Calm u x) : s.Calm u x :=
  ⟨h.resuming ∘ h'.resuming, h.rejected ∘ h'.rejected, h'.unresolved ∘ h.unresolved⟩

theorem Resuming.of_sameNative {db : Database} {a b : GovernedPlanStepRef} (h : a.SameNative b)
    (hb : db.Resuming b) : db.Resuming a := by
  unfold Resuming
  rw [h.1, h.2]
  exact hb

theorem HasRejected.of_sameNative {db : Database} {a b : GovernedPlanStepRef} (h : a.SameNative b)
    (hb : db.HasRejected b) : db.HasRejected a := by
  unfold HasRejected GovernedPlanStepRef.Owns
  rw [h.1, h.2]
  exact hb

/-- Rows of other tables do not matter. -/
theorem Calm.of_same {s t : Database} {x : GovernedPlanStepRef} (hsteps : t.steps = s.steps)
    (hactions : t.pendingActions = s.pendingActions) (happrovals : t.approvals = s.approvals) :
    s.Calm t x := by
  constructor
  · unfold Resuming
    rw [hsteps]
    exact id
  · unfold HasRejected Rejected
    rw [hactions, happrovals]
    exact id
  · unfold HasUnresolved
    rw [hactions]
    exact id

/-- A step resumes after its native rows were set only if they were set so, or it did before. -/
theorem Resuming.of_setNativeStatus {db : Database} {x : GovernedPlanStepRef}
    {taskId stepId : String} {taskStatus : AgentRunTaskStatus} {stepStatus : AgentRunStepStatus}
    (h : (db.setNativeStatus taskId stepId taskStatus stepStatus).Resuming x) :
    (x.nativeStepId ≠ stepId ∧ db.Resuming x) ∨
      (x.nativeStepId = stepId ∧ stepStatus = .resuming ∧
        ∃ row, db.steps.find? stepId = some row ∧ row.taskId = x.nativeTaskId) := by
  obtain ⟨row, hfind, htask, hstatus⟩ := h
  by_cases hstep : x.nativeStepId = stepId
  · subst hstep
    cases hbefore : db.steps.find? x.nativeStepId with
    | none =>
        have hnone := Table.find?_update_none (e := StepModel.setStatus stepStatus)
          (k := x.nativeStepId) hbefore
        rw [show (db.steps.update x.nativeStepId (StepModel.setStatus stepStatus)).find?
          x.nativeStepId = some row from hfind] at hnone
        cases hnone
    | some row₀ =>
        have hsome := Table.find?_update_self (e := StepModel.setStatus stepStatus) hbefore
        cases hsome.symm.trans hfind
        exact .inr ⟨rfl, hstatus, row₀, rfl, htask⟩
  · have hsame := Table.find?_update_ne (t := db.steps) (e := StepModel.setStatus stepStatus) hstep
    exact .inl ⟨hstep, row, hsame.symm.trans hfind, htask, hstatus⟩

/-- Setting a native pair to another status than resuming disturbs no step. -/
theorem Calm.setNativeStatus {db : Database} {x : GovernedPlanStepRef} {taskId stepId : String}
    {taskStatus : AgentRunTaskStatus} {stepStatus : AgentRunStepStatus}
    (h : stepStatus ≠ .resuming) :
    db.Calm (db.setNativeStatus taskId stepId taskStatus stepStatus) x where
  resuming hresuming := by
    rcases hresuming.of_setNativeStatus with ⟨_, hbefore⟩ | ⟨_, hset, _⟩
    · exact hbefore
    · exact absurd hset h
  rejected := id
  unresolved := id

end Database

/-! ## Decisions and pauses -/

/-- Moving an action leaves its step and its approval alone. -/
theorem PendingActionModel.move_same (fromStatus toStatus : PendingActionStatus)
    (h : toStatus.unresolved = true → fromStatus.unresolved = true) (m : PendingActionModel) :
    ((PendingActionModel.move fromStatus toStatus h).apply m).taskId = m.taskId ∧
      ((PendingActionModel.move fromStatus toStatus h).apply m).stepId = m.stepId ∧
      ((PendingActionModel.move fromStatus toStatus h).apply m).organizationId = m.organizationId ∧
      ((PendingActionModel.move fromStatus toStatus h).apply m).approvalId = m.approvalId ∧
      (((PendingActionModel.move fromStatus toStatus h).apply m).status = m.status ∨
        m.status = fromStatus ∧
          ((PendingActionModel.move fromStatus toStatus h).apply m).status = toStatus) := by
  unfold PendingActionModel.move
  dsimp only
  split
  case isTrue h => exact ⟨rfl, rfl, rfl, rfl, .inr ⟨h, rfl⟩⟩
  case isFalse => exact ⟨rfl, rfl, rfl, rfl, .inl rfl⟩

/-- An action is linked to one approval, and the approval to it. -/
theorem Database.pendingOf_unique {db : Database} {approvalId : String}
    {model m : PendingActionModel} (h : db.pendingOf approvalId = some model)
    (hm : m ∈ db.pendingActions.rows) (hlinked : m.approvalId = some approvalId) : m = model := by
  obtain ⟨hfind, hlinked'⟩ := pendingOf_eq_some h
  refine Table.eq_of_clash hm (Table.mem_of_find? hfind) ?_
  simp [Schema.clash, PendingActionModel.clash, bothEqual_iff, hlinked, hlinked']

/-- An action that is linked to an approval request is decided by it. -/
theorem Database.pendingOf_of_linked {db : Database} {approvalId : String} {m : PendingActionModel}
    (hm : m ∈ db.pendingActions.rows) (hlinked : m.approvalId = some approvalId) :
    ∃ model, db.pendingOf approvalId = some model := by
  have hmem : m ∈ db.pendingActions.select fun m => m.approvalId = some approvalId :=
    Table.mem_select.mpr ⟨hm, by simpa using hlinked⟩
  cases hpending : db.pendingOf approvalId with
  | none =>
      rw [List.head?_eq_none_iff.mp hpending] at hmem
      exact absurd hmem List.not_mem_nil
  | some model => exact ⟨model, rfl⟩

/-- What a decision makes of a pending action: it moves the one linked to the approval. -/
structure DecidedRow (d : ApprovalDecision) (s : Database) (m m' : PendingActionModel) : Prop where
  taskId : m'.taskId = m.taskId
  stepId : m'.stepId = m.stepId
  organizationId : m'.organizationId = m.organizationId
  approvalId : m'.approvalId = m.approvalId
  status : m'.status = m.status ∨
    (s.pendingOf d.approvalId = some m ∧ m.status = .pending ∧ m'.status = d.pendingStatus)
  linked : m.approvalId = some d.approvalId → m.status = .pending ∧ m'.status = d.pendingStatus

theorem DecisionWrites.rows {d : ApprovalDecision} {s t : Database} (h : DecisionWrites d s t) :
    t.approvals = s.approvals.update d.approvalId (ApprovalRequestModel.decide d) ∧
      ∃ f, t.pendingActions.rows = s.pendingActions.rows.map f ∧
        ∀ m ∈ s.pendingActions.rows, DecidedRow d s m (f m) := by
  cases h with
  | alone hnone =>
      refine ⟨rfl, id, (List.map_id _).symm, fun m hm =>
        ⟨rfl, rfl, rfl, rfl, .inl rfl, fun hlinked => ?_⟩⟩
      obtain ⟨model, hsome⟩ := Database.pendingOf_of_linked hm hlinked
      rw [hnone] at hsome
      cases hsome
  | @linked model hsome hpending _ =>
      refine ⟨rfl, _, rfl, fun m hm => ?_⟩
      unfold Table.editAt
      split
      case isTrue hkey =>
        have hfind := (Database.pendingOf_eq_some hsome).1
        have hsame : m = model :=
          Table.eq_of_clash hm (Table.mem_of_find? hfind) (Schema.clash_of_key hkey)
        obtain ⟨htask, hstep, horg, hlinked, hstatus⟩ :=
          PendingActionModel.move_same .pending d.pendingStatus (fun _ => rfl) m
        refine ⟨htask, hstep, horg, hlinked, hstatus.imp_right fun hmoved => ⟨hsame ▸ hsome, hmoved⟩,
          fun _ => ?_⟩
        subst hsame
        exact ⟨hpending, by simp [PendingActionModel.move, hpending]⟩
      case isFalse hkey =>
        refine ⟨rfl, rfl, rfl, rfl, .inl rfl, fun hlinked => ?_⟩
        exact absurd (congrArg Schema.key (Database.pendingOf_unique hsome hm hlinked)) hkey

/-- A decision disturbs no step, unless it rejects an approval of it. -/
theorem DecisionWrites.calm {d : ApprovalDecision} {s t : Database} (h : DecisionWrites d s t)
    {x : GovernedPlanStepRef}
    (hx : d.approved = true ∨ ∀ m, s.pendingOf d.approvalId = some m → ¬ x.Owns m) :
    s.Calm t x := by
  obtain ⟨happrovals, f, hrows, hf⟩ := h.rows
  refine ⟨?_, ?_, ?_⟩
  · rw [h.same]
    exact id
  · rintro ⟨m', hm', ⟨htask, hstep⟩, hrejected⟩
    rw [hrows] at hm'
    obtain ⟨m, hm, rfl⟩ := List.mem_map.mp hm'
    have hrow := hf m hm
    have howns : x.Owns m := ⟨hrow.taskId ▸ htask, hrow.stepId ▸ hstep⟩
    refine ⟨m, hm, howns, ?_⟩
    rcases hrejected with hstatus | ⟨id, approval, hlinked, hfind, hstatus⟩
    · rcases hrow.status with hsame | ⟨hpending, _, hmoved⟩
      · exact .inl (hsame ▸ hstatus)
      · -- the decision rejected the action, so it is no action of the step
        rcases hx with happroved | hother
        · simp [hmoved, ApprovalDecision.pendingStatus, happroved] at hstatus
        · exact absurd howns (hother m hpending)
    · rw [hrow.approvalId] at hlinked
      rw [happrovals] at hfind
      obtain ⟨approval₀, hfind₀, rfl | ⟨hid, rfl⟩⟩ := Table.find?_update_some hfind
      · exact .inr ⟨id, approval, hlinked, hfind₀, hstatus⟩
      · rcases hx with happroved | hother
        · simp [ApprovalRequestModel.decide, ApprovalDecision.status, happroved] at hstatus
        · -- the decision rejected the approval of this very action
          subst hid
          obtain ⟨model, hpending⟩ := Database.pendingOf_of_linked hm hlinked
          have hsame := Database.pendingOf_unique hpending hm hlinked
          exact absurd howns (hother m (hsame ▸ hpending))
  · rintro ⟨m, hm, ⟨htask, hstep⟩, hunresolved⟩
    have hrow := hf m hm
    refine ⟨f m, by rw [hrows]; exact List.mem_map_of_mem hm,
      ⟨hrow.taskId.trans htask, hrow.stepId.trans hstep⟩, ?_⟩
    rcases hrow.status with hsame | ⟨hpending, _, hmoved⟩
    · rw [hsame]
      exact hunresolved
    · rcases hx with happroved | hother
      · simp [hmoved, ApprovalDecision.pendingStatus, happroved]
      · exact absurd ⟨htask, hstep⟩ (hother m hpending)

/-- Using up an approval rejects none. -/
theorem Database.HasRejected.of_invalidate {db : Database} {id : String} {x : GovernedPlanStepRef}
    (h : (db.updatePending id
      (PendingActionModel.move .approved .invalidated invalidated_resolved)).HasRejected x) :
    db.HasRejected x := by
  obtain ⟨m', hm', ⟨htask, hstep⟩, hrejected⟩ := h
  obtain ⟨m, hm, hedit⟩ := Table.mem_update.mp hm'
  unfold Table.editAt at hedit
  split at hedit
  case isFalse => exact ⟨m, hm, by rw [hedit]; exact ⟨⟨htask, hstep⟩, hrejected⟩⟩
  case isTrue =>
    subst hedit
    obtain ⟨htask', hstep', _, hlinked', hstatus'⟩ :=
      PendingActionModel.move_same .approved .invalidated invalidated_resolved m
    refine ⟨m, hm, ⟨htask' ▸ htask, hstep' ▸ hstep⟩, ?_⟩
    rcases hrejected with hstatus | ⟨id, approval, hlinked, hfind, hstatus⟩
    · rcases hstatus' with hsame | ⟨_, hinvalidated⟩
      · exact .inl (hsame ▸ hstatus)
      · rw [hinvalidated] at hstatus
        cases hstatus
    · exact .inr ⟨id, approval, hlinked' ▸ hlinked, hfind, hstatus⟩

/-- And leaves the approvals of other steps to be used. -/
theorem Database.HasUnresolved.invalidate {db : Database} {id : String}
    {model : PendingActionModel} {x : GovernedPlanStepRef} (h : db.HasUnresolved x)
    (hfind : db.pendingActions.find? id = some model) (hx : ¬ x.Owns model) :
    (db.updatePending id
      (PendingActionModel.move .approved .invalidated invalidated_resolved)).HasUnresolved x := by
  obtain ⟨m, hm, howns, hunresolved⟩ := h
  refine ⟨m, Table.mem_update.mpr ⟨m, hm, ?_⟩, howns, hunresolved⟩
  refine if_neg fun hkey => hx ?_
  have hsame : m = model := Option.some.inj ((Table.find?_key hm).symm.trans (hkey ▸ hfind))
  exact hsame ▸ howns

/-- A pause rejects no approval, and its own is unresolved. -/
theorem PausedStep.quiet {pause : ApprovalPauseRequest} {s t : Database} {row : PendingActionModel}
    (h : PausedStep pause s t row) (x : GovernedPlanStepRef) :
    (t.Resuming x → s.Resuming x ∧ pause.stepId ≠ x.nativeStepId) ∧
      (t.HasRejected x → s.HasRejected x) ∧
      (pause.taskId = x.nativeTaskId ∧ pause.stepId = x.nativeStepId → t.HasUnresolved x) := by
  refine ⟨fun hresuming => ?_, ?_, fun ⟨htask, hstep⟩ => ?_⟩
  · rw [h.same] at hresuming
    have hset : (s.setNativeStatus pause.taskId pause.stepId .pendingApproval
      .pendingApproval).Resuming x := hresuming
    rcases hset.of_setNativeStatus with ⟨hne, hbefore⟩ | ⟨_, hset, _⟩
    · exact ⟨hbefore, hne.symm⟩
    · cases hset
  · rintro ⟨m, hm, howns, hrejected⟩
    rw [h.pendingActions] at hm
    rcases List.mem_append.mp hm with hm | hm
    · refine ⟨m, hm, howns, hrejected.imp_right ?_⟩
      rintro ⟨id, approval, hlinked, hfind, hstatus⟩
      rcases (Table.mem_insert? h.approvals).mp (Table.mem_of_find? hfind) with hold | rfl
      · exact ⟨id, approval, hlinked, Table.find?_eq_some.mpr ⟨hold, Table.key_of_find? hfind⟩,
          hstatus⟩
      · cases hstatus
    · -- the action of the pause is pending, and so is its approval
      rw [List.mem_singleton.mp hm] at hrejected
      rcases hrejected with hstatus | ⟨id, approval, hlinked, hfind, hstatus⟩
      · rw [h.adds.status] at hstatus
        cases hstatus
      · rw [h.adds.approvalId] at hlinked
        cases hlinked
        have hnew : t.approvals.find? pause.approvalId = some pause.approval :=
          Table.find?_insert?_self h.approvals
        cases hnew.symm.trans hfind
        cases hstatus
  · refine ⟨row, by rw [h.pendingActions]; simp, ⟨?_, ?_⟩, by simp [h.adds.status]⟩
    · rw [h.adds.taskId, htask]
    · rw [h.adds.stepId, hstep]

/-! ## Coherence -/

/-- The rows around the steps of a run agree with its journal, wherever the journal replays. -/
structure Coherent (P : Platform) (runId : String) (db : Database) : Prop where
  filed : ∀ event ∈ db.loadEvents runId, event.rootTaskId = runId
  resumed : ∀ c, replayPlanJournal P (db.loadEvents runId) = .ok c →
    ∀ x ∈ c.ahead, db.Resuming x → ResumedIn (db.loadEvents runId) x
  rejected : ∀ c, replayPlanJournal P (db.loadEvents runId) = .ok c →
    ∀ x ∈ c.ahead, db.HasRejected x →
      ∃ last, (db.loadEvents runId).getLast? = some last ∧ last.transition = .approvalRejected
  required : ∀ c, replayPlanJournal P (db.loadEvents runId) = .ok c →
    c.state = .approvalRequired → ∃ x, c.activeStep = some x ∧ db.HasUnresolved x

namespace Coherent

variable {P : Platform} {runId : String} {s t u : Database}

/-- The journal of a run is its own. -/
theorem root (h : Coherent P runId s) {c : GovernedPlanCheckpoint}
    (hreplay : replayPlanJournal P (s.loadEvents runId) = .ok c) : c.rootTaskId = runId := by
  obtain ⟨last, hlast, _⟩ := replayPlanJournal_last hreplay
  have hmem := List.mem_of_getLast? hlast
  exact (replayPlanJournal_root hreplay last hmem).symm.trans (h.filed last hmem)

/-- What disturbs no step ahead and no journal keeps the rows in agreement. -/
theorem quiet (h : Coherent P runId s) (hevents : t.loadEvents runId = s.loadEvents runId)
    (hcalm : ∀ c, replayPlanJournal P (s.loadEvents runId) = .ok c → ∀ x ∈ c.ahead, s.Calm t x) :
    Coherent P runId t := by
  refine ⟨?_, ?_, ?_, ?_⟩
  · rw [hevents]
    exact h.filed
  · rw [hevents]
    exact fun c hc x hx hresuming => h.resumed c hc x hx ((hcalm c hc x hx).resuming hresuming)
  · rw [hevents]
    exact fun c hc x hx hrejected => h.rejected c hc x hx ((hcalm c hc x hx).rejected hrejected)
  · rw [hevents]
    intro c hc hstate
    obtain ⟨x, hactive, hunresolved⟩ := h.required c hc hstate
    have hx : x ∈ c.ahead := List.mem_append_left _ (Option.mem_toList.mpr hactive)
    exact ⟨x, hactive, (hcalm c hc x hx).unresolved hunresolved⟩

/-- An append to the journal of a coherent run, after writes to the rows. -/
theorem appended (h : Coherent P runId s) (hevents : u.loadEvents runId = s.loadEvents runId)
    {c₀ c : GovernedPlanCheckpoint} {r : AppendRequest}
    (hreplay : replayPlanJournal P (s.loadEvents runId) = .ok c₀)
    (happend : appendAgentRunTransition P r u = .ok c t) (hfresh : r.Fresh c₀)
    (hroot : r.checkpoint.rootTaskId = runId)
    (hahead : ∀ x ∈ r.checkpoint.ahead, ∃ x₀ ∈ c₀.ahead, x₀.SameNative x)
    (hresumed : ∀ x, u.Resuming x → (r.event P).Records .approvalResumed x ∨
      s.Resuming x ∧ ¬ (r.event P).Records .approvalRequired x)
    (hrejected : r.transition = .approvalRejected ∨ ∀ x, u.HasRejected x → s.HasRejected x)
    (hrequired : r.checkpoint.state = .approvalRequired →
      ∃ x, r.checkpoint.activeStep = some x ∧ u.HasUnresolved x) : Coherent P runId t := by
  subst hroot
  obtain ⟨happendable, root, restored, _, _, hreplay', ⟨_, _, hinsert, _⟩ | ⟨hstale, _⟩⟩ :=
    appendAgentRunTransition_eq_ok.mp happend
  case inr =>
    rw [hevents, hreplay] at hreplay'
    cases hreplay'
    exact absurd hfresh hstale
  obtain ⟨last, hlast, _⟩ := replayPlanJournal_last hreplay
  rw [← hevents] at hreplay hlast
  have hlonger := hfresh.loadEvents hreplay hinsert
  have hiff := fun c' => hfresh.replay_iff (c := c') happendable hlast hreplay
  rw [← hlonger] at hiff
  -- the rows around the steps are those before the append
  have hsame : t.steps = u.steps ∧ t.pendingActions = u.pendingActions ∧ t.approvals = u.approvals := by
    rw [appendAgentRunTransition_frame happend]
    exact ⟨rfl, rfl, rfl⟩
  obtain ⟨hsteps, hactions, happrovals⟩ := hsame
  have hcalm := fun x => Database.Calm.of_same (x := x) hsteps hactions happrovals
  have hback : ∀ x, u.HasUnresolved x → t.HasUnresolved x := fun x => (hcalm x).unresolved
  refine ⟨fun event he => ?_, fun c' hc' x hx hresuming => ?_, fun c' hc' x hx hhas => ?_,
    fun c' hc' hstate => ?_⟩
  · rw [hlonger, hevents] at he
    rcases List.mem_append.mp he with he | he
    · exact h.filed event he
    · rw [List.mem_singleton.mp he]
      rfl
  · obtain ⟨_, rfl⟩ := (hiff c').mp hc'
    obtain ⟨x₀, hx₀, hnative⟩ := hahead x hx
    rw [hlonger]
    rcases hresumed x ((hcalm x).resuming hresuming) with hrecords | ⟨hbefore, hnot⟩
    · exact .of_last hrecords
    · have hjournal := h.resumed c₀ (hevents ▸ hreplay) x₀ hx₀ (hbefore.of_sameNative hnative)
      rw [hevents]
      exact (hjournal.of_sameNative hnative).concat hnot
  · obtain ⟨hextends, rfl⟩ := (hiff c').mp hc'
    rcases hrejected with htransition | hrejected
    · exact ⟨r.event P, by rw [hlonger, List.getLast?_concat], htransition⟩
    · -- no event follows a rejection
      obtain ⟨x₀, hx₀, hnative⟩ := hahead x hx
      have hbefore := hrejected x ((hcalm x).rejected hhas)
      obtain ⟨last', hlast', hended⟩ :=
        h.rejected c₀ (hevents ▸ hreplay) x₀ hx₀ (hbefore.of_sameNative hnative)
      rw [← hevents] at hlast'
      cases hlast.symm.trans hlast'
      have hopen := hextends.open_
      rw [hended] at hopen
      cases hopen
  · obtain ⟨_, rfl⟩ := (hiff c').mp hc'
    obtain ⟨x, hactive, hunresolved⟩ := hrequired hstate
    exact ⟨x, hactive, hback x hunresolved⟩

end Coherent

end AgentPact
