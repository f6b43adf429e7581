import AgentPact.AgentRuns.Approvals
import AgentPact.AgentRuns.Projection

/-!
# What a transaction leaves of a run

A transaction on the rows around a step changes the status of native rows, and
tables that no journal is in.  `Database.SameRuns` says so, and then every run
still loads.

An append changes what a run loads to, and `LoadedFrom.appended_iff` says how.
-/

namespace AgentPact

open Base Transaction

/-! ## Native rows -/

/-- Only the status of a task differs. -/
def SameTask (a b : TaskModel) : Prop := b = { a with status := b.status }

theorem SameTask.refl (a : TaskModel) : SameTask a a := rfl

theorem SameTask.trans (a b c : TaskModel) (h : SameTask a b) (h' : SameTask b c) :
    SameTask a c := by
  unfold SameTask at *
  rw [h', h]

namespace Database

/-- The task of a native pair has the status it was given. -/
theorem task?_setNativeStatus {db : Database} {taskId stepId organizationId : String}
    {task : TaskModel} {taskStatus : AgentRunTaskStatus} {stepStatus : AgentRunStepStatus}
    (h : db.task? taskId organizationId = some task) :
    (db.setNativeStatus taskId stepId taskStatus stepStatus).task? taskId organizationId =
      some { task with status := taskStatus } := by
  obtain ⟨hfind, horganization⟩ := Option.filter_eq_some_iff.mp h
  exact Option.filter_eq_some_iff.mpr ⟨Table.find?_update_self hfind, horganization⟩

/-- So has its step. -/
theorem step?_setNativeStatus {db : Database} {taskId stepId organizationId : String}
    {step : StepModel} {taskStatus : AgentRunTaskStatus} {stepStatus : AgentRunStepStatus}
    (h : db.step? stepId taskId organizationId = some step) :
    (db.setNativeStatus taskId stepId taskStatus stepStatus).step? stepId taskId organizationId =
      some { step with status := stepStatus } := by
  obtain ⟨hfind, hsame⟩ := Option.filter_eq_some_iff.mp h
  exact Option.filter_eq_some_iff.mpr ⟨Table.find?_update_self hfind, hsame⟩

/-- The native pairs of other tasks stay. -/
theorem getNativePair_setNativeStatus {db : Database} {taskId stepId organizationId taskId' stepId'
    organizationId' : String} {step : StepModel} {taskStatus : AgentRunTaskStatus}
    {stepStatus : AgentRunStepStatus} (hne : taskId' ≠ taskId)
    (hstep : db.step? stepId taskId organizationId = some step) :
    (db.setNativeStatus taskId stepId taskStatus stepStatus).getNativePair taskId' stepId'
        organizationId' =
      db.getNativePair taskId' stepId' organizationId' := by
  have htask : (db.setNativeStatus taskId stepId taskStatus stepStatus).task? taskId'
      organizationId' = db.task? taskId' organizationId' := by
    show ((db.tasks.update taskId _).find? taskId').filter _ = _
    rw [Table.find?_update_ne hne]
    rfl
  have hother : (db.setNativeStatus taskId stepId taskStatus stepStatus).step? stepId' taskId'
      organizationId' = db.step? stepId' taskId' organizationId' := by
    show ((db.steps.update stepId _).find? stepId').filter _ = (db.steps.find? stepId').filter _
    by_cases hsame : stepId' = stepId
    · -- the step that changed is of another task
      subst hsame
      obtain ⟨hfind, hof⟩ := Option.filter_eq_some_iff.mp hstep
      simp only [Bool.and_eq_true, decide_eq_true_eq] at hof
      have hforeign : step.taskId ≠ taskId' := hof.1 ▸ hne.symm
      rw [Table.find?_update_self hfind, hfind]
      simp [Option.filter, StepModel.setStatus, hforeign]
    · rw [Table.find?_update_ne hsame]
  unfold Database.getNativePair
  rw [htask, hother]

/-! ## Runs -/

/-- Journals and admissions are the same, and tasks differ in their status only. -/
structure SameRuns (s t : Database) : Prop where
  audit : t.audit = s.audit
  admissions : t.admissions = s.admissions
  tasks : s.tasks.Evolves SameTask t.tasks

namespace SameRuns

variable {s t u : Database}

theorem refl (s : Database) : s.SameRuns s := ⟨rfl, rfl, .refl SameTask.refl _⟩

theorem trans (h : s.SameRuns t) (h' : t.SameRuns u) : s.SameRuns u where
  audit := h'.audit.trans h.audit
  admissions := h'.admissions.trans h.admissions
  tasks := h.tasks.trans SameTask.trans h'.tasks

theorem setNativeStatus (db : Database) (taskId stepId : String)
    (taskStatus : AgentRunTaskStatus) (stepStatus : AgentRunStepStatus) :
    db.SameRuns (db.setNativeStatus taskId stepId taskStatus stepStatus) :=
  ⟨rfl, rfl, .update SameTask.refl fun _ _ => rfl⟩

theorem of_approvals (h : s.SameButApprovals t) : s.SameRuns t := by
  rw [h]
  exact ⟨rfl, rfl, .refl SameTask.refl _⟩

theorem loadEvents (h : s.SameRuns t) (runId : String) : t.loadEvents runId = s.loadEvents runId := by
  unfold Database.loadEvents
  rw [h.audit]

theorem getPauseSignal (h : s.SameRuns t) (runId organizationId : String) :
    t.getPauseSignal runId organizationId = s.getPauseSignal runId organizationId := by
  unfold Database.getPauseSignal
  rw [h.audit]

/-- A run that loads still loads. -/
theorem loaded {P : Platform} {organizationId runId : String} {locked : LockedRun}
    (h : s.SameRuns t) (hload : LoadedFrom P s organizationId runId locked) :
    ∃ root, SameTask locked.root root ∧
      LoadedFrom P t organizationId runId { locked with root := root } := by
  obtain ⟨hfind, horganization⟩ := Option.filter_eq_some_iff.mp hload.root
  obtain ⟨root, hroot, hsame⟩ := h.tasks _ _ hfind
  refine ⟨root, hsame, ?_, ?_, ?_, ?_, ?_, ?_, ?_⟩
  · refine Option.filter_eq_some_iff.mpr ⟨hroot, ?_⟩
    rw [hsame]
    exact horganization
  · show isPlanApplicationMarker root.application = true
    rw [hsame]
    exact hload.marker
  · unfold Database.admissionOf
    rw [h.admissions]
    exact hload.admission
  · show root.taskId = _ ∧ _
    rw [hsame]
    exact hload.identity
  · rw [h.loadEvents]
    exact hload.events
  · rw [h.loadEvents]
    exact hload.replay
  · rw [h.loadEvents]
    exact hload.latest

end SameRuns

end Database

/-! ## Appends -/

/-- An append writes to the audit table only. -/
theorem appendAgentRunTransition_frame {P : Platform} {r : AppendRequest} {s t : Database}
    {c : GovernedPlanCheckpoint} (h : appendAgentRunTransition P r s = .ok c t) :
    t = { s with audit := t.audit } := by
  obtain ⟨_, _, _, _, _, _, ⟨_, _, hinsert, _⟩ | ⟨_, _, _, rfl⟩⟩ :=
    appendAgentRunTransition_eq_ok.mp h
  · obtain ⟨_, _, rfl⟩ := Database.insertAudit?_eq_some.mp hinsert
    rfl
  · rfl

/-- And pauses no run. -/
theorem appendAgentRunTransition_getPauseSignal {P : Platform} {r : AppendRequest}
    {s t : Database} {c : GovernedPlanCheckpoint} (h : appendAgentRunTransition P r s = .ok c t)
    (runId organizationId : String) :
    t.getPauseSignal runId organizationId = s.getPauseSignal runId organizationId := by
  obtain ⟨_, _, _, _, _, _, ⟨_, _, hinsert, _⟩ | ⟨_, _, _, rfl⟩⟩ :=
    appendAgentRunTransition_eq_ok.mp h
  · exact getPauseSignal_insert hinsert runId organizationId
  · rfl

/-- A run loads to the same after an append to another. -/
theorem LoadedFrom.appended_other {P : Platform} {db db' : Database}
    {organizationId runId : String} {locked : LockedRun} {r : AppendRequest}
    {c : GovernedPlanCheckpoint} (hload : LoadedFrom P db organizationId runId locked)
    (happend : appendAgentRunTransition P r db = .ok c db')
    (hother : r.checkpoint.rootTaskId ≠ runId) : LoadedFrom P db' organizationId runId locked := by
  obtain ⟨_, _, _, _, _, _, ⟨_, _, hinsert, _⟩ | ⟨_, _, _, rfl⟩⟩ :=
    appendAgentRunTransition_eq_ok.mp happend
  case inr => exact hload
  have hevents := loadEvents_insert_other hinsert hother
  obtain ⟨audit, _, rfl⟩ := Database.insertAudit?_eq_some.mp hinsert
  exact
    { root := hload.root
      marker := hload.marker
      admission := hload.admission
      identity := hload.identity
      events := by rw [hevents, hload.events]
      replay := by rw [hevents, hload.replay]
      latest := by rw [hevents, hload.latest] }

/-- What a run loads to after an append that found it as it was. -/
def LockedRun.appended (P : Platform) (locked : LockedRun) (r : AppendRequest) : LockedRun :=
  { locked with
    checkpoint := r.checkpoint.bound (r.event P).sequence (r.event P).eventDigest
    events := locked.events ++ [r.event P]
    latest := r.event P }

/-- A run that loads still loads after an append exactly when the event extends its last one. -/
theorem LoadedFrom.appended_iff {P : Platform} {db db' : Database} {organizationId runId : String}
    {locked locked' : LockedRun} {r : AppendRequest} {c : GovernedPlanCheckpoint}
    (hload : LoadedFrom P db organizationId runId locked)
    (happend : appendAgentRunTransition P r db = .ok c db') (hfresh : r.Fresh locked.checkpoint)
    (hroot : r.checkpoint.rootTaskId = runId) :
    LoadedFrom P db' organizationId runId locked' ↔
      Extends locked.latest r.checkpoint r.transition r.createdAt ∧
        locked' = locked.appended P r := by
  subst hroot
  obtain ⟨happendable, root, restored, _, _, hreplay, ⟨_, _, hinsert, _⟩ | ⟨hstale, _⟩⟩ :=
    appendAgentRunTransition_eq_ok.mp happend
  case inr =>
    rw [hload.replay] at hreplay
    cases hreplay
    exact absurd hfresh hstale
  have hevents := hfresh.loadEvents hload.replay hinsert
  have hiff := fun c => hfresh.replay_iff (c := c) happendable hload.latest hload.replay
  obtain ⟨audit, _, rfl⟩ := Database.insertAudit?_eq_some.mp hinsert
  constructor
  · intro h
    have hreplay' := h.replay
    rw [hevents] at hreplay'
    obtain ⟨hextends, hcheckpoint⟩ := (hiff _).mp hreplay'
    refine ⟨hextends, ?_⟩
    have hlatest := h.latest
    rw [hevents, List.getLast?_concat] at hlatest
    have hbundle := h.admission.symm.trans hload.admission
    have hroot := h.root.symm.trans hload.root
    have hall := h.events.trans hevents
    rw [← hload.events] at hall
    cases locked'
    simp only [Option.some.injEq] at hlatest hbundle hroot hall hcheckpoint
    simp only [LockedRun.appended, ← hlatest, hbundle, hroot, hall, hcheckpoint]
  · rintro ⟨hextends, rfl⟩
    exact
      { root := hload.root
        marker := hload.marker
        admission := hload.admission
        identity := hload.identity
        events := by rw [hevents, LockedRun.appended, hload.events]
        replay := by rw [hevents]; exact (hiff _).mpr ⟨hextends, rfl⟩
        latest := by rw [hevents, List.getLast?_concat]; rfl }

end AgentPact
