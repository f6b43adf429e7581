import AgentPact.AgentRuns.ApprovalQueue
import AgentPact.Base.Lts

/-!
# Handing a resuming step to the Agent

A recovery cycle resumes the approved pauses, finds the steps that are resuming,
and for each of them claims the task and then starts the Agent on the step.  A
claim makes the task `running` and leaves the step `resuming`, so that a worker
that crashes before the Agent starts loses nothing: the next cycle claims the
same step.

A claim therefore does not exclude a second one (`claim_again`).  What it
excludes is a start after the step has moved on: `handoff_within_resuming` says
of every run of any workers what a claim does.
-/

namespace AgentPact

open Base Transaction

/-! ## The service -/

/-- A `ResumingTask`. -/
structure ResumingTask where
  taskId : String
  stepId : String
  organizationId : String
deriving DecidableEq

/-- The statuses of a task that recovery looks at. -/
def AgentRunTaskStatus.recoverable (status : AgentRunTaskStatus) : Bool :=
  status = .resuming || status = .running

/-- The recovery work of a resuming step, if its task can be recovered. -/
def Database.recoveryWork (db : Database) (step : StepModel) : Option ResumingTask :=
  match db.task? step.taskId step.organizationId with
  | some task =>
      if task.status.recoverable then some ⟨step.taskId, step.stepId, step.organizationId⟩
      else none
  | none => none

/-- `discover_resuming_tasks`. -/
def discoverResumingTasks (limit : Int) : AgentRunTx (List ResumingTask) := do
  require (0 < limit) ⟨.valueError, "Resume discovery limit must be positive"⟩
  let steps ← read fun db => (db.steps.select (·.status = .resuming)).take limit.toNat
  read fun db => steps.filterMap db.recoveryWork

/-- `claim_resuming_task_for_execution`. -/
def claimResumingTaskForExecution (x : ResumingTask) : AgentRunTx Unit := do
  let (task, step) ← fetch (fun db => (db.task? x.taskId x.organizationId).bind fun task =>
      (db.step? x.stepId x.taskId x.organizationId).map fun step => (task, step))
    ⟨.resumeExecutionError, "Task or step does not exist"⟩
  require (step.status = .resuming)
    ⟨.resumeExecutionError, "Only a resuming step may enter fresh Agent execution"⟩
  require (task.status.recoverable = true)
    ⟨.resumeExecutionError, "Task is not eligible for approval recovery"⟩
  write fun db => { db with tasks := db.tasks.update x.taskId (TaskModel.setStatus .running) }

/-! ## What a claim does -/

/-- The step of some work is resuming. -/
def Database.StepResuming (db : Database) (x : ResumingTask) : Prop :=
  ∃ step, db.step? x.stepId x.taskId x.organizationId = some step ∧ step.status = .resuming

/-- The task of some work can be recovered. -/
def Database.TaskRecoverable (db : Database) (x : ResumingTask) : Prop :=
  ∃ task, db.task? x.taskId x.organizationId = some task ∧
    (task.status = .resuming ∨ task.status = .running)

/-- The task of some work is running. -/
def Database.TaskRunning (db : Database) (x : ResumingTask) : Prop :=
  ∃ task, db.task? x.taskId x.organizationId = some task ∧ task.status = .running

/-- The database after a claim. -/
def Database.claimed (db : Database) (x : ResumingTask) : Database :=
  { db with tasks := db.tasks.update x.taskId (TaskModel.setStatus .running) }

section Claim

variable {x : ResumingTask} {s t : Database}

theorem AgentRunTaskStatus.recoverable_iff {status : AgentRunTaskStatus} :
    status.recoverable = true ↔ status = .resuming ∨ status = .running := by
  simp [AgentRunTaskStatus.recoverable]

/-- A claim passes for a resuming step of a task that can be recovered, and writes the task. -/
theorem claimResumingTask_eq_ok {u : Unit} : claimResumingTaskForExecution x s = .ok u t ↔
    s.StepResuming x ∧ s.TaskRecoverable x ∧ t = s.claimed x := by
  simp only [claimResumingTaskForExecution, bind_eq_ok, fetch_eq_ok, require_eq_ok, write_eq_ok,
    Option.bind_eq_some_iff, Option.map_eq_some_iff, AgentRunTaskStatus.recoverable_iff]
  constructor
  · rintro ⟨_, _, ⟨⟨task, htask, step, hstep, rfl⟩, rfl⟩, _, _, ⟨hresuming, rfl⟩, _, _,
      ⟨hstatus, rfl⟩, rfl⟩
    exact ⟨⟨step, hstep, hresuming⟩, ⟨task, htask, hstatus⟩, rfl⟩
  · rintro ⟨⟨step, hstep, hresuming⟩, ⟨task, htask, hstatus⟩, rfl⟩
    exact ⟨(task, step), s, ⟨⟨task, htask, step, hstep, rfl⟩, rfl⟩, (), s, ⟨hresuming, rfl⟩, (), s,
      ⟨hstatus, rfl⟩, rfl⟩

/-- A claim leaves every step as it was. -/
theorem Database.resuming_claimed {y : ResumingTask} :
    (s.claimed x).StepResuming y ↔ s.StepResuming y := Iff.rfl

/-- A claim leaves its task running. -/
theorem Database.running_claimed (h : s.TaskRecoverable x) : (s.claimed x).TaskRunning x := by
  obtain ⟨task, htask, _⟩ := h
  obtain ⟨hfind, horganization⟩ := Option.filter_eq_some_iff.mp htask
  refine ⟨{ task with status := .running }, ?_, rfl⟩
  exact Option.filter_eq_some_iff.mpr ⟨Table.find?_update_self hfind, horganization⟩

theorem Database.TaskRunning.recoverable (h : s.TaskRunning x) : s.TaskRecoverable x := by
  obtain ⟨task, htask, hstatus⟩ := h
  exact ⟨task, htask, .inr hstatus⟩

/-- After a claim the next one passes, and changes nothing that the first did not. -/
theorem claim_again {u : Unit} (h : claimResumingTaskForExecution x s = .ok u t) :
    claimResumingTaskForExecution x t = .ok () (t.claimed x) := by
  obtain ⟨hresuming, hrecoverable, rfl⟩ := claimResumingTask_eq_ok.mp h
  have hrunning := Database.running_claimed hrecoverable
  exact claimResumingTask_eq_ok.mpr ⟨Database.resuming_claimed.mpr hresuming,
    hrunning.recoverable, rfl⟩

end Claim

/-! ## Workers -/

/-- Where a worker is in its recovery cycle. -/
inductive HandoffPhase where
  | idle
  /-- The approved pauses are resumed. -/
  | prepared
  /-- Some work was found, and is not yet handed over. -/
  | working (resumptions : List ResumingTask)
  /-- The first work is claimed. -/
  | claimed (resumption : ResumingTask) (resumptions : List ResumingTask)
  /-- `agent.execute_step` is called for it. -/
  | executing (resumption : ResumingTask) (resumptions : List ResumingTask)
  | crashed

/-- The database, the workers, and the work that they claimed and started, newest first. -/
structure HandoffWorld (ι : Type) where
  database : Database
  phase : ι → HandoffPhase
  passed : List (ι × ResumingTask)
  reached : List (ι × ResumingTask)

/-- What happens to resuming steps. -/
inductive HandoffLabel (ι : Type) where
  /-- `prepare_approved_pauses_for_reobservation` commits; other sessions hold some rows. -/
  | prepare (i : ι) (held : PendingActionModel → Bool)
  /-- `discover_resuming_tasks`. -/
  | discover (i : ι)
  /-- `claim_resuming_task_for_execution` commits. -/
  | claim (i : ι)
  /-- `execute_resuming_task` reads the claimed records; it may find no organization, or no run. -/
  | start (i : ι) (found : Bool)
  /-- `agent.execute_step` returns or raises. -/
  | ended (i : ι)
  /-- The cycle is over. -/
  | sleep (i : ι)
  | crash (i : ι)
  /-- A transaction of an Agent that was started, or of anything else. -/
  | elsewhere (database : Database)

section Workers

variable {ι : Type} [DecidableEq ι]

/-- A worker goes to a phase. -/
def HandoffWorld.goes (w : HandoffWorld ι) (i : ι) (phase : HandoffPhase) : HandoffWorld ι :=
  { w with phase := Function.update w.phase i phase }

/-- The records of some work. -/
def Database.recoveryRecords (db : Database) (x : ResumingTask) : Bool :=
  (db.task? x.taskId x.organizationId).isSome &&
    (db.step? x.stepId x.taskId x.organizationId).isSome

/-- The phase after a discovery: without recovery execution the cycle ends there. -/
def discoveredPhase (limit : Int) (enabled : Bool) (db : Database) : HandoffPhase :=
  match discoverResumingTasks limit db with
  | .ok resumptions _ => if enabled then .working resumptions else .idle
  | .error _ _ => .idle

/-- The world after a claim, which an error of the claim leaves to the next cycle. -/
def HandoffWorld.claims (w : HandoffWorld ι) (i : ι) (x : ResumingTask)
    (resumptions : List ResumingTask) : HandoffWorld ι :=
  match claimResumingTaskForExecution x w.database with
  | .ok _ database =>
      { w.goes i (.claimed x resumptions) with database := database, passed := (i, x) :: w.passed }
  | .error _ _ => w.goes i (.working resumptions)

/-- The world after the records of a claim are read. -/
def HandoffWorld.starts (w : HandoffWorld ι) (i : ι) (found : Bool) (x : ResumingTask)
    (resumptions : List ResumingTask) : HandoffWorld ι :=
  if found && w.database.recoveryRecords x then
    { w.goes i (.executing x resumptions) with reached := (i, x) :: w.reached }
  else w.goes i (.working resumptions)

/-- The steps of `run_approval_recovery_cycle` in each worker, by transaction. -/
def HandoffStep (limit : Int) (enabled : Bool) :
    HandoffLabel ι → HandoffWorld ι → HandoffWorld ι → Prop
  | .prepare i held, w, v => w.phase i = .idle ∧
      v = { w.goes i
          (if returned (prepareApprovedPausesForReobservation none limit held w.database)
            then .prepared else .idle) with
        database := left (atomic (prepareApprovedPausesForReobservation none limit held)
          w.database) }
  | .discover i, w, v => w.phase i = .prepared ∧
      v = w.goes i (discoveredPhase limit enabled w.database)
  | .claim i, w, v => ∃ x resumptions, w.phase i = .working (x :: resumptions) ∧
      v = w.claims i x resumptions
  | .start i found, w, v => ∃ x resumptions, w.phase i = .claimed x resumptions ∧
      v = w.starts i found x resumptions
  | .ended i, w, v => ∃ x resumptions, w.phase i = .executing x resumptions ∧
      v = w.goes i (.working resumptions)
  | .sleep i, w, v => w.phase i = .working [] ∧ v = w.goes i .idle
  | .crash i, w, v => v = w.goes i .crashed
  | .elsewhere database, w, v => v = { w with database := database }

/-- The workers before their first cycle. -/
def HandoffWorld.beginning (database : Database) : HandoffWorld ι :=
  ⟨database, fun _ => .idle, [], []⟩

/-- The claims that passed for some work. -/
def HandoffWorld.passes (w : HandoffWorld ι) (x : ResumingTask) : List (ι × ResumingTask) :=
  w.passed.filter fun entry => entry.2 = x

/-- A step does not make a step of a task resuming that was not. -/
def NotResumed (limit : Int) (enabled : Bool) (x : ResumingTask) (w : HandoffWorld ι)
    (l : HandoffLabel ι) : Prop :=
  ∀ v, HandoffStep limit enabled l w v → v.database.StepResuming x → w.database.StepResuming x

/-! ## What a run keeps -/

variable {limit : Int} {enabled : Bool} {x : ResumingTask} {w v : HandoffWorld ι}

/-- A step lets a claim pass for some work only while its step is resuming. -/
theorem HandoffStep.passes {l : HandoffLabel ι} (hstep : HandoffStep limit enabled l w v)
    (hmoved : ¬ w.database.StepResuming x) : v.passes x = w.passes x := by
  cases l with
  | prepare i held =>
      obtain ⟨_, rfl⟩ := hstep
      rfl
  | discover i =>
      obtain ⟨_, rfl⟩ := hstep
      rfl
  | claim i =>
      obtain ⟨y, resumptions, _, rfl⟩ := hstep
      unfold HandoffWorld.claims
      split
      case h_1 _ database hclaim =>
        have hresuming := (claimResumingTask_eq_ok.mp hclaim).1
        have hother : y ≠ x := by
          rintro rfl
          exact hmoved hresuming
        exact List.filter_cons_of_neg (by simpa using hother)
      case h_2 => rfl
  | start i found =>
      obtain ⟨y, resumptions, _, rfl⟩ := hstep
      unfold HandoffWorld.starts
      split <;> rfl
  | ended i =>
      obtain ⟨_, _, _, rfl⟩ := hstep
      rfl
  | sleep i =>
      obtain ⟨_, rfl⟩ := hstep
      rfl
  | crash i =>
      cases hstep
      rfl
  | elsewhere database =>
      cases hstep
      rfl

/-- Once a step has moved on, no claim passes for it until it is resumed anew. -/
theorem passes_of_moved
    (hrun : Reaches (HandoffStep limit enabled) (NotResumed limit enabled x) w v)
    (hmoved : ¬ w.database.StepResuming x) : v.passes x = w.passes x := by
  have hkept : ¬ v.database.StepResuming x ∧ v.passes x = w.passes x := by
    refine hrun.invariant (I := fun u => ¬ u.database.StepResuming x ∧ u.passes x = w.passes x)
      (fun s l t hok hbefore hstep => ?_) ⟨hmoved, rfl⟩
    obtain ⟨hnot, hsame⟩ := hbefore
    exact ⟨fun hresuming => hnot (hok t hstep hresuming), (hstep.passes hnot).trans hsame⟩
  exact hkept.2

/-- The work that a worker has claimed and not yet finished passed its claim, and so did all the
work that reached the Agent. -/
structure ClaimsFirst (w : HandoffWorld ι) : Prop where
  claimed : ∀ i y resumptions, w.phase i = .claimed y resumptions → (i, y) ∈ w.passed
  reached : ∀ entry ∈ w.reached, entry ∈ w.passed

/-- A worker that goes to a phase without a claim keeps that. -/
theorem ClaimsFirst.goes (h : ClaimsFirst w) {i : ι} {phase : HandoffPhase} {database : Database}
    (hphase : ∀ y resumptions, phase = .claimed y resumptions → (i, y) ∈ w.passed) :
    ClaimsFirst { w.goes i phase with database := database } := by
  refine ⟨fun j y resumptions hj => ?_, h.reached⟩
  by_cases hsame : j = i
  · subst hsame
    have hfound : Function.update w.phase j phase j = .claimed y resumptions := hj
    rw [Function.update_self] at hfound
    exact hphase y resumptions hfound
  · have hfound : Function.update w.phase i phase j = .claimed y resumptions := hj
    rw [Function.update_of_ne hsame] at hfound
    exact h.claimed j y resumptions hfound

omit [DecidableEq ι] in
/-- More claims do no harm. -/
theorem ClaimsFirst.passing (h : ClaimsFirst w) (entry : ι × ResumingTask) :
    ClaimsFirst { w with passed := entry :: w.passed } :=
  ⟨fun j y resumptions hj => List.mem_cons_of_mem _ (h.claimed j y resumptions hj),
    fun other hother => List.mem_cons_of_mem _ (h.reached other hother)⟩

theorem ClaimsFirst.step (h : ClaimsFirst w) {l : HandoffLabel ι}
    (hstep : HandoffStep limit enabled l w v) : ClaimsFirst v := by
  cases l with
  | prepare i held =>
      obtain ⟨_, rfl⟩ := hstep
      refine h.goes fun y resumptions hphase => ?_
      split at hphase <;> cases hphase
  | discover i =>
      obtain ⟨_, rfl⟩ := hstep
      refine h.goes fun y resumptions hphase => ?_
      unfold discoveredPhase at hphase
      split at hphase
      · split at hphase <;> cases hphase
      · cases hphase
  | claim i =>
      obtain ⟨x, resumptions, _, rfl⟩ := hstep
      unfold HandoffWorld.claims
      split
      case h_1 _ database _ =>
        refine (h.passing (i, x)).goes fun y rest hphase => ?_
        cases hphase
        exact List.mem_cons_self
      case h_2 => exact h.goes fun y rest hphase => by cases hphase
  | start i found =>
      obtain ⟨x, resumptions, hclaimed, rfl⟩ := hstep
      unfold HandoffWorld.starts
      split
      case isTrue =>
        have hgoes : ClaimsFirst (w.goes i (.executing x resumptions)) :=
          h.goes fun y rest hphase => by cases hphase
        refine ⟨hgoes.claimed, fun entry hentry => ?_⟩
        rcases List.mem_cons.mp hentry with rfl | hentry
        · exact h.claimed i x resumptions hclaimed
        · exact h.reached entry hentry
      case isFalse => exact h.goes fun y rest hphase => by cases hphase
  | ended i =>
      obtain ⟨_, _, _, rfl⟩ := hstep
      exact h.goes fun y rest hphase => by cases hphase
  | sleep i =>
      obtain ⟨_, rfl⟩ := hstep
      exact h.goes fun y rest hphase => by cases hphase
  | crash i =>
      cases hstep
      exact h.goes fun y rest hphase => by cases hphase
  | elsewhere database =>
      cases hstep
      exact ⟨h.claimed, h.reached⟩

/-! ## Every run -/

/-- A claim passes exactly while the step is resuming and the task can be recovered, it leaves both
so for the next worker, once the step has moved on no claim passes until it is resumed anew, and
what reaches the Agent passed its claim. -/
theorem handoff_within_resuming (limit : Int) (enabled : Bool) (x : ResumingTask) :
    (∀ s, (∃ t, claimResumingTaskForExecution x s = .ok () t) ↔
      s.StepResuming x ∧ s.TaskRecoverable x) ∧
    (∀ s t, claimResumingTaskForExecution x s = .ok () t →
      t.StepResuming x ∧ t.TaskRunning x ∧ ∃ u, claimResumingTaskForExecution x t = .ok () u) ∧
    (∀ w v : HandoffWorld ι, ¬ w.database.StepResuming x →
      Reaches (HandoffStep limit enabled) (NotResumed limit enabled x) w v →
      v.passes x = w.passes x) ∧
    ∀ (db : Database) (v : HandoffWorld ι) (i : ι),
      Reaches (HandoffStep limit enabled) always (.beginning db) v →
      (i, x) ∈ v.reached → (i, x) ∈ v.passed := by
  refine ⟨fun s => ?_, fun s t hclaim => ?_, fun w v hmoved hrun => passes_of_moved hrun hmoved,
    fun db v i hrun => ?_⟩
  · constructor
    · rintro ⟨t, hclaim⟩
      obtain ⟨hresuming, hrecoverable, _⟩ := claimResumingTask_eq_ok.mp hclaim
      exact ⟨hresuming, hrecoverable⟩
    · rintro ⟨hresuming, hrecoverable⟩
      exact ⟨_, claimResumingTask_eq_ok.mpr ⟨hresuming, hrecoverable, rfl⟩⟩
  · obtain ⟨hresuming, hrecoverable, rfl⟩ := claimResumingTask_eq_ok.mp hclaim
    exact ⟨Database.resuming_claimed.mpr hresuming, Database.running_claimed hrecoverable, _,
      claim_again hclaim⟩
  · have hbeginning : ClaimsFirst (HandoffWorld.beginning db : HandoffWorld ι) := by
      constructor
      · intro j y resumptions hphase
        cases hphase
      · intro entry hentry
        cases hentry
    have hclaimed : ClaimsFirst v :=
      hrun.invariant (fun _ _ _ _ hbefore hstep => hbefore.step hstep) hbeginning
    exact hclaimed.reached (i, x)

/-! ## Two live workers -/

/-- A step leaves the step of some work resuming. -/
def StaysResuming (limit : Int) (enabled : Bool) (x : ResumingTask) (w : HandoffWorld ι)
    (l : HandoffLabel ι) : Prop :=
  ∀ v, HandoffStep limit enabled l w v → v.database.StepResuming x

/-- The world after a cycle of a worker that started the Agent on its only work. -/
def HandoffWorld.started (w : HandoffWorld ι) (i : ι) (x : ResumingTask) : HandoffWorld ι where
  database := w.database.claimed x
  phase := Function.update w.phase i (.executing x [])
  passed := (i, x) :: w.passed
  reached := (i, x) :: w.reached

/-- No step of a cycle makes a step other than resuming. -/
theorem staysResuming_of_cycle {l : HandoffLabel ι} (hresuming : w.database.StepResuming x)
    (hprepare : ∀ i held, l = .prepare i held → ∃ resumed,
      prepareApprovedPausesForReobservation none limit held w.database = .ok resumed w.database)
    (hcycle : ∀ database, l ≠ .elsewhere database) : StaysResuming limit enabled x w l := by
  intro v hstep
  cases l with
  | prepare i held =>
      obtain ⟨resumed, hrun⟩ := hprepare i held rfl
      obtain ⟨_, rfl⟩ := hstep
      show (left (atomic _ w.database)).StepResuming x
      rw [atomic_eq_ok.mpr hrun]
      exact hresuming
  | discover i =>
      obtain ⟨_, rfl⟩ := hstep
      exact hresuming
  | claim i =>
      obtain ⟨y, resumptions, _, rfl⟩ := hstep
      unfold HandoffWorld.claims
      split
      case h_1 _ database hclaim =>
        obtain ⟨_, _, rfl⟩ := claimResumingTask_eq_ok.mp hclaim
        exact Database.resuming_claimed.mpr hresuming
      case h_2 => exact hresuming
  | start i found =>
      obtain ⟨y, resumptions, _, rfl⟩ := hstep
      unfold HandoffWorld.starts
      split <;> exact hresuming
  | ended i =>
      obtain ⟨_, _, _, rfl⟩ := hstep
      exact hresuming
  | sleep i =>
      obtain ⟨_, rfl⟩ := hstep
      exact hresuming
  | crash i =>
      cases hstep
      exact hresuming
  | elsewhere database => exact absurd rfl (hcycle database)

/-- Whoever is idle while a step is resuming starts the Agent on it, whether or not others did. -/
theorem cycle_starts {i : ι} {r : List ApprovalPauseState} (hidle : w.phase i = .idle)
    (hprepare : prepareApprovedPausesForReobservation none limit (fun _ => false) w.database =
      .ok r w.database)
    (hdiscover : discoverResumingTasks limit w.database = .ok [x] w.database)
    (hresuming : w.database.StepResuming x) (hrecoverable : w.database.TaskRecoverable x) :
    Reaches (HandoffStep limit true) (StaysResuming limit true x) w (w.started i x) := by
  have hprepared : HandoffStep limit true (.prepare i fun _ => false) w (w.goes i .prepared) := by
    refine ⟨hidle, ?_⟩
    rw [hprepare, atomic_eq_ok.mpr hprepare]
    rfl
  have hdiscovered : HandoffStep limit true (.discover i) (w.goes i .prepared)
      ((w.goes i .prepared).goes i (.working [x])) := by
    refine ⟨Function.update_self .., ?_⟩
    show _ = (w.goes i .prepared).goes i (discoveredPhase limit true w.database)
    unfold discoveredPhase
    rw [hdiscover]
    rfl
  have hworking : (w.goes i .prepared).goes i (.working [x]) = w.goes i (.working [x]) := by
    unfold HandoffWorld.goes
    rw [Function.update_idem]
  rw [hworking] at hdiscovered
  have hclaimed : HandoffStep limit true (.claim i) (w.goes i (.working [x]))
      { w.goes i (.claimed x []) with
        database := w.database.claimed x, passed := (i, x) :: w.passed } := by
    refine ⟨x, [], Function.update_self .., ?_⟩
    have hclaim : claimResumingTaskForExecution x (w.goes i (.working [x])).database =
        .ok () (w.database.claimed x) :=
      claimResumingTask_eq_ok.mpr ⟨hresuming, hrecoverable, rfl⟩
    unfold HandoffWorld.claims
    rw [hclaim]
    simp only [HandoffWorld.goes, Function.update_idem]
  have hrecords : (w.database.claimed x).recoveryRecords x = true := by
    obtain ⟨task, htask, _⟩ := Database.running_claimed hrecoverable
    obtain ⟨step, hstep, _⟩ := Database.resuming_claimed (x := x) |>.mpr hresuming
    simp [Database.recoveryRecords, htask, hstep]
  have hstarted : HandoffStep limit true (.start i true)
      { w.goes i (.claimed x []) with
        database := w.database.claimed x, passed := (i, x) :: w.passed } (w.started i x) := by
    refine ⟨x, [], Function.update_self .., ?_⟩
    unfold HandoffWorld.starts
    rw [if_pos (by simpa using hrecords)]
    simp only [HandoffWorld.started, HandoffWorld.goes, Function.update_idem]
  refine (((Reaches.single ?_ hprepared).tail ?_ hdiscovered).tail ?_ hclaimed).tail ?_ hstarted
  · refine staysResuming_of_cycle hresuming (fun j held hlabel => ?_) nofun
    cases hlabel
    exact ⟨r, hprepare⟩
  · exact staysResuming_of_cycle hresuming (fun _ _ hlabel => by cases hlabel) nofun
  · exact staysResuming_of_cycle hresuming (fun _ _ hlabel => by cases hlabel) nofun
  · exact staysResuming_of_cycle (Database.resuming_claimed.mpr hresuming)
      (fun _ _ hlabel => by cases hlabel) nofun

end Workers

/-- A task that waits for recovery, with its step. -/
def recoveringDatabase : Database :=
  admittedDatabase.setNativeStatus "task" "step" .resuming .resuming

/-- Its recovery work. -/
def sampleWork : ResumingTask := ⟨"task", "step", "org"⟩

theorem prepare_none {limit : Int} {held : PendingActionModel → Bool} {s : Database}
    (hlimit : 0 < limit) (hnone : s.approvedActions none held limit.toNat = []) :
    prepareApprovedPausesForReobservation none limit held s = .ok [] s := by
  unfold prepareApprovedPausesForReobservation
  rw [require_bind hlimit, read_bind, hnone]
  rfl

theorem discover_eq {limit : Int} {s : Database} (hlimit : 0 < limit) :
    discoverResumingTasks limit s =
      .ok (((s.steps.select (·.status = .resuming)).take limit.toNat).filterMap s.recoveryWork)
        s := by
  unfold discoverResumingTasks
  rw [require_bind hlimit, read_bind]
  rfl

/-- Whoever is idle starts the Agent on the sample work, before and after it was claimed. -/
theorem sampleWork_starts {w : HandoffWorld Bool} {i : Bool} (hidle : w.phase i = .idle)
    (hdatabase : w.database = recoveringDatabase ∨
      w.database = recoveringDatabase.claimed sampleWork) :
    Reaches (HandoffStep 100 true) (StaysResuming 100 true sampleWork) w
      (w.started i sampleWork) := by
  have hlimit : (0 : Int) < 100 := by decide
  rcases hdatabase with hfound | hfound
  · refine cycle_starts (r := []) hidle ?_ ?_ ?_ ?_ <;> rw [hfound]
    · exact prepare_none hlimit (by decide)
    · exact discover_eq hlimit
    · exact ⟨_, rfl, rfl⟩
    · exact ⟨_, rfl, .inl rfl⟩
  · refine cycle_starts (r := []) hidle ?_ ?_ ?_ ?_ <;> rw [hfound]
    · exact prepare_none hlimit (by decide)
    · exact discover_eq hlimit
    · exact ⟨_, rfl, rfl⟩
    · exact ⟨_, rfl, .inr rfl⟩

/-- Two workers start the Agent on one resuming step, and neither has crashed. -/
theorem two_workers_start : ∃ w : HandoffWorld Bool,
    Reaches (HandoffStep 100 true) (StaysResuming 100 true sampleWork)
      (.beginning recoveringDatabase) w ∧
    ∀ i, w.phase i = .executing sampleWork [] ∧ (i, sampleWork) ∈ w.passed ∧
      (i, sampleWork) ∈ w.reached := by
  let first : HandoffWorld Bool :=
    (HandoffWorld.beginning recoveringDatabase).started false sampleWork
  have hfirst : Reaches (HandoffStep 100 true) (StaysResuming 100 true sampleWork)
      (.beginning recoveringDatabase) first := sampleWork_starts rfl (.inl rfl)
  have hsecond : Reaches (HandoffStep 100 true) (StaysResuming 100 true sampleWork)
      first (first.started true sampleWork) := sampleWork_starts rfl (.inr rfl)
  refine ⟨_, hfirst.trans hsecond, fun i => ?_⟩
  cases i with
  | false => exact ⟨rfl, .tail _ (.head _), .tail _ (.head _)⟩
  | true => exact ⟨rfl, .head _, .head _⟩

end AgentPact
