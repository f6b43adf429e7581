import AgentPact.AgentRuns.CoherentReads
import AgentPact.AgentRuns.DecisionTrace
import AgentPact.AgentRuns.RunListing
import AgentPact.Documents

/-!
# Rows of tenants

Whose a row is, and what a tenant reads.  A task, a step, an admission, an audit
row, a pending action and an approval request name their tenant; a permit and an
attempt are of the tenant of their task.

Databases with the same rows of a tenant answer the reads of its users alike
(`Agrees.read`, `ListedDatabase.Agrees.listRuns`).  Pending actions, permits and
attempts are looked up by the native task that a journal names, and by no
tenant, so this asks that no native task of an own run is a task of another
tenant (`OwnNatives`).
-/

namespace AgentPact

open Base JsonText

/-! ## Whose a row is -/

/-- The rows of some tenants. -/
structure TenantRows where
  tasks : List TaskModel
  steps : List StepModel
  admissions : List GovernedTaskAdmissionModel
  audit : List GovernanceAuditEventModel
  pendingActions : List PendingActionModel
  approvals : List ApprovalRequestModel
  permits : List ExecutionPermitModel
  attempts : List ExecutionAttemptModel

namespace Database

/-- Whether a task is of one of some tenants. -/
def isTaskOf (db : Database) (mine : String → Bool) (taskId : String) : Bool :=
  (db.tasks.find? taskId).any fun t => mine t.organizationId

/-- The rows of some tenants.  A permit and an attempt are of the tenant of their task. -/
def rowsOf (db : Database) (mine : String → Bool) : TenantRows where
  tasks := db.tasks.select fun t => mine t.organizationId
  steps := db.steps.select fun s => mine s.organizationId
  admissions := db.admissions.select fun a => mine a.organizationId
  audit := db.audit.select fun r => mine r.organizationId
  pendingActions := db.pendingActions.select fun m => mine m.organizationId
  approvals := db.approvals.select fun a => mine a.organizationId
  permits := db.execution.permits.select fun p => db.isTaskOf mine p.taskId
  attempts := db.execution.attempts.select fun a => db.isTaskOf mine a.taskId

/-- Two databases have the same rows of a tenant. -/
def Agrees (s s' : Database) (tenant : String) : Prop :=
  s.rowsOf (fun x => x = tenant) = s'.rowsOf fun x => x = tenant

/-- The task of a row is of the tenant the row is about. -/
structure Attributed (db : Database) : Prop where
  audit : ∀ r ∈ db.audit.rows, (db.task? r.taskId r.organizationId).isSome
  pendingActions : ∀ m ∈ db.pendingActions.rows, (db.task? m.taskId m.organizationId).isSome
  approvals : ∀ a ∈ db.approvals.rows, (db.task? a.taskId a.organizationId).isSome
  permits : ∀ p ∈ db.execution.permits.rows, (db.tasks.find? p.taskId).isSome
  attempts : ∀ a ∈ db.execution.attempts.rows, (db.tasks.find? a.taskId).isSome

/-- A task is of a tenant, if there is such a task. -/
def OnlyOf (db : Database) (tenant taskId : String) : Prop :=
  ∀ task, db.tasks.find? taskId = some task → task.organizationId = tenant

/-- No native task that a run of a tenant is at is a task of another tenant. -/
def OwnNatives (P : Platform) (db : Database) (tenant : String) : Prop :=
  ∀ runId locked active, LoadedFrom P db tenant runId locked →
    locked.checkpoint.activeStep = some active → db.OnlyOf tenant active.nativeTaskId

variable {s s' : Database} {tenant taskId : String}

/-! ## What the queries find -/

namespace Agrees

theorem symm (h : s.Agrees s' tenant) : s'.Agrees s tenant := Eq.symm h

theorem task? (h : s.Agrees s' tenant) (taskId : String) :
    s.task? taskId tenant = s'.task? taskId tenant :=
  Table.find?_filter_congr (congrArg TenantRows.tasks h) taskId

theorem step? (h : s.Agrees s' tenant) (stepId taskId : String) :
    s.step? stepId taskId tenant = s'.step? stepId taskId tenant := by
  refine Table.find?_filter_congr (Table.select_congr (congrArg TenantRows.steps h) ?_ ?_) stepId
  all_goals simp

theorem getNativePair (h : s.Agrees s' tenant) (taskId stepId : String) :
    s.getNativePair taskId stepId tenant = s'.getNativePair taskId stepId tenant := by
  unfold Database.getNativePair
  rw [h.task?, h.step?]

theorem admissionOf (h : s.Agrees s' tenant) (runId : String) :
    s.admissionOf runId tenant = s'.admissionOf runId tenant := by
  refine congrArg List.head? (Table.select_congr (congrArg TenantRows.admissions h) ?_ ?_)
  all_goals simp

theorem getPauseSignal (h : s.Agrees s' tenant) (runId : String) :
    s.getPauseSignal runId tenant = s'.getPauseSignal runId tenant := by
  have hrows : s.audit.select (isPauseOrResolution runId tenant) =
      s'.audit.select (isPauseOrResolution runId tenant) := by
    refine Table.select_congr (congrArg TenantRows.audit h) ?_ ?_
    all_goals
      intro r _ hr
      simp only [isPauseOrResolution, Bool.and_eq_true] at hr
      exact hr.1.2
  unfold Database.getPauseSignal
  rw [hrows]

end Agrees

/-- A task of a tenant is of no other. -/
theorem organization_of_task? {organizationId : String}
    (h : (s.task? taskId organizationId).isSome) (honly : s.OnlyOf tenant taskId) :
    organizationId = tenant := by
  obtain ⟨task, htask⟩ := Option.isSome_iff_exists.mp h
  obtain ⟨hfind, hsame⟩ := Option.filter_eq_some_iff.mp htask
  rw [← of_decide_eq_true hsame]
  exact honly task hfind

theorem onlyOf_of_task? (h : (s.task? taskId tenant).isSome) : s.OnlyOf tenant taskId := by
  obtain ⟨task, htask⟩ := Option.isSome_iff_exists.mp h
  obtain ⟨hfind, hsame⟩ := Option.filter_eq_some_iff.mp htask
  intro task' hfind'
  cases hfind.symm.trans hfind'
  exact of_decide_eq_true hsame

theorem isTaskOf_of_onlyOf (h : (s.tasks.find? taskId).isSome) (honly : s.OnlyOf tenant taskId) :
    s.isTaskOf (fun x => x = tenant) taskId = true := by
  obtain ⟨task, htask⟩ := Option.isSome_iff_exists.mp h
  simp [isTaskOf, htask, honly task htask]

namespace Agrees

/-- The journal of a run of the tenant. -/
theorem loadEvents (h : s.Agrees s' tenant) (hs : s.Attributed) (hs' : s'.Attributed)
    {runId : String} (hroot : (s.task? runId tenant).isSome) :
    s.loadEvents runId = s'.loadEvents runId := by
  have hown : ∀ {db : Database}, db.Attributed → (db.task? runId tenant).isSome →
      db.audit.rows.filterMap (journalEvent runId) =
        (db.audit.select fun r => r.organizationId = tenant).filterMap (journalEvent runId) := by
    intro db hdb hrun
    rw [Table.select, List.filterMap_filter]
    refine List.filterMap_congr fun r hr => ?_
    split
    case isTrue => rfl
    case isFalse hother =>
      unfold journalEvent
      rw [if_neg]
      intro hsame
      refine hother (decide_eq_true ?_)
      exact organization_of_task? (hdb.audit r hr) (hsame ▸ onlyOf_of_task? hrun)
  have hrows : s.audit.select (fun r => r.organizationId = tenant) =
      s'.audit.select fun r => r.organizationId = tenant := congrArg TenantRows.audit h
  unfold Database.loadEvents
  rw [hown hs hroot, hown hs' (h.task? runId ▸ hroot), hrows]

/-- The pending actions of a step of the tenant. -/
theorem pendingActionsOf (h : s.Agrees s' tenant) (hs : s.Attributed) (hs' : s'.Attributed)
    (honly : s.OnlyOf tenant taskId) (honly' : s'.OnlyOf tenant taskId) (stepId : String) :
    (s.pendingActions.select fun m => m.taskId = taskId && m.stepId = stepId) =
      s'.pendingActions.select fun m => m.taskId = taskId && m.stepId = stepId := by
  have hown : ∀ {db : Database}, db.Attributed → db.OnlyOf tenant taskId →
      ∀ m ∈ db.pendingActions.rows, (m.taskId = taskId && m.stepId = stepId) = true →
        decide (m.organizationId = tenant) = true := by
    intro db hdb hdbOnly m hm hsame
    simp only [Bool.and_eq_true, decide_eq_true_eq] at hsame
    refine decide_eq_true ?_
    exact organization_of_task? (hdb.pendingActions m hm) (hsame.1 ▸ hdbOnly)
  exact Table.select_congr (congrArg TenantRows.pendingActions h) (hown hs honly) (hown hs' honly')

/-- The attempts of a task of the tenant. -/
theorem attemptsOf (h : s.Agrees s' tenant) (hs : s.Attributed) (hs' : s'.Attributed)
    (honly : s.OnlyOf tenant taskId) (honly' : s'.OnlyOf tenant taskId) :
    s.attemptsOf taskId = s'.attemptsOf taskId := by
  have hown : ∀ {db : Database}, db.Attributed → db.OnlyOf tenant taskId →
      ∀ a ∈ db.execution.attempts.rows, decide (a.taskId = taskId) = true →
        db.isTaskOf (fun x => x = tenant) a.taskId = true := by
    intro db hdb hdbOnly a ha hsame
    exact isTaskOf_of_onlyOf (hdb.attempts a ha) (of_decide_eq_true hsame ▸ hdbOnly)
  exact Table.select_congr (congrArg TenantRows.attempts h) (hown hs honly) (hown hs' honly')

/-- The permits of a task of the tenant. -/
theorem permitsOf (h : s.Agrees s' tenant) (hs : s.Attributed) (hs' : s'.Attributed)
    (honly : s.OnlyOf tenant taskId) (honly' : s'.OnlyOf tenant taskId) :
    s.permitsOf taskId = s'.permitsOf taskId := by
  have hown : ∀ {db : Database}, db.Attributed → db.OnlyOf tenant taskId →
      ∀ p ∈ db.execution.permits.rows, decide (p.taskId = taskId) = true →
        db.isTaskOf (fun x => x = tenant) p.taskId = true := by
    intro db hdb hdbOnly p hp hsame
    exact isTaskOf_of_onlyOf (hdb.permits p hp) (of_decide_eq_true hsame ▸ hdbOnly)
  exact Table.select_congr (congrArg TenantRows.permits h) (hown hs honly) (hown hs' honly')

/-- The request of an action of the tenant, in its own tenant. -/
theorem approval? (h : s.Agrees s' tenant) (id : String) :
    (s.approvals.find? id).filter (fun a => a.organizationId = tenant) =
      (s'.approvals.find? id).filter fun a => a.organizationId = tenant :=
  Table.find?_filter_congr (congrArg TenantRows.approvals h) id

/-- A pending approval has a request that is found. -/
theorem pendingApproval_some (h : s.Agrees s' tenant) {checkpoint : GovernedPlanCheckpoint}
    {action : PendingActionModel} {approval : ApprovalRequestModel}
    (hselect : ∀ active, checkpoint.activeStep = some active →
      (s.pendingActions.select fun m =>
        m.taskId = active.nativeTaskId && m.stepId = active.nativeStepId) =
      s'.pendingActions.select fun m =>
        m.taskId = active.nativeTaskId && m.stepId = active.nativeStepId)
    (hown : action.organizationId = tenant)
    (hrows : s.pendingApproval checkpoint = .ok (some (action, approval))) :
    s'.pendingApproval checkpoint = .ok (some (action, approval)) := by
  obtain ⟨active, hactive, hone, id, hid, hne, hfind, htask, horganization⟩ :=
    pendingApproval_rows.mp hrows
  have hfind' : (s'.approvals.find? id).filter (fun a => a.organizationId = tenant) =
      some approval := by
    rw [← h.approval?]
    exact Option.filter_eq_some_iff.mpr ⟨hfind, decide_eq_true (horganization.trans hown)⟩
  exact pendingApproval_rows.mpr ⟨active, hactive, hselect active hactive ▸ hone, id, hid, hne,
    (Option.filter_eq_some_iff.mp hfind').1, htask, horganization⟩

end Agrees

/-- A checkpoint is at a step of a tenant. -/
def AtStepOf (db : Database) (tenant : String) (checkpoint : GovernedPlanCheckpoint) : Prop :=
  ∀ active, checkpoint.activeStep = some active → db.OnlyOf tenant active.nativeTaskId

variable {checkpoint : GovernedPlanCheckpoint}

/-- An action that a run of a tenant waits for is the tenant's. -/
theorem Attributed.pendingApproval (hs : s.Attributed) (hat : s.AtStepOf tenant checkpoint)
    {action : PendingActionModel} {approval : ApprovalRequestModel}
    (hrows : s.pendingApproval checkpoint = .ok (some (action, approval))) :
    action.organizationId = tenant := by
  obtain ⟨active, hactive, htask, _, hfind⟩ := pendingApproval_eq_some hrows
  have htaskOf := hs.pendingActions action (Table.mem_of_find? hfind)
  exact organization_of_task? htaskOf (htask ▸ hat active hactive)

namespace Agrees

theorem pendingApproval (h : s.Agrees s' tenant) (hs : s.Attributed) (hs' : s'.Attributed)
    (hat : s.AtStepOf tenant checkpoint) (hat' : s'.AtStepOf tenant checkpoint) :
    s.pendingApproval checkpoint = s'.pendingApproval checkpoint := by
  have hselect : ∀ active, checkpoint.activeStep = some active →
      (s.pendingActions.select fun m =>
        m.taskId = active.nativeTaskId && m.stepId = active.nativeStepId) =
      s'.pendingActions.select fun m =>
        m.taskId = active.nativeTaskId && m.stepId = active.nativeStepId := fun active hactive =>
    h.pendingActionsOf hs hs' (hat active hactive) (hat' active hactive) active.nativeStepId
  have hnone : s.pendingApproval checkpoint = .ok none ↔
      s'.pendingApproval checkpoint = .ok none := by
    rw [pendingApproval_eq_none, pendingApproval_eq_none]
    refine forall₂_congr fun active hactive => ?_
    exact Eq.congr_left (hselect active hactive)
  have hsome : ∀ rows, s.pendingApproval checkpoint = .ok (some rows) ↔
      s'.pendingApproval checkpoint = .ok (some rows) := by
    rintro ⟨action, approval⟩
    constructor
    · intro hrows
      exact h.pendingApproval_some hselect (hs.pendingApproval hat hrows) hrows
    · intro hrows
      exact h.symm.pendingApproval_some (fun active hactive => (hselect active hactive).symm)
        (hs'.pendingApproval hat' hrows) hrows
  cases hrows : s.pendingApproval checkpoint with
  | ok rows =>
      cases rows with
      | none => exact (hnone.mp hrows).symm
      | some rows => exact ((hsome rows).mp hrows).symm
  | error e =>
      cases hrows' : s'.pendingApproval checkpoint with
      | error e' => rw [pendingApproval_error hrows, pendingApproval_error hrows']
      | ok rows' =>
          cases rows' with
          | none => cases hrows.symm.trans (hnone.mpr hrows')
          | some rows' => cases hrows.symm.trans ((hsome rows').mpr hrows')

/-- The rows around an active step. -/
theorem activeRows (h : s.Agrees s' tenant) (hs : s.Attributed) (hs' : s'.Attributed)
    {active : GovernedPlanStepRef} (hactive : checkpoint.activeStep = some active)
    (hat : s.AtStepOf tenant checkpoint) (hat' : s'.AtStepOf tenant checkpoint) :
    s.activeRows checkpoint active tenant = s'.activeRows checkpoint active tenant := by
  unfold Database.activeRows
  rw [h.getNativePair, h.pendingApproval hs hs' hat hat',
    h.attemptsOf hs hs' (hat active hactive) (hat' active hactive),
    h.permitsOf hs hs' (hat active hactive) (hat' active hactive)]

end Agrees

end Database

/-! ## What a user reads -/

section Reads

variable {P : Platform} {E : Environment} {user : UserContext} {runId : String}
  {s s' : Database} {locked : LockedRun}

/-- A tenant loads its runs from its own rows. -/
theorem Database.Agrees.loadLocked (h : s.Agrees s' user.orgId) (hs : s.Attributed)
    (hs' : s'.Attributed) : loadLocked P s user runId = AgentPact.loadLocked P s' user runId := by
  unfold AgentPact.loadLocked Database.getRoot
  rw [h.task?, h.admissionOf]
  cases hroot : s'.task? runId user.orgId with
  | none => rfl
  | some root =>
      have hevents : s.loadEvents runId = s'.loadEvents runId :=
        h.loadEvents hs hs' (by rw [h.task?, hroot]; rfl)
      rw [hevents]

/-- And sees them from its own rows. -/
theorem Database.Agrees.projectLocked (h : s.Agrees s' user.orgId) (hs : s.Attributed)
    (hs' : s'.Attributed) (horganization : locked.root.organizationId = user.orgId)
    (hat : s.AtStepOf user.orgId locked.checkpoint)
    (hat' : s'.AtStepOf user.orgId locked.checkpoint) :
    projectLocked P E s locked = AgentPact.projectLocked P E s' locked := by
  have hview : viewLocked P s locked = viewLocked P s' locked := by
    unfold viewLocked
    dsimp only
    rw [horganization, h.getPauseSignal]
    cases hactive : locked.checkpoint.activeStep with
    | none => rfl
    | some active => simp only [h.activeRows hs hs' hactive hat hat']
  unfold AgentPact.projectLocked
  rw [hview]

/-- What is made of a run and its projection is made of rows of the tenant. -/
theorem Database.Agrees.read {α : Type} {f f' : LockedRun → AgentRunProjection → Except Raised α}
    (h : s.Agrees s' user.orgId) (hs : s.Attributed) (hs' : s'.Attributed)
    (hnative : s.OwnNatives P user.orgId) (hnative' : s'.OwnNatives P user.orgId)
    (hf : ∀ locked p, LoadedFrom P s user.orgId runId locked → f locked p = f' locked p) :
    (do let locked ← AgentPact.loadLocked P s user runId
        let p ← AgentPact.projectLocked P E s locked
        f locked p) =
      (do let locked ← AgentPact.loadLocked P s' user runId
          let p ← AgentPact.projectLocked P E s' locked
          f' locked p) := by
  have hload : AgentPact.loadLocked P s user runId = AgentPact.loadLocked P s' user runId :=
    h.loadLocked hs hs'
  cases hlocked : AgentPact.loadLocked P s user runId with
  | error e => rw [← hload, hlocked]; rfl
  | ok locked =>
      have hfrom := loadLocked_eq_ok.mp hlocked
      have hfrom' := loadLocked_eq_ok.mp (hload.symm.trans hlocked)
      have hproject : AgentPact.projectLocked P E s locked = AgentPact.projectLocked P E s' locked :=
        h.projectLocked hs hs' hfrom.organization.1 (fun active => hnative _ _ _ hfrom)
          fun active => hnative' _ _ _ hfrom'
      rw [← hload, hlocked]
      simp only [except_ok_bind, hproject, hf locked _ hfrom]

section

variable {observations observations' : String → Option PlannerObservation}
  (h : s.Agrees s' user.orgId) (hs : s.Attributed) (hs' : s'.Attributed)
  (hnative : s.OwnNatives P user.orgId) (hnative' : s'.OwnNatives P user.orgId)

include h hs hs' hnative hnative'

theorem Database.Agrees.getRun : getRun P E user runId s = AgentPact.getRun P E user runId s' := by
  have hread := h.read (E := E) (f := fun _ p => pure p) hs hs' hnative hnative'
    fun _ _ (_ : LoadedFrom P s user.orgId runId _) => rfl
  simpa [AgentPact.getRun] using hread

theorem Database.Agrees.getEvents :
    getEvents P E user runId s = AgentPact.getEvents P E user runId s' :=
  h.read hs hs' hnative hnative' fun _ _ _ => rfl

theorem Database.Agrees.getDecisionTrace
    (hobservations : ∀ locked, LoadedFrom P s user.orgId runId locked →
      observations locked.bundle.admissionId = observations' locked.bundle.admissionId) :
    getDecisionTrace P E user runId observations s =
      AgentPact.getDecisionTrace P E user runId observations' s' :=
  h.read hs hs' hnative hnative' fun locked _ hfrom => by rw [hobservations locked hfrom]

theorem Database.Agrees.getReport
    (hobservations : ∀ locked, LoadedFrom P s user.orgId runId locked →
      observations locked.bundle.admissionId = observations' locked.bundle.admissionId) :
    getReport P E user runId observations s =
      AgentPact.getReport P E user runId observations' s' :=
  h.read hs hs' hnative hnative' fun locked _ hfrom => by rw [hobservations locked hfrom]

end

end Reads

/-! ## What a user lists -/

section Listing

variable {ι : Type} [LinearOrder ι] {I : Interpreter} {C : Collation ι} {P : Platform}
  {E : Environment} {user : UserContext} {D D' : ListedDatabase} {tenant : String}

/-- Two databases have the same rows of a tenant, and the same times of its tasks. -/
structure ListedDatabase.Agrees (D D' : ListedDatabase) (tenant : String) : Prop where
  rows : D.db.Agrees D'.db tenant
  times : ∀ t ∈ D.db.tasks.rows, t.organizationId = tenant → D.times t.taskId = D'.times t.taskId

theorem mem_joined {t : TaskModel} (h : t ∈ D.joined tenant) :
    t ∈ D.db.tasks.rows ∧ t.organizationId = tenant := by
  obtain ⟨t', ht', hmem⟩ := List.mem_flatMap.mp h
  obtain ⟨_, _, rfl⟩ := List.mem_map.mp hmem
  obtain ⟨hrow, howns⟩ := Table.mem_select.mp ht'
  simp only [Bool.and_eq_true, decide_eq_true_eq] at howns
  exact ⟨hrow, howns.1⟩

namespace ListedDatabase.Agrees

theorem joined (h : D.Agrees D' tenant) : D.joined tenant = D'.joined tenant := by
  have htasks : (D.db.tasks.select fun t => t.organizationId = tenant && likeRun t.taskId) =
      D'.db.tasks.select fun t => t.organizationId = tenant && likeRun t.taskId := by
    refine Table.select_congr (congrArg TenantRows.tasks h.rows) ?_ ?_
    all_goals simp +contextual
  unfold ListedDatabase.joined
  rw [← htasks]
  refine List.flatMap_congr fun t ht => ?_
  obtain ⟨_, howns⟩ := Table.mem_select.mp ht
  simp only [Bool.and_eq_true, decide_eq_true_eq] at howns
  refine congrArg (List.map fun _ => t) ?_
  refine Table.select_congr (congrArg TenantRows.admissions h.rows) ?_ ?_
  all_goals simp [howns.1]

theorem listRoots (h : D.Agrees D' tenant) (boundary : Option (DateTime × Text)) (limit : Nat) :
    D.listRoots C tenant boundary limit = D'.listRoots C tenant boundary limit := by
  have hcreated : ∀ t ∈ D.joined tenant, D.created t = D'.created t := by
    intro t ht
    obtain ⟨hrow, hown⟩ := mem_joined ht
    unfold ListedDatabase.created
    rw [h.times t hrow hown]
  have hfilter : (D.joined tenant).filter (fun t => boundary.all fun b => D.isBefore C b t) =
      (D'.joined tenant).filter fun t => boundary.all fun b => D'.isBefore C b t := by
    rw [← h.joined]
    refine List.filter_congr fun t ht => ?_
    simp only [ListedDatabase.isBefore, hcreated t ht]
  unfold ListedDatabase.listRoots
  rw [← hfilter]
  have hsame : ∀ a ∈ (D.joined tenant).filter fun t => boundary.all fun b => D.isBefore C b t,
      ∀ b ∈ (D.joined tenant).filter fun t => boundary.all fun b => D.isBefore C b t,
        D.Descends C a b ↔ D'.Descends C (id a) (id b) := by
    intro a ha b hb
    simp only [ListedDatabase.Descends, id, hcreated a (List.mem_of_mem_filter ha),
      hcreated b (List.mem_of_mem_filter hb)]
  have hsort := List.map_insertionSort (D.Descends C) (D'.Descends C) id _ hsame
  rw [List.map_id, List.map_id] at hsort
  rw [hsort]

/-- The runs on a page are tasks of the tenant. -/
theorem mem_listRoots {boundary : Option (DateTime × Text)} {limit : Nat} {t : TaskModel}
    (ht : t ∈ D.listRoots C tenant boundary limit) :
    t ∈ D.db.tasks.rows ∧ t.organizationId = tenant := by
  have hmem := (List.mem_insertionSort _).mp (List.mem_of_mem_take ht)
  exact mem_joined (List.mem_of_mem_filter hmem)

theorem listRuns (h : D.Agrees D' user.orgId) (hs : D.db.Attributed) (hs' : D'.db.Attributed)
    (hnative : D.db.OwnNatives P user.orgId) (hnative' : D'.db.OwnNatives P user.orgId)
    (cursor : Option (List Nat)) (limit : Int) :
    listRuns I C P E D user cursor limit = AgentPact.listRuns I C P E D' user cursor limit := by
  have hsummary : ∀ boundary, ∀ t ∈ (D.listRoots C user.orgId boundary (limit.toNat + 1)).take
      limit.toNat, summarize P E D user t = summarize P E D' user t := by
    intro boundary t ht
    obtain ⟨hrow, hown⟩ := mem_listRoots (List.mem_of_mem_take ht)
    unfold summarize
    rw [h.rows.getRun hs hs' hnative hnative', h.times t hrow hown]
  unfold AgentPact.listRuns
  simp only [← h.listRoots, mapM_congr (hsummary _)]

end ListedDatabase.Agrees

end Listing

end AgentPact
