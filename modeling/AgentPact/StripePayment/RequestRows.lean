import AgentPact.AgentRuns.TenantRuns
import AgentPact.StripePayment.Admitting

/-!
# The rows of a request

What a request for a run leaves in the store: its admission, the root of its run,
and the first event of its journal.  Commands, pauses and the creation of other runs
leave these as they are (`LeavesRequest`).
-/

namespace AgentPact

open Base Transaction

/-- A request: its tenant and its id. -/
structure CreationKey where
  tenantId : String
  requestId : String
deriving DecidableEq

/-- The run of a request. -/
def CreationKey.runId (P : Platform) (k : CreationKey) : String :=
  derivePackRunId P k.tenantId k.requestId

/-- The admissions of a request. -/
def Database.admissionsOf (db : Database) (k : CreationKey) : List GovernedTaskAdmissionModel :=
  db.admissions.select fun a => a.organizationId = k.tenantId && a.requestId = k.requestId

/-- The first events in the journals of a run. -/
def Database.admittedEvents (db : Database) (runId : String) : List GovernanceAuditEventModel :=
  db.audit.select (Stripe.isAdmittedEvent runId)

/-! ## What creates nothing -/

/-- Nothing is admitted, no task is added, and no journal begins. -/
structure Database.CreatesNothing (s t : Database) : Prop where
  admissions : t.admissions = s.admissions
  tasks : s.tasks.Evolves SameTask t.tasks
  fresh : ∀ taskId, s.tasks.find? taskId = none → t.tasks.find? taskId = none
  admitted : ∀ runId, t.admittedEvents runId = s.admittedEvents runId

namespace Database.CreatesNothing

variable {s t u : Database}

theorem refl (s : Database) : s.CreatesNothing s :=
  ⟨rfl, .refl SameTask.refl _, fun _ => id, fun _ => rfl⟩

theorem trans (s t u : Database) (h : s.CreatesNothing t) (h' : t.CreatesNothing u) :
    s.CreatesNothing u where
  admissions := h'.admissions.trans h.admissions
  tasks := h.tasks.trans SameTask.trans h'.tasks
  fresh taskId := h'.fresh taskId ∘ h.fresh taskId
  admitted runId := (h'.admitted runId).trans (h.admitted runId)

/-- Rows elsewhere. -/
theorem of_eq (htasks : t.tasks = s.tasks) (hadmissions : t.admissions = s.admissions)
    (haudit : t.audit = s.audit) : s.CreatesNothing t := by
  refine ⟨hadmissions, ?_, fun taskId => ?_, fun runId => ?_⟩
  · rw [htasks]
    exact .refl SameTask.refl _
  · rw [htasks]
    exact id
  · unfold admittedEvents
    rw [haudit]

/-- An event that an append adds is no first one. -/
theorem insertAudit {row : GovernanceAuditEventModel} (h : s.insertAudit? row = some t)
    (hrow : ∀ event, row.payload = .journal event → event.transition.appendable = true) :
    s.CreatesNothing t := by
  obtain ⟨audit, haudit, rfl⟩ := Database.insertAudit?_eq_some.mp h
  refine ⟨rfl, .refl SameTask.refl _, fun _ => id, fun runId => ?_⟩
  have hnot : Stripe.isAdmittedEvent runId row = false := by
    unfold Stripe.isAdmittedEvent
    cases hpayload : row.payload with
    | journal event =>
        have hallowed := hrow event hpayload
        cases htransition : event.transition with
        | admitted => rw [htransition] at hallowed; cases hallowed
        | _ => simp [htransition]
    | _ => simp
  show audit.select _ = _
  rw [Table.select_insert? haudit, hnot]
  exact List.append_nil _

/-- The writes of commands. -/
theorem frames (user : UserContext) : Frames user CreatesNothing where
  refl := refl
  trans := trans
  write s t h := by
    cases h with
    | native _ _ _ _ =>
        exact ⟨rfl, .update SameTask.refl fun _ _ => rfl,
          fun _ hnone => Table.find?_update_none hnone, fun _ => rfl⟩
    | action _ _ => exact of_eq rfl rfl rfl
    | request _ _ _ _ _ _ => exact of_eq rfl rfl rfl
    | row hrow hinsert => exact insertAudit hinsert hrow.appended

/-- An append. -/
theorem append {P : Platform} {r : AppendRequest} {c : GovernedPlanCheckpoint}
    (h : appendAgentRunTransition P r s = .ok c t) : s.CreatesNothing t := by
  obtain ⟨hallowed, _, _, _, _, _, ⟨_, _, hinsert, _⟩ | ⟨_, _, _, rfl⟩⟩ :=
    appendAgentRunTransition_eq_ok.mp h
  case inr => exact refl t
  refine insertAudit hinsert fun event hevent => ?_
  cases hevent
  exact hallowed

/-- A pause for an approval. -/
theorem pause {P : Platform} {r : RunApprovalPause} {c : GovernedPlanCheckpoint}
    (h : pauseRunForApproval P r s = .ok c t) : s.CreatesNothing t := by
  obtain ⟨u, _, _, _, _, _, pause, _, hpaused⟩ := pauseRunForApproval_eq_ok h
  have hrows : s.CreatesNothing u := by
    rw [hpaused.paused.same]
    exact ⟨rfl, .update SameTask.refl fun _ _ => rfl,
      fun _ hnone => Table.find?_update_none hnone, fun _ => rfl⟩
  exact hrows.trans _ _ _ (append hpaused.appended)

end Database.CreatesNothing

/-! ## What leaves a request alone -/

section Leaves

variable {μ : Type}

/-- The admission, the root and the first event of a request stay. -/
structure LeavesRequest (P : Platform) (k : CreationKey) (s t : CreationStore μ) : Prop where
  admissions : t.db.admissionsOf k = s.db.admissionsOf k
  bundles : ∀ a ∈ s.db.admissionsOf k, t.bundles a.admissionId = s.bundles a.admissionId
  root : ∀ task, s.db.tasks.find? (k.runId P) = some task →
    ∃ task', t.db.tasks.find? (k.runId P) = some task' ∧ SameTask task task'
  fresh : s.db.tasks.find? (k.runId P) = none → t.db.tasks.find? (k.runId P) = none
  admitted : t.db.admittedEvents (k.runId P) = s.db.admittedEvents (k.runId P)

namespace LeavesRequest

variable {P : Platform} {k : CreationKey} {s t u : CreationStore μ}

theorem refl (s : CreationStore μ) : LeavesRequest P k s s :=
  ⟨rfl, fun _ _ => rfl, fun task h => ⟨task, h, SameTask.refl task⟩, id, rfl⟩

theorem trans (s t u : CreationStore μ) (h : LeavesRequest P k s t) (h' : LeavesRequest P k t u) :
    LeavesRequest P k s u where
  admissions := h'.admissions.trans h.admissions
  bundles a ha := (h'.bundles a (h.admissions ▸ ha)).trans (h.bundles a ha)
  root task htask := by
    obtain ⟨task', htask', hsame⟩ := h.root task htask
    obtain ⟨task'', htask'', hsame'⟩ := h'.root task' htask'
    exact ⟨task'', htask'', SameTask.trans _ _ _ hsame hsame'⟩
  fresh := h'.fresh ∘ h.fresh
  admitted := h'.admitted.trans h.admitted

/-- What creates nothing. -/
theorem of_createsNothing (hbundles : t.bundles = s.bundles) (h : s.db.CreatesNothing t.db) :
    LeavesRequest P k s t where
  admissions := by
    unfold Database.admissionsOf
    rw [h.admissions]
  bundles a _ := by rw [hbundles]
  root task htask := h.tasks _ _ htask
  fresh := h.fresh _
  admitted := h.admitted _

end LeavesRequest

end Leaves

namespace Stripe

/-! ## What the transactions of an admission write -/

section Writes

variable {A : StripeAdapter} {K : AdmissionCodec} {P : Platform} {k : CreationKey}
  {run : StripeM10PreparedRun} {createdAt : DateTime} {s t : CreationStore StripeMemory} {u : Unit}

/-- An admission is found under its request, or added. -/
theorem persistAdmission_eq_ok : persistAdmission run s = .ok u t ↔
    (∃ row stored, s.db.admissionFor run.admissionBundle.task.organizationId
          run.admissionBundle.request.requestId = some row ∧
        s.bundles row.admissionId = some stored ∧ stored.Same run.admissionBundle ∧ t = s) ∨
      s.db.admissionFor run.admissionBundle.task.organizationId
          run.admissionBundle.request.requestId = none ∧
        insertAdmission? run.admissionBundle s = some t := by
  simp only [persistAdmission, atomic_eq_ok, read_bind]
  cases s.db.admissionFor run.admissionBundle.task.organizationId
    run.admissionBundle.request.requestId with
  | none => simp
  | some row => simp [fetch_bind_eq_ok]

theorem persistAdmission_clean (run : StripeM10PreparedRun) : Clean (persistAdmission run) :=
  .atomic _

/-- A task is found with its marker, or added. -/
theorem publishTask_eq_ok {taskId text : String} : publishTask run taskId text s = .ok u t ↔
    (∃ task, s.db.task? taskId run.user.orgId = some task ∧
        task.application = some planApplicationMarker ∧ t = s) ∨
      s.db.task? taskId run.user.orgId = none ∧
        insertTask? ⟨taskId, run.user.orgId, .running, some planApplicationMarker⟩ s = some t := by
  simp only [publishTask, read_bind]
  cases s.db.task? taskId run.user.orgId with
  | none => simp
  | some task => simp

/-- The first event is found, or added. -/
theorem publishEvent_eq_ok {event : PlanJournalEvent} : publishEvent run event s = .ok u t ↔
    (s.db.admittedEvents run.runId ≠ [] ∧ t = s) ∨
      s.db.admittedEvents run.runId = [] ∧
        insertAuditRow? (eventRow event run.user.orgId) s = some t := by
  simp only [publishEvent, read_bind]
  by_cases hnone : s.db.audit.select (isAdmittedEvent run.runId) = []
  · rw [if_pos hnone]
    simp [Database.admittedEvents, hnone]
  · rw [if_neg hnone]
    simp [Database.admittedEvents, hnone, eq_comm]

/-- The rows of requests are the same. -/
structure SameRecords (s t : CreationStore StripeMemory) : Prop where
  tasks : t.db.tasks = s.db.tasks
  admissions : t.db.admissions = s.db.admissions
  audit : t.db.audit = s.db.audit
  bundles : t.bundles = s.bundles

namespace SameRecords

variable {v w : CreationStore StripeMemory}

theorem refl (s : CreationStore StripeMemory) : SameRecords s s := ⟨rfl, rfl, rfl, rfl⟩

theorem trans (s v w : CreationStore StripeMemory) (h : SameRecords s v) (h' : SameRecords v w) :
    SameRecords s w :=
  ⟨h'.tasks.trans h.tasks, h'.admissions.trans h.admissions, h'.audit.trans h.audit,
    h'.bundles.trans h.bundles⟩

theorem leaves (h : SameRecords s t) : LeavesRequest P k s t :=
  .of_createsNothing h.bundles (.of_eq h.tasks h.admissions h.audit)

/-- A write of other rows, or none. -/
theorem write? {put : CreationStore StripeMemory → Option (CreationStore StripeMemory)} {e : Raised}
    (h : ∀ s t, put s = some t → SameRecords s t) : Within SameRecords (Transaction.write? put e) := by
  intro s
  unfold Transaction.write?
  cases hput : put s with
  | none => exact refl s
  | some t => exact h s t hput

theorem publishStep (A : StripeAdapter) (run : StripeM10PreparedRun) :
    Within SameRecords (Stripe.publishStep A run) := by
  refine .bind trans refl fun found => ?_
  cases found with
  | none =>
      refine write? fun s t h => ?_
      obtain ⟨_, _, rfl⟩ := Option.map_eq_some_iff.mp h
      exact ⟨rfl, rfl, rfl, rfl⟩
  | some step => exact .bind trans refl fun _ => .require refl _

theorem publishContract (run : StripeM10PreparedRun) (taskId contractId text : String) :
    Within SameRecords (Stripe.publishContract run taskId contractId text) := by
  refine .bind trans refl fun found => ?_
  cases found with
  | none =>
      refine write? fun s t h => ?_
      obtain ⟨_, _, rfl⟩ := Option.map_eq_some_iff.mp h
      exact ⟨rfl, rfl, rfl, rfl⟩
  | some contract => exact .require refl _

theorem publishNativeContract (run : StripeM10PreparedRun) :
    Within SameRecords (Stripe.publishNativeContract run) := by
  unfold Stripe.publishNativeContract
  dsimp only
  split
  · exact .bind trans refl fun _ => .require refl _
  · exact publishContract _ _ _ _

end SameRecords

/-- Adding a task leaves the runs of other ids alone. -/
theorem insertTask?_leaves {row : TaskModel} (h : insertTask? row s = some t)
    (hother : row.taskId ≠ k.runId P) : LeavesRequest P k s t := by
  obtain ⟨tasks, hinsert, rfl⟩ := Option.map_eq_some_iff.mp h
  refine ⟨rfl, fun _ _ => rfl, fun task htask => ?_, fun hnone => ?_, rfl⟩
  · exact ⟨task, Table.find?_insert?_of_find? hinsert htask, SameTask.refl task⟩
  · refine Table.find?_eq_none.mpr fun x hx hkey => ?_
    rcases (Table.mem_insert? hinsert).mp hx with hold | rfl
    · exact Table.find?_eq_none.mp hnone x hold hkey
    · exact hother hkey

/-- A task that is published runs the plan. -/
theorem publishTask_root {taskId text : String} (h : publishTask run taskId text s = .ok u t) :
    ∃ task, t.db.task? taskId run.user.orgId = some task ∧
      task.application = some planApplicationMarker := by
  rcases publishTask_eq_ok.mp h with ⟨task, htask, hmarker, rfl⟩ | ⟨_, hinsert⟩
  · exact ⟨task, htask, hmarker⟩
  · obtain ⟨tasks, hrow, rfl⟩ := Option.map_eq_some_iff.mp hinsert
    exact ⟨_, Option.filter_eq_some_iff.mpr
      ⟨Table.find?_insert?_self hrow, decide_eq_true rfl⟩, rfl⟩

theorem stripeInitialCheckpoint_root {checkpoint : GovernedPlanCheckpoint}
    (h : stripeInitialCheckpoint A K run = .ok checkpoint) : checkpoint.rootTaskId = run.runId := by
  obtain ⟨step, _, h⟩ := except_bind_eq_ok.mp h
  split at h
  case isTrue => cases h; rfl
  case isFalse => cases h

/-- What the second transaction of an admission does: it publishes the root, rows elsewhere, and the
first event. -/
structure Initializes (A : StripeAdapter) (K : AdmissionCodec) (run : StripeM10PreparedRun)
    (createdAt : DateTime) (s v w t : CreationStore StripeMemory)
    (checkpoint : GovernedPlanCheckpoint) : Prop where
  starts : stripeInitialCheckpoint A K run = .ok checkpoint
  root : publishTask run run.runId
    "Stripe Agent Run root Task has an untrusted application marker" s = .ok () v
  elsewhere : SameRecords v w
  event : publishEvent run (admittedEvent A.process.platform checkpoint (authorityDigests A K run)
    createdAt) w = .ok () t

theorem initializeAgentRunState_eq_ok (h : initializeAgentRunState A K run createdAt s = .ok u t) :
    ∃ v w checkpoint, Initializes A K run createdAt s v w t checkpoint := by
  obtain ⟨checkpoint, hcheckpoint, h⟩ := lift_bind_eq_ok.mp h
  simp only [atomic_eq_ok, bind_eq_ok] at h
  obtain ⟨_, v, hroot, _, v', hchild, _, v₁, hstep, _, v₂, hcontract, _, w, hnative, hevent⟩ := h
  -- the native task is the root, which is there by now
  obtain ⟨task, htask, _⟩ := publishTask_root hroot
  have hsame : v' = v := by
    rcases publishTask_eq_ok.mp hchild with ⟨_, _, _, hsame⟩ | ⟨hnone, _⟩
    · exact hsame
    · cases htask.symm.trans hnone
  subst hsame
  have helsewhere : SameRecords v' w := by
    have hfirst := (SameRecords.publishStep A run).of_ok hstep
    have hsecond := (SameRecords.publishContract run _ _ _).of_ok hcontract
    have hthird := (SameRecords.publishNativeContract run).of_ok hnative
    exact (hfirst.trans _ _ _ hsecond).trans _ _ _ hthird
  exact ⟨v', w, checkpoint, hcheckpoint, hroot, helsewhere, hevent⟩

theorem initializeAgentRunState_clean (A : StripeAdapter) (K : AdmissionCodec)
    (run : StripeM10PreparedRun) (createdAt : DateTime) :
    Clean (initializeAgentRunState A K run createdAt) :=
  .bind_keeps (fun _ => .lift _) fun _ => .atomic _

/-- The first event of a run is a first event of that run only. -/
theorem isAdmittedEvent_eventRow {checkpoint : GovernedPlanCheckpoint} {digests : Dict}
    {organizationId runId : String} :
    isAdmittedEvent runId (eventRow (admittedEvent P checkpoint digests createdAt) organizationId) =
      decide (checkpoint.rootTaskId = runId) := by
  simp only [isAdmittedEvent, eventRow, admittedEvent, planEvent, decide_true, Bool.and_true]
  rfl

/-! ## Other requests -/

/-- An admission of another request. -/
theorem persistAdmission_leaves (h : persistAdmission run s = .ok u t)
    (hother : ¬ (run.admissionBundle.task.organizationId = k.tenantId ∧
      run.admissionBundle.request.requestId = k.requestId)) : LeavesRequest P k s t := by
  rcases persistAdmission_eq_ok.mp h with ⟨_, _, _, _, _, rfl⟩ | ⟨_, hinsert⟩
  · exact .refl t
  · obtain ⟨admissions, hadded, rfl⟩ := Option.map_eq_some_iff.mp hinsert
    refine ⟨?_, fun a ha => ?_, fun task htask => ⟨task, htask, SameTask.refl task⟩, id, rfl⟩
    · show admissions.select _ = _
      rw [Table.select_insert? hadded, if_neg (by simpa using hother)]
      exact List.append_nil _
    · have hrow := (Table.mem_select.mp ha).1
      have hne : a.admissionId ≠ run.admissionBundle.admissionId := by
        intro hsame
        exact (Table.insert?_eq_some.mp hadded).1 a hrow (Schema.clash_of_key hsame)
      exact Function.update_of_ne hne _ _

/-- The root and the first event of another run. -/
theorem initializeAgentRunState_leaves
    (h : initializeAgentRunState A K run createdAt s = .ok u t) (hother : run.runId ≠ k.runId P) :
    LeavesRequest P k s t := by
  obtain ⟨v, w, checkpoint, h⟩ := initializeAgentRunState_eq_ok h
  have hroot : LeavesRequest P k s v := by
    rcases publishTask_eq_ok.mp h.root with ⟨_, _, _, rfl⟩ | ⟨_, hinsert⟩
    · exact .refl v
    · exact insertTask?_leaves hinsert hother
  have hevent : LeavesRequest P k w t := by
    rcases publishEvent_eq_ok.mp h.event with ⟨_, rfl⟩ | ⟨_, hinsert⟩
    · exact .refl t
    · obtain ⟨db, hadded, rfl⟩ := Option.map_eq_some_iff.mp hinsert
      obtain ⟨audit, haudit, rfl⟩ := Database.insertAudit?_eq_some.mp hadded
      refine ⟨rfl, fun _ _ => rfl, fun task htask => ⟨task, htask, SameTask.refl task⟩, id, ?_⟩
      show audit.select _ = _
      rw [Table.select_insert? haudit, isAdmittedEvent_eventRow,
        stripeInitialCheckpoint_root h.starts, if_neg (by simpa using hother)]
      exact List.append_nil _
  exact (hroot.trans _ _ _ h.elsewhere.leaves).trans _ _ _ hevent

end Writes

end Stripe

end AgentPact
