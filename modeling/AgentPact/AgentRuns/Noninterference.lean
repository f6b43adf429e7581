import AgentPact.AgentRuns.TenantCommands

/-!
# Tenant noninterference

What a tenant learns of the others, and what it changes of theirs.  Databases with
the same rows of a tenant are read alike by its users, an id of another tenant is
as unknown to them as one that is nowhere, and their commands change rows of their
own tenant only (`tenant_noninterference`).
-/

namespace AgentPact

open Base Transaction JsonText

/-! ## Ids of other tenants

A user has no task under an id of another tenant, and none under an id that is
nowhere.
-/

/-- What a command says of an id that the tenant of the user has no task under. -/
def AgentRunCommand.refusal (user : UserContext) (runId : String) : AgentRunCommand → Raised
  | .approve _ | .terminate .reject _ =>
      agentRunError (if user.isAnyApprover = true then "RUN_NOT_FOUND" else "APPROVER_REQUIRED")
  | .terminate .cancel _ | .probe _ | .submitInput _ | .resume _ =>
      agentRunError (if user.isAnyOperator = true then "RUN_NOT_FOUND" else "OPERATOR_REQUIRED")
  | .recordPauseSignal signal =>
      agentRunError (if user.isAnyOperator = true then
        if signal.runId = runId then "RUN_NOT_FOUND" else "PAUSE_SIGNAL_CORRELATION_INVALID"
      else "OPERATOR_REQUIRED")

section Foreign

variable {P : Platform} {E : Environment} {user : UserContext} {runId : String} {s : Database}

theorem loadLocked_of_foreign (h : s.task? runId user.orgId = none) :
    loadLocked P s user runId = .error (agentRunError "RUN_NOT_FOUND") := by
  unfold loadLocked Database.getRoot
  rw [h]
  rfl

theorem lockedProjection_of_foreign (h : s.task? runId user.orgId = none) :
    lockedProjection P E user runId s = .error (agentRunError "RUN_NOT_FOUND") := by
  unfold lockedProjection
  rw [loadLocked_of_foreign h]
  rfl

/-- A role is asked for before the run is looked up. -/
theorem demand_bind_foreign {α : Type} {p : Prop} [Decidable p] {code : String}
    {f : LockedRun × AgentRunProjection → Except Raised α} (h : s.task? runId user.orgId = none) :
    (do demand p code
        let x ← lockedProjection P E user runId s
        f x) = .error (agentRunError (if p then "RUN_NOT_FOUND" else code)) := by
  rw [lockedProjection_of_foreign h]
  unfold demand
  split
  · rfl
  · rfl

/-- A command whose checks fail fails with them. -/
theorem query_bind_error {α β : Type} {x : Database → Except Raised α} {f : α → AgentRunTx β}
    {e : Raised} (h : x s = .error e) : (query x >>= f) s = .error e s :=
  bind_of_error (query_eq_error.mpr ⟨h, rfl⟩)

theorem approve_of_foreign {request : AgentRunCommandRequest}
    (h : s.task? runId user.orgId = none) :
    approve P E user runId request s =
      .error ((AgentRunCommand.approve request).refusal user runId) s := by
  by_cases hrole : user.isAnyApprover = true
  case pos =>
    have hdecision : approveDecision P E user runId request s =
        .error (agentRunError "RUN_NOT_FOUND") s := query_bind_error (lockedProjection_of_foreign h)
    unfold approve AgentRunCommand.refusal
    rw [require_bind hrole, if_pos hrole]
    exact bind_of_error (atomic_eq_error.mpr ⟨⟨s, hdecision⟩, rfl⟩)
  case neg =>
    unfold approve AgentRunCommand.refusal
    rw [require_bind_not hrole, if_neg hrole]

theorem recordPauseSignal_of_foreign {signal : RunPauseSignal}
    (h : s.task? runId user.orgId = none) :
    recordPauseSignal P E user runId signal s =
      .error ((AgentRunCommand.recordPauseSignal signal).refusal user runId) s := by
  refine query_bind_error ?_
  unfold pauseAdmits AgentRunCommand.refusal demand
  rw [loadLocked_of_foreign h]
  by_cases hrole : user.isAnyOperator = true
  case pos =>
    by_cases hsignal : signal.runId = runId
    case pos => simp only [if_pos hrole, if_pos hsignal]; rfl
    case neg => simp only [if_pos hrole, if_neg hsignal]; rfl
  case neg => simp only [if_neg hrole]; rfl

/-- Every command refuses such an id, and writes nothing. -/
theorem AgentRunCommand.run_of_foreign (h : s.task? runId user.orgId = none)
    (command : AgentRunCommand) :
    command.run P E user runId s = .error (command.refusal user runId) s := by
  cases command with
  | approve request => exact approve_of_foreign h
  | terminate t request =>
      cases t with
      | reject => exact query_bind_error (demand_bind_foreign h)
      | cancel => exact query_bind_error (demand_bind_foreign h)
  | probe request => exact query_bind_error (demand_bind_foreign h)
  | submitInput request => exact query_bind_error (demand_bind_foreign h)
  | resume request => exact query_bind_error (demand_bind_foreign h)
  | recordPauseSignal signal => exact recordPauseSignal_of_foreign h

end Foreign

/-! ## Noninterference -/

section Tenant

variable {ι : Type} [LinearOrder ι] {I : Interpreter} {C : Collation ι} {P : Platform}
  {E : Environment} {user : UserContext} {D D' : ListedDatabase}
  {observations observations' : String → Option PlannerObservation}

/-- The planner observations in the admissions of a run of a tenant. -/
theorem LoadedFrom.observes {db : Database} {tenant runId : String} {locked : LockedRun}
    (h : LoadedFrom P db tenant runId locked)
    (hobservations : ∀ a ∈ db.admissions.rows, a.organizationId = tenant →
      observations a.bundlePayload.admissionId = observations' a.bundlePayload.admissionId) :
    observations locked.bundle.admissionId = observations' locked.bundle.admissionId := by
  obtain ⟨admission, hadmission, hbundle⟩ := Option.map_eq_some_iff.mp h.admission
  obtain ⟨hrow, hsame⟩ := Table.mem_select.mp (List.mem_of_head? hadmission)
  simp only [Bool.and_eq_true, decide_eq_true_eq] at hsame
  rw [← hbundle]
  exact hobservations admission hrow hsame.2

/-- Tenant noninterference.  Two databases that agree on the rows of a tenant, in which every
row's task is of the tenant the row is about and no native task of the tenant's runs is a task of
another, answer every read of its users alike.  An id that the tenant has no task under is refused
alike whether another tenant has one or nobody has.  And every command of its users leaves the
rows of all other tenants as they are, as far as the Packs of its runs do. -/
theorem tenant_noninterference (h : D.Agrees D' user.orgId)
    (hobservations : ∀ a ∈ D.db.admissions.rows, a.organizationId = user.orgId →
      observations a.bundlePayload.admissionId = observations' a.bundlePayload.admissionId)
    (hs : D.db.Attributed) (hs' : D'.db.Attributed)
    (hnative : D.db.OwnNatives P user.orgId) (hnative' : D'.db.OwnNatives P user.orgId)
    (hpacks : PacksSpare P E user D.db) :
    (∀ runId, getRun P E user runId D.db = getRun P E user runId D'.db ∧
      getEvents P E user runId D.db = getEvents P E user runId D'.db ∧
      getDecisionTrace P E user runId observations D.db =
        getDecisionTrace P E user runId observations' D'.db ∧
      getReport P E user runId observations D.db =
        getReport P E user runId observations' D'.db) ∧
    (∀ cursor limit, listRuns I C P E D user cursor limit =
      listRuns I C P E D' user cursor limit) ∧
    (∀ runId, D.db.task? runId user.orgId = none →
      getRun P E user runId D.db = .error (agentRunError "RUN_NOT_FOUND") ∧
      getEvents P E user runId D.db = .error (agentRunError "RUN_NOT_FOUND") ∧
      getDecisionTrace P E user runId observations D.db =
        .error (agentRunError "RUN_NOT_FOUND") ∧
      getReport P E user runId observations D.db = .error (agentRunError "RUN_NOT_FOUND") ∧
      ∀ command : AgentRunCommand, command.run P E user runId D.db =
        .error (command.refusal user runId) D.db) ∧
    ∀ runId (command : AgentRunCommand),
      D.db.Spares (left (command.run P E user runId D.db)) user.orgId := by
  refine ⟨fun runId => ?reads, ?lists, fun runId hforeign => ?foreign, fun runId command => ?spares⟩
  case reads =>
    have hloaded : ∀ locked, LoadedFrom P D.db user.orgId runId locked →
        observations locked.bundle.admissionId = observations' locked.bundle.admissionId :=
      fun locked hlocked => hlocked.observes hobservations
    exact ⟨h.rows.getRun hs hs' hnative hnative', h.rows.getEvents hs hs' hnative hnative',
      h.rows.getDecisionTrace hs hs' hnative hnative' hloaded,
      h.rows.getReport hs hs' hnative hnative' hloaded⟩
  case lists => exact h.listRuns hs hs' hnative hnative'
  case foreign =>
    have hload := loadLocked_of_foreign (P := P) hforeign
    refine ⟨?_, ?_, ?_, ?_, AgentRunCommand.run_of_foreign hforeign⟩
    · unfold getRun; rw [hload]; rfl
    · unfold getEvents; rw [hload]; rfl
    · unfold getDecisionTrace; rw [hload]; rfl
    · unfold getReport; rw [hload]; rfl
  case spares => exact .command hs hpacks command

end Tenant

/-! ## A tenant beside another -/

/-- The run of the examples beside another tenant, that waits for an approval of its own. -/
def besideDatabase : Database :=
  { admittedDatabase with
    tasks := ⟨⟨"foreign", "other", .created, none⟩ :: admittedDatabase.tasks.rows, by
      decide +kernel⟩
    pendingActions := ⟨[⟨"action", "foreign", "step", "other", none, .pending, 1, 30⟩],
      List.pairwise_singleton _ _⟩ }

/-- The run without its native pair. -/
def pairlessDatabase : Database :=
  { admittedDatabase with
    tasks := ⟨[⟨sampleRunId, "org", .created, some "agentpact:agent-run:plan:v1"⟩],
      List.pairwise_singleton _ _⟩
    steps := .empty }

/-- The run whose native task is of another tenant, that waits for an approval of its own. -/
def strayDatabase : Database :=
  { pairlessDatabase with
    tasks := ⟨⟨"task", "other", .created, none⟩ :: pairlessDatabase.tasks.rows, by decide +kernel⟩
    pendingActions := ⟨[⟨"action", "task", "step", "other", none, .pending, 1, 30⟩],
      List.pairwise_singleton _ _⟩ }

/-- The journal of the run of the examples is its admission. -/
theorem ownNatives_of_admitted {db : Database} (haudit : db.audit = admittedDatabase.audit)
    (honly : db.OnlyOf "org" "task") : db.OwnNatives samplePlatform "org" := by
  intro runId locked active hlocked hactive
  obtain ⟨last, hlast, hrestored, _⟩ := replayPlanJournal_last hlocked.replay
  obtain ⟨row, hrow, _, hpayload⟩ := Database.mem_loadEvents.mp (List.mem_of_getLast? hlast)
  rw [haudit] at hrow
  cases List.mem_singleton.mp hrow
  cases hpayload
  rw [hrestored] at hactive
  cases hactive
  exact honly

theorem admitted_native : admittedDatabase.OnlyOf "org" "task" :=
  Database.onlyOf_of_task? (by decide +kernel)

theorem beside_native : besideDatabase.OnlyOf "org" "task" :=
  Database.onlyOf_of_task? (by decide +kernel)

theorem listedSample_attributed : listedSample.db.Attributed where
  audit := by decide +kernel
  pendingActions := by decide +kernel
  approvals := by decide +kernel
  permits := by decide +kernel
  attempts := by decide +kernel

theorem besideDatabase_attributed : besideDatabase.Attributed where
  audit := by decide +kernel
  pendingActions := by decide +kernel
  approvals := by decide +kernel
  permits := by decide +kernel
  attempts := by decide +kernel

theorem besideDatabase_agrees : listedSample.db.Agrees besideDatabase "org" := rfl

/-- A Pack that does nothing spares everyone. -/
theorem idle_packsSpare {P : Platform} {user : UserContext} {db : Database} {now : DateTime} :
    PacksSpare P (sampleEnvironment idleAdapter now) user db where
  advance := by
    intro _ _ _ _ _ hrestore _
    obtain ⟨_, rfl⟩ := sampleEnvironment_restores hrestore
    exact .pure .refl none
  probe := by
    intro _ _ _ _ _ hrestore _
    obtain ⟨_, rfl⟩ := sampleEnvironment_restores hrestore
    exact .pure .refl none
  resume := by
    intro _ _ _ _ _ _ hrestore
    simp only [restoreResumable, resolveAdapter, except_bind_eq_ok, demand_eq_ok, exists_const,
      orAgentRunError_eq_ok] at hrestore
    obtain ⟨_, _, _, ⟨_, hresolved, _, hpure⟩, _, _, _, hresume, _⟩ := hrestore
    cases hpure
    cases Except.ok.inj (mapError_eq_ok.mp hresolved)
    cases hresume

theorem tenant_noninterference_sample :
    getRun samplePlatform listingEnvironment sampleUser sampleRunId admittedDatabase =
        getRun samplePlatform listingEnvironment sampleUser sampleRunId besideDatabase ∧
      admittedDatabase.Spares (left ((AgentRunCommand.terminate .cancel ⟨"cancel", none⟩).run
        samplePlatform listingEnvironment sampleUser sampleRunId admittedDatabase)) "org" := by
  have hagrees : listedSample.Agrees ⟨besideDatabase, sampleTimes⟩ sampleUser.orgId :=
    ⟨besideDatabase_agrees, fun _ _ _ => rfl⟩
  obtain ⟨hreads, _, _, hspares⟩ := @tenant_noninterference _ _ sampleInterpreter plainCollation
    samplePlatform listingEnvironment sampleUser _ _ (fun _ => none) (fun _ => none) hagrees
    (fun _ _ _ => rfl) listedSample_attributed besideDatabase_attributed
    (ownNatives_of_admitted rfl admitted_native) (ownNatives_of_admitted rfl beside_native)
    idle_packsSpare
  exact ⟨(hreads sampleRunId).1, hspares sampleRunId _⟩

/-- A run whose native task is of another tenant sees what that tenant waits for. -/
theorem stray_native_interferes :
    ¬ ∀ s s' : Database, s.Attributed → s'.Attributed → s.Agrees s' sampleUser.orgId →
      getRun samplePlatform listingEnvironment sampleUser sampleRunId s =
        getRun samplePlatform listingEnvironment sampleUser sampleRunId s' := by
  intro hsame
  have hpairless : pairlessDatabase.Attributed := by
    constructor <;> decide +kernel
  have hstray : strayDatabase.Attributed := by
    constructor <;> decide +kernel
  have hget := hsame pairlessDatabase strayDatabase hpairless hstray rfl
  have hviews : (sampleView (.utc 20) pairlessDatabase).isSome = true ∧
      sampleView (.utc 20) strayDatabase = none := by decide +kernel
  have hview : sampleView (.utc 20) pairlessDatabase = sampleView (.utc 20) strayDatabase := by
    unfold sampleView
    exact congrArg (fun r => r.toOption.map (·.view)) hget
  rw [hview, hviews.2] at hviews
  cases hviews.1

end AgentPact
