import AgentPact.Base.Lts
import AgentPact.AgentRuns.Frames
import AgentPact.AgentRuns.Service
import AgentPact.Governance.Lifecycle

/-!
# Probes that stop half way

A probe resolves the attempt in a transaction of its Pack, and the journal in a
transaction of the service.  Between the two, the attempt is settled and the
journal still waits for it.

The projection offers a probe only while the attempt is unknown.  So once the
Pack has committed, no probe gets past its checks again
(`Waiting.probe_keeps`), and the journal catches up only if the service gets
there at the first attempt (`ReflectsProbe`).
-/

namespace AgentPact

open Base Transaction

/-! ## What a Pack commits -/

/-- One transaction of a Pack about a step: it writes permits and attempts, or sets the status of
the native rows. -/
inductive PackCommit (active : GovernedPlanStepRef)
    (allowed : AgentRunTaskStatus → AgentRunStepStatus → Prop) : Database → Database → Prop
  | execution (db : Database) (s : ExecutionStore) :
      PackCommit active allowed db { db with execution := s }
  | native (db : Database) {taskStatus : AgentRunTaskStatus} {stepStatus : AgentRunStepStatus}
      (hallowed : allowed taskStatus stepStatus) : PackCommit active allowed db
        (db.setNativeStatus active.nativeTaskId active.nativeStepId taskStatus stepStatus)

/-- The transactions of a Pack about a step. -/
abbrev PackCommits (active : GovernedPlanStepRef)
    (allowed : AgentRunTaskStatus → AgentRunStepStatus → Prop) : Database → Database → Prop :=
  Relation.ReflTransGen (PackCommit active allowed)

/-- What a Pack leaves alone. -/
structure PackKeeps (s t : Database) : Prop where
  /-- It writes permits, attempts, tasks and steps only. -/
  frame : t = { s with execution := t.execution, tasks := t.tasks, steps := t.steps }
  /-- It changes no more of a task than its status. -/
  tasks : s.tasks.Evolves SameTask t.tasks

theorem PackKeeps.refl (s : Database) : PackKeeps s s := ⟨rfl, .refl SameTask.refl _⟩

theorem PackKeeps.trans {s t u : Database} (h : PackKeeps s t) (h' : PackKeeps t u) :
    PackKeeps s u where
  frame := by rw [h'.frame, h.frame]
  tasks := h.tasks.trans SameTask.trans h'.tasks

theorem PackCommit.keeps {active : GovernedPlanStepRef}
    {allowed : AgentRunTaskStatus → AgentRunStepStatus → Prop} {s t : Database}
    (h : PackCommit active allowed s t) : PackKeeps s t := by
  cases h with
  | execution u => exact ⟨rfl, .refl SameTask.refl _⟩
  | native _ => exact ⟨rfl, .update SameTask.refl fun _ _ => rfl⟩

theorem PackCommits.keeps {active : GovernedPlanStepRef}
    {allowed : AgentRunTaskStatus → AgentRunStepStatus → Prop} {s t : Database}
    (h : PackCommits active allowed s t) : PackKeeps s t := by
  induction h with
  | refl => exact .refl s
  | tail _ hstep ih => exact ih.trans hstep.keeps

namespace PackKeeps

variable {s t : Database}

theorem sameRuns (h : PackKeeps s t) : s.SameRuns t where
  audit := by rw [h.frame]
  admissions := by rw [h.frame]
  tasks := h.tasks

theorem loadEvents (h : PackKeeps s t) (runId : String) : t.loadEvents runId = s.loadEvents runId :=
  h.sameRuns.loadEvents runId

/-- A run that loads still loads. -/
theorem loaded {P : Platform} {organizationId runId : String} {locked : LockedRun}
    (h : PackKeeps s t) (hload : LoadedFrom P s organizationId runId locked) :
    ∃ root, LoadedFrom P t organizationId runId { locked with root := root } :=
  (h.sameRuns.loaded hload).imp fun _ h => h.2

end PackKeeps

/-! ## Reflecting a probe -/

theorem GovernedPlanCheckpoint.probeTransition_appendable (c : GovernedPlanCheckpoint)
    (active : GovernedPlanStepRef) : (c.probeTransition active).appendable = true := by
  unfold probeTransition
  split <;> rfl

/-- The append that records a confirmed probe. -/
def probeAppend (E : Environment) (user : UserContext) (operationKey : String)
    (locked : LockedRun) (active : GovernedPlanStepRef) : AppendRequest where
  organizationId := user.orgId
  checkpoint := locked.checkpoint.completeActive active
  transition := locked.checkpoint.probeTransition active
  authorityDigests := locked.authorityDigests
  operationKey := operationKey
  createdAt := E.reflectedAt

section Reflecting

variable {P : Platform} {E : Environment} {user : UserContext} {runId operationKey : String}
  {result : PackProbeResult} {active : GovernedPlanStepRef} {locked : LockedRun}
  {db db' : Database}

/-- Reflecting a result either appends what confirms it, or changes nothing. -/
theorem reflectProbeResult_left :
    left (reflectProbeResult P E user runId result operationKey db) = db ∨
      ∃ locked active c, LoadedFrom P db user.orgId runId locked ∧
        locked.checkpoint.activeStep = some active ∧ result.status = .confirmed ∧
        appendAgentRunTransition P (probeAppend E user operationKey locked active) db =
          .ok c (left (reflectProbeResult P E user runId result operationKey db)) := by
  unfold reflectProbeResult
  generalize hx : (atomic _ : AgentRunTx Unit) db = outcome
  cases outcome with
  | error e t => exact .inl (atomic_eq_error.mp hx).2
  | ok u t =>
      simp only [atomic_eq_ok, bind_eq_ok, query_eq_ok] at hx
      obtain ⟨locked, _, ⟨hload, rfl⟩, hx⟩ := hx
      split at hx
      case isFalse => cases hx; exact .inl rfl
      case isTrue hblocked =>
        simp only [bind_eq_ok, lift_eq_ok] at hx
        obtain ⟨translated, _, ⟨htranslated, rfl⟩, happend⟩ := hx
        cases translated with
        | none => cases happend; exact .inl rfl
        | some found =>
            obtain ⟨updated, transition⟩ := found
            cases hactive : locked.checkpoint.activeStep with
            | none => simp [AgentRunResultCoordinator.probe, hactive] at htranslated
            | some active =>
                obtain ⟨_, _, hconfirmed, rfl, rfl⟩ :=
                  (AgentRunResultCoordinator.probe_eq_ok hactive).mp htranslated
                obtain ⟨c, _, happend, hpure⟩ := bind_eq_ok.mp happend
                cases hpure
                exact .inr ⟨locked, active, c, loadLocked_eq_ok.mp hload, hactive, hconfirmed,
                  happend⟩

/-- And it appends where it can. -/
theorem reflectProbeResult_of_append (hload : LoadedFrom P db user.orgId runId locked)
    (hactive : locked.checkpoint.activeStep = some active)
    (hblocked : locked.checkpoint.state = .probeBlocked)
    (hnames : result.checkpoint.taskId = active.nativeTaskId ∧
      result.checkpoint.stepId = active.nativeStepId ∧
      some result.checkpoint.permitId = active.permitId ∧
      some result.checkpoint.attemptId = active.attemptId)
    (hconfirmed : result.status = .confirmed) {c : GovernedPlanCheckpoint}
    (happend : appendAgentRunTransition P (probeAppend E user operationKey locked active) db =
      .ok c db') :
    left (reflectProbeResult P E user runId result operationKey db) = db' := by
  have htranslated := (AgentRunResultCoordinator.probe_eq_ok hactive).mpr
    ⟨hblocked, hnames, hconfirmed, rfl, rfl⟩
  have hok : reflectProbeResult P E user runId result operationKey db = .ok () db' := by
    unfold reflectProbeResult
    simp only [atomic_eq_ok, bind_eq_ok, query_eq_ok, loadLocked_eq_ok]
    refine ⟨locked, db, ⟨hload, rfl⟩, ?_⟩
    rw [if_pos hblocked]
    simp only [bind_eq_ok, lift_eq_ok]
    exact ⟨_, db, ⟨htranslated, rfl⟩, bind_eq_ok.mpr ⟨c, db', happend, rfl⟩⟩
  rw [hok]
  rfl

end Reflecting

/-! ## Waiting for what was found already -/

/-- The journal of a run, where it can be read, waits for an attempt that is settled. -/
structure Waiting (P : Platform) (runId : String) (active : GovernedPlanStepRef) (db : Database) :
    Prop where
  journal : ∀ c, replayPlanJournal P (db.loadEvents runId) = .ok c →
    c.state = .probeBlocked ∧ c.activeStep = some active
  settled : ∀ id m, active.attemptId = some id → db.execution.attempts.find? id = some m →
    m.status ≠ .unknown

namespace Waiting

variable {P : Platform} {runId : String} {active : GovernedPlanStepRef} {db db' : Database}

/-- A settled attempt blocks no step. -/
theorem not_blocked (h : Waiting P runId active db) {rows : ActiveRows}
    (hattempts : rows.attempts = db.attemptsOf active.nativeTaskId) :
    rows.blocked active = false := by
  have hnone : rows.attempts.filter (fun a =>
      some a.attemptId = active.attemptId && a.status = .unknown) = [] := by
    refine List.filter_eq_nil_iff.mpr fun a ha => ?_
    rw [hattempts] at ha
    have hfind := Table.find?_key (Table.mem_select.mp ha).1
    simp only [Bool.and_eq_true, decide_eq_true_eq, not_and]
    exact fun hid => h.settled _ a hid.symm hfind
  rw [ActiveRows.blocked, hnone]

/-- So no probe is legal. -/
theorem probe_not_legal (h : Waiting P runId active db) {organizationId : String}
    {locked : LockedRun} {view : RunView} (hload : LoadedFrom P db organizationId runId locked)
    (hview : viewLocked P db locked = .ok view) : .probe ∉ view.legalActions := by
  obtain ⟨hblocked, hactive⟩ := h.journal _ hload.replay
  intro hlegal
  cases viewLocked_viewed hview with
  | conflict => cases hlegal
  | @paused signal _ _ => exact absurd (by simp) (signal.view_legalActions _ hlegal)
  | succeeded _ _ _ => cases hlegal
  | active _ hactive' hrows hviewed =>
      cases hactive.symm.trans hactive'
      obtain ⟨_, _, hattempts, _⟩ := activeRows_eq_ok hrows
      cases hviewed with
      | blocked _ _ hrows =>
          rw [h.not_blocked hattempts] at hrows
          cases hrows
      | running _ _ _ => split at hlegal <;> simp at hlegal
      | _ => simp [RunView.stateConflict] at hlegal

theorem probe_keeps (h : Waiting P runId active db) {E : Environment} {user : UserContext}
    {request : AgentRunCommandRequest} : Keeps (probe P E user runId request) db := by
  refine AgentPact.probe_keeps fun ⟨locked, adapter, prepared⟩ hadmits => ?_
  obtain ⟨p, hlocked, hlegal, _⟩ := probeAdmits_eq_ok hadmits
  obtain ⟨hload, hproject⟩ := lockedProjection_eq_ok.mp hlocked
  exact h.probe_not_legal hload (projectLocked_eq_ok hproject).1 hlegal

end Waiting

/-- The call is a probe. -/
def IsProbe (_ : Database) (call : ServiceCall) : Prop := ∃ request, call.command = .probe request

/-- However often it is probed again, the run goes on waiting. -/
theorem Waiting.absorbing {P : Platform} {runId : String} {active : GovernedPlanStepRef}
    {db db' : Database} (h : Waiting P runId active db)
    (hrun : Reaches (ServiceStep P runId) IsProbe db db') : db' = db := by
  refine Reaches.invariant (I := (· = db)) ?_ hrun rfl
  rintro s call t ⟨request, hcommand⟩ rfl hstep
  rw [hstep, hcommand]
  exact h.probe_keeps

/-! ## A probe, up to what its Pack has committed -/

section Probing

variable (P : Platform) (E : Environment) (user : UserContext) (runId : String)
  (request : AgentRunCommandRequest)

/-- A probe whose Pack has committed what it found.  Unless the process stopped there, the Pack has
returned it. -/
structure ProbeCommitted (stopped : Bool) (result : PackProbeResult) (locked : LockedRun)
    (active : GovernedPlanStepRef) (db₀ db₁ : Database) : Prop where
  admitted : ∃ adapter prepared,
    probeAdmits P E user runId db₀ = .ok (.inr (locked, adapter, prepared)) ∧
    (stopped = false → adapter.probeRun prepared request.operationKey db₀ = .ok (some result) db₁)
  current : locked.checkpoint.activeStep = some active
  /-- The result is about the active step. -/
  names : result.checkpoint.taskId = active.nativeTaskId ∧
    result.checkpoint.stepId = active.nativeStepId ∧
    some result.checkpoint.permitId = active.permitId ∧
    some result.checkpoint.attemptId = active.attemptId
  commits : PackCommits active (fun _ _ => True) db₀ db₁
  /-- The attempt is resolved as the probe found. -/
  resolved : ∃ m, db₁.execution.attempts.find? result.checkpoint.attemptId = some m ∧
    (result.status = .confirmed ∧ m.status = .confirmed ∨
      result.status = .notConfirmed ∧ m.status = .failed)

/-- The database after the probe. -/
def probeLeaves (stopped : Bool) (db₀ db₁ : Database) : Database :=
  if stopped then db₁ else left (probe P E user runId request db₀)

/-- Journal, attempt and native rows agree on what the probe found. -/
def ProbeAgrees (active : GovernedPlanStepRef) (status : PackProbeStatus) (db : Database) : Prop :=
  ∃ c, replayPlanJournal P (db.loadEvents runId) = .ok c ∧ c.state ≠ .probeBlocked ∧
    (status = .confirmed → { active with state := .completed } ∈ c.completedPrefix ∧
      verifyCompleted db user.orgId { active with state := .completed } = .ok ())

/-- The service got to reflect a confirmed result, and what it appends fits the native rows and
extends the journal. -/
structure ReflectsProbe (stopped : Bool) (result : PackProbeResult) (locked : LockedRun)
    (active : GovernedPlanStepRef) (db₁ : Database) : Prop where
  returned : stopped = false
  confirmed : result.status = .confirmed
  filed : locked.checkpoint.rootTaskId = runId
  native : verifyCheckpointNativeState db₁ (locked.checkpoint.completeActive active)
    (locked.checkpoint.probeTransition active) user.orgId = .ok ()
  unused : ∀ row ∈ db₁.audit.rows,
    row.eventId ≠ ((probeAppend E user request.operationKey locked active).event P).eventId
  timely : E.reflectedAt.lt locked.latest.createdAt = .ok false

variable {P E user runId request}

/-- What a probe leaves is what reflecting its result leaves. -/
theorem probe_left {locked : LockedRun} {adapter : PackRuntimeAdapter}
    {prepared : PreparedRunReference} {db₀ db₁ : Database} {probed : Option PackProbeResult}
    (hadmits : probeAdmits P E user runId db₀ = .ok (.inr (locked, adapter, prepared)))
    (hprobed : adapter.probeRun prepared request.operationKey db₀ = .ok probed db₁) :
    left (probe P E user runId request db₀) =
      left (settleProbe P E user runId request locked prepared probed db₁) := by
  have hstart : probe P E user runId request db₀ =
      ((translating (asPackError "PACK_PROBE_FAILED") do
        let probed ← adapter.probeRun prepared request.operationKey
        settleProbe P E user runId request locked prepared probed) >>= fun _ =>
          getProjection P E user runId) db₀ :=
    bind_of_ok (query_eq_ok.mpr ⟨hadmits, rfl⟩)
  rw [hstart, left_bind_of_keeps (f := fun _ => getProjection P E user runId) fun _ _ _ =>
    left_query, left_translating, bind_of_ok hprobed]

section Committed

variable {stopped : Bool} {result : PackProbeResult} {locked : LockedRun}
  {active : GovernedPlanStepRef} {db₀ db₁ : Database}

/-- The run was blocked when it was probed. -/
theorem ProbeCommitted.loaded
    (h : ProbeCommitted P E user runId request stopped result locked active db₀ db₁) :
    LoadedFrom P db₀ user.orgId runId locked ∧ locked.checkpoint.state = .probeBlocked := by
  obtain ⟨adapter, prepared, hadmits, _⟩ := h.admitted
  obtain ⟨p, hlocked, hlegal, _⟩ := probeAdmits_eq_ok hadmits
  obtain ⟨hload, hproject⟩ := lockedProjection_eq_ok.mp hlocked
  have hview := (projectLocked_eq_ok hproject).1
  refine ⟨hload, ?_⟩
  generalize p.view = view at hview hlegal
  cases viewLocked_viewed hview with
  | conflict => cases hlegal
  | @paused signal _ _ => exact absurd (by simp) (signal.view_legalActions _ hlegal)
  | succeeded _ _ _ => cases hlegal
  | active _ _ _ hviewed =>
      cases hviewed with
      | blocked hstate _ _ => exact hstate
      | running _ _ _ => split at hlegal <;> simp at hlegal
      | _ => simp [RunView.stateConflict] at hlegal

/-- As long as its journal says the same, the run waits. -/
theorem ProbeCommitted.waiting
    (h : ProbeCommitted P E user runId request stopped result locked active db₀ db₁)
    {db₂ : Database} (hexecution : db₂.execution = db₁.execution)
    (hjournal : ∀ c, replayPlanJournal P (db₂.loadEvents runId) = .ok c → c = locked.checkpoint) :
    Waiting P runId active db₂ := by
  refine ⟨fun c hc => ?_, fun id m hid hm => ?_⟩
  · rw [hjournal c hc]
    exact ⟨h.loaded.2, h.current⟩
  · obtain ⟨m', hm', hstatus⟩ := h.resolved
    rw [← h.names.2.2.2, Option.some.injEq] at hid
    rw [hexecution, ← hid, hm'] at hm
    cases hm
    rcases hstatus with ⟨_, hs⟩ | ⟨_, hs⟩ <;> rw [hs] <;> decide

/-- The Pack's commits leave the journal as it was. -/
theorem ProbeCommitted.journal
    (h : ProbeCommitted P E user runId request stopped result locked active db₀ db₁) :
    db₁.loadEvents runId = locked.events ∧
      replayPlanJournal P (db₁.loadEvents runId) = .ok locked.checkpoint := by
  have hkeeps := h.commits.keeps.loadEvents runId
  rw [hkeeps]
  exact ⟨h.loaded.1.events.symm, h.loaded.1.replay⟩

/-- What reflecting the result leaves is what the probe leaves, if the Pack returned it. -/
theorem ProbeCommitted.leaves
    (h : ProbeCommitted P E user runId request stopped result locked active db₀ db₁)
    (hreturned : stopped = false) :
    probeLeaves P E user runId request stopped db₀ db₁ =
      left (reflectProbeResult P E user runId result request.operationKey db₁) := by
  obtain ⟨adapter, prepared, hadmits, hprobed⟩ := h.admitted
  obtain ⟨p, hlocked, _, hrestore⟩ := probeAdmits_eq_ok hadmits
  obtain ⟨htask, hstep, hpermit, hattempt⟩ := h.names
  have hrunId : prepared.runId ≠ "" := by
    rw [restorePrepared_runId hrestore, (lockedProjection_eq_ok.mp hlocked).1.identity.2]
    exact derivePackRunId_ne_empty
  have hvalid : probedResult locked prepared (some result) = .ok result := by
    simp only [probedResult, h.current, ← hpermit, ← hattempt]
    refine validatePackProbeResult_eq_ok.mpr ⟨rfl, ?_, hrunId⟩
    simp [ExecutionCheckpoint.names, htask, hstep]
  rw [probeLeaves, hreturned, if_neg (by simp), probe_left hadmits (hprobed hreturned), settleProbe,
    bind_of_ok (lift_eq_ok.mpr ⟨hvalid, rfl⟩)]

/-- A probe that reflects nothing leaves the run waiting. -/
theorem ProbeCommitted.waits
    (h : ProbeCommitted P E user runId request stopped result locked active db₀ db₁)
    (hnot : ¬ ReflectsProbe P E user runId request stopped result locked active db₁) :
    Waiting P runId active (probeLeaves P E user runId request stopped db₀ db₁) := by
  have hunchanged : Waiting P runId active db₁ := h.waiting rfl fun c hc => by
    rw [h.journal.2] at hc
    exact (Except.ok.inj hc).symm
  cases hstopped : stopped with
  | true => exact hunchanged
  | false =>
      rw [← hstopped, h.leaves hstopped]
      rcases @reflectProbeResult_left P E user runId request.operationKey result db₁ with
        hsame | ⟨locked', active', c, hload, hactive', hconfirmed, happend⟩
      · rw [hsame]
        exact hunchanged
      -- the append went through, but the longer journal cannot be replayed
      have hcheckpoint : locked'.checkpoint = locked.checkpoint :=
        Except.ok.inj (hload.replay.symm.trans h.journal.2)
      have hevents : locked'.latest = locked.latest := by
        have hlatest := hload.latest
        rw [h.journal.1, h.loaded.1.events, h.loaded.1.latest] at hlatest
        exact (Option.some.inj hlatest).symm
      rw [hcheckpoint, h.current, Option.some.injEq] at hactive'
      subst hactive'
      have hrequest : probeAppend E user request.operationKey locked' active =
          probeAppend E user request.operationKey locked active := by
        simp only [probeAppend, LockedRun.authorityDigests, hcheckpoint, hevents]
      rw [hrequest] at happend
      generalize left (reflectProbeResult P E user runId result request.operationKey db₁) = db₂
        at happend ⊢
      have hexecution := appendAgentRunTransition_execution happend
      obtain ⟨happendable, root, restored, _, _, hreplay, hcases⟩ :=
        appendAgentRunTransition_eq_ok.mp happend
      rcases hcases with ⟨hfresh, hverify, hinsert, _⟩ | ⟨_, _, _, rfl⟩
      · refine h.waiting hexecution fun c hc => ?_
        by_cases hroot : locked.checkpoint.rootTaskId = runId
        · exfalso
          subst hroot
          have hevents₂ := hfresh.loadEvents hreplay hinsert
          have hlast : (db₁.loadEvents locked.checkpoint.rootTaskId).getLast? =
              some locked.latest := by rw [← hevents]; exact hload.latest
          rw [show db₂.loadEvents locked.checkpoint.rootTaskId = _ from hevents₂] at hc
          obtain ⟨hextends, _⟩ := (hfresh.replay_iff happendable hlast hreplay).mp hc
          obtain ⟨audit, haudit, _⟩ := Database.insertAudit?_eq_some.mp hinsert
          exact hnot ⟨hstopped, hconfirmed, rfl, hverify, fun row hrow hid =>
            (Table.insert?_eq_some.mp haudit).1 row hrow (decide_eq_true hid),
            hextends.timely⟩
        · rw [loadEvents_insert_other hinsert hroot, h.journal.2] at hc
          exact (Except.ok.inj hc).symm
      · exact hunchanged

/-- A probe that reflects its result leaves journal, attempt and native rows in agreement. -/
theorem ProbeCommitted.agrees
    (h : ProbeCommitted P E user runId request stopped result locked active db₀ db₁)
    (hreflects : ReflectsProbe P E user runId request stopped result locked active db₁) :
    ProbeAgrees P user runId active result.status
      (probeLeaves P E user runId request stopped db₀ db₁) := by
  obtain ⟨hreturned, hconfirmed, hroot, hverify, hunused, htimely⟩ := hreflects
  subst hroot
  obtain ⟨hload, hblocked⟩ := h.loaded
  obtain ⟨root, hload₁⟩ := h.commits.keeps.loaded hload
  have happendable := locked.checkpoint.probeTransition_appendable active
  -- the append goes through
  have hfresh : (probeAppend E user request.operationKey locked active).Fresh
      locked.checkpoint := ⟨rfl, rfl⟩
  obtain ⟨audit, haudit⟩ := Table.exists_insert? (t := db₁.audit)
    (r := eventRow ((probeAppend E user request.operationKey locked active).event P)
      root.organizationId)
    fun row hrow hclash => hunused row hrow (of_decide_eq_true hclash)
  have hinsert := Database.insertAudit?_eq_some.mpr ⟨audit, haudit, rfl⟩
  have happend := appendAgentRunTransition_eq_ok.mpr ⟨happendable, root, locked.checkpoint, hload₁.root,
    hload₁.marker, hload₁.replay, .inl ⟨hfresh, hverify, hinsert, rfl⟩⟩
  rw [h.leaves hreturned, reflectProbeResult_of_append hload₁ h.current hblocked h.names hconfirmed
    happend]
  -- and extends the journal
  have hextends : Extends locked.latest (locked.checkpoint.completeActive active)
      (locked.checkpoint.probeTransition active) E.reflectedAt := by
    refine .of_replay hload₁.latest hload₁.replay rfl rfl rfl rfl ?_ htimely
      (locked.checkpoint.probeTransition_fits active)
    have hstate := replayed_state hload₁.latest hload₁.replay
    rw [hblocked] at hstate
    generalize locked.latest.transition = transition at hstate ⊢
    cases transition <;> simp [PlanJournalTransition.expectedStates] at hstate
    rfl
  have hreplayed := (hfresh.replay_iff happendable hload₁.latest hload₁.replay).mpr ⟨hextends, rfl⟩
  have hevents : Database.loadEvents { db₁ with audit := audit } locked.checkpoint.rootTaskId =
      db₁.loadEvents locked.checkpoint.rootTaskId ++ [_] :=
    hfresh.loadEvents hload₁.replay hinsert
  rw [← hevents] at hreplayed
  refine ⟨_, hreplayed, ?_, fun _ => ⟨?_, ?_⟩⟩
  · show (locked.checkpoint.completeActive active).state ≠ .probeBlocked
    unfold GovernedPlanCheckpoint.completeActive
    dsimp only
    split <;> decide
  · exact List.mem_append_right _ (List.mem_singleton_self _)
  · obtain ⟨_, hcompleted, _⟩ := except_bind_eq_ok.mp hverify
    exact forM_eq_ok hcompleted _ (List.mem_append_right _ (List.mem_singleton_self _))

/-- After a probe whose Pack has committed what it found, re-issued probes bring journal, attempt
and native rows into agreement exactly when the probe itself has done so: its result was confirmed,
the process did not stop before the service reflected it, and the append went through. -/
theorem probe_converges_iff
    (h : ProbeCommitted P E user runId request stopped result locked active db₀ db₁) :
    (∃ db₂, Reaches (ServiceStep P runId) IsProbe
        (probeLeaves P E user runId request stopped db₀ db₁) db₂ ∧
      ProbeAgrees P user runId active result.status db₂) ↔
      ReflectsProbe P E user runId request stopped result locked active db₁ := by
  constructor
  · rintro ⟨db₂, hrun, c, hreplay, hstate, _⟩
    by_contra hnot
    have hwaits := h.waits hnot
    rw [hwaits.absorbing hrun] at hreplay
    exact hstate (hwaits.journal c hreplay).1
  · intro hreflects
    exact ⟨_, .refl _, h.agrees hreflects⟩

end Committed

end Probing

/-! ## A blocked run that is probed -/

section Run

/-- The step of the examples, with a lost attempt. -/
def blockedStep : GovernedPlanStepRef :=
  { sampleStep with
    state := .probeBlocked, permitId := some "permit", attemptId := some "attempt"
    probeRef := some "probe" }

/-- The native rows of a lost attempt. -/
def lostNatively : Database :=
  { admittedDatabase.setNativeStatus "task" "step" .pendingResultProbe .pendingResultProbe with
    execution := sampleStore }

/-- The append that blocks the run on it. -/
def blockRequest : AppendRequest where
  organizationId := "org"
  checkpoint := { lastCheckpoint lostNatively with
    state := .probeBlocked, activeStep := some blockedStep }
  transition := .probeBlocked
  authorityDigests := .empty
  operationKey := "advance"
  createdAt := .utc 11

/-- The blocked run. -/
def blockedDatabase : Database :=
  left (appendAgentRunTransition samplePlatform blockRequest lostNatively)

/-- The Pack's commits: the attempt is resolved and the native rows are completed. -/
def resolvedDatabase (confirmed : Bool) (db : Database) : Database :=
  Database.setNativeStatus { db with execution := left (resolveUnknownExecutionAttempt "attempt"
      confirmed [("status", .str "probed")] none 4 db.execution) }
    "task" "step" .completed .completed

/-- What the Pack found. -/
def probeResult (status : PackProbeStatus) : PackProbeResult where
  status := status
  checkpoint := ⟨"permit", "attempt", "task", "step", "fingerprint", "observation", .zero,
    "external_write", "probe", "unknown"⟩
  reasonCode := "BUSINESS_RESULT"
  evidenceRefs := []
  unknown := by decide +kernel

/-- A Pack whose probe finds that. -/
def probingAdapter (status : PackProbeStatus) (binding : PackRuntimeBinding) :
    PackRuntimeAdapter :=
  { idleAdapter binding with
    probeRun := fun _ _ => do
      write (resolvedDatabase (status = .confirmed))
      pure (some (probeResult status)) }

/-- The environment of its probe. -/
def probingEnvironment (status : PackProbeStatus) : Environment :=
  sampleEnvironment (probingAdapter status) (.utc 20)

/-- The probe of the blocked run gets past its checks. -/
def admittedProbe (status : PackProbeStatus) :
    Option (LockedRun × PackRuntimeAdapter × PreparedRunReference) :=
  match probeAdmits samplePlatform (probingEnvironment status) sampleUser sampleRunId
      blockedDatabase with
  | .ok (.inr x) => some x
  | _ => none

/-- The Pack commits what it finds about the blocked run. -/
theorem probe_committed (stopped : Bool) {status : PackProbeStatus} {locked : LockedRun}
    {adapter : PackRuntimeAdapter} {prepared : PreparedRunReference}
    (hadmits : probeAdmits samplePlatform (probingEnvironment status) sampleUser sampleRunId
      blockedDatabase = .ok (.inr (locked, adapter, prepared)))
    (hcurrent : locked.checkpoint.activeStep = some blockedStep)
    (hresolved : ∃ m, (resolvedDatabase (status = .confirmed) blockedDatabase).execution.attempts.find?
        "attempt" = some m ∧ (status = .confirmed ∧ m.status = .confirmed ∨
          status = .notConfirmed ∧ m.status = .failed)) :
    ProbeCommitted samplePlatform (probingEnvironment status) sampleUser sampleRunId ⟨"probe", none⟩
      stopped (probeResult status) locked blockedStep blockedDatabase
      (resolvedDatabase (status = .confirmed) blockedDatabase) where
  admitted := by
    refine ⟨adapter, prepared, hadmits, fun _ => ?_⟩
    obtain ⟨_, _, _, hrestore⟩ := probeAdmits_eq_ok hadmits
    obtain ⟨binding, rfl⟩ := sampleEnvironment_restores hrestore
    rfl
  current := hcurrent
  names := ⟨rfl, rfl, rfl, rfl⟩
  commits := .tail (.single (.execution _ _)) (.native _ trivial)
  resolved := hresolved

/-- A confirmed probe that runs to its end leaves the run in agreement. -/
theorem probe_converges_iff_sample :
    ∃ db, Reaches (ServiceStep samplePlatform sampleRunId) IsProbe
        (probeLeaves samplePlatform (probingEnvironment .confirmed) sampleUser sampleRunId
          ⟨"probe", none⟩ false blockedDatabase (resolvedDatabase true blockedDatabase)) db ∧
      ProbeAgrees samplePlatform sampleUser sampleRunId blockedStep .confirmed db := by
  have hran : (admittedProbe .confirmed).any (fun x =>
      x.1.checkpoint.activeStep = some blockedStep && x.1.checkpoint.rootTaskId = sampleRunId &&
      decide (verifyCheckpointNativeState (resolvedDatabase true blockedDatabase)
        (x.1.checkpoint.completeActive blockedStep) (x.1.checkpoint.probeTransition blockedStep)
        "org" = .ok ()) &&
      decide (∀ row ∈ (resolvedDatabase true blockedDatabase).audit.rows, row.eventId ≠
        ((probeAppend (probingEnvironment .confirmed) sampleUser "probe" x.1 blockedStep).event
          samplePlatform).eventId) &&
      decide ((DateTime.utc 20).lt x.1.latest.createdAt = .ok false)) = true ∧
      ((resolvedDatabase true blockedDatabase).execution.attempts.find? "attempt").map
        (·.status) = some .confirmed := by decide +kernel
  obtain ⟨hadmitted, hattempt⟩ := hran
  unfold admittedProbe at hadmitted
  split at hadmitted
  case h_2 => cases hadmitted
  case h_1 x hadmits =>
    obtain ⟨locked, adapter, prepared⟩ := x
    simp only [Option.any_some, Bool.and_eq_true, decide_eq_true_eq] at hadmitted
    obtain ⟨⟨⟨⟨hcurrent, hroot⟩, hverify⟩, hunused⟩, htimely⟩ := hadmitted
    obtain ⟨m, hm, hstatus⟩ := Option.map_eq_some_iff.mp hattempt
    exact (probe_converges_iff (probe_committed false hadmits hcurrent
      ⟨m, hm, .inl ⟨rfl, hstatus⟩⟩)).mpr ⟨rfl, rfl, hroot, hverify, hunused, htimely⟩

/-- A process that stops after the Pack has committed leaves the journal waiting for an attempt that
is confirmed, however often it is probed again. -/
theorem probe_stopped_never_converges :
    ∃ locked, ProbeCommitted samplePlatform (probingEnvironment .confirmed) sampleUser sampleRunId
        ⟨"probe", none⟩ true (probeResult .confirmed) locked blockedStep blockedDatabase
        (resolvedDatabase true blockedDatabase) ∧
      ∀ db, Reaches (ServiceStep samplePlatform sampleRunId) IsProbe
          (resolvedDatabase true blockedDatabase) db →
        ¬ ProbeAgrees samplePlatform sampleUser sampleRunId blockedStep .confirmed db := by
  have hran : (admittedProbe .confirmed).any (fun x =>
      x.1.checkpoint.activeStep = some blockedStep) = true ∧
      ((resolvedDatabase true blockedDatabase).execution.attempts.find? "attempt").map
        (·.status) = some .confirmed := by decide +kernel
  obtain ⟨hadmitted, hattempt⟩ := hran
  unfold admittedProbe at hadmitted
  split at hadmitted
  case h_2 => cases hadmitted
  case h_1 x hadmits =>
    obtain ⟨locked, adapter, prepared⟩ := x
    simp only [Option.any_some, decide_eq_true_eq] at hadmitted
    obtain ⟨m, hm, hstatus⟩ := Option.map_eq_some_iff.mp hattempt
    have hcommitted := probe_committed true hadmits hadmitted ⟨m, hm, .inl ⟨rfl, hstatus⟩⟩
    have hwaits : Waiting samplePlatform sampleRunId blockedStep
        (resolvedDatabase true blockedDatabase) := hcommitted.waits fun h => nomatch h.returned
    refine ⟨locked, hcommitted, fun db hrun ⟨c, hreplay, hstate, _⟩ => ?_⟩
    rw [hwaits.absorbing hrun] at hreplay
    exact hstate (hwaits.journal c hreplay).1

end Run

end AgentPact
