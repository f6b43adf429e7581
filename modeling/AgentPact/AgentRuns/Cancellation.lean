import AgentPact.AgentRuns.Service
import AgentPact.BrowserLoop.ExecutorSafety

/-!
# Ending a run while executions are under way

A run is cancelled or rejected in one transaction.  It checks that the active
step of the run has no attempt and no consumed permit, and commits the end of
the run.  An execution of that step takes other locks and reads other rows.

`RunWorld` is the world of executions together with the database of the run and
one termination, which stands between its checks and its commit for as long as
the other steps please.

The checks leave out permits that are issued and not consumed yet, and nothing
revokes them.  An execution may consume one whenever it likes, since
registering an attempt does not look at the run.  So the end of a run excludes
its executions in those runs where no permit of the step is outstanding at the
checks and none is issued afterwards (`Sealed` is the invariant).
-/

namespace AgentPact

open Base Transaction

/-! ## Sealed tasks -/

/-- A task without attempts, and without a permit that is or can be consumed. -/
structure Sealed (task : String) (s : ExecutionStore) : Prop where
  attempts : ∀ id a, s.attempts.find? id = some a → a.taskId ≠ task
  permits : ∀ id p, s.permits.find? id = some p → p.taskId = task →
    p.status ≠ .issued ∧ p.status ≠ .consumed

/-- A task that is sealed stays sealed. -/
def KeepsSealed (task : String) (s t : ExecutionStore) : Prop := Sealed task s → Sealed task t

namespace KeepsSealed

variable {task : String}

theorem refl (s : ExecutionStore) : KeepsSealed task s s := id

theorem trans (s t u : ExecutionStore) (h : KeepsSealed task s t) (h' : KeepsSealed task t u) :
    KeepsSealed task s u := fun hs => h' (h hs)

/-- A call that issues no permit of the task keeps it sealed. -/
theorem of_effect {s t : ExecutionStore} (h : StoreEffect s t)
    (hissues : ∀ id p, s.permits.find? id = none → t.permits.find? id = some p →
      p.taskId ≠ task) : KeepsSealed task s t := by
  intro hs
  constructor
  · intro id b hb
    cases ha : s.attempts.find? id with
    | some a =>
        obtain ⟨b', hb', hstep⟩ := h.attempts_evolve id a ha
        cases hb.symm.trans hb'
        rw [hstep.history.frame]
        exact hs.attempts id a ha
    | none =>
        -- a new attempt has consumed a permit that was issued
        obtain ⟨_, p, q, pid, hp, hissued, hq, hmatch, _⟩ := h.added hb ha
        obtain ⟨q', hq', hstep⟩ := h.permits_evolve pid p hp
        cases hq.symm.trans hq'
        intro htask
        have hp' : p.taskId = task := by
          rw [← htask, hmatch.task, hstep.frame]
        exact (hs.permits pid p hp hp').1 hissued
  · intro id q hq htask
    cases hp : s.permits.find? id with
    | none => exact absurd htask (hissues id q hp hq)
    | some p =>
        obtain ⟨q', hq', hstep⟩ := h.permits_evolve id p hp
        cases hq.symm.trans hq'
        have hp' : p.taskId = task := by rw [← htask, hstep.frame]
        have hclosed := hs.permits id p hp hp'
        rw [hstep.spent hclosed.1]
        exact hclosed

/-- A call that changes permits only in place keeps every task sealed. -/
theorem of_update {s t : ExecutionStore} {id : String} {e : Edit ExecutionPermitModel}
    (h : StoreEffect s t) (hpermits : t.permits = s.permits.update id e) :
    KeepsSealed task s t := of_effect h fun k p hnone hp => by
  rw [hpermits, Table.find?_update_none hnone] at hp
  cases hp

/-- A call that leaves the permits alone keeps every task sealed. -/
theorem of_permits {s t : ExecutionStore} (h : StoreEffect s t) (hpermits : t.permits = s.permits) :
    KeepsSealed task s t := of_effect h fun k p hnone hp => by
  rw [hpermits, hnone] at hp
  cases hp

end KeepsSealed

section Calls

variable {task : String}

theorem authorizeExecutionAttempt_sealed {P : Platform} {id : String} {r : AuthorizeRequest}
    {clock : AuthorizeClock} :
    Within (KeepsSealed task) (authorizeExecutionAttempt P id r clock) := by
  intro s
  have heffect := @authorizeExecutionAttempt_effect P id r clock s
  cases h : authorizeExecutionAttempt P id r clock s with
  | ok a t =>
      rw [h] at heffect
      obtain ⟨_, _, _, _, _, _, _, _, _, _, _, _, _, hinsert, _⟩ := authorizeExecutionAttempt_eq_ok h
      exact .of_update heffect (ExecutionStore.insertAttempt?_eq_some.mp hinsert).2
  | error e t =>
      rw [h] at heffect
      rcases authorizeExecutionAttempt_eq_error h with rfl | ⟨_, _, _, rfl | ⟨_, _, rfl⟩⟩
      · exact .refl t
      · exact .of_update heffect rfl
      · exact .of_update heffect rfl

/-- No transition of an attempt touches a permit. -/
theorem transitionAttempt_sealed {id : String} {fromStatus toStatus : ExecutionAttemptStatus}
    {probe : Option (List (String × Json))} {message : Option String} {now : Option DateTime}
    {clock : Stamp} (hedge : StatusEdge fromStatus toStatus)
    (hprobe : fromStatus = .unknown → ∃ evidence, probe = some evidence ∧ evidence ≠ []) :
    Within (KeepsSealed task)
      (transitionAttempt id fromStatus toStatus probe message now clock) := by
  intro s
  refine .of_permits (transitionAttempt_effect hedge hprobe) ?_
  rcases transitionAttempt_left id fromStatus toStatus probe message now clock s with
    h | ⟨_, _, _, h⟩ <;> rw [h]
  rfl

theorem markExecutionAttemptUnknown_sealed {id message : String}
    {probe : Option (List (String × Json))} {now : Option DateTime} {clock : Stamp} :
    Within (KeepsSealed task) (markExecutionAttemptUnknown id message probe now clock) :=
  transitionAttempt_sealed .lose (by simp)

theorem resolveUnknownExecutionAttempt_sealed {id : String} {confirmed : Bool}
    {probe : List (String × Json)} {now : Option DateTime} {clock : Stamp} :
    Within (KeepsSealed task) (resolveUnknownExecutionAttempt id confirmed probe now clock) := by
  unfold resolveUnknownExecutionAttempt
  intro s
  by_cases hempty : probe.isEmpty = false
  · rw [require_bind hempty]
    refine transitionAttempt_sealed ?_ (fun _ => ⟨probe, rfl, by simpa using hempty⟩) s
    cases confirmed
    · exact .resolveFailed
    · exact .resolveConfirmed
  · rw [require_bind_not hempty]
    exact .refl s

/-- A permit of another task breaks no seal. -/
theorem issuePermit_sealed {id : String} {r : IssueRequest} {clock : Stamp}
    (hother : r.taskId ≠ task) : Within (KeepsSealed task) (issuePermit id r clock) := by
  intro s
  refine .of_effect issuePermit_effect fun k p hnone hp => ?_
  cases h : issuePermit id r clock s with
  | ok permit t =>
      rw [h] at hp
      obtain ⟨_, _, _, hinsert⟩ := issuePermit_eq_ok h
      cases Table.find?_insert?_new (ExecutionStore.insertPermit?_eq_some.mp hinsert).1 hp hnone
      exact hother
  | error e t =>
      rw [h, left_error, issuePermit_eq_error h, hnone] at hp
      cases hp

end Calls

/-- A step of the world that issues no permit of the task keeps it sealed. -/
theorem WorldStep.sealed {ι : Type} [DecidableEq ι] {P : Platform} {label : WorldLabel ι}
    {w v : World ι} {task : String} (h : WorldStep P label w v)
    (hother : ∀ id r clock, label = .issue id r clock → r.taskId ≠ task) :
    KeepsSealed task w.store v.store := by
  cases label with
  | executor i l =>
      obtain ⟨t, φ, es, hnext, rfl⟩ := h.executor
      exact ExecutorPhase.next_within .refl (fun _ _ _ => authorizeExecutionAttempt_sealed)
        (fun _ _ _ => transitionAttempt_sealed .start (by simp))
        (fun _ _ _ _ _ => markExecutionAttemptUnknown_sealed) hnext
  | recover minimumAge now clock locked =>
      cases h
      exact recover_within .refl KeepsSealed.trans
        (fun _ _ _ _ => transitionAttempt_sealed .abandon (by simp))
        (fun _ _ _ _ _ => markExecutionAttemptUnknown_sealed) minimumAge now clock locked w.store
  | resolve attemptId confirmed probe now clock =>
      cases h
      exact resolveUnknownExecutionAttempt_sealed.atomic KeepsSealed.refl w.store
  | issue permitId r clock =>
      cases h
      exact (issuePermit_sealed (hother permitId r clock rfl)).atomic KeepsSealed.refl w.store

/-! ## The run among its executions -/

/-- A termination that has passed its checks. -/
structure PendingTermination where
  kind : Termination
  environment : Environment
  user : UserContext
  runId : String
  request : AgentRunCommandRequest
  locked : LockedRun

/-- The native task of the active step, when the checks were made. -/
def PendingTermination.task (p : PendingTermination) : Option String :=
  p.locked.checkpoint.activeStep.map (·.nativeTaskId)

/-- The database, the executions, the termination between its checks and its commit, and the
tasks whose runs have ended. -/
structure RunWorld (ι : Type) where
  db : Database
  phase : ι → ExecutorPhase
  history : List (ι × ExecutorEvent)
  checked : Option PendingTermination
  ended : List String

/-- Who moves, and how. -/
inductive RunLabel (ι : Type) where
  | execution (label : WorldLabel ι)
  | check (t : Termination) (environment : Environment) (user : UserContext) (runId : String)
      (request : AgentRunCommandRequest)
  | commit
  | abort

namespace RunWorld

variable {ι : Type}

/-- The executions, over the part of the database they see. -/
def world (w : RunWorld ι) : World ι := ⟨w.db.execution, w.phase, w.history⟩

/-- One step, if the label fits. -/
def next [DecidableEq ι] (P : Platform) (w : RunWorld ι) : RunLabel ι → Option (RunWorld ι)
  | .execution label => (w.world.next P label).map fun v =>
      { w with db := { w.db with execution := v.store }, phase := v.phase, history := v.history }
  | .check t environment user runId request =>
      if w.checked.isSome then none
      else match t.admits P environment user runId w.db with
        | .ok (.inr locked) =>
            some { w with checked := some ⟨t, environment, user, runId, request, locked⟩ }
        | _ => some w
  | .commit =>
      match w.checked with
      | none => none
      | some p =>
          match p.kind.writes P p.environment p.user p.runId p.request p.locked w.db with
          | .ok _ db =>
              some { w with db := db, checked := none, ended := p.task.toList ++ w.ended }
          | .error _ _ => some { w with checked := none }
  | .abort => some { w with checked := none }

/-- The tasks whose runs are ending or have ended. -/
def closing (w : RunWorld ι) : List String := (w.checked.bind (·.task)).toList ++ w.ended

/-- No execution has begun and no run has ended.  The database is arbitrary. -/
def Initial (w : RunWorld ι) : Prop := w.world.Initial ∧ w.checked = none ∧ w.ended = []

end RunWorld

/-- The step relation of a run among its executions. -/
def RunStep {ι : Type} [DecidableEq ι] (P : Platform) (label : RunLabel ι) (w v : RunWorld ι) :
    Prop := w.next P label = some v

/-- No permit of the active step is outstanding when a termination is checked, and none is issued
for a task whose run is ending or has ended. -/
def NoneOutstanding {ι : Type} (P : Platform) (w : RunWorld ι) : RunLabel ι → Prop
  | .check _ _ user runId _ => ∀ locked active, LoadedFrom P w.db user.orgId runId locked →
      locked.checkpoint.activeStep = some active → ∀ id p,
        w.db.execution.permits.find? id = some p → p.taskId = active.nativeTaskId →
        p.status ≠ .issued
  | .execution (.issue _ r _) => r.taskId ∉ w.closing
  | _ => True

/-! ## What a termination checks and writes -/

/-- The rows of a task without an effect. -/
theorem effectStarted_eq_false {db : Database} {task : String}
    (h : effectStarted (db.attemptsOf task) (db.permitsOf task) = false) :
    (∀ id a, db.execution.attempts.find? id = some a → a.taskId ≠ task) ∧
      ∀ id p, db.execution.permits.find? id = some p → p.taskId = task → p.status ≠ .consumed := by
  simp only [effectStarted, Bool.or_eq_false_iff, Bool.not_eq_false', List.isEmpty_iff,
    List.any_eq_false, decide_eq_true_eq] at h
  obtain ⟨hattempts, hpermits⟩ := h
  constructor
  · intro id a ha htask
    have hmem : a ∈ db.attemptsOf task :=
      Table.mem_select.mpr ⟨Table.mem_of_find? ha, by simp [htask]⟩
    rw [hattempts] at hmem
    cases hmem
  · intro id p hp htask
    exact hpermits p (Table.mem_select.mpr ⟨Table.mem_of_find? hp, by simp [htask]⟩)

/-- A termination is admitted only where no effect of the active step has started. -/
theorem Termination.admits_unstarted {P : Platform} {E : Environment} {user : UserContext}
    {runId : String} {t : Termination} {db : Database} {locked : LockedRun}
    {active : GovernedPlanStepRef} (h : t.admits P E user runId db = .ok (.inr locked))
    (hactive : locked.checkpoint.activeStep = some active) :
    effectStarted (db.attemptsOf active.nativeTaskId) (db.permitsOf active.nativeTaskId) =
      false := by
  obtain ⟨p, hlocked, hreject, hcancel⟩ := Termination.admits_eq_ok h
  cases t with
  | cancel =>
      have heffect := (hcancel rfl).2
      rwa [Database.effectMayHaveStarted, hactive] at heffect
  | reject =>
      -- a run is rejected only while it awaits its approval
      have hview := (projectLocked_eq_ok (lockedProjection_eq_ok.mp hlocked).2).1
      have hlegal := hreject rfl
      generalize p.view = view at hview hlegal
      cases viewLocked_viewed hview with
      | conflict => cases hlegal
      | @paused signal _ _ =>
          exact absurd (by simp) (signal.view_legalActions _ hlegal)
      | succeeded _ _ _ => cases hlegal
      | @active active' rows _ _ hactive' hrows hviewed =>
          cases hactive.symm.trans hactive'
          obtain ⟨_, _, hattempts, hpermits⟩ := activeRows_eq_ok hrows
          cases hviewed with
          | awaiting _ _ _ hnoAttempts hnoPermits =>
              rw [← hattempts, ← hpermits, hnoAttempts, hnoPermits]
              rfl
          | running _ _ _ => split at hlegal <;> simp at hlegal
          | _ => simp [RunView.stateConflict] at hlegal

/-- Cancelling the active pair writes native rows only, and needs an active step. -/
theorem cancelActivePair_eq_ok {user : UserContext} {checkpoint : GovernedPlanCheckpoint}
    {s t : Database} {u : Unit} (h : cancelActivePair user checkpoint s = .ok u t) :
    checkpoint.activeStep.isSome = true ∧ t.execution = s.execution := by
  unfold cancelActivePair at h
  cases hactive : checkpoint.activeStep with
  | none => rw [hactive] at h; cases h
  | some active =>
      simp only [hactive, cancelNativePair, bind_eq_ok, read_eq_ok, require_eq_ok] at h
      obtain ⟨cancelled, _, ⟨task, _, ⟨_, rfl⟩, step, _, ⟨_, rfl⟩, h⟩, _, rfl⟩ := h
      refine ⟨rfl, ?_⟩
      split at h
      case isTrue => cases h; rfl
      case isFalse =>
        simp only [bind_eq_ok, write_eq_ok] at h
        obtain ⟨_, _, rfl, h⟩ := h
        cases h
        rfl

/-- Resolving a pause writes to the audit table only. -/
theorem clearPauseSignal_execution {P : Platform} {runId organizationId : String}
    {s t : Database} {u : Unit} (h : clearPauseSignal P runId organizationId s = .ok u t) :
    t.execution = s.execution := by
  simp only [clearPauseSignal, bind_eq_ok, read_eq_ok] at h
  obtain ⟨latest, _, ⟨_, rfl⟩, h⟩ := h
  match latest with
  | none => cases h; rfl
  | some pause =>
      simp only [bind_eq_ok, read_eq_ok] at h
      obtain ⟨existing, _, ⟨_, rfl⟩, h⟩ := h
      split at h
      case isTrue => cases h; rfl
      case isFalse =>
        obtain ⟨_, _, rfl⟩ := Database.insertAudit?_eq_some.mp (write?_eq_ok.mp h)
        rfl

/-- A termination that commits had an active step, and leaves the executions alone. -/
theorem Termination.writes_eq_ok {P : Platform} {E : Environment} {user : UserContext}
    {runId : String} {request : AgentRunCommandRequest} {locked : LockedRun} {t : Termination}
    {db db' : Database} {u : Unit}
    (h : t.writes P E user runId request locked db = .ok u db') :
    locked.checkpoint.activeStep.isSome = true ∧ db'.execution = db.execution := by
  cases t with
  | reject =>
      simp only [Termination.writes, rejectWrites, bind_eq_ok, query_eq_ok, lift_eq_ok] at h
      obtain ⟨_, _, ⟨_, rfl⟩, _, _, ⟨_, rfl⟩, _, db₁, hdecide, _, db₂, hcancel, _, db₃, happend,
        hpure⟩ := h
      cases hpure
      obtain ⟨hactive, hnative⟩ := cancelActivePair_eq_ok hcancel
      refine ⟨hactive, (appendAgentRunTransition_execution happend).trans (hnative.trans ?_)⟩
      rw [(decideApprovalRequest_eq_ok hdecide).2.same]
  | cancel =>
      simp only [Termination.writes, cancelWrites, bind_eq_ok] at h
      obtain ⟨_, db₁, hcancel, _, db₂, hclear, _, db₃, happend, hpure⟩ := h
      cases hpure
      obtain ⟨hactive, hnative⟩ := cancelActivePair_eq_ok hcancel
      exact ⟨hactive, (appendAgentRunTransition_execution happend).trans
        ((clearPauseSignal_execution hclear).trans hnative)⟩

/-! ## Ending excludes executing -/

/-- The executions own their attempts, and every task whose run is ending is sealed. -/
structure Excluding {ι : Type} (w : RunWorld ι) : Prop where
  owned : Owned w.world
  closed : ∀ task ∈ w.closing, Sealed task w.db.execution

theorem Excluding.initial {ι : Type} {w : RunWorld ι} (h : w.Initial) : Excluding w where
  owned := .initial h.1
  closed task htask := by
    rw [RunWorld.closing, h.2.1, h.2.2] at htask
    cases htask

/-- A step that seals the tasks it begins to close keeps the invariant. -/
theorem Excluding.step {ι : Type} [DecidableEq ι] {P : Platform} {label : RunLabel ι}
    {w v : RunWorld ι} (hok : NoneOutstanding P w label) (h : Excluding w)
    (hstep : RunStep P label w v) : Excluding v := by
  unfold RunStep RunWorld.next at hstep
  cases label with
  | execution l =>
      obtain ⟨u, hu, rfl⟩ := Option.map_eq_some_iff.mp hstep
      have hworld : WorldStep P l w.world u := hu
      refine ⟨h.owned.step hworld, fun task htask => ?_⟩
      refine hworld.sealed (fun id r clock hlabel htaskId => ?_) (h.closed task htask)
      subst hlabel
      exact hok (htaskId ▸ htask)
  | check t environment user runId request =>
      dsimp only at hstep
      split at hstep
      case isTrue => cases hstep
      case isFalse hfree =>
        have hchecked : w.checked = none := by simpa using hfree
        split at hstep
        case h_1 locked hadmits =>
          cases hstep
          refine ⟨h.owned, fun task htask => ?_⟩
          rcases List.mem_append.mp htask with hnew | hended
          · -- the task that this termination is about to close
            obtain ⟨active, hactive, rfl⟩ := Option.map_eq_some_iff.mp (Option.mem_toList.mp hnew)
            obtain ⟨hattempts, hconsumed⟩ :=
              effectStarted_eq_false (Termination.admits_unstarted hadmits hactive)
            obtain ⟨p, hlocked, _⟩ := Termination.admits_eq_ok hadmits
            have hload := (lockedProjection_eq_ok.mp hlocked).1
            exact ⟨hattempts, fun id p hp htask =>
              ⟨hok locked active hload hactive id p hp htask, hconsumed id p hp htask⟩⟩
          · exact h.closed task (List.mem_append_right _ hended)
        case h_2 => cases hstep; exact h
  | commit =>
      dsimp only at hstep
      split at hstep
      case h_1 => cases hstep
      case h_2 p hchecked =>
        split at hstep
        case h_1 u db hwrites =>
          cases hstep
          have hsame := (Termination.writes_eq_ok hwrites).2
          refine ⟨?_, fun task htask => ?_⟩
          · have howned := h.owned
            unfold RunWorld.world at howned ⊢
            rwa [hsame]
          · show Sealed task db.execution
            rw [hsame]
            refine h.closed task ?_
            simpa [RunWorld.closing, hchecked] using htask
        case h_2 =>
          cases hstep
          exact ⟨h.owned, fun task htask => h.closed task (List.mem_append_right _ htask)⟩
  | abort =>
      cases hstep
      exact ⟨h.owned, fun task htask => h.closed task (List.mem_append_right _ htask)⟩

/-- Where a permit of the active step is consumed, no termination is admitted. -/
theorem Termination.not_admitted {P : Platform} {E : Environment} {user : UserContext}
    {runId : String} {t : Termination} {db : Database} {locked : LockedRun}
    {active : GovernedPlanStepRef} (hload : LoadedFrom P db user.orgId runId locked)
    (hactive : locked.checkpoint.activeStep = some active) {id : String}
    {p : ExecutionPermitModel} (hp : db.execution.permits.find? id = some p)
    (htask : p.taskId = active.nativeTaskId) (hconsumed : p.status = .consumed)
    (locked' : LockedRun) : t.admits P E user runId db ≠ .ok (.inr locked') := by
  intro hadmits
  obtain ⟨_, hlocked, _⟩ := Termination.admits_eq_ok hadmits
  have hsame := (lockedProjection_eq_ok.mp hlocked).1.unique hload
  rw [hsame] at hadmits
  have hunstarted := effectStarted_eq_false (Termination.admits_unstarted hadmits hactive)
  exact hunstarted.2 id p hp htask hconsumed

/-- In a run where every termination finds no permit outstanding and none is issued after it, the
end of a run excludes its execution.  A task whose run ended has no consumed permit, no attempt
and no call, and a termination that finds a consumed permit, before or after its checks, changes
nothing. -/
theorem termination_excludes_execution {ι : Type} [DecidableEq ι] (P : Platform)
    {w₀ w : RunWorld ι} (h₀ : w₀.Initial)
    (hrun : Reaches (RunStep P) (NoneOutstanding P) w₀ w) :
    (∀ task ∈ w.ended,
      (∀ id p, w.db.execution.permits.find? id = some p → p.taskId = task →
        p.status ≠ .consumed) ∧
      (∀ id a, w.db.execution.attempts.find? id = some a → a.taskId ≠ task) ∧
      ∀ x ∈ w.world.calls, x.2.taskId ≠ task) ∧
    (∀ t environment user runId request locked active id p v,
      LoadedFrom P w.db user.orgId runId locked → locked.checkpoint.activeStep = some active →
      w.db.execution.permits.find? id = some p → p.taskId = active.nativeTaskId →
      p.status = .consumed →
      RunStep P (.check t environment user runId request) w v → v = w) ∧
    ∀ pending id p v, w.checked = some pending →
      w.db.execution.permits.find? id = some p → pending.task = some p.taskId →
      p.status = .consumed → RunStep P .commit w v → v.db = w.db := by
  have hw : Excluding w := hrun.invariant (fun _ _ _ hok h hstep => h.step hok hstep)
    (Excluding.initial h₀)
  refine ⟨fun task htask => ?_, ?_, ?_⟩
  · have hsealed := hw.closed task (List.mem_append_right _ htask)
    refine ⟨fun id p hp hpt => (hsealed.permits id p hp hpt).2, hsealed.attempts, fun x hx => ?_⟩
    obtain ⟨m, _, hm⟩ := hw.owned.called x hx
    rw [← hm.task]
    exact hsealed.attempts _ m hm.attempt
  · intro t environment user runId request locked active id p v hload hactive hp htask hconsumed
      hstep
    simp only [RunStep, RunWorld.next] at hstep
    split at hstep
    case isTrue => cases hstep
    case isFalse =>
      split at hstep
      case h_1 locked' hadmits =>
        exact absurd hadmits (Termination.not_admitted hload hactive hp htask hconsumed locked')
      case h_2 => cases hstep; rfl
  · intro pending id p v hchecked hp htask hconsumed _
    -- a task that is being closed is sealed, so its permit cannot be consumed
    have hclosing : p.taskId ∈ w.closing := by simp [RunWorld.closing, hchecked, htask]
    exact absurd hconsumed ((hw.closed _ hclosing).permits id p hp rfl).2

/-! ## A run that is cancelled -/

section Run

/-- The run of the examples, with nothing executed yet. -/
def admittedWorld : RunWorld Unit := ⟨admittedDatabase, fun _ => .idle, [], none, []⟩

theorem admittedWorld_initial : admittedWorld.Initial := ⟨⟨fun _ => rfl, rfl⟩, rfl, rfl⟩

/-- The checks of a cancellation. -/
def cancelCheck : RunLabel Unit :=
  .check .cancel (sampleEnvironment idleAdapter (.utc 20)) sampleUser sampleRunId ⟨"cancel", none⟩

/-- An execution of the active step, from its permit to its call. -/
def executeLabels : List (RunLabel Unit) :=
  [.executor () (.execute sampleCommand (some "probe")), .executor () (.preflight (.ok ())),
    .executor () (.authorize "attempt" (secondOfRun 1) ⟨0, 0, DateTime.second⟩),
    .executor () (.markExecuting (secondOfRun 2)),
    .executor () (.executePreflighted (.error "Timeout"))].map .execution

/-- A run that is cancelled before any permit of its step is issued. -/
theorem termination_excludes_execution_sample :
    ∃ w v : RunWorld Unit, RunStep samplePlatform cancelCheck admittedWorld w ∧
      RunStep samplePlatform .commit w v ∧ v.ended = ["task"] ∧
      ∀ x ∈ v.world.calls, x.2.taskId ≠ "task" := by
  have hran : ([cancelCheck, .commit].foldlM (RunWorld.next samplePlatform) admittedWorld).map
      (·.ended) = some ["task"] := by decide +kernel
  obtain ⟨v, hv, hended⟩ := Option.map_eq_some_iff.mp hran
  simp only [List.foldlM_cons, List.foldlM_nil, Option.bind_eq_bind,
    Option.bind_eq_some_iff] at hv
  obtain ⟨w, hcheck, v', hcommit, hpure⟩ := hv
  cases hpure
  have hquiet : NoneOutstanding samplePlatform admittedWorld cancelCheck := by
    intro _ _ _ _ id p hp
    have hnone : admittedWorld.db.execution.permits.find? id = none := rfl
    rw [hnone] at hp
    cases hp
  have hchecked : RunStep samplePlatform cancelCheck admittedWorld w := hcheck
  have hrun : Reaches (RunStep samplePlatform) (NoneOutstanding samplePlatform) admittedWorld v :=
    .tail (.single (l := cancelCheck) hquiet hchecked) (l := .commit) trivial hcommit
  exact ⟨w, v, hchecked, hcommit, hended,
    ((termination_excludes_execution samplePlatform admittedWorld_initial hrun).1 "task"
      (by simp [hended])).2.2⟩

/-- A permit that was issued before the cancellation is used after it, and the browser is called
for the task of the cancelled run. -/
theorem execution_after_cancellation :
    ∃ w : RunWorld Unit, Reaches (RunStep samplePlatform) always admittedWorld w ∧
      w.ended = ["task"] ∧
      w.world.calls.map (·.2.taskId) = ["task"] ∧
      w.db.execution.permits.rows.map (fun p => (p.taskId, p.status)) = [("task", .consumed)] ∧
      w.db.execution.attempts.rows.map (·.taskId) = ["task"] := by
  have hran : ((.execution (.issue "permit" sampleIssue 0) :: cancelCheck :: .commit ::
      executeLabels).foldlM (RunWorld.next samplePlatform) admittedWorld).map (fun w =>
        (w.ended, w.world.calls.map (·.2.taskId),
          w.db.execution.permits.rows.map (fun p => (p.taskId, p.status)),
          w.db.execution.attempts.rows.map (·.taskId))) =
      some (["task"], ["task"], [("task", .consumed)], ["task"]) := by decide +kernel
  obtain ⟨w, hw, hfacts⟩ := Option.map_eq_some_iff.mp hran
  simp only [Prod.mk.injEq] at hfacts
  exact ⟨w, Reaches.foldlM (fun _ _ _ h => h) _ (fun _ _ _ => trivial) admittedWorld w hw, hfacts⟩

end Run

end AgentPact
