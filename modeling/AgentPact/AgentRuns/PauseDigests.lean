import AgentPact.AgentRuns.ApprovalRounds
import AgentPact.AgentRuns.PauseStore
import AgentPact.AgentRuns.ProbeRecovery

/-!
# Pauses and the checkpoint they are bound to

A pause is recorded with the digest of the checkpoint it was recorded at, which
takes in the head of the journal.  Appends do not look at pauses, so an append
to a paused run leaves the pause with the digest of a checkpoint that is gone,
and the run is projected as a conflict until the pause is cleared, which no
command offers any more.

As long as no event is appended to a run that is paused, the digest of its pause
is that of its checkpoint (`pause_stays_current`).
-/

namespace AgentPact

open Base Transaction

/-! ## Steps -/

/-- A transaction on a run that can be paused. -/
inductive PausableLabel where
  /-- `record_pause_signal`. -/
  | record (environment : Environment) (user : UserContext) (signal : RunPauseSignal)
  /-- The append of an event, to the journal of this run or another. -/
  | append (request : AppendRequest)
  /-- A pause is resolved. -/
  | clear
  /-- Writes outside the audit table. -/
  | rows

/-- One transaction on a run that can be paused. -/
def PausableStep (P : Platform) (runId organizationId : String) :
    PausableLabel → Database → Database → Prop
  | .record E user signal, s, t =>
      user.orgId = organizationId ∧ t = left (recordPauseSignal P E user runId signal s)
  | .append r, s, t => t = left (appendAgentRunTransition P r s)
  | .clear, s, t => t = left (clearPauseSignal P runId organizationId s)
  | .rows, s, t => t.audit = s.audit

/-- The append adds its event. -/
structure AppendRequest.Accepted (P : Platform) (r : AppendRequest) (db : Database) : Prop where
  appendable : r.transition.appendable = true
  root : ∃ root, db.getRoot r.checkpoint.rootTaskId r.organizationId = some root ∧
    isPlanApplicationMarker root.application = true ∧
    (db.insertAudit? (eventRow (r.event P) root.organizationId)).isSome
  fresh : ∃ restored, replayPlanJournal P (db.loadEvents r.checkpoint.rootTaskId) = .ok restored ∧
    r.Fresh restored
  native : verifyCheckpointNativeState db r.checkpoint r.transition r.organizationId = .ok ()

/-- No event is appended to the run while it is paused. -/
def AppendsUnpaused (P : Platform) (runId organizationId : String) (db : Database) :
    PausableLabel → Prop
  | .append r => r.checkpoint.rootTaskId = runId → r.Accepted P db →
      db.getPauseSignal runId organizationId = none
  | _ => True

section Steps

variable {P : Platform} {runId organizationId : String} {s t : Database}

/-- An append that is not accepted changes nothing. -/
theorem append_accepted {r : AppendRequest} {c : GovernedPlanCheckpoint}
    (h : appendAgentRunTransition P r s = .ok c t) : t = s ∨ r.Accepted P s ∧
      ∃ root : TaskModel, s.insertAudit? (eventRow (r.event P) root.organizationId) = some t := by
  obtain ⟨happendable, root, restored, hroot, hmarker, hreplay,
    ⟨hfresh, hverify, hinsert, _⟩ | ⟨_, _, _, rfl⟩⟩ := appendAgentRunTransition_eq_ok.mp h
  · exact .inr ⟨⟨happendable, ⟨root, hroot, hmarker, by rw [hinsert]; rfl⟩, ⟨restored, hreplay, hfresh⟩,
      hverify⟩, root, hinsert⟩
  · exact .inl rfl

/-- An append that is refused changes nothing. -/
theorem appendAgentRunTransition_clean (P : Platform) (r : AppendRequest) :
    Clean (appendAgentRunTransition P r) := by
  refine .bind_keeps (fun _ => .require _ _) fun _ => .bind_keeps (fun _ => .fetch _ _)
    fun root => .bind_keeps (fun _ => .require _ _) fun _ => .bind_keeps (fun _ => rfl)
    fun events => .bind_keeps (fun _ => .lift _) fun restored => ?_
  split
  case isTrue =>
    refine .bind_keeps (fun _ => .query _) fun _ => fun s e t h => ?_
    rcases bind_eq_error.mp h with h | ⟨_, _, _, h⟩
    · exact (write?_eq_error.mp h).2.2
    · cases h
  case isFalse =>
    split
    · exact .of_keeps fun _ => .pure _
    · exact .of_keeps fun _ => rfl

/-- Resolving a pause raises only where it writes nothing. -/
theorem clearPauseSignal_clean (P : Platform) (runId organizationId : String) :
    Clean (clearPauseSignal P runId organizationId) := by
  refine .bind_keeps (fun _ => rfl) fun latest => ?_
  cases latest with
  | none => exact .of_keeps fun _ => .pure _
  | some pause =>
      refine .bind_keeps (fun _ => rfl) fun existing => ?_
      split
      · exact .of_keeps fun _ => .pure _
      · exact fun s e t h => (write?_eq_error.mp h).2.2

/-- Saving a pause changes no journal. -/
theorem savePauseSignal_loadEvents {signal : RunPauseSignal} {checkpointDigest : Digest}
    {modifiedAt : DateTime} {u : Unit}
    (h : savePauseSignal P signal checkpointDigest organizationId modifiedAt s = .ok u t)
    (id : String) : t.loadEvents id = s.loadEvents id := by
  simp only [savePauseSignal, bind_eq_ok, read_eq_ok] at h
  obtain ⟨existing, found, ⟨_, hfound⟩, h⟩ := h
  subst found
  cases existing with
  | some row => rw [(require_eq_ok.mp h).2]
  | none => exact loadEvents_insert_quiet (write?_eq_ok.mp h) (fun _ h => by cases h) id

theorem pauseAdmits_eq_ok {user : UserContext} {signal : RunPauseSignal} {locked : LockedRun}
    (h : pauseAdmits P user runId signal s = .ok locked) :
    signal.runId = runId ∧ LoadedFrom P s user.orgId runId locked := by
  simp only [pauseAdmits, except_bind_eq_ok, demand_eq_ok, loadLocked_eq_ok] at h
  obtain ⟨_, _, _, hrun, locked', hload, _, _, _, _, _, _, _, _, _, _, hpure⟩ := h
  cases hpure
  exact ⟨hrun, hload⟩

/-- Recording a pause saves it, or does nothing. -/
theorem recordPauseSignal_left {E : Environment} {user : UserContext} {signal : RunPauseSignal} :
    left (recordPauseSignal P E user runId signal s) = s ∨ ∃ locked,
      pauseAdmits P user runId signal s = .ok locked ∧
      savePauseSignal P signal.redact (P.digest locked.checkpoint.modelDump) user.orgId E.pausedAt
        s = .ok () (left (recordPauseSignal P E user runId signal s)) := by
  cases hadmits : pauseAdmits P user runId signal s with
  | error e =>
      unfold recordPauseSignal
      rw [bind_of_error (query_eq_error.mpr ⟨hadmits, rfl⟩)]
      exact .inl rfl
  | ok locked =>
      have hleft : left (recordPauseSignal P E user runId signal s) =
          left (atomic (savePauseSignal P signal.redact (P.digest locked.checkpoint.modelDump)
            user.orgId E.pausedAt) s) := by
        unfold recordPauseSignal
        rw [bind_of_ok (query_eq_ok.mpr ⟨hadmits, rfl⟩)]
        exact left_bind_of_keeps fun _ _ _ => left_query
      rw [hleft]
      rcases (Clean.atomic (savePauseSignal P signal.redact (P.digest locked.checkpoint.modelDump)
        user.orgId E.pausedAt)).left_cases s with hsame | ⟨_, hsave⟩
      · exact .inl hsame
      · exact .inr ⟨locked, rfl, atomic_eq_ok.mp hsave⟩

/-! ## The three appends -/

/-- Pausing for an approval is writes outside the audit table and an append, or nothing. -/
theorem pauseRunForApproval_appends {r : RunApprovalPause} :
    Reaches (PausableStep P runId organizationId) always s (left (pauseRunForApproval P r s)) := by
  rcases (pauseRunForApproval_clean P r).left_cases s with hsame | ⟨c, hpause⟩
  · rw [hsame]
    exact .refl s
  · generalize left (pauseRunForApproval P r s) = t at hpause ⊢
    obtain ⟨u, root, bundle, current, latest, active, pause, row, h⟩ :=
      pauseRunForApproval_eq_ok hpause
    have hrows : PausableStep P runId organizationId .rows s u := h.sameRuns.audit
    have happend : PausableStep P runId organizationId (.append (r.append current latest)) u t :=
      (congrArg left h.appended).symm
    exact (Reaches.single (l := .rows) trivial hrows).tail trivial happend

end Steps

/-! ## The invariant -/

section Filed

variable {P : Platform} {runId organizationId : String} {s t : Database} {log : PauseLog}

/-- Writes to other tables do not change what the pause rows amount to. -/
theorem Stored.of_audit (h : Stored P runId organizationId s log) (haudit : t.audit = s.audit) :
    Stored P runId organizationId t log := by
  cases h with
  | unpaused hnone =>
      obtain ⟨hrows, hfree, hunresolved⟩ := hnone
      rw [← haudit] at hrows hfree
      exact .unpaused ⟨hrows, hfree, by unfold Database.Unresolved; rw [haudit]; exact hunresolved⟩
  | paused hrun hrows hfree =>
      rw [← haudit] at hrows
      exact .paused hrun hrows (by unfold Database.Unresolved; rw [haudit]; exact hfree)
  | cleared hrun hrows =>
      rw [← haudit] at hrows
      exact .cleared hrun hrows

theorem loadEvents_of_audit (haudit : t.audit = s.audit) (id : String) :
    t.loadEvents id = s.loadEvents id := by
  unfold Database.loadEvents
  rw [haudit]

/-- An append files its event under its own run. -/
theorem filed_append (h : ∀ event ∈ s.loadEvents runId, event.rootTaskId = runId)
    {r : AppendRequest} {c : GovernedPlanCheckpoint}
    (happend : appendAgentRunTransition P r s = .ok c t) :
    ∀ event ∈ t.loadEvents runId, event.rootTaskId = runId := by
  intro event he
  rcases append_accepted happend with rfl | ⟨haccepted, root, hinsert⟩
  · exact h event he
  by_cases hown : r.checkpoint.rootTaskId = runId
  case neg =>
    rw [loadEvents_insert_other hinsert hown] at he
    exact h event he
  case pos =>
    subst hown
    obtain ⟨restored, hreplay, hfresh⟩ := haccepted.fresh
    rw [hfresh.loadEvents hreplay hinsert] at he
    rcases List.mem_append.mp he with he | he
    · exact h event he
    · rw [List.mem_singleton.mp he]
      rfl

end Filed

/-- What the audit table says of a run: its events are its own, and the pause that is open has the
digest of the checkpoint that the journal replays to. -/
structure Bound (P : Platform) (runId organizationId : String) (db : Database) : Prop where
  filed : ∀ event ∈ db.loadEvents runId, event.rootTaskId = runId
  log : ∃ log, Stored P runId organizationId db log ∧
    ∀ checkpointDigest signal, log = .paused checkpointDigest signal →
      ∀ c, replayPlanJournal P (db.loadEvents runId) = .ok c →
        checkpointDigest = P.digest c.modelDump

namespace Bound

variable {P : Platform} {runId organizationId : String} {s t : Database}

/-- Writes to other tables do not matter. -/
theorem rows (h : Bound P runId organizationId s) (haudit : t.audit = s.audit) :
    Bound P runId organizationId t := by
  obtain ⟨filed, log, hstored, hdigest⟩ := h
  have hevents : t.loadEvents runId = s.loadEvents runId := loadEvents_of_audit haudit runId
  exact ⟨by rw [hevents]; exact filed, log, hstored.of_audit haudit, by rw [hevents]; exact hdigest⟩

/-- So do appends, if the run is not paused where it gets an event. -/
theorem append (h : Bound P runId organizationId s) {r : AppendRequest}
    (hok : AppendsUnpaused P runId organizationId s (.append r)) :
    Bound P runId organizationId (left (appendAgentRunTransition P r s)) := by
  rcases (appendAgentRunTransition_clean P r).left_cases s with hsame | ⟨c, happend⟩
  · rw [hsame]
    exact h
  generalize left (appendAgentRunTransition P r s) = t at happend ⊢
  obtain ⟨filed, log, hstored, hdigest⟩ := h
  refine ⟨filed_append filed happend, log, hstored.append happend, ?_⟩
  intro checkpointDigest signal hlog
  rcases append_accepted happend with rfl | ⟨haccepted, root, hinsert⟩
  · exact hdigest checkpointDigest signal hlog
  by_cases hown : r.checkpoint.rootTaskId = runId
  case neg =>
    rw [loadEvents_insert_other hinsert hown]
    exact hdigest checkpointDigest signal hlog
  case pos =>
    -- the run is not paused
    have hunpaused := hok hown haccepted
    rw [hstored.getPauseSignal, hlog] at hunpaused
    cases hunpaused

/-- Resolving a pause leaves none open. -/
theorem clear (h : Bound P runId organizationId s) :
    Bound P runId organizationId (left (clearPauseSignal P runId organizationId s)) := by
  rcases (clearPauseSignal_clean P runId organizationId).left_cases s with hsame | ⟨u, hclear⟩
  · rw [hsame]
    exact h
  generalize left (clearPauseSignal P runId organizationId s) = t at hclear ⊢
  obtain ⟨filed, log, hstored, hdigest⟩ := h
  have hevents := (clearPauseSignal_frame hclear).2 runId
  rcases hstored.clear hclear with ⟨_, rfl⟩ | ⟨signal, checkpointDigest, _, hcleared⟩
  · exact ⟨filed, log, hstored, hdigest⟩
  · exact ⟨by rw [hevents]; exact filed, _, hcleared, fun _ _ hlog => by cases hlog⟩

/-- A pause is recorded with the digest of the checkpoint it is recorded at. -/
theorem record (h : Bound P runId organizationId s) {E : Environment} {user : UserContext}
    {signal : RunPauseSignal} (huser : user.orgId = organizationId) :
    Bound P runId organizationId (left (recordPauseSignal P E user runId signal s)) := by
  rcases @recordPauseSignal_left P runId s E user signal with
    hsame | ⟨locked, hadmits, hsave⟩
  · rw [hsame]
    exact h
  generalize left (recordPauseSignal P E user runId signal s) = t at hsave ⊢
  obtain ⟨hrun, hload⟩ := pauseAdmits_eq_ok hadmits
  rw [huser] at hsave
  obtain ⟨filed, log, hstored, hdigest⟩ := h
  have hevents := savePauseSignal_loadEvents hsave runId
  have hredacted : signal.redact.runId = runId := hrun
  rcases hstored.save hredacted hsave with ⟨_, hpaused⟩ | ⟨_, rfl⟩
  · refine ⟨by rw [hevents]; exact filed, _, hpaused, fun checkpointDigest signal' hlog c hc => ?_⟩
    cases hlog
    rw [hevents] at hc
    cases hload.replay.symm.trans hc
    rfl
  · exact ⟨filed, log, hstored, hdigest⟩

/-- Every step that appends to no paused run keeps the pause bound. -/
theorem step (h : Bound P runId organizationId s) {l : PausableLabel}
    (hok : AppendsUnpaused P runId organizationId s l)
    (hstep : PausableStep P runId organizationId l s t) : Bound P runId organizationId t := by
  cases l with
  | record E user signal =>
      obtain ⟨huser, rfl⟩ := hstep
      exact h.record huser
  | append r =>
      cases hstep
      exact h.append hok
  | clear =>
      cases hstep
      exact h.clear
  | rows => exact h.rows hstep

end Bound

/-! ## Every state -/

/-- A pause shows the actions it allows. -/
theorem RunPauseSignal.view_ne_stateConflict (signal : RunPauseSignal) :
    signal.view ≠ .stateConflict := by
  intro h
  have hstate : signal.view.state = .failed := congrArg (·.state) h
  unfold RunPauseSignal.view at hstate
  cases hout : signal.outcome <;> simp [hout] at hstate

/-- As long as no event is appended to a run while it is paused, whoever reads the paused run sees
the pause, and may do what it allows. -/
theorem pause_stays_current {P : Platform} {runId organizationId : String} {db₀ db : Database}
    {locked : LockedRun} {checkpointDigest : Digest} {signal : RunPauseSignal}
    (hfiled : ∀ event ∈ db₀.loadEvents runId, event.rootTaskId = runId)
    (hstart : Unpaused P runId organizationId db₀)
    (hrun : Reaches (PausableStep P runId organizationId) (AppendsUnpaused P runId organizationId)
      db₀ db)
    (hload : LoadedFrom P db organizationId runId locked)
    (hpause : db.getPauseSignal runId organizationId = some (checkpointDigest, signal)) :
    checkpointDigest = P.digest locked.checkpoint.modelDump ∧
      viewLocked P db locked = .ok signal.view ∧ signal.view ≠ .stateConflict ∧
      (signal.allowedActions ≠ [] → signal.view.legalActions ≠ []) := by
  have hbound : Bound P runId organizationId db := by
    refine hrun.invariant (fun _ _ _ hok hbefore hstep => hbefore.step hok hstep) ?_
    exact ⟨hfiled, .unpaused, .unpaused hstart, fun _ _ hlog => by cases hlog⟩
  obtain ⟨filed, log, hstored, hdigest⟩ := hbound
  have hlog := hstored.getPauseSignal
  rw [hpause] at hlog
  cases hstored with
  | unpaused _ => cases hlog
  | cleared _ _ => cases hlog
  | @paused signal' digest' _ hsignal _ _ =>
      cases hlog
      have hsame := hdigest _ _ rfl _ hload.replay
      have hroot : locked.checkpoint.rootTaskId = runId := by
        obtain ⟨last, hlast, _⟩ := replayPlanJournal_last hload.replay
        have hmem := List.mem_of_getLast? hlast
        exact (replayPlanJournal_root hload.replay last hmem).symm.trans (filed last hmem)
      refine ⟨hsame, ?_, signal.view_ne_stateConflict, fun hne => by simpa [RunPauseSignal.view]⟩
      have horg := hload.organization.1
      rw [← hroot, ← horg] at hpause
      have hguard : (decide (checkpointDigest = P.digest locked.checkpoint.modelDump) &&
          decide (signal.runId = locked.checkpoint.rootTaskId)) = true := by
        simp [← hsame, hsignal, hroot]
      simp only [viewLocked, hpause, hguard]
      rfl

/-! ## A wedged run -/

section Run

/-- A platform that tells checkpoints apart by their place in the journal. -/
def numberedPlatform : Platform :=
  { samplePlatform with
    dumps := fun
      | .obj fields => match fields.lookup "journal_sequence" with
        | some (.num n) => String.ofList (List.replicate n.toNat '1')
        | _ => ""
      | _ => "" }

/-- What a reader sees of the run on that platform. -/
def numberedView (db : Database) : Option RunView :=
  (getRun numberedPlatform (sampleEnvironment idleAdapter (.utc 14)) sampleUser sampleRunId
    db).toOption.map (·.view)

/-- The running run, paused for a human. -/
def humanNeeded : Database :=
  left (recordPauseSignal numberedPlatform (sampleEnvironment idleAdapter (.utc 10)) sampleUser
    sampleRunId cancellablePause runningDatabase)

/-- And then paused for an approval. -/
def wedgedDatabase : Database := left (pauseRunForApproval numberedPlatform firstPause humanNeeded)

theorem numberedPlatform_unpaused :
    (∀ event ∈ runningDatabase.loadEvents sampleRunId, event.rootTaskId = sampleRunId) ∧
      Unpaused numberedPlatform sampleRunId "org" runningDatabase := by
  have hran : (∀ event ∈ runningDatabase.loadEvents sampleRunId, event.rootTaskId = sampleRunId) ∧
      runningDatabase.audit.select (Database.isPauseOrResolution sampleRunId "org") = [] ∧
      ∀ row ∈ runningDatabase.audit.rows, row.eventId.length = 74 := by decide +kernel
  obtain ⟨hfiled, hrows, hlengths⟩ := hran
  refine ⟨hfiled, hrows, fun row hrow _ _ _ _ heq => ?_, fun row hrow _ heq => ?_⟩
  · have hlength := hlengths row hrow
    rw [heq, pauseRow_eventId_length] at hlength
    cases hlength
  · have hlength := hlengths row hrow
    rw [heq, resolutionRow_eventId_length] at hlength
    cases hlength

/-- A run that is paused for a human shows so. -/
theorem pause_stays_current_sample : ∃ locked checkpointDigest signal,
    LoadedFrom numberedPlatform humanNeeded "org" sampleRunId locked ∧
      humanNeeded.getPauseSignal sampleRunId "org" = some (checkpointDigest, signal) ∧
      viewLocked numberedPlatform humanNeeded locked = .ok signal.view := by
  have hran : (loadLocked numberedPlatform humanNeeded sampleUser sampleRunId).toOption.isSome ∧
      (humanNeeded.getPauseSignal sampleRunId "org").isSome := by decide +kernel
  obtain ⟨locked, hlocked⟩ := Option.isSome_iff_exists.mp hran.1
  obtain ⟨⟨checkpointDigest, signal⟩, hpause⟩ := Option.isSome_iff_exists.mp hran.2
  have hload : LoadedFrom numberedPlatform humanNeeded sampleUser.orgId sampleRunId locked := by
    refine loadLocked_eq_ok.mp ?_
    cases hrun : loadLocked numberedPlatform humanNeeded sampleUser sampleRunId with
    | error e => rw [hrun] at hlocked; cases hlocked
    | ok a => rw [hrun] at hlocked; cases hlocked; rfl
  have hrecord : PausableStep numberedPlatform sampleRunId "org"
      (.record (sampleEnvironment idleAdapter (.utc 10)) sampleUser cancellablePause)
      runningDatabase humanNeeded := ⟨rfl, rfl⟩
  have hcurrent := pause_stays_current numberedPlatform_unpaused.1 numberedPlatform_unpaused.2
    (.single (l := .record (sampleEnvironment idleAdapter (.utc 10)) sampleUser cancellablePause)
      trivial hrecord) hload hpause
  exact ⟨locked, checkpointDigest, signal, hload, hpause, hcurrent.2.1⟩

/-- A run is paused for a human who may cancel it, and its step is paused for an approval.  Both
succeed.  Then the run is a conflict, and cannot be cancelled. -/
theorem pause_wedged_by_append :
    Unpaused numberedPlatform sampleRunId "org" runningDatabase ∧
      Reaches (PausableStep numberedPlatform sampleRunId "org") always runningDatabase
        wedgedDatabase ∧
      numberedView humanNeeded = some cancellablePause.view ∧
      numberedView wedgedDatabase = some .stateConflict ∧
      (wedgedDatabase.getPauseSignal sampleRunId "org").isSome ∧
      raised (Termination.run numberedPlatform (sampleEnvironment idleAdapter (.utc 14)) sampleUser
        sampleRunId ⟨"cancel", none⟩ .cancel wedgedDatabase) =
          some (agentRunError "ILLEGAL_ACTION") := by
  have hran : numberedView humanNeeded = some cancellablePause.view ∧
      numberedView wedgedDatabase = some .stateConflict ∧
      (wedgedDatabase.getPauseSignal sampleRunId "org").isSome ∧
      raised (Termination.run numberedPlatform (sampleEnvironment idleAdapter (.utc 14)) sampleUser
        sampleRunId ⟨"cancel", none⟩ .cancel wedgedDatabase) =
          some (agentRunError "ILLEGAL_ACTION") := by decide +kernel
  have hrecord : PausableStep numberedPlatform sampleRunId "org"
      (.record (sampleEnvironment idleAdapter (.utc 10)) sampleUser cancellablePause)
      runningDatabase humanNeeded := ⟨rfl, rfl⟩
  exact ⟨numberedPlatform_unpaused.2, (Reaches.single trivial hrecord).trans
    pauseRunForApproval_appends, hran⟩

end Run

end AgentPact
