import AgentPact.AgentRuns.Database

/-!
# Appending to the journal

`append_agent_run_transition`.  It locks the root, replays the journal, checks
the checkpoint against the native rows, and adds one event.

`appendAgentRunTransition_eq_ok` inverts it.  An append that adds an event adds
it at the end of the journal (`loadEvents_insert`), so whether the longer journal
replays is a question about that event and the last one.  The append asks less
than replay does, and `append_replays_iff` says exactly what is missing.
-/

namespace AgentPact

open Base Transaction

/-- `is_plan_application_marker`. -/
def isPlanApplicationMarker (value : Option String) : Bool :=
  value = some "agentpact:agent-run:plan:v1" || value = some "agentpact:m8:plan:v1"

/-- The transitions an append accepts. -/
def PlanJournalTransition.appendable : PlanJournalTransition → Bool
  | .childCompleted | .planCompleted | .probeBlocked | .probeResolved | .approvalRequired
  | .approvalResumed | .approvalRejected | .runCancelled => true
  | _ => false

/-- The arguments of an append. -/
structure AppendRequest where
  organizationId : String
  checkpoint : GovernedPlanCheckpoint
  transition : PlanJournalTransition
  authorityDigests : Dict
  operationKey : String
  createdAt : DateTime

/-- The checkpoint is bound to the end of the journal. -/
def AppendRequest.Fresh (r : AppendRequest) (restored : GovernedPlanCheckpoint) : Prop :=
  restored.journalSequence = r.checkpoint.journalSequence ∧
    restored.journalDigest = r.checkpoint.journalDigest

instance (r : AppendRequest) (restored : GovernedPlanCheckpoint) : Decidable (r.Fresh restored) := by
  unfold AppendRequest.Fresh; infer_instance

/-- The journal ends in the event this append would have added. -/
def AppendRequest.committedBy (r : AppendRequest) (restored : GovernedPlanCheckpoint)
    (committed : PlanJournalEvent) : Bool :=
  restored.journalSequence = r.checkpoint.journalSequence + 1 &&
    committed.transition = r.transition && committed.reason = some r.operationKey &&
    committed.authorityDigests = r.authorityDigests &&
    committed.checkpoint = r.checkpoint.bound committed.sequence r.checkpoint.journalDigest

/-- The event an append adds. -/
def AppendRequest.event (P : Platform) (r : AppendRequest) : PlanJournalEvent :=
  planEvent P r.checkpoint r.transition r.authorityDigests r.operationKey r.createdAt

/-- `_event_model`. -/
def eventRow (event : PlanJournalEvent) (organizationId : String) : GovernanceAuditEventModel where
  eventId := event.eventId
  taskId := event.rootTaskId
  organizationId := organizationId
  payload := .journal event
  createdAt := event.createdAt.bind

/-- `raise GovernedPlanError(str(exc)) from exc`, for a `ValueError`. -/
def asGovernedPlanError (e : Raised) : Raised :=
  if ErrorClass.valueError.caughtBy e then ⟨.governedPlanError, e.text⟩ else e

/-- `append_agent_run_transition`. -/
def appendAgentRunTransition (P : Platform) (r : AppendRequest) :
    AgentRunTx GovernedPlanCheckpoint := do
  require (r.transition.appendable = true)
    ⟨.governedPlanError, "Agent Run append received an unsupported transition"⟩
  let root ← fetch (·.getRoot r.checkpoint.rootTaskId r.organizationId)
    ⟨.governedPlanError, "Agent Run transition root Task is missing or untrusted"⟩
  require (isPlanApplicationMarker root.application = true)
    ⟨.governedPlanError, "Agent Run transition root Task is missing or untrusted"⟩
  let events ← read (·.loadEvents r.checkpoint.rootTaskId)
  let restored ← lift (replayPlanJournal P events)
  if r.Fresh restored then
    query fun db => (verifyCheckpointNativeState db r.checkpoint r.transition
      r.organizationId).mapError asGovernedPlanError
    write? (·.insertAudit? (eventRow (r.event P) root.organizationId)) integrityError
    pure (r.checkpoint.bound (r.event P).sequence (r.event P).eventDigest)
  else if events.getLast?.any (r.committedBy restored) then pure restored
  else throw ⟨.governedPlanError,
    "Agent Run stale, conflicting, or one-sided transition detected"⟩

/-! ## Inverting an append -/

theorem Database.insertAudit?_eq_some {db db' : Database} {row : GovernanceAuditEventModel} :
    db.insertAudit? row = some db' ↔
      ∃ audit, db.audit.insert? row = some audit ∧ db' = { db with audit := audit } := by
  simp [Database.insertAudit?, eq_comm]

theorem asGovernedPlanError_eq_ok {x : Except Raised Unit} {u : Unit} :
    x.mapError asGovernedPlanError = .ok u ↔ x = .ok u := by
  cases x <;> simp [Except.mapError]

/-- What an append did: it added its event, or found it there. -/
theorem appendAgentRunTransition_eq_ok {P : Platform} {r : AppendRequest} {db db' : Database}
    {c : GovernedPlanCheckpoint} :
    appendAgentRunTransition P r db = .ok c db' ↔
      r.transition.appendable = true ∧ ∃ root restored,
        db.getRoot r.checkpoint.rootTaskId r.organizationId = some root ∧
        isPlanApplicationMarker root.application = true ∧
        replayPlanJournal P (db.loadEvents r.checkpoint.rootTaskId) = .ok restored ∧
        ((r.Fresh restored ∧
            verifyCheckpointNativeState db r.checkpoint r.transition r.organizationId = .ok () ∧
            db.insertAudit? (eventRow (r.event P) root.organizationId) = some db' ∧
            c = r.checkpoint.bound (r.event P).sequence (r.event P).eventDigest) ∨
          (¬ r.Fresh restored ∧
            (db.loadEvents r.checkpoint.rootTaskId).getLast?.any (r.committedBy restored) = true ∧
            c = restored ∧ db' = db)) := by
  unfold appendAgentRunTransition
  simp only [bind_eq_ok, require_eq_ok, fetch_eq_ok, read_eq_ok, lift_eq_ok]
  constructor
  · rintro ⟨_, _, ⟨happendable, rfl⟩, root, _, ⟨hroot, rfl⟩, _, _, ⟨hmarker, rfl⟩, events, _,
      ⟨rfl, rfl⟩, restored, _, ⟨hreplay, rfl⟩, h⟩
    refine ⟨happendable, root, restored, hroot, hmarker, hreplay, ?_⟩
    split at h
    case isTrue hfresh =>
      simp only [bind_eq_ok, query_eq_ok, write?_eq_ok, asGovernedPlanError_eq_ok] at h
      obtain ⟨_, _, ⟨hverify, rfl⟩, _, _, hinsert, hpure⟩ := h
      cases hpure
      exact .inl ⟨hfresh, hverify, hinsert, rfl⟩
    case isFalse hstale =>
      split at h
      case isTrue hcommitted =>
        cases h
        exact .inr ⟨hstale, hcommitted, rfl, rfl⟩
      case isFalse => cases h
  · rintro ⟨happendable, root, restored, hroot, hmarker, hreplay, h⟩
    refine ⟨(), db, ⟨happendable, rfl⟩, root, db, ⟨hroot, rfl⟩, (), db, ⟨hmarker, rfl⟩, _, db,
      ⟨rfl, rfl⟩, restored, db, ⟨hreplay, rfl⟩, ?_⟩
    split
    case isTrue hfresh =>
      obtain ⟨_, hverify, hinsert, rfl⟩ := h.resolve_right fun h => h.1 hfresh
      simp only [bind_eq_ok, query_eq_ok, write?_eq_ok, asGovernedPlanError_eq_ok]
      exact ⟨(), db, ⟨hverify, rfl⟩, (), db', hinsert, rfl⟩
    case isFalse hstale =>
      obtain ⟨_, hcommitted, rfl, rfl⟩ := h.resolve_left fun h => hstale h.1
      split
      case isTrue => rfl
      case isFalse hne => exact absurd hcommitted hne

/-- An append writes to the audit table only. -/
theorem appendAgentRunTransition_execution {P : Platform} {r : AppendRequest} {s t : Database}
    {c : GovernedPlanCheckpoint} (h : appendAgentRunTransition P r s = .ok c t) :
    t.execution = s.execution := by
  obtain ⟨_, _, _, _, _, _, ⟨_, _, hinsert, _⟩ | ⟨_, _, _, rfl⟩⟩ :=
    appendAgentRunTransition_eq_ok.mp h
  · obtain ⟨_, _, rfl⟩ := Database.insertAudit?_eq_some.mp hinsert
    rfl
  · rfl

/-! ## The journal after an append -/

section Sorting

variable {α : Type} {le : α → α → Prop} [DecidableRel le]

theorem orderedInsert_concat {a x : α} {l : List α} (h : le a x) :
    (l ++ [x]).orderedInsert le a = l.orderedInsert le a ++ [x] := by
  induction l with
  | nil => simp [List.orderedInsert, h]
  | cons b l ih =>
      simp only [List.cons_append, List.orderedInsert]
      split
      · rfl
      · rw [ih, List.cons_append]

/-- A stable sort leaves an element that follows all others at the end. -/
theorem insertionSort_concat {x : α} {l : List α} (h : ∀ a ∈ l, le a x) :
    (l ++ [x]).insertionSort le = l.insertionSort le ++ [x] := by
  induction l with
  | nil => rfl
  | cons a l ih =>
      rw [List.cons_append, List.insertionSort_cons, List.insertionSort_cons,
        ih fun b hb => h b (List.mem_cons_of_mem _ hb)]
      exact orderedInsert_concat (h a (List.mem_cons_self ..))

end Sorting

/-- The events of a journal are those of the audit rows of its run. -/
theorem Database.mem_loadEvents {s : Database} {runId : String} {event : PlanJournalEvent} :
    event ∈ s.loadEvents runId ↔
      ∃ row ∈ s.audit.rows, row.taskId = runId ∧ row.payload = .journal event := by
  unfold Database.loadEvents
  rw [List.mem_insertionSort, List.mem_filterMap]
  refine exists_congr fun row => and_congr_right fun _ => ?_
  unfold Database.journalEvent
  by_cases htask : row.taskId = runId
  · rw [if_pos htask]
    cases hpayload : row.payload <;> simp [htask]
  · simp [htask]

/-- An event that comes after all others is added at the end of the journal. -/
theorem loadEvents_insert {db db' : Database} {event : PlanJournalEvent} {organizationId : String}
    (hinsert : db.insertAudit? (eventRow event organizationId) = some db')
    (hlast : ∀ e ∈ db.loadEvents event.rootTaskId, e.sequence ≤ event.sequence) :
    db'.loadEvents event.rootTaskId = db.loadEvents event.rootTaskId ++ [event] := by
  obtain ⟨audit, haudit, rfl⟩ := Database.insertAudit?_eq_some.mp hinsert
  unfold Database.loadEvents
  rw [(Table.insert?_eq_some.mp haudit).2, List.filterMap_append]
  have hnew : List.filterMap (Database.journalEvent event.rootTaskId)
      [eventRow event organizationId] = [event] := by
    simp [Database.journalEvent, eventRow]
  rw [hnew]
  refine insertionSort_concat fun a ha => hlast a ?_
  exact (List.mem_insertionSort _).mpr ha

/-- An event of another run is not in the journal. -/
theorem loadEvents_insert_other {db db' : Database} {event : PlanJournalEvent}
    {organizationId runId : String}
    (hinsert : db.insertAudit? (eventRow event organizationId) = some db')
    (hother : event.rootTaskId ≠ runId) : db'.loadEvents runId = db.loadEvents runId := by
  obtain ⟨audit, haudit, rfl⟩ := Database.insertAudit?_eq_some.mp hinsert
  unfold Database.loadEvents
  rw [(Table.insert?_eq_some.mp haudit).2, List.filterMap_append]
  have hnone : List.filterMap (Database.journalEvent runId) [eventRow event organizationId] = [] := by
    simp [Database.journalEvent, eventRow, hother]
  rw [hnone, List.append_nil]

/-- An event pauses no run, and resolves no pause. -/
theorem getPauseSignal_insert {db db' : Database} {event : PlanJournalEvent}
    {organizationId : String} (hinsert : db.insertAudit? (eventRow event organizationId) = some db')
    (runId viewer : String) : db'.getPauseSignal runId viewer = db.getPauseSignal runId viewer := by
  obtain ⟨audit, haudit, rfl⟩ := Database.insertAudit?_eq_some.mp hinsert
  have hother : Database.isPauseOrResolution runId viewer (eventRow event organizationId) = false := by
    simp [Database.isPauseOrResolution, eventRow]
  unfold Database.getPauseSignal Table.select
  simp [(Table.insert?_eq_some.mp haudit).2, List.filter_append, hother]

/-- A fresh event comes after all others. -/
theorem AppendRequest.Fresh.loadEvents {P : Platform} {r : AppendRequest} {db db' : Database}
    {restored : GovernedPlanCheckpoint} {organizationId : String} (hfresh : r.Fresh restored)
    (hreplay : replayPlanJournal P (db.loadEvents r.checkpoint.rootTaskId) = .ok restored)
    (hinsert : db.insertAudit? (eventRow (r.event P) organizationId) = some db') :
    db'.loadEvents r.checkpoint.rootTaskId =
      db.loadEvents r.checkpoint.rootTaskId ++ [r.event P] := by
  obtain ⟨last, _, rfl, _, _, _, _, hbound⟩ := replayPlanJournal_last hreplay
  have hnumber : (r.event P).sequence = last.sequence + 1 := congrArg (· + 1) hfresh.1.symm
  exact loadEvents_insert hinsert fun e he => (hbound e he).trans (by omega)

/-- And it replays exactly when it extends the last. -/
theorem AppendRequest.Fresh.replay_iff {P : Platform} {r : AppendRequest}
    {events : List PlanJournalEvent} {last : PlanJournalEvent}
    {restored c : GovernedPlanCheckpoint} (hfresh : r.Fresh restored)
    (happendable : r.transition.appendable = true) (hlast : events.getLast? = some last)
    (hreplay : replayPlanJournal P events = .ok restored) :
    replayPlanJournal P (events ++ [r.event P]) = .ok c ↔
      Extends last r.checkpoint r.transition r.createdAt ∧
        c = r.checkpoint.bound (r.event P).sequence (r.event P).eventDigest := by
  obtain ⟨last', hlast', rfl, hsequence, hversion, _⟩ := replayPlanJournal_last hreplay
  cases hlast.symm.trans hlast'
  obtain ⟨hsame, hdigest⟩ := hfresh
  rw [replay_append hlast (by rw [hreplay]; rfl), AppendRequest.event,
    replayAccepts_planEvent hsame.symm hdigest.symm hsequence hversion]
  · rfl
  · intro hsuperseded
    rw [hsuperseded] at happendable
    cases happendable

/-- The append that adds an event commits a journal that replays to the checkpoint it returned,
exactly when the event extends the last one. -/
theorem append_replays_iff {P : Platform} {r : AppendRequest} {db db' : Database}
    {c restored : GovernedPlanCheckpoint}
    (hreplay : replayPlanJournal P (db.loadEvents r.checkpoint.rootTaskId) = .ok restored)
    (hfresh : restored.journalSequence = r.checkpoint.journalSequence ∧
      restored.journalDigest = r.checkpoint.journalDigest)
    (happend : appendAgentRunTransition P r db = .ok c db') :
    ∃ event last, (db.loadEvents r.checkpoint.rootTaskId).getLast? = some last ∧
      db'.loadEvents r.checkpoint.rootTaskId =
        db.loadEvents r.checkpoint.rootTaskId ++ [event] ∧
      (replayPlanJournal P (db.loadEvents r.checkpoint.rootTaskId ++ [event]) = .ok c ↔
        Extends last r.checkpoint r.transition r.createdAt) := by
  obtain ⟨happendable, root, restored', _, _, hreplay', h⟩ :=
    appendAgentRunTransition_eq_ok.mp happend
  cases hreplay.symm.trans hreplay'
  obtain ⟨last, hlast, _⟩ := replayPlanJournal_last hreplay
  have hnew : r.Fresh restored := hfresh
  rcases h with ⟨_, _, hinsert, rfl⟩ | ⟨hstale, _⟩
  · refine ⟨r.event P, last, hlast, hnew.loadEvents hreplay hinsert, ?_⟩
    rw [hnew.replay_iff happendable hlast hreplay]
    exact and_iff_left rfl
  · exact absurd hfresh hstale

/-! ## A run -/

section Run

/-- The run of the examples. -/
def sampleRunId : String := derivePackRunId samplePlatform "org" "request"

/-- Its only step. -/
def sampleStep : GovernedPlanStepRef where
  businessPlanStepId := "pay"
  stepDigest := .zero
  workOrderId := "order"
  workOrderDigest := .zero
  nativeTaskId := "task"
  nativeStepId := "step"
  nativeContractId := "contract"
  authorityContractId := "authority"
  state := .active
  permitId := none
  attemptId := none
  probeRef := none

/-- Its checkpoint at admission. -/
def admittedCheckpoint : GovernedPlanCheckpoint where
  planRunId := sampleRunId
  admissionId := "admission"
  rootTaskId := sampleRunId
  planId := "plan"
  planVersion := 1
  authorityContractId := "authority"
  completedPrefix := []
  activeStep := some sampleStep
  remainingSuffix := []
  supersededSuffix := []
  state := .active
  replanCount := 0
  maxReplans := 2
  journalSequence := 0
  journalDigest := .zero
  planVersion_pos := by decide
  maxReplans_le := by decide

/-- Its first event. -/
def admittedEvent : PlanJournalEvent :=
  planEvent samplePlatform admittedCheckpoint .admitted .empty "admit" (.utc 10)

/-- The records it was admitted with. -/
def sampleBundle : TaskAdmissionBundle :=
  ⟨"recorded", some ⟨"pack", "1", "adapter", ["pay"]⟩, "admission", sampleRunId, "authority", "org",
    "request", "pay", "requester"⟩

/-- The database after admission. -/
def admittedDatabase : Database where
  tasks := ⟨[⟨sampleRunId, "org", .created, some "agentpact:agent-run:plan:v1"⟩,
    ⟨"task", "org", .created, none⟩], by decide +kernel⟩
  steps := ⟨[⟨"step", "task", "org", .created⟩], by decide⟩
  admissions := ⟨[⟨"admission", "org", "request", sampleRunId, sampleBundle⟩], by
    exact List.pairwise_singleton _ _⟩
  audit := ⟨[eventRow admittedEvent "org"], List.pairwise_singleton _ _⟩
  pendingActions := .empty
  approvals := .empty
  execution := .empty

/-- A run that is cancelled, from the checkpoint it had. -/
def cancelRequest (c : GovernedPlanCheckpoint) (createdAt : DateTime) : AppendRequest where
  organizationId := "org"
  checkpoint := { c with state := .cancelled }
  transition := .runCancelled
  authorityDigests := .empty
  operationKey := "cancel"
  createdAt := createdAt

theorem cancelRequest_fresh (c : GovernedPlanCheckpoint) (createdAt : DateTime) :
    c.journalSequence = (cancelRequest c createdAt).checkpoint.journalSequence ∧
      c.journalDigest = (cancelRequest c createdAt).checkpoint.journalDigest := ⟨rfl, rfl⟩

/-- Where the run stands. -/
def lastCheckpoint (db : Database) : GovernedPlanCheckpoint :=
  (replayPlanJournal samplePlatform (db.loadEvents sampleRunId)).toOption.getD admittedCheckpoint

/-- The run, with its native rows canceled. -/
def canceledNatively : Database :=
  admittedDatabase.setNativeStatus "task" "step" .canceled .canceled

/-- The first cancellation. -/
def firstCancellation : AppendRequest := cancelRequest (lastCheckpoint canceledNatively) (.utc 11)

/-- The run after the first cancellation. -/
def cancelledDatabase : Database :=
  left (appendAgentRunTransition samplePlatform firstCancellation canceledNatively)

/-- The second cancellation. -/
def secondCancellation : AppendRequest :=
  cancelRequest (lastCheckpoint cancelledDatabase) (.utc 12)

/-- Whether an append returns, to a journal that replays to what it returned. -/
def appendReplays (r : AppendRequest) (db : Database) : Option Bool :=
  match appendAgentRunTransition samplePlatform r db with
  | .ok c db' =>
      some (replayPlanJournal samplePlatform (db'.loadEvents r.checkpoint.rootTaskId) = .ok c)
  | .error _ _ => none

/-- It extends the admission. -/
theorem firstCancellation_extends : Extends admittedEvent firstCancellation.checkpoint
    firstCancellation.transition firstCancellation.createdAt := by
  refine ⟨rfl, by decide +kernel, by decide +kernel, by decide, ?_⟩
  exact ⟨by decide, nofun, fun h => by simp [firstCancellation, cancelRequest] at h⟩

/-- The first cancellation extends the admission, and the journal replays. -/
theorem append_replays_iff_sample :
    ∃ c db', appendAgentRunTransition samplePlatform firstCancellation canceledNatively = .ok c db' ∧
      replayPlanJournal samplePlatform
        (db'.loadEvents firstCancellation.checkpoint.rootTaskId) = .ok c := by
  have hreplay : replayPlanJournal samplePlatform
      (canceledNatively.loadEvents firstCancellation.checkpoint.rootTaskId) =
        .ok (lastCheckpoint canceledNatively) := by decide +kernel
  have hevents : canceledNatively.loadEvents firstCancellation.checkpoint.rootTaskId =
      [admittedEvent] := by decide +kernel
  have hok : (appendReplays firstCancellation canceledNatively).isSome = true := by
    decide +kernel
  cases happend : appendAgentRunTransition samplePlatform firstCancellation canceledNatively with
  | error e db' => simp [appendReplays, happend] at hok
  | ok c db' =>
      obtain ⟨event, last, hlast, hload, hiff⟩ :=
        append_replays_iff hreplay (cancelRequest_fresh _ _) happend
      rw [hevents] at hlast
      cases hlast
      refine ⟨c, db', rfl, ?_⟩
      rw [hload]
      exact hiff.mpr firstCancellation_extends

/-- A second cancellation is appended, and the journal replays no more. -/
theorem append_after_cancellation :
    ∃ db db' r c restored,
      replayPlanJournal samplePlatform (db.loadEvents r.checkpoint.rootTaskId) = .ok restored ∧
      restored.journalSequence = r.checkpoint.journalSequence ∧
      restored.journalDigest = r.checkpoint.journalDigest ∧
      appendAgentRunTransition samplePlatform r db = .ok c db' ∧
      replayPlanJournal samplePlatform (db'.loadEvents r.checkpoint.rootTaskId) ≠ .ok c := by
  have hran : replayPlanJournal samplePlatform
      (cancelledDatabase.loadEvents secondCancellation.checkpoint.rootTaskId) =
        .ok (lastCheckpoint cancelledDatabase) ∧
      appendReplays secondCancellation cancelledDatabase = some false := by decide +kernel
  obtain ⟨hreplay, hfalse⟩ := hran
  unfold appendReplays at hfalse
  split at hfalse
  case h_1 c db' happend =>
    have hfresh := cancelRequest_fresh (lastCheckpoint cancelledDatabase) (.utc 12)
    exact ⟨_, db', secondCancellation, c, _, hreplay, hfresh.1, hfresh.2, happend,
      of_decide_eq_false (Option.some.inj hfalse)⟩
  case h_2 => cases hfalse

end Run

end AgentPact
