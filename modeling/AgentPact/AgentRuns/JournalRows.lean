import AgentPact.Documents
import AgentPact.AgentRuns.Append
import AgentPact.Base.HashChain

/-!
# The journal in its rows

How an event is written to a row and read back (`_event_model`,
`_load_events`), and what the digest of a journal says of its events.

An event is read back from its document (`modelValidate_document`), so the
document determines the event, and so does the digest of the document where
digests do not collide.  A journal that replays is a chain of such events
(`replayFrom_linked`), which its last digest and the set of its rows determine.
Parsing a datetime is a parameter, of which a theorem asks that it gets back the
datetimes that are written.
-/

namespace AgentPact

open Base

/-! ## Reading events -/

/-- The states of a run. -/
def PlanRunState.members : List PlanRunState :=
  [.active, .approvalRequired, .replanRequired, .probeBlocked, .reauthorizationRequired, .completed,
    .rejected, .cancelled, .failed]

/-- The states of a step. -/
def PlanStepState.members : List PlanStepState :=
  [.pending, .active, .completed, .superseded, .probeBlocked, .failed]

/-- The transitions. -/
def PlanJournalTransition.members : List PlanJournalTransition :=
  [.admitted, .childActivated, .childCompleted, .replanRequired, .probeBlocked, .probeResolved,
    .suffixSuperseded, .planCompleted, .reauthorizationRequired, .approvalRequired, .approvalResumed,
    .approvalRejected, .runCancelled]

/-- The recovery levels. -/
def RecoveryLevel.members : List RecoveryLevel := [.l0, .l1, .l2, .l3, .l4]

@[simp] theorem readMember_runState (s : PlanRunState) :
    readMember PlanRunState.members PlanRunState.value (.str s.value) = .ok s :=
  readMember_value (by cases s <;> decide) (by cases s <;> decide)

@[simp] theorem readMember_stepState (s : PlanStepState) :
    readMember PlanStepState.members PlanStepState.value (.str s.value) = .ok s :=
  readMember_value (by cases s <;> decide) (by cases s <;> decide)

@[simp] theorem readMember_transition (t : PlanJournalTransition) :
    readMember PlanJournalTransition.members PlanJournalTransition.value (.str t.value) = .ok t :=
  readMember_value (by cases t <;> decide) (by cases t <;> decide)

@[simp] theorem readMember_level (l : RecoveryLevel) :
    readMember RecoveryLevel.members RecoveryLevel.value (.str l.value) = .ok l :=
  readMember_value (by cases l <;> decide) (by cases l <;> decide)

/-- `GovernedPlanStepRef.model_validate`. -/
def GovernedPlanStepRef.modelValidate : Reader GovernedPlanStepRef := fun doc => do
  valid (doc.hasOnly ["business_plan_step_id", "step_digest", "work_order_id", "work_order_digest",
    "native_task_id", "native_step_id", "native_contract_id", "authority_contract_id", "state",
    "permit_id", "attempt_id", "probe_ref"] = true)
  pure
    { businessPlanStepId := ← doc.get "business_plan_step_id" readString
      stepDigest := ← doc.get "step_digest" readDigest
      workOrderId := ← doc.get "work_order_id" readString
      workOrderDigest := ← doc.get "work_order_digest" readDigest
      nativeTaskId := ← doc.get "native_task_id" readString
      nativeStepId := ← doc.get "native_step_id" readString
      nativeContractId := ← doc.get "native_contract_id" readString
      authorityContractId := ← doc.get "authority_contract_id" readString
      state := ← doc.get "state" (readMember PlanStepState.members PlanStepState.value)
      permitId := ← doc.getD "permit_id" (readOption readString) none
      attemptId := ← doc.getD "attempt_id" (readOption readString) none
      probeRef := ← doc.getD "probe_ref" (readOption readString) none }

@[simp] theorem readOption_str (x : Option String) :
    readOption readString (.ofOption .str x) = .ok x :=
  readOption_ofOption (fun _ _ => rfl) nofun

@[simp] theorem GovernedPlanStepRef.modelValidate_modelDump (r : GovernedPlanStepRef) :
    modelValidate r.modelDump = .ok r := by
  simp [modelValidate, modelDump, Json.get, Json.getD, Json.field?, Json.hasOnly, valid,
    except_ok_bind, pure, Except.pure]

/-- `GovernedPlanCheckpoint.model_validate`. -/
def GovernedPlanCheckpoint.modelValidate : Reader GovernedPlanCheckpoint := fun doc => do
  valid (doc.hasOnly ["schema_version", "plan_run_id", "admission_id", "root_task_id", "plan_id",
    "plan_version", "authority_contract_id", "completed_prefix", "active_step", "remaining_suffix",
    "superseded_suffix", "state", "replan_count", "max_replans", "journal_sequence",
    "journal_digest"] = true)
  let schemaVersion ← doc.getD "schema_version" readString "agentpact.plan-checkpoint/v1"
  valid (schemaVersion = "agentpact.plan-checkpoint/v1")
  let planRunId ← doc.get "plan_run_id" readString
  let admissionId ← doc.get "admission_id" readString
  let rootTaskId ← doc.get "root_task_id" readString
  let planId ← doc.get "plan_id" readString
  let planVersion ← doc.get "plan_version" (readNat 1)
  let authorityContractId ← doc.get "authority_contract_id" readString
  let completedPrefix ← doc.getD "completed_prefix" (readList GovernedPlanStepRef.modelValidate) []
  let activeStep ← doc.getD "active_step" (readOption GovernedPlanStepRef.modelValidate) none
  let remainingSuffix ← doc.getD "remaining_suffix" (readList GovernedPlanStepRef.modelValidate) []
  let supersededSuffix ←
    doc.getD "superseded_suffix" (readList GovernedPlanStepRef.modelValidate) []
  let state ← doc.getD "state" (readMember PlanRunState.members PlanRunState.value) .active
  let replanCount ← doc.getD "replan_count" (readNat 0) 0
  let maxReplans ← doc.getD "max_replans" (readNat 0) 2
  let journalSequence ← doc.getD "journal_sequence" (readNat 0) 0
  let journalDigest ← doc.getD "journal_digest" readDigest .zero
  if h : 1 ≤ planVersion ∧ maxReplans ≤ 2 then
    pure ⟨planRunId, admissionId, rootTaskId, planId, planVersion, authorityContractId,
      completedPrefix, activeStep, remainingSuffix, supersededSuffix, state, replanCount, maxReplans,
      journalSequence, journalDigest, h.1, h.2⟩
  else throw invalidDocument

@[simp] theorem readOption_step (x : Option GovernedPlanStepRef) :
    readOption GovernedPlanStepRef.modelValidate (.ofOption (·.modelDump) x) = .ok x :=
  readOption_ofOption (fun a _ => a.modelValidate_modelDump) fun _ => Json.noConfusion

@[simp] theorem readList_steps (xs : List GovernedPlanStepRef) :
    readList GovernedPlanStepRef.modelValidate (.arr (xs.map (·.modelDump))) = .ok xs :=
  readList_arr fun a _ => a.modelValidate_modelDump

@[simp] theorem GovernedPlanCheckpoint.modelValidate_modelDump (c : GovernedPlanCheckpoint) :
    modelValidate c.modelDump = .ok c := by
  have hversion : readNat 1 (.num c.planVersion) = .ok c.planVersion :=
    readNat_num c.planVersion_pos
  simp [modelValidate, modelDump, Json.get, Json.getD, Json.field?, Json.hasOnly, valid,
    except_ok_bind, hversion, c.planVersion_pos, c.maxReplans_le, pure, Except.pure]

/-- `model_dump(mode="json")` of an event, which includes its digest. -/
def PlanJournalEvent.document (P : Platform) (e : PlanJournalEvent) : Json :=
  .obj [("schema_version", .str "agentpact.plan-journal/v1"), ("event_id", .str e.eventId),
    ("plan_run_id", .str e.planRunId), ("root_task_id", .str e.rootTaskId),
    ("plan_id", .str e.planId), ("plan_version", .num e.planVersion),
    ("sequence", .num e.sequence),
    ("previous_event_digest", .str e.previousEventDigest.hex),
    ("event_digest", .str e.eventDigest.hex), ("transition", .str e.transition.value),
    ("recovery_level", .ofOption (.str ·.value) e.recoveryLevel),
    ("reason", .ofOption .str e.reason), ("authority_digests", e.authorityDigests.toJson),
    ("checkpoint", e.checkpoint.modelDump), ("created_at", .str (P.isoformat e.createdAt))]

/-- `PlanJournalEvent.model_validate`. -/
def PlanJournalEvent.modelValidate (fromisoformat : String → Option DateTime) :
    Reader PlanJournalEvent := fun doc => do
  valid (doc.hasOnly ["schema_version", "event_id", "plan_run_id", "root_task_id", "plan_id",
    "plan_version", "sequence", "previous_event_digest", "event_digest", "transition",
    "recovery_level", "reason", "authority_digests", "checkpoint", "created_at"] = true)
  let schemaVersion ← doc.getD "schema_version" readString "agentpact.plan-journal/v1"
  valid (schemaVersion = "agentpact.plan-journal/v1")
  pure
    { eventId := ← doc.get "event_id" readString
      planRunId := ← doc.get "plan_run_id" readString
      rootTaskId := ← doc.get "root_task_id" readString
      planId := ← doc.get "plan_id" readString
      planVersion := ← doc.get "plan_version" (readNat 0)
      sequence := ← doc.get "sequence" (readNat 1)
      previousEventDigest := ← doc.get "previous_event_digest" readDigest
      eventDigest := ← doc.get "event_digest" readDigest
      transition := ← doc.get "transition"
        (readMember PlanJournalTransition.members PlanJournalTransition.value)
      recoveryLevel := ← doc.getD "recovery_level"
        (readOption (readMember RecoveryLevel.members RecoveryLevel.value)) none
      reason := ← doc.getD "reason" (readOption readString) none
      authorityDigests := ← doc.get "authority_digests" readDict
      checkpoint := ← doc.get "checkpoint" GovernedPlanCheckpoint.modelValidate
      createdAt := ← doc.get "created_at" (readDateTime fromisoformat) }

@[simp] theorem readOption_level (x : Option RecoveryLevel) :
    readOption (readMember RecoveryLevel.members RecoveryLevel.value) (.ofOption (.str ·.value) x) =
      .ok x :=
  readOption_ofOption (fun a _ => readMember_level a) nofun

/-- An event is read back from its document, if its datetime is. -/
theorem PlanJournalEvent.modelValidate_document {P : Platform}
    {fromisoformat : String → Option DateTime} {e : PlanJournalEvent} (hsequence : 1 ≤ e.sequence)
    (hcreated : fromisoformat (P.isoformat e.createdAt) = some e.createdAt) :
    modelValidate fromisoformat (e.document P) = .ok e := by
  have hnumber : readNat 1 (.num e.sequence) = .ok e.sequence := readNat_num hsequence
  have htime : readDateTime fromisoformat (.str (P.isoformat e.createdAt)) = .ok e.createdAt := by
    simp only [readDateTime, hcreated]
  simp [modelValidate, document, Json.get, Json.getD, Json.field?, Json.hasOnly, valid,
    except_ok_bind, hnumber, htime, pure, Except.pure]

/-! ## What a digest says of its event -/

/-- The text that the digest of an event is taken of. -/
def PlanJournalEvent.digested (P : Platform) (e : PlanJournalEvent) : String :=
  P.dumps (e.modelDump P)

/-- The documents of two lists of events are told apart by their digests: their texts do not collide,
and are canonical. -/
structure Distinguishes (P : Platform) (events events' : List PlanJournalEvent) : Prop where
  collisionFree : ∀ e ∈ events, ∀ e' ∈ events', P.sha256 (e.digested P) = P.sha256 (e'.digested P) →
    e.digested P = e'.digested P
  canonical : ∀ e ∈ events, ∀ e' ∈ events', e.digested P = e'.digested P →
    e.modelDump P = e'.modelDump P

/-- What is left out of the digested document is the digest. -/
theorem PlanJournalEvent.document_eq {P : Platform} {e e' : PlanJournalEvent}
    (hdump : e.modelDump P = e'.modelDump P) (hdigest : e.eventDigest = e'.eventDigest) :
    e.document P = e'.document P := by
  simp only [modelDump, Json.obj.injEq, List.cons.injEq, Prod.mk.injEq, true_and, and_true] at hdump
  simp only [document, hdump, hdigest]

/-- An event is determined by its digest. -/
theorem PlanJournalEvent.eq_of_digest {P : Platform} {fromisoformat : String → Option DateTime}
    {events events' : List PlanJournalEvent} {e e' : PlanJournalEvent}
    {before before' : ReplayState} (hdistinguishes : Distinguishes P events events')
    (he : e ∈ events) (he' : e' ∈ events') (haccepts : ReplayAccepts P before e)
    (haccepts' : ReplayAccepts P before' e')
    (htime : fromisoformat (P.isoformat e.createdAt) = some e.createdAt)
    (htime' : fromisoformat (P.isoformat e'.createdAt) = some e'.createdAt)
    (hdigest : e.eventDigest = e'.eventDigest) : e = e' := by
  have htexts : P.sha256 (e.digested P) = P.sha256 (e'.digested P) := by
    have hsame := hdigest
    rwa [haccepts.digest, haccepts'.digest] at hsame
  have hdump : e.modelDump P = e'.modelDump P := hdistinguishes.canonical e he e' he'
    (hdistinguishes.collisionFree e he e' he' htexts)
  -- both are read back from one document
  have hread := modelValidate_document (by rw [haccepts.sequence]; omega) htime
  have hread' := modelValidate_document (by rw [haccepts'.sequence]; omega) htime'
  rw [document_eq hdump hdigest, hread'] at hread
  exact (Except.ok.inj hread).symm

/-- Replay checks that the events are linked. -/
theorem replayFrom_linked {P : Platform} {st st' : ReplayState} {events : List PlanJournalEvent}
    (h : replayFrom P st events = .ok st') :
    Linked (·.sequence) (·.previousEventDigest) (·.eventDigest) st.previous st.sequence events := by
  induction events generalizing st with
  | nil => exact .nil
  | cons event events ih =>
      obtain ⟨st₁, hstep, hrest⟩ := except_bind_eq_ok.mp h
      obtain ⟨haccepts, rfl⟩ := replayStep_eq_ok.mp hstep
      have htail := ih hrest
      have hnumber : event.sequence = st.sequence + 1 := haccepts.sequence
      refine .cons hnumber haccepts.chain ?_
      rw [← hnumber]
      exact htail

/-- A journal that replays is determined by the digest it ends in. -/
theorem events_eq_of_journalDigest {P : Platform} {fromisoformat : String → Option DateTime}
    {events events' : List PlanJournalEvent} {restored restored' : GovernedPlanCheckpoint}
    (hdistinguishes : Distinguishes P events events')
    (htimes : ∀ e ∈ events ++ events', fromisoformat (P.isoformat e.createdAt) = some e.createdAt)
    (hreplay : replayPlanJournal P events = .ok restored)
    (hreplay' : replayPlanJournal P events' = .ok restored')
    (hdigest : restored.journalDigest = restored'.journalDigest) : events = events' := by
  obtain ⟨last, hlast, hfrom, rfl⟩ := replayPlanJournal_eq_ok.mp hreplay
  obtain ⟨last', hlast', hfrom', rfl⟩ := replayPlanJournal_eq_ok.mp hreplay'
  have hfree : ∀ a ∈ events, ∀ b ∈ events', a.eventDigest = b.eventDigest → a = b := by
    intro a ha b hb hab
    obtain ⟨_, haccepts⟩ := replayFrom_accepted hfrom a ha
    obtain ⟨_, haccepts'⟩ := replayFrom_accepted hfrom' b hb
    exact PlanJournalEvent.eq_of_digest hdistinguishes ha hb haccepts haccepts'
      (htimes a (List.mem_append_left _ ha)) (htimes b (List.mem_append_right _ hb)) hab
  obtain ⟨init, rfl⟩ := List.getLast?_eq_some_iff.mp hlast
  obtain ⟨init', rfl⟩ := List.getLast?_eq_some_iff.mp hlast'
  exact (replayFrom_linked hfrom).eq_of_digest (replayFrom_linked hfrom') hfree hdigest

/-! ## Rows -/

/-- A row of `governance_audit_events`, with its payload as a document. -/
structure StoredAuditEvent where
  eventId : String
  taskId : String
  organizationId : String
  payload : Json

/-- `_event_model`. -/
def storedEvent (P : Platform) (event : PlanJournalEvent) (organizationId : String) :
    StoredAuditEvent :=
  ⟨event.eventId, event.rootTaskId, organizationId, event.document P⟩

/-- `payload.get("schema_version") == PLAN_JOURNAL_SCHEMA`, for a payload that is an object. -/
def StoredAuditEvent.isJournal (row : StoredAuditEvent) : Bool :=
  row.payload.field? "schema_version" = some (.str "agentpact.plan-journal/v1")

/-- Whether `_load_events` reads a row. -/
def StoredAuditEvent.isEventOf (rootTaskId : String) (row : StoredAuditEvent) : Bool :=
  row.taskId = rootTaskId && row.isJournal

theorem StoredAuditEvent.isEventOf_eq_true {row : StoredAuditEvent} {rootTaskId : String} :
    row.isEventOf rootTaskId = true ↔ row.taskId = rootTaskId ∧
      row.payload.field? "schema_version" = some (.str "agentpact.plan-journal/v1") := by
  simp [isEventOf, isJournal]

/-- `_load_events`. -/
def loadStoredEvents (fromisoformat : String → Option DateTime) (rows : List StoredAuditEvent)
    (rootTaskId : String) : Except Raised (List PlanJournalEvent) := do
  let events ← ((rows.filter (·.isEventOf rootTaskId)).map (·.payload)).mapM
    (PlanJournalEvent.modelValidate fromisoformat)
  pure (events.insertionSort fun a b => a.sequence ≤ b.sequence)

/-- What is read element by element can be read in any order. -/
theorem mapM_perm {α β : Type} {read : α → Except Raised β} {as as' : List α} {bs : List β}
    (hperm : as.Perm as') (h : as.mapM read = .ok bs) :
    ∃ bs', as'.mapM read = .ok bs' ∧ bs'.Perm bs := by
  induction hperm generalizing bs with
  | nil => exact ⟨bs, h, .refl bs⟩
  | cons a _ ih =>
      obtain ⟨b, rest, hb, hrest, rfl⟩ := mapM_cons_eq_ok.mp h
      obtain ⟨rest', hrest', hperm⟩ := ih hrest
      exact ⟨b :: rest', mapM_cons_eq_ok.mpr ⟨b, rest', hb, hrest', rfl⟩, hperm.cons b⟩
  | swap a a' as =>
      obtain ⟨b', _, hb', htail, rfl⟩ := mapM_cons_eq_ok.mp h
      obtain ⟨b, rest, hb, hrest, rfl⟩ := mapM_cons_eq_ok.mp htail
      have hswapped := mapM_cons_eq_ok.mpr
        ⟨b, b' :: rest, hb, mapM_cons_eq_ok.mpr ⟨b', rest, hb', hrest, rfl⟩, rfl⟩
      exact ⟨_, hswapped, .swap b' b rest⟩
  | trans _ _ ih ih' =>
      obtain ⟨cs, hcs, hperm⟩ := ih h
      obtain ⟨ds, hds, hperm'⟩ := ih' hcs
      exact ⟨ds, hds, hperm'.trans hperm⟩

/-- The rows of a journal that replays give the journal back, in whatever order they are, and
whatever other rows they are among. -/
theorem loadStoredEvents_perm {P : Platform} {fromisoformat : String → Option DateTime}
    {events : List PlanJournalEvent} {restored : GovernedPlanCheckpoint} {organizationId : String}
    {rows others : List StoredAuditEvent}
    (htimes : ∀ e ∈ events, fromisoformat (P.isoformat e.createdAt) = some e.createdAt)
    (hreplay : replayPlanJournal P events = .ok restored)
    (hrows : rows.Perm (events.map (storedEvent P · organizationId) ++ others))
    (hothers : ∀ row ∈ others, row.isEventOf restored.rootTaskId = false) :
    loadStoredEvents fromisoformat rows restored.rootTaskId = .ok events := by
  obtain ⟨last, _, hfrom, _⟩ := replayPlanJournal_eq_ok.mp hreplay
  have hlinked := replayFrom_linked hfrom
  -- the rows that are read are those of the events
  have hfilter : (rows.filter (·.isEventOf restored.rootTaskId)).Perm
      (events.map (storedEvent P · organizationId)) := by
    have hall : ∀ row ∈ events.map (storedEvent P · organizationId),
        row.isEventOf restored.rootTaskId = true := fun row hrow => by
      obtain ⟨e, he, rfl⟩ := List.mem_map.mp hrow
      exact StoredAuditEvent.isEventOf_eq_true.mpr ⟨replayPlanJournal_root hreplay e he, rfl⟩
    have hnone : others.filter (·.isEventOf restored.rootTaskId) = [] :=
      List.filter_eq_nil_iff.mpr fun row hrow => by simp [hothers row hrow]
    have hsplit := hrows.filter (·.isEventOf restored.rootTaskId)
    rwa [List.filter_append, List.filter_eq_self.mpr hall, hnone, List.append_nil] at hsplit
  have hread : (events.map (PlanJournalEvent.document P)).mapM
      (PlanJournalEvent.modelValidate fromisoformat) = .ok events := by
    have hmap := mapM_map (f := id) fun e he =>
      PlanJournalEvent.modelValidate_document (hlinked.pairwise.1 e he) (htimes e he)
    rwa [List.map_id] at hmap
  have hpayloads := hfilter.map (·.payload)
  rw [List.map_map] at hpayloads
  obtain ⟨loaded, hloaded, hperm⟩ := mapM_perm hpayloads.symm hread
  rw [loadStoredEvents, hloaded, except_ok_bind, hlinked.insertionSort_eq hperm]
  rfl

/-- The document of a payload.  One that is neither of a journal nor of a pause is any other. -/
def AuditPayload.document (P : Platform) (other : Json) : AuditPayload → Json
  | .journal event => event.document P
  | .pause runId checkpointDigest signal => pausePayload P runId checkpointDigest signal
  | .pauseResolved runId pauseEventId => resolutionPayload runId pauseEventId
  | .other => other

/-- A row with its payload as a document. -/
def GovernanceAuditEventModel.stored (P : Platform) (other : Json)
    (row : GovernanceAuditEventModel) : StoredAuditEvent :=
  ⟨row.eventId, row.taskId, row.organizationId, row.payload.document P other⟩

/-- The journal of a database is what is read back from its rows. -/
theorem loadStoredEvents_stored {P : Platform} {fromisoformat : String → Option DateTime}
    {other : Json} (hother : other.field? "schema_version" ≠ some (.str "agentpact.plan-journal/v1"))
    {db : Database} (hrows : ∀ row ∈ db.audit.rows, ∀ event, row.payload = .journal event →
      1 ≤ event.sequence ∧ fromisoformat (P.isoformat event.createdAt) = some event.createdAt)
    (rootTaskId : String) :
    loadStoredEvents fromisoformat (db.audit.rows.map (·.stored P other)) rootTaskId =
      .ok (db.loadEvents rootTaskId) := by
  have hread : ((((db.audit.rows.map (·.stored P other)).filter (·.isEventOf rootTaskId)).map
      (·.payload)).mapM (PlanJournalEvent.modelValidate fromisoformat)) =
        .ok (db.audit.rows.filterMap (Database.journalEvent rootTaskId)) := by
    generalize db.audit.rows = rows at hrows
    induction rows with
    | nil => rfl
    | cons row rows ih =>
        have hrest := ih fun r hr => hrows r (List.mem_cons_of_mem row hr)
        by_cases hevent : ∃ event, row.taskId = rootTaskId ∧ row.payload = .journal event
        · -- a row of the journal is read
          obtain ⟨event, htask, hpayload⟩ := hevent
          obtain ⟨hsequence, htime⟩ := hrows row (List.mem_cons_self ..) event hpayload
          have hstored : (row.stored P other).isEventOf rootTaskId = true := by
            refine StoredAuditEvent.isEventOf_eq_true.mpr ⟨htask, ?_⟩
            simp only [GovernanceAuditEventModel.stored, hpayload]
            rfl
          have hjournal : Database.journalEvent rootTaskId row = some event := by
            simp [Database.journalEvent, htask, hpayload]
          rw [List.map_cons, List.filter_cons_of_pos hstored, List.map_cons,
            List.filterMap_cons_some hjournal, mapM_cons_eq_ok]
          refine ⟨event, _, ?_, hrest, rfl⟩
          simp only [GovernanceAuditEventModel.stored, hpayload, AuditPayload.document]
          exact PlanJournalEvent.modelValidate_document hsequence htime
        · -- any other is left out
          have hstored : ¬ (row.stored P other).isEventOf rootTaskId = true := by
            intro hread
            obtain ⟨htask, hschema⟩ := StoredAuditEvent.isEventOf_eq_true.mp hread
            simp only [GovernanceAuditEventModel.stored] at htask hschema
            cases hpayload : row.payload with
            | journal event => exact hevent ⟨event, htask, hpayload⟩
            | pause => simp [hpayload, AuditPayload.document, pausePayload, Json.field?] at hschema
            | pauseResolved =>
                simp [hpayload, AuditPayload.document, resolutionPayload, Json.field?] at hschema
            | other =>
                rw [hpayload] at hschema
                exact hother hschema
          have hjournal : Database.journalEvent rootTaskId row = none := by
            unfold Database.journalEvent
            split
            case isTrue htask =>
              split
              case h_1 event hpayload => exact absurd ⟨event, htask, hpayload⟩ hevent
              case h_2 => rfl
            case isFalse => rfl
          rw [List.map_cons, List.filter_cons_of_neg hstored, List.filterMap_cons_none hjournal]
          exact hrest
  rw [loadStoredEvents, hread]
  rfl

/-- A journal that replays is determined by the digest it ends in, and is read back from its rows. -/
theorem journal_tamper_evident {P : Platform} {fromisoformat : String → Option DateTime}
    {events events' : List PlanJournalEvent} {restored restored' : GovernedPlanCheckpoint}
    (hdistinguishes : Distinguishes P events events')
    (htimes : ∀ e ∈ events ++ events', fromisoformat (P.isoformat e.createdAt) = some e.createdAt)
    (hreplay : replayPlanJournal P events = .ok restored)
    (hreplay' : replayPlanJournal P events' = .ok restored') :
    (restored.journalDigest = restored'.journalDigest → events = events') ∧
      ∀ organizationId rows others,
        rows.Perm (events.map (storedEvent P · organizationId) ++ others) →
        (∀ row ∈ others, row.isEventOf restored.rootTaskId = false) →
        loadStoredEvents fromisoformat rows restored.rootTaskId = .ok events ∧
          (loadStoredEvents fromisoformat rows restored.rootTaskId >>= replayPlanJournal P) =
            .ok restored := by
  refine ⟨events_eq_of_journalDigest hdistinguishes htimes hreplay hreplay',
    fun organizationId rows others hrows hothers => ?_⟩
  have hload := loadStoredEvents_perm (fun e he => htimes e (List.mem_append_left _ he)) hreplay
    hrows hothers
  exact ⟨hload, by rw [hload]; exact hreplay⟩

/-! ## A journal and its rows -/

section Run

/-- The text of a datetime in the first second there is. -/
def firstSecond (t : DateTime) : String :=
  let digits := toString t.micros
  "0001-01-01T00:00:00." ++ String.ofList (List.replicate (6 - digits.length) '0') ++ digits ++
    if t.aware then "Z" else ""

/-- Reads the times of the examples. -/
def sampleFromisoformat (s : String) : Option DateTime :=
  [.utc 10, .utc 11].find? fun t => firstSecond t = s

/-- The number of an event, which tells the documents of the examples apart. -/
def numberText (doc : Json) : String :=
  match doc.field? "sequence" with
  | some (.num n) => "\x7b\"sequence\":" ++ toString n ++ "\x7d"
  | _ => "\x7b\x7d"

/-- A platform that writes the number of an event. -/
def writingPlatform : Platform := { samplePlatform with dumps := numberText, isoformat := firstSecond }

/-- The admission of the run there. -/
def writtenAdmission : PlanJournalEvent :=
  planEvent writingPlatform admittedCheckpoint .admitted .empty "admit" (.utc 10)

/-- And a completion of its step. -/
def writtenCompletion : PlanJournalEvent :=
  planEvent writingPlatform
    { writtenAdmission.checkpoint.bound writtenAdmission.sequence writtenAdmission.eventDigest with
      completedPrefix := [sampleStep] } .childCompleted .empty "complete" (.utc 11)

/-- A row of another schema. -/
def foreignRow : StoredAuditEvent :=
  ⟨"event", sampleRunId, "org", .obj [("schema_version", .str "agentpact.run-pause/v1")]⟩

/-- The journal is read back from its rows in another order and with a foreign one among them, and
the admission alone ends in another digest. -/
theorem journal_tamper_evident_sample :
    loadStoredEvents sampleFromisoformat
      [storedEvent writingPlatform writtenCompletion "org", foreignRow,
        storedEvent writingPlatform writtenAdmission "org"] sampleRunId =
        .ok [writtenAdmission, writtenCompletion] ∧
      ∀ c c', replayPlanJournal writingPlatform [writtenAdmission, writtenCompletion] = .ok c →
        replayPlanJournal writingPlatform [writtenAdmission] = .ok c' →
        c.journalDigest ≠ c'.journalDigest := by
  have hran : (replayPlanJournal writingPlatform [writtenAdmission,
      writtenCompletion]).toOption.isSome = true ∧
      (replayPlanJournal writingPlatform [writtenAdmission]).toOption.isSome = true ∧
      (∀ e ∈ [writtenAdmission, writtenCompletion], ∀ e' ∈ [writtenAdmission],
        writingPlatform.sha256 (e.digested writingPlatform) =
          writingPlatform.sha256 (e'.digested writingPlatform) →
        e.digested writingPlatform = e'.digested writingPlatform) ∧
      (∀ e ∈ [writtenAdmission, writtenCompletion], ∀ e' ∈ [writtenAdmission],
        e.digested writingPlatform = e'.digested writingPlatform →
        e.modelDump writingPlatform = e'.modelDump writingPlatform) ∧
      (∀ e ∈ [writtenAdmission, writtenCompletion] ++ [writtenAdmission],
        sampleFromisoformat (writingPlatform.isoformat e.createdAt) = some e.createdAt) := by
    decide +kernel
  obtain ⟨hreplays, hreplays', hfree, hcanonical, htimes⟩ := hran
  cases hreplay : replayPlanJournal writingPlatform [writtenAdmission, writtenCompletion] with
  | error e => rw [hreplay] at hreplays; cases hreplays
  | ok c =>
  cases hreplay' : replayPlanJournal writingPlatform [writtenAdmission] with
  | error e => rw [hreplay'] at hreplays'; cases hreplays'
  | ok c' =>
      obtain ⟨hdetermined, hrows⟩ :=
        journal_tamper_evident ⟨hfree, hcanonical⟩ htimes hreplay hreplay'
      have hroot : c.rootTaskId = sampleRunId :=
        (replayPlanJournal_root hreplay writtenAdmission (List.mem_cons_self ..)).symm
      rw [hroot] at hrows
      refine ⟨(hrows "org" _ [foreignRow] ?_ ?_).1, ?_⟩
      · -- the completion moves past the foreign row, and the admission past both
        exact ((List.Perm.swap _ _ _).cons _).trans (.swap _ _ _)
      · decide +kernel
      · rintro d d' ⟨⟩ ⟨⟩ hsame
        exact absurd (hdetermined hsame) (by simp)

end Run

end AgentPact
