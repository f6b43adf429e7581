import AgentPact.Governance.Contracts

/-!
# The plan journal

`agent_runs/journal.py`, the part that needs no database.

A run is a chain of events.  Each event carries the checkpoint it leads to, the
digest of the event before it, and its own digest.  `replayPlanJournal` checks
the chain and returns the last checkpoint, bound to the last event.

A successful check of an event depends on the events before it only through
what the last of them says, since a replayable journal has one identity
throughout.  So `replay_append` reduces the replay of a longer journal to
the check of one event after the last, and `replayStep_planEvent` says exactly
when an event that `planEvent` builds passes it.
-/

namespace AgentPact

/-! ## States and transitions -/

/-- The state of a plan run. -/
inductive PlanRunState where
  | active | approvalRequired | replanRequired | probeBlocked | reauthorizationRequired
  | completed | rejected | cancelled | failed
deriving DecidableEq, Repr

/-- The text of a state. -/
def PlanRunState.value : PlanRunState → String
  | .active => "active"
  | .approvalRequired => "approval_required"
  | .replanRequired => "replan_required"
  | .probeBlocked => "probe_blocked"
  | .reauthorizationRequired => "reauthorization_required"
  | .completed => "completed"
  | .rejected => "rejected"
  | .cancelled => "cancelled"
  | .failed => "failed"

/-- The state of a plan step. -/
inductive PlanStepState where
  | pending | active | completed | superseded | probeBlocked | failed
deriving DecidableEq, Repr

/-- The text of a state. -/
def PlanStepState.value : PlanStepState → String
  | .pending => "pending"
  | .active => "active"
  | .completed => "completed"
  | .superseded => "superseded"
  | .probeBlocked => "probe_blocked"
  | .failed => "failed"

/-- What an event records. -/
inductive PlanJournalTransition where
  | admitted | childActivated | childCompleted | replanRequired | probeBlocked | probeResolved
  | suffixSuperseded | planCompleted | reauthorizationRequired | approvalRequired
  | approvalResumed | approvalRejected | runCancelled
deriving DecidableEq, Repr

/-- The text of a transition. -/
def PlanJournalTransition.value : PlanJournalTransition → String
  | .admitted => "admitted"
  | .childActivated => "child_activated"
  | .childCompleted => "child_completed"
  | .replanRequired => "replan_required"
  | .probeBlocked => "probe_blocked"
  | .probeResolved => "probe_resolved"
  | .suffixSuperseded => "suffix_superseded"
  | .planCompleted => "plan_completed"
  | .reauthorizationRequired => "reauthorization_required"
  | .approvalRequired => "approval_required"
  | .approvalResumed => "approval_resumed"
  | .approvalRejected => "approval_rejected"
  | .runCancelled => "run_cancelled"

/-- The transitions no event may follow. -/
def PlanJournalTransition.terminal : PlanJournalTransition → Bool
  | .planCompleted | .reauthorizationRequired | .approvalRejected | .runCancelled => true
  | _ => false

/-- The states a transition may lead to. -/
def PlanJournalTransition.expectedStates : PlanJournalTransition → List PlanRunState
  | .admitted | .childActivated | .childCompleted => [.active]
  | .replanRequired => [.replanRequired]
  | .probeBlocked => [.probeBlocked]
  | .probeResolved => [.active, .completed]
  | .suffixSuperseded => [.active]
  | .planCompleted => [.completed]
  | .reauthorizationRequired => [.reauthorizationRequired]
  | .approvalRequired => [.approvalRequired]
  | .approvalResumed => [.active]
  | .approvalRejected => [.rejected]
  | .runCancelled => [.cancelled]

/-! ## Checkpoints and events -/

/-- A step of a plan and what executes it. -/
structure GovernedPlanStepRef where
  businessPlanStepId : String
  stepDigest : Digest
  workOrderId : String
  workOrderDigest : Digest
  nativeTaskId : String
  nativeStepId : String
  nativeContractId : String
  authorityContractId : String
  state : PlanStepState
  permitId : Option String
  attemptId : Option String
  probeRef : Option String
deriving DecidableEq

/-- Where a run stands. -/
structure GovernedPlanCheckpoint where
  planRunId : String
  admissionId : String
  rootTaskId : String
  planId : String
  planVersion : Nat
  authorityContractId : String
  completedPrefix : List GovernedPlanStepRef
  activeStep : Option GovernedPlanStepRef
  remainingSuffix : List GovernedPlanStepRef
  supersededSuffix : List GovernedPlanStepRef
  state : PlanRunState
  replanCount : Nat
  maxReplans : Nat
  journalSequence : Nat
  journalDigest : Digest
  planVersion_pos : 1 ≤ planVersion
  maxReplans_le : maxReplans ≤ 2
deriving DecidableEq

/-- An event of a journal. -/
structure PlanJournalEvent where
  eventId : String
  planRunId : String
  rootTaskId : String
  planId : String
  planVersion : Nat
  sequence : Nat
  previousEventDigest : Digest
  eventDigest : Digest
  transition : PlanJournalTransition
  recoveryLevel : Option RecoveryLevel
  reason : Option String
  authorityDigests : Dict
  checkpoint : GovernedPlanCheckpoint
  createdAt : DateTime
deriving DecidableEq

/-- `model_dump(mode="json")` of a step. -/
def GovernedPlanStepRef.modelDump (r : GovernedPlanStepRef) : Json :=
  .obj [("business_plan_step_id", .str r.businessPlanStepId),
    ("step_digest", .str r.stepDigest.hex), ("work_order_id", .str r.workOrderId),
    ("work_order_digest", .str r.workOrderDigest.hex), ("native_task_id", .str r.nativeTaskId),
    ("native_step_id", .str r.nativeStepId), ("native_contract_id", .str r.nativeContractId),
    ("authority_contract_id", .str r.authorityContractId), ("state", .str r.state.value),
    ("permit_id", .ofOption .str r.permitId), ("attempt_id", .ofOption .str r.attemptId),
    ("probe_ref", .ofOption .str r.probeRef)]

/-- `model_dump(mode="json")` of a checkpoint. -/
def GovernedPlanCheckpoint.modelDump (c : GovernedPlanCheckpoint) : Json :=
  .obj [("schema_version", .str "agentpact.plan-checkpoint/v1"),
    ("plan_run_id", .str c.planRunId), ("admission_id", .str c.admissionId),
    ("root_task_id", .str c.rootTaskId), ("plan_id", .str c.planId),
    ("plan_version", .num c.planVersion), ("authority_contract_id", .str c.authorityContractId),
    ("completed_prefix", .arr (c.completedPrefix.map (·.modelDump))),
    ("active_step", .ofOption (·.modelDump) c.activeStep),
    ("remaining_suffix", .arr (c.remainingSuffix.map (·.modelDump))),
    ("superseded_suffix", .arr (c.supersededSuffix.map (·.modelDump))),
    ("state", .str c.state.value), ("replan_count", .num c.replanCount),
    ("max_replans", .num c.maxReplans), ("journal_sequence", .num c.journalSequence),
    ("journal_digest", .str c.journalDigest.hex)]

/-- `model_dump(mode="json", exclude={"event_digest"})` of an event. -/
def PlanJournalEvent.modelDump (P : Platform) (e : PlanJournalEvent) : Json :=
  .obj [("schema_version", .str "agentpact.plan-journal/v1"), ("event_id", .str e.eventId),
    ("plan_run_id", .str e.planRunId), ("root_task_id", .str e.rootTaskId),
    ("plan_id", .str e.planId), ("plan_version", .num e.planVersion),
    ("sequence", .num e.sequence),
    ("previous_event_digest", .str e.previousEventDigest.hex),
    ("transition", .str e.transition.value),
    ("recovery_level", .ofOption (.str ·.value) e.recoveryLevel),
    ("reason", .ofOption .str e.reason), ("authority_digests", e.authorityDigests.toJson),
    ("checkpoint", e.checkpoint.modelDump), ("created_at", .str (P.isoformat e.createdAt))]

/-- A checkpoint bound to an event of its journal. -/
def GovernedPlanCheckpoint.bound (c : GovernedPlanCheckpoint) (sequence : Nat)
    (digest : Digest) : GovernedPlanCheckpoint :=
  { c with journalSequence := sequence, journalDigest := digest }

/-- `_stable_id`. -/
def stableId (P : Platform) (seed kind : String) : String :=
  "agent_run_" ++ (P.sha256 ("agentpact-agent-run|" ++ seed ++ "|" ++ kind)).hex

/-- `_legacy_stable_id`. -/
def legacyStableId (P : Platform) (seed kind : String) : String :=
  "m8_" ++ (P.sha256 ("agentpact-m8|" ++ seed ++ "|" ++ kind)).hex

/-- What the identity of an event is made from, besides its run. -/
def eventKind (planVersion sequence : Nat) (transition : PlanJournalTransition) : String :=
  "event-v" ++ toString planVersion ++ "-" ++ toString sequence ++ "-" ++ transition.value

/-! ## Replay -/

/-- Raise a `GovernedPlanError` unless a condition holds. -/
def expect (p : Prop) [Decidable p] (text : String) : Except Raised Unit :=
  if p then .ok () else .error ⟨.governedPlanError, text⟩

/-- `_validate_transition_checkpoint`. -/
def validateTransitionCheckpoint (transition : PlanJournalTransition)
    (checkpoint : GovernedPlanCheckpoint) : Except Raised Unit := do
  expect (checkpoint.state ∈ transition.expectedStates)
    "Agent Run journal transition disagrees with checkpoint state"
  expect (¬ (checkpoint.state = .completed ∧ checkpoint.activeStep.isSome))
    "Completed Agent Run retains an active child"
  expect (¬ (checkpoint.state ∈ [.active, .approvalRequired, .replanRequired, .probeBlocked] ∧
      checkpoint.activeStep = none))
    "Nonterminal Agent Run checkpoint is missing its active child"

/-- What replay keeps from the events it has seen. -/
structure ReplayState where
  sequence : Nat
  previous : Digest
  terminal : Bool
  runIdentity : Option (String × String × String)
  previousPlanVersion : Nat
  previousCreatedAt : Option DateTime

/-- Nothing has been seen. -/
def ReplayState.initial : ReplayState := ⟨0, .zero, false, none, 0, none⟩

/-- The identity of the run an event belongs to. -/
def PlanJournalEvent.identity (e : PlanJournalEvent) : String × String × String :=
  (e.planRunId, e.checkpoint.admissionId, e.rootTaskId)

/-- An event was seen. -/
def ReplayState.after (event : PlanJournalEvent) : ReplayState :=
  ⟨event.sequence, event.eventDigest, event.transition.terminal, some event.identity,
    event.planVersion, some event.createdAt⟩

/-- `event.created_at < previous_created_at`, when there is a previous event. -/
def reordered (previous : Option DateTime) (createdAt : DateTime) : Except Raised Bool :=
  match previous with
  | none => .ok false
  | some p => createdAt.lt p

/-- The checks of one event. -/
def replayStep (P : Platform) (st : ReplayState) (event : PlanJournalEvent) :
    Except Raised ReplayState := do
  let checkpoint := event.checkpoint
  let kind := eventKind event.planVersion event.sequence event.transition
  expect (event.sequence = st.sequence + 1)
    "Agent Run journal contains a sequence gap or reorder"
  expect (st.sequence + 1 = 1 → event.transition = .admitted)
    "Agent Run journal does not begin with admission"
  expect (event.previousEventDigest = st.previous) "Agent Run journal digest chain is broken"
  expect (event.eventDigest = P.digest (event.modelDump P))
    "Agent Run journal event digest is corrupt"
  expect (event.eventId = stableId P event.planRunId kind ∨
      event.eventId = legacyStableId P event.planRunId kind)
    "Agent Run journal event identity is not deterministic"
  expect (∀ identity ∈ st.runIdentity, event.identity = identity)
    "Agent Run journal root identity changed"
  expect (checkpoint.planRunId = event.planRunId ∧ checkpoint.rootTaskId = event.rootTaskId ∧
      checkpoint.planId = event.planId ∧ checkpoint.planVersion = event.planVersion ∧
      checkpoint.journalSequence = event.sequence ∧
      checkpoint.journalDigest = event.previousEventDigest)
    "Agent Run journal event and checkpoint identity disagree"
  expect (st.previousPlanVersion ≤ event.planVersion ∧
      event.planVersion ≤ st.previousPlanVersion + 1)
    "Agent Run journal plan version is reordered or contains a gap"
  expect (st.previousPlanVersion ≠ 0 ∧ st.previousPlanVersion < event.planVersion →
      event.transition = .suffixSuperseded)
    "Agent Run journal plan version changed outside suffix supersession"
  let late ← reordered st.previousCreatedAt event.createdAt
  expect (late = false) "Agent Run journal timestamps are reordered"
  validateTransitionCheckpoint event.transition checkpoint
  expect (st.terminal = false) "Agent Run journal contains a transition after terminal state"
  pure (.after event)

/-- The checks of a list of events. -/
def replayFrom (P : Platform) (st : ReplayState) (events : List PlanJournalEvent) :
    Except Raised ReplayState := events.foldlM (replayStep P) st

/-- `replay_plan_journal`. -/
def replayPlanJournal (P : Platform) (events : List PlanJournalEvent) :
    Except Raised GovernedPlanCheckpoint :=
  match events.getLast? with
  | none => .error ⟨.governedPlanError, "Agent Run journal is empty"⟩
  | some last => do
      let _ ← replayFrom P .initial events
      pure (last.checkpoint.bound last.sequence last.eventDigest)

/-! ## Building an event -/

/-- `_event`. -/
def planEvent (P : Platform) (checkpoint : GovernedPlanCheckpoint)
    (transition : PlanJournalTransition) (authorityDigests : Dict) (reason : String)
    (createdAt : DateTime) : PlanJournalEvent :=
  let sequence := checkpoint.journalSequence + 1
  let previous := checkpoint.journalDigest
  let unsigned : PlanJournalEvent :=
    { eventId := stableId P checkpoint.planRunId
        (eventKind checkpoint.planVersion sequence transition)
      planRunId := checkpoint.planRunId
      rootTaskId := checkpoint.rootTaskId
      planId := checkpoint.planId
      planVersion := checkpoint.planVersion
      sequence := sequence
      previousEventDigest := previous
      eventDigest := .zero
      transition := transition
      recoveryLevel := none
      reason := some reason
      authorityDigests := authorityDigests
      checkpoint := checkpoint.bound sequence previous
      createdAt := createdAt }
  { unsigned with eventDigest := P.digest (unsigned.modelDump P) }

/-! ## Replaying one more event -/

@[simp] theorem expect_eq_ok {p : Prop} [Decidable p] {text : String} {u : Unit} :
    expect p text = .ok u ↔ p := by
  unfold expect
  split
  case isTrue h => simp [h]
  case isFalse h => simp [h]

theorem expect_bind_eq_ok {p : Prop} [Decidable p] {text : String} {α : Type}
    {f : Unit → Except Raised α} {a : α} :
    (expect p text >>= f) = .ok a ↔ p ∧ f () = .ok a := by
  unfold expect
  split
  case isTrue h => exact (and_iff_right h).symm
  case isFalse h => exact iff_of_false (by simp [bind, Except.bind]) fun hp => h hp.1

/-- The shape of a checkpoint that a transition may lead to. -/
structure TransitionFits (transition : PlanJournalTransition)
    (checkpoint : GovernedPlanCheckpoint) : Prop where
  state : checkpoint.state ∈ transition.expectedStates
  completed : checkpoint.state = .completed → checkpoint.activeStep = none
  nonterminal : checkpoint.state ∈ [.active, .approvalRequired, .replanRequired, .probeBlocked] →
    checkpoint.activeStep.isSome

theorem validateTransitionCheckpoint_eq_ok {transition : PlanJournalTransition}
    {checkpoint : GovernedPlanCheckpoint} {u : Unit} :
    validateTransitionCheckpoint transition checkpoint = .ok u ↔
      TransitionFits transition checkpoint := by
  unfold validateTransitionCheckpoint
  rw [expect_bind_eq_ok, expect_bind_eq_ok, expect_eq_ok]
  constructor
  · rintro ⟨hstate, hcompleted, hnonterminal⟩
    refine ⟨hstate, fun hc => ?_, fun hn => ?_⟩
    · simpa [hc] using hcompleted
    · exact Option.isSome_iff_ne_none.mpr fun hnone => hnonterminal ⟨hn, hnone⟩
  · rintro ⟨hstate, hcompleted, hnonterminal⟩
    refine ⟨hstate, fun h => ?_, fun h => ?_⟩
    · rw [hcompleted h.1] at h
      cases h.2
    · have hsome := hnonterminal h.1
      rw [h.2] at hsome
      cases hsome

/-- The checks of an event, as one statement. -/
structure ReplayAccepts (P : Platform) (st : ReplayState) (event : PlanJournalEvent) : Prop where
  sequence : event.sequence = st.sequence + 1
  admitted : st.sequence + 1 = 1 → event.transition = .admitted
  chain : event.previousEventDigest = st.previous
  digest : event.eventDigest = P.digest (event.modelDump P)
  eventId : event.eventId = stableId P event.planRunId
      (eventKind event.planVersion event.sequence event.transition) ∨
    event.eventId = legacyStableId P event.planRunId
      (eventKind event.planVersion event.sequence event.transition)
  identity : ∀ identity ∈ st.runIdentity, event.identity = identity
  checkpoint : event.checkpoint.planRunId = event.planRunId ∧
    event.checkpoint.rootTaskId = event.rootTaskId ∧ event.checkpoint.planId = event.planId ∧
    event.checkpoint.planVersion = event.planVersion ∧
    event.checkpoint.journalSequence = event.sequence ∧
    event.checkpoint.journalDigest = event.previousEventDigest
  version : st.previousPlanVersion ≤ event.planVersion ∧
    event.planVersion ≤ st.previousPlanVersion + 1
  superseded : st.previousPlanVersion ≠ 0 ∧ st.previousPlanVersion < event.planVersion →
    event.transition = .suffixSuperseded
  timely : reordered st.previousCreatedAt event.createdAt = .ok false
  fits : TransitionFits event.transition event.checkpoint
  open_ : st.terminal = false

theorem replayStep_eq_ok {P : Platform} {st st' : ReplayState} {event : PlanJournalEvent} :
    replayStep P st event = .ok st' ↔ ReplayAccepts P st event ∧ st' = .after event := by
  unfold replayStep
  simp only [except_bind_eq_ok, expect_eq_ok, validateTransitionCheckpoint_eq_ok, exists_const]
  constructor
  · rintro ⟨h1, h2, h3, h4, h5, h6, h7, h8, h9, late, hlate, rfl, h10, h11, hst⟩
    cases hst
    exact ⟨⟨h1, h2, h3, h4, h5, h6, h7, h8, h9, hlate, h10, h11⟩, rfl⟩
  · rintro ⟨⟨h1, h2, h3, h4, h5, h6, h7, h8, h9, hlate, h10, h11⟩, rfl⟩
    exact ⟨h1, h2, h3, h4, h5, h6, h7, h8, h9, false, hlate, rfl, h10, h11, rfl⟩

/-- After a successful replay, the state is what the last event says. -/
theorem replayFrom_eq_ok {P : Platform} {st st' : ReplayState} {events : List PlanJournalEvent}
    {last : PlanJournalEvent} (hlast : events.getLast? = some last)
    (h : replayFrom P st events = .ok st') : st' = .after last := by
  induction events generalizing st with
  | nil => cases hlast
  | cons event events ih =>
      obtain ⟨st₁, hstep, hrest⟩ := except_bind_eq_ok.mp h
      cases events with
      | nil =>
          cases hlast
          cases hrest
          exact (replayStep_eq_ok.mp hstep).2
      | cons event' events => exact ih hlast hrest

/-- Every event of a successful replay was checked. -/
theorem replayFrom_accepted {P : Platform} {st st' : ReplayState} {events : List PlanJournalEvent}
    (h : replayFrom P st events = .ok st') :
    ∀ event ∈ events, ∃ before, ReplayAccepts P before event := by
  induction events generalizing st with
  | nil => exact fun _ hmem => absurd hmem List.not_mem_nil
  | cons event events ih =>
      obtain ⟨st₁, hstep, hrest⟩ := except_bind_eq_ok.mp h
      intro e hmem
      rcases List.mem_cons.mp hmem with rfl | hmem
      · exact ⟨st, (replayStep_eq_ok.mp hstep).1⟩
      · exact ih hrest e hmem

/-- Every event of a successful replay belongs to the run of the events before it. -/
theorem replayFrom_identity {P : Platform} {st st' : ReplayState} {events : List PlanJournalEvent}
    {identity : String × String × String} (hst : st.runIdentity = some identity)
    (h : replayFrom P st events = .ok st') : ∀ event ∈ events, event.identity = identity := by
  induction events generalizing st with
  | nil => exact fun _ hmem => absurd hmem List.not_mem_nil
  | cons event events ih =>
      obtain ⟨st₁, hstep, hrest⟩ := except_bind_eq_ok.mp h
      obtain ⟨haccepts, rfl⟩ := replayStep_eq_ok.mp hstep
      have hsame : event.identity = identity := haccepts.identity identity hst
      intro e hmem
      rcases List.mem_cons.mp hmem with rfl | hmem
      · exact hsame
      · exact ih (congrArg some hsame) hrest e hmem

/-- A replayed journal is in the order of its sequence numbers. -/
theorem replayFrom_sequence {P : Platform} {st st' : ReplayState}
    {events : List PlanJournalEvent} (h : replayFrom P st events = .ok st') :
    st.sequence ≤ st'.sequence ∧ ∀ event ∈ events, event.sequence ≤ st'.sequence := by
  induction events generalizing st with
  | nil =>
      cases h
      exact ⟨Nat.le_refl _, fun _ hmem => by simp at hmem⟩
  | cons event events ih =>
      obtain ⟨st₁, hstep, hrest⟩ := except_bind_eq_ok.mp h
      obtain ⟨haccepts, rfl⟩ := replayStep_eq_ok.mp hstep
      obtain ⟨hle, hevents⟩ := ih hrest
      have hsequence : event.sequence = st.sequence + 1 := haccepts.sequence
      have hafter : event.sequence ≤ st'.sequence := hle
      refine ⟨by omega, fun e hmem => ?_⟩
      rcases List.mem_cons.mp hmem with rfl | hmem
      · exact hafter
      · exact hevents e hmem

theorem replayPlanJournal_eq_ok {P : Platform} {events : List PlanJournalEvent}
    {restored : GovernedPlanCheckpoint} :
    replayPlanJournal P events = .ok restored ↔ ∃ last, events.getLast? = some last ∧
      replayFrom P .initial events = .ok (.after last) ∧
      restored = last.checkpoint.bound last.sequence last.eventDigest := by
  unfold replayPlanJournal
  cases hlast : events.getLast? with
  | none => exact iff_of_false (nomatch ·) fun ⟨_, h, _⟩ => nomatch h
  | some last =>
      simp only [except_bind_eq_ok, Option.some.injEq, exists_eq_left']
      constructor
      · rintro ⟨st, hst, hrestored⟩
        rw [replayFrom_eq_ok hlast hst] at hst
        cases hrestored
        exact ⟨hst, rfl⟩
      · rintro ⟨hst, rfl⟩
        exact ⟨_, hst, rfl⟩

/-- Every event of a journal that replays is of one run. -/
theorem replayPlanJournal_root {P : Platform} {events : List PlanJournalEvent}
    {restored : GovernedPlanCheckpoint} (h : replayPlanJournal P events = .ok restored) :
    ∀ event ∈ events, event.rootTaskId = restored.rootTaskId := by
  obtain ⟨last, hlast, hfrom, rfl⟩ := replayPlanJournal_eq_ok.mp h
  have hmem := List.mem_of_getLast? hlast
  obtain ⟨_, hlastAccepts⟩ := replayFrom_accepted hfrom last hmem
  -- all have the identity of the first
  have hone : ∀ event ∈ events, event.identity = last.identity := by
    cases events with
    | nil => cases hmem
    | cons first events =>
        obtain ⟨st₁, hstep, hrest⟩ := except_bind_eq_ok.mp hfrom
        obtain ⟨_, rfl⟩ := replayStep_eq_ok.mp hstep
        have hsame : ∀ event ∈ first :: events, event.identity = first.identity := fun event he => by
          rcases List.mem_cons.mp he with rfl | he
          · rfl
          · exact replayFrom_identity rfl hrest event he
        exact fun event he => (hsame event he).trans (hsame last hmem).symm
  intro event he
  have hidentity := hone event he
  simp only [PlanJournalEvent.identity, Prod.mk.injEq] at hidentity
  exact hidentity.2.2.trans hlastAccepts.checkpoint.2.1.symm

/-- A journal that replays ends in an event with a number and a version. -/
theorem replayPlanJournal_last {P : Platform} {events : List PlanJournalEvent}
    {restored : GovernedPlanCheckpoint} (h : replayPlanJournal P events = .ok restored) :
    ∃ last, events.getLast? = some last ∧
      restored = last.checkpoint.bound last.sequence last.eventDigest ∧
      last.sequence ≠ 0 ∧ last.planVersion ≠ 0 ∧ last.checkpoint.rootTaskId = last.rootTaskId ∧
      TransitionFits last.transition last.checkpoint ∧
      ∀ event ∈ events, event.sequence ≤ last.sequence := by
  obtain ⟨last, hlast, hfrom, hrestored⟩ := replayPlanJournal_eq_ok.mp h
  obtain ⟨before, haccepts⟩ := replayFrom_accepted hfrom last (List.mem_of_getLast? hlast)
  have hsequence := haccepts.sequence
  have hversion := haccepts.checkpoint.2.2.2.1
  have hpositive := last.checkpoint.planVersion_pos
  exact ⟨last, hlast, hrestored, by omega, by omega, haccepts.checkpoint.2.1, haccepts.fits,
    (replayFrom_sequence hfrom).2⟩

/-- Replaying one more event checks it against the last. -/
theorem replay_append {P : Platform} {events : List PlanJournalEvent}
    {last event : PlanJournalEvent} {restored : GovernedPlanCheckpoint}
    (hlast : events.getLast? = some last)
    (hreplay : (replayPlanJournal P events).toOption.isSome) :
    replayPlanJournal P (events ++ [event]) = .ok restored ↔
      ReplayAccepts P (.after last) event ∧
        restored = event.checkpoint.bound event.sequence event.eventDigest := by
  have hfrom : replayFrom P .initial events = .ok (.after last) := by
    cases h : replayPlanJournal P events with
    | error e => rw [h] at hreplay; cases hreplay
    | ok c =>
        obtain ⟨last', hlast', hst, _⟩ := replayPlanJournal_eq_ok.mp h
        cases hlast.symm.trans hlast'
        exact hst
  rw [replayPlanJournal_eq_ok]
  simp only [List.getLast?_concat, Option.some.injEq, exists_eq_left']
  have hstep : replayFrom P .initial (events ++ [event]) = replayStep P (.after last) event := by
    unfold replayFrom at hfrom ⊢
    rw [List.foldlM_append, hfrom]
    show (replayStep P (.after last) event >>= pure) = _
    exact bind_pure _
  rw [hstep, replayStep_eq_ok]
  simp

/-- What an event needs besides what `planEvent` gives it. -/
structure Extends (last : PlanJournalEvent) (checkpoint : GovernedPlanCheckpoint)
    (transition : PlanJournalTransition) (createdAt : DateTime) : Prop where
  /-- The event before it is not terminal. -/
  open_ : last.transition.terminal = false
  /-- It belongs to the same run. -/
  identity : checkpoint.planRunId = last.planRunId ∧
    checkpoint.admissionId = last.checkpoint.admissionId ∧
    checkpoint.rootTaskId = last.rootTaskId
  /-- It keeps the version of the plan. -/
  planVersion : checkpoint.planVersion = last.planVersion
  /-- The clock did not run backwards, and kept its kind of time. -/
  timely : createdAt.lt last.createdAt = .ok false
  /-- The transition leads to a checkpoint of this shape. -/
  fits : TransitionFits transition checkpoint

/-- Where a checkpoint is bound makes no difference to what it extends. -/
theorem Extends.bound_iff {last : PlanJournalEvent} {checkpoint : GovernedPlanCheckpoint}
    {transition : PlanJournalTransition} {createdAt : DateTime} {sequence : Nat} {digest : Digest} :
    Extends last (checkpoint.bound sequence digest) transition createdAt ↔
      Extends last checkpoint transition createdAt := by
  constructor
  · intro h
    exact ⟨h.open_, h.identity, h.planVersion, h.timely, h.fits.state, h.fits.completed,
      h.fits.nonterminal⟩
  · intro h
    exact ⟨h.open_, h.identity, h.planVersion, h.timely, h.fits.state, h.fits.completed,
      h.fits.nonterminal⟩

/-- An event that is built on the last one passes exactly when it extends it. -/
theorem replayAccepts_planEvent {P : Platform} {last : PlanJournalEvent}
    {checkpoint : GovernedPlanCheckpoint} {transition : PlanJournalTransition}
    {authorityDigests : Dict} {reason : String} {createdAt : DateTime}
    (hsequence : checkpoint.journalSequence = last.sequence)
    (hdigest : checkpoint.journalDigest = last.eventDigest)
    (hfirst : last.sequence ≠ 0) (hversion : last.planVersion ≠ 0)
    (hkept : transition ≠ .suffixSuperseded) :
    ReplayAccepts P (.after last)
        (planEvent P checkpoint transition authorityDigests reason createdAt) ↔
      Extends last checkpoint transition createdAt := by
  constructor
  · intro h
    have hidentity := h.identity _ rfl
    simp only [PlanJournalEvent.identity, planEvent, GovernedPlanCheckpoint.bound,
      Prod.mk.injEq] at hidentity
    have hge : last.planVersion ≤ checkpoint.planVersion := h.version.1
    have hle : ¬ last.planVersion < checkpoint.planVersion := fun hlt =>
      hkept (h.superseded ⟨hversion, hlt⟩)
    exact
      { open_ := h.open_
        identity := hidentity
        planVersion := by omega
        timely := h.timely
        fits := ⟨h.fits.state, h.fits.completed, h.fits.nonterminal⟩ }
  · intro h
    obtain ⟨hrun, hadmission, hroot⟩ := h.identity
    exact
      { sequence := by simp [planEvent, ReplayState.after, hsequence]
        admitted := fun h1 => absurd (Nat.succ.inj h1) hfirst
        chain := hdigest
        digest := rfl
        eventId := .inl rfl
        identity := by
          rintro identity ⟨⟩
          simp [PlanJournalEvent.identity, planEvent, GovernedPlanCheckpoint.bound, hrun,
            hadmission, hroot]
        checkpoint := ⟨rfl, rfl, rfl, rfl, rfl, rfl⟩
        version := by
          show last.planVersion ≤ checkpoint.planVersion ∧
            checkpoint.planVersion ≤ last.planVersion + 1
          have hkeep := h.planVersion
          omega
        superseded := fun hlt => by
          have hgrew : last.planVersion < checkpoint.planVersion := hlt.2
          have hkeep := h.planVersion
          omega
        timely := h.timely
        fits := ⟨h.fits.state, h.fits.completed, h.fits.nonterminal⟩
        open_ := h.open_ }

/-- A checkpoint that only moves a run on extends its last event. -/
theorem Extends.of_replay {P : Platform} {events : List PlanJournalEvent} {last : PlanJournalEvent}
    {restored checkpoint : GovernedPlanCheckpoint} {transition : PlanJournalTransition}
    {createdAt : DateTime} (hlast : events.getLast? = some last)
    (hreplay : replayPlanJournal P events = .ok restored)
    (hrun : checkpoint.planRunId = restored.planRunId)
    (hadmission : checkpoint.admissionId = restored.admissionId)
    (hroot : checkpoint.rootTaskId = restored.rootTaskId)
    (hversion : checkpoint.planVersion = restored.planVersion)
    (hopen : last.transition.terminal = false) (htimely : createdAt.lt last.createdAt = .ok false)
    (hfits : TransitionFits transition checkpoint) :
    Extends last checkpoint transition createdAt := by
  obtain ⟨last', hlast', hfrom, rfl⟩ := replayPlanJournal_eq_ok.mp hreplay
  cases hlast.symm.trans hlast'
  obtain ⟨_, haccepts⟩ := replayFrom_accepted hfrom last (List.mem_of_getLast? hlast)
  obtain ⟨hlastRun, hlastRoot, _, hlastVersion, _⟩ := haccepts.checkpoint
  exact ⟨hopen, ⟨hrun.trans hlastRun, hadmission, hroot.trans hlastRoot⟩,
    hversion.trans hlastVersion, htimely, hfits⟩

/-- The last event of a replayed journal led to the state the journal is in. -/
theorem replayed_state {P : Platform} {events : List PlanJournalEvent} {last : PlanJournalEvent}
    {restored : GovernedPlanCheckpoint} (hlast : events.getLast? = some last)
    (hreplay : replayPlanJournal P events = .ok restored) :
    restored.state ∈ last.transition.expectedStates := by
  obtain ⟨last', hlast', rfl, _, _, _, hfits, _⟩ := replayPlanJournal_last hreplay
  cases hlast.symm.trans hlast'
  exact hfits.state

end AgentPact
