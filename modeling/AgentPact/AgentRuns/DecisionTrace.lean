import AgentPact.Agent.PlannerObservation
import AgentPact.AgentRuns.ProbeRecovery
import AgentPact.AgentRuns.Terminal

/-!
# The decision trace of a run

`_timeline_event`, `_decision_trace` and the methods `decision_trace` and `report` of
`agent_runs/service.py`.

The trace is read off the projection, the transitions of the journal and the
observation of the planner, which is the one part of the admission bundle that
nothing else of the service reads.  It is given here by the id of the admission.

Two lookups are not total: the status of the execution has no entry for a paused
run, and the recovery is told by the two transitions of a probe only, although a
plan whose last step was blocked is completed by a third.
-/

namespace AgentPact

open Base Transaction

/-! ## Public values -/

/-- The text of a state. -/
def AgentRunState.value : AgentRunState → String
  | .planning => "PLANNING"
  | .awaitingApproval => "AWAITING_APPROVAL"
  | .awaitingInput => "AWAITING_INPUT"
  | .needsHuman => "NEEDS_HUMAN"
  | .running => "RUNNING"
  | .unknown => "UNKNOWN"
  | .succeeded => "SUCCEEDED"
  | .rejected => "REJECTED"
  | .cancelled => "CANCELLED"
  | .failed => "FAILED"

/-- An event as the user sees it. -/
structure AgentRunTimelineEvent where
  sequence : Nat
  stage : String
  state : AgentRunState
  reasonCode : Option String
deriving DecidableEq

/-- The stages of a trace. -/
inductive DecisionTraceStageName where
  | provider | validation | compilation | admission | approval | execution | recovery
deriving DecidableEq, Repr

/-- The text of a stage. -/
def DecisionTraceStageName.value : DecisionTraceStageName → String
  | .provider => "provider"
  | .validation => "validation"
  | .compilation => "compilation"
  | .admission => "admission"
  | .approval => "approval"
  | .execution => "execution"
  | .recovery => "recovery"

/-- How far a stage is. -/
inductive DecisionTraceStatus where
  | notRecorded | pending | active | completed | blocked | failed
deriving DecidableEq, Repr

/-- The text of a status. -/
def DecisionTraceStatus.value : DecisionTraceStatus → String
  | .notRecorded => "not_recorded"
  | .pending => "pending"
  | .active => "active"
  | .completed => "completed"
  | .blocked => "blocked"
  | .failed => "failed"

/-- What a stage carries of the planner. -/
structure PlannerFigures where
  durationMs : Option Rat := none
  providerCalls : Option Nat := none
  repairCount : Option Nat := none
  usage : PlannerUsage := ⟨none, none, none⟩

/-- The bounds of the figures. -/
structure PlannerFigures.Bounded (f : PlannerFigures) : Prop where
  durationMs : DurationBound f.durationMs
  providerCalls : ∀ n ∈ f.providerCalls, n ≤ 2
  repairCount : ∀ n ∈ f.repairCount, n ≤ 1

/-- A stage of a trace. -/
structure AgentRunDecisionTraceStage where
  stage : DecisionTraceStageName
  status : DecisionTraceStatus
  reasonCode : Option String
  timestamp : Option DateTime
  figures : PlannerFigures
  bounded : figures.Bounded

/-- A trace. -/
structure AgentRunDecisionTrace where
  runId : String
  stages : List AgentRunDecisionTraceStage
  seven : stages.length = 7

/-- A report. -/
structure AgentRunReport where
  projection : AgentRunProjection
  events : List AgentRunTimelineEvent
  decisionTrace : AgentRunDecisionTrace
  reportDigest : Digest

/-! ## The timeline -/

/-- The state an event leads to. -/
def PlanJournalTransition.timelineState : PlanJournalTransition → AgentRunState
  | .admitted => .planning
  | .approvalRequired => .awaitingApproval
  | .approvalResumed => .running
  | .approvalRejected => .rejected
  | .runCancelled => .cancelled
  | .probeBlocked => .unknown
  | .planCompleted => .succeeded
  | _ => .running

/-- Why. -/
def PlanJournalTransition.timelineReason : PlanJournalTransition → Option String
  | .probeBlocked => some "RESULT_UNCERTAIN"
  | .approvalRejected => some "APPROVAL_REJECTED"
  | .runCancelled => some "RUN_CANCELLED"
  | .reauthorizationRequired => some "REAUTHORIZATION_REQUIRED"
  | _ => none

/-- `_timeline_event`. -/
def timelineEvent (e : PlanJournalEvent) : AgentRunTimelineEvent :=
  ⟨e.sequence, e.transition.value, e.transition.timelineState, e.transition.timelineReason⟩

/-! ## The stages -/

/-- Whether a transition is among those of some events. -/
def seen (events : List PlanJournalEvent) (transition : PlanJournalTransition) : Bool :=
  events.any fun e => e.transition = transition

/-- `next(item for item in reversed(events) if ...)`, which raises where there is none. -/
def lastWith (events : List PlanJournalEvent) (transition : PlanJournalTransition) :
    Except Raised PlanJournalEvent :=
  orRaise (events.reverse.find? fun e => e.transition = transition)
    ⟨.runtimeError, "coroutine raised StopIteration"⟩

/-- A stage without figures. -/
def plainStage (stage : DecisionTraceStageName) (status : DecisionTraceStatus) (reason : String)
    (timestamp : Option DateTime) : AgentRunDecisionTraceStage where
  stage := stage
  status := status
  reasonCode := some reason
  timestamp := timestamp
  figures := {}
  bounded := ⟨by simp [DurationBound], by simp, by simp⟩

namespace PlannerObservation

variable (o : PlannerObservation)

/-- Whether the output of the planner passed. -/
def status : DecisionTraceStatus := if o.disposition = .rejected then .failed else .completed

/-- `codes[0] if codes else disposition.upper()`. -/
def reason : String := o.codes.head?.getD o.disposition.upper

/-- The stage of the provider. -/
def providerStage : AgentRunDecisionTraceStage where
  stage := .provider
  status := o.status
  reasonCode := some o.reason
  timestamp := none
  figures := ⟨o.providerDurationMs, some o.providerCalls, some o.repairCount,
    o.usage.getD ⟨none, none, none⟩⟩
  bounded := ⟨o.providerDurationMs_bound, by simpa using o.providerCalls_le,
    by simpa using o.repairCount_le⟩

/-- The stage of the validation. -/
def validationStage : AgentRunDecisionTraceStage where
  stage := .validation
  status := o.status
  reasonCode := some o.reason
  timestamp := none
  figures := ⟨o.durationMs, some o.providerCalls, some o.repairCount, ⟨none, none, none⟩⟩
  bounded := ⟨o.durationMs_bound, by simpa using o.providerCalls_le,
    by simpa using o.repairCount_le⟩

end PlannerObservation

/-- The two stages of the planner. -/
def plannerStages : Option PlannerObservation → List AgentRunDecisionTraceStage
  | none => [plainStage .provider .notRecorded "PLANNER_OBSERVATION_NOT_RECORDED" none,
      plainStage .validation .notRecorded "PLANNER_OBSERVATION_NOT_RECORDED" none]
  | some o => [o.providerStage, o.validationStage]

/-- The stage of the approval. -/
def approvalStage (events : List PlanJournalEvent) : AgentRunDecisionTraceStage :=
  let timestamp := (events.reverse.find? fun e =>
    e.transition ∈ [.approvalRequired, .approvalResumed, .approvalRejected]).map (·.createdAt.asUtc)
  if seen events .approvalRejected then
    plainStage .approval .failed "APPROVAL_REJECTED" timestamp
  else if seen events .approvalResumed then
    plainStage .approval .completed "APPROVAL_RESUMED" timestamp
  else if seen events .approvalRequired then
    plainStage .approval .active "APPROVAL_REQUIRED" timestamp
  else plainStage .approval .pending "APPROVAL_NOT_REACHED" timestamp

/-- The dictionary of the statuses of the execution, which has no entry for a paused run. -/
def executionStatus : AgentRunState → Except Raised DecisionTraceStatus
  | .planning => .ok .pending
  | .awaitingApproval => .ok .pending
  | .running => .ok .active
  | .unknown => .ok .blocked
  | .succeeded => .ok .completed
  | .rejected => .ok .failed
  | .cancelled => .ok .failed
  | .failed => .ok .failed
  | .awaitingInput => .error ⟨.keyError, AgentRunState.awaitingInput.value⟩
  | .needsHuman => .error ⟨.keyError, AgentRunState.needsHuman.value⟩

/-- `projection.reason_code or projection.state.value`. -/
def executionReason (view : RunView) : String :=
  match view.reasonCode with
  | some code => if code = "" then view.state.value else code
  | none => view.state.value

/-- The stage of the recovery. -/
def recoveryStage (events : List PlanJournalEvent) : Except Raised AgentRunDecisionTraceStage :=
  if seen events .probeBlocked = false then
    .ok (plainStage .recovery .pending "RECOVERY_NOT_REQUIRED" none)
  else if seen events .probeResolved then do
    let resolved ← lastWith events .probeResolved
    pure (plainStage .recovery .completed "PROBE_RESOLVED" (some resolved.createdAt.asUtc))
  else do
    let blocked ← lastWith events .probeBlocked
    pure (plainStage .recovery .blocked "PROBE_REQUIRED" (some blocked.createdAt.asUtc))

theorem plannerStages_length (observation : Option PlannerObservation) :
    (plannerStages observation).length = 2 := by
  cases observation <;> rfl

/-- `_decision_trace`. -/
def decisionTrace (observation : Option PlannerObservation) (locked : LockedRun)
    (p : AgentRunProjection) : Except Raised AgentRunDecisionTrace := do
  let first ← orRaise locked.events.head? ⟨.lookupError, "tuple index out of range"⟩
  let status ← executionStatus p.view.state
  let recovery ← recoveryStage locked.events
  let admittedAt := some first.createdAt.asUtc
  pure
    { runId := p.runId
      stages := plannerStages observation ++
        [plainStage .compilation .completed "TRUSTED_COMPILATION_ACCEPTED" admittedAt,
          plainStage .admission .completed "ADMITTED" admittedAt,
          approvalStage locked.events,
          plainStage .execution status (executionReason p.view)
            (some locked.latest.createdAt.asUtc),
          recovery]
      seven := by rw [List.length_append, plannerStages_length]; rfl }

/-! ## The report -/

/-- The text of an action. -/
def AgentRunAction.value : AgentRunAction → String
  | .approve => "approve"
  | .reject => "reject"
  | .probe => "probe"
  | .cancel => "cancel"
  | .submitInput => "submit_input"
  | .resume => "resume"
  | .takeOver => "take_over"

/-- The text of the state of a step. -/
def AgentRunPlanStepState.value : AgentRunPlanStepState → String
  | .pending => "pending"
  | .active => "active"
  | .completed => "completed"
  | .blocked => "blocked"
  | .terminal => "terminal"

/-- `model_dump(mode="json")` of a step. -/
def AgentRunPlanStep.modelDump (s : AgentRunPlanStep) : Json :=
  .obj [("sequence", .num s.sequence), ("role", .str s.role), ("state", .str s.state.value)]

/-- `model_dump(mode="json")` of a projection. -/
def AgentRunProjection.modelDump (P : Platform) (p : AgentRunProjection) : Json :=
  .obj [("run_id", .str p.runId), ("pack_id", .str p.packId), ("pack_version", .str p.packVersion),
    ("pack_display_name", .str p.packDisplayName), ("provider_mode", .str p.providerMode),
    ("state", .str p.view.state.value),
    ("legal_actions", .arr (p.view.legalActions.map fun a => .str a.value)),
    ("plan", .arr (p.plan.map AgentRunPlanStep.modelDump)),
    ("completed_steps", .num p.completedSteps), ("total_steps", .num p.totalSteps),
    ("reason_code", .ofOption .str p.view.reasonCode),
    ("pause_signal", .ofOption (·.modelDump P) p.view.pauseSignal)]

/-- `model_dump(mode="json")` of an event. -/
def AgentRunTimelineEvent.modelDump (e : AgentRunTimelineEvent) : Json :=
  .obj [("sequence", .num e.sequence), ("stage", .str e.stage), ("state", .str e.state.value),
    ("reason_code", .ofOption .str e.reasonCode)]

/-- `model_dump(mode="json")` of a stage. -/
def AgentRunDecisionTraceStage.modelDump (P : Platform) (s : AgentRunDecisionTraceStage) : Json :=
  let count : Option Nat → Json := .ofOption fun n => .num n
  .obj [("stage", .str s.stage.value), ("status", .str s.status.value),
    ("reason_code", .ofOption .str s.reasonCode),
    ("timestamp", .ofOption (fun t => .str (P.isoformat t)) s.timestamp),
    ("duration_ms", .ofOption .real s.figures.durationMs),
    ("provider_calls", count s.figures.providerCalls),
    ("repair_count", count s.figures.repairCount),
    ("prompt_tokens", count s.figures.usage.promptTokens),
    ("completion_tokens", count s.figures.usage.completionTokens),
    ("total_tokens", count s.figures.usage.totalTokens)]

/-- `model_dump(mode="json")` of a trace. -/
def AgentRunDecisionTrace.modelDump (P : Platform) (t : AgentRunDecisionTrace) : Json :=
  .obj [("schema_version", .str "agentpact-agent-run-decision-trace/v1"), ("run_id", .str t.runId),
    ("non_authoritative", .bool true), ("stages", .arr (t.stages.map (·.modelDump P)))]

section Service

variable (P : Platform) (E : Environment) (user : UserContext) (runId : String)
  (observations : String → Option PlannerObservation) (db : Database)

/-- `AgentRunService.events`. -/
def getEvents : Except Raised (List AgentRunTimelineEvent) := do
  let locked ← loadLocked P db user runId
  let _ ← projectLocked P E db locked
  pure (locked.events.map timelineEvent)

/-- `AgentRunService.decision_trace`. -/
def getDecisionTrace : Except Raised AgentRunDecisionTrace := do
  let locked ← loadLocked P db user runId
  let p ← projectLocked P E db locked
  decisionTrace (observations locked.bundle.admissionId) locked p

/-- `AgentRunService.report`. -/
def getReport : Except Raised AgentRunReport := do
  let locked ← loadLocked P db user runId
  let p ← projectLocked P E db locked
  let events := locked.events.map timelineEvent
  let trace ← decisionTrace (observations locked.bundle.admissionId) locked p
  pure
    { projection := p
      events := events
      decisionTrace := trace
      reportDigest := P.digest (.obj [("schema_version", .str "agentpact-agent-run-report/v2"),
        ("projection", p.modelDump P), ("events", .arr (events.map (·.modelDump))),
        ("decision_trace", trace.modelDump P)]) }

end Service

/-! ## What a trace should say -/

/-- The events after the last that blocks a step. -/
def afterLastBlock (events : List PlanJournalEvent) : List PlanJournalEvent :=
  (events.reverse.takeWhile fun e => e.transition ≠ .probeBlocked).reverse

/-- A step was blocked, and after it was blocked for the last time neither its probe was resolved
nor the plan completed. -/
structure Unresolved (events : List PlanJournalEvent) : Prop where
  blocked : seen events .probeBlocked = true
  unresolved : seen (afterLastBlock events) .probeResolved = false
  uncompleted : seen (afterLastBlock events) .planCompleted = false

/-- The seven stages, with a recovery that is blocked only while the last block is unresolved. -/
structure Traces (events : List PlanJournalEvent) (trace : AgentRunDecisionTrace) : Prop where
  stages : trace.stages.map (·.stage) =
    [.provider, .validation, .compilation, .admission, .approval, .execution, .recovery]
  recovery : ∀ s ∈ trace.stages, s.stage = .recovery → s.status = .blocked → Unresolved events

/-- The run is paused at its checkpoint. -/
def PausedHere (P : Platform) (db : Database) (locked : LockedRun) : Prop :=
  ∃ signal, db.getPauseSignal locked.checkpoint.rootTaskId locked.root.organizationId =
      some (P.digest locked.checkpoint.modelDump, signal) ∧
    signal.runId = locked.checkpoint.rootTaskId

/-- A step was blocked, no probe was resolved, and the plan is completed. -/
def CompletedBlocked (events : List PlanJournalEvent) : Prop :=
  seen events .probeBlocked = true ∧ seen events .probeResolved = false ∧
    seen (afterLastBlock events) .planCompleted = true

/-! ## When it does -/

theorem seen_eq_false {events : List PlanJournalEvent} {transition : PlanJournalTransition} :
    seen events transition = false ↔ ∀ e ∈ events, e.transition ≠ transition := by
  simp [seen]

theorem seen_eq_true {events : List PlanJournalEvent} {transition : PlanJournalTransition} :
    seen events transition = true ↔ ∃ e ∈ events, e.transition = transition := by
  simp [seen]

theorem seen_afterLastBlock {events : List PlanJournalEvent} {transition : PlanJournalTransition}
    (h : seen events transition = false) : seen (afterLastBlock events) transition = false := by
  rw [seen_eq_false] at h ⊢
  intro e he
  have hmem := (List.takeWhile_subset _) (List.mem_reverse.mp he)
  exact h e (List.mem_reverse.mp hmem)

theorem lastWith_of_seen {events : List PlanJournalEvent} {transition : PlanJournalTransition}
    (h : seen events transition = true) : ∃ e, lastWith events transition = .ok e := by
  obtain ⟨e, he, htransition⟩ := seen_eq_true.mp h
  have hsome : (events.reverse.find? fun e => e.transition = transition).isSome := by
    rw [List.find?_isSome]
    exact ⟨e, List.mem_reverse.mpr he, by simpa using htransition⟩
  obtain ⟨found, hfound⟩ := Option.isSome_iff_exists.mp hsome
  exact ⟨found, orRaise_eq_ok.mpr hfound⟩

/-- The recovery has a stage, which is blocked if a step was blocked and no probe resolved. -/
theorem recoveryStage_ok (events : List PlanJournalEvent) :
    ∃ s, recoveryStage events = .ok s ∧ s.stage = .recovery ∧
      (s.status = .blocked ↔
        seen events .probeBlocked = true ∧ seen events .probeResolved = false) := by
  unfold recoveryStage
  split
  case isTrue hnever => exact ⟨_, rfl, rfl, by simp [plainStage, hnever]⟩
  case isFalse hblocked =>
    rw [Bool.not_eq_false] at hblocked
    split
    case isTrue hresolved =>
      obtain ⟨e, he⟩ := lastWith_of_seen hresolved
      exact ⟨_, except_bind_of_ok he rfl, rfl, by simp [plainStage, hresolved]⟩
    case isFalse hunresolved =>
      rw [Bool.not_eq_true] at hunresolved
      obtain ⟨e, he⟩ := lastWith_of_seen hblocked
      exact ⟨_, except_bind_of_ok he rfl, rfl, by simp [plainStage, hblocked, hunresolved]⟩

/-- The dictionary has an entry for every state but that of a pause. -/
theorem executionStatus_ok {state : AgentRunState} :
    (∃ status, executionStatus state = .ok status) ↔
      state ≠ .awaitingInput ∧ state ≠ .needsHuman := by
  cases state <;> simp [executionStatus]

/-- A view is that of a pause exactly when the run is paused at its checkpoint. -/
theorem view_paused_iff {P : Platform} {db : Database} {locked : LockedRun} {view : RunView}
    (h : viewLocked P db locked = .ok view) :
    (view.state = .awaitingInput ∨ view.state = .needsHuman) ↔ PausedHere P db locked := by
  constructor
  · intro hstate
    cases viewLocked_viewed h with
    | conflict => rcases hstate with hstate | hstate <;> cases hstate
    | paused hpause hrun => exact ⟨_, hpause, hrun⟩
    | succeeded => rcases hstate with hstate | hstate <;> cases hstate
    | active _ _ _ hview =>
        cases hview <;> rcases hstate with hstate | hstate <;> cases hstate
  · rintro ⟨signal, hpause, hrun⟩
    have hview : view = signal.view := by
      simpa [viewLocked, hpause, hrun, RunView.orConflict] using h.symm
    rw [hview]
    cases houtcome : signal.outcome <;> simp [RunPauseSignal.view, houtcome]

theorem approvalStage_stage (events : List PlanJournalEvent) :
    (approvalStage events).stage = .approval := by
  unfold approvalStage
  split
  · rfl
  split
  · rfl
  split <;> rfl

theorem plannerStages_stage (observation : Option PlannerObservation) :
    (plannerStages observation).map (·.stage) = [.provider, .validation] := by
  cases observation <;> rfl

/-- A trace is made exactly when the run is not paused, and its recovery is that of the journal. -/
theorem decisionTrace_ok_iff {observation : Option PlannerObservation} {locked : LockedRun}
    {p : AgentRunProjection} (hevents : locked.events ≠ []) :
    (∃ trace, decisionTrace observation locked p = .ok trace) ↔
      p.view.state ≠ .awaitingInput ∧ p.view.state ≠ .needsHuman := by
  rw [← executionStatus_ok]
  obtain ⟨first, rest, hcons⟩ := List.exists_cons_of_ne_nil hevents
  have hfirst : locked.events.head? = some first := by rw [hcons]; rfl
  obtain ⟨recovery, hrecovery, _⟩ := recoveryStage_ok locked.events
  constructor
  · rintro ⟨trace, htrace⟩
    simp only [decisionTrace, except_bind_eq_ok] at htrace
    obtain ⟨_, _, status, hstatus, _⟩ := htrace
    exact ⟨status, hstatus⟩
  · rintro ⟨status, hstatus⟩
    exact ⟨_, except_bind_of_ok (orRaise_eq_ok.mpr hfirst)
      (except_bind_of_ok hstatus (except_bind_of_ok hrecovery rfl))⟩

theorem decisionTrace_traces_iff {observation : Option PlannerObservation} {locked : LockedRun}
    {p : AgentRunProjection} {trace : AgentRunDecisionTrace}
    (h : decisionTrace observation locked p = .ok trace) :
    Traces locked.events trace ↔ ¬ CompletedBlocked locked.events := by
  obtain ⟨recovery, hrecovery, hstage, hblocked⟩ := recoveryStage_ok locked.events
  simp only [decisionTrace, except_bind_eq_ok] at h
  obtain ⟨first, _, status, _, found, hfound, hpure⟩ := h
  have hsame : found = recovery := Except.ok.inj (hfound.symm.trans hrecovery)
  subst hsame
  cases hpure
  constructor
  · rintro ⟨_, hunresolved⟩ ⟨hseen, hnone, hcompleted⟩
    have hmem := hunresolved found (by simp) hstage (hblocked.mpr ⟨hseen, hnone⟩)
    rw [hmem.uncompleted] at hcompleted
    cases hcompleted
  · intro hcompleted
    refine ⟨?_, fun s hs hrec hstatus => ?_⟩
    · rw [List.map_append, plannerStages_stage]
      simp [plainStage, approvalStage_stage, hstage]
    · have hfound : s = found := by
        simp only [List.mem_append, List.mem_cons, List.not_mem_nil, or_false] at hs
        rcases hs with hs | rfl | rfl | rfl | rfl | rfl
        · have hname := List.mem_map_of_mem (f := (·.stage)) hs
          rw [plannerStages_stage, hrec] at hname
          simp at hname
        · cases hrec
        · cases hrec
        · rw [approvalStage_stage] at hrec
          cases hrec
        · cases hrec
        · rfl
      subst hfound
      obtain ⟨hseen, hnone⟩ := hblocked.mp hstatus
      refine ⟨hseen, seen_afterLastBlock hnone, ?_⟩
      by_contra hmore
      exact hcompleted ⟨hseen, hnone, by simpa using hmore⟩

/-- Of a run that can be projected there are a trace and a report, and both trace it, exactly when
it is not paused at its checkpoint and was not completed while it was blocked. -/
theorem decisionTrace_total_iff {P : Platform} {E : Environment} {user : UserContext}
    {runId : String} {observations : String → Option PlannerObservation} {db : Database}
    {p : AgentRunProjection} {locked : LockedRun} (h : getRun P E user runId db = .ok p)
    (hload : LoadedFrom P db user.orgId runId locked) :
    ((∃ trace, getDecisionTrace P E user runId observations db = .ok trace ∧
        Traces (db.loadEvents runId) trace) ∧
      ∃ report, getReport P E user runId observations db = .ok report ∧
        Traces (db.loadEvents runId) report.decisionTrace) ↔
      ¬ PausedHere P db locked ∧ ¬ CompletedBlocked (db.loadEvents runId) := by
  obtain ⟨loaded, hloaded, hproject⟩ := except_bind_eq_ok.mp h
  have hsame : loaded = locked := (loadLocked_eq_ok.mp hloaded).unique hload
  subst hsame
  have hview := (projectLocked_eq_ok hproject).1
  have hevents : loaded.events ≠ [] := by
    intro hnil
    have hlatest := hload.latest
    rw [← hload.events, hnil] at hlatest
    cases hlatest
  have hpaused : PausedHere P db loaded ↔
      ¬ (p.view.state ≠ .awaitingInput ∧ p.view.state ≠ .needsHuman) := by
    rw [← view_paused_iff hview]
    tauto
  have htraced : (∃ trace, decisionTrace (observations loaded.bundle.admissionId) loaded p =
      .ok trace) ↔ p.view.state ≠ .awaitingInput ∧ p.view.state ≠ .needsHuman :=
    decisionTrace_ok_iff hevents
  rw [hpaused, not_not, ← htraced, ← hload.events]
  constructor
  · rintro ⟨⟨trace, htrace, htraces⟩, _⟩
    obtain ⟨loaded', hloaded', htrace⟩ := except_bind_eq_ok.mp htrace
    cases hloaded.symm.trans hloaded'
    obtain ⟨p', hproject', htrace⟩ := except_bind_eq_ok.mp htrace
    cases hproject.symm.trans hproject'
    exact ⟨⟨trace, htrace⟩, (decisionTrace_traces_iff htrace).mp htraces⟩
  · rintro ⟨⟨trace, htrace⟩, hcompleted⟩
    have htraces := (decisionTrace_traces_iff htrace).mpr hcompleted
    exact ⟨⟨trace, except_bind_of_ok hloaded (except_bind_of_ok hproject htrace), htraces⟩,
      _, except_bind_of_ok hloaded (except_bind_of_ok hproject (except_bind_of_ok htrace rfl)),
      htraces⟩

section Run

/-- No observation of the planner is recorded. -/
def noObservation : String → Option PlannerObservation := fun _ => none

/-- Of a cancelled run there is a trace. -/
theorem decisionTrace_total_iff_sample :
    ∃ trace, getDecisionTrace samplePlatform (sampleEnvironment idleAdapter (.utc 20)) sampleUser
      sampleRunId noObservation cancelledDatabase = .ok trace ∧
        Traces (cancelledDatabase.loadEvents sampleRunId) trace := by
  have hran : (sampleView (.utc 20) cancelledDatabase).map (·.state) = some .cancelled ∧
      seen (cancelledDatabase.loadEvents sampleRunId) .probeBlocked = false := by decide +kernel
  obtain ⟨hview, hseen⟩ := hran
  obtain ⟨view, hview, hstate⟩ := Option.map_eq_some_iff.mp hview
  obtain ⟨p, hget, rfl⟩ := sampleView_eq_some.mp hview
  obtain ⟨locked, hload, hlocked⟩ := getRun_eq_ok hget
  have hrunning : ¬ PausedHere samplePlatform cancelledDatabase locked := by
    rw [← view_paused_iff hlocked, hstate]
    simp
  have hunblocked : ¬ CompletedBlocked (cancelledDatabase.loadEvents sampleRunId) := by
    rintro ⟨hblocked, _⟩
    rw [hseen] at hblocked
    cases hblocked
  exact ((decisionTrace_total_iff hget hload).mpr ⟨hrunning, hunblocked⟩).1

/-- The blocked run after its probe was confirmed. -/
def probedDatabase : Database :=
  afterCall ⟨probingEnvironment .confirmed, sampleUser, .probe ⟨"probe", none⟩⟩ blockedDatabase

/-- A run that waits for a human has no trace, and of a run that succeeded after a block the
recovery stays blocked. -/
theorem trace_fails :
    (sampleView (.utc 20) pausedDatabase).map (·.state) = some .needsHuman ∧
      (getDecisionTrace samplePlatform (sampleEnvironment idleAdapter (.utc 20)) sampleUser
        sampleRunId noObservation pausedDatabase).toOption.isNone ∧
      (sampleView (.utc 20) probedDatabase).map (·.state) = some .succeeded ∧
      (probedDatabase.loadEvents sampleRunId).getLast?.map (·.transition) = some .planCompleted ∧
      (getDecisionTrace samplePlatform (sampleEnvironment idleAdapter (.utc 20)) sampleUser
        sampleRunId noObservation probedDatabase).toOption.map (fun trace =>
          trace.stages.getLast?.map fun s => (s.stage, s.status)) =
            some (some (.recovery, .blocked)) := by decide +kernel

end Run

end AgentPact
