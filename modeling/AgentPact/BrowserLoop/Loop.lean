import AgentPact.Base.Dialogue
import AgentPact.BrowserLoop.Contracts

/-!
# The browser loop

`browser_loop/loop.py`: observe, decide, ask the policy, act, verify.

The loop is a session with its ports.  A port call is a question, and a port
may answer it with a result or with an exception, whatever it was asked before.
Reading the clock is a question too, and always answered.

`run` is the whole of it.  One iteration is cut where the source has its
comments and its long branches: `confirmSuccess` is the branch of a success
decision, `actOn` goes from the policy to the call of the runtime, and `settle`
from there to the verdict.  Each returns `Progress`, which is either the report
of the run or the observation for the next iteration.
-/

namespace AgentPact

open Base Session

/-! ## Ports -/

/-- What a port raises. -/
inductive PortError where
  /-- `StaleObservationError`. -/
  | stale
  /-- `BrowserRuntimeError`. -/
  | runtime (effectMayHaveStarted : Bool)
  /-- Any other exception. -/
  | other (error : Raised)
deriving DecidableEq, Repr

/-- `exc.effect_may_have_started` of a `BrowserRuntimeError`, and `True` for what is none. -/
def PortError.effectMayHaveStarted : PortError → Bool
  | .stale => false
  | .runtime started => started
  | .other _ => true

/-- The input of a run. -/
structure BrowserLoopRunContext where
  runId : String
  taskId : String
  stepId : String
  goal : String
  packId : Option String
  packVersion : Option String
  capabilityId : Option String
deriving DecidableEq, Repr

/-- The payload the policy approves for a model. -/
structure ModelInput where
  observationId : String
  goal : String
  url : String
  dom : String
deriving DecidableEq, Repr

/-- What a verifier is asked. -/
structure VerificationRequest where
  run : BrowserLoopRunContext
  before : BrowserObservation
  after : BrowserObservation
  decision : ActionDecision
  source : DecisionSource
  actionResult : Option BrowserActionResult
  authorizedEffect : Option ExecutionEffect
deriving DecidableEq

/-- The stage of an event. -/
inductive EventStage where
  | observation | decision | policy | action | verification | terminal
deriving DecidableEq, Repr

/-- A redacted event. -/
structure BrowserLoopEvent where
  sequence : Nat
  runId : String
  taskId : String
  stepId : String
  stage : EventStage
  code : String
  occurredAt : DateTime
  observationId : Option String
  actionFingerprint : Option String
  details : List (String × Json)

/-- A call of a port. -/
inductive PortCall where
  | observe
  | domainDecide (observation : BrowserObservation)
  | prepareModelInput (observation : BrowserObservation)
  | decide (input : ModelInput)
  | authorizeAction (observation : BrowserObservation) (action : BrowserAction)
      (actionFingerprint : String)
  | execute (command : AuthorizedAction)
  | verify (request : VerificationRequest)
  | emit (event : BrowserLoopEvent)
  | now

/-- What a port answers. -/
@[reducible] def PortCall.Answer : PortCall → Type
  | .observe => Except PortError RawBrowserObservation
  | .domainDecide _ => Except PortError (Option ActionDecision)
  | .prepareModelInput _ => Except PortError ModelInput
  | .decide _ => Except PortError ActionDecision
  | .authorizeAction _ _ _ => Except PortError PolicyAuthorization
  | .execute _ => Except PortError BrowserActionResult
  | .verify _ => Except PortError VerificationResult
  | .emit _ => Except PortError Unit
  | .now => DateTime

/-! ## The run state and the report -/

/-- The status of a report. -/
inductive BrowserLoopStatus where
  | succeeded | failed | unknown | awaitingApproval
deriving DecidableEq, Repr

/-- The text of a status. -/
def BrowserLoopStatus.value : BrowserLoopStatus → String
  | .succeeded => "SUCCEEDED"
  | .failed => "FAILED"
  | .unknown => "UNKNOWN"
  | .awaitingApproval => "AWAITING_APPROVAL"

/-- `_RunState`. -/
structure RunState where
  iterations : Nat
  retriesUsed : Nat
  observations : Nat
  actionsExecuted : Nat
  lastObservationId : Option String
  lastEffect : ExecutionEffect
  effectMayHaveStarted : Bool
  events : List BrowserLoopEvent

/-- The state a run begins with. -/
def RunState.initial : RunState := ⟨0, 0, 0, 0, none, .none, false, []⟩

/-- The result of a run. -/
structure BrowserLoopReport where
  runId : String
  taskId : String
  stepId : String
  status : BrowserLoopStatus
  reasonCode : String
  iterations : Nat
  retriesUsed : Nat
  observations : Nat
  actionsExecuted : Nat
  lastObservationId : Option String
  approvalRef : Option String
  executionCheckpoint : Option ExecutionCheckpoint
  events : List BrowserLoopEvent

/-- The limits of a run. -/
structure BrowserLoopConfig where
  maxIterations : Nat
  maxRetries : Nat
  maxObservationAgeSeconds : Rat
  /-- The bounds of the three fields. -/
  bounds : (1 ≤ maxIterations ∧ maxIterations ≤ 200) ∧ maxRetries ≤ 20 ∧
    0 < maxObservationAgeSeconds ∧ maxObservationAgeSeconds ≤ 300

/-- The binding of a Domain Pack, as far as the loop compares it. -/
structure PackBinding where
  packId : String
  packVersion : String
  capabilityIds : List String

/-- `AgentPactBrowserLoop`, without its ports. -/
structure BrowserLoop where
  platform : Platform
  integritySecret : String
  /-- The binding of the Domain Pack action provider, if there is one. -/
  domainBinding : Option PackBinding
  config : BrowserLoopConfig
  /-- The constructor refuses an empty secret. -/
  secret_ne : integritySecret ≠ ""

/-- A program of the loop. -/
abbrev Loop (α : Type) := Session PortCall.Answer RunState PortError α

/-! ## Fingerprints -/

/-- `observation_hash` with a secret. -/
def observationHash (P : Platform) (url html secret : String) : String :=
  P.hmac secret (url ++ "\n" ++ html)

/-- `action_fingerprint`. -/
def actionFingerprint (P : Platform) (taskId stepId : String) (actionPayload : Json)
    (observationHash secret : String) : String :=
  P.hmac secret (P.dumps (.obj
    [("schema", .str "phase2-action-fingerprint-v1"), ("task_id", .str taskId),
      ("step_id", .str stepId), ("observation_hash", .str observationHash),
      ("action", actionPayload)]))

namespace BrowserLoop

variable (L : BrowserLoop) (run : BrowserLoopRunContext)

/-- The fingerprint of an action on an observation. -/
def fingerprint (action : BrowserAction) (observation : BrowserObservation) : String :=
  actionFingerprint L.platform run.taskId run.stepId action.modelDump observation.observationId
    L.integritySecret

/-- `_bind_observation`. -/
def bindObservation (raw : RawBrowserObservation) (sequence : Nat) : BrowserObservation where
  observationId := observationHash L.platform raw.url raw.pageHtml L.integritySecret
  snapshotHash := L.platform.sha256 (raw.url ++ "\n" ++ raw.pageHtml)
  sequence := sequence
  url := raw.url
  title := raw.title
  modelDom := raw.modelDom
  capturedAt := raw.capturedAt.asUtc

/-! ## Events and reports -/

/-- `_emit`. -/
def emit (stage : EventStage) (code : String) (observationId actionFingerprint : Option String)
    (details : List (String × Json)) : Loop Unit := do
  let occurredAt : DateTime ← ask PortCall.now
  let s ← state
  let event : BrowserLoopEvent :=
    { sequence := s.events.length + 1
      runId := run.runId
      taskId := run.taskId
      stepId := run.stepId
      stage := stage
      code := code
      occurredAt := DateTime.asUtc occurredAt
      observationId := observationId
      actionFingerprint := actionFingerprint
      details := details }
  let accepted : Except PortError Unit ← ask (PortCall.emit event)
  lift accepted
  change fun s => { s with events := s.events ++ [event] }

/-- The status a failure is reported with. -/
def failureStatus (s : RunState) : BrowserLoopStatus :=
  if s.effectMayHaveStarted then .unknown else .failed

/-- The report of a state. -/
def reportOf (s : RunState) (status : BrowserLoopStatus) (reasonCode : String)
    (approvalRef : Option String) (executionCheckpoint : Option ExecutionCheckpoint) :
    BrowserLoopReport where
  runId := run.runId
  taskId := run.taskId
  stepId := run.stepId
  status := status
  reasonCode := reasonCode
  iterations := s.iterations
  retriesUsed := s.retriesUsed
  observations := s.observations
  actionsExecuted := s.actionsExecuted
  lastObservationId := s.lastObservationId
  approvalRef := approvalRef
  executionCheckpoint := executionCheckpoint
  events := s.events

/-- `_terminal`. -/
def terminal (status : BrowserLoopStatus) (reasonCode : String)
    (approvalRef : Option String) (executionCheckpoint : Option ExecutionCheckpoint) :
    Loop BrowserLoopReport := do
  let before ← state
  let emitted ← attempt (emit run .terminal reasonCode before.lastObservationId none
    [("status", .str status.value)])
  let s ← state
  match emitted with
  | .ok _ => pure (reportOf run s status reasonCode approvalRef executionCheckpoint)
  | .error _ =>
      pure (reportOf run s (failureStatus s) "EVENT_SINK_FAILED" approvalRef executionCheckpoint)

/-! ## Observing, deciding, verifying -/

/-- `_observe`. -/
def observe : Loop BrowserObservation := do
  let answer : Except PortError RawBrowserObservation ← ask PortCall.observe
  let raw ← lift answer
  change fun s => { s with observations := s.observations + 1 }
  let s ← state
  let observation := L.bindObservation raw s.observations
  change fun s => { s with lastObservationId := some observation.observationId }
  emit run .observation "OBSERVATION_CAPTURED" (some observation.observationId) none
    [("sequence", .num observation.sequence)]
  pure observation

/-- `_consume_retry`. -/
def consumeRetry : Loop Bool := do
  let s ← state
  if s.retriesUsed ≥ L.config.maxRetries then pure false
  else
    change fun s => { s with retriesUsed := s.retriesUsed + 1 }
    pure true

/-- `_retry_reobserve`. -/
def retryReobserve : Loop (Option BrowserObservation) := do
  if ← L.consumeRetry then
    match ← attempt (L.observe run) with
    | .ok observation => pure (some observation)
    | .error _ => pure none
  else pure none

/-- `_domain_provider_matches`. -/
def domainProviderMatches : Bool :=
  match L.domainBinding, run.packId with
  | some binding, some packId => binding.packId = packId &&
      some binding.packVersion = run.packVersion &&
      (run.capabilityId.any fun c => binding.capabilityIds.contains c)
  | _, _ => false

/-- The model decides on what the policy lets it see. -/
def decideByModel (observation : BrowserObservation) : Loop (ActionDecision × DecisionSource) := do
  let prepared : Except PortError ModelInput ← ask (PortCall.prepareModelInput observation)
  let input ← lift prepared
  let same ← lift ((compareDigest input.observationId observation.observationId).mapError .other)
  if same then
    let answer : Except PortError ActionDecision ← ask (PortCall.decide input)
    let decision ← lift answer
    pure (decision, .model)
  else lift (.error (.other
    ⟨.valueError, "Policy returned model input for a different observation"⟩))

/-- `_decide`. -/
def decide (observation : BrowserObservation) : Loop (ActionDecision × DecisionSource) :=
  if L.domainProviderMatches run then do
    let answer : Except PortError (Option ActionDecision) ←
      ask (PortCall.domainDecide observation)
    let deterministic ← lift answer
    match deterministic with
    | some decision => pure (decision, .domainPack)
    | none => decideByModel observation
  else decideByModel observation

/-- `_verify`. -/
def verify (before after : BrowserObservation) (decision : ActionDecision)
    (source : DecisionSource) (actionResult : Option BrowserActionResult)
    (authorizedEffect : Option ExecutionEffect) (actionFingerprint : Option String) :
    Loop VerificationResult := do
  let answer : Except PortError VerificationResult ← ask (PortCall.verify
    ⟨run, before, after, decision, source, actionResult, authorizedEffect⟩)
  let result : VerificationResult := match answer with
    | .ok result => result
    | .error _ => ⟨.unknown, "VERIFICATION_FAILED", []⟩
  emit run .verification result.reasonCode (some after.observationId) actionFingerprint
    [("disposition", .str result.disposition.value),
      ("evidence_count", .num result.evidenceRefs.length)]
  pure result

/-- The status a verdict ends a run with, if it does. -/
def verdictStatus : VerificationDisposition → Option BrowserLoopStatus
  | .succeeded => some .succeeded
  | .failed => some .failed
  | .unknown => some .unknown
  | .continue | .retry => none

/-- `_observation_is_stale`, at a reading of the clock. -/
def observationIsStale (observation : BrowserObservation) (now : DateTime) : Bool :=
  let age := now.asUtc.micros - observation.capturedAt.asUtc.micros
  (age : Rat) / 1000000 > L.config.maxObservationAgeSeconds || age < -5 * DateTime.second

/-- `_authorized_command`. -/
def authorizedCommand (observation : BrowserObservation) (action : BrowserAction)
    (fingerprint : String) (authorization : ExecutionAuthorization)
    (executionProfile : ExecutionProfile) : Except Raised AuthorizedAction := do
  if authorization.permitId = "" ∨ authorization.idempotencyKey = "" then
    throw ⟨.valueError, "Execution authorization requires permit and idempotency references"⟩
  unless ← compareBoth authorization.actionFingerprint fingerprint
      authorization.observationHash observation.observationId do
    throw ⟨.valueError, "Execution authorization does not match the action and observation"⟩
  let _ ← requireAllowedProfile authorization.effect executionProfile
  pure
    { action := action
      actionFingerprint := fingerprint
      observationId := observation.observationId
      expectedSnapshotHash := observation.snapshotHash
      authorization := authorization
      executionProfile := executionProfile }

/-! ## One iteration -/

/-- What an iteration comes to. -/
inductive Progress where
  | done (report : BrowserLoopReport)
  | next (observation : BrowserObservation)

/-- End the run. -/
def finish (status : BrowserLoopStatus) (reasonCode : String) : Loop Progress := do
  let report ← terminal run status reasonCode none none
  pure (.done report)

/-- Spend a retry on a fresh observation, or fail. -/
def reobserveOrFail : Loop Progress := do
  match ← L.retryReobserve run with
  | some refreshed => pure (.next refreshed)
  | none => finish run .failed "RETRY_BUDGET_EXHAUSTED"

/-- The branch of a success decision. -/
def confirmSuccess (observation : BrowserObservation) (decision : ActionDecision)
    (source : DecisionSource) : Loop Progress := do
  let verification ← verify run observation observation decision source none none none
  match verdictStatus verification.disposition with
  | some status => finish run status verification.reasonCode
  | none =>
      if verification.disposition = .retry then L.reobserveOrFail run
      else
        match ← attempt (L.observe run) with
        | .ok refreshed => pure (.next refreshed)
        | .error _ => finish run .failed "OBSERVATION_FAILED"

/-- Count an action, and remember that a write may have started. -/
def recordResult (command : AuthorizedAction) (actionResult : BrowserActionResult) :
    Loop Unit := do
  change fun s => { s with actionsExecuted := s.actionsExecuted + 1 }
  if actionResult.effectMayHaveStarted && isWrite command.authorization.effect then
    change fun s => { s with effectMayHaveStarted := true }

/-- Record the verification of a result that waits for its probe, and suspend the run. -/
def suspendOnProbe (observation : BrowserObservation) (decision : ActionDecision)
    (source : DecisionSource) (command : AuthorizedAction) (actionResult : BrowserActionResult) :
    Loop Progress := do
  change fun s => { s with effectMayHaveStarted := true }
  let _ ← verify run observation observation decision source (some actionResult)
    (some command.authorization.effect) (some command.actionFingerprint)
  let report ← terminal run .unknown "PENDING_RESULT_PROBE" none actionResult.executionCheckpoint
  pure (.done report)

/-- Observe the page after the action, and let the verifier judge. -/
def judge (observation : BrowserObservation) (decision : ActionDecision)
    (source : DecisionSource) (command : AuthorizedAction) (actionResult : BrowserActionResult) :
    Loop Progress := do
  match ← attempt (L.observe run) with
  | .error _ =>
      finish run (if isWrite command.authorization.effect then .unknown else .failed)
        "POST_ACTION_OBSERVATION_FAILED"
  | .ok after =>
      let verification ← verify run observation after decision source (some actionResult)
        (some command.authorization.effect) (some command.actionFingerprint)
      match verdictStatus verification.disposition with
      | some status => finish run status verification.reasonCode
      | none =>
          if verification.disposition = .retry then
            if isWrite command.authorization.effect then
              finish run .unknown "WRITE_RETRY_REQUIRES_RECOVERY"
            else if ← L.consumeRetry then pure (.next after)
            else finish run .failed "RETRY_BUDGET_EXHAUSTED"
          else pure (.next after)

/-- From the result of the runtime to the verdict. -/
def settle (observation : BrowserObservation) (decision : ActionDecision)
    (source : DecisionSource) (command : AuthorizedAction) (actionResult : BrowserActionResult) :
    Loop Progress := do
  recordResult command actionResult
  emit run .action actionResult.detailCode (some observation.observationId)
    (some command.actionFingerprint) [("completed", .bool actionResult.completed)]
  if actionResult.pendingResultProbe then
    suspendOnProbe run observation decision source command actionResult
  else L.judge run observation decision source command actionResult

/-- Call the runtime with a command. -/
def dispatch (observation : BrowserObservation) (decision : ActionDecision)
    (source : DecisionSource) (command : AuthorizedAction) : Loop Progress := do
  emit run .action "ACTION_STARTED" (some observation.observationId)
    (some command.actionFingerprint)
    [("kind", .str command.action.kind.value),
      ("effect", .str command.authorization.effect.value), ("source", .str source.value)]
  change fun s => { s with lastEffect := command.authorization.effect }
  let executed : Except PortError BrowserActionResult ← ask (PortCall.execute command)
  match executed with
  | .ok actionResult => L.settle run observation decision source command actionResult
  | .error .stale => L.reobserveOrFail run
  | .error (.runtime effectMayHaveStarted) =>
      if effectMayHaveStarted && isWrite command.authorization.effect then
        finish run .unknown "ACTION_EFFECT_UNKNOWN"
      else L.reobserveOrFail run
  | .error (.other _) =>
      if isWrite command.authorization.effect then finish run .unknown "ACTION_EFFECT_UNKNOWN"
      else finish run .failed "ACTION_EXECUTION_FAILED"

/-- From a decided action to the call of the runtime. -/
def actOn (observation : BrowserObservation) (decision : ActionDecision)
    (source : DecisionSource) (action : BrowserAction) : Loop Progress := do
  let fingerprint := L.fingerprint run action observation
  let answer : Except PortError PolicyAuthorization ←
    ask (PortCall.authorizeAction observation action fingerprint)
  match answer with
  | .error _ => finish run .failed "POLICY_EVALUATION_FAILED"
  | .ok policy =>
      emit run .policy policy.reasonCode (some observation.observationId) (some fingerprint)
        [("disposition", .str policy.disposition.value)]
      match policy.disposition with
      | .deny => finish run .failed policy.reasonCode
      | .requireApproval approvalRef =>
          let report ← terminal run .awaitingApproval policy.reasonCode (some approvalRef) none
          pure (.done report)
      | .reobserve => L.reobserveOrFail run
      | .allow authorization executionProfile =>
          match authorizedCommand observation action fingerprint authorization
              executionProfile with
          | .error exc =>
              if ErrorClass.valueError.caughtBy exc ||
                  ErrorClass.executionProfileRejected.caughtBy exc then
                finish run .failed "INVALID_EXECUTION_AUTHORIZATION"
              else lift (.error (.other exc))
          | .ok command =>
              let now : DateTime ← ask PortCall.now
              if L.observationIsStale observation now then L.reobserveOrFail run
              else L.dispatch run observation decision source command

/-- One iteration. -/
def iterate (observation : BrowserObservation) : Loop Progress := do
  match ← attempt (L.decide run observation) with
  | .error _ => finish run .failed "DECISION_PROVIDER_FAILED"
  | .ok (decision, source) =>
      let same ← lift
        ((compareDigest decision.observationId observation.observationId).mapError .other)
      if same then
        emit run .decision decision.reasonCode (some observation.observationId) none
          [("kind", .str decision.decided.kind.value), ("source", .str source.value)]
        match decision.decided with
        | .failure => finish run .failed decision.reasonCode
        | .success => L.confirmSuccess run observation decision source
        | .action action => L.actOn run observation decision source action
      else finish run .failed "DECISION_OBSERVATION_MISMATCH"

/-! ## The run -/

/-- The iterations that are left. -/
def iterations : Nat → BrowserObservation → Loop BrowserLoopReport
  | 0, _ => terminal run .failed "ITERATION_BUDGET_EXHAUSTED" none none
  | left + 1, observation => do
      change fun s => { s with iterations := s.iterations + 1 }
      match ← L.iterate run observation with
      | .done report => pure report
      | .next refreshed => iterations left refreshed

/-- `_run`. -/
def runUncaught : Loop BrowserLoopReport := do
  match ← attempt (L.observe run) with
  | .error _ => terminal run .failed "OBSERVATION_FAILED" none none
  | .ok observation => L.iterations run L.config.maxIterations observation

/-- `run`. -/
def runLoop : Loop BrowserLoopReport := do
  match ← attempt (L.runUncaught run) with
  | .ok report => pure report
  | .error _ =>
      let s ← state
      terminal run (failureStatus s) "EVENT_OR_LOOP_FAILURE" none none

end BrowserLoop

end AgentPact
