import AgentPact.Governance.Attempts
import AgentPact.Governance.PackRuntime

/-!
# Browser contracts

The values that cross the ports of the browser loop (`browser_loop/contracts.py`).

Where a model validator of the source ties fields together, the type does: a
policy that allows carries its authority and nothing else, and a result that
waits for a probe is one that has a checkpoint.
-/

namespace AgentPact

/-! ## Actions and observations -/

/-- The kind of a browser action. -/
inductive ActionKind where
  | click | inputText | selectOption | gotoUrl | keypress | scroll | wait
deriving DecidableEq, Repr

/-- The text of a kind. -/
def ActionKind.value : ActionKind → String
  | .click => "click"
  | .inputText => "input_text"
  | .selectOption => "select_option"
  | .gotoUrl => "goto_url"
  | .keypress => "keypress"
  | .scroll => "scroll"
  | .wait => "wait"

/-- One proposed technical action. -/
structure BrowserAction where
  kind : ActionKind
  operation : String
  elementId : Option String
  text : Option String
  optionValue : Option String
  url : Option String
  keys : List String
  scrollX : Int
  scrollY : Int
  waitSeconds : Rat
deriving DecidableEq

/-- A field of a document, left out when it is `None`. -/
def optionalField (name : String) : Option String → List (String × Json)
  | none => []
  | some value => [(name, .str value)]

/-- `model_dump(mode="json", exclude_none=True)` of an action. -/
def BrowserAction.modelDump (a : BrowserAction) : Json :=
  .obj ([("kind", .str a.kind.value), ("operation", .str a.operation)] ++
    optionalField "element_id" a.elementId ++ optionalField "text" a.text ++
    optionalField "option_value" a.optionValue ++ optionalField "url" a.url ++
    [("keys", .arr (a.keys.map .str)), ("scroll_x", .num a.scrollX),
      ("scroll_y", .num a.scrollY), ("wait_seconds", .real a.waitSeconds)])

/-- Browser material from a runtime. -/
structure RawBrowserObservation where
  url : String
  title : Option String
  pageHtml : String
  modelDom : String
  capturedAt : DateTime
deriving DecidableEq, Repr

/-- An observation bound to its page by hashes. -/
structure BrowserObservation where
  observationId : String
  snapshotHash : Digest
  sequence : Nat
  url : String
  title : Option String
  modelDom : String
  capturedAt : DateTime
deriving DecidableEq

/-! ## Decisions and authority -/

/-- The kind of a decision. -/
inductive DecisionKind where
  | action | success | failure
deriving DecidableEq, Repr

/-- The text of a kind. -/
def DecisionKind.value : DecisionKind → String
  | .action => "action"
  | .success => "success"
  | .failure => "failure"

/-- Who decided. -/
inductive DecisionSource where
  | domainPack | model
deriving DecidableEq, Repr

/-- The text of a source. -/
def DecisionSource.value : DecisionSource → String
  | .domainPack => "domain_pack"
  | .model => "model"

/-- What a decision asks for.  Only an action decision has an action. -/
inductive Decided where
  | action (action : BrowserAction)
  | success
  | failure
deriving DecidableEq

/-- The kind of what a decision asks for. -/
def Decided.kind : Decided → DecisionKind
  | .action _ => .action
  | .success => .success
  | .failure => .failure

/-- A decision about one observation. -/
structure ActionDecision where
  decided : Decided
  observationId : String
  reasonCode : String
deriving DecidableEq

/-- What a policy says about an action. -/
inductive PolicyDisposition where
  /-- Allowed, with the authority to act. -/
  | allow (authorization : ExecutionAuthorization) (executionProfile : ExecutionProfile)
  | deny
  /-- Approval is required, with the reference to it. -/
  | requireApproval (approvalRef : String)
  | reobserve
deriving DecidableEq

/-- The text of a disposition. -/
def PolicyDisposition.value : PolicyDisposition → String
  | .allow _ _ => "allow"
  | .deny => "deny"
  | .requireApproval _ => "require_approval"
  | .reobserve => "reobserve"

/-- A policy result. -/
structure PolicyAuthorization where
  disposition : PolicyDisposition
  reasonCode : String
deriving DecidableEq

/-- An action with the authority to execute it on one observation. -/
structure AuthorizedAction where
  action : BrowserAction
  actionFingerprint : String
  observationId : String
  expectedSnapshotHash : Digest
  authorization : ExecutionAuthorization
  executionProfile : ExecutionProfile
deriving DecidableEq

/-! ## Results -/

/-- What a runtime says about an action it executed. -/
structure BrowserActionResult where
  completed : Bool
  effectMayHaveStarted : Bool
  detailCode : String
  /-- The checkpoint of a result that waits for a probe. -/
  executionCheckpoint : Option ExecutionCheckpoint
deriving DecidableEq

/-- `pending_result_probe`, which is set exactly when there is a checkpoint. -/
def BrowserActionResult.pendingResultProbe (r : BrowserActionResult) : Bool :=
  r.executionCheckpoint.isSome

/-- What a verifier says. -/
inductive VerificationDisposition where
  | succeeded | continue | retry | failed | unknown
deriving DecidableEq, Repr

/-- The text of a disposition. -/
def VerificationDisposition.value : VerificationDisposition → String
  | .succeeded => "succeeded"
  | .continue => "continue"
  | .retry => "retry"
  | .failed => "failed"
  | .unknown => "unknown"

/-- A verification result. -/
structure VerificationResult where
  disposition : VerificationDisposition
  reasonCode : String
  evidenceRefs : List String
deriving DecidableEq

/-- Whether an effect writes. -/
def isWrite (effect : ExecutionEffect) : Bool :=
  effect = .internalWrite || effect = .externalWrite

/-- `_checkpoint`: the exact identity of an attempt, if no part of it is missing. -/
def checkpoint (attempt : ExecutionAttempt) : Except Raised ExecutionCheckpoint :=
  match attempt.permitId, attempt.idempotencyKeyDigest, attempt.executionEffect,
      attempt.resultProbeRef with
  | some permitId, some digest, some effect, some probeRef =>
      if permitId = "" ∨ probeRef = "" then
        .error ⟨.persistedExecutionError,
          "Attempt is missing its exact persisted execution checkpoint"⟩
      else if attempt.attemptId = "" ∨ attempt.taskId = "" ∨ attempt.stepId = "" ∨
          attempt.actionFingerprint = "" ∨ attempt.observationHash = "" then
        .error ⟨.validationError, "ExecutionCheckpoint"⟩
      else .ok
        { permitId := permitId
          attemptId := attempt.attemptId
          taskId := attempt.taskId
          stepId := attempt.stepId
          actionFingerprint := attempt.actionFingerprint
          observationHash := attempt.observationHash
          idempotencyKeyDigest := digest
          executionEffect := effect.value
          resultProbeRef := probeRef
          attemptStatus := attempt.status.value }
  | _, _, _, _ => .error ⟨.persistedExecutionError,
      "Attempt is missing its exact persisted execution checkpoint"⟩

end AgentPact
