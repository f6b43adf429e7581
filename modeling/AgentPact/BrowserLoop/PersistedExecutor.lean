import Mathlib.Data.List.Sort
import Mathlib.Logic.Function.Basic
import AgentPact.BrowserLoop.Contracts
import AgentPact.Governance.Lifecycle

/-!
# Persisted execution of browser writes

`browser_loop/persisted_executor.py`.  An execution registers an attempt, marks
it executing, calls the browser, and marks it unknown, each in a transaction of
its own or none.  Recovery closes what crashed executions left behind.

An execution is a state machine, `ExecutorPhase`.  Its phases are the places
between two awaits, and its labels carry what the awaits bring: identifiers,
clock readings, and what the browser did.  A crash is a label too.

`World` holds the committed store, one phase for each of any number of
executions, and a history of what executions did, newest first.  The history is
for stating properties only: no step reads it.  A row that recovery finds locked
by another transaction is skipped, so the set of locked rows is part of the
label.

`WorldMove` says once what a step can do, and every invariant goes by its
cases.
-/

namespace AgentPact

open Base Transaction

/-! ## One execution -/

/-- Where an execution stands. -/
inductive ExecutorPhase where
  | idle
  /-- Not an external write: the runtime executes the command itself. -/
  | delegating (command : AuthorizedAction)
  | preflighting (command : AuthorizedAction) (resultProbeRef : String)
  | authorizing (command : AuthorizedAction) (resultProbeRef : String)
  /-- The transaction that registered the attempt has committed. -/
  | authorized (command : AuthorizedAction) (attempt : ExecutionAttempt)
  /-- The transaction that marked it executing has committed. -/
  | executing (command : AuthorizedAction) (attempt : ExecutionAttempt)
  /-- The browser returned, or raised an exception of the named class. -/
  | returned (command : AuthorizedAction) (attempt : ExecutionAttempt)
      (outcome : Except String BrowserActionResult)
  | finished (result : BrowserActionResult)
  | raised (error : Raised)
  | crashed

/-- What happens next in an execution. -/
inductive ExecutorLabel where
  | execute (command : AuthorizedAction) (resultProbeRef : Option String)
  | delegate (outcome : Except Raised BrowserActionResult)
  | preflight (outcome : Except Raised Unit)
  | authorize (attemptId : String) (now : DateTime) (clock : AuthorizeClock)
  | markExecuting (now : DateTime)
  | executePreflighted (outcome : Except String BrowserActionResult)
  | markUnknown (now : DateTime)
  | crash

/-- What an execution did. -/
inductive ExecutorEvent where
  /-- It moved an attempt from authorized to executing. -/
  | started (attemptId : String)
  /-- It called `execute_preflighted` for a command, holding an attempt. -/
  | called (command : AuthorizedAction) (attempt : ExecutionAttempt)

/-- The request for an attempt that a command makes. -/
def AuthorizedAction.authorizeRequest (command : AuthorizedAction) (resultProbeRef : String)
    (now : DateTime) : AuthorizeRequest where
  permitId := command.authorization.permitId
  actionFingerprint := command.actionFingerprint
  observationHash := command.observationId
  idempotencyKey := command.authorization.idempotencyKey
  effect := command.authorization.effect
  executionProfile := command.executionProfile
  cuaExecutionEvidence := none
  resultProbeRef := some resultProbeRef
  now := some now

/-- The error message an attempt is marked unknown with. -/
def ambiguityMessage : Except String BrowserActionResult → String
  | .ok _ => "PENDING_AUTHORITATIVE_RESULT_PROBE"
  | .error errorType => "BROWSER_EXECUTION_AMBIGUOUS:" ++ errorType

/-- What `execute` returns once the attempt is unknown. -/
def pendingResult (outcome : Except String BrowserActionResult)
    (unknownCheckpoint : ExecutionCheckpoint) : BrowserActionResult where
  completed := match outcome with
    | .ok result => result.completed
    | .error _ => false
  effectMayHaveStarted := true
  detailCode := "PENDING_RESULT_PROBE"
  executionCheckpoint := some unknownCheckpoint

/-- Run a transaction and take the exact checkpoint of its attempt. -/
def checkpointed (x : GovernanceTx ExecutionAttempt) (s : ExecutionStore) :
    ExecutionStore × Except Raised (ExecutionAttempt × ExecutionCheckpoint) :=
  match atomic x s with
  | .ok attempt t => (t, (checkpoint attempt).map fun c => (attempt, c))
  | .error e t => (t, .error e)

/-- `PersistedBrowserExecutor.execute`, one step between two awaits. -/
def ExecutorPhase.next (P : Platform) (s : ExecutionStore) :
    ExecutorPhase → ExecutorLabel → Option (ExecutionStore × ExecutorPhase × List ExecutorEvent)
  | .idle, .execute command resultProbeRef =>
      if command.authorization.effect ≠ .externalWrite then some (s, .delegating command, [])
      else match resultProbeRef with
        | none => some (s, .raised ⟨.persistedExecutionError,
            "External writes require an authoritative result probe"⟩, [])
        | some ref =>
            if ref = "" then some (s, .raised ⟨.persistedExecutionError,
              "External writes require an authoritative result probe"⟩, [])
            else some (s, .preflighting command ref, [])
  | .delegating _, .delegate outcome =>
      match outcome with
      | .ok result => some (s, .finished result, [])
      | .error e => some (s, .raised e, [])
  | .preflighting command ref, .preflight outcome =>
      match outcome with
      | .ok _ => some (s, .authorizing command ref, [])
      | .error e => some (s, .raised e, [])
  | .authorizing command ref, .authorize attemptId now clock =>
      match checkpointed (authorizeExecutionAttempt P attemptId
          (command.authorizeRequest ref now) clock) s with
      | (t, .ok (attempt, _)) => some (t, .authorized command attempt, [])
      | (t, .error e) => some (t, .raised e, [])
  | .authorized command attempt, .markExecuting now =>
      match checkpointed (markExecutionAttemptExecuting attempt.attemptId (some now) 0) s with
      | (t, .ok _) => some (t, .executing command attempt, [.started attempt.attemptId])
      | (t, .error e) => some (t, .raised e, [])
  | .executing command attempt, .executePreflighted outcome =>
      some (s, .returned command attempt outcome, [.called command attempt])
  | .returned _ attempt outcome, .markUnknown now =>
      match checkpointed (markExecutionAttemptUnknown attempt.attemptId
          (ambiguityMessage outcome) none (some now) 0) s with
      | (t, .ok (_, unknownCheckpoint)) =>
          some (t, .finished (pendingResult outcome unknownCheckpoint), [])
      | (t, .error e) => some (t, .raised e, [])
  | _, .crash => some (s, .crashed, [])
  | _, _ => none

/-- The command and the attempt an execution holds. -/
def ExecutorPhase.holds : ExecutorPhase → Option (AuthorizedAction × ExecutionAttempt)
  | .authorized command attempt => some (command, attempt)
  | .executing command attempt => some (command, attempt)
  | .returned command attempt _ => some (command, attempt)
  | _ => none

/-! ## Recovery -/

/-- What recovery did. -/
structure PersistedExecutionRecoveryReport where
  ambiguous : List ExecutionCheckpoint
  abandonedAttemptIds : List String

/-- The rows recovery selects: open, old enough, and not locked. -/
def abandoned (threshold : Stamp) (locked : String → Bool) (m : ExecutionAttemptModel) : Bool :=
  (m.status = .authorized || m.status = .executing) && m.createdAt ≤ threshold &&
    !locked m.attemptId

/-- Recovery goes by creation, then by identifier. -/
def recoveryOrder (a b : ExecutionAttemptModel) : Prop :=
  a.createdAt < b.createdAt ∨ (a.createdAt = b.createdAt ∧ a.attemptId ≤ b.attemptId)

instance : DecidableRel recoveryOrder := fun a b => by
  unfold recoveryOrder; infer_instance

/-- The rows recovery selects, in its order. -/
def abandonedRows (threshold : Stamp) (locked : String → Bool) (s : ExecutionStore) :
    List ExecutionAttemptModel :=
  (s.attempts.select (abandoned threshold locked)).insertionSort recoveryOrder

/-- Close one row: fail it if it never started, else mark it unknown. -/
def recoverRow (current : DateTime) (model : ExecutionAttemptModel) :
    GovernanceTx PersistedExecutionRecoveryReport :=
  if model.status = .authorized then do
    let failed ← abandonAuthorizedExecutionAttempt model.attemptId abandonedMessage
      (some current) 0
    pure ⟨[], [failed.attemptId]⟩
  else do
    let unknown ← markExecutionAttemptUnknown model.attemptId
      "ABANDONED_EXECUTING_REQUIRES_RESULT_PROBE" none (some current) 0
    let exact ← lift (checkpoint unknown)
    pure ⟨[exact], []⟩

/-- Close rows one after the other. -/
def recoverRows (current : DateTime) :
    List ExecutionAttemptModel → GovernanceTx PersistedExecutionRecoveryReport
  | [] => pure ⟨[], []⟩
  | model :: models => do
      let first ← recoverRow current model
      let rest ← recoverRows current models
      pure ⟨first.ambiguous ++ rest.ambiguous,
        first.abandonedAttemptIds ++ rest.abandonedAttemptIds⟩

/-- `recover_abandoned_persisted_executions`. -/
def recoverAbandonedPersistedExecutions (minimumAge : Int) (now : Option DateTime)
    (clock : Stamp) (locked : String → Bool) :
    GovernanceTx PersistedExecutionRecoveryReport := do
  require (0 ≤ minimumAge) ⟨.valueError, "Recovery minimum age cannot be negative"⟩
  let current := now.getD (DateTime.utc clock)
  let threshold ← lift (current.add (-minimumAge))
  let models ← read (abandonedRows threshold.bind locked)
  recoverRows current models

/-! ## Any number of executions -/

/-- The committed store, the executions, and what they did, newest first. -/
structure World (ι : Type) where
  store : ExecutionStore
  phase : ι → ExecutorPhase
  history : List (ι × ExecutorEvent)

/-- Who moves, and how. -/
inductive WorldLabel (ι : Type) where
  | executor (i : ι) (label : ExecutorLabel)
  | recover (minimumAge : Int) (now : Option DateTime) (clock : Stamp) (locked : String → Bool)
  | resolve (attemptId : String) (confirmed : Bool) (resultProbe : List (String × Json))
      (now : Option DateTime) (clock : Stamp)
  | issue (permitId : String) (request : IssueRequest) (clock : Stamp)

variable {ι : Type} [DecidableEq ι]

/-- One step of the world, if the label fits. -/
def World.next (P : Platform) (w : World ι) : WorldLabel ι → Option (World ι)
  | .executor i label =>
      match (w.phase i).next P w.store label with
      | none => none
      | some (t, phase, events) => some
          { store := t
            phase := Function.update w.phase i phase
            history := events.map (fun e => (i, e)) ++ w.history }
  | .recover minimumAge now clock locked =>
      some { w with store := left (atomic
        (recoverAbandonedPersistedExecutions minimumAge now clock locked) w.store) }
  | .resolve attemptId confirmed resultProbe now clock =>
      some { w with store := left (atomic
        (resolveUnknownExecutionAttempt attemptId confirmed resultProbe now clock) w.store) }
  | .issue permitId request clock =>
      some { w with store := left (atomic (issuePermit permitId request clock) w.store) }

/-- The step relation of the world. -/
def WorldStep (P : Platform) (label : WorldLabel ι) (w v : World ι) : Prop :=
  w.next P label = some v

/-- Nothing has been executed yet.  The store is arbitrary. -/
def World.Initial (w : World ι) : Prop := (∀ i, w.phase i = .idle) ∧ w.history = []

end AgentPact
