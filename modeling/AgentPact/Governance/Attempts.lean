import AgentPact.Governance.Permits

/-!
# Execution attempts

`governance/execution_attempt_service.py`: the state machine around one
browser side effect.  An attempt is registered by consuming a permit, moves to
`executing` right before the browser call, and ends `confirmed`, `failed` or
`unknown`.  Only a business probe resolves an `unknown` one.

Every transition is `transitionAttempt` at two statuses, so one lemma inverts
them all.  `authorizeExecutionAttempt_eq_ok` says what a registered attempt
was checked against, and `authorizeExecutionAttempt_eq_error` what the store
is when it was not registered.
-/

namespace AgentPact

open Base Transaction

/-- The contract of an attempt. -/
structure ExecutionAttempt where
  attemptId : String
  taskId : String
  stepId : String
  contractId : String
  permitId : Option String
  actionFingerprint : String
  observationHash : String
  idempotencyKey : String
  idempotencyKeyDigest : Option Digest
  executionEffect : Option ExecutionEffect
  resultProbeRef : Option String
  status : ExecutionAttemptStatus
  startedAt : Option Stamp
  completedAt : Option Stamp
  resultProbe : Option (List (String × Json))
  errorMessage : Option String

/-- `_to_contract` of an attempt.  The contract wants a key, which the column may lack. -/
def ExecutionAttemptModel.toContract (model : ExecutionAttemptModel) :
    Except Raised ExecutionAttempt :=
  match model.idempotencyKey with
  | none => .error ⟨.validationError, "idempotency_key"⟩
  | some idempotencyKey => .ok
      { attemptId := model.attemptId
        taskId := model.taskId
        stepId := model.stepId
        contractId := model.contractId
        permitId := model.permitId
        actionFingerprint := model.actionFingerprint
        observationHash := model.observationHash
        idempotencyKey := idempotencyKey
        idempotencyKeyDigest := model.idempotencyKeyDigest
        executionEffect := model.executionEffect
        resultProbeRef := model.resultProbeRef
        status := model.status
        startedAt := model.startedAt
        completedAt := model.completedAt
        resultProbe := model.resultProbe
        errorMessage := model.errorMessage }

/-! ## Registering an attempt -/

/-- The arguments of `authorize_execution_attempt`. -/
structure AuthorizeRequest where
  permitId : String
  actionFingerprint : String
  observationHash : String
  idempotencyKey : String
  effect : ExecutionEffect
  executionProfile : ExecutionProfile
  cuaExecutionEvidence : Option CUAExecutionEvidence
  resultProbeRef : Option String
  now : Option DateTime

/-- What the system clock reads during a call, one field a reading. -/
structure AuthorizeClock where
  /-- Read by the evidence check when `now` is absent. -/
  evidence : Stamp
  /-- Read by the consumption when `now` is absent. -/
  consume : Stamp
  /-- The default of `created_at`. -/
  created : Stamp

/-- `_verify_permit_execution_context`. -/
def verifyPermitExecutionContext (permit : ExecutionPermitModel) (r : AuthorizeRequest)
    (clock : Stamp) : Except Raised Unit :=
  match permit.decisionPayload with
  | .other => .error ⟨.executionAttemptError,
      "Execution permit is missing its governed execution context"⟩
  | .governed context =>
      if context.executionEffect ≠ r.effect ∨ context.executionProfile ≠ r.executionProfile then
        .error ⟨.executionAttemptError,
          "Execution permit does not match the authorized effect and profile"⟩
      else if context.cuaExecutionEvidence ≠ r.cuaExecutionEvidence then
        .error ⟨.executionAttemptError,
          "Execution permit does not match the authorized CUA engine evidence"⟩
      else
        match requireCuaExecutionEvidence r.executionProfile r.cuaExecutionEvidence
            r.actionFingerprint r.observationHash (r.now.getD (DateTime.utc clock)) with
        | .ok _ => .ok ()
        | .error exc =>
            if exc.cls = .executionProfileRejected then .error ⟨.executionAttemptError, exc.text⟩
            else .error exc

/-- The row `authorize_execution_attempt` adds. -/
def AuthorizeRequest.model (P : Platform) (r : AuthorizeRequest) (attemptId : String)
    (permit : ExecutionPermitModel) (createdAt : Stamp) : ExecutionAttemptModel where
  attemptId := attemptId
  taskId := permit.taskId
  stepId := permit.stepId
  contractId := permit.contractId
  permitId := some permit.permitId
  actionFingerprint := permit.actionFingerprint
  observationHash := permit.observationHash
  status := .authorized
  idempotencyKey := some r.idempotencyKey
  idempotencyKeyDigest := some (P.sha256 r.idempotencyKey)
  executionEffect := some r.effect
  resultProbeRef := r.resultProbeRef
  resultProbe := none
  errorMessage := none
  startedAt := none
  completedAt := none
  createdAt := createdAt

/-- The attempt that holds an idempotency key of a task. -/
def existingAttempt (taskId idempotencyKey : String) (s : ExecutionStore) :
    Option ExecutionAttemptModel :=
  (s.attempts.select fun a =>
    a.taskId = taskId && a.idempotencyKey = some idempotencyKey).head?

/-- `authorize_execution_attempt`. -/
def authorizeExecutionAttempt (P : Platform) (attemptId : String) (r : AuthorizeRequest)
    (clock : AuthorizeClock) : GovernanceTx ExecutionAttempt := do
  require (r.idempotencyKey ≠ "")
    ⟨.executionAttemptError, "Execution attempt requires an idempotency key"⟩
  let permit ← fetch (fun s => s.permits.find? r.permitId)
    ⟨.executionAttemptError, "Execution permit does not exist"⟩
  lift (verifyPermitExecutionContext permit r clock.evidence)
  query fun s =>
    match existingAttempt permit.taskId r.idempotencyKey s with
    | none => .ok ()
    | some existing => .error ⟨.executionAttemptRecoveryRequired,
        "Execution attempt already exists with status " ++ existing.status.value ++
          "; recovery probe is required"⟩
  let permit ← consumePermitModel r.permitId r.actionFingerprint r.observationHash r.now
    clock.consume
  let model := r.model P attemptId permit clock.created
  write? (fun s => s.insertAttempt? model) ⟨.integrityError, "execution_attempts"⟩
  lift model.toContract

/-! ## Moving an attempt -/

/-- `_transition_attempt`. -/
def transitionAttempt (attemptId : String) (fromStatus toStatus : ExecutionAttemptStatus)
    (resultProbe : Option (List (String × Json))) (errorMessage : Option String)
    (now : Option DateTime) (clock : Stamp) : GovernanceTx ExecutionAttempt := do
  let model ← fetch (fun s => s.attempts.find? attemptId)
    ⟨.executionAttemptError, "Execution attempt does not exist"⟩
  require (model.status = fromStatus) ⟨.executionAttemptError,
    "Execution attempt cannot transition from " ++ model.status.value ++ " to " ++
      toStatus.value⟩
  let edit := ExecutionAttemptModel.transition toStatus (now.getD (DateTime.utc clock))
    resultProbe errorMessage
  write fun s => s.updateAttempt attemptId edit
  lift (edit.apply model).toContract

/-- `mark_execution_attempt_executing`. -/
def markExecutionAttemptExecuting (attemptId : String) (now : Option DateTime) (clock : Stamp) :
    GovernanceTx ExecutionAttempt :=
  transitionAttempt attemptId .authorized .executing none none now clock

/-- The default error message of `abandon_authorized_execution_attempt`. -/
def abandonedMessage : String :=
  "Authorized execution was abandoned before browser invocation"

/-- `abandon_authorized_execution_attempt`. -/
def abandonAuthorizedExecutionAttempt (attemptId : String) (errorMessage : String)
    (now : Option DateTime) (clock : Stamp) : GovernanceTx ExecutionAttempt :=
  transitionAttempt attemptId .authorized .failed none (some errorMessage) now clock

/-- `confirm_execution_attempt`. -/
def confirmExecutionAttempt (attemptId : String) (resultProbe : Option (List (String × Json)))
    (now : Option DateTime) (clock : Stamp) : GovernanceTx ExecutionAttempt :=
  transitionAttempt attemptId .executing .confirmed resultProbe none now clock

/-- `fail_execution_attempt`. -/
def failExecutionAttempt (attemptId errorMessage : String)
    (resultProbe : Option (List (String × Json))) (now : Option DateTime) (clock : Stamp) :
    GovernanceTx ExecutionAttempt :=
  transitionAttempt attemptId .executing .failed resultProbe (some errorMessage) now clock

/-- `mark_execution_attempt_unknown`. -/
def markExecutionAttemptUnknown (attemptId errorMessage : String)
    (resultProbe : Option (List (String × Json))) (now : Option DateTime) (clock : Stamp) :
    GovernanceTx ExecutionAttempt :=
  transitionAttempt attemptId .executing .unknown resultProbe (some errorMessage) now clock

/-- `resolve_unknown_execution_attempt`. -/
def resolveUnknownExecutionAttempt (attemptId : String) (confirmed : Bool)
    (resultProbe : List (String × Json)) (now : Option DateTime) (clock : Stamp) :
    GovernanceTx ExecutionAttempt := do
  require (resultProbe.isEmpty = false) ⟨.executionAttemptError,
    "Resolving an unknown attempt requires result-probe evidence"⟩
  transitionAttempt attemptId .unknown (if confirmed then .confirmed else .failed)
    (some resultProbe) none now clock

/-! ## What registering does -/

/-- A permit that passed the context check was issued for this effect and profile. -/
theorem verifyPermitExecutionContext_eq_ok {permit : ExecutionPermitModel}
    {r : AuthorizeRequest} {clock : Stamp} {u : Unit}
    (h : verifyPermitExecutionContext permit r clock = .ok u) :
    ∃ context, permit.decisionPayload = .governed context ∧
      context.executionEffect = r.effect ∧ context.executionProfile = r.executionProfile ∧
      context.cuaExecutionEvidence = r.cuaExecutionEvidence := by
  unfold verifyPermitExecutionContext at h
  cases hp : permit.decisionPayload with
  | other => simp [hp] at h
  | governed context =>
      simp only [hp] at h
      refine ⟨context, rfl, ?_⟩
      by_contra hne
      grind

/-- What a registered attempt was checked against, and the rows it leaves. -/
theorem authorizeExecutionAttempt_eq_ok {P : Platform} {attemptId : String}
    {r : AuthorizeRequest} {clock : AuthorizeClock} {s t : ExecutionStore} {a : ExecutionAttempt}
    (h : authorizeExecutionAttempt P attemptId r clock s = .ok a t) :
    ∃ p : ExecutionPermitModel, ∃ context, ∃ at_ : DateTime,
      s.permits.find? r.permitId = some p ∧ p.status = .issued ∧
      p.decisionPayload = .governed context ∧ context.executionEffect = r.effect ∧
      context.executionProfile = r.executionProfile ∧
      p.actionFingerprint = r.actionFingerprint ∧ p.observationHash = r.observationHash ∧
      at_ = r.now.getD (DateTime.utc clock.consume) ∧ at_.bind ≤ p.expiresAt ∧
      existingAttempt p.taskId r.idempotencyKey s = none ∧
      (s.updatePermit r.permitId (ExecutionPermitModel.consume at_)).insertAttempt?
        (r.model P attemptId p clock.created) = some t ∧
      (r.model P attemptId p clock.created).toContract = .ok a := by
  simp only [authorizeExecutionAttempt, bind_eq_ok, require_eq_ok, fetch_eq_ok, lift_eq_ok,
    query_eq_ok, write?_eq_ok] at h
  obtain ⟨_, _, ⟨_, rfl⟩, p, _, ⟨hfind, rfl⟩, _, _, ⟨hcontext, rfl⟩, _, _, ⟨hfree, rfl⟩, m, s',
    hconsume, _, _, hinsert, hret, rfl⟩ := h
  obtain ⟨context, hpayload, heffect, hprofile, _⟩ := verifyPermitExecutionContext_eq_ok hcontext
  obtain ⟨p', at_, hfind', hissued, haf, hoh, hat, hle, rfl, rfl⟩ :=
    consumePermitModel_eq_ok hconsume
  cases hfind.symm.trans hfind'
  refine ⟨p, context, at_, hfind, hissued, hpayload, heffect, hprofile, haf, hoh, hat, hle, ?_,
    hinsert, hret⟩
  cases hex : existingAttempt p.taskId r.idempotencyKey _ with
  | none => rfl
  | some existing => simp [hex] at hfree

/-- A call that registered nothing changed at most the status of the permit. -/
theorem authorizeExecutionAttempt_eq_error {P : Platform} {attemptId : String}
    {r : AuthorizeRequest} {clock : AuthorizeClock} {s t : ExecutionStore} {e : Raised}
    (h : authorizeExecutionAttempt P attemptId r clock s = .error e t) :
    t = s ∨ ∃ p : ExecutionPermitModel, s.permits.find? r.permitId = some p ∧
      p.status = .issued ∧ (t = s.updatePermit r.permitId ExecutionPermitModel.expire ∨
        ∃ at_ : DateTime, at_.bind ≤ p.expiresAt ∧
          t = s.updatePermit r.permitId (ExecutionPermitModel.consume at_)) := by
  simp only [authorizeExecutionAttempt, bind_eq_error, require_eq_ok, require_eq_error,
    fetch_eq_ok, fetch_eq_error, lift_eq_ok, lift_eq_error, query_eq_ok, query_eq_error,
    write?_eq_ok, write?_eq_error] at h
  rcases h with ⟨_, _, rfl⟩ | ⟨_, _, ⟨_, rfl⟩, h⟩
  · exact .inl rfl
  rcases h with ⟨_, _, rfl⟩ | ⟨p, _, ⟨hfind, rfl⟩, h⟩
  · exact .inl rfl
  rcases h with ⟨_, rfl⟩ | ⟨_, _, ⟨_, rfl⟩, h⟩
  · exact .inl rfl
  rcases h with ⟨_, rfl⟩ | ⟨_, _, ⟨_, rfl⟩, h⟩
  · exact .inl rfl
  rcases h with hconsume | ⟨m, s', hconsume, h⟩
  · rcases consumePermitModel_eq_error hconsume with rfl | ⟨p, hp, hissued, rfl⟩
    · exact .inl rfl
    · exact .inr ⟨p, hp, hissued, .inl rfl⟩
  obtain ⟨p', at_, hfind', hissued, _, _, _, hle, rfl, rfl⟩ := consumePermitModel_eq_ok hconsume
  rcases h with ⟨_, _, rfl⟩ | ⟨_, _, _, hret, _⟩
  · exact .inr ⟨p', hfind', hissued, .inr ⟨at_, hle, rfl⟩⟩
  · simp [AuthorizeRequest.model, ExecutionAttemptModel.toContract] at hret

/-! ## What a transition does -/

/-- A transition that returned found the attempt in its first status. -/
theorem transitionAttempt_eq_ok {attemptId : String}
    {fromStatus toStatus : ExecutionAttemptStatus} {probe : Option (List (String × Json))}
    {message : Option String} {now : Option DateTime} {clock : Stamp} {s t : ExecutionStore}
    {a : ExecutionAttempt}
    (h : transitionAttempt attemptId fromStatus toStatus probe message now clock s = .ok a t) :
    ∃ m : ExecutionAttemptModel, s.attempts.find? attemptId = some m ∧ m.status = fromStatus ∧
      t = s.updateAttempt attemptId (ExecutionAttemptModel.transition toStatus
        (now.getD (DateTime.utc clock)) probe message) ∧
      ((ExecutionAttemptModel.transition toStatus (now.getD (DateTime.utc clock)) probe
        message).apply m).toContract = .ok a := by
  simp only [transitionAttempt, bind_eq_ok, fetch_eq_ok, require_eq_ok, write_eq_ok,
    lift_eq_ok] at h
  obtain ⟨m, _, ⟨hfind, rfl⟩, _, _, ⟨hstatus, rfl⟩, _, _, rfl, hret, rfl⟩ := h
  exact ⟨m, hfind, hstatus, rfl, hret⟩

/-- Whatever a transition returns, the store is as it was or the attempt moved. -/
theorem transitionAttempt_left (attemptId : String)
    (fromStatus toStatus : ExecutionAttemptStatus) (probe : Option (List (String × Json)))
    (message : Option String) (now : Option DateTime) (clock : Stamp) (s : ExecutionStore) :
    left (transitionAttempt attemptId fromStatus toStatus probe message now clock s) = s ∨
      ∃ m : ExecutionAttemptModel, s.attempts.find? attemptId = some m ∧ m.status = fromStatus ∧
        left (transitionAttempt attemptId fromStatus toStatus probe message now clock s) =
          s.updateAttempt attemptId (ExecutionAttemptModel.transition toStatus
            (now.getD (DateTime.utc clock)) probe message) := by
  cases h : transitionAttempt attemptId fromStatus toStatus probe message now clock s with
  | ok a t =>
      obtain ⟨m, hfind, hstatus, ht, _⟩ := transitionAttempt_eq_ok h
      exact .inr ⟨m, hfind, hstatus, ht⟩
  | error e t =>
      simp only [transitionAttempt, bind_eq_error, fetch_eq_ok, fetch_eq_error, require_eq_ok,
        require_eq_error, write_eq_ok, write_ne_error, lift_eq_error, false_or] at h
      rcases h with ⟨_, _, rfl⟩ | ⟨m, _, ⟨hfind, rfl⟩, h⟩
      · exact .inl rfl
      rcases h with ⟨_, _, rfl⟩ | ⟨_, _, ⟨hstatus, rfl⟩, _, _, rfl, _, rfl⟩
      · exact .inl rfl
      · exact .inr ⟨m, hfind, hstatus, rfl⟩

end AgentPact
