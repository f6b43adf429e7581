import AgentPact.Governance.Store

/-!
# Permits

`governance/permit_service.py`.  A permit is issued for one allowed action on
one observation, lives for a short time, and is consumed once.

An argument `now` is the optional argument of the source, and `clock` is what
the system clock reads where the argument is absent.  A generated primary key
is an argument too, and inserting a key that exists raises.

`consumePermitModel_eq_ok` is all a caller needs of a permit that was consumed.
`consumePermitModel_left` says what the store is afterwards in every case: an
expired permit is marked before the raise.
-/

namespace AgentPact

open Base Transaction

/-- A program over the permit and attempt tables. -/
abbrev GovernanceTx (α : Type) := Transaction Raised ExecutionStore α

/-- The contract of a permit. -/
structure ExecutionPermit where
  permitId : String
  taskId : String
  stepId : String
  actionFingerprint : String
  observationId : String
  policyDecisionId : String
  issuedAt : Stamp
  expiresAt : Stamp
  usedAt : Option Stamp
deriving DecidableEq, Repr

/-- `_to_contract` of a permit. -/
def ExecutionPermitModel.toContract (model : ExecutionPermitModel) : ExecutionPermit where
  permitId := model.permitId
  taskId := model.taskId
  stepId := model.stepId
  actionFingerprint := model.actionFingerprint
  observationId := model.observationHash
  policyDecisionId := model.policyDecisionId
  issuedAt := model.issuedAt
  expiresAt := model.expiresAt
  usedAt := model.usedAt

/-- The arguments of `issue_permit`. -/
structure IssueRequest where
  taskId : String
  stepId : String
  contractId : String
  actionFingerprint : String
  observationHash : String
  decision : PolicyDecision
  effect : ExecutionEffect
  executionProfile : ExecutionProfile
  cuaExecutionEvidence : Option CUAExecutionEvidence
  ttlSeconds : Int

/-- The row `issue_permit` adds. -/
def IssueRequest.model (r : IssueRequest) (permitId : String) (issuedAt expiresAt : DateTime) :
    ExecutionPermitModel where
  permitId := permitId
  taskId := r.taskId
  stepId := r.stepId
  contractId := r.contractId
  actionFingerprint := r.actionFingerprint
  observationHash := r.observationHash
  policyDecisionId := r.decision.decisionId
  decisionPayload := .governed
    { policyDecision := r.decision
      executionEffect := r.effect
      executionProfile := r.executionProfile
      cuaExecutionEvidence := r.cuaExecutionEvidence }
  status := .issued
  issuedAt := issuedAt.bind
  expiresAt := expiresAt.bind
  usedAt := none

/-- `issue_permit`. -/
def issuePermit (permitId : String) (r : IssueRequest) (clock : Stamp) :
    GovernanceTx ExecutionPermit := do
  require (r.decision.outcome = .allow)
    ⟨.permitValidationError, "Only allow decisions can issue execution permits"⟩
  require (0 < r.ttlSeconds)
    ⟨.permitValidationError, "Execution permit TTL must be positive"⟩
  let _ ← lift (requireAllowedProfile r.effect r.executionProfile)
  let now := DateTime.utc clock
  lift (requireCuaExecutionEvidence r.executionProfile r.cuaExecutionEvidence
    r.actionFingerprint r.observationHash now)
  let expiresAt ← lift (now.add (r.ttlSeconds * DateTime.second))
  let model := r.model permitId now expiresAt
  write? (fun s => s.insertPermit? model) ⟨.integrityError, "execution_permits"⟩
  pure model.toContract

/-- `consume_permit_model`. -/
def consumePermitModel (permitId actionFingerprint observationHash : String)
    (now : Option DateTime) (clock : Stamp) : GovernanceTx ExecutionPermitModel := do
  let now := now.getD (DateTime.utc clock)
  let model ← fetch (fun s => s.permits.find? permitId)
    ⟨.permitValidationError, "Execution permit does not exist"⟩
  require (model.status = .issued)
    ⟨.permitValidationError, "Execution permit is not available"⟩
  let same ← lift (compareBoth model.actionFingerprint actionFingerprint
    model.observationHash observationHash)
  require (same = true)
    ⟨.permitValidationError, "Execution permit does not match action or observation"⟩
  let late ← lift ((DateTime.utc model.expiresAt).lt now)
  if late then
    write fun s => s.updatePermit permitId ExecutionPermitModel.expire
    throw ⟨.permitValidationError, "Execution permit has expired"⟩
  else
    write fun s => s.updatePermit permitId (ExecutionPermitModel.consume now)
    pure ((ExecutionPermitModel.consume now).apply model)

/-- `consume_permit`. -/
def consumePermit (permitId actionFingerprint observationHash : String)
    (now : Option DateTime) (clock : Stamp) : GovernanceTx ExecutionPermit := do
  let model ← consumePermitModel permitId actionFingerprint observationHash now clock
  pure model.toContract

/-! ## What issuing does -/

/-- A permit is issued for an allowed decision and a profile that may carry its effect. -/
theorem issuePermit_eq_ok {permitId : String} {r : IssueRequest} {clock : Stamp}
    {s t : ExecutionStore} {permit : ExecutionPermit}
    (h : issuePermit permitId r clock s = .ok permit t) :
    ∃ expiresAt, r.decision.outcome = .allow ∧
      (decideProfile r.effect r.executionProfile).allowed = true ∧
      s.insertPermit? (r.model permitId (DateTime.utc clock) expiresAt) = some t := by
  simp only [issuePermit, bind_eq_ok, require_eq_ok, lift_eq_ok, write?_eq_ok, pure_apply] at h
  obtain ⟨_, _, ⟨hallow, rfl⟩, _, _, ⟨_, rfl⟩, _, _, ⟨hprofile, rfl⟩, _, _, ⟨_, rfl⟩, expiresAt,
    _, ⟨_, rfl⟩, _, _, hinsert, hret⟩ := h
  cases hret
  exact ⟨expiresAt, hallow, (requireAllowedProfile_eq_ok.mp hprofile).1, hinsert⟩

/-- A permit that was not issued left the store alone. -/
theorem issuePermit_eq_error {permitId : String} {r : IssueRequest} {clock : Stamp}
    {s t : ExecutionStore} {e : Raised} (h : issuePermit permitId r clock s = .error e t) :
    t = s := by
  simp only [issuePermit, bind_eq_error, require_eq_ok, require_eq_error, lift_eq_ok,
    lift_eq_error, write?_eq_ok, write?_eq_error, pure_apply] at h
  grind

/-! ## What consuming does -/

/-- A permit that was consumed was issued, matched, and had not expired. -/
theorem consumePermitModel_eq_ok {permitId actionFingerprint observationHash : String}
    {now : Option DateTime} {clock : Stamp} {s t : ExecutionStore} {m : ExecutionPermitModel}
    (h : consumePermitModel permitId actionFingerprint observationHash now clock s = .ok m t) :
    ∃ p : ExecutionPermitModel, ∃ at_ : DateTime, s.permits.find? permitId = some p ∧
      p.status = .issued ∧ p.actionFingerprint = actionFingerprint ∧
      p.observationHash = observationHash ∧ at_ = now.getD (DateTime.utc clock) ∧
      at_.bind ≤ p.expiresAt ∧ m = (ExecutionPermitModel.consume at_).apply p ∧
      t = s.updatePermit permitId (ExecutionPermitModel.consume at_) := by
  simp only [consumePermitModel, bind_eq_ok, fetch_eq_ok, require_eq_ok, lift_eq_ok] at h
  obtain ⟨p, _, ⟨hfind, rfl⟩, _, _, ⟨hissued, rfl⟩, same, _, ⟨hsame, rfl⟩, _, _, ⟨rfl, rfl⟩,
    late, _, ⟨hlate, rfl⟩, h⟩ := h
  obtain ⟨haf, hoh⟩ := compareBoth_eq_true hsame
  have hlt := (DateTime.lt_eq_ok.mp hlate).2
  split at h
  · simp [bind_eq_ok] at h
  case isFalse hnot =>
    simp only [bind_eq_ok, write_eq_ok, pure_apply] at h
    obtain ⟨_, _, rfl, hret⟩ := h
    cases hret
    refine ⟨p, _, hfind, hissued, haf, hoh, rfl, ?_, rfl, rfl⟩
    rw [hlt] at hnot
    exact Int.not_lt.mp fun hl => hnot (decide_eq_true hl)

/-- A permit that was not consumed is as it was, or was issued and is marked expired. -/
theorem consumePermitModel_eq_error {permitId actionFingerprint observationHash : String}
    {now : Option DateTime} {clock : Stamp} {s t : ExecutionStore} {e : Raised}
    (h : consumePermitModel permitId actionFingerprint observationHash now clock s = .error e t) :
    t = s ∨ ∃ p : ExecutionPermitModel, s.permits.find? permitId = some p ∧ p.status = .issued ∧
      t = s.updatePermit permitId ExecutionPermitModel.expire := by
  simp only [consumePermitModel, bind_eq_error, fetch_eq_ok, fetch_eq_error, require_eq_ok,
    require_eq_error, lift_eq_ok, lift_eq_error] at h
  rcases h with ⟨_, _, rfl⟩ | ⟨p, _, ⟨hfind, rfl⟩, h⟩
  · exact .inl rfl
  rcases h with ⟨_, _, rfl⟩ | ⟨_, _, ⟨hissued, rfl⟩, h⟩
  · exact .inl rfl
  rcases h with ⟨_, rfl⟩ | ⟨_, _, ⟨_, rfl⟩, h⟩
  · exact .inl rfl
  rcases h with ⟨_, _, rfl⟩ | ⟨_, _, ⟨_, rfl⟩, h⟩
  · exact .inl rfl
  rcases h with ⟨_, rfl⟩ | ⟨late, _, ⟨_, rfl⟩, h⟩
  · exact .inl rfl
  split at h
  · simp only [bind_eq_error, write_eq_ok, write_ne_error, throw_apply, false_or] at h
    obtain ⟨_, _, rfl, hret⟩ := h
    cases hret
    exact .inr ⟨p, hfind, hissued, rfl⟩
  · simp only [bind_eq_error, write_eq_ok, write_ne_error, pure_apply, false_or] at h
    obtain ⟨_, _, _, hret⟩ := h
    cases hret

end AgentPact
