import AgentPact.Base.Table
import AgentPact.Base.Transaction
import AgentPact.Governance.Contracts

/-!
# The permit and attempt tables

The rows of `execution_permits` and `execution_attempts`
(`governance/models.py`), their uniqueness constraints, and the store that
holds the two tables.

A timestamp column holds microseconds: `UtcNaiveDateTime` binds an aware value
to its UTC instant and a naive one as it is.  The payload of a permit is either
the governed context that `issue_permit` writes or anything else.

The store is read through `find?` and `select`, and written through the four
functions of the last section.  Those are the only writes the services make.
-/

namespace AgentPact

open Base

/-- A timestamp column. -/
abbrev Stamp := Int

/-- `UtcNaiveDateTime.process_bind_param`. -/
def DateTime.bind (d : DateTime) : Stamp := d.micros

/-! ## Rows -/

/-- The status of a permit. -/
inductive PermitStatus where
  | issued | consumed | revoked | expired
deriving DecidableEq, Repr

/-- The governed context a permit was issued for. -/
structure GovernedContext where
  policyDecision : PolicyDecision
  executionEffect : ExecutionEffect
  executionProfile : ExecutionProfile
  cuaExecutionEvidence : Option CUAExecutionEvidence
deriving DecidableEq

/-- The payload of a permit. -/
inductive DecisionPayload where
  /-- The document `issue_permit` writes. -/
  | governed (context : GovernedContext)
  /-- A payload that does not parse as one. -/
  | other
deriving DecidableEq

/-- A row of `execution_permits`. -/
structure ExecutionPermitModel where
  permitId : String
  taskId : String
  stepId : String
  contractId : String
  actionFingerprint : String
  observationHash : String
  policyDecisionId : String
  decisionPayload : DecisionPayload
  status : PermitStatus
  issuedAt : Stamp
  expiresAt : Stamp
  usedAt : Option Stamp
deriving DecidableEq

/-- A row of `execution_attempts`. -/
structure ExecutionAttemptModel where
  attemptId : String
  taskId : String
  stepId : String
  contractId : String
  permitId : Option String
  actionFingerprint : String
  observationHash : String
  status : ExecutionAttemptStatus
  idempotencyKey : Option String
  idempotencyKeyDigest : Option Digest
  executionEffect : Option ExecutionEffect
  resultProbeRef : Option String
  resultProbe : Option (List (String × Json))
  errorMessage : Option String
  startedAt : Option Stamp
  completedAt : Option Stamp
  createdAt : Stamp

/-- Two values that are both present and equal, as a unique index compares them. -/
def bothEqual {α : Type} [DecidableEq α] : Option α → Option α → Bool
  | some a, some b => a = b
  | _, _ => false

theorem bothEqual_iff {α : Type} [DecidableEq α] {a b : Option α} :
    bothEqual a b = true ↔ ∃ x, a = some x ∧ b = some x := by
  cases a <;> cases b <;> simp [bothEqual, eq_comm]

instance : Schema ExecutionPermitModel String where
  key r := r.permitId
  clash a b := a.permitId = b.permitId
  clash_of_key h := by simpa using h
  clash_symm h := by simpa [eq_comm] using h

/-- The unique constraints of `execution_attempts`: the primary key, `permit_id`, and
`uq_execution_attempt_idempotency`. -/
def ExecutionAttemptModel.clash (a b : ExecutionAttemptModel) : Bool :=
  a.attemptId = b.attemptId || bothEqual a.permitId b.permitId ||
    (a.taskId = b.taskId && bothEqual a.idempotencyKey b.idempotencyKey)

theorem ExecutionAttemptModel.clash_iff {a b : ExecutionAttemptModel} :
    a.clash b = true ↔ a.attemptId = b.attemptId ∨
      (∃ p, a.permitId = some p ∧ b.permitId = some p) ∨
      (a.taskId = b.taskId ∧ ∃ k, a.idempotencyKey = some k ∧ b.idempotencyKey = some k) := by
  simp [clash, bothEqual_iff, or_assoc]

instance : Schema ExecutionAttemptModel String where
  key r := r.attemptId
  clash := ExecutionAttemptModel.clash
  clash_of_key h := ExecutionAttemptModel.clash_iff.mpr (.inl h)
  clash_symm h := by
    rcases ExecutionAttemptModel.clash_iff.mp h with h | ⟨p, ha, hb⟩ | ⟨ht, k, ha, hb⟩
    · exact ExecutionAttemptModel.clash_iff.mpr (.inl h.symm)
    · exact ExecutionAttemptModel.clash_iff.mpr (.inr (.inl ⟨p, hb, ha⟩))
    · exact ExecutionAttemptModel.clash_iff.mpr (.inr (.inr ⟨ht.symm, k, hb, ha⟩))

/-! ## The changes of a row -/

/-- Mark a permit expired. -/
def ExecutionPermitModel.expire : Edit ExecutionPermitModel where
  apply r := { r with status := .expired }
  key_apply _ := rfl
  tame h := h

/-- Mark a permit consumed. -/
def ExecutionPermitModel.consume (now : DateTime) : Edit ExecutionPermitModel where
  apply r := { r with status := .consumed, usedAt := some now.bind }
  key_apply _ := rfl
  tame h := h

/-- What `_transition_attempt` writes. -/
def ExecutionAttemptModel.transition (toStatus : ExecutionAttemptStatus) (timestamp : DateTime)
    (resultProbe : Option (List (String × Json))) (errorMessage : Option String) :
    Edit ExecutionAttemptModel where
  apply r :=
    if toStatus = .executing then
      { r with status := toStatus, startedAt := some timestamp.bind }
    else
      { r with status := toStatus, completedAt := some timestamp.bind,
               resultProbe := resultProbe, errorMessage := errorMessage }
  key_apply r := by split <;> rfl
  tame {r x} h := by
    split at h <;> exact h

/-! ## The store -/

/-- The two tables. -/
structure ExecutionStore where
  permits : Table ExecutionPermitModel
  attempts : Table ExecutionAttemptModel

namespace ExecutionStore

/-- The store without rows. -/
def empty : ExecutionStore := ⟨.empty, .empty⟩

/-- Insert a permit. -/
def insertPermit? (s : ExecutionStore) (r : ExecutionPermitModel) : Option ExecutionStore :=
  (s.permits.insert? r).map fun t => { s with permits := t }

/-- Insert an attempt. -/
def insertAttempt? (s : ExecutionStore) (r : ExecutionAttemptModel) : Option ExecutionStore :=
  (s.attempts.insert? r).map fun t => { s with attempts := t }

/-- Change a permit. -/
def updatePermit (s : ExecutionStore) (id : String) (e : Edit ExecutionPermitModel) :
    ExecutionStore := { s with permits := s.permits.update id e }

/-- Change an attempt. -/
def updateAttempt (s : ExecutionStore) (id : String) (e : Edit ExecutionAttemptModel) :
    ExecutionStore := { s with attempts := s.attempts.update id e }

theorem insertPermit?_eq_some {s t : ExecutionStore} {r : ExecutionPermitModel} :
    s.insertPermit? r = some t ↔
      s.permits.insert? r = some t.permits ∧ t.attempts = s.attempts := by
  obtain ⟨p, a⟩ := t
  cases h : s.permits.insert? r <;> simp [insertPermit?, h, eq_comm]

theorem insertAttempt?_eq_some {s t : ExecutionStore} {r : ExecutionAttemptModel} :
    s.insertAttempt? r = some t ↔
      s.attempts.insert? r = some t.attempts ∧ t.permits = s.permits := by
  obtain ⟨p, a⟩ := t
  cases h : s.attempts.insert? r <;> simp [insertAttempt?, h, eq_comm, and_comm]

@[simp] theorem updatePermit_permits {s : ExecutionStore} {id : String}
    {e : Edit ExecutionPermitModel} :
    (s.updatePermit id e).permits = s.permits.update id e := rfl

@[simp] theorem updatePermit_attempts {s : ExecutionStore} {id : String}
    {e : Edit ExecutionPermitModel} : (s.updatePermit id e).attempts = s.attempts := rfl

@[simp] theorem updateAttempt_permits {s : ExecutionStore} {id : String}
    {e : Edit ExecutionAttemptModel} : (s.updateAttempt id e).permits = s.permits := rfl

@[simp] theorem updateAttempt_attempts {s : ExecutionStore} {id : String}
    {e : Edit ExecutionAttemptModel} :
    (s.updateAttempt id e).attempts = s.attempts.update id e := rfl

end ExecutionStore

end AgentPact
