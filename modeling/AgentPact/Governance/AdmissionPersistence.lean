import Mathlib.Logic.Function.Basic
import AgentPact.Base.Lts
import AgentPact.Base.Table
import AgentPact.Governance.Admission

/-!
# Persistence of admissions

`governance/admission_persistence.py`: the two tables of admissions and their
outbox, and `persist_atomic` as the steps at which another call can come in
between.

A call is prepared from its bundle.  It then looks for an admission of its
request.  If it finds none it inserts its two rows, which the database does at
once or refuses.  After a refusal it looks again.  A session may fail at each of
these steps, and then nothing of its transaction is left.

What the fingerprint of a bundle is made of is a parameter.
-/

namespace AgentPact

open Base

namespace Admission

/-! ## Rows -/

/-- A row of `governed_task_admissions`. -/
structure GovernedTaskAdmissionModel where
  admissionId : String
  organizationId : String
  requestId : String
  taskId : String
  contractId : String
  bundleSchemaVersion : String
  admissionFingerprint : Digest
  bundleFingerprint : Digest
  mode : String
  committedAt : DateTime
deriving DecidableEq

/-- The request of an organization that an admission is for. -/
def GovernedTaskAdmissionModel.about (m : GovernedTaskAdmissionModel) : String × String :=
  (m.organizationId, m.requestId)

/-- A row of `governance_outbox`. -/
structure GovernanceOutboxModel where
  outboxId : String
  admissionId : String
  organizationId : String
  eventType : String
  status : String
  attemptCount : Nat
  createdAt : DateTime
deriving DecidableEq

/-- An id, a request of an organization and a task of it have one admission. -/
instance : Schema GovernedTaskAdmissionModel String where
  key m := m.admissionId
  clash a b := a.admissionId = b.admissionId || a.about = b.about ||
    (a.organizationId = b.organizationId && a.taskId = b.taskId)
  clash_of_key h := by simp [h]
  clash_symm h := by
    simp only [Bool.or_eq_true, Bool.and_eq_true, decide_eq_true_eq] at h ⊢
    rcases h with (h | h) | ⟨h, h'⟩
    · exact .inl (.inl h.symm)
    · exact .inl (.inr h.symm)
    · exact .inr ⟨h.symm, h'.symm⟩

/-- An id has one row, and an admission one row of each type. -/
instance : Schema GovernanceOutboxModel String where
  key o := o.outboxId
  clash a b := a.outboxId = b.outboxId ||
    (a.admissionId = b.admissionId && a.eventType = b.eventType)
  clash_of_key h := by simp [h]
  clash_symm h := by
    simp only [Bool.or_eq_true, Bool.and_eq_true, decide_eq_true_eq] at h ⊢
    rcases h with h | ⟨h, h'⟩
    · exact .inl h.symm
    · exact .inr ⟨h.symm, h'.symm⟩

/-- The tables that admissions are persisted in. -/
structure AdmissionStore where
  admissions : Table GovernedTaskAdmissionModel
  outbox : Table GovernanceOutboxModel

/-- `_find_existing`. -/
def AdmissionStore.findExisting (s : AdmissionStore) (about : String × String) :
    Option GovernedTaskAdmissionModel := (s.admissions.select fun m => m.about = about).head?

/-- What a caller is told. -/
structure TaskAdmissionReceipt where
  admissionId : String
  taskId : String
  contractId : String
  committedAt : DateTime
  duplicate : Bool
deriving DecidableEq

/-- `_to_receipt`. -/
def toReceipt (m : GovernedTaskAdmissionModel) (duplicate : Bool) : TaskAdmissionReceipt :=
  ⟨m.admissionId, m.taskId, m.contractId, m.committedAt, duplicate⟩

/-- The error of a request that was reused. -/
def admissionConflict : Raised :=
  ⟨.taskAdmissionConflict, "Capability request ID was reused with different admission semantics"⟩

/-- The error of a row that is not unique. -/
def notUnique : Raised := ⟨.integrityError, "uniqueness constraint violated"⟩

/-- `_resolve_existing`. -/
def resolveExisting (existing : GovernedTaskAdmissionModel) (admissionFingerprint : Digest) :
    Except Raised TaskAdmissionReceipt :=
  if existing.admissionFingerprint = admissionFingerprint then .ok (toReceipt existing true)
  else .error admissionConflict

/-! ## A call -/

/-- A repository of admissions. -/
structure Repository where
  allowedTenantIds : Finset String
  allowedCapabilityIds : Finset String
  /-- `_admission_fingerprint`, which subtracts datetimes. -/
  admissionFingerprint : TaskAdmissionBundle → Except Raised Digest
  /-- `_fingerprint` of the canonical payload. -/
  bundleFingerprint : TaskAdmissionBundle → Digest

/-- The rows that a call wants to insert. -/
structure AdmissionCall where
  model : GovernedTaskAdmissionModel
  outbox : GovernanceOutboxModel
  outbox_id : outbox.outboxId = "outbox_" ++ model.admissionId
  outbox_admission : outbox.admissionId = model.admissionId

/-- The tenants a bundle names. -/
def TaskAdmissionBundle.tenantIds (b : TaskAdmissionBundle) : Finset String :=
  {b.task.organizationId, b.creationSnapshot.organizationId, b.contract.organizationId,
    b.request.tenantId, b.auditRecord.organizationId}

/-- The capabilities a bundle names. -/
def TaskAdmissionBundle.capabilityIds (b : TaskAdmissionBundle) : Finset String :=
  {b.request.capabilityRef, b.auditRecord.capabilityId} ∪
    (b.grants.map (·.capabilityId)).toFinset ∪ (b.plan.steps.map (·.capabilityId)).toFinset ∪
    b.contract.allowedOperations

/-- The part of `persist_atomic` before its transaction. -/
def Repository.prepareRows (R : Repository) (b : TaskAdmissionBundle) (committedAt : DateTime) :
    Except Raised AdmissionCall := do
  check (b.task.mode = .audit ∧ b.contract.mode = .audit)
    "Task admission persistence remains audit-only"
  check (b.tenantIds.card = 1) "Task admission tenant bindings are inconsistent"
  check (b.tenantIds ⊆ R.allowedTenantIds)
    "Task admission tenant is outside the repository allowlist"
  check (b.capabilityIds ⊆ R.allowedCapabilityIds)
    "Task admission capability is outside the repository allowlist"
  let admissionFingerprint ← R.admissionFingerprint b
  pure {
    model := {
      admissionId := b.admissionId
      organizationId := b.task.organizationId
      requestId := b.request.requestId
      taskId := b.task.taskId
      contractId := b.contract.contractId
      bundleSchemaVersion := b.schemaVersion
      admissionFingerprint := admissionFingerprint
      bundleFingerprint := R.bundleFingerprint b
      mode := b.task.mode.value
      committedAt := committedAt }
    outbox := {
      outboxId := "outbox_" ++ b.admissionId
      admissionId := b.admissionId
      organizationId := b.task.organizationId
      eventType := b.auditRecord.eventType
      status := "pending"
      attemptCount := 0
      createdAt := committedAt }
    outbox_id := rfl
    outbox_admission := rfl }

/-- Insert the two rows of a call, if both are unique. -/
def AdmissionStore.insertBoth? (s : AdmissionStore) (c : AdmissionCall) : Option AdmissionStore :=
  match s.admissions.insert? c.model, s.outbox.insert? c.outbox with
  | some admissions, some outbox => some ⟨admissions, outbox⟩
  | _, _ => none

/-- How far a call is. -/
inductive CallPhase where
  | idle
  /-- It was refused before its transaction. -/
  | refused (e : Raised)
  | finding (c : AdmissionCall)
  | inserting (c : AdmissionCall)
  /-- Its rows were not unique. -/
  | rereading (c : AdmissionCall)
  /-- A session failed. -/
  | failed (c : AdmissionCall) (e : Raised)
  | done (c : AdmissionCall) (result : Except Raised TaskAdmissionReceipt)

/-- A step of a call. -/
inductive CallLabel where
  | start (bundle : TaskAdmissionBundle) (committedAt : DateTime)
  | find | insert | reread
  | fail (e : Raised)

/-- What a step makes of the store and of the phase of its call. -/
def CallPhase.next (R : Repository) (s : AdmissionStore) :
    CallPhase → CallLabel → Option (AdmissionStore × CallPhase)
  | .idle, .start bundle committedAt =>
      match R.prepareRows bundle committedAt with
      | .ok c => some (s, .finding c)
      | .error e => some (s, .refused e)
  | .finding c, .find =>
      match s.findExisting c.model.about with
      | some existing => some (s, .done c (resolveExisting existing c.model.admissionFingerprint))
      | none => some (s, .inserting c)
  | .inserting c, .insert =>
      match s.insertBoth? c with
      | some s' => some (s', .done c (.ok (toReceipt c.model false)))
      | none => some (s, .rereading c)
  | .rereading c, .reread =>
      match s.findExisting c.model.about with
      | some existing => some (s, .done c (resolveExisting existing c.model.admissionFingerprint))
      | none => some (s, .done c (.error notUnique))
  | .finding c, .fail e => some (s, .failed c e)
  | .inserting c, .fail e => some (s, .failed c e)
  | .rereading c, .fail e => some (s, .failed c e)
  | _, _ => none

/-! ## Many calls -/

/-- The calls there are, and the tables they share. -/
structure AdmissionWorld (ι : Type) where
  store : AdmissionStore
  phase : ι → CallPhase

/-- What a step of one of the calls leads to. -/
def AdmissionWorld.next {ι : Type} [DecidableEq ι] (R : Repository) (w : AdmissionWorld ι)
    (label : ι × CallLabel) : Option (AdmissionWorld ι) :=
  ((w.phase label.1).next R w.store label.2).map fun moved =>
    ⟨moved.1, Function.update w.phase label.1 moved.2⟩

/-- A step of one of the calls. -/
def AdmissionStep {ι : Type} [DecidableEq ι] (R : Repository) (label : ι × CallLabel)
    (w v : AdmissionWorld ι) : Prop := w.next R label = some v

end Admission

end AgentPact
