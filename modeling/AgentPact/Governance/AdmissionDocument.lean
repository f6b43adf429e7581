import AgentPact.Agent.PlannerObservation
import AgentPact.Governance.Admission
import AgentPact.Sorting

/-!
# The document of an admission

`model_dump` of a bundle, `canonical_task_admission_payload` of
`governance/admission.py`, and the payload that `_admission_fingerprint` of
`governance/admission_persistence.py` hashes.

`model_dump` writes a set in the order in which the set is iterated.  Two sets
that are equal may be iterated in different orders, so each field of a bundle
that holds a set has an order of its own, in an `Enumeration`.
-/

namespace AgentPact

/-! ## Dumping a bundle -/

/-- The text of a disposition. -/
def AccessDisposition.value : AccessDisposition → String
  | .allow => "allow"
  | .allowExecute => "allow_execute"
  | .allowRequestApproval => "allow_request_approval"
  | .needClarification => "need_clarification"
  | .deny => "deny"

/-- The text of a kind. -/
def CapabilityRequestKind.value : CapabilityRequestKind → String
  | .discover => "discover"
  | .read => "read"
  | .transition => "transition"
  | .approvalRequest => "approval_request"
  | .approvalAdjudication => "approval_adjudication"

/-- The text of a mode. -/
def EntryMode.value : EntryMode → String
  | .ui => "ui"
  | .chat => "chat"

/-- The text of a reason. -/
def ReplanReason.value : ReplanReason → String
  | .businessStateChanged => "business_state_changed"
  | .inputClarification => "input_clarification"
  | .policyOrPermissionChanged => "policy_or_permission_changed"
  | .executionFailure => "execution_failure"

namespace Admission.Process

variable (O : Process)

/-- The document of a set. -/
def setDump (s : Finset String) : Json := .arr ((O.iterate s).map .str)

/-- The document of a datetime. -/
def timeDump (t : DateTime) : Json := .str (O.platform.isoformat t)

def contractDump (c : TaskContract) : Json :=
  .obj [("contract_id", .str c.contractId), ("task_id", .str c.taskId),
    ("organization_id", .str c.organizationId), ("initiator_id", .ofOption .str c.initiatorId),
    ("service_principal_id", .ofOption .str c.servicePrincipalId),
    ("department_id", .ofOption .str c.departmentId),
    ("business_line_id", .ofOption .str c.businessLineId), ("goal", .str c.goal),
    ("allowed_operations", O.setDump c.allowedOperations), ("data_scope", c.dataScope.toJson),
    ("authorization_snapshot", c.authorizationSnapshot.toJson),
    ("policy_profile", .str c.policyProfile), ("policy_version", .str c.policyVersion),
    ("success_criteria", .arr (c.successCriteria.map .str)),
    ("expires_at", .ofOption O.timeDump c.expiresAt), ("version", .num c.version),
    ("mode", .str c.mode.value)]

def requestDump (r : CapabilityRequest) : Json :=
  .obj [("request_id", .str r.requestId), ("submitted_at", O.timeDump r.submittedAt),
    ("entry_mode", .str r.entryMode.value), ("principal_ref", .str r.principalRef),
    ("session_ref", .str r.sessionRef), ("tenant_id", .str r.tenantId),
    ("requested_scope", O.scopeDump r.requestedScope), ("capability_ref", .str r.capabilityRef),
    ("capability_version", .str r.capabilityVersion), ("request_kind", .str r.requestKind.value),
    ("typed_inputs", r.typedInputs.toJson), ("resource_refs", O.setDump r.resourceRefs),
    ("approval_round_ref", .ofOption .str r.approvalRoundRef),
    ("user_intent_summary", .str r.userIntentSummary), ("grant_ref", .str r.grantRef),
    ("contract_versions", r.contractVersions.toJson)]

def grantDump (g : CapabilityGrant) : Json :=
  .obj [("grant_id", .str g.grantId), ("capability_id", .str g.capabilityId),
    ("capability_version", .str g.capabilityVersion), ("principal_id", .str g.principalId),
    ("business_principal_id", .ofOption .str g.businessPrincipalId),
    ("workload_principal_id", .ofOption .str g.workloadPrincipalId), ("tenant_id", .str g.tenantId),
    ("data_scope", O.scopeDump g.dataScope), ("disposition", .str g.disposition.value),
    ("allowed_dimensions", O.setDump (g.allowedDimensions.image (·.value))),
    ("policy_snapshot_version", .str g.policySnapshotVersion),
    ("revocation_epoch", .str g.revocationEpoch), ("resolved_at", O.timeDump g.resolvedAt),
    ("not_before", .ofOption O.timeDump g.notBefore), ("expires_at", O.timeDump g.expiresAt)]

def planDump (p : BusinessPlan) : Json :=
  .obj [("plan_id", .str p.planId), ("request_id", .ofOption .str p.requestId),
    ("task_id", .str p.taskId), ("contract_id", .str p.contractId),
    ("data_scope", O.scopeDump p.dataScope), ("version", .num p.version),
    ("replan_reason", .ofOption (fun r => .str r.value) p.replanReason),
    ("steps", .arr (p.steps.map BusinessPlanStep.modelDump))]

def workOrderDump (w : ExecutionWorkOrder) : Json :=
  .obj [("work_order_id", .str w.workOrderId),
    ("business_plan_step_id", .str w.businessPlanStepId), ("task_id", .str w.taskId),
    ("contract_id", .str w.contractId), ("plan_task_id", .ofOption .str w.planTaskId),
    ("authority_contract_id", .ofOption .str w.authorityContractId), ("grant_id", .str w.grantId),
    ("navigation_goal", .str w.navigationGoal),
    ("allowed_operations", O.setDump w.allowedOperations),
    ("prohibited_operations", O.setDump w.prohibitedOperations),
    ("success_criteria", .arr (w.successCriteria.map .str)),
    ("required_evidence", .arr (w.requiredEvidence.map .str)),
    ("max_recovery_level", .str w.maxRecoveryLevel.value),
    ("result_probe_ref", .str w.resultProbeRef)]

def auditDump (a : AdmissionAuditRecord) : Json :=
  .obj [("event_type", .str a.eventType), ("admission_id", .str a.admissionId),
    ("request_id", .str a.requestId), ("task_id", .str a.taskId),
    ("organization_id", .str a.organizationId), ("contract_id", .str a.contractId),
    ("plan_id", .str a.planId), ("grant_id", .str a.grantId),
    ("capability_id", .str a.capabilityId), ("capability_version", .str a.capabilityVersion),
    ("policy_version", .str a.policyVersion), ("revocation_epoch", .str a.revocationEpoch),
    ("mode", .str a.mode.value), ("created_at", O.timeDump a.createdAt)]

def bindingDump (b : PackRuntimeBinding) : Json :=
  .obj [("pack_id", .str b.packId), ("pack_version", .str b.packVersion),
    ("capability_ids", .arr (b.capabilityIds.map .str)), ("adapter_id", .str b.adapterId)]

/-- `model_dump(mode="json")` of a bundle. -/
def bundleDump (b : Admission.TaskAdmissionBundle) : Json :=
  .obj [("schema_version", .str b.schemaVersion), ("provider_mode", .str b.providerMode),
    ("runtime_binding", .ofOption bindingDump b.runtimeBinding), ("planner_observation", .null),
    ("admission_id", .str b.admissionId),
    ("task", .obj [("task_id", .str b.task.taskId), ("organization_id", .str b.task.organizationId),
      ("goal", .str b.task.goal), ("mode", .str b.task.mode.value)]),
    ("creation_snapshot", b.creationSnapshot.modelDump O.platform),
    ("contract", O.contractDump b.contract), ("request", O.requestDump b.request),
    ("grants", .arr (b.grants.map O.grantDump)), ("plan", O.planDump b.plan),
    ("work_orders", .arr (b.workOrders.map O.workOrderDump)),
    ("audit_record", O.auditDump b.auditRecord)]

end Admission.Process

/-! ## Changing a document -/

namespace Json

/-- `doc[key] = value`. -/
def set (doc : Json) (key : String) (value : Json) : Json :=
  match doc with
  | .obj fields => .obj (setField key value fields)
  | _ => doc

/-- `doc.pop(key, None)` of a dictionary, which leaves other values as they are. -/
def pop (doc : Json) (key : String) : Json :=
  match doc with
  | .obj fields => .obj (fields.filter fun f => f.1 ≠ key)
  | _ => doc

/-- Change `doc[key]`. -/
def alter (doc : Json) (key : String) (f : Json → Except Raised Json) : Except Raised Json :=
  match doc.field? key with
  | some value => do
      let changed ← f value
      pure (doc.set key changed)
  | none => .error ⟨.keyError, key⟩

/-- Change each document with the value it was dumped from, `zip(docs, values, strict=True)`. -/
def alterEach {α : Type} (f : Nat → α → Json → Except Raised Json) :
    Nat → List α → List Json → Except Raised (List Json)
  | _, [], [] => .ok []
  | i, a :: as, doc :: docs => do
      let changed ← f i a doc
      let rest ← alterEach f (i + 1) as docs
      pure (changed :: rest)
  | _, _, _ => .error ⟨.valueError, "zip() arguments have different lengths"⟩

/-- Change the documents of an array. -/
def alterArray {α : Type} (f : Nat → α → Json → Except Raised Json) (as : List α) :
    Json → Except Raised Json
  | .arr docs => do
      let changed ← alterEach f 0 as docs
      pure (.arr changed)
  | _ => .error ⟨.typeError, "zip() argument is not iterable"⟩

/-- `_sort_scope_resources`. -/
def sortScopeResources (scope : Json) : Except Raised Json :=
  match scope.field? "resource_ids" with
  | some (.arr ids) => do
      let ids ← sorted ids
      pure (scope.set "resource_ids" (.arr ids))
  | _ => .ok scope

end Json

namespace Admission

/-! ## Iterating over sets -/

/-- A field of a bundle that holds a set.  Grants and work orders are counted from zero. -/
inductive SetField where
  | contractOperations | resourceRefs | requestedResources | planResources
  | grantDimensions (i : Nat) | grantResources (i : Nat)
  | allowedOperations (i : Nat) | prohibitedOperations (i : Nat)
deriving DecidableEq

/-- The orders in which the fields that hold sets are iterated. -/
structure Enumeration where
  order : SetField → Finset String → List String
  /-- Each element comes once. -/
  complete : ∀ field s, (order field s).Nodup ∧ (order field s).toFinset = s

/-- The document of a set. -/
def Enumeration.dump (e : Enumeration) (field : SetField) (s : Finset String) : Json :=
  .arr ((e.order field s).map .str)

/-- `sorted` of a set. -/
def Enumeration.sorted (e : Enumeration) (field : SetField) (s : Finset String) : Json :=
  .arr (((e.order field s).insertionSort (· ≤ ·)).map .str)

/-- The process while it iterates over a field. -/
def Process.at (O : Process) (e : Enumeration) (field : SetField) : Process :=
  { O with iterate := e.order field }

/-- A bundle, and what was observed of the planner. -/
structure ObservedBundle extends TaskAdmissionBundle where
  plannerObservation : Option PlannerObservation

/-- The bundle that `prepare` returns has no observation. -/
def TaskAdmissionBundle.unobserved (b : TaskAdmissionBundle) : ObservedBundle :=
  { b with plannerObservation := none }

/-! ## The canonical payload -/

section

variable (O : Process) (e : Enumeration)

/-- The document of a request. -/
def dumpRequest (r : CapabilityRequest) : Json :=
  ((O.at e .requestedResources).requestDump r).set "resource_refs"
    (e.dump .resourceRefs r.resourceRefs)

/-- The document of a grant. -/
def dumpGrant (i : Nat) (g : CapabilityGrant) : Json :=
  ((O.at e (.grantResources i)).grantDump g).set "allowed_dimensions"
    (e.dump (.grantDimensions i) (g.allowedDimensions.image (·.value)))

/-- The document of a work order. -/
def dumpWorkOrder (i : Nat) (w : ExecutionWorkOrder) : Json :=
  ((O.at e (.allowedOperations i)).workOrderDump w).set "prohibited_operations"
    (e.dump (.prohibitedOperations i) w.prohibitedOperations)

/-- `model_dump(mode="json")` of a bundle. -/
def dumpBundle (b : ObservedBundle) : Json :=
  (((((O.bundleDump b.toTaskAdmissionBundle).set "planner_observation"
    (.ofOption PlannerObservation.modelDump b.plannerObservation)).set "contract"
    ((O.at e .contractOperations).contractDump b.contract)).set "request"
    (dumpRequest O e b.request)).set "grants" (.arr (b.grants.mapIdx (dumpGrant O e)))).set "plan"
    ((O.at e .planResources).planDump b.plan) |>.set "work_orders"
    (.arr (b.workOrders.mapIdx (dumpWorkOrder O e)))

/-- Sort the sets of a contract. -/
def sortContract (c : TaskContract) (doc : Json) : Except Raised Json :=
  (doc.set "allowed_operations" (e.sorted .contractOperations c.allowedOperations)).alter
    "data_scope" Json.sortScopeResources

/-- Sort the sets of a request. -/
def sortRequest (r : CapabilityRequest) (doc : Json) : Except Raised Json :=
  (doc.set "resource_refs" (e.sorted .resourceRefs r.resourceRefs)).alter
    "requested_scope" Json.sortScopeResources

/-- Sort the set of a plan. -/
def sortPlan (doc : Json) : Except Raised Json := doc.alter "data_scope" Json.sortScopeResources

/-- Sort the sets of a grant. -/
def sortGrant (i : Nat) (g : CapabilityGrant) (doc : Json) : Except Raised Json :=
  (doc.set "allowed_dimensions"
    (e.sorted (.grantDimensions i) (g.allowedDimensions.image (·.value)))).alter
    "data_scope" Json.sortScopeResources

/-- Sort the sets of a work order. -/
def sortWorkOrder (i : Nat) (w : ExecutionWorkOrder) (doc : Json) : Except Raised Json :=
  .ok ((doc.set "allowed_operations" (e.sorted (.allowedOperations i) w.allowedOperations)).set
    "prohibited_operations" (e.sorted (.prohibitedOperations i) w.prohibitedOperations))

/-- `canonical_task_admission_payload`. -/
def canonicalTaskAdmissionPayload (b : ObservedBundle) : Except Raised Json := do
  let payload := dumpBundle O e b
  let payload ← payload.alter "contract" (sortContract e b.contract)
  let payload ← payload.alter "request" (sortRequest e b.request)
  let payload ← payload.alter "plan" sortPlan
  let payload ← payload.alter "grants" (Json.alterArray (sortGrant e) b.grants)
  payload.alter "work_orders" (Json.alterArray (sortWorkOrder e) b.workOrders)

/-! ## The payload of the fingerprint -/

/-- `_duration_microseconds`, from the days, seconds and microseconds of the difference. -/
def durationMicroseconds (stop : Option DateTime) (start : DateTime) : Except Raised Json :=
  match stop with
  | none => .ok .null
  | some stop => do
      let duration ← stop.sub start
      let days := duration / 86400000000
      let seconds := duration % 86400000000 / 1000000
      let microseconds := duration % 1000000
      pure (.num ((days * 86400 + seconds) * 1000000 + microseconds))

/-- The times of a contract, by the time its task was created at. -/
def relativeContract (b : ObservedBundle) (doc : Json) : Except Raised Json := do
  let lifetime ← durationMicroseconds b.contract.expiresAt b.creationSnapshot.createdAt
  let doc := (doc.pop "expires_at").set "expires_after_creation_us" lifetime
  doc.alter "authorization_snapshot" fun snapshot => .ok (snapshot.pop "created_at")

/-- The times of a grant, by the time it was resolved at. -/
def relativeGrant (i : Nat) (g : CapabilityGrant) (doc : Json) : Except Raised Json := do
  let doc := ((doc.pop "resolved_at").pop "not_before").pop "expires_at"
  let offset ← durationMicroseconds (some (g.notBefore.getD g.resolvedAt)) g.resolvedAt
  let doc := doc.set "not_before_offset_us" offset
  let lifetime ← durationMicroseconds (some g.expiresAt) g.resolvedAt
  sortGrant e i g (doc.set "valid_for_us" lifetime)

/-- What `_admission_fingerprint` hashes. -/
def fingerprintPayload (b : ObservedBundle) : Except Raised Json := do
  let payload ← canonicalTaskAdmissionPayload O e b
  let payload ← payload.alter "request" fun doc => .ok (doc.pop "submitted_at")
  let payload ← payload.alter "creation_snapshot" fun doc => .ok (doc.pop "created_at")
  let payload ← payload.alter "contract" (relativeContract b)
  let payload ← payload.alter "audit_record" fun doc => .ok (doc.pop "created_at")
  let payload ← payload.alter "contract" (sortContract e b.contract)
  let payload ← payload.alter "request" (sortRequest e b.request)
  let payload ← payload.alter "plan" sortPlan
  let payload ← payload.alter "grants" (Json.alterArray (relativeGrant e) b.grants)
  payload.alter "work_orders" (Json.alterArray (sortWorkOrder e) b.workOrders)

/-- `_admission_fingerprint`. -/
def admissionFingerprint (b : ObservedBundle) : Except Raised Digest := do
  let payload ← fingerprintPayload O e b
  pure (O.platform.digest payload)

end

end Admission

end AgentPact
