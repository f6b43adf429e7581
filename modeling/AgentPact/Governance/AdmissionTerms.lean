import AgentPact.Agent.Replanning
import AgentPact.Governance.AdmissionPayload
import AgentPact.Texts

/-!
# Semantic duplicates of an admission

`_admission_fingerprint` is to tell whether a request was admitted before, maybe
at another time.  So it leaves out when records were made, and keeps how long
they last.

Two bundles have the same terms if they agree on everything besides the times
they were made at and what was measured of the planner.  The fingerprint leaves
out the former, but not the latter.
-/

namespace AgentPact

/-! ## Terms -/

/-- Dictionaries with one text. -/
def JsonDict.SameText (a b : JsonDict) : Prop := a.toJson.canonical = b.toJson.canonical

/-- Scopes with the same terms. -/
def CapabilityDataScope.SameTerms (a b : CapabilityDataScope) : Prop :=
  { a with attributes := b.attributes } = b ∧ a.attributes.SameText b.attributes

/-- Requests with the same terms, submitted at any times. -/
def CapabilityRequest.SameTerms (a b : CapabilityRequest) : Prop :=
  { a with
    submittedAt := b.submittedAt
    requestedScope := b.requestedScope
    typedInputs := b.typedInputs } = b ∧
  a.requestedScope.SameTerms b.requestedScope ∧ a.typedInputs.SameText b.typedInputs

/-- How long after it was resolved a grant can be used, in microseconds. -/
def CapabilityGrant.offset (g : CapabilityGrant) : Int :=
  (g.notBefore.getD g.resolvedAt).micros - g.resolvedAt.micros

/-- How long after it was resolved a grant expires, in microseconds. -/
def CapabilityGrant.lifetime (g : CapabilityGrant) : Int :=
  g.expiresAt.micros - g.resolvedAt.micros

/-- Grants with the same terms, resolved at any times. -/
def CapabilityGrant.SameTerms (a b : CapabilityGrant) : Prop :=
  { a with
    dataScope := b.dataScope
    resolvedAt := b.resolvedAt
    notBefore := b.notBefore
    expiresAt := b.expiresAt } = b ∧
  a.dataScope.SameTerms b.dataScope ∧ a.offset = b.offset ∧ a.lifetime = b.lifetime

/-- Steps with the same terms. -/
def BusinessPlanStep.SameTerms (a b : BusinessPlanStep) : Prop :=
  a.stepId = b.stepId ∧ a.SameAuthority b

/-- Plans with the same terms. -/
def BusinessPlan.SameTerms (a b : BusinessPlan) : Prop :=
  { a with dataScope := b.dataScope, steps := b.steps } = b ∧
  a.dataScope.SameTerms b.dataScope ∧ List.Forall₂ BusinessPlanStep.SameTerms a.steps b.steps

/-- What became of a call of the planner. -/
def PlannerObservation.outcome (o : PlannerObservation) :
    String × PlannerDisposition × List String × Nat × Nat :=
  (o.providerMode, o.disposition, o.codes, o.providerCalls, o.repairCount)

/-- What was measured of a call of the planner. -/
def PlannerObservation.telemetry (o : PlannerObservation) :
    Option Rat × Option Rat × Option PlannerUsage :=
  (o.durationMs, o.providerDurationMs, o.usage)

namespace Admission

/-- Snapshots with the same terms, made at any times. -/
def TrustedTaskCreationSnapshot.SameTerms (a b : TrustedTaskCreationSnapshot) : Prop :=
  { a with authorizationSnapshot := b.authorizationSnapshot, createdAt := b.createdAt } = b ∧
  a.authorizationSnapshot.SameText b.authorizationSnapshot

/-- Contracts with the same terms, that expire at any times.  The resources of their scopes may come
in any order, and their snapshots may be made at any times. -/
def TaskContract.SameTerms (a b : TaskContract) : Prop :=
  { a with
    dataScope := b.dataScope
    authorizationSnapshot := b.authorizationSnapshot
    expiresAt := b.expiresAt } = b ∧
  a.dataScope.toJson.sortScopeResources.map Json.canonical =
    b.dataScope.toJson.sortScopeResources.map Json.canonical ∧
  (a.authorizationSnapshot.toJson.pop "created_at").canonical =
    (b.authorizationSnapshot.toJson.pop "created_at").canonical

namespace ObservedBundle

/-- How long after its task was created a contract expires, in microseconds. -/
def lifetime (b : ObservedBundle) : Option Int :=
  b.contract.expiresAt.map fun t => t.micros - b.creationSnapshot.createdAt.micros

/-- Bundles with the same terms. -/
structure SameTerms (a b : ObservedBundle) : Prop where
  schemaVersion : a.schemaVersion = b.schemaVersion
  providerMode : a.providerMode = b.providerMode
  runtimeBinding : a.runtimeBinding = b.runtimeBinding
  outcome : a.plannerObservation.map (·.outcome) = b.plannerObservation.map (·.outcome)
  admissionId : a.admissionId = b.admissionId
  task : a.task = b.task
  creationSnapshot : a.creationSnapshot.SameTerms b.creationSnapshot
  contract : a.contract.SameTerms b.contract
  lifetime : a.lifetime = b.lifetime
  request : a.request.SameTerms b.request
  grants : List.Forall₂ CapabilityGrant.SameTerms a.grants b.grants
  plan : a.plan.SameTerms b.plan
  workOrders : a.workOrders = b.workOrders
  auditRecord : { a.auditRecord with createdAt := b.auditRecord.createdAt } = b.auditRecord

/-- The same was measured of the planner. -/
def SameTelemetry (a b : ObservedBundle) : Prop :=
  a.plannerObservation.map (·.telemetry) = b.plannerObservation.map (·.telemetry)

end ObservedBundle

/-! ## What is hashed -/

namespace Process

variable (O : Process)

/-- A snapshot, without the time it was made at. -/
def snapshotTerms (s : TrustedTaskCreationSnapshot) : Json :=
  .obj [("task_id", .str s.taskId), ("organization_id", .str s.organizationId),
    ("creation_path", .str s.creationPath.value), ("initiator_id", .str s.initiatorId),
    ("service_principal_id", .ofOption .str s.servicePrincipalId),
    ("department_id", .ofOption .str s.departmentId),
    ("business_line_id", .ofOption .str s.businessLineId),
    ("authorization_snapshot", s.authorizationSnapshot.toJson),
    ("policy_version", .str s.policyVersion), ("contract_version", .num s.contractVersion),
    ("request_id", .ofOption .str s.requestId), ("workflow_id", .ofOption .str s.workflowId),
    ("workflow_run_id", .ofOption .str s.workflowRunId),
    ("template_id", .ofOption .str s.templateId),
    ("template_version", .ofOption .str s.templateVersion),
    ("template_run_id", .ofOption .str s.templateRunId), ("caller_id", .ofOption .str s.callerId)]

/-- A contract with its scope replaced, and with how long it lasts. -/
def contractTerms (c : TaskContract) (lifetime : Option Int) (scope : Json) : Json :=
  .obj [("contract_id", .str c.contractId), ("task_id", .str c.taskId),
    ("organization_id", .str c.organizationId),
    ("initiator_id", .ofOption .str c.initiatorId),
    ("service_principal_id", .ofOption .str c.servicePrincipalId),
    ("department_id", .ofOption .str c.departmentId),
    ("business_line_id", .ofOption .str c.businessLineId), ("goal", .str c.goal),
    ("allowed_operations", O.sorting.setDump c.allowedOperations), ("data_scope", scope),
    ("authorization_snapshot", c.authorizationSnapshot.toJson.pop "created_at"),
    ("policy_profile", .str c.policyProfile),
    ("policy_version", .str c.policyVersion),
    ("success_criteria", .arr (c.successCriteria.map .str)),
    ("version", .num c.version), ("mode", .str c.mode.value),
    ("expires_after_creation_us", .ofOption .num lifetime)]

/-- A request, without the time it was submitted at. -/
def requestTerms (r : CapabilityRequest) : Json :=
  .obj [("request_id", .str r.requestId), ("entry_mode", .str r.entryMode.value),
    ("principal_ref", .str r.principalRef), ("session_ref", .str r.sessionRef),
    ("tenant_id", .str r.tenantId), ("requested_scope", O.sorting.scopeDump r.requestedScope),
    ("capability_ref", .str r.capabilityRef), ("capability_version", .str r.capabilityVersion),
    ("request_kind", .str r.requestKind.value), ("typed_inputs", r.typedInputs.toJson),
    ("resource_refs", O.sorting.setDump r.resourceRefs),
    ("approval_round_ref", .ofOption .str r.approvalRoundRef),
    ("user_intent_summary", .str r.userIntentSummary), ("grant_ref", .str r.grantRef),
    ("contract_versions", r.contractVersions.toJson)]

/-- A grant, with how long it lasts. -/
def grantTerms (g : CapabilityGrant) : Json :=
  .obj [("grant_id", .str g.grantId), ("capability_id", .str g.capabilityId),
    ("capability_version", .str g.capabilityVersion), ("principal_id", .str g.principalId),
    ("business_principal_id", .ofOption .str g.businessPrincipalId),
    ("workload_principal_id", .ofOption .str g.workloadPrincipalId), ("tenant_id", .str g.tenantId),
    ("data_scope", O.sorting.scopeDump g.dataScope), ("disposition", .str g.disposition.value),
    ("allowed_dimensions", O.sorting.setDump (g.allowedDimensions.image (·.value))),
    ("policy_snapshot_version", .str g.policySnapshotVersion),
    ("revocation_epoch", .str g.revocationEpoch), ("not_before_offset_us", .num g.offset),
    ("valid_for_us", .num g.lifetime)]

/-- The evidence of an admission, without the time it was recorded at. -/
def auditTerms (a : AdmissionAuditRecord) : Json :=
  .obj [("event_type", .str a.eventType), ("admission_id", .str a.admissionId),
    ("request_id", .str a.requestId), ("task_id", .str a.taskId),
    ("organization_id", .str a.organizationId), ("contract_id", .str a.contractId),
    ("plan_id", .str a.planId), ("grant_id", .str a.grantId),
    ("capability_id", .str a.capabilityId), ("capability_version", .str a.capabilityVersion),
    ("policy_version", .str a.policyVersion), ("revocation_epoch", .str a.revocationEpoch),
    ("mode", .str a.mode.value)]

/-- The document of a task. -/
def taskDump (t : GovernedTaskDraft) : Json :=
  .obj [("task_id", .str t.taskId), ("organization_id", .str t.organizationId),
    ("goal", .str t.goal), ("mode", .str t.mode.value)]

/-- The terms of a bundle, with the scope of its contract as it is sorted. -/
def terms (b : ObservedBundle) (scope : Json) : Json :=
  .obj [("schema_version", .str b.schemaVersion), ("provider_mode", .str b.providerMode),
    ("runtime_binding", .ofOption bindingDump b.runtimeBinding),
    ("planner_observation", .ofOption PlannerObservation.modelDump b.plannerObservation),
    ("admission_id", .str b.admissionId),
    ("task", taskDump b.task), ("creation_snapshot", snapshotTerms b.creationSnapshot),
    ("contract", O.contractTerms b.contract b.lifetime scope), ("request", O.requestTerms b.request),
    ("grants", .arr (b.grants.map O.grantTerms)), ("plan", O.sorting.planDump b.plan),
    ("work_orders", .arr (b.workOrders.map O.sorting.workOrderDump)),
    ("audit_record", auditTerms b.auditRecord)]

end Process

variable {O : Process} {e : Enumeration}

theorem durationMicroseconds_eq_ok {stop start : DateTime} {duration : Json} :
    durationMicroseconds (some stop) start = .ok duration ↔
      stop.aware = start.aware ∧ duration = .num (stop.micros - start.micros) := by
  have hsplit : ∀ d : Int,
      (d / 86400000000 * 86400 + d % 86400000000 / 1000000) * 1000000 + d % 1000000 = d := by
    intro d
    omega
  change (stop.sub start >>= fun d => Except.ok (Json.num
    ((d / 86400000000 * 86400 + d % 86400000000 / 1000000) * 1000000 + d % 1000000))) = _ ↔ _
  unfold DateTime.sub
  by_cases haware : stop.aware = start.aware
  · rw [if_pos haware, except_ok_bind, hsplit]
    exact ⟨fun h => ⟨haware, (Except.ok.inj h).symm⟩, fun h => h.2 ▸ rfl⟩
  · rw [if_neg haware]
    exact ⟨nofun, fun h => absurd h.1 haware⟩

/-! ## Computing the terms -/

/-- The times of a bundle can be subtracted from one another. -/
structure ObservedBundle.Timed (b : ObservedBundle) : Prop where
  contract : ∀ t ∈ b.contract.expiresAt, t.aware = b.creationSnapshot.createdAt.aware
  notBefore : ∀ g ∈ b.grants, (g.notBefore.getD g.resolvedAt).aware = g.resolvedAt.aware
  expires : ∀ g ∈ b.grants, g.expiresAt.aware = g.resolvedAt.aware

theorem relativeContract_eq_ok {b : ObservedBundle} (h : b.Timed) (scope : Json) :
    relativeContract b (O.contractWith b.contract scope) =
      .ok (O.contractTerms b.contract b.lifetime scope) := by
  have hlifetime : durationMicroseconds b.contract.expiresAt b.creationSnapshot.createdAt =
      .ok (.ofOption .num b.lifetime) := by
    have haware := h.contract
    unfold ObservedBundle.lifetime
    cases hexpires : b.contract.expiresAt with
    | none => rfl
    | some t => exact durationMicroseconds_eq_ok.mpr ⟨haware t hexpires, rfl⟩
  refine except_bind_of_ok hlifetime ?_
  exact alter_eq_ok (f := fun snapshot => .ok (snapshot.pop "created_at")) rfl rfl

theorem relativeGrant_eq_ok {i : Nat} {g : CapabilityGrant}
    (hnotBefore : (g.notBefore.getD g.resolvedAt).aware = g.resolvedAt.aware)
    (hexpires : g.expiresAt.aware = g.resolvedAt.aware) :
    relativeGrant e i g (O.sorting.grantDump g) = .ok (O.grantTerms g) := by
  have hscope := sortScopeResources_scopeDump (O := O) (O.sorting_iterate g.dataScope.resourceIds)
  refine except_bind_of_ok (durationMicroseconds_eq_ok.mpr ⟨hnotBefore, rfl⟩) ?_
  refine except_bind_of_ok (durationMicroseconds_eq_ok.mpr ⟨hexpires, rfl⟩) ?_
  rw [sortGrant, alter_eq_ok rfl hscope, e.sorted_eq (O := O)]
  rfl

theorem sortRequest_requestTerms (r : CapabilityRequest) :
    sortRequest e r (O.requestTerms r) = .ok (O.requestTerms r) := by
  have hscope := sortScopeResources_scopeDump (O := O)
    (O.sorting_iterate r.requestedScope.resourceIds)
  rw [sortRequest, alter_eq_ok rfl hscope, e.sorted_eq (O := O)]
  rfl

theorem sortPlan_sorting (p : BusinessPlan) :
    sortPlan (O.sorting.planDump p) = .ok (O.sorting.planDump p) := by
  have hscope := sortScopeResources_scopeDump (O := O) (O.sorting_iterate p.dataScope.resourceIds)
  rw [sortPlan, alter_eq_ok rfl hscope]
  rfl

theorem sortWorkOrder_sorting (i : Nat) (w : ExecutionWorkOrder) :
    sortWorkOrder e i w (O.sorting.workOrderDump w) = .ok (O.sorting.workOrderDump w) := by
  rw [sortWorkOrder, e.sorted_eq (O := O), e.sorted_eq (O := O)]
  rfl

theorem sortContract_contractTerms {b : ObservedBundle} {scope : Json}
    (hscope : scope.sortScopeResources = .ok scope) :
    sortContract e b.contract (O.contractTerms b.contract b.lifetime scope) =
      .ok (O.contractTerms b.contract b.lifetime scope) := by
  rw [sortContract, alter_eq_ok rfl hscope, e.sorted_eq (O := O)]
  rfl

theorem alterArray_map_eq_ok {α : Type} {f : Nat → α → Json → Except Raised Json}
    {dump g : α → Json} {as : List α} (hf : ∀ i, ∀ a ∈ as, f i a (dump a) = .ok (g a)) :
    Json.alterArray f as (.arr (as.map dump)) = .ok (.arr (as.map g)) := by
  have heach : ∀ k, Json.alterEach f k as (as.map dump) = .ok (as.map g) := by
    induction as with
    | nil => exact fun _ => rfl
    | cons a as ih =>
        intro k
        have hrest := ih (fun i a ha => hf i a (List.mem_cons_of_mem _ ha)) (k + 1)
        exact except_bind_of_ok (hf k a (List.mem_cons_self ..)) (except_bind_of_ok hrest rfl)
  exact except_bind_of_ok (heach 0) rfl

/-- What is hashed are the terms, where the scope of the contract can be sorted. -/
theorem fingerprintPayload_of_timed {b : ObservedBundle} {scope : Json} (h : b.Timed)
    (hscope : b.contract.dataScope.toJson.sortScopeResources = .ok scope)
    (hsorted : scope.sortScopeResources = .ok scope) :
    fingerprintPayload O e b = .ok (O.terms b scope) := by
  have hpayload : canonicalTaskAdmissionPayload O e b = .ok (O.payload b scope) := by
    rw [canonicalTaskAdmissionPayload_eq, hscope]
    rfl
  refine except_bind_of_ok hpayload ?_
  refine except_bind_of_ok (alter_eq_ok rfl rfl) ?_
  refine except_bind_of_ok (alter_eq_ok rfl rfl) ?_
  refine except_bind_of_ok (alter_eq_ok rfl (relativeContract_eq_ok h scope)) ?_
  refine except_bind_of_ok (alter_eq_ok rfl rfl) ?_
  refine except_bind_of_ok (alter_eq_ok rfl (sortContract_contractTerms hsorted)) ?_
  refine except_bind_of_ok (alter_eq_ok rfl (sortRequest_requestTerms b.request)) ?_
  refine except_bind_of_ok (alter_eq_ok rfl (sortPlan_sorting b.plan)) ?_
  refine except_bind_of_ok (alter_eq_ok rfl (alterArray_map_eq_ok fun i g hg =>
    relativeGrant_eq_ok (h.notBefore g hg) (h.expires g hg))) ?_
  rw [alter_eq_ok rfl (alterArray_map_eq_ok fun i w _ => sortWorkOrder_sorting i w)]
  rfl

/-! ## What can be hashed -/

theorem exists_of_alter_eq_ok {doc changed : Json} {key : String}
    {f : Json → Except Raised Json} (h : doc.alter key f = .ok changed) :
    ∃ value value', doc.field? key = some value ∧ f value = .ok value' ∧
      changed = doc.set key value' := by
  unfold Json.alter at h
  cases hvalue : doc.field? key with
  | none => rw [hvalue] at h; cases h
  | some value =>
      rw [hvalue] at h
      obtain ⟨value', hchanged, hset⟩ := except_bind_eq_ok.mp h
      exact ⟨value, value', rfl, hchanged, (Except.ok.inj hset).symm⟩

theorem exists_of_alterEach_eq_ok {α : Type} {f : Nat → α → Json → Except Raised Json} {k : Nat}
    {as : List α} {docs docs' : List Json} (h : Json.alterEach f k as docs = .ok docs') {a : α}
    (ha : a ∈ as) : ∃ i doc doc', f i a doc = .ok doc' := by
  induction as generalizing k docs docs' with
  | nil => cases ha
  | cons a' as ih =>
      cases docs with
      | nil => cases h
      | cons doc docs =>
          obtain ⟨changed, hchanged, h⟩ := except_bind_eq_ok.mp h
          obtain ⟨rest, hrest, _⟩ := except_bind_eq_ok.mp h
          rcases List.mem_cons.mp ha with rfl | hmem
          · exact ⟨k, doc, changed, hchanged⟩
          · exact ih hrest hmem

theorem exists_of_alterArray_eq_ok {α : Type} {f : Nat → α → Json → Except Raised Json}
    {as : List α} {doc changed : Json} (h : Json.alterArray f as doc = .ok changed) {a : α}
    (ha : a ∈ as) : ∃ i doc doc', f i a doc = .ok doc' := by
  cases doc with
  | arr docs =>
      obtain ⟨docs', heach, _⟩ := except_bind_eq_ok.mp h
      exact exists_of_alterEach_eq_ok heach ha
  | null | bool b | num n | real q | str text | obj fields => cases h

/-- Sorting a scope again changes nothing. -/
theorem sortScopeResources_sorted {doc scope : Json} (h : doc.sortScopeResources = .ok scope) :
    scope.sortScopeResources = .ok scope := by
  cases doc with
  | obj fields =>
      unfold Json.sortScopeResources at h
      split at h
      case h_1 ids _ =>
        obtain ⟨sorted, hsorted, h⟩ := except_bind_eq_ok.mp h
        cases h
        have hfield : ((Json.obj fields).set "resource_ids" (.arr sorted)).field? "resource_ids" =
            some (.arr sorted) := Json.find?_setField
        rw [Json.sortScopeResources, hfield]
        refine except_bind_of_ok (Json.sorted_sorted hsorted) ?_
        exact congrArg (fun fields => Except.ok (Json.obj fields)) Json.setField_setField
      case h_2 hother =>
        cases h
        unfold Json.sortScopeResources
        split
        case h_1 ids hids => exact absurd hids (hother ids)
        case h_2 => rfl
  | null | bool b | num n | real q | str text | arr xs => cases h; rfl

/-- A bundle has a fingerprint only if its times can be subtracted, and the scope of its contract
can be sorted.  Then its terms are hashed. -/
theorem fingerprintPayload_eq_ok {b : ObservedBundle} {payload : Json}
    (h : fingerprintPayload O e b = .ok payload) :
    ∃ scope, b.contract.dataScope.toJson.sortScopeResources = .ok scope ∧
      payload = O.terms b scope := by
  obtain ⟨canonical, hcanonical, hrest⟩ := except_bind_eq_ok.mp h
  obtain ⟨_, _, hrest⟩ := except_bind_eq_ok.mp hrest
  obtain ⟨_, _, hrest⟩ := except_bind_eq_ok.mp hrest
  obtain ⟨_, hcontract, hrest⟩ := except_bind_eq_ok.mp hrest
  obtain ⟨_, _, hrest⟩ := except_bind_eq_ok.mp hrest
  obtain ⟨_, _, hrest⟩ := except_bind_eq_ok.mp hrest
  obtain ⟨_, _, hrest⟩ := except_bind_eq_ok.mp hrest
  obtain ⟨_, _, hrest⟩ := except_bind_eq_ok.mp hrest
  obtain ⟨_, hgrants, _⟩ := except_bind_eq_ok.mp hrest
  have htimed : b.Timed := by
    obtain ⟨_, _, _, hrelative, _⟩ := exists_of_alter_eq_ok hcontract
    obtain ⟨_, _, _, heach, _⟩ := exists_of_alter_eq_ok hgrants
    refine ⟨fun t ht => ?_, fun g hg => ?_, fun g hg => ?_⟩
    · obtain ⟨_, hduration, _⟩ := except_bind_eq_ok.mp hrelative
      rw [ht] at hduration
      exact (durationMicroseconds_eq_ok.mp hduration).1
    · obtain ⟨_, _, _, hgrant⟩ := exists_of_alterArray_eq_ok heach hg
      obtain ⟨_, hoffset, _⟩ := except_bind_eq_ok.mp hgrant
      exact (durationMicroseconds_eq_ok.mp hoffset).1
    · obtain ⟨_, _, _, hgrant⟩ := exists_of_alterArray_eq_ok heach hg
      obtain ⟨_, _, hgrant⟩ := except_bind_eq_ok.mp hgrant
      obtain ⟨_, hlifetime, _⟩ := except_bind_eq_ok.mp hgrant
      exact (durationMicroseconds_eq_ok.mp hlifetime).1
  rw [canonicalTaskAdmissionPayload_eq] at hcanonical
  cases hscope : b.contract.dataScope.toJson.sortScopeResources with
  | error raised => rw [hscope] at hcanonical; cases hcanonical
  | ok scope =>
      rw [fingerprintPayload_of_timed htimed hscope (sortScopeResources_sorted hscope)] at h
      exact ⟨scope, rfl, (Except.ok.inj h).symm⟩

/-! ## What the terms tell apart -/

theorem GovernanceMode.value_inj {a b : GovernanceMode} : a.value = b.value ↔ a = b := by
  cases a <;> cases b <;> decide

theorem TaskCreationPath.value_inj {a b : TaskCreationPath} : a.value = b.value ↔ a = b := by
  cases a <;> cases b <;> decide

namespace Process

theorem canonical_setDump_inj {s t : Finset String} :
    (O.sorting.setDump s).canonical = (O.sorting.setDump t).canonical ↔ s = t := by
  refine Json.canonical_strs_inj.trans ⟨fun h => ?_, fun h => h ▸ rfl⟩
  rw [← s.sort_toFinset (· ≤ ·), ← t.sort_toFinset (· ≤ ·)]
  exact congrArg List.toFinset h

theorem canonical_dimensions_inj {s t : Finset AuthorizationDimension} :
    (O.sorting.setDump (s.image (·.value))).canonical =
      (O.sorting.setDump (t.image (·.value))).canonical ↔ s = t := by
  have hinj : Function.Injective AuthorizationDimension.value := by
    intro a b
    cases a <;> cases b <;> decide
  exact canonical_setDump_inj.trans (Finset.image_injective hinj).eq_iff

theorem canonical_scopeDump_iff {s t : CapabilityDataScope} :
    (O.sorting.scopeDump s).canonical = (O.sorting.scopeDump t).canonical ↔ s.SameTerms t := by
  have hids : (Json.arr ((O.sorting.iterate s.resourceIds).map .str)).canonical =
      (Json.arr ((O.sorting.iterate t.resourceIds).map .str)).canonical ↔
        s.resourceIds = t.resourceIds := canonical_setDump_inj (O := O)
  refine (Json.canonical_obj_iff (by rfl) (by simp)).trans ?_
  simp only [List.map_cons, List.map_nil, List.cons.injEq, and_true,
    Json.canonical_ofOption_str_inj, hids]
  cases s
  cases t
  simp only [CapabilityDataScope.SameTerms, JsonDict.SameText, CapabilityDataScope.mk.injEq,
    and_true, and_assoc]

theorem canonical_taskDump_inj {t u : GovernedTaskDraft} :
    (taskDump t).canonical = (taskDump u).canonical ↔ t = u := by
  refine (Json.canonical_obj_iff (by rfl) (by simp)).trans ?_
  simp only [List.map_cons, List.map_nil, List.cons.injEq, and_true, Json.canonical_str_inj,
    GovernanceMode.value_inj]
  cases t
  cases u
  simp only [GovernedTaskDraft.mk.injEq]

theorem canonical_snapshotTerms_iff {a b : TrustedTaskCreationSnapshot} :
    (snapshotTerms a).canonical = (snapshotTerms b).canonical ↔ a.SameTerms b := by
  refine (Json.canonical_obj_iff (by rfl) (by simp)).trans ?_
  simp only [List.map_cons, List.map_nil, List.cons.injEq, and_true, Json.canonical_str_inj,
    Json.canonical_ofOption_str_inj, Json.canonical_num_inj, TaskCreationPath.value_inj,
    Int.natCast_inj]
  cases a
  cases b
  simp only [TrustedTaskCreationSnapshot.SameTerms, TrustedTaskCreationSnapshot.mk.injEq,
    JsonDict.SameText, true_and]
  tauto

theorem canonical_contractTerms_iff {c d : TaskContract} {lifetime lifetime' : Option Int}
    {scope scope' : Json} (hscope : c.dataScope.toJson.sortScopeResources = .ok scope)
    (hscope' : d.dataScope.toJson.sortScopeResources = .ok scope') :
    (O.contractTerms c lifetime scope).canonical = (O.contractTerms d lifetime' scope').canonical ↔
      c.SameTerms d ∧ lifetime = lifetime' := by
  have hsorted : c.dataScope.toJson.sortScopeResources.map Json.canonical =
      d.dataScope.toJson.sortScopeResources.map Json.canonical ↔
        scope.canonical = scope'.canonical := by
    rw [hscope, hscope']
    exact ⟨fun h => Except.ok.inj h, fun h => congrArg Except.ok h⟩
  refine (Json.canonical_obj_iff (by rfl) (by simp)).trans ?_
  rw [TaskContract.SameTerms, hsorted]
  simp only [List.map_cons, List.map_nil, List.cons.injEq, and_true, Json.canonical_str_inj,
    Json.canonical_ofOption_str_inj, Json.canonical_num_inj, Json.canonical_strs_inj,
    Json.canonical_ofOption_num_inj, canonical_setDump_inj, GovernanceMode.value_inj]
  clear hsorted hscope hscope'
  cases c
  cases d
  simp only [TaskContract.mk.injEq, true_and]
  tauto

theorem canonical_requestTerms_iff {r s : CapabilityRequest} :
    (O.requestTerms r).canonical = (O.requestTerms s).canonical ↔ r.SameTerms s := by
  have hmode : r.entryMode.value = s.entryMode.value ↔ r.entryMode = s.entryMode := by
    cases r.entryMode <;> cases s.entryMode <;> decide
  have hkind : r.requestKind.value = s.requestKind.value ↔ r.requestKind = s.requestKind := by
    cases r.requestKind <;> cases s.requestKind <;> decide
  refine (Json.canonical_obj_iff (by rfl) (by simp)).trans ?_
  simp only [List.map_cons, List.map_nil, List.cons.injEq, and_true, Json.canonical_str_inj,
    Json.canonical_ofOption_str_inj, canonical_scopeDump_iff, canonical_setDump_inj,
    Json.canonical_dict_inj, hmode, hkind]
  clear hmode hkind
  cases r
  cases s
  simp only [CapabilityRequest.SameTerms, CapabilityRequest.mk.injEq, JsonDict.SameText, true_and]
  tauto

theorem canonical_grantTerms_iff {g h : CapabilityGrant} :
    (O.grantTerms g).canonical = (O.grantTerms h).canonical ↔ g.SameTerms h := by
  have hdisposition : g.disposition.value = h.disposition.value ↔ g.disposition = h.disposition := by
    cases g.disposition <;> cases h.disposition <;> decide
  refine (Json.canonical_obj_iff (by rfl) (by simp)).trans ?_
  simp only [List.map_cons, List.map_nil, List.cons.injEq, and_true, Json.canonical_str_inj,
    Json.canonical_ofOption_str_inj, Json.canonical_num_inj, canonical_scopeDump_iff,
    canonical_dimensions_inj, hdisposition]
  rw [CapabilityGrant.SameTerms]
  clear hdisposition
  generalize g.offset = offset, h.offset = offset', g.lifetime = lifetime, h.lifetime = lifetime'
  cases g
  cases h
  simp only [CapabilityGrant.mk.injEq, and_true]
  tauto

theorem canonical_planDump_iff {p q : BusinessPlan} :
    (O.sorting.planDump p).canonical = (O.sorting.planDump q).canonical ↔ p.SameTerms q := by
  have hreason : (Json.ofOption (fun r : ReplanReason => .str r.value) p.replanReason).canonical =
      (Json.ofOption (fun r : ReplanReason => .str r.value) q.replanReason).canonical ↔
        p.replanReason = q.replanReason := by
    refine Json.canonical_ofOption_inj (fun _ h => by cases h) fun a b => ?_
    rw [Json.canonical_str_inj]
    cases a <;> cases b <;> decide
  have hsteps : (Json.arr (p.steps.map BusinessPlanStep.modelDump)).canonical =
      (Json.arr (q.steps.map BusinessPlanStep.modelDump)).canonical ↔
        List.Forall₂ BusinessPlanStep.SameTerms p.steps q.steps := by
    refine Json.canonical_arr_map_iff fun s t => ?_
    have hstep := BusinessPlanStep.canonical_eq_iff (a := s) (b := t)
    rw [BusinessPlanStep.authorityDigest_eq_iff] at hstep
    exact hstep
  refine (Json.canonical_obj_iff (by rfl) (by simp)).trans ?_
  simp only [List.map_cons, List.map_nil, List.cons.injEq, and_true, Json.canonical_str_inj,
    Json.canonical_ofOption_str_inj, Json.canonical_num_inj, canonical_scopeDump_iff, hreason, hsteps]
  clear hreason hsteps
  cases p
  cases q
  simp only [BusinessPlan.SameTerms, BusinessPlan.mk.injEq, and_true, true_and]
  tauto

theorem canonical_workOrderDump_inj {v w : ExecutionWorkOrder} :
    (O.sorting.workOrderDump v).canonical = (O.sorting.workOrderDump w).canonical ↔ v = w := by
  have hlevel : v.maxRecoveryLevel.value = w.maxRecoveryLevel.value ↔
      v.maxRecoveryLevel = w.maxRecoveryLevel := by
    cases v.maxRecoveryLevel <;> cases w.maxRecoveryLevel <;> decide
  refine (Json.canonical_obj_iff (by rfl) (by simp)).trans ?_
  simp only [List.map_cons, List.map_nil, List.cons.injEq, and_true, Json.canonical_str_inj,
    Json.canonical_ofOption_str_inj, Json.canonical_strs_inj, canonical_setDump_inj, hlevel]
  clear hlevel
  cases v
  cases w
  simp only [ExecutionWorkOrder.mk.injEq]

theorem canonical_auditTerms_iff {a b : AdmissionAuditRecord} :
    (auditTerms a).canonical = (auditTerms b).canonical ↔ { a with createdAt := b.createdAt } = b := by
  refine (Json.canonical_obj_iff (by rfl) (by simp)).trans ?_
  simp only [List.map_cons, List.map_nil, List.cons.injEq, and_true, Json.canonical_str_inj,
    GovernanceMode.value_inj]
  cases a
  cases b
  simp only [AdmissionAuditRecord.mk.injEq, and_true]

theorem canonical_bindingDump_inj {a b : PackRuntimeBinding} :
    (bindingDump a).canonical = (bindingDump b).canonical ↔ a = b := by
  refine (Json.canonical_obj_iff (by rfl) (by simp)).trans ?_
  simp only [List.map_cons, List.map_nil, List.cons.injEq, and_true, Json.canonical_str_inj,
    Json.canonical_strs_inj]
  cases a
  cases b
  simp only [PackRuntimeBinding.mk.injEq]
  tauto

theorem canonical_usage_inj {u v : PlannerUsage} :
    u.modelDump.canonical = v.modelDump.canonical ↔ u = v := by
  refine (Json.canonical_obj_iff (by rfl) (by simp)).trans ?_
  simp only [List.map_cons, List.map_nil, List.cons.injEq, and_true, Json.canonical_ofOption_nat_inj]
  cases u
  cases v
  simp only [PlannerUsage.mk.injEq]

theorem canonical_observation_iff {o o' : PlannerObservation} :
    o.modelDump.canonical = o'.modelDump.canonical ↔
      o.outcome = o'.outcome ∧ o.telemetry = o'.telemetry := by
  have hdisposition : o.disposition.value = o'.disposition.value ↔ o.disposition = o'.disposition := by
    cases o.disposition <;> cases o'.disposition <;> decide
  have husage : (Json.ofOption PlannerUsage.modelDump o.usage).canonical =
      (Json.ofOption PlannerUsage.modelDump o'.usage).canonical ↔ o.usage = o'.usage :=
    Json.canonical_ofOption_inj (fun _ h => by cases h) fun _ _ => canonical_usage_inj
  refine (Json.canonical_obj_iff (by rfl) (by simp)).trans ?_
  simp only [List.map_cons, List.map_nil, List.cons.injEq, and_true, true_and, Json.canonical_str_inj,
    Json.canonical_strs_inj, Json.canonical_num_inj, Int.natCast_inj,
    Json.canonical_ofOption_real_inj, hdisposition, husage]
  simp only [PlannerObservation.outcome, PlannerObservation.telemetry, Prod.mk.injEq]
  tauto

theorem canonical_observations_iff {o o' : Option PlannerObservation} :
    (Json.ofOption PlannerObservation.modelDump o).canonical =
      (Json.ofOption PlannerObservation.modelDump o').canonical ↔
        o.map (·.outcome) = o'.map (·.outcome) ∧ o.map (·.telemetry) = o'.map (·.telemetry) := by
  rw [Json.canonical_ofOption_iff (fun _ h => by cases h) fun _ _ => canonical_observation_iff]
  cases o with
  | none => cases o' with
    | none => exact ⟨fun _ => ⟨rfl, rfl⟩, fun _ => .none⟩
    | some o' => exact ⟨nofun, nofun⟩
  | some o => cases o' with
    | none => exact ⟨nofun, nofun⟩
    | some o' =>
        constructor
        · intro h
          cases h with
          | some h => exact ⟨congrArg some h.1, congrArg some h.2⟩
        · rintro ⟨houtcome, htelemetry⟩
          exact .some ⟨Option.some.inj houtcome, Option.some.inj htelemetry⟩

/-- Terms have one text if and only if their bundles have the same terms and the same telemetry. -/
theorem canonical_terms_iff {a b : ObservedBundle} {scope scope' : Json}
    (hscope : a.contract.dataScope.toJson.sortScopeResources = .ok scope)
    (hscope' : b.contract.dataScope.toJson.sortScopeResources = .ok scope') :
    (O.terms a scope).canonical = (O.terms b scope').canonical ↔
      a.SameTerms b ∧ a.SameTelemetry b := by
  have hbinding : (Json.ofOption bindingDump a.runtimeBinding).canonical =
      (Json.ofOption bindingDump b.runtimeBinding).canonical ↔
        a.runtimeBinding = b.runtimeBinding :=
    Json.canonical_ofOption_inj (fun _ h => by cases h) fun _ _ => canonical_bindingDump_inj
  have hgrants : (Json.arr (a.grants.map O.grantTerms)).canonical =
      (Json.arr (b.grants.map O.grantTerms)).canonical ↔
        List.Forall₂ CapabilityGrant.SameTerms a.grants b.grants :=
    Json.canonical_arr_map_iff fun _ _ => canonical_grantTerms_iff
  have horders : (Json.arr (a.workOrders.map O.sorting.workOrderDump)).canonical =
      (Json.arr (b.workOrders.map O.sorting.workOrderDump)).canonical ↔
        a.workOrders = b.workOrders := by
    rw [Json.canonical_arr_map_iff fun _ _ => canonical_workOrderDump_inj, List.forall₂_eq_eq_eq]
  have htask : (taskDump a.task).canonical = (taskDump b.task).canonical ↔ a.task = b.task :=
    canonical_taskDump_inj
  refine (Json.canonical_obj_iff (by rfl) (by simp)).trans ?_
  simp only [List.map_cons, List.map_nil, List.cons.injEq, and_true, Json.canonical_str_inj,
    canonical_snapshotTerms_iff, canonical_contractTerms_iff hscope hscope',
    canonical_requestTerms_iff, canonical_planDump_iff, canonical_auditTerms_iff,
    canonical_observations_iff, hbinding, hgrants, horders, htask]
  constructor
  · rintro ⟨h₁, h₂, h₃, ⟨h₄, htelemetry⟩, h₅, h₆, h₇, ⟨h₈, h₉⟩, h₁₀, h₁₁, h₁₂, h₁₃, h₁₄⟩
    exact ⟨⟨h₁, h₂, h₃, h₄, h₅, h₆, h₇, h₈, h₉, h₁₀, h₁₁, h₁₂, h₁₃, h₁₄⟩, htelemetry⟩
  · rintro ⟨h, htelemetry⟩
    exact ⟨h.schemaVersion, h.providerMode, h.runtimeBinding, ⟨h.outcome, htelemetry⟩,
      h.admissionId, h.task, h.creationSnapshot, ⟨h.contract, h.lifetime⟩, h.request, h.grants,
      h.plan, h.workOrders, h.auditRecord⟩

end Process

end Admission

end AgentPact
