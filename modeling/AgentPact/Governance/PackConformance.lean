import AgentPact.Governance.PackSdk

/-!
# Static conformance of Packs

`governance/pack_conformance.py` checks the description of a Pack and reports
what is wrong with it, and where.

`PackSdkManifest.Conformant` is what a description has to satisfy, rule by
rule.  A report passes exactly the descriptions that satisfy it, and the order
of what a description lists does not matter (`status_eq_pass_iff`).

A dictionary of the evidence by id keeps the last item of an id.  It makes no
difference, because a description where two items share an id does not pass.
-/

namespace AgentPact

namespace PackConformance

/-! ## Violations -/

/-- What is wrong, and where. -/
structure ConformanceViolation where
  code : String
  path : String
  message : String
deriving DecidableEq, Repr

/-- A violation, where there is one. -/
def violationIf (wrong : Prop) [Decidable wrong] (code path message : String) :
    List ConformanceViolation :=
  if wrong then [⟨code, path, message⟩] else []

/-- The violations of the items of a tuple, each with its index. -/
def each {α : Type} (xs : List α) (check : Nat → α → List ConformanceViolation) :
    List ConformanceViolation :=
  xs.zipIdx.flatMap fun e => check e.2 e.1

@[simp] theorem violationIf_eq_nil {wrong : Prop} [Decidable wrong] {code path message : String} :
    violationIf wrong code path message = [] ↔ ¬ wrong := by
  unfold violationIf
  split_ifs with h
  · exact ⟨nofun, absurd h⟩
  · exact ⟨fun _ => h, fun _ => rfl⟩

/-- No item has a violation, if an item has none exactly where it meets the rule. -/
theorem each_eq_nil {α : Type} {xs : List α} {check : Nat → α → List ConformanceViolation}
    {rule : α → Prop} (hcheck : ∀ i, ∀ x ∈ xs, check i x = [] ↔ rule x) :
    each xs check = [] ↔ ∀ x ∈ xs, rule x := by
  unfold each
  rw [List.flatMap_eq_nil_iff]
  constructor
  · intro h x hx
    obtain ⟨i, hi, rfl⟩ := List.mem_iff_getElem.mp hx
    exact (hcheck i xs[i] hx).mp (h (xs[i], i) (List.mk_mem_zipIdx_iff_getElem?.mpr (by simp [hi])))
  · rintro h ⟨x, i⟩ hmem
    have hx : x ∈ xs := List.fst_mem_of_mem_zipIdx hmem
    exact (hcheck i x hx).mpr (h x hx)

theorem each_violationIf_eq_nil {α : Type} {xs : List α} {wrong : α → Prop} [DecidablePred wrong]
    {code message : String} {path : Nat → String} :
    (each xs fun i x => violationIf (wrong x) code (path i) message) = [] ↔
      ∀ x ∈ xs, ¬ wrong x :=
  each_eq_nil fun _ _ _ => violationIf_eq_nil

variable (m : PackSdkManifest)

/-! ## The checks -/

/-- `_raw_runtime_boundary_violations`, of what a candidate says about the two flags. -/
def rawRuntimeBoundaryViolations (contractCatalogOnly runtimeWiringEligible : Option Json) :
    List ConformanceViolation :=
  violationIf (contractCatalogOnly ≠ some (.bool true)) "runtime_boundary_violation"
    "contract_catalog_only" "Pack SDK artifacts must remain contract-catalog-only." ++
  violationIf (runtimeWiringEligible ≠ some (.bool false)) "runtime_boundary_violation"
    "runtime_wiring_eligible" "Pack SDK artifacts must remain ineligible for runtime wiring."

/-- `_runtime_boundary_violations`. -/
def runtimeBoundaryViolations : List ConformanceViolation :=
  rawRuntimeBoundaryViolations (some (.bool m.contractCatalogOnly))
    (some (.bool m.runtimeWiringEligible))

/-- `_owner_violations`. -/
def ownerViolations : List ConformanceViolation :=
  let roles := m.ownerRefs.val.map (·.role)
  let missing := ContractOwnerRole.all.filter fun role => roles.count role = 0
  let duplicates := roles.dedup.filter fun role => roles.count role ≠ 1
  violationIf (missing ≠ [] ∨ duplicates ≠ []) "owner_roles_incomplete" "owner_refs"
    "Every ContractOwnerRole must be declared exactly once." ++
  each m.ownerRefs.val fun index owner =>
    violationIf (owner.ownerRef.val = unassigned) "owner_unresolved"
      ("owner_refs." ++ toString index ++ ".owner_ref") "Conformant Pack owners must be assigned."

/-- `_capability_binding_violations`. -/
def capabilityBindingViolations (references : List String) (path message : String) :
    List ConformanceViolation :=
  violationIf (references = [] ∨ ¬ references.Nodup) "reference_missing" path message

/-- `_missing_collection_references`. -/
def missingCollectionReferences (references known : List String) (path message : String) :
    List ConformanceViolation :=
  each references fun index reference =>
    violationIf (reference ∉ known) "reference_missing" (path ++ "." ++ toString index) message

/-- What `_reference_violations` finds in one capability. -/
def capabilityReferenceViolations (index : Nat) (c : PackCapability) :
    List ConformanceViolation :=
  let base := "capabilities." ++ toString index
  violationIf (c.packVersion ≠ m.packVersion) "capability_version_mismatch"
    (base ++ ".pack_version")
    "Capability Pack version must exactly match the manifest Pack version." ++
  capabilityBindingViolations c.canonicalFactIds (base ++ ".canonical_fact_ids")
    "Capability must bind at least one unique canonical fact." ++
  capabilityBindingViolations c.evidenceRequirementIds (base ++ ".evidence_requirement_ids")
    "Capability must bind at least one unique evidence requirement." ++
  missingCollectionReferences c.canonicalFactIds m.factIds (base ++ ".canonical_fact_ids")
    "Capability canonical fact reference does not resolve." ++
  missingCollectionReferences c.evidenceRequirementIds m.evidenceIds
    (base ++ ".evidence_requirement_ids") "Capability evidence reference does not resolve." ++
  -- An empty reference counts as none here.
  violationIf (c.lifecycleTransitionId.any fun id => id ≠ "" ∧ id ∉ m.transitionIds)
    "reference_missing" (base ++ ".lifecycle_transition_id")
    "Capability lifecycle transition reference does not resolve." ++
  violationIf (c.resultEvidenceId.any fun id => id ≠ "" ∧ id ∉ m.evidenceIds)
    "reference_missing" (base ++ ".result_evidence_id")
    "Capability result evidence reference does not resolve."

/-- `_reference_violations`. -/
def referenceViolations : List ConformanceViolation :=
  [("canonical_facts", m.factIds), ("evidence_requirements", m.evidenceIds),
    ("lifecycle.transitions", m.transitionIds), ("capabilities", m.capabilityIds)].flatMap (fun e =>
    violationIf (¬ e.2.Nodup) "reference_missing" e.1
      "Identifiers must be unique within each manifest collection.") ++
  each m.canonicalFacts.val (fun index fact =>
    violationIf (fact.evidenceRequirementId.val ∉ m.evidenceIds) "reference_missing"
      ("canonical_facts." ++ toString index ++ ".evidence_requirement_id")
      "Canonical fact evidence reference does not resolve.") ++
  each m.capabilities.val (capabilityReferenceViolations m)

/-- `_freshness_violations`. -/
def freshnessViolations : List ConformanceViolation :=
  each m.evidenceRequirements.val fun index evidence =>
    violationIf (m.freshnessCeilingSeconds.val < evidence.maximumAgeSeconds.val)
      "evidence_freshness_exceeds_ceiling"
      ("evidence_requirements." ++ toString index ++ ".maximum_age_seconds")
      "Evidence maximum age must not exceed the manifest freshness ceiling."

/-- `_lifecycle_violations`. -/
def lifecycleViolations : List ConformanceViolation :=
  each m.lifecycle.terminalStates.val (fun index state =>
    violationIf (state ∉ m.lifecycle.states.val) "lifecycle_state_unknown"
      ("lifecycle.terminal_states." ++ toString index)
      "Lifecycle terminal state is not declared in states.") ++
  each m.lifecycle.transitions.val fun index transition =>
    violationIf (transition.sourceState.val ∉ m.lifecycle.states.val) "lifecycle_state_unknown"
      ("lifecycle.transitions." ++ toString index ++ ".source_state")
      "Lifecycle transition source state is not declared." ++
    violationIf (transition.targetState.val ∉ m.lifecycle.states.val) "lifecycle_state_unknown"
      ("lifecycle.transitions." ++ toString index ++ ".target_state")
      "Lifecycle transition target state is not declared."

/-- The dictionary of the evidence by id, which keeps the last item of an id. -/
def evidenceById (id : String) : Option PackEvidenceRequirement :=
  m.evidenceRequirements.val.reverse.find? fun e => e.evidenceId.val = id

/-- Whether the evidence of a capability is, where it resolves, an authoritative read. -/
def readsOnly (c : PackCapability) : Prop :=
  ∀ id ∈ c.evidenceRequirementIds, ∀ e ∈ evidenceById m id, e.kind = .authoritativeRead

instance (c : PackCapability) : Decidable (readsOnly m c) := by
  unfold readsOnly
  infer_instance

/-- `_read_only_violations`. -/
def readOnlyViolations : List ConformanceViolation :=
  each m.capabilities.val fun index c =>
    if c.effectClass ≠ .readOnly then []
    else
      let base := "capabilities." ++ toString index
      violationIf (c.authorizationDimensions = [] ∨
          ¬ (∀ d ∈ c.authorizationDimensions, d = .discover ∨ d = .readRecord) ∨
          ¬ c.authorizationDimensions.Nodup)
        "read_only_authority_violation" (base ++ ".authorization_dimensions")
        "Read-only capabilities may declare only unique discover/read_record authority." ++
      violationIf (c.lifecycleTransitionId ≠ none ∨ c.resultEvidenceId ≠ none ∨
          c.approvalPolicyRef ≠ none ∨ ¬ readsOnly m c)
        "read_only_effect_violation" base
        "Read-only capabilities cannot declare transition, result-probe, or approval metadata."

/-- Whether the result of a capability is probed: its evidence is a probe, and is listed.  An id
that is `None` is never listed. -/
def probesResult (c : PackCapability) : Prop :=
  ∃ id, c.resultEvidenceId = some id ∧ id ∈ c.evidenceRequirementIds ∧
    ∃ e ∈ evidenceById m id, e.kind = .resultProbe

instance (c : PackCapability) : Decidable (probesResult m c) :=
  match h : c.resultEvidenceId with
  | none => .isFalse fun ⟨_, hid, _⟩ => by rw [h] at hid; cases hid
  | some id =>
      decidable_of_iff (id ∈ c.evidenceRequirementIds ∧
          ∃ e ∈ evidenceById m id, e.kind = .resultProbe)
        ⟨fun hprobe => ⟨id, h, hprobe⟩, fun ⟨_, hid, hprobe⟩ => by
          rw [h] at hid
          cases hid
          exact hprobe⟩

/-- `_external_write_violations`. -/
def externalWriteViolations : List ConformanceViolation :=
  each m.capabilities.val fun index c =>
    if c.effectClass ≠ .externalWrite then []
    else
      let base := "capabilities." ++ toString index
      violationIf (.executeTransition ∉ c.authorizationDimensions)
        "external_write_authority_missing" (base ++ ".authorization_dimensions")
        "External-write capabilities require explicit execute_transition authority." ++
      violationIf (¬ c.lifecycleTransitionId.any fun id => id ≠ "" ∧ id ∈ m.transitionIds)
        "external_write_transition_missing" (base ++ ".lifecycle_transition_id")
        "External-write capabilities require a resolved lifecycle transition." ++
      violationIf (¬ probesResult m c)
        "external_write_probe_missing" (base ++ ".result_evidence_id")
        "External-write capabilities require result_probe evidence." ++
      violationIf (¬ c.approvalPolicyRef.any (· ≠ ""))
        "external_write_approval_policy_missing" (base ++ ".approval_policy_ref")
        "External-write capabilities require an approval-policy reference."

/-! ## The report -/

inductive ConformanceStatus where
  | pass | fail
deriving DecidableEq, Repr

/-- The status of what has these violations. -/
def ConformanceStatus.of (violations : List ConformanceViolation) : ConformanceStatus :=
  if violations = [] then .pass else .fail

@[simp] theorem ConformanceStatus.of_eq_pass {violations : List ConformanceViolation} :
    ConformanceStatus.of violations = .pass ↔ violations = [] := by
  unfold ConformanceStatus.of
  split_ifs with h
  · exact ⟨fun _ => h, fun _ => rfl⟩
  · exact ⟨nofun, fun hnil => absurd hnil h⟩

/-- What one check found. -/
structure ConformanceCheck where
  checkId : String
  status : ConformanceStatus
  violationCodes : List String
deriving DecidableEq, Repr

/-- `_make_check`. -/
def makeCheck (checkId : String) (violations : List ConformanceViolation) : ConformanceCheck where
  checkId := checkId
  status := .of violations
  violationCodes := (violations.map (·.code)).reverse.dedup.reverse

structure StaticConformanceReport where
  candidatePackId : Option String
  candidatePackVersion : Option String
  manifestDigest : Option String
  status : ConformanceStatus
  checks : List ConformanceCheck
  violations : List ConformanceViolation
deriving DecidableEq

/-- The checks of a manifest, each with its violations. -/
def checkResults : List (String × List ConformanceViolation) :=
  [("runtime_boundary", runtimeBoundaryViolations m),
    ("owner_roles", ownerViolations m),
    ("references_and_versions", referenceViolations m),
    ("evidence_freshness", freshnessViolations m),
    ("lifecycle", lifecycleViolations m),
    ("read_only_capabilities", readOnlyViolations m),
    ("external_write_capabilities", externalWriteViolations m)]

/-- The report on a manifest. -/
def reportOf (P : Platform) : StaticConformanceReport :=
  let violations := (checkResults m).flatMap (·.2)
  { candidatePackId := some m.packId.val
    candidatePackVersion := some m.packVersion.val
    manifestDigest := some (m.manifestDigest P).hex
    status := .of violations
    checks := (checkResults m).map fun e => makeCheck e.1 e.2
    violations := violations }

/-- What a report is asked about. -/
inductive Candidate where
  | manifest (m : PackSdkManifest)
  | mapping (fields : List (String × Json))

/-- What a mapping has under a key. -/
def field (fields : List (String × Json)) (key : String) : Option Json :=
  (fields.find? fun f => f.1 = key).map (·.2)

/-- `_parse_candidate_text`. -/
def parseCandidateText (fields : List (String × Json)) (key : String) : Option String :=
  match field fields key with
  | some (.str text) => if text = "" then none else some text
  | _ => none

/-- The report on a mapping that is not a manifest. -/
def reportOfUnparsed (fields : List (String × Json)) : StaticConformanceReport :=
  let parse : List ConformanceViolation := [⟨"manifest_parse_error", "$",
    "Candidate does not match the immutable PackSdkManifest schema."⟩]
  let boundary := rawRuntimeBoundaryViolations (field fields "contract_catalog_only")
    (field fields "runtime_wiring_eligible")
  { candidatePackId := parseCandidateText fields "pack_id"
    candidatePackVersion := parseCandidateText fields "pack_version"
    manifestDigest := none
    status := .fail
    checks := [makeCheck "manifest_parse" parse, makeCheck "runtime_boundary" boundary]
    violations := parse ++ boundary }

/-- `evaluate_static_pack_conformance`, where `modelValidate` reads a manifest from a mapping. -/
def evaluateStaticPackConformance (P : Platform)
    (modelValidate : List (String × Json) → Option PackSdkManifest) :
    Candidate → StaticConformanceReport
  | .manifest m => reportOf m P
  | .mapping fields =>
      match modelValidate fields with
      | some m => reportOf m P
      | none => reportOfUnparsed fields

/-! ## The evidence of an id -/

/-- Where ids are unique, the evidence of an id is the item that has it. -/
theorem mem_evidenceById (hunique : m.evidenceIds.Nodup) {id : String}
    {e : PackEvidenceRequirement} : e ∈ evidenceById m id ↔
      e ∈ m.evidenceRequirements.val ∧ e.evidenceId.val = id := by
  unfold evidenceById
  constructor
  · intro h
    exact ⟨List.mem_reverse.mp (List.mem_of_find?_eq_some h),
      by simpa using List.find?_some h⟩
  · rintro ⟨hmem, rfl⟩
    have hsome : (m.evidenceRequirements.val.reverse.find?
        fun e' => e'.evidenceId.val = e.evidenceId.val).isSome :=
      List.find?_isSome.mpr ⟨e, List.mem_reverse.mpr hmem, decide_eq_true rfl⟩
    obtain ⟨e', he'⟩ := Option.isSome_iff_exists.mp hsome
    have hmem' := List.mem_reverse.mp (List.mem_of_find?_eq_some he')
    have hid : e'.evidenceId.val = e.evidenceId.val := by simpa using List.find?_some he'
    have hsame : e' = e := List.inj_on_of_nodup_map hunique hmem' hmem hid
    rw [he', hsame]
    rfl

/-! ## What conforms -/

/-- A capability that only reads. -/
structure ReadsOnly (c : PackCapability) : Prop where
  nonempty : c.authorizationDimensions ≠ []
  unique : c.authorizationDimensions.Nodup
  allowed : ∀ d ∈ c.authorizationDimensions, d = .discover ∨ d = .readRecord
  evidence : ∀ e ∈ m.evidenceRequirements.val, e.evidenceId.val ∈ c.evidenceRequirementIds →
    e.kind = .authoritativeRead
  transition : c.lifecycleTransitionId = none
  result : c.resultEvidenceId = none
  approval : c.approvalPolicyRef = none

/-- A capability that writes to the outside. -/
structure WritesExternally (c : PackCapability) : Prop where
  executes : .executeTransition ∈ c.authorizationDimensions
  transition : ∃ t ∈ m.lifecycle.transitions.val, c.lifecycleTransitionId = some t.transitionId.val
  approval : ∃ ref, ref ≠ "" ∧ c.approvalPolicyRef = some ref
  result : ∃ e ∈ m.evidenceRequirements.val, c.resultEvidenceId = some e.evidenceId.val ∧
    e.kind = .resultProbe ∧ e.evidenceId.val ∈ c.evidenceRequirementIds

/-- References that all resolve, at least one, and none twice. -/
structure Binds (references known : List String) : Prop where
  nonempty : references ≠ []
  unique : references.Nodup
  resolve : ∀ id ∈ references, id ∈ known

/-- A capability that conforms. -/
structure CapabilityConformant (c : PackCapability) : Prop where
  version : c.packVersion = m.packVersion
  facts : Binds c.canonicalFactIds m.factIds
  evidence : Binds c.evidenceRequirementIds m.evidenceIds
  transition : ∀ id ∈ c.lifecycleTransitionId, id ∈ m.transitionIds
  result : ∀ id ∈ c.resultEvidenceId, id ∈ m.evidenceIds
  readOnly : c.effectClass = .readOnly → ReadsOnly m c
  externalWrite : c.effectClass = .externalWrite → WritesExternally m c

/-- A manifest that conforms. -/
structure Conformant : Prop where
  catalogOnly : m.contractCatalogOnly = true
  notWired : m.runtimeWiringEligible = false
  owned : ∀ role : ContractOwnerRole, (m.ownerRefs.val.map (·.role)).count role = 1
  assigned : ∀ o ∈ m.ownerRefs.val, o.ownerRef.val ≠ unassigned
  factIds : m.factIds.Nodup
  evidenceIds : m.evidenceIds.Nodup
  transitionIds : m.transitionIds.Nodup
  capabilityIds : m.capabilityIds.Nodup
  facts : ∀ f ∈ m.canonicalFacts.val, f.evidenceRequirementId.val ∈ m.evidenceIds
  fresh : ∀ e ∈ m.evidenceRequirements.val,
    e.maximumAgeSeconds.val ≤ m.freshnessCeilingSeconds.val
  terminal : ∀ state ∈ m.lifecycle.terminalStates.val, state ∈ m.lifecycle.states.val
  transitions : ∀ t ∈ m.lifecycle.transitions.val,
    t.sourceState.val ∈ m.lifecycle.states.val ∧ t.targetState.val ∈ m.lifecycle.states.val
  capabilities : ∀ c ∈ m.capabilities.val, CapabilityConformant m c

/-! ## Each check finds nothing exactly where its rules hold -/

variable {m : PackSdkManifest}

theorem runtimeBoundaryViolations_eq_nil : runtimeBoundaryViolations m = [] ↔
    m.contractCatalogOnly = true ∧ m.runtimeWiringEligible = false := by
  simp [runtimeBoundaryViolations, rawRuntimeBoundaryViolations]

theorem ownerViolations_eq_nil : ownerViolations m = [] ↔
    (∀ role : ContractOwnerRole, (m.ownerRefs.val.map (·.role)).count role = 1) ∧
      ∀ o ∈ m.ownerRefs.val, o.ownerRef.val ≠ unassigned := by
  unfold ownerViolations
  rw [List.append_eq_nil_iff, violationIf_eq_nil, each_violationIf_eq_nil]
  refine and_congr_left fun _ => ?_
  rw [not_or, not_not, not_not, List.filter_eq_nil_iff, List.filter_eq_nil_iff]
  constructor
  · rintro ⟨hmissing, hduplicates⟩ role
    have hdeclared : role ∈ m.ownerRefs.val.map (·.role) := by
      have hcount := hmissing role (ContractOwnerRole.mem_all role)
      exact List.count_pos_iff.mp (Nat.pos_of_ne_zero fun h => hcount (decide_eq_true h))
    have honce := hduplicates role (List.mem_dedup.mpr hdeclared)
    simpa using honce
  · intro honce
    exact ⟨fun role _ => by simp [honce role], fun role _ => by simp [honce role]⟩

theorem bindings_eq_nil {references known : List String} {path path' message message' : String} :
    capabilityBindingViolations references path message = [] ∧
      missingCollectionReferences references known path' message' = [] ↔
        Binds references known := by
  unfold capabilityBindingViolations missingCollectionReferences
  rw [violationIf_eq_nil, each_violationIf_eq_nil]
  constructor
  · rintro ⟨hbound, hresolve⟩
    obtain ⟨hnonempty, hunique⟩ := not_or.mp hbound
    exact ⟨hnonempty, not_not.mp hunique, fun id hid => not_not.mp (hresolve id hid)⟩
  · rintro ⟨hnonempty, hunique, hresolve⟩
    exact ⟨not_or.mpr ⟨hnonempty, not_not.mpr hunique⟩, fun id hid => not_not.mpr (hresolve id hid)⟩

/-- The references of a capability, where an empty one counts as none. -/
def Refers (m : PackSdkManifest) (c : PackCapability) : Prop :=
  c.packVersion = m.packVersion ∧ Binds c.canonicalFactIds m.factIds ∧
    Binds c.evidenceRequirementIds m.evidenceIds ∧
    (∀ id ∈ c.lifecycleTransitionId, id ≠ "" → id ∈ m.transitionIds) ∧
    ∀ id ∈ c.resultEvidenceId, id ≠ "" → id ∈ m.evidenceIds

theorem not_any_missing {id? : Option String} {known : List String} :
    ¬ (id?.any fun id => id ≠ "" ∧ id ∉ known) = true ↔ ∀ id ∈ id?, id ≠ "" → id ∈ known := by
  cases id? with
  | none => simp
  | some id => simp

theorem capabilityReferenceViolations_eq_nil {index : Nat} {c : PackCapability} :
    capabilityReferenceViolations m index c = [] ↔ Refers m c := by
  unfold capabilityReferenceViolations Refers
  simp only [List.append_eq_nil_iff, violationIf_eq_nil, not_any_missing, ne_eq, not_not]
  rw [← bindings_eq_nil, ← bindings_eq_nil]
  tauto

theorem referenceViolations_eq_nil : referenceViolations m = [] ↔
    (m.factIds.Nodup ∧ m.evidenceIds.Nodup ∧ m.transitionIds.Nodup ∧ m.capabilityIds.Nodup) ∧
      (∀ f ∈ m.canonicalFacts.val, f.evidenceRequirementId.val ∈ m.evidenceIds) ∧
      ∀ c ∈ m.capabilities.val, Refers m c := by
  unfold referenceViolations
  have hcapabilities : each m.capabilities.val (capabilityReferenceViolations m) = [] ↔
      ∀ c ∈ m.capabilities.val, Refers m c :=
    each_eq_nil fun _ _ _ => capabilityReferenceViolations_eq_nil
  rw [List.append_eq_nil_iff, List.append_eq_nil_iff, hcapabilities, each_violationIf_eq_nil]
  simp [and_assoc]

theorem freshnessViolations_eq_nil : freshnessViolations m = [] ↔
    ∀ e ∈ m.evidenceRequirements.val,
      e.maximumAgeSeconds.val ≤ m.freshnessCeilingSeconds.val := by
  unfold freshnessViolations
  exact each_eq_nil fun _ _ _ => violationIf_eq_nil.trans not_lt

theorem lifecycleViolations_eq_nil : lifecycleViolations m = [] ↔
    (∀ state ∈ m.lifecycle.terminalStates.val, state ∈ m.lifecycle.states.val) ∧
      ∀ t ∈ m.lifecycle.transitions.val,
        t.sourceState.val ∈ m.lifecycle.states.val ∧
          t.targetState.val ∈ m.lifecycle.states.val := by
  unfold lifecycleViolations
  rw [List.append_eq_nil_iff]
  refine and_congr (each_eq_nil fun _ _ _ => violationIf_eq_nil.trans not_not)
    (each_eq_nil fun _ _ _ => ?_)
  rw [List.append_eq_nil_iff, violationIf_eq_nil, violationIf_eq_nil, not_not, not_not]

/-- The evidence of a capability only reads, item by item. -/
theorem readsOnly_iff (hunique : m.evidenceIds.Nodup) {c : PackCapability} :
    readsOnly m c ↔ ∀ e ∈ m.evidenceRequirements.val,
      e.evidenceId.val ∈ c.evidenceRequirementIds → e.kind = .authoritativeRead := by
  unfold readsOnly
  constructor
  · intro h e he hlisted
    exact h e.evidenceId.val hlisted e ((mem_evidenceById m hunique).mpr ⟨he, rfl⟩)
  · intro h id hid e he
    obtain ⟨hmem, rfl⟩ := (mem_evidenceById m hunique).mp he
    exact h e hmem hid

theorem readOnlyViolations_eq_nil (hunique : m.evidenceIds.Nodup) :
    readOnlyViolations m = [] ↔
      ∀ c ∈ m.capabilities.val, c.effectClass = .readOnly → ReadsOnly m c := by
  unfold readOnlyViolations
  refine each_eq_nil fun _ c _ => ?_
  split_ifs with hclass
  · exact ⟨fun _ h => absurd h hclass, fun _ => rfl⟩
  · rw [not_not] at hclass
    rw [List.append_eq_nil_iff, violationIf_eq_nil, violationIf_eq_nil, readsOnly_iff hunique]
    constructor
    · rintro ⟨hauthority, heffect⟩ _
      simp only [not_or, not_not, ne_eq] at hauthority heffect
      obtain ⟨hnonempty, hallowed, hdistinct⟩ := hauthority
      obtain ⟨htransition, hresult, happroval, hevidence⟩ := heffect
      exact ⟨hnonempty, hdistinct, hallowed, hevidence, htransition, hresult, happroval⟩
    · intro h
      have hreads := h hclass
      simp only [not_or, not_not, ne_eq]
      exact ⟨⟨hreads.nonempty, hreads.allowed, hreads.unique⟩,
        hreads.transition, hreads.result, hreads.approval, hreads.evidence⟩

/-- A transition resolves, because no transition has an empty id. -/
theorem any_transition_iff {id? : Option String} :
    (id?.any fun id => id ≠ "" ∧ id ∈ m.transitionIds) = true ↔
      ∃ t ∈ m.lifecycle.transitions.val, id? = some t.transitionId.val := by
  cases id? with
  | none => simp
  | some id =>
      rw [Option.any_some, decide_eq_true_eq]
      constructor
      · rintro ⟨_, hid⟩
        obtain ⟨t, ht, rfl⟩ := List.mem_map.mp hid
        exact ⟨t, ht, rfl⟩
      · rintro ⟨t, ht, heq⟩
        cases heq
        exact ⟨t.transitionId.property, List.mem_map_of_mem ht⟩

theorem probesResult_iff (hunique : m.evidenceIds.Nodup) {c : PackCapability} :
    probesResult m c ↔ ∃ e ∈ m.evidenceRequirements.val,
      c.resultEvidenceId = some e.evidenceId.val ∧ e.kind = .resultProbe ∧
        e.evidenceId.val ∈ c.evidenceRequirementIds := by
  unfold probesResult
  constructor
  · rintro ⟨id, hresult, hlisted, e, he, hkind⟩
    obtain ⟨hmem, rfl⟩ := (mem_evidenceById m hunique).mp he
    exact ⟨e, hmem, hresult, hkind, hlisted⟩
  · rintro ⟨e, hmem, hresult, hkind, hlisted⟩
    exact ⟨e.evidenceId.val, hresult, hlisted, e,
      (mem_evidenceById m hunique).mpr ⟨hmem, rfl⟩, hkind⟩

theorem any_nonempty_iff {ref? : Option String} :
    ref?.any (· ≠ "") = true ↔ ∃ ref, ref ≠ "" ∧ ref? = some ref := by
  cases ref? <;> simp

theorem externalWriteViolations_eq_nil (hunique : m.evidenceIds.Nodup) :
    externalWriteViolations m = [] ↔
      ∀ c ∈ m.capabilities.val, c.effectClass = .externalWrite → WritesExternally m c := by
  unfold externalWriteViolations
  refine each_eq_nil fun _ c _ => ?_
  split_ifs with hclass
  · exact ⟨fun _ h => absurd h hclass, fun _ => rfl⟩
  · rw [not_not] at hclass
    simp only [List.append_eq_nil_iff, violationIf_eq_nil, not_not]
    rw [any_transition_iff, probesResult_iff hunique, any_nonempty_iff]
    constructor
    · rintro ⟨⟨⟨hexecutes, htransition⟩, hresult⟩, happroval⟩ _
      exact ⟨hexecutes, htransition, happroval, hresult⟩
    · intro h
      have hwrites := h hclass
      exact ⟨⟨⟨hwrites.executes, hwrites.transition⟩, hwrites.result⟩, hwrites.approval⟩

/-! ## The verdict -/

/-- A capability conforms if its references do, an empty one counting as none, and the rules of its
effect hold: they leave no room for an empty reference. -/
theorem capabilityConformant_iff {c : PackCapability} : CapabilityConformant m c ↔
    Refers m c ∧ (c.effectClass = .readOnly → ReadsOnly m c) ∧
      (c.effectClass = .externalWrite → WritesExternally m c) := by
  constructor
  · intro h
    exact ⟨⟨h.version, h.facts, h.evidence, fun id hid _ => h.transition id hid,
      fun id hid _ => h.result id hid⟩, h.readOnly, h.externalWrite⟩
  · rintro ⟨⟨hversion, hfacts, hevidence, _, _⟩, hread, hwrite⟩
    have hresolve : (∀ id ∈ c.lifecycleTransitionId, id ∈ m.transitionIds) ∧
        ∀ id ∈ c.resultEvidenceId, id ∈ m.evidenceIds := by
      cases hclass : c.effectClass with
      | readOnly =>
          have hreads := hread hclass
          rw [hreads.transition, hreads.result]
          constructor
          · rintro _ ⟨⟩
          · rintro _ ⟨⟩
      | externalWrite =>
          have hwrites := hwrite hclass
          obtain ⟨t, ht, htransition⟩ := hwrites.transition
          obtain ⟨e, he, hresult, _⟩ := hwrites.result
          rw [htransition, hresult]
          constructor
          · rintro _ ⟨⟩
            exact List.mem_map_of_mem ht
          · rintro _ ⟨⟩
            exact List.mem_map_of_mem he
    exact ⟨hversion, hfacts, hevidence, hresolve.1, hresolve.2, hread, hwrite⟩

theorem reportOf_eq_pass_iff {P : Platform} : (reportOf m P).status = .pass ↔ Conformant m := by
  show ConformanceStatus.of _ = .pass ↔ _
  rw [ConformanceStatus.of_eq_pass]
  have hchecks : (checkResults m).flatMap (·.2) = [] ↔
      runtimeBoundaryViolations m = [] ∧ ownerViolations m = [] ∧ referenceViolations m = [] ∧
        freshnessViolations m = [] ∧ lifecycleViolations m = [] ∧ readOnlyViolations m = [] ∧
        externalWriteViolations m = [] := by
    simp [checkResults]
  rw [hchecks, runtimeBoundaryViolations_eq_nil, ownerViolations_eq_nil, referenceViolations_eq_nil,
    freshnessViolations_eq_nil, lifecycleViolations_eq_nil]
  constructor
  · rintro ⟨⟨hcatalog, hwired⟩, ⟨howned, hassigned⟩, ⟨⟨hf, he, ht, hc⟩, hfacts, hrefers⟩, hfresh,
      ⟨hterminal, htransitions⟩, hread, hwrite⟩
    rw [readOnlyViolations_eq_nil he] at hread
    rw [externalWriteViolations_eq_nil he] at hwrite
    exact ⟨hcatalog, hwired, howned, hassigned, hf, he, ht, hc, hfacts, hfresh, hterminal,
      htransitions, fun c hmem =>
        capabilityConformant_iff.mpr ⟨hrefers c hmem, hread c hmem, hwrite c hmem⟩⟩
  · intro h
    refine ⟨⟨h.catalogOnly, h.notWired⟩, ⟨h.owned, h.assigned⟩,
      ⟨⟨h.factIds, h.evidenceIds, h.transitionIds, h.capabilityIds⟩, h.facts, ?_⟩, h.fresh,
      ⟨h.terminal, h.transitions⟩, ?_, ?_⟩
    · exact fun c hmem => (capabilityConformant_iff.mp (h.capabilities c hmem)).1
    · rw [readOnlyViolations_eq_nil h.evidenceIds]
      exact fun c hmem => (h.capabilities c hmem).readOnly
    · rw [externalWriteViolations_eq_nil h.evidenceIds]
      exact fun c hmem => (h.capabilities c hmem).externalWrite

/-! ## Another order -/

/-- The same capability, with its tuples in another order. -/
structure CapabilityReorders (c c' : PackCapability) : Prop where
  others : { c with
    authorizationDimensions := c'.authorizationDimensions
    canonicalFactIds := c'.canonicalFactIds
    evidenceRequirementIds := c'.evidenceRequirementIds } = c'
  dimensions : c.authorizationDimensions.Perm c'.authorizationDimensions
  facts : c.canonicalFactIds.Perm c'.canonicalFactIds
  evidence : c.evidenceRequirementIds.Perm c'.evidenceRequirementIds

/-- The same manifest, with its tuples and those of its capabilities in another order. -/
structure Reorders (m m' : PackSdkManifest) : Prop where
  others : { m with
    ownerRefs := m'.ownerRefs
    canonicalFacts := m'.canonicalFacts
    evidenceRequirements := m'.evidenceRequirements
    lifecycle := m'.lifecycle
    capabilities := m'.capabilities } = m'
  lifecycleId : m.lifecycle.lifecycleId = m'.lifecycle.lifecycleId
  owners : m.ownerRefs.val.Perm m'.ownerRefs.val
  facts : m.canonicalFacts.val.Perm m'.canonicalFacts.val
  evidence : m.evidenceRequirements.val.Perm m'.evidenceRequirements.val
  states : m.lifecycle.states.val.Perm m'.lifecycle.states.val
  terminal : m.lifecycle.terminalStates.val.Perm m'.lifecycle.terminalStates.val
  transitions : m.lifecycle.transitions.val.Perm m'.lifecycle.transitions.val
  capabilities : ∃ cs, m.capabilities.val.Perm cs ∧
    List.Forall₂ CapabilityReorders cs m'.capabilities.val

variable {m' : PackSdkManifest}

theorem Binds.perm {references references' known known' : List String}
    (h : Binds references known) (hreferences : references.Perm references')
    (hknown : known.Perm known') : Binds references' known' where
  nonempty hnil := h.nonempty (by rw [hnil] at hreferences; exact hreferences.eq_nil)
  unique := hreferences.nodup_iff.mp h.unique
  resolve id hid := hknown.mem_iff.mp (h.resolve id (hreferences.mem_iff.mpr hid))

namespace CapabilityReorders

variable {c c' : PackCapability}

theorem effectClass (h : CapabilityReorders c c') : c.effectClass = c'.effectClass :=
  congrArg (·.effectClass) h.others

theorem transition (h : CapabilityReorders c c') :
    c.lifecycleTransitionId = c'.lifecycleTransitionId :=
  congrArg (·.lifecycleTransitionId) h.others

theorem result (h : CapabilityReorders c c') : c.resultEvidenceId = c'.resultEvidenceId :=
  congrArg (·.resultEvidenceId) h.others

theorem approval (h : CapabilityReorders c c') : c.approvalPolicyRef = c'.approvalPolicyRef :=
  congrArg (·.approvalPolicyRef) h.others

end CapabilityReorders

theorem ReadsOnly.reorders {c c' : PackCapability} (h : ReadsOnly m c) (hm : Reorders m m')
    (hc : CapabilityReorders c c') : ReadsOnly m' c' where
  nonempty hnil := h.nonempty (by
    have hperm := hc.dimensions
    rw [hnil] at hperm
    exact hperm.eq_nil)
  unique := hc.dimensions.nodup_iff.mp h.unique
  allowed d hd := h.allowed d (hc.dimensions.mem_iff.mpr hd)
  evidence e he hlisted := h.evidence e (hm.evidence.mem_iff.mpr he) (hc.evidence.mem_iff.mpr hlisted)
  transition := hc.transition.symm.trans h.transition
  result := hc.result.symm.trans h.result
  approval := hc.approval.symm.trans h.approval

theorem WritesExternally.reorders {c c' : PackCapability} (h : WritesExternally m c)
    (hm : Reorders m m') (hc : CapabilityReorders c c') : WritesExternally m' c' where
  executes := hc.dimensions.mem_iff.mp h.executes
  transition := by
    obtain ⟨t, ht, htransition⟩ := h.transition
    exact ⟨t, hm.transitions.mem_iff.mp ht,
      hc.transition.symm.trans htransition⟩
  approval := by
    obtain ⟨ref, hne, happroval⟩ := h.approval
    exact ⟨ref, hne, hc.approval.symm.trans happroval⟩
  result := by
    obtain ⟨e, he, hresult, hkind, hlisted⟩ := h.result
    exact ⟨e, hm.evidence.mem_iff.mp he,
      hc.result.symm.trans hresult, hkind,
      hc.evidence.mem_iff.mp hlisted⟩

theorem CapabilityConformant.reorders {c c' : PackCapability} (h : CapabilityConformant m c)
    (hm : Reorders m m') (hc : CapabilityReorders c c') : CapabilityConformant m' c' := by
  have hversion : c.packVersion = c'.packVersion := congrArg (·.packVersion) hc.others
  have hpack : m.packVersion = m'.packVersion := congrArg (·.packVersion) hm.others
  exact {
    version := hversion.symm.trans (h.version.trans hpack)
    facts := h.facts.perm hc.facts (hm.facts.map _)
    evidence := h.evidence.perm hc.evidence (hm.evidence.map _)
    transition := fun id hid =>
      (hm.transitions.map _).mem_iff.mp (h.transition id (hc.transition ▸ hid))
    result := fun id hid => (hm.evidence.map _).mem_iff.mp (h.result id (hc.result ▸ hid))
    readOnly := fun hread => (h.readOnly (hc.effectClass.trans hread)).reorders hm hc
    externalWrite := fun hwrite => (h.externalWrite (hc.effectClass.trans hwrite)).reorders hm hc }

theorem capabilityIds_reorders {cs cs' : List PackCapability}
    (h : List.Forall₂ CapabilityReorders cs cs') :
    cs.map (·.capabilityId.val) = cs'.map (·.capabilityId.val) := by
  induction h with
  | nil => rfl
  | cons hc _ ih =>
      rw [List.map_cons, List.map_cons, ih, congrArg (·.capabilityId) hc.others]

theorem Conformant.reorders (h : Conformant m) (hm : Reorders m m') : Conformant m' := by
  obtain ⟨cs, hperm, hforall⟩ := hm.capabilities
  have hceiling : m.freshnessCeilingSeconds = m'.freshnessCeilingSeconds :=
    congrArg (·.freshnessCeilingSeconds) hm.others
  exact {
    catalogOnly := (congrArg (·.contractCatalogOnly) hm.others).symm.trans h.catalogOnly
    notWired := (congrArg (·.runtimeWiringEligible) hm.others).symm.trans h.notWired
    owned := fun role => ((hm.owners.map _).count_eq role).symm.trans (h.owned role)
    assigned := fun o ho => h.assigned o (hm.owners.mem_iff.mpr ho)
    factIds := (hm.facts.map _).nodup_iff.mp h.factIds
    evidenceIds := (hm.evidence.map _).nodup_iff.mp h.evidenceIds
    transitionIds := (hm.transitions.map _).nodup_iff.mp h.transitionIds
    capabilityIds := by
      show (m'.capabilities.val.map (·.capabilityId.val)).Nodup
      rw [← capabilityIds_reorders hforall]
      exact (hperm.map _).nodup_iff.mp h.capabilityIds
    facts := fun f hf =>
      (hm.evidence.map _).mem_iff.mp (h.facts f (hm.facts.mem_iff.mpr hf))
    fresh := fun e he => hceiling ▸ h.fresh e (hm.evidence.mem_iff.mpr he)
    terminal := fun state hstate =>
      hm.states.mem_iff.mp (h.terminal state (hm.terminal.mem_iff.mpr hstate))
    transitions := fun t ht =>
      (h.transitions t (hm.transitions.mem_iff.mpr ht)).imp hm.states.mem_iff.mp
        hm.states.mem_iff.mp
    capabilities := fun c' hc' => by
      obtain ⟨c, hmem, hc⟩ := exists_of_forall₂_right hforall hc'
      exact (h.capabilities c (hperm.mem_iff.mpr hmem)).reorders hm hc }

theorem CapabilityReorders.symm {c c' : PackCapability} (h : CapabilityReorders c c') :
    CapabilityReorders c' c := by
  obtain ⟨hothers, hdimensions, hfacts, hevidence⟩ := h
  refine ⟨?_, hdimensions.symm, hfacts.symm, hevidence.symm⟩
  rw [← hothers]

theorem Reorders.symm (h : Reorders m m') : Reorders m' m := by
  obtain ⟨cs, hperm, hforall⟩ := h.capabilities
  have hback : List.Forall₂ CapabilityReorders m'.capabilities.val cs :=
    hforall.flip.imp fun _ _ => CapabilityReorders.symm
  have hcapabilities : Relation.Comp List.Perm (List.Forall₂ CapabilityReorders)
      m'.capabilities.val m.capabilities.val := by
    rw [← List.forall₂_comp_perm_eq_perm_comp_forall₂]
    exact ⟨cs, hback, hperm.symm⟩
  refine ⟨?_, h.lifecycleId.symm, h.owners.symm, h.facts.symm, h.evidence.symm, h.states.symm,
    h.terminal.symm, h.transitions.symm, hcapabilities⟩
  rw [← h.others]

/-- A report passes exactly the manifests that conform, and it passes a manifest in another order
as well. -/
theorem status_eq_pass_iff (P : Platform)
    (modelValidate : List (String × Json) → Option PackSdkManifest) (m : PackSdkManifest) :
    ((evaluateStaticPackConformance P modelValidate (.manifest m)).status = .pass ↔
        Conformant m) ∧
      ∀ m', Reorders m m' →
        (evaluateStaticPackConformance P modelValidate (.manifest m')).status =
          (evaluateStaticPackConformance P modelValidate (.manifest m)).status := by
  refine ⟨reportOf_eq_pass_iff, fun m' hm => ?_⟩
  show (reportOf m' P).status = (reportOf m P).status
  have hsame : (reportOf m' P).status = .pass ↔ (reportOf m P).status = .pass := by
    rw [reportOf_eq_pass_iff, reportOf_eq_pass_iff]
    exact ⟨fun h => h.reorders hm.symm, fun h => h.reorders hm⟩
  cases hstatus : (reportOf m' P).status with
  | pass => exact (hsame.mp hstatus).symm
  | fail =>
      cases hother : (reportOf m P).status with
      | pass => exact hstatus.symm.trans (hsame.mpr hother)
      | fail => rfl

end PackConformance

end AgentPact
