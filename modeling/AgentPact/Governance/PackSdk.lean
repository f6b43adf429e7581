import AgentPact.Governance.Capabilities

/-!
# Packs that are described offline

`governance/pack_sdk.py` describes a Pack without installing it: its owners,
its facts, the evidence for them, its lifecycle and its capabilities.  What it
lists refers to other things by their ids.

The bounds of the fields are part of their types: an id is not empty, and a
tuple that needs an element has one.  The references of a capability have no
bounds, because an incomplete capability is still described.
-/

namespace AgentPact

/-! ## Descriptions -/

/-- A text that has a character. -/
abbrev Name := { s : String // s ≠ "" }

/-- A tuple that has an element. -/
abbrev NonemptyTuple (α : Type) := { xs : List α // xs ≠ [] }

/-- A number of seconds, at least one. -/
abbrev Seconds := { n : Int // 0 < n }

/-- Who answers for what. -/
inductive ContractOwnerRole where
  | business | tenantPolicy | identitySecurity | integrationProbe | registryInterface | dataControl
  | risk | legalCompliance | rehearsal | sreRelease
deriving DecidableEq, Repr

namespace ContractOwnerRole

/-- The text of a role. -/
def value : ContractOwnerRole → String
  | .business => "business"
  | .tenantPolicy => "tenant_policy"
  | .identitySecurity => "identity_security"
  | .integrationProbe => "integration_probe"
  | .registryInterface => "registry_interface"
  | .dataControl => "data_control"
  | .risk => "risk"
  | .legalCompliance => "legal_compliance"
  | .rehearsal => "rehearsal"
  | .sreRelease => "sre_release"

/-- The roles, in order. -/
def all : List ContractOwnerRole :=
  [.business, .tenantPolicy, .identitySecurity, .integrationProbe, .registryInterface, .dataControl,
    .risk, .legalCompliance, .rehearsal, .sreRelease]

theorem mem_all (role : ContractOwnerRole) : role ∈ all := by
  cases role <;> decide

end ContractOwnerRole

/-- The owner of a role. -/
structure ContractOwnerReference where
  role : ContractOwnerRole
  ownerRef : Name
deriving DecidableEq

/-- The owner reference of a role that nobody has. -/
def unassigned : String := "unassigned"

/-- Whether a description is an example, or of a Pack to come. -/
inductive PackContractKind where
  | syntheticReference | externalCandidate
deriving DecidableEq, Repr

def PackContractKind.value : PackContractKind → String
  | .syntheticReference => "synthetic_reference"
  | .externalCandidate => "external_candidate"

/-- What a capability does to the outside. -/
inductive PackEffectClass where
  | readOnly | externalWrite
deriving DecidableEq, Repr

def PackEffectClass.value : PackEffectClass → String
  | .readOnly => "read_only"
  | .externalWrite => "external_write"

/-- What evidence is. -/
inductive PackEvidenceKind where
  | authoritativeRead | resultProbe
deriving DecidableEq, Repr

def PackEvidenceKind.value : PackEvidenceKind → String
  | .authoritativeRead => "authoritative_read"
  | .resultProbe => "result_probe"

/-- Who may see a fact. -/
inductive PackDataClassification where
  | publicData | internal | confidential | restricted
deriving DecidableEq, Repr

def PackDataClassification.value : PackDataClassification → String
  | .publicData => "public"
  | .internal => "internal"
  | .confidential => "confidential"
  | .restricted => "restricted"

/-- A fact, and the evidence it rests on. -/
structure PackCanonicalFact where
  factId : Name
  schemaRef : Name
  dataClassification : PackDataClassification
  sourceRef : Name
  evidenceRequirementId : Name
deriving DecidableEq

/-- Evidence, and how old it may be. -/
structure PackEvidenceRequirement where
  evidenceId : Name
  kind : PackEvidenceKind
  sourceSchemaRef : Name
  maximumAgeSeconds : Seconds
deriving DecidableEq

/-- A transition between two states. -/
structure PackLifecycleTransition where
  transitionId : Name
  sourceState : Name
  targetState : Name
deriving DecidableEq

/-- The states of a Pack. -/
structure PackLifecycle where
  lifecycleId : Name
  states : NonemptyTuple String
  terminalStates : NonemptyTuple String
  transitions : NonemptyTuple PackLifecycleTransition
deriving DecidableEq

/-- A capability, without an implementation. -/
structure PackCapability where
  capabilityId : Name
  packVersion : Name
  displayName : Name
  effectClass : PackEffectClass
  authorizationDimensions : List AuthorizationDimension
  canonicalFactIds : List String
  evidenceRequirementIds : List String
  lifecycleTransitionId : Option String := none
  resultEvidenceId : Option String := none
  approvalPolicyRef : Option String := none
deriving DecidableEq

/-- A Pack that is described offline. -/
structure PackSdkManifest where
  packId : Name
  packVersion : Name
  kind : PackContractKind
  displayName : Name
  contractCatalogOnly : Bool := true
  runtimeWiringEligible : Bool := false
  ownerRefs : NonemptyTuple ContractOwnerReference
  freshnessCeilingSeconds : Seconds
  canonicalFacts : NonemptyTuple PackCanonicalFact
  evidenceRequirements : NonemptyTuple PackEvidenceRequirement
  lifecycle : PackLifecycle
  capabilities : NonemptyTuple PackCapability

namespace PackSdkManifest

variable (m : PackSdkManifest)

def factIds : List String := m.canonicalFacts.val.map (·.factId.val)

def evidenceIds : List String := m.evidenceRequirements.val.map (·.evidenceId.val)

def transitionIds : List String := m.lifecycle.transitions.val.map (·.transitionId.val)

def capabilityIds : List String := m.capabilities.val.map (·.capabilityId.val)

/-- `model_dump(mode="json")`. -/
def modelDump : Json :=
  let text (s : Name) : Json := .str s.val
  let optional (s : Option String) : Json := s.elim .null .str
  .obj [
    ("schema_version", .str "domain-pack-sdk/v1"),
    ("pack_id", text m.packId),
    ("pack_version", text m.packVersion),
    ("kind", .str m.kind.value),
    ("display_name", text m.displayName),
    ("contract_catalog_only", .bool m.contractCatalogOnly),
    ("runtime_wiring_eligible", .bool m.runtimeWiringEligible),
    ("owner_refs", .arr <| m.ownerRefs.val.map fun o =>
      .obj [("role", .str o.role.value), ("owner_ref", text o.ownerRef)]),
    ("freshness_ceiling_seconds", .num m.freshnessCeilingSeconds.val),
    ("canonical_facts", .arr <| m.canonicalFacts.val.map fun f => .obj [
      ("fact_id", text f.factId),
      ("schema_ref", text f.schemaRef),
      ("data_classification", .str f.dataClassification.value),
      ("source_ref", text f.sourceRef),
      ("evidence_requirement_id", text f.evidenceRequirementId)]),
    ("evidence_requirements", .arr <| m.evidenceRequirements.val.map fun e => .obj [
      ("evidence_id", text e.evidenceId),
      ("kind", .str e.kind.value),
      ("source_schema_ref", text e.sourceSchemaRef),
      ("maximum_age_seconds", .num e.maximumAgeSeconds.val)]),
    ("lifecycle", .obj [
      ("lifecycle_id", text m.lifecycle.lifecycleId),
      ("states", .arr <| m.lifecycle.states.val.map .str),
      ("terminal_states", .arr <| m.lifecycle.terminalStates.val.map .str),
      ("transitions", .arr <| m.lifecycle.transitions.val.map fun t => .obj [
        ("transition_id", text t.transitionId),
        ("source_state", text t.sourceState),
        ("target_state", text t.targetState)])]),
    ("capabilities", .arr <| m.capabilities.val.map fun c => .obj [
      ("capability_id", text c.capabilityId),
      ("pack_version", text c.packVersion),
      ("display_name", text c.displayName),
      ("effect_class", .str c.effectClass.value),
      ("authorization_dimensions", .arr <| c.authorizationDimensions.map fun d => .str d.value),
      ("canonical_fact_ids", .arr <| c.canonicalFactIds.map .str),
      ("evidence_requirement_ids", .arr <| c.evidenceRequirementIds.map .str),
      ("lifecycle_transition_id", optional c.lifecycleTransitionId),
      ("result_evidence_id", optional c.resultEvidenceId),
      ("approval_policy_ref", optional c.approvalPolicyRef)])]

/-- `manifest_digest`. -/
def manifestDigest (P : Platform) : Digest := P.digest m.modelDump

end PackSdkManifest

end AgentPact
