import AgentPact.Auth
import AgentPact.Values

/-!
# Capabilities and their grants

`governance/capabilities.py`: what a business capability is, the grant that
lets a principal use it for a while, and the registry of what is installed.

A set of grants carries the proof that their ids are distinct, as the model
validator of the source demands, so that a grant id names one grant.
-/

namespace AgentPact

/-! ## Grants -/

/-- The outcome of a capability resolution. -/
inductive AccessDisposition where
  | allow | allowExecute | allowRequestApproval | needClarification | deny
deriving DecidableEq, Repr

/-- An authority.  None implies another. -/
inductive AuthorizationDimension where
  | discover | readRecord | requestTransition | executeTransition | requestApproval
  | adjudicateApproval
deriving DecidableEq, Repr

/-- The text of a dimension. -/
def AuthorizationDimension.value : AuthorizationDimension → String
  | .discover => "discover"
  | .readRecord => "read_record"
  | .requestTransition => "request_transition"
  | .executeTransition => "execute_transition"
  | .requestApproval => "request_approval"
  | .adjudicateApproval => "adjudicate_approval"

/-- What a capability is used on. -/
structure CapabilityDataScope where
  departmentId : Option String
  businessLineId : Option String
  resourceIds : Finset String
  attributes : JsonDict
deriving DecidableEq

/-- `==` on scopes. -/
def CapabilityDataScope.same (a b : CapabilityDataScope) : Prop :=
  a.departmentId = b.departmentId ∧ a.businessLineId = b.businessLineId ∧
    a.resourceIds = b.resourceIds ∧ a.attributes.same b.attributes

instance (a b : CapabilityDataScope) : Decidable (a.same b) := by
  unfold CapabilityDataScope.same
  infer_instance

/-- A grant of a capability. -/
structure CapabilityGrant where
  grantId : String
  capabilityId : String
  capabilityVersion : String
  principalId : String
  businessPrincipalId : Option String
  workloadPrincipalId : Option String
  tenantId : String
  dataScope : CapabilityDataScope
  disposition : AccessDisposition
  allowedDimensions : Finset AuthorizationDimension
  policySnapshotVersion : String
  revocationEpoch : String
  resolvedAt : DateTime
  notBefore : Option DateTime
  expiresAt : DateTime
deriving DecidableEq

namespace CapabilityGrant

/-- `business_principal_id or principal_id`, with the empty id for none. -/
def principal (g : CapabilityGrant) : String :=
  match g.businessPrincipalId with
  | some id => if id = "" then g.principalId else id
  | none => g.principalId

/-- `is_active_at`. -/
def isActiveAt (g : CapabilityGrant) (now : DateTime) : Except Raised Bool :=
  now.within (g.notBefore.getD g.resolvedAt) g.expiresAt

/-- `allows`. -/
def allows (g : CapabilityGrant) (dimension : AuthorizationDimension) (now : DateTime) :
    Except Raised Bool := do
  if ← g.isActiveAt now then pure (dimension ∈ g.allowedDimensions) else pure false

/-- Whether a grant is for a capability, has an id and allows a dimension. -/
def allowsFor (g : CapabilityGrant) (capabilityId grantId : String)
    (dimension : AuthorizationDimension) (now : DateTime) : Except Raised Bool :=
  if g.capabilityId = capabilityId ∧ g.grantId = grantId then g.allows dimension now
  else .ok false

/-- Whether a grant is among the active ones: it does not deny, and it is active. -/
def activeAt (g : CapabilityGrant) (now : DateTime) : Except Raised Bool :=
  if g.disposition = .deny then .ok false else g.isActiveAt now

theorem activeAt_eq_true {g : CapabilityGrant} {now : DateTime} :
    g.activeAt now = .ok true ↔ g.disposition ≠ .deny ∧ g.isActiveAt now = .ok true := by
  unfold activeAt
  split
  case isTrue h => simp [h]
  case isFalse h => simp [h]

theorem allows_eq_true {g : CapabilityGrant} {dimension : AuthorizationDimension}
    {now : DateTime} : g.allows dimension now = .ok true ↔
      g.isActiveAt now = .ok true ∧ dimension ∈ g.allowedDimensions := by
  unfold allows
  rw [except_bind_eq_ok]
  constructor
  · rintro ⟨active, hactive, h⟩
    cases active with
    | false => cases h
    | true =>
        have hallowed : decide (dimension ∈ g.allowedDimensions) = true := Except.ok.inj h
        exact ⟨hactive, of_decide_eq_true hallowed⟩
  · rintro ⟨hactive, hallowed⟩
    exact ⟨true, hactive, congrArg Except.ok (decide_eq_true hallowed)⟩

end CapabilityGrant

/-- Grants with distinct ids. -/
structure CapabilityGrantSet where
  grants : List CapabilityGrant
  unique : (grants.map (·.grantId)).Nodup

/-- The active ones of some grants. -/
def activeAmong (now : DateTime) : List CapabilityGrant → Except Raised (List CapabilityGrant)
  | [] => .ok []
  | g :: gs => do
      let active ← g.activeAt now
      let rest ← activeAmong now gs
      pure (if active then g :: rest else rest)

/-- The first of some grants that is for a capability, has an id and allows a dimension. -/
def firstAllowing (capabilityId grantId : String) (dimension : AuthorizationDimension)
    (now : DateTime) : List CapabilityGrant → Except Raised CapabilityGrant
  | [] => .error ⟨.valueError, "CapabilityGrant does not allow " ++ dimension.value⟩
  | g :: gs => do
      let allowed ← g.allowsFor capabilityId grantId dimension now
      if allowed then pure g else firstAllowing capabilityId grantId dimension now gs

namespace CapabilityGrantSet

/-- `active_grants`. -/
def activeGrants (s : CapabilityGrantSet) (now : DateTime) :
    Except Raised (List CapabilityGrant) := activeAmong now s.grants

/-- `require_dimension`. -/
def requireDimension (s : CapabilityGrantSet) (capabilityId grantId : String)
    (dimension : AuthorizationDimension) (now : DateTime) : Except Raised CapabilityGrant := do
  firstAllowing capabilityId grantId dimension now (← s.activeGrants now)

/-- `require_executable`. -/
def requireExecutable (s : CapabilityGrantSet) (capabilityId grantId : String) (now : DateTime) :
    Except Raised CapabilityGrant :=
  (s.requireDimension capabilityId grantId .executeTransition now).mapError fun e =>
    if ErrorClass.valueError.caughtBy e then
      ⟨.valueError, "Planner capability reference is not an executable CapabilityGrant"⟩
    else e

/-- The first grant with an id, for the two functions called `_require_grant`. -/
def requireGrant (s : CapabilityGrantSet) (grantId text : String) :
    Except Raised CapabilityGrant :=
  orRaise (s.grants.find? fun g => g.grantId = grantId) ⟨.valueError, text⟩

end CapabilityGrantSet

/-! ## What a required grant is -/

theorem mem_activeAmong {now : DateTime} {gs active : List CapabilityGrant}
    (h : activeAmong now gs = .ok active) {g : CapabilityGrant} (hg : g ∈ active) :
    g ∈ gs ∧ g.activeAt now = .ok true := by
  induction gs generalizing active with
  | nil =>
      cases h
      cases hg
  | cons a gs ih =>
      obtain ⟨isActive, hactive, h⟩ := except_bind_eq_ok.mp h
      obtain ⟨rest, hrest, h⟩ := except_bind_eq_ok.mp h
      cases h
      cases isActive with
      | false =>
          obtain ⟨hmem, hg'⟩ := ih hrest hg
          exact ⟨List.mem_cons_of_mem a hmem, hg'⟩
      | true =>
          rcases List.mem_cons.mp hg with rfl | hmem
          · exact ⟨List.mem_cons_self .., hactive⟩
          · obtain ⟨hmem', hg'⟩ := ih hrest hmem
            exact ⟨List.mem_cons_of_mem a hmem', hg'⟩

theorem firstAllowing_eq_ok {capabilityId grantId : String} {dimension : AuthorizationDimension}
    {now : DateTime} {gs : List CapabilityGrant} {g : CapabilityGrant}
    (h : firstAllowing capabilityId grantId dimension now gs = .ok g) :
    g ∈ gs ∧ g.capabilityId = capabilityId ∧ g.grantId = grantId ∧
      g.allows dimension now = .ok true := by
  induction gs with
  | nil => cases h
  | cons a gs ih =>
      obtain ⟨allowed, hallowed, h⟩ := except_bind_eq_ok.mp h
      cases allowed with
      | false =>
          obtain ⟨hmem, hg⟩ := ih h
          exact ⟨List.mem_cons_of_mem a hmem, hg⟩
      | true =>
          cases h
          unfold CapabilityGrant.allowsFor at hallowed
          split at hallowed
          case isTrue hids =>
            exact ⟨List.mem_cons_self .., hids.1, hids.2, hallowed⟩
          case isFalse => cases hallowed

/-- A grant that may be used in a dimension at a time. -/
structure CapabilityGrant.Usable (g : CapabilityGrant) (dimension : AuthorizationDimension)
    (now : DateTime) : Prop where
  granted : g.disposition ≠ .deny
  inForce : g.isActiveAt now = .ok true
  allowed : dimension ∈ g.allowedDimensions

/-- A required grant is one of the set, and may be used. -/
theorem CapabilityGrantSet.requireDimension_eq_ok {s : CapabilityGrantSet}
    {capabilityId grantId : String} {dimension : AuthorizationDimension} {now : DateTime}
    {g : CapabilityGrant} (h : s.requireDimension capabilityId grantId dimension now = .ok g) :
    g ∈ s.grants ∧ g.capabilityId = capabilityId ∧ g.grantId = grantId ∧
      g.Usable dimension now := by
  obtain ⟨active, hactive, hfirst⟩ := except_bind_eq_ok.mp h
  obtain ⟨hmem, hcapability, hid, hallows⟩ := firstAllowing_eq_ok hfirst
  obtain ⟨hg, hactiveAt⟩ := mem_activeAmong hactive hmem
  obtain ⟨hgranted, hinForce⟩ := CapabilityGrant.activeAt_eq_true.mp hactiveAt
  exact ⟨hg, hcapability, hid, hgranted, hinForce, (CapabilityGrant.allows_eq_true.mp hallows).2⟩

theorem CapabilityGrantSet.requireExecutable_eq_ok {s : CapabilityGrantSet}
    {capabilityId grantId : String} {now : DateTime} {g : CapabilityGrant}
    (h : s.requireExecutable capabilityId grantId now = .ok g) :
    g ∈ s.grants ∧ g.capabilityId = capabilityId ∧ g.grantId = grantId ∧
      g.Usable .executeTransition now :=
  requireDimension_eq_ok (mapError_eq_ok.mp h)

/-- Two grants of a set with one id are one grant. -/
theorem CapabilityGrantSet.eq_of_grantId {s : CapabilityGrantSet} {g g' : CapabilityGrant}
    (hg : g ∈ s.grants) (hg' : g' ∈ s.grants) (h : g.grantId = g'.grantId) : g = g' :=
  List.inj_on_of_nodup_map s.unique hg hg' h

theorem CapabilityGrantSet.requireGrant_eq_ok {s : CapabilityGrantSet} {grantId text : String}
    {g : CapabilityGrant} (h : s.requireGrant grantId text = .ok g) :
    g ∈ s.grants ∧ g.grantId = grantId := by
  have hfind := orRaise_eq_ok.mp h
  exact ⟨List.mem_of_find?_eq_some hfind, by simpa using List.find?_some hfind⟩

/-! ## Access policies -/

/-- A part of a scope that a policy may require. -/
inductive ScopeDimension where
  | department | businessLine
deriving DecidableEq, Repr

/-- The text of a part. -/
def ScopeDimension.value : ScopeDimension → String
  | .department => "department"
  | .businessLine => "business_line"

/-- How much a role may do on a resource. -/
inductive PermissionLevel where
  | none | read | operate | approve
deriving DecidableEq, Repr

/-- `_legacy_roles_for_permission`. -/
def PermissionLevel.legacyRoles : PermissionLevel → List String
  | .none => []
  | .read => ["viewer", "operator", "approver", "org_admin", "super_admin"]
  | .operate => ["operator"]
  | .approve => ["approver"]

/-- The dimensions a minimum permission lets through. -/
def PermissionLevel.permitted : PermissionLevel → Finset AuthorizationDimension
  | .none => ∅
  | .read => {.discover, .readRecord}
  | .operate => {.discover, .readRecord, .requestTransition, .executeTransition}
  | .approve => {.discover, .readRecord, .adjudicateApproval}

/-- The dimensions of a role where a policy names none. -/
def legacyRoleDimensions (role : String) : Finset AuthorizationDimension :=
  if role = "viewer" then {.discover, .readRecord}
  else if role = "operator" then {.discover, .readRecord, .requestTransition, .executeTransition}
  else if role = "approver" then {.discover, .readRecord, .adjudicateApproval}
  else if role = "org_admin" ∨ role = "super_admin" then {.discover, .readRecord}
  else ∅

/-- Which role has which dimensions of a capability. -/
structure CapabilityAccessPolicy where
  minimumPermission : PermissionLevel := .operate
  approvalRequestMinimumPermission : PermissionLevel := .read
  allowRequestApproval : Bool := false
  requiredScopeDimensions : Finset ScopeDimension := ∅
  /-- A dictionary, where the policy is explicit. -/
  roleDimensions : Option (List (String × Finset AuthorizationDimension)) := none
deriving DecidableEq

/-- `dimensions_for_role`. -/
def CapabilityAccessPolicy.dimensionsForRole (p : CapabilityAccessPolicy) (role : String) :
    Finset AuthorizationDimension :=
  match p.roleDimensions with
  | some byRole => ((byRole.find? fun e => e.1 = role).map (·.2)).getD ∅
  | none =>
      (legacyRoleDimensions role ∩ p.minimumPermission.permitted) ∪
        if p.allowRequestApproval ∧ role ∈ p.approvalRequestMinimumPermission.legacyRoles then
          {.requestApproval}
        else ∅

/-! ## The registry -/

/-- A business capability. -/
structure CapabilityDefinition where
  capabilityId : String
  version : String
  inputSchema : JsonDict
  resultProbeRef : String
  accessPolicy : CapabilityAccessPolicy := {}
deriving DecidableEq

/-- The installed capabilities, each id once. -/
structure CapabilityRegistry where
  definitions : List CapabilityDefinition
  unique : (definitions.map (·.capabilityId)).Nodup

/-- `require`. -/
def CapabilityRegistry.require (r : CapabilityRegistry) (capabilityId : String) :
    Except Raised CapabilityDefinition :=
  orRaise (r.definitions.find? fun d => d.capabilityId = capabilityId)
    ⟨.valueError, "Capability is not registered"⟩

/-! ## Resolution -/

/-- What a resolution is asked about. -/
structure CapabilityResolutionContext where
  user : UserContext
  tenantId : String
  dataScope : CapabilityDataScope
  installedCapabilityIds : Finset String
  policySnapshotVersion : String
  resolvedAt : DateTime
  grantTtlSeconds : Nat := 300
  workloadPrincipalId : Option String := none
  revocationEpoch : String := "0"

namespace CapabilityResolutionContext

variable (context : CapabilityResolutionContext)

/-- Whether the scope names a part. -/
def names : ScopeDimension → Bool
  | .department => context.dataScope.departmentId.getD "" ≠ ""
  | .businessLine => context.dataScope.businessLineId.getD "" ≠ ""

/-- `_roles_in_scope`. -/
def rolesInScope : List String :=
  (context.user.departmentRoles.filter fun dr =>
    context.names .department && context.dataScope.departmentId = some dr.departmentId &&
      (!context.names .businessLine ||
        context.user.hasBusinessLine (context.dataScope.businessLineId.getD ""))).map (·.role)

/-- The dimensions that the roles of a user have in a scope, and its special permissions. -/
def dimensions (policy : CapabilityAccessPolicy) : Finset AuthorizationDimension :=
  (context.rolesInScope.foldr (fun role acc => policy.dimensionsForRole role ∪ acc) ∅) ∪
    (if context.user.hasCrossOrgRead then {.readRecord} else ∅) ∪
    (if context.user.hasCrossOrgApprove then {.adjudicateApproval} else ∅)

/-- `_grant`, for the id and the dimensions it is given. -/
def grant (definition : CapabilityDefinition) (disposition : AccessDisposition)
    (allowedDimensions : Finset AuthorizationDimension) (grantId : String) :
    Except Raised CapabilityGrant := do
  let expiresAt ← context.resolvedAt.add (context.grantTtlSeconds * DateTime.second)
  pure {
    grantId := grantId
    capabilityId := definition.capabilityId
    capabilityVersion := definition.version
    principalId := context.user.userId
    businessPrincipalId := some context.user.userId
    workloadPrincipalId := context.workloadPrincipalId
    tenantId := context.tenantId
    dataScope := context.dataScope
    disposition := disposition
    allowedDimensions := allowedDimensions
    policySnapshotVersion := context.policySnapshotVersion
    revocationEpoch := context.revocationEpoch
    resolvedAt := context.resolvedAt
    notBefore := some context.resolvedAt
    expiresAt := expiresAt }

/-- The disposition of some dimensions. -/
def disposition (dimensions : Finset AuthorizationDimension) : AccessDisposition :=
  if .executeTransition ∈ dimensions then .allowExecute
  else if .requestApproval ∈ dimensions then .allowRequestApproval
  else .allow

/-- `_resolve_definition`. -/
def resolveDefinition (definition : CapabilityDefinition) (grantId : String) :
    Except Raised CapabilityGrant :=
  if context.tenantId ≠ context.user.orgId then context.grant definition .deny ∅ grantId
  else if definition.capabilityId ∉ context.installedCapabilityIds then
    context.grant definition .deny ∅ grantId
  else if ∃ part ∈ definition.accessPolicy.requiredScopeDimensions, ¬ context.names part then
    context.grant definition .needClarification ∅ grantId
  else if context.dimensions definition.accessPolicy = ∅ then
    context.grant definition .deny ∅ grantId
  else
    context.grant definition (disposition (context.dimensions definition.accessPolicy))
      (context.dimensions definition.accessPolicy) grantId

end CapabilityResolutionContext

/-- `validate_unique_grant_ids`. -/
def CapabilityGrantSet.ofGrants (grants : List CapabilityGrant) :
    Except Raised CapabilityGrantSet :=
  if unique : (grants.map (·.grantId)).Nodup then .ok ⟨grants, unique⟩
  else .error ⟨.validationError, "CapabilityGrantSet grant_id values must be unique"⟩

/-- `CapabilityResolver.resolve`, with the id that the grant of each capability gets. -/
def CapabilityRegistry.resolve (r : CapabilityRegistry) (context : CapabilityResolutionContext)
    (grantId : String → String) : Except Raised CapabilityGrantSet := do
  CapabilityGrantSet.ofGrants
    (← r.definitions.mapM fun d => context.resolveDefinition d (grantId d.capabilityId))

end AgentPact
