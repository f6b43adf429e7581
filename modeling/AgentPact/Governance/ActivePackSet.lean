import AgentPact.Governance.PackConformance
import AgentPact.Governance.RegistrySafety
import AgentPact.StripePayment.Compilation

/-!
# The active Packs of a tenant

`governance/domain_pack_installations.py` activates the accepted installations
of a tenant, each against the manifest that its Pack runs on and against the
report on its contract.  `governance/pack_runtime.py` makes a registry of the
active set, in which adapters are then registered.

An active set holds the accepted installations and exposes what they enable
(`ActiveDomainPackSet.Activated`).  Its registry resolves for the tenant of the
set exactly what the set exposes.  An adapter may be registered with an
installation of another tenant, and then the registry resolves that one too.
-/

namespace AgentPact

open PackConformance

/-! ## Activating -/

/-- The text of a status. -/
def DomainPackInstallationStatus.value : DomainPackInstallationStatus → String
  | .accepted => "accepted"
  | .rejected => "rejected"
  | .disabled => "disabled"

/-- `identity`. -/
def DomainPackInstallation.identity (i : DomainPackInstallation) : PackKey :=
  (i.packId, i.packVersion)

/-- What a registry of runtimes sees of an installation. -/
def DomainPackInstallation.runtime (i : DomainPackInstallation) : RuntimeInstallation where
  tenantId := i.tenantId
  packId := i.packId
  packVersion := i.packVersion
  status := i.status.value
  acceptedAt := i.acceptedAt
  expiresAt := i.expiresAt
  contractDigest := i.contractDigest
  adapterRef := i.adapterRef
  enabledCapabilityIds := i.enabledCapabilityIds

/-- The identity of a manifest. -/
def DomainPackManifest.identity (m : DomainPackManifest) : PackKey := (m.packId, m.version)

/-- The identity of what a report is on. -/
def reportIdentity (r : PackConformance.StaticConformanceReport) : Except Raised PackKey := do
  ensure (r.candidatePackId.getD "" ≠ "")
    ⟨.valueError, "Static conformance report has no Pack id"⟩
  ensure (r.candidatePackVersion.getD "" ≠ "")
    ⟨.valueError, "Static conformance report has no Pack version"⟩
  pure (r.candidatePackId.getD "", r.candidatePackVersion.getD "")

/-- `_unique_by_identity` and `_unique_reports`: items under their identities. -/
def uniqueByIdentity {α : Type} (identity : α → Except Raised PackKey) (label : String) :
    List α → (Finmap fun _ : PackKey => α) → Except Raised (Finmap fun _ : PackKey => α)
  | [], indexed => .ok indexed
  | item :: items, indexed => do
      let key ← identity item
      ensure ((indexed.lookup key).isNone)
        ⟨.valueError, "Duplicate " ++ label ++ ": " ++ key.1 ++ "@" ++ key.2⟩
      uniqueByIdentity identity label items (indexed.insert key item)

/-- `_require_pack`. -/
def requireIndexed {α : Type} (items : Finmap fun _ : PackKey => α) (identity : PackKey)
    (label : String) : Except Raised α :=
  match items.lookup identity with
  | some item => .ok item
  | none =>
      let named := identity.1 ++ "@" ++ identity.2
      .error ⟨.valueError,
        if ∃ key ∈ items.keys, key.1 = identity.1 then
          "Domain Pack installation version does not match its " ++ label ++ ": " ++ named
        else "Accepted installation has no matching " ++ label ++ ": " ++ named⟩

/-- What installations are activated against. -/
structure ActivationInputs where
  tenantId : String
  runtimeManifests : List DomainPackManifest
  conformanceReports : List PackConformance.StaticConformanceReport
  installations : List DomainPackInstallation
  expectedPolicyVersions : String → Option String
  expectedAdapterRefs : String → Option String
  now : DateTime

/-- The dictionaries of the manifests and of the reports. -/
structure Indexed where
  runtimeByIdentity : Finmap fun _ : PackKey => DomainPackManifest
  reportsById : Finmap fun _ : PackKey => PackConformance.StaticConformanceReport

/-- The capability of an id in the dictionary of a manifest, which keeps the last one. -/
def DomainPackManifest.capability (m : DomainPackManifest) (id : String) :
    Option CapabilityDefinition :=
  m.capabilities.reverse.find? fun c => c.capabilityId = id

/-- What the loop checks of an accepted installation, and the manifest it activates. -/
def activate (A : ActivationInputs) (D : Indexed) (i : DomainPackInstallation) :
    Except Raised DomainPackManifest := do
  let current ← A.now.within i.acceptedAt i.expiresAt
  ensure (current = true) ⟨.valueError, "Accepted Domain Pack installation is stale"⟩
  let manifest ← requireIndexed D.runtimeByIdentity i.identity "runtime manifest"
  let report ← requireIndexed D.reportsById i.identity "static conformance report"
  ensure (report.status = .pass)
    ⟨.valueError, "Accepted Domain Pack contract failed static conformance"⟩
  ensure (report.candidatePackId = some i.packId ∧ report.candidatePackVersion = some i.packVersion)
    ⟨.valueError, "Domain Pack installation identity does not match its conformance report"⟩
  ensure (report.manifestDigest = some i.contractDigest)
    ⟨.valueError, "Domain Pack installation digest does not match its accepted contract"⟩
  ensure (A.expectedPolicyVersions i.packId = some i.policyVersion)
    ⟨.valueError, "Domain Pack installation policy version is stale"⟩
  ensure (A.expectedAdapterRefs i.packId = some i.adapterRef)
    ⟨.valueError, "Domain Pack installation adapter reference is not trusted"⟩
  ensure (∀ id ∈ i.enabledCapabilityIds, id ∈ manifest.capabilities.map (·.capabilityId))
    ⟨.valueError, "Domain Pack installation enables an unresolved Capability"⟩
  ensure (i.resultProbeRef ∈ manifest.resultProbeRefs)
    ⟨.valueError, "Domain Pack installation result probe does not resolve"⟩
  -- The enabled ids are a set, so which of the two texts is raised depends on its order.
  ensure (∀ id ∈ i.enabledCapabilityIds,
      (manifest.capability id).all fun c => c.version = i.packVersion)
    ⟨.valueError, "Enabled Capability version does not match its installation"⟩
  ensure (∀ id ∈ i.enabledCapabilityIds,
      (manifest.capability id).all fun c => c.resultProbeRef = i.resultProbeRef)
    ⟨.valueError, "Enabled Capability result probe does not match its installation"⟩
  pure { manifest with
    capabilities := manifest.capabilities.filter fun c => c.capabilityId ∈ i.enabledCapabilityIds }

/-- The loop: the installations that were activated, each with its manifest. -/
def activateAll (A : ActivationInputs) (D : Indexed) : List DomainPackInstallation →
    List (DomainPackInstallation × DomainPackManifest) →
    Except Raised (List (DomainPackInstallation × DomainPackManifest))
  | [], active => .ok active
  | i :: is, active =>
      if i.tenantId ≠ A.tenantId ∨ i.status ≠ .accepted then activateAll A D is active
      else do
        ensure (i.packId ∉ active.map (·.1.packId))
          ⟨.valueError, "Duplicate accepted Domain Pack installation: " ++ i.packId⟩
        let manifest ← activate A D i
        activateAll A D is (active ++ [(i, manifest)])

/-- The manifests of a `DomainPackRegistry`, each registered under its identity. -/
def registerManifests : List DomainPackManifest → (Finmap fun _ : PackKey => DomainPackManifest) →
    Except Raised (Finmap fun _ : PackKey => DomainPackManifest) :=
  uniqueByIdentity (fun m => .ok m.identity) "Domain Pack identity"

structure ActiveDomainPackSet where
  tenantId : String
  installations : List DomainPackInstallation
  /-- The manifests of the registry. -/
  registry : Finmap fun _ : PackKey => DomainPackManifest
  trustedAdapterRefs : List (String × String × String)
  validatedAt : Option DateTime

/-- The order of identities. -/
def identityLe (a b : PackKey) : Prop := a.1 < b.1 ∨ (a.1 = b.1 ∧ a.2 ≤ b.2)

instance (a b : PackKey) : Decidable (identityLe a b) := by
  unfold identityLe
  infer_instance

/-- The order of triples. -/
def tripleLe (a b : String × String × String) : Prop :=
  a.1 < b.1 ∨ (a.1 = b.1 ∧ identityLe a.2 b.2)

instance (a b : String × String × String) : Decidable (tripleLe a b) := by
  unfold tripleLe
  infer_instance

/-- `build_active_domain_pack_set`. -/
def ActivationInputs.build (A : ActivationInputs) : Except Raised ActiveDomainPackSet := do
  let runtimeByIdentity ←
    uniqueByIdentity (fun m => .ok m.identity) "runtime manifest" A.runtimeManifests ∅
  let reportsById ←
    uniqueByIdentity reportIdentity "static conformance report" A.conformanceReports ∅
  let active ← activateAll A ⟨runtimeByIdentity, reportsById⟩ A.installations []
  let registry ← registerManifests (active.map (·.2)) ∅
  pure {
    tenantId := A.tenantId
    installations := (active.map (·.1)).insertionSort fun a b => identityLe a.identity b.identity
    registry := registry
    trustedAdapterRefs :=
      (active.map fun e => (e.1.packId, e.1.packVersion, e.1.adapterRef)).insertionSort tripleLe
    validatedAt := some A.now }

/-! ## What is active -/

/-- An index holds what it held before and the items that were put into it. -/
theorem uniqueByIdentity_lookup {α : Type} {identity : α → Except Raised PackKey} {label : String}
    {items : List α} {indexed result : Finmap fun _ : PackKey => α}
    (h : uniqueByIdentity identity label items indexed = .ok result) {key : PackKey} {item : α} :
    result.lookup key = some item ↔
      indexed.lookup key = some item ∨ (item ∈ items ∧ identity item = .ok key) := by
  induction items generalizing indexed with
  | nil =>
      cases h
      simp
  | cons x xs ih =>
      obtain ⟨k, hk, h⟩ := except_bind_eq_ok.mp h
      obtain ⟨_, hfree, h⟩ := except_bind_eq_ok.mp h
      rw [ensure_eq_ok, Option.isNone_iff_eq_none] at hfree
      rw [ih h]
      by_cases hkey : key = k
      · subst hkey
        rw [Finmap.lookup_insert, hfree]
        constructor
        · rintro (hx | ⟨hmem, hid⟩)
          · cases hx
            exact .inr ⟨List.mem_cons_self .., hk⟩
          · exact .inr ⟨List.mem_cons_of_mem _ hmem, hid⟩
        · rintro (hnone | ⟨hmem, hid⟩)
          · cases hnone
          · rcases List.mem_cons.mp hmem with rfl | hmem
            · exact .inl rfl
            · exact .inr ⟨hmem, hid⟩
      · rw [Finmap.lookup_insert_of_ne _ hkey]
        refine or_congr_right (and_congr_left fun hid => ?_)
        have hne : item ≠ x := by
          rintro rfl
          rw [hk] at hid
          cases hid
          exact hkey rfl
        rw [List.mem_cons, or_iff_right hne]

theorem requireIndexed_eq_ok {α : Type} {items : Finmap fun _ : PackKey => α} {key : PackKey}
    {label : String} {item : α} :
    requireIndexed items key label = .ok item ↔ items.lookup key = some item := by
  unfold requireIndexed
  cases items.lookup key with
  | none => exact ⟨nofun, nofun⟩
  | some _ => simp

/-- Why an installation is active: it is in force, a report on its contract passed, and its policy
and its adapter are the expected ones. -/
structure ActivationInputs.Justifies (A : ActivationInputs) (i : DomainPackInstallation) : Prop where
  inForce : A.now.within i.acceptedAt i.expiresAt = .ok true
  report : ∃ report ∈ A.conformanceReports, report.status = .pass ∧
    report.candidatePackId = some i.packId ∧ report.candidatePackVersion = some i.packVersion ∧
    report.manifestDigest = some i.contractDigest
  policy : A.expectedPolicyVersions i.packId = some i.policyVersion
  adapter : A.expectedAdapterRefs i.packId = some i.adapterRef

/-- The manifest of an active installation has the identity of it, and its capabilities are those
that are enabled. -/
structure Enables (i : DomainPackInstallation) (manifest : DomainPackManifest) : Prop where
  identity : manifest.identity = i.identity
  enabled : ∀ id, id ∈ manifest.capabilities.map (·.capabilityId) ↔ id ∈ i.enabledCapabilityIds

theorem activate_eq_ok {A : ActivationInputs} {D : Indexed} {i : DomainPackInstallation}
    {manifest : DomainPackManifest}
    (hmanifests : uniqueByIdentity (fun m => .ok m.identity) "runtime manifest"
      A.runtimeManifests ∅ = .ok D.runtimeByIdentity)
    (hreports : uniqueByIdentity reportIdentity "static conformance report"
      A.conformanceReports ∅ = .ok D.reportsById)
    (h : activate A D i = .ok manifest) : A.Justifies i ∧ Enables i manifest := by
  simp only [activate, except_bind_eq_ok, ensure_eq_ok, requireIndexed_eq_ok, exists_const] at h
  obtain ⟨current, hcurrent, rfl, runtime, hruntime, report, hreport, hpass, ⟨hid, hversion⟩,
    hdigest, hpolicy, hadapter, hresolved, _, _, _, hreturn⟩ := h
  cases hreturn
  rcases (uniqueByIdentity_lookup hreports).mp hreport with hnone | ⟨hmem, _⟩
  · rw [Finmap.lookup_empty] at hnone
    cases hnone
  rcases (uniqueByIdentity_lookup hmanifests).mp hruntime with hnone | ⟨_, hidentity⟩
  · rw [Finmap.lookup_empty] at hnone
    cases hnone
  refine ⟨⟨hcurrent, ⟨report, hmem, hpass, hid, hversion, hdigest⟩, hpolicy, hadapter⟩,
    Except.ok.inj hidentity, ?_⟩
  intro id
  constructor
  · intro hmem
    obtain ⟨c, hc, rfl⟩ := List.mem_map.mp hmem
    exact of_decide_eq_true (List.mem_filter.mp hc).2
  · intro henabled
    obtain ⟨c, hc, rfl⟩ := List.mem_map.mp (hresolved id henabled)
    exact List.mem_map_of_mem (List.mem_filter.mpr ⟨hc, decide_eq_true henabled⟩)

/-- Whether an installation is an accepted one of the tenant. -/
def ActivationInputs.accepts (A : ActivationInputs) (i : DomainPackInstallation) : Bool :=
  i.tenantId = A.tenantId ∧ i.status = .accepted

/-- The loop activates the accepted installations, in their order and one for each Pack. -/
theorem activateAll_eq_ok {A : ActivationInputs} {D : Indexed} {is : List DomainPackInstallation}
    {active result : List (DomainPackInstallation × DomainPackManifest)}
    (h : activateAll A D is active = .ok result)
    (hunique : (active.map (·.1.packId)).Nodup) :
    (result.map (·.1.packId)).Nodup ∧ ∃ new, result = active ++ new ∧
      new.map (·.1) = is.filter A.accepts ∧ ∀ e ∈ new, activate A D e.1 = .ok e.2 := by
  induction is generalizing active with
  | nil =>
      cases h
      exact ⟨hunique, [], (List.append_nil _).symm, rfl, fun _ he => absurd he List.not_mem_nil⟩
  | cons i is ih =>
      unfold activateAll at h
      split at h
      case isTrue hskip =>
        have hout : A.accepts i = false := by
          rcases hskip with htenant | hstatus
          · simp [ActivationInputs.accepts, htenant]
          · simp [ActivationInputs.accepts, hstatus]
        obtain ⟨hnodup, new, hresult, hnew, hactive⟩ := ih h hunique
        exact ⟨hnodup, new, hresult, by rw [List.filter_cons, hout]; exact hnew, hactive⟩
      case isFalse hkeep =>
        obtain ⟨htenant, hstatus⟩ := not_or.mp hkeep
        have hin : A.accepts i = true := by
          simp [ActivationInputs.accepts, not_not.mp htenant, not_not.mp hstatus]
        obtain ⟨_, hfresh, h⟩ := except_bind_eq_ok.mp h
        rw [ensure_eq_ok] at hfresh
        obtain ⟨manifest, hmanifest, h⟩ := except_bind_eq_ok.mp h
        have hunique' : ((active ++ [(i, manifest)]).map (·.1.packId)).Nodup := by
          rw [List.map_append, List.nodup_append]
          refine ⟨hunique, List.nodup_singleton _, ?_⟩
          rintro a ha b hb rfl
          rw [List.mem_singleton.mp hb] at ha
          exact hfresh ha
        obtain ⟨hnodup, new, hresult, hnew, hactive⟩ := ih h hunique'
        refine ⟨hnodup, (i, manifest) :: new, ?_, ?_, ?_⟩
        · rw [hresult, List.append_assoc]
          rfl
        · rw [List.filter_cons, hin, List.map_cons, hnew]
          rfl
        · intro e he
          rcases List.mem_cons.mp he with rfl | he
          · exact hmanifest
          · exact hactive e he

namespace ActiveDomainPackSet

variable (S : ActiveDomainPackSet)

/-- `registry.require_exact`. -/
def requireExact (packId packVersion : String) : Except Raised DomainPackManifest :=
  orRaise (S.registry.lookup (packId, packVersion))
    ⟨.valueError, "Domain Pack is not installed: " ++ packId ++ "@" ++ packVersion⟩

/-- Whether the registry exposes a capability for a Pack version. -/
def Exposes (key : PackKey) (id : String) : Prop :=
  ∃ manifest, S.requireExact key.1 key.2 = .ok manifest ∧
    id ∈ manifest.capabilities.map (·.capabilityId)

/-- What holds of a set that was activated. -/
structure Activated (A : ActivationInputs) : Prop where
  tenant : S.tenantId = A.tenantId
  installations : S.installations.Perm (A.installations.filter A.accepts)
  justified : ∀ i ∈ S.installations, A.Justifies i
  onePerPack : (S.installations.map (·.packId)).Nodup
  exposes : ∀ key id, S.Exposes key id ↔
    ∃ i ∈ S.installations, i.identity = key ∧ id ∈ i.enabledCapabilityIds
  trusted : ∀ e, e ∈ S.trustedAdapterRefs ↔
    ∃ i ∈ S.installations, e = (i.packId, i.packVersion, i.adapterRef)
  validated : S.validatedAt = some A.now

end ActiveDomainPackSet

theorem ActivationInputs.build_eq_ok {A : ActivationInputs} {S : ActiveDomainPackSet}
    (h : A.build = .ok S) : S.Activated A := by
  obtain ⟨runtimeByIdentity, hmanifests, h⟩ := except_bind_eq_ok.mp h
  obtain ⟨reportsById, hreports, h⟩ := except_bind_eq_ok.mp h
  obtain ⟨active, hactive, h⟩ := except_bind_eq_ok.mp h
  obtain ⟨registry, hregistry, h⟩ := except_bind_eq_ok.mp h
  cases h
  obtain ⟨hunique, new, hresult, hnew, hchecked⟩ := activateAll_eq_ok hactive List.nodup_nil
  rw [List.nil_append] at hresult
  subst hresult
  have hfacts : ∀ e ∈ active, A.Justifies e.1 ∧ Enables e.1 e.2 := fun e he =>
    activate_eq_ok (D := ⟨runtimeByIdentity, reportsById⟩) hmanifests hreports (hchecked e he)
  have hperm := List.perm_insertionSort
    (fun a b : DomainPackInstallation => identityLe a.identity b.identity) (active.map (·.1))
  have hmem : ∀ i, i ∈ (active.map (·.1)).insertionSort
      (fun a b => identityLe a.identity b.identity) ↔ ∃ e ∈ active, e.1 = i := fun i => by
    rw [hperm.mem_iff, List.mem_map]
  refine ⟨rfl, ?_, ?_, ?_, ?_, ?_, rfl⟩
  · rw [← hnew]
    exact hperm
  · intro i hi
    obtain ⟨e, he, rfl⟩ := (hmem i).mp hi
    exact (hfacts e he).1
  · refine (hperm.map _).nodup_iff.mpr ?_
    rw [List.map_map]
    exact hunique
  · intro key id
    -- A manifest of the registry is that of an active installation.
    have hlookup : ∀ manifest, registry.lookup key = some manifest ↔
        ∃ e ∈ active, e.2 = manifest ∧ manifest.identity = key := by
      intro manifest
      rw [uniqueByIdentity_lookup hregistry, Finmap.lookup_empty, Except.ok.injEq, List.mem_map]
      constructor
      · rintro (hnone | ⟨⟨e, he, heq⟩, hid⟩)
        · cases hnone
        · exact ⟨e, he, heq, hid⟩
      · rintro ⟨e, he, heq, hid⟩
        exact .inr ⟨⟨e, he, heq⟩, hid⟩
    unfold ActiveDomainPackSet.Exposes ActiveDomainPackSet.requireExact
    simp only [orRaise_eq_ok]
    constructor
    · rintro ⟨manifest, hmanifest, hid⟩
      obtain ⟨e, he, rfl, hidentity⟩ := (hlookup manifest).mp hmanifest
      have henables := (hfacts e he).2
      exact ⟨e.1, (hmem e.1).mpr ⟨e, he, rfl⟩, henables.identity.symm.trans hidentity,
        (henables.enabled id).mp hid⟩
    · rintro ⟨i, hi, hidentity, henabled⟩
      obtain ⟨e, he, rfl⟩ := (hmem i).mp hi
      have henables := (hfacts e he).2
      exact ⟨e.2, (hlookup e.2).mpr ⟨e, he, rfl, henables.identity.trans hidentity⟩,
        (henables.enabled id).mpr henabled⟩
  · intro e
    rw [(List.perm_insertionSort _ _).mem_iff, List.mem_map]
    constructor
    · rintro ⟨a, ha, rfl⟩
      exact ⟨a.1, (hmem a.1).mpr ⟨a, ha, rfl⟩, rfl⟩
    · rintro ⟨i, hi, rfl⟩
      obtain ⟨a, ha, rfl⟩ := (hmem i).mp hi
      exact ⟨a, ha, rfl⟩

/-! ## The registry of an active set -/

open Base Transaction RuntimeRegistry

namespace ActiveDomainPackSet

variable {A : Type}

/-- The trusted references, each under its Pack version. -/
def trustedRefs (refs : List (String × String × String)) : Finmap fun _ : TrustKey => String :=
  refs.foldl (fun known e => known.insert (.version (e.1, e.2.1)) e.2.2) ∅

/-- `runtime_registry`, by `from_active_domain_pack_set`.  It always has a clock. -/
def runtimeRegistry (S : ActiveDomainPackSet)
    (contracts : List PackRuntimeContract) (now : Option DateTime) (tick : DateTime) :
    Except Raised (RuntimeRegistry A) := do
  ensure (S.installations ≠ [])
    ⟨.lookupError, "Cannot create a runtime registry without an accepted Domain Pack installation"⟩
  create
    { contracts := contracts
      installations := S.installations.map (·.runtime)
      trustedAdapterRefs := some (trustedRefs S.trustedAdapterRefs)
      now := now <|> S.validatedAt
      clocked := true } tick

/-- A call of `register_for_installation`. -/
structure Registration (A : Type) where
  adapter : A
  installation : RuntimeInstallation
  time : CallTime

section

variable [PackAdapter A]

/-- What calls make of a registry, whether they return or raise. -/
def registerAll : RuntimeRegistry A → List (Registration A) → RuntimeRegistry A
  | r, [] => r
  | r, c :: cs => registerAll (left (register c.adapter (some c.installation) c.time r)) cs

/-- The installations that the calls bound: those of the calls that returned. -/
def bound : RuntimeRegistry A → List (Registration A) → List RuntimeInstallation
  | _, [] => []
  | r, c :: cs =>
      match register c.adapter (some c.installation) c.time r with
      | .ok _ r' => c.installation :: bound r' cs
      | .error _ r' => bound r' cs

end

/-- A registry that holds some installations, each under its own key, and no other. -/
def Holds (r : RuntimeRegistry A) (is : List RuntimeInstallation) : Prop :=
  ∀ key i, r.installations.lookup key = some i ↔ i ∈ is ∧ i.key = key

/-- What is bound was not bound otherwise before. -/
theorem bindInstallation_free {i : RuntimeInstallation} {time : CallTime}
    {r r' : RuntimeRegistry A} {u : Unit} (h : bindInstallation i time r = .ok u r') :
    r.installations.lookup i.key = none ∨ r.installations.lookup i.key = some i := by
  simp only [bindInstallation, bind_eq_ok, require_eq_ok, query_eq_ok, fetch_eq_ok, read_eq_ok,
    write_eq_ok] at h
  obtain ⟨_, _, ⟨_, rfl⟩, _, _, ⟨_, rfl⟩, _, _, ⟨_, rfl⟩, _, _, ⟨rfl, rfl⟩, _, _, ⟨_, rfl⟩, _, _,
    ⟨_, rfl⟩, _, _, ⟨rfl, rfl⟩, _, _, ⟨_, rfl⟩, _, _, ⟨_, rfl⟩, _, _, ⟨rfl, rfl⟩, _, _,
    ⟨hfree, rfl⟩, _⟩ := h
  exact hfree

theorem Holds.install {r : RuntimeRegistry A} {is : List RuntimeInstallation} (h : Holds r is)
    {i : RuntimeInstallation} (hfree : r.installations.lookup i.key = none ∨
      r.installations.lookup i.key = some i) : Holds (r.install i) (is ++ [i]) := by
  intro key j
  show (r.installations.insert i.key i).lookup key = some j ↔ _
  rw [List.mem_append, List.mem_singleton]
  by_cases hkey : key = i.key
  · subst hkey
    rw [Finmap.lookup_insert, Option.some.injEq]
    constructor
    · rintro rfl
      exact ⟨.inr rfl, rfl⟩
    · rintro ⟨hj | rfl, hsame⟩
      · have hbefore := (h i.key j).mpr ⟨hj, hsame⟩
        rcases hfree with hnone | hsome
        · rw [hnone] at hbefore
          cases hbefore
        · exact Option.some.inj (hsome.symm.trans hbefore)
      · rfl
  · rw [Finmap.lookup_insert_of_ne _ hkey, h key j]
    refine and_congr_left fun hj => (or_iff_left ?_).symm
    rintro rfl
    exact hkey hj.symm

theorem Holds.bindAll {time : CallTime} {bindings is : List RuntimeInstallation}
    {r r' : RuntimeRegistry A} {u : Unit} (h : Holds r is)
    (hbind : RuntimeRegistry.bindAll time bindings r = .ok u r') :
    Holds r' (is ++ bindings) ∧ r'.trustedAdapterRefs = r.trustedAdapterRefs := by
  induction bindings generalizing r is with
  | nil =>
      cases hbind
      rw [List.append_nil]
      exact ⟨h, rfl⟩
  | cons i bindings ih =>
      obtain ⟨_, r₁, hfirst, hrest⟩ := bind_eq_ok.mp hbind
      obtain ⟨_, _, rfl⟩ := bindInstallation_eq_ok hfirst
      obtain ⟨hholds, htrusted⟩ := ih (h.install (bindInstallation_free hfirst)) hrest
      rw [List.append_assoc] at hholds
      exact ⟨hholds, htrusted⟩

/-- The registry of a set holds the installations of the set. -/
theorem holds_of_runtimeRegistry {S : ActiveDomainPackSet} {contracts : List PackRuntimeContract}
    {now : Option DateTime} {tick : DateTime} {r : RuntimeRegistry A}
    (h : S.runtimeRegistry contracts now tick = .ok r) :
    Holds r (S.installations.map (·.runtime)) ∧
      r.trustedAdapterRefs = trustedRefs S.trustedAdapterRefs := by
  obtain ⟨_, _, h⟩ := except_bind_eq_ok.mp h
  obtain ⟨contracts, _, h⟩ := except_bind_eq_ok.mp h
  obtain ⟨_, _, h⟩ := except_bind_eq_ok.mp h
  dsimp only at h
  split at h
  case h_2 => cases h
  case h_1 _ r' hbind =>
    cases h
    refine Holds.bindAll (show Holds _ [] from ?_) hbind
    intro key i
    rw [Finmap.lookup_empty]
    exact ⟨nofun, fun h => absurd h.1 List.not_mem_nil⟩

section

variable [PackAdapter A]

/-- A call that returns binds its installation. -/
theorem register_some_eq_ok {a : A} {i : RuntimeInstallation} {time : CallTime}
    {r r' : RuntimeRegistry A} {u : Unit} (h : register a (some i) time r = .ok u r') :
    r.Accepts i ∧ (r.installations.lookup i.key = none ∨ r.installations.lookup i.key = some i) ∧
      r' = (r.install i).host a := by
  obtain ⟨_, bound, hbound, rfl⟩ := register_eq_ok h
  obtain ⟨_, _, hrequire, hbind⟩ := bind_eq_ok.mp hbound
  obtain ⟨_, rfl⟩ := require_eq_ok.mp hrequire
  obtain ⟨haccepts, _, rfl⟩ := bindInstallation_eq_ok hbind
  exact ⟨haccepts, bindInstallation_free hbind, rfl⟩

/-- Calls add to what a registry holds the installations that they bound. -/
theorem Holds.registerAll {r : RuntimeRegistry A} {is : List RuntimeInstallation} (h : Holds r is)
    (cs : List (Registration A)) : Holds (registerAll r cs) (is ++ bound r cs) := by
  induction cs generalizing r is with
  | nil =>
      rw [bound, List.append_nil]
      exact h
  | cons c cs ih =>
      unfold ActiveDomainPackSet.registerAll bound
      cases hcall : register c.adapter (some c.installation) c.time r with
      | error e r' =>
          have hsame : r' = r := register_clean r e r' hcall
          subst hsame
          exact ih h
      | ok u r' =>
          obtain ⟨_, hfree, rfl⟩ := register_some_eq_ok hcall
          have hnext : Holds ((r.install c.installation).host c.adapter)
              (is ++ [c.installation]) := h.install hfree
          have hrest := ih hnext
          rw [List.append_assoc] at hrest
          exact hrest

omit [PackAdapter A] in
/-- A reference is trusted only for a Pack version of the set. -/
theorem trustedRefs_lookup {refs : List (String × String × String)}
    {known : Finmap fun _ : TrustKey => String} {key : TrustKey} {ref : String}
    (h : (refs.foldl (fun known e => known.insert (.version (e.1, e.2.1)) e.2.2) known).lookup key =
      some ref) :
    (∃ e ∈ refs, key = .version (e.1, e.2.1)) ∨ known.lookup key = some ref := by
  induction refs generalizing known with
  | nil => exact .inr h
  | cons e refs ih =>
      rcases ih h with ⟨e', he', hkey⟩ | hlookup
      · exact .inl ⟨e', List.mem_cons_of_mem e he', hkey⟩
      · by_cases hkey : key = .version (e.1, e.2.1)
        · exact .inl ⟨e, List.mem_cons_self .., hkey⟩
        · rw [Finmap.lookup_insert_of_ne _ hkey] at hlookup
          exact .inr hlookup

omit [PackAdapter A] in
theorem exists_of_trustedRef {S : ActiveDomainPackSet} {inputs : ActivationInputs}
    (hS : S.Activated inputs) {r : RuntimeRegistry A} {key : PackKey} {ref : String}
    (htrusted : r.trustedAdapterRefs = trustedRefs S.trustedAdapterRefs)
    (h : r.trustedRef key = some ref) : ∃ i ∈ S.installations, i.identity = key := by
  have hnone : ∀ {k : TrustKey},
      (∅ : Finmap fun _ : TrustKey => String).lookup k ≠ some ref := by
    intro k hk
    rw [Finmap.lookup_empty] at hk
    cases hk
  unfold RuntimeRegistry.trustedRef at h
  rw [htrusted] at h
  split at h
  case h_1 other hversion =>
    cases h
    rcases trustedRefs_lookup hversion with ⟨e, he, hkey⟩ | hempty
    · obtain ⟨i, hi, rfl⟩ := (hS.trusted e).mp he
      exact ⟨i, hi, (TrustKey.version.inj hkey).symm⟩
    · exact absurd hempty hnone
  case h_2 =>
    rcases trustedRefs_lookup h with ⟨e, _, hkey⟩ | hempty
    · cases hkey
    · exact absurd hempty hnone

/-- What is bound for the tenant of a set is an installation of the set. -/
theorem mem_of_bound {S : ActiveDomainPackSet} {inputs : ActivationInputs}
    (hS : S.Activated inputs) {cs : List (Registration A)} {r : RuntimeRegistry A}
    {is : List RuntimeInstallation} (hholds : Holds r is)
    (hset : ∀ i ∈ S.installations, i.runtime ∈ is)
    (htrusted : r.trustedAdapterRefs = trustedRefs S.trustedAdapterRefs)
    {j : RuntimeInstallation} (hj : j ∈ bound r cs) (htenant : j.tenantId = S.tenantId) :
    ∃ i ∈ S.installations, i.runtime = j := by
  induction cs generalizing r is with
  | nil => exact absurd hj List.not_mem_nil
  | cons c cs ih =>
      unfold bound at hj
      cases hcall : register c.adapter (some c.installation) c.time r with
      | error e r' =>
          rw [hcall] at hj
          have hsame : r' = r := register_clean r e r' hcall
          subst hsame
          exact ih hholds hset htrusted hj
      | ok u r' =>
          rw [hcall] at hj
          obtain ⟨haccepts, hfree, rfl⟩ := register_some_eq_ok hcall
          rcases List.mem_cons.mp hj with rfl | hj
          · -- The set has an installation of this Pack version, and it is bound already.
            obtain ⟨i, hi, hidentity⟩ := exists_of_trustedRef hS htrusted haccepts.trusted
            have htenant' : i.tenantId = S.tenantId := by
              have hmem := hS.installations.mem_iff.mp hi
              have haccepted := (List.mem_filter.mp hmem).2
              rw [hS.tenant]
              exact (of_decide_eq_true haccepted).1
            have hkey : i.runtime.key = c.installation.key :=
              Prod.ext (htenant'.trans htenant.symm) hidentity
            have hbefore := (hholds _ i.runtime).mpr ⟨hset i hi, hkey⟩
            rcases hfree with hnone | hsome
            · rw [hnone] at hbefore
              cases hbefore
            · exact ⟨i, hi, (Option.some.inj (hsome.symm.trans hbefore)).symm⟩
          · have hnext : Holds ((r.install c.installation).host c.adapter)
                (is ++ [c.installation]) := hholds.install hfree
            exact ih hnext (fun i hi => List.mem_append_left _ (hset i hi)) htrusted hj

/-- The adapter that is registered for a binding. -/
def Serves (r : RuntimeRegistry A) (binding : PackRuntimeBinding) (a : A) : Prop :=
  r.adapters.lookup binding.packKey = some a ∧ PackAdapter.binding a = binding

/-- An installation that lets these capabilities of a binding be used at a time. -/
structure Allows (i : RuntimeInstallation) (binding : PackRuntimeBinding) (ids : List String)
    (t : DateTime) : Prop where
  pack : i.packKey = binding.packKey
  inForce : t.within i.acceptedAt i.expiresAt = .ok true
  enabled : ∀ id ∈ ids, id ∈ i.enabledCapabilityIds ∧ id ∈ binding.capabilityIds

/-- A registry resolves for a tenant what the installations that it holds allow. -/
theorem Holds.resolveForExecution {r : RuntimeRegistry A} {is : List RuntimeInstallation}
    (h : Holds r is) {tenantId : String} {binding : PackRuntimeBinding} {t tick : DateTime}
    {ids : Option (List String)} {a : A} :
    r.resolveForExecution tenantId binding ⟨some t, tick⟩ ids = .ok a ↔
      (∃ i ∈ is, i.tenantId = tenantId ∧ Allows i binding (ids.getD binding.capabilityIds) t) ∧
        Serves r binding a := by
  rw [resolveForExecution_eq_ok]
  constructor
  · rintro ⟨i, hlookup, hstale, henabled, hserves⟩
    obtain ⟨hmem, hkey⟩ := (h _ i).mp hlookup
    exact ⟨⟨i, hmem, congrArg Prod.fst hkey, congrArg Prod.snd hkey,
      RuntimeInstallation.stale_eq_false.mp hstale, henabled⟩, hserves⟩
  · rintro ⟨⟨i, hmem, htenant, hallows⟩, hserves⟩
    exact ⟨i, (h _ i).mpr ⟨hmem, Prod.ext htenant hallows.pack⟩,
      RuntimeInstallation.stale_eq_false.mpr hallows.inForce, hallows.enabled, hserves⟩

/-- A set that was activated is sound.  However adapters are registered in a registry of it, that
registry resolves for the tenant of the set what the set has in force and exposes, and for another
tenant what an installation allows that an adapter was registered with. -/
theorem runtimeRegistry_agrees {inputs : ActivationInputs} {S : ActiveDomainPackSet}
    (hbuild : inputs.build = .ok S) {contracts : List PackRuntimeContract} {now : Option DateTime}
    {tick : DateTime} {r : RuntimeRegistry A}
    (hregistry : S.runtimeRegistry contracts now tick = .ok r) (cs : List (Registration A)) :
    S.Activated inputs ∧
    (∀ binding t tick ids a,
      (registerAll r cs).resolveForExecution S.tenantId binding ⟨some t, tick⟩ ids = .ok a ↔
        (∃ i ∈ S.installations, i.identity = binding.packKey ∧
          t.within i.acceptedAt i.expiresAt = .ok true ∧
          ∀ id ∈ ids.getD binding.capabilityIds,
            S.Exposes binding.packKey id ∧ id ∈ binding.capabilityIds) ∧
        Serves (registerAll r cs) binding a) ∧
    ∀ tenantId, tenantId ≠ S.tenantId → ∀ binding t tick ids a,
      (registerAll r cs).resolveForExecution tenantId binding ⟨some t, tick⟩ ids = .ok a ↔
        (∃ i ∈ bound r cs, i.tenantId = tenantId ∧
          Allows i binding (ids.getD binding.capabilityIds) t) ∧
        Serves (registerAll r cs) binding a := by
  have hS := inputs.build_eq_ok hbuild
  obtain ⟨hholds, htrusted⟩ := holds_of_runtimeRegistry hregistry
  have hall := hholds.registerAll cs
  have htenants : ∀ i ∈ S.installations, i.tenantId = S.tenantId := by
    intro i hi
    have haccepted := (List.mem_filter.mp (hS.installations.mem_iff.mp hi)).2
    rw [hS.tenant]
    exact (of_decide_eq_true haccepted).1
  refine ⟨hS, ?_, ?_⟩
  · intro binding t tick ids a
    rw [hall.resolveForExecution]
    refine and_congr_left fun _ => ?_
    constructor
    · rintro ⟨j, hj, htenant, hallows⟩
      obtain ⟨i, hi, rfl⟩ : ∃ i ∈ S.installations, i.runtime = j := by
        rcases List.mem_append.mp hj with hj | hj
        · exact List.mem_map.mp hj
        · exact mem_of_bound hS hholds (fun i hi => List.mem_map_of_mem hi) htrusted hj htenant
      refine ⟨i, hi, hallows.pack, hallows.inForce, fun id hid => ?_⟩
      obtain ⟨henabled, hbinding⟩ := hallows.enabled id hid
      exact ⟨(hS.exposes _ id).mpr ⟨i, hi, hallows.pack, henabled⟩, hbinding⟩
    · rintro ⟨i, hi, hidentity, hinForce, hids⟩
      refine ⟨i.runtime, List.mem_append_left _ (List.mem_map_of_mem hi), htenants i hi,
        hidentity, hinForce, fun id hid => ?_⟩
      obtain ⟨hexposed, hbinding⟩ := hids id hid
      obtain ⟨i', hi', hidentity', henabled⟩ := (hS.exposes _ id).mp hexposed
      have hsame : i' = i := by
        refine List.inj_on_of_nodup_map hS.onePerPack hi' hi ?_
        exact congrArg Prod.fst (hidentity'.trans hidentity.symm)
      rw [hsame] at henabled
      exact ⟨henabled, hbinding⟩
  · intro tenantId hother binding t tick ids a
    rw [hall.resolveForExecution]
    refine and_congr_left fun _ => ?_
    constructor
    · rintro ⟨j, hj, htenant, hallows⟩
      rcases List.mem_append.mp hj with hj | hj
      · obtain ⟨i, hi, rfl⟩ := List.mem_map.mp hj
        exact absurd (htenant.symm.trans (htenants i hi)) hother
      · exact ⟨j, hj, htenant, hallows⟩
    · rintro ⟨j, hj, htenant, hallows⟩
      exact ⟨j, List.mem_append_right _ hj, htenant, hallows⟩

end

/-! ## A registration for another tenant -/

/-- What one tenant has installed: a Pack with a capability to pay. -/
def sampleInputs : ActivationInputs where
  tenantId := "org"
  runtimeManifests := [⟨"pack", "1", [{
    capabilityId := "pay"
    version := "1"
    inputSchema := .empty
    resultProbeRef := "probe" }], ["probe"]⟩]
  conformanceReports := [{
    candidatePackId := some "pack"
    candidatePackVersion := some "1"
    manifestDigest := some Digest.zero.hex
    status := .pass
    checks := []
    violations := [] }]
  installations := [{
    installationId := "installation"
    tenantId := "org"
    packId := "pack"
    packVersion := "1"
    contractDigest := Digest.zero.hex
    enabledCapabilityIds := ["pay"]
    adapterRef := "ref"
    resultProbeRef := "probe"
    policyVersion := "policy"
    status := .accepted
    acceptedAt := .utc 0
    expiresAt := .utc 10000000 }]
  expectedPolicyVersions _ := some "policy"
  expectedAdapterRefs _ := some "ref"
  now := .utc 1

/-- The adapter is registered for another tenant. -/
def sampleRegistrations : List (Registration PackRuntimeBinding) :=
  [⟨sampleBinding, { sampleInstallation with tenantId := "other" }, ⟨none, .utc 2⟩⟩]

theorem sample_active : ∃ (S : ActiveDomainPackSet) (r : RuntimeRegistry PackRuntimeBinding),
    sampleInputs.build = .ok S ∧ S.tenantId = "org" ∧
    S.runtimeRegistry [sampleContract] none (.utc 1) = .ok r ∧
    (registerAll r sampleRegistrations).resolveForExecution "other" sampleBinding
      ⟨some (.utc 3), .utc 3⟩ (some ["pay"]) = .ok sampleBinding := by
  have hrun : (match sampleInputs.build with
      | .error _ => false
      | .ok S => match (S.runtimeRegistry [sampleContract] none (.utc 1) :
            Except Raised (RuntimeRegistry PackRuntimeBinding)) with
          | .error _ => false
          | .ok r => decide (S.tenantId = "org") &&
              decide (((registerAll r sampleRegistrations).resolveForExecution "other"
                sampleBinding ⟨some (.utc 3), .utc 3⟩ (some ["pay"])).toOption =
                  some sampleBinding)) = true := by
    decide +kernel
  split at hrun
  case h_1 => cases hrun
  case h_2 S hbuild =>
    split at hrun
    case h_1 => cases hrun
    case h_2 r hregistry =>
      rw [Bool.and_eq_true] at hrun
      refine ⟨S, r, hbuild, of_decide_eq_true hrun.1, hregistry, ?_⟩
      have hresolve := of_decide_eq_true hrun.2
      cases hresult : (registerAll r sampleRegistrations).resolveForExecution "other"
          sampleBinding ⟨some (.utc 3), .utc 3⟩ (some ["pay"]) with
      | error e => rw [hresult] at hresolve; cases hresolve
      | ok b => rw [hresult] at hresolve; cases hresolve; rfl

/-- A registry of the set of one tenant resolves for another, whose installation an adapter was
registered with. -/
theorem foreign_registration_resolves :
    ∃ (S : ActiveDomainPackSet) (r : RuntimeRegistry PackRuntimeBinding),
      sampleInputs.build = .ok S ∧ S.runtimeRegistry [sampleContract] none (.utc 1) = .ok r ∧
      "other" ≠ S.tenantId ∧
      (registerAll r sampleRegistrations).resolveForExecution "other" sampleBinding
        ⟨some (.utc 3), .utc 3⟩ (some ["pay"]) = .ok sampleBinding := by
  obtain ⟨S, r, hbuild, htenant, hregistry, hresolve⟩ := sample_active
  refine ⟨S, r, hbuild, hregistry, ?_, hresolve⟩
  rw [htenant]
  decide

/-- It resolves for the other tenant by that installation, which the registration bound. -/
theorem runtimeRegistry_agrees_sample :
    ∃ (S : ActiveDomainPackSet) (r : RuntimeRegistry PackRuntimeBinding),
      S.Activated sampleInputs ∧
      ∃ i ∈ bound r sampleRegistrations, i.tenantId = "other" ∧
        Allows i sampleBinding ["pay"] (.utc 3) := by
  obtain ⟨S, r, hbuild, htenant, hregistry, hresolve⟩ := sample_active
  obtain ⟨hactivated, _, hothers⟩ := runtimeRegistry_agrees hbuild hregistry sampleRegistrations
  have hother : "other" ≠ S.tenantId := by
    rw [htenant]
    decide
  exact ⟨S, r, hactivated, ((hothers _ hother _ _ _ _ _).mp hresolve).1⟩

end ActiveDomainPackSet

end AgentPact
