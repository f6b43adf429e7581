import AgentPact.Governance.RuntimeRegistry

/-!
# What the registry of Pack runtimes grants

A registry that was made and then called in any order, with any clock, resolves
an adapter for a tenant only through an installation of that tenant: one that
was accepted under the contract of the Pack version, with the adapter trusted
for it, and that is in force.

`RuntimeRegistry.Sound` is the invariant.  It speaks of every key of the three
dictionaries, and each method adds to one of them what it has checked.
-/

namespace AgentPact

open Base Transaction

namespace RuntimeRegistry

variable {A : Type} [PackAdapter A]

/-! ## Calls -/

/-- A call of a method. -/
inductive Call (A : Type) where
  | register (adapter : A) (installation : Option RuntimeInstallation) (time : CallTime)
  | bindInstallation (installation : RuntimeInstallation) (time : CallTime)
  | resolveForExecution (tenantId : String) (binding : PackRuntimeBinding) (time : CallTime)
      (capabilityIds : Option (List String))

/-- Make a call, which may return an adapter. -/
def Call.run : Call A → Transaction Raised (RuntimeRegistry A) (Option A)
  | .register adapter installation time => do
      RuntimeRegistry.register adapter installation time
      pure none
  | .bindInstallation i time => do
      RuntimeRegistry.bindInstallation i time
      pure none
  | .resolveForExecution tenantId binding time capabilityIds =>
      query fun r => (r.resolveForExecution tenantId binding time capabilityIds).map some

/-- What a call makes of a registry, whether it returns or raises. -/
def Step (call : Call A) (r r' : RuntimeRegistry A) : Prop := left (call.run r) = r'

/-- A call that raises has changed nothing. -/
theorem Call.run_clean (call : Call A) : Clean call.run := by
  cases call with
  | register adapter installation time =>
      exact register_clean.bind_returns fun _ _ _ _ => nofun
  | bindInstallation i time =>
      exact bindInstallation_clean.bind_returns fun _ _ _ _ => nofun
  | resolveForExecution tenantId binding time capabilityIds =>
      exact .of_keeps fun _ => .query _

/-! ## The invariant -/

/-- What the dictionaries hold was checked when it was added. -/
structure Sound (r : RuntimeRegistry A) : Prop where
  timed : r.clocked = true ∨ r.now.isSome
  contracts : ∀ key c, r.contracts.lookup key = some c → key = (c.packId, c.packVersion)
  installations : ∀ key i, r.installations.lookup key = some i → key = i.key ∧ r.Accepts i
  adapters : ∀ key a, r.adapters.lookup key = some a →
    key = (PackAdapter.binding a).packKey ∧ r.Hosts a

theorem Accepts.host {r : RuntimeRegistry A} {a : A} {j : RuntimeInstallation} (h : r.Accepts j) :
    (r.host a).Accepts j := ⟨h.accepted, h.trusted, h.contract⟩

theorem Hosts.install {r : RuntimeRegistry A} {i : RuntimeInstallation} {b : A} (h : r.Hosts b) :
    (r.install i).Hosts b := ⟨h.contract⟩

theorem Hosts.host {r : RuntimeRegistry A} {a b : A} (h : r.Hosts b) : (r.host a).Hosts b :=
  ⟨h.contract⟩

theorem Sound.install {r : RuntimeRegistry A} (h : r.Sound) {i : RuntimeInstallation}
    (haccepts : r.Accepts i) : (r.install i).Sound where
  timed := h.timed
  contracts := h.contracts
  installations key j hj := by
    by_cases hkey : key = i.key
    · subst hkey
      have hsame : some i = some j := (Finmap.lookup_insert _).symm.trans hj
      cases hsame
      exact ⟨rfl, haccepts.install⟩
    · have hold : r.installations.lookup key = some j :=
        (Finmap.lookup_insert_of_ne _ hkey).symm.trans hj
      obtain ⟨hk, haccepted⟩ := h.installations key j hold
      exact ⟨hk, haccepted.install⟩
  adapters key a ha := (h.adapters key a ha).imp_right Hosts.install

theorem Sound.host {r : RuntimeRegistry A} (h : r.Sound) {a : A} (hhosts : r.Hosts a) :
    (r.host a).Sound where
  timed := h.timed
  contracts := h.contracts
  installations key i hi := (h.installations key i hi).imp_right Accepts.host
  adapters key b hb := by
    by_cases hkey : key = (PackAdapter.binding a).packKey
    · subst hkey
      have hsame : some a = some b := (Finmap.lookup_insert _).symm.trans hb
      cases hsame
      exact ⟨rfl, hhosts.host⟩
    · have hold : r.adapters.lookup key = some b :=
        (Finmap.lookup_insert_of_ne _ hkey).symm.trans hb
      exact (h.adapters key b hold).imp_right Hosts.host

/-- Binding keeps the invariant, whether it returns or raises. -/
theorem Sound.bindInstallation {r : RuntimeRegistry A} (h : r.Sound) (i : RuntimeInstallation)
    (time : CallTime) : (left (RuntimeRegistry.bindInstallation i time r)).Sound := by
  rcases bindInstallation_clean.left_cases (x := RuntimeRegistry.bindInstallation i time) r with
    hsame | ⟨u, hok⟩
  · rw [hsame]
    exact h
  · obtain ⟨haccepts, _, heq⟩ := bindInstallation_eq_ok hok
    rw [heq]
    exact h.install haccepts

theorem Sound.step {r r' : RuntimeRegistry A} {call : Call A} (h : r.Sound)
    (hstep : Step call r r') : r'.Sound := by
  subst hstep
  rcases call.run_clean.left_cases r with hsame | ⟨result, hok⟩
  · rw [hsame]
    exact h
  cases call with
  | resolveForExecution tenantId binding time capabilityIds =>
      have hsame : left ((Call.resolveForExecution tenantId binding time capabilityIds).run r) = r :=
        Keeps.query fun r : RuntimeRegistry A =>
          (r.resolveForExecution tenantId binding time capabilityIds).map some
      rw [hsame]
      exact h
  | bindInstallation i time =>
      obtain ⟨_, bound, hbound, hreturn⟩ := bind_eq_ok.mp hok
      obtain ⟨haccepts, _, heq⟩ := bindInstallation_eq_ok hbound
      have hsame : bound = left ((Call.bindInstallation i time).run r) := by
        cases hreturn
        rfl
      rw [← hsame, heq]
      exact h.install haccepts
  | register a installation time =>
      obtain ⟨_, r₁, hregister, hreturn⟩ := bind_eq_ok.mp hok
      obtain ⟨hhosts, bound, hbound, heq⟩ := register_eq_ok hregister
      have hsame : r₁ = left ((Call.register a installation time).run r) := by
        cases hreturn
        rfl
      rw [← hsame, heq]
      cases installation with
      | none =>
          cases hbound
          exact h.host hhosts
      | some i =>
          obtain ⟨_, _, _, hbind⟩ := bind_eq_ok.mp hbound
          obtain ⟨_, rfl⟩ := require_eq_ok.mp ‹_›
          obtain ⟨haccepts, _, rfl⟩ := bindInstallation_eq_ok hbind
          exact (h.install haccepts).host hhosts.install

omit [PackAdapter A] in
/-- The contracts a registry is made with are kept under their own Pack versions. -/
theorem addContracts_keyed {cs : List PackRuntimeContract}
    {known contracts : Finmap fun _ : PackKey => PackRuntimeContract}
    (hknown : ∀ key c, known.lookup key = some c → key = (c.packId, c.packVersion))
    (h : addContracts cs known = .ok contracts) :
    ∀ key c, contracts.lookup key = some c → key = (c.packId, c.packVersion) := by
  induction cs generalizing known with
  | nil =>
      cases h
      exact hknown
  | cons c cs ih =>
      unfold addContracts at h
      split at h
      case isTrue => cases h
      case isFalse =>
        refine ih (fun key d hd => ?_) h
        by_cases hkey : key = (c.packId, c.packVersion)
        · subst hkey
          rw [Finmap.lookup_insert] at hd
          cases hd
          rfl
        · rw [Finmap.lookup_insert_of_ne _ hkey] at hd
          exact hknown key d hd

theorem Sound.bindAll {is : List RuntimeInstallation} {time : CallTime} {r r' : RuntimeRegistry A}
    {u : Unit} (h : r.Sound) (hbind : RuntimeRegistry.bindAll time is r = .ok u r') : r'.Sound := by
  induction is generalizing r with
  | nil =>
      cases hbind
      exact h
  | cons i is ih =>
      obtain ⟨_, r₁, hfirst, hrest⟩ := bind_eq_ok.mp hbind
      obtain ⟨haccepts, _, rfl⟩ := bindInstallation_eq_ok hfirst
      exact ih (h.install haccepts) hrest

/-- A registry that was made is sound. -/
theorem Sound.of_create {setup : Setup} {tick : DateTime} {r : RuntimeRegistry A}
    (h : create setup tick = .ok r) : r.Sound := by
  obtain ⟨contracts, hcontracts, h⟩ := except_bind_eq_ok.mp h
  obtain ⟨_, _, h⟩ := except_bind_eq_ok.mp h
  dsimp only at h
  split at h
  case h_2 => cases h
  case h_1 _ r' hbind =>
    cases h
    refine Sound.bindAll ⟨?_, ?_, ?_, ?_⟩ hbind
    · cases setup.now <;> simp
    · refine addContracts_keyed (fun key c hc => ?_) hcontracts
      rw [Finmap.lookup_empty] at hc
      cases hc
    · intro key i hi
      rw [Finmap.lookup_empty] at hi
      cases hi
    · intro key a ha
      rw [Finmap.lookup_empty] at ha
      cases ha

/-! ## Tenants -/

/-- The installation a call binds, if it binds one. -/
def Call.installation : Call A → Option RuntimeInstallation
  | .register _ installation _ => installation
  | .bindInstallation i _ => some i
  | .resolveForExecution .. => none

/-- A call leaves the installations of the other tenants alone. -/
theorem Call.installations_of_other {call : Call A} {i : RuntimeInstallation}
    (hcall : call.installation = some i) {tenantId : String} (hother : tenantId ≠ i.tenantId)
    (r : RuntimeRegistry A) (key : PackKey) :
    (left (call.run r)).installations.lookup (tenantId, key) =
      r.installations.lookup (tenantId, key) := by
  have hkey : (tenantId, key) ≠ i.key := fun heq => hother (congrArg Prod.fst heq)
  rcases call.run_clean.left_cases r with hsame | ⟨result, hok⟩
  · rw [hsame]
  cases call with
  | resolveForExecution => cases hcall
  | bindInstallation j time =>
      cases hcall
      obtain ⟨_, bound, hbound, hreturn⟩ := bind_eq_ok.mp hok
      obtain ⟨_, _, heq⟩ := bindInstallation_eq_ok hbound
      have hsame : bound = left ((Call.bindInstallation i time).run r) := by
        cases hreturn
        rfl
      rw [← hsame, heq]
      exact Finmap.lookup_insert_of_ne _ hkey
  | register a installation time =>
      cases hcall
      obtain ⟨_, r₁, hregister, hreturn⟩ := bind_eq_ok.mp hok
      obtain ⟨_, bound, hbound, heq⟩ := register_eq_ok hregister
      have hsame : r₁ = left ((Call.register a (some i) time).run r) := by
        cases hreturn
        rfl
      obtain ⟨_, _, hrequire, hbind⟩ := bind_eq_ok.mp hbound
      obtain ⟨_, rfl⟩ := require_eq_ok.mp hrequire
      obtain ⟨_, _, rfl⟩ := bindInstallation_eq_ok hbind
      rw [← hsame, heq]
      exact Finmap.lookup_insert_of_ne _ hkey

/-- What a tenant resolves depends on no installation but its own. -/
theorem resolveForExecution_of_installations {r : RuntimeRegistry A}
    {installations : Finmap fun _ : String × PackKey => RuntimeInstallation} {tenantId : String}
    {binding : PackRuntimeBinding} {time : CallTime} {capabilityIds : Option (List String)} {a : A}
    (h : r.installations.lookup (tenantId, binding.packKey) =
      installations.lookup (tenantId, binding.packKey)) :
    r.resolveForExecution tenantId binding time capabilityIds = .ok a ↔
      { r with installations := installations }.resolveForExecution tenantId binding time
        capabilityIds = .ok a := by
  rw [resolveForExecution_eq_ok, resolveForExecution_eq_ok, h]
  rfl

/-! ## Resolving -/

/-- An adapter for these capabilities at a time, by an installation of the tenant. -/
structure Granted (r : RuntimeRegistry A) (tenantId : String) (binding : PackRuntimeBinding)
    (capabilityIds : List String) (t : DateTime) (a : A) (i : RuntimeInstallation) : Prop where
  installed : r.installations.lookup (tenantId, binding.packKey) = some i
  tenant : i.tenantId = tenantId
  pack : i.packKey = binding.packKey
  accepted : i.status = "accepted"
  contract : ∃ c, r.contracts.lookup binding.packKey = some c ∧
    i.contractDigest = c.manifestDigest.hex ∧ binding.identity = c.identity
  trusted : r.trustedRef binding.packKey = some i.adapterRef
  inForce : t.within i.acceptedAt i.expiresAt = .ok true
  exact_ : PackAdapter.binding a = binding
  enabled : ∀ id ∈ capabilityIds, id ∈ i.enabledCapabilityIds

/-- A sound registry is always asked at some time. -/
theorem Sound.effectiveNow {r : RuntimeRegistry A} (h : r.Sound) (time : CallTime) :
    ∃ t, r.effectiveNow time = some t := by
  unfold RuntimeRegistry.effectiveNow
  cases time.now with
  | some t => exact ⟨t, rfl⟩
  | none =>
      rcases h.timed with hclocked | hnow
      · exact ⟨time.tick, if_pos hclocked⟩
      · cases r.clocked with
        | true => exact ⟨time.tick, rfl⟩
        | false => exact Option.isSome_iff_exists.mp hnow

/-- A sound registry resolves only what is granted. -/
theorem Sound.granted {r : RuntimeRegistry A} (h : r.Sound) {tenantId : String}
    {binding : PackRuntimeBinding} {time : CallTime} {capabilityIds : Option (List String)} {a : A}
    (hresolve : r.resolveForExecution tenantId binding time capabilityIds = .ok a) :
    ∃ t i, r.effectiveNow time = some t ∧
      r.Granted tenantId binding (capabilityIds.getD binding.capabilityIds) t a i := by
  obtain ⟨i, hinstalled, hstale, henabled, ha, hbinding⟩ := resolveForExecution_eq_ok.mp hresolve
  obtain ⟨t, ht⟩ := h.effectiveNow time
  obtain ⟨hkey, haccepts⟩ := h.installations _ i hinstalled
  obtain ⟨_, hhosts⟩ := h.adapters _ a ha
  have htenant : tenantId = i.tenantId := congrArg Prod.fst hkey
  have hpack : binding.packKey = i.packKey := congrArg Prod.snd hkey
  obtain ⟨c, hcontract, hdigest, _⟩ := haccepts.contract
  obtain ⟨d, hhosted, hadapter, hcapabilities⟩ := hhosts.contract
  rw [hbinding] at hhosted hadapter hcapabilities
  rw [← hpack] at hcontract
  have hsame : c = d := Option.some.inj (hcontract.symm.trans hhosted)
  subst hsame
  have hname := h.contracts _ c hcontract
  have hinForce : t.within i.acceptedAt i.expiresAt = .ok true := by
    rw [ht] at hstale
    exact RuntimeInstallation.stale_eq_false.mp hstale
  have hidentity : binding.identity = c.identity := by
    unfold PackRuntimeBinding.identity PackRuntimeContract.identity
    rw [hcapabilities, hadapter]
    have hid : binding.packId = c.packId := congrArg Prod.fst hname
    have hversion : binding.packVersion = c.packVersion := congrArg Prod.snd hname
    rw [hid, hversion]
  exact ⟨t, i, ht, hinstalled, htenant.symm, hpack.symm, haccepts.accepted,
    ⟨c, hcontract, hdigest, hidentity⟩, by rw [hpack]; exact haccepts.trusted, hinForce, hbinding,
    fun id hid => (henabled id hid).1⟩

/-- However a registry is called, it resolves an adapter only as granted to the tenant that asks;
what a tenant resolves owes nothing to the installations that calls bind for other tenants; and a
call that raises leaves the registry as it was. -/
theorem registry_resolves_granted {setup : Setup} {tick : DateTime} {r₀ r : RuntimeRegistry A}
    (hmade : create setup tick = .ok r₀) (hrun : Reaches Step always r₀ r) :
    (∀ tenantId binding time capabilityIds a,
      r.resolveForExecution tenantId binding time capabilityIds = .ok a →
      ∃ t i, r.effectiveNow time = some t ∧
        r.Granted tenantId binding (capabilityIds.getD binding.capabilityIds) t a i) ∧
    (∀ (call : Call A) i, call.installation = some i → ∀ tenantId, tenantId ≠ i.tenantId →
      ∀ binding time capabilityIds a,
        (left (call.run r)).resolveForExecution tenantId binding time capabilityIds = .ok a ↔
        { left (call.run r) with installations := r.installations }.resolveForExecution tenantId
          binding time capabilityIds = .ok a) ∧
    ∀ (call : Call A) e r', call.run r = .error e r' → r' = r := by
  have hsound : r.Sound :=
    hrun.invariant (fun _ _ _ _ h hstep => h.step hstep) (Sound.of_create hmade)
  refine ⟨?_, ?_, ?_⟩
  · intro tenantId binding time capabilityIds a hresolve
    exact hsound.granted hresolve
  · intro call i hcall tenantId hother binding time capabilityIds a
    exact resolveForExecution_of_installations (call.installations_of_other hcall hother r _)
  · intro call e r' hraise
    exact call.run_clean r e r' hraise

instance : PackAdapter PackRuntimeBinding := ⟨id⟩

/-- A contract for two capabilities. -/
def sampleContract : PackRuntimeContract :=
  ⟨"pack", "1", "Pack", ["read", "pay"], "adapter", .zero, by decide⟩

/-- The capability to pay, installed for one tenant for ten seconds. -/
def sampleInstallation : RuntimeInstallation :=
  ⟨"org", "pack", "1", "accepted", .utc 0, .utc 10000000, Digest.zero.hex, "ref", ["pay"]⟩

/-- A registry made with the contract and the installation. -/
def sampleSetup : Setup :=
  ⟨[sampleContract], [sampleInstallation], some ((∅ : Finmap _).insert (.pack "pack") "ref"),
    none, false⟩

/-- The binding of the contract, its capabilities in another order. -/
def sampleBinding : PackRuntimeBinding := ⟨"pack", "1", "adapter", ["pay", "read"]⟩

/-- The sample registry resolves the adapter that was registered for it. -/
theorem sample_resolves : ∃ r₀ r : RuntimeRegistry PackRuntimeBinding,
    create sampleSetup (.utc 1) = .ok r₀ ∧
    register sampleBinding (some sampleInstallation) ⟨none, .utc 2⟩ r₀ = .ok () r ∧
    r.resolveForExecution "org" sampleBinding ⟨none, .utc 3⟩ (some ["pay"]) =
      .ok sampleBinding := by
  have hrun : (match (create sampleSetup (.utc 1) : Except Raised (RuntimeRegistry _)) with
      | .error _ => false
      | .ok r₀ => match register sampleBinding (some sampleInstallation) ⟨none, .utc 2⟩ r₀ with
          | .error _ _ => false
          | .ok _ r => decide ((r.resolveForExecution "org" sampleBinding ⟨none, .utc 3⟩
              (some ["pay"])).toOption = some sampleBinding)) = true := by
    decide +kernel
  split at hrun
  case h_1 => cases hrun
  case h_2 r₀ hmade =>
    split at hrun
    case h_1 => cases hrun
    case h_2 r hregister =>
      refine ⟨r₀, r, hmade, hregister, ?_⟩
      have hresolve := of_decide_eq_true hrun
      cases hresult : r.resolveForExecution "org" sampleBinding ⟨none, .utc 3⟩ (some ["pay"]) with
      | error e => rw [hresult] at hresolve; cases hresolve
      | ok b => rw [hresult] at hresolve; cases hresolve; rfl

/-- The tenant with the installation resolves the adapter, and is granted it. -/
theorem registry_resolves_granted_sample : ∃ r : RuntimeRegistry PackRuntimeBinding,
    r.resolveForExecution "org" sampleBinding ⟨none, .utc 3⟩ (some ["pay"]) = .ok sampleBinding ∧
    ∃ t i, r.effectiveNow ⟨none, .utc 3⟩ = some t ∧
      r.Granted "org" sampleBinding ["pay"] t sampleBinding i := by
  obtain ⟨r₀, r, hmade, hregister, hresolve⟩ := sample_resolves
  have hstep : Step (.register sampleBinding (some sampleInstallation) ⟨none, .utc 2⟩) r₀ r := by
    show left ((register sampleBinding (some sampleInstallation) ⟨none, .utc 2⟩ >>= fun _ =>
      pure none) r₀) = r
    rw [bind_of_ok hregister]
    rfl
  exact ⟨r, hresolve, (registry_resolves_granted hmade (.single trivial hstep)).1 _ _ _ _ _ hresolve⟩

end RuntimeRegistry

end AgentPact
