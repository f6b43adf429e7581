import Mathlib.Data.Finmap
import Mathlib.Data.List.Sort
import AgentPact.Base.Lts
import AgentPact.Base.Transaction
import AgentPact.Governance.PackRuntime

/-!
# The registry of Pack runtimes

`PackRuntimeRegistry` (`governance/pack_runtime.py`): the contracts a process
was started with, the adapters registered for them, and the installations that
say which tenant may use which.

A method is a transaction on the registry, so what it had written when it
raised is there to be seen.  A registry is asked at the time its caller names,
and otherwise at the time of its clock, which a call takes as an argument.

`RuntimeRegistry.Sound` is what registration and installation keep: an
installation was accepted under the contract of its Pack version with the
trusted adapter, and an adapter has the identity of its contract.
-/

namespace AgentPact

open Base Transaction

/-! ## Contracts and installations -/

/-- `tuple(sorted(ids))`. -/
def sortedIds (ids : List String) : List String := ids.insertionSort (· ≤ ·)

theorem mem_sortedIds {ids : List String} {id : String} : id ∈ sortedIds ids ↔ id ∈ ids :=
  List.mem_insertionSort _

/-- A Pack and its version. -/
abbrev PackKey := String × String

/-- What has a binding, as a Pack adapter does. -/
class PackAdapter (A : Type) where
  /-- The binding. -/
  binding : A → PackRuntimeBinding

/-- The Pack version of a binding. -/
def PackRuntimeBinding.packKey (b : PackRuntimeBinding) : PackKey := (b.packId, b.packVersion)

/-- What identifies a binding: the order of its capabilities does not matter. -/
def PackRuntimeBinding.identity (b : PackRuntimeBinding) :
    String × String × List String × String :=
  (b.packId, b.packVersion, sortedIds b.capabilityIds, b.adapterId)

/-- The contract of a Pack version. -/
structure PackRuntimeContract where
  packId : String
  packVersion : String
  displayName : String
  capabilityIds : List String
  adapterId : String
  manifestDigest : Digest
  unique : capabilityIds.Nodup

/-- What identifies a contract. -/
def PackRuntimeContract.identity (c : PackRuntimeContract) :
    String × String × List String × String :=
  (c.packId, c.packVersion, sortedIds c.capabilityIds, c.adapterId)

/-- A Pack version as one tenant has installed it. -/
structure RuntimeInstallation where
  tenantId : String
  packId : String
  packVersion : String
  status : String
  acceptedAt : DateTime
  expiresAt : DateTime
  contractDigest : String
  adapterRef : String
  enabledCapabilityIds : List String
deriving DecidableEq

/-- The Pack version of an installation. -/
def RuntimeInstallation.packKey (i : RuntimeInstallation) : PackKey := (i.packId, i.packVersion)

/-- Under what an installation is kept. -/
def RuntimeInstallation.key (i : RuntimeInstallation) : String × PackKey := (i.tenantId, i.packKey)

/-- Whether an installation is out of force at a time.  Without a time it never is. -/
def RuntimeInstallation.stale (i : RuntimeInstallation) : Option DateTime → Except Raised Bool
  | none => .ok false
  | some t => (t.within i.acceptedAt i.expiresAt).map not

/-- At a time, an installation is in force from its acceptance until it expires. -/
theorem RuntimeInstallation.stale_eq_false {i : RuntimeInstallation} {t : DateTime} :
    i.stale (some t) = .ok false ↔ t.within i.acceptedAt i.expiresAt = .ok true := by
  show (t.within i.acceptedAt i.expiresAt).map not = .ok false ↔ _
  cases t.within i.acceptedAt i.expiresAt with
  | error e => exact ⟨nofun, nofun⟩
  | ok inside => cases inside <;> simp [Except.map]

/-- What a trusted adapter reference is kept under. -/
inductive TrustKey where
  | version (key : PackKey)
  | pack (packId : String)
deriving DecidableEq

/-! ## The registry -/

/-- A registry.  Where it has no clock, it takes the time it was made for. -/
structure RuntimeRegistry (A : Type) where
  contracts : Finmap fun _ : PackKey => PackRuntimeContract
  adapters : Finmap fun _ : PackKey => A
  installations : Finmap fun _ : String × PackKey => RuntimeInstallation
  trustedAdapterRefs : Finmap fun _ : TrustKey => String
  now : Option DateTime
  clocked : Bool

/-- What a call says about the time: its argument `now`, and the time of the clock. -/
structure CallTime where
  now : Option DateTime
  tick : DateTime

namespace RuntimeRegistry

variable {A : Type}

/-- `tenant_scoped`. -/
def tenantScoped (r : RuntimeRegistry A) : Bool := decide (r.installations ≠ ∅)

/-- `_effective_now`. -/
def effectiveNow (r : RuntimeRegistry A) (time : CallTime) : Option DateTime :=
  match time.now with
  | some t => some t
  | none => if r.clocked then some time.tick else r.now

/-- The trusted reference of a Pack version, or else of its Pack. -/
def trustedRef (r : RuntimeRegistry A) (key : PackKey) : Option String :=
  match r.trustedAdapterRefs.lookup (.version key) with
  | some ref => some ref
  | none => r.trustedAdapterRefs.lookup (.pack key.1)

/-- `bind_installation`. -/
def bindInstallation (i : RuntimeInstallation) (time : CallTime) :
    Transaction Raised (RuntimeRegistry A) Unit := do
  require (i.status = "accepted")
    ⟨.valueError, "Only accepted Domain Pack installations may bind a runtime"⟩
  require (i.tenantId ≠ "" ∧ i.packId ≠ "" ∧ i.packVersion ≠ "")
    ⟨.valueError, "Domain Pack installation must carry tenant, Pack, and version identity"⟩
  let stale ← query fun r => i.stale (r.effectiveNow time)
  require (stale = false) ⟨.valueError, "Accepted Domain Pack installation is stale"⟩
  let contract ← fetch (fun r => r.contracts.lookup i.packKey)
    ⟨.valueError, "Domain Pack installation has no matching runtime contract"⟩
  require (i.contractDigest = contract.manifestDigest.hex)
    ⟨.valueError, "Domain Pack installation digest does not match its runtime contract"⟩
  let trusted ← read fun r => r.trustedRef i.packKey
  require (trusted = some i.adapterRef)
    ⟨.valueError, "Domain Pack installation adapter reference is not trusted"⟩
  require (i.enabledCapabilityIds ≠ [] ∧ i.enabledCapabilityIds.Nodup ∧
      ∀ c ∈ i.enabledCapabilityIds, c ∈ contract.capabilityIds)
    ⟨.valueError,
      "Domain Pack installation capabilities do not resolve to its runtime contract"⟩
  let bound ← read fun r => r.installations.lookup i.key
  require (bound = none ∨ bound = some i)
    ⟨.valueError, "A tenant already has a different installation for this Pack version"⟩
  write fun r => { r with installations := r.installations.insert i.key i }

/-- `_require_registered`. -/
def requireRegistered (r : RuntimeRegistry A) (key : PackKey) : Except Raised A :=
  match r.adapters.lookup key with
  | some a => .ok a
  | none => .error ⟨.lookupError,
      "No conformant runtime adapter is registered for this Pack version"⟩

/-- The installation an adapter is registered with, if it is registered with one. -/
def bindFor (binding : PackRuntimeBinding) (time : CallTime) :
    Option RuntimeInstallation → Transaction Raised (RuntimeRegistry A) Unit
  | none => pure ()
  | some i => do
      require (i.packId = binding.packId ∧ i.packVersion = binding.packVersion)
        ⟨.valueError, "Runtime adapter identity does not match the Domain Pack installation"⟩
      bindInstallation i time

/-! ## Making a registry -/

/-- What a registry is made from. -/
structure Setup where
  contracts : List PackRuntimeContract
  installations : List RuntimeInstallation
  trustedAdapterRefs : Option (Finmap fun _ : TrustKey => String)
  now : Option DateTime
  clocked : Bool

/-- Add the contracts one by one. -/
def addContracts : List PackRuntimeContract → (Finmap fun _ : PackKey => PackRuntimeContract) →
    Except Raised (Finmap fun _ : PackKey => PackRuntimeContract)
  | [], known => .ok known
  | c :: cs, known =>
      if (known.lookup (c.packId, c.packVersion)).isSome then
        .error ⟨.valueError, "A runtime contract is already registered for " ++ c.packId ++ "@" ++
          c.packVersion⟩
      else addContracts cs (known.insert (c.packId, c.packVersion) c)

/-- Bind the installations one by one. -/
def bindAll (time : CallTime) : List RuntimeInstallation →
    Transaction Raised (RuntimeRegistry A) Unit
  | [] => pure ()
  | i :: is => do
      bindInstallation i time
      bindAll time is

/-- `__init__`.  A registry made for no time has a clock. -/
def create (setup : Setup) (tick : DateTime) : Except Raised (RuntimeRegistry A) := do
  let contracts ← addContracts setup.contracts ∅
  ensure (setup.installations = [] ∨ setup.trustedAdapterRefs.isSome)
    ⟨.valueError, "Tenant-scoped runtime registry requires trusted adapter references"⟩
  let registry : RuntimeRegistry A :=
    ⟨contracts, ∅, ∅, setup.trustedAdapterRefs.getD ∅, setup.now, setup.now.isNone || setup.clocked⟩
  match bindAll ⟨setup.now, tick⟩ setup.installations registry with
  | .ok _ registry => pure registry
  | .error e _ => throw e

/-! ## Installing -/

/-- An installation that the registry may hold. -/
structure Accepts (r : RuntimeRegistry A) (i : RuntimeInstallation) : Prop where
  accepted : i.status = "accepted"
  trusted : r.trustedRef i.packKey = some i.adapterRef
  contract : ∃ c, r.contracts.lookup i.packKey = some c ∧
    i.contractDigest = c.manifestDigest.hex ∧ ∀ id ∈ i.enabledCapabilityIds, id ∈ c.capabilityIds

/-- The registry with one more installation. -/
def install (r : RuntimeRegistry A) (i : RuntimeInstallation) : RuntimeRegistry A :=
  { r with installations := r.installations.insert i.key i }

theorem Accepts.install {r : RuntimeRegistry A} {i j : RuntimeInstallation} (h : r.Accepts j) :
    (r.install i).Accepts j := ⟨h.accepted, h.trusted, h.contract⟩

/-- An installation that was bound was acceptable and in force. -/
theorem bindInstallation_eq_ok {i : RuntimeInstallation} {time : CallTime}
    {r r' : RuntimeRegistry A} {u : Unit} (h : bindInstallation i time r = .ok u r') :
    r.Accepts i ∧ i.stale (r.effectiveNow time) = .ok false ∧ r' = r.install i := by
  simp only [bindInstallation, bind_eq_ok, require_eq_ok, query_eq_ok, fetch_eq_ok, read_eq_ok,
    write_eq_ok] at h
  obtain ⟨_, _, ⟨haccepted, rfl⟩, _, _, ⟨_, rfl⟩, stale, _, ⟨hstale, rfl⟩, _, _, ⟨rfl, rfl⟩, c, _,
    ⟨hcontract, rfl⟩, _, _, ⟨hdigest, rfl⟩, _, _, ⟨rfl, rfl⟩, _, _, ⟨htrusted, rfl⟩, _, _,
    ⟨⟨_, _, hcapabilities⟩, rfl⟩, _, _, ⟨rfl, rfl⟩, _, _, ⟨_, rfl⟩, hr⟩ := h
  exact ⟨⟨haccepted, htrusted, c, hcontract, hdigest, hcapabilities⟩, hstale, hr⟩

theorem bindInstallation_clean {i : RuntimeInstallation} {time : CallTime} :
    Clean (bindInstallation i time : Transaction Raised (RuntimeRegistry A) Unit) := by
  unfold bindInstallation
  refine .bind_keeps (fun _ => .require _ _) fun _ => ?_
  refine .bind_keeps (fun _ => .require _ _) fun _ => ?_
  refine .bind_keeps (fun _ => .query _) fun stale => ?_
  refine .bind_keeps (fun _ => .require _ _) fun _ => ?_
  refine .bind_keeps (fun _ => .fetch _ _) fun contract => ?_
  refine .bind_keeps (fun _ => .require _ _) fun _ => ?_
  refine .bind_keeps (fun _ => .read _) fun trusted => ?_
  refine .bind_keeps (fun _ => .require _ _) fun _ => ?_
  refine .bind_keeps (fun _ => .require _ _) fun _ => ?_
  refine .bind_keeps (fun _ => .read _) fun bound => ?_
  refine .bind_keeps (fun _ => .require _ _) fun _ => ?_
  exact .of_returns fun _ _ _ => write_ne_error

theorem bindFor_clean {binding : PackRuntimeBinding} {time : CallTime}
    {installation : Option RuntimeInstallation} :
    Clean (bindFor binding time installation : Transaction Raised (RuntimeRegistry A) Unit) := by
  cases installation with
  | none => exact .of_keeps fun _ => .pure ()
  | some i => exact .bind_keeps (fun _ => .require _ _) fun _ => bindInstallation_clean

theorem requireRegistered_eq_ok {r : RuntimeRegistry A} {key : PackKey} {a : A} :
    r.requireRegistered key = .ok a ↔ r.adapters.lookup key = some a := by
  unfold requireRegistered
  cases r.adapters.lookup key with
  | none => exact ⟨nofun, nofun⟩
  | some b => simp

/-! ## Registering and resolving -/

variable [PackAdapter A]

/-- `register`. -/
def register (adapter : A) (installation : Option RuntimeInstallation) (time : CallTime) :
    Transaction Raised (RuntimeRegistry A) Unit := do
  let binding := PackAdapter.binding adapter
  let contract ← fetch (fun r => r.contracts.lookup binding.packKey)
    ⟨.valueError, "Runtime adapter does not match an installed Pack runtime contract"⟩
  let actual := sortedIds binding.capabilityIds
  require (actual.Nodup ∧ actual = sortedIds contract.capabilityIds)
    ⟨.valueError,
      "Runtime adapter capabilities do not exactly match the Pack runtime contract"⟩
  require (binding.adapterId = contract.adapterId)
    ⟨.valueError, "Runtime adapter identity does not match the Pack runtime contract"⟩
  let registered ← read fun r => (r.adapters.lookup binding.packKey).isSome
  require (registered = false)
    ⟨.valueError, "A runtime adapter is already registered for this Pack version"⟩
  let tenants ← read tenantScoped
  require (tenants = true → installation ≠ none)
    ⟨.valueError, "Tenant-scoped runtime registration requires an explicit installation"⟩
  bindFor binding time installation
  write fun r => { r with adapters := r.adapters.insert binding.packKey adapter }

/-- `resolve_for_execution`. -/
def resolveForExecution (r : RuntimeRegistry A) (tenantId : String)
    (binding : PackRuntimeBinding) (time : CallTime) (capabilityIds : Option (List String)) :
    Except Raised A := do
  ensure (r.tenantScoped = true)
    ⟨.lookupError, "No active Domain Pack installation is available for execution"⟩
  let i ← orRaise (r.installations.lookup (tenantId, binding.packKey))
    ⟨.lookupError, "No active Domain Pack installation matches the exact runtime binding"⟩
  let stale ← i.stale (r.effectiveNow time)
  ensure (stale = false) ⟨.lookupError, "Domain Pack installation is stale"⟩
  let requested := sortedIds (capabilityIds.getD binding.capabilityIds)
  let enabled := sortedIds i.enabledCapabilityIds
  ensure ((∀ c ∈ requested, c ∈ enabled) ∧ ∀ c ∈ requested, c ∈ binding.capabilityIds)
    ⟨.lookupError,
      "Requested capabilities are not enabled by the exact tenant runtime binding"⟩
  let adapter ← r.requireRegistered binding.packKey
  ensure (PackAdapter.binding adapter = binding)
    ⟨.lookupError, "No conformant runtime adapter matches the exact Pack binding"⟩
  pure adapter

/-- An adapter that is registered has the identity of its contract. -/
structure Hosts (r : RuntimeRegistry A) (a : A) : Prop where
  contract : ∃ c, r.contracts.lookup (PackAdapter.binding a).packKey = some c ∧
    (PackAdapter.binding a).adapterId = c.adapterId ∧
    sortedIds (PackAdapter.binding a).capabilityIds = sortedIds c.capabilityIds

/-- The registry with one more adapter. -/
def host (r : RuntimeRegistry A) (a : A) : RuntimeRegistry A :=
  { r with adapters := r.adapters.insert (PackAdapter.binding a).packKey a }

/-- Registering an adapter binds its installation, if it has one, and hosts the adapter. -/
theorem register_eq_ok {a : A} {installation : Option RuntimeInstallation} {time : CallTime}
    {r r' : RuntimeRegistry A} {u : Unit} (h : register a installation time r = .ok u r') :
    r.Hosts a ∧ ∃ bound, bindFor (PackAdapter.binding a) time installation r = .ok () bound ∧
      r' = bound.host a := by
  simp only [register, bind_eq_ok, require_eq_ok, fetch_eq_ok, read_eq_ok, write_eq_ok] at h
  obtain ⟨c, _, ⟨hcontract, rfl⟩, _, _, ⟨⟨_, hcapabilities⟩, rfl⟩, _, _, ⟨hadapter, rfl⟩, _, _,
    ⟨rfl, rfl⟩, _, _, ⟨_, rfl⟩, _, _, ⟨rfl, rfl⟩, _, _, ⟨_, rfl⟩, _, bound, hbound, hr⟩ := h
  exact ⟨⟨c, hcontract, hadapter, hcapabilities⟩, bound, hbound, hr⟩

theorem register_clean {a : A} {installation : Option RuntimeInstallation} {time : CallTime} :
    Clean (register a installation time) := by
  unfold register
  refine .bind_keeps (fun _ => .fetch _ _) fun contract => ?_
  refine .bind_keeps (fun _ => .require _ _) fun _ => ?_
  refine .bind_keeps (fun _ => .require _ _) fun _ => ?_
  refine .bind_keeps (fun _ => .read _) fun registered => ?_
  refine .bind_keeps (fun _ => .require _ _) fun _ => ?_
  refine .bind_keeps (fun _ => .read _) fun tenants => ?_
  refine .bind_keeps (fun _ => .require _ _) fun _ => ?_
  exact bindFor_clean.bind_returns fun _ _ _ _ => write_ne_error

/-- An adapter is resolved through an installation of the tenant itself. -/
theorem resolveForExecution_eq_ok {r : RuntimeRegistry A} {tenantId : String}
    {binding : PackRuntimeBinding} {time : CallTime} {capabilityIds : Option (List String)} {a : A} :
    r.resolveForExecution tenantId binding time capabilityIds = .ok a ↔
      ∃ i, r.installations.lookup (tenantId, binding.packKey) = some i ∧
        i.stale (r.effectiveNow time) = .ok false ∧
        (∀ id ∈ capabilityIds.getD binding.capabilityIds,
          id ∈ i.enabledCapabilityIds ∧ id ∈ binding.capabilityIds) ∧
        r.adapters.lookup binding.packKey = some a ∧
        PackAdapter.binding a = binding := by
  simp only [resolveForExecution, except_bind_eq_ok, ensure_eq_ok, orRaise_eq_ok,
    requireRegistered_eq_ok, mem_sortedIds, exists_const]
  constructor
  · rintro ⟨_, i, hinstalled, stale, hstale, rfl, henabled, b, hb, hbinding, hreturn⟩
    cases hreturn
    exact ⟨i, hinstalled, hstale, fun id hid => ⟨henabled.1 id hid, henabled.2 id hid⟩, hb, hbinding⟩
  · rintro ⟨i, hinstalled, hstale, henabled, ha, hbinding⟩
    have htenants : r.tenantScoped = true := by
      refine decide_eq_true fun hempty => ?_
      rw [hempty, Finmap.lookup_empty] at hinstalled
      cases hinstalled
    exact ⟨htenants, i, hinstalled, false, hstale, rfl,
      ⟨fun id hid => (henabled id hid).1, fun id hid => (henabled id hid).2⟩, a, ha, hbinding, rfl⟩

end RuntimeRegistry

end AgentPact
