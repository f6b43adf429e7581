import Mathlib.Data.List.Dedup
import AgentPact.Governance.AdmissionDocument

/-!
# The canonical payload and the orders of sets

Sorted, a set does not show the order it was iterated in.  So the canonical
payload of a bundle is the document of a process that iterates every set in
sorted order, but for the scope of the contract.  That scope is a document, and
its list of resources is sorted where its values can be sorted.
-/

namespace AgentPact

namespace Admission

/-! ## Sorting sets -/

/-- A process that iterates every set in sorted order. -/
def Process.sorting (O : Process) : Process := { O with iterate := fun s => s.sort (· ≤ ·) }

variable {O : Process} {e : Enumeration}

/-- Sorting leaves nothing of the order of a set. -/
theorem Enumeration.insertionSort_order (e : Enumeration) (field : SetField) (s : Finset String) :
    (e.order field s).insertionSort (· ≤ ·) = s.sort (· ≤ ·) := by
  obtain ⟨hnodup, hset⟩ := e.complete field s
  have hset' : (e.order field s).toFinset = (s.sort (· ≤ ·)).toFinset := by
    rw [hset, Finset.sort_toFinset]
  have hperm : (e.order field s).Perm (s.sort (· ≤ ·)) :=
    List.perm_of_nodup_nodup_toFinset_eq hnodup (s.sort_nodup _) hset'
  exact ((List.perm_insertionSort _ _).trans hperm).eq_of_pairwise' (List.pairwise_insertionSort _ _)
    (s.pairwise_sort _)

theorem Enumeration.sorted_eq (field : SetField) (s : Finset String) :
    e.sorted field s = O.sorting.setDump s := by
  rw [Enumeration.sorted, e.insertionSort_order]
  rfl

/-- The sorted scope of a process is that of the process that sorts. -/
theorem sortScopeResources_scopeDump {O' : Process} {s : CapabilityDataScope}
    (h : (O'.iterate s.resourceIds).insertionSort (· ≤ ·) = s.resourceIds.sort (· ≤ ·)) :
    (O'.scopeDump s).sortScopeResources = .ok (O.sorting.scopeDump s) := by
  have hsorted := Json.sorted_str (O'.iterate s.resourceIds)
  rw [h] at hsorted
  simp [Json.sortScopeResources, Process.scopeDump, Json.field?, Json.set, Json.setField, hsorted,
    except_ok_bind, Process.sorting, pure, Except.pure]

/-- The set of an enumerated field is sorted as any other enumeration of it is. -/
theorem Process.at_iterate (O : Process) (e : Enumeration) (field : SetField) (s : Finset String) :
    ((O.at e field).iterate s).insertionSort (· ≤ ·) = s.sort (· ≤ ·) :=
  e.insertionSort_order field s

/-- What is sorted stays as it is. -/
theorem Process.sorting_iterate (O : Process) (s : Finset String) :
    (O.sorting.iterate s).insertionSort (· ≤ ·) = s.sort (· ≤ ·) :=
  (s.pairwise_sort _).insertionSort_eq

/-! ## The records -/

theorem alter_eq_ok {doc value changed : Json} {key : String} {f : Json → Except Raised Json}
    (hvalue : doc.field? key = some value) (hchanged : f value = .ok changed) :
    doc.alter key f = .ok (doc.set key changed) := by
  rw [Json.alter, hvalue]
  exact except_bind_of_ok hchanged rfl

theorem alter_eq_error {doc value : Json} {key : String} {f : Json → Except Raised Json}
    {raised : Raised} (hvalue : doc.field? key = some value) (hraised : f value = .error raised) :
    doc.alter key f = .error raised := by
  rw [Json.alter, hvalue]
  exact except_bind_eq_error.mpr (.inl hraised)

theorem sortRequest_dumpRequest (r : CapabilityRequest) :
    sortRequest e r (dumpRequest O e r) = .ok (O.sorting.requestDump r) := by
  have hscope := sortScopeResources_scopeDump (O := O) (O.at_iterate e .requestedResources
    r.requestedScope.resourceIds)
  rw [sortRequest, alter_eq_ok rfl hscope, e.sorted_eq (O := O)]
  rfl

theorem sortPlan_planDump (p : BusinessPlan) :
    sortPlan ((O.at e .planResources).planDump p) = .ok (O.sorting.planDump p) := by
  have hscope := sortScopeResources_scopeDump (O := O) (O.at_iterate e .planResources
    p.dataScope.resourceIds)
  rw [sortPlan, alter_eq_ok rfl hscope]
  rfl

theorem sortGrant_dumpGrant (i : Nat) (g : CapabilityGrant) :
    sortGrant e i g (dumpGrant O e i g) = .ok (O.sorting.grantDump g) := by
  have hscope := sortScopeResources_scopeDump (O := O) (O.at_iterate e (.grantResources i)
    g.dataScope.resourceIds)
  rw [sortGrant, alter_eq_ok rfl hscope, e.sorted_eq (O := O)]
  rfl

theorem sortWorkOrder_dumpWorkOrder (i : Nat) (w : ExecutionWorkOrder) :
    sortWorkOrder e i w (dumpWorkOrder O e i w) = .ok (O.sorting.workOrderDump w) := by
  rw [sortWorkOrder, e.sorted_eq (O := O), e.sorted_eq (O := O)]
  rfl

/-- The document of a contract, with its scope replaced. -/
def Process.contractWith (O : Process) (c : TaskContract) (scope : Json) : Json :=
  (O.sorting.contractDump c).set "data_scope" scope

theorem sortContract_contractDump {c : TaskContract} {scope : Json}
    (hscope : c.dataScope.toJson.sortScopeResources = .ok scope) :
    sortContract e c ((O.at e .contractOperations).contractDump c) =
      .ok (O.contractWith c scope) := by
  rw [sortContract, alter_eq_ok rfl hscope, e.sorted_eq (O := O)]
  rfl

/-! ## The payload -/

theorem alterEach_eq_ok {α : Type} {f : Nat → α → Json → Except Raised Json}
    {dump : Nat → α → Json} {g : α → Json} (hf : ∀ i a, f i a (dump i a) = .ok (g a)) (k : Nat)
    (as : List α) :
    Json.alterEach f k as (as.mapIdx fun i => dump (i + k)) = .ok (as.map g) := by
  induction as generalizing k with
  | nil => rfl
  | cons a as ih =>
      have hrest := ih (k + 1)
      rw [List.mapIdx_cons, Json.alterEach, Nat.zero_add, hf, except_ok_bind]
      have hindex : (fun i => dump (i + 1 + k)) = fun i => dump (i + (k + 1)) :=
        funext fun i => by rw [Nat.add_right_comm, Nat.add_assoc]
      rw [hindex, hrest]
      rfl

theorem alterArray_eq_ok {α : Type} {f : Nat → α → Json → Except Raised Json}
    {dump : Nat → α → Json} {g : α → Json} (hf : ∀ i a, f i a (dump i a) = .ok (g a))
    (as : List α) : Json.alterArray f as (.arr (as.mapIdx dump)) = .ok (.arr (as.map g)) :=
  except_bind_of_ok (alterEach_eq_ok hf 0 as) rfl

/-- The canonical payload of a bundle, with the scope of its contract replaced. -/
def Process.payload (O : Process) (b : ObservedBundle) (scope : Json) : Json :=
  ((O.sorting.bundleDump b.toTaskAdmissionBundle).set "planner_observation"
    (.ofOption PlannerObservation.modelDump b.plannerObservation)).set "contract"
    (O.contractWith b.contract scope)

/-- The canonical payload shows no order of a set: all that can fail is to sort the scope of the
contract. -/
theorem canonicalTaskAdmissionPayload_eq (b : ObservedBundle) :
    canonicalTaskAdmissionPayload O e b =
      b.contract.dataScope.toJson.sortScopeResources.map (O.payload b) := by
  cases hscope : b.contract.dataScope.toJson.sortScopeResources with
  | error raised =>
      have hcontract : sortContract e b.contract
          ((O.at e .contractOperations).contractDump b.contract) = .error raised :=
        alter_eq_error rfl hscope
      exact except_bind_eq_error.mpr (.inl (alter_eq_error rfl hcontract))
  | ok scope =>
      unfold canonicalTaskAdmissionPayload
      refine except_bind_of_ok (alter_eq_ok rfl (sortContract_contractDump hscope)) ?_
      refine except_bind_of_ok (alter_eq_ok rfl (sortRequest_dumpRequest _)) ?_
      refine except_bind_of_ok (alter_eq_ok rfl (sortPlan_planDump _)) ?_
      refine except_bind_of_ok (alter_eq_ok rfl (alterArray_eq_ok sortGrant_dumpGrant _)) ?_
      rw [alter_eq_ok rfl (alterArray_eq_ok sortWorkOrder_dumpWorkOrder _)]
      rfl

end Admission

end AgentPact
