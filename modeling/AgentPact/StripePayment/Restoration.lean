import AgentPact.Governance.AdmissionDocument
import AgentPact.Governance.CapabilityResolution
import AgentPact.StripePayment.BusinessValues

/-!
# Restoring a Stripe run

`restore_run` of `domains/stripe_payment/m10_runtime.py` reads the facts of a run
and its token back from the admission, compiles the run again for an operator with
the user's id and with a deterministic planner, and demands the stored bundle.

So a run is restored where its planner proposed the caller's facts, and its user
has no authority on payments besides an operator's.
-/

namespace AgentPact

open Admission

/-! ## When two bundles are equal -/

deriving instance DecidableEq for TaskContract, TrustedTaskCreationSnapshot, CapabilityRequest

/-- `==` on contracts. -/
def Admission.TaskContract.same (a b : TaskContract) : Prop :=
  { a with dataScope := b.dataScope, authorizationSnapshot := b.authorizationSnapshot } = b ∧
    a.dataScope.same b.dataScope ∧ a.authorizationSnapshot.same b.authorizationSnapshot

/-- `==` on snapshots. -/
def Admission.TrustedTaskCreationSnapshot.same (a b : TrustedTaskCreationSnapshot) : Prop :=
  { a with authorizationSnapshot := b.authorizationSnapshot } = b ∧
    a.authorizationSnapshot.same b.authorizationSnapshot

/-- `==` on requests. -/
def CapabilityRequest.same (a b : CapabilityRequest) : Prop :=
  { a with requestedScope := b.requestedScope, typedInputs := b.typedInputs } = b ∧
    a.requestedScope.same b.requestedScope ∧ a.typedInputs.same b.typedInputs

/-- `==` on grants. -/
def CapabilityGrant.same (a b : CapabilityGrant) : Prop :=
  { a with dataScope := b.dataScope } = b ∧ a.dataScope.same b.dataScope

/-- `==` on lists, of what is the same one by one. -/
def sameList {α : Type} (same : α → α → Prop) (as bs : List α) : Prop :=
  as.length = bs.length ∧ ∀ p ∈ as.zip bs, same p.1 p.2

/-- `==` on plans. -/
def BusinessPlan.same (a b : BusinessPlan) : Prop :=
  { a with dataScope := b.dataScope, steps := b.steps } = b ∧ a.dataScope.same b.dataScope ∧
    sameList BusinessPlanStep.same a.steps b.steps

/-- `==` on bundles. -/
structure Admission.TaskAdmissionBundle.Same (a b : Admission.TaskAdmissionBundle) : Prop where
  schemaVersion : a.schemaVersion = b.schemaVersion
  providerMode : a.providerMode = b.providerMode
  runtimeBinding : a.runtimeBinding = b.runtimeBinding
  admissionId : a.admissionId = b.admissionId
  task : a.task = b.task
  creationSnapshot : a.creationSnapshot.same b.creationSnapshot
  contract : a.contract.same b.contract
  request : a.request.same b.request
  grants : sameList CapabilityGrant.same a.grants b.grants
  plan : a.plan.same b.plan
  workOrders : a.workOrders = b.workOrders
  auditRecord : a.auditRecord = b.auditRecord

instance (a b : TaskContract) : Decidable (a.same b) := by
  unfold TaskContract.same
  infer_instance

instance (a b : TrustedTaskCreationSnapshot) : Decidable (a.same b) := by
  unfold TrustedTaskCreationSnapshot.same
  infer_instance

instance (a b : CapabilityRequest) : Decidable (a.same b) := by
  unfold CapabilityRequest.same
  infer_instance

instance (a b : CapabilityGrant) : Decidable (a.same b) := by
  unfold CapabilityGrant.same
  infer_instance

instance {α : Type} (same : α → α → Prop) [∀ a b, Decidable (same a b)] (as bs : List α) :
    Decidable (sameList same as bs) := by
  unfold sameList
  infer_instance

instance (a b : BusinessPlan) : Decidable (a.same b) := by
  unfold BusinessPlan.same
  infer_instance

instance (a b : Admission.TaskAdmissionBundle) : Decidable (a.Same b) :=
  decidable_of_iff (a.schemaVersion = b.schemaVersion ∧ a.providerMode = b.providerMode ∧
      a.runtimeBinding = b.runtimeBinding ∧ a.admissionId = b.admissionId ∧ a.task = b.task ∧
      a.creationSnapshot.same b.creationSnapshot ∧ a.contract.same b.contract ∧
      a.request.same b.request ∧ sameList CapabilityGrant.same a.grants b.grants ∧
      a.plan.same b.plan ∧ a.workOrders = b.workOrders ∧ a.auditRecord = b.auditRecord)
    ⟨fun ⟨h₁, h₂, h₃, h₄, h₅, h₆, h₇, h₈, h₉, h₁₀, h₁₁, h₁₂⟩ =>
        ⟨h₁, h₂, h₃, h₄, h₅, h₆, h₇, h₈, h₉, h₁₀, h₁₁, h₁₂⟩,
      fun h => ⟨h.schemaVersion, h.providerMode, h.runtimeBinding, h.admissionId, h.task,
        h.creationSnapshot, h.contract, h.request, h.grants, h.plan, h.workOrders, h.auditRecord⟩⟩

theorem sameList_refl {α : Type} {same : α → α → Prop} (hrefl : ∀ a, same a a) (as : List α) :
    sameList same as as := by
  refine ⟨rfl, fun p hp => ?_⟩
  rw [List.zip_eq_zipWith] at hp
  induction as with
  | nil => cases hp
  | cons a as ih =>
      rcases List.mem_cons.mp hp with rfl | hmem
      · exact hrefl a
      · exact ih hmem

theorem CapabilityDataScope.same_refl (s : CapabilityDataScope) : s.same s := ⟨rfl, rfl, rfl, rfl⟩

theorem BusinessPlanStep.same_refl (s : BusinessPlanStep) : s.same s :=
  ⟨rfl, rfl, rfl, rfl, rfl, rfl, rfl, rfl⟩

/-- A bundle equals itself. -/
theorem Admission.TaskAdmissionBundle.Same.refl (b : Admission.TaskAdmissionBundle) : b.Same b where
  schemaVersion := rfl
  providerMode := rfl
  runtimeBinding := rfl
  admissionId := rfl
  task := rfl
  creationSnapshot := ⟨rfl, rfl⟩
  contract := ⟨rfl, rfl, rfl⟩
  request := ⟨rfl, CapabilityDataScope.same_refl _, rfl⟩
  grants := sameList_refl (fun g => ⟨rfl, CapabilityDataScope.same_refl g.dataScope⟩) b.grants
  plan := ⟨rfl, CapabilityDataScope.same_refl _, sameList_refl BusinessPlanStep.same_refl _⟩
  workOrders := rfl
  auditRecord := rfl

namespace Stripe

/-! ## Restoring -/

/-- `text.rsplit(" ", 1)[-1]`. -/
def lastWord (text : String) : String :=
  String.ofList ((text.toList.reverse.takeWhile fun c => c ≠ ' ').reverse)

/-- The user a run is restored for. -/
def restoredUser (userId orgId : String) : UserContext where
  userId := userId
  orgId := orgId
  departmentRoles := [⟨paymentsDepartmentId, "operator"⟩]
  businessLineIds := [businessLineId]

/-- `model_validate` of a bundle, and `model_dump(mode="json")` of a run. -/
structure RunCodec where
  validateBundle : Json → Except Raised Admission.TaskAdmissionBundle
  dumpRun : StripeM10PreparedRun → List (String × Json)

/-- What a run is restored from. -/
structure StripeRestoreRequest where
  binding : PackRuntimeBinding
  targetUrl : String
  admissionPayload : Json

namespace StripeAdapter

variable (A : StripeAdapter) (K : RunCodec)

/-- `_restore_run_legacy`. -/
def restoreRunLegacy (bundle : Admission.TaskAdmissionBundle) (targetUrl : String) :
    Except Raised StripeM10PreparedRun := do
  let facts ← A.readFacts bundle.request.typedInputs.toJson
  let user := restoredUser bundle.request.principalRef bundle.request.tenantId
  let token := lastWord bundle.request.userIntentSummary
  let authority ← A.compileAuthority user bundle.request.requestId bundle.task.taskId token facts
    bundle.request.submittedAt (deterministicPlanner facts.inputs) A.resolvedId
  let rebuilt ← A.admissionBundle user facts authority bundle.admissionId token bundle.providerMode
    bundle.request.submittedAt
  ensure (rebuilt.Same bundle)
    ⟨.valueError, "Stored Agent Run admission does not match trusted reconstruction"⟩
  pure {
    runId := bundle.task.taskId
    intentDigest := token
    businessInputsDigest := A.process.platform.digest facts.modelDump
    businessInputs := facts.inputs
    user := user
    compilation := authority
    admissionBundle := bundle
    targetUrl := targetUrl }

/-- `_reference`. -/
def reference (run : StripeM10PreparedRun) : PreparedRunReference where
  runId := run.runId
  tenantId := run.admissionBundle.request.tenantId
  requestId := run.admissionBundle.request.requestId
  packId := stripeBinding.packId
  packVersion := stripeBinding.packVersion
  adapterId := stripeBinding.adapterId
  admissionId := some run.admissionBundle.admissionId
  contractId := some run.admissionBundle.contract.contractId
  providerMode := A.providerMode
  opaquePayload := K.dumpRun run

/-- `restore_run`. -/
def restoreRun (request : StripeRestoreRequest) : Except Raised PreparedRunReference := do
  ensure (request.binding = stripeBinding)
    ⟨.valueError, "Stored Agent Run binding does not match this adapter"⟩
  let bundle ← K.validateBundle request.admissionPayload
  let run ← A.restoreRunLegacy bundle request.targetUrl
  pure (A.reference K run)

end StripeAdapter

/-! ## Reading the token back -/

theorem lastWord_append {text word : String} (h : ' ' ∉ word.toList) :
    lastWord (text ++ " " ++ word) = word := by
  have hkeep : ∀ c ∈ word.toList.reverse, decide (c ≠ ' ') = true := by
    intro c hc
    refine decide_eq_true ?_
    rintro rfl
    exact h (List.mem_reverse.mp hc)
  unfold lastWord
  rw [String.toList_append, String.toList_append, List.reverse_append, List.reverse_append,
    List.takeWhile_append_of_pos hkeep]
  simp

/-- The digits of a digest are one word. -/
theorem lastWord_digest (d : Digest) :
    lastWord ("Authorized stripe intent token " ++ d.hex) = d.hex := by
  have hspace : ' ' ∉ d.hex.toList := by
    intro hmem
    have hdigit := List.all_eq_true.mp d.wellFormed.2 ' ' hmem
    exact absurd hdigit (by decide)
  have htext : ("Authorized stripe intent token " : String) =
      "Authorized stripe intent token" ++ " " := by decide
  rw [htext]
  exact lastWord_append hspace

/-! ## What a user may do -/

/-- A user has an authority to decide approvals of payments. -/
def Adjudicates (user : UserContext) : Prop :=
  user.hasCrossOrgApprove = true ∨ user.hasBusinessLine businessLineId = true ∧
    ∃ dr ∈ user.departmentRoles, dr.departmentId = paymentsDepartmentId ∧ dr.role = "approver"

/-- The dimensions of an operator. -/
def operatorDimensions : Finset AuthorizationDimension :=
  {.discover, .readRecord, .requestTransition, .executeTransition, .requestApproval}

section

variable {H : HarnessSetup} {user : UserContext} {x : AuthorizationDimension}

/-- The dimensions of a role. -/
theorem dimensionsForRole_eq (role : String) :
    H.capability.accessPolicy.dimensionsForRole role =
      if role = "operator" then operatorDimensions
      else if role = "approver" then {.discover, .readRecord, .adjudicateApproval} else ∅ := by
  by_cases hoperator : role = "operator"
  · rw [hoperator]
    rfl
  · by_cases happrover : role = "approver"
    · rw [happrover]
      rfl
    · rw [if_neg hoperator, if_neg happrover]
      simp [CapabilityAccessPolicy.dimensionsForRole, HarnessSetup.capability, Ne.symm hoperator,
        Ne.symm happrover]

/-- A user has the dimensions of its roles on payments, and those of its flags. -/
theorem mem_dimensionsOf : x ∈ H.dimensionsOf user ↔
    (∃ dr ∈ user.departmentRoles, dr.departmentId = paymentsDepartmentId ∧
      user.hasBusinessLine businessLineId = true ∧
      x ∈ H.capability.accessPolicy.dimensionsForRole dr.role) ∨
    (user.hasCrossOrgRead = true ∧ x = .readRecord) ∨
    (user.hasCrossOrgApprove = true ∧ x = .adjudicateApproval) := by
  have hflag : ∀ (flag : Bool) (y : AuthorizationDimension),
      (x ∈ if flag = true then ({y} : Finset AuthorizationDimension) else ∅) ↔
        flag = true ∧ x = y := by
    intro flag y
    cases flag <;> simp
  have hscope : ∀ dr : DepartmentRole,
      (decide ((paymentScopeOf "").departmentId.getD "" ≠ "") &&
        decide ((paymentScopeOf "").departmentId = some dr.departmentId) &&
        (!decide ((paymentScopeOf "").businessLineId.getD "" ≠ "") ||
          user.hasBusinessLine businessLineId)) = true ↔
      dr.departmentId = paymentsDepartmentId ∧ user.hasBusinessLine businessLineId = true := by
    intro dr
    have hdepartment : decide ((paymentScopeOf "").departmentId.getD "" ≠ "") = true := by decide
    have hbusiness : decide ((paymentScopeOf "").businessLineId.getD "" ≠ "") = true := by decide
    have hscope : (paymentScopeOf "").departmentId = some paymentsDepartmentId := rfl
    rw [hdepartment, hbusiness, hscope, Bool.true_and, Bool.not_true, Bool.false_or,
      Bool.and_eq_true, decide_eq_true_eq, Option.some.injEq, eq_comm]
  unfold HarnessSetup.dimensionsOf CapabilityResolutionContext.dimensions
  rw [Finset.mem_union, Finset.mem_union, CapabilityResolutionContext.mem_foldr_union, hflag,
    hflag, or_assoc]
  refine or_congr ?_ Iff.rfl
  constructor
  · rintro ⟨role, hrole, hx⟩
    obtain ⟨dr, hdr, rfl⟩ := List.mem_map.mp hrole
    obtain ⟨hmem, hin⟩ := List.mem_filter.mp hdr
    obtain ⟨hdepartment, hline⟩ := (hscope dr).mp hin
    exact ⟨dr, hmem, hdepartment, hline, hx⟩
  · rintro ⟨dr, hmem, hdepartment, hline, hx⟩
    have hin := (hscope dr).mpr ⟨hdepartment, hline⟩
    exact ⟨dr.role, List.mem_map.mpr ⟨dr, List.mem_filter.mpr ⟨hmem, hin⟩, rfl⟩, hx⟩

/-- A user who may execute is an operator of payments. -/
theorem operator_of_executes (h : .executeTransition ∈ H.dimensionsOf user) :
    user.hasBusinessLine businessLineId = true ∧
      ∃ dr ∈ user.departmentRoles,
        dr.departmentId = paymentsDepartmentId ∧ dr.role = "operator" := by
  rcases mem_dimensionsOf.mp h with ⟨dr, hdr, hdepartment, hline, hx⟩ | ⟨_, hx⟩ | ⟨_, hx⟩
  · refine ⟨hline, dr, hdr, hdepartment, ?_⟩
    rw [dimensionsForRole_eq] at hx
    by_contra hoperator
    rw [if_neg hoperator] at hx
    split at hx
    · exact absurd hx (by decide)
    · exact absurd hx (Finset.notMem_empty _)
  · cases hx
  · cases hx

theorem mem_dimensionsOf_adjudicate :
    .adjudicateApproval ∈ H.dimensionsOf user ↔ Adjudicates user := by
  constructor
  · intro h
    rcases mem_dimensionsOf.mp h with ⟨dr, hdr, hdepartment, hline, hx⟩ | ⟨_, hx⟩ | ⟨happrove, _⟩
    · refine .inr ⟨hline, dr, hdr, hdepartment, ?_⟩
      rw [dimensionsForRole_eq] at hx
      split at hx
      · exact absurd hx (by decide)
      · split at hx
        · assumption
        · exact absurd hx (Finset.notMem_empty _)
    · cases hx
    · exact .inl happrove
  · rintro (happrove | ⟨hline, dr, hdr, hdepartment, hrole⟩)
    · exact mem_dimensionsOf.mpr (.inr (.inr ⟨happrove, rfl⟩))
    · refine mem_dimensionsOf.mpr (.inl ⟨dr, hdr, hdepartment, hline, ?_⟩)
      rw [hrole, dimensionsForRole_eq, if_neg (by decide), if_pos rfl]
      decide

/-- A user who may execute has the dimensions of an operator, and no others unless it decides
approvals. -/
theorem dimensionsOf_eq_operator_iff (h : .executeTransition ∈ H.dimensionsOf user) :
    H.dimensionsOf user = operatorDimensions ↔ ¬ Adjudicates user := by
  constructor
  · intro heq hadjudicates
    rw [← mem_dimensionsOf_adjudicate (H := H), heq] at hadjudicates
    exact absurd hadjudicates (by decide)
  · intro hadjudicates
    obtain ⟨hline, dr, hdr, hdepartment, hrole⟩ := operator_of_executes h
    have hnot : .adjudicateApproval ∉ H.dimensionsOf user :=
      fun hmem => hadjudicates (mem_dimensionsOf_adjudicate.mp hmem)
    ext x
    constructor
    · intro hx
      cases x with
      | adjudicateApproval => exact absurd hx hnot
      | _ => decide
    · intro hx
      refine mem_dimensionsOf.mpr (.inl ⟨dr, hdr, hdepartment, hline, ?_⟩)
      rw [dimensionsForRole_eq, if_pos hrole]
      exact hx

/-- A run is restored for a user with the dimensions of an operator. -/
theorem dimensionsOf_restoredUser (userId orgId : String) :
    H.dimensionsOf (restoredUser userId orgId) = operatorDimensions := by
  have hline : (restoredUser userId orgId).hasBusinessLine businessLineId = true := by
    show decide (businessLineId ∈ [businessLineId]) = true
    decide
  have hexecutes : .executeTransition ∈ H.dimensionsOf (restoredUser userId orgId) := by
    refine mem_dimensionsOf.mpr (.inl ⟨⟨paymentsDepartmentId, "operator"⟩,
      List.mem_singleton_self _, rfl, hline, ?_⟩)
    rw [dimensionsForRole_eq, if_pos rfl]
    decide
  refine (dimensionsOf_eq_operator_iff hexecutes).mpr ?_
  rintro (happrove | ⟨_, dr, hdr, _, hrole⟩)
  · cases happrove
  · rw [List.mem_singleton.mp hdr] at hrole
    exact absurd hrole (by decide)

end

/-! ## When a run is restored -/

/-- The inputs of facts are equal where the facts are. -/
theorem inputs_same_iff {f n : StripePaymentFacts} : f.inputs.same n.inputs ↔ f = n := by
  constructor
  · intro h
    have hintent : f.paymentIntentId = n.paymentIntentId := Json.str.inj (h.get "payment_intent_id")
    have hamount : f.amountMinor = n.amountMinor := Json.num.inj (h.get "amount_minor")
    have hcurrency : f.currency = n.currency :=
      AllowedCurrency.value_injective (Json.str.inj (h.get "currency"))
    have hdescription : f.description = n.description := Json.str.inj (h.get "description")
    have hversion : f.objectVersion = n.objectVersion := Json.num.inj (h.get "object_version")
    have hcustomer : f.customerId = n.customerId := by
      have hvalue :
          (Json.ofOption .str f.customerId).value = (Json.ofOption .str n.customerId).value :=
        h.get "customer_id"
      revert hvalue
      cases f.customerId with
      | none =>
          cases n.customerId with
          | none => exact fun _ => rfl
          | some id => exact fun hvalue => by cases hvalue
      | some id =>
          cases n.customerId with
          | none => exact fun hvalue => by cases hvalue
          | some id' => exact fun hvalue => congrArg some (Json.str.inj hvalue)
    cases f
    cases n
    cases hintent
    cases hamount
    cases hcurrency
    cases hdescription
    cases hversion
    cases hcustomer
    rfl
  · rintro rfl
    rfl

namespace StripeAdapter

variable {A : StripeAdapter} {K : RunCodec} {request : PackRunRequest}
  {run : StripeM10PreparedRun} {facts normalized : StripePaymentFacts} {proposal : PlannerProposal}

/-- The bundle that restoring a run compiles. -/
def rebuilt (A : StripeAdapter) (request : PackRunRequest) (facts : StripePaymentFacts) :
    Admission.TaskAdmissionBundle :=
  (A.preparedFrom { request with
    principal := restoredUser request.principal.userId request.principal.orgId } facts
    ⟨capabilityId, facts.inputs⟩ facts).admissionBundle

/-- The run that a stored bundle is restored to. -/
def restoredFrom (A : StripeAdapter) (bundle : Admission.TaskAdmissionBundle)
    (request : PackRunRequest) (facts : StripePaymentFacts) (targetUrl : String) :
    StripeM10PreparedRun where
  runId := bundle.task.taskId
  intentDigest := request.intentDigest.hex
  businessInputsDigest := A.process.platform.digest facts.modelDump
  businessInputs := facts.inputs
  user := restoredUser request.principal.userId request.principal.orgId
  compilation := A.runCompilation (restoredUser request.principal.userId request.principal.orgId)
    request.requestId bundle.task.taskId request.intentDigest.hex facts request.now
    ⟨capabilityId, facts.inputs⟩ facts
  admissionBundle := bundle
  targetUrl := targetUrl

/-- Restoring a prepared run compiles it again, and then compares the bundles. -/
theorem restoreRunLegacy_eq (h : A.Prepares request facts proposal normalized)
    {bundle : Admission.TaskAdmissionBundle}
    (hbundle : bundle = (A.preparedFrom request facts proposal normalized).admissionBundle)
    (targetUrl : String) :
    A.restoreRunLegacy bundle targetUrl =
      if (A.rebuilt request facts).Same bundle then
        .ok (A.restoredFrom bundle request facts targetUrl)
      else .error
        ⟨.valueError, "Stored Agent Run admission does not match trusted reconstruction"⟩ := by
  have hwellFormed := Compiler.readFacts_wellFormed h.read
  have hread : A.readFacts bundle.request.typedInputs.toJson = .ok facts := by
    rw [hbundle]
    exact Compiler.readFacts_modelDump hwellFormed
  have htoken : lastWord bundle.request.userIntentSummary = request.intentDigest.hex := by
    rw [hbundle]
    exact lastWord_digest request.intentDigest
  have hexecutes : .executeTransition ∈ A.setup.dimensionsOf
      (restoredUser request.principal.userId request.principal.orgId) := by
    rw [dimensionsOf_restoredUser]
    decide
  have hcompile : A.compileAuthority
      (restoredUser bundle.request.principalRef bundle.request.tenantId) bundle.request.requestId
      bundle.task.taskId request.intentDigest.hex facts bundle.request.submittedAt
      (deterministicPlanner facts.inputs) A.resolvedId =
        .ok (A.restoredFrom bundle request facts targetUrl).compilation := by
    rw [hbundle]
    exact Compiler.compileAuthority_eq_ok.mpr ⟨h.range, hexecutes, _, _,
      Compiler.proposed_deterministicPlanner hwellFormed, rfl⟩
  have hvalid : valid (request.principal.userId ≠ "") = .ok () := valid_eq_ok.mpr h.named
  have hrebuilt : A.admissionBundle
      (restoredUser bundle.request.principalRef bundle.request.tenantId) facts
      (A.restoredFrom bundle request facts targetUrl).compilation bundle.admissionId
      request.intentDigest.hex bundle.providerMode bundle.request.submittedAt =
        .ok (A.rebuilt request facts) := by
    rw [hbundle]
    exact except_bind_of_ok rfl (except_bind_of_ok hvalid rfl)
  unfold restoreRunLegacy
  rw [htoken]
  refine except_bind_of_ok hread (except_bind_of_ok hcompile (except_bind_of_ok hrebuilt ?_))
  by_cases hsame : (A.rebuilt request facts).Same bundle
  · rw [if_pos hsame]
    refine ensure_bind_of hsame ?_
    rw [hbundle]
    rfl
  · rw [if_neg hsame]
    exact except_bind_eq_error.mpr (.inl (if_neg hsame))

/-- The rebuilt bundle is the stored one where the planner proposed the facts of the caller, and the
user has the dimensions of an operator. -/
theorem rebuilt_same_iff :
    (A.rebuilt request facts).Same
        (A.preparedFrom request facts proposal normalized).admissionBundle ↔
      A.setup.dimensionsOf request.principal = operatorDimensions ∧ facts = normalized := by
  constructor
  · intro h
    obtain ⟨_, hgrants⟩ := h.grants
    obtain ⟨_, _, _, hsteps⟩ := h.plan
    have hgrant := (hgrants (_, _) (List.mem_singleton_self _)).1
    have hstep := hsteps (_, _) (List.mem_singleton_self _)
    refine ⟨?_, inputs_same_iff.mp hstep.2.2.2.2.2.1⟩
    have hdimensions := congrArg CapabilityGrant.allowedDimensions hgrant
    exact hdimensions.symm.trans (dimensionsOf_restoredUser _ _)
  · rintro ⟨hdimensions, rfl⟩
    have hgrant : ∀ id, A.runGrant (restoredUser request.principal.userId request.principal.orgId)
        facts request.now id = A.runGrant request.principal facts request.now id := by
      intro id
      unfold Compiler.runGrant
      rw [dimensionsOf_restoredUser, hdimensions]
      rfl
    have hgrants : sameList CapabilityGrant.same (A.rebuilt request facts).grants
        (A.preparedFrom request facts proposal facts).admissionBundle.grants := by
      show sameList _ [A.runGrant (restoredUser request.principal.userId request.principal.orgId)
        facts request.now _] [_]
      rw [hgrant]
      exact sameList_refl (fun g => ⟨rfl, CapabilityDataScope.same_refl g.dataScope⟩) _
    exact {
      schemaVersion := rfl
      providerMode := rfl
      runtimeBinding := rfl
      admissionId := rfl
      task := rfl
      creationSnapshot := ⟨rfl, rfl⟩
      contract := ⟨rfl, rfl, rfl⟩
      request := ⟨rfl, CapabilityDataScope.same_refl _, rfl⟩
      grants := hgrants
      plan := ⟨rfl, CapabilityDataScope.same_refl _, sameList_refl BusinessPlanStep.same_refl _⟩
      workOrders := rfl
      auditRecord := rfl }

/-- The planner of a request proposes the facts of the caller. -/
def ProposesFacts (A : StripeAdapter) (request : PackRunRequest) (facts : StripePaymentFacts) :
    Prop :=
  ∀ proposal normalized,
    A.proposed request.intentDigest.hex (A.providerFactory facts.inputs) =
      .ok (proposal, normalized) → normalized = facts

end StripeAdapter

section

variable {A : StripeAdapter} {K : RunCodec} {request : PackRunRequest}
  {run : StripeM10PreparedRun} {facts : StripePaymentFacts}

/-- A prepared run is restored from the document of its bundle, to the same reference but for its
opaque payload, if and only if its planner proposed the facts of the caller, and its user does not
decide approvals of payments. -/
theorem prepared_run_restores_iff (hrun : A.prepareRun request = .ok run)
    (hfacts : A.readFacts request.businessInputs.toJson = .ok facts)
    (hround : K.validateBundle (A.process.bundleDump run.admissionBundle) = .ok run.admissionBundle)
    (targetUrl : String) :
    (∃ restored,
      A.restoreRun K ⟨stripeBinding, targetUrl, A.process.bundleDump run.admissionBundle⟩ =
          .ok restored ∧
        { restored with opaquePayload := (A.reference K run).opaquePayload } = A.reference K run) ↔
      A.ProposesFacts request facts ∧ ¬ Adjudicates request.principal := by
  obtain ⟨read, proposal, normalized, h, hprepared⟩ := StripeAdapter.prepareRun_eq_ok.mp hrun
  have hsame : read = facts := Except.ok.inj (h.read.symm.trans hfacts)
  rw [hsame] at h hprepared
  have hproposes : A.ProposesFacts request facts ↔ facts = normalized := by
    constructor
    · intro hall
      exact (hall proposal normalized h.proposes).symm
    · intro heq p n hproposed
      cases h.proposes.symm.trans hproposed
      exact heq.symm
  have hbundle : run.admissionBundle =
      (A.preparedFrom request facts proposal normalized).admissionBundle := by
    rw [hprepared]
  have hlegacy := StripeAdapter.restoreRunLegacy_eq h hbundle targetUrl
  have hiff : (A.rebuilt request facts).Same
      (A.preparedFrom request facts proposal normalized).admissionBundle ↔ _ :=
    StripeAdapter.rebuilt_same_iff
  rw [← hbundle] at hiff
  rw [hproposes, ← dimensionsOf_eq_operator_iff h.executes, and_comm, ← hiff]
  constructor
  · rintro ⟨restored, hrestored, _⟩
    obtain ⟨_, _, hrestored⟩ := except_bind_eq_ok.mp hrestored
    obtain ⟨bundle, hvalidated, hrestored⟩ := except_bind_eq_ok.mp hrestored
    cases hround.symm.trans hvalidated
    obtain ⟨run', hrun', _⟩ := except_bind_eq_ok.mp hrestored
    by_contra hnot
    rw [hlegacy, if_neg hnot] at hrun'
    cases hrun'
  · intro hrebuilt
    rw [if_pos hrebuilt] at hlegacy
    refine ⟨A.reference K (A.restoredFrom run.admissionBundle request facts targetUrl), ?_, ?_⟩
    · exact ensure_bind_of rfl (except_bind_of_ok hround (except_bind_of_ok hlegacy rfl))
    · rw [hprepared]
      rfl

end

/-! ## A user who also decides approvals -/

/-- A validator that gets back the bundle of one run. -/
def sampleCodec (A : StripeAdapter) (run : StripeM10PreparedRun) : RunCodec where
  validateBundle doc :=
    if doc = A.process.bundleDump run.admissionBundle then .ok run.admissionBundle
    else .error invalidDocument
  dumpRun _ := []

theorem sampleCodec_round_trip (A : StripeAdapter) (run : StripeM10PreparedRun) :
    (sampleCodec A run).validateBundle (A.process.bundleDump run.admissionBundle) =
      .ok run.admissionBundle := if_pos rfl

/-- The recorded adapter. -/
def recordedAdapter : StripeAdapter := sampleAdapter deterministicPlanner

theorem recordedAdapter_prepares (principal : UserContext) (horg : principal.orgId = tenantId)
    (hnamed : principal.userId ≠ "")
    (hexecutes : .executeTransition ∈ sampleSetup.dimensionsOf principal) :
    recordedAdapter.Prepares (sampleRequest principal) sampleFacts
      ⟨capabilityId, sampleFacts.inputs⟩ sampleFacts :=
  sampleAdapter_prepares horg hnamed hexecutes sampleFacts_wellFormed rfl

theorem recordedAdapter_proposesFacts {principal : UserContext} :
    recordedAdapter.ProposesFacts (sampleRequest principal) sampleFacts := by
  intro proposal normalized hproposed
  have hdeterministic : recordedAdapter.proposed (sampleRequest principal).intentDigest.hex
      (deterministicPlanner sampleFacts.inputs) =
        .ok (⟨capabilityId, sampleFacts.inputs⟩, sampleFacts) :=
    Compiler.proposed_deterministicPlanner sampleFacts_wellFormed
  cases hdeterministic.symm.trans hproposed
  rfl

theorem sampleOperator_not_adjudicates : ¬ Adjudicates sampleOperator := by
  rintro (happrove | ⟨_, dr, hdr, _, hrole⟩)
  · cases happrove
  · rw [List.mem_singleton.mp hdr] at hrole
    exact absurd hrole (by decide)

theorem prepared_run_restores_iff_sample : ∃ run restored,
    recordedAdapter.prepareRun (sampleRequest sampleOperator) = .ok run ∧
    recordedAdapter.restoreRun (sampleCodec recordedAdapter run) ⟨stripeBinding, "target",
      recordedAdapter.process.bundleDump run.admissionBundle⟩ = .ok restored := by
  have h := recordedAdapter_prepares sampleOperator rfl (by decide)
    sampleOperator_executes
  have hrun := StripeAdapter.prepareRun_eq_ok.mpr ⟨_, _, _, h, rfl⟩
  obtain ⟨restored, hrestored, _⟩ := (prepared_run_restores_iff hrun h.read
    (sampleCodec_round_trip _ _) "target").mpr
      ⟨recordedAdapter_proposesFacts, sampleOperator_not_adjudicates⟩
  exact ⟨_, restored, hrun, hrestored⟩

/-- An operator who is an approver as well. -/
def operatorAndApprover : UserContext :=
  { sampleOperator with departmentRoles :=
      [⟨paymentsDepartmentId, "operator"⟩, ⟨paymentsDepartmentId, "approver"⟩] }

/-- The run of an operator who is an approver as well is prepared, and not restored. -/
theorem approver_run_not_restored : ∃ run,
    recordedAdapter.prepareRun (sampleRequest operatorAndApprover) = .ok run ∧
    recordedAdapter.restoreRun (sampleCodec recordedAdapter run) ⟨stripeBinding, "target",
        recordedAdapter.process.bundleDump run.admissionBundle⟩ =
      .error ⟨.valueError, "Stored Agent Run admission does not match trusted reconstruction"⟩ := by
  have hexecutes : .executeTransition ∈ sampleSetup.dimensionsOf operatorAndApprover := by decide
  have h := recordedAdapter_prepares operatorAndApprover rfl (by decide) hexecutes
  have hrun := StripeAdapter.prepareRun_eq_ok.mpr ⟨_, _, _, h, rfl⟩
  refine ⟨_, hrun, ?_⟩
  have hdifferent : ¬ (recordedAdapter.rebuilt (sampleRequest operatorAndApprover) sampleFacts).Same
      (recordedAdapter.preparedFrom (sampleRequest operatorAndApprover) sampleFacts
        ⟨capabilityId, sampleFacts.inputs⟩ sampleFacts).admissionBundle := by
    rw [StripeAdapter.rebuilt_same_iff]
    rintro ⟨hdimensions, _⟩
    exact absurd hdimensions (by decide)
  have hlegacy := StripeAdapter.restoreRunLegacy_eq h rfl "target"
  rw [if_neg hdifferent] at hlegacy
  refine ensure_bind_of rfl (except_bind_of_ok (sampleCodec_round_trip _ _) ?_)
  exact except_bind_eq_error.mpr (.inl hlegacy)

end Stripe

end AgentPact
