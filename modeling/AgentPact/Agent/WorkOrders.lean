import Mathlib.Data.Finset.Sort
import Mathlib.Data.Multiset.Count
import Mathlib.Data.String.Basic
import AgentPact.Governance.Capabilities
import AgentPact.Governance.Contracts

/-!
# Plans and work orders

`agent/work_orders.py`: the plan of a business task, the work orders that carry
its steps out, and the comparison of a plan with the one it should replace.

A step stands in a plan as it was proposed.  Two steps are the same if their
canonical documents are, and they have the same authority if these are the same
without the step's own id.
-/

namespace AgentPact

/-! ## Plans -/

/-- A step of a plan, bound to a capability. -/
structure BusinessPlanStep where
  stepId : String
  capabilityId : String
  capabilityVersion : Option String
  grantId : String
  contractId : String
  inputs : JsonDict
  expectedTransition : JsonDict
  successCriteria : List String
deriving DecidableEq

namespace BusinessPlanStep

/-- `model_dump(mode="json", exclude={"step_id"})`. -/
def authority (s : BusinessPlanStep) : List (String × Json) :=
  [("capability_id", .str s.capabilityId),
    ("capability_version", .ofOption .str s.capabilityVersion),
    ("grant_id", .str s.grantId),
    ("contract_id", .str s.contractId),
    ("inputs", s.inputs.toJson),
    ("expected_transition", s.expectedTransition.toJson),
    ("success_criteria", .arr (s.successCriteria.map .str))]

/-- `model_dump(mode="json")`. -/
def modelDump (s : BusinessPlanStep) : Json := .obj (("step_id", .str s.stepId) :: s.authority)

/-- `_step_authority_digest`. -/
def authorityDigest (s : BusinessPlanStep) : Json := (Json.obj s.authority).canonical

/-- `==`. -/
def same (a b : BusinessPlanStep) : Prop :=
  a.stepId = b.stepId ∧ a.capabilityId = b.capabilityId ∧
    a.capabilityVersion = b.capabilityVersion ∧ a.grantId = b.grantId ∧
    a.contractId = b.contractId ∧ a.inputs.same b.inputs ∧
    a.expectedTransition.same b.expectedTransition ∧ a.successCriteria = b.successCriteria

instance (a b : BusinessPlanStep) : Decidable (a.same b) := by
  unfold same
  infer_instance

end BusinessPlanStep

/-- Why a plan replaces another. -/
inductive ReplanReason where
  | businessStateChanged | inputClarification | policyOrPermissionChanged | executionFailure
deriving DecidableEq, Repr

/-- A plan. -/
structure BusinessPlan where
  planId : String
  requestId : Option String
  taskId : String
  contractId : String
  dataScope : CapabilityDataScope
  version : Int
  replanReason : Option ReplanReason
  steps : List BusinessPlanStep
deriving DecidableEq

/-- What a step is carried out with. -/
structure ExecutionWorkOrder where
  workOrderId : String
  businessPlanStepId : String
  taskId : String
  contractId : String
  planTaskId : Option String
  authorityContractId : Option String
  grantId : String
  navigationGoal : String
  allowedOperations : Finset String
  prohibitedOperations : Finset String
  successCriteria : List String
  requiredEvidence : List String
  maxRecoveryLevel : RecoveryLevel
  resultProbeRef : String
deriving DecidableEq

/-! ## Sorted texts -/

instance text_trans : IsTrans String (· ≤ ·) := inferInstanceAs (IsTrans String LE.le)

instance text_antisymm : Std.Antisymm (fun a b : String => a ≤ b) :=
  inferInstanceAs (Std.Antisymm (α := String) LE.le)

namespace ExecutionWorkOrder

/-- The task a work order is bound to: that of its plan, where it has another of its own. -/
def boundTask (w : ExecutionWorkOrder) : String := w.planTaskId.getD w.taskId

/-- The contract a work order is bound to. -/
def boundContract (w : ExecutionWorkOrder) : String := w.authorityContractId.getD w.contractId

/-- `sorted` of a set. -/
def sortedText (s : Finset String) : String :=
  "[" ++ ", ".intercalate ((s.sort (· ≤ ·)).map fun x => "'" ++ x ++ "'") ++ "]"

/-- `validate_boundaries`. -/
def validateBoundaries (w : ExecutionWorkOrder) : Except Raised Unit := do
  ensure (w.allowedOperations ∩ w.prohibitedOperations = ∅)
    ⟨.valueError, "Work Order operations cannot be both allowed and prohibited: " ++
      sortedText (w.allowedOperations ∩ w.prohibitedOperations)⟩
  ensure (w.resultProbeRef ≠ "") ⟨.valueError, "ExecutionWorkOrder requires a result_probe_ref"⟩

end ExecutionWorkOrder

/-! ## Validation -/

/-- Check the steps of a plan one by one. -/
def validateSteps (contractId : String) (grants : CapabilityGrantSet) (now : DateTime) :
    List BusinessPlanStep → Except Raised Unit
  | [] => .ok ()
  | step :: steps => do
      ensure (step.contractId = contractId)
        ⟨.valueError, "BusinessPlanStep contract_id must match the BusinessPlan contract_id"⟩
      let _ ← grants.requireExecutable step.capabilityId step.grantId now
      validateSteps contractId grants now steps

/-- `validate_business_plan`. -/
def validateBusinessPlan (plan : BusinessPlan) (grants : CapabilityGrantSet) (now : DateTime) :
    Except Raised Unit := validateSteps plan.contractId grants now plan.steps

/-- Check that a work order is bound to the task of its plan. -/
def validateTaskBinding (w : ExecutionWorkOrder) (plan : BusinessPlan) : Except Raised Unit :=
  match w.planTaskId with
  | none => ensure (w.taskId = plan.taskId)
      ⟨.valueError, "Work Order task_id must match the originating BusinessPlan task_id"⟩
  | some planTaskId => ensure (planTaskId = plan.taskId)
      ⟨.valueError, "Work Order plan_task_id must match the originating BusinessPlan task_id"⟩

/-- Check that a work order is bound to the contract of its plan and of its step. -/
def validateContractBinding (w : ExecutionWorkOrder) (plan : BusinessPlan)
    (step : BusinessPlanStep) : Except Raised Unit :=
  match w.authorityContractId with
  | none => do
      ensure (w.contractId = plan.contractId)
        ⟨.valueError, "Work Order contract_id must match the originating BusinessPlan contract_id"⟩
      ensure (w.contractId = step.contractId)
        ⟨.valueError, "Work Order contract_id must match the BusinessPlanStep contract_id"⟩
  | some authorityContractId =>
      ensure (authorityContractId = plan.contractId ∧ authorityContractId = step.contractId)
        ⟨.valueError,
          "Work Order authority_contract_id must match the BusinessPlan authority contract"⟩

/-- `validate_work_order`. -/
def validateWorkOrder (w : ExecutionWorkOrder) (plan : BusinessPlan) (step : BusinessPlanStep)
    (grants : CapabilityGrantSet) (now : DateTime) : Except Raised Unit := do
  validateTaskBinding w plan
  ensure (w.businessPlanStepId = step.stepId)
    ⟨.valueError, "Work Order must reference its originating BusinessPlanStep"⟩
  ensure (∃ s ∈ plan.steps, s.same step)
    ⟨.valueError, "Work Order step must belong to the originating BusinessPlan"⟩
  validateContractBinding w plan step
  ensure (w.grantId = step.grantId)
    ⟨.valueError, "Work Order grant_id must match the BusinessPlanStep grant_id"⟩
  let _ ← grants.requireExecutable step.capabilityId step.grantId now
  w.validateBoundaries

/-! ## Replanning -/

/-- The result of comparing a proposed plan with the one before it. -/
structure ReplanAssessment where
  requiresReauthorization : Bool
  invalidatedContractIds : Finset String
  invalidatedGrantIds : Finset String
  completedPrefixLength : Int
  acceptedSuffixStepIds : List String
  reasons : List String
deriving DecidableEq

/-- `_scope_expands` of `work_orders.py`: an empty set of resources contains no resource. -/
def CapabilityDataScope.expandsFrom (previous proposed : CapabilityDataScope) : Bool :=
  decide (previous.departmentId ≠ proposed.departmentId) ||
  decide (previous.businessLineId ≠ proposed.businessLineId) ||
  !decide (proposed.resourceIds ⊆ previous.resourceIds) ||
  proposed.attributes.fields.any fun f => (previous.attributes.get f.1).value ≠ f.2.value

/-- Whether a proposed plan keeps a completed prefix: as many steps, and the same ones. -/
def keepsPrefix (k : Nat) (previous proposed : List BusinessPlanStep) : Bool :=
  (proposed.take k).length = (previous.take k).length &&
    ((previous.take k).zip (proposed.take k)).all fun p =>
      p.1.modelDump.canonical = p.2.modelDump.canonical

/-- `Counter` of the authorities of some steps. -/
def authorities (steps : List BusinessPlanStep) : Multiset Json :=
  steps.map BusinessPlanStep.authorityDigest

/-- Why a proposed plan does not replace the rest of another, after `k` completed steps. -/
def suffixReplanReasons (previous proposed : BusinessPlan) (k : Nat) : List String :=
  (if proposed.version = previous.version + 1 then [] else
    ["Proposed plan version is not the direct successor"]) ++
  (if previous.taskId = proposed.taskId then [] else ["Plan-root Task changed"]) ++
  (if previous.contractId = proposed.contractId then [] else ["Task contract changed"]) ++
  (if previous.dataScope.expandsFrom proposed.dataScope ||
      proposed.dataScope.expandsFrom previous.dataScope then ["Data scope changed"] else []) ++
  (if keepsPrefix k previous.steps proposed.steps then [] else ["Completed prefix changed"]) ++
  (if authorities (proposed.steps.drop k) - authorities (previous.steps.drop k) = 0 then [] else
    ["Replacement suffix expands business authority or inputs"])

/-- `assess_suffix_replan`. -/
def assessSuffixReplan (previous proposed : BusinessPlan) (completedPrefixLength : Int) :
    Except Raised ReplanAssessment := do
  ensure (0 ≤ completedPrefixLength ∧ completedPrefixLength ≤ previous.steps.length)
    ⟨.valueError, "Completed prefix length is outside the previous plan"⟩
  let k := completedPrefixLength.toNat
  let reasons := suffixReplanReasons previous proposed k
  pure {
    requiresReauthorization := reasons ≠ []
    invalidatedContractIds := if reasons = [] then ∅ else {previous.contractId}
    invalidatedGrantIds :=
      if reasons = [] then ∅ else ((previous.steps.drop k).map (·.grantId)).toFinset
    completedPrefixLength := completedPrefixLength
    acceptedSuffixStepIds :=
      if reasons = [] then (proposed.steps.drop k).map (·.stepId) else []
    reasons := reasons }

end AgentPact
