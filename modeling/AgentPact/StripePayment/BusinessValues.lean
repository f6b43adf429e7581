import AgentPact.StripePayment.ExactlyOnce
import AgentPact.StripePayment.Preparation

/-!
# Whose values a Stripe run carries

The bundle of a prepared run carries the PaymentIntent, the amount and the
currency in its plan, its request and its scopes.  The scopes and the request
take them from the caller.  The step of the plan takes them from the proposal of
the planner, and nothing compares the two.
-/

namespace AgentPact

namespace Stripe

open Admission

/-- Facts with the same PaymentIntent, amount and currency. -/
structure StripePaymentFacts.SameValues (a b : StripePaymentFacts) : Prop where
  intent : a.paymentIntentId = b.paymentIntentId
  amount : a.amountMinor = b.amountMinor
  currency : a.currency = b.currency

/-- Inputs have the values of facts. -/
structure StripePaymentFacts.ValuesIn (f : StripePaymentFacts) (inputs : JsonDict) : Prop where
  intent : inputs.get "payment_intent_id" = .str f.paymentIntentId
  amount : inputs.get "amount_minor" = .num f.amountMinor
  currency : inputs.get "currency" = .str f.currency.value

theorem AllowedCurrency.value_injective {a b : AllowedCurrency} (h : a.value = b.value) :
    a = b := by
  revert h
  cases a <;> cases b <;> decide

/-- The inputs of facts have the values of other facts if the facts have the same ones. -/
theorem valuesIn_inputs {f n : StripePaymentFacts} : f.ValuesIn n.inputs ↔ n.SameValues f := by
  have hintent : n.inputs.get "payment_intent_id" = .str n.paymentIntentId := rfl
  have hamount : n.inputs.get "amount_minor" = .num n.amountMinor := rfl
  have hcurrency : n.inputs.get "currency" = .str n.currency.value := rfl
  constructor
  · intro h
    exact ⟨Json.str.inj (hintent.symm.trans h.intent), Json.num.inj (hamount.symm.trans h.amount),
      AllowedCurrency.value_injective (Json.str.inj (hcurrency.symm.trans h.currency))⟩
  · rintro ⟨hi, ha, hc⟩
    exact ⟨by rw [hintent, hi], by rw [hamount, ha], by rw [hcurrency, hc]⟩

/-- A bundle carries the values of facts wherever it carries any. -/
structure CarriesValues (f : StripePaymentFacts) (b : Admission.TaskAdmissionBundle) : Prop where
  steps : ∀ step ∈ b.plan.steps, f.ValuesIn step.inputs
  typed : f.ValuesIn b.request.typedInputs
  resources : b.request.resourceRefs = {f.paymentIntentId}
  requested : b.request.requestedScope.resourceIds = {f.paymentIntentId}
  planned : b.plan.dataScope.resourceIds = {f.paymentIntentId}
  granted : ∀ g ∈ b.grants, g.dataScope.resourceIds = {f.paymentIntentId}
  contracted : b.contract.dataScope.get "resource_ids" = .arr [.str f.paymentIntentId]

/-- The planner of a request proposes the values of the caller. -/
def StripeAdapter.ProposesValues (A : StripeAdapter) (request : PackRunRequest)
    (facts : StripePaymentFacts) : Prop :=
  ∀ proposal normalized,
    A.proposed request.intentDigest.hex (A.providerFactory facts.inputs) =
      .ok (proposal, normalized) → normalized.SameValues facts

variable {A : StripeAdapter} {request : PackRunRequest} {run : StripeM10PreparedRun}
  {facts : StripePaymentFacts}

/-- The bundle of a prepared run carries the values of the caller, but for the inputs of its step,
which are those that were proposed. -/
theorem carriesValues_preparedFrom (proposal : PlannerProposal) (normalized : StripePaymentFacts) :
    CarriesValues facts (A.preparedFrom request facts proposal normalized).admissionBundle ↔
      normalized.SameValues facts := by
  have hiterate : A.process.iterate {facts.paymentIntentId} = [facts.paymentIntentId] :=
    Multiset.coe_eq_singleton.mp (A.iterates {facts.paymentIntentId})
  constructor
  · intro h
    exact valuesIn_inputs.mp (h.steps _ (List.mem_singleton_self _))
  · intro h
    refine ⟨?_, valuesIn_inputs.mpr ⟨rfl, rfl, rfl⟩, rfl, rfl, rfl, ?_, ?_⟩
    · intro step hstep
      rw [List.mem_singleton.mp hstep]
      exact valuesIn_inputs.mpr h
    · intro g hg
      rw [List.mem_singleton.mp hg]
      rfl
    · show Json.arr ((A.process.iterate {facts.paymentIntentId}).map .str) = _
      rw [hiterate]
      rfl

/-- A prepared run carries the values of the caller if and only if the planner proposes them. -/
theorem prepared_values_from_caller_iff (hrun : A.prepareRun request = .ok run)
    (hfacts : A.readFacts request.businessInputs.toJson = .ok facts) :
    CarriesValues facts run.admissionBundle ↔ A.ProposesValues request facts := by
  obtain ⟨read, proposal, normalized, h, rfl⟩ := StripeAdapter.prepareRun_eq_ok.mp hrun
  have hsame : read = facts := Except.ok.inj (h.read.symm.trans hfacts)
  rw [hsame] at h ⊢
  rw [carriesValues_preparedFrom]
  constructor
  · intro hvalues p n hproposed
    cases h.proposes.symm.trans hproposed
    exact hvalues
  · intro hproposes
    exact hproposes proposal normalized h.proposes

/-! ## A planner with values of its own -/

/-- A compiler for the examples. -/
def sampleCompiler : Compiler where
  process := ⟨writingPlatform, fun s => s.sort (· ≤ ·), fun text => text⟩
  setup := sampleSetup
  loads _ := none
  laxInt
    | .num n => some n
    | .bool b => some (if b then 1 else 0)
    | _ => none
  iterates s := s.sort_eq (· ≤ ·)
  laxInt_num _ := rfl

/-- An adapter with a planner. -/
def sampleAdapter (providerFactory : JsonDict → ConstrainedPlanner) : StripeAdapter where
  toCompiler := sampleCompiler
  providerMode := "recorded"
  providerFactory := providerFactory
  resolvedId id := "capgrant_" ++ id

/-- A request for the payment of the examples. -/
def sampleRequest (principal : UserContext) : PackRunRequest where
  tenantId := tenantId
  requestId := "request"
  intentDigest := .zero
  businessInputs := sampleFacts.inputs
  targetUrl := "target"
  principal := principal
  now := .utc 86400000000
  tenantId_ne := by decide
  requestId_ne := by decide

/-- The operator of the examples. -/
def sampleOperator : UserContext := account "stripe_operator" paymentsDepartmentId "operator"

/-- A payment of another amount. -/
def otherFacts : StripePaymentFacts :=
  ⟨"pi_2", none, 90000, .usd, "", 1, by decide, sampleVersion_pos⟩

theorem sampleFacts_wellFormed : sampleFacts.WellFormed := by decide

theorem otherFacts_wellFormed : otherFacts.WellFormed := by decide

theorem sampleTime_inRange : InRange (.utc 86400000000) := ⟨by decide, by decide⟩

/-- A deterministic planner prepares the run of a request, whatever facts it proposes. -/
theorem sampleAdapter_prepares {principal : UserContext} (horg : principal.orgId = tenantId)
    (hnamed : principal.userId ≠ "")
    (hexecutes : .executeTransition ∈ sampleSetup.dimensionsOf principal)
    {providerFactory : JsonDict → ConstrainedPlanner} {n : StripePaymentFacts} (hn : n.WellFormed)
    (hfactory : providerFactory sampleFacts.inputs = deterministicPlanner n.inputs) :
    (sampleAdapter providerFactory).Prepares (sampleRequest principal) sampleFacts
      ⟨capabilityId, n.inputs⟩ n where
  read := Compiler.readFacts_modelDump sampleFacts_wellFormed
  tenant := horg
  named := hnamed
  range := sampleTime_inRange
  executes := hexecutes
  proposes := by
    show (sampleAdapter providerFactory).proposed _ (providerFactory sampleFacts.inputs) = _
    rw [hfactory]
    exact Compiler.proposed_deterministicPlanner hn

theorem sampleOperator_executes :
    .executeTransition ∈ sampleSetup.dimensionsOf sampleOperator := by decide

theorem prepared_values_from_caller_iff_sample : ∃ run,
    (sampleAdapter deterministicPlanner).prepareRun (sampleRequest sampleOperator) = .ok run ∧
      CarriesValues sampleFacts run.admissionBundle := by
  have h : (sampleAdapter deterministicPlanner).Prepares _ _ _ _ :=
    sampleAdapter_prepares rfl (by decide) sampleOperator_executes sampleFacts_wellFormed rfl
  have hrun := StripeAdapter.prepareRun_eq_ok.mpr ⟨_, _, _, h, rfl⟩
  refine ⟨_, hrun, (prepared_values_from_caller_iff hrun h.read).mpr ?_⟩
  intro proposal normalized hproposed
  cases h.proposes.symm.trans hproposed
  exact ⟨rfl, rfl, rfl⟩

/-- The amount of another payment, which the planner proposes, is in the plan. -/
theorem planner_supplies_amount : ∃ run,
    (sampleAdapter fun _ => deterministicPlanner otherFacts.inputs).prepareRun
        (sampleRequest sampleOperator) = .ok run ∧
      (∃ step ∈ run.admissionBundle.plan.steps,
        step.inputs.get "amount_minor" = .num 90000 ∧
          step.inputs.get "payment_intent_id" = .str "pi_2") ∧
      ¬ CarriesValues sampleFacts run.admissionBundle := by
  have h : (sampleAdapter fun _ => deterministicPlanner otherFacts.inputs).Prepares _ _ _ _ :=
    sampleAdapter_prepares rfl (by decide) sampleOperator_executes otherFacts_wellFormed rfl
  refine ⟨_, StripeAdapter.prepareRun_eq_ok.mpr ⟨_, _, _, h, rfl⟩,
    ⟨_, List.mem_singleton_self _, rfl, rfl⟩, ?_⟩
  rw [carriesValues_preparedFrom]
  intro hvalues
  exact absurd hvalues.amount (by decide)

end Stripe

end AgentPact
