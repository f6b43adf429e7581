import AgentPact.Platform

/-!
# Governance contracts

The vocabulary of governance (`governance/contracts.py`) and the execution
profiles that keep weak mechanisms out of high-impact paths
(`governance/execution_profiles.py`).

A profile carries its fallback rank and the proof that the rank is the one of
its mechanism, as the model validator of the source demands.  Evidence of a
computer-use engine carries the proof that its fields are not empty.
-/

namespace AgentPact

/-! ## Enumerations -/

/-- What an action does outside the agent. -/
inductive ExecutionEffect where
  | none | read | internalWrite | externalWrite
deriving DecidableEq, Repr

/-- The text of an effect. -/
def ExecutionEffect.value : ExecutionEffect → String
  | .none => "none"
  | .read => "read"
  | .internalWrite => "internal_write"
  | .externalWrite => "external_write"

/-- The outcome of a policy decision. -/
inductive DecisionOutcome where
  | allow | requireApproval | deny | needsHuman
deriving DecidableEq, Repr

/-- The status of an execution attempt. -/
inductive ExecutionAttemptStatus where
  | authorized | executing | confirmed | unknown | failed
deriving DecidableEq, Repr

/-- The text of a status. -/
def ExecutionAttemptStatus.value : ExecutionAttemptStatus → String
  | .authorized => "authorized"
  | .executing => "executing"
  | .confirmed => "confirmed"
  | .unknown => "unknown"
  | .failed => "failed"

/-- The risk a policy decision states. -/
inductive RiskLevel where
  | low | medium | high | critical | unknown
deriving DecidableEq, Repr

/-- How far a recovery had to go. -/
inductive RecoveryLevel where
  | l0 | l1 | l2 | l3 | l4
deriving DecidableEq, Repr

/-- The text of a level. -/
def RecoveryLevel.value : RecoveryLevel → String
  | .l0 => "L0"
  | .l1 => "L1"
  | .l2 => "L2"
  | .l3 => "L3"
  | .l4 => "L4"

/-- A deterministic policy result. -/
structure PolicyDecision where
  decisionId : String
  intentId : String
  outcome : DecisionOutcome
  riskLevel : RiskLevel
  reasons : List String
  matchedRules : List String
  policyVersion : String
deriving DecidableEq, Repr

/-- The permit reference a governed handler gets. -/
structure ExecutionAuthorization where
  permitId : String
  actionFingerprint : String
  observationHash : String
  idempotencyKey : String
  effect : ExecutionEffect
deriving DecidableEq, Repr

/-! ## Execution profiles -/

/-- How a browser call reaches its target. -/
inductive ExecutionMechanism where
  | locator | label | coordinate | javascript | cuaCoordinate
deriving DecidableEq, Repr

/-- The rank of a mechanism, `_PROFILE_FALLBACK_RANK`. -/
def ExecutionMechanism.fallbackRank : ExecutionMechanism → Nat
  | .locator => 0
  | .label => 1
  | .coordinate => 2
  | .javascript => 3
  | .cuaCoordinate => 0

/-- A computer-use engine. -/
inductive CUAEngine where
  | openai | anthropic | uiTars
deriving DecidableEq, Repr

/-- Fresh engine evidence bound to one action and one page. -/
structure CUAExecutionEvidence where
  engine : CUAEngine
  actionFingerprint : String
  observationHash : String
  evidenceRefs : List String
  capturedAt : DateTime
  /-- `min_length=1` on the fingerprint, the hash and the references. -/
  nonempty : actionFingerprint ≠ "" ∧ observationHash ≠ "" ∧ evidenceRefs ≠ []
deriving DecidableEq

/-- The weakest mechanism an attempt may reach. -/
structure ExecutionProfile where
  mechanism : ExecutionMechanism
  fallbackRank : Nat
  evidenceRefs : List String
  /-- `validate_fallback_rank`. -/
  rank_eq : fallbackRank = mechanism.fallbackRank
deriving DecidableEq

/-- A locator is no fallback. -/
theorem ExecutionMechanism.locator_rank : 0 = locator.fallbackRank := rfl

/-- Whether a profile may carry an effect, and why not. -/
structure ProfileDecision where
  allowed : Bool
  requiresReobservation : Bool
  reason : String
deriving DecidableEq, Repr

/-- The mechanisms too weak for an external commit. -/
def ExecutionMechanism.weak : ExecutionMechanism → Bool
  | .coordinate | .javascript | .cuaCoordinate => true
  | .locator | .label => false

/-- `CUA_EVIDENCE_MAX_AGE`. -/
def cuaEvidenceMaxAge : Int := 30 * DateTime.second

/-- `decide_profile`. -/
def decideProfile (effect : ExecutionEffect) (profile : ExecutionProfile) : ProfileDecision :=
  if effect = .externalWrite ∧ profile.mechanism.weak then
    ⟨false, true, "Weak fallback cannot auto-cross an external commit boundary"⟩
  else if profile.evidenceRefs = [] then
    ⟨false, true, "ExecutionProfile requires evidence references"⟩
  else
    ⟨true, false, "ExecutionProfile is policy-eligible"⟩

/-- `require_allowed_profile`. -/
def requireAllowedProfile (effect : ExecutionEffect) (profile : ExecutionProfile) :
    Except Raised ProfileDecision :=
  let decision := decideProfile effect profile
  if decision.allowed then .ok decision
  else .error ⟨.executionProfileRejected, decision.reason⟩

/-- `require_cua_execution_evidence`, at the instant `current`. -/
def requireCuaExecutionEvidence (profile : ExecutionProfile)
    (evidence : Option CUAExecutionEvidence) (actionFingerprint observationHash : String)
    (current : DateTime) : Except Raised Unit :=
  if profile.mechanism ≠ .cuaCoordinate then
    match evidence with
    | some _ => .error ⟨.executionProfileRejected,
        "CUA evidence cannot authorize a non-CUA execution profile"⟩
    | none => .ok ()
  else
    match evidence with
    | none => .error ⟨.executionProfileRejected,
        "CUA execution profile requires fresh engine evidence"⟩
    | some evidence => do
        unless ← compareBoth evidence.actionFingerprint actionFingerprint
            evidence.observationHash observationHash do
          throw ⟨.executionProfileRejected,
            "CUA engine evidence does not match the authorized Action and observation"⟩
        let captured := evidence.capturedAt.asUtc
        if ← (← current.add (5 * DateTime.second)).lt captured then
          throw ⟨.executionProfileRejected, "CUA engine evidence timestamp is in the future"⟩
        if (← current.sub captured) > cuaEvidenceMaxAge then
          throw ⟨.executionProfileRejected,
            "CUA engine evidence is stale and requires fresh observation"⟩

/-- A profile that was allowed names evidence, and is strong if the effect is external. -/
theorem decideProfile_allowed {effect : ExecutionEffect} {profile : ExecutionProfile} :
    (decideProfile effect profile).allowed = true ↔
      profile.evidenceRefs ≠ [] ∧ (effect = .externalWrite → profile.mechanism.weak = false) := by
  unfold decideProfile
  by_cases hweak : effect = .externalWrite ∧ profile.mechanism.weak
  · simp [hweak]
  · by_cases hrefs : profile.evidenceRefs = []
    · simp [hweak, hrefs]
    · simp only [hweak, hrefs, if_false, true_iff]
      exact ⟨hrefs, fun he => by simpa [he] using hweak⟩

theorem requireAllowedProfile_eq_ok {effect : ExecutionEffect} {profile : ExecutionProfile}
    {d : ProfileDecision} : requireAllowedProfile effect profile = .ok d ↔
      (decideProfile effect profile).allowed = true ∧ d = decideProfile effect profile := by
  simp only [requireAllowedProfile]
  split
  case isTrue h => simp [h, eq_comm]
  case isFalse h => simp [h]

end AgentPact
