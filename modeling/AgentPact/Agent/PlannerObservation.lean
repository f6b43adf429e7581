import Mathlib.Algebra.Order.Ring.Rat
import AgentPact.Platform

/-!
# What is observed of the planner

`PlannerUsage` and `PlannerObservation` of `agent/constrained_planner.py`: what trusted
code records of a call of the planner.  The bounds that the model checks are fields.

Durations are rational numbers of milliseconds.
-/

namespace AgentPact

/-- The tokens of a call. -/
structure PlannerUsage where
  promptTokens : Option Nat
  completionTokens : Option Nat
  totalTokens : Option Nat
deriving DecidableEq

/-- `model_dump(mode="json")`. -/
def PlannerUsage.modelDump (u : PlannerUsage) : Json :=
  .obj [("prompt_tokens", .ofOption (fun n : Nat => .num n) u.promptTokens),
    ("completion_tokens", .ofOption (fun n : Nat => .num n) u.completionTokens),
    ("total_tokens", .ofOption (fun n : Nat => .num n) u.totalTokens)]

/-- What became of the output of the planner. -/
inductive PlannerDisposition where
  | accepted | repaired | rejected
deriving DecidableEq, Repr

/-- The text of a disposition. -/
def PlannerDisposition.value : PlannerDisposition → String
  | .accepted => "accepted"
  | .repaired => "repaired"
  | .rejected => "rejected"

/-- `disposition.upper()`. -/
def PlannerDisposition.upper : PlannerDisposition → String
  | .accepted => "ACCEPTED"
  | .repaired => "REPAIRED"
  | .rejected => "REJECTED"

/-- `Field(ge=0, le=3_600_000)`. -/
def DurationBound (d : Option Rat) : Prop := ∀ x ∈ d, 0 ≤ x ∧ x ≤ 3600000

/-- An observation of the planner. -/
structure PlannerObservation where
  providerMode : String
  disposition : PlannerDisposition
  codes : List String
  providerCalls : Nat
  repairCount : Nat
  durationMs : Option Rat
  providerDurationMs : Option Rat
  usage : Option PlannerUsage
  mode_known : providerMode ∈ ["recorded", "live"]
  providerCalls_le : providerCalls ≤ 2
  repairCount_le : repairCount ≤ 1
  durationMs_bound : DurationBound durationMs
  providerDurationMs_bound : DurationBound providerDurationMs

/-- `model_dump(mode="json")`. -/
def PlannerObservation.modelDump (o : PlannerObservation) : Json :=
  .obj [("schema_version", .str "agentpact.planner-observation/v1"),
    ("provider_mode", .str o.providerMode), ("disposition", .str o.disposition.value),
    ("codes", .arr (o.codes.map .str)), ("provider_calls", .num o.providerCalls),
    ("repair_count", .num o.repairCount), ("duration_ms", .ofOption .real o.durationMs),
    ("provider_duration_ms", .ofOption .real o.providerDurationMs),
    ("usage", .ofOption PlannerUsage.modelDump o.usage)]

end AgentPact
