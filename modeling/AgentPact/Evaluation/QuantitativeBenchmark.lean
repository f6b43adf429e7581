import Mathlib.Algebra.Order.BigOperators.Group.List
import Mathlib.Data.List.Sort
import Mathlib.Data.String.Basic
import AgentPact.Base.Binary64
import AgentPact.Base.Grouping
import AgentPact.Platform

/-!
# The quantitative benchmark

Case records and their aggregation (`evaluation/quantitative_benchmark.py`).

A rate is kept as a count and its denominator; the float that the source stores
beside them is a function of the two (`CountRateMetric.rate`), and it passes the
check that the source makes of it (`CountRateMetric.rate_passes`).  The other
floats, of latencies and costs, are computed as the source computes them, with
binary64 rounding.  No count depends on them, but they can raise.
-/

namespace AgentPact

open Base

namespace Benchmark

/-! ## Records -/

/-- An arm of a comparison. -/
inductive Arm where
  | g | b0 | b1
deriving DecidableEq, Repr

/-- The codes of hard-gate violations. -/
inductive HardGateCode where
  | unauthorizedEffect | staleObservationExecution | approvalBypass | duplicateEffect
  | unknownReplay | secretOrDataLeak | crossArmContamination | environmentFault
deriving DecidableEq, Repr

instance neZero_two : NeZero 2 := ⟨by decide⟩

/-- Opportunity flags, each 0 or 1. -/
structure CaseOpportunity where
  business : Fin 2
  unsafeEffect : Fin 2
  unknown : Fin 2
  recovery : Fin 2
  audit : Fin 2
deriving DecidableEq

/-- A hard-gate violation. -/
structure HardGateViolation where
  code : HardGateCode
  eventCount : Nat
  positive : 1 ≤ eventCount

instance : DecidableEq HardGateViolation := fun a b =>
  decidable_of_iff (a.code = b.code ∧ a.eventCount = b.eventCount)
    ⟨fun ⟨hcode, hcount⟩ => by cases a; cases b; cases hcode; cases hcount; rfl,
      fun h => h ▸ ⟨rfl, rfl⟩⟩

/-- An observation of events out of a number of chances. -/
structure CountObservation where
  eventCount : Nat
  denominator : Nat
  le : eventCount ≤ denominator
deriving DecidableEq

/-- The safety events of a case. -/
structure SafetyObservations where
  unauthorizedEffect : CountObservation
  staleObservationExecution : CountObservation
  approvalBypass : CountObservation
  duplicateEffect : CountObservation
deriving DecidableEq

/-- The recovery of a case. -/
structure RecoveryObservation where
  category : String
  succeeded : Bool
  latencyMs : Nat
  probeRequired : Bool
  probeResolved : Option Bool
  duplicateEffect : CountObservation
  applicable : probeRequired = probeResolved.isSome
deriving DecidableEq

/-- The result of a case. -/
structure BenchmarkCaseResult where
  caseId : String
  corpusVersion : String
  packId : String
  packVersion : String
  platformVersion : String
  providerMode : String
  modelVersion : Option String
  browserRuntimeVersion : Option String
  taskSuccess : Bool
  businessStateCorrect : Bool
  firstActionHit : Option Bool
  incorrectAction : Bool
  unknownStopped : Option Bool
  evidenceComplete : Bool
  actionCount : Nat
  latencyMs : Nat
  modelCost : Rat
  safety : SafetyObservations
  recovery : Option RecoveryObservation
  acted : firstActionHit.isSome = true → actionCount ≠ 0
  costed : 0 ≤ modelCost
deriving DecidableEq

/-! ## Metrics -/

/-- A count and its denominator. -/
structure CountRateMetric where
  eventCount : Nat
  denominator : Nat
  le : eventCount ≤ denominator
deriving DecidableEq

/-- The rate that is stored with a count. -/
def CountRateMetric.rate (m : CountRateMetric) : Option Rat :=
  if m.denominator = 0 then none else Binary64.quotient m.eventCount m.denominator

/-- The rate of a count with a denominator is between 0 and 1. -/
theorem CountRateMetric.rate_passes {m : CountRateMetric} (h : m.denominator ≠ 0) :
    ∃ q, m.rate = some q ∧ 0 ≤ q ∧ q ≤ 1 := by
  rw [rate, if_neg h]
  exact Binary64.quotient_le_one (Nat.pos_of_ne_zero h) m.le

/-- `_count_rate(0, 0)`. -/
def CountRateMetric.zero : CountRateMetric := ⟨0, 0, le_rfl⟩

/-- `LatencyMetrics`. -/
structure LatencyMetrics where
  sampleCount : Nat
  averageMs : Rat
  p50Ms : Rat
  p95Ms : Rat
  ordered : p50Ms ≤ p95Ms
deriving DecidableEq

/-- The latencies of no case. -/
def LatencyMetrics.zero : LatencyMetrics := ⟨0, 0, 0, 0, le_rfl⟩

/-- `CostMetrics`. -/
structure CostMetrics where
  sampleCount : Nat
  totalModelCost : Rat
  averageModelCost : Rat
deriving DecidableEq

/-- The counts of `OutcomeMetrics`. -/
structure OutcomeCounts where
  taskSuccess : CountRateMetric
  businessStateCorrectness : CountRateMetric
  firstActionHit : CountRateMetric
  incorrectAction : CountRateMetric
  unknownStop : CountRateMetric
  auditCompleteness : CountRateMetric
  safeBusinessCompletion : Option CountRateMetric
  totalActionCount : Nat
deriving DecidableEq

/-- `OutcomeMetrics`. -/
structure OutcomeMetrics extends OutcomeCounts where
  averageActionCount : Rat
deriving DecidableEq

/-- `SafetyMetrics`. -/
structure SafetyMetrics where
  unauthorizedEffect : CountRateMetric
  staleObservationExecution : CountRateMetric
  approvalBypass : CountRateMetric
  duplicateEffect : CountRateMetric
deriving DecidableEq

/-- The counts of `RecoveryCategoryMetrics`, but for the number of latencies. -/
structure RecoveryCategoryCounts where
  category : String
  caseCount : Nat
  success : CountRateMetric
  probeResolution : CountRateMetric
  duplicateEffect : CountRateMetric
deriving DecidableEq

/-- `RecoveryCategoryMetrics`. -/
structure RecoveryCategoryMetrics extends RecoveryCategoryCounts where
  latency : LatencyMetrics
deriving DecidableEq

/-- `RecoveryMetrics`. -/
structure RecoveryMetrics where
  caseCount : Nat
  success : CountRateMetric
  probeResolution : CountRateMetric
  duplicateEffect : CountRateMetric
  byCategory : List RecoveryCategoryMetrics
deriving DecidableEq

/-- `BenchmarkDimensions`. -/
structure BenchmarkDimensions where
  corpusVersions : List String
  packIds : List String
  packVersions : List (String × String)
  platformVersions : List String
  providerModes : List String
  modelVersions : List String
  browserRuntimeVersions : List String
  distinctPackCount : Nat
  distinctPackVersionCount : Nat
  distinctPlatformVersionCount : Nat
deriving DecidableEq

/-- `OpportunityMetrics`. -/
structure OpportunityMetrics where
  business : CountRateMetric
  unsafeEffect : CountRateMetric
  unknown : CountRateMetric
  recovery : CountRateMetric
  audit : CountRateMetric
deriving DecidableEq

/-- `ArmMetrics`. -/
structure ArmMetrics where
  arm : Arm
  sampleCount : Nat
  safeBusinessCompletion : CountRateMetric
  opportunities : OpportunityMetrics
deriving DecidableEq

/-- `ProtocolMetrics`. -/
structure ProtocolMetrics where
  protocolByArm : List ArmMetrics
  validPairCount : Nat
  invalidPairCount : Nat
deriving DecidableEq

/-- `QuantitativeBenchmarkReport`. -/
structure QuantitativeBenchmarkReport where
  schemaVersion : String
  sampleCount : Nat
  dimensions : BenchmarkDimensions
  outcomes : OutcomeMetrics
  safety : SafetyMetrics
  recovery : RecoveryMetrics
  latency : LatencyMetrics
  cost : CostMetrics
  protocol : Option ProtocolMetrics
  protocolByArm : Option (List ArmMetrics)
  opportunities : Option OpportunityMetrics
deriving DecidableEq

/-! ## Checks -/

/-- A value that does not fit its model. -/
def invalid (model : String) : Raised := ⟨.validationError, model⟩

namespace RecoveryCategoryMetrics

/-- `validate_category_denominators`. -/
def Valid (m : RecoveryCategoryMetrics) : Prop :=
  1 ≤ m.caseCount ∧ m.success.denominator = m.caseCount ∧ m.latency.sampleCount = m.caseCount ∧
    m.probeResolution.denominator ≤ m.caseCount

instance (m : RecoveryCategoryMetrics) : Decidable m.Valid := inferInstanceAs (Decidable (_ ∧ _))

end RecoveryCategoryMetrics

namespace RecoveryMetrics

/-- The counts of the categories add up to a count. -/
def addsUp (m : RecoveryMetrics) (overall : CountRateMetric)
    (grouped : RecoveryCategoryMetrics → CountRateMetric) : Bool :=
  overall.eventCount = (m.byCategory.map fun c => (grouped c).eventCount).sum &&
    overall.denominator = (m.byCategory.map fun c => (grouped c).denominator).sum

/-- `validate_recovery_denominators`. -/
def Valid (m : RecoveryMetrics) : Prop :=
  m.success.denominator = m.caseCount ∧ m.probeResolution.denominator ≤ m.caseCount ∧
    (m.byCategory.map (·.caseCount)).sum = m.caseCount ∧ (m.byCategory.map (·.category)).Nodup ∧
    m.addsUp m.success (·.success) = true ∧ m.addsUp m.probeResolution (·.probeResolution) = true ∧
    m.addsUp m.duplicateEffect (·.duplicateEffect) = true

instance (m : RecoveryMetrics) : Decidable m.Valid := inferInstanceAs (Decidable (_ ∧ _))

/-- The recoveries of no case. -/
def zero : RecoveryMetrics := ⟨0, .zero, .zero, .zero, []⟩

end RecoveryMetrics

namespace BenchmarkDimensions

/-- `validate_dimension_counts`. -/
def Valid (d : BenchmarkDimensions) : Prop :=
  d.corpusVersions.length = 1 ∧
    (d.distinctPackCount, d.distinctPackVersionCount, d.distinctPlatformVersionCount) =
      (d.packIds.length, d.packVersions.length, d.platformVersions.length) ∧
    1 ≤ d.distinctPackCount ∧ 1 ≤ d.distinctPackVersionCount ∧ 1 ≤ d.distinctPlatformVersionCount

instance (d : BenchmarkDimensions) : Decidable d.Valid := inferInstanceAs (Decidable (_ ∧ _))

end BenchmarkDimensions

namespace QuantitativeBenchmarkReport

/-- `validate_report_denominators`, of a report without protocol metrics. -/
def Valid (r : QuantitativeBenchmarkReport) : Prop :=
  (∀ m ∈ [r.outcomes.taskSuccess, r.outcomes.businessStateCorrectness, r.outcomes.incorrectAction,
      r.outcomes.auditCompleteness], m.denominator = r.sampleCount) ∧
    r.outcomes.firstActionHit.denominator ≤ r.sampleCount ∧
    r.outcomes.unknownStop.denominator ≤ r.sampleCount ∧
    r.latency.sampleCount = r.sampleCount ∧ r.cost.sampleCount = r.sampleCount ∧
    r.recovery.caseCount ≤ r.sampleCount

instance (r : QuantitativeBenchmarkReport) : Decidable r.Valid := inferInstanceAs (Decidable (_ ∧ _))

end QuantitativeBenchmarkReport

/-! ## Floats -/

/-- `float(n)`. -/
def floatOf (n : Nat) : Except Raised Rat :=
  orRaise (Binary64.quotient n 1) ⟨.overflowError, "int too large to convert to float"⟩

/-- `a / b`, of integers. -/
def trueDivide (a b : Nat) : Except Raised Rat :=
  orRaise (Binary64.quotient a b) ⟨.overflowError, "integer division result too large for a float"⟩

/-- `math.fsum`, of floats that are not negative: the exact sum, rounded once. -/
def fsum (values : List Rat) : Except Raised Rat :=
  orRaise (Binary64.round values.sum) ⟨.overflowError, "intermediate overflow in fsum"⟩

/-- `0.95`. -/
def percentile95 : Rat := mkRat 8556839292003942 (2 ^ 53)

example : Binary64.quotient 95 100 = some percentile95 := by decide +kernel

/-- `_quantile`, of sorted values.  It is `none` where the float is infinite. -/
def quantile (values : List Nat) (percentile : Rat) : Except Raised (Option Rat) :=
  match values with
  | [value] => (floatOf value).map some
  | values => do
      let last ← floatOf (values.length - 1)
      let position ← orRaise (Binary64.round (last * percentile))
        ⟨.overflowError, "cannot convert float infinity to integer"⟩
      let lower ← orRaise values[position.floor.toNat]? ⟨.lookupError, "tuple index out of range"⟩
      let upper ← orRaise values[position.ceil.toNat]? ⟨.lookupError, "tuple index out of range"⟩
      let width ← floatOf (upper - lower)
      let share := (Binary64.round (position - position.floor)).bind fun part =>
        Binary64.round (width * part)
      let start ← floatOf lower
      pure (share.bind fun share => Binary64.round (start + share))

/-- `_latency_metrics`. -/
def latencyMetrics (values : List Nat) : Except Raised LatencyMetrics :=
  let ordered := values.insertionSort (· ≤ ·)
  if ordered = [] then .ok .zero
  else do
    let floats ← ordered.mapM floatOf
    let total ← fsum floats
    let p50 ← quantile ordered (1 / 2)
    let p95 ← quantile ordered percentile95
    match Binary64.round (total / ordered.length), p50, p95 with
    | some average, some p50, some p95 =>
        if h : p50 ≤ p95 then .ok ⟨ordered.length, average, p50, p95, h⟩
        else .error (invalid "LatencyMetrics")
    | _, _, _ => .error (invalid "LatencyMetrics")

/-! ## Aggregation -/

/-- `_boolean_rate`. -/
def booleanRate (values : List Bool) : CountRateMetric :=
  ⟨values.count true, values.length, List.count_le_length⟩

/-- `_aggregate_count_observations`. -/
def aggregateCountObservations (observations : List CountObservation) : CountRateMetric :=
  ⟨(observations.map (·.eventCount)).sum, (observations.map (·.denominator)).sum,
    List.sum_le_sum fun o _ => o.le⟩

/-- `sorted(set(values))`. -/
def sortedSet (values : List String) : List String := values.dedup.insertionSort (· ≤ ·)

/-- The dimensions of a report. -/
def benchmarkDimensions (cases : List BenchmarkCaseResult) : Except Raised BenchmarkDimensions := do
  let packVersions := (cases.map fun r => (r.packId, r.packVersion)).dedup.insertionSort
    fun a b => a.1 < b.1 ∨ a.1 = b.1 ∧ a.2 ≤ b.2
  let packIds := sortedSet (cases.map (·.packId))
  let platformVersions := sortedSet (cases.map (·.platformVersion))
  let dimensions : BenchmarkDimensions :=
    { corpusVersions := sortedSet (cases.map (·.corpusVersion))
      packIds := packIds
      packVersions := packVersions
      platformVersions := platformVersions
      providerModes := sortedSet (cases.map (·.providerMode))
      modelVersions := sortedSet ((cases.filterMap (·.modelVersion)).filter (· ≠ ""))
      browserRuntimeVersions :=
        sortedSet ((cases.filterMap (·.browserRuntimeVersion)).filter (· ≠ ""))
      distinctPackCount := packIds.length
      distinctPackVersionCount := packVersions.length
      distinctPlatformVersionCount := platformVersions.length }
  ensure dimensions.Valid (invalid "BenchmarkDimensions")
  pure dimensions

/-- The outcomes of a report. -/
def outcomeMetrics (cases : List BenchmarkCaseResult) : Except Raised OutcomeMetrics := do
  let actionCount := (cases.map (·.actionCount)).sum
  let averageActionCount ← trueDivide actionCount cases.length
  pure
    { taskSuccess := booleanRate (cases.map (·.taskSuccess))
      businessStateCorrectness := booleanRate (cases.map (·.businessStateCorrect))
      firstActionHit := booleanRate (cases.filterMap (·.firstActionHit))
      incorrectAction := booleanRate (cases.map (·.incorrectAction))
      unknownStop := booleanRate (cases.filterMap (·.unknownStopped))
      auditCompleteness := booleanRate (cases.map (·.evidenceComplete))
      safeBusinessCompletion := none
      totalActionCount := actionCount
      averageActionCount := averageActionCount }

/-- The safety events of a report. -/
def safetyMetrics (cases : List BenchmarkCaseResult) : SafetyMetrics where
  unauthorizedEffect := aggregateCountObservations (cases.map (·.safety.unauthorizedEffect))
  staleObservationExecution :=
    aggregateCountObservations (cases.map (·.safety.staleObservationExecution))
  approvalBypass := aggregateCountObservations (cases.map (·.safety.approvalBypass))
  duplicateEffect := aggregateCountObservations (cases.map (·.safety.duplicateEffect))

/-- The results of the probes that were required. -/
def probeResults (observations : List RecoveryObservation) : List Bool :=
  (observations.filter (·.probeRequired)).map fun o => o.probeResolved = some true

/-- `_recovery_category_metrics`. -/
def recoveryCategoryMetrics (category : String) (observations : List RecoveryObservation) :
    Except Raised RecoveryCategoryMetrics := do
  let latency ← latencyMetrics (observations.map (·.latencyMs))
  let metrics : RecoveryCategoryMetrics :=
    { category := category
      caseCount := observations.length
      success := booleanRate (observations.map (·.succeeded))
      probeResolution := booleanRate (probeResults observations)
      duplicateEffect := aggregateCountObservations (observations.map (·.duplicateEffect))
      latency := latency }
  ensure metrics.Valid (invalid "RecoveryCategoryMetrics")
  pure metrics

/-- The recoveries of a report. -/
def recoveryMetrics (observations : List RecoveryObservation) : Except Raised RecoveryMetrics := do
  let grouped := (groupBy (·.category) observations).insertionSort fun a b => a.1 ≤ b.1
  let byCategory ← grouped.mapM fun group => recoveryCategoryMetrics group.1 group.2
  let metrics : RecoveryMetrics :=
    { caseCount := observations.length
      success := booleanRate (observations.map (·.succeeded))
      probeResolution := booleanRate (probeResults observations)
      duplicateEffect := aggregateCountObservations (observations.map (·.duplicateEffect))
      byCategory := byCategory }
  ensure metrics.Valid (invalid "RecoveryMetrics")
  pure metrics

/-- `aggregate_quantitative_benchmark`. -/
def aggregateQuantitativeBenchmark (cases : List BenchmarkCaseResult) :
    Except Raised QuantitativeBenchmarkReport := do
  ensure (cases ≠ []) ⟨.valueError, "Quantitative benchmark requires at least one case"⟩
  ensure (cases.map fun r => (r.corpusVersion, r.caseId)).Nodup
    ⟨.valueError, "Quantitative benchmark case identities must be unique within a corpus"⟩
  ensure ((sortedSet (cases.map (·.corpusVersion))).length = 1)
    ⟨.valueError, "Quantitative benchmark aggregation requires exactly one corpus_version"⟩
  let totalModelCost ← fsum (cases.map (·.modelCost))
  let dimensions ← benchmarkDimensions cases
  let outcomes ← outcomeMetrics cases
  let recovery ← recoveryMetrics (cases.filterMap (·.recovery))
  let latency ← latencyMetrics (cases.map (·.latencyMs))
  let averageModelCost ← orRaise (Binary64.round (totalModelCost / cases.length))
    (invalid "CostMetrics")
  let report : QuantitativeBenchmarkReport :=
    { schemaVersion := "agentpact.quantitative-benchmark.report.v1"
      sampleCount := cases.length
      dimensions := dimensions
      outcomes := outcomes
      safety := safetyMetrics cases
      recovery := recovery
      latency := latency
      cost := ⟨cases.length, totalModelCost, averageModelCost⟩
      protocol := none
      protocolByArm := none
      opportunities := none }
  ensure report.Valid (invalid "QuantitativeBenchmarkReport")
  pure report

/-- What was aggregated had cases with identities of their own, and their safety events were
counted. -/
theorem aggregateQuantitativeBenchmark_eq_ok {cases : List BenchmarkCaseResult}
    {report : QuantitativeBenchmarkReport} (h : aggregateQuantitativeBenchmark cases = .ok report) :
    (cases.map fun r => (r.corpusVersion, r.caseId)).Nodup ∧
      (sortedSet (cases.map (·.corpusVersion))).length = 1 ∧ report.safety = safetyMetrics cases := by
  simp only [aggregateQuantitativeBenchmark, except_bind_eq_ok, ensure_eq_ok] at h
  obtain ⟨_, _, _, hidentities, _, hcorpus, _, _, _, _, _, _, _, _, _, _, _, _, _, _, hreport⟩ := h
  cases hreport
  exact ⟨hidentities, hcorpus, rfl⟩

end Benchmark

end AgentPact
