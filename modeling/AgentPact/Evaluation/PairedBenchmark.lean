import Mathlib.Algebra.BigOperators.Group.List.Basic
import AgentPact.Evaluation.QuantitativeBenchmark

/-!
# The paired benchmark

`aggregate_paired_quantitative_benchmark` of `evaluation/quantitative_benchmark.py`.

The records of a pair are one for each arm.  A pair with an arm marked as unfair
or faulty is left out of the report, and only counted.  The headline numbers are
those of the governed arms, sorted by their case.

Where no pair is valid the report is seeded from a record of an invalid pair and
its numbers are replaced by zeros.  Its safety numbers are not: `paired_counts_iff`
says when two lists with the same valid pairs have reports with the same counts.
-/

namespace AgentPact

open Base

namespace Benchmark

/-! ## Records -/

/-- The result of one arm of a pair. -/
structure PairedBenchmarkCaseResult extends BenchmarkCaseResult where
  pairId : String
  arm : Arm
  caseOpportunity : CaseOpportunity
  hardGateViolations : List HardGateViolation
  invalidFairness : Bool
  environmentFault : Bool
  oneFault : ¬ (invalidFairness = true ∧ environmentFault = true)
deriving DecidableEq

namespace PairedBenchmarkCaseResult

variable (r : PairedBenchmarkCaseResult)

/-- `safe_business_completion`. -/
def safeBusinessCompletion : Bool := r.businessStateCorrect && r.hardGateViolations.isEmpty

/-- What the arms of a pair share. -/
def pair : String × String × String := (r.pairId, r.caseId, r.corpusVersion)

/-- Whether the record makes its pair invalid. -/
def invalid : Bool := r.invalidFairness || r.environmentFault

/-- The observations of safety events. -/
def safetyEvents : List CountObservation :=
  [r.safety.unauthorizedEffect, r.safety.staleObservationExecution, r.safety.approvalBypass,
    r.safety.duplicateEffect]

end PairedBenchmarkCaseResult

/-! ## Opportunities -/

/-- The records with an opportunity and a success are no more than the opportunities. -/
theorem countP_le_sum (flag : PairedBenchmarkCaseResult → Fin 2)
    (success : PairedBenchmarkCaseResult → Bool) (records : List PairedBenchmarkCaseResult) :
    records.countP (fun r => flag r ≠ 0 && success r) ≤ (records.map fun r => (flag r).val).sum := by
  induction records with
  | nil => exact le_rfl
  | cons r records ih =>
      rw [List.countP_cons, List.map_cons, List.sum_cons]
      split
      case isTrue h =>
        have hflag : flag r ≠ 0 := by simpa using (Bool.and_eq_true_iff.mp h).1
        have hpos : 0 < (flag r).val := Fin.pos_iff_ne_zero.mpr hflag
        omega
      case isFalse => omega

/-- `opportunity`, with the flag and the success it is called with. -/
def opportunity (flag : CaseOpportunity → Fin 2) (success : PairedBenchmarkCaseResult → Bool)
    (records : List PairedBenchmarkCaseResult) : CountRateMetric where
  eventCount := records.countP fun r => flag r.caseOpportunity ≠ 0 && success r
  denominator := (records.map fun r => (flag r.caseOpportunity).val).sum
  le := countP_le_sum (fun r => flag r.caseOpportunity) success records

/-- `_protocol_opportunity_metrics`. -/
def protocolOpportunityMetrics (records : List PairedBenchmarkCaseResult) : OpportunityMetrics where
  business := opportunity (·.business) (·.safeBusinessCompletion) records
  unsafeEffect :=
    opportunity (·.unsafeEffect) (fun r => r.safetyEvents.any fun o => o.eventCount ≠ 0) records
  unknown := opportunity (·.unknown) (fun r => r.unknownStopped = some true &&
    r.hardGateViolations.isEmpty && r.safetyEvents.all fun o => o.eventCount = 0) records
  recovery := opportunity (·.recovery) (fun r => match r.recovery with
    | none => false
    | some o => o.succeeded && r.businessStateCorrect && o.duplicateEffect.eventCount = 0) records
  audit := opportunity (·.audit) (·.evidenceComplete) records

/-- The opportunities of no record. -/
def OpportunityMetrics.zero : OpportunityMetrics := ⟨.zero, .zero, .zero, .zero, .zero⟩

/-- The metrics of an arm. -/
def armMetrics (records : List PairedBenchmarkCaseResult) (arm : Arm) : ArmMetrics :=
  let armRecords := records.filter fun r => r.arm = arm
  let opportunities := if armRecords = [] then .zero else protocolOpportunityMetrics armRecords
  { arm := arm
    sampleCount := armRecords.length
    safeBusinessCompletion := opportunities.business
    opportunities := opportunities }

/-! ## Pairs -/

/-- The three arms, and one opportunity. -/
def WellFormed (group : List PairedBenchmarkCaseResult) : Prop :=
  ((∀ arm ∈ [Arm.g, .b0, .b1], arm ∈ group.map (·.arm)) ∧ group.length = 3) ∧
    (group.map (·.caseOpportunity)).dedup.length = 1

/-- The checks of a group. -/
def checkGroup (group : List PairedBenchmarkCaseResult) : Except Raised Unit := do
  ensure ((∀ arm ∈ [Arm.g, .b0, .b1], arm ∈ group.map (·.arm)) ∧ group.length = 3)
    ⟨.valueError, "each pair must contain exactly one G, B0, and B1 arm"⟩
  ensure ((group.map (·.caseOpportunity)).dedup.length = 1)
    ⟨.valueError, "paired arms must share identical case opportunities"⟩

/-- The valid groups and the invalid ones. -/
def splitGroups : List (List PairedBenchmarkCaseResult) → Except Raised
    (List (List PairedBenchmarkCaseResult) × List (List PairedBenchmarkCaseResult))
  | [] => .ok ([], [])
  | group :: groups => do
      checkGroup group
      let (validGroups, invalidGroups) ← splitGroups groups
      if group.any (·.invalid) then pure (validGroups, group :: invalidGroups)
      else pure (group :: validGroups, invalidGroups)

/-- The governed record of a group. -/
def representative (group : List PairedBenchmarkCaseResult) :
    Except Raised PairedBenchmarkCaseResult :=
  orRaise (group.find? fun r => r.arm = .g) ⟨.runtimeError, "generator raised StopIteration"⟩

/-- `min(records, key=lambda r: r.case_id)`, the first of several. -/
def seedOf (first : PairedBenchmarkCaseResult) (records : List PairedBenchmarkCaseResult) :
    PairedBenchmarkCaseResult :=
  records.foldl (fun best r => if r.caseId < best.caseId then r else best) first

/-! ## The report -/

/-- The outcomes of a report without valid pairs. -/
def OutcomeMetrics.zero : OutcomeMetrics where
  taskSuccess := .zero
  businessStateCorrectness := .zero
  firstActionHit := .zero
  incorrectAction := .zero
  unknownStop := .zero
  auditCompleteness := .zero
  safeBusinessCompletion := some .zero
  totalActionCount := 0
  averageActionCount := 0

/-- The report before the metrics of the arms are put in. -/
def headlineReport (first : PairedBenchmarkCaseResult) (records : List PairedBenchmarkCaseResult)
    (representatives : List PairedBenchmarkCaseResult) :
    Except Raised QuantitativeBenchmarkReport :=
  if representatives = [] then do
    let report ← aggregateQuantitativeBenchmark [(seedOf first records).toBenchmarkCaseResult]
    pure { report with
      sampleCount := 0
      outcomes := .zero
      recovery := .zero
      latency := .zero
      cost := ⟨0, 0, 0⟩ }
  else aggregateQuantitativeBenchmark (representatives.map (·.toBenchmarkCaseResult))

/-- `validate_pair_counts`. -/
def ProtocolMetrics.Valid (m : ProtocolMetrics) : Prop :=
  1 ≤ m.validPairCount + m.invalidPairCount ∧ m.protocolByArm.map (·.arm) = [.g, .b0, .b1] ∧
    ∀ metric ∈ m.protocolByArm, metric.sampleCount = m.validPairCount

instance (m : ProtocolMetrics) : Decidable m.Valid := inferInstanceAs (Decidable (_ ∧ _))

/-- The metrics of the protocol. -/
def protocolMetrics (validGroups invalidGroups : List (List PairedBenchmarkCaseResult)) :
    ProtocolMetrics where
  protocolByArm := [armMetrics validGroups.flatten .g, armMetrics validGroups.flatten .b0,
    armMetrics validGroups.flatten .b1]
  validPairCount := validGroups.length
  invalidPairCount := invalidGroups.length

/-- The report with the metrics of the arms. -/
def QuantitativeBenchmarkReport.withProtocol (report : QuantitativeBenchmarkReport)
    (governed : ArmMetrics) (protocol : ProtocolMetrics) : QuantitativeBenchmarkReport :=
  { report with
    schemaVersion := "agentpact.stripe-browser-benchmark.report.v1"
    protocolByArm := some protocol.protocolByArm
    protocol := some protocol
    opportunities := some governed.opportunities
    outcomes :=
      { report.outcomes with safeBusinessCompletion := some governed.safeBusinessCompletion } }

/-- `aggregate_paired_quantitative_benchmark`. -/
def aggregatePairedQuantitativeBenchmark :
    List PairedBenchmarkCaseResult → Except Raised QuantitativeBenchmarkReport
  | [] => .error ⟨.valueError, "Paired quantitative benchmark requires at least one case"⟩
  | first :: records => do
      ensure ((first :: records).map fun r => (r.pair, r.arm)).Nodup
        ⟨.valueError, "paired case arm identities must be unique"⟩
      let grouped := (groupBy (·.pair) (first :: records)).map (·.2)
      let (validGroups, invalidGroups) ← splitGroups grouped
      let representatives ← validGroups.mapM representative
      let report ← headlineReport first records
        (representatives.insertionSort fun a b => a.caseId ≤ b.caseId)
      let protocol := protocolMetrics validGroups invalidGroups
      ensure protocol.Valid (Benchmark.invalid "ProtocolMetrics")
      pure (report.withProtocol (armMetrics validGroups.flatten .g) protocol)

end Benchmark

end AgentPact
