import AgentPact.Documents
import AgentPact.Evaluation.PairedBenchmark

/-!
# Counts of paired reports

Two lists of records with the same valid pairs and as many invalid ones.  Where
there is a valid pair their reports are the same, in every number
(`report_eq_of_valid`).  Where there is none, the safety numbers are those of one
record of an invalid pair, the first with the least case
(`paired_counts_iff`).

The order of the records is one such difference: the arms of a pair have one
case, so that another order has another first record.
-/

namespace AgentPact

open Base

namespace Benchmark

/-! ## Groups -/

theorem checkGroup_eq_ok {group : List PairedBenchmarkCaseResult} {u : Unit} :
    checkGroup group = .ok u ↔ WellFormed group := by
  simp only [checkGroup, except_bind_eq_ok, ensure_eq_ok, WellFormed]
  exact ⟨fun ⟨_, harms, hopportunity⟩ => ⟨harms, hopportunity⟩,
    fun ⟨harms, hopportunity⟩ => ⟨(), harms, hopportunity⟩⟩

/-- Groups are split when they are all well-formed. -/
theorem splitGroups_eq_ok {groups : List (List PairedBenchmarkCaseResult)}
    {split : List (List PairedBenchmarkCaseResult) × List (List PairedBenchmarkCaseResult)} :
    splitGroups groups = .ok split ↔ (∀ group ∈ groups, WellFormed group) ∧
      split = (groups.filter fun g => !g.any (·.invalid), groups.filter fun g => g.any (·.invalid)) := by
  induction groups generalizing split with
  | nil =>
      refine ⟨fun h => ?_, ?_⟩
      · cases h
        exact ⟨by simp, rfl⟩
      · rintro ⟨-, rfl⟩
        rfl
  | cons group groups ih =>
      simp only [splitGroups, except_bind_eq_ok, checkGroup_eq_ok, List.forall_mem_cons,
        List.filter_cons]
      cases hinvalid : group.any (·.invalid) with
      | true =>
          constructor
          · rintro ⟨_, hgroup, rest, hrest, h⟩
            obtain ⟨hgroups, rfl⟩ := ih.mp hrest
            cases h
            exact ⟨⟨hgroup, hgroups⟩, by simp⟩
          · rintro ⟨⟨hgroup, hgroups⟩, rfl⟩
            exact ⟨(), hgroup, _, ih.mpr ⟨hgroups, rfl⟩, by simp [pure, Except.pure]⟩
      | false =>
          constructor
          · rintro ⟨_, hgroup, rest, hrest, h⟩
            obtain ⟨hgroups, rfl⟩ := ih.mp hrest
            cases h
            exact ⟨⟨hgroup, hgroups⟩, by simp⟩
          · rintro ⟨⟨hgroup, hgroups⟩, rfl⟩
            exact ⟨(), hgroup, _, ih.mpr ⟨hgroups, rfl⟩, by simp [pure, Except.pure]⟩

/-- Every record is of one arm. -/
theorem length_eq_arms (records : List PairedBenchmarkCaseResult) : records.length =
    records.countP (fun r => r.arm = .g) + records.countP (fun r => r.arm = .b0) +
      records.countP fun r => r.arm = .b1 := by
  induction records with
  | nil => rfl
  | cons r records ih =>
      simp only [List.length_cons, List.countP_cons, ih]
      cases r.arm <;> simp <;> omega

/-- A well-formed group has one record of an arm. -/
theorem WellFormed.arm {group : List PairedBenchmarkCaseResult} (h : WellFormed group) (arm : Arm) :
    ∃ r, group.filter (fun r => r.arm = arm) = [r] := by
  have hpos : ∀ arm ∈ [Arm.g, .b0, .b1], 0 < group.countP fun r => r.arm = arm := by
    intro arm harm
    obtain ⟨r, hr, hrarm⟩ := List.mem_map.mp (h.1.1 arm harm)
    exact List.countP_pos_iff.mpr ⟨r, hr, by simpa using hrarm⟩
  have hg := hpos .g (by simp)
  have hb0 := hpos .b0 (by simp)
  have hb1 := hpos .b1 (by simp)
  have hlength := (length_eq_arms group).symm.trans h.1.2
  rw [← List.length_eq_one_iff, ← List.countP_eq_length_filter]
  cases arm <;> omega

/-- The records of an arm in well-formed groups are as many as the groups. -/
theorem length_arm {groups : List (List PairedBenchmarkCaseResult)}
    (h : ∀ group ∈ groups, WellFormed group) (arm : Arm) :
    (groups.flatten.filter fun r => r.arm = arm).length = groups.length := by
  induction groups with
  | nil => rfl
  | cons group groups ih =>
      obtain ⟨hgroup, hgroups⟩ := List.forall_mem_cons.mp h
      obtain ⟨r, hr⟩ := hgroup.arm arm
      rw [List.flatten_cons, List.filter_append, hr, List.length_append, ih hgroups,
        List.length_singleton, List.length_cons, Nat.add_comm]

/-- The governed records of well-formed groups. -/
theorem mapM_representative {groups : List (List PairedBenchmarkCaseResult)}
    (h : ∀ group ∈ groups, WellFormed group) :
    groups.mapM representative = .ok (groups.flatten.filter fun r => r.arm = .g) := by
  induction groups with
  | nil => rfl
  | cons group groups ih =>
      obtain ⟨hgroup, hgroups⟩ := List.forall_mem_cons.mp h
      obtain ⟨r, hr⟩ := hgroup.arm .g
      have hfind : representative group = .ok r := by
        unfold representative
        rw [← List.head?_filter, hr]
        rfl
      rw [mapM_cons_eq_ok]
      refine ⟨r, _, hfind, ih hgroups, ?_⟩
      rw [List.flatten_cons, List.filter_append, hr]
      rfl

/-- What is counted of well-formed groups passes the check of the counts. -/
theorem protocolMetrics_valid {validGroups invalidGroups : List (List PairedBenchmarkCaseResult)}
    (h : ∀ group ∈ validGroups, WellFormed group)
    (hsome : 1 ≤ validGroups.length + invalidGroups.length) :
    (protocolMetrics validGroups invalidGroups).Valid := by
  refine ⟨hsome, rfl, fun metric hmetric => ?_⟩
  simp only [protocolMetrics, List.mem_cons, List.not_mem_nil, or_false] at hmetric
  rcases hmetric with rfl | rfl | rfl <;> exact length_arm h _

/-! ## Pairs of a list -/

/-- Whether a record of a list makes a pair invalid. -/
def invalidPair (l : List PairedBenchmarkCaseResult) (pair : String × String × String) : Bool :=
  l.any fun r => r.pair = pair && r.invalid

/-- The records of the valid pairs of a list. -/
def validRecords (l : List PairedBenchmarkCaseResult) : List PairedBenchmarkCaseResult :=
  l.filter fun r => !invalidPair l r.pair

/-- The number of invalid pairs of a list. -/
def invalidPairCount (l : List PairedBenchmarkCaseResult) : Nat :=
  ((l.map (·.pair)).dedup.filter fun pair => invalidPair l pair).length

/-- The groups of a list. -/
def groupsOf (l : List PairedBenchmarkCaseResult) : List (List PairedBenchmarkCaseResult) :=
  (groupBy (·.pair) l).map (·.2)

/-- The valid groups of a list. -/
def validGroups (l : List PairedBenchmarkCaseResult) : List (List PairedBenchmarkCaseResult) :=
  (groupsOf l).filter fun g => !g.any (·.invalid)

/-- The invalid groups of a list. -/
def invalidGroups (l : List PairedBenchmarkCaseResult) : List (List PairedBenchmarkCaseResult) :=
  (groupsOf l).filter fun g => g.any (·.invalid)

variable {l l₁ l₂ : List PairedBenchmarkCaseResult}

theorem validGroups_wellFormed (h : ∀ group ∈ groupsOf l, WellFormed group) :
    ∀ group ∈ validGroups l, WellFormed group :=
  fun group hgroup => h group (List.mem_of_mem_filter hgroup)

/-- A group is invalid when its pair is. -/
theorem any_invalid {group : (String × String × String) × List PairedBenchmarkCaseResult}
    (h : group ∈ groupBy (·.pair) l) : group.2.any (·.invalid) = invalidPair l group.1 := by
  rw [snd_eq_filter h, List.any_filter]
  rfl

theorem validGroups_flatten (l : List PairedBenchmarkCaseResult) :
    (validGroups l).flatten.Perm (validRecords l) := by
  have hgroups : validGroups l =
      ((groupBy (·.pair) l).filter fun g => !invalidPair l g.1).map (·.2) := by
    rw [validGroups, groupsOf, List.filter_map]
    refine congrArg _ (List.filter_congr fun group hgroup => ?_)
    rw [Function.comp_apply, any_invalid hgroup]
  rw [hgroups, ← List.flatMap_def]
  exact flatMap_groupBy_perm (·.pair) (fun pair => !invalidPair l pair) l

theorem invalidGroups_length (l : List PairedBenchmarkCaseResult) :
    (invalidGroups l).length = invalidPairCount l := by
  have hgroups : (invalidGroups l).length =
      (((groupBy (·.pair) l).map (·.1)).filter fun pair => invalidPair l pair).length := by
    rw [invalidGroups, groupsOf, List.filter_map, List.filter_map, List.length_map, List.length_map]
    refine congrArg _ (List.filter_congr fun group hgroup => ?_)
    rw [Function.comp_apply, Function.comp_apply, any_invalid hgroup]
  rw [hgroups]
  exact ((keys_groupBy_perm _ l).filter _).length_eq

/-! ## What is returned -/

/-- The governed records of the valid pairs, sorted by their case. -/
def headline (l : List PairedBenchmarkCaseResult) : List PairedBenchmarkCaseResult :=
  ((validGroups l).flatten.filter fun r => r.arm = .g).insertionSort fun a b => a.caseId ≤ b.caseId

theorem validGroups_length_add (l : List PairedBenchmarkCaseResult) :
    (validGroups l).length + (invalidGroups l).length = (groupsOf l).length := by
  have hsplit := List.length_eq_countP_add_countP (fun g => g.any (·.invalid)) (l := groupsOf l)
  rw [List.countP_eq_length_filter, List.countP_eq_length_filter] at hsplit
  rw [hsplit, Nat.add_comm]
  refine congrArg (_ + ·) (congrArg _ (List.filter_congr fun g _ => ?_))
  cases g.any (·.invalid) <;> rfl

/-- A list is aggregated when each of its records is one arm of a well-formed pair, and the
headline can be. -/
theorem aggregatePaired_eq_ok {first : PairedBenchmarkCaseResult}
    {records : List PairedBenchmarkCaseResult} {report : QuantitativeBenchmarkReport} :
    aggregatePairedQuantitativeBenchmark (first :: records) = .ok report ↔
      ((first :: records).map fun r => (r.pair, r.arm)).Nodup ∧
      (∀ group ∈ groupsOf (first :: records), WellFormed group) ∧
      ∃ base, headlineReport first records (headline (first :: records)) = .ok base ∧
        report = base.withProtocol (armMetrics (validGroups (first :: records)).flatten .g)
          (protocolMetrics (validGroups (first :: records)) (invalidGroups (first :: records))) := by
  have hsome : 1 ≤ (validGroups (first :: records)).length +
      (invalidGroups (first :: records)).length := by
    rw [validGroups_length_add]
    have hfirst : (first.pair, _) ∈ groupBy (·.pair) (first :: records) :=
      mem_groupBy (List.mem_cons_self ..)
    exact List.length_pos_of_mem (List.mem_map_of_mem hfirst)
  simp only [aggregatePairedQuantitativeBenchmark, except_bind_eq_ok, ensure_eq_ok,
    splitGroups_eq_ok]
  constructor
  · rintro ⟨_, hnodup, _, ⟨hgroups, rfl⟩, _, hrepresentatives, base, hbase, _, _, hreport⟩
    cases (mapM_representative (validGroups_wellFormed hgroups)).symm.trans hrepresentatives
    cases hreport
    exact ⟨hnodup, hgroups, base, hbase, rfl⟩
  · rintro ⟨hnodup, hgroups, base, hbase, rfl⟩
    exact ⟨(), hnodup, _, ⟨hgroups, rfl⟩, _, mapM_representative (validGroups_wellFormed hgroups), base, hbase, (),
      protocolMetrics_valid (validGroups_wellFormed hgroups) hsome, rfl⟩

/-! ## Lists with the same valid pairs -/

/-- The same valid pairs, and as many invalid ones. -/
structure SameValidPairs (l₁ l₂ : List PairedBenchmarkCaseResult) : Prop where
  valid : ∀ r, r ∈ validRecords l₁ ↔ r ∈ validRecords l₂
  invalid : invalidPairCount l₁ = invalidPairCount l₂

theorem invalidPair_perm (h : l₁.Perm l₂) : invalidPair l₁ = invalidPair l₂ :=
  funext fun _ => h.any_eq

/-- Another order has the same pairs. -/
theorem SameValidPairs.of_perm (h : l₁.Perm l₂) : SameValidPairs l₁ l₂ := by
  constructor
  · intro r
    rw [validRecords, validRecords, invalidPair_perm h]
    exact (h.filter _).mem_iff
  · rw [invalidPairCount, invalidPairCount, invalidPair_perm h]
    exact ((h.map _).dedup.filter _).length_eq

/-- The records of the valid pairs, in two orders. -/
theorem SameValidPairs.flatten (h : SameValidPairs l₁ l₂) (h₁ : l₁.Nodup) (h₂ : l₂.Nodup) :
    (validGroups l₁).flatten.Perm (validGroups l₂).flatten := by
  have hrecords : (validRecords l₁).Perm (validRecords l₂) :=
    (List.perm_ext_iff_of_nodup (h₁.filter _) (h₂.filter _)).mpr h.valid
  exact (validGroups_flatten l₁).trans (hrecords.trans (validGroups_flatten l₂).symm)

theorem opportunity_perm {flag : CaseOpportunity → Fin 2}
    {success : PairedBenchmarkCaseResult → Bool} (h : l₁.Perm l₂) :
    opportunity flag success l₁ = opportunity flag success l₂ := by
  have hcount : l₁.countP (fun r => flag r.caseOpportunity ≠ 0 && success r) =
      l₂.countP fun r => flag r.caseOpportunity ≠ 0 && success r := h.countP_eq _
  have hsum : (l₁.map fun r => (flag r.caseOpportunity).val).sum =
      (l₂.map fun r => (flag r.caseOpportunity).val).sum := (h.map _).sum_eq
  simp only [opportunity, hcount, hsum]

/-- The metrics of an arm do not depend on the order of the records. -/
theorem armMetrics_perm (arm : Arm) (h : l₁.Perm l₂) : armMetrics l₁ arm = armMetrics l₂ arm := by
  have harm : (l₁.filter fun r => r.arm = arm).Perm (l₂.filter fun r => r.arm = arm) := h.filter _
  have hmetrics : protocolOpportunityMetrics (l₁.filter fun r => r.arm = arm) =
      protocolOpportunityMetrics (l₂.filter fun r => r.arm = arm) := by
    simp only [protocolOpportunityMetrics, opportunity_perm harm]
  have hempty : (l₁.filter fun r => r.arm = arm) = [] ↔ (l₂.filter fun r => r.arm = arm) = [] := by
    rw [← List.length_eq_zero_iff, ← List.length_eq_zero_iff, harm.length_eq]
  simp only [armMetrics, hmetrics, hempty, harm.length_eq]

/-- One value is all there is. -/
theorem eq_of_sortedSet {values : List String} (h : (sortedSet values).length = 1) {a b : String}
    (ha : a ∈ values) (hb : b ∈ values) : a = b := by
  obtain ⟨c, hc⟩ := List.length_eq_one_iff.mp h
  have hone : ∀ x ∈ values, x = c := by
    intro x hx
    rw [← List.mem_singleton, ← hc, sortedSet, List.mem_insertionSort, List.mem_dedup]
    exact hx
  rw [hone a ha, hone b hb]

/-- Records that were aggregated are known by their cases. -/
theorem eq_of_caseId {records : List PairedBenchmarkCaseResult} {report : QuantitativeBenchmarkReport}
    (h : aggregateQuantitativeBenchmark (records.map (·.toBenchmarkCaseResult)) = .ok report)
    {r r' : PairedBenchmarkCaseResult} (hr : r ∈ records) (hr' : r' ∈ records)
    (hcase : r.caseId = r'.caseId) : r = r' := by
  obtain ⟨hidentities, hcorpus, _⟩ := aggregateQuantitativeBenchmark_eq_ok h
  rw [List.map_map] at hidentities hcorpus
  have hsame := eq_of_sortedSet hcorpus (List.mem_map_of_mem hr) (List.mem_map_of_mem hr')
  exact List.inj_on_of_nodup_map hidentities hr hr' (Prod.ext hsame hcase)

/-- Records that are known by their cases are sorted in one way. -/
theorem sorted_perm (h : l₁.Perm l₂)
    (hcases : ∀ r ∈ l₁, ∀ r' ∈ l₁, r.caseId = r'.caseId → r = r') :
    l₁.insertionSort (fun a b => a.caseId ≤ b.caseId) =
      l₂.insertionSort fun a b => a.caseId ≤ b.caseId := by
  have htotal : Std.Total fun a b : PairedBenchmarkCaseResult => a.caseId ≤ b.caseId :=
    ⟨fun a b => le_total a.caseId b.caseId⟩
  have htrans : IsTrans PairedBenchmarkCaseResult fun a b => a.caseId ≤ b.caseId :=
    ⟨fun a b c => le_trans⟩
  have hperm := (List.perm_insertionSort (fun a b => a.caseId ≤ b.caseId) l₁).trans
    (h.trans (List.perm_insertionSort (fun a b => a.caseId ≤ b.caseId) l₂).symm)
  refine List.Perm.eq_of_pairwise ?_ (List.pairwise_insertionSort _ l₁)
    (List.pairwise_insertionSort _ l₂) hperm
  intro a b ha hb hab hba
  rw [List.mem_insertionSort] at ha hb
  exact hcases a ha b (h.mem_iff.mpr hb) (le_antisymm hab hba)

theorem mem_headline {r : PairedBenchmarkCaseResult} :
    r ∈ headline l ↔ r ∈ (validGroups l).flatten.filter fun r => r.arm = .g :=
  List.mem_insertionSort _

/-- Lists with the same valid pairs have the same headline, if that of one is aggregated. -/
theorem headline_eq (h : (validGroups l₁).flatten.Perm (validGroups l₂).flatten)
    {report : QuantitativeBenchmarkReport}
    (hreport : aggregateQuantitativeBenchmark ((headline l₁).map (·.toBenchmarkCaseResult)) =
      .ok report) : headline l₁ = headline l₂ := by
  refine sorted_perm (h.filter _) fun r hr r' hr' hcase => ?_
  exact eq_of_caseId hreport (mem_headline.mpr hr) (mem_headline.mpr hr') hcase

/-- The headline is empty when no pair is valid. -/
theorem headline_eq_nil (h : ∀ group ∈ groupsOf l, WellFormed group) :
    headline l = [] ↔ validRecords l = [] := by
  have hlength : (headline l).length = (validGroups l).length := by
    rw [headline, List.length_insertionSort]
    exact length_arm (validGroups_wellFormed h) .g
  constructor
  · intro hnil
    have hgroups : validGroups l = [] := by
      rw [← List.length_eq_zero_iff, ← hlength, hnil]
      rfl
    have hperm := validGroups_flatten l
    rw [hgroups] at hperm
    exact hperm.nil_eq.symm
  · intro hnil
    have hperm := validGroups_flatten l
    rw [hnil] at hperm
    rw [headline, hperm.eq_nil]
    rfl

/-! ## Counts -/

/-- The counts of the recoveries. -/
structure RecoveryCounts where
  caseCount : Nat
  success : CountRateMetric
  probeResolution : CountRateMetric
  duplicateEffect : CountRateMetric
  /-- For each category, with the number of latencies. -/
  byCategory : List (RecoveryCategoryCounts × Nat)

/-- The counts of a report. -/
structure BenchmarkCounts where
  sampleCount : Nat
  outcomes : OutcomeCounts
  safety : SafetyMetrics
  recovery : RecoveryCounts
  latencyCount : Nat
  costCount : Nat
  protocol : Option ProtocolMetrics
  protocolByArm : Option (List ArmMetrics)
  opportunities : Option OpportunityMetrics

/-- The counts of the recoveries of a report. -/
def RecoveryMetrics.counts (m : RecoveryMetrics) : RecoveryCounts where
  caseCount := m.caseCount
  success := m.success
  probeResolution := m.probeResolution
  duplicateEffect := m.duplicateEffect
  byCategory := m.byCategory.map fun c => (c.toRecoveryCategoryCounts, c.latency.sampleCount)

/-- Every count of a report. -/
def QuantitativeBenchmarkReport.counts (report : QuantitativeBenchmarkReport) : BenchmarkCounts where
  sampleCount := report.sampleCount
  outcomes := report.outcomes.toOutcomeCounts
  safety := report.safety
  recovery := report.recovery.counts
  latencyCount := report.latency.sampleCount
  costCount := report.cost.sampleCount
  protocol := report.protocol
  protocolByArm := report.protocolByArm
  opportunities := report.opportunities

/-- The safety observations of the first record with the least case. -/
def seedSafety : List PairedBenchmarkCaseResult → Option SafetyObservations
  | [] => none
  | first :: records => some (seedOf first records).safety

theorem aggregateCountObservations_singleton {o o' : CountObservation} :
    aggregateCountObservations [o] = aggregateCountObservations [o'] ↔ o = o' := by
  cases o
  cases o'
  simp [aggregateCountObservations]

/-- One record is known by its safety numbers. -/
theorem safetyMetrics_singleton {r r' : BenchmarkCaseResult} :
    safetyMetrics [r] = safetyMetrics [r'] ↔ r.safety = r'.safety := by
  cases hr : r.safety
  cases hr' : r'.safety
  simp only [safetyMetrics, List.map_cons, List.map_nil, hr, hr', SafetyMetrics.mk.injEq,
    aggregateCountObservations_singleton, SafetyObservations.mk.injEq]

/-- The counts of a list without valid pairs. -/
def zeroCounts (safety : SafetyMetrics) (governed : ArmMetrics) (protocol : ProtocolMetrics) :
    BenchmarkCounts where
  sampleCount := 0
  outcomes := { OutcomeMetrics.zero.toOutcomeCounts with
    safeBusinessCompletion := some governed.safeBusinessCompletion }
  safety := safety
  recovery := RecoveryMetrics.zero.counts
  latencyCount := 0
  costCount := 0
  protocol := some protocol
  protocolByArm := some protocol.protocolByArm
  opportunities := some governed.opportunities

/-- Without valid pairs the safety numbers are those of the seed, and all other numbers of the
headline are zeros. -/
theorem headlineReport_nil {first : PairedBenchmarkCaseResult}
    {records : List PairedBenchmarkCaseResult} {base : QuantitativeBenchmarkReport}
    (h : headlineReport first records [] = .ok base) (governed : ArmMetrics)
    (protocol : ProtocolMetrics) : (base.withProtocol governed protocol).counts =
      zeroCounts (safetyMetrics [(seedOf first records).toBenchmarkCaseResult]) governed protocol := by
  rw [headlineReport, if_pos rfl, except_bind_eq_ok] at h
  obtain ⟨seeded, hseeded, hbase⟩ := h
  cases hbase
  have hsafety := (aggregateQuantitativeBenchmark_eq_ok hseeded).2.2
  simp only [QuantitativeBenchmarkReport.counts, QuantitativeBenchmarkReport.withProtocol, zeroCounts,
    hsafety]
  rfl

/-! ## Two lists -/

variable {report₁ report₂ : QuantitativeBenchmarkReport}

/-- What two lists with the same valid pairs have in common. -/
theorem SameValidPairs.protocol (hsame : SameValidPairs l₁ l₂) (h₁ : l₁.Nodup) (h₂ : l₂.Nodup)
    (hgroups₁ : ∀ group ∈ groupsOf l₁, WellFormed group)
    (hgroups₂ : ∀ group ∈ groupsOf l₂, WellFormed group) :
    armMetrics (validGroups l₁).flatten .g = armMetrics (validGroups l₂).flatten .g ∧
      protocolMetrics (validGroups l₁) (invalidGroups l₁) =
        protocolMetrics (validGroups l₂) (invalidGroups l₂) := by
  have hflatten := hsame.flatten h₁ h₂
  have harms := fun arm => armMetrics_perm arm hflatten
  have hvalid : (validGroups l₁).length = (validGroups l₂).length := by
    rw [← length_arm (validGroups_wellFormed hgroups₁) .g,
      ← length_arm (validGroups_wellFormed hgroups₂) .g]
    exact (hflatten.filter _).length_eq
  have hinvalid : (invalidGroups l₁).length = (invalidGroups l₂).length := by
    rw [invalidGroups_length, invalidGroups_length, hsame.invalid]
  exact ⟨harms .g, by simp only [protocolMetrics, harms, hvalid, hinvalid]⟩

/-- Where a pair is valid, the report depends on the valid pairs and the number of invalid ones. -/
theorem report_eq_of_valid (h₁ : aggregatePairedQuantitativeBenchmark l₁ = .ok report₁)
    (h₂ : aggregatePairedQuantitativeBenchmark l₂ = .ok report₂) (hsame : SameValidPairs l₁ l₂)
    (hvalid : validRecords l₁ ≠ []) : report₁ = report₂ := by
  match l₁, l₂, h₁, h₂ with
  | first₁ :: records₁, first₂ :: records₂, h₁, h₂ =>
    obtain ⟨hnodup₁, hgroups₁, base₁, hbase₁, rfl⟩ := aggregatePaired_eq_ok.mp h₁
    obtain ⟨hnodup₂, hgroups₂, base₂, hbase₂, rfl⟩ := aggregatePaired_eq_ok.mp h₂
    obtain ⟨hgoverned, hprotocol⟩ :=
      hsame.protocol (.of_map _ hnodup₁) (.of_map _ hnodup₂) hgroups₁ hgroups₂
    have hsome : headline (first₁ :: records₁) ≠ [] := fun hnil =>
      hvalid ((headline_eq_nil hgroups₁).mp hnil)
    rw [headlineReport, if_neg hsome] at hbase₁
    have hheadline := headline_eq (hsame.flatten (.of_map _ hnodup₁) (.of_map _ hnodup₂)) hbase₁
    rw [← hheadline, headlineReport, if_neg hsome] at hbase₂
    cases hbase₁.symm.trans hbase₂
    rw [hgoverned, hprotocol]

/-- Two lists of records with the same valid pairs and as many invalid ones, or one list in two
orders.  Their reports have the same counts when some pair is valid, or when the first records with
the least case have the same safety observations, and in no other case. -/
theorem paired_counts_iff (h₁ : aggregatePairedQuantitativeBenchmark l₁ = .ok report₁)
    (h₂ : aggregatePairedQuantitativeBenchmark l₂ = .ok report₂)
    (hrelated : SameValidPairs l₁ l₂ ∨ l₁.Perm l₂) : report₁.counts = report₂.counts ↔
      (∃ r ∈ l₁, invalidPair l₁ r.pair = false) ∨ seedSafety l₁ = seedSafety l₂ := by
  have hsame : SameValidPairs l₁ l₂ := hrelated.elim id .of_perm
  by_cases hvalid : ∃ r ∈ l₁, invalidPair l₁ r.pair = false
  · obtain ⟨r, hr, hpair⟩ := hvalid
    have hsome : validRecords l₁ ≠ [] :=
      List.ne_nil_of_mem (List.mem_filter.mpr ⟨hr, by rw [hpair]; rfl⟩)
    rw [report_eq_of_valid h₁ h₂ hsame hsome]
    exact ⟨fun _ => .inl ⟨r, hr, hpair⟩, fun _ => rfl⟩
  · have hnone₁ : validRecords l₁ = [] := by
      refine List.filter_eq_nil_iff.mpr fun r hr hpair => hvalid ⟨r, hr, ?_⟩
      simpa using hpair
    have hnone₂ : validRecords l₂ = [] := by
      refine List.eq_nil_iff_forall_not_mem.mpr fun r hr => ?_
      have hmem := (hsame.valid r).mpr hr
      rw [hnone₁] at hmem
      cases hmem
    match l₁, l₂, h₁, h₂ with
    | first₁ :: records₁, first₂ :: records₂, h₁, h₂ =>
      obtain ⟨hnodup₁, hgroups₁, base₁, hbase₁, rfl⟩ := aggregatePaired_eq_ok.mp h₁
      obtain ⟨hnodup₂, hgroups₂, base₂, hbase₂, rfl⟩ := aggregatePaired_eq_ok.mp h₂
      obtain ⟨hgoverned, hprotocol⟩ :=
        hsame.protocol (.of_map _ hnodup₁) (.of_map _ hnodup₂) hgroups₁ hgroups₂
      rw [(headline_eq_nil hgroups₁).mpr hnone₁] at hbase₁
      rw [(headline_eq_nil hgroups₂).mpr hnone₂] at hbase₂
      rw [headlineReport_nil hbase₁, headlineReport_nil hbase₂, hgoverned, hprotocol]
      have hcounts : ∀ {a b : SafetyMetrics} {governed : ArmMetrics} {protocol : ProtocolMetrics},
          zeroCounts a governed protocol = zeroCounts b governed protocol ↔ a = b := by
        intro a b governed protocol
        exact ⟨fun h => congrArg BenchmarkCounts.safety h, fun h => by rw [h]⟩
      rw [hcounts, safetyMetrics_singleton]
      constructor
      · exact fun h => .inr (congrArg some h)
      · exact fun h => Option.some.inj (h.resolve_left hvalid)

/-! ## Other orders -/

theorem wellFormed_perm {group group' : List PairedBenchmarkCaseResult} (h : group.Perm group')
    (hgroup : WellFormed group) : WellFormed group' := by
  obtain ⟨⟨harms, hlength⟩, hopportunity⟩ := hgroup
  refine ⟨⟨fun arm harm => ?_, h.length_eq ▸ hlength⟩, ?_⟩
  · exact (h.map _).mem_iff.mp (harms arm harm)
  · have hdedup := (h.map (·.caseOpportunity)).dedup.length_eq
    rw [← hdedup]
    exact hopportunity

theorem groupsOf_perm (h : l₁.Perm l₂) (hgroups : ∀ group ∈ groupsOf l₁, WellFormed group) :
    ∀ group ∈ groupsOf l₂, WellFormed group := by
  intro group hgroup
  obtain ⟨⟨pair, records⟩, hmem, rfl⟩ := List.mem_map.mp hgroup
  have hpair : pair ∈ l₂.map (·.pair) := mem_keys_groupBy.mp (List.mem_map.mpr ⟨_, hmem, rfl⟩)
  obtain ⟨r, hr, rfl⟩ := List.mem_map.mp hpair
  have hrecords := snd_eq_filter hmem
  have hgroup₁ := hgroups _ (List.mem_map.mpr ⟨_, mem_groupBy (h.mem_iff.mpr hr), rfl⟩)
  exact wellFormed_perm (hrecords ▸ h.filter _) hgroup₁

/-- With a valid pair, records in another order are reported alike. -/
theorem aggregatePaired_perm (h : l₁.Perm l₂)
    (h₁ : aggregatePairedQuantitativeBenchmark l₁ = .ok report₁) (hvalid : validRecords l₁ ≠ []) :
    aggregatePairedQuantitativeBenchmark l₂ = .ok report₁ := by
  match l₁, l₂, h₁ with
  | first₁ :: records₁, [], _ => cases h.length_eq
  | first₁ :: records₁, first₂ :: records₂, h₁ =>
    obtain ⟨hnodup₁, hgroups₁, base₁, hbase₁, rfl⟩ := aggregatePaired_eq_ok.mp h₁
    have hnodup₂ := (h.map fun r => (r.pair, r.arm)).nodup_iff.mp hnodup₁
    have hgroups₂ := groupsOf_perm h hgroups₁
    have hsame := SameValidPairs.of_perm h
    obtain ⟨hgoverned, hprotocol⟩ :=
      hsame.protocol (.of_map _ hnodup₁) (.of_map _ hnodup₂) hgroups₁ hgroups₂
    have hsome : headline (first₁ :: records₁) ≠ [] := fun hnil =>
      hvalid ((headline_eq_nil hgroups₁).mp hnil)
    rw [headlineReport, if_neg hsome] at hbase₁
    have hheadline := headline_eq (hsame.flatten (.of_map _ hnodup₁) (.of_map _ hnodup₂)) hbase₁
    refine aggregatePaired_eq_ok.mpr ⟨hnodup₂, hgroups₂, base₁, ?_, by rw [hgoverned, hprotocol]⟩
    rw [headlineReport, ← hheadline, if_neg hsome]
    exact hbase₁

/-! ## One pair in two orders -/

section Orders

theorem sampleEvents_le : 0 ≤ 1 := Nat.zero_le 1

theorem sampleEvent_le : 1 ≤ 1 := Nat.le_refl 1

theorem sampleCost_nonneg : (0 : Rat) ≤ 0 := le_rfl

/-- One chance without an event. -/
def noEvent : CountObservation := ⟨0, 1, sampleEvents_le⟩

/-- One chance with an event. -/
def oneEvent : CountObservation := ⟨1, 1, sampleEvent_le⟩

/-- A record of an arm, with some unauthorized effects. -/
def sampleRecord (pairId : String) (arm : Arm) (unauthorized : CountObservation)
    (unfair : Bool) : PairedBenchmarkCaseResult where
  caseId := pairId
  corpusVersion := "corpus"
  packId := "pack"
  packVersion := "1"
  platformVersion := "1"
  providerMode := "test"
  modelVersion := none
  browserRuntimeVersion := none
  taskSuccess := true
  businessStateCorrect := true
  firstActionHit := some true
  incorrectAction := false
  unknownStopped := none
  evidenceComplete := true
  actionCount := 1
  latencyMs := 10
  modelCost := 0
  safety := ⟨unauthorized, noEvent, noEvent, noEvent⟩
  recovery := none
  acted := by decide
  costed := sampleCost_nonneg
  pairId := pairId
  arm := arm
  caseOpportunity := ⟨1, 1, 0, 0, 1⟩
  hardGateViolations := []
  invalidFairness := unfair
  environmentFault := false
  oneFault := by simp

/-- The arms of a pair.  One of the baselines had an unauthorized effect. -/
def samplePair (pairId : String) (unfair : Bool) : List PairedBenchmarkCaseResult :=
  [sampleRecord pairId .g noEvent unfair, sampleRecord pairId .b0 noEvent unfair,
    sampleRecord pairId .b1 oneEvent unfair]

/-- The number of unauthorized effects that is reported. -/
def unauthorizedEffects (l : List PairedBenchmarkCaseResult) : Option Nat :=
  (aggregatePairedQuantitativeBenchmark l).toOption.map (·.safety.unauthorizedEffect.eventCount)

theorem unauthorizedEffects_eq_some {n : Nat} : unauthorizedEffects l = some n ↔
    ∃ report, aggregatePairedQuantitativeBenchmark l = .ok report ∧
      report.safety.unauthorizedEffect.eventCount = n := by
  unfold unauthorizedEffects
  cases aggregatePairedQuantitativeBenchmark l <;> simp [Except.toOption]

/-- With a valid pair, it does not matter which pair is invalid. -/
theorem paired_counts_iff_sample : ∃ report₁ report₂,
    aggregatePairedQuantitativeBenchmark (samplePair "first" false ++ samplePair "second" true) =
      .ok report₁ ∧
    aggregatePairedQuantitativeBenchmark (samplePair "third" true ++ samplePair "first" false) =
      .ok report₂ ∧ report₁.counts = report₂.counts := by
  have hran : unauthorizedEffects (samplePair "first" false ++ samplePair "second" true) = some 0 ∧
      unauthorizedEffects (samplePair "third" true ++ samplePair "first" false) = some 0 := by
    decide +kernel
  obtain ⟨report₁, h₁, _⟩ := unauthorizedEffects_eq_some.mp hran.1
  obtain ⟨report₂, h₂, _⟩ := unauthorizedEffects_eq_some.mp hran.2
  have hvalid : validRecords (samplePair "first" false ++ samplePair "second" true) =
      validRecords (samplePair "third" true ++ samplePair "first" false) := by decide +kernel
  have hsame : SameValidPairs (samplePair "first" false ++ samplePair "second" true)
      (samplePair "third" true ++ samplePair "first" false) :=
    ⟨fun r => by rw [hvalid], by decide +kernel⟩
  refine ⟨report₁, report₂, h₁, h₂, (paired_counts_iff h₁ h₂ (.inl hsame)).mpr (.inl ?_)⟩
  exact ⟨sampleRecord "first" .g noEvent false, by simp [samplePair], by decide +kernel⟩

/-- An invalid pair alone is reported with the unauthorized effects of its first record. -/
theorem invalid_pair_reported : ¬ ∀ l₁ l₂ report₁ report₂,
    aggregatePairedQuantitativeBenchmark l₁ = .ok report₁ →
    aggregatePairedQuantitativeBenchmark l₂ = .ok report₂ →
    SameValidPairs l₁ l₂ ∨ l₁.Perm l₂ → report₁.counts = report₂.counts := by
  intro h
  have hran : unauthorizedEffects (samplePair "first" true) = some 0 ∧
      unauthorizedEffects (samplePair "first" true).reverse = some 1 := by decide +kernel
  obtain ⟨report₁, h₁, hzero⟩ := unauthorizedEffects_eq_some.mp hran.1
  obtain ⟨report₂, h₂, hone⟩ := unauthorizedEffects_eq_some.mp hran.2
  have hcounts := h _ _ _ _ h₁ h₂ (.inr (List.reverse_perm _).symm)
  have hsafety : report₁.safety = report₂.safety := congrArg BenchmarkCounts.safety hcounts
  rw [← hsafety, hzero] at hone
  cases hone

end Orders

end Benchmark

end AgentPact
