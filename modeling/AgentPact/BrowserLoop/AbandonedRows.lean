import AgentPact.BrowserLoop.ExecutorSafety

/-!
# What recovery closes

Recovery closes the rows that it selects one after the other, in one
transaction.  A row is handed back as a contract, and a row that had started as
a checkpoint too, so a row that lacks a part of these (`Checkpointed`) raises,
and takes back what was closed before it.

`recoverRows_returns_iff` says when the loop gets through, and
`recover_closes_iff` that the rows are closed exactly if every one of them has
its parts.
-/

namespace AgentPact

open Base Transaction

/-- The row has what is handed back of it: a key, and the exact checkpoint of what has started. -/
structure ExecutionAttemptModel.Checkpointed (m : ExecutionAttemptModel) : Prop where
  key : m.idempotencyKey ≠ none
  permit : m.status = .executing → ∃ permitId, m.permitId = some permitId ∧ permitId ≠ ""
  digest : m.status = .executing → m.idempotencyKeyDigest ≠ none
  effect : m.status = .executing → m.executionEffect ≠ none
  probe : m.status = .executing → ∃ ref, m.resultProbeRef = some ref ∧ ref ≠ ""
  identity : m.status = .executing → m.attemptId ≠ "" ∧ m.taskId ≠ "" ∧ m.stepId ≠ "" ∧
    m.actionFingerprint ≠ "" ∧ m.observationHash ≠ ""

instance (m : ExecutionAttemptModel) : Decidable m.Checkpointed :=
  decidable_of_iff (m.idempotencyKey ≠ none ∧ (m.status = .executing →
    m.permitId.any (· ≠ "") = true ∧ m.idempotencyKeyDigest ≠ none ∧ m.executionEffect ≠ none ∧
      m.resultProbeRef.any (· ≠ "") = true ∧ m.attemptId ≠ "" ∧ m.taskId ≠ "" ∧ m.stepId ≠ "" ∧
      m.actionFingerprint ≠ "" ∧ m.observationHash ≠ "")) <| by
    simp only [Option.any_eq_true, decide_eq_true_eq]
    constructor
    · rintro ⟨hkey, hparts⟩
      exact ⟨hkey, fun h => (hparts h).1, fun h => (hparts h).2.1, fun h => (hparts h).2.2.1,
        fun h => (hparts h).2.2.2.1, fun h => (hparts h).2.2.2.2⟩
    · intro h
      exact ⟨h.key, fun hstatus => ⟨h.permit hstatus, h.digest hstatus, h.effect hstatus,
        h.probe hstatus, h.identity hstatus⟩⟩

/-- The status that recovery closes a row with. -/
def ExecutionAttemptStatus.recovered : ExecutionAttemptStatus → ExecutionAttemptStatus
  | .authorized => .failed
  | _ => .unknown

/-- What recovery makes of a row. -/
def ExecutionAttemptModel.recovery (current : DateTime) (m : ExecutionAttemptModel) :
    Edit ExecutionAttemptModel :=
  ExecutionAttemptModel.transition m.status.recovered current none
    (some (if m.status = .authorized then abandonedMessage
      else "ABANDONED_EXECUTING_REQUIRES_RESULT_PROBE"))

theorem ExecutionAttemptModel.recovery_apply (current : DateTime) (m : ExecutionAttemptModel) :
    ∃ completed message, (m.recovery current).apply m =
      { m with status := m.status.recovered, completedAt := completed, resultProbe := none,
               errorMessage := message } := by
  have hclosed : m.status.recovered ≠ .executing := by cases m.status <;> decide
  simp only [recovery, transition, if_neg hclosed]
  exact ⟨_, _, rfl⟩

/-! ## One row -/

section Row

variable {current : DateTime} {m : ExecutionAttemptModel} {s : ExecutionStore}

/-- What has a checkpoint lacks no part of it. -/
theorem checkpoint_isOk_iff {a : ExecutionAttempt} : (∃ c, checkpoint a = .ok c) ↔
    (∃ permitId, a.permitId = some permitId ∧ permitId ≠ "") ∧ a.idempotencyKeyDigest ≠ none ∧
      a.executionEffect ≠ none ∧ (∃ ref, a.resultProbeRef = some ref ∧ ref ≠ "") ∧
      a.attemptId ≠ "" ∧ a.taskId ≠ "" ∧ a.stepId ≠ "" ∧ a.actionFingerprint ≠ "" ∧
      a.observationHash ≠ "" := by
  unfold checkpoint
  split
  case h_1 permitId digest effect probeRef hpermit hdigest heffect hprobe =>
    rw [hpermit, hdigest, heffect, hprobe]
    split
    case isTrue hempty =>
      rcases hempty with rfl | rfl <;> simp
    case isFalse hrefs =>
      split
      case isTrue hempty =>
        rcases hempty with h | h | h | h | h <;> simp [h]
      case isFalse hidentity =>
        simp only [not_or] at hrefs hidentity
        simp [hrefs, hidentity]
  case h_2 hmissing =>
    simp only [reduceCtorEq, exists_false, false_iff]
    rintro ⟨⟨permitId, hpermit, _⟩, hdigest, heffect, ⟨ref, hprobe, _⟩, _⟩
    obtain ⟨digest, hdigest⟩ := Option.ne_none_iff_exists'.mp hdigest
    obtain ⟨effect, heffect⟩ := Option.ne_none_iff_exists'.mp heffect
    exact hmissing permitId digest effect ref hpermit hdigest heffect hprobe

theorem toContract_isOk_iff : (∃ a, m.toContract = .ok a) ↔ m.idempotencyKey ≠ none := by
  unfold ExecutionAttemptModel.toContract
  cases m.idempotencyKey <;> simp

/-- The contract of a row carries the parts of its checkpoint. -/
theorem toContract_checkpoint_iff {a : ExecutionAttempt} (h : m.toContract = .ok a) :
    (∃ c, checkpoint a = .ok c) ↔
      (∃ permitId, m.permitId = some permitId ∧ permitId ≠ "") ∧ m.idempotencyKeyDigest ≠ none ∧
        m.executionEffect ≠ none ∧ (∃ ref, m.resultProbeRef = some ref ∧ ref ≠ "") ∧
        m.attemptId ≠ "" ∧ m.taskId ≠ "" ∧ m.stepId ≠ "" ∧ m.actionFingerprint ≠ "" ∧
        m.observationHash ≠ "" := by
  rw [checkpoint_isOk_iff]
  unfold ExecutionAttemptModel.toContract at h
  split at h
  · cases h
  · cases h
    rfl

/-- A row that is found in the status it is to leave moves, if it has a key. -/
theorem transitionAttempt_returns {attemptId : String} {toStatus : ExecutionAttemptStatus}
    {probe : Option (List (String × Json))} {message : Option String} {now : Option DateTime}
    {clock : Stamp} (hfind : s.attempts.find? attemptId = some m) {a : ExecutionAttempt}
    (hcontract : ((ExecutionAttemptModel.transition toStatus (now.getD (DateTime.utc clock)) probe
      message).apply m).toContract = .ok a) :
    transitionAttempt attemptId m.status toStatus probe message now clock s =
      .ok a (s.updateAttempt attemptId (ExecutionAttemptModel.transition toStatus
        (now.getD (DateTime.utc clock)) probe message)) := by
  simp only [transitionAttempt, bind_eq_ok, fetch_eq_ok, require_eq_ok, write_eq_ok, lift_eq_ok]
  exact ⟨m, s, ⟨hfind, rfl⟩, (), s, ⟨rfl, rfl⟩, (), _, rfl, hcontract, rfl⟩

/-- What closing a row leaves. -/
theorem recoverRow_eq_ok {report : PersistedExecutionRecoveryReport} {t : ExecutionStore}
    (hfind : s.attempts.find? m.attemptId = some m)
    (h : recoverRow current m s = .ok report t) :
    t = s.updateAttempt m.attemptId (m.recovery current) := by
  unfold recoverRow at h
  split at h
  case isTrue hstatus =>
    obtain ⟨_, _, hclose, hpure⟩ := bind_eq_ok.mp h
    cases hpure
    obtain ⟨_, _, _, rfl, _⟩ := transitionAttempt_eq_ok hclose
    simp [ExecutionAttemptModel.recovery, hstatus, ExecutionAttemptStatus.recovered]
  case isFalse hstatus =>
    simp only [bind_eq_ok, lift_eq_ok] at h
    obtain ⟨_, _, hclose, _, _, ⟨_, rfl⟩, hpure⟩ := h
    cases hpure
    obtain ⟨found, hfound, hexecuting, rfl, _⟩ := transitionAttempt_eq_ok hclose
    cases hfind.symm.trans hfound
    simp [ExecutionAttemptModel.recovery, hexecuting, ExecutionAttemptStatus.recovered]

/-- An open row is closed exactly if it has its parts. -/
theorem recoverRow_returns_iff (hfind : s.attempts.find? m.attemptId = some m)
    (hopen : m.status = .authorized ∨ m.status = .executing) :
    (∃ report t, recoverRow current m s = .ok report t) ↔ m.Checkpointed := by
  unfold recoverRow
  rcases hopen with hstatus | hstatus
  · rw [if_pos hstatus]
    constructor
    · rintro ⟨_, _, h⟩
      obtain ⟨a, _, hclose, _⟩ := bind_eq_ok.mp h
      obtain ⟨found, hfound, _, _, hcontract⟩ := transitionAttempt_eq_ok hclose
      cases hfind.symm.trans hfound
      have hkey := toContract_isOk_iff.mp ⟨a, hcontract⟩
      refine ⟨hkey, ?_, ?_, ?_, ?_, ?_⟩ <;> simp [hstatus]
    · intro hparts
      obtain ⟨a, hcontract⟩ := (toContract_isOk_iff (m := (ExecutionAttemptModel.transition .failed
        ((some current).getD (DateTime.utc 0)) none (some abandonedMessage)).apply m)).mpr hparts.key
      have hclose := transitionAttempt_returns hfind hcontract
      rw [hstatus] at hclose
      exact ⟨_, _, bind_eq_ok.mpr ⟨_, _, hclose, rfl⟩⟩
  · have hnot : m.status ≠ .authorized := by rw [hstatus]; decide
    rw [if_neg hnot]
    constructor
    · rintro ⟨_, _, h⟩
      simp only [bind_eq_ok, lift_eq_ok] at h
      obtain ⟨a, _, hclose, c, _, ⟨hexact, _⟩, _⟩ := h
      obtain ⟨found, hfound, _, _, hcontract⟩ := transitionAttempt_eq_ok hclose
      cases hfind.symm.trans hfound
      have hkey := toContract_isOk_iff.mp ⟨a, hcontract⟩
      obtain ⟨hpermit, hdigest, heffect, hprobe, hidentity⟩ :=
        (toContract_checkpoint_iff hcontract).mp ⟨c, hexact⟩
      exact ⟨hkey, fun _ => hpermit, fun _ => hdigest, fun _ => heffect, fun _ => hprobe,
        fun _ => hidentity⟩
    · intro hparts
      obtain ⟨a, hcontract⟩ := (toContract_isOk_iff (m := (ExecutionAttemptModel.transition .unknown
        ((some current).getD (DateTime.utc 0)) none
          (some "ABANDONED_EXECUTING_REQUIRES_RESULT_PROBE")).apply m)).mpr hparts.key
      have hclose := transitionAttempt_returns hfind hcontract
      rw [hstatus] at hclose
      obtain ⟨c, hexact⟩ := (toContract_checkpoint_iff hcontract).mpr ⟨hparts.permit hstatus,
        hparts.digest hstatus, hparts.effect hstatus, hparts.probe hstatus, hparts.identity hstatus⟩
      exact ⟨⟨[c], []⟩, _, bind_eq_ok.mpr ⟨a, _, hclose, (bind_of_ok (lift_eq_ok.mpr ⟨hexact, rfl⟩))⟩⟩

end Row

/-! ## All rows -/

/-- Open rows of the store, each once. -/
structure OpenRows (s : ExecutionStore) (models : List ExecutionAttemptModel) : Prop where
  found : ∀ m ∈ models, s.attempts.find? m.attemptId = some m
  open_ : ∀ m ∈ models, m.status = .authorized ∨ m.status = .executing
  nodup : (models.map (·.attemptId)).Nodup

section Rows

variable {current : DateTime} {m : ExecutionAttemptModel} {models : List ExecutionAttemptModel}
  {s t : ExecutionStore}

/-- Closing the first row leaves the others as they are. -/
theorem OpenRows.tail (h : OpenRows s (m :: models)) (e : Edit ExecutionAttemptModel) :
    OpenRows (s.updateAttempt m.attemptId e) models := by
  obtain ⟨hother, hnodup⟩ := List.nodup_cons.mp h.nodup
  refine ⟨fun x hx => ?_, fun x hx => h.open_ x (List.mem_cons_of_mem m hx), hnodup⟩
  have hne : x.attemptId ≠ m.attemptId := by
    intro hsame
    exact hother (List.mem_map.mpr ⟨x, hx, hsame⟩)
  have hfind := h.found x (List.mem_cons_of_mem m hx)
  rw [ExecutionStore.updateAttempt_attempts, Table.find?_update_ne hne]
  exact hfind

/-- The loop gets through exactly if every row has its parts. -/
theorem recoverRows_returns_iff (h : OpenRows s models) :
    (∃ report t, recoverRows current models s = .ok report t) ↔ ∀ m ∈ models, m.Checkpointed := by
  induction models generalizing s with
  | nil => exact ⟨fun _ m hm => absurd hm List.not_mem_nil, fun _ => ⟨_, s, rfl⟩⟩
  | cons m models ih =>
      have hfind := h.found m (List.mem_cons_self ..)
      have hopen := h.open_ m (List.mem_cons_self ..)
      have hrow : (∃ report t, recoverRow current m s = .ok report t) ↔ m.Checkpointed :=
        recoverRow_returns_iff hfind hopen
      have hrest := ih (h.tail (m.recovery current))
      rw [List.forall_mem_cons]
      constructor
      · rintro ⟨_, _, hrun⟩
        simp only [recoverRows, bind_eq_ok] at hrun
        obtain ⟨first, s', hfirst, rest, t', hloop, _⟩ := hrun
        rw [recoverRow_eq_ok hfind hfirst] at hloop
        exact ⟨hrow.mp ⟨first, s', hfirst⟩, hrest.mp ⟨rest, t', hloop⟩⟩
      · rintro ⟨hparts, hothers⟩
        obtain ⟨first, s', hfirst⟩ := hrow.mpr hparts
        obtain ⟨rest, t, hloop⟩ := hrest.mpr hothers
        rw [← recoverRow_eq_ok hfind hfirst] at hloop
        simp only [recoverRows, bind_eq_ok]
        exact ⟨_, t, first, s', hfirst, rest, t, hloop, rfl⟩

/-- The loop closes every row, and leaves the other rows of the store as they are. -/
theorem recoverRows_leaves (h : OpenRows s models) {report : PersistedExecutionRecoveryReport}
    (hrun : recoverRows current models s = .ok report t) :
    (∀ m ∈ models, t.attempts.find? m.attemptId = some ((m.recovery current).apply m)) ∧
      ∀ id, id ∉ models.map (·.attemptId) → t.attempts.find? id = s.attempts.find? id := by
  induction models generalizing s report with
  | nil =>
      cases hrun
      exact ⟨fun m hm => absurd hm List.not_mem_nil, fun _ _ => rfl⟩
  | cons m models ih =>
      simp only [recoverRows, bind_eq_ok] at hrun
      obtain ⟨first, s', hfirst, rest, t', hloop, hpure⟩ := hrun
      cases hpure
      have hfind := h.found m (List.mem_cons_self ..)
      rw [recoverRow_eq_ok hfind hfirst] at hloop
      obtain ⟨hclosed, hframe⟩ := ih (h.tail (m.recovery current)) hloop
      obtain ⟨hother, _⟩ := List.nodup_cons.mp h.nodup
      refine ⟨List.forall_mem_cons.mpr ⟨?_, hclosed⟩, fun id hid => ?_⟩
      · rw [hframe m.attemptId hother]
        exact Table.find?_update_self hfind
      · rw [List.map_cons, List.mem_cons, not_or] at hid
        rw [hframe id hid.2]
        exact Table.find?_update_ne hid.1

/-- The rows recovery selects are open, and each is selected once. -/
theorem abandonedRows_open (threshold : Stamp) (locked : String → Bool) (s : ExecutionStore) :
    OpenRows s (abandonedRows threshold locked s) := by
  refine ⟨fun m hm => Table.find?_key (mem_abandonedRows.mp hm).1, fun m hm => ?_, ?_⟩
  · have habandoned := (mem_abandonedRows.mp hm).2
    simp only [abandoned, Bool.and_eq_true, Bool.or_eq_true, decide_eq_true_eq] at habandoned
    exact habandoned.1.1
  · have hselected : ((s.attempts.select (abandoned threshold locked)).map (·.attemptId)).Nodup := by
      refine List.pairwise_map.mpr ((s.attempts.consistent.filter _).imp fun hclash hsame => ?_)
      exact hclash (Schema.clash_of_key hsame)
    have hperm := (List.perm_insertionSort recoveryOrder
      (s.attempts.select (abandoned threshold locked))).map (·.attemptId)
    exact hperm.nodup_iff.mpr hselected

end Rows

/-! ## Recovery -/

/-- Recovery closed what it selected: no open row that is old enough and not locked is left, those
that had not started failed, and those that had are unknown. -/
structure AllClosed (threshold : Stamp) (locked : String → Bool) (s t : ExecutionStore) : Prop where
  closed : ∀ m ∈ t.attempts.rows, abandoned threshold locked m = false
  failed : ∀ m ∈ s.attempts.rows, abandoned threshold locked m = true → m.status = .authorized →
    ∃ m', t.attempts.find? m.attemptId = some m' ∧ m'.status = .failed
  unknown : ∀ m ∈ s.attempts.rows, abandoned threshold locked m = true → m.status = .executing →
    ∃ m', t.attempts.find? m.attemptId = some m' ∧ m'.status = .unknown

/-- The loop closes the rows that recovery selects. -/
theorem recoverRows_allClosed {current : DateTime} {threshold : Stamp} {locked : String → Bool}
    {s t : ExecutionStore} {report : PersistedExecutionRecoveryReport}
    (hrun : recoverRows current (abandonedRows threshold locked s) s = .ok report t) :
    AllClosed threshold locked s t := by
  have hopen := abandonedRows_open threshold locked s
  obtain ⟨hclosed, hframe⟩ := recoverRows_leaves hopen hrun
  refine ⟨fun m hm => ?_, fun m hm habandoned hstatus => ?_, fun m hm habandoned hstatus => ?_⟩
  · have hfind : t.attempts.find? m.attemptId = some m := Table.find?_key hm
    by_cases hselected : m.attemptId ∈ (abandonedRows threshold locked s).map (·.attemptId)
    · -- what was selected is closed
      obtain ⟨m₀, hm₀, hid⟩ := List.mem_map.mp hselected
      obtain ⟨_, _, happly⟩ := m₀.recovery_apply current
      have hafter := hclosed m₀ hm₀
      rw [hid, hfind, happly] at hafter
      cases hafter
      unfold abandoned ExecutionAttemptStatus.recovered
      cases m₀.status <;> rfl
    · -- what was not selected is as it was
      rw [hframe m.attemptId hselected] at hfind
      by_contra habandoned
      rw [Bool.not_eq_false] at habandoned
      have hm₀ := mem_abandonedRows.mpr ⟨Table.mem_of_find? hfind, habandoned⟩
      exact hselected (List.mem_map.mpr ⟨m, hm₀, rfl⟩)
  all_goals
    obtain ⟨_, _, happly⟩ := m.recovery_apply current
    refine ⟨_, hclosed m (mem_abandonedRows.mpr ⟨hm, habandoned⟩), ?_⟩
    rw [happly, hstatus]
    rfl

/-- Recovery closes every row it selects exactly if each of them has its parts. -/
theorem recover_closes_iff (minimumAge : Int) (now : Option DateTime) (clock : Stamp)
    (locked : String → Bool) (threshold : DateTime) (hage : 0 ≤ minimumAge)
    (hthreshold : (now.getD (DateTime.utc clock)).add (-minimumAge) = .ok threshold)
    (s : ExecutionStore) :
    AllClosed threshold.bind locked s
        (left (atomic (recoverAbandonedPersistedExecutions minimumAge now clock locked) s)) ↔
      ∀ m ∈ s.attempts.rows, abandoned threshold.bind locked m = true → m.Checkpointed := by
  have hrecover : recoverAbandonedPersistedExecutions minimumAge now clock locked s =
      recoverRows (now.getD (DateTime.utc clock)) (abandonedRows threshold.bind locked s) s := by
    unfold recoverAbandonedPersistedExecutions
    rw [require_bind hage, bind_of_ok (lift_eq_ok.mpr ⟨hthreshold, rfl⟩), read_bind]
  have hreturns : (∃ report t, recoverRows (now.getD (DateTime.utc clock))
      (abandonedRows threshold.bind locked s) s = .ok report t) ↔
        ∀ m ∈ abandonedRows threshold.bind locked s, m.Checkpointed :=
    recoverRows_returns_iff (abandonedRows_open threshold.bind locked s)
  have hparts : (∀ m ∈ s.attempts.rows, abandoned threshold.bind locked m = true → m.Checkpointed) ↔
      ∀ m ∈ abandonedRows threshold.bind locked s, m.Checkpointed := by
    constructor
    · intro h m hm
      obtain ⟨hrow, habandoned⟩ := mem_abandonedRows.mp hm
      exact h m hrow habandoned
    · intro h m hrow habandoned
      exact h m (mem_abandonedRows.mpr ⟨hrow, habandoned⟩)
  rw [hparts, ← hreturns]
  cases hrun : recoverRows (now.getD (DateTime.utc clock)) (abandonedRows threshold.bind locked s) s with
  | ok report t =>
      rw [atomic_eq_ok.mpr (hrecover.trans hrun), left_ok]
      exact ⟨fun _ => ⟨report, t, rfl⟩, fun _ => recoverRows_allClosed hrun⟩
  | error e t =>
      rw [atomic_eq_error.mpr ⟨⟨t, hrecover.trans hrun⟩, rfl⟩, left_error]
      refine ⟨fun hclosed => ?_, fun hok => ?_⟩
      · -- some row was selected, and nothing was written
        have hempty : abandonedRows threshold.bind locked s = [] := by
          refine List.eq_nil_iff_forall_not_mem.mpr fun m hm => ?_
          obtain ⟨hrow, habandoned⟩ := mem_abandonedRows.mp hm
          rw [hclosed.closed m hrow] at habandoned
          cases habandoned
        rw [hempty] at hrun
        cases hrun
      · obtain ⟨_, _, hok⟩ := hok
        cases hok

/-! ## A row without a probe -/

section Run

/-- Two attempts that were abandoned: one had started, and carries a probe or none, and one had
not. -/
def abandonedStore (resultProbeRef : Option String) : ExecutionStore :=
  [GovernanceCall.issuePermit "permit" sampleIssue 0,
    .issuePermit "other" sampleIssue 0,
    .authorizeExecutionAttempt "attempt" { sampleAuthorize with resultProbeRef := resultProbeRef }
      ⟨1, 1, 1⟩,
    .authorizeExecutionAttempt "later"
      { sampleAuthorize with permitId := "other", idempotencyKey := "other" } ⟨2, 2, 2⟩,
    .markExecutionAttemptExecuting "attempt" none 3].foldl
      (GovernanceCall.leaves samplePlatform) .empty

/-- The statuses after a recovery. -/
def statusesAfter (resultProbeRef : Option String) : List ExecutionAttemptStatus :=
  (left (atomic (recoverAbandonedPersistedExecutions 0 (some (.utc 10)) 10 fun _ => false)
    (abandonedStore resultProbeRef))).attempts.rows.map (·.status)

/-- Recovery closes both where the first carries a probe. -/
theorem recover_closes_iff_sample :
    AllClosed 10 (fun _ => false) (abandonedStore (some "probe"))
      (left (atomic (recoverAbandonedPersistedExecutions 0 (some (.utc 10)) 10 fun _ => false)
        (abandonedStore (some "probe")))) := by
  have hparts : ∀ m ∈ (abandonedStore (some "probe")).attempts.rows,
      abandoned 10 (fun _ => false) m = true → m.Checkpointed := by decide +kernel
  exact (recover_closes_iff 0 (some (.utc 10)) 10 (fun _ => false) (.utc 10) (by decide) (by rfl)
    (abandonedStore (some "probe"))).mpr hparts

/-- Where it carries none, neither is closed. -/
theorem one_row_blocks_recovery :
    (abandonedStore none).attempts.rows.map (·.status) = [.executing, .authorized] ∧
      statusesAfter (some "probe") = [.unknown, .failed] ∧
      statusesAfter none = [.executing, .authorized] ∧
      ¬ AllClosed 10 (fun _ => false) (abandonedStore none)
        (left (atomic (recoverAbandonedPersistedExecutions 0 (some (.utc 10)) 10 fun _ => false)
          (abandonedStore none))) := by
  have hleft : ∃ m ∈ (left (atomic (recoverAbandonedPersistedExecutions 0 (some (.utc 10)) 10
      fun _ => false) (abandonedStore none))).attempts.rows,
        abandoned 10 (fun _ => false) m = true := by decide +kernel
  refine ⟨by decide +kernel, by decide +kernel, by decide +kernel, fun h => ?_⟩
  obtain ⟨m, hm, habandoned⟩ := hleft
  rw [h.closed m hm] at habandoned
  cases habandoned

end Run

end AgentPact
