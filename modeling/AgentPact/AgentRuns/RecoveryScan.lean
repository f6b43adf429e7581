import Mathlib.Data.Finset.Card
import AgentPact.AgentRuns.CoherentRuns

/-!
# What a recovery scan resumes

The scan claims the oldest approved actions up to its limit, and then resumes
those whose task and step are still paused.  The others stay approved, and are
the oldest again in the next scan.

A scan resumes one action of each task that it finds paused
(`reobserveAll_length`).  `scan_resumes_iff` says when that is as many as the
limit allows.
-/

namespace AgentPact

open Base Transaction

/-! ## Eligible actions -/

/-- The task and the step of an action are paused. -/
def Database.eligible (db : Database) (m : PendingActionModel) : Bool :=
  match db.task? m.taskId m.organizationId, db.step? m.stepId m.taskId m.organizationId with
  | some task, some step => task.status = .pendingApproval && step.status = .pendingApproval
  | _, _ => false

theorem Database.eligible_iff {db : Database} {m : PendingActionModel} :
    db.eligible m = true ↔ db.Resumable m := by
  unfold Database.eligible Database.Resumable
  cases db.task? m.taskId m.organizationId <;>
    cases db.step? m.stepId m.taskId m.organizationId <;> simp

/-- The approved actions that a scan could claim, oldest first. -/
def Database.claimable (db : Database) (organizationId : Option String)
    (held : PendingActionModel → Bool) : List PendingActionModel :=
  db.pendingActions.select fun m =>
    m.status = .approved && organizationId.all (· = m.organizationId) && !held m

/-- Resuming an eligible action. -/
def Database.resumed (db : Database) (m : PendingActionModel) : Database :=
  (db.updatePending m.pendingActionId (PendingActionModel.move .approved .invalidated
    invalidated_resolved)).setNativeStatus m.taskId m.stepId .resuming .resuming

/-- An approved action is resumed if it is eligible, and else refused. -/
theorem beginReobservation_cases {db : Database} {m : PendingActionModel}
    (hfind : db.pendingActions.find? m.pendingActionId = some m) (happroved : m.status = .approved) :
    (db.eligible m = true ∧ ∃ r, beginReobservationAfterApproval m.taskId m.stepId m.organizationId
        m.pendingActionId m.rowVersion db = .ok r (db.resumed m)) ∨
      (db.eligible m = false ∧ ∃ text, beginReobservationAfterApproval m.taskId m.stepId
        m.organizationId m.pendingActionId m.rowVersion db =
          .error ⟨.approvalPauseError, text⟩ db) := by
  cases hrun : beginReobservationAfterApproval m.taskId m.stepId m.organizationId m.pendingActionId
      m.rowVersion db with
  | ok r t =>
      obtain ⟨_, task, step, _, _, _, _, _, htask, htaskStatus, hstep, hstepStatus, _, rfl⟩ :=
        beginReobservationAfterApproval_eq_ok hrun
      have hresumable : db.Resumable m := ⟨task, step, htask, htaskStatus, hstep, hstepStatus⟩
      exact .inl ⟨Database.eligible_iff.mpr hresumable, r, rfl⟩
  | error e t =>
      refine .inr ?_
      simp only [beginReobservationAfterApproval, loadTaskAndStep,
        invalidateApprovedActionForReobservation, getForUpdate, bind_eq_error, fetch_eq_ok,
        fetch_eq_error, require_eq_ok, require_eq_error, write_eq_ok, write_ne_error] at hrun
      have hload : Option.filter (fun x => decide (x.status = PendingActionStatus.approved) &&
          decide (x.rowVersion = m.rowVersion)) (db.pendingActions.find? m.pendingActionId) = some m := by
        rw [hfind]
        simp [happroved]
      have hnot : ∀ h : ¬ db.Resumable m, db.eligible m = false := fun h =>
        Bool.eq_false_iff.mpr (mt Database.eligible_iff.mp h)
      rw [hload] at hrun
      rcases hrun with ⟨hnone, _⟩ | ⟨_, _, ⟨hsome, rfl⟩, hrun⟩
      · cases hnone
      cases hsome
      rcases hrun with ⟨hother, _⟩ | ⟨_, _, ⟨_, rfl⟩, hrun⟩
      · exact absurd ⟨rfl, rfl⟩ hother
      rcases hrun with ⟨hnone, rfl, rfl⟩ | ⟨pair, _, ⟨hpair, rfl⟩, hrun⟩
      · refine ⟨hnot ?_, _, rfl⟩
        rintro ⟨task, step, htask, _, hstep, _⟩
        rw [htask, Option.bind_some, hstep] at hnone
        cases hnone
      rcases hrun with ⟨hstatus, rfl, rfl⟩ | ⟨_, _, ⟨_, rfl⟩, hrun⟩
      · refine ⟨hnot ?_, _, rfl⟩
        rintro ⟨task, step, htask, htaskStatus, hstep, hstepStatus⟩
        rw [htask, Option.bind_some, hstep] at hpair
        cases hpair
        exact hstatus ⟨htaskStatus, hstepStatus⟩
      -- the action is approved, in the version that was read
      rcases hrun with hrun | ⟨_, _, _, hrun⟩
      · rw [hfind] at hrun
        rcases hrun with ⟨hnone, _⟩ | ⟨_, _, ⟨hsome, rfl⟩, hrun⟩
        · cases hnone
        cases hsome
        rcases hrun with ⟨hother, _⟩ | ⟨_, _, _, hrun⟩
        · exact absurd happroved hother
        rcases hrun with ⟨hother, _⟩ | ⟨_, _, _, hfalse | ⟨_, _, _, hpure⟩⟩
        · exact absurd rfl hother
        · cases hfalse
        · cases hpure
      · rcases hrun with hfalse | ⟨_, _, _, hpure⟩
        · cases hfalse
        · cases hpure

theorem Database.resumable_iff {db : Database} {m : PendingActionModel} :
    db.Resumable m ↔ ∃ n : TaskModel × StepModel,
      db.getNativePair m.taskId m.stepId m.organizationId = .ok (some n) ∧
        n.1.status = .pendingApproval ∧ n.2.status = .pendingApproval := by
  constructor
  · rintro ⟨task, step, htask, htaskStatus, hstep, hstepStatus⟩
    exact ⟨(task, step), getNativePair_eq_some.mpr ⟨htask, hstep⟩, htaskStatus, hstepStatus⟩
  · rintro ⟨n, hpair, htaskStatus, hstepStatus⟩
    obtain ⟨htask, hstep⟩ := getNativePair_eq_some.mp hpair
    exact ⟨n.1, n.2, htask, htaskStatus, hstep, hstepStatus⟩

/-- Once an action is resumed, no action of its task is eligible, and the others are as they were. -/
theorem Database.eligible_resumed {db : Database} {m : PendingActionModel} (h : db.Resumable m)
    (x : PendingActionModel) :
    (db.resumed m).eligible x = (db.eligible x && decide (x.taskId ≠ m.taskId)) := by
  obtain ⟨task, step, htask, _, hstep, _⟩ := h
  rw [Bool.eq_iff_iff, Bool.and_eq_true, eligible_iff, eligible_iff, decide_eq_true_eq]
  by_cases hsame : x.taskId = m.taskId
  · refine iff_of_false ?_ fun hx => hx.2 hsame
    rintro ⟨task', _, htask', hpaused, _⟩
    -- the task is resuming
    obtain ⟨hfind, _⟩ := Option.filter_eq_some_iff.mp htask
    obtain ⟨hfind', _⟩ := Option.filter_eq_some_iff.mp htask'
    have hset : (db.resumed m).tasks.find? m.taskId =
        some ((TaskModel.setStatus .resuming).apply task) := Table.find?_update_self hfind
    rw [hsame, hset] at hfind'
    cases hfind'
    cases hpaused
  · have hpair : (db.resumed m).getNativePair x.taskId x.stepId x.organizationId =
        db.getNativePair x.taskId x.stepId x.organizationId :=
      Database.getNativePair_setNativeStatus hsame hstep
    rw [resumable_iff, resumable_iff, hpair]
    exact (and_iff_left hsame).symm

/-! ## What a scan resumes -/

/-- An element and those that differ from it. -/
theorem length_dedup_cons {α : Type} [DecidableEq α] (a : α) (l : List α) :
    (a :: l).dedup.length = (l.filter (· ≠ a)).dedup.length + 1 := by
  have hmem : a ∉ (l.filter (· ≠ a)).toFinset := by simp
  have hsame : insert a (l.filter (· ≠ a)).toFinset = (a :: l).toFinset := by
    ext x
    simp only [Finset.mem_insert, List.mem_toFinset, List.mem_filter, List.mem_cons]
    by_cases hx : x = a <;> simp [hx]
  rw [← List.card_toFinset, ← List.card_toFinset, ← hsame, Finset.card_insert_of_notMem hmem]

/-- The rows of a scan, as it finds them. -/
def Claimed (db : Database) (ms : List PendingActionModel) : Prop :=
  (∀ m ∈ ms, db.pendingActions.find? m.pendingActionId = some m ∧ m.status = .approved) ∧
    (ms.map (·.pendingActionId)).Nodup

theorem Claimed.tail {db : Database} {m : PendingActionModel} {ms : List PendingActionModel}
    (h : Claimed db (m :: ms)) : Claimed db ms :=
  ⟨fun x hx => h.1 x (List.mem_cons_of_mem _ hx), (List.nodup_cons.mp h.2).2⟩

/-- Resuming the first row leaves the others as they were. -/
theorem Claimed.resumed {db : Database} {m : PendingActionModel} {ms : List PendingActionModel}
    (h : Claimed db (m :: ms)) : Claimed (db.resumed m) ms := by
  obtain ⟨hother, hnodup⟩ := List.nodup_cons.mp h.2
  refine ⟨fun x hx => ⟨?_, (h.tail.1 x hx).2⟩, hnodup⟩
  have hne : x.pendingActionId ≠ m.pendingActionId := fun hid =>
    hother (List.mem_map.mpr ⟨x, hx, hid⟩)
  exact (Table.find?_update_ne hne).trans (h.tail.1 x hx).1

/-- A scan goes through, and resumes one action of each task that has an eligible one. -/
theorem reobserveAll_length (ms : List PendingActionModel) (db : Database) (h : Claimed db ms) :
    ∃ resumptions t, reobserveAll ms db = .ok resumptions t ∧
      resumptions.length = ((ms.filter db.eligible).map (·.taskId)).dedup.length := by
  induction ms generalizing db with
  | nil => exact ⟨[], db, rfl, rfl⟩
  | cons m ms ih =>
      obtain ⟨hfind, happroved⟩ := h.1 m (List.mem_cons_self ..)
      rcases beginReobservation_cases hfind happroved with
        ⟨heligible, r, hbegin⟩ | ⟨hrefused, text, hbegin⟩
      · -- the rows of the same task are no longer eligible
        obtain ⟨resumptions, t, hscan, hlength⟩ := ih (db.resumed m) h.resumed
        refine ⟨r :: resumptions, t, ?_, ?_⟩
        · unfold reobserveAll
          refine bind_eq_ok.mpr ⟨some r, db.resumed m,
            attempt_eq_ok.mpr (.inl ⟨r, hbegin, rfl⟩), ?_⟩
          exact bind_eq_ok.mpr ⟨resumptions, t, hscan, rfl⟩
        · have hrest : ms.filter (fun x => decide (x.taskId ≠ m.taskId) && db.eligible x) =
              ms.filter (db.resumed m).eligible := List.filter_congr fun x _ => by
            rw [Database.eligible_resumed (Database.eligible_iff.mp heligible), Bool.and_comm]
          rw [List.filter_cons_of_pos heligible, List.map_cons, length_dedup_cons,
            List.length_cons, hlength, List.filter_map, List.filter_filter, ← hrest]
          rfl
      · obtain ⟨resumptions, t, hscan, hlength⟩ :=
          ih db h.tail
        refine ⟨resumptions, t, ?_, ?_⟩
        · unfold reobserveAll
          refine bind_eq_ok.mpr ⟨none, db, attempt_eq_ok.mpr (.inr ⟨_, hbegin, rfl, rfl⟩), ?_⟩
          exact bind_eq_ok.mpr ⟨resumptions, t, hscan, rfl⟩
        · rw [List.filter_cons_of_neg (by simp [hrefused]), hlength]

/-! ## How many that is -/

/-- The distinct values of a prefix are as many as a limit allows of a whole list exactly when they
are distinct already, and the prefix is full or has all of them. -/
theorem length_dedup_take_iff {α β : Type} [DecidableEq β] (p : α → Bool) (f : α → β) (l : List α)
    (n : Nat) : (((l.take n).filter p).map f).dedup.length = min n (l.filter p).length ↔
      (((l.take n).filter p).map f).Nodup ∧
        ((∀ a ∈ l.take n, p a = true) ∨ ∀ a ∈ l.drop n, p a = false) := by
  have hdedup := List.dedup_sublist (((l.take n).filter p).map f)
  have hdistinct : (((l.take n).filter p).map f).Nodup ↔
      (((l.take n).filter p).map f).dedup.length = ((l.take n).filter p).length := by
    rw [← List.dedup_eq_self, ← List.length_map f]
    exact ⟨fun h => by rw [h], fun h => hdedup.eq_of_length h⟩
  have hall : (∀ a ∈ l.take n, p a = true) ↔
      ((l.take n).filter p).length = (l.take n).length := List.length_filter_eq_length_iff.symm
  have hnone : (∀ a ∈ l.drop n, p a = false) ↔ ((l.drop n).filter p).length = 0 := by
    rw [List.length_eq_zero_iff, List.filter_eq_nil_iff]
    simp only [Bool.not_eq_true]
  have hsum : (l.filter p).length = ((l.take n).filter p).length + ((l.drop n).filter p).length := by
    rw [← List.length_append, ← List.filter_append, List.take_append_drop]
  have hle : ((l.take n).filter p).length ≤ (l.take n).length := List.length_filter_le ..
  have hle' : ((l.drop n).filter p).length ≤ (l.drop n).length := List.length_filter_le ..
  have hfew := hdedup.length_le
  rw [List.length_map] at hfew
  rw [List.length_take] at hle hall
  rw [List.length_drop] at hle'
  rw [hdistinct, hall, hnone, hsum]
  omega

/-- The actions that a scan could resume. -/
def Database.waiting (db : Database) (organizationId : Option String)
    (held : PendingActionModel → Bool) : List PendingActionModel :=
  (db.claimable organizationId held).filter db.eligible

section Scan

variable {db : Database} {organizationId : Option String} {held : PendingActionModel → Bool}
  {limit : Int}

/-- A scan resumes as many actions as its limit allows. -/
def ScansFully (db : Database) (organizationId : Option String) (limit : Int)
    (held : PendingActionModel → Bool) : Prop :=
  ∃ resumptions t,
    prepareApprovedPausesForReobservation organizationId limit held db = .ok resumptions t ∧
      resumptions.length = min limit.toNat (db.waiting organizationId held).length

/-- No two eligible actions that a scan claims are of one task, and it claims none that is not
eligible, unless it claims all that are. -/
structure Unobstructed (db : Database) (organizationId : Option String) (limit : Int)
    (held : PendingActionModel → Bool) : Prop where
  distinct : ((((db.claimable organizationId held).take limit.toNat).filter db.eligible).map
    (·.taskId)).Nodup
  claims : (∀ m ∈ (db.claimable organizationId held).take limit.toNat, db.eligible m = true) ∨
    ∀ m ∈ (db.claimable organizationId held).drop limit.toNat, db.eligible m = false

theorem claimed_claimable :
    Claimed db ((db.claimable organizationId held).take limit.toNat) := by
  have hkeys : (db.pendingActions.rows.map (·.pendingActionId)).Nodup :=
    List.pairwise_map.mpr (db.pendingActions.consistent.imp fun hab hid =>
      hab (Schema.clash_of_key hid))
  refine ⟨fun m hm => ?_, hkeys.sublist (((List.take_sublist _ _).trans
    List.filter_sublist).map _)⟩
  obtain ⟨hrow, hselected⟩ := Table.mem_select.mp (List.mem_of_mem_take hm)
  simp only [Bool.and_eq_true, decide_eq_true_eq] at hselected
  exact ⟨Table.find?_key hrow, hselected.1.1⟩

/-- A scan with a positive limit is the resumption of what it claims. -/
theorem prepare_eq (hlimit : 1 ≤ limit) :
    prepareApprovedPausesForReobservation organizationId limit held db =
      reobserveAll ((db.claimable organizationId held).take limit.toNat) db := by
  unfold prepareApprovedPausesForReobservation
  rw [require_bind (by omega), read_bind]
  rfl

/-! ## Repeating the scan -/

/-- Resuming an action leaves those of other tasks to be resumed. -/
theorem waiting_resumed {m : PendingActionModel}
    (hfind : db.pendingActions.find? m.pendingActionId = some m) (hresumable : db.Resumable m) :
    (db.resumed m).waiting organizationId held =
      (db.waiting organizationId held).filter (fun x => decide (x.taskId ≠ m.taskId)) := by
  have heligible : (db.resumed m).eligible =
      fun x => db.eligible x && decide (x.taskId ≠ m.taskId) :=
    funext (Database.eligible_resumed hresumable)
  have hstays : (db.resumed m).pendingActions.select (fun x =>
        (db.eligible x && decide (x.taskId ≠ m.taskId)) && (x.status = .approved &&
          organizationId.all (· = x.organizationId) && !held x)) =
      db.pendingActions.select (fun x => (db.eligible x && decide (x.taskId ≠ m.taskId)) &&
        (x.status = .approved && organizationId.all (· = x.organizationId) && !held x)) := by
    refine Table.select_update fun r hr => ?_
    cases hfind.symm.trans hr
    obtain ⟨htask, _⟩ := PendingActionModel.move_same .approved .invalidated invalidated_resolved m
    simp [htask]
  unfold Database.waiting Database.claimable Table.select at *
  rw [heligible, List.filter_filter, hstays, List.filter_filter, List.filter_filter]
  refine List.filter_congr fun x _ => ?_
  rw [Bool.and_comm (db.eligible x)]

/-- What a scan resumed waits no longer. -/
theorem reobserveAll_waiting (ms : List PendingActionModel) (db : Database)
    (hclaimed : Claimed db ms) (hms : ∀ m ∈ ms, m ∈ db.claimable organizationId held)
    {resumptions : List ApprovalPauseState} {t : Database}
    (hscan : reobserveAll ms db = .ok resumptions t) :
    (t.waiting organizationId held).length + resumptions.length ≤
      (db.waiting organizationId held).length := by
  induction ms generalizing db resumptions with
  | nil => cases hscan; exact Nat.le_refl _
  | cons m ms ih =>
      obtain ⟨hfind, happroved⟩ := hclaimed.1 m (List.mem_cons_self ..)
      have hclaimable := hms m (List.mem_cons_self ..)
      have htail : ∀ x ∈ ms, x ∈ db.claimable organizationId held := fun x hx =>
        hms x (List.mem_cons_of_mem _ hx)
      simp only [reobserveAll, bind_eq_ok] at hscan
      obtain ⟨resumed, s, hattempt, rest, _, hrest, hpure⟩ := hscan
      cases hpure
      rcases beginReobservation_cases hfind happroved with
        ⟨heligible, r, hbegin⟩ | ⟨_, text, hbegin⟩
      · rcases attempt_eq_ok.mp hattempt with ⟨r', hbegin', rfl⟩ | ⟨_, hraised, _, _⟩
        case inr => rw [hbegin] at hraised; cases hraised
        cases hbegin.symm.trans hbegin'
        have hless := ih (db.resumed m) hclaimed.resumed (fun x hx => ?_) hrest
        · have hwaiting : m ∈ db.waiting organizationId held :=
            List.mem_filter.mpr ⟨hclaimable, heligible⟩
          have hfewer : ((db.waiting organizationId held).filter
              (fun x => decide (x.taskId ≠ m.taskId))).length <
                (db.waiting organizationId held).length :=
            List.length_filter_lt_length_iff_exists.mpr ⟨m, hwaiting, by simp⟩
          rw [waiting_resumed hfind (Database.eligible_iff.mp heligible)] at hless
          simp only [Option.toList_some, List.singleton_append, List.length_cons]
          omega
        · have hrow := (hclaimed.resumed.1 x hx).1
          have hselected := (Table.mem_select.mp (htail x hx)).2
          exact Table.mem_select.mpr ⟨Table.mem_of_find? hrow, hselected⟩
      · rcases attempt_eq_ok.mp hattempt with ⟨_, hbegin', _⟩ | ⟨_, hraised, _, rfl⟩
        · rw [hbegin] at hbegin'
          cases hbegin'
        · cases hbegin.symm.trans hraised
          exact ih db hclaimed.tail htail hrest

/-- The database after a scan. -/
def afterScan (organizationId : Option String) (limit : Int) (held : PendingActionModel → Bool)
    (db : Database) : Database :=
  left (atomic (prepareApprovedPausesForReobservation organizationId limit held) db)

/-- After a full scan, at most the actions beyond its limit wait. -/
theorem ScansFully.afterScan_waiting (hlimit : 1 ≤ limit)
    (h : ScansFully db organizationId limit held) :
    ((afterScan organizationId limit held db).waiting organizationId held).length ≤
      (db.waiting organizationId held).length - limit.toNat := by
  obtain ⟨resumptions, t, hrun, hlength⟩ := h
  have hafter : afterScan organizationId limit held db = t := by
    unfold afterScan
    rw [atomic_eq_ok.mpr hrun, left_ok]
  rw [prepare_eq hlimit] at hrun
  have hwaiting := reobserveAll_waiting _ db claimed_claimable
    (fun m hm => List.mem_of_mem_take hm) hrun
  rw [hafter]
  omega

/-- A scan resumes as many actions as its limit allows exactly when nothing obstructs it. -/
theorem scansFully_iff (hlimit : 1 ≤ limit) : ScansFully db organizationId limit held ↔
    Unobstructed db organizationId limit held := by
  obtain ⟨resumptions, t, hscan, hlength⟩ := reobserveAll_length
    ((db.claimable organizationId held).take limit.toNat) db claimed_claimable
  have hiff := length_dedup_take_iff db.eligible (·.taskId) (db.claimable organizationId held)
    limit.toNat
  rw [← hlength] at hiff
  unfold ScansFully
  rw [prepare_eq hlimit]
  constructor
  · rintro ⟨resumptions', t', hscan', hlength'⟩
    rw [hscan] at hscan'
    cases hscan'
    obtain ⟨hdistinct, hclaims⟩ := hiff.mp hlength'
    exact ⟨hdistinct, hclaims⟩
  · rintro ⟨hdistinct, hclaims⟩
    exact ⟨resumptions, t, hscan, hiff.mpr ⟨hdistinct, hclaims⟩⟩

end Scan

/-- A scan resumes as many actions as its limit allows exactly when nothing obstructs it, and scans
that nothing obstructs resume every action that waits. -/
theorem scan_resumes_iff {limit : Int} (hlimit : 1 ≤ limit) (organizationId : Option String)
    (held : PendingActionModel → Bool) (db : Database) :
    (ScansFully db organizationId limit held ↔ Unobstructed db organizationId limit held) ∧
      ∀ scans : Nat, (∀ k < scans,
          Unobstructed ((afterScan organizationId limit held)^[k] db) organizationId limit held) →
        (db.waiting organizationId held).length ≤ scans * limit.toNat →
        ((afterScan organizationId limit held)^[scans] db).waiting organizationId held = [] := by
  refine ⟨scansFully_iff hlimit, fun scans hscans hmany => ?_⟩
  have hfewer : (((afterScan organizationId limit held)^[scans] db).waiting organizationId held).length
      ≤ (db.waiting organizationId held).length - scans * limit.toNat := by
    clear hmany
    induction scans with
    | zero => simp
    | succ k ih =>
        have hbefore := ih fun j hj => hscans j (Nat.lt_succ_of_lt hj)
        have hfull := (scansFully_iff hlimit).mpr (hscans k (Nat.lt_succ_self k))
        have hafter := hfull.afterScan_waiting hlimit
        rw [Function.iterate_succ_apply', Nat.succ_mul]
        omega
  exact List.length_eq_zero_iff.mp (by omega)

/-! ## A stale action -/

section Run

/-- An approved action of a task that was canceled since. -/
def staleAction : PendingActionModel :=
  ⟨"stale", "canceled", "canceled-step", "org", some "first", .approved, 3, (DateTime.utc 1000).bind⟩

/-- An approved action of a paused task. -/
def pausedAction : PendingActionModel :=
  ⟨"paused", "task", "step", "org", some "second", .approved, 3, (DateTime.utc 1000).bind⟩

/-- The paused task, and nothing stale. -/
def freshDatabase : Database where
  tasks := ⟨[⟨"canceled", "org", .canceled, none⟩, ⟨"task", "org", .pendingApproval, none⟩], by decide⟩
  steps := ⟨[⟨"canceled-step", "canceled", "org", .canceled⟩,
    ⟨"step", "task", "org", .pendingApproval⟩], by decide⟩
  admissions := .empty
  audit := .empty
  pendingActions := ⟨[pausedAction], List.pairwise_singleton _ _⟩
  approvals := .empty
  execution := .empty

/-- The paused task, behind a stale action. -/
def staleDatabase : Database :=
  { freshDatabase with pendingActions := ⟨[staleAction, pausedAction], by decide⟩ }

/-- Without the stale action, one scan resumes all that waits. -/
theorem scan_resumes_iff_sample :
    (afterScan none 1 (fun _ => false) freshDatabase).waiting none (fun _ => false) = [] := by
  refine (scan_resumes_iff (by decide : (1 : Int) ≤ 1) none (fun _ => false) freshDatabase).2 1
    (fun k hk => ?_) (by decide)
  obtain rfl : k = 0 := by omega
  exact ⟨by decide, .inl (by decide)⟩

/-- Behind it, no number of scans resumes what waits. -/
theorem stale_action_starves :
    (staleDatabase.waiting none fun _ => false) = [pausedAction] ∧
      ¬ ScansFully staleDatabase none 1 (fun _ => false) ∧
      ∀ scans, (afterScan none 1 (fun _ => false))^[scans] staleDatabase = staleDatabase := by
  refine ⟨by decide, fun hfull => ?_, fun scans => ?_⟩
  · rcases ((scansFully_iff (by decide)).mp hfull).claims with hall | hnone
    · exact absurd (hall staleAction (by decide)) (by decide)
    · exact absurd (hnone pausedAction (by decide)) (by decide)
  · have hsame : afterScan none 1 (fun _ => false) staleDatabase = staleDatabase := rfl
    exact Function.iterate_fixed hsame scans

end Run

end AgentPact
