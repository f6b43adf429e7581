import AgentPact.BrowserLoop.PersistedExecutor

/-!
# What persisted executions can do

Every transaction of an execution, of recovery and of a probe is a `StoreMove`:
the tables change as the lifecycle allows, and an executing attempt changes only
where the transaction may touch it.  `ExecutorMove` lists what one step of an
execution can do, and `WorldMove` what one step of the world can.
-/

namespace AgentPact

open Base Transaction

/-! ## Store moves -/

/-- A change of the store that keeps every executing attempt it may not touch. -/
structure StoreMove (touched : String → Prop) (s t : ExecutionStore) : Prop where
  lawful : LawfulRun s t
  keeps : ∀ id m, ¬ touched id → s.attempts.find? id = some m → m.status = .executing →
    t.attempts.find? id = some m

namespace StoreMove

variable {touched touched' : String → Prop}

theorem refl (s : ExecutionStore) : StoreMove touched s s :=
  ⟨LawfulRun.refl s, fun _ _ _ h _ => h⟩

theorem trans (s t u : ExecutionStore) (h : StoreMove touched s t) (h' : StoreMove touched t u) :
    StoreMove touched s u where
  lawful := h.lawful.trans _ _ _ h'.lawful
  keeps id m hid hm hexec := h'.keeps id m hid (h.keeps id m hid hm hexec) hexec

theorem mono (h : ∀ id, touched id → touched' id) {s t : ExecutionStore}
    (hst : StoreMove touched s t) : StoreMove touched' s t :=
  ⟨hst.lawful, fun id m hid => hst.keeps id m fun ht => hid (h id ht)⟩

/-- A change of the permits alone touches no attempt. -/
theorem of_attempts {s t : ExecutionStore} (h : StoreEffect s t) (ha : t.attempts = s.attempts) :
    StoreMove touched s t :=
  ⟨h.lawfulRun, fun _ _ _ hm _ => by rw [ha]; exact hm⟩

end StoreMove

theorem issuePermit_move {touched : String → Prop} {id : String} {r : IssueRequest}
    {clock : Stamp} : Within (StoreMove touched) (issuePermit id r clock) := by
  intro s
  refine .of_attempts issuePermit_effect ?_
  cases h : issuePermit id r clock s with
  | ok permit t =>
      obtain ⟨_, _, _, hinsert⟩ := issuePermit_eq_ok h
      exact (ExecutionStore.insertPermit?_eq_some.mp hinsert).2
  | error e t => rw [left_error, issuePermit_eq_error h]

/-- Registering an attempt adds a row and changes none. -/
theorem authorizeExecutionAttempt_move {touched : String → Prop} {P : Platform} {id : String}
    {r : AuthorizeRequest} {clock : AuthorizeClock} :
    Within (StoreMove touched) (authorizeExecutionAttempt P id r clock) := by
  intro s
  refine ⟨authorizeExecutionAttempt_effect.lawfulRun, fun k m _ hm _ => ?_⟩
  cases h : authorizeExecutionAttempt P id r clock s with
  | ok a t =>
      obtain ⟨_, _, _, _, _, _, _, _, _, _, _, _, _, hinsert, _⟩ := authorizeExecutionAttempt_eq_ok h
      exact Table.find?_insert?_of_find? (ExecutionStore.insertAttempt?_eq_some.mp hinsert).1 hm
  | error e t =>
      rcases authorizeExecutionAttempt_eq_error h with rfl | ⟨_, _, _, rfl | ⟨_, _, rfl⟩⟩
      · exact hm
      · exact hm
      · exact hm

/-- A transition touches its attempt, and only if that was executing. -/
theorem transitionAttempt_move (id : String) {fromStatus toStatus : ExecutionAttemptStatus}
    {probe : Option (List (String × Json))} (message : Option String) (now : Option DateTime)
    (clock : Stamp) (hedge : StatusEdge fromStatus toStatus)
    (hprobe : fromStatus = .unknown → ∃ evidence, probe = some evidence ∧ evidence ≠ []) :
    Within (StoreMove fun k => k = id ∧ fromStatus = .executing)
      (transitionAttempt id fromStatus toStatus probe message now clock) := by
  intro s
  refine ⟨(transitionAttempt_effect hedge hprobe).lawfulRun, fun k m hk hm hexec => ?_⟩
  rcases transitionAttempt_left id fromStatus toStatus probe message now clock s with
    h | ⟨m', hfind, rfl, h⟩
  · rw [h]; exact hm
  · have hne : k ≠ id := by
      intro heq
      subst heq
      cases hm.symm.trans hfind
      exact hk ⟨rfl, hexec⟩
    rw [h, ExecutionStore.updateAttempt_attempts, Table.find?_update_ne hne]
    exact hm

theorem markExecutionAttemptExecuting_move {touched : String → Prop} {id : String}
    {now : Option DateTime} {clock : Stamp} :
    Within (StoreMove touched) (markExecutionAttemptExecuting id now clock) :=
  (transitionAttempt_move id none now clock .start (by simp)).mono
    fun _ _ h => h.mono fun _ hk => absurd hk.2 (by decide)

theorem abandonAuthorizedExecutionAttempt_move {touched : String → Prop} {id message : String}
    {now : Option DateTime} {clock : Stamp} :
    Within (StoreMove touched) (abandonAuthorizedExecutionAttempt id message now clock) :=
  (transitionAttempt_move id (some message) now clock .abandon (by simp)).mono
    fun _ _ h => h.mono fun _ hk => absurd hk.2 (by decide)

theorem markExecutionAttemptUnknown_move {id message : String}
    {probe : Option (List (String × Json))} {now : Option DateTime} {clock : Stamp} :
    Within (StoreMove (· = id)) (markExecutionAttemptUnknown id message probe now clock) :=
  (transitionAttempt_move id (some message) now clock .lose (by simp)).mono
    fun _ _ h => h.mono fun _ hk => hk.1

/-- A probe resolves an unknown attempt, so it touches no executing one. -/
theorem resolveUnknownExecutionAttempt_move {touched : String → Prop} {id : String}
    {confirmed : Bool} {probe : List (String × Json)} {now : Option DateTime} {clock : Stamp} :
    Within (StoreMove touched) (resolveUnknownExecutionAttempt id confirmed probe now clock) := by
  intro s
  refine ⟨resolveUnknownExecutionAttempt_effect.lawfulRun, fun k m hk hm hexec => ?_⟩
  unfold resolveUnknownExecutionAttempt
  by_cases hempty : probe.isEmpty = false
  · rw [require_bind hempty]
    have hedge : StatusEdge .unknown (if confirmed then .confirmed else .failed) := by
      cases confirmed
      · exact .resolveFailed
      · exact .resolveConfirmed
    have hmove := transitionAttempt_move id none now clock hedge
      (fun _ => ⟨probe, rfl, by simpa using hempty⟩) s
    exact hmove.keeps k m (by simp) hm hexec
  · rw [require_bind_not hempty]
    exact hm

/-! ## Recovery -/

/-- Recovery touches a row only to close it, and only if it was executing. -/
theorem recoverRow_move {current : DateTime} {m : ExecutionAttemptModel} :
    Within (StoreMove fun k => k = m.attemptId ∧ m.status ≠ .authorized)
      (recoverRow current m) := by
  unfold recoverRow
  split
  case isTrue h =>
    exact .bind StoreMove.trans abandonAuthorizedExecutionAttempt_move fun _ =>
      .pure StoreMove.refl _
  case isFalse h =>
    refine .bind StoreMove.trans ?_ fun _ => .bind StoreMove.trans (.lift StoreMove.refl _)
      fun _ => .pure StoreMove.refl _
    exact markExecutionAttemptUnknown_move.mono fun s t hst => hst.mono fun k hk => ⟨hk, h⟩

theorem recoverRows_move (current : DateTime) (models : List ExecutionAttemptModel) :
    Within (StoreMove fun k => ∃ m ∈ models, k = m.attemptId ∧ m.status ≠ .authorized)
      (recoverRows current models) := by
  induction models with
  | nil => exact .pure StoreMove.refl _
  | cons m models ih =>
      refine .bind StoreMove.trans ?_ fun _ => .bind StoreMove.trans ?_ fun _ =>
        .pure StoreMove.refl _
      · exact recoverRow_move.mono fun s t hst => hst.mono fun k hk => ⟨m, by simp, hk⟩
      · exact ih.mono fun s t hst => hst.mono fun k ⟨m', hm', hk⟩ => ⟨m', by simp [hm'], hk⟩

/-- The latest creation that recovery considers old enough. -/
def recoveryThreshold (minimumAge : Int) (now : Option DateTime) (clock : Stamp) : Stamp :=
  (now.getD (DateTime.utc clock)).bind - minimumAge

theorem mem_abandonedRows {threshold : Stamp} {locked : String → Bool} {s : ExecutionStore}
    {m : ExecutionAttemptModel} :
    m ∈ abandonedRows threshold locked s ↔
      m ∈ s.attempts.rows ∧ abandoned threshold locked m = true := by
  rw [abandonedRows, List.mem_insertionSort, Table.mem_select]

/-- Recovery raises before it writes, or closes the rows it selected. -/
theorem recover_cases (minimumAge : Int) (now : Option DateTime) (clock : Stamp)
    (locked : String → Bool) (s : ExecutionStore) :
    (∃ e, recoverAbandonedPersistedExecutions minimumAge now clock locked s = .error e s) ∨
      recoverAbandonedPersistedExecutions minimumAge now clock locked s =
        recoverRows (now.getD (DateTime.utc clock))
          (abandonedRows (recoveryThreshold minimumAge now clock) locked s) s := by
  unfold recoverAbandonedPersistedExecutions
  by_cases hage : 0 ≤ minimumAge
  · rw [require_bind hage]
    cases hadd : (now.getD (DateTime.utc clock)).add (-minimumAge) with
    | error e => exact .inl ⟨e, bind_of_error (lift_eq_error.mpr ⟨rfl, rfl⟩)⟩
    | ok threshold =>
        have hbind : threshold.bind = recoveryThreshold minimumAge now clock := by
          rw [(DateTime.add_eq_ok.mp hadd).2]
          rfl
        refine .inr ?_
        rw [bind_of_ok (lift_eq_ok.mpr ⟨rfl, rfl⟩), read_bind, hbind]
  · exact .inl ⟨_, require_bind_not hage⟩

/-- Recovery touches the executing rows it selects. -/
theorem recover_move (minimumAge : Int) (now : Option DateTime) (clock : Stamp)
    (locked : String → Bool) (s : ExecutionStore) :
    StoreMove (fun k => ∃ m, s.attempts.find? k = some m ∧ m.status ≠ .authorized ∧
        abandoned (recoveryThreshold minimumAge now clock) locked m = true)
      s (left (atomic (recoverAbandonedPersistedExecutions minimumAge now clock locked) s)) := by
  rcases recover_cases minimumAge now clock locked s with ⟨e, h⟩ | h
  · unfold atomic
    rw [h]
    exact .refl s
  · have hmove := (recoverRows_move (now.getD (DateTime.utc clock))
      (abandonedRows (recoveryThreshold minimumAge now clock) locked s)).atomic StoreMove.refl s
    have hatomic : atomic (recoverAbandonedPersistedExecutions minimumAge now clock locked) s =
        atomic (recoverRows (now.getD (DateTime.utc clock))
          (abandonedRows (recoveryThreshold minimumAge now clock) locked s)) s := by
      unfold atomic
      rw [h]
    rw [hatomic]
    refine hmove.mono fun k ⟨m, hm, hk, hstatus⟩ => ?_
    obtain ⟨hrow, habandoned⟩ := mem_abandonedRows.mp hm
    exact ⟨m, hk ▸ Table.find?_key hrow, hstatus, habandoned⟩

/-! ## One execution -/

/-- The rows behind a command and its attempt: the attempt carries what the command says, and
its permit is consumed. -/
structure BackedBy (s : ExecutionStore) (c : AuthorizedAction) (a : ExecutionAttempt)
    (m : ExecutionAttemptModel) (p : ExecutionPermitModel) : Prop where
  attempt : s.attempts.find? a.attemptId = some m
  permit : s.permits.find? c.authorization.permitId = some p
  permitId : m.permitId = some c.authorization.permitId
  task : m.taskId = a.taskId
  key : m.idempotencyKey = some c.authorization.idempotencyKey
  fingerprint : m.actionFingerprint = c.actionFingerprint
  observation : m.observationHash = c.observationId
  consumed : p.status = .consumed

/-- A command and its attempt have rows behind them. -/
def Backed (s : ExecutionStore) (c : AuthorizedAction) (a : ExecutionAttempt) : Prop :=
  ∃ m p, BackedBy s c a m p

/-- No lawful change takes the rows away. -/
theorem Backed.mono {s t : ExecutionStore} {c : AuthorizedAction} {a : ExecutionAttempt}
    (h : Backed s c a) (hst : LawfulRun s t) : Backed t c a := by
  obtain ⟨m, p, hmp⟩ := h
  obtain ⟨m', hm', hmm⟩ := hst.attempts _ m hmp.attempt
  obtain ⟨p', hp', hpp⟩ := hst.permits _ p hmp.permit
  have hspent : p' = p := hpp.spent (by rw [hmp.consumed]; decide)
  subst hspent
  refine ⟨m', p', hm', hp', ?_, ?_, ?_, ?_, ?_, hmp.consumed⟩
  · rw [hmm.frame]; exact hmp.permitId
  · rw [hmm.frame]; exact hmp.task
  · rw [hmm.frame]; exact hmp.key
  · rw [hmm.frame]; exact hmp.fingerprint
  · rw [hmm.frame]; exact hmp.observation

/-- Commands with one permit hold one attempt. -/
theorem Backed.eq_of_permit {s : ExecutionStore} {c d : AuthorizedAction}
    {a b : ExecutionAttempt} (hc : Backed s c a) (hd : Backed s d b)
    (h : c.authorization.permitId = d.authorization.permitId) : a.attemptId = b.attemptId := by
  obtain ⟨m, _, hm⟩ := hc
  obtain ⟨n, _, hn⟩ := hd
  have heq : m = n := eq_of_permitId hm.attempt hn.attempt hm.permitId (h ▸ hn.permitId)
  rw [← Table.key_of_find? hm.attempt, ← Table.key_of_find? hn.attempt, heq]

/-- Commands with one key in one task hold one attempt. -/
theorem Backed.eq_of_key {s : ExecutionStore} {c d : AuthorizedAction} {a b : ExecutionAttempt}
    (hc : Backed s c a) (hd : Backed s d b) (htask : a.taskId = b.taskId)
    (h : c.authorization.idempotencyKey = d.authorization.idempotencyKey) :
    a.attemptId = b.attemptId := by
  obtain ⟨m, _, hm⟩ := hc
  obtain ⟨n, _, hn⟩ := hd
  have hclash : m.clash n = true := ExecutionAttemptModel.clash_iff.mpr (.inr (.inr
    ⟨by rw [hm.task, hn.task, htask], _, hm.key, h ▸ hn.key⟩))
  have heq : m = n := Table.eq_of_clash (Table.mem_of_find? hm.attempt)
    (Table.mem_of_find? hn.attempt) hclash
  rw [← Table.key_of_find? hm.attempt, ← Table.key_of_find? hn.attempt, heq]

/-- What one step of an execution can do. -/
inductive ExecutorMove (s : ExecutionStore) :
    ExecutorPhase → ExecutionStore → ExecutorPhase → List ExecutorEvent → Prop
  | silent {φ φ' : ExecutorPhase} {t : ExecutionStore}
      (hstore : StoreMove (fun k => ∃ c a o, φ = .returned c a o ∧ k = a.attemptId) s t)
      (hholds : φ'.holds = none) : ExecutorMove s φ t φ' []
  | registered {c : AuthorizedAction} {ref : String} {a : ExecutionAttempt} {t : ExecutionStore}
      (hstore : StoreMove (fun _ => False) s t) (hbacked : Backed t c a)
      (hnew : s.attempts.find? a.attemptId = none) :
      ExecutorMove s (.authorizing c ref) t (.authorized c a) []
  | started {c : AuthorizedAction} {a : ExecutionAttempt} {m m' : ExecutionAttemptModel}
      {t : ExecutionStore} (hstore : StoreMove (fun _ => False) s t)
      (hfind : s.attempts.find? a.attemptId = some m) (hfrom : m.status = .authorized)
      (hfind' : t.attempts.find? a.attemptId = some m') (hto : m'.status = .executing) :
      ExecutorMove s (.authorized c a) t (.executing c a) [.started a.attemptId]
  | called {c : AuthorizedAction} {a : ExecutionAttempt}
      {outcome : Except String BrowserActionResult} :
      ExecutorMove s (.executing c a) s (.returned c a outcome) [.called c a]

/-- A transaction stays within what its program stays within. -/
theorem checkpointed_within {R : ExecutionStore → ExecutionStore → Prop} (hR : ∀ s, R s s)
    {x : GovernanceTx ExecutionAttempt} (hx : Within R x) (s : ExecutionStore) :
    R s (checkpointed x s).1 := by
  have h := hx.atomic hR s
  unfold checkpointed
  cases hrun : atomic x s with
  | ok a t => rwa [hrun] at h
  | error e t => rwa [hrun] at h

theorem checkpointed_eq_ok {x : GovernanceTx ExecutionAttempt} {s t : ExecutionStore}
    {a : ExecutionAttempt} {c : ExecutionCheckpoint}
    (h : checkpointed x s = (t, .ok (a, c))) : x s = .ok a t := by
  unfold checkpointed at h
  cases hrun : atomic x s with
  | ok a' t' =>
      rw [hrun] at h
      cases hc : checkpoint a' with
      | ok c' =>
          simp only [hc, Except.map, Prod.mk.injEq, Except.ok.injEq] at h
          obtain ⟨rfl, rfl, rfl⟩ := h
          exact atomic_eq_ok.mp hrun
      | error e => simp [hc, Except.map] at h
  | error e t' => simp [hrun] at h

/-- Registering a command leaves its rows behind, under a new identifier. -/
theorem authorize_backed {P : Platform} {id : String} {c : AuthorizedAction} {ref : String}
    {now : DateTime} {clock : AuthorizeClock} {s t : ExecutionStore} {a : ExecutionAttempt}
    (h : authorizeExecutionAttempt P id (c.authorizeRequest ref now) clock s = .ok a t) :
    Backed t c a ∧ s.attempts.find? a.attemptId = none := by
  obtain ⟨p, context, at_, hfind, _, _, _, _, haf, hoh, _, _, _, hinsert, hcontract⟩ :=
    authorizeExecutionAttempt_eq_ok h
  obtain ⟨hrow, hpermits⟩ := ExecutionStore.insertAttempt?_eq_some.mp hinsert
  have hpid : p.permitId = c.authorization.permitId := Table.key_of_find? hfind
  cases hcontract
  refine ⟨⟨_, (ExecutionPermitModel.consume at_).apply p, Table.find?_insert?_self hrow, ?_,
    congrArg some hpid, rfl, rfl, haf, hoh, rfl⟩, Table.find?_none_of_insert? hrow⟩
  rw [hpermits]
  exact Table.find?_update_self hfind

/-- Marking an attempt executing moves it there. -/
theorem markExecuting_moved {id : String} {now : DateTime} {s t : ExecutionStore}
    {a : ExecutionAttempt} (h : markExecutionAttemptExecuting id (some now) 0 s = .ok a t) :
    ∃ m m', s.attempts.find? id = some m ∧ m.status = .authorized ∧
      t.attempts.find? id = some m' ∧ m'.status = .executing := by
  obtain ⟨m, hfind, hstatus, rfl, _⟩ := transitionAttempt_eq_ok h
  exact ⟨m, _, hfind, hstatus, Table.find?_update_self hfind, rfl⟩

/-- A phase that holds nothing is reached in silence when the store does not change. -/
theorem ExecutorMove.quiet {s : ExecutionStore} {φ φ' : ExecutorPhase} (h : φ'.holds = none) :
    ExecutorMove s φ s φ' [] := .silent (StoreMove.refl s) h

/-- One step of an execution does one of the listed things. -/
theorem ExecutorPhase.next_move {P : Platform} {s t : ExecutionStore} {φ φ' : ExecutorPhase}
    {l : ExecutorLabel} {es : List ExecutorEvent} (h : φ.next P s l = some (t, φ', es)) :
    ExecutorMove s φ t φ' es := by
  unfold ExecutorPhase.next at h
  split at h
  case h_1 command ref? =>
      split at h
      · cases h; exact .quiet rfl
      · split at h
        · cases h; exact .quiet rfl
        · split at h
          · cases h; exact .quiet rfl
          · cases h; exact .quiet rfl
  case h_2 outcome =>
      split at h
      · cases h; exact .quiet rfl
      · cases h; exact .quiet rfl
  case h_3 outcome =>
      split at h
      · cases h; exact .quiet rfl
      · cases h; exact .quiet rfl
  case h_4 command ref attemptId now clock =>
      have hmove : StoreMove (fun _ => False) s (checkpointed (authorizeExecutionAttempt P
          attemptId (command.authorizeRequest ref now) clock) s).1 :=
        checkpointed_within StoreMove.refl authorizeExecutionAttempt_move s
      split at h
      case h_1 t' attempt c hrun =>
          cases h
          obtain ⟨hbacked, hnew⟩ := authorize_backed (checkpointed_eq_ok hrun)
          rw [hrun] at hmove
          exact .registered hmove hbacked hnew
      case h_2 t' e hrun =>
          cases h
          rw [hrun] at hmove
          exact .silent (hmove.mono fun _ => False.elim) rfl
  case h_5 command attempt now =>
      have hmove : StoreMove (fun _ => False) s
          (checkpointed (markExecutionAttemptExecuting attempt.attemptId (some now) 0) s).1 :=
        checkpointed_within StoreMove.refl markExecutionAttemptExecuting_move s
      split at h
      case h_1 t' p hrun =>
          cases h
          obtain ⟨m, m', hfind, hfrom, hfind', hto⟩ := markExecuting_moved (checkpointed_eq_ok hrun)
          rw [hrun] at hmove
          exact .started hmove hfind hfrom hfind' hto
      case h_2 t' e hrun =>
          cases h
          rw [hrun] at hmove
          exact .silent (hmove.mono fun _ => False.elim) rfl
  case h_6 command attempt outcome => cases h; exact .called
  case h_7 command attempt outcome now =>
      have hmove : StoreMove (· = attempt.attemptId) s
          (checkpointed (markExecutionAttemptUnknown attempt.attemptId
            (ambiguityMessage outcome) none (some now) 0) s).1 :=
        checkpointed_within StoreMove.refl markExecutionAttemptUnknown_move s
      have hmono := hmove.mono fun k hk =>
        (⟨command, attempt, outcome, rfl, hk⟩ : ∃ c a o,
          ExecutorPhase.returned command attempt outcome = .returned c a o ∧ k = a.attemptId)
      split at h
      case h_1 t' p unknownCheckpoint hrun =>
          cases h
          rw [hrun] at hmono
          exact .silent hmono rfl
      case h_2 t' e hrun =>
          cases h
          rw [hrun] at hmono
          exact .silent hmono rfl
  case h_8 => cases h; exact .quiet rfl
  case h_9 => cases h

/-- A step of an execution is within what its three transactions are within. -/
theorem ExecutorPhase.next_within {R : ExecutionStore → ExecutionStore → Prop} (hR : ∀ s, R s s)
    {P : Platform}
    (hauthorize : ∀ id r clock, Within R (authorizeExecutionAttempt P id r clock))
    (hstart : ∀ id now clock, Within R (markExecutionAttemptExecuting id now clock))
    (hlose : ∀ id message probe now clock,
      Within R (markExecutionAttemptUnknown id message probe now clock))
    {s t : ExecutionStore} {φ φ' : ExecutorPhase} {l : ExecutorLabel} {es : List ExecutorEvent}
    (h : φ.next P s l = some (t, φ', es)) : R s t := by
  unfold ExecutorPhase.next at h
  split at h
  case h_4 command ref attemptId now clock =>
    have hstore := checkpointed_within hR
      (hauthorize attemptId (command.authorizeRequest ref now) clock) s
    split at h
    case h_1 _ _ _ hrun => cases h; rwa [hrun] at hstore
    case h_2 _ _ hrun => cases h; rwa [hrun] at hstore
  case h_5 command attempt now =>
    have hstore := checkpointed_within hR (hstart attempt.attemptId (some now) 0) s
    split at h
    case h_1 _ _ hrun => cases h; rwa [hrun] at hstore
    case h_2 _ _ hrun => cases h; rwa [hrun] at hstore
  case h_7 command attempt outcome now =>
    have hstore := checkpointed_within hR
      (hlose attempt.attemptId (ambiguityMessage outcome) none (some now) 0) s
    split at h
    case h_1 _ _ _ hrun => cases h; rwa [hrun] at hstore
    case h_2 _ _ hrun => cases h; rwa [hrun] at hstore
  case h_9 => cases h
  all_goals
    repeat' split at h
    all_goals
      cases h
      exact hR s

/-- So is recovery within what its two transactions are within. -/
theorem recover_within {R : ExecutionStore → ExecutionStore → Prop} (hR : ∀ s, R s s)
    (htrans : ∀ s t u, R s t → R t u → R s u)
    (habandon : ∀ id message now clock,
      Within R (abandonAuthorizedExecutionAttempt id message now clock))
    (hlose : ∀ id message probe now clock,
      Within R (markExecutionAttemptUnknown id message probe now clock))
    (minimumAge : Int) (now : Option DateTime) (clock : Stamp) (locked : String → Bool) :
    Within R (atomic (recoverAbandonedPersistedExecutions minimumAge now clock locked)) := by
  have hrow : ∀ current m, Within R (recoverRow current m) := by
    intro current m
    unfold recoverRow
    split
    case isTrue => exact .bind htrans (habandon _ _ _ _) fun _ => .pure hR _
    case isFalse =>
      exact .bind htrans (hlose _ _ _ _ _) fun _ => .bind htrans (.lift hR _) fun _ => .pure hR _
  have hrows : ∀ current models, Within R (recoverRows current models) := by
    intro current models
    induction models with
    | nil => exact .pure hR _
    | cons m models ih =>
        exact .bind htrans (hrow current m) fun _ => .bind htrans ih fun _ => .pure hR _
  refine .atomic hR fun s => ?_
  rcases recover_cases minimumAge now clock locked s with ⟨e, h⟩ | h
  · rw [h]; exact hR s
  · rw [h]; exact hrows _ _ s

end AgentPact
