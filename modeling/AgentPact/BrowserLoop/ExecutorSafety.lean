import AgentPact.BrowserLoop.ExecutorMoves

/-!
# Safety of persisted executions

Two properties of every interleaving of executions, recovery, probes and
crashes, from any store.

`execute_at_most_once` is about the calls of the browser.  No two calls share a
permit or an idempotency key of a task, and behind each there is a committed
attempt that this execution moved to executing.  `Owned` is the invariant.
Executions that may still call hold attempts that are theirs alone, and no call
was made with them.  The unique indexes of the attempt table do the rest.

`call_finds_attempt_executing` is about the attempt at the moment of the call.
Recovery selects rows by their age, and an execution holds no lock between its
second transaction and its call.  So the attempt is executing at every call of
runs whose recoveries select no attempt of an execution that is about to call,
and one recovery that does ends that.
-/

namespace AgentPact

open Base Transaction

variable {ι : Type}

/-! ## What a step of the world can do -/

/-- The executing rows that a recovery step may close. -/
def recoveryTouches (w : World ι) : WorldLabel ι → String → Prop
  | .recover minimumAge now clock locked, k =>
      ∃ m, w.store.attempts.find? k = some m ∧ m.status ≠ .authorized ∧
        abandoned (recoveryThreshold minimumAge now clock) locked m = true
  | _, _ => False

/-- What a step of the world can do. -/
inductive WorldMove [DecidableEq ι] (w : World ι) (label : WorldLabel ι) : World ι → Prop
  | environment {t : ExecutionStore} (hstore : StoreMove (recoveryTouches w label) w.store t) :
      WorldMove w label { w with store := t }
  | executor {i : ι} {t : ExecutionStore} {φ : ExecutorPhase} {es : List ExecutorEvent}
      (hmove : ExecutorMove w.store (w.phase i) t φ es) :
      WorldMove w label
        { store := t
          phase := Function.update w.phase i φ
          history := es.map (fun e => (i, e)) ++ w.history }

theorem WorldStep.move [DecidableEq ι] {P : Platform} {label : WorldLabel ι} {w v : World ι}
    (h : WorldStep P label w v) : WorldMove w label v := by
  unfold WorldStep World.next at h
  cases label with
  | executor i l =>
      dsimp only at h
      split at h
      · cases h
      case h_2 t φ es hnext =>
          cases h
          exact .executor (ExecutorPhase.next_move hnext)
  | recover minimumAge now clock locked =>
      cases h
      exact .environment (recover_move minimumAge now clock locked w.store)
  | resolve attemptId confirmed probe now clock =>
      cases h
      exact .environment (resolveUnknownExecutionAttempt_move.atomic StoreMove.refl w.store)
  | issue permitId r clock =>
      cases h
      exact .environment (issuePermit_move.atomic StoreMove.refl w.store)

/-- A step of one execution. -/
theorem WorldStep.executor [DecidableEq ι] {P : Platform} {i : ι} {l : ExecutorLabel}
    {w v : World ι} (h : WorldStep P (.executor i l) w v) :
    ∃ t φ es, (w.phase i).next P w.store l = some (t, φ, es) ∧
      v = { store := t, phase := Function.update w.phase i φ,
            history := es.map (fun e => (i, e)) ++ w.history } := by
  simp only [WorldStep, World.next] at h
  split at h
  · cases h
  case h_2 t φ es hnext =>
      cases h
      exact ⟨t, φ, es, hnext, rfl⟩

/-- An execution calls the browser only when it has marked its attempt executing. -/
theorem WorldStep.call [DecidableEq ι] {P : Platform} {i : ι}
    {outcome : Except String BrowserActionResult} {w v : World ι}
    (h : WorldStep P (.executor i (.executePreflighted outcome)) w v) :
    ∃ c a, w.phase i = .executing c a ∧
      v = { store := w.store, phase := Function.update w.phase i (.returned c a outcome),
            history := (i, .called c a) :: w.history } := by
  obtain ⟨t, φ, es, hnext, rfl⟩ := h.executor
  generalize w.phase i = ψ at hnext
  cases ψ with
  | executing c a =>
      cases hnext
      exact ⟨c, a, rfl, rfl⟩
  | _ => cases hnext

/-- And then it can call. -/
theorem WorldStep.of_executing [DecidableEq ι] {P : Platform} {w : World ι} {i : ι}
    {c : AuthorizedAction} {a : ExecutionAttempt} {outcome : Except String BrowserActionResult}
    (h : w.phase i = .executing c a) :
    WorldStep P (.executor i (.executePreflighted outcome)) w
      { store := w.store, phase := Function.update w.phase i (.returned c a outcome),
        history := (i, .called c a) :: w.history } := by
  simp only [WorldStep, World.next, h]
  rfl

/-! ## Calls -/

/-- The call an event is, if it is one. -/
def ExecutorEvent.call? : ExecutorEvent → Option (AuthorizedAction × ExecutionAttempt)
  | .called c a => some (c, a)
  | .started _ => none

/-- The calls of the browser so far, newest first. -/
def World.calls (w : World ι) : List (AuthorizedAction × ExecutionAttempt) :=
  w.history.filterMap fun e => e.2.call?

/-- What an execution holds that has not called yet. -/
def ExecutorPhase.mayCall : ExecutorPhase → Option (AuthorizedAction × ExecutionAttempt)
  | .authorized c a => some (c, a)
  | .executing c a => some (c, a)
  | _ => none

theorem ExecutorPhase.holds_of_mayCall {φ : ExecutorPhase}
    {x : AuthorizedAction × ExecutionAttempt} (h : φ.mayCall = some x) : φ.holds = some x := by
  cases φ <;> first | exact h | cases h

/-! ## The invariant -/

/-- Executions hold attempts of their own, with rows behind them. -/
structure Owned (w : World ι) : Prop where
  /-- What an execution holds has its rows. -/
  backed : ∀ i c a, (w.phase i).holds = some (c, a) → Backed w.store c a
  /-- What was called has its rows. -/
  called : ∀ x ∈ w.calls, Backed w.store x.1 x.2
  /-- Two executions hold different attempts. -/
  distinct : ∀ i j c d a b, (w.phase i).holds = some (c, a) → (w.phase j).holds = some (d, b) →
    a.attemptId = b.attemptId → i = j
  /-- An execution that may call holds an attempt that no call was made with. -/
  fresh : ∀ i c a, (w.phase i).mayCall = some (c, a) → ∀ x ∈ w.calls,
    a.attemptId ≠ x.2.attemptId
  /-- No two calls were made with one attempt. -/
  nodup : (w.calls.map fun x => x.2.attemptId).Nodup
  /-- An execution about to call has moved its attempt to executing. -/
  started : ∀ i c a, w.phase i = .executing c a → (i, .started a.attemptId) ∈ w.history

theorem Owned.initial {w : World ι} (h : w.Initial) : Owned w := by
  obtain ⟨hphase, hhistory⟩ := h
  have hcalls : w.calls = [] := by rw [World.calls, hhistory]; rfl
  constructor
  · intro i c a hi; rw [hphase] at hi; cases hi
  · intro x hx; rw [hcalls] at hx; cases hx
  · intro i j c d a b hi; rw [hphase] at hi; cases hi
  · intro i c a hi; rw [hphase] at hi; cases hi
  · rw [hcalls]; exact .nil
  · intro i c a hi; rw [hphase] at hi; cases hi

/-- A lawful change of the store keeps the invariant. -/
theorem Owned.environment {w : World ι} (h : Owned w) {t : ExecutionStore}
    (hst : LawfulRun w.store t) : Owned { w with store := t } where
  backed i c a hi := (h.backed i c a hi).mono hst
  called x hx := (h.called x hx).mono hst
  distinct := h.distinct
  fresh := h.fresh
  nodup := h.nodup
  started := h.started

/-- A held attempt has a row. -/
theorem Owned.row {w : World ι} (h : Owned w) {i : ι} {c : AuthorizedAction}
    {a : ExecutionAttempt} (hi : (w.phase i).holds = some (c, a)) :
    w.store.attempts.find? a.attemptId ≠ none := by
  obtain ⟨m, _, hm⟩ := h.backed i c a hi
  rw [hm.attempt]
  exact Option.some_ne_none m

/-- So has a called one. -/
theorem Owned.called_row {w : World ι} (h : Owned w)
    {x : AuthorizedAction × ExecutionAttempt} (hx : x ∈ w.calls) :
    w.store.attempts.find? x.2.attemptId ≠ none := by
  obtain ⟨m, _, hm⟩ := h.called x hx
  rw [hm.attempt]
  exact Option.some_ne_none m

section Moves

variable [DecidableEq ι] {w : World ι} {i : ι} {t : ExecutionStore}

/-- An execution that lets go of its attempt keeps the invariant. -/
theorem Owned.silent (h : Owned w) {φ : ExecutorPhase} (hst : LawfulRun w.store t)
    (hφ : φ.holds = none) :
    Owned { store := t, phase := Function.update w.phase i φ, history := w.history } := by
  have hold : ∀ j x, ((Function.update w.phase i φ) j).holds = some x →
      (w.phase j).holds = some x := by
    intro j x hx
    by_cases hj : j = i
    · subst hj
      rw [Function.update_self, hφ] at hx
      cases hx
    · rwa [Function.update_of_ne hj] at hx
  constructor
  · intro j c a hj
    exact (h.backed j c a (hold j _ hj)).mono hst
  · intro x hx
    exact (h.called x hx).mono hst
  · intro j k c d a b hj hk
    exact h.distinct j k c d a b (hold j _ hj) (hold k _ hk)
  · intro j c a hj
    by_cases hji : j = i
    · subst hji
      simp only [Function.update_self] at hj
      have := ExecutorPhase.holds_of_mayCall hj
      rw [hφ] at this
      cases this
    · exact h.fresh j c a (by simpa [Function.update_of_ne hji] using hj)
  · exact h.nodup
  · intro j c a hj
    by_cases hji : j = i
    · subst hji
      simp only [Function.update_self] at hj
      rw [hj] at hφ
      cases hφ
    · exact h.started j c a (by simpa [Function.update_of_ne hji] using hj)

/-- An execution that registered an attempt holds one that nobody else does. -/
theorem Owned.registered (h : Owned w) {c : AuthorizedAction} {a : ExecutionAttempt}
    (hst : LawfulRun w.store t) (hbacked : Backed t c a)
    (hnew : w.store.attempts.find? a.attemptId = none) :
    Owned { store := t, phase := Function.update w.phase i (.authorized c a),
            history := w.history } := by
  have hold : ∀ j x, ((Function.update w.phase i (.authorized c a)) j).holds = some x →
      (j = i ∧ x = (c, a)) ∨ (j ≠ i ∧ (w.phase j).holds = some x) := by
    intro j x hx
    by_cases hj : j = i
    · subst hj
      rw [Function.update_self] at hx
      exact .inl ⟨rfl, (Option.some.inj hx).symm⟩
    · exact .inr ⟨hj, by rwa [Function.update_of_ne hj] at hx⟩
  constructor
  · intro j d b hj
    rcases hold j _ hj with ⟨_, hx⟩ | ⟨_, hx⟩
    · cases hx; exact hbacked
    · exact (h.backed j d b hx).mono hst
  · intro x hx
    exact (h.called x hx).mono hst
  · intro j k d e b b' hj hk hid
    rcases hold j _ hj with ⟨rfl, hx⟩ | ⟨_, hx⟩ <;> rcases hold k _ hk with ⟨rfl, hy⟩ | ⟨_, hy⟩
    · rfl
    · cases hx
      exact absurd (hid ▸ hnew) (h.row hy)
    · cases hy
      exact absurd (hid ▸ hnew) (h.row hx)
    · exact h.distinct j k d e b b' hx hy hid
  · intro j d b hj x hx hid
    by_cases hji : j = i
    · subst hji
      simp only [Function.update_self] at hj
      cases hj
      exact h.called_row hx (hid ▸ hnew)
    · exact h.fresh j d b (by simpa [Function.update_of_ne hji] using hj) x hx hid
  · exact h.nodup
  · intro j d b hj
    by_cases hji : j = i
    · subst hji
      simp only [Function.update_self] at hj
      cases hj
    · exact h.started j d b (by simpa [Function.update_of_ne hji] using hj)

/-- An execution that marks its attempt executing keeps holding it. -/
theorem Owned.start (h : Owned w) {c : AuthorizedAction} {a : ExecutionAttempt}
    (hst : LawfulRun w.store t) (hphase : w.phase i = .authorized c a) :
    Owned { store := t, phase := Function.update w.phase i (.executing c a),
            history := (i, .started a.attemptId) :: w.history } := by
  have hold : ∀ j x, ((Function.update w.phase i (.executing c a)) j).holds = some x →
      (w.phase j).holds = some x := by
    intro j x hx
    by_cases hj : j = i
    · subst hj
      rw [Function.update_self] at hx
      rw [hphase]
      exact hx
    · rwa [Function.update_of_ne hj] at hx
  have hmay : ∀ j x, ((Function.update w.phase i (.executing c a)) j).mayCall = some x →
      (w.phase j).mayCall = some x := by
    intro j x hx
    by_cases hj : j = i
    · subst hj
      rw [Function.update_self] at hx
      rw [hphase]
      exact hx
    · rwa [Function.update_of_ne hj] at hx
  constructor
  · intro j d b hj
    exact (h.backed j d b (hold j _ hj)).mono hst
  · intro x hx
    exact (h.called x hx).mono hst
  · intro j k d e b b' hj hk
    exact h.distinct j k d e b b' (hold j _ hj) (hold k _ hk)
  · intro j d b hj
    exact h.fresh j d b (hmay j _ hj)
  · exact h.nodup
  · intro j d b hj
    by_cases hji : j = i
    · subst hji
      simp only [Function.update_self] at hj
      cases hj
      exact .head _
    · exact .tail _ (h.started j d b (by simpa [Function.update_of_ne hji] using hj))

/-- A call uses up the attempt of the execution that makes it. -/
theorem Owned.call (h : Owned w) {c : AuthorizedAction} {a : ExecutionAttempt}
    {outcome : Except String BrowserActionResult} (hphase : w.phase i = .executing c a) :
    Owned { store := w.store, phase := Function.update w.phase i (.returned c a outcome),
            history := (i, .called c a) :: w.history } := by
  have hheld : (w.phase i).holds = some (c, a) := by rw [hphase]; rfl
  have hmay : (w.phase i).mayCall = some (c, a) := by rw [hphase]; rfl
  have hold : ∀ j x, ((Function.update w.phase i (.returned c a outcome)) j).holds = some x →
      (w.phase j).holds = some x := by
    intro j x hx
    by_cases hj : j = i
    · subst hj
      rw [Function.update_self] at hx
      rw [hphase]
      exact hx
    · rwa [Function.update_of_ne hj] at hx
  constructor
  · intro j d b hj
    exact h.backed j d b (hold j _ hj)
  · intro x hx
    rcases List.mem_cons.mp hx with rfl | hx
    · exact h.backed i c a hheld
    · exact h.called x hx
  · intro j k d e b b' hj hk
    exact h.distinct j k d e b b' (hold j _ hj) (hold k _ hk)
  · intro j d b hj x hx
    by_cases hji : j = i
    · subst hji
      simp only [Function.update_self] at hj
      cases hj
    · simp only [Function.update_of_ne hji] at hj
      rcases List.mem_cons.mp hx with rfl | hx
      · intro hid
        exact hji (h.distinct j i d c b a (ExecutorPhase.holds_of_mayCall hj) hheld hid)
      · exact h.fresh j d b hj x hx
  · refine List.nodup_cons.mpr ⟨fun hmem => ?_, h.nodup⟩
    obtain ⟨x, hx, hid⟩ := List.mem_map.mp hmem
    exact h.fresh i c a hmay x hx hid.symm
  · intro j d b hj
    by_cases hji : j = i
    · subst hji
      simp only [Function.update_self] at hj
      cases hj
    · exact .tail _ (h.started j d b (by simpa [Function.update_of_ne hji] using hj))

end Moves

/-- Every step keeps the invariant. -/
theorem Owned.step [DecidableEq ι] {P : Platform} {label : WorldLabel ι} {w v : World ι}
    (h : Owned w) (hstep : WorldStep P label w v) : Owned v := by
  cases hstep.move with
  | environment hstore => exact h.environment hstore.lawful
  | @executor i t φ es hmove =>
      generalize hphase : w.phase i = ψ at hmove
      cases hmove with
      | silent hstore hholds => exact h.silent hstore.lawful hholds
      | registered hstore hbacked hnew => exact h.registered hstore.lawful hbacked hnew
      | started hstore _ _ _ _ => exact h.start hstore.lawful hphase
      | called => exact h.call hphase

/-- Every run keeps the invariant. -/
theorem Owned.of_reaches [DecidableEq ι] {P : Platform} {ok : World ι → WorldLabel ι → Prop}
    {w₀ w : World ι} (h₀ : w₀.Initial) (hrun : Reaches (WorldStep P) ok w₀ w) : Owned w :=
  hrun.invariant (fun _ _ _ _ h hstep => h.step hstep) (Owned.initial h₀)

/-! ## At most one write -/

/-- What is different in one respect only where the attempts are is distinct. -/
theorem Owned.calls_nodup {w : World ι} (h : Owned w) {κ : Type}
    (f : AuthorizedAction × ExecutionAttempt → κ)
    (hf : ∀ x ∈ w.calls, ∀ y ∈ w.calls, f x = f y → x.2.attemptId = y.2.attemptId) :
    (w.calls.map f).Nodup := by
  refine List.pairwise_map.mpr ?_
  refine (List.pairwise_map.mp h.nodup).imp_of_mem fun hx hy hne heq => ?_
  exact hne (hf _ hx _ hy heq)

/-- The browser is called at most once per permit and at most once per idempotency key of a
task, and every call has a committed attempt behind it that the caller moved to executing. -/
theorem execute_at_most_once [DecidableEq ι] (P : Platform) {w₀ w : World ι}
    (h₀ : w₀.Initial) (hrun : Reaches (WorldStep P) always w₀ w) :
    (w.calls.map fun x => x.1.authorization.permitId).Nodup ∧
    (w.calls.map fun x => (x.2.taskId, x.1.authorization.idempotencyKey)).Nodup ∧
    ∀ i outcome v, WorldStep P (.executor i (.executePreflighted outcome)) w v →
      ∃ c a m p, v.calls = (c, a) :: w.calls ∧
        (i, ExecutorEvent.started a.attemptId) ∈ w.history ∧
        w.store.attempts.find? a.attemptId = some m ∧
        m.permitId = some c.authorization.permitId ∧
        m.actionFingerprint = c.actionFingerprint ∧ m.observationHash = c.observationId ∧
        w.store.permits.find? c.authorization.permitId = some p ∧ p.status = .consumed := by
  have hw : Owned w := .of_reaches h₀ hrun
  refine ⟨hw.calls_nodup _ fun x hx y hy heq => ?_, hw.calls_nodup _ fun x hx y hy heq => ?_,
    fun i outcome v hcall => ?_⟩
  · exact (hw.called x hx).eq_of_permit (hw.called y hy) heq
  · exact (hw.called x hx).eq_of_key (hw.called y hy) (Prod.ext_iff.mp heq).1
      (Prod.ext_iff.mp heq).2
  · obtain ⟨c, a, hphase, rfl⟩ := hcall.call
    obtain ⟨m, p, hmp⟩ := hw.backed i c a (by rw [hphase]; rfl)
    exact ⟨c, a, m, p, rfl, hw.started i c a hphase, hmp.attempt, hmp.permitId,
      hmp.fingerprint, hmp.observation, hmp.permit, hmp.consumed⟩

/-! ## The attempt at the moment of the call -/

/-- The step closes no attempt of an execution that is about to call. -/
def SparesCalls (w : World ι) (label : WorldLabel ι) : Prop :=
  ∀ i c a, w.phase i = .executing c a → ¬ recoveryTouches w label a.attemptId

/-- Every execution about to call finds its attempt executing. -/
def LiveCalls (w : World ι) : Prop :=
  ∀ i c a, w.phase i = .executing c a →
    ∃ m, w.store.attempts.find? a.attemptId = some m ∧ m.status = .executing

theorem LiveCalls.initial {w : World ι} (h : w.Initial) : LiveCalls w := by
  intro i c a hi
  rw [h.1] at hi
  cases hi

/-- A step that spares the calls keeps their attempts executing. -/
theorem LiveCalls.step [DecidableEq ι] {P : Platform} {label : WorldLabel ι} {w v : World ι}
    (hw : Owned w) (h : LiveCalls w) (hspares : SparesCalls w label)
    (hstep : WorldStep P label w v) : LiveCalls v := by
  cases hstep.move with
  | environment hstore =>
      intro i c a hi
      obtain ⟨m, hm, hexec⟩ := h i c a hi
      exact ⟨m, hstore.keeps _ m (hspares i c a hi) hm hexec, hexec⟩
  | @executor i t φ es hmove =>
      -- whoever else is about to call keeps its row: no transaction touches it
      have hother : ∀ j c a, j ≠ i → w.phase j = .executing c a →
          ∃ m, t.attempts.find? a.attemptId = some m ∧ m.status = .executing := by
        intro j c a hji hj
        obtain ⟨m, hm, hexec⟩ := h j c a hj
        refine ⟨m, ?_, hexec⟩
        generalize hphase : w.phase i = ψ at hmove
        cases hmove with
        | silent hstore _ =>
            refine hstore.keeps _ m ?_ hm hexec
            rintro ⟨d, b, o, hψ, hid⟩
            exact hji (hw.distinct j i c d a b (by rw [hj]; rfl) (by rw [hphase, hψ]; rfl) hid)
        | registered hstore _ _ => exact hstore.keeps _ m id hm hexec
        | started hstore _ _ _ _ => exact hstore.keeps _ m id hm hexec
        | called => exact hm
      intro j c a hj
      by_cases hji : j = i
      · subst hji
        simp only [Function.update_self] at hj
        generalize w.phase j = ψ at hmove
        cases hmove with
        | silent _ hholds => rw [hj] at hholds; cases hholds
        | registered _ _ _ => cases hj
        | started _ _ _ hfind hto => cases hj; exact ⟨_, hfind, hto⟩
        | called => cases hj
      · exact hother j c a hji (by simpa [Function.update_of_ne hji] using hj)

/-- From unknown, the graph does not lead back to executing. -/
theorem not_executing_of_unknown {b : ExecutionAttemptStatus}
    (h : Relation.ReflTransGen StatusEdge .unknown b) : b ≠ .executing := by
  have : b = .unknown ∨ b.settled = true := by
    induction h with
    | refl => exact .inl rfl
    | tail _ hedge ih =>
        rcases ih with rfl | hsettled
        · cases hedge <;> exact .inr rfl
        · rw [hedge.not_settled] at hsettled
          cases hsettled
  rintro rfl
  rcases this with h | h <;> cases h

/-- Recovery that returns leaves no selected row executing. -/
theorem recoverRows_closes {current : DateTime} {models : List ExecutionAttemptModel}
    {s t : ExecutionStore} {report : PersistedExecutionRecoveryReport}
    (h : recoverRows current models s = .ok report t) :
    ∀ m ∈ models, m.status ≠ .authorized →
      ∃ b, t.attempts.find? m.attemptId = some b ∧ b.status ≠ .executing := by
  induction models generalizing s report with
  | nil => intro m hm; cases hm
  | cons m models ih =>
      simp only [recoverRows, bind_eq_ok] at h
      obtain ⟨first, s₁, hfirst, rest, s₂, hrest, hret⟩ := h
      cases hret
      intro m' hm' hstatus
      rcases List.mem_cons.mp hm' with rfl | hm'
      · simp only [recoverRow, if_neg hstatus, bind_eq_ok] at hfirst
        obtain ⟨unknown, s₃, hmark, exact, s₄, hlift, hpure⟩ := hfirst
        cases hpure
        cases (lift_eq_ok.mp hlift).2
        obtain ⟨r, hfind, _, rfl, _⟩ := transitionAttempt_eq_ok hmark
        -- the row is unknown now, and later rows only move it along the graph
        have hlawful := ((recoverRows_move current models).of_ok hrest).lawful
        obtain ⟨b, hb, hhistory⟩ := hlawful.attempts _ _ (Table.find?_update_self hfind)
        exact ⟨b, hb, not_executing_of_unknown hhistory.path⟩
      · exact ih hrest m' hm' hstatus

/-- In runs whose recoveries spare the executions about to call, every call finds its attempt
executing.  A recovery that returns and does not spare them leaves one that will not. -/
theorem call_finds_attempt_executing [DecidableEq ι] (P : Platform) {w₀ w : World ι}
    (h₀ : w₀.Initial) (hrun : Reaches (WorldStep P) SparesCalls w₀ w) :
    (∀ i outcome v, WorldStep P (.executor i (.executePreflighted outcome)) w v →
      ∃ c a m, w.phase i = .executing c a ∧
        w.store.attempts.find? a.attemptId = some m ∧ m.status = .executing) ∧
    ∀ minimumAge now clock locked report t,
      recoverAbandonedPersistedExecutions minimumAge now clock locked w.store = .ok report t →
      ¬ SparesCalls w (.recover minimumAge now clock locked) →
      ∃ v i outcome v' c a m, WorldStep P (.recover minimumAge now clock locked) w v ∧
        WorldStep P (.executor i (.executePreflighted outcome)) v v' ∧
        v.phase i = .executing c a ∧
        v.store.attempts.find? a.attemptId = some m ∧ m.status ≠ .executing := by
  have hlive : Owned w ∧ LiveCalls w := by
    refine Reaches.invariant (I := fun w => Owned w ∧ LiveCalls w) ?_ hrun
      ⟨Owned.initial h₀, LiveCalls.initial h₀⟩
    intro w label v hok h hstep
    exact ⟨h.1.step hstep, h.2.step h.1 hok hstep⟩
  refine ⟨fun i outcome v hcall => ?_, fun minimumAge now clock locked report t hok hhits => ?_⟩
  · obtain ⟨c, a, hphase, _⟩ := hcall.call
    obtain ⟨m, hm, hexec⟩ := hlive.2 i c a hphase
    exact ⟨c, a, m, hphase, hm, hexec⟩
  · simp only [SparesCalls, not_forall, not_not] at hhits
    obtain ⟨i, c, a, hphase, m, hm, hstatus, habandoned⟩ := hhits
    have hrows := hok
    rcases recover_cases minimumAge now clock locked w.store with ⟨e, he⟩ | hrec
    · rw [he] at hok; cases hok
    · rw [hrec] at hrows
      obtain ⟨b, hb, hb'⟩ := recoverRows_closes hrows m
        (mem_abandonedRows.mpr ⟨Table.mem_of_find? hm, habandoned⟩) hstatus
      have hkey : m.attemptId = a.attemptId := Table.key_of_find? hm
      rw [hkey] at hb
      refine ⟨{ w with store := t }, i, .error "", _, c, a, b, ?_, .of_executing hphase, hphase,
        hb, hb'⟩
      simp [WorldStep, World.next, atomic, hok]

/-! ## Two runs of one execution -/

section Run

/-- An external write by locator, under the permit of `sampleIssue`. -/
def sampleCommand : AuthorizedAction where
  action := ⟨.click, "pay", some "button", none, none, none, [], 0, 0, 0⟩
  actionFingerprint := "fingerprint"
  observationId := "observation"
  expectedSnapshotHash := .zero
  authorization := ⟨"permit", "fingerprint", "observation", "key", .externalWrite⟩
  executionProfile := ⟨.locator, 0, ["evidence"], ExecutionMechanism.locator_rank⟩

/-- A world where nothing has happened. -/
def emptyWorld : World Unit := ⟨.empty, fun _ => .idle, []⟩

/-- The second of a run. -/
def secondOfRun (n : Int) : DateTime := .utc (n * DateTime.second)

/-- A permit is issued and an execution gets as far as marking its attempt executing. -/
def startedLabels : List (WorldLabel Unit) :=
  [.issue "permit" sampleIssue 0,
    .executor () (.execute sampleCommand (some "probe")),
    .executor () (.preflight (.ok ())),
    .executor () (.authorize "attempt" (secondOfRun 1) ⟨0, 0, DateTime.second⟩),
    .executor () (.markExecuting (secondOfRun 2))]

/-- The world after a list of labels that all fit. -/
def worldAfter (labels : List (WorldLabel Unit)) : World Unit :=
  (labels.foldlM (World.next samplePlatform) emptyWorld).getD emptyWorld

theorem emptyWorld_initial : emptyWorld.Initial := ⟨fun _ => rfl, rfl⟩

theorem worldStep_of_next [DecidableEq ι] (P : Platform) (w : World ι) (l : WorldLabel ι)
    (v : World ι) (h : w.next P l = some v) : WorldStep P l w v := h

theorem worldAfter_reaches {ok : World Unit → WorldLabel Unit → Prop}
    {labels : List (WorldLabel Unit)} (hok : ∀ w, ∀ l ∈ labels, ok w l)
    (h : (labels.foldlM (World.next samplePlatform) emptyWorld).isSome = true) :
    Reaches (WorldStep samplePlatform) ok emptyWorld (worldAfter labels) := by
  obtain ⟨w, hw⟩ := Option.isSome_iff_exists.mp h
  rw [worldAfter, hw]
  exact Reaches.foldlM (worldStep_of_next samplePlatform) labels hok emptyWorld w hw

/-- One call, and the permit it was made under. -/
theorem execute_at_most_once_sample :
    let w := worldAfter (startedLabels ++ [.executor () (.executePreflighted (.error "Timeout"))])
    w.calls.length = 1 ∧ (w.calls.map fun x => x.1.authorization.permitId).Nodup :=
  ⟨by decide, (execute_at_most_once samplePlatform emptyWorld_initial
    (worldAfter_reaches (fun _ _ _ => trivial) (by decide))).1⟩

/-- A step that is no recovery spares every call. -/
theorem sparesCalls_of_not_recovery {w : World ι} {label : WorldLabel ι}
    (h : ∀ minimumAge now clock locked, label ≠ .recover minimumAge now clock locked) :
    SparesCalls w label := by
  intro i c a _ htouches
  cases label with
  | recover minimumAge now clock locked => exact h minimumAge now clock locked rfl
  | _ => exact htouches

theorem sparesCalls_startedLabels (w : World Unit) :
    ∀ l ∈ startedLabels, SparesCalls w l := by
  intro l hl
  refine sparesCalls_of_not_recovery fun minimumAge now clock locked heq => ?_
  subst heq
  simp [startedLabels] at hl

theorem call_finds_attempt_executing_sample :
    ∃ c a m, (worldAfter startedLabels).phase () = .executing c a ∧
      (worldAfter startedLabels).store.attempts.find? a.attemptId = some m ∧
      m.status = .executing := by
  have hphase : ∃ c a, (worldAfter startedLabels).phase () = .executing c a := ⟨_, _, rfl⟩
  obtain ⟨c, a, hphase⟩ := hphase
  exact (call_finds_attempt_executing samplePlatform emptyWorld_initial
    (worldAfter_reaches sparesCalls_startedLabels (by decide))).1 () (.error "Timeout") _
    (.of_executing hphase)

/-- Recovery one second later, at age zero, and a probe that finds no effect. -/
def overtakenLabels : List (WorldLabel Unit) :=
  startedLabels ++
    [.recover 0 (some (secondOfRun 3)) 0 (fun _ => false),
      .resolve "attempt" false [("status", .str "not_found")] (some (secondOfRun 4)) 0]

/-- The execution calls the browser after its attempt was resolved as failed. -/
theorem call_after_resolution :
    ∃ w v c a m, Reaches (WorldStep samplePlatform) always emptyWorld w ∧
      WorldStep samplePlatform (.executor () (.executePreflighted (.error "Timeout"))) w v ∧
      w.phase () = .executing c a ∧ w.store.attempts.find? a.attemptId = some m ∧
      m.status = .failed :=
  ⟨worldAfter overtakenLabels, _, _, _, _, worldAfter_reaches (fun _ _ _ => trivial) (by decide),
    .of_executing rfl, rfl, rfl, rfl⟩

end Run

end AgentPact
