import AgentPact.Base.Lts
import AgentPact.BrowserLoop.ExecutorMoves
import AgentPact.StripePayment.ProbeContext

/-!
# Runs of submissions and probes

Executions submit, and leave their attempts unknown.  The worker that submitted
persists the checkout session and the payment it exposes with the attempt.  Any
number of workers probe unknown attempts, and resolve them.  Workers crash.  What
Stripe answers is arbitrary, and may be different every time.

`CheckoutStep` is that system, one transaction a step.  An attempt that ends up
confirmed was resolved once, with the evidence of a payment that Stripe had said
succeeded, and that was the payment Stripe had exposed for the session persisted
with the attempt (`confirmed_only_bound_payment`).
-/

namespace AgentPact

open Base Transaction

/-! ## What executions leave alone -/

/-- An attempt that is neither waiting nor running. -/
def ExecutionAttemptStatus.left : ExecutionAttemptStatus → Bool
  | .authorized | .executing => false
  | .confirmed | .unknown | .failed => true

/-- Attempts that executions are through with stay, and the others get no context and are not
confirmed. -/
structure ExecutionStore.SparesLeft (s t : ExecutionStore) : Prop where
  stays : ∀ id m, s.attempts.find? id = some m → m.status.left = true →
    t.attempts.find? id = some m
  bare : ∀ id m, t.attempts.find? id = some m → s.attempts.find? id = some m ∨
    m.status ≠ .confirmed ∧ (m.resultProbe = none ∨
      ∃ m', s.attempts.find? id = some m' ∧ m'.status.left = false ∧ m.resultProbe = m'.resultProbe)

/-- A step that resolves an attempt with any evidence. -/
def WorldLabel.resolves {ι : Type} : WorldLabel ι → Bool
  | .resolve .. => true
  | _ => false

namespace ExecutionStore.SparesLeft

theorem refl (s : ExecutionStore) : s.SparesLeft s := ⟨fun _ _ h _ => h, fun _ _ h => .inl h⟩

theorem trans (s t u : ExecutionStore) (h : s.SparesLeft t) (h' : t.SparesLeft u) :
    s.SparesLeft u where
  stays id m hm hleft := h'.stays id m (h.stays id m hm hleft) hleft
  bare id m hm := by
    rcases h'.bare id m hm with hsame | ⟨hstatus, hnone | ⟨m', hm', hopen, hprobe⟩⟩
    · exact h.bare id m hsame
    · exact .inr ⟨hstatus, .inl hnone⟩
    · rcases h.bare id m' hm' with hsame | ⟨_, hnone | ⟨m'', hm'', hopen', hprobe'⟩⟩
      · exact .inr ⟨hstatus, .inr ⟨m', hsame, hopen, hprobe⟩⟩
      · exact .inr ⟨hstatus, .inl (hprobe.trans hnone)⟩
      · exact .inr ⟨hstatus, .inr ⟨m'', hm'', hopen', hprobe.trans hprobe'⟩⟩

/-- A change of the permits. -/
theorem of_attempts {s t : ExecutionStore} (h : t.attempts = s.attempts) : s.SparesLeft t := by
  refine ⟨fun id m hm _ => ?_, fun id m hm => .inl ?_⟩
  · rw [h]
    exact hm
  · rw [← h]
    exact hm

theorem issuePermit {id : String} {r : IssueRequest} {clock : Stamp} :
    Within SparesLeft (issuePermit id r clock) := by
  intro s
  refine of_attempts ?_
  cases h : AgentPact.issuePermit id r clock s with
  | ok permit t =>
      obtain ⟨_, _, _, hinsert⟩ := issuePermit_eq_ok h
      exact (ExecutionStore.insertPermit?_eq_some.mp hinsert).2
  | error e t => rw [left_error, issuePermit_eq_error h]

/-- Registering an attempt adds it without a context. -/
theorem authorize (P : Platform) (id : String) (r : AuthorizeRequest) (clock : AuthorizeClock) :
    Within SparesLeft (authorizeExecutionAttempt P id r clock) := by
  intro s
  cases h : authorizeExecutionAttempt P id r clock s with
  | ok a t =>
      obtain ⟨_, _, _, _, _, _, _, _, _, _, _, _, _, hinsert, _⟩ := authorizeExecutionAttempt_eq_ok h
      have hadded := (ExecutionStore.insertAttempt?_eq_some.mp hinsert).1
      refine ⟨fun k m hm _ => Table.find?_insert?_of_find? hadded hm, fun k m hm => ?_⟩
      rcases (Table.mem_insert? hadded).mp (Table.mem_of_find? hm) with hold | rfl
      · left
        have hkey := Table.key_of_find? hm
        rw [← hkey]
        exact Table.find?_key hold
      · exact .inr ⟨nofun, .inl rfl⟩
  | error e t =>
      rcases authorizeExecutionAttempt_eq_error h with rfl | ⟨_, _, _, rfl | ⟨_, _, rfl⟩⟩
      · exact refl _
      · exact of_attempts rfl
      · exact of_attempts rfl

/-- A transition of an execution touches only its attempt, and writes no context. -/
theorem transition (id : String) {fromStatus toStatus : ExecutionAttemptStatus}
    (message : Option String) (now : Option DateTime) (clock : Stamp)
    (hopen : fromStatus.left = false) (hto : toStatus ≠ .confirmed) :
    Within SparesLeft (transitionAttempt id fromStatus toStatus none message now clock) := by
  intro s
  rcases transitionAttempt_left id fromStatus toStatus none message now clock s with
    h | ⟨m, hfind, rfl, h⟩
  · rw [h]
    exact refl s
  rw [h]
  refine ⟨fun k m' hm hleft => ?_, fun k m' hm => ?_⟩
  · have hne : k ≠ id := by
      rintro rfl
      cases hm.symm.trans hfind
      cases hopen.symm.trans hleft
    rw [ExecutionStore.updateAttempt_attempts, Table.find?_update_ne hne]
    exact hm
  · rw [ExecutionStore.updateAttempt_attempts] at hm
    by_cases hkey : k = id
    · subst hkey
      rw [Table.find?_update_self hfind] at hm
      cases hm
      right
      unfold ExecutionAttemptModel.transition
      dsimp only
      split
      case isTrue h => exact ⟨hto, .inr ⟨m, hfind, hopen, rfl⟩⟩
      case isFalse => exact ⟨hto, .inl rfl⟩
    · rw [Table.find?_update_ne hkey] at hm
      exact .inl hm

theorem start (id : String) (now : Option DateTime) (clock : Stamp) :
    Within SparesLeft (markExecutionAttemptExecuting id now clock) :=
  transition id none now clock rfl nofun

theorem abandon (id message : String) (now : Option DateTime) (clock : Stamp) :
    Within SparesLeft (abandonAuthorizedExecutionAttempt id message now clock) :=
  transition id (some message) now clock rfl nofun

theorem lose (id message : String) (now : Option DateTime) (clock : Stamp) :
    Within SparesLeft (markExecutionAttemptUnknown id message none now clock) :=
  transition id (some message) now clock rfl nofun

/-- A step of an execution. -/
theorem next {P : Platform} {s t : ExecutionStore} {φ φ' : ExecutorPhase} {l : ExecutorLabel}
    {es : List ExecutorEvent} (h : φ.next P s l = some (t, φ', es)) : s.SparesLeft t := by
  unfold ExecutorPhase.next at h
  split at h
  case h_4 command ref attemptId now clock =>
    have hstore := checkpointed_within refl
      (authorize P attemptId (command.authorizeRequest ref now) clock) s
    split at h
    case h_1 _ _ _ hrun => cases h; rwa [hrun] at hstore
    case h_2 _ _ hrun => cases h; rwa [hrun] at hstore
  case h_5 command attempt now =>
    have hstore := checkpointed_within refl
      (start attempt.attemptId (some now) 0) s
    split at h
    case h_1 _ _ hrun => cases h; rwa [hrun] at hstore
    case h_2 _ _ hrun => cases h; rwa [hrun] at hstore
  case h_7 command attempt outcome now =>
    have hstore := checkpointed_within refl
      (lose attempt.attemptId (ambiguityMessage outcome) (some now) 0) s
    split at h
    case h_1 _ _ _ hrun => cases h; rwa [hrun] at hstore
    case h_2 _ _ hrun => cases h; rwa [hrun] at hstore
  case h_9 => cases h
  all_goals
    repeat' split at h
    all_goals
      cases h
      exact refl s

theorem recoverRows (current : DateTime) (models : List ExecutionAttemptModel) :
    Within SparesLeft (AgentPact.recoverRows current models) := by
  induction models with
  | nil => exact .pure refl _
  | cons m models ih =>
      have hrow : Within SparesLeft (recoverRow current m) := by
        unfold recoverRow
        split
        · exact .bind trans (abandon _ _ _ _) fun _ => .pure refl _
        · exact .bind trans (lose _ _ _ _) fun _ => .bind trans (.lift refl _) fun _ =>
            .pure refl _
      exact .bind trans hrow fun _ => .bind trans ih fun _ => .pure refl _

theorem recover (minimumAge : Int) (now : Option DateTime) (clock : Stamp)
    (locked : String → Bool) :
    Within SparesLeft (recoverAbandonedPersistedExecutions minimumAge now clock locked) := by
  intro s
  rcases recover_cases minimumAge now clock locked s with ⟨e, h⟩ | h
  · rw [h]
    exact refl s
  · rw [h]
    exact recoverRows _ _ s

/-- A step of the executions, of recovery, or of who issues permits. -/
theorem worldStep {ι : Type} [DecidableEq ι] {P : Platform} {l : WorldLabel ι} {v w : World ι}
    (h : WorldStep P l v w) (hresolve : l.resolves = false) : v.store.SparesLeft w.store := by
  unfold WorldStep at h
  cases l with
  | executor i label =>
      simp only [World.next] at h
      split at h
      case h_1 => cases h
      case h_2 t phase events hnext =>
        cases h
        exact next hnext
  | recover minimumAge now clock locked =>
      cases h
      exact (recover minimumAge now clock locked).atomic refl v.store
  | resolve attemptId confirmed resultProbe now clock => cases hresolve
  | issue permitId request clock =>
      cases h
      exact issuePermit.atomic refl v.store

end ExecutionStore.SparesLeft

namespace Stripe

open ProbeContext

/-! ## After the submission -/

theorem none_distinct : ∀ e ∈ (none : Option ResultProbeEvidence), (e.metadata.map (·.1)).Nodup :=
  fun e he => absurd he (Option.not_mem_none e)

/-- The session is persisted, without a payment. -/
def checkoutCall (checkpoint : ExecutionCheckpoint) (sessionId reason : String) : PersistCall :=
  ⟨checkpoint, none, some sessionId, some reason, none_distinct⟩

/-- Why a submission is probed. -/
def probeRequired : String := "hosted Checkout submit requires an independent PaymentIntent probe"

/-- Why the payment of a session is not known yet. -/
def sessionUnavailable : String :=
  "hosted Checkout Session read unavailable: StripeHostedCheckoutError"

/-- The payment that Stripe exposes for a session. -/
def exposedPayment (B : Builtins) (api : StripeApi) (sessionId : String) : Except Raised String := do
  let session ← api.retrieveCheckoutSession B sessionId
  ensure (session.sessionId = sessionId)
    (checkoutError "Stripe Checkout Session response id does not match the requested id")
  orRaise (session.paymentIntentId.filter (· ≠ ""))
    (checkoutError "Stripe Checkout Session did not expose the exact PaymentIntent")

/-- `execute_governed`, once its attempt is unknown. -/
def persistCheckout (P : Platform) (B : Builtins) (api : StripeApi) (checkpoint : ExecutionCheckpoint)
    (sessionId idempotencyKey : String) (checkedAt : DateTime) :
    GovernanceTx ResultProbeEvidence := do
  let exposed ← attempt (ErrorClass.stripeHostedCheckoutError.caughtBy) do
    let payment ← lift (exposedPayment B api sessionId)
    (checkoutCall checkpoint sessionId probeRequired).run P
    pure payment
  match exposed with
  | none => do
      (checkoutCall checkpoint sessionId sessionUnavailable).run P
      throw (checkoutError
        (sessionUnavailable ++ "; retry the exact Checkout Session before probing"))
  | some payment => do
      let e := buildProbeEvidence P payment idempotencyKey .unknown none [probeRequired] checkedAt
      persistProbeContext P checkpoint e (some sessionId)
      pure e

/-! ## The system -/

/-- What happened. -/
inductive CheckoutEvent where
  /-- A session was persisted with an attempt. -/
  | opened (attemptId sessionId : String)
  /-- Stripe exposed a payment for a session. -/
  | exposed (api : StripeApi) (sessionId payment : String)
  /-- A payment was bound to an attempt, with a session. -/
  | bound (attemptId sessionId payment : String)
  /-- Stripe was asked for a payment. -/
  | read (api : StripeApi) (e : ResultProbeEvidence)
  /-- An attempt was resolved. -/
  | resolved (attemptId : String) (e : ResultProbeEvidence)

/-- How far a worker is. -/
inductive ProbePhase where
  /-- It is going to read a payment. -/
  | reading (payment : String)
  | probed (e : ResultProbeEvidence)
  | persisted (e : ResultProbeEvidence)

/-- A worker. -/
structure Probing where
  request : ProbeRequest
  environment : ProbeEnvironment
  phase : ProbePhase

/-- The executions with their store, the workers, and what happened, newest first. -/
structure CheckoutWorld (ι κ : Type) where
  governed : World ι
  probing : κ → Option Probing
  events : List CheckoutEvent

section

variable {ι κ : Type}

/-- The store. -/
def CheckoutWorld.store (w : CheckoutWorld ι κ) : ExecutionStore := w.governed.store

/-- With another store. -/
def CheckoutWorld.put (w : CheckoutWorld ι κ) (t : ExecutionStore) : World ι :=
  { w.governed with store := t }

end

/-- What may happen. -/
inductive CheckoutLabel (ι κ : Type) where
  | governed (l : WorldLabel ι)
  | checkout (checkpoint : ExecutionCheckpoint) (sessionId reason : String)
  /-- `execute_governed` reads the payment of a session. -/
  | retrieve (k : κ) (x : ProbeRequest) (environment : ProbeEnvironment) (api : StripeApi)
      (sessionId : String)
  /-- `probe_governed` loads the context of an attempt, and reads the session again. -/
  | load (k : κ) (x : ProbeRequest) (environment : ProbeEnvironment) (api : StripeApi)
  | probe (k : κ) (api : StripeApi)
  | persist (k : κ)
  | resolve (k : κ)
  /-- The worker raises or returns, or its process crashes. -/
  | leave (k : κ)

/-- What a probe learns of its session. -/
def exposures (x : ProbeRequest) (api : StripeApi) (payment : String) : List CheckoutEvent :=
  match x.checkoutSessionId with
  | some sessionId => if sessionId = "" then [] else [.exposed api sessionId payment]
  | none => []

/-- What persisting evidence with the context of an attempt binds. -/
def bindings (s : ExecutionStore) (x : ProbeRequest) (e : ResultProbeEvidence) :
    List CheckoutEvent :=
  if contextField (contextOf s x.checkpoint.attemptId) "resource_id" = .null then
    [.bound x.checkpoint.attemptId (x.checkoutSessionId.getD "") e.resourceId]
  else []

/-- One step. -/
def CheckoutStep {ι κ : Type} [DecidableEq ι] [DecidableEq κ] (P : Platform) (B : Builtins) :
    CheckoutLabel ι κ → CheckoutWorld ι κ → CheckoutWorld ι κ → Prop
  | .governed l, v, w => l.resolves = false ∧
      ∃ g, WorldStep P l v.governed g ∧ w = { v with governed := g }
  | .checkout checkpoint sessionId reason, v, w => sessionId ≠ "" ∧
      ∃ t, (checkoutCall checkpoint sessionId reason).run P v.store = .ok () t ∧
        w = { v with
          governed := v.put t
          events := .opened checkpoint.attemptId sessionId :: v.events }
  | .retrieve k x env api sessionId, v, w => v.probing k = none ∧
      x.checkoutSessionId = some sessionId ∧
      ∃ payment, exposedPayment B api sessionId = .ok payment ∧
        w = { v with
          probing := Function.update v.probing k (some ⟨x, env, .probed (buildProbeEvidence P payment
            x.idempotencyKey .unknown none [probeRequired] env.checkedAt)⟩)
          events := .exposed api sessionId payment :: v.events }
  | .load k x env api, v, w => v.probing k = none ∧
      ∃ payment, resourceToProbe P B env api x v.store = .ok payment v.store ∧
        w = { v with
          probing := Function.update v.probing k (some ⟨x, env, .reading payment⟩)
          events := exposures x api payment ++ v.events }
  | .probe k api, v, w => ∃ p payment e, v.probing k = some p ∧ p.phase = .reading payment ∧
      api.probe P B p.environment.checkedAt payment p.request.idempotencyKey = .ok e ∧
      e.resourceId = payment ∧
      w = { v with
        probing := Function.update v.probing k (some { p with phase := .probed e })
        events := .read api e :: v.events }
  | .persist k, v, w => ∃ p e t, v.probing k = some p ∧ p.phase = .probed e ∧
      persistProbeContext P p.request.checkpoint e p.request.checkoutSessionId v.store = .ok () t ∧
      w = ⟨v.put t, Function.update v.probing k (some { p with phase := .persisted e }),
        bindings v.store p.request e ++ v.events⟩
  | .resolve k, v, w => ∃ p e t, v.probing k = some p ∧ p.phase = .persisted e ∧
      e.status ≠ .unknown ∧ resolveAttempt P p.environment p.request.checkpoint e v.store = .ok () t ∧
      w = ⟨v.put t, Function.update v.probing k none,
        .resolved p.request.checkpoint.attemptId e :: v.events⟩
  | .leave k, v, w => w = { v with probing := Function.update v.probing k none }

/-! ## Calls are runs -/

section Calls

variable {ι κ : Type} [DecidableEq ι] [DecidableEq κ] {P : Platform} {B : Builtins} {k : κ}
  {v w : CheckoutWorld ι κ} {x : ProbeRequest} {env : ProbeEnvironment} {api : StripeApi}

/-- Where an outcome of a call is in the system: its worker is gone, and the store is the one that is
left. -/
def Finishes (P : Platform) (B : Builtins) (k : κ) (v : CheckoutWorld ι κ) {α : Type}
    (r : EStateM.Result Raised ExecutionStore α) : Prop :=
  ∃ w, Reaches (CheckoutStep P B) always v w ∧ w.probing k = none ∧ w.governed = v.put (left r)

/-- A worker leaves. -/
theorem Finishes.leave {α : Type} {r : EStateM.Result Raised ExecutionStore α}
    (h : Reaches (CheckoutStep P B) always v w) (hstore : w.governed = v.put (left r)) :
    Finishes P B k v r :=
  ⟨{ w with probing := Function.update w.probing k none }, h.tail (l := .leave k) trivial rfl,
    Function.update_self .., hstore⟩

/-- A call that raises has changed nothing. -/
theorem Finishes.raised {α : Type} {e : Raised} :
    Finishes P B k v (.error e v.store : EStateM.Result Raised ExecutionStore α) :=
  .leave (.refl v) rfl

/-- What is left to be done with evidence: it is persisted, and resolves its attempt. -/
theorem persist_finishes {u : CheckoutWorld ι κ} {e : ResultProbeEvidence}
    (h : Reaches (CheckoutStep P B) always v u) (hstore : u.governed = v.put v.store)
    (hworker : u.probing k = some ⟨x, env, .probed e⟩) {f : Unit → GovernanceTx ResultProbeEvidence}
    (hf : ∀ t, f () t = .ok e t ∨ e.status ≠ .unknown ∧
      f () t = (do resolveAttempt P env x.checkpoint e; pure e : GovernanceTx _) t) :
    Finishes P B k v
      ((persistProbeContext P x.checkpoint e x.checkoutSessionId >>= f) v.store) := by
  have hsame : u.store = v.store := congrArg World.store hstore
  refine bind_elim (fun e' t hraised => ?_) fun _ t hpersist => ?_
  · have ht := (Clean.atomic _ : Clean (persistProbeContext P x.checkpoint e x.checkoutSessionId))
      _ _ _ hraised
    rw [ht]
    exact .leave h hstore
  let persisted : CheckoutWorld ι κ := ⟨u.put t,
    Function.update u.probing k (some ⟨x, env, .persisted e⟩), bindings u.store x e ++ u.events⟩
  have hpersisted : CheckoutStep P B (.persist k) u persisted :=
    ⟨_, e, t, hworker, rfl, (congrArg _ hsame).trans hpersist, rfl⟩
  have hput : u.put t = v.put t := by
    unfold CheckoutWorld.put
    rw [hstore]
    rfl
  have hreached := h.tail trivial hpersisted
  rcases hf t with hreturns | ⟨hknown, hresolves⟩
  · rw [hreturns]
    exact .leave hreached hput
  rw [hresolves]
  refine bind_elim (fun e' t' hraised => ?_) fun _ t' hresolve => ?_
  · have ht := (Clean.atomic _ : Clean (resolveAttempt P env x.checkpoint e)) _ _ _ hraised
    rw [ht]
    exact .leave hreached hput
  · have hresolved : CheckoutStep P B (.resolve k) persisted ⟨persisted.put t',
        Function.update persisted.probing k none,
        .resolved x.checkpoint.attemptId e :: persisted.events⟩ :=
      ⟨_, e, t', Function.update_self .., rfl, hknown, hresolve, rfl⟩
    refine .leave (hreached.tail trivial hresolved) ?_
    change { u.governed with store := t' } = _
    rw [hstore]
    rfl

/-- A call of `probe_governed` is a run of the system. -/
theorem probeGoverned_finishes (hidle : v.probing k = none) :
    Finishes P B k v (probeGoverned P B env api x v.store) := by
  unfold probeGoverned
  refine bind_elim (fun e t h => ?_) fun payment t hload => ?_
  · have hkeeps : left (resourceToProbe P B env api x v.store) = v.store := resourceToProbe_keeps _
    rw [h] at hkeeps
    cases hkeeps
    exact .raised
  obtain ⟨rfl, _⟩ := resourceToProbe_eq_ok hload
  refine lift_bind_elim (fun _ _ => .raised) fun e hprobe => ?_
  refine require_bind_elim (fun _ => .raised) fun hbound => ?_
  let loaded : CheckoutWorld ι κ :=
    { v with
      probing := Function.update v.probing k (some ⟨x, env, .reading payment⟩)
      events := exposures x api payment ++ v.events }
  have hloaded : CheckoutStep P B (.load k x env api) v loaded := ⟨hidle, payment, hload, rfl⟩
  have hprobed : CheckoutStep P B (.probe k api) loaded
      { loaded with
        probing := Function.update loaded.probing k (some ⟨x, env, .probed e⟩)
        events := .read api e :: loaded.events } :=
    ⟨_, payment, e, Function.update_self .., rfl, hprobe, hbound.1, rfl⟩
  have hreached : Reaches (CheckoutStep P B) always v _ :=
    (Reaches.single trivial hloaded).tail trivial hprobed
  refine persist_finishes hreached rfl (Function.update_self ..) fun t => ?_
  by_cases hstatus : e.status = .unknown
  · left
    rw [if_pos hstatus]
    rfl
  · right
    rw [if_neg hstatus]
    exact ⟨hstatus, rfl⟩

/-- What a call does after other steps. -/
theorem Finishes.after {u : CheckoutWorld ι κ} {α : Type}
    {r : EStateM.Result Raised ExecutionStore α} (hreached : Reaches (CheckoutStep P B) always v u)
    (hput : ∀ t, u.put t = v.put t) (h : Finishes P B k u r) : Finishes P B k v r := by
  obtain ⟨w, hw, hgone, hstore⟩ := h
  exact ⟨w, hreached.trans hw, hgone, hstore.trans (hput _)⟩

/-- The rest of `execute_governed` is a run of the system. -/
theorem persistCheckout_finishes {checkpoint : ExecutionCheckpoint} {sessionId key : String}
    {checkedAt : DateTime} (facts : StripePaymentFacts) (hidle : v.probing k = none)
    (hnamed : sessionId ≠ "") :
    Finishes P B k v (persistCheckout P B api checkpoint sessionId key checkedAt v.store) := by
  unfold persistCheckout
  let x : ProbeRequest := ⟨facts, key, checkpoint, none, some sessionId⟩
  let env : ProbeEnvironment := ⟨none, checkedAt, 0⟩
  have hclean : Clean (do
      let payment ← lift (exposedPayment B api sessionId)
      (checkoutCall checkpoint sessionId probeRequired).run P
      pure payment : GovernanceTx String) :=
    .bind_keeps (fun _ => .lift _) fun _ => .bind_returns (.atomic _) fun _ _ _ _ => nofun
  refine bind_elim (fun e t h => ?_) fun exposed t h => ?_
  · obtain ⟨hraised, _⟩ := attempt_eq_error.mp h
    rw [hclean _ _ _ hraised]
    exact .raised
  rcases attempt_eq_ok.mp h with ⟨payment, hran, rfl⟩ | ⟨e, hraised, _, rfl⟩
  · obtain ⟨_, hexposed, hran⟩ := lift_bind_eq_ok.mp hran
    obtain ⟨_, _, hpersisted, hpure⟩ := bind_eq_ok.mp hran
    cases hpure
    let opened : CheckoutWorld ι κ :=
      { v with governed := v.put t, events := .opened checkpoint.attemptId sessionId :: v.events }
    have hopened : CheckoutStep P B (.checkout checkpoint sessionId probeRequired) v opened :=
      ⟨hnamed, t, hpersisted, rfl⟩
    let p : Probing := ⟨x, env, .probed (buildProbeEvidence P payment key .unknown none
      [probeRequired] checkedAt)⟩
    let retrieved : CheckoutWorld ι κ :=
      { opened with
        probing := Function.update opened.probing k (some p)
        events := .exposed api sessionId payment :: opened.events }
    have hretrieved : CheckoutStep P B (.retrieve k x env api sessionId) opened retrieved :=
      ⟨hidle, rfl, payment, hexposed, rfl⟩
    have hworker : retrieved.probing k = some p := Function.update_self ..
    refine Finishes.after (.single trivial hopened) (fun _ => rfl) ?_
    exact persist_finishes (.single trivial hretrieved) rfl hworker fun _ => .inl rfl
  · rw [hclean _ _ _ hraised]
    refine bind_elim (fun e t h => ?_) fun _ t h => ?_
    · rw [(Clean.atomic _ : Clean ((checkoutCall checkpoint sessionId sessionUnavailable).run P))
        _ _ _ h]
      exact .raised
    · have hopened : CheckoutStep P B (.checkout checkpoint sessionId sessionUnavailable) v
          { v with
            governed := v.put t
            events := .opened checkpoint.attemptId sessionId :: v.events } := ⟨hnamed, t, h, rfl⟩
      exact .leave (.single trivial hopened) rfl

/-- Whatever `probe_governed` and the rest of `execute_governed` leave of the store, whether they return
or raise, is reached by steps of the system. -/
theorem checkout_calls_reach (hidle : v.probing k = none) :
    (∀ x env api, Finishes P B k v (probeGoverned P B env api x v.store)) ∧
      ∀ (_facts : StripePaymentFacts) api checkpoint sessionId key checkedAt, sessionId ≠ "" →
        Finishes P B k v (persistCheckout P B api checkpoint sessionId key checkedAt v.store) :=
  ⟨fun _ _ _ => probeGoverned_finishes hidle,
    fun facts _ _ _ _ _ hnamed => persistCheckout_finishes facts hidle hnamed⟩

end Calls

/-- An attempt whose outcome nobody knows. -/
def submittedAttempt : ExecutionAttemptModel := { centsAttempt with resultProbe := none }

def submittedWorld : CheckoutWorld Unit Unit :=
  ⟨⟨⟨.empty, ⟨[submittedAttempt], List.pairwise_singleton ..⟩⟩, fun _ => .idle, []⟩,
    fun _ => none, []⟩

/-- An API that exposes the payment of 500 US cents, which succeeded. -/
def paidApi : StripeApi where
  checkoutSession _ := .answered 200 (some (.obj [("id", .str "cs_1"),
    ("payment_intent", .str "pi_1")]))
  paymentIntent _ := .answered 200 (some (.obj [("id", .str "pi_1"), ("status", .str "succeeded"),
    ("amount", .num 500), ("currency", .str "usd")]))

/-- The store after the checkout is persisted, and after the payment is then probed. -/
def checkoutStores : ExecutionStore × ExecutionStore :=
  let opened := left (persistCheckout samplePlatform noBuiltins paidApi centsRequest.checkpoint "cs_1"
    "key" (.utc 1) submittedWorld.store)
  (opened,
    left (probeGoverned samplePlatform noBuiltins centsEnvironment paidApi centsRequest opened))

theorem checkoutStores_confirmed :
    (checkoutStores.2.attempts.find? "attempt").map (·.status) = some .confirmed := by
  decide +kernel

/-- Two calls that finish end in that store. -/
theorem checkout_confirms
    (hcheckout : Finishes samplePlatform noBuiltins () submittedWorld
      (persistCheckout samplePlatform noBuiltins paidApi centsRequest.checkpoint "cs_1" "key" (.utc 1)
        submittedWorld.store))
    (hprobe : ∀ v : CheckoutWorld Unit Unit, v.probing () = none →
      Finishes samplePlatform noBuiltins () v
        (probeGoverned samplePlatform noBuiltins centsEnvironment paidApi centsRequest v.store)) :
    ∃ w, Reaches (CheckoutStep samplePlatform noBuiltins) always submittedWorld w ∧
      (w.store.attempts.find? "attempt").map (·.status) = some .confirmed := by
  obtain ⟨v, hv, hidle, hvstore⟩ := hcheckout
  obtain ⟨w, hw, _, hwstore⟩ := hprobe v hidle
  have hopened : v.store = checkoutStores.1 := congrArg World.store hvstore
  have hprobed : w.store = checkoutStores.2 := by
    have hstore := congrArg World.store hwstore
    rw [hopened] at hstore
    exact hstore
  exact ⟨w, hv.trans hw, hprobed ▸ checkoutStores_confirmed⟩

theorem checkout_calls_reach_sample :
    ∃ w, Reaches (CheckoutStep samplePlatform noBuiltins) always submittedWorld w ∧
      (w.store.attempts.find? "attempt").map (·.status) = some .confirmed :=
  checkout_confirms ((checkout_calls_reach rfl).2 centsRequest.facts _ _ _ _ _ (by decide))
    fun _ hidle => (checkout_calls_reach hidle).1 ..

end Stripe

end AgentPact
