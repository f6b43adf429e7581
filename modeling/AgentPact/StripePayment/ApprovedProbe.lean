import AgentPact.StripePayment.ResultProbe

/-!
# What a probe confirms

A probe reads the payment that its attempt is bound to.  It takes the answer for
that payment: neither the id in the answer nor the amount and the currency of
the approved facts are compared with it.

`confirms_only_approved_iff` says when this makes no difference.  The argument
follows a call in two directions: `probeGoverned_of_succeeded` runs one whose
payment was answered as succeeded, and `Confirms.reads` takes one apart that
confirmed.
-/

namespace AgentPact

open Base Transaction

namespace Stripe

variable {P : Platform} {B : Builtins} {env : ProbeEnvironment} {api : StripeApi}
  {x : ProbeRequest}

/-! ## The resource -/

/-- The attempt of a checkpoint, as a probe wants it. -/
structure IsProbed (checkpoint : ExecutionCheckpoint) (m : ExecutionAttemptModel) : Prop where
  unknown : m.status = .unknown
  permit : m.permitId = some checkpoint.permitId
  probe : m.resultProbeRef = some resultProbeRef
  digest : m.idempotencyKeyDigest = some checkpoint.idempotencyKeyDigest

/-- What is known of an id that will be read. -/
structure Resourced (B : Builtins) (api : StripeApi) (x : ProbeRequest)
    (m : ExecutionAttemptModel) (id : String) (before after : Json) : Prop where
  probed : IsProbed x.checkpoint m
  before_eq : resourceBefore (probeContext m) x.resourceId x.checkoutSessionId = .ok before
  after_eq : resourceAfter B api x.checkoutSessionId before = .ok after
  id_eq : resourceId after = .ok id

theorem resourceToProbe_eq_ok {s t : ExecutionStore} {id : String}
    (h : resourceToProbe P B env api x s = .ok id t) :
    t = s ∧ ∃ m before after, s.attempts.find? x.checkpoint.attemptId = some m ∧
      Resourced B api x m id before after := by
  simp only [resourceToProbe, loadProbeContext, attemptOf, bind_eq_ok, require_eq_ok, lift_eq_ok,
    atomic_eq_ok, fetch_eq_ok, pure_apply, EStateM.Result.ok.injEq] at h
  obtain ⟨_, _, ⟨_, rfl⟩, same, _, ⟨_, rfl⟩, _, _, ⟨_, rfl⟩, context, _,
    ⟨m, _, ⟨hm, rfl⟩, _, _, ⟨⟨hunknown, hpermit, _, _, hprobe, hdigest⟩, rfl⟩, rfl, rfl⟩,
    before, _, ⟨hbefore, rfl⟩, _, _, ⟨_, rfl⟩, after, _, ⟨hafter, rfl⟩, hid, rfl⟩ := h
  exact ⟨rfl, m, before, after, hm, ⟨hunknown, hpermit, hprobe, hdigest⟩, hbefore, hafter, hid⟩

theorem resourceToProbe_keeps (s : ExecutionStore) :
    Keeps (resourceToProbe P B env api x) s := by
  unfold resourceToProbe
  refine .bind (.require ..) fun _ _ => .bind (.lift _) fun _ _ => .bind (.require ..) fun _ _ =>
    .bind (.atomic fun context t ht => ?_) fun _ _ => .bind (.lift _) fun _ _ =>
      .bind (.lift _) fun _ _ => .bind (.lift _) fun _ _ => .lift _
  simp only [attemptOf, bind_eq_ok, fetch_eq_ok, require_eq_ok, pure_apply,
    EStateM.Result.ok.injEq] at ht
  obtain ⟨m, _, ⟨_, rfl⟩, _, _, ⟨_, rfl⟩, _, rfl⟩ := ht
  rfl

theorem resourceId_eq_ok {resource : Json} {id : String} (h : resourceId resource = .ok id) :
    resource = .str id ∧ validatePaymentIntentId id = .ok () := by
  obtain ⟨_, _, h⟩ := except_bind_eq_ok.mp h
  cases resource with
  | str text =>
      obtain ⟨_, hvalid, h⟩ := except_bind_eq_ok.mp h
      cases h
      exact ⟨rfl, hvalid⟩
  | _ => cases h

/-- A resource that a context is bound to: the one it names, or the one that its session exposes. -/
def BoundTo (B : Builtins) (api : StripeApi) (context : List (String × Json)) (id : String) : Prop :=
  contextField context "resource_id" = .str id ∨
    ∃ sessionId session, contextSession context = .str sessionId ∧
      api.retrieveCheckoutSession B sessionId = .ok session ∧ session.paymentIntentId = some id

theorem bindingAllowed_eq_ok {context : List (String × Json)} {resource : String}
    {checkoutSessionId : Option String}
    (h : bindingAllowed context resource checkoutSessionId = .ok ()) :
    contextField context "resource_id" = .str resource ∨ ∃ sessionId,
      checkoutSessionId = some sessionId ∧ sessionId ≠ "" ∧
      contextSession context = .str sessionId := by
  obtain ⟨_, _, h⟩ := except_bind_eq_ok.mp h
  obtain ⟨_, hresource, h⟩ := except_bind_eq_ok.mp h
  rcases ensure_eq_ok.mp hresource with hnull | hsame
  · rcases ensure_eq_ok.mp h with hnot | ⟨hne, hsession⟩
    · exact absurd hnull hnot
    · cases hid : checkoutSessionId with
      | none =>
          rw [hid] at hne
          exact absurd rfl hne
      | some sessionId =>
          rw [hid] at hne hsession
          exact .inr ⟨sessionId, rfl, hne, hsession⟩
  · exact .inl hsame

/-- The id that will be read is bound to the attempt. -/
theorem Resourced.boundTo {m : ExecutionAttemptModel} {id : String} {before after : Json}
    (h : Resourced B api x m id before after)
    (hallowed : bindingAllowed (probeContext m) id x.checkoutSessionId = .ok ()) :
    BoundTo B api (probeContext m) id := by
  rcases bindingAllowed_eq_ok hallowed with hsame | ⟨sessionId, hsome, hne, hsession⟩
  · exact .inl hsame
  · have hafter := h.after_eq
    unfold resourceAfter at hafter
    rw [hsome] at hafter
    dsimp only at hafter
    rw [if_neg hne] at hafter
    obtain ⟨session, hretrieved, hrest⟩ := except_bind_eq_ok.mp hafter
    obtain ⟨_, _, hrest⟩ := except_bind_eq_ok.mp hrest
    obtain ⟨_, _, hexposed⟩ := except_bind_eq_ok.mp hrest
    have hid := (resourceId_eq_ok h.id_eq).1
    rw [← Except.ok.inj hexposed] at hid
    refine .inr ⟨sessionId, session, hsession, hretrieved, ?_⟩
    cases hpayment : session.paymentIntentId with
    | none =>
        rw [hpayment] at hid
        cases hid
    | some payment =>
        rw [hpayment] at hid
        cases hid
        rfl

/-! ## The read -/

/-- An answer with a payment that has succeeded. -/
structure Succeeded (B : Builtins) (api : StripeApi) (id : String)
    (r : StripePaymentIntentRead) : Prop where
  answer : ∃ body, api.paymentIntent id = .answered 200 (some body) ∧
    readPaymentIntent? B body = some r
  succeeded : r.status = "succeeded"

/-- A probe of a payment that was answered as succeeded. -/
theorem probe_of_succeeded {id : String} (key : String) {r : StripePaymentIntentRead}
    (hvalid : validatePaymentIntentId id = .ok ()) (h : Succeeded B api id r)
    (checkedAt : DateTime) : ∃ e, api.probe P B checkedAt id key = .ok e ∧
      e.status = .confirmed ∧ e.resourceId = id ∧ e.probeRef = resultProbeRef := by
  obtain ⟨⟨body, hanswer, hread⟩, hstatus⟩ := h
  refine ⟨buildProbeEvidence P id key (classifyPaymentIntent r) (some r) r.reasons checkedAt,
    ?_, ?_, rfl, rfl⟩
  · unfold StripeApi.probe
    rw [hvalid, hanswer]
    change (do
      let r ← orRaise (readPaymentIntent? B body)
        (probeError "Unexpected Stripe PaymentIntent payload")
      pure (buildProbeEvidence P id key (classifyPaymentIntent r) (some r) r.reasons checkedAt)) = _
    rw [hread]
    rfl
  · exact if_pos hstatus

/-- Only a payment that was answered as succeeded is confirmed. -/
theorem succeeded_of_probe {id key : String} {checkedAt : DateTime} {e : ResultProbeEvidence}
    (h : api.probe P B checkedAt id key = .ok e) (hconfirmed : e.status = .confirmed) :
    ∃ r, Succeeded B api id r := by
  obtain ⟨_, _, h⟩ := except_bind_eq_ok.mp h
  cases hanswer : api.paymentIntent id with
  | unavailable name =>
      rw [hanswer] at h
      cases h
      cases hconfirmed
  | answered status body =>
      rw [hanswer] at h
      dsimp only at h
      split at h
      case isTrue =>
        cases h
        cases hconfirmed
      case isFalse =>
        split at h
        case isTrue => cases h
        case isFalse =>
          split at h
          case isTrue =>
            cases h
            cases hconfirmed
          case isFalse =>
            obtain ⟨_, hstatus, h⟩ := except_bind_eq_ok.mp h
            obtain ⟨payload, hbody, h⟩ := except_bind_eq_ok.mp h
            obtain ⟨r, hread, h⟩ := except_bind_eq_ok.mp h
            have hok : status = 200 := ensure_eq_ok.mp hstatus
            refine ⟨r, ⟨payload, ?_, orRaise_eq_ok.mp hread⟩, ?_⟩
            · rw [hanswer, hok, orRaise_eq_ok.mp hbody]
            · cases h
              by_contra hne
              have hclass : classifyPaymentIntent r = .confirmed := hconfirmed
              unfold classifyPaymentIntent at hclass
              rw [if_neg hne] at hclass
              split at hclass <;> cases hclass

/-! ## A call -/

/-- Whether a call told its caller or its attempt that the payment was confirmed. -/
def Confirms (s : ExecutionStore) (attemptId : String)
    (r : EStateM.Result Raised ExecutionStore ResultProbeEvidence) : Prop :=
  (∃ e t, r = .ok e t ∧ e.status = .confirmed) ∨
    ∃ m m', s.attempts.find? attemptId = some m ∧ m.status ≠ .confirmed ∧
      (left r).attempts.find? attemptId = some m' ∧ m'.status = .confirmed

/-- The attempt after its context was persisted. -/
def persistedStore (P : Platform) (x : ProbeRequest) (e : ResultProbeEvidence)
    (m : ExecutionAttemptModel) (s : ExecutionStore) : ExecutionStore :=
  s.updateAttempt x.checkpoint.attemptId (withContext
    (e.modelDumpWith P (persistedMetadata e (probeContext m) x.checkoutSessionId)))

theorem persistProbeContext_eq_ok {e : ResultProbeEvidence} {s t : ExecutionStore} :
    persistProbeContext P x.checkpoint e x.checkoutSessionId s = .ok () t ↔
      ∃ m, s.attempts.find? x.checkpoint.attemptId = some m ∧ m.status = .unknown ∧
        bindingAllowed (probeContext m) e.resourceId x.checkoutSessionId = .ok () ∧
        t = persistedStore P x e m s := by
  simp only [persistProbeContext, atomic_eq_ok, bind_eq_ok, fetch_eq_ok, require_eq_ok,
    lift_eq_ok, write_eq_ok]
  constructor
  · rintro ⟨m, _, ⟨hm, rfl⟩, _, _, ⟨hunknown, rfl⟩, _, _, ⟨hallowed, rfl⟩, rfl⟩
    exact ⟨m, hm, hunknown, hallowed, rfl⟩
  · rintro ⟨m, hm, hunknown, hallowed, rfl⟩
    exact ⟨m, s, ⟨hm, rfl⟩, (), s, ⟨hunknown, rfl⟩, (), s, ⟨hallowed, rfl⟩, rfl⟩

/-- A context was persisted for the attempt that was there. -/
theorem persistedStore_find {e : ResultProbeEvidence} {m : ExecutionAttemptModel}
    {s : ExecutionStore} (hm : s.attempts.find? x.checkpoint.attemptId = some m) :
    ∃ payload, (persistedStore P x e m s).attempts.find? x.checkpoint.attemptId =
      some { m with resultProbe := some payload } :=
  ⟨_, Table.find?_update_self hm⟩

/-- What resolving an attempt writes. -/
def resolution (P : Platform) (env : ProbeEnvironment) (e : ResultProbeEvidence) :
    Edit ExecutionAttemptModel :=
  ExecutionAttemptModel.transition (if decide (e.status = .confirmed) then .confirmed else .failed)
    (DateTime.utc env.clock) (some (e.modelDumpWith P e.metadata)) none

theorem resolution_status (e : ResultProbeEvidence) (m : ExecutionAttemptModel) :
    ((resolution P env e).apply m).status = .confirmed ↔ e.status = .confirmed := by
  unfold resolution ExecutionAttemptModel.transition
  by_cases h : e.status = .confirmed
  · simp [h]
  · simp [h]

theorem resolution_key (e : ResultProbeEvidence) (m : ExecutionAttemptModel) :
    ((resolution P env e).apply m).idempotencyKey = m.idempotencyKey := by
  unfold resolution ExecutionAttemptModel.transition
  dsimp only
  split <;> split <;> rfl

theorem toContract_eq_ok {m : ExecutionAttemptModel} {a : ExecutionAttempt}
    (h : m.toContract = .ok a) : ∃ key, m.idempotencyKey = some key := by
  unfold ExecutionAttemptModel.toContract at h
  split at h
  case h_1 => cases h
  case h_2 key hkey => exact ⟨key, hkey⟩

/-- An attempt is resolved if it is the one that is probed and has a key. -/
theorem resolveAttempt_eq_ok {e : ResultProbeEvidence} {s t : ExecutionStore} :
    resolveAttempt P env x.checkpoint e s = .ok () t ↔
      ∃ m key, s.attempts.find? x.checkpoint.attemptId = some m ∧ IsProbed x.checkpoint m ∧
        m.idempotencyKey = some key ∧
        t = s.updateAttempt x.checkpoint.attemptId (resolution P env e) := by
  constructor
  · intro h
    simp only [resolveAttempt, resolveUnknownExecutionAttempt, attemptOf, atomic_eq_ok, bind_eq_ok,
      fetch_eq_ok, require_eq_ok, pure_apply, EStateM.Result.ok.injEq] at h
    obtain ⟨m, _, ⟨hm, rfl⟩, _, _, ⟨hfields, rfl⟩, a, _, ⟨_, _, ⟨_, rfl⟩, htransition⟩, _, rfl⟩ := h
    obtain ⟨m', hm', _, ht, hcontract⟩ := transitionAttempt_eq_ok htransition
    have hsame : m' = m := Option.some.inj (hm'.symm.trans hm)
    subst hsame
    obtain ⟨key, hkey⟩ := toContract_eq_ok hcontract
    have hkept : m'.idempotencyKey = some key :=
      (resolution_key e m').symm.trans hkey
    exact ⟨m', key, hm, ⟨hfields.1, hfields.2.1, hfields.2.2.1, hfields.2.2.2⟩, hkept, ht⟩
  · rintro ⟨m, key, hm, hprobed, hkey, rfl⟩
    have hfields : m.status = .unknown ∧ m.permitId = some x.checkpoint.permitId ∧
        m.resultProbeRef = some resultProbeRef ∧
        m.idempotencyKeyDigest = some x.checkpoint.idempotencyKeyDigest :=
      ⟨hprobed.unknown, hprobed.permit, hprobed.probe, hprobed.digest⟩
    obtain ⟨a, ha⟩ : ∃ a, ((resolution P env e).apply m).toContract = .ok a := by
      unfold ExecutionAttemptModel.toContract
      rw [resolution_key, hkey]
      exact ⟨_, rfl⟩
    have hresolve : resolveUnknownExecutionAttempt x.checkpoint.attemptId
        (decide (e.status = .confirmed)) (e.modelDumpWith P e.metadata) none env.clock s =
          .ok a (s.updateAttempt x.checkpoint.attemptId (resolution P env e)) := by
      have hevidence : (e.modelDumpWith P e.metadata).isEmpty = false := rfl
      have hfetch : fetch (fun s : ExecutionStore => s.attempts.find? x.checkpoint.attemptId)
          (⟨.executionAttemptError, "Execution attempt does not exist"⟩ : Raised) s = .ok m s :=
        fetch_eq_ok.mpr ⟨hm, rfl⟩
      unfold resolveUnknownExecutionAttempt transitionAttempt
      rw [require_bind hevidence, bind_of_ok hfetch, require_bind hprobed.unknown, write_bind]
      exact lift_eq_ok.mpr ⟨ha, rfl⟩
    have hfetch : attemptOf x.checkpoint s = .ok m s := fetch_eq_ok.mpr ⟨hm, rfl⟩
    unfold resolveAttempt
    rw [atomic_eq_ok, bind_of_ok hfetch, require_bind hfields, bind_of_ok hresolve]
    rfl

/-- A call whose payment is answered as succeeded confirms it. -/
theorem probeGoverned_of_succeeded {s : ExecutionStore} {id key : String}
    {r : StripePaymentIntentRead} {m : ExecutionAttemptModel}
    (hresource : resourceToProbe P B env api x s = .ok id s)
    (hm : s.attempts.find? x.checkpoint.attemptId = some m)
    (hallowed : bindingAllowed (probeContext m) id x.checkoutSessionId = .ok ())
    (hkey : m.idempotencyKey = some key) (hr : Succeeded B api id r) :
    Confirms s x.checkpoint.attemptId (probeGoverned P B env api x s) := by
  obtain ⟨_, m', before, after, hm', hresourced⟩ := resourceToProbe_eq_ok hresource
  have hsame : m' = m := Option.some.inj (hm'.symm.trans hm)
  subst hsame
  obtain ⟨e, he, hconfirmed, hid, href⟩ := probe_of_succeeded (P := P) x.idempotencyKey
    (resourceId_eq_ok hresourced.id_eq).2 hr env.checkedAt
  have hprobe : (lift (api.probe P B env.checkedAt id x.idempotencyKey) :
      GovernanceTx ResultProbeEvidence) s = .ok e s := lift_eq_ok.mpr ⟨he, rfl⟩
  have hpersist : persistProbeContext P x.checkpoint e x.checkoutSessionId s =
      .ok () (persistedStore P x e m' s) :=
    persistProbeContext_eq_ok.mpr ⟨m', hm, hresourced.probed.unknown, hid ▸ hallowed, rfl⟩
  obtain ⟨payload, hpayload⟩ := persistedStore_find (P := P) (e := e) hm
  have hresolved : resolveAttempt P env x.checkpoint e (persistedStore P x e m' s) = .ok () _ :=
    resolveAttempt_eq_ok.mpr ⟨_, key, hpayload, ⟨hresourced.probed.unknown,
      hresourced.probed.permit, hresourced.probed.probe, hresourced.probed.digest⟩, hkey, rfl⟩
  have hnot : ¬ e.status = .unknown := by
    rw [hconfirmed]
    exact nofun
  refine .inl ⟨e, (persistedStore P x e m' s).updateAttempt x.checkpoint.attemptId
    (resolution P env e), ?_, hconfirmed⟩
  unfold probeGoverned
  rw [bind_of_ok hresource, bind_of_ok hprobe, require_bind ⟨hid, href⟩, bind_of_ok hpersist,
    if_neg hnot, bind_of_ok hresolved]
  rfl

/-- What a call that confirmed has read. -/
def Reads (P : Platform) (B : Builtins) (env : ProbeEnvironment) (api : StripeApi)
    (x : ProbeRequest) (s : ExecutionStore) (id : String) (r : StripePaymentIntentRead) : Prop :=
  ∃ m key, resourceToProbe P B env api x s = .ok id s ∧
    s.attempts.find? x.checkpoint.attemptId = some m ∧
    bindingAllowed (probeContext m) id x.checkoutSessionId = .ok () ∧
    m.idempotencyKey = some key ∧ Succeeded B api id r

/-- A call that raised and left the attempt as it was, or unknown, confirmed nothing. -/
theorem not_confirms_error {s t : ExecutionStore} {attemptId : String} {e : Raised}
    {m : ExecutionAttemptModel} (hm : t.attempts.find? attemptId = some m)
    (hstatus : m.status = .unknown) : ¬ Confirms s attemptId (.error e t) := by
  rintro (⟨_, _, h, _⟩ | ⟨_, m', _, _, hm', hconfirmed⟩)
  · cases h
  · rw [left_error, hm] at hm'
    cases hm'
    rw [hstatus] at hconfirmed
    cases hconfirmed

/-- A call confirms only what it has read. -/
theorem Confirms.reads {s : ExecutionStore}
    (h : Confirms s x.checkpoint.attemptId (probeGoverned P B env api x s)) :
    ∃ id r, Reads P B env api x s id r := by
  unfold probeGoverned at h
  cases hresource : resourceToProbe P B env api x s with
  | error e t =>
      have hkept : Keeps (resourceToProbe P B env api x) s := resourceToProbe_keeps s
      unfold Keeps at hkept
      rw [hresource] at hkept
      rw [bind_of_error hresource] at h
      rcases h with ⟨_, _, h, _⟩ | ⟨m, m', hm, hnot, hm', hstatus⟩
      · cases h
      · rw [left_error, show t = s from hkept, hm] at hm'
        cases hm'
        exact absurd hstatus hnot
  | ok id t =>
      obtain ⟨hsame, m, before, after, hm, hresourced⟩ := resourceToProbe_eq_ok hresource
      subst hsame
      rw [bind_of_ok hresource] at h
      have hunknown := hresourced.probed.unknown
      revert h
      refine lift_bind_elim (C := fun r => Confirms t x.checkpoint.attemptId r → _)
        (fun _ _ h => absurd h (not_confirms_error hm hunknown)) fun e he => ?_
      refine require_bind_elim (C := fun r => Confirms t x.checkpoint.attemptId r → _)
        (fun _ h => absurd h (not_confirms_error hm hunknown)) fun ⟨hid, _⟩ h => ?_
      cases hpersist : persistProbeContext P x.checkpoint e x.checkoutSessionId t with
      | error e' t' =>
          rw [bind_of_error hpersist, Clean.atomic _ _ _ _ hpersist] at h
          exact absurd h (not_confirms_error hm hunknown)
      | ok u t' =>
          obtain ⟨m', hm', _, hallowed, rfl⟩ := persistProbeContext_eq_ok.mp hpersist
          have hsame : m' = m := Option.some.inj (hm'.symm.trans hm)
          subst hsame
          obtain ⟨payload, hpayload⟩ := persistedStore_find (P := P) (e := e) hm
          rw [bind_of_ok hpersist] at h
          by_cases hstatus : e.status = .unknown
          · rw [if_pos hstatus] at h
            rcases h with ⟨_, _, h, hconfirmed⟩ | ⟨_, m'', _, _, hm'', hconfirmed⟩
            · cases h
              rw [hstatus] at hconfirmed
              cases hconfirmed
            · rw [pure_apply, left_ok, hpayload] at hm''
              cases hm''
              rw [show m'.status = .confirmed from hconfirmed] at hunknown
              cases hunknown
          · rw [if_neg hstatus] at h
            cases hresolve : resolveAttempt P env x.checkpoint e (persistedStore P x e m' t) with
            | error e' t' =>
                rw [bind_of_error hresolve, Clean.atomic _ _ _ _ hresolve] at h
                exact absurd h (not_confirms_error hpayload hunknown)
            | ok u t' =>
                obtain ⟨m'', key, hm'', _, hkey, rfl⟩ := resolveAttempt_eq_ok.mp hresolve
                have hsame : m'' = { m' with resultProbe := some payload } :=
                  Option.some.inj (hm''.symm.trans hpayload)
                rw [bind_of_ok hresolve] at h
                have hconfirmed : e.status = .confirmed := by
                  rcases h with ⟨_, _, h, hconfirmed⟩ | ⟨_, n, _, _, hn, hconfirmed⟩
                  · cases h
                    exact hconfirmed
                  · rw [pure_apply, left_ok, ExecutionStore.updateAttempt_attempts,
                      Table.find?_update_self hm''] at hn
                    cases hn
                    exact (resolution_status e m'').mp hconfirmed
                obtain ⟨r, hr⟩ := succeeded_of_probe he hconfirmed
                refine ⟨id, r, m', key, hresource, hm, hid ▸ hallowed, ?_, hr⟩
                rw [hsame] at hkey
                exact hkey

/-! ## When a probe confirms only the approved payment -/

/-- A read carries an id, and the amount and the currency of some facts. -/
structure Carries (r : StripePaymentIntentRead) (id : String) (facts : StripePaymentFacts) : Prop where
  id_eq : r.paymentIntentId = id
  amount_eq : r.amountMinor = facts.amountMinor
  currency_eq : r.currency = facts.currency.value

/-- A call confirms only if the payment it reads is the one its attempt is bound to, was answered as
succeeded, and carries the approved amount and currency. -/
def ConfirmsOnlyApproved (P : Platform) (B : Builtins) (env : ProbeEnvironment) (api : StripeApi)
    (x : ProbeRequest) (s : ExecutionStore) : Prop :=
  Confirms s x.checkpoint.attemptId (probeGoverned P B env api x s) →
    ∃ m id r, s.attempts.find? x.checkpoint.attemptId = some m ∧
      resourceToProbe P B env api x s = .ok id s ∧ BoundTo B api (probeContext m) id ∧
      Succeeded B api id r ∧ Carries r id x.facts

/-- A call confirms only the approved payment if and only if no payment it reads is answered as
succeeded with another id, amount or currency. -/
theorem confirms_only_approved_iff (P : Platform) (B : Builtins) (env : ProbeEnvironment)
    (api : StripeApi) (x : ProbeRequest) (s : ExecutionStore) :
    ConfirmsOnlyApproved P B env api x s ↔
      ∀ id r, Reads P B env api x s id r → Carries r id x.facts := by
  constructor
  · rintro h id r ⟨m, key, hresource, hm, hallowed, hkey, hr⟩
    obtain ⟨_, id', r', _, hresource', _, hr', hcarries⟩ :=
      h (probeGoverned_of_succeeded hresource hm hallowed hkey hr)
    have hid : id = id' := by
      rw [hresource] at hresource'
      cases hresource'
      rfl
    subst hid
    obtain ⟨⟨body, hanswer, hread⟩, _⟩ := hr
    obtain ⟨⟨body', hanswer', hread'⟩, _⟩ := hr'
    rw [hanswer] at hanswer'
    cases hanswer'
    rw [hread] at hread'
    cases hread'
    exact hcarries
  · intro h hconfirms
    obtain ⟨id, r, hreads⟩ := hconfirms.reads
    have hcarries := h id r hreads
    obtain ⟨m, key, hresource, hm, hallowed, _, hr⟩ := hreads
    obtain ⟨_, m', before, after, hm', hresourced⟩ := resourceToProbe_eq_ok hresource
    have hsame : m' = m := Option.some.inj (hm'.symm.trans hm)
    subst hsame
    exact ⟨m', id, r, hm, hresource, hresourced.boundTo hallowed, hr, hcarries⟩

/-! ## An answer with another payment -/

/-- A call to probe a payment of 500 US cents. -/
def centsRequest : ProbeRequest where
  facts := ⟨"pi_1", none, 500, .usd, "", 1, by decide, by decide⟩
  idempotencyKey := "key"
  checkpoint := ⟨"permit", "attempt", "task", "step", "fingerprint", "observation",
    samplePlatform.sha256 "key", "external_write", resultProbeRef, "unknown"⟩
  resourceId := none
  checkoutSessionId := none

/-- The attempt of that call, which is bound to the payment. -/
def centsAttempt : ExecutionAttemptModel where
  attemptId := "attempt"
  taskId := "task"
  stepId := "step"
  contractId := "contract"
  permitId := some "permit"
  actionFingerprint := "fingerprint"
  observationHash := "observation"
  status := .unknown
  idempotencyKey := some "key"
  idempotencyKeyDigest := some (samplePlatform.sha256 "key")
  executionEffect := some .externalWrite
  resultProbeRef := some resultProbeRef
  resultProbe := some [("resource_id", .str "pi_1")]
  errorMessage := none
  startedAt := some 0
  completedAt := some 1
  createdAt := 0

/-- The store with that attempt. -/
def centsStore : ExecutionStore := ⟨.empty, ⟨[centsAttempt], List.pairwise_singleton ..⟩⟩

/-- Another payment, of one euro cent. -/
def otherPayment : Json :=
  .obj [("id", .str "pi_2"), ("status", .str "succeeded"), ("amount", .num 1),
    ("currency", .str "eur")]

/-- An API that answers every read with that payment. -/
def otherApi : StripeApi :=
  ⟨fun _ => .unavailable "ReadTimeout", fun _ => .answered 200 (some otherPayment)⟩

/-- Conversions for the example, where none is needed. -/
def noBuiltins : Builtins := ⟨fun _ => "", fun _ => none⟩

/-- A probe that finds the key. -/
def centsEnvironment : ProbeEnvironment := ⟨some "sk_test_1", .utc 2, 2⟩

theorem other_payment_confirmed : ¬ ∀ (P : Platform) (B : Builtins) (env : ProbeEnvironment)
    (api : StripeApi) (x : ProbeRequest) (s : ExecutionStore),
    ConfirmsOnlyApproved P B env api x s := by
  intro h
  have hran : (match probeGoverned samplePlatform noBuiltins centsEnvironment otherApi centsRequest
      centsStore with
    | .ok e _ => decide (e.status = .confirmed)
    | .error _ _ => false) = true := by
    decide +kernel
  have hconfirms : Confirms centsStore "attempt" (probeGoverned samplePlatform noBuiltins
      centsEnvironment otherApi centsRequest centsStore) := by
    split at hran
    case h_1 e t hrun => exact .inl ⟨e, t, hrun, of_decide_eq_true hran⟩
    case h_2 => cases hran
  obtain ⟨_, _, r, _, _, _, ⟨⟨body, hanswer, hread⟩, _⟩, hcarries⟩ := h _ _ _ _ _ _ hconfirms
  cases hanswer
  have hother : readPaymentIntent? noBuiltins otherPayment =
      some ⟨"pi_2", "succeeded", 1, "eur", none, none⟩ := by decide +kernel
  rw [hother] at hread
  cases hread
  exact absurd hcarries.amount_eq (by decide)

end Stripe

end AgentPact
