import AgentPact.StripePayment.ProbeRuns

/-!
# What a confirmed attempt stands for

The invariant of `CheckoutStep`, and what it says of attempts that end up confirmed.

What a worker knows are events, and events stay.  What is known of a row depends on
what is bound to it: nothing, a session, a session and its payment, or evidence of
that payment.
-/

namespace AgentPact

namespace Stripe

open Base Transaction ProbeContext

/-! ## What is known of events -/

/-- Stripe exposes a payment for a session. -/
def Exposes (B : Builtins) (api : StripeApi) (sessionId payment : String) : Prop :=
  ∃ session, api.retrieveCheckoutSession B sessionId = .ok session ∧
    session.paymentIntentId = some payment

/-- The evidence that an attempt was resolved with. -/
def resolutions (events : List CheckoutEvent) (attemptId : String) : List ResultProbeEvidence :=
  events.filterMap fun
    | .resolved id e => if id = attemptId then some e else none
    | _ => none

/-- Nothing is bound to an attempt, and it was not resolved. -/
structure Unbound (events : List CheckoutEvent) (attemptId : String) : Prop where
  bound : ∀ sessionId payment, .bound attemptId sessionId payment ∉ events
  resolved : resolutions events attemptId = []

/-- A payment is bound to an attempt, and no other.  Stripe exposed it for the session that was
persisted with the attempt. -/
structure BoundAs (events : List CheckoutEvent) (attemptId sessionId payment : String) : Prop where
  bound : .bound attemptId sessionId payment ∈ events
  opened : .opened attemptId sessionId ∈ events
  exposed : ∃ api, .exposed api sessionId payment ∈ events
  only : ∀ sessionId' payment', .bound attemptId sessionId' payment' ∈ events →
    sessionId' = sessionId ∧ payment' = payment

/-- Where a worker has a payment from: it was bound to the attempt, or Stripe exposed it for the
session that the worker is asked to probe. -/
def Sourced (events : List CheckoutEvent) (x : ProbeRequest) (payment : String) : Prop :=
  (∃ sessionId, .bound x.checkpoint.attemptId sessionId payment ∈ events) ∨
    ∃ sessionId api, x.checkoutSessionId = some sessionId ∧ sessionId ≠ "" ∧
      .exposed api sessionId payment ∈ events

/-- What a worker knows. -/
def ProbeSound (events : List CheckoutEvent) (p : Probing) : Prop :=
  match p.phase with
  | .reading payment => Sourced events p.request payment
  | .probed e => Sourced events p.request e.resourceId ∧ (e.metadata.map (·.1)).Nodup ∧
      (e.status ≠ .unknown → ∃ api, .read api e ∈ events)
  | .persisted e => (∃ sessionId,
      .bound p.request.checkpoint.attemptId sessionId e.resourceId ∈ events) ∧
      (e.status ≠ .unknown → ∃ api, .read api e ∈ events)

/-- What is known of the row of an attempt. -/
inductive RowSound (P : Platform) (events : List CheckoutEvent) (attemptId : String) :
    Option ExecutionAttemptModel → Prop
  | absent (hunbound : Unbound events attemptId) : RowSound P events attemptId none
  | bare {m : ExecutionAttemptModel} (hprobe : m.resultProbe = none) (hstatus : m.status ≠ .confirmed)
      (hunbound : Unbound events attemptId) : RowSound P events attemptId (some m)
  | opened {m : ExecutionAttemptModel} {sessionId : String} (hstatus : m.status = .unknown)
      (hwell : WellFormed (probeContext m)) (hnamed : sessionId ≠ "")
      (hsession : contextSession (probeContext m) = .str sessionId)
      (hresource : contextField (probeContext m) "resource_id" = .null)
      (hopened : .opened attemptId sessionId ∈ events) (hunbound : Unbound events attemptId) :
      RowSound P events attemptId (some m)
  | bound {m : ExecutionAttemptModel} {sessionId payment : String} (hstatus : m.status = .unknown)
      (hwell : WellFormed (probeContext m)) (hnamed : sessionId ≠ "")
      (hsession : contextSession (probeContext m) = .str sessionId)
      (hresource : contextField (probeContext m) "resource_id" = .str payment)
      (hbound : BoundAs events attemptId sessionId payment)
      (hresolved : resolutions events attemptId = []) : RowSound P events attemptId (some m)
  | settled {m : ExecutionAttemptModel} {sessionId : String} {e : ResultProbeEvidence}
      (hstatus : m.status = if e.status = .confirmed then .confirmed else .failed)
      (hprobe : m.resultProbe = some (e.modelDumpWith P e.metadata))
      (hbound : BoundAs events attemptId sessionId e.resourceId)
      (hread : ∃ api, .read api e ∈ events)
      (hresolved : resolutions events attemptId = [e]) : RowSound P events attemptId (some m)

/-- What Stripe is said to have answered, it answered. -/
def CheckoutEvent.Answered (P : Platform) (B : Builtins) : CheckoutEvent → Prop
  | .exposed api sessionId payment => Exposes B api sessionId payment
  | .read api e => ∃ checkedAt key, api.probe P B checkedAt e.resourceId key = .ok e
  | _ => True

/-- The invariant. -/
structure CheckoutSound {ι κ : Type} (P : Platform) (B : Builtins) (w : CheckoutWorld ι κ) :
    Prop where
  rows : ∀ id, RowSound P w.events id (w.store.attempts.find? id)
  probes : ∀ k p, w.probing k = some p → ProbeSound w.events p
  events : ∀ event ∈ w.events, event.Answered P B

theorem resolutions_cons_self {events : List CheckoutEvent} {id : String} {e : ResultProbeEvidence} :
    resolutions (.resolved id e :: events) id = e :: resolutions events id :=
  List.filterMap_cons_some (if_pos rfl)

theorem resolutions_cons_ne {events : List CheckoutEvent} {id attemptId : String}
    {e : ResultProbeEvidence} (h : attemptId ≠ id) :
    resolutions (.resolved id e :: events) attemptId = resolutions events attemptId :=
  List.filterMap_cons_none (if_neg fun hsame => h hsame.symm)

/-! ## More events -/

section Events

variable {P : Platform} {B : Builtins} {events events' : List CheckoutEvent} {attemptId : String}

/-- More happened, but nothing that binds or resolves an attempt. -/
structure Elapses (events events' : List CheckoutEvent) (attemptId : String) : Prop where
  more : ∀ event ∈ events, event ∈ events'
  bound : ∀ sessionId payment, .bound attemptId sessionId payment ∈ events' →
    .bound attemptId sessionId payment ∈ events
  resolved : resolutions events' attemptId = resolutions events attemptId

theorem Unbound.mono (h : Unbound events attemptId) (helapses : Elapses events events' attemptId) :
    Unbound events' attemptId :=
  ⟨fun _ _ hbound => h.bound _ _ (helapses.bound _ _ hbound),
    helapses.resolved.trans h.resolved⟩

theorem BoundAs.mono {sessionId payment : String} (h : BoundAs events attemptId sessionId payment)
    (helapses : Elapses events events' attemptId) : BoundAs events' attemptId sessionId payment where
  bound := helapses.more _ h.bound
  opened := helapses.more _ h.opened
  exposed := h.exposed.imp fun _ => helapses.more _
  only _ _ hbound := h.only _ _ (helapses.bound _ _ hbound)

theorem RowSound.mono {r : Option ExecutionAttemptModel} (h : RowSound P events attemptId r)
    (helapses : Elapses events events' attemptId) : RowSound P events' attemptId r := by
  cases h with
  | absent hunbound => exact .absent (hunbound.mono helapses)
  | bare hprobe hstatus hunbound => exact .bare hprobe hstatus (hunbound.mono helapses)
  | opened hstatus hwell hnamed hsession hresource hopened hunbound =>
      exact .opened hstatus hwell hnamed hsession hresource (helapses.more _ hopened)
        (hunbound.mono helapses)
  | bound hstatus hwell hnamed hsession hresource hbound hresolved =>
      exact .bound hstatus hwell hnamed hsession hresource (hbound.mono helapses)
        (helapses.resolved.trans hresolved)
  | settled hstatus hprobe hbound hread hresolved =>
      exact .settled hstatus hprobe (hbound.mono helapses) (hread.imp fun _ => helapses.more _)
        (helapses.resolved.trans hresolved)

theorem Sourced.mono {x : ProbeRequest} {payment : String} (h : Sourced events x payment)
    (hmore : ∀ event ∈ events, event ∈ events') : Sourced events' x payment := by
  rcases h with ⟨sessionId, hbound⟩ | ⟨sessionId, api, hsession, hnamed, hexposed⟩
  · exact .inl ⟨sessionId, hmore _ hbound⟩
  · exact .inr ⟨sessionId, api, hsession, hnamed, hmore _ hexposed⟩

theorem ProbeSound.mono {p : Probing} (h : ProbeSound events p)
    (hmore : ∀ event ∈ events, event ∈ events') : ProbeSound events' p := by
  obtain ⟨x, env, phase⟩ := p
  cases phase with
  | reading payment => exact Sourced.mono h hmore
  | probed e => exact ⟨h.1.mono hmore, h.2.1, fun hknown => (h.2.2 hknown).imp fun _ => hmore _⟩
  | persisted e =>
      exact ⟨h.1.imp fun _ => hmore _, fun hknown => (h.2 hknown).imp fun _ => hmore _⟩

/-- An event that binds and resolves no attempt. -/
def CheckoutEvent.quiet : CheckoutEvent → Bool
  | .bound .. | .resolved .. => false
  | _ => true

theorem Elapses.cons {event : CheckoutEvent} (h : event.quiet = true) :
    Elapses events (event :: events) attemptId := by
  refine ⟨fun _ => List.mem_cons_of_mem event, fun sessionId payment hmem => ?_, ?_⟩
  · rcases List.mem_cons.mp hmem with rfl | hmem
    · cases h
    · exact hmem
  · cases event <;> first | rfl | cases h

theorem Elapses.refl : Elapses events events attemptId := ⟨fun _ => id, fun _ _ => id, rfl⟩

/-- What a probe learns of its session binds and resolves nothing. -/
theorem Elapses.exposures {x : ProbeRequest} {api : StripeApi} {payment : String} :
    Elapses events (exposures x api payment ++ events) attemptId := by
  unfold Stripe.exposures
  split
  · split
    · exact .refl
    · exact .cons rfl
  · exact .refl

/-- What is bound to another attempt. -/
theorem Elapses.bindings {s : ExecutionStore} {x : ProbeRequest} {e : ResultProbeEvidence}
    (hother : attemptId ≠ x.checkpoint.attemptId) :
    Elapses events (bindings s x e ++ events) attemptId := by
  unfold Stripe.bindings
  split
  · refine ⟨fun _ => List.mem_cons_of_mem _, fun sessionId payment hmem => ?_, rfl⟩
    rcases List.mem_cons.mp hmem with heq | hmem
    · cases heq
      exact absurd rfl hother
    · exact hmem
  · exact .refl

/-- The resolution of another attempt. -/
theorem Elapses.resolved_of {id : String} {e : ResultProbeEvidence} (hother : attemptId ≠ id) :
    Elapses events (.resolved id e :: events) attemptId := by
  refine ⟨fun _ => List.mem_cons_of_mem _, fun sessionId payment hmem => ?_, ?_⟩
  · rcases List.mem_cons.mp hmem with heq | hmem
    · cases heq
    · exact hmem
  · exact resolutions_cons_ne hother

end Events

/-! ## Steps of rows -/

section Rows

variable {P : Platform} {B : Builtins} {events : List CheckoutEvent} {attemptId : String}
  {s t : ExecutionStore} {m : ExecutionAttemptModel}

/-- Executions leave what is known of an attempt. -/
theorem RowSound.spares (h : RowSound P events attemptId (s.attempts.find? attemptId))
    (hst : s.SparesLeft t) : RowSound P events attemptId (t.attempts.find? attemptId) := by
  have hunbound : ∀ m', t.attempts.find? attemptId = some m' → Unbound events attemptId →
      (∀ m, s.attempts.find? attemptId = some m → m.resultProbe = none ∧ m.status ≠ .confirmed) →
      RowSound P events attemptId (some m') := by
    intro m' hm' hunbound hbare
    rcases hst.bare attemptId m' hm' with hsame | ⟨hstatus, hnone | ⟨m, hm, _, hprobe⟩⟩
    · exact .bare (hbare m' hsame).1 (hbare m' hsame).2 hunbound
    · exact .bare hnone hstatus hunbound
    · exact .bare (hprobe.trans (hbare m hm).1) hstatus hunbound
  have hstays : ∀ m, s.attempts.find? attemptId = some m → m.status.left = true →
      RowSound P events attemptId (some m) →
      RowSound P events attemptId (t.attempts.find? attemptId) := by
    intro m hm hleft hsound
    rw [hst.stays attemptId m hm hleft]
    exact hsound
  cases hfind : s.attempts.find? attemptId with
  | none =>
      rw [hfind] at h
      cases h with
      | absent hnothing =>
          cases hfind' : t.attempts.find? attemptId with
          | none => exact .absent hnothing
          | some m' => exact hunbound m' hfind' hnothing fun m hm => by cases hfind.symm.trans hm
  | some m =>
      rw [hfind] at h
      cases h with
      | bare hprobe hstatus hnothing =>
          cases hfind' : t.attempts.find? attemptId with
          | none => exact .absent hnothing
          | some m' =>
              refine hunbound m' hfind' hnothing fun m'' hm'' => ?_
              cases hfind.symm.trans hm''
              exact ⟨hprobe, hstatus⟩
      | opened hstatus hwell hnamed hsession hresource hopened hnothing =>
          exact hstays m hfind (by rw [hstatus]; rfl)
            (.opened hstatus hwell hnamed hsession hresource hopened hnothing)
      | bound hstatus hwell hnamed hsession hresource hbound hresolved =>
          exact hstays m hfind (by rw [hstatus]; rfl)
            (.bound hstatus hwell hnamed hsession hresource hbound hresolved)
      | settled hstatus hprobe hbound hread hresolved =>
          refine hstays m hfind ?_ (.settled hstatus hprobe hbound hread hresolved)
          rw [hstatus]
          split <;> rfl

/-- The session that a call names is in what it persists. -/
theorem payload_session {c : PersistCall} {context : List (String × Json)} {sessionId : String}
    (hwell : WellFormed context) (hsession : c.checkoutSessionId = some sessionId)
    (hnamed : sessionId ≠ "") : contextSession (c.payload P context) = .str sessionId := by
  rw [contextSession_eq, metadataOf_payload, field?_mergedMetadata hwell, hsession,
    if_pos ⟨rfl, hnamed⟩]
  rfl

theorem probeContext_bare (h : m.resultProbe = none) : probeContext m = [] := by
  unfold probeContext
  rw [h]
  rfl

/-- A row that is not resolved is not settled. -/
theorem settled_status {e : ResultProbeEvidence} (hunknown : m.status = .unknown) :
    m.status ≠ if e.status = .confirmed then .confirmed else .failed := by
  rw [hunknown]
  split <;> exact nofun

/-- A session is persisted with an unknown attempt. -/
theorem RowSound.checkout {checkpoint : ExecutionCheckpoint} {sessionId reason : String} {u : Unit}
    (hnamed : sessionId ≠ "")
    (hrun : (checkoutCall checkpoint sessionId reason).run P s = .ok u t)
    (h : RowSound P events checkpoint.attemptId (s.attempts.find? checkpoint.attemptId)) :
    RowSound P (.opened checkpoint.attemptId sessionId :: events) checkpoint.attemptId
      (t.attempts.find? checkpoint.attemptId) := by
  obtain ⟨m, hm, hunknown, hallowed, rfl⟩ := run_eq_ok.mp hrun
  obtain ⟨_, hresources, _⟩ := allowed_eq_ok.mp hallowed
  rw [ExecutionStore.updateAttempt_attempts]
  have hfind := Table.find?_update_self
    (e := withContext ((checkoutCall checkpoint sessionId reason).payload P (probeContext m))) hm
  refine hfind ▸ ?_
  rw [show s.attempts.find? checkpoint.attemptId = some m from hm] at h
  have hopened : WellFormed (probeContext m) → Unbound events checkpoint.attemptId →
      RowSound P (.opened checkpoint.attemptId sessionId :: events) checkpoint.attemptId
        (some ((withContext ((checkoutCall checkpoint sessionId reason).payload P
          (probeContext m))).apply m)) := by
    intro hwell hunbound
    have hwell' := @payload_wellFormed P (checkoutCall checkpoint sessionId reason) (probeContext m)
    have hsession := payload_session (P := P) (c := checkoutCall checkpoint sessionId reason) hwell
      rfl hnamed
    have hfields := @payload_field P (checkoutCall checkpoint sessionId reason) (probeContext m)
    exact .opened hunknown hwell' hnamed hsession hfields.2.2.2 (List.mem_cons_self ..)
      (hunbound.mono (.cons rfl))
  cases h with
  | bare hprobe _ hunbound =>
      refine hopened ?_ hunbound
      rw [probeContext_bare hprobe]
      exact List.nodup_nil
  | opened _ hwell _ _ _ _ hunbound => exact hopened hwell hunbound
  | bound _ _ _ _ hresource _ _ =>
      rcases hresources with hnull | hnull
      · cases hresource.symm.trans hnull
      · cases hresource.symm.trans hnull
  | settled hstatus _ _ _ _ => exact absurd hstatus (settled_status hunknown)

/-- Evidence of a payment is persisted with an unknown attempt. -/
theorem RowSound.persist {x : ProbeRequest} {e : ResultProbeEvidence} {u : Unit}
    (hpersist : persistProbeContext P x.checkpoint e x.checkoutSessionId s = .ok u t)
    (hdistinct : (e.metadata.map (·.1)).Nodup) (hsourced : Sourced events x e.resourceId)
    (h : RowSound P events x.checkpoint.attemptId (s.attempts.find? x.checkpoint.attemptId)) :
    RowSound P (bindings s x e ++ events) x.checkpoint.attemptId
        (t.attempts.find? x.checkpoint.attemptId) ∧
      ∃ sessionId, .bound x.checkpoint.attemptId sessionId e.resourceId ∈
        bindings s x e ++ events := by
  let c : PersistCall := ⟨x.checkpoint, some e, x.checkoutSessionId, none,
    fun e' he' => by cases he'; exact hdistinct⟩
  have hcall : c.run P = persistProbeContext P x.checkpoint e x.checkoutSessionId :=
    run_of_evidence rfl
  have hrun : c.run P s = .ok () t := (congrFun hcall s).trans hpersist
  obtain ⟨m, hm, hunknown, hallowed, rfl⟩ := run_eq_ok.mp hrun
  obtain ⟨_, hresources, _⟩ := allowed_eq_ok.mp hallowed
  rw [ExecutionStore.updateAttempt_attempts]
  have hfind := Table.find?_update_self (e := withContext (c.payload P (probeContext m))) hm
  have hcontext : contextOf s x.checkpoint.attemptId = probeContext m := by
    unfold contextOf
    rw [hm]
    rfl
  have hpayment : contextField (c.payload P (probeContext m)) "resource_id" = .str e.resourceId :=
    payload_field.2.2.2
  have hwell' : WellFormed (c.payload P (probeContext m)) := payload_wellFormed
  -- where nothing is bound, the session of the call is the one of the context
  have hfree : contextField (probeContext m) "resource_id" = .null → ∃ sessionId,
      sessionId ≠ "" ∧ x.checkoutSessionId = some sessionId ∧
      contextSession (probeContext m) = .str sessionId := fun hnull =>
    resource_bound hallowed hnull (by rw [hpayment]; exact nofun)
  refine hfind ▸ ?_
  rw [hm] at h
  unfold bindings
  rw [hcontext]
  cases h with
  | bare hprobe _ _ =>
      rw [probeContext_bare hprobe] at hfree
      obtain ⟨_, _, _, hsession⟩ := hfree rfl
      cases hsession
  | @opened _ sessionId _ hwell hnamed hsession hresource hopened hunbound =>
      obtain ⟨sessionId', _, hnames, hsame⟩ := hfree hresource
      cases hsession.symm.trans hsame
      rw [if_pos hresource, hnames]
      have hsession' := payload_session (P := P) (c := c) hwell hnames hnamed
      refine ⟨.bound hunknown hwell' hnamed hsession' hpayment
        ⟨List.mem_cons_self .., List.mem_cons_of_mem _ hopened, ?_, ?_⟩ hunbound.resolved,
        sessionId, List.mem_cons_self ..⟩
      · rcases hsourced with ⟨other, hbound⟩ | ⟨other, api, hother, _, hexposed⟩
        · exact absurd hbound (hunbound.bound _ _)
        · cases hnames.symm.trans hother
          exact ⟨api, List.mem_cons_of_mem _ hexposed⟩
      · intro other payment hmem
        rcases List.mem_cons.mp hmem with heq | hmem
        · cases heq
          exact ⟨rfl, rfl⟩
        · exact absurd hmem (hunbound.bound _ _)
  | @bound _ sessionId payment _ hwell hnamed hsession hresource hbound hresolved =>
      have hpaid : payment = e.resourceId := by
        rcases hresources with hnull | hsame
        · cases hresource.symm.trans hnull
        · cases hresource.symm.trans hsame
          rfl
      subst hpaid
      have hthere : contextField (probeContext m) "resource_id" ≠ .null := by
        rw [hresource]
        exact nofun
      have hkept := session_stays (P := P) hwell hallowed (by rw [hsession]; exact nofun)
      rw [if_neg hthere]
      exact ⟨.bound hunknown hwell' hnamed (hkept.trans hsession) hpayment hbound hresolved,
        sessionId, hbound.bound⟩
  | settled hstatus _ _ _ _ => exact absurd hstatus (settled_status hunknown)

/-- An unknown attempt is resolved with evidence of its payment. -/
theorem RowSound.resolve {x : ProbeRequest} {env : ProbeEnvironment} {e : ResultProbeEvidence}
    {u : Unit} (hresolve : resolveAttempt P env x.checkpoint e s = .ok u t)
    (hbound : ∃ sessionId, .bound x.checkpoint.attemptId sessionId e.resourceId ∈ events)
    (hread : ∃ api, .read api e ∈ events)
    (h : RowSound P events x.checkpoint.attemptId (s.attempts.find? x.checkpoint.attemptId)) :
    RowSound P (.resolved x.checkpoint.attemptId e :: events) x.checkpoint.attemptId
      (t.attempts.find? x.checkpoint.attemptId) := by
  obtain ⟨m, key, hm, hprobed, _, rfl⟩ := resolveAttempt_eq_ok.mp hresolve
  obtain ⟨sessionId', hbound⟩ := hbound
  have hunknown := hprobed.unknown
  rw [ExecutionStore.updateAttempt_attempts]
  have hfind := Table.find?_update_self (e := resolution P env e) hm
  refine hfind ▸ ?_
  rw [hm] at h
  cases h with
  | bare _ _ hunbound => exact absurd hbound (hunbound.bound _ _)
  | opened _ _ _ _ _ _ hunbound => exact absurd hbound (hunbound.bound _ _)
  | @bound _ sessionId payment _ _ _ _ _ hboundAs hresolved =>
      obtain ⟨_, rfl⟩ := hboundAs.only _ _ hbound
      have hmore : ∀ event ∈ events, event ∈ .resolved x.checkpoint.attemptId e :: events :=
        fun event => List.mem_cons_of_mem _
      have hmono : BoundAs (.resolved x.checkpoint.attemptId e :: events) x.checkpoint.attemptId
          sessionId e.resourceId := by
        refine ⟨hmore _ hboundAs.bound, hmore _ hboundAs.opened, hboundAs.exposed.imp fun _ => hmore _,
          fun other payment hmem => ?_⟩
        rcases List.mem_cons.mp hmem with heq | hmem
        · cases heq
        · exact hboundAs.only _ _ hmem
      refine .settled ?_ ?_ hmono (hread.imp fun _ => hmore _) ?_
      · unfold resolution ExecutionAttemptModel.transition
        by_cases hconfirmed : e.status = .confirmed
        · simp [hconfirmed]
        · simp [hconfirmed]
      · unfold resolution ExecutionAttemptModel.transition
        by_cases hconfirmed : e.status = .confirmed
        · simp [hconfirmed]
        · simp [hconfirmed]
      · rw [resolutions_cons_self, hresolved]
  | settled hstatus _ _ _ _ => exact absurd hstatus (settled_status hunknown)

end Rows

/-! ## Steps of workers -/

section Workers

variable {P : Platform} {B : Builtins} {events : List CheckoutEvent} {api : StripeApi}
  {x : ProbeRequest} {m : ExecutionAttemptModel} {payment : String} {before after : Json}

/-- A session that is read again exposes the payment that is probed. -/
theorem exposes_of_resourced {sessionId : String} (hsession : x.checkoutSessionId = some sessionId)
    (hnamed : sessionId ≠ "") (h : Resourced B api x m payment before after) :
    Exposes B api sessionId payment := by
  have hafter := h.after_eq
  unfold resourceAfter at hafter
  rw [hsession] at hafter
  dsimp only at hafter
  rw [if_neg hnamed] at hafter
  obtain ⟨session, hretrieved, hrest⟩ := except_bind_eq_ok.mp hafter
  obtain ⟨_, _, hrest⟩ := except_bind_eq_ok.mp hrest
  obtain ⟨_, _, hexposed⟩ := except_bind_eq_ok.mp hrest
  have hid := (resourceId_eq_ok h.id_eq).1
  rw [← Except.ok.inj hexposed] at hid
  refine ⟨session, hretrieved, ?_⟩
  cases hpayment : session.paymentIntentId with
  | none => rw [hpayment] at hid; cases hid
  | some id => rw [hpayment] at hid; cases hid; rfl

/-- Without a session, the payment is the one of the context. -/
theorem bound_of_resourced (hsession : x.checkoutSessionId = none)
    (h : Resourced B api x m payment before after) :
    contextField (probeContext m) "resource_id" = .str payment := by
  have hafter := h.after_eq
  unfold resourceAfter at hafter
  rw [hsession] at hafter
  cases hafter
  have hid := (resourceId_eq_ok h.id_eq).1
  have hbefore := h.before_eq
  unfold resourceBefore at hbefore
  simp only [except_bind_eq_ok, ensure_eq_ok, exists_const] at hbefore
  obtain ⟨_, hsame, hthere, hpure⟩ := hbefore
  have hpersisted : contextField (probeContext m) "resource_id" ≠ .null := by
    intro hnull
    rw [hnull] at hthere hpure
    rcases hthere with hnot | hnone | hnot
    · exact hnot rfl
    · have hbefore := Except.ok.inj hpure
      rw [hnone, hid] at hbefore
      cases hbefore
    · exact hnot hsession
  by_cases hgiven : x.resourceId = none
  · rw [if_pos ⟨hpersisted, hgiven⟩, hid] at hpure
    exact Except.ok.inj hpure
  · rw [if_neg fun h => hgiven h.2, hid] at hpure
    rcases hsame with hnull | hnone | hsame
    · exact absurd hnull hpersisted
    · exact absurd hnone hgiven
    · rw [← hsame]
      exact Except.ok.inj hpure

/-- An empty session is not the one of an attempt. -/
theorem session_named (hsound : RowSound P events x.checkpoint.attemptId (some m))
    (h : Resourced B api x m payment before after) : x.checkoutSessionId ≠ some "" := by
  intro hsession
  have hbefore := h.before_eq
  unfold resourceBefore at hbefore
  simp only [except_bind_eq_ok, ensure_eq_ok, exists_const] at hbefore
  obtain ⟨hsame, _⟩ := hbefore
  rw [hsession] at hsame
  rcases hsame with hnone | hsame
  · cases hnone
  have hunknown := h.probed.unknown
  cases hsound with
  | bare hprobe _ _ => rw [probeContext_bare hprobe] at hsame; cases hsame
  | opened _ _ hnamed hstr _ _ _ =>
      rw [hstr] at hsame
      cases hsame
      exact hnamed rfl
  | bound _ _ hnamed hstr _ _ _ =>
      rw [hstr] at hsame
      cases hsame
      exact hnamed rfl
  | settled hstatus _ _ _ _ => exact absurd hstatus (settled_status hunknown)

/-- A worker knows where the payment that it is going to read is from. -/
theorem sourced_of_resourced (hsound : RowSound P events x.checkpoint.attemptId (some m))
    (h : Resourced B api x m payment before after) :
    Sourced (exposures x api payment ++ events) x payment := by
  have hnamed := session_named hsound h
  cases hsession : x.checkoutSessionId with
  | some sessionId =>
      have hne : sessionId ≠ "" := by
        rintro rfl
        exact hnamed hsession
      refine .inr ⟨sessionId, api, hsession, hne, ?_⟩
      unfold exposures
      rw [hsession]
      dsimp only
      rw [if_neg hne]
      exact List.mem_cons_self ..
  | none =>
      have hresource := bound_of_resourced hsession h
      have hunknown := h.probed.unknown
      refine Sourced.mono (.inl ?_) fun _ => List.mem_append_right _
      cases hsound with
      | bare hprobe _ _ => rw [probeContext_bare hprobe] at hresource; cases hresource
      | opened _ _ _ _ hnull _ _ => cases hnull.symm.trans hresource
      | @bound _ sessionId payment' _ _ _ _ hstr hbound _ =>
          cases hstr.symm.trans hresource
          exact ⟨sessionId, hbound.bound⟩
      | settled hstatus _ _ _ _ => exact absurd hstatus (settled_status hunknown)

/-- What `execute_governed` reads is exposed for its session. -/
theorem exposes_of_exposedPayment {sessionId : String}
    (h : exposedPayment B api sessionId = .ok payment) :
    Exposes B api sessionId payment ∧ sessionId ≠ "" := by
  obtain ⟨session, hretrieved, h⟩ := except_bind_eq_ok.mp h
  obtain ⟨_, _, h⟩ := except_bind_eq_ok.mp h
  refine ⟨⟨session, hretrieved, ?_⟩, ?_⟩
  · exact (Option.filter_eq_some_iff.mp (orRaise_eq_ok.mp h)).1
  · rintro rfl
    obtain ⟨_, hid, _⟩ := except_bind_eq_ok.mp hretrieved
    exact absurd (ensure_eq_ok.mp hid) (by decide)

theorem buildProbeEvidence_distinct {resourceId key : String} {status : ResultProbeStatus}
    {r : Option StripePaymentIntentRead} {reasons : List String} {checkedAt : DateTime} :
    ((buildProbeEvidence P resourceId key status r reasons checkedAt).metadata.map (·.1)).Nodup := by
  cases r <;> simp [buildProbeEvidence]

/-- What a probe makes of an answer. -/
theorem probe_builds {checkedAt : DateTime} {key : String} {e : ResultProbeEvidence}
    (h : api.probe P B checkedAt payment key = .ok e) :
    ∃ status r reasons, e = buildProbeEvidence P payment key status r reasons checkedAt := by
  obtain ⟨_, _, h⟩ := except_bind_eq_ok.mp h
  cases hanswer : api.paymentIntent payment with
  | unavailable name =>
      rw [hanswer] at h
      cases h
      exact ⟨_, _, _, rfl⟩
  | answered status body =>
      rw [hanswer] at h
      dsimp only at h
      split at h
      case isTrue => cases h; exact ⟨_, _, _, rfl⟩
      case isFalse =>
        split at h
        case isTrue => cases h
        case isFalse =>
          split at h
          case isTrue => cases h; exact ⟨_, _, _, rfl⟩
          case isFalse =>
            obtain ⟨_, _, h⟩ := except_bind_eq_ok.mp h
            obtain ⟨_, _, h⟩ := except_bind_eq_ok.mp h
            obtain ⟨_, _, h⟩ := except_bind_eq_ok.mp h
            cases h
            exact ⟨_, _, _, rfl⟩

end Workers

/-! ## Steps of the system -/

section Steps

variable {ι κ : Type} {P : Platform} {B : Builtins}

/-- Before anything happens: attempts may be there, but none has a context or is confirmed. -/
structure CheckoutWorld.Begins (w : CheckoutWorld ι κ) : Prop where
  events : w.events = []
  probing : ∀ k, w.probing k = none
  bare : ∀ m ∈ w.store.attempts.rows, m.resultProbe = none ∧ m.status ≠ .confirmed

theorem CheckoutSound.begin {w : CheckoutWorld ι κ} (h : w.Begins) : CheckoutSound P B w := by
  have hnone : ∀ event, event ∉ w.events := by
    rw [h.events]
    exact fun _ => List.not_mem_nil
  refine ⟨fun id => ?_, fun k p hp => ?_, fun event hmem => absurd hmem (hnone event)⟩
  · have hunbound : Unbound w.events id := by
      refine ⟨fun _ _ => hnone _, ?_⟩
      rw [h.events]
      rfl
    cases hfind : w.store.attempts.find? id with
    | none => exact .absent hunbound
    | some m =>
        obtain ⟨hprobe, hstatus⟩ := h.bare m (Table.mem_of_find? hfind)
        exact .bare hprobe hstatus hunbound
  · cases (h.probing k).symm.trans hp

variable {v w : CheckoutWorld ι κ} {l : CheckoutLabel ι κ}

/-- What is true of more events and of those there were. -/
theorem CheckoutSound.append (h : CheckoutSound P B v) {events : List CheckoutEvent}
    (hevents : ∀ event ∈ events, event.Answered P B) :
    ∀ event ∈ events ++ v.events, event.Answered P B :=
  List.forall_mem_append.mpr ⟨hevents, h.events⟩

theorem CheckoutSound.cons (h : CheckoutSound P B v) {e : CheckoutEvent} (he : e.Answered P B) :
    ∀ event ∈ e :: v.events, event.Answered P B :=
  List.forall_mem_cons.mpr ⟨he, h.events⟩

variable [DecidableEq κ]

/-- What is known of a worker that moves, and of the others. -/
theorem CheckoutSound.update {events : List CheckoutEvent} {k : κ} {p : Option Probing}
    (h : CheckoutSound P B v) (hmore : ∀ event ∈ v.events, event ∈ events)
    (hp : ∀ q, p = some q → ProbeSound events q) :
    ∀ j q, Function.update v.probing k p j = some q → ProbeSound events q := by
  intro j q hq
  by_cases hj : j = k
  · subst hj
    rw [Function.update_self] at hq
    exact hp q hq
  · rw [Function.update_of_ne hj] at hq
    exact (h.probes j q hq).mono hmore

/-- A row elsewhere is as it was. -/
theorem RowSound.elsewhere {events events' : List CheckoutEvent} {s : ExecutionStore}
    {id attemptId : String} {edit : Edit ExecutionAttemptModel}
    (h : RowSound P events id (s.attempts.find? id)) (hne : id ≠ attemptId)
    (helapses : Elapses events events' id) :
    RowSound P events' id ((s.updateAttempt attemptId edit).attempts.find? id) := by
  rw [ExecutionStore.updateAttempt_attempts, Table.find?_update_ne hne]
  exact h.mono helapses

variable [DecidableEq ι]

theorem CheckoutSound.step (h : CheckoutSound P B v) (hstep : CheckoutStep P B l v w) :
    CheckoutSound P B w := by
  cases l with
  | governed l =>
      obtain ⟨hresolve, g, hg, rfl⟩ := hstep
      exact ⟨fun id => (h.rows id).spares (.worldStep hg hresolve), h.probes, h.events⟩
  | checkout checkpoint sessionId reason =>
      obtain ⟨hnamed, t, hrun, rfl⟩ := hstep
      refine ⟨fun id => ?_, fun k p hp => (h.probes k p hp).mono fun _ => List.mem_cons_of_mem _,
        h.cons (e := .opened _ _) trivial⟩
      by_cases hid : id = checkpoint.attemptId
      · subst hid
        exact RowSound.checkout hnamed hrun (h.rows _)
      · obtain ⟨m, _, _, _, rfl⟩ := run_eq_ok.mp hrun
        exact (h.rows id).elsewhere hid (.cons rfl)
  | retrieve k x env api sessionId =>
      obtain ⟨_, hsession, payment, hpayment, rfl⟩ := hstep
      obtain ⟨hexposes, hnamed⟩ := exposes_of_exposedPayment hpayment
      refine ⟨fun id => (h.rows id).mono (.cons rfl),
        h.update (fun _ => List.mem_cons_of_mem _) fun q hq => ?_,
        h.cons (e := .exposed _ _ _) hexposes⟩
      cases hq
      exact ⟨.inr ⟨sessionId, api, hsession, hnamed, List.mem_cons_self ..⟩,
        buildProbeEvidence_distinct, fun hknown => absurd rfl hknown⟩
  | load k x env api =>
      obtain ⟨_, payment, hload, rfl⟩ := hstep
      obtain ⟨_, m, before, after, hm, hresourced⟩ := resourceToProbe_eq_ok hload
      have hrow := h.rows x.checkpoint.attemptId
      rw [hm] at hrow
      refine ⟨fun id => (h.rows id).mono .exposures,
        h.update (fun _ => List.mem_append_right _) fun q hq => ?_, h.append ?_⟩
      · cases hq
        exact sourced_of_resourced hrow hresourced
      · intro event hmem
        unfold exposures at hmem
        split at hmem
        case h_1 sessionId hsession =>
          split at hmem
          case isTrue => cases hmem
          case isFalse hnamed =>
            cases List.mem_singleton.mp hmem
            exact exposes_of_resourced hsession hnamed hresourced
        case h_2 => cases hmem
  | probe k api =>
      obtain ⟨p, payment, e, hp, hphase, hprobe, rfl, rfl⟩ := hstep
      have hknown := h.probes k p hp
      unfold ProbeSound at hknown
      rw [hphase] at hknown
      refine ⟨fun id => (h.rows id).mono (.cons rfl),
        h.update (fun _ => List.mem_cons_of_mem _) fun q hq => ?_,
        h.cons (e := .read _ _) ⟨_, _, hprobe⟩⟩
      cases hq
      refine ⟨Sourced.mono hknown fun _ => List.mem_cons_of_mem _, ?_, fun _ =>
        ⟨api, List.mem_cons_self ..⟩⟩
      obtain ⟨_, _, _, hbuilt⟩ := probe_builds hprobe
      rw [hbuilt]
      exact buildProbeEvidence_distinct
  | persist k =>
      obtain ⟨p, e, t, hp, hphase, hpersist, rfl⟩ := hstep
      have hknown := h.probes k p hp
      unfold ProbeSound at hknown
      rw [hphase] at hknown
      obtain ⟨hsourced, hdistinct, hread⟩ := hknown
      obtain ⟨hrow, hbound⟩ := RowSound.persist hpersist hdistinct hsourced (h.rows _)
      have hmore : ∀ event ∈ v.events, event ∈ bindings v.store p.request e ++ v.events :=
        fun _ => List.mem_append_right _
      refine ⟨fun id => ?_, h.update hmore fun q hq => ?_, h.append ?_⟩
      · by_cases hid : id = p.request.checkpoint.attemptId
        · subst hid
          exact hrow
        · obtain ⟨m, _, _, _, rfl⟩ := persistProbeContext_eq_ok.mp hpersist
          exact (h.rows id).elsewhere hid (.bindings hid)
      · cases hq
        exact ⟨hbound, fun hknown => (hread hknown).imp fun _ => hmore _⟩
      · intro event hmem
        unfold bindings at hmem
        split at hmem
        case isTrue =>
          cases List.mem_singleton.mp hmem
          trivial
        case isFalse => cases hmem
  | resolve k =>
      obtain ⟨p, e, t, hp, hphase, hstatus, hresolve, rfl⟩ := hstep
      have hknown := h.probes k p hp
      unfold ProbeSound at hknown
      rw [hphase] at hknown
      obtain ⟨hbound, hread⟩ := hknown
      refine ⟨fun id => ?_, h.update (fun _ => List.mem_cons_of_mem _) (fun q hq => by cases hq),
        h.cons (e := .resolved _ _) trivial⟩
      by_cases hid : id = p.request.checkpoint.attemptId
      · subst hid
        exact RowSound.resolve hresolve hbound (hread hstatus) (h.rows _)
      · obtain ⟨m, _, _, _, _, rfl⟩ := resolveAttempt_eq_ok.mp hresolve
        exact (h.rows id).elsewhere hid (.resolved_of hid)
  | leave k =>
      cases hstep
      exact ⟨h.rows, h.update (fun _ => id) (fun q hq => by cases hq), h.events⟩

/-! ## Confirmed attempts -/

end Steps

end Stripe

end AgentPact
