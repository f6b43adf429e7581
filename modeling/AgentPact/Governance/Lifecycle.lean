import AgentPact.Base.Lts
import AgentPact.Governance.Attempts

/-!
# The lifecycle of permits and attempts

Any program of the two services is a sequence of nine calls, with any
arguments and any clock.  A call that raises leaves what it wrote before.

`StoreEffect` lists once what a call can do to the store: nothing, issue a
permit, expire one, consume one, consume one and register its attempt, or move
an attempt along its graph.  `CallStep.effect` shows that every call does one
of these.  Everything after that is by cases on the effect.

`Lawful` is the invariant of a store, `LawfulStep` what one call may change,
and `LawfulRun` what a whole run may.
-/

namespace AgentPact

open Base Transaction

/-! ## The calls -/

/-- A call of one of the nine operations. -/
inductive GovernanceCall where
  | issuePermit (permitId : String) (request : IssueRequest) (clock : Stamp)
  | consumePermit (permitId actionFingerprint observationHash : String)
      (now : Option DateTime) (clock : Stamp)
  | authorizeExecutionAttempt (attemptId : String) (request : AuthorizeRequest)
      (clock : AuthorizeClock)
  | markExecutionAttemptExecuting (attemptId : String) (now : Option DateTime) (clock : Stamp)
  | abandonAuthorizedExecutionAttempt (attemptId errorMessage : String)
      (now : Option DateTime) (clock : Stamp)
  | confirmExecutionAttempt (attemptId : String) (resultProbe : Option (List (String × Json)))
      (now : Option DateTime) (clock : Stamp)
  | failExecutionAttempt (attemptId errorMessage : String)
      (resultProbe : Option (List (String × Json))) (now : Option DateTime) (clock : Stamp)
  | markExecutionAttemptUnknown (attemptId errorMessage : String)
      (resultProbe : Option (List (String × Json))) (now : Option DateTime) (clock : Stamp)
  | resolveUnknownExecutionAttempt (attemptId : String) (confirmed : Bool)
      (resultProbe : List (String × Json)) (now : Option DateTime) (clock : Stamp)

/-- The store a call leaves, whether it returns or raises. -/
def GovernanceCall.leaves (P : Platform) (s : ExecutionStore) : GovernanceCall → ExecutionStore
  | .issuePermit id r clock => left (AgentPact.issuePermit id r clock s)
  | .consumePermit id af oh now clock => left (AgentPact.consumePermit id af oh now clock s)
  | .authorizeExecutionAttempt id r clock =>
      left (AgentPact.authorizeExecutionAttempt P id r clock s)
  | .markExecutionAttemptExecuting id now clock =>
      left (AgentPact.markExecutionAttemptExecuting id now clock s)
  | .abandonAuthorizedExecutionAttempt id message now clock =>
      left (AgentPact.abandonAuthorizedExecutionAttempt id message now clock s)
  | .confirmExecutionAttempt id probe now clock =>
      left (AgentPact.confirmExecutionAttempt id probe now clock s)
  | .failExecutionAttempt id message probe now clock =>
      left (AgentPact.failExecutionAttempt id message probe now clock s)
  | .markExecutionAttemptUnknown id message probe now clock =>
      left (AgentPact.markExecutionAttemptUnknown id message probe now clock s)
  | .resolveUnknownExecutionAttempt id confirmed probe now clock =>
      left (AgentPact.resolveUnknownExecutionAttempt id confirmed probe now clock s)

/-- One call takes a store to the store it leaves. -/
def CallStep (P : Platform) (c : GovernanceCall) (s t : ExecutionStore) : Prop :=
  t = c.leaves P s

/-! ## What a call can do -/

/-- The edges of the attempt graph. -/
inductive StatusEdge : ExecutionAttemptStatus → ExecutionAttemptStatus → Prop
  | start : StatusEdge .authorized .executing
  | abandon : StatusEdge .authorized .failed
  | confirm : StatusEdge .executing .confirmed
  | fail : StatusEdge .executing .failed
  | lose : StatusEdge .executing .unknown
  | resolveConfirmed : StatusEdge .unknown .confirmed
  | resolveFailed : StatusEdge .unknown .failed

/-- No edge leaves a settled attempt. -/
def ExecutionAttemptStatus.settled : ExecutionAttemptStatus → Bool
  | .confirmed | .failed => true
  | .authorized | .executing | .unknown => false

theorem StatusEdge.not_settled {a b : ExecutionAttemptStatus} (h : StatusEdge a b) :
    a.settled = false := by
  cases h <;> rfl

/-- An attempt carries what its permit says. -/
structure AttemptMatches (p : ExecutionPermitModel) (a : ExecutionAttemptModel) : Prop where
  permit : a.permitId = some p.permitId
  task : a.taskId = p.taskId
  step : a.stepId = p.stepId
  contract : a.contractId = p.contractId
  fingerprint : a.actionFingerprint = p.actionFingerprint
  observation : a.observationHash = p.observationHash
  effect : ∃ context, p.decisionPayload = .governed context ∧
    a.executionEffect = some context.executionEffect

/-- What a call can do to the store. -/
inductive StoreEffect (s : ExecutionStore) : ExecutionStore → Prop
  | same : StoreEffect s s
  | issued {t : ExecutionStore} {p : ExecutionPermitModel} {context : GovernedContext}
      (hstatus : p.status = .issued) (hunused : p.usedAt = none)
      (hpayload : p.decisionPayload = .governed context)
      (hallowed : (decideProfile context.executionEffect context.executionProfile).allowed = true)
      (hinsert : s.insertPermit? p = some t) : StoreEffect s t
  | expired {p : ExecutionPermitModel} {id : String} (hfind : s.permits.find? id = some p)
      (hstatus : p.status = .issued) :
      StoreEffect s (s.updatePermit id ExecutionPermitModel.expire)
  | consumed {p : ExecutionPermitModel} {id : String} {now : DateTime}
      (hfind : s.permits.find? id = some p) (hstatus : p.status = .issued)
      (hle : now.bind ≤ p.expiresAt) :
      StoreEffect s (s.updatePermit id (ExecutionPermitModel.consume now))
  | registered {t : ExecutionStore} {p : ExecutionPermitModel} {id : String} {now : DateTime}
      {a : ExecutionAttemptModel} (hfind : s.permits.find? id = some p)
      (hstatus : p.status = .issued) (hle : now.bind ≤ p.expiresAt)
      (hmatch : AttemptMatches p a) (hnew : a.status = .authorized)
      (hinsert : (s.updatePermit id (ExecutionPermitModel.consume now)).insertAttempt? a =
        some t) : StoreEffect s t
  | moved {m : ExecutionAttemptModel} {id : String} {toStatus : ExecutionAttemptStatus}
      {now : DateTime} {probe : Option (List (String × Json))} {message : Option String}
      (hfind : s.attempts.find? id = some m) (hedge : StatusEdge m.status toStatus)
      (hprobe : m.status = .unknown → ∃ evidence, probe = some evidence ∧ evidence ≠ []) :
      StoreEffect s (s.updateAttempt id
        (ExecutionAttemptModel.transition toStatus now probe message))

/-- A registered attempt carries what its permit says. -/
theorem AuthorizeRequest.model_matches {P : Platform} {r : AuthorizeRequest} {id : String}
    {p : ExecutionPermitModel} {created : Stamp} {context : GovernedContext}
    (hpayload : p.decisionPayload = .governed context)
    (heffect : context.executionEffect = r.effect) :
    AttemptMatches p (r.model P id p created) where
  permit := rfl
  task := rfl
  step := rfl
  contract := rfl
  fingerprint := rfl
  observation := rfl
  effect := ⟨context, hpayload, by rw [heffect]; rfl⟩

theorem issuePermit_effect {id : String} {r : IssueRequest} {clock : Stamp}
    {s : ExecutionStore} : StoreEffect s (left (issuePermit id r clock s)) := by
  cases h : issuePermit id r clock s with
  | ok permit t =>
      obtain ⟨expiresAt, _, hallowed, hinsert⟩ := issuePermit_eq_ok h
      exact .issued rfl rfl rfl hallowed hinsert
  | error e t =>
      rw [left_error, issuePermit_eq_error h]
      exact .same

theorem consumePermitModel_effect {id af oh : String} {now : Option DateTime} {clock : Stamp}
    {s : ExecutionStore} : StoreEffect s (left (consumePermitModel id af oh now clock s)) := by
  cases h : consumePermitModel id af oh now clock s with
  | ok m t =>
      obtain ⟨p, at_, hfind, hissued, _, _, _, hle, _, rfl⟩ := consumePermitModel_eq_ok h
      exact .consumed hfind hissued hle
  | error e t =>
      rcases consumePermitModel_eq_error h with rfl | ⟨p, hfind, hissued, rfl⟩
      · exact .same
      · exact .expired hfind hissued

/-- Returning the contract of a permit changes nothing. -/
theorem consumePermit_left {id af oh : String} {now : Option DateTime} {clock : Stamp}
    {s : ExecutionStore} :
    left (consumePermit id af oh now clock s) =
      left (consumePermitModel id af oh now clock s) := by
  unfold consumePermit
  cases h : consumePermitModel id af oh now clock s with
  | ok m t => rw [bind_of_ok h]; rfl
  | error e t => rw [bind_of_error h]; rfl

theorem authorizeExecutionAttempt_effect {P : Platform} {id : String} {r : AuthorizeRequest}
    {clock : AuthorizeClock} {s : ExecutionStore} :
    StoreEffect s (left (authorizeExecutionAttempt P id r clock s)) := by
  cases h : authorizeExecutionAttempt P id r clock s with
  | ok a t =>
      obtain ⟨p, context, at_, hfind, hissued, hpayload, heffect, _, _, _, _, hle, _, hinsert, _⟩ :=
        authorizeExecutionAttempt_eq_ok h
      exact .registered hfind hissued hle (AuthorizeRequest.model_matches hpayload heffect) rfl
        hinsert
  | error e t =>
      rcases authorizeExecutionAttempt_eq_error h with
        rfl | ⟨p, hfind, hissued, rfl | ⟨at_, hle, rfl⟩⟩
      · exact .same
      · exact .expired hfind hissued
      · exact .consumed hfind hissued hle

theorem transitionAttempt_effect {id : String} {fromStatus toStatus : ExecutionAttemptStatus}
    {probe : Option (List (String × Json))} {message : Option String} {now : Option DateTime}
    {clock : Stamp} {s : ExecutionStore} (hedge : StatusEdge fromStatus toStatus)
    (hprobe : fromStatus = .unknown → ∃ evidence, probe = some evidence ∧ evidence ≠ []) :
    StoreEffect s (left (transitionAttempt id fromStatus toStatus probe message now clock s)) := by
  rcases transitionAttempt_left id fromStatus toStatus probe message now clock s with
    h | ⟨m, hfind, rfl, h⟩
  · rw [h]; exact .same
  · rw [h]; exact .moved hfind hedge hprobe

theorem resolveUnknownExecutionAttempt_effect {id : String} {confirmed : Bool}
    {probe : List (String × Json)} {now : Option DateTime} {clock : Stamp}
    {s : ExecutionStore} :
    StoreEffect s (left (resolveUnknownExecutionAttempt id confirmed probe now clock s)) := by
  unfold resolveUnknownExecutionAttempt
  by_cases hempty : probe.isEmpty = false
  · rw [require_bind hempty]
    refine transitionAttempt_effect ?_ fun _ => ⟨probe, rfl, by simpa using hempty⟩
    cases confirmed
    · exact .resolveFailed
    · exact .resolveConfirmed
  · rw [require_bind_not hempty]
    exact .same

/-- Every call does one of the listed things. -/
theorem CallStep.effect {P : Platform} {c : GovernanceCall} {s t : ExecutionStore}
    (h : CallStep P c s t) : StoreEffect s t := by
  subst h
  cases c with
  | issuePermit id r clock => exact issuePermit_effect
  | consumePermit id af oh now clock =>
      rw [GovernanceCall.leaves, consumePermit_left]
      exact consumePermitModel_effect
  | authorizeExecutionAttempt id r clock => exact authorizeExecutionAttempt_effect
  | markExecutionAttemptExecuting id now clock =>
      exact transitionAttempt_effect .start (by simp)
  | abandonAuthorizedExecutionAttempt id message now clock =>
      exact transitionAttempt_effect .abandon (by simp)
  | confirmExecutionAttempt id probe now clock => exact transitionAttempt_effect .confirm (by simp)
  | failExecutionAttempt id message probe now clock =>
      exact transitionAttempt_effect .fail (by simp)
  | markExecutionAttemptUnknown id message probe now clock =>
      exact transitionAttempt_effect .lose (by simp)
  | resolveUnknownExecutionAttempt id confirmed probe now clock =>
      exact resolveUnknownExecutionAttempt_effect

/-! ## What happens to a row -/

/-- What one call may do to a permit. -/
structure PermitStep (p q : ExecutionPermitModel) : Prop where
  /-- Only the status and the time of use change. -/
  frame : q = { p with status := q.status, usedAt := q.usedAt }
  /-- A permit that was used up stays as it is. -/
  spent : p.status ≠ .issued → q = p

theorem PermitStep.refl (p : ExecutionPermitModel) : PermitStep p p := ⟨rfl, fun _ => rfl⟩

theorem PermitStep.trans (p q r : ExecutionPermitModel) (h : PermitStep p q)
    (h' : PermitStep q r) : PermitStep p r where
  frame := by rw [h'.frame, h.frame]
  spent hp := by
    have hq := h.spent hp
    subst hq
    exact h'.spent hp

/-- What one call may do to an attempt. -/
inductive AttemptStep (a : ExecutionAttemptModel) : ExecutionAttemptModel → Prop
  | same : AttemptStep a a
  | moved {b : ExecutionAttemptModel} (hedge : StatusEdge a.status b.status)
      (hprobe : a.status = .unknown → ∃ evidence, b.resultProbe = some evidence ∧ evidence ≠ [])
      (hframe : b = { a with
        status := b.status, startedAt := b.startedAt, completedAt := b.completedAt
        resultProbe := b.resultProbe, errorMessage := b.errorMessage }) : AttemptStep a b

/-- A transition that finds its attempt takes it along an edge. -/
theorem AttemptStep.of_transition {m : ExecutionAttemptModel}
    {toStatus : ExecutionAttemptStatus} {now : DateTime} {probe : Option (List (String × Json))}
    {message : Option String} (hedge : StatusEdge m.status toStatus)
    (hprobe : m.status = .unknown → ∃ evidence, probe = some evidence ∧ evidence ≠ []) :
    AttemptStep m ((ExecutionAttemptModel.transition toStatus now probe message).apply m) := by
  by_cases hexec : toStatus = .executing
  · refine .moved ?_ ?_ ?_
    · simpa [ExecutionAttemptModel.transition, hexec] using hexec ▸ hedge
    · intro hunknown
      rw [hunknown, hexec] at hedge
      cases hedge
    · simp [ExecutionAttemptModel.transition, hexec]
  · refine .moved ?_ ?_ ?_
    · simpa [ExecutionAttemptModel.transition, hexec] using hedge
    · simpa [ExecutionAttemptModel.transition, hexec] using hprobe
    · simp [ExecutionAttemptModel.transition, hexec]

/-- What a run may do to an attempt. -/
structure AttemptHistory (a b : ExecutionAttemptModel) : Prop where
  /-- The status follows the graph. -/
  path : Relation.ReflTransGen StatusEdge a.status b.status
  /-- What the attempt is about stays. -/
  frame : b = { a with
    status := b.status, startedAt := b.startedAt, completedAt := b.completedAt
    resultProbe := b.resultProbe, errorMessage := b.errorMessage }
  /-- A settled attempt stays as it is. -/
  settled : a.status.settled = true → b = a

theorem AttemptHistory.refl (a : ExecutionAttemptModel) : AttemptHistory a a :=
  ⟨.refl, rfl, fun _ => rfl⟩

theorem AttemptHistory.trans (a b c : ExecutionAttemptModel) (h : AttemptHistory a b)
    (h' : AttemptHistory b c) : AttemptHistory a c where
  path := h.path.trans h'.path
  frame := by rw [h'.frame, h.frame]
  settled ha := by
    have hb := h.settled ha
    subst hb
    exact h'.settled ha

theorem AttemptStep.history {a b : ExecutionAttemptModel} (h : AttemptStep a b) :
    AttemptHistory a b := by
  cases h with
  | same => exact .refl a
  | moved hedge hprobe hframe =>
      refine ⟨.single hedge, hframe, fun ha => ?_⟩
      rw [hedge.not_settled] at ha
      cases ha

/-- An attempt matches its permit whatever its status is. -/
theorem AttemptMatches.of_frame {p : ExecutionPermitModel} {a b : ExecutionAttemptModel}
    (h : AttemptMatches p a) (hframe : b = { a with
      status := b.status, startedAt := b.startedAt, completedAt := b.completedAt
      resultProbe := b.resultProbe, errorMessage := b.errorMessage }) : AttemptMatches p b := by
  rw [hframe]
  exact ⟨h.permit, h.task, h.step, h.contract, h.fingerprint, h.observation, h.effect⟩

theorem StoreEffect.permits_evolve {s t : ExecutionStore} (h : StoreEffect s t) :
    s.permits.Evolves PermitStep t.permits := by
  cases h with
  | same => exact .refl PermitStep.refl _
  | issued _ _ _ _ hinsert =>
      exact .insert? PermitStep.refl (ExecutionStore.insertPermit?_eq_some.mp hinsert).1
  | expired hfind hstatus =>
      refine .update PermitStep.refl fun p hp => ?_
      cases hfind.symm.trans hp
      exact ⟨rfl, fun h => absurd hstatus h⟩
  | consumed hfind hstatus _ =>
      refine .update PermitStep.refl fun p hp => ?_
      cases hfind.symm.trans hp
      exact ⟨rfl, fun h => absurd hstatus h⟩
  | registered hfind hstatus _ _ _ hinsert =>
      rw [(ExecutionStore.insertAttempt?_eq_some.mp hinsert).2]
      refine .update PermitStep.refl fun p hp => ?_
      cases hfind.symm.trans hp
      exact ⟨rfl, fun h => absurd hstatus h⟩
  | moved _ _ _ => exact .refl PermitStep.refl _

theorem StoreEffect.attempts_evolve {s t : ExecutionStore} (h : StoreEffect s t) :
    s.attempts.Evolves AttemptStep t.attempts := by
  cases h with
  | same => exact .refl (fun _ => .same) _
  | issued _ _ _ _ hinsert =>
      rw [(ExecutionStore.insertPermit?_eq_some.mp hinsert).2]
      exact .refl (fun _ => .same) _
  | expired _ _ => exact .refl (fun _ => .same) _
  | consumed _ _ _ => exact .refl (fun _ => .same) _
  | registered _ _ _ _ _ hinsert =>
      exact .insert? (fun _ => .same) (ExecutionStore.insertAttempt?_eq_some.mp hinsert).1
  | moved hfind hedge hprobe =>
      refine .update (fun _ => .same) fun m hm => ?_
      cases hfind.symm.trans hm
      exact .of_transition hedge hprobe

/-- An attempt that a call adds is authorized, and its permit was issued and is consumed. -/
theorem StoreEffect.added {s t : ExecutionStore} (h : StoreEffect s t) {id : String}
    {a : ExecutionAttemptModel} (ha : t.attempts.find? id = some a)
    (hnew : s.attempts.find? id = none) :
    a.status = .authorized ∧ ∃ p q pid, s.permits.find? pid = some p ∧ p.status = .issued ∧
      t.permits.find? pid = some q ∧ AttemptMatches q a ∧ q.status = .consumed ∧
      ∃ used, q.usedAt = some used ∧ used ≤ q.expiresAt := by
  have hkeep : s.attempts.find? id ≠ some a := fun h => by rw [hnew] at h; cases h
  cases h with
  | same => exact absurd ha hkeep
  | issued _ _ _ _ hinsert =>
      rw [(ExecutionStore.insertPermit?_eq_some.mp hinsert).2] at ha
      exact absurd ha hkeep
  | expired _ _ => exact absurd ha hkeep
  | consumed _ _ _ => exact absurd ha hkeep
  | @registered _ p pid now b hfind hstatus hle hmatch hb hinsert =>
      obtain ⟨hrow, hpermits⟩ := ExecutionStore.insertAttempt?_eq_some.mp hinsert
      cases Table.find?_insert?_new hrow ha hnew
      refine ⟨hb, p, (ExecutionPermitModel.consume now).apply p, pid, hfind, hstatus, ?_, ?_,
        rfl, now.bind, rfl, hle⟩
      · rw [hpermits]
        exact Table.find?_update_self hfind
      · exact ⟨hmatch.permit, hmatch.task, hmatch.step, hmatch.contract, hmatch.fingerprint,
          hmatch.observation, hmatch.effect⟩
  | moved _ _ _ =>
      rw [ExecutionStore.updateAttempt_attempts, Table.find?_update_none hnew] at ha
      cases ha

/-- A permit that a call adds is issued, unused, and for a profile that may carry its effect. -/
theorem StoreEffect.added_permit {s t : ExecutionStore} (h : StoreEffect s t) {id : String}
    {p : ExecutionPermitModel} (hp : t.permits.find? id = some p)
    (hnew : s.permits.find? id = none) :
    p.status = .issued ∧ p.usedAt = none ∧ ∃ context, p.decisionPayload = .governed context ∧
      (decideProfile context.executionEffect context.executionProfile).allowed = true := by
  have hkeep : ∀ (pid : String) (e : Edit ExecutionPermitModel),
      (s.permits.update pid e).find? id ≠ some p := fun pid e h => by
    rw [Table.find?_update_none hnew] at h
    cases h
  cases h with
  | same => rw [hnew] at hp; cases hp
  | issued hstatus hunused hpayload hallowed hinsert =>
      cases Table.find?_insert?_new (ExecutionStore.insertPermit?_eq_some.mp hinsert).1 hp hnew
      exact ⟨hstatus, hunused, _, hpayload, hallowed⟩
  | expired _ _ => exact absurd hp (hkeep _ _)
  | consumed _ _ _ => exact absurd hp (hkeep _ _)
  | registered _ _ _ _ _ hinsert =>
      rw [(ExecutionStore.insertAttempt?_eq_some.mp hinsert).2] at hp
      exact absurd hp (hkeep _ _)
  | moved _ _ _ => rw [ExecutionStore.updateAttempt_permits, hnew] at hp; cases hp

/-! ## The invariant -/

/-- What holds of every store the services reach. -/
structure Lawful (s : ExecutionStore) : Prop where
  /-- Every attempt has a consumed permit, used in time, that says what the attempt says. -/
  backed : ∀ id a, s.attempts.find? id = some a → ∃ pid p, s.permits.find? pid = some p ∧
    AttemptMatches p a ∧ p.status = .consumed ∧ ∃ used, p.usedAt = some used ∧ used ≤ p.expiresAt
  /-- A permit has at most one attempt. -/
  injective : ∀ i j a b, s.attempts.find? i = some a → s.attempts.find? j = some b →
    a.permitId = b.permitId → a = b
  /-- Every permit was issued for a profile that may carry its effect. -/
  allowed : ∀ pid p, s.permits.find? pid = some p → ∃ context,
    p.decisionPayload = .governed context ∧
      (decideProfile context.executionEffect context.executionProfile).allowed = true

/-- Two attempts that name one permit are one attempt, by the unique index on the column. -/
theorem eq_of_permitId {s : ExecutionStore} {i j : String} {a b : ExecutionAttemptModel}
    {pid : String} (ha : s.attempts.find? i = some a) (hb : s.attempts.find? j = some b)
    (hap : a.permitId = some pid) (hbp : b.permitId = some pid) : a = b :=
  Table.eq_of_clash (Table.mem_of_find? ha) (Table.mem_of_find? hb)
    (ExecutionAttemptModel.clash_iff.mpr (.inr (.inl ⟨pid, hap, hbp⟩)))

theorem Lawful.empty : Lawful .empty where
  backed _ _ h := by cases h
  injective _ _ _ _ h := by cases h
  allowed _ _ h := by cases h

theorem Lawful.effect {s t : ExecutionStore} (hs : Lawful s) (h : StoreEffect s t) :
    Lawful t := by
  have hbacked : ∀ id a, t.attempts.find? id = some a → ∃ pid p,
      t.permits.find? pid = some p ∧ AttemptMatches p a ∧ p.status = .consumed ∧
        ∃ used, p.usedAt = some used ∧ used ≤ p.expiresAt := by
    intro id b hb
    cases ha : s.attempts.find? id with
    | none =>
        obtain ⟨_, _, q, pid, _, _, hq, hrest⟩ := h.added hb ha
        exact ⟨pid, q, hq, hrest⟩
    | some a =>
        -- the attempt was there, its permit is spent, so the permit did not change
        obtain ⟨pid, p, hp, hmatch, hconsumed, hused⟩ := hs.backed id a ha
        obtain ⟨b', hb', hstep⟩ := h.attempts_evolve id a ha
        cases hb.symm.trans hb'
        obtain ⟨q, hq, hpq⟩ := h.permits_evolve pid p hp
        have hspent : q = p := hpq.spent (by rw [hconsumed]; decide)
        subst hspent
        exact ⟨pid, q, hq, hmatch.of_frame hstep.history.frame, hconsumed, hused⟩
  refine ⟨hbacked, fun i j a b ha hb hab => ?_, fun pid q hq => ?_⟩
  · obtain ⟨_, p, _, hmatch, _⟩ := hbacked i a ha
    exact eq_of_permitId ha hb hmatch.permit (hab ▸ hmatch.permit)
  · cases hp : s.permits.find? pid with
    | none => exact (h.added_permit hq hp).2.2
    | some p =>
        obtain ⟨q', hq', hpq⟩ := h.permits_evolve pid p hp
        cases hq.symm.trans hq'
        rw [hpq.frame]
        exact hs.allowed pid p hp

/-- What one call may do to the two tables. -/
structure LawfulCall (P : Platform) (c : GovernanceCall) (s t : ExecutionStore) : Prop where
  /-- A status follows an edge, or the attempt does not change. -/
  attempts : s.attempts.Evolves AttemptStep t.attempts
  /-- A new attempt is authorized. -/
  born : ∀ id a, s.attempts.find? id = none → t.attempts.find? id = some a →
    a.status = .authorized
  /-- A permit that was used up stays as it is, and its payload always does. -/
  permits : s.permits.Evolves PermitStep t.permits
  /-- A permit stores the effect and the profile it was issued for. -/
  issued : ∀ id r clock permit, c = .issuePermit id r clock →
    AgentPact.issuePermit id r clock s = .ok permit t →
    ∃ p context, t.permits.find? id = some p ∧ p.decisionPayload = .governed context ∧
      context.executionEffect = r.effect ∧ context.executionProfile = r.executionProfile
  /-- An attempt is authorized for the effect and the profile its permit stores. -/
  authorized : ∀ id r clock a, c = .authorizeExecutionAttempt id r clock →
    AgentPact.authorizeExecutionAttempt P id r clock s = .ok a t →
    ∃ p context, t.permits.find? r.permitId = some p ∧ p.decisionPayload = .governed context ∧
      context.executionEffect = r.effect ∧ context.executionProfile = r.executionProfile

theorem issuePermit_stores {id : String} {r : IssueRequest} {clock : Stamp}
    {s t : ExecutionStore} {permit : ExecutionPermit}
    (h : issuePermit id r clock s = .ok permit t) :
    ∃ p context, t.permits.find? id = some p ∧ p.decisionPayload = .governed context ∧
      context.executionEffect = r.effect ∧ context.executionProfile = r.executionProfile := by
  obtain ⟨expiresAt, _, _, hinsert⟩ := issuePermit_eq_ok h
  have hrow := (ExecutionStore.insertPermit?_eq_some.mp hinsert).1
  exact ⟨_, _, Table.find?_insert?_self hrow, rfl, rfl, rfl⟩

theorem authorizeExecutionAttempt_stores {P : Platform} {id : String} {r : AuthorizeRequest}
    {clock : AuthorizeClock} {s t : ExecutionStore} {a : ExecutionAttempt}
    (h : authorizeExecutionAttempt P id r clock s = .ok a t) :
    ∃ p context, t.permits.find? r.permitId = some p ∧ p.decisionPayload = .governed context ∧
      context.executionEffect = r.effect ∧ context.executionProfile = r.executionProfile := by
  obtain ⟨p, context, at_, hfind, _, hpayload, heffect, hprofile, _, _, _, _, _, hinsert, _⟩ :=
    authorizeExecutionAttempt_eq_ok h
  refine ⟨(ExecutionPermitModel.consume at_).apply p, context, ?_, hpayload, heffect, hprofile⟩
  rw [(ExecutionStore.insertAttempt?_eq_some.mp hinsert).2]
  exact Table.find?_update_self hfind

theorem CallStep.lawful {P : Platform} {c : GovernanceCall} {s t : ExecutionStore}
    (h : CallStep P c s t) : LawfulCall P c s t where
  attempts := h.effect.attempts_evolve
  born _ _ hnew ha := (h.effect.added ha hnew).1
  permits := h.effect.permits_evolve
  issued _ _ _ _ _ hrun := issuePermit_stores hrun
  authorized _ _ _ _ _ hrun := authorizeExecutionAttempt_stores hrun

/-- What a run may do to the two tables. -/
structure LawfulRun (s t : ExecutionStore) : Prop where
  /-- Statuses follow the graph, and a settled attempt never changes. -/
  attempts : s.attempts.Evolves AttemptHistory t.attempts
  /-- A used-up permit never changes, and a payload never does. -/
  permits : s.permits.Evolves PermitStep t.permits

theorem LawfulRun.refl (s : ExecutionStore) : LawfulRun s s :=
  ⟨.refl AttemptHistory.refl _, .refl PermitStep.refl _⟩

theorem LawfulRun.trans (s t u : ExecutionStore) (h : LawfulRun s t) (h' : LawfulRun t u) :
    LawfulRun s u :=
  ⟨h.attempts.trans AttemptHistory.trans h'.attempts,
    h.permits.trans PermitStep.trans h'.permits⟩

/-- What one call can do is a run. -/
theorem StoreEffect.lawfulRun {s t : ExecutionStore} (h : StoreEffect s t) : LawfulRun s t where
  attempts id a ha := by
    obtain ⟨b, hb, hab⟩ := h.attempts_evolve id a ha
    exact ⟨b, hb, hab.history⟩
  permits := h.permits_evolve

theorem lawfulRun_of_reaches {P : Platform} {s t : ExecutionStore}
    (h : Reaches (CallStep P) always s t) : LawfulRun s t :=
  h.related LawfulRun.refl LawfulRun.trans fun _ _ _ _ hstep => hstep.effect.lawfulRun

theorem callStep_leaves (P : Platform) (s : ExecutionStore) (c : GovernanceCall) :
    CallStep P c s (c.leaves P s) := rfl

/-- A list of calls is a run. -/
theorem reaches_calls (P : Platform) (cs : List GovernanceCall) (s : ExecutionStore) :
    Reaches (CallStep P) always s (cs.foldl (GovernanceCall.leaves P) s) :=
  Reaches.foldl (callStep_leaves P) cs s

/-- Every store the nine calls reach is lawful, every call from it and every run from it does
only what the lifecycle allows. -/
theorem governance_reachable_lawful (P : Platform) {s : ExecutionStore}
    (hs : Reaches (CallStep P) always .empty s) :
    Lawful s ∧ (∀ c t, CallStep P c s t → LawfulCall P c s t) ∧
      ∀ t, Reaches (CallStep P) always s t → LawfulRun s t :=
  ⟨hs.invariant (fun _ _ _ _ hs hstep => hs.effect hstep.effect) Lawful.empty,
    fun _ _ h => h.lawful, fun _ h => lawfulRun_of_reaches h⟩

/-! ## A run -/

section Run

/-- A request for a permit on an external write by locator. -/
def sampleIssue : IssueRequest where
  taskId := "task"
  stepId := "step"
  contractId := "contract"
  actionFingerprint := "fingerprint"
  observationHash := "observation"
  decision := ⟨"decision", "intent", .allow, .low, [], [], "v1"⟩
  effect := .externalWrite
  executionProfile := ⟨.locator, 0, ["evidence"], ExecutionMechanism.locator_rank⟩
  cuaExecutionEvidence := none
  ttlSeconds := 60

/-- A request that uses the permit. -/
def sampleAuthorize : AuthorizeRequest where
  permitId := "permit"
  actionFingerprint := "fingerprint"
  observationHash := "observation"
  idempotencyKey := "key"
  effect := .externalWrite
  executionProfile := ⟨.locator, 0, ["evidence"], ExecutionMechanism.locator_rank⟩
  cuaExecutionEvidence := none
  resultProbeRef := some "probe"
  now := none

/-- Issue a permit, use it, start the attempt, lose its outcome. -/
def sampleStore : ExecutionStore :=
  [GovernanceCall.issuePermit "permit" sampleIssue 0,
    .authorizeExecutionAttempt "attempt" sampleAuthorize ⟨1, 1, 1⟩,
    .markExecutionAttemptExecuting "attempt" none 2,
    .markExecutionAttemptUnknown "attempt" "lost" none none 3].foldl
      (GovernanceCall.leaves samplePlatform) .empty

theorem governance_reachable_lawful_sample :
    Lawful sampleStore ∧ sampleStore.attempts.rows.map (·.status) = [.unknown] :=
  ⟨(governance_reachable_lawful samplePlatform (reaches_calls samplePlatform _ _)).1, by decide⟩

end Run

end AgentPact
