import AgentPact.StripePayment.Harness

/-!
# A payment is committed once

Calls of the harness in any order, with any arguments and any faults.

What an operation leaves is said once, case by case: `Prepared`, `Decided`,
`Executed` and `Resolved`.  The invariant ties each challenge to the payment it
was prepared with, by its state.  A challenge is the only one with its payment,
and a payment has a key only where its challenge committed it.

`CommitsOnce` holds of a harness that was built on a store without commits, and
every call preserves it.  The one thing asked of a run is that `uuid4` does not
give a challenge the id of another.
-/

namespace AgentPact

open Base Transaction

namespace Stripe

variable {P : Platform} {H : HarnessSetup}

/-! ## Preparing -/

/-- A harness with a draft for a requester. -/
def Harness.withDraft (h : Harness) (facts : StripePaymentFacts) (requesterUserId : String) :
    Harness :=
  { h with store := h.store.put (.draft facts requesterUserId) facts.paymentIntentId }

/-- A challenge that was prepared. -/
structure IsPrepared (env : PrepareEnvironment) (requester : UserContext)
    (facts : StripePaymentFacts) (c : StripeSubmissionChallenge) : Prop where
  named : c.challengeId = env.challengeId
  facts_eq : c.facts = facts
  requester_eq : c.requesterUserId = requester.userId
  waiting : c.state = .pendingApproval
  unattempted : c.attempt = none

theorem challengeFor_eq_ok {env : PrepareEnvironment} {requester : UserContext}
    {facts : StripePaymentFacts} {grants : CapabilityGrantSet} {grant : CapabilityGrant}
    {r : StripePaymentRecord} {taskId stepId contractId : Option String}
    {c : StripeSubmissionChallenge}
    (h : challengeFor P H env requester facts grants grant r taskId stepId contractId = .ok c) :
    IsPrepared env requester facts c := by
  obtain ⟨contract, _, h⟩ := except_bind_eq_ok.mp h
  obtain ⟨_, _, h⟩ := except_bind_eq_ok.mp h
  obtain ⟨_, _, h⟩ := except_bind_eq_ok.mp h
  obtain ⟨decision, _, h⟩ := except_bind_eq_ok.mp h
  cases h
  exact ⟨rfl, rfl, rfl, rfl, rfl⟩

/-- How `prepare_submission` ends. -/
inductive Prepared (env : PrepareEnvironment) (requester : UserContext)
    (facts : StripePaymentFacts) (h : Harness) :
    EStateM.Result Raised Harness StripeSubmissionChallenge → Prop
  /-- It raises and changes nothing. -/
  | refused (e : Raised) : Prepared env requester facts h (.error e h)
  /-- It raises after it has created the draft. -/
  | drafted (e : Raised) (hnew : h.store.records facts.paymentIntentId = none) :
      Prepared env requester facts h (.error e (h.withDraft facts requester.userId))
  /-- It returns a challenge. -/
  | prepared (c : StripeSubmissionChallenge)
      (hnew : h.store.records facts.paymentIntentId = none)
      (hc : IsPrepared env requester facts c) :
      Prepared env requester facts h
        (.ok c ((h.withDraft facts requester.userId).put c.challengeId c))

theorem onStore_createDraft (facts : StripePaymentFacts) (requesterUserId : String) (h : Harness) :
    onStore (createDraft facts requesterUserId) h =
      if h.store.records facts.paymentIntentId = none then
        .ok (.draft facts requesterUserId) (h.withDraft facts requesterUserId)
      else .error (paymentError "Stripe PaymentIntent already exists") h := by
  have hcreate := createDraft_apply facts requesterUserId h.store
  unfold onStore on
  rw [hcreate]
  by_cases hnew : h.store.records facts.paymentIntentId = none
  · rw [if_pos hnew, if_pos hnew]
    rfl
  · rw [if_neg hnew, if_neg hnew]

theorem prepareSubmission_ends (env : PrepareEnvironment) (requester : UserContext)
    (facts : StripePaymentFacts) (taskId stepId contractId : Option String) (h : Harness) :
    Prepared env requester facts h
      (prepareSubmission P H env requester facts taskId stepId contractId h) := by
  unfold prepareSubmission
  refine lift_bind_elim (fun e _ => .refused e) fun _ _ => ?_
  refine lift_bind_elim (fun e _ => .refused e) fun grants _ => ?_
  refine lift_bind_elim (fun e _ => .refused e) fun grant _ => ?_
  refine lift_bind_elim (fun e _ => .refused e) fun _ _ => ?_
  have hdraft := onStore_createDraft facts requester.userId h
  split at hdraft
  case isTrue hnew =>
    rw [bind_of_ok hdraft]
    refine lift_bind_elim (fun e _ => .drafted e hnew) fun c hc => ?_
    rw [write_bind]
    exact .prepared c hnew (challengeFor_eq_ok hc)
  case isFalse =>
    rw [bind_of_error hdraft]
    exact .refused _

/-! ## Deciding -/

/-- How `decide_approval` ends. -/
inductive Decided (P : Platform) (H : HarnessSetup) (env : DecideEnvironment) (id : String)
    (requester approver : UserContext) (h : Harness) :
    EStateM.Result Raised Harness StripeSubmissionChallenge → Prop
  /-- It raises and changes nothing. -/
  | refused (e : Raised) : Decided P H env id requester approver h (.error e h)
  /-- It raises and invalidates the challenge. -/
  | invalidated (e : Raised) (c : StripeSubmissionChallenge) (hc : h.challenges id = some c)
      (hstate : c.state = .pendingApproval) :
      Decided P H env id requester approver h
        (.error e (h.put id { c with state := .invalidated }))
  /-- The approver says no. -/
  | rejected (c : StripeSubmissionChallenge) (hc : h.challenges id = some c)
      (hstate : c.state = .pendingApproval) :
      Decided P H env id requester approver h
        (.ok { c with state := .rejected } (h.put id { c with state := .rejected }))
  /-- The approver says yes. -/
  | approved (c c' : StripeSubmissionChallenge) (hc : h.challenges id = some c)
      (hstate : c.state = .pendingApproval) (hrequester : requester.userId = c.requesterUserId)
      (hcurrent : currentForDecision P H env c requester h = .ok ())
      (happrove : approveChallenge env c requester approver = .ok c') :
      Decided P H env id requester approver h (.ok c' (h.put id c'))

/-- A check passes, or raises, and then it may invalidate the challenge. -/
theorem invalidating_bind_elim {α : Type}
    {C : EStateM.Result Raised Harness α → Prop} {id : String} {c : StripeSubmissionChallenge}
    {x : Harness → Except Raised Unit} {f : Unit → HarnessTx α} {h : Harness}
    (hrefused : ∀ e, C (.error e h))
    (hinvalidated : ∀ e, C (.error e (h.put id { c with state := .invalidated })))
    (hok : x h = .ok () → C (f () h)) : C ((invalidating id c x >>= f) h) := by
  cases hx : x h with
  | ok u =>
      have hrun : invalidating id c x h = .ok () h := by
        unfold invalidating
        rw [hx]
      rw [bind_of_ok hrun]
      exact hok hx
  | error e =>
      by_cases hcaught : ErrorClass.stripePaymentError.caughtBy e
      · have hrun : invalidating id c x h =
            .error e (h.put id { c with state := .invalidated }) := by
          unfold invalidating
          rw [hx]
          exact if_pos hcaught
        rw [bind_of_error hrun]
        exact hinvalidated e
      · have hrun : invalidating id c x h = .error e h := by
          unfold invalidating
          rw [hx]
          exact if_neg hcaught
        rw [bind_of_error hrun]
        exact hrefused e

theorem decideApproval_ends (env : DecideEnvironment) (id : String)
    (requester approver : UserContext) (approved : Bool) (h : Harness) :
    Decided P H env id requester approver h
      (decideApproval P H env id requester approver approved h) := by
  unfold decideApproval requireChallenge
  refine fetch_bind_elim (fun _ => .refused _) fun c hc => ?_
  refine require_bind_elim (fun _ => .refused _) fun hstate => ?_
  refine require_bind_elim (fun _ => .refused _) fun hrequester => ?_
  cases approved with
  | false =>
      rw [if_neg (by simp), write_bind]
      exact .rejected c hc hstate
  | true =>
      rw [if_pos rfl]
      refine invalidating_bind_elim (fun e => .refused e)
        (fun e => .invalidated e c hc hstate) fun hcurrent => ?_
      refine lift_bind_elim (fun e _ => .refused e) fun c' happrove => ?_
      rw [write_bind]
      exact .approved c c' hc hstate hrequester hcurrent happrove

/-- A challenge that went on, for the same payment under the same bindings. -/
structure GoesOn (c c' : StripeSubmissionChallenge) : Prop where
  named : c'.challengeId = c.challengeId
  facts_eq : c'.facts = c.facts
  requester_eq : c'.requesterUserId = c.requesterUserId
  contract_eq : c'.contract = c.contract
  intent_eq : c'.intent = c.intent
  observation_eq : c'.observationHash = c.observationHash

/-- A challenge that was approved, by a user other than its requester. -/
structure IsApproved (c : StripeSubmissionChallenge) (requester approver : UserContext)
    (c' : StripeSubmissionChallenge) : Prop extends GoesOn c c' where
  ready : c'.state = .ready
  attempt_eq : c'.attempt = c.attempt
  approval : ∃ a, c'.approval = some a ∧ a.requesterUserId = requester.userId ∧
    a.approverUserId = approver.userId ∧ a.approverUserId ≠ a.requesterUserId

theorem approveChallenge_eq_ok {env : DecideEnvironment} {c c' : StripeSubmissionChallenge}
    {requester approver : UserContext}
    (h : approveChallenge env c requester approver = .ok c') :
    IsApproved c requester approver c' := by
  obtain ⟨decision, hauthorized, h⟩ := except_bind_eq_ok.mp h
  obtain ⟨expiresAt, _, h⟩ := except_bind_eq_ok.mp h
  cases h
  exact ⟨⟨rfl, rfl, rfl, rfl, rfl, rfl⟩, rfl, rfl, _, rfl, rfl, rfl,
    (authorizeAfterApproval_separates hauthorized).symm⟩

/-! ## Executing -/

/-- Two attempts that are one, possibly at different times. -/
def SameAttempt (a a' : ExecutionAttempt) : Prop :=
  a'.attemptId = a.attemptId ∧ a'.idempotencyKey = a.idempotencyKey

/-- A challenge that was finished. -/
structure IsFinished (c : StripeSubmissionChallenge) (final : FinalState)
    (c' : StripeSubmissionChallenge) : Prop extends GoesOn c c' where
  state_eq : c'.state = final.state
  approval_eq : c'.approval = c.approval
  attempt : ∃ a a', c.attempt = some a ∧ c'.attempt = some a' ∧ SameAttempt a a'

theorem finish_ends (id : String) {c : StripeSubmissionChallenge} {a : ExecutionAttempt}
    (ha : c.attempt = some a) (final : FinalState) (evidence : ResultProbeEvidence)
    (finishedAt : DateTime) (errorMessage : Option String) (h : Harness) :
    ∃ c', IsFinished c final c' ∧
      finish id c final evidence finishedAt errorMessage h = .ok c' (h.put id c') := by
  refine ⟨c.finished a final evidence finishedAt errorMessage, ?_, ?_⟩
  · exact ⟨⟨rfl, rfl, rfl, rfl, rfl, rfl⟩, rfl, rfl, a, _, ha, rfl, rfl, rfl⟩
  · unfold finish
    rw [ha]
    rfl

/-- How `execute_submission` ends. -/
inductive Executed (P : Platform) (H : HarnessSetup) (env : ExecuteEnvironment) (id : String)
    (faultMode : StripeFaultMode) (outcome : StripeOutcome) (h : Harness) :
    EStateM.Result Raised Harness StripeSubmissionChallenge → Prop
  /-- It raises and changes nothing. -/
  | refused (e : Raised) : Executed P H env id faultMode outcome h (.error e h)
  /-- It raises and invalidates the challenge. -/
  | invalidated (e : Raised) (c : StripeSubmissionChallenge) (hc : h.challenges id = some c)
      (hstate : c.state = .ready) :
      Executed P H env id faultMode outcome h
        (.error e (h.put id { c with state := .invalidated }))
  /-- It submits the payment of the challenge. -/
  | submitted (c : StripeSubmissionChallenge) (permit : ExecutionPermit)
      (approval : StripeApproval) (current : StripePaymentRecord)
      (hc : h.challenges id = some c) (hstate : c.state = .ready)
      (happroval : c.approval = some approval)
      (hrecord : h.store.records c.facts.paymentIntentId = some current)
      (hcurrent : currentForExecution P H env c current = .ok ()) :
      Executed P H env id faultMode outcome h
        (submitAndFinish P env id (c.executing env permit)
          (c.submission approval outcome faultMode) (h.put id (c.executing env permit)))

theorem executable_eq_ok {c : StripeSubmissionChallenge} {permit : ExecutionPermit}
    {approval : StripeApproval} (h : c.executable = .ok (permit, approval)) :
    c.state = .ready ∧ c.permit = some permit ∧ c.approval = some approval := by
  unfold StripeSubmissionChallenge.executable at h
  split at h
  case h_1 permit' approval' hstate hpermit happroval =>
    cases h
    exact ⟨hstate, hpermit, happroval⟩
  case h_2 => cases h

theorem executeSubmission_ends (env : ExecuteEnvironment) (id : String)
    (faultMode : StripeFaultMode) (outcome : StripeOutcome) (h : Harness) :
    Executed P H env id faultMode outcome h
      (executeSubmission P H env id faultMode outcome h) := by
  unfold executeSubmission requireChallenge
  refine fetch_bind_elim (fun _ => .refused _) fun c hc => ?_
  refine lift_bind_elim (fun e _ => .refused e) fun ⟨permit, approval⟩ hexecutable => ?_
  obtain ⟨hstate, _, happroval⟩ := executable_eq_ok hexecutable
  cases hrecord : h.store.records c.facts.paymentIntentId with
  | none =>
      have hfetch : onStore (requireRecord c.facts.paymentIntentId) h =
          .error (paymentError "Stripe PaymentIntent does not exist") h := by
        unfold onStore on requireRecord fetch
        dsimp only
        rw [hrecord]
      dsimp only
      rw [bind_of_error hfetch]
      exact .refused _
  | some current =>
      have hfetch : onStore (requireRecord c.facts.paymentIntentId) h = .ok current h := by
        unfold onStore on requireRecord fetch
        dsimp only
        rw [hrecord]
      dsimp only
      rw [bind_of_ok hfetch]
      refine invalidating_bind_elim (fun e => .refused e)
        (fun e => .invalidated e c hc hstate) fun hcurrent => ?_
      refine invalidating_bind_elim (fun e => .refused e)
        (fun e => .invalidated e c hc hstate) fun _ => ?_
      rw [write_bind]
      exact .submitted c permit approval current hc hstate happroval hrecord hcurrent

/-- What a fault mode lets the caller see is an ambiguous failure, if it is a failure. -/
theorem response_eq_error {f : StripeFaultMode} {r : StripePaymentRecord} {e : Raised}
    (h : f.response r = .error e) : e.cls = .ambiguousSubmissionFailure := by
  cases f with
  | none => cases h
  | failBeforeCommit => cases h
  | commitThenTimeout =>
      cases h
      rfl
  | commitThenInconclusive =>
      cases h
      rfl

/-- A first submission of a draft fails before its commit, or commits and is finished with what the
probe says. -/
theorem submitAndFinish_draft (env : ExecuteEnvironment) (id : String)
    {c : StripeSubmissionChallenge} {a : ExecutionAttempt} (ha : c.attempt = some a)
    {x : Submission} {h : Harness} {r : StripePaymentRecord}
    (hr : h.store.records x.paymentIntentId = some r) (hkey : r.idempotencyKey = none)
    (hdraft : r.status = .draft) (hversion : r.facts.objectVersion = x.expectedVersion) :
    ∃ c' final, IsFinished c final c' ∧
      ((final = .failed ∧ submitAndFinish P env id c x h = .ok c' (h.put id c')) ∨
        (final ≠ .failed ∧ (final = .confirmed → x.outcome = .succeeded) ∧
          submitAndFinish P env id c x h =
            .ok c' (({ h with store := h.store.commit r x } : Harness).put id c'))) := by
  have hsubmit := submit_draft hr hkey hdraft hversion
  unfold submitAndFinish
  split at hsubmit
  case isTrue hfail =>
    obtain ⟨c', hfinished, hrun⟩ := finish_ends id ha .failed
      (h.store.probe P env.probedAt x.paymentIntentId x.idempotencyKey) env.finishedAt
      (some "Stripe failure occurred before commit") h
    refine ⟨c', .failed, hfinished, .inl ⟨rfl, ?_⟩⟩
    rw [hsubmit]
    exact hrun
  case isFalse hfail =>
    have hcommitted : (h.store.commit r x).records x.paymentIntentId = some (r.commit x) :=
      Function.update_self ..
    have houtcome := h.store.outcome_commit r x
    have hprobe := probe_status (P := P) env.probedAt hcommitted rfl rfl
    have hfinal : ∀ evidence, evidence = (h.store.commit r x).probe P env.probedAt
        x.paymentIntentId x.idempotencyKey → finalState evidence ≠ .failed ∧
          (finalState evidence = .confirmed → x.outcome = .succeeded) := by
      intro evidence hevidence
      unfold finalState
      split
      case isTrue hconfirmed =>
        refine ⟨by simp, fun _ => ?_⟩
        rw [hevidence, hprobe, houtcome] at hconfirmed
        split at hconfirmed
        case isTrue => cases hconfirmed
        case isFalse => cases hx : x.outcome <;> rw [hx] at hconfirmed <;> first | rfl | cases hconfirmed
      case isFalse => exact ⟨by simp, by simp⟩
    obtain ⟨hne, hsucceeded⟩ := hfinal _ rfl
    cases hresponse : x.faultMode.response (r.commit x) with
    | ok r' =>
        obtain ⟨c', hfinished, hrun⟩ := finish_ends id ha _ _ env.finishedAt none
          ({ h with store := h.store.commit r x } : Harness)
        refine ⟨c', _, hfinished, .inr ⟨hne, hsucceeded, ?_⟩⟩
        rw [hsubmit, hresponse]
        exact hrun
    | error e =>
        have hcls := response_eq_error hresponse
        obtain ⟨c', hfinished, hrun⟩ := finish_ends id ha _ _ env.finishedAt (some e.text)
          ({ h with store := h.store.commit r x } : Harness)
        refine ⟨c', _, hfinished, .inr ⟨hne, hsucceeded, ?_⟩⟩
        have hnot : ErrorClass.definiteSubmissionFailure.caughtBy e = false := by
          unfold ErrorClass.caughtBy
          rw [hcls]
          rfl
        have hambiguous : ErrorClass.ambiguousSubmissionFailure.caughtBy e = true := by
          unfold ErrorClass.caughtBy
          rw [hcls]
          rfl
        rw [hsubmit, hresponse]
        dsimp only [lift]
        rw [hnot, hambiguous]
        exact hrun

/-! ## Resolving -/

/-- How `resolve_unknown` ends. -/
inductive Resolved (P : Platform) (env : ExecuteEnvironment) (id : String) (h : Harness) :
    EStateM.Result Raised Harness StripeSubmissionChallenge → Prop
  /-- It raises and changes nothing. -/
  | refused (e : Raised) : Resolved P env id h (.error e h)
  /-- The probe has decided. -/
  | finished (c c' : StripeSubmissionChallenge) (a : ExecutionAttempt) (final : FinalState)
      (hc : h.challenges id = some c) (hstate : c.state = .unknown) (ha : c.attempt = some a)
      (hfinal : (final = .confirmed ∧ (h.store.probe P env.probedAt c.facts.paymentIntentId
            a.idempotencyKey).status = .confirmed) ∨
        (final = .failed ∧ (h.store.probe P env.probedAt c.facts.paymentIntentId
            a.idempotencyKey).status = .notConfirmed))
      (hfinished : IsFinished c final c') : Resolved P env id h (.ok c' (h.put id c'))
  /-- The result is still unknown. -/
  | still (c : StripeSubmissionChallenge) (evidence : ResultProbeEvidence)
      (hc : h.challenges id = some c) (hstate : c.state = .unknown) :
      Resolved P env id h (.ok { c with resultProbe := some evidence }
        (h.put id { c with resultProbe := some evidence }))

theorem resolveUnknown_ends (env : ExecuteEnvironment) (id : String) (h : Harness) :
    Resolved P env id h (resolveUnknown P env id h) := by
  unfold resolveUnknown requireChallenge
  refine fetch_bind_elim (fun _ => .refused _) fun c hc => ?_
  refine require_bind_elim (fun _ => .refused _) fun hstate => ?_
  refine lift_bind_elim (fun e _ => .refused e) fun a ha => ?_
  have ha' : c.attempt = some a := orRaise_eq_ok.mp ha
  rw [read_bind]
  unfold resolveWith
  cases hstatus : (h.store.probe P env.probedAt c.facts.paymentIntentId a.idempotencyKey).status with
  | confirmed =>
      obtain ⟨c', hfinished, hrun⟩ := finish_ends id ha' .confirmed
        (h.store.probe P env.probedAt c.facts.paymentIntentId a.idempotencyKey) env.finishedAt none h
      dsimp only
      rw [hrun]
      exact .finished c c' a _ hc hstate ha' (.inl ⟨rfl, hstatus⟩) hfinished
  | notConfirmed =>
      obtain ⟨c', hfinished, hrun⟩ := finish_ends id ha' .failed
        (h.store.probe P env.probedAt c.facts.paymentIntentId a.idempotencyKey) env.finishedAt
        (some "Result probe confirmed no submission") h
      dsimp only
      rw [hrun]
      exact .finished c c' a _ hc hstate ha' (.inr ⟨rfl, hstatus⟩) hfinished
  | unknown => exact .still c _ hc hstate

/-! ## The invariant -/

/-- The payment of a challenge before it is submitted. -/
def StripeSubmissionChallenge.draft (c : StripeSubmissionChallenge) : StripePaymentRecord :=
  .draft c.facts c.requesterUserId

/-- A challenge was approved by a user other than its requester, and its bindings are current for
its draft. -/
structure ApprovedByOther (P : Platform) (H : HarnessSetup) (c : StripeSubmissionChallenge)
    (a : StripeApproval) : Prop where
  approval : c.approval = some a
  requester : a.requesterUserId = c.requesterUserId
  other : a.approverUserId ≠ c.requesterUserId
  current : requireCurrentBindings P H c c.draft = .ok ()

/-- The payment of a challenge is a draft. -/
def IsDraft (s : StripePaymentStore) (c : StripeSubmissionChallenge) : Prop :=
  s.records c.facts.paymentIntentId = some c.draft

/-- The payment of a challenge was committed for it, with an outcome. -/
def Committed (P : Platform) (H : HarnessSetup) (s : StripePaymentStore)
    (c : StripeSubmissionChallenge) (outcome : StripeOutcome) : Prop :=
  ∃ a faultMode, ApprovedByOther P H c a ∧ s.outcome c.facts.paymentIntentId = outcome ∧
    s.records c.facts.paymentIntentId =
      some (c.draft.commit (c.submission a outcome faultMode))

/-- A challenge has an attempt under its key. -/
def Attempted (c : StripeSubmissionChallenge) : Prop :=
  ∃ a, c.attempt = some a ∧ a.idempotencyKey = idempotencyKey c.challengeId

/-- What a challenge in a state says of the store. -/
def Stands (P : Platform) (H : HarnessSetup) (s : StripePaymentStore)
    (c : StripeSubmissionChallenge) : ChallengeState → Prop
  | .pendingApproval | .rejected | .invalidated => IsDraft s c ∧ c.attempt = none
  | .ready => IsDraft s c ∧ c.attempt = none ∧ ∃ a, ApprovedByOther P H c a
  | .failed => Attempted c ∧ (IsDraft s c ∨ Committed P H s c .canceled)
  | .unknown => Attempted c ∧ ∃ outcome, Committed P H s c outcome
  | .confirmed => Attempted c ∧ Committed P H s c .succeeded

/-- The invariant. -/
structure CommitsOnce (P : Platform) (H : HarnessSetup) (h : Harness) : Prop where
  named : ∀ id c, h.challenges id = some c → c.challengeId = id
  stands : ∀ id c, h.challenges id = some c → Stands P H h.store c c.state
  apart : ∀ id id' c c', h.challenges id = some c → h.challenges id' = some c' →
    c.facts.paymentIntentId = c'.facts.paymentIntentId → id = id'
  keyed : ∀ paymentIntentId r key, h.store.records paymentIntentId = some r →
    r.idempotencyKey = some key → ∃ id c, h.challenges id = some c ∧
      c.facts.paymentIntentId = paymentIntentId

/-- A challenge stands with a draft or a commit of its own. -/
theorem Stands.record {s : StripePaymentStore} {c : StripeSubmissionChallenge}
    (h : Stands P H s c c.state) : IsDraft s c ∨ ∃ outcome, Committed P H s c outcome := by
  cases hstate : c.state with
  | pendingApproval | rejected | invalidated | ready =>
      rw [hstate] at h
      exact .inl h.1
  | failed =>
      rw [hstate] at h
      exact h.2.imp_right fun hcommitted => ⟨_, hcommitted⟩
  | unknown =>
      rw [hstate] at h
      exact .inr h.2
  | confirmed =>
      rw [hstate] at h
      exact .inr ⟨_, h.2⟩

theorem Stands.recorded {s : StripePaymentStore} {c : StripeSubmissionChallenge}
    (h : Stands P H s c c.state) : s.records c.facts.paymentIntentId ≠ none := by
  rcases h.record with hdraft | ⟨outcome, a, faultMode, _, _, hrecord⟩
  · rw [hdraft]
    exact nofun
  · rw [hrecord]
    exact nofun

/-- Only the payment of a challenge and its outcome count. -/
theorem Stands.congr {s t : StripePaymentStore} {c : StripeSubmissionChallenge}
    {state : ChallengeState}
    (hrecords : t.records c.facts.paymentIntentId = s.records c.facts.paymentIntentId)
    (houtcome : t.outcome c.facts.paymentIntentId = s.outcome c.facts.paymentIntentId)
    (h : Stands P H s c state) : Stands P H t c state := by
  have hdraft : IsDraft s c → IsDraft t c := fun hd => hrecords.trans hd
  have hcommitted : ∀ outcome, Committed P H s c outcome → Committed P H t c outcome := by
    rintro outcome ⟨a, faultMode, happroved, ho, hr⟩
    exact ⟨a, faultMode, happroved, houtcome.trans ho, hrecords.trans hr⟩
  cases state with
  | pendingApproval | rejected | invalidated => exact ⟨hdraft h.1, h.2⟩
  | ready => exact ⟨hdraft h.1, h.2⟩
  | failed => exact ⟨h.1, h.2.imp hdraft (hcommitted _)⟩
  | unknown => exact ⟨h.1, h.2.imp hcommitted⟩
  | confirmed => exact ⟨h.1, hcommitted _ h.2⟩

/-- A harness that was just built. -/
theorem CommitsOnce.init {s : StripePaymentStore}
    (hs : ∀ paymentIntentId r, s.records paymentIntentId = some r → r.idempotencyKey = none) :
    CommitsOnce P H ⟨s, fun _ => none⟩ where
  named := by
    intro id c hc
    cases hc
  stands := by
    intro id c hc
    cases hc
  apart := by
    intro id id' c c' hc
    cases hc
  keyed := by
    intro paymentIntentId r key hr hkey
    rw [hs paymentIntentId r hr] at hkey
    cases hkey

/-- One challenge goes on, and no payment but its own changes. -/
theorem CommitsOnce.update {h : Harness} (hinv : CommitsOnce P H h) {id : String}
    {c c' : StripeSubmissionChallenge} (hc : h.challenges id = some c) (hgoes : GoesOn c c')
    {t : StripePaymentStore}
    (helse : ∀ x, x ≠ c.facts.paymentIntentId →
      t.records x = h.store.records x ∧ t.outcome x = h.store.outcome x)
    (hstands : Stands P H t c' c'.state) :
    CommitsOnce P H (({ h with store := t } : Harness).put id c') := by
  have hlookup : ∀ id' d', Function.update h.challenges id (some c') id' = some d' →
      ∃ d, h.challenges id' = some d ∧ d.facts = d'.facts ∧ d.challengeId = d'.challengeId := by
    intro id' d' hd
    by_cases hid : id' = id
    · subst hid
      rw [Function.update_self] at hd
      cases hd
      exact ⟨c, hc, hgoes.facts_eq.symm, hgoes.named.symm⟩
    · rw [Function.update_of_ne hid] at hd
      exact ⟨d', hd, rfl, rfl⟩
  constructor
  · intro id' d' hd'
    obtain ⟨d, hd, _, hname⟩ := hlookup id' d' hd'
    exact hname.symm.trans (hinv.named id' d hd)
  · intro id' d' hd'
    change Function.update h.challenges id (some c') id' = some d' at hd'
    by_cases hid : id' = id
    · subst hid
      rw [Function.update_self] at hd'
      cases hd'
      exact hstands
    · rw [Function.update_of_ne hid] at hd'
      have hpayment : d'.facts.paymentIntentId ≠ c.facts.paymentIntentId :=
        fun heq => hid (hinv.apart id' id d' c hd' hc heq)
      obtain ⟨hrecords, houtcome⟩ := helse _ hpayment
      exact (hinv.stands id' d' hd').congr hrecords houtcome
  · intro id₁ id₂ d₁ d₂ h₁ h₂ heq
    obtain ⟨e₁, he₁, hf₁, _⟩ := hlookup id₁ d₁ h₁
    obtain ⟨e₂, he₂, hf₂, _⟩ := hlookup id₂ d₂ h₂
    exact hinv.apart id₁ id₂ e₁ e₂ he₁ he₂ (by rw [hf₁, hf₂]; exact heq)
  · intro x r key hr hkey
    by_cases hx : x = c.facts.paymentIntentId
    · exact ⟨id, c', Function.update_self .., by rw [hx, hgoes.facts_eq]⟩
    · change t.records x = some r at hr
      rw [(helse x hx).1] at hr
      obtain ⟨id', d, hd, hpayment⟩ := hinv.keyed x r key hr hkey
      refine ⟨id', d, ?_, hpayment⟩
      have hid : id' ≠ id := by
        rintro rfl
        rw [hc] at hd
        cases hd
        exact hx hpayment.symm
      exact (Function.update_of_ne hid ..).trans hd

/-- A draft that is new disturbs no challenge. -/
theorem CommitsOnce.withDraft {h : Harness} (hinv : CommitsOnce P H h) {facts : StripePaymentFacts}
    (requesterUserId : String) (hnew : h.store.records facts.paymentIntentId = none) :
    CommitsOnce P H (h.withDraft facts requesterUserId) := by
  have hother : ∀ id c, h.challenges id = some c →
      c.facts.paymentIntentId ≠ facts.paymentIntentId := by
    intro id c hc heq
    exact (hinv.stands id c hc).recorded (heq ▸ hnew)
  constructor
  · exact hinv.named
  · intro id c hc
    exact (hinv.stands id c hc).congr (Function.update_of_ne (hother id c hc) ..) rfl
  · exact hinv.apart
  · intro x r key hr hkey
    by_cases hx : x = facts.paymentIntentId
    · subst hx
      change Function.update h.store.records facts.paymentIntentId
        (some (.draft facts requesterUserId)) facts.paymentIntentId = some r at hr
      rw [Function.update_self] at hr
      cases hr
      cases hkey
    · exact hinv.keyed x r key ((Function.update_of_ne hx ..).symm.trans hr) hkey

/-- A challenge that is prepared is new, and so is its payment. -/
theorem CommitsOnce.prepared {h : Harness} (hinv : CommitsOnce P H h) {env : PrepareEnvironment}
    {requester : UserContext} {facts : StripePaymentFacts} {c : StripeSubmissionChallenge}
    (hid : h.challenges env.challengeId = none)
    (hnew : h.store.records facts.paymentIntentId = none)
    (hc : IsPrepared env requester facts c) :
    CommitsOnce P H ((h.withDraft facts requester.userId).put c.challengeId c) := by
  have hdrafted := hinv.withDraft requester.userId hnew
  have hlookup : ∀ id d, Function.update h.challenges c.challengeId (some c) id = some d →
      (id = c.challengeId ∧ d = c) ∨ (id ≠ c.challengeId ∧ h.challenges id = some d) := by
    intro id d hd
    by_cases heq : id = c.challengeId
    · subst heq
      rw [Function.update_self] at hd
      cases hd
      exact .inl ⟨rfl, rfl⟩
    · rw [Function.update_of_ne heq] at hd
      exact .inr ⟨heq, hd⟩
  have hother : ∀ id d, h.challenges id = some d →
      d.facts.paymentIntentId ≠ c.facts.paymentIntentId := by
    intro id d hd heq
    rw [hc.facts_eq] at heq
    exact (hinv.stands id d hd).recorded (heq ▸ hnew)
  have hdraft : IsDraft (h.withDraft facts requester.userId).store c := by
    unfold IsDraft StripeSubmissionChallenge.draft
    rw [hc.facts_eq, hc.requester_eq]
    exact Function.update_self ..
  constructor
  · intro id d hd
    rcases hlookup id d hd with ⟨rfl, rfl⟩ | ⟨_, hd⟩
    · rfl
    · exact hinv.named id d hd
  · intro id d hd
    rcases hlookup id d hd with ⟨rfl, rfl⟩ | ⟨_, hd⟩
    · rw [hc.waiting]
      exact ⟨hdraft, hc.unattempted⟩
    · exact hdrafted.stands id d hd
  · intro id id' d d' hd hd' heq
    rcases hlookup id d hd with ⟨hname, hsame⟩ | ⟨_, hold⟩
    · rcases hlookup id' d' hd' with ⟨hname', _⟩ | ⟨_, hold'⟩
      · exact hname.trans hname'.symm
      · rw [hsame] at heq
        exact absurd heq.symm (hother id' d' hold')
    · rcases hlookup id' d' hd' with ⟨_, hsame'⟩ | ⟨_, hold'⟩
      · rw [hsame'] at heq
        exact absurd heq (hother id d hold)
      · exact hinv.apart id id' d d' hold hold' heq
  · intro x r key hr hkey
    obtain ⟨id, d, hd, hpayment⟩ := hdrafted.keyed x r key hr hkey
    refine ⟨id, d, ?_, hpayment⟩
    have hne : id ≠ c.challengeId := by
      rintro rfl
      have hsome : h.challenges c.challengeId = some d := hd
      rw [hc.named, hid] at hsome
      cases hsome
    exact (Function.update_of_ne hne ..).trans hd

/-! ## What goes on stays the same -/

theorem GoesOn.trans {c d e : StripeSubmissionChallenge} (h : GoesOn c d) (h' : GoesOn d e) :
    GoesOn c e where
  named := h'.named.trans h.named
  facts_eq := h'.facts_eq.trans h.facts_eq
  requester_eq := h'.requester_eq.trans h.requester_eq
  contract_eq := h'.contract_eq.trans h.contract_eq
  intent_eq := h'.intent_eq.trans h.intent_eq
  observation_eq := h'.observation_eq.trans h.observation_eq

theorem GoesOn.draft_eq {c c' : StripeSubmissionChallenge} (h : GoesOn c c') :
    c'.draft = c.draft := by
  unfold StripeSubmissionChallenge.draft
  rw [h.facts_eq, h.requester_eq]

theorem GoesOn.submission_eq {c c' : StripeSubmissionChallenge} (h : GoesOn c c')
    (a : StripeApproval) (outcome : StripeOutcome) (faultMode : StripeFaultMode) :
    c'.submission a outcome faultMode = c.submission a outcome faultMode := by
  unfold StripeSubmissionChallenge.submission
  simp only [h.facts_eq, h.named]

theorem GoesOn.current {c c' : StripeSubmissionChallenge} (h : GoesOn c c')
    (r : StripePaymentRecord) :
    requireCurrentBindings P H c' r = requireCurrentBindings P H c r := by
  unfold requireCurrentBindings
  simp only [h.contract_eq, h.intent_eq, h.observation_eq]

theorem GoesOn.isDraft {s : StripePaymentStore} {c c' : StripeSubmissionChallenge}
    (h : GoesOn c c') (hdraft : IsDraft s c) : IsDraft s c' := by
  unfold IsDraft at hdraft ⊢
  rw [h.facts_eq, h.draft_eq]
  exact hdraft

theorem GoesOn.approved {c c' : StripeSubmissionChallenge} (h : GoesOn c c')
    (happroval : c'.approval = c.approval) {a : StripeApproval}
    (ha : ApprovedByOther P H c a) : ApprovedByOther P H c' a where
  approval := happroval.trans ha.approval
  requester := ha.requester.trans h.requester_eq.symm
  other := h.requester_eq ▸ ha.other
  current := by
    rw [h.current, h.draft_eq]
    exact ha.current

theorem GoesOn.committed {s : StripePaymentStore} {c c' : StripeSubmissionChallenge}
    (h : GoesOn c c') (happroval : c'.approval = c.approval) {outcome : StripeOutcome}
    (hcommitted : Committed P H s c outcome) : Committed P H s c' outcome := by
  obtain ⟨a, faultMode, ha, houtcome, hrecord⟩ := hcommitted
  refine ⟨a, faultMode, h.approved happroval ha, ?_, ?_⟩
  · rw [h.facts_eq]
    exact houtcome
  · rw [h.facts_eq, h.draft_eq, h.submission_eq]
    exact hrecord

theorem IsFinished.attempted {c c' : StripeSubmissionChallenge} {final : FinalState}
    (h : IsFinished c final c') (ha : Attempted c) : Attempted c' := by
  obtain ⟨a, a', hc, hc', _, hkey⟩ := h.attempt
  obtain ⟨b, hb, hbkey⟩ := ha
  rw [hc] at hb
  cases hb
  exact ⟨a', hc', by rw [hkey, hbkey, h.named]⟩

/-! ## A step -/

/-- Attempts stay, whatever becomes of them. -/
def KeepsAttempts (h h' : Harness) : Prop :=
  ∀ id c, h.challenges id = some c → ∃ c', h'.challenges id = some c' ∧
    ∀ a, c.attempt = some a → ∃ a', c'.attempt = some a' ∧ SameAttempt a a'

theorem KeepsAttempts.refl (h : Harness) : KeepsAttempts h h :=
  fun _ c hc => ⟨c, hc, fun a ha => ⟨a, ha, rfl, rfl⟩⟩

theorem KeepsAttempts.trans {h h' h'' : Harness} (hk : KeepsAttempts h h')
    (hk' : KeepsAttempts h' h'') : KeepsAttempts h h'' := by
  intro id c hc
  obtain ⟨c', hc', ha⟩ := hk id c hc
  obtain ⟨c'', hc'', ha'⟩ := hk' id c' hc'
  refine ⟨c'', hc'', fun a hattempt => ?_⟩
  obtain ⟨a', hattempt', hid, hkey⟩ := ha a hattempt
  obtain ⟨a'', hattempt'', hid', hkey'⟩ := ha' a' hattempt'
  exact ⟨a'', hattempt'', hid'.trans hid, hkey'.trans hkey⟩

theorem KeepsAttempts.put {h : Harness} {t : StripePaymentStore} {id : String}
    {c' : StripeSubmissionChallenge}
    (hc : ∀ c, h.challenges id = some c → ∀ a, c.attempt = some a →
      ∃ a', c'.attempt = some a' ∧ SameAttempt a a') :
    KeepsAttempts h (({ h with store := t } : Harness).put id c') := by
  intro id' d hd
  by_cases hid : id' = id
  · subst hid
    exact ⟨c', Function.update_self .., hc d hd⟩
  · exact ⟨d, (Function.update_of_ne hid ..).trans hd, fun a ha => ⟨a, ha, rfl, rfl⟩⟩

/-- What a call keeps, and that it returns a challenge as it is kept. -/
structure Fine (P : Platform) (H : HarnessSetup) (h : Harness)
    (r : EStateM.Result Raised Harness StripeSubmissionChallenge) : Prop where
  once : CommitsOnce P H (left r)
  keeps : KeepsAttempts h (left r)
  told : ∀ c h', r = .ok c h' → h'.challenges c.challengeId = some c

theorem Fine.refused {h : Harness} (hinv : CommitsOnce P H h) (e : Raised) :
    Fine P H h (.error e h) where
  once := hinv
  keeps := .refl h
  told := by
    intro c h' hr
    cases hr

/-- One challenge goes on and is returned. -/
theorem Fine.returned {h : Harness} (hinv : CommitsOnce P H h) {id : String}
    {c c' : StripeSubmissionChallenge} (hc : h.challenges id = some c) (hgoes : GoesOn c c')
    {t : StripePaymentStore}
    (helse : ∀ x, x ≠ c.facts.paymentIntentId →
      t.records x = h.store.records x ∧ t.outcome x = h.store.outcome x)
    (hstands : Stands P H t c' c'.state)
    (hattempt : ∀ a, c.attempt = some a → ∃ a', c'.attempt = some a' ∧ SameAttempt a a') :
    Fine P H h (.ok c' (({ h with store := t } : Harness).put id c')) where
  once := hinv.update hc hgoes helse hstands
  keeps := by
    refine .put fun d hd a ha => ?_
    rw [hc] at hd
    cases hd
    exact hattempt a ha
  told := by
    intro d h' hr
    cases hr
    rw [hgoes.named, hinv.named id c hc]
    exact Function.update_self ..

/-- A challenge without an attempt is invalidated. -/
theorem Fine.invalidated {h : Harness} (hinv : CommitsOnce P H h) {id : String}
    {c : StripeSubmissionChallenge} (hc : h.challenges id = some c)
    (hdraft : IsDraft h.store c) (hattempt : c.attempt = none) (e : Raised) :
    Fine P H h (.error e (h.put id { c with state := .invalidated })) where
  once := by
    have hgoes : GoesOn c { c with state := .invalidated } := ⟨rfl, rfl, rfl, rfl, rfl, rfl⟩
    have hstands : Stands P H h.store { c with state := .invalidated } .invalidated :=
      ⟨hdraft, hattempt⟩
    exact hinv.update (t := h.store) hc hgoes (fun _ _ => ⟨rfl, rfl⟩) hstands
  keeps := by
    refine .put (t := h.store) fun d hd a ha => ?_
    rw [hc] at hd
    cases hd
    rw [hattempt] at ha
    cases ha
  told := by
    intro d h' hr
    cases hr

theorem Prepared.fine {h : Harness} (hinv : CommitsOnce P H h) {env : PrepareEnvironment}
    {requester : UserContext} {facts : StripePaymentFacts}
    (hid : h.challenges env.challengeId = none)
    {r : EStateM.Result Raised Harness StripeSubmissionChallenge}
    (hr : Prepared env requester facts h r) : Fine P H h r := by
  cases hr with
  | refused e => exact .refused hinv e
  | drafted e hnew =>
      refine ⟨hinv.withDraft _ hnew, .refl h, fun d h' hr => ?_⟩
      cases hr
  | prepared c hnew hc =>
      refine ⟨hinv.prepared hid hnew hc, ?_, ?_⟩
      · refine KeepsAttempts.put (h := h) fun d hd => ?_
        rw [hc.named, hid] at hd
        cases hd
      · intro d h' hr
        cases hr
        exact Function.update_self ..

theorem Decided.fine {h : Harness} (hinv : CommitsOnce P H h) {env : DecideEnvironment}
    {id : String} {requester approver : UserContext}
    {r : EStateM.Result Raised Harness StripeSubmissionChallenge}
    (hr : Decided P H env id requester approver h r) : Fine P H h r := by
  have hpending : ∀ c, h.challenges id = some c → c.state = .pendingApproval →
      IsDraft h.store c ∧ c.attempt = none := by
    intro c hc hstate
    have hstands := hinv.stands id c hc
    rw [hstate] at hstands
    exact hstands
  cases hr with
  | refused e => exact .refused hinv e
  | invalidated e c hc hstate =>
      obtain ⟨hdraft, hattempt⟩ := hpending c hc hstate
      exact .invalidated hinv hc hdraft hattempt e
  | rejected c hc hstate =>
      obtain ⟨hdraft, hattempt⟩ := hpending c hc hstate
      have hgoes : GoesOn c { c with state := .rejected } := ⟨rfl, rfl, rfl, rfl, rfl, rfl⟩
      have hstands : Stands P H h.store { c with state := .rejected } .rejected :=
        ⟨hdraft, hattempt⟩
      refine .returned hinv (t := h.store) hc hgoes (fun _ _ => ⟨rfl, rfl⟩) hstands fun a ha => ?_
      rw [hattempt] at ha
      cases ha
  | approved c c' hc hstate hrequester hcurrent happrove =>
      obtain ⟨hdraft, hattempt⟩ := hpending c hc hstate
      have happroved := approveChallenge_eq_ok happrove
      have hgoes := happroved.toGoesOn
      -- The record that the bindings were compared with is the draft.
      have hbindings : requireCurrentBindings P H c c.draft = .ok () := by
        obtain ⟨_, _, hrest⟩ := except_bind_eq_ok.mp hcurrent
        obtain ⟨current, hread, hbindings⟩ := except_bind_eq_ok.mp hrest
        have hsame : some c.draft = some current := hdraft.symm.trans (orRaise_eq_ok.mp hread)
        cases hsame
        exact hbindings
      obtain ⟨a, ha, hrequester', _, hother⟩ := happroved.approval
      have hby : ApprovedByOther P H c' a := by
        refine ⟨ha, ?_, ?_, ?_⟩
        · rw [hrequester', hrequester, hgoes.requester_eq]
        · rw [hgoes.requester_eq, ← hrequester, ← hrequester']
          exact hother
        · rw [hgoes.current, hgoes.draft_eq]
          exact hbindings
      refine .returned hinv (t := h.store) hc hgoes (fun _ _ => ⟨rfl, rfl⟩) ?_ fun b hb => ?_
      · rw [happroved.ready]
        exact ⟨hgoes.isDraft hdraft, happroved.attempt_eq.trans hattempt, a, hby⟩
      · rw [hattempt] at hb
        cases hb

theorem Harness.put_put (h : Harness) (id : String) (c d : StripeSubmissionChallenge) :
    (h.put id c).put id d = h.put id d := by
  unfold Harness.put
  simp

theorem Executed.fine {h : Harness} (hinv : CommitsOnce P H h) {env : ExecuteEnvironment}
    {id : String} {faultMode : StripeFaultMode} {outcome : StripeOutcome}
    {r : EStateM.Result Raised Harness StripeSubmissionChallenge}
    (hr : Executed P H env id faultMode outcome h r) : Fine P H h r := by
  have hready : ∀ c, h.challenges id = some c → c.state = .ready →
      IsDraft h.store c ∧ c.attempt = none ∧ ∃ a, ApprovedByOther P H c a := by
    intro c hc hstate
    have hstands := hinv.stands id c hc
    rw [hstate] at hstands
    exact hstands
  cases hr with
  | refused e => exact .refused hinv e
  | invalidated e c hc hstate =>
      obtain ⟨hdraft, hattempt, _⟩ := hready c hc hstate
      exact .invalidated hinv hc hdraft hattempt e
  | submitted c permit approval current hc hstate happroval hrecord _ =>
      obtain ⟨hdraft, hattempt, a, ha⟩ := hready c hc hstate
      have hsame : approval = a := Option.some.inj (happroval.symm.trans ha.approval)
      subst hsame
      have hexecuting : GoesOn c (c.executing env permit) := ⟨rfl, rfl, rfl, rfl, rfl, rfl⟩
      obtain ⟨c', final, hfinished, hends⟩ := submitAndFinish_draft (P := P) env id
        (c := c.executing env permit) rfl (x := c.submission approval outcome faultMode)
        (h := h.put id (c.executing env permit)) hdraft rfl rfl rfl
      have hgoes := hexecuting.trans hfinished.toGoesOn
      have hattempted : Attempted c' := hfinished.attempted ⟨_, rfl, rfl⟩
      have hfresh : ∀ b, c.attempt = some b → ∃ b', c'.attempt = some b' ∧ SameAttempt b b' := by
        intro b hb
        rw [hattempt] at hb
        cases hb
      rcases hends with ⟨rfl, hrun⟩ | ⟨hne, hsucceeded, hrun⟩
      · rw [hrun, Harness.put_put]
        refine .returned hinv (t := h.store) hc hgoes (fun _ _ => ⟨rfl, rfl⟩) ?_ hfresh
        rw [hfinished.state_eq]
        exact ⟨hattempted, .inl (hgoes.isDraft hdraft)⟩
      · have hcommitted : Committed P H
            (h.store.commit c.draft (c.submission approval outcome faultMode)) c' outcome := by
          refine hgoes.committed hfinished.approval_eq ⟨approval, faultMode, ha, ?_, ?_⟩
          · exact h.store.outcome_commit ..
          · exact Function.update_self ..
        have hput : ({ (h.put id (c.executing env permit)) with
            store := h.store.commit c.draft (c.submission approval outcome faultMode) } :
              Harness).put id c' = ({ h with
            store := h.store.commit c.draft (c.submission approval outcome faultMode) } :
              Harness).put id c' := Harness.put_put
          ⟨h.store.commit c.draft (c.submission approval outcome faultMode), h.challenges⟩ id
          (c.executing env permit) c'
        rw [hrun]
        change Fine P H h (.ok c' (({ (h.put id (c.executing env permit)) with
            store := h.store.commit c.draft (c.submission approval outcome faultMode) } :
              Harness).put id c'))
        rw [hput]
        refine .returned hinv hc hgoes (fun x hx => h.store.commit_of_ne _ _ hx) ?_ hfresh
        rw [hfinished.state_eq]
        cases final with
        | confirmed => exact ⟨hattempted, hsucceeded rfl ▸ hcommitted⟩
        | failed => exact absurd rfl hne
        | unknown => exact ⟨hattempted, outcome, hcommitted⟩

theorem Resolved.fine {h : Harness} (hinv : CommitsOnce P H h) {env : ExecuteEnvironment}
    {id : String} {r : EStateM.Result Raised Harness StripeSubmissionChallenge}
    (hr : Resolved P env id h r) : Fine P H h r := by
  cases hr with
  | refused e => exact .refused hinv e
  | finished c c' a final hc hstate ha hfinal hfinished =>
      have hstands := hinv.stands id c hc
      rw [hstate] at hstands
      obtain ⟨hattempted, outcome, hcommitted⟩ := hstands
      have hgoes := hfinished.toGoesOn
      have hcommitted' := hgoes.committed hfinished.approval_eq hcommitted
      -- The probe finds the commit under the key of the attempt.
      have hkey : a.idempotencyKey = idempotencyKey c.challengeId := by
        obtain ⟨b, hb, hbkey⟩ := hattempted
        rw [ha] at hb
        cases hb
        exact hbkey
      obtain ⟨approval, faultMode, _, houtcome, hrecord⟩ := hcommitted
      have hprobe := probe_status (P := P) env.probedAt hrecord rfl
        (congrArg some hkey.symm)
      rw [houtcome] at hprobe
      refine .returned hinv (t := h.store) hc hgoes (fun _ _ => ⟨rfl, rfl⟩) ?_ ?_
      · rw [hfinished.state_eq]
        rcases hfinal with ⟨rfl, hstatus⟩ | ⟨rfl, hstatus⟩
        · rw [hprobe] at hstatus
          split at hstatus
          case isTrue => cases hstatus
          case isFalse =>
            cases outcome with
            | succeeded => exact ⟨hfinished.attempted hattempted, hcommitted'⟩
            | processing => cases hstatus
            | canceled => cases hstatus
        · rw [hprobe] at hstatus
          split at hstatus
          case isTrue => cases hstatus
          case isFalse =>
            cases outcome with
            | succeeded => cases hstatus
            | processing => cases hstatus
            | canceled => exact ⟨hfinished.attempted hattempted, .inr hcommitted'⟩
      · intro b hb
        obtain ⟨b', c'a, hb', hc', hsame⟩ := hfinished.attempt
        rw [hb] at hb'
        cases hb'
        exact ⟨c'a, hc', hsame⟩
  | still c evidence hc hstate =>
      have hstands := hinv.stands id c hc
      rw [hstate] at hstands
      obtain ⟨hattempted, outcome, hcommitted⟩ := hstands
      have hgoes : GoesOn c { c with resultProbe := some evidence } :=
        ⟨rfl, rfl, rfl, rfl, rfl, rfl⟩
      refine .returned hinv (t := h.store) hc hgoes (fun _ _ => ⟨rfl, rfl⟩) ?_
        fun a ha => ⟨a, ha, rfl, rfl⟩
      have hstill : Stands P H h.store { c with resultProbe := some evidence } .unknown :=
        ⟨hattempted, outcome, hgoes.committed rfl hcommitted⟩
      rw [← hstate] at hstill
      exact hstill

/-- A call keeps the invariant and the attempts, and returns a challenge as it is kept. -/
theorem CommitsOnce.call {h : Harness} (hinv : CommitsOnce P H h) {call : HarnessCall}
    (hfresh : freshChallenge h call) :
    CommitsOnce P H (left (call.run P H h)) ∧ KeepsAttempts h (left (call.run P H h)) ∧
      ∀ c h', call.run P H h = .ok (some c) h' → h'.challenges c.challengeId = some c := by
  have hfine : ∀ x : HarnessTx StripeSubmissionChallenge, Fine P H h (x h) →
      CommitsOnce P H (left ((some <$> x) h)) ∧ KeepsAttempts h (left ((some <$> x) h)) ∧
        ∀ c h', (some <$> x) h = .ok (some c) h' → h'.challenges c.challengeId = some c := by
    intro x hx
    rw [left_map]
    refine ⟨hx.once, hx.keeps, fun c h' hrun => ?_⟩
    obtain ⟨d, hd, hsame⟩ := map_eq_ok.mp hrun
    cases hsame
    exact hx.told c h' hd
  cases call with
  | prepareSubmission env requester facts taskId stepId contractId =>
      exact hfine _ (Prepared.fine hinv hfresh (prepareSubmission_ends ..))
  | decideApproval env id requester approver approved =>
      exact hfine _ (Decided.fine hinv (decideApproval_ends env id requester approver approved h))
  | executeSubmission env id faultMode outcome =>
      exact hfine _ (Executed.fine hinv (executeSubmission_ends env id faultMode outcome h))
  | resolveUnknown env id =>
      exact hfine _ (Resolved.fine hinv (resolveUnknown_ends env id h))
  | clearProbeFault id =>
      refine ⟨⟨hinv.named, fun id c hc => ?_, hinv.apart, hinv.keyed⟩, KeepsAttempts.refl h, ?_⟩
      · exact (hinv.stands id c hc).congr rfl rfl
      · intro c h' hrun
        cases hrun

/-- A payment that was committed was committed by an execution, with current bindings. -/
theorem CommitsOnce.changed {h : Harness} (hinv : CommitsOnce P H h) {call : HarnessCall}
    {x : String} {r : StripePaymentRecord} (hr : h.store.records x = some r)
    (hchanged : (left (call.run P H h)).store.records x ≠ some r) :
    ∃ env id faultMode outcome c, call = .executeSubmission env id faultMode outcome ∧
      h.challenges id = some c ∧ c.facts.paymentIntentId = x ∧ c.state = .ready ∧
      currentForExecution P H env c r = .ok () := by
  cases call with
  | prepareSubmission env requester facts taskId stepId contractId =>
      exfalso
      have hends := prepareSubmission_ends (P := P) (H := H) env requester facts taskId stepId
        contractId h
      unfold HarnessCall.run at hchanged
      rw [left_map] at hchanged
      have hkept : h.store.records facts.paymentIntentId = none →
          (h.withDraft facts requester.userId).store.records x = some r := by
        intro hnew
        have hne : x ≠ facts.paymentIntentId := by
          rintro rfl
          rw [hnew] at hr
          cases hr
        exact (Function.update_of_ne hne ..).trans hr
      generalize prepareSubmission P H env requester facts taskId stepId contractId h = result
        at hends hchanged
      cases hends with
      | refused => exact hchanged hr
      | drafted _ hnew => exact hchanged (hkept hnew)
      | prepared _ hnew => exact hchanged (hkept hnew)
  | decideApproval env id requester approver approved =>
      exfalso
      have hends := decideApproval_ends (P := P) (H := H) env id requester approver approved h
      unfold HarnessCall.run at hchanged
      rw [left_map] at hchanged
      generalize decideApproval P H env id requester approver approved h = result
        at hends hchanged
      cases hends <;> exact hchanged hr
  | executeSubmission env id faultMode outcome =>
      have hends := executeSubmission_ends (P := P) (H := H) env id faultMode outcome h
      unfold HarnessCall.run at hchanged
      rw [left_map] at hchanged
      generalize executeSubmission P H env id faultMode outcome h = result at hends hchanged
      cases hends with
      | refused => exact absurd hr hchanged
      | invalidated => exact absurd hr hchanged
      | submitted c permit approval current hc hstate _ hrecord hcurrent =>
          have hx : c.facts.paymentIntentId = x := by
            by_contra hne
            have hstands := hinv.stands id c hc
            rw [hstate] at hstands
            obtain ⟨_, final, _, hends⟩ := submitAndFinish_draft (P := P) env id
              (c := c.executing env permit) rfl (x := c.submission approval outcome faultMode)
              (h := h.put id (c.executing env permit)) hstands.1 rfl rfl rfl
            rcases hends with ⟨_, hrun⟩ | ⟨_, _, hrun⟩
            · rw [hrun] at hchanged
              exact hchanged hr
            · rw [hrun] at hchanged
              exact hchanged ((h.store.commit_of_ne _ (c.submission approval outcome faultMode)
                (Ne.symm hne)).1.trans hr)
          rw [hx, hr] at hrecord
          cases hrecord
          exact ⟨env, id, faultMode, outcome, c, rfl, hc, hx, hstate, hcurrent⟩
  | resolveUnknown env id =>
      exfalso
      have hends := resolveUnknown_ends (P := P) env id h
      unfold HarnessCall.run at hchanged
      rw [left_map] at hchanged
      generalize resolveUnknown P env id h = result at hends hchanged
      cases hends <;> exact hchanged hr
  | clearProbeFault id => exact absurd hr hchanged

/-! ## The law -/

/-- A harness that calls can reach from a store without commits. -/
theorem CommitsOnce.of_reaches {s : StripePaymentStore}
    (hs : ∀ paymentIntentId r, s.records paymentIntentId = some r → r.idempotencyKey = none)
    {h : Harness}
    (hrun : Reaches (HarnessStep P H) freshChallenge ⟨s, fun _ => none⟩ h) :
    CommitsOnce P H h := by
  refine hrun.invariant (fun g call g' hfresh hg hstep => ?_) (.init hs)
  rw [hstep]
  exact (hg.call hfresh).1

theorem CommitsOnce.keeps {h h' : Harness} (hinv : CommitsOnce P H h)
    (hrun : Reaches (HarnessStep P H) freshChallenge h h') : KeepsAttempts h h' := by
  have hboth : CommitsOnce P H h' ∧ KeepsAttempts h h' := by
    refine hrun.invariant (I := fun g => CommitsOnce P H g ∧ KeepsAttempts h g)
      (fun g call g' hfresh hg hstep => ?_) ⟨hinv, .refl h⟩
    rw [hstep]
    obtain ⟨honce, hkeeps, _⟩ := hg.1.call hfresh
    exact ⟨honce, hg.2.trans hkeeps⟩
  exact hboth.2

theorem idempotencyKey_injective {a b : String} (h : idempotencyKey a = idempotencyKey b) :
    a = b := String.append_right_inj _ |>.mp h

/-- A payment with a key was committed for the challenge that the key names. -/
theorem CommitsOnce.committed_of_key {h : Harness} (hinv : CommitsOnce P H h) {x key : String}
    {r : StripePaymentRecord} (hr : h.store.records x = some r)
    (hkey : r.idempotencyKey = some key) :
    ∃ id c a faultMode, h.challenges id = some c ∧ key = idempotencyKey id ∧
      c.facts.paymentIntentId = x ∧ ApprovedByOther P H c a ∧
      r = c.draft.commit (c.submission a (h.store.outcome x) faultMode) := by
  obtain ⟨id, c, hc, rfl⟩ := hinv.keyed x r key hr hkey
  rcases (hinv.stands id c hc).record with hdraft | ⟨outcome, a, faultMode, ha, rfl, hrecord⟩
  · have hsame : some r = some c.draft := hr.symm.trans hdraft
    cases hsame
    cases hkey
  · have hsame : some r = some _ := hr.symm.trans hrecord
    cases hsame
    cases hkey
    exact ⟨id, c, a, faultMode, hc, congrArg idempotencyKey (hinv.named id c hc), rfl, ha, rfl⟩

/-- Calls of the harness in any order.  A payment with a key was committed once, for the challenge
that the key names, which a user other than its requester approved under bindings that were current,
and no other payment has the key; it was committed by an execution that found the bindings and the
authorization current.  A challenge has at most one attempt.  A confirmed challenge has a succeeded
commit under its key with its facts, and a failed one has no succeeded commit.  A call returns a
challenge as the harness keeps it. -/
theorem harness_commits_exactly_once {s : StripePaymentStore}
    (hs : ∀ paymentIntentId r, s.records paymentIntentId = some r → r.idempotencyKey = none)
    {h : Harness} (hrun : Reaches (HarnessStep P H) freshChallenge ⟨s, fun _ => none⟩ h) :
    (∀ x r key, h.store.records x = some r → r.idempotencyKey = some key → ∃ id c a,
      h.challenges id = some c ∧ key = idempotencyKey id ∧ c.facts.paymentIntentId = x ∧
      ApprovedByOther P H c a ∧ r.approvalId = some a.approvalId ∧ r.commitCount = 1 ∧
      ∀ x' r', h.store.records x' = some r' → r'.idempotencyKey = some key → x' = x) ∧
    (∀ call h' x r, freshChallenge h call → HarnessStep P H call h h' →
      h.store.records x = some r → h'.store.records x ≠ some r →
      ∃ env id faultMode outcome c, call = .executeSubmission env id faultMode outcome ∧
        h.challenges id = some c ∧ c.facts.paymentIntentId = x ∧ c.state = .ready ∧
        currentForExecution P H env c r = .ok ()) ∧
    (∀ h', Reaches (HarnessStep P H) freshChallenge h h' → ∀ id c a,
      h.challenges id = some c → c.attempt = some a → ∃ c' a',
      h'.challenges id = some c' ∧ c'.attempt = some a' ∧ SameAttempt a a') ∧
    (∀ id c, h.challenges id = some c → c.state = .confirmed → ∃ r,
      h.store.records c.facts.paymentIntentId = some r ∧ r.status = .submitted ∧
      r.idempotencyKey = some (idempotencyKey id) ∧
      r.facts = c.facts.committedAt c.facts.objectVersion c.facts.version_pos ∧
      h.store.outcome c.facts.paymentIntentId = .succeeded) ∧
    (∀ id c, h.challenges id = some c → c.state = .failed → ∀ x r,
      h.store.records x = some r → r.idempotencyKey = some (idempotencyKey id) →
      h.store.outcome x ≠ .succeeded) ∧
    (∀ call c h', freshChallenge h call → call.run P H h = .ok (some c) h' →
      h'.challenges c.challengeId = some c) := by
  have hinv := CommitsOnce.of_reaches hs hrun
  refine ⟨?_, ?_, ?_, ?_, ?_, ?_⟩
  · intro x r key hr hkey
    obtain ⟨id, c, a, faultMode, hc, rfl, hx, ha, rfl⟩ := hinv.committed_of_key hr hkey
    refine ⟨id, c, a, hc, rfl, hx, ha, rfl, rfl, fun x' r' hr' hkey' => ?_⟩
    obtain ⟨id', c', _, _, hc', hid, hx', _⟩ := hinv.committed_of_key hr' hkey'
    have hsame := idempotencyKey_injective hid
    subst hsame
    rw [hc] at hc'
    cases hc'
    exact hx'.symm.trans hx
  · intro call h' x r _ hstep hr hchanged
    rw [hstep] at hchanged
    exact hinv.changed hr hchanged
  · intro h' hrun' id c a hc ha
    obtain ⟨c', hc', hattempts⟩ := hinv.keeps hrun' id c hc
    obtain ⟨a', ha', hsame⟩ := hattempts a ha
    exact ⟨c', a', hc', ha', hsame⟩
  · intro id c hc hstate
    have hstands := hinv.stands id c hc
    rw [hstate] at hstands
    obtain ⟨_, a, faultMode, _, houtcome, hrecord⟩ := hstands
    refine ⟨_, hrecord, rfl, ?_, rfl, houtcome⟩
    exact congrArg (fun id => some (idempotencyKey id)) (hinv.named id c hc)
  · intro id c hc hstate x r hr hkey hsucceeded
    have hstands := hinv.stands id c hc
    rw [hstate] at hstands
    obtain ⟨id', c', _, _, hc', hid, rfl, _⟩ := hinv.committed_of_key hr hkey
    have hsame := idempotencyKey_injective hid
    subst hsame
    rw [hc] at hc'
    cases hc'
    rcases hstands.2 with hdraft | ⟨_, _, _, houtcome, _⟩
    · have hrecord : some r = some c.draft := hr.symm.trans hdraft
      cases hrecord
      cases hkey
    · rw [houtcome] at hsucceeded
      cases hsucceeded
  · intro call c h' hfresh hcall
    exact (hinv.call hfresh).2.2 c h' hcall

/-! ## A payment whose response is lost -/

/-- A platform that writes datetimes as a text that is not empty. -/
def writingPlatform : Platform := { samplePlatform with isoformat := fun _ => "later" }

theorem sampleSecret_ne : "secret" ≠ "" := by decide

/-- A harness for the examples. -/
def sampleSetup : HarnessSetup :=
  ⟨"secret", .empty, fun _ => some (.utc 300000000), sampleSecret_ne⟩

theorem sampleAmount_range : (0 : Int) < 500 ∧ (500 : Int) ≤ 1000000000 := by decide

theorem sampleVersion_pos : (1 : Int) ≤ 1 := by decide

/-- The facts of a payment. -/
def sampleFacts : StripePaymentFacts :=
  ⟨"pi_1", none, 500, .usd, "", 1, sampleAmount_range, sampleVersion_pos⟩

/-- The harness after some calls. -/
def afterCalls (calls : List HarnessCall) : Harness :=
  calls.foldl (fun h call => left (call.run writingPlatform sampleSetup h))
    ⟨.empty, fun _ => none⟩

/-- The calls that prepare a payment, approve it and submit it.  The response is lost, and so is the
first probe. -/
def lostResponse : List HarnessCall :=
  [.prepareSubmission ⟨.utc 0, "grant", "task", "step", "contract", "plan", "planStep", "order",
      "intent", "decision", "challenge"⟩ (account "stripe_operator" paymentsDepartmentId "operator")
      sampleFacts none none none,
    .decideApproval ⟨.utc 1, "grant", "decision", "approval", "permit"⟩ "challenge"
      (account "stripe_operator" paymentsDepartmentId "operator")
      (account "stripe_approver" paymentsDepartmentId "approver") true,
    .executeSubmission ⟨.utc 2, "grant", "attempt", .utc 2, .utc 2⟩ "challenge"
      .commitThenInconclusive .succeeded,
    .clearProbeFault "pi_1",
    .resolveUnknown ⟨.utc 3, "grant", "attempt", .utc 3, .utc 3⟩ "challenge"]

theorem afterCalls_lostResponse_reached :
    Reaches (HarnessStep writingPlatform sampleSetup) freshChallenge ⟨.empty, fun _ => none⟩
      (afterCalls lostResponse) := by
  have prepared : Reaches (HarnessStep writingPlatform sampleSetup) freshChallenge
      ⟨.empty, fun _ => none⟩ (afterCalls (lostResponse.take 1)) :=
    .single (l := lostResponse[0]) rfl rfl
  have decided : Reaches _ _ _ (afterCalls (lostResponse.take 2)) :=
    prepared.tail (l := lostResponse[1]) trivial rfl
  have executed : Reaches _ _ _ (afterCalls (lostResponse.take 3)) :=
    decided.tail (l := lostResponse[2]) trivial rfl
  have cleared : Reaches _ _ _ (afterCalls (lostResponse.take 4)) :=
    executed.tail (l := lostResponse[3]) trivial rfl
  exact cleared.tail (l := lostResponse[4]) trivial rfl

theorem harness_commits_exactly_once_sample : ∃ c r,
    (afterCalls lostResponse).challenges "challenge" = some c ∧
    (afterCalls lostResponse).store.records c.facts.paymentIntentId = some r ∧
    r.idempotencyKey = some (idempotencyKey "challenge") := by
  have hconfirmed : ((afterCalls lostResponse).challenges "challenge").map (·.state) =
      some .confirmed := by
    decide +kernel
  obtain ⟨c, hc, hstate⟩ := Option.map_eq_some_iff.mp hconfirmed
  obtain ⟨_, _, _, hholds, _⟩ := harness_commits_exactly_once (s := .empty)
    (fun _ _ hr => absurd hr (Option.some_ne_none _).symm) afterCalls_lostResponse_reached
  obtain ⟨r, hr, _, hkey, _⟩ := hholds "challenge" c hc hstate
  exact ⟨c, r, hc, hr, hkey⟩

end Stripe

end AgentPact
