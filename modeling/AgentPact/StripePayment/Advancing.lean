import AgentPact.AgentRuns.Append
import AgentPact.AgentRuns.Coordinator
import AgentPact.AgentRuns.Database
import AgentPact.StripePayment.ExactlyOnce
import AgentPact.StripePayment.BusinessValues
import AgentPact.StripePayment.ResultProbe

/-!
# Advancing a Stripe run

`advance_run` of `domains/stripe_payment/m10_runtime.py`.  A recorded run is
approved and submitted in its harness.  A live run is driven by the hosted
checkout flow, and what is left of it is its one attempt.

The coordinator wants the step in a completed result.  `advance_run` does not put
it there, and a recorded submission with an unknown outcome is reported as failed.

The checkout flow is a parameter: what it returns or raises, and what it leaves in
the database, is what a live run finds.
-/

namespace AgentPact

namespace Stripe

open Base Transaction

/-! ## Results -/

theorem completed_approval :
    (none : Option String).isSome ↔ PackAdvanceStatus.completed = .awaitingApproval := by
  decide

theorem completed_checkpoint :
    (none : Option ExecutionCheckpoint).isSome ↔
      PackAdvanceStatus.completed = .pendingResultProbe := by
  decide

/-- A completed run needs no reason. -/
theorem completed_reason :
    PackAdvanceStatus.completed ≠ .completed → (none : Option String).isSome = true :=
  fun h => absurd rfl h

/-- Without an approval there is no step to approve. -/
theorem no_approval : ∀ s ∈ (none : Option String), (none : Option String) = some s :=
  fun _ h => by cases h

/-- Without a checkpoint there is no step to probe. -/
theorem no_checkpoint : ∀ c ∈ (none : Option ExecutionCheckpoint),
    (none : Option String) = some c.stepId ∧ c.isUnknown = true :=
  fun _ h => by cases h

/-- A completed run. -/
def completedResult (runId : String) : PackAdvanceResult where
  status := .completed
  runId := runId
  stepId := none
  reasonCode := none
  approvalStepId := none
  executionCheckpoint := none
  approval_iff := completed_approval
  checkpoint_iff := completed_checkpoint
  reason := completed_reason
  approval_step := no_approval
  checkpoint_step := no_checkpoint

/-- A run whose recorded submission is not confirmed. -/
def failedResult (runId : String) : PackAdvanceResult where
  status := .failed
  runId := runId
  stepId := none
  reasonCode := some "STRIPE_RECORDED_EXECUTION_FAILED"
  approvalStepId := none
  executionCheckpoint := none
  approval_iff := by decide
  checkpoint_iff := by decide
  reason := fun _ => rfl
  approval_step := no_approval
  checkpoint_step := no_checkpoint

/-- A run that waits for the proof of an execution. -/
def pendingResult (runId : String) (c : ExecutionCheckpoint) (h : c.isUnknown = true) :
    PackAdvanceResult where
  status := .pendingResultProbe
  runId := runId
  stepId := some c.stepId
  reasonCode := some "RESULT_UNCERTAIN"
  approvalStepId := none
  executionCheckpoint := some c
  approval_iff := by decide
  checkpoint_iff := ⟨fun _ => rfl, fun _ => rfl⟩
  reason := fun _ => rfl
  approval_step := fun _ h => by cases h
  checkpoint_step := fun c' hc' => by
    cases hc'
    exact ⟨rfl, h⟩

/-- The result for a checkpoint, which has to be an unknown one. -/
def pendingOf (runId : String) (c : ExecutionCheckpoint) : Except Raised PackAdvanceResult :=
  if h : c.isUnknown = true then .ok (pendingResult runId c h) else .error invalidDocument

/-! ## Recorded runs -/

/-- `require_stripe_account` of the approver for a risk. -/
def approverFor (risk : RiskLevel) : UserContext :=
  if risk = .critical then account "stripe_compliance" complianceDepartmentId "approver"
  else account "stripe_approver" paymentsDepartmentId "approver"

/-- What a recorded run is advanced with. -/
structure RecordedEnvironment where
  /-- `_challenge_ids`. -/
  challengeIds : String → Option String
  decide : DecideEnvironment
  execute : ExecuteEnvironment

section

variable (P : Platform) (H : HarnessSetup) (env : RecordedEnvironment) (run : StripeM10PreparedRun)

/-- `_advance_run_legacy` of a recorded run. -/
def executeRecorded : HarnessTx StripeSubmissionChallenge := do
  let id ← lift (orRaise (env.challengeIds run.runId) ⟨.keyError, run.runId⟩)
  let c ← requireChallenge id
  if c.state = .pendingApproval then
    let _ ← decideApproval P H env.decide id run.user (approverFor c.decision.riskLevel) true
    executeSubmission P H env.execute id .none .succeeded
  else executeSubmission P H env.execute id .none .succeeded

/-- `advance_run` of a recorded run. -/
def advanceRecorded : HarnessTx PackAdvanceResult := do
  let c ← executeRecorded P H env run
  pure (if c.state = .confirmed then completedResult run.runId else failedResult run.runId)

end

/-! ## Live runs -/

/-- A `StripeM10NotWired`. -/
def notWired (text : String) : Raised := ⟨.stripeM10NotWired, text⟩

/-- `_stripe_native_step_id`. -/
def Compiler.nativeStepId (C : Compiler) (run : StripeM10PreparedRun) : String :=
  "stripe_step_" ++ String.ofList
    ((C.digestOf [run.runId, run.compilation.workOrder.workOrderId]).toList.take 48)

/-- What a live run is advanced with. -/
structure LiveEnvironment where
  /-- Whether the checkout flow and the sessions are there. -/
  wired : Bool
  now : DateTime
  /-- `execute_governed`: the checkpoint of its result. -/
  execute : AgentRunTx (Option ExecutionCheckpoint)

/-- The attempts of a run. -/
def liveAttempts (db : Database) (runId : String) : List ExecutionAttemptModel :=
  db.execution.attempts.select fun m => m.taskId = runId

/-- The only attempt of some, if there is one. -/
def soleAttempt : List ExecutionAttemptModel → Except Raised (Option ExecutionAttemptModel)
  | [] => .ok none
  | [m] => .ok (some m)
  | _ => .error ⟨.valueError, "Stripe live run has multiple persisted Attempts"⟩

/-- `_load_live_attempt`. -/
def loadLiveAttempt (runId : String) : AgentRunTx (Option ExecutionAttemptModel) :=
  query fun db => soleAttempt (liveAttempts db runId)

/-- `_checkpoint_from_live_attempt`. -/
def checkpointFromLiveAttempt (m : ExecutionAttemptModel) : Except Raised ExecutionCheckpoint :=
  match m.permitId, m.idempotencyKeyDigest, m.executionEffect with
  | some permitId, some digest, some effect =>
      if permitId ≠ "" ∧ m.resultProbeRef = some resultProbeRef ∧ m.status = .unknown then
        .ok {
          permitId := permitId
          attemptId := m.attemptId
          taskId := m.taskId
          stepId := m.stepId
          actionFingerprint := m.actionFingerprint
          observationHash := m.observationHash
          idempotencyKeyDigest := digest
          executionEffect := effect.value
          resultProbeRef := resultProbeRef
          attemptStatus := m.status.value }
      else .error ⟨.valueError, "Stripe live Attempt is not an exact UNKNOWN probe checkpoint"⟩
  | _, _, _ => .error ⟨.valueError, "Stripe live Attempt is not an exact UNKNOWN probe checkpoint"⟩

section

variable (C : Compiler) (env : LiveEnvironment) (run : StripeM10PreparedRun)

/-- `_set_live_native_status`, to the wait for a probe. -/
def setLiveNativeStatus : AgentRunTx Unit := do
  let pair ← read fun db => (db.task? run.runId run.user.orgId).isSome &&
    (db.step? (C.nativeStepId run) run.runId run.user.orgId).isSome
  require (pair = true) (notWired "Stripe live native Task/Step is missing")
  write fun db => db.setNativeStatus run.runId (C.nativeStepId run) .pendingResultProbe
    .pendingResultProbe

/-- Report a checkpoint, once the native pair waits for its probe. -/
def reportPending (c : ExecutionCheckpoint) : AgentRunTx PackAdvanceResult := do
  setLiveNativeStatus C run
  lift (pendingOf run.runId c)

/-- Report the attempt that a failed execution left unknown, or raise its error again. -/
def recoverUncertain (e : Raised) : AgentRunTx PackAdvanceResult := do
  match ← loadLiveAttempt run.runId with
  | some m =>
      if m.status = .unknown then
        let c ← lift (checkpointFromLiveAttempt m)
        reportPending C run c
      else throw e
  | none => throw e

/-- Execute a run that has no attempt. -/
def executeLive : AgentRunTx PackAdvanceResult := fun db =>
  match env.execute db with
  | .ok (some c) db' => reportPending C run c db'
  | .ok none db' => .error
      (checkoutError "Stripe hosted Checkout did not persist an execution checkpoint") db'
  | .error e db' =>
      if ErrorClass.stripeHostedCheckoutError.caughtBy e then recoverUncertain C run e db'
      else .error e db'

/-- Report an attempt that was there. -/
def reportExisting (m : ExecutionAttemptModel) : Except Raised PackAdvanceResult :=
  match m.status with
  | .unknown => do pendingOf run.runId (← checkpointFromLiveAttempt m)
  | .confirmed => .ok (completedResult run.runId)
  | _ => .error (notWired "stripe.payment live Attempt already crossed the browser boundary")

/-- Whether the contract of a run has expired. -/
def expired (now : DateTime) : Except Raised Bool :=
  match run.compilation.taskContract.expiresAt with
  | none => .error ⟨.typeError, "'>=' not supported between instances of 'datetime' and 'NoneType'"⟩
  | some t => t.le now

/-- `_advance_live_run`. -/
def advanceLive : AgentRunTx PackAdvanceResult := do
  require (env.wired = true) (notWired ("stripe.payment live execution requires an injected " ++
    "hosted Checkout flow and persisted Attempt/Permit session"))
  let late ← lift (expired run env.now)
  require (late = false)
    (notWired "stripe.payment live approval or capability grant has expired")
  match ← loadLiveAttempt run.runId with
  | some m => lift (reportExisting run m)
  | none => executeLive C env run

end

/-! ## What the coordinator makes of a result -/

/-- A result that says completed or pending is taken by the platform, and moves the journal. -/
def Agrees (checkpoint : GovernedPlanCheckpoint) (runId : String) (result : PackAdvanceResult) :
    Prop :=
  result.status = .completed ∨ result.status = .pendingResultProbe →
    validatePackAdvanceResult (some result) runId = .ok result ∧
      ∃ next transition,
        AgentRunResultCoordinator.advance checkpoint result = .ok (some (next, transition))

/-- A checkpoint of a run stands at a step. -/
structure StandsAt (checkpoint : GovernedPlanCheckpoint) (runId : String)
    (active : GovernedPlanStepRef) : Prop where
  root : checkpoint.rootTaskId = runId
  standing : checkpoint.activeStep = some active
  task : active.nativeTaskId = runId
  unfinished : checkpoint.state ≠ .completed

/-- A checkpoint of an execution is news for the step it is for. -/
structure News (checkpoint : GovernedPlanCheckpoint) (active : GovernedPlanStepRef)
    (c : ExecutionCheckpoint) : Prop where
  fits : c.fits active = true
  new : ¬ (checkpoint.state = .probeBlocked ∧ active.attemptId = some c.attemptId)

section

variable {checkpoint : GovernedPlanCheckpoint} {runId : String} {active : GovernedPlanStepRef}

/-- The coordinator takes no completed result of a run. -/
theorem not_agrees_completed (h : StandsAt checkpoint runId active) :
    ¬ Agrees checkpoint runId (completedResult runId) := by
  intro hagrees
  obtain ⟨_, next, transition, hadvance⟩ := hagrees (.inl rfl)
  obtain ⟨_, _, hadvance⟩ := except_bind_eq_ok.mp hadvance
  dsimp only [completedResult] at hadvance
  rw [if_neg h.unfinished, h.standing] at hadvance
  obtain ⟨_, hstep, _⟩ := except_bind_eq_ok.mp hadvance
  cases hstep

/-- It takes a pending result whose checkpoint is news for the active step. -/
theorem agrees_pending_iff (h : StandsAt checkpoint runId active) {c : ExecutionCheckpoint}
    (hunknown : c.isUnknown = true) :
    Agrees checkpoint runId (pendingResult runId c hunknown) ↔ News checkpoint active c := by
  have hvalid : validatePackAdvanceResult (some (pendingResult runId c hunknown)) runId =
      .ok (pendingResult runId c hunknown) := if_pos rfl
  have hadvance : AgentRunResultCoordinator.advance checkpoint (pendingResult runId c hunknown) =
      if c.fits active = true then
        if checkpoint.state = .probeBlocked ∧ active.attemptId = some c.attemptId then .ok none
        else .ok (some ({ checkpoint with
          state := .probeBlocked
          activeStep := some (active.blockedOn c) }, .probeBlocked))
      else .error ⟨.governedPlanError,
        "Pack execution checkpoint does not match the active Agent Run step"⟩ := by
    unfold AgentRunResultCoordinator.advance
    refine except_bind_of_ok (if_pos h.root.symm) ?_
    dsimp only [pendingResult]
    rw [h.standing]
    by_cases hfits : c.fits active = true
    · rw [if_pos hfits]
      exact except_bind_of_ok (if_pos hfits) rfl
    · rw [if_neg hfits]
      exact except_bind_eq_error.mpr (.inl (if_neg hfits))
  constructor
  · intro hagrees
    obtain ⟨_, next, transition, htaken⟩ := hagrees (.inr rfl)
    rw [hadvance] at htaken
    split at htaken
    case isTrue hfits =>
      split at htaken
      case isTrue => cases htaken
      case isFalse hnew => exact ⟨hfits, hnew⟩
    case isFalse => cases htaken
  · intro hnews _
    rw [hadvance, if_pos hnews.fits, if_neg hnews.new]
    exact ⟨hvalid, _, _, rfl⟩

end

/-! ## What a recorded run does -/

theorem raises_or_returns (x : Except Raised Unit) : (∃ e, x = .error e) ∨ x = .ok () := by
  cases x with
  | error e => exact .inl ⟨e, rfl⟩
  | ok _ => exact .inr rfl

theorem invalidating_of_ok {id : String} {c : StripeSubmissionChallenge}
    {x : Harness → Except Raised Unit} {h : Harness} (hx : x h = .ok ()) :
    invalidating id c x h = .ok () h := by
  unfold invalidating
  rw [hx]

theorem invalidating_of_error {id : String} {c : StripeSubmissionChallenge}
    {x : Harness → Except Raised Unit} {h : Harness} {e : Raised} (hx : x h = .error e) :
    ∃ h', invalidating id c x h = .error e h' := by
  unfold invalidating
  rw [hx]
  dsimp only
  split
  · exact ⟨_, rfl⟩
  · exact ⟨_, rfl⟩

theorem onStore_requireRecord (paymentIntentId : String) (h : Harness) :
    onStore (requireRecord paymentIntentId) h =
      match h.store.records paymentIntentId with
      | some r => .ok r h
      | none => .error (paymentError "Stripe PaymentIntent does not exist") h := by
  unfold onStore on requireRecord fetch
  dsimp only
  cases h.store.records paymentIntentId <;> rfl

/-- The store takes a submission without a fault. -/
def Submission.TakenBy (x : Submission) (r : StripePaymentRecord) : Prop :=
  r.idempotencyKey = some x.idempotencyKey ∨
    r.status = .draft ∧ r.facts.objectVersion = x.expectedVersion

/-- A submission without a fault returns if the store takes it, and is refused otherwise. -/
theorem submit_cases {x : Submission} {s : StripePaymentStore} {r : StripePaymentRecord}
    (hrecord : s.records x.paymentIntentId = some r) (hfault : x.faultMode = .none) :
    (x.TakenBy r ∧ ∃ r' s', submit x s = .ok r' s') ∨
      (¬ x.TakenBy r ∧ ∃ text s', submit x s = .error (paymentError text) s') := by
  have hfetch : requireRecord x.paymentIntentId s = .ok r s := fetch_eq_ok.mpr ⟨hrecord, rfl⟩
  unfold submit
  rw [bind_of_ok hfetch]
  by_cases hkey : r.idempotencyKey = some x.idempotencyKey
  · rw [if_pos hkey]
    exact .inl ⟨.inl hkey, _, _, rfl⟩
  · rw [if_neg hkey]
    by_cases hdraft : r.status = .draft
    · rw [require_bind hdraft]
      by_cases hversion : r.facts.objectVersion = x.expectedVersion
      · rw [require_bind hversion, require_bind (by rw [hfault]; decide)]
        refine .inl ⟨.inr ⟨hdraft, hversion⟩, r.commit x, s.commit r x, ?_⟩
        rw [write_bind, hfault]
        rfl
      · rw [require_bind_not hversion]
        refine .inr ⟨?_, _, _, rfl⟩
        rintro (h | ⟨_, h⟩)
        · exact hkey h
        · exact hversion h
    · rw [require_bind_not hdraft]
      refine .inr ⟨?_, _, _, rfl⟩
      rintro (h | ⟨h, _⟩)
      · exact hkey h
      · exact hdraft h

theorem finish_of_attempt {id : String} {c : StripeSubmissionChallenge} {attempt : ExecutionAttempt}
    (hattempt : c.attempt = some attempt) (final : FinalState) (evidence : ResultProbeEvidence)
    (finishedAt : DateTime) (message : Option String) (h : Harness) :
    finish id c final evidence finishedAt message h =
      .ok (c.finished attempt final evidence finishedAt message)
        (h.put id (c.finished attempt final evidence finishedAt message)) := by
  unfold finish
  rw [bind_of_ok (lift_eq_ok.mpr ⟨orRaise_eq_ok.mpr hattempt, rfl⟩)]
  rfl

theorem finalState_state (evidence : ResultProbeEvidence) :
    (finalState evidence).state = .confirmed ∨ (finalState evidence).state = .unknown := by
  unfold finalState
  split
  · exact .inl rfl
  · exact .inr rfl

/-- How a run of a challenge ends: with a challenge that is confirmed or unknown, or by raising. -/
inductive RecordedEnd (id : String) :
    EStateM.Result Raised Harness StripeSubmissionChallenge → Prop
  | settled {c : StripeSubmissionChallenge} {h : Harness} (hc : h.challenges id = some c)
      (hstate : c.state = .confirmed ∨ c.state = .unknown) : RecordedEnd id (.ok c h)

section

variable {P : Platform} {H : HarnessSetup} {env : ExecuteEnvironment} {id : String} {h : Harness}

theorem submitAndFinish_cases {c : StripeSubmissionChallenge} {x : Submission}
    {r : StripePaymentRecord} {attempt : ExecutionAttempt}
    (hrecord : h.store.records x.paymentIntentId = some r) (hfault : x.faultMode = .none)
    (hattempt : c.attempt = some attempt) :
    (x.TakenBy r ∧ RecordedEnd id (submitAndFinish P env id c x h)) ∨
      (¬ x.TakenBy r ∧ ∃ e h', submitAndFinish P env id c x h = .error e h') := by
  unfold submitAndFinish
  rcases submit_cases hrecord hfault with ⟨htaken, r', s', hsubmit⟩ | ⟨htaken, text, s', hsubmit⟩
  · rw [hsubmit]
    dsimp only
    rw [finish_of_attempt hattempt]
    refine .inl ⟨htaken, .settled (Function.update_self ..) (finalState_state _)⟩
  · rw [hsubmit]
    exact .inr ⟨htaken, _, _, rfl⟩

/-- A harness submits a challenge: its permit and its bindings hold, and the store takes it. -/
def Submits (P : Platform) (H : HarnessSetup) (env : ExecuteEnvironment) (h : Harness)
    (c : StripeSubmissionChallenge) : Prop :=
  ∃ permit approval current, c.executable = .ok (permit, approval) ∧
    h.store.records c.facts.paymentIntentId = some current ∧
    currentForExecution P H env c current = .ok () ∧ requirePermit env c permit = .ok () ∧
    (c.submission approval .succeeded .none).TakenBy current

variable (P H env) in
/-- Executing a challenge without a fault settles it if the harness submits it, and raises
otherwise. -/
theorem executeSubmission_cases {c : StripeSubmissionChallenge} (hc : h.challenges id = some c) :
    (Submits P H env h c ∧ RecordedEnd id (executeSubmission P H env id .none .succeeded h)) ∨
      (¬ Submits P H env h c ∧
        ∃ e h', executeSubmission P H env id .none .succeeded h = .error e h') := by
  have hfetch : requireChallenge id h = .ok c h := fetch_eq_ok.mpr ⟨hc, rfl⟩
  unfold executeSubmission
  rw [bind_of_ok hfetch]
  cases hexecutable : c.executable with
  | error e =>
    rw [bind_of_error (lift_eq_error.mpr ⟨rfl, rfl⟩)]
    refine .inr ⟨?_, _, _, rfl⟩
    rintro ⟨permit, approval, current, hok, _⟩
    cases hexecutable.symm.trans hok
  | ok granted =>
    obtain ⟨permit, approval⟩ := granted
    rw [bind_of_ok (lift_eq_ok.mpr ⟨rfl, rfl⟩)]
    dsimp only
    have hrequire := onStore_requireRecord c.facts.paymentIntentId h
    cases hrecord : h.store.records c.facts.paymentIntentId with
    | none =>
      rw [hrecord] at hrequire
      rw [bind_of_error hrequire]
      refine .inr ⟨?_, _, _, rfl⟩
      rintro ⟨_, _, _, _, hsome, _⟩
      cases hrecord.symm.trans hsome
    | some current =>
      rw [hrecord] at hrequire
      rw [bind_of_ok hrequire]
      rcases raises_or_returns (currentForExecution P H env c current)
        with ⟨e, hcurrent⟩ | hcurrent
      · have hinvalidating : ∃ h', invalidating id c
            (fun _ => currentForExecution P H env c current) h = .error e h' :=
          invalidating_of_error hcurrent
        obtain ⟨h', hinvalid⟩ := hinvalidating
        rw [bind_of_error hinvalid]
        refine .inr ⟨?_, _, _, rfl⟩
        rintro ⟨_, _, current', _, hsome, hok, _⟩
        cases hrecord.symm.trans hsome
        cases hcurrent.symm.trans hok
      · rw [bind_of_ok (invalidating_of_ok hcurrent)]
        rcases raises_or_returns (requirePermit env c permit) with ⟨e, hpermit⟩ | hpermit
        · have hinvalidating : ∃ h', invalidating id c (fun _ => requirePermit env c permit) h =
              .error e h' := invalidating_of_error hpermit
          obtain ⟨h', hinvalid⟩ := hinvalidating
          rw [bind_of_error hinvalid]
          refine .inr ⟨?_, _, _, rfl⟩
          rintro ⟨permit', _, _, hok, _, _, hallowed, _⟩
          cases hexecutable.symm.trans hok
          cases hpermit.symm.trans hallowed
        · rw [bind_of_ok (invalidating_of_ok hpermit), write_bind]
          have hstored : (h.put id (c.executing env permit)).store.records
              (c.submission approval .succeeded .none).paymentIntentId = some current := hrecord
          have hattempt : ∃ attempt, (c.executing env permit).attempt = some attempt := ⟨_, rfl⟩
          obtain ⟨attempt, hattempt⟩ := hattempt
          rcases submitAndFinish_cases hstored rfl hattempt with ⟨htaken, hend⟩ | ⟨htaken, hraised⟩
          · have hsubmits : Submits P H env h c :=
              ⟨permit, approval, current, hexecutable, hrecord, hcurrent, hpermit, htaken⟩
            exact .inl ⟨hsubmits, hend⟩
          · refine .inr ⟨?_, hraised⟩
            rintro ⟨permit', approval', current', hok, hsome, _, _, htaken'⟩
            cases hexecutable.symm.trans hok
            cases hrecord.symm.trans hsome
            exact htaken htaken'

end

/-- A harness approves a challenge that waits for it. -/
structure Approves (P : Platform) (H : HarnessSetup) (env : DecideEnvironment) (h : Harness)
    (user : UserContext) (c c' : StripeSubmissionChallenge) : Prop where
  requester : user.userId = c.requesterUserId
  current : currentForDecision P H env c user h = .ok ()
  approved : approveChallenge env c user (approverFor c.decision.riskLevel) = .ok c'

/-- A harness submits the payment of a run, once it has approved it where that is still to be
done. -/
def SubmitsRun (P : Platform) (H : HarnessSetup) (env : RecordedEnvironment)
    (run : StripeM10PreparedRun) (h : Harness) : Prop :=
  ∃ id c, env.challengeIds run.runId = some id ∧ h.challenges id = some c ∧
    ((c.state ≠ .pendingApproval ∧ Submits P H env.execute h c) ∨
      (c.state = .pendingApproval ∧ ∃ c', Approves P H env.decide h run.user c c' ∧
        Submits P H env.execute (h.put id c') c'))

section

variable {P : Platform} {H : HarnessSetup} {env : RecordedEnvironment} {run : StripeM10PreparedRun}
  {h : Harness}

theorem submitsRun_iff {id : String} {c : StripeSubmissionChallenge}
    (hid : env.challengeIds run.runId = some id) (hc : h.challenges id = some c) :
    SubmitsRun P H env run h ↔ (c.state ≠ .pendingApproval ∧ Submits P H env.execute h c) ∨
      (c.state = .pendingApproval ∧ ∃ c', Approves P H env.decide h run.user c c' ∧
        Submits P H env.execute (h.put id c') c') := by
  constructor
  · rintro ⟨_, _, hsome, hchallenge, hends⟩
    cases hid.symm.trans hsome
    cases hc.symm.trans hchallenge
    exact hends
  · intro hends
    exact ⟨id, c, hid, hc, hends⟩

variable (P H) in
/-- An approval is given if the harness approves, and raises otherwise. -/
theorem decideApproval_cases (env : DecideEnvironment) {id : String} (user : UserContext)
    {c : StripeSubmissionChallenge} (hc : h.challenges id = some c)
    (hstate : c.state = .pendingApproval) :
    (∃ c', Approves P H env h user c c' ∧
      decideApproval P H env id user (approverFor c.decision.riskLevel) true h =
        .ok c' (h.put id c')) ∨
    ((¬ ∃ c', Approves P H env h user c c') ∧ ∃ e h',
      decideApproval P H env id user (approverFor c.decision.riskLevel) true h = .error e h') := by
  have hfetch : requireChallenge id h = .ok c h := fetch_eq_ok.mpr ⟨hc, rfl⟩
  unfold decideApproval
  rw [bind_of_ok hfetch, require_bind hstate]
  by_cases hrequester : user.userId = c.requesterUserId
  · rw [require_bind hrequester, if_pos rfl]
    rcases raises_or_returns (currentForDecision P H env c user h) with ⟨e, hcurrent⟩ | hcurrent
    · have hinvalidating : ∃ h', invalidating id c (currentForDecision P H env c user) h =
          .error e h' := invalidating_of_error hcurrent
      obtain ⟨h', hinvalid⟩ := hinvalidating
      rw [bind_of_error hinvalid]
      refine .inr ⟨?_, _, _, rfl⟩
      rintro ⟨_, happroves⟩
      cases hcurrent.symm.trans happroves.current
    · rw [bind_of_ok (invalidating_of_ok hcurrent)]
      cases hdecided : approveChallenge env c user (approverFor c.decision.riskLevel) with
      | error e =>
        rw [bind_of_error (lift_eq_error.mpr ⟨rfl, rfl⟩)]
        refine .inr ⟨?_, _, _, rfl⟩
        rintro ⟨_, happroves⟩
        cases hdecided.symm.trans happroves.approved
      | ok c' =>
        rw [bind_of_ok (lift_eq_ok.mpr ⟨rfl, rfl⟩), write_bind]
        exact .inl ⟨c', ⟨hrequester, hcurrent, hdecided⟩, rfl⟩
  · rw [require_bind_not hrequester]
    refine .inr ⟨?_, _, _, rfl⟩
    rintro ⟨_, happroves⟩
    exact hrequester happroves.requester

variable (P H env run h) in
/-- A recorded run settles its challenge if the harness submits it, and raises otherwise. -/
theorem executeRecorded_cases :
    (SubmitsRun P H env run h ∧ ∃ id, env.challengeIds run.runId = some id ∧
      RecordedEnd id (executeRecorded P H env run h)) ∨
    (¬ SubmitsRun P H env run h ∧ ∃ e h', executeRecorded P H env run h = .error e h') := by
  unfold executeRecorded
  cases hid : env.challengeIds run.runId with
  | none =>
    have hmissing : (lift (orRaise none ⟨.keyError, run.runId⟩) : HarnessTx String) h =
        .error ⟨.keyError, run.runId⟩ h := rfl
    rw [bind_of_error hmissing]
    refine .inr ⟨?_, _, _, rfl⟩
    rintro ⟨_, _, hsome, _⟩
    cases hid.symm.trans hsome
  | some id =>
    have hfound : (lift (orRaise (some id) ⟨.keyError, run.runId⟩) : HarnessTx String) h =
        .ok id h := rfl
    rw [bind_of_ok hfound]
    cases hc : h.challenges id with
    | none =>
      have hfetch : requireChallenge id h =
          .error (paymentError "Stripe challenge does not exist") h :=
        fetch_eq_error.mpr ⟨hc, rfl, rfl⟩
      rw [bind_of_error hfetch]
      refine .inr ⟨?_, _, _, rfl⟩
      rintro ⟨_, _, hsome, hchallenge, _⟩
      cases hid.symm.trans hsome
      cases hc.symm.trans hchallenge
    | some c =>
      have hfetch : requireChallenge id h = .ok c h := fetch_eq_ok.mpr ⟨hc, rfl⟩
      rw [bind_of_ok hfetch, submitsRun_iff hid hc]
      by_cases hstate : c.state = .pendingApproval
      · rw [if_pos hstate]
        rcases decideApproval_cases P H env.decide run.user hc hstate
          with ⟨c', happroves, hdecided⟩ | ⟨hnot, e, h', hraised⟩
        · rw [bind_of_ok hdecided]
          have hput : (h.put id c').challenges id = some c' := Function.update_self ..
          rcases executeSubmission_cases P H env.execute hput
            with ⟨hsubmits, hend⟩ | ⟨hnot, hraised⟩
          · exact .inl ⟨.inr ⟨hstate, c', happroves, hsubmits⟩, id, rfl, hend⟩
          · refine .inr ⟨?_, hraised⟩
            rintro (⟨hother, _⟩ | ⟨_, c'', happroves', hsubmits⟩)
            · exact hother hstate
            · cases happroves.approved.symm.trans happroves'.approved
              exact hnot hsubmits
        · rw [bind_of_error hraised]
          refine .inr ⟨?_, _, _, rfl⟩
          rintro (⟨hother, _⟩ | ⟨_, c'', happroves', _⟩)
          · exact hother hstate
          · exact hnot ⟨c'', happroves'⟩
      · rw [if_neg hstate]
        rcases executeSubmission_cases P H env.execute hc
          with ⟨hsubmits, hend⟩ | ⟨hnot, hraised⟩
        · exact .inl ⟨.inl ⟨hstate, hsubmits⟩, id, rfl, hend⟩
        · refine .inr ⟨?_, hraised⟩
          rintro (⟨_, hsubmits⟩ | ⟨hpending, _⟩)
          · exact hnot hsubmits
          · exact hstate hpending

end

/-- A recorded run agrees with the coordinator: a result of it is reflected, and it does not say
failed where the outcome of the submission is unknown. -/
def RecordedAgrees (P : Platform) (H : HarnessSetup) (env : RecordedEnvironment)
    (run : StripeM10PreparedRun) (checkpoint : GovernedPlanCheckpoint) (h : Harness) : Prop :=
  ∀ result h', advanceRecorded P H env run h = .ok result h' →
    Agrees checkpoint run.runId result ∧
      ∀ id c, env.challengeIds run.runId = some id → h'.challenges id = some c →
        c.state = .unknown → result.status ≠ .failed

/-- A recorded run agrees with the coordinator only if the harness refuses its submission. -/
theorem recordedAgrees_iff {P : Platform} {H : HarnessSetup} {env : RecordedEnvironment}
    {run : StripeM10PreparedRun} {checkpoint : GovernedPlanCheckpoint}
    {active : GovernedPlanStepRef} {h : Harness}
    (hstands : StandsAt checkpoint run.runId active) :
    RecordedAgrees P H env run checkpoint h ↔ ¬ SubmitsRun P H env run h := by
  rcases executeRecorded_cases P H env run h
    with ⟨hsubmits, id, hid, hend⟩ | ⟨hnot, e, h', hraised⟩
  · refine ⟨fun hagrees => ?_, fun hnot => absurd hsubmits hnot⟩
    generalize hrun : executeRecorded P H env run h = ended at hend
    cases hend with
    | @settled c h' hc hstate =>
      have hadvance : advanceRecorded P H env run h =
          .ok (if c.state = .confirmed then completedResult run.runId else failedResult run.runId)
            h' := by
        unfold advanceRecorded
        rw [bind_of_ok hrun]
        rfl
      obtain ⟨hreflected, hunknown⟩ := hagrees _ _ hadvance
      rcases hstate with hconfirmed | hstate
      · rw [if_pos hconfirmed] at hreflected
        exact absurd hreflected (not_agrees_completed hstands)
      · rw [if_neg (by rw [hstate]; decide)] at hunknown
        exact absurd rfl (hunknown id c hid hc hstate)
  · refine ⟨fun _ => hnot, fun _ result h'' hadvance => ?_⟩
    unfold advanceRecorded at hadvance
    rw [bind_of_error hraised] at hadvance
    cases hadvance

/-! ## What a live run does -/

theorem soleAttempt_eq_some {ms : List ExecutionAttemptModel} {m : ExecutionAttemptModel} :
    soleAttempt ms = .ok (some m) ↔ ms = [m] := by
  unfold soleAttempt
  split <;> simp_all

theorem soleAttempt_eq_none {ms : List ExecutionAttemptModel} :
    soleAttempt ms = .ok none ↔ ms = [] := by
  unfold soleAttempt
  split <;> simp_all

/-- The checkpoint of an attempt is an unknown one. -/
theorem checkpointFromLiveAttempt_unknown {m : ExecutionAttemptModel} {c : ExecutionCheckpoint}
    (h : checkpointFromLiveAttempt m = .ok c) : m.status = .unknown ∧ c.isUnknown = true := by
  unfold checkpointFromLiveAttempt at h
  split at h
  · split at h
    case isTrue hexact =>
      cases h
      refine ⟨hexact.2.2, ?_⟩
      have hfolds : (ExecutionAttemptStatus.unknown.value.map fun x =>
          if x = Char.ofNat 0x212A then 'k' else x.toLower) = "unknown" := by
        refine String.ext ?_
        rw [String.toList_map]
        decide
      unfold ExecutionCheckpoint.isUnknown
      rw [hexact.2.2]
      exact decide_eq_true hfolds
    case isFalse => cases h
  · cases h

/-- The native pair of a run is there. -/
def HasPair (C : Compiler) (run : StripeM10PreparedRun) (db : Database) : Prop :=
  (db.task? run.runId run.user.orgId).isSome = true ∧
    (db.step? (C.nativeStepId run) run.runId run.user.orgId).isSome = true

/-- A run has one attempt, which is unknown and has a checkpoint. -/
def Uncertain (run : StripeM10PreparedRun) (db : Database) (c : ExecutionCheckpoint) : Prop :=
  ∃ m, liveAttempts db run.runId = [m] ∧ checkpointFromLiveAttempt m = .ok c

/-- A run has one attempt, which is confirmed. -/
def Confirmed (run : StripeM10PreparedRun) (db : Database) : Prop :=
  ∃ m, liveAttempts db run.runId = [m] ∧ m.status = .confirmed

/-- The checkpoint that a live run waits at: of the attempt that was there, or of the one that the
checkout flow returns, or of the one that it leaves unknown when it raises. -/
inductive Leaves (C : Compiler) (env : LiveEnvironment) (run : StripeM10PreparedRun)
    (db : Database) : ExecutionCheckpoint → Prop
  | stored {c : ExecutionCheckpoint} (huncertain : Uncertain run db c) : Leaves C env run db c
  | returned {c : ExecutionCheckpoint} {db' : Database} (hfresh : liveAttempts db run.runId = [])
      (hexecute : env.execute db = .ok (some c) db') (hpair : HasPair C run db')
      (hunknown : c.isUnknown = true) : Leaves C env run db c
  | raised {c : ExecutionCheckpoint} {db' : Database} {e : Raised}
      (hfresh : liveAttempts db run.runId = []) (hexecute : env.execute db = .error e db')
      (hcheckout : ErrorClass.stripeHostedCheckoutError.caughtBy e = true)
      (huncertain : Uncertain run db' c) (hpair : HasPair C run db') : Leaves C env run db c

/-- A live run may go on: it is composed, and its contract has not expired. -/
def LiveOpen (env : LiveEnvironment) (run : StripeM10PreparedRun) : Prop :=
  env.wired = true ∧ expired run env.now = .ok false

section

variable {C : Compiler} {env : LiveEnvironment} {run : StripeM10PreparedRun} {db db' : Database}
  {result : PackAdvanceResult} {c : ExecutionCheckpoint}

theorem pendingOf_eq_ok {runId : String} :
    pendingOf runId c = .ok result ↔ ∃ h, result = pendingResult runId c h := by
  unfold pendingOf
  split
  case isTrue h =>
    constructor
    · intro heq
      cases heq
      exact ⟨h, rfl⟩
    · rintro ⟨_, rfl⟩
      rfl
  case isFalse h =>
    constructor
    · intro heq
      cases heq
    · rintro ⟨h', _⟩
      exact absurd h' h

/-- A checkpoint is reported where the native pair is there and the checkpoint is unknown. -/
theorem reportPending_eq_ok : (∃ db', reportPending C run c db = .ok result db') ↔
    HasPair C run db ∧ ∃ h, result = pendingResult run.runId c h := by
  unfold reportPending setLiveNativeStatus
  constructor
  · rintro ⟨db', h⟩
    obtain ⟨_, db'', hset, hreport⟩ := bind_eq_ok.mp h
    rw [read_bind] at hset
    obtain ⟨_, _, hrequire, _⟩ := bind_eq_ok.mp hset
    obtain ⟨hpair, _⟩ := require_eq_ok.mp hrequire
    obtain ⟨hpending, _⟩ := lift_eq_ok.mp hreport
    exact ⟨Bool.and_eq_true_iff.mp hpair, pendingOf_eq_ok.mp hpending⟩
  · rintro ⟨hpair, hpending⟩
    have hboth := Bool.and_eq_true_iff.mpr hpair
    refine ⟨db.setNativeStatus run.runId (C.nativeStepId run) .pendingResultProbe
      .pendingResultProbe, bind_eq_ok.mpr ⟨(), _, ?_, lift_eq_ok.mpr ⟨pendingOf_eq_ok.mpr hpending,
        rfl⟩⟩⟩
    rw [read_bind, require_bind hboth]
    rfl

/-- What a live run returns: that it is completed, for an attempt that is confirmed, or that it
waits, at the checkpoint that is left. -/
theorem advanceLive_eq_ok : (∃ db', advanceLive C env run db = .ok result db') ↔
    LiveOpen env run ∧ (Confirmed run db ∧ result = completedResult run.runId ∨
      ∃ c h, Leaves C env run db c ∧ result = pendingResult run.runId c h) := by
  constructor
  · rintro ⟨db', h⟩
    obtain ⟨_, _, hcomposed, hlive⟩ := bind_eq_ok.mp h
    obtain ⟨hwired, hsame⟩ := require_eq_ok.mp hcomposed
    rw [hsame] at hlive
    obtain ⟨late, _, hclock, hlater⟩ := bind_eq_ok.mp hlive
    obtain ⟨hlate, hsame⟩ := lift_eq_ok.mp hclock
    rw [hsame] at hlater
    obtain ⟨_, _, hintime, hloaded⟩ := bind_eq_ok.mp hlater
    obtain ⟨rfl, hsame⟩ := require_eq_ok.mp hintime
    rw [hsame] at hloaded
    obtain ⟨found, _, hload, hrest⟩ := bind_eq_ok.mp hloaded
    obtain ⟨hfound, hsame⟩ := query_eq_ok.mp hload
    rw [hsame] at hrest
    refine ⟨⟨hwired, hlate⟩, ?_⟩
    cases found with
    | some m =>
      have hrows := soleAttempt_eq_some.mp hfound
      obtain ⟨hreport, _⟩ := lift_eq_ok.mp hrest
      unfold reportExisting at hreport
      split at hreport
      case h_1 hstatus =>
        obtain ⟨c, hc, hpending⟩ := except_bind_eq_ok.mp hreport
        obtain ⟨hunknown, hresult⟩ := pendingOf_eq_ok.mp hpending
        exact .inr ⟨c, hunknown, .stored ⟨m, hrows, hc⟩, hresult⟩
      case h_2 hstatus =>
        cases hreport
        exact .inl ⟨⟨m, hrows, hstatus⟩, rfl⟩
      case h_3 => cases hreport
    | none =>
      have hfresh := soleAttempt_eq_none.mp hfound
      dsimp only at hrest
      unfold executeLive at hrest
      cases hexecute : env.execute db with
      | ok returned t =>
        rw [hexecute] at hrest
        cases returned with
        | none => cases hrest
        | some c =>
          obtain ⟨hpair, hunknown, hresult⟩ := reportPending_eq_ok.mp ⟨_, hrest⟩
          exact .inr ⟨c, hunknown, .returned hfresh hexecute hpair hunknown, hresult⟩
      | error e t =>
        rw [hexecute] at hrest
        dsimp only at hrest
        split at hrest
        case isTrue hcheckout =>
          unfold recoverUncertain at hrest
          obtain ⟨found', _, hfound', hrecover⟩ := bind_eq_ok.mp hrest
          obtain ⟨hfound', rfl⟩ := query_eq_ok.mp hfound'
          cases found' with
          | none => cases hrecover
          | some m =>
            dsimp only at hrecover
            split at hrecover
            case isTrue =>
              obtain ⟨c, _, hread, hreport⟩ := bind_eq_ok.mp hrecover
              obtain ⟨hc, rfl⟩ := lift_eq_ok.mp hread
              obtain ⟨hpair, hunknown, hresult⟩ := reportPending_eq_ok.mp ⟨_, hreport⟩
              exact .inr ⟨c, hunknown, .raised hfresh hexecute hcheckout
                ⟨m, soleAttempt_eq_some.mp hfound', hc⟩ hpair, hresult⟩
            case isFalse => cases hrecover
        case isFalse => cases hrest
  · rintro ⟨⟨hwired, hlate⟩, hends⟩
    have hrest : ∀ found, soleAttempt (liveAttempts db run.runId) = .ok found →
        advanceLive C env run db = (match found with
          | some m => lift (reportExisting run m)
          | none => executeLive C env run : AgentRunTx PackAdvanceResult) db := by
      intro found hfound
      unfold advanceLive
      have hload : loadLiveAttempt run.runId db = .ok found db := query_eq_ok.mpr ⟨hfound, rfl⟩
      rw [require_bind hwired, bind_of_ok (lift_eq_ok.mpr ⟨hlate, rfl⟩), require_bind rfl,
        bind_of_ok hload]
    rcases hends with ⟨⟨m, hrows, hstatus⟩, rfl⟩ | ⟨c, hunknown, hleaves, rfl⟩
    · refine ⟨db, (hrest (some m) (soleAttempt_eq_some.mpr hrows)).trans ?_⟩
      refine lift_eq_ok.mpr ⟨?_, rfl⟩
      unfold reportExisting
      rw [hstatus]
    · cases hleaves with
      | stored huncertain =>
        obtain ⟨m, hrows, hc⟩ := huncertain
        refine ⟨db, (hrest (some m) (soleAttempt_eq_some.mpr hrows)).trans ?_⟩
        refine lift_eq_ok.mpr ⟨?_, rfl⟩
        unfold reportExisting
        rw [(checkpointFromLiveAttempt_unknown hc).1]
        exact except_bind_of_ok hc (pendingOf_eq_ok.mpr ⟨hunknown, rfl⟩)
      | @returned t hfresh hexecute hpair _ =>
        obtain ⟨db', hreport⟩ := reportPending_eq_ok.mpr ⟨hpair, hunknown, rfl⟩
        refine ⟨db', (hrest none (soleAttempt_eq_none.mpr hfresh)).trans ?_⟩
        dsimp only
        unfold executeLive
        rw [hexecute]
        exact hreport
      | @raised t e hfresh hexecute hcheckout huncertain hpair =>
        obtain ⟨m, hrows, hc⟩ := huncertain
        obtain ⟨db', hreport⟩ := reportPending_eq_ok.mpr ⟨hpair, hunknown, rfl⟩
        refine ⟨db', (hrest none (soleAttempt_eq_none.mpr hfresh)).trans ?_⟩
        dsimp only
        unfold executeLive recoverUncertain
        rw [hexecute]
        dsimp only
        have hload : loadLiveAttempt run.runId t = .ok (some m) t :=
          query_eq_ok.mpr ⟨soleAttempt_eq_some.mpr hrows, rfl⟩
        rw [if_pos hcheckout, bind_of_ok hload]
        dsimp only
        rw [if_pos (checkpointFromLiveAttempt_unknown hc).1,
          bind_of_ok (lift_eq_ok.mpr ⟨hc, rfl⟩)]
        exact hreport

end

/-- A live run agrees with the coordinator: a result of it is reflected, and it does not say failed
where its attempt is unknown. -/
def LiveAgrees (C : Compiler) (env : LiveEnvironment) (run : StripeM10PreparedRun)
    (checkpoint : GovernedPlanCheckpoint) (db : Database) : Prop :=
  ∀ result db', advanceLive C env run db = .ok result db' →
    Agrees checkpoint run.runId result ∧
      ((∃ m ∈ liveAttempts db' run.runId, m.status = .unknown) → result.status ≠ .failed)

/-- A live run that may go on agrees with the coordinator if and only if its attempt is not
confirmed, and the checkpoint it waits at is news for the active step. -/
theorem liveAgrees_iff {C : Compiler} {env : LiveEnvironment} {run : StripeM10PreparedRun}
    {checkpoint : GovernedPlanCheckpoint} {active : GovernedPlanStepRef} {db : Database}
    (hstands : StandsAt checkpoint run.runId active) :
    LiveAgrees C env run checkpoint db ↔ (LiveOpen env run →
      ¬ Confirmed run db ∧ ∀ c, Leaves C env run db c → News checkpoint active c) := by
  constructor
  · intro hagrees hopen
    constructor
    · intro hconfirmed
      obtain ⟨db', hadvance⟩ := advanceLive_eq_ok.mpr ⟨hopen, .inl ⟨hconfirmed, rfl⟩⟩
      exact not_agrees_completed hstands (hagrees _ _ hadvance).1
    · intro c hleaves
      have hunknown : c.isUnknown = true := by
        cases hleaves with
        | stored huncertain =>
          obtain ⟨_, _, hc⟩ := huncertain
          exact (checkpointFromLiveAttempt_unknown hc).2
        | returned _ _ _ hunknown => exact hunknown
        | raised _ _ _ huncertain _ =>
          obtain ⟨_, _, hc⟩ := huncertain
          exact (checkpointFromLiveAttempt_unknown hc).2
      obtain ⟨db', hadvance⟩ :=
        advanceLive_eq_ok.mpr ⟨hopen, .inr ⟨c, hunknown, hleaves, rfl⟩⟩
      exact (agrees_pending_iff hstands hunknown).mp (hagrees _ _ hadvance).1
  · intro h result db' hadvance
    obtain ⟨hopen, ⟨hconfirmed, _⟩ | ⟨c, hunknown, hleaves, rfl⟩⟩ :=
      advanceLive_eq_ok.mp ⟨db', hadvance⟩
    · exact absurd hconfirmed (h hopen).1
    · have hnews := (h hopen).2 c hleaves
      refine ⟨(agrees_pending_iff hstands hunknown).mpr hnews, fun _ hfailed => ?_⟩
      cases hfailed

/-- When advancing a Stripe run agrees with the coordinator.  A recorded run does only where the
harness refuses its submission.  A live run does unless its attempt is confirmed, or the checkpoint
that it waits at is no news for the active step. -/
theorem advance_agrees_iff {run : StripeM10PreparedRun} {checkpoint : GovernedPlanCheckpoint}
    {active : GovernedPlanStepRef}
    (hstands : StandsAt checkpoint run.runId active) :
    (∀ P H env h, RecordedAgrees P H env run checkpoint h ↔ ¬ SubmitsRun P H env run h) ∧
    ∀ C env db, LiveAgrees C env run checkpoint db ↔ (LiveOpen env run →
      ¬ Confirmed run db ∧ ∀ c, Leaves C env run db c → News checkpoint active c) :=
  ⟨fun _ _ _ _ => recordedAgrees_iff hstands, fun _ _ _ => liveAgrees_iff hstands⟩

/-! ## A payment that is made and not reflected -/

/-- The run of the examples. -/
def sampleRun : StripeM10PreparedRun :=
  (sampleAdapter deterministicPlanner).preparedFrom (sampleRequest sampleOperator) sampleFacts
    ⟨capabilityId, sampleFacts.inputs⟩ sampleFacts

theorem sampleRun_prepared :
    (sampleAdapter deterministicPlanner).prepareRun (sampleRequest sampleOperator) =
      .ok sampleRun :=
  StripeAdapter.prepareRun_eq_ok.mpr ⟨_, _, _,
    sampleAdapter_prepares rfl (by decide) sampleOperator_executes sampleFacts_wellFormed rfl, rfl⟩

/-- Its step. -/
def sampleRunStep : GovernedPlanStepRef :=
  { sampleStep with
    nativeTaskId := sampleRun.runId, nativeStepId := sampleCompiler.nativeStepId sampleRun }

/-- The checkpoint that it stands at. -/
def sampleRunCheckpoint : GovernedPlanCheckpoint :=
  { admittedCheckpoint with rootTaskId := sampleRun.runId, activeStep := some sampleRunStep }

theorem sampleRun_standsAt : StandsAt sampleRunCheckpoint sampleRun.runId sampleRunStep where
  root := rfl
  standing := rfl
  task := rfl
  unfinished := by
    show PlanRunState.active ≠ .completed
    decide

/-- What it is advanced with. -/
def sampleRecorded : RecordedEnvironment where
  challengeIds _ := some "challenge"
  decide := ⟨.utc 1, "grant", "decision", "approval", "permit"⟩
  execute := ⟨.utc 2, "grant", "attempt", .utc 2, .utc 2⟩

/-- The harness approves the prepared payment and submits it, and it is confirmed. -/
theorem sampleRun_confirmed : ∃ c h,
    executeRecorded writingPlatform sampleSetup sampleRecorded sampleRun
      (afterCalls (lostResponse.take 1)) = .ok c h ∧ c.state = .confirmed := by
  have hstate : (match executeRecorded writingPlatform sampleSetup sampleRecorded sampleRun
      (afterCalls (lostResponse.take 1)) with
    | .ok c _ => some c.state
    | .error _ _ => none) = some .confirmed := by
    decide +kernel
  generalize executeRecorded writingPlatform sampleSetup sampleRecorded sampleRun
    (afterCalls (lostResponse.take 1)) = ended at hstate
  cases ended with
  | ok c h => exact ⟨c, h, rfl, Option.some.inj hstate⟩
  | error e h => cases hstate

theorem advance_agrees_iff_sample : ¬ RecordedAgrees writingPlatform sampleSetup sampleRecorded
    sampleRun sampleRunCheckpoint (afterCalls (lostResponse.take 1)) := by
  obtain ⟨c, h, hrun, _⟩ := sampleRun_confirmed
  intro hagrees
  have hrefused := ((advance_agrees_iff sampleRun_standsAt).1 _ _ _ _).mp hagrees
  rcases executeRecorded_cases writingPlatform sampleSetup sampleRecorded sampleRun _
    with ⟨hsubmits, _⟩ | ⟨_, e, h', hraised⟩
  · exact hrefused hsubmits
  · cases hrun.symm.trans hraised

/-- The payment of a recorded run is confirmed, and the coordinator refuses the result. -/
theorem confirmed_payment_not_reflected :
    (sampleAdapter deterministicPlanner).prepareRun (sampleRequest sampleOperator) =
      .ok sampleRun ∧
    StandsAt sampleRunCheckpoint sampleRun.runId sampleRunStep ∧
    (∃ h, advanceRecorded writingPlatform sampleSetup sampleRecorded sampleRun
      (afterCalls (lostResponse.take 1)) = .ok (completedResult sampleRun.runId) h) ∧
    AgentRunResultCoordinator.advance sampleRunCheckpoint (completedResult sampleRun.runId) =
      .error ⟨.governedPlanError,
        "Completed Pack result does not match the active Agent Run step"⟩ := by
  refine ⟨sampleRun_prepared, sampleRun_standsAt, ?_, ?_⟩
  · obtain ⟨c, h, hrun, hconfirmed⟩ := sampleRun_confirmed
    refine ⟨h, ?_⟩
    unfold advanceRecorded
    rw [bind_of_ok hrun, if_pos hconfirmed]
    rfl
  · unfold AgentRunResultCoordinator.advance
    refine except_bind_of_ok (if_pos rfl) ?_
    dsimp only [completedResult]
    rw [if_neg sampleRun_standsAt.unfinished, sampleRun_standsAt.standing]
    exact except_bind_eq_error.mpr (.inl (if_neg (by decide)))

end Stripe

end AgentPact
