import AgentPact.BrowserLoop.LoopHistory
import AgentPact.BrowserLoop.LoopRuns

/-!
# The report of the browser loop as an audit

What the report of a run says of the history of the run: which events were
accepted, how often the runtime was called, which budgets were kept, and what the
last verdict and the last answer of the policy were.

`Books` is the invariant.  Only a call of the runtime changes the number of
executions it is stated for, so everything else the loop does is `Quiet`: it
keeps the books as they are, whatever the ports answer and raise.
-/

namespace AgentPact

open Base Session

namespace BrowserLoop

/-! ## Reading a history -/

/-- The event of an accepted emission. -/
def acceptedEvent : Sigma PortCall.Answer → Option BrowserLoopEvent
  | ⟨.emit event, .ok _⟩ => some event
  | _ => none

/-- The events whose emission returned, oldest first. -/
def acceptedEvents (h : LoopHistory) : List BrowserLoopEvent := h.filterMap acceptedEvent

/-- A call of the runtime. -/
def isExecute : Sigma PortCall.Answer → Bool
  | ⟨.execute _, _⟩ => true
  | _ => false

/-- A call of the runtime that returned. -/
def executeReturned : Sigma PortCall.Answer → Bool
  | ⟨.execute _, .ok _⟩ => true
  | _ => false

/-- The answer of the verifier, if it was asked. -/
def verifierAnswer : Sigma PortCall.Answer → Option (Except PortError VerificationResult)
  | ⟨.verify _, answer⟩ => some answer
  | _ => none

/-- The answer of the policy to an action, if it was asked. -/
def policyAnswer : Sigma PortCall.Answer → Option (Except PortError PolicyAuthorization)
  | ⟨.authorizeAction _ _ _, answer⟩ => some answer
  | _ => none

/-- The verifier returned success on the last verification. -/
def LastSucceeded (h : LoopHistory) : Prop :=
  ∃ verification, (h.filterMap verifierAnswer).getLast? = some (.ok verification) ∧
    verification.disposition = .succeeded

/-- The policy required an approval in its last answer, and nothing was executed since. -/
def LastRequiresApproval (h : LoopHistory) : Prop :=
  ∃ pre x post policy approvalRef, h = pre ++ x :: post ∧ policyAnswer x = some (.ok policy) ∧
    policy.disposition = .requireApproval approvalRef ∧
    ∀ y ∈ post, isExecute y = false ∧ policyAnswer y = none

/-- What the report of a run says of its history. -/
structure Audited (L : BrowserLoop) (h : LoopHistory) (report : BrowserLoopReport) : Prop where
  events : report.events = acceptedEvents h
  numbered : report.events.map (·.sequence) = List.range' 1 report.events.length
  iterations : report.iterations ≤ L.config.maxIterations
  retries : report.retriesUsed ≤ L.config.maxRetries
  executions : h.countP isExecute ≤ report.iterations
  actions : report.actionsExecuted = h.countP executeReturned
  succeeded : report.status = .succeeded → LastSucceeded h
  awaiting : report.status = .awaitingApproval → LastRequiresApproval h

/-! ## The books -/

/-- What the run state says of the history, in an iteration and after some executions. -/
structure Books (L : BrowserLoop) (iterations executions : Nat) (s : RunState) (h : LoopHistory) :
    Prop where
  events : s.events = acceptedEvents h
  numbered : s.events.map (·.sequence) = List.range' 1 s.events.length
  retries : s.retriesUsed ≤ L.config.maxRetries
  actions : s.actionsExecuted = h.countP executeReturned
  iterations : s.iterations = iterations
  executions : h.countP isExecute = executions

/-- Every question may be asked. -/
abbrev anyQuestion : LoopHistory → PortCall → Prop := fun _ _ => True

variable {L : BrowserLoop} {run : BrowserLoopRunContext} {i e : Nat} {s : RunState}
  {h : LoopHistory}

/-- An answer that is no event and no execution leaves the books as they are. -/
theorem Books.answered (hb : Books L i e s h) {x : Sigma PortCall.Answer}
    (hevent : acceptedEvent x = none) (hexecute : isExecute x = false)
    (hreturned : executeReturned x = false) : Books L i e s (h ++ [x]) where
  events := by
    unfold acceptedEvents
    rw [List.filterMap_append, List.filterMap_cons_none hevent]
    simpa [acceptedEvents] using hb.events
  numbered := hb.numbered
  retries := hb.retries
  actions := by
    rw [List.countP_append, List.countP_singleton, hreturned]
    exact hb.actions
  iterations := hb.iterations
  executions := by
    rw [List.countP_append, List.countP_singleton, hexecute]
    exact hb.executions

/-- So do an event that is accepted and the state that takes it in. -/
theorem Books.accepted (hb : Books L i e s h) {event : BrowserLoopEvent}
    (hsequence : event.sequence = s.events.length + 1) :
    Books L i e { s with events := s.events ++ [event] } (h ++ [⟨.emit event, .ok ()⟩]) where
  events := by
    unfold acceptedEvents
    rw [List.filterMap_append, hb.events]
    rfl
  numbered := by
    simp only [List.map_append, List.map_cons, List.map_nil, List.length_append,
      List.length_cons, List.length_nil, hb.numbered, hsequence]
    rw [List.range'_concat]
    simp [Nat.add_comm]
  retries := hb.retries
  actions := by
    rw [List.countP_append]
    exact hb.actions
  iterations := hb.iterations
  executions := by
    rw [List.countP_append]
    exact hb.executions

/-! ## Events and reports -/

theorem emit_books {stage : EventStage} {code : String} {observationId fingerprint : Option String}
    {details : List (String × Json)} (hb : Books L i e s h) :
    Holds anyQuestion (emit run stage code observationId fingerprint details) s h
      fun r s' h' => Books L i e s' h' ∧ ∃ t event, h' = h ++ [⟨.now, t⟩, ⟨.emit event, r⟩] := by
  unfold emit
  rw [holds_bind, holds_ask]
  refine ⟨trivial, fun t => ?_⟩
  have hread : Books L i e s (h ++ [⟨.now, t⟩]) := hb.answered rfl rfl rfl
  rw [after_ok, holds_bind, holds_state, after_ok, holds_bind, holds_ask]
  refine ⟨trivial, fun accepted => ?_⟩
  rw [after_ok, holds_bind, holds_lift]
  cases accepted with
  | error e => exact ⟨hread.answered rfl rfl rfl, t, _, by rw [List.append_assoc]; rfl⟩
  | ok _ =>
      rw [after_ok, holds_change]
      exact ⟨hread.accepted rfl, t, _, by rw [List.append_assoc]; rfl⟩

/-- A last verdict stays the last while the verifier is not asked. -/
theorem LastSucceeded.append {more : LoopHistory} (hl : LastSucceeded h)
    (hmore : ∀ x ∈ more, verifierAnswer x = none) : LastSucceeded (h ++ more) := by
  obtain ⟨verification, hlast, hdisposition⟩ := hl
  refine ⟨verification, ?_, hdisposition⟩
  rw [List.filterMap_append, List.filterMap_eq_nil_iff.mpr hmore, List.append_nil]
  exact hlast

theorem LastRequiresApproval.append {more : LoopHistory} (hl : LastRequiresApproval h)
    (hmore : ∀ x ∈ more, isExecute x = false ∧ policyAnswer x = none) :
    LastRequiresApproval (h ++ more) := by
  obtain ⟨pre, x, post, policy, approvalRef, rfl, hx, hrequires, hpost⟩ := hl
  refine ⟨pre, x, post ++ more, policy, approvalRef, by simp, hx, hrequires, fun y hy => ?_⟩
  rcases List.mem_append.mp hy with hy | hy
  · exact hpost y hy
  · exact hmore y hy

/-- Ending a run leads to a report that is audited, whether the event is accepted or not. -/
theorem terminal_books {status : BrowserLoopStatus} {reasonCode : String}
    {approvalRef : Option String} {checkpoint : Option ExecutionCheckpoint}
    (hb : Books L i e s h) (hi : i ≤ L.config.maxIterations) (he : e ≤ i)
    (hsucceeded : status = .succeeded → LastSucceeded h)
    (hawaiting : status = .awaitingApproval → LastRequiresApproval h) :
    Holds anyQuestion (terminal run status reasonCode approvalRef checkpoint) s h
      fun r _ h' => ∃ report, r = .ok report ∧ Audited L h' report := by
  unfold terminal
  rw [holds_bind, holds_state, after_ok, holds_bind, holds_attempt]
  refine (emit_books hb).mono fun r s' h' hemitted => ?_
  obtain ⟨hb', t, event, rfl⟩ := hemitted
  have hquiet : ∀ x ∈ ([⟨.now, t⟩, ⟨.emit event, r⟩] : LoopHistory),
      isExecute x = false ∧ policyAnswer x = none ∧ verifierAnswer x = none := by
    intro x hx
    simp only [List.mem_cons, List.not_mem_nil, or_false] at hx
    rcases hx with rfl | rfl <;> exact ⟨rfl, rfl, rfl⟩
  have haudited : ∀ (final : BrowserLoopStatus) code, (final = .succeeded → status = .succeeded) →
      (final = .awaitingApproval → status = .awaitingApproval) →
      Audited L (h ++ [⟨.now, t⟩, ⟨.emit event, r⟩])
        (reportOf run s' final code approvalRef checkpoint) := by
    intro final code hfinal hfinal'
    refine ⟨hb'.events, hb'.numbered, ?_, hb'.retries, ?_, hb'.actions, fun hstatus => ?_,
      fun hstatus => ?_⟩
    · show s'.iterations ≤ _
      rw [hb'.iterations]
      exact hi
    · show _ ≤ s'.iterations
      rw [hb'.iterations, hb'.executions]
      exact he
    · exact (hsucceeded (hfinal hstatus)).append fun x hx => (hquiet x hx).2.2
    · exact (hawaiting (hfinal' hstatus)).append fun x hx => ⟨(hquiet x hx).1, (hquiet x hx).2.1⟩
  rw [after_ok, holds_bind, holds_state, after_ok]
  cases r with
  | ok _ => exact ⟨_, rfl, haudited status reasonCode id id⟩
  | error _ =>
      -- a rejected event leaves failed or unknown
      refine ⟨_, rfl, haudited (failureStatus s') _ (fun hstatus => ?_) (fun hstatus => ?_)⟩
      · unfold failureStatus at hstatus
        split at hstatus <;> cases hstatus
      · unfold failureStatus at hstatus
        split at hstatus <;> cases hstatus

/-- What an iteration comes to: an audited report, or books with at most one execution for each
iteration so far. -/
def BooksOutcome (L : BrowserLoop) (i : Nat) :
    Except PortError Progress → RunState → LoopHistory → Prop
  | .ok (.done report), _, h => Audited L h report
  | .ok (.next _), s, h => ∃ e, e ≤ i ∧ Books L i e s h
  | .error _, s, h => ∃ e, e ≤ i ∧ Books L i e s h

theorem done_books {status : BrowserLoopStatus} {reasonCode : String}
    {approvalRef : Option String} {checkpoint : Option ExecutionCheckpoint}
    (hb : Books L i e s h) (hi : i ≤ L.config.maxIterations) (he : e ≤ i)
    (hsucceeded : status = .succeeded → LastSucceeded h)
    (hawaiting : status = .awaitingApproval → LastRequiresApproval h) :
    Holds anyQuestion (do
      let report ← terminal run status reasonCode approvalRef checkpoint
      pure (.done report)) s h (BooksOutcome L i) := by
  refine (terminal_books hb hi he hsucceeded hawaiting).bind (fun report s' h' hended => ?_)
    (fun e s' h' hended => ?_)
  · obtain ⟨report', hreport, haudited⟩ := hended
    cases hreport
    exact haudited
  · obtain ⟨report', hreport, _⟩ := hended
    cases hreport

/-- Ending a run otherwise than with success or for an approval. -/
theorem finish_books {status : BrowserLoopStatus} {reasonCode : String} (hb : Books L i e s h)
    (hi : i ≤ L.config.maxIterations) (he : e ≤ i)
    (hstatus : status = .failed ∨ status = .unknown) :
    Holds anyQuestion (finish run status reasonCode) s h (BooksOutcome L i) := by
  refine done_books hb hi he (fun hs => ?_) (fun hs => ?_)
  · rw [hs] at hstatus
    rcases hstatus with hstatus | hstatus <;> cases hstatus
  · rw [hs] at hstatus
    rcases hstatus with hstatus | hstatus <;> cases hstatus

/-! ## Observing, deciding, verifying -/

theorem observe_books (hb : Books L i e s h) :
    Holds anyQuestion (L.observe run) s h fun _ s' h' => Books L i e s' h' := by
  unfold observe
  rw [holds_bind, holds_ask]
  refine ⟨trivial, fun answer => ?_⟩
  have hasked : Books L i e s (h ++ [⟨.observe, answer⟩]) := hb.answered rfl rfl rfl
  rw [after_ok, holds_bind, holds_lift]
  cases answer with
  | error e => exact hasked
  | ok raw =>
      simp only [after_ok, holds_bind, holds_change, holds_state]
      have hstored : Books L i e { s with
          observations := s.observations + 1
          lastObservationId := some (L.bindObservation raw (s.observations + 1)).observationId }
          (h ++ [⟨.observe, .ok raw⟩]) :=
        ⟨hasked.events, hasked.numbered, hasked.retries, hasked.actions, hasked.iterations,
          hasked.executions⟩
      refine (emit_books hstored).mono fun r s' h' hemitted => ?_
      cases r with
      | ok _ => exact hemitted.1
      | error _ => exact hemitted.1

theorem consumeRetry_books (hb : Books L i e s h) :
    Holds anyQuestion L.consumeRetry s h fun r s' h' => (∃ b, r = .ok b) ∧ Books L i e s' h' := by
  unfold consumeRetry
  rw [holds_bind, holds_state, after_ok]
  split
  case isTrue => exact ⟨⟨_, rfl⟩, hb⟩
  case isFalse hleft =>
    exact ⟨⟨_, rfl⟩, hb.events, hb.numbered, Nat.lt_of_not_le hleft, hb.actions, hb.iterations,
      hb.executions⟩

theorem retryReobserve_books (hb : Books L i e s h) :
    Holds anyQuestion (L.retryReobserve run) s h
      fun r s' h' => (∃ found, r = .ok found) ∧ Books L i e s' h' := by
  unfold retryReobserve
  refine (consumeRetry_books hb).bind (fun granted s₁ h₁ hretry => ?_) (fun e s₁ h₁ hretry => ?_)
  · cases granted with
    | false => exact ⟨⟨_, rfl⟩, hretry.2⟩
    | true =>
        simp only [if_true, holds_bind, holds_attempt]
        refine (observe_books hretry.2).mono fun r s₂ h₂ hb₂ => ?_
        cases r with
        | ok observation => exact ⟨⟨_, rfl⟩, hb₂⟩
        | error e => exact ⟨⟨_, rfl⟩, hb₂⟩
  · obtain ⟨⟨b, hb⟩, _⟩ := hretry
    cases hb

theorem reobserveOrFail_books (hb : Books L i e s h) (hi : i ≤ L.config.maxIterations)
    (he : e ≤ i) : Holds anyQuestion (L.reobserveOrFail run) s h (BooksOutcome L i) := by
  unfold reobserveOrFail
  refine (retryReobserve_books hb).bind (fun found s' h' hretry => ?_) (fun e s' h' hretry => ?_)
  · cases found with
    | none => exact finish_books hretry.2 hi he (.inl rfl)
    | some refreshed => exact ⟨_, he, hretry.2⟩
  · obtain ⟨⟨found, hfound⟩, _⟩ := hretry
    cases hfound

/-- A verification keeps the books, and a success it returns is the verifier's last answer. -/
theorem verify_books {before after : BrowserObservation} {decision : ActionDecision}
    {source : DecisionSource} {actionResult : Option BrowserActionResult}
    {effect : Option ExecutionEffect} {fingerprint : Option String} (hb : Books L i e s h) :
    Holds anyQuestion
      (verify run before after decision source actionResult effect fingerprint) s h
      fun r s' h' => Books L i e s' h' ∧
        ∀ verification, r = .ok verification → verification.disposition = .succeeded →
          LastSucceeded h' := by
  unfold verify
  rw [holds_bind, holds_ask]
  refine ⟨trivial, fun answer => ?_⟩
  generalize hrequest : (⟨run, before, after, decision, source, actionResult, effect⟩ :
    VerificationRequest) = request
  have hasked : Books L i e s (h ++ [⟨.verify request, answer⟩]) := hb.answered rfl rfl rfl
  rw [after_ok]
  refine (emit_books hasked).bind (fun u s' h' hemitted => ?_) (fun e s' h' hemitted => ?_)
  · obtain ⟨hb', t, event, rfl⟩ := hemitted
    refine ⟨hb', fun verification hr hdisposition => ?_⟩
    cases hr
    cases answer with
    | error e => cases hdisposition
    | ok result =>
        have hlast : LastSucceeded (h ++ [⟨.verify request, .ok result⟩]) :=
          ⟨result, by rw [List.filterMap_append]; exact List.getLast?_concat, hdisposition⟩
        refine hlast.append fun x hx => ?_
        simp only [List.mem_cons, List.not_mem_nil, or_false] at hx
        rcases hx with rfl | rfl <;> rfl
  · exact ⟨hemitted.1, fun _ hr => by cases hr⟩

/-- A verdict that ends a run with success is the verifier's. -/
theorem verdictStatus_succeeded {v : VerificationDisposition}
    (h : verdictStatus v = some .succeeded) : v = .succeeded := by
  cases v <;> first | rfl | cases h

theorem verdictStatus_not_awaiting {v : VerificationDisposition} :
    verdictStatus v ≠ some .awaitingApproval := by
  cases v <;> exact fun h => by cases h

/-- A run may end with the verdict that was just given. -/
theorem verdict_books {verification : VerificationResult} {status : BrowserLoopStatus}
    {reasonCode : String} (hb : Books L i e s h) (hi : i ≤ L.config.maxIterations) (he : e ≤ i)
    (hlast : verification.disposition = .succeeded → LastSucceeded h)
    (hstatus : verdictStatus verification.disposition = some status) :
    Holds anyQuestion (finish run status reasonCode) s h (BooksOutcome L i) := by
  refine done_books hb hi he (fun hs => ?_) (fun hs => ?_)
  · rw [hs] at hstatus
    exact hlast (verdictStatus_succeeded hstatus)
  · rw [hs] at hstatus
    exact absurd hstatus verdictStatus_not_awaiting

theorem confirmSuccess_books {observation : BrowserObservation} {decision : ActionDecision}
    {source : DecisionSource} (hb : Books L i e s h) (hi : i ≤ L.config.maxIterations)
    (he : e ≤ i) :
    Holds anyQuestion (L.confirmSuccess run observation decision source) s h
      (BooksOutcome L i) := by
  unfold confirmSuccess
  refine (verify_books hb).bind (fun verification s₁ h₁ hv => ?_) (fun e s₁ h₁ hv => ?_)
  · cases hstatus : verdictStatus verification.disposition with
    | some status => exact verdict_books hv.1 hi he (hv.2 verification rfl) hstatus
    | none =>
        dsimp only
        split
        · exact reobserveOrFail_books hv.1 hi he
        · rw [holds_bind, holds_attempt]
          refine (observe_books hv.1).mono fun r s₂ h₂ hb₂ => ?_
          cases r with
          | ok refreshed => exact ⟨_, he, hb₂⟩
          | error e => exact finish_books hb₂ hi he (.inl rfl)
  · exact ⟨_, he, hv.1⟩

theorem decideByModel_books {observation : BrowserObservation} (hb : Books L i e s h) :
    Holds anyQuestion (decideByModel observation) s h fun _ s' h' => Books L i e s' h' := by
  unfold decideByModel
  rw [holds_bind, holds_ask]
  refine ⟨trivial, fun prepared => ?_⟩
  have hprepared : Books L i e s (h ++ [⟨.prepareModelInput observation, prepared⟩]) :=
    hb.answered rfl rfl rfl
  rw [after_ok, holds_bind, holds_lift]
  cases prepared with
  | error e => exact hprepared
  | ok input =>
      rw [after_ok, holds_bind, holds_lift]
      cases compareDigest input.observationId observation.observationId with
      | error e => exact hprepared
      | ok same =>
          cases same with
          | false => exact hprepared
          | true =>
              simp only [Except.mapError, after_ok, if_true, holds_bind, holds_ask]
              refine ⟨trivial, fun answer => ?_⟩
              have hanswered : Books L i e s (h ++ [⟨.prepareModelInput observation, .ok input⟩] ++
                  [⟨.decide input, answer⟩]) := hprepared.answered rfl rfl rfl
              rw [holds_lift]
              cases answer with
              | error e => exact hanswered
              | ok decision => exact hanswered

theorem decide_books {observation : BrowserObservation} (hb : Books L i e s h) :
    Holds anyQuestion (L.decide run observation) s h fun _ s' h' => Books L i e s' h' := by
  unfold decide
  split
  · rw [holds_bind, holds_ask]
    refine ⟨trivial, fun answer => ?_⟩
    have hasked : Books L i e s (h ++ [⟨.domainDecide observation, answer⟩]) :=
      hb.answered rfl rfl rfl
    rw [after_ok, holds_bind, holds_lift]
    cases answer with
    | error e => exact hasked
    | ok deterministic =>
        cases deterministic with
        | some decision => exact hasked
        | none => exact decideByModel_books hasked
  · exact decideByModel_books hb

/-! ## Acting -/

/-- A call of the runtime that raised is one more execution. -/
theorem Books.raised (hb : Books L i e s h) {command : AuthorizedAction} {error : PortError} :
    Books L i (e + 1) s (h ++ [executed command (.error error)]) where
  events := by
    unfold acceptedEvents
    rw [List.filterMap_append]
    exact hb.events.trans (List.append_nil _).symm
  numbered := hb.numbered
  retries := hb.retries
  actions := by
    rw [List.countP_append]
    exact hb.actions
  iterations := hb.iterations
  executions := by
    rw [List.countP_append, hb.executions]
    rfl

/-- A call that returned is counted as well. -/
theorem recordResult_books {command : AuthorizedAction} {actionResult : BrowserActionResult}
    (hb : Books L i e s h) :
    Holds anyQuestion (recordResult command actionResult) s
      (h ++ [executed command (.ok actionResult)]) fun r s' h' =>
        r = .ok () ∧ Books L i (e + 1) s' h' := by
  have hevents : s.events = acceptedEvents (h ++ [executed command (.ok actionResult)]) := by
    unfold acceptedEvents
    rw [List.filterMap_append]
    exact hb.events.trans (List.append_nil _).symm
  have hactions : s.actionsExecuted + 1 =
      (h ++ [executed command (.ok actionResult)]).countP executeReturned := by
    rw [List.countP_append, hb.actions]
    rfl
  have hexecutions : (h ++ [executed command (.ok actionResult)]).countP isExecute = e + 1 := by
    rw [List.countP_append, hb.executions]
    rfl
  unfold recordResult
  rw [holds_bind, holds_change, after_ok]
  split
  · exact ⟨rfl, hevents, hb.numbered, hb.retries, hactions, hb.iterations, hexecutions⟩
  · exact ⟨rfl, hevents, hb.numbered, hb.retries, hactions, hb.iterations, hexecutions⟩

theorem suspendOnProbe_books {observation : BrowserObservation} {decision : ActionDecision}
    {source : DecisionSource} {command : AuthorizedAction} {actionResult : BrowserActionResult}
    (hb : Books L i e s h) (hi : i ≤ L.config.maxIterations) (he : e ≤ i) :
    Holds anyQuestion (suspendOnProbe run observation decision source command actionResult) s h
      (BooksOutcome L i) := by
  unfold suspendOnProbe
  rw [holds_bind, holds_change, after_ok]
  have hflagged : Books L i e { s with effectMayHaveStarted := true } h :=
    ⟨hb.events, hb.numbered, hb.retries, hb.actions, hb.iterations, hb.executions⟩
  refine (verify_books hflagged).bind (fun verification s₁ h₁ hv => ?_) (fun e s₁ h₁ hv => ?_)
  · exact done_books hv.1 hi he (fun hs => by cases hs) (fun hs => by cases hs)
  · exact ⟨_, he, hv.1⟩

theorem judge_books {observation : BrowserObservation} {decision : ActionDecision}
    {source : DecisionSource} {command : AuthorizedAction} {actionResult : BrowserActionResult}
    (hb : Books L i e s h) (hi : i ≤ L.config.maxIterations) (he : e ≤ i) :
    Holds anyQuestion (L.judge run observation decision source command actionResult) s h
      (BooksOutcome L i) := by
  unfold judge
  rw [holds_bind, holds_attempt]
  refine (observe_books hb).mono fun r s₁ h₁ hb₁ => ?_
  cases r with
  | error e =>
      rw [after_ok]
      refine finish_books hb₁ hi he ?_
      cases isWrite command.authorization.effect with
      | true => exact .inr rfl
      | false => exact .inl rfl
  | ok after =>
      rw [after_ok]
      refine (verify_books hb₁).bind (fun verification s₂ h₂ hv => ?_) (fun e s₂ h₂ hv => ?_)
      · cases hstatus : verdictStatus verification.disposition with
        | some status => exact verdict_books hv.1 hi he (hv.2 verification rfl) hstatus
        | none =>
            dsimp only
            split
            case isTrue hretry =>
              split
              case isTrue hwrite => exact finish_books hv.1 hi he (.inr rfl)
              case isFalse hread =>
                refine (consumeRetry_books hv.1).bind (fun granted s₃ h₃ hc => ?_)
                  (fun e s₃ h₃ hc => ?_)
                · cases granted with
                  | true => exact ⟨_, he, hc.2⟩
                  | false => exact finish_books hc.2 hi he (.inl rfl)
                · obtain ⟨⟨b, hb⟩, _⟩ := hc
                  cases hb
            case isFalse hcontinue => exact ⟨_, he, hv.1⟩
      · exact ⟨_, he, hv.1⟩

theorem settle_books {observation : BrowserObservation} {decision : ActionDecision}
    {source : DecisionSource} {command : AuthorizedAction} {actionResult : BrowserActionResult}
    (hb : Books L i e s h) (hi : i ≤ L.config.maxIterations) (he : e < i) :
    Holds anyQuestion (L.settle run observation decision source command actionResult) s
      (h ++ [executed command (.ok actionResult)]) (BooksOutcome L i) := by
  unfold settle
  refine (recordResult_books hb).bind (fun u s₁ h₁ hrecorded => ?_) (fun e s₁ h₁ hrecorded => ?_)
  · refine (emit_books hrecorded.2).bind (fun u s₂ h₂ hemitted => ?_)
      (fun e s₂ h₂ hemitted => ?_)
    · split
      · exact suspendOnProbe_books hemitted.1 hi he
      · exact judge_books hemitted.1 hi he
    · exact ⟨_, he, hemitted.1⟩
  · cases hrecorded.1

theorem dispatch_books {observation : BrowserObservation} {decision : ActionDecision}
    {source : DecisionSource} {command : AuthorizedAction} (hb : Books L i e s h)
    (hi : i ≤ L.config.maxIterations) (he : e < i) :
    Holds anyQuestion (L.dispatch run observation decision source command) s h
      (BooksOutcome L i) := by
  unfold dispatch
  refine (emit_books hb).bind (fun u s₁ h₁ hemitted => ?_) (fun e s₁ h₁ hemitted => ?_)
  · rw [holds_bind, holds_change, after_ok, holds_bind, holds_ask]
    refine ⟨trivial, fun answer => ?_⟩
    have hstarted : Books L i e { s₁ with lastEffect := command.authorization.effect } h₁ :=
      ⟨hemitted.1.events, hemitted.1.numbered, hemitted.1.retries, hemitted.1.actions,
        hemitted.1.iterations, hemitted.1.executions⟩
    rw [after_ok]
    cases answer with
    | ok actionResult => exact settle_books hstarted hi he
    | error error =>
        have hraised : Books L i (e + 1) { s₁ with lastEffect := command.authorization.effect }
            (h₁ ++ [executed command (.error error)]) := hstarted.raised
        cases error with
        | stale => exact reobserveOrFail_books hraised hi he
        | runtime started =>
            dsimp only
            split
            · exact finish_books hraised hi he (.inr rfl)
            · exact reobserveOrFail_books hraised hi he
        | other raised =>
            dsimp only
            split
            · exact finish_books hraised hi he (.inr rfl)
            · exact finish_books hraised hi he (.inl rfl)
  · exact ⟨_, (Nat.le_of_lt he), hemitted.1⟩

theorem actOn_books {observation : BrowserObservation} {decision : ActionDecision}
    {source : DecisionSource} {action : BrowserAction} (hb : Books L i e s h)
    (hi : i ≤ L.config.maxIterations) (he : e < i) :
    Holds anyQuestion (L.actOn run observation decision source action) s h
      (BooksOutcome L i) := by
  unfold actOn
  rw [holds_bind, holds_ask]
  refine ⟨trivial, fun answer => ?_⟩
  have hasked := hb.answered (x := ⟨.authorizeAction observation action
    (L.fingerprint run action observation), answer⟩) rfl rfl rfl
  rw [after_ok]
  cases answer with
  | error e => exact finish_books hasked hi (Nat.le_of_lt he) (.inl rfl)
  | ok policy =>
      refine (emit_books hasked).bind (fun u s₁ h₁ hemitted => ?_) (fun e s₁ h₁ hemitted => ?_)
      · obtain ⟨hb₁, t, event, rfl⟩ := hemitted
        cases hdisposition : policy.disposition with
        | deny => exact finish_books hb₁ hi (Nat.le_of_lt he) (.inl rfl)
        | requireApproval approvalRef =>
            refine done_books hb₁ hi (Nat.le_of_lt he) (fun hs => by cases hs) fun _ => ?_
            refine ⟨h, ⟨.authorizeAction observation action
              (L.fingerprint run action observation), .ok policy⟩,
              [⟨.now, t⟩, ⟨.emit event, .ok u⟩], policy, approvalRef, ?_, rfl, hdisposition,
              fun y hy => ?_⟩
            · rw [List.append_assoc]
              rfl
            · simp only [List.mem_cons, List.not_mem_nil, or_false] at hy
              rcases hy with rfl | rfl <;> exact ⟨rfl, rfl⟩
        | reobserve => exact reobserveOrFail_books hb₁ hi (Nat.le_of_lt he)
        | allow authorization profile =>
            dsimp only
            split
            case h_1 exc _ =>
              split
              · exact finish_books hb₁ hi (Nat.le_of_lt he) (.inl rfl)
              · exact ⟨_, (Nat.le_of_lt he), hb₁⟩
            case h_2 command _ =>
              rw [holds_bind, holds_ask]
              refine ⟨trivial, fun now => ?_⟩
              have hread := hb₁.answered (x := ⟨.now, now⟩) rfl rfl rfl
              rw [after_ok]
              split
              · exact reobserveOrFail_books hread hi (Nat.le_of_lt he)
              · exact dispatch_books hread hi he
      · exact ⟨_, (Nat.le_of_lt he), hemitted.1⟩

/-- One iteration executes at most once. -/
theorem iterate_books {observation : BrowserObservation} (hb : Books L i e s h)
    (hi : i ≤ L.config.maxIterations) (he : e < i) :
    Holds anyQuestion (L.iterate run observation) s h (BooksOutcome L i) := by
  unfold iterate
  rw [holds_bind, holds_attempt]
  refine (decide_books hb).mono fun r s₁ h₁ hb₁ => ?_
  rw [after_ok]
  cases r with
  | error e => exact finish_books hb₁ hi (Nat.le_of_lt he) (.inl rfl)
  | ok decided =>
      obtain ⟨decision, source⟩ := decided
      dsimp only
      rw [holds_bind, holds_lift]
      cases compareDigest decision.observationId observation.observationId with
      | error e => exact ⟨_, (Nat.le_of_lt he), hb₁⟩
      | ok same =>
          cases same with
          | false => exact finish_books hb₁ hi (Nat.le_of_lt he) (.inl rfl)
          | true =>
              simp only [Except.mapError, after_ok, if_true]
              refine (emit_books hb₁).bind (fun u s₂ h₂ hemitted => ?_)
                (fun e s₂ h₂ hemitted => ?_)
              · cases decision.decided with
                | failure => exact finish_books hemitted.1 hi (Nat.le_of_lt he) (.inl rfl)
                | success => exact confirmSuccess_books hemitted.1 hi (Nat.le_of_lt he)
                | action action => exact actOn_books hemitted.1 hi he
              · exact ⟨_, (Nat.le_of_lt he), hemitted.1⟩

/-! ## The run -/

/-- What a run that is not caught yet comes to. -/
def RunBooks (L : BrowserLoop) : Except PortError BrowserLoopReport → RunState → LoopHistory → Prop
  | .ok report, _, h => Audited L h report
  | .error _, s, h => ∃ i e, i ≤ L.config.maxIterations ∧ e ≤ i ∧ Books L i e s h

/-- By induction on the iterations that are left. -/
theorem iterations_books {left : Nat} {observation : BrowserObservation} (hb : Books L i e s h)
    (he : e ≤ i) (hleft : i + left = L.config.maxIterations) :
    Holds anyQuestion (L.iterations run left observation) s h (RunBooks L) := by
  induction left generalizing i e s h observation with
  | zero =>
      have hi : i ≤ L.config.maxIterations := by omega
      refine (terminal_books hb hi he (fun hs => by cases hs) (fun hs => by cases hs)).mono
        fun r s' h' hended => ?_
      obtain ⟨report, rfl, haudited⟩ := hended
      exact haudited
  | succ left ih =>
      unfold iterations
      rw [holds_bind, holds_change, after_ok]
      have hi : i + 1 ≤ L.config.maxIterations := by omega
      have hnext : Books L (i + 1) e { s with iterations := s.iterations + 1 } h :=
        ⟨hb.events, hb.numbered, hb.retries, hb.actions, congrArg (· + 1) hb.iterations,
          hb.executions⟩
      refine (iterate_books hnext hi (Nat.lt_succ_of_le he)).bind
        (fun progress s' h' hprogress => ?_) (fun error s' h' hraised => ?_)
      · cases progress with
        | done report => exact hprogress
        | next refreshed =>
            obtain ⟨e', he', hb'⟩ := hprogress
            exact ih hb' he' (by omega)
      · obtain ⟨e', he', hb'⟩ := hraised
        exact ⟨i + 1, e', hi, he', hb'⟩

theorem Books.initial (L : BrowserLoop) : Books L 0 0 .initial [] :=
  ⟨rfl, rfl, Nat.zero_le _, rfl, rfl, rfl⟩

theorem runUncaught_books :
    Holds anyQuestion (L.runUncaught run) .initial [] (RunBooks L) := by
  unfold runUncaught
  rw [holds_bind, holds_attempt]
  refine (observe_books (.initial L)).mono fun r s h hb => ?_
  rw [after_ok]
  cases r with
  | error e =>
      refine (terminal_books hb (Nat.zero_le _) (Nat.le_refl _) (fun hs => by cases hs)
        (fun hs => by cases hs)).mono fun r s' h' hended => ?_
      obtain ⟨report, rfl, haudited⟩ := hended
      exact haudited
  | ok observation => exact iterations_books hb (Nat.le_refl _) (Nat.zero_add _)

theorem runLoop_books :
    Holds anyQuestion (L.runLoop run) .initial []
      fun r _ h => ∃ report, r = .ok report ∧ Audited L h report := by
  unfold runLoop
  rw [holds_bind, holds_attempt]
  refine runUncaught_books.mono fun r s h hr => ?_
  rw [after_ok]
  cases r with
  | ok report => exact ⟨report, rfl, hr⟩
  | error error =>
      obtain ⟨i, e, hi, he, hb⟩ := hr
      rw [holds_bind, holds_state, after_ok]
      refine terminal_books hb hi he (fun hs => ?_) (fun hs => ?_)
      · unfold failureStatus at hs
        split at hs <;> cases hs
      · unfold failureStatus at hs
        split at hs <;> cases hs

/-- Whatever the ports answer and raise, seeing all that happened before, a run returns a report,
and the report is audited. -/
theorem run_returns_audited (L : BrowserLoop) (run : BrowserLoopRunContext)
    (ports : LoopHistory → (c : PortCall) → c.Answer) :
    ∃ report, (Dialogue.play ports (L.runLoop run .initial) []).2.1 = .ok report ∧
      Audited L (Dialogue.play ports (L.runLoop run .initial) []).1 report := by
  have hwalk := Dialogue.walk_play ports (L.runLoop run .initial) []
  have hends := Dialogue.Holds.ret_of_walk runLoop_books hwalk
  rwa [List.nil_append] at hends

end BrowserLoop

end AgentPact
