import AgentPact.BrowserLoop.LoopHistory

/-!
# Safety of the browser loop

One invariant carries both properties of the loop.  At the head of an
iteration, every uncertain execution so far was continued by the verifier, the
flag of the run state says whether a write returned that its effect may have
started, and the observation in hand is the last one captured (`Head`).

`Guarantee` is what holds at each question: a call of `execute` is authorised
for what was just observed (`Authorised`), and no uncertain execution before it
is unresolved.  `Outcome` is what holds at the end.  `iterate_holds` proves one
iteration, `iterations_holds` all of them by induction on the iterations left,
and `runLoop_holds` the run.

The property of the report fails for some answers of the event sink.  `Reported`
says exactly when it holds.
-/

namespace AgentPact

open Base Session

namespace BrowserLoop

variable (L : BrowserLoop) (run : BrowserLoopRunContext)

/-! ## What holds when the runtime is called -/

/-- The observation is the last one captured. -/
def LastObserved (h : LoopHistory) (observation : BrowserObservation) : Prop :=
  ∃ pre raw post sequence, h = pre ++ ⟨.observe, .ok raw⟩ :: post ∧
    observation = L.bindObservation raw sequence ∧ ∀ x ∈ post, x.1 ≠ .observe

/-- The answered question that brought a decision on an observation. -/
def DecidedBy (observation : BrowserObservation) (decision : ActionDecision)
    (x : Sigma PortCall.Answer) : Prop :=
  x = ⟨.domainDecide observation, .ok (some decision)⟩ ∨
    ∃ input, input.observationId = observation.observationId ∧
      x = ⟨.decide input, .ok decision⟩

/-- The command is authorised, in this iteration, for what was just observed. -/
structure Authorised (h : LoopHistory) (command : AuthorizedAction)
    (observation : BrowserObservation) (decision : ActionDecision)
    (policy : PolicyAuthorization) (now : DateTime) (started : BrowserLoopEvent) : Prop where
  /-- From the decision to the accepted start event, nothing else was asked. -/
  asked : ∃ before x t₁ t₂ t₃ decisionEvent policyEvent,
    DecidedBy observation decision x ∧
    h = before ++ [x, ⟨.now, t₁⟩, ⟨.emit decisionEvent, .ok ()⟩,
      ⟨.authorizeAction observation command.action command.actionFingerprint, .ok policy⟩,
      ⟨.now, t₂⟩, ⟨.emit policyEvent, .ok ()⟩, ⟨.now, now⟩,
      ⟨.now, t₃⟩, ⟨.emit started, .ok ()⟩]
  decided : decision.decided = .action command.action
  observed : L.LastObserved h observation
  allowed : policy.disposition = .allow command.authorization command.executionProfile
  sameFingerprint : command.authorization.actionFingerprint = command.actionFingerprint
  sameObservation : command.authorization.observationHash = command.observationId
  fingerprint : command.actionFingerprint = L.fingerprint run command.action observation
  observationId : command.observationId = observation.observationId
  snapshot : command.expectedSnapshotHash = observation.snapshotHash
  profile : (decideProfile command.authorization.effect command.executionProfile).allowed = true
  fresh : (((now.asUtc.micros - observation.capturedAt.asUtc.micros : Int) : Rat) / 1000000 ≤
    L.config.maxObservationAgeSeconds)
  startedCode : started.code = "ACTION_STARTED" ∧
    started.actionFingerprint = some command.actionFingerprint

/-- What holds at each question. -/
def Guarantee (h : LoopHistory) : PortCall → Prop
  | .execute command => (∃ observation decision policy now started,
      L.Authorised run h command observation decision policy now started) ∧ Continued h
  | _ => True

/-! ## What holds in between -/

/-- Nothing uncertain is unresolved, and the flag is as the answers say. -/
structure Calm (s : RunState) (h : LoopHistory) : Prop where
  continued : Continued h
  flag : s.effectMayHaveStarted = true ↔ Flagged h

/-- What holds at the head of an iteration. -/
structure Head (s : RunState) (h : LoopHistory) (observation : BrowserObservation) : Prop where
  calm : Calm s h
  observed : L.LastObserved h observation

/-- The report says unknown for an open execution, exactly when the first event after it was
accepted or a write had returned that its effect may have started. -/
def Reported (h : LoopHistory) (status : BrowserLoopStatus) : Prop :=
  (∀ pre command answer post, OpenAt h pre command answer post → status = .unknown) ↔
    ∀ pre command answer post, OpenAt h pre command answer post →
      Flagged (pre ++ [executed command answer]) ∨ firstEmit post = some true

/-- What holds when the loop raised: the flag will decide the status. -/
def LoopRaised (s : RunState) (h : LoopHistory) : Prop :=
  Closed h ∨ ∃ pre command answer post, OpenAt h pre command answer post ∧ Closed pre ∧
    NoExecute post ∧ (firstEmit post).isSome = true ∧
    (s.effectMayHaveStarted = true ↔
      Flagged (pre ++ [executed command answer]) ∨ firstEmit post = some true)

/-- What holds at the end of a run that is not caught yet. -/
def Outcome : Except PortError BrowserLoopReport → RunState → LoopHistory → Prop
  | .ok report, _, h => Reported h report.status
  | .error _, s, h => LoopRaised s h

/-- What holds at the end of an iteration. -/
def IterationOutcome : Except PortError Progress → RunState → LoopHistory → Prop
  | .ok (.done report), _, h => Reported h report.status
  | .ok (.next observation), s, h => L.Head s h observation
  | .error _, s, h => LoopRaised s h

/-- A stretch of the run that executes nothing and leaves the flag alone. -/
def Quietly (s : RunState) (h : LoopHistory) (s' : RunState) (h' : LoopHistory) : Prop :=
  ∃ more, h' = h ++ more ∧ NoExecute more ∧ s'.effectMayHaveStarted = s.effectMayHaveStarted

variable {L run}

theorem Quietly.of_flag {s s' : RunState} {h : LoopHistory}
    (hflag : s'.effectMayHaveStarted = s.effectMayHaveStarted) : Quietly s h s' h :=
  ⟨[], by simp, fun _ _ hmem => by simp at hmem, hflag⟩

theorem Quietly.of_append {s : RunState} {h more : LoopHistory} (hmore : NoExecute more) :
    Quietly s h s (h ++ more) := ⟨more, rfl, hmore, rfl⟩

theorem Quietly.flag {s s' : RunState} {h h' : LoopHistory} (hq : Quietly s h s' h') :
    s'.effectMayHaveStarted = s.effectMayHaveStarted := by
  obtain ⟨_, _, _, hflag⟩ := hq
  exact hflag

theorem Quietly.trans {s s' s'' : RunState} {h h' h'' : LoopHistory} (hq : Quietly s h s' h')
    (hq' : Quietly s' h' s'' h'') : Quietly s h s'' h'' := by
  obtain ⟨more, rfl, hmore, hflag⟩ := hq
  obtain ⟨more', rfl, hmore', hflag'⟩ := hq'
  exact ⟨more ++ more', by simp, noExecute_append.mpr ⟨hmore, hmore'⟩, hflag'.trans hflag⟩

theorem Calm.quietly {s s' : RunState} {h h' : LoopHistory} (hc : Calm s h)
    (hq : Quietly s h s' h') : Calm s' h' := by
  obtain ⟨more, rfl, hmore, hflag⟩ := hq
  exact ⟨hc.continued.append hmore, by rw [hflag, flagged_append_of_noExecute hmore]; exact hc.flag⟩

theorem Calm.raised {s : RunState} {h : LoopHistory} (hc : Calm s h) : LoopRaised s h :=
  .inl hc.continued.closed

theorem Reported.of_closed {h : LoopHistory} {status : BrowserLoopStatus} (hc : Closed h) :
    Reported h status :=
  ⟨fun _ pre command answer post hopen => absurd hopen (hc pre command answer post),
    fun _ pre command answer post hopen => absurd hopen (hc pre command answer post)⟩

/-- The report after one execution that was the last. -/
theorem Reported.after {h post : LoopHistory} {command : AuthorizedAction}
    {answer : Except PortError BrowserActionResult} {status : BrowserLoopStatus}
    (hpre : Closed h) (hpost : NoExecute post)
    (hstatus : uncertain command answer = true → ¬ Disposed command answer post →
      (status = .unknown ↔
        Flagged (h ++ [executed command answer]) ∨ firstEmit post = some true)) :
    Reported (h ++ executed command answer :: post) status := by
  by_cases hopen : uncertain command answer = true ∧ ¬ Disposed command answer post
  · have hat : OpenAt (h ++ executed command answer :: post) h command answer post :=
      ⟨rfl, hopen.1, hopen.2⟩
    constructor
    · intro hunknown pre command' answer' post' hopen'
      obtain ⟨rfl, rfl, rfl, rfl⟩ := hat.unique hpre hpost hopen'
      exact (hstatus hopen.1 hopen.2).mp (hunknown _ _ _ _ hat)
    · intro hsaid pre command' answer' post' _
      exact (hstatus hopen.1 hopen.2).mpr (hsaid _ _ _ _ hat)
  · refine .of_closed (hpre.execute hpost fun huncertain => ?_)
    by_contra hundisposed
    exact hopen ⟨huncertain, hundisposed⟩

/-- The raise after one execution that was the last. -/
theorem LoopRaised.after {s : RunState} {h post : LoopHistory} {command : AuthorizedAction}
    {answer : Except PortError BrowserActionResult} (hpre : Closed h) (hpost : NoExecute post)
    (hflag : uncertain command answer = true → ¬ Disposed command answer post →
      (firstEmit post).isSome = true ∧ (s.effectMayHaveStarted = true ↔
        Flagged (h ++ [executed command answer]) ∨ firstEmit post = some true)) :
    LoopRaised s (h ++ executed command answer :: post) := by
  by_cases hopen : uncertain command answer = true ∧ ¬ Disposed command answer post
  · obtain ⟨hsome, hiff⟩ := hflag hopen.1 hopen.2
    exact .inr ⟨h, command, answer, post, ⟨rfl, hopen.1, hopen.2⟩, hpre, hpost, hsome, hiff⟩
  · refine .inl (hpre.execute hpost fun huncertain => ?_)
    by_contra hundisposed
    exact hopen ⟨huncertain, hundisposed⟩

theorem LastObserved.append {h more : LoopHistory} {observation : BrowserObservation}
    (hobs : L.LastObserved h observation) (hmore : ∀ x ∈ more, x.1 ≠ .observe) :
    L.LastObserved (h ++ more) observation := by
  obtain ⟨pre, raw, post, sequence, rfl, hbind, hpost⟩ := hobs
  refine ⟨pre, raw, post ++ more, sequence, by simp, hbind, fun x hx => ?_⟩
  rcases List.mem_append.mp hx with hx | hx
  · exact hpost x hx
  · exact hmore x hx

/-! ## Events and reports -/

/-- What emitting an event comes to. -/
structure Emitted (code : String) (fingerprint : Option String) (s : RunState) (h : LoopHistory)
    (r : Except PortError Unit) (s' : RunState) (h' : LoopHistory) : Prop where
  asked : ∃ t event, event.code = code ∧ event.actionFingerprint = fingerprint ∧
    h' = h ++ [⟨.now, t⟩, ⟨.emit event, r⟩]
  flag : s'.effectMayHaveStarted = s.effectMayHaveStarted

/-- Reading the clock and offering an event execute nothing. -/
theorem noExecute_emit (t : DateTime) (event : BrowserLoopEvent) (r : Except PortError Unit) :
    NoExecute [⟨.now, t⟩, ⟨.emit event, r⟩] := by
  intro command answer hmem
  simp only [executed, List.mem_cons, List.not_mem_nil, or_false] at hmem
  rcases hmem with hmem | hmem <;> cases hmem

theorem Emitted.quietly {code : String} {fingerprint : Option String} {s s' : RunState}
    {h h' : LoopHistory} {r : Except PortError Unit} (he : Emitted code fingerprint s h r s' h') :
    Quietly s h s' h' := by
  obtain ⟨t, event, _, _, rfl⟩ := he.asked
  exact ⟨_, rfl, noExecute_emit t event r, he.flag⟩

theorem emit_holds {stage : EventStage} {code : String} {observationId fingerprint : Option String}
    {details : List (String × Json)} {s : RunState} {h : LoopHistory} :
    Holds (L.Guarantee run) (emit run stage code observationId fingerprint details) s h
      (Emitted code fingerprint s h) := by
  unfold emit
  rw [holds_bind, holds_ask]
  refine ⟨trivial, fun t => ?_⟩
  rw [after_ok, holds_bind, holds_state, after_ok, holds_bind, holds_ask]
  refine ⟨trivial, fun accepted => ?_⟩
  rw [after_ok, holds_bind, holds_lift]
  cases accepted with
  | error e => exact ⟨⟨t, _, rfl, rfl, by rw [List.append_assoc]; rfl⟩, rfl⟩
  | ok _ =>
      rw [after_ok, holds_change]
      exact ⟨⟨t, _, rfl, rfl, by rw [List.append_assoc]; rfl⟩, rfl⟩

/-- What ending a run comes to: a rejected event replaces the status. -/
def Ended (status : BrowserLoopStatus) (s : RunState) (h : LoopHistory)
    (r : Except PortError BrowserLoopReport) (h' : LoopHistory) : Prop :=
  ∃ report t event accepted, r = .ok report ∧ h' = h ++ [⟨.now, t⟩, ⟨.emit event, accepted⟩] ∧
    report.status = match accepted with
      | .ok () => status
      | .error _ => failureStatus s

theorem terminal_holds {status : BrowserLoopStatus} {reasonCode : String}
    {approvalRef : Option String} {checkpoint : Option ExecutionCheckpoint} {s : RunState}
    {h : LoopHistory} :
    Holds (L.Guarantee run) (terminal run status reasonCode approvalRef checkpoint) s h
      fun r _ h' => Ended status s h r h' := by
  unfold terminal
  rw [holds_bind, holds_state, after_ok]
  refine Holds.bind (holds_attempt.mpr (emit_holds.mono fun r s' h' he => ?_)) ?_
    (R := fun r s' h' => ∃ r', r = .ok r' ∧
      Emitted reasonCode none s h r' s' h') (fun e s' h' he => ?_)
  · exact ⟨r, rfl, he⟩
  · rintro emitted s' h' ⟨r', hr', he⟩
    cases hr'
    obtain ⟨t, event, _, _, hh'⟩ := he.asked
    rw [holds_bind, holds_state, after_ok]
    cases emitted with
    | ok accepted => exact ⟨_, t, event, .ok (), rfl, hh', rfl⟩
    | error e =>
        refine ⟨_, t, event, .error e, rfl, hh', ?_⟩
        simp only [reportOf, failureStatus, he.flag]
  · obtain ⟨r', hr', _⟩ := he
    cases hr'

theorem Ended.reported {status : BrowserLoopStatus} {s : RunState} {h h' : LoopHistory}
    {r : Except PortError BrowserLoopReport} (hc : Calm s h) (he : Ended status s h r h') :
    ∃ report, r = .ok report ∧ Reported h' report.status := by
  obtain ⟨report, t, event, accepted, rfl, rfl, _⟩ := he
  have hcontinued := hc.continued.append (noExecute_emit t event accepted)
  exact ⟨report, rfl, .of_closed hcontinued.closed⟩

/-- A run may end in any way while it is calm. -/
theorem Calm.terminal_holds {status : BrowserLoopStatus} {reasonCode : String}
    {approvalRef : Option String} {checkpoint : Option ExecutionCheckpoint} {s : RunState}
    {h : LoopHistory} (hc : Calm s h) :
    Holds (L.Guarantee run) (do
      let report ← terminal run status reasonCode approvalRef checkpoint
      pure (.done report)) s h (IterationOutcome L) := by
  refine BrowserLoop.terminal_holds.bind (fun report s' h' he => ?_) (fun e s' h' he => ?_)
  · obtain ⟨report', hreport, hsaid⟩ := he.reported hc
    cases hreport
    exact hsaid
  · obtain ⟨report', hreport, _⟩ := he.reported hc
    cases hreport

theorem finish_holds {status : BrowserLoopStatus} {reasonCode : String} {s : RunState}
    {h : LoopHistory} (hc : Calm s h) :
    Holds (L.Guarantee run) (finish run status reasonCode) s h (IterationOutcome L) :=
  hc.terminal_holds

/-! ## Observing -/

/-- What observing comes to. -/
structure Observed (L : BrowserLoop) (s : RunState) (h : LoopHistory)
    (r : Except PortError BrowserObservation) (s' : RunState) (h' : LoopHistory) : Prop where
  quietly : Quietly s h s' h'
  observed : ∀ observation, r = .ok observation → L.LastObserved h' observation

theorem observe_holds {s : RunState} {h : LoopHistory} :
    Holds (L.Guarantee run) (L.observe run) s h (Observed L s h) := by
  unfold observe
  rw [holds_bind, holds_ask]
  refine ⟨trivial, fun answer => ?_⟩
  have hasked : Quietly s h s (h ++ [⟨.observe, answer⟩]) :=
    ⟨_, rfl, noExecute_singleton fun _ => nofun, rfl⟩
  rw [after_ok, holds_bind, holds_lift]
  cases answer with
  | error e => exact ⟨hasked, fun _ hr => by cases hr⟩
  | ok raw =>
      simp only [after_ok, holds_bind, holds_change, holds_state]
      refine emit_holds.mono fun r s' h' he => ?_
      have hquietly : Quietly s h s' h' := hasked.trans he.quietly
      cases r with
      | error e => exact ⟨hquietly, fun _ hr => by cases hr⟩
      | ok _ =>
          refine ⟨hquietly, fun observation hr => ?_⟩
          obtain ⟨t, event, _, _, rfl⟩ := he.asked
          cases hr
          refine ⟨h, raw, [⟨.now, t⟩, ⟨.emit event, .ok ()⟩], _, ?_, rfl, ?_⟩
          · rw [List.append_assoc]; rfl
          · simp

theorem Head.after {s s' : RunState} {h h' : LoopHistory} {observation : BrowserObservation}
    (hc : Calm s h) (ho : Observed L s h (.ok observation) s' h') : L.Head s' h' observation :=
  ⟨hc.quietly ho.quietly, ho.observed observation rfl⟩

theorem consumeRetry_holds {s : RunState} {h : LoopHistory} :
    Holds (L.Guarantee run) L.consumeRetry s h
      fun r s' h' => (∃ b, r = .ok b) ∧ h' = h ∧
        s'.effectMayHaveStarted = s.effectMayHaveStarted := by
  unfold consumeRetry
  rw [holds_bind, holds_state, after_ok]
  split
  · exact ⟨⟨_, rfl⟩, rfl, rfl⟩
  · exact ⟨⟨_, rfl⟩, rfl, rfl⟩

theorem retryReobserve_holds {s : RunState} {h : LoopHistory} :
    Holds (L.Guarantee run) (L.retryReobserve run) s h fun r s' h' =>
      (∃ found, r = .ok found) ∧ Quietly s h s' h' ∧
        ∀ observation, r = .ok (some observation) → L.LastObserved h' observation := by
  unfold retryReobserve
  refine consumeRetry_holds.bind (fun granted s₁ h₁ hretry => ?_) (fun e s₁ h₁ hretry => ?_)
  · obtain ⟨_, rfl, hflag⟩ := hretry
    cases granted with
    | false => exact ⟨⟨_, rfl⟩, .of_flag hflag, fun _ hr => by cases hr⟩
    | true =>
        simp only [if_true, holds_bind, holds_attempt]
        refine observe_holds.mono fun r s₂ h₂ ho => ?_
        have hquietly := (Quietly.of_flag hflag).trans ho.quietly
        cases r with
        | error e => exact ⟨⟨_, rfl⟩, hquietly, fun _ hr => by cases hr⟩
        | ok observation =>
            refine ⟨⟨_, rfl⟩, hquietly, fun observation' hr => ?_⟩
            cases hr
            exact ho.observed observation rfl
  · obtain ⟨⟨b, hb⟩, _⟩ := hretry
    cases hb

theorem reobserveOrFail_holds {s : RunState} {h : LoopHistory} (hc : Calm s h) :
    Holds (L.Guarantee run) (L.reobserveOrFail run) s h (IterationOutcome L) := by
  unfold reobserveOrFail
  refine retryReobserve_holds.bind (fun found s' h' hr => ?_) (fun e s' h' hr => ?_)
  · have hcalm := hc.quietly hr.2.1
    cases found with
    | none => exact finish_holds hcalm
    | some refreshed => exact ⟨hcalm, hr.2.2 refreshed rfl⟩
  · obtain ⟨⟨found, hfound⟩, _⟩ := hr
    cases hfound

/-! ## Verifying -/

/-- What verifying comes to: a result is what the verifier answered, or unknown. -/
structure Verified (request : VerificationRequest) (s : RunState) (h : LoopHistory)
    (r : Except PortError VerificationResult) (s' : RunState) (h' : LoopHistory) : Prop where
  asked : ∃ more, h' = h ++ more ∧ NoExecute more ∧ (∀ x ∈ more, x.1 ≠ .observe) ∧
    ∀ verification, r = .ok verification →
      ⟨.verify request, .ok verification⟩ ∈ more ∨ verification.disposition = .unknown
  flag : s'.effectMayHaveStarted = s.effectMayHaveStarted

theorem Verified.quietly {request : VerificationRequest} {s s' : RunState} {h h' : LoopHistory}
    {r : Except PortError VerificationResult} (hv : Verified request s h r s' h') :
    Quietly s h s' h' := by
  obtain ⟨more, rfl, hmore, _⟩ := hv.asked
  exact ⟨more, rfl, hmore, hv.flag⟩

theorem verify_holds {before after : BrowserObservation} {decision : ActionDecision}
    {source : DecisionSource} {actionResult : Option BrowserActionResult}
    {effect : Option ExecutionEffect} {fingerprint : Option String} {s : RunState}
    {h : LoopHistory} :
    Holds (L.Guarantee run)
      (verify run before after decision source actionResult effect fingerprint) s h
      (Verified ⟨run, before, after, decision, source, actionResult, effect⟩ s h) := by
  unfold verify
  rw [holds_bind, holds_ask]
  refine ⟨trivial, fun answer => ?_⟩
  generalize hx : (⟨.verify _, answer⟩ : Sigma PortCall.Answer) = x
  have hquiet : NoExecute [x] := by
    subst hx
    exact noExecute_singleton fun _ => nofun
  rw [after_ok]
  refine emit_holds.bind (fun u s' h' he => ?_) (fun e s' h' he => ?_)
  · obtain ⟨t, event, _, _, rfl⟩ := he.asked
    refine ⟨⟨_, List.append_assoc .., noExecute_append.mpr ⟨hquiet, noExecute_emit t event _⟩,
      by simp [← hx], fun verification hr => ?_⟩, he.flag⟩
    cases hr
    cases answer with
    | ok result => exact .inl (by simp [← hx])
    | error e => exact .inr rfl
  · obtain ⟨t, event, _, _, rfl⟩ := he.asked
    exact ⟨⟨_, List.append_assoc .., noExecute_append.mpr ⟨hquiet, noExecute_emit t event _⟩,
      by simp [← hx], fun _ hr => by cases hr⟩, he.flag⟩

theorem confirmSuccess_holds {observation : BrowserObservation} {decision : ActionDecision}
    {source : DecisionSource} {s : RunState} {h : LoopHistory} (hc : Calm s h) :
    Holds (L.Guarantee run) (L.confirmSuccess run observation decision source) s h
      (IterationOutcome L) := by
  unfold confirmSuccess
  refine verify_holds.bind (fun verification s₁ h₁ hv => ?_) (fun e s₁ h₁ hv => ?_)
  · have hcalm := hc.quietly hv.quietly
    cases verdictStatus verification.disposition with
    | some status => exact finish_holds hcalm
    | none =>
        dsimp only
        split
        · exact reobserveOrFail_holds hcalm
        · rw [holds_bind, holds_attempt]
          refine observe_holds.mono fun r s₂ h₂ ho => ?_
          cases r with
          | ok refreshed => exact Head.after hcalm ho
          | error e => exact finish_holds (hcalm.quietly ho.quietly)
  · exact (hc.quietly hv.quietly).raised

/-! ## Deciding -/

/-- What deciding comes to: nothing is observed, and a decision was the last answer. -/
structure DecisionMade (observation : BrowserObservation) (s : RunState) (h : LoopHistory)
    (r : Except PortError (ActionDecision × DecisionSource)) (s' : RunState) (h' : LoopHistory) :
    Prop where
  asked : ∃ more, h' = h ++ more ∧ NoExecute more ∧ (∀ x ∈ more, x.1 ≠ .observe) ∧
    ∀ decision source, r = .ok (decision, source) →
      ∃ before x, h' = before ++ [x] ∧ DecidedBy observation decision x
  state : s' = s

theorem decideByModel_holds {observation : BrowserObservation} {s : RunState} {h : LoopHistory} :
    Holds (L.Guarantee run) (decideByModel observation) s h (DecisionMade observation s h) := by
  unfold decideByModel
  rw [holds_bind, holds_ask]
  refine ⟨trivial, fun prepared => ?_⟩
  have hquiet : NoExecute [⟨.prepareModelInput observation, prepared⟩] :=
    noExecute_singleton fun _ => nofun
  rw [after_ok, holds_bind, holds_lift]
  cases prepared with
  | error e => exact ⟨⟨_, rfl, hquiet, by simp, fun _ _ hr => by cases hr⟩, rfl⟩
  | ok input =>
      rw [after_ok, holds_bind, holds_lift]
      cases hsame : compareDigest input.observationId observation.observationId with
      | error e => exact ⟨⟨_, rfl, hquiet, by simp, fun _ _ hr => by cases hr⟩, rfl⟩
      | ok same =>
          have hid := (compareDigest_eq_ok.mp hsame).2
          cases same with
          | false => exact ⟨⟨_, rfl, hquiet, by simp, fun _ _ hr => by cases hr⟩, rfl⟩
          | true =>
              have hdecide (answer : Except PortError ActionDecision) :
                  NoExecute [⟨.decide input, answer⟩] := noExecute_singleton fun _ => nofun
              simp only [Except.mapError, after_ok, if_true, holds_bind, holds_ask]
              refine ⟨trivial, fun answer => ?_⟩
              rw [holds_lift, List.append_assoc]
              have hboth := noExecute_append.mpr ⟨hquiet, hdecide answer⟩
              cases answer with
              | error e => exact ⟨⟨_, rfl, hboth, by simp, fun _ _ hr => by cases hr⟩, rfl⟩
              | ok decision =>
                  refine ⟨⟨_, rfl, hboth, by simp, fun decision' source hr => ?_⟩, rfl⟩
                  cases hr
                  exact ⟨_, _, (List.append_assoc ..).symm, .inr ⟨input, by simpa using hid, rfl⟩⟩

theorem decide_holds {observation : BrowserObservation} {s : RunState} {h : LoopHistory} :
    Holds (L.Guarantee run) (L.decide run observation) s h (DecisionMade observation s h) := by
  unfold decide
  split
  · rw [holds_bind, holds_ask]
    refine ⟨trivial, fun answer => ?_⟩
    have hquiet : NoExecute [⟨.domainDecide observation, answer⟩] :=
      noExecute_singleton fun _ => nofun
    rw [after_ok, holds_bind, holds_lift]
    cases answer with
    | error e => exact ⟨⟨_, rfl, hquiet, by simp, fun _ _ hr => by cases hr⟩, rfl⟩
    | ok deterministic =>
        cases deterministic with
        | some decision =>
            refine ⟨⟨_, rfl, hquiet, by simp, fun decision' source hr => ?_⟩, rfl⟩
            cases hr
            exact ⟨h, _, rfl, .inl rfl⟩
        | none =>
            refine decideByModel_holds.mono fun r s' h' hd => ?_
            obtain ⟨more, rfl, hmore, hseen, hmade⟩ := hd.asked
            refine ⟨⟨_, List.append_assoc .., noExecute_append.mpr ⟨hquiet, hmore⟩, ?_, hmade⟩,
              hd.state⟩
            simpa using hseen
  · exact decideByModel_holds

/-! ## From the result of the runtime to the verdict -/

/-- An execution whose event was accepted, and nothing executed since. -/
structure Settling (s : RunState) (h : LoopHistory) (command : AuthorizedAction)
    (answer : Except PortError BrowserActionResult) (post : LoopHistory) : Prop where
  before : Continued h
  quiet : NoExecute post
  heard : firstEmit post = some true
  flag : uncertain command answer = true → s.effectMayHaveStarted = true

namespace Settling

variable {s s' : RunState} {h post more : LoopHistory} {command : AuthorizedAction}
  {answer : Except PortError BrowserActionResult}

theorem quietly (hs : Settling s h command answer post) (hmore : NoExecute more)
    (hflag : s'.effectMayHaveStarted = s.effectMayHaveStarted) :
    Settling s' h command answer (post ++ more) where
  before := hs.before
  quiet := noExecute_append.mpr ⟨hs.quiet, hmore⟩
  heard := by rw [firstEmit_append, hs.heard]; rfl
  flag := fun huncertain => hflag.trans (hs.flag huncertain)

/-- A quiet stretch keeps it so. -/
theorem later {h' : LoopHistory} (hs : Settling s h command answer post)
    (hq : Quietly s (h ++ executed command answer :: post) s' h') :
    ∃ more, h' = h ++ executed command answer :: (post ++ more) ∧
      Settling s' h command answer (post ++ more) := by
  obtain ⟨more, rfl, hmore, hflag⟩ := hq
  exact ⟨more, by rw [List.append_assoc, List.cons_append], hs.quietly hmore hflag⟩

theorem raised (hs : Settling s h command answer post) :
    LoopRaised s (h ++ executed command answer :: post) := by
  refine LoopRaised.after hs.before.closed hs.quiet fun huncertain _ => ⟨?_, ?_⟩
  · rw [hs.heard]; rfl
  · exact iff_of_true (hs.flag huncertain) (.inr hs.heard)

theorem reported (hs : Settling s h command answer post) {status : BrowserLoopStatus}
    (hstatus : uncertain command answer = true → Disposed command answer post ∨
      status = .unknown) : Reported (h ++ executed command answer :: post) status := by
  refine Reported.after hs.before.closed hs.quiet fun huncertain hundisposed => ?_
  exact iff_of_true ((hstatus huncertain).resolve_left hundisposed) (.inr hs.heard)

/-- Ending a run here says unknown when the execution is uncertain, whatever the sink does. -/
theorem terminal_holds (hs : Settling s h command answer post) {status : BrowserLoopStatus}
    {reasonCode : String} {approvalRef : Option String} {checkpoint : Option ExecutionCheckpoint}
    (hstatus : uncertain command answer = true → Disposed command answer post ∨
      status = .unknown) :
    Holds (L.Guarantee run) (do
      let report ← terminal run status reasonCode approvalRef checkpoint
      pure (.done report)) s (h ++ executed command answer :: post) (IterationOutcome L) := by
  refine BrowserLoop.terminal_holds.bind (fun report s' h' he => ?_) (fun e s' h' he => ?_)
  · obtain ⟨report', t, event, accepted, hreport, rfl, hsaid⟩ := he
    cases hreport
    have hlater := hs.quietly (noExecute_emit t event accepted) rfl
    show Reported _ _
    rw [List.append_assoc, List.cons_append]
    refine hlater.reported fun huncertain => (hstatus huncertain).imp (·.append _) fun hunknown => ?_
    cases accepted with
    | ok _ => exact hsaid.trans hunknown
    | error e => rw [hsaid]; simp [failureStatus, hs.flag huncertain]
  · obtain ⟨report', t, event, accepted, hreport, _⟩ := he
    cases hreport

end Settling

theorem recordResult_holds {command : AuthorizedAction} {actionResult : BrowserActionResult}
    {s : RunState} {h : LoopHistory} (hc : Calm s h) :
    Holds (L.Guarantee run) (recordResult command actionResult) s
      (h ++ [executed command (.ok actionResult)]) fun r s' h' =>
        r = .ok () ∧ h' = h ++ [executed command (.ok actionResult)] ∧
          (s'.effectMayHaveStarted = true ↔ Flagged h') := by
  unfold recordResult
  rw [holds_bind, holds_change, after_ok]
  split
  case isTrue hset =>
    rw [Bool.and_eq_true] at hset
    refine ⟨rfl, rfl, iff_of_true rfl (flagged_execute.mpr (.inr ⟨_, rfl, hset.2, hset.1⟩))⟩
  case isFalse hset =>
    refine ⟨rfl, rfl, hc.flag.trans (flagged_execute.trans (or_iff_left ?_)).symm⟩
    rintro ⟨result, hresult, hwrite, hstarted⟩
    cases hresult
    exact hset (by rw [hwrite, hstarted]; rfl)

/-- A verdict on a command, given where the loop asks for it. -/
theorem verdictOn {command : AuthorizedAction} {actionResult : BrowserActionResult}
    {before after : BrowserObservation} {decision : ActionDecision} {source : DecisionSource}
    {effect : Option ExecutionEffect} (hdecided : decision.decided = .action command.action)
    (hobservation : before.observationId = command.observationId)
    (verification : VerificationResult) :
    VerdictOn command actionResult verification.disposition
      ⟨.verify ⟨run, before, after, decision, source, some actionResult, effect⟩,
        .ok verification⟩ :=
  ⟨_, _, rfl, rfl, hdecided, hobservation, rfl⟩

theorem suspendOnProbe_holds {observation : BrowserObservation} {decision : ActionDecision}
    {source : DecisionSource} {command : AuthorizedAction} {actionResult : BrowserActionResult}
    {s : RunState} {h post : LoopHistory} {answer : Except PortError BrowserActionResult}
    (hs : Continued h ∧ NoExecute post ∧ firstEmit post = some true) :
    Holds (L.Guarantee run)
      (suspendOnProbe run observation decision source command actionResult) s
      (h ++ executed command answer :: post) (IterationOutcome L) := by
  unfold suspendOnProbe
  rw [holds_bind, holds_change, after_ok]
  generalize hflagged : ({ s with effectMayHaveStarted := true } : RunState) = s₁
  have hset : s₁.effectMayHaveStarted = true := by rw [← hflagged]
  have hsettling : Settling s₁ h command answer post := ⟨hs.1, hs.2.1, hs.2.2, fun _ => hset⟩
  refine verify_holds.bind (fun verification s₂ h₂ hv => ?_) (fun e s₂ h₂ hv => ?_)
  · obtain ⟨more, rfl, hlater⟩ := hsettling.later hv.quietly
    exact hlater.terminal_holds fun _ => .inr rfl
  · obtain ⟨more, rfl, hlater⟩ := hsettling.later hv.quietly
    exact hlater.raised

/-- The next iteration begins calm when the verifier let an uncertain execution continue. -/
theorem Settling.calm {s : RunState} {h post : LoopHistory} {command : AuthorizedAction}
    {answer : Except PortError BrowserActionResult} (hs : Settling s h command answer post)
    (hflag : s.effectMayHaveStarted = true ↔ Flagged (h ++ [executed command answer]))
    (hcontinued : uncertain command answer = true → ContinuedAfter command answer post) :
    Calm s (h ++ executed command answer :: post) where
  continued := hs.before.execute hs.quiet hcontinued
  flag := by
    rw [List.append_cons, flagged_append_of_noExecute hs.quiet]
    exact hflag

theorem judge_holds {observation : BrowserObservation} {decision : ActionDecision}
    {source : DecisionSource} {command : AuthorizedAction} {actionResult : BrowserActionResult}
    {s : RunState} {h post : LoopHistory}
    (hs : Settling s h command (.ok actionResult) post)
    (hflag : s.effectMayHaveStarted = true ↔ Flagged (h ++ [executed command (.ok actionResult)]))
    (hdecided : decision.decided = .action command.action)
    (hobservation : observation.observationId = command.observationId) :
    Holds (L.Guarantee run) (L.judge run observation decision source command actionResult) s
      (h ++ executed command (.ok actionResult) :: post) (IterationOutcome L) := by
  unfold judge
  rw [holds_bind, holds_attempt]
  refine observe_holds.mono fun r s₁ h₁ ho => ?_
  have hsame₁ : s₁.effectMayHaveStarted = s.effectMayHaveStarted := ho.quietly.flag
  obtain ⟨more, rfl, hs₁⟩ := hs.later ho.quietly
  cases r with
  | error e =>
      refine hs₁.terminal_holds fun huncertain => .inr ?_
      rw [uncertain_write huncertain]
      rfl
  | ok after =>
      rw [after_ok]
      refine verify_holds.bind (fun verification s₂ h₂ hv => ?_) (fun e s₂ h₂ hv => ?_)
      · have hsame₂ : s₂.effectMayHaveStarted = s₁.effectMayHaveStarted := hv.quietly.flag
        obtain ⟨asked, rfl, hquiet, hseen, hanswer⟩ := hv.asked
        have hs₂ := hs₁.quietly hquiet hsame₂
        have hobserved := (ho.observed after rfl).append hseen
        rw [List.append_assoc, List.cons_append] at hobserved ⊢
        -- a verdict that the loop acts on is one the verifier gave
        have hverdict : (∃ x ∈ post ++ more ++ asked,
            VerdictOn command actionResult verification.disposition x) ∨
              verification.disposition = .unknown :=
          (hanswer verification rfl).imp_left fun hgiven =>
            ⟨_, List.mem_append_right _ hgiven, verdictOn hdecided hobservation verification⟩
        cases hstatus : verdictStatus verification.disposition with
        | some status =>
            refine hs₂.terminal_holds fun _ => ?_
            rcases hverdict with hgiven | hunknown
            · exact .inl ⟨actionResult, _, rfl, hgiven⟩
            · rw [hunknown] at hstatus
              exact .inr (Option.some.inj hstatus).symm
        | none =>
            have hcalm (hcontinued : uncertain command (.ok actionResult) = true →
                verification.disposition = .continue) :
                L.Head s₂ (h ++ executed command (.ok actionResult) :: (post ++ more ++ asked))
                  after := by
              refine ⟨hs₂.calm ((hsame₂.trans hsame₁) ▸ hflag) fun huncertain => ?_, hobserved⟩
              have hcontinue := hcontinued huncertain
              rcases hverdict with hgiven | hunknown
              · exact ⟨actionResult, rfl, hcontinue ▸ hgiven⟩
              · rw [hunknown] at hcontinue
                cases hcontinue
            dsimp only
            split
            case isTrue hretry =>
              split
              case isTrue hwrite => exact hs₂.terminal_holds fun _ => .inr rfl
              case isFalse hread =>
                have hhead := hcalm fun huncertain => absurd (uncertain_write huncertain) hread
                refine consumeRetry_holds.bind (fun granted s₃ h₃ hq => ?_) (fun e s₃ h₃ hq => ?_)
                · obtain ⟨_, rfl, hsame₃⟩ := hq
                  have hcalm₃ := hhead.calm.quietly (.of_flag hsame₃)
                  cases granted with
                  | true => exact ⟨hcalm₃, hhead.observed⟩
                  | false => exact finish_holds hcalm₃
                · obtain ⟨⟨b, hb⟩, _⟩ := hq
                  cases hb
            case isFalse hcontinue =>
              refine hcalm fun _ => ?_
              cases hdisposition : verification.disposition <;>
                simp_all [verdictStatus]
      · obtain ⟨later, rfl, hs₂⟩ := hs₁.later hv.quietly
        exact hs₂.raised

theorem settle_holds {observation : BrowserObservation} {decision : ActionDecision}
    {source : DecisionSource} {command : AuthorizedAction} {actionResult : BrowserActionResult}
    {s : RunState} {h : LoopHistory} (hc : Calm s h)
    (hdecided : decision.decided = .action command.action)
    (hobservation : observation.observationId = command.observationId) :
    Holds (L.Guarantee run) (L.settle run observation decision source command actionResult) s
      (h ++ [executed command (.ok actionResult)]) (IterationOutcome L) := by
  unfold settle
  refine (recordResult_holds hc).bind (fun u s₁ h₁ hr => ?_) (fun e s₁ h₁ hr => by cases hr.1)
  obtain ⟨_, rfl, hflag⟩ := hr
  have hnonpending (hpending : actionResult.pendingResultProbe = false)
      (huncertain : uncertain command (.ok actionResult) = true) :
      s₁.effectMayHaveStarted = true := by
    refine hflag.mpr (flagged_execute.mpr (.inr ⟨_, rfl, uncertain_write huncertain, ?_⟩))
    simpa [uncertain, hpending, uncertain_write huncertain] using huncertain
  refine emit_holds.bind (fun v s₂ h₂ he => ?_) (fun e s₂ h₂ he => ?_)
  · obtain ⟨t, event, _, _, rfl⟩ := he.asked
    rw [← List.append_cons]
    split
    case isTrue hpending =>
      exact suspendOnProbe_holds ⟨hc.continued, noExecute_emit t event _, rfl⟩
    case isFalse hpending =>
      rw [Bool.not_eq_true] at hpending
      refine judge_holds ⟨hc.continued, noExecute_emit t event _, rfl, fun huncertain => ?_⟩
        (he.flag ▸ hflag) hdecided hobservation
      exact he.flag.trans (hnonpending hpending huncertain)
  · obtain ⟨t, event, _, _, rfl⟩ := he.asked
    show LoopRaised _ _
    rw [← List.append_cons]
    -- the event after the action was rejected, so only the flag speaks of the write
    refine LoopRaised.after hc.continued.closed (noExecute_emit t event _) fun _ _ => ⟨rfl, ?_⟩
    rw [he.flag, hflag]
    exact (or_iff_left (by simp [firstEmit])).symm

/-! ## Calling the runtime -/

/-- A write whose exception leaves it open ends the run. -/
theorem finish_raised_holds {command : AuthorizedAction} {e : PortError} {reasonCode : String}
    {s : RunState} {h : LoopHistory} (hc : Calm s h) :
    Holds (L.Guarantee run) (finish run .unknown reasonCode) s
      (h ++ [executed command (.error e)]) (IterationOutcome L) := by
  have hflag : s.effectMayHaveStarted = true ↔ Flagged (h ++ [executed command (.error e)]) := by
    rw [hc.flag, flagged_execute]
    simp
  unfold finish
  refine terminal_holds.bind (fun report s' h' he => ?_) (fun e' s' h' he => ?_)
  · obtain ⟨report', t, event, accepted, hreport, rfl, hsaid⟩ := he
    cases hreport
    show Reported _ _
    rw [← List.append_cons]
    refine Reported.after hc.continued.closed (noExecute_emit t event accepted) fun _ _ => ?_
    rw [hsaid, ← hflag]
    cases accepted with
    | ok _ => simp [firstEmit]
    | error e' => simp [firstEmit, failureStatus]
  · obtain ⟨report', t, event, accepted, hreport, _⟩ := he
    cases hreport

/-- An exception that leaves nothing open keeps the run calm. -/
theorem Calm.raisedCertain {command : AuthorizedAction} {e : PortError} {s : RunState}
    {h : LoopHistory} (hc : Calm s h) (hcertain : uncertain command (.error e) = false) :
    Calm s (h ++ [executed command (.error e)]) where
  continued := hc.continued.execute (fun _ _ hmem => by simp at hmem) fun huncertain => by
    rw [hcertain] at huncertain
    cases huncertain
  flag := by
    rw [hc.flag, flagged_execute]
    simp

theorem dispatch_holds {observation : BrowserObservation} {decision : ActionDecision}
    {source : DecisionSource} {command : AuthorizedAction} {s : RunState} {h : LoopHistory}
    (hc : Calm s h) (hdecided : decision.decided = .action command.action)
    (hobservation : observation.observationId = command.observationId)
    (hauthorised : ∀ t started, started.code = "ACTION_STARTED" →
      started.actionFingerprint = some command.actionFingerprint →
        ∃ observation decision policy now,
          L.Authorised run (h ++ [⟨.now, t⟩, ⟨.emit started, .ok ()⟩]) command observation
            decision policy now started) :
    Holds (L.Guarantee run) (L.dispatch run observation decision source command) s h
      (IterationOutcome L) := by
  unfold dispatch
  refine emit_holds.bind (fun u s₁ h₁ he => ?_)
    (fun e s₁ h₁ he => (hc.quietly he.quietly).raised)
  have hcalm₁ := hc.quietly he.quietly
  obtain ⟨t, started, hcode, hfingerprint, rfl⟩ := he.asked
  obtain ⟨observation', decision', policy, now, hready⟩ := hauthorised t started hcode hfingerprint
  rw [holds_bind, holds_change, after_ok, holds_bind, holds_ask]
  refine ⟨⟨⟨observation', decision', policy, now, started, hready⟩, hcalm₁.continued⟩,
    fun answer => ?_⟩
  have hcalm : Calm { s₁ with lastEffect := command.authorization.effect }
      (h ++ [⟨.now, t⟩, ⟨.emit started, .ok ()⟩]) := ⟨hcalm₁.continued, hcalm₁.flag⟩
  rw [after_ok]
  cases answer with
  | ok actionResult => exact settle_holds hcalm hdecided hobservation
  | error e =>
      cases e with
      | stale => exact reobserveOrFail_holds (hcalm.raisedCertain (Bool.and_false _))
      | runtime effectMayHaveStarted =>
          dsimp only
          split
          case isTrue => exact finish_raised_holds hcalm
          case isFalse hcertain =>
            refine reobserveOrFail_holds (hcalm.raisedCertain ?_)
            rw [Bool.and_comm, Bool.not_eq_true] at hcertain
            exact hcertain
      | other error =>
          dsimp only
          split
          case isTrue => exact finish_raised_holds hcalm
          case isFalse hread =>
            refine finish_holds (hcalm.raisedCertain ?_)
            simpa [uncertain, PortError.effectMayHaveStarted] using hread

/-! ## One iteration -/

theorem authorizedCommand_eq_ok {observation : BrowserObservation} {action : BrowserAction}
    {fingerprint : String} {authorization : ExecutionAuthorization} {profile : ExecutionProfile}
    {command : AuthorizedAction}
    (hok : authorizedCommand observation action fingerprint authorization profile = .ok command) :
    command = ⟨action, fingerprint, observation.observationId, observation.snapshotHash,
        authorization, profile⟩ ∧
      authorization.actionFingerprint = fingerprint ∧
      authorization.observationHash = observation.observationId ∧
      (decideProfile authorization.effect profile).allowed = true := by
  unfold authorizedCommand at hok
  split at hok
  case isTrue => cases hok
  case isFalse =>
    cases hsame : compareBoth authorization.actionFingerprint fingerprint
        authorization.observationHash observation.observationId with
    | error e => simp only [hsame] at hok; cases hok
    | ok same =>
        cases same with
        | false => simp only [hsame] at hok; cases hok
        | true =>
            cases hprofile : requireAllowedProfile authorization.effect profile with
            | error e => simp only [hsame, hprofile] at hok; cases hok
            | ok verdict =>
                simp only [hsame, hprofile] at hok
                cases hok
                obtain ⟨hfingerprint, hobservation⟩ := compareBoth_eq_true hsame
                exact ⟨rfl, hfingerprint, hobservation,
                  (requireAllowedProfile_eq_ok.mp hprofile).1⟩

theorem fresh_of_not_stale {observation : BrowserObservation} {now : DateTime}
    (hfresh : L.observationIsStale observation now = false) :
    ((now.asUtc.micros - observation.capturedAt.asUtc.micros : Int) : Rat) / 1000000 ≤
      L.config.maxObservationAgeSeconds := by
  unfold observationIsStale at hfresh
  simp only [Bool.or_eq_false_iff, decide_eq_false_iff_not] at hfresh
  exact Rat.not_lt.mp hfresh.1

theorem actOn_holds {observation : BrowserObservation} {decision : ActionDecision}
    {source : DecisionSource} {action : BrowserAction} {s : RunState} {before : LoopHistory}
    {x : Sigma PortCall.Answer} {t₁ : DateTime} {decisionEvent : BrowserLoopEvent}
    (hc : Calm s (before ++ [x, ⟨.now, t₁⟩, ⟨.emit decisionEvent, .ok ()⟩]))
    (hasked : DecidedBy observation decision x)
    (hobserved : L.LastObserved (before ++ [x, ⟨.now, t₁⟩, ⟨.emit decisionEvent, .ok ()⟩])
      observation)
    (hdecided : decision.decided = .action action) :
    Holds (L.Guarantee run) (L.actOn run observation decision source action) s
      (before ++ [x, ⟨.now, t₁⟩, ⟨.emit decisionEvent, .ok ()⟩]) (IterationOutcome L) := by
  unfold actOn
  rw [holds_bind, holds_ask]
  refine ⟨trivial, fun answer => ?_⟩
  have hquiet : NoExecute [⟨.authorizeAction observation action
      (L.fingerprint run action observation), answer⟩] := noExecute_singleton fun _ => nofun
  have hcalm := hc.quietly (.of_append hquiet)
  rw [after_ok]
  cases answer with
  | error e => exact finish_holds hcalm
  | ok policy =>
      dsimp only
      refine emit_holds.bind (fun u s₁ h₁ he => ?_)
        (fun e s₁ h₁ he => (hcalm.quietly he.quietly).raised)
      have hcalm₁ := hcalm.quietly he.quietly
      obtain ⟨t₂, policyEvent, _, _, rfl⟩ := he.asked
      cases hpolicy : policy.disposition with
      | deny => exact finish_holds hcalm₁
      | requireApproval approvalRef => exact hcalm₁.terminal_holds
      | reobserve => exact reobserveOrFail_holds hcalm₁
      | allow authorization executionProfile =>
          dsimp only
          cases hcommand : authorizedCommand observation action
              (L.fingerprint run action observation) authorization executionProfile with
          | error exc =>
              dsimp only
              split
              · exact finish_holds hcalm₁
              · exact hcalm₁.raised
          | ok command =>
              obtain ⟨rfl, hfingerprint, hobservation, hprofile⟩ :=
                authorizedCommand_eq_ok hcommand
              dsimp only
              rw [holds_bind, holds_ask]
              refine ⟨trivial, fun now => ?_⟩
              have hread : NoExecute [⟨.now, now⟩] := noExecute_singleton fun _ => nofun
              have hcalm₂ := hcalm₁.quietly (.of_append hread)
              rw [after_ok]
              split
              case isTrue => exact reobserveOrFail_holds hcalm₂
              case isFalse hfresh =>
                rw [Bool.not_eq_true] at hfresh
                refine dispatch_holds hcalm₂ hdecided rfl fun t₃ started hcode hstarted => ?_
                refine ⟨observation, decision, policy, now,
                  ⟨before, x, t₁, t₂, t₃, decisionEvent, policyEvent, hasked, ?_⟩, hdecided, ?_,
                  hpolicy, hfingerprint, hobservation, rfl, rfl, rfl, hprofile,
                  fresh_of_not_stale hfresh, hcode, hstarted⟩
                · simp
                · simp only [List.append_assoc]
                  rw [← List.append_assoc]
                  exact hobserved.append (by simp)

theorem iterate_holds {observation : BrowserObservation} {s : RunState} {h : LoopHistory}
    (hh : L.Head s h observation) :
    Holds (L.Guarantee run) (L.iterate run observation) s h (IterationOutcome L) := by
  unfold iterate
  rw [holds_bind, holds_attempt]
  refine decide_holds.mono fun r s₁ h₁ hd => ?_
  obtain ⟨more, rfl, hquiet, hseen, hmade⟩ := hd.asked
  have hstate := hd.state
  subst hstate
  have hcalm : Calm s₁ (h ++ more) := hh.calm.quietly ⟨more, rfl, hquiet, rfl⟩
  rw [after_ok]
  cases r with
  | error e => exact finish_holds hcalm
  | ok made =>
      obtain ⟨decision, source⟩ := made
      dsimp only
      rw [holds_bind, holds_lift]
      cases compareDigest decision.observationId observation.observationId with
      | error e => exact hcalm.raised
      | ok same =>
          simp only [Except.mapError, after_ok]
          cases same with
          | false => exact finish_holds hcalm
          | true =>
              rw [if_pos rfl]
              refine emit_holds.bind (fun u s₂ h₂ he => ?_)
                (fun e s₂ h₂ he => (hcalm.quietly he.quietly).raised)
              have hcalm₂ := hcalm.quietly he.quietly
              have hobserved := hh.observed.append hseen
              cases hdecided : decision.decided with
              | failure => exact finish_holds hcalm₂
              | success => exact confirmSuccess_holds hcalm₂
              | action action =>
                  obtain ⟨before, x, hlast, hasked⟩ := hmade decision source rfl
                  obtain ⟨t₁, decisionEvent, _, _, rfl⟩ := he.asked
                  have hunobserved : ∀ x ∈ ([⟨.now, t₁⟩, ⟨.emit decisionEvent, .ok ()⟩] :
                      LoopHistory), x.1 ≠ .observe := by simp
                  have hobserved₂ := hobserved.append hunobserved
                  rw [hlast, List.append_assoc] at hcalm₂ hobserved₂ ⊢
                  exact actOn_holds hcalm₂ hasked hobserved₂ hdecided

/-! ## The run -/

theorem iterations_holds (left : Nat) {observation : BrowserObservation} {s : RunState}
    {h : LoopHistory} (hh : L.Head s h observation) :
    Holds (L.Guarantee run) (L.iterations run left observation) s h Outcome := by
  induction left generalizing observation s h with
  | zero =>
      refine terminal_holds.mono fun r s' h' he => ?_
      obtain ⟨report, rfl, hreported⟩ := he.reported hh.calm
      exact hreported
  | succ left ih =>
      unfold iterations
      rw [holds_bind, holds_change, after_ok]
      have hcalm : Calm { s with iterations := s.iterations + 1 } h :=
        ⟨hh.calm.continued, hh.calm.flag⟩
      refine (iterate_holds ⟨hcalm, hh.observed⟩).bind (fun progress s' h' ho => ?_)
        fun e s' h' ho => ho
      cases progress with
      | done report => exact ho
      | next refreshed => exact ih ho

theorem runUncaught_holds :
    Holds (L.Guarantee run) (L.runUncaught run) .initial [] Outcome := by
  unfold runUncaught
  rw [holds_bind, holds_attempt]
  refine observe_holds.mono fun r s h ho => ?_
  have hinitial : Calm .initial [] := ⟨.nil, by simp [RunState.initial, Flagged]⟩
  have hcalm : Calm s h := hinitial.quietly ho.quietly
  rw [after_ok]
  cases r with
  | error e =>
      refine terminal_holds.mono fun r s' h' he => ?_
      obtain ⟨report, rfl, hreported⟩ := he.reported hcalm
      exact hreported
  | ok observation => exact iterations_holds _ ⟨hcalm, ho.observed observation rfl⟩

/-- After a raise the flag decides the status. -/
theorem LoopRaised.reported {s : RunState} {h more : LoopHistory} {status : BrowserLoopStatus}
    (hr : LoopRaised s h) (hmore : NoExecute more)
    (hstatus : status = .unknown ↔ s.effectMayHaveStarted = true) :
    Reported (h ++ more) status := by
  rcases hr with hclosed | ⟨pre, command, answer, post, hopen, hpre, hpost, hheard, hflag⟩
  · exact .of_closed (hclosed.append hmore)
  · rw [hopen.split, List.append_assoc, List.cons_append]
    refine Reported.after hpre (noExecute_append.mpr ⟨hpost, hmore⟩) fun _ _ => ?_
    -- the first event after the execution was heard before the raise
    have hfirst : firstEmit (post ++ more) = firstEmit post := by
      rw [firstEmit_append, Option.or_of_isSome hheard]
    rw [hstatus, hflag, hfirst]

theorem runLoop_holds :
    Holds (L.Guarantee run) (L.runLoop run) .initial [] fun r _ h =>
      ∃ report, r = .ok report ∧ Reported h report.status := by
  unfold runLoop
  rw [holds_bind, holds_attempt]
  refine runUncaught_holds.mono fun r s h ho => ?_
  rw [after_ok]
  cases r with
  | ok report => exact ⟨report, rfl, ho⟩
  | error e =>
      dsimp only
      rw [holds_bind, holds_state, after_ok]
      refine terminal_holds.mono fun r s' h' he => ?_
      obtain ⟨report, t, event, accepted, rfl, rfl, hsaid⟩ := he
      refine ⟨report, rfl, LoopRaised.reported ho (noExecute_emit t event accepted) ?_⟩
      cases accepted <;> simp [hsaid, failureStatus]

end BrowserLoop

end AgentPact
