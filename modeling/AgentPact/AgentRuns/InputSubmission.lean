import AgentPact.AgentRuns.PauseDigests

/-!
# Input for a paused run

A submission is checked against the pause that is open (`submitAdmits`), handed
to the Pack's `resume_run`, and then the pause is cleared.  What a submission
has to respect is its `InputContract`.  The checks leave out when the pause
expires and where its slots take their values from, and a call that comes to no
end leaves the pause open for the next.

`InputContract` follows from the checks for submissions that are timely
(`Timely`), and in a run of such submissions that all come to their end, the
Pack is called once (`timely_submissions_respect`).
-/

namespace AgentPact

open Base Transaction

/-! ## What a submission has to respect -/

/-- The names of the values that are submitted. -/
def AgentRunInputSubmissionRequest.names (request : AgentRunInputSubmissionRequest) : List String :=
  request.values.map (·.1)

/-- A submission is for an open pause that waits for it and has not expired, and brings a value for
every slot that requires one and for no slot that a user may not fill. -/
structure InputContract (runId organizationId : String) (request : AgentRunInputSubmissionRequest)
    (now : DateTime) (db : Database) (signal : RunPauseSignal) (inputs : InputRequest) : Prop where
  unresolved : ∃ checkpointDigest,
    db.getPauseSignal runId organizationId = some (checkpointDigest, signal)
  awaiting : signal.outcome = .awaitingInput
  asked : signal.inputRequest = some inputs
  early : ∀ expiry ∈ signal.expiresAt, now.lt expiry = .ok true
  sourced : ∀ name ∈ request.names, ∃ slot ∈ inputs.slots, slot.slotName = name ∧
    .user ∈ slot.allowedSources
  complete : ∀ slot ∈ inputs.slots, slot.required = true → slot.slotName ∈ request.names

/-- The open pause has not expired, and a user may fill the slots that are submitted. -/
def Timely (runId organizationId : String) (request : AgentRunInputSubmissionRequest)
    (now : DateTime) (db : Database) : Prop :=
  ∀ checkpointDigest signal,
    db.getPauseSignal runId organizationId = some (checkpointDigest, signal) →
      (∀ expiry ∈ signal.expiresAt, now.lt expiry = .ok true) ∧
      ∀ inputs ∈ signal.inputRequest, ∀ slot ∈ inputs.slots, slot.slotName ∈ request.names →
        .user ∈ slot.allowedSources

theorem timely_iff {runId organizationId : String} {request : AgentRunInputSubmissionRequest}
    {now : DateTime} {db : Database} : Timely runId organizationId request now db ↔
      ∀ pause ∈ db.getPauseSignal runId organizationId,
        (∀ expiry ∈ pause.2.expiresAt, (now.lt expiry).toOption = some true) ∧
        ∀ inputs ∈ pause.2.inputRequest, ∀ slot ∈ inputs.slots, slot.slotName ∈ request.names →
          .user ∈ slot.allowedSources := by
  have hlt : ∀ expiry, (now.lt expiry).toOption = some true ↔ now.lt expiry = .ok true := by
    intro expiry
    cases now.lt expiry <;> simp [Except.toOption]
  simp only [hlt]
  exact ⟨fun h pause hpause => h pause.1 pause.2 hpause, fun h digest signal => h (digest, signal)⟩

instance {runId organizationId : String} {request : AgentRunInputSubmissionRequest}
    {now : DateTime} {db : Database} : Decidable (Timely runId organizationId request now db) :=
  decidable_of_iff _ timely_iff.symm

section Checks

variable {P : Platform} {E : Environment} {user : UserContext} {runId : String} {db : Database}
  {request : AgentRunInputSubmissionRequest}

/-- Only an open pause is viewed as one. -/
theorem viewLocked_pauseSignal {locked : LockedRun} {view : RunView} {signal : RunPauseSignal}
    (h : viewLocked P db locked = .ok view) (hsignal : view.pauseSignal = some signal) :
    (∃ checkpointDigest, db.getPauseSignal locked.checkpoint.rootTaskId
      locked.root.organizationId = some (checkpointDigest, signal)) ∧ view = signal.view := by
  cases viewLocked_viewed h with
  | conflict => cases hsignal
  | paused hpause _ =>
      cases hsignal
      exact ⟨⟨_, hpause⟩, rfl⟩
  | succeeded _ _ _ => cases hsignal
  | active _ _ _ hviewed => cases hviewed <;> cases hsignal

/-- What the checks of a submission find. -/
theorem submitAdmits_pause
    {x : PreparedRunReference × (PreparedRunReference → ResumeRequest → AgentRunTx Unit)}
    (hfiled : ∀ event ∈ db.loadEvents runId, event.rootTaskId = runId)
    (h : submitAdmits P E user runId request db = .ok x) :
    ∃ checkpointDigest signal inputs bundle,
      db.getPauseSignal runId user.orgId = some (checkpointDigest, signal) ∧
      signal.outcome = .awaitingInput ∧ signal.inputRequest = some inputs ∧
      (∀ name ∈ request.names, name ∈ inputs.slots.map (·.slotName)) ∧
      (∀ slot ∈ inputs.slots, slot.required = true → slot.slotName ∈ request.names) ∧
      restoreResumable E user bundle "INPUT_RESUME_UNSUPPORTED" = .ok x := by
  simp only [submitAdmits, except_bind_eq_ok, orAgentRunError_eq_ok, demand_eq_ok] at h
  obtain ⟨_, _, ⟨locked, p⟩, hlocked, signal, hsignal, _, ⟨hstate, _, _⟩, inputs, hinputs, _,
    hdeclared, _, hcomplete, hrestore⟩ := h
  obtain ⟨hload, hproject⟩ := lockedProjection_eq_ok.mp hlocked
  obtain ⟨⟨checkpointDigest, hpause⟩, hview⟩ :=
    viewLocked_pauseSignal (projectLocked_eq_ok hproject).1 hsignal
  have hroot : locked.checkpoint.rootTaskId = runId := by
    obtain ⟨last, hlast, _⟩ := replayPlanJournal_last hload.replay
    have hmem := List.mem_of_getLast? hlast
    exact (replayPlanJournal_root hload.replay last hmem).symm.trans (hfiled last hmem)
  rw [hroot, hload.organization.1] at hpause
  have houtcome : signal.outcome = .awaitingInput := by
    have hstate : p.view.state = .awaitingInput := hstate
    rw [hview] at hstate
    unfold RunPauseSignal.view at hstate
    cases hout : signal.outcome with
    | awaitingInput => rfl
    | needsHuman => simp [hout] at hstate
  exact ⟨checkpointDigest, signal, inputs, locked.bundle, hpause, houtcome, hinputs, hdeclared,
    hcomplete, hrestore⟩

/-- A submission that passes the checks respects its contract exactly if it is timely. -/
theorem submitAdmits_respects_iff
    {x : PreparedRunReference × (PreparedRunReference → ResumeRequest → AgentRunTx Unit)}
    {now : DateTime} (hfiled : ∀ event ∈ db.loadEvents runId, event.rootTaskId = runId)
    (h : submitAdmits P E user runId request db = .ok x) :
    (∃ signal inputs, InputContract runId user.orgId request now db signal inputs) ↔
      Timely runId user.orgId request now db := by
  obtain ⟨checkpointDigest, signal, inputs, _, hpause, houtcome, hinputs, hdeclared, hcomplete, _⟩ :=
    submitAdmits_pause hfiled h
  constructor
  · rintro ⟨signal', inputs', hcontract⟩ checkpointDigest'' signal'' hpause''
    obtain ⟨checkpointDigest', hpause'⟩ := hcontract.unresolved
    cases hpause'.symm.trans hpause''
    refine ⟨hcontract.early, fun asked hasked slot hslot hname => ?_⟩
    cases hcontract.asked.symm.trans hasked
    obtain ⟨other, hother, hsame, huser⟩ := hcontract.sourced _ hname
    -- slots of one name are one slot
    have hslots : other = slot := List.inj_on_of_nodup_map inputs'.slots_unique hother hslot hsame
    exact hslots ▸ huser
  · intro htimely
    obtain ⟨hearly, hsourced⟩ := htimely checkpointDigest signal hpause
    refine ⟨signal, inputs, ⟨checkpointDigest, hpause⟩, houtcome, hinputs, hearly, fun name hname => ?_,
      hcomplete⟩
    obtain ⟨slot, hslot, rfl⟩ := List.mem_map.mp (hdeclared name hname)
    exact ⟨slot, hslot, rfl, hsourced inputs hinputs slot hslot hname⟩

/-- A submission that does not pass the checks changes nothing. -/
theorem submitInput_refused (h : ∀ x, submitAdmits P E user runId request db ≠ .ok x) :
    left (submitInput P E user runId request db) = db := by
  cases hadmits : submitAdmits P E user runId request db with
  | ok x => exact absurd hadmits (h x)
  | error e =>
      unfold submitInput
      rw [bind_of_error (query_eq_error.mpr ⟨hadmits, rfl⟩)]
      rfl

end Checks

/-! ## Runs -/

/-- A call of `resume_run` by a submission. -/
structure SubmissionCall where
  database : Database
  organizationId : String
  request : AgentRunInputSubmissionRequest
  now : DateTime

/-- The database, and the calls of `resume_run` that were made, newest first. -/
structure SubmissionWorld where
  database : Database
  calls : List SubmissionCall

/-- What happens to a run that may wait for input. -/
inductive SubmissionLabel where
  /-- `submit_input`, at a clock. -/
  | submit (environment : Environment) (user : UserContext)
      (request : AgentRunInputSubmissionRequest) (now : DateTime)
  /-- The process crashes after `resume_run`, and before it commits. -/
  | crash (environment : Environment) (user : UserContext)
      (request : AgentRunInputSubmissionRequest) (now : DateTime)
  /-- Another transaction. -/
  | other (label : PausableLabel)

/-- The call that a submission makes, if its checks pass. -/
def submissionCalls (P : Platform) (E : Environment) (user : UserContext) (runId : String)
    (request : AgentRunInputSubmissionRequest) (now : DateTime) (db : Database) :
    List SubmissionCall :=
  match submitAdmits P E user runId request db with
  | .ok _ => [⟨db, user.orgId, request, now⟩]
  | .error _ => []

/-- The steps of a run that may wait for input. -/
def SubmissionStep (P : Platform) (runId organizationId : String) :
    SubmissionLabel → SubmissionWorld → SubmissionWorld → Prop
  | .submit E user request now, w, v => user.orgId = organizationId ∧
      v = ⟨left (submitInput P E user runId request w.database),
        submissionCalls P E user runId request now w.database ++ w.calls⟩
  | .crash E user request now, w, v => user.orgId = organizationId ∧ ∃ prepared resume,
      submitAdmits P E user runId request w.database = .ok (prepared, resume) ∧
      v = ⟨left (resume prepared (.inputs request.values request.operationKey) w.database),
        submissionCalls P E user runId request now w.database ++ w.calls⟩
  | .other l, w, v => PausableStep P runId organizationId l w.database v.database ∧
      v.calls = w.calls

/-- A submission is timely, and if it is handed to its Pack, the Pack returns, having written to no
audit row.  The process does not crash. -/
def Ends (P : Platform) (runId : String) (w : SubmissionWorld) : SubmissionLabel → Prop
  | .submit E user request now => Timely runId user.orgId request now w.database ∧
      ∀ prepared resume, submitAdmits P E user runId request w.database = .ok (prepared, resume) →
        ∃ t, resume prepared (.inputs request.values request.operationKey) w.database = .ok () t ∧
          t.audit = w.database.audit
  | .crash _ _ _ _ => False
  | .other _ => True

/-! ## The invariant -/

/-- The events of a run are filed under it, and its pause rows amount to a log. -/
structure PauseRows (P : Platform) (runId organizationId : String) (db : Database) (log : PauseLog) :
    Prop where
  filed : ∀ event ∈ db.loadEvents runId, event.rootTaskId = runId
  stored : Stored P runId organizationId db log

section Invariant

variable {P : Platform} {runId organizationId : String} {s t : Database} {log : PauseLog}

/-- Writes to other tables do not matter. -/
theorem PauseRows.of_audit (h : PauseRows P runId organizationId s log)
    (haudit : t.audit = s.audit) : PauseRows P runId organizationId t log := by
  refine ⟨?_, h.stored.of_audit haudit⟩
  rw [loadEvents_of_audit haudit]
  exact h.filed

/-- No transaction reopens a pause that was cleared. -/
theorem PauseRows.step (h : PauseRows P runId organizationId s log) {l : PausableLabel}
    (hstep : PausableStep P runId organizationId l s t) :
    ∃ log', PauseRows P runId organizationId t log' ∧
      ∀ checkpointDigest signal, log = .cleared checkpointDigest signal → log' = log := by
  cases l with
  | record E user signal =>
      obtain ⟨huser, rfl⟩ := hstep
      rcases @recordPauseSignal_left P runId s E user signal with hsame | ⟨locked, hadmits, hsave⟩
      · rw [hsame]
        exact ⟨log, h, fun _ _ _ => rfl⟩
      · obtain ⟨hrun, _⟩ := pauseAdmits_eq_ok hadmits
        rw [huser] at hsave
        have hevents := savePauseSignal_loadEvents hsave runId
        have hredacted : signal.redact.runId = runId := hrun
        rcases h.stored.save hredacted hsave with ⟨rfl, hpaused⟩ | ⟨_, hsame⟩
        · exact ⟨_, ⟨by rw [hevents]; exact h.filed, hpaused⟩, fun _ _ hlog => by cases hlog⟩
        · rw [hsame]
          exact ⟨log, h, fun _ _ _ => rfl⟩
  | append r =>
      cases hstep
      rcases (appendAgentRunTransition_clean P r).left_cases s with hsame | ⟨c, happend⟩
      · rw [hsame]
        exact ⟨log, h, fun _ _ _ => rfl⟩
      generalize left (appendAgentRunTransition P r s) = t at happend ⊢
      exact ⟨log, ⟨filed_append h.filed happend, h.stored.append happend⟩, fun _ _ _ => rfl⟩
  | clear =>
      cases hstep
      rcases (clearPauseSignal_clean P runId organizationId).left_cases s with hsame | ⟨u, hclear⟩
      · rw [hsame]
        exact ⟨log, h, fun _ _ _ => rfl⟩
      generalize left (clearPauseSignal P runId organizationId s) = t at hclear ⊢
      have hevents := (clearPauseSignal_frame hclear).2 runId
      rcases h.stored.clear hclear with ⟨rfl, rfl⟩ | ⟨signal, checkpointDigest, hlog, hcleared⟩
      · exact ⟨_, h, fun _ _ _ => rfl⟩
      · refine ⟨_, ⟨by rw [hevents]; exact h.filed, hcleared⟩, fun digest' signal' hbefore => ?_⟩
        rw [hbefore] at hlog ⊢
        simp only [List.mem_cons, reduceCtorEq, List.not_mem_nil, or_false, false_or] at hlog
        exact hlog.symm
  | rows => exact ⟨log, h.of_audit hstep, fun _ _ _ => rfl⟩

/-- An open pause can be cleared. -/
theorem Stored.clearable {checkpointDigest : Digest} {signal : RunPauseSignal}
    (h : Stored P runId organizationId s (.paused checkpointDigest signal)) :
    ∃ t, clearPauseSignal P runId organizationId s = .ok () t := by
  cases h with
  | @paused _ _ modifiedAt hrun hrows hfree =>
      have hlatest := latestPause_of_rows hrun hrows rfl
      have hnone : s.audit.find? (resolutionRow P runId organizationId
          (pauseRow P signal checkpointDigest organizationId modifiedAt)).eventId = none :=
        Table.find?_eq_none.mpr fun row hrow => hfree row hrow _
      obtain ⟨audit, haudit⟩ : ∃ audit, s.audit.insert? (resolutionRow P runId organizationId
          (pauseRow P signal checkpointDigest organizationId modifiedAt)) = some audit := by
        refine Table.exists_insert? fun row hrow hclash => ?_
        exact hfree row hrow _ (by simpa [Schema.clash] using hclash)
      refine ⟨{ s with audit := audit }, ?_⟩
      unfold clearPauseSignal
      rw [read_bind, hlatest]
      dsimp only
      rw [read_bind, hnone, if_neg (by simp)]
      exact write?_eq_ok.mpr (Database.insertAudit?_eq_some.mpr ⟨audit, haudit, rfl⟩)

/-- What a run of timely submissions keeps: every call respected its contract, and after the first
call the pause is cleared. -/
structure Submitted (P : Platform) (runId organizationId : String) (w : SubmissionWorld) : Prop where
  log : ∃ log, PauseRows P runId organizationId w.database log ∧
    (w.calls = [] ∨ w.calls.length = 1 ∧ ∃ checkpointDigest signal,
      log = .cleared checkpointDigest signal)
  respected : ∀ call ∈ w.calls, ∃ signal inputs,
    InputContract runId call.organizationId call.request call.now call.database signal inputs

/-- A submission that ends calls its Pack only if a pause is open, and clears it then. -/
theorem submitInput_ends (h : PauseRows P runId organizationId s log) {E : Environment}
    {user : UserContext} {request : AgentRunInputSubmissionRequest} {now : DateTime}
    {calls : List SubmissionCall} (huser : user.orgId = organizationId)
    (hends : Ends P runId ⟨s, calls⟩ (.submit E user request now)) :
    (submissionCalls P E user runId request now s = [] ∧
        left (submitInput P E user runId request s) = s) ∨
      ∃ checkpointDigest signal, log = .paused checkpointDigest signal ∧
        submissionCalls P E user runId request now s = [⟨s, user.orgId, request, now⟩] ∧
        (∃ signal inputs, InputContract runId user.orgId request now s signal inputs) ∧
        PauseRows P runId organizationId (left (submitInput P E user runId request s))
          (.cleared checkpointDigest signal) := by
  subst huser
  obtain ⟨htimely, hreturns⟩ := hends
  cases hadmits : submitAdmits P E user runId request s with
  | error e =>
      refine .inl ⟨by simp [submissionCalls, hadmits], submitInput_refused fun x hx => ?_⟩
      rw [hadmits] at hx
      cases hx
  | ok x =>
      obtain ⟨prepared, resume⟩ := x
      obtain ⟨checkpointDigest, signal, _, _, hpause, _⟩ := submitAdmits_pause h.filed hadmits
      have hopen := h.stored.getPauseSignal
      rw [hpause] at hopen
      have hlog : log = .paused checkpointDigest signal := by
        cases log with
        | unpaused => cases hopen
        | paused _ _ => cases hopen; rfl
        | cleared _ _ => cases hopen
      obtain ⟨t, hresume, haudit⟩ := hreturns prepared resume hadmits
      have hrows : PauseRows P runId user.orgId t (.paused checkpointDigest signal) :=
        hlog ▸ h.of_audit haudit
      obtain ⟨u, hclear⟩ := hrows.stored.clearable
      have hleft : left (submitInput P E user runId request s) = u := by
        unfold submitInput
        rw [bind_of_ok (query_eq_ok.mpr ⟨hadmits, rfl⟩)]
        dsimp only
        rw [bind_of_ok hresume, bind_of_ok (atomic_eq_ok.mpr hclear)]
        exact left_query
      refine .inr ⟨checkpointDigest, signal, hlog, by simp [submissionCalls, hadmits],
        (submitAdmits_respects_iff h.filed hadmits).mpr htimely, ?_⟩
      rw [hleft]
      have hevents := (clearPauseSignal_frame hclear).2 runId
      refine ⟨by rw [hevents]; exact hrows.filed, ?_⟩
      rcases hrows.stored.clear hclear with ⟨hnone, _⟩ | ⟨signal', digest', hmem, hcleared⟩
      · cases hnone
      · simp only [List.mem_cons, reduceCtorEq, List.not_mem_nil, or_false] at hmem
        cases hmem
        exact hcleared

/-- A step of a timely submission keeps that. -/
theorem Submitted.step {w v : SubmissionWorld} (h : Submitted P runId organizationId w)
    {l : SubmissionLabel} (hok : Ends P runId w l)
    (hstep : SubmissionStep P runId organizationId l w v) : Submitted P runId organizationId v := by
  obtain ⟨⟨log, hrows, hcalls⟩, hrespected⟩ := h
  cases l with
  | submit E user request now =>
      obtain ⟨huser, rfl⟩ := hstep
      rcases submitInput_ends hrows huser hok with
        ⟨hnone, hsame⟩ | ⟨checkpointDigest, signal, hlog, hcall, hcontract, hcleared⟩
      · rw [hnone, hsame]
        exact ⟨⟨log, hrows, hcalls⟩, hrespected⟩
      · -- no call was made before, since the pause is open
        have hfirst : w.calls = [] := by
          rcases hcalls with hnone | ⟨_, _, _, hcleared⟩
          · exact hnone
          · rw [hlog] at hcleared
            cases hcleared
        rw [hcall, hfirst]
        refine ⟨⟨_, hcleared, .inr ⟨rfl, checkpointDigest, signal, rfl⟩⟩, fun call hmem => ?_⟩
        rw [List.append_nil, List.mem_singleton] at hmem
        rw [hmem]
        exact hcontract
  | crash E user request now => exact hok.elim
  | other l =>
      obtain ⟨hother, hsame⟩ := hstep
      obtain ⟨log', hrows', hcleared⟩ := hrows.step hother
      refine ⟨⟨log', hrows', ?_⟩, fun call hmem => hrespected call (hsame ▸ hmem)⟩
      rw [hsame]
      refine hcalls.imp_right fun ⟨hlength, digest, signal, hlog⟩ => ⟨hlength, digest, signal, ?_⟩
      rw [hcleared digest signal hlog]
      exact hlog

end Invariant

/-! ## Every run -/

/-- The contract, of every submission and of every run.  A submission whose checks do not pass changes
nothing, one whose checks pass respects its contract exactly if it is timely, and in a run of timely
submissions that come to their end the Pack is called at most once, and within the contract. -/
theorem timely_submissions_respect {P : Platform} {runId organizationId : String}
    {db₀ : Database} {log : PauseLog} (hstart : PauseRows P runId organizationId db₀ log) :
    (∀ E user request now s, (∀ event ∈ s.loadEvents runId, event.rootTaskId = runId) →
      (∀ x, submitAdmits P E user runId request s = .ok x →
        ((∃ signal inputs, InputContract runId user.orgId request now s signal inputs) ↔
          Timely runId user.orgId request now s)) ∧
      ((∀ x, submitAdmits P E user runId request s ≠ .ok x) →
        left (submitInput P E user runId request s) = s)) ∧
    ∀ w, Reaches (SubmissionStep P runId organizationId) (Ends P runId) ⟨db₀, []⟩ w →
      w.calls.length ≤ 1 ∧ ∀ call ∈ w.calls, ∃ signal inputs,
        InputContract runId call.organizationId call.request call.now call.database signal inputs := by
  refine ⟨fun E user request now s hfiled => ⟨fun x hadmits =>
    submitAdmits_respects_iff hfiled hadmits, submitInput_refused⟩, fun w hrun => ?_⟩
  have hsubmitted : Submitted P runId organizationId w := by
    refine hrun.invariant (fun _ _ _ hok hbefore hstep => hbefore.step hok hstep) ?_
    exact ⟨⟨log, hstart, .inl rfl⟩, fun call hmem => absurd hmem List.not_mem_nil⟩
  obtain ⟨⟨_, _, hcalls⟩, hrespected⟩ := hsubmitted
  refine ⟨?_, hrespected⟩
  rcases hcalls with hnone | ⟨hlength, _⟩
  · rw [hnone]
    exact Nat.zero_le 1
  · exact hlength.le

/-! ## A run that waits for an amount -/

section Run

/-- A slot that is filled from one source. -/
def amountSlot (source : InputSource) : InputSlotSpec :=
  ⟨"amount", source, true, [source], .null, List.nodup_singleton _, List.mem_singleton_self _⟩

/-- A pause that waits for it, for a while. -/
def inputPause (source : InputSource) : RunPauseSignal where
  outcome := .awaitingInput
  reasonCode := "MISSING_AMOUNT"
  runId := sampleRunId
  taskId := none
  stepId := none
  checkpointId := none
  inputRequest := some ⟨"inputs", "pack", "1", [amountSlot source], [], [], [], .empty, false, false,
    List.nodup_singleton _⟩
  prompt := none
  allowedActions := [.submitInput]
  resumePolicy := .inputSubmission
  externalEffectStarted := false
  expiresAt := some (.utc 25)
  valid := by constructor <;> simp [DateTime.utc]

/-- A Pack that resumes its runs. -/
def resumingAdapter (binding : PackRuntimeBinding) : PackRuntimeAdapter :=
  { idleAdapter binding with resumeRun := some fun _ _ => pure () }

/-- The admitted run, paused for input. -/
def waitingDatabase (source : InputSource) : Database :=
  left (recordPauseSignal samplePlatform (sampleEnvironment resumingAdapter (.utc 20)) sampleUser
    sampleRunId (inputPause source) admittedDatabase)

/-- The amount is submitted. -/
def amountSubmission : AgentRunInputSubmissionRequest := ⟨"submit", [("amount", .num 1)]⟩

/-- The calls of a submission at a clock. -/
def amountCalls (source : InputSource) (now : Int) : List SubmissionCall :=
  submissionCalls samplePlatform (sampleEnvironment resumingAdapter (.utc now)) sampleUser
    sampleRunId amountSubmission (.utc now) (waitingDatabase source)

theorem waitingDatabase_rows (source : InputSource) :
    ∃ log, PauseRows samplePlatform sampleRunId sampleUser.orgId (waitingDatabase source) log := by
  have hfiled : ∀ event ∈ admittedDatabase.loadEvents sampleRunId,
      event.rootTaskId = sampleRunId := by decide +kernel
  have hstart : PauseRows samplePlatform sampleRunId "org" admittedDatabase .unpaused :=
    ⟨hfiled, .unpaused admittedDatabase_unpaused⟩
  have hrecord : PausableStep samplePlatform sampleRunId "org"
      (.record (sampleEnvironment resumingAdapter (.utc 20)) sampleUser (inputPause source))
      admittedDatabase (waitingDatabase source) := ⟨rfl, rfl⟩
  obtain ⟨log, hrows, _⟩ := hstart.step hrecord
  exact ⟨log, hrows⟩

/-- Every submission of the amount calls the Pack. -/
theorem amount_admitted {source : InputSource} {now : Int} (h : (amountCalls source now).length = 1) :
    ∃ prepared resume, submitAdmits samplePlatform (sampleEnvironment resumingAdapter (.utc now))
      sampleUser sampleRunId amountSubmission (waitingDatabase source) = .ok (prepared, resume) := by
  unfold amountCalls submissionCalls at h
  split at h
  case h_1 x hadmits => exact ⟨x.1, x.2, hadmits⟩
  case h_2 => cases h

/-- The Pack of the sample returns at once. -/
theorem resuming_returns {now : DateTime} {user : UserContext} {bundle : TaskAdmissionBundle}
    {code : String} {prepared : PreparedRunReference}
    {resume : PreparedRunReference → ResumeRequest → AgentRunTx Unit}
    (h : restoreResumable (sampleEnvironment resumingAdapter now) user bundle code =
      .ok (prepared, resume)) : resume = fun _ _ => pure () := by
  simp only [restoreResumable, resolveAdapter, except_bind_eq_ok, demand_eq_ok, exists_const,
    orAgentRunError_eq_ok] at h
  obtain ⟨binding, _, adapter, ⟨resolved, hresolved, _, hpure⟩, _, _, found, hresume, hret⟩ := h
  cases hret
  have hadapter : adapter = resumingAdapter binding := by
    rw [← Except.ok.inj hpure]
    exact (Except.ok.inj (mapError_eq_ok.mp hresolved)).symm
  rw [hadapter] at hresume
  exact (Option.some.inj hresume).symm

/-- What a submission of the amount leaves. -/
def afterAmount (source : InputSource) (now : Int) (calls : List SubmissionCall) : SubmissionWorld :=
  ⟨left (submitInput samplePlatform (sampleEnvironment resumingAdapter (.utc now)) sampleUser
    sampleRunId amountSubmission (waitingDatabase source)), amountCalls source now ++ calls⟩

/-- The amount is submitted at a clock. -/
def submitAmount (now : Int) : SubmissionLabel :=
  .submit (sampleEnvironment resumingAdapter (.utc now)) sampleUser amountSubmission (.utc now)

theorem submit_step {P : Platform} {E : Environment} {user : UserContext} {runId : String}
    {request : AgentRunInputSubmissionRequest} {now : DateTime} {db : Database}
    {calls : List SubmissionCall} : SubmissionStep P runId user.orgId (.submit E user request now)
      ⟨db, calls⟩ ⟨left (submitInput P E user runId request db),
        submissionCalls P E user runId request now db ++ calls⟩ := ⟨rfl, rfl⟩

theorem crash_step {P : Platform} {E : Environment} {user : UserContext} {runId : String}
    {request : AgentRunInputSubmissionRequest} {now : DateTime} {db : Database}
    {calls : List SubmissionCall} {prepared : PreparedRunReference}
    (h : submitAdmits P E user runId request db = .ok (prepared, fun _ _ => pure ())) :
    SubmissionStep P runId user.orgId (.crash E user request now) ⟨db, calls⟩
      ⟨db, submissionCalls P E user runId request now db ++ calls⟩ := ⟨rfl, prepared, _, h, rfl⟩

theorem submit_ends {P : Platform} {E : Environment} {user : UserContext} {runId : String}
    {request : AgentRunInputSubmissionRequest} {now : DateTime} {db : Database}
    {calls : List SubmissionCall} (htimely : Timely runId user.orgId request now db)
    (h : ∀ prepared resume, submitAdmits P E user runId request db = .ok (prepared, resume) →
      resume = fun _ _ => pure ()) : Ends P runId ⟨db, calls⟩ (.submit E user request now) := by
  refine ⟨htimely, fun prepared resume hadmits => ?_⟩
  rw [h prepared resume hadmits]
  exact ⟨db, rfl, rfl⟩

theorem submitAmount_step (source : InputSource) (now : Int) (calls : List SubmissionCall) :
    SubmissionStep samplePlatform sampleRunId sampleUser.orgId (submitAmount now)
      ⟨waitingDatabase source, calls⟩ (afterAmount source now calls) := by
  unfold submitAmount afterAmount amountCalls
  exact submit_step

theorem submitAmount_ends {source : InputSource} {now : Int} (calls : List SubmissionCall)
    (htimely : Timely sampleRunId sampleUser.orgId amountSubmission (.utc now)
      (waitingDatabase source)) :
    Ends samplePlatform sampleRunId ⟨waitingDatabase source, calls⟩ (submitAmount now) := by
  unfold submitAmount
  obtain ⟨_, hrows⟩ := waitingDatabase_rows source
  refine submit_ends htimely fun prepared resume hadmits => ?_
  obtain ⟨_, _, _, _, _, _, _, _, _, hrestore⟩ := submitAdmits_pause hrows.filed hadmits
  exact resuming_returns hrestore

/-- A submission by a user in time is the only one, and within its contract. -/
theorem timely_submissions_respect_sample : ∃ w : SubmissionWorld, w.calls ≠ [] ∧
    w.calls.length ≤ 1 ∧ ∀ call ∈ w.calls, ∃ signal inputs, InputContract sampleRunId
      call.organizationId call.request call.now call.database signal inputs := by
  have hran : (amountCalls .user 22).length = 1 ∧ Timely sampleRunId sampleUser.orgId
      amountSubmission (.utc 22) (waitingDatabase .user) := by decide +kernel
  obtain ⟨hcall, htimely⟩ := hran
  obtain ⟨log, hrows⟩ := waitingDatabase_rows .user
  refine ⟨afterAmount .user 22 [], fun hnone => ?_, (timely_submissions_respect hrows).2 _
    (.single (submitAmount_ends [] htimely) (submitAmount_step .user 22 []))⟩
  have hempty : amountCalls .user 22 ++ [] = [] := hnone
  rw [List.append_nil] at hempty
  rw [hempty] at hcall
  cases hcall

/-- The Pack is called for a slot that no user may fill, after the pause has expired, and twice for
one pause. -/
theorem submissions_break_contract :
    ((amountCalls .system 22).length = 1 ∧ ∀ signal inputs, ¬ InputContract sampleRunId
        sampleUser.orgId amountSubmission (.utc 22) (waitingDatabase .system) signal inputs) ∧
      ((amountCalls .user 30).length = 1 ∧ ∀ signal inputs, ¬ InputContract sampleRunId
        sampleUser.orgId amountSubmission (.utc 30) (waitingDatabase .user) signal inputs) ∧
      ∃ w, Reaches (SubmissionStep samplePlatform sampleRunId sampleUser.orgId) always
        ⟨waitingDatabase .user, []⟩ w ∧ w.calls.length = 2 := by
  have hran : (amountCalls .system 22).length = 1 ∧
      ¬ Timely sampleRunId sampleUser.orgId amountSubmission (.utc 22) (waitingDatabase .system) ∧
      (amountCalls .user 30).length = 1 ∧
      ¬ Timely sampleRunId sampleUser.orgId amountSubmission (.utc 30) (waitingDatabase .user) ∧
      (amountCalls .user 22).length = 1 := by
    decide +kernel
  obtain ⟨hsystem, hsource, hexpired, hlate, hcall⟩ := hran
  obtain ⟨_, hrows⟩ := waitingDatabase_rows .system
  obtain ⟨_, hrows'⟩ := waitingDatabase_rows .user
  obtain ⟨_, _, hsystem'⟩ := amount_admitted hsystem
  obtain ⟨_, _, hexpired'⟩ := amount_admitted hexpired
  obtain ⟨prepared, resume, hadmits⟩ := amount_admitted hcall
  refine ⟨⟨hsystem, fun signal inputs h => hsource ?_⟩, ⟨hexpired, fun signal inputs h => hlate ?_⟩, ?_⟩
  · exact (submitAdmits_respects_iff hrows.filed hsystem').mp ⟨signal, inputs, h⟩
  · exact (submitAdmits_respects_iff hrows'.filed hexpired').mp ⟨signal, inputs, h⟩
  · -- a crash, and the command again
    have hcrash : SubmissionStep samplePlatform sampleRunId sampleUser.orgId
        (.crash (sampleEnvironment resumingAdapter (.utc 22)) sampleUser amountSubmission (.utc 22))
        ⟨waitingDatabase .user, []⟩ ⟨waitingDatabase .user, amountCalls .user 22 ++ []⟩ := by
      obtain ⟨_, _, _, _, _, _, _, _, _, hrestore⟩ := submitAdmits_pause hrows'.filed hadmits
      rw [resuming_returns hrestore] at hadmits
      exact crash_step hadmits
    refine ⟨_, (Reaches.single trivial hcrash).tail trivial (submitAmount_step .user 22 _), ?_⟩
    have hlength : (afterAmount .user 22 (amountCalls .user 22 ++ [])).calls.length =
        (amountCalls .user 22).length + (amountCalls .user 22 ++ []).length := List.length_append
    rw [hlength, List.append_nil, hcall]

end Run

end AgentPact
