import AgentPact.StripePayment.CreationRuns

/-!
# What a creation leaves behind

Whether a call of `create` is answered depends on how far an earlier one came.  One
that stopped before the root was there cannot be completed: every later call is
refused (`abandoned_creation_stuck`).  One that came to the root answers every call
for the same intent, the same Pack and the inputs in normal form, and refuses the
others (`creation_answered`).

Commands, and calls for other requests, leave all of it alone
(`others_leave_creation`).
-/

namespace AgentPact

namespace Stripe

open Base Transaction

/-! ## Calls that come to the gate -/

/-- A call for the request comes to its gate: an operator makes it, and its Pack is there. -/
structure ComesToGate (k : CreationKey) (E : CreationEnvironment StripeMemory) (user : UserContext)
    (request : AgentRunCreateRequest) (selected : PackRuntimeBinding) : Prop where
  of : k.Of user request
  operator : user.isAnyOperator = true
  selects : selectPack E user request = .ok selected
  resolves : ∃ adapter, creatingAdapter E user selected = .ok adapter

theorem creation_comesToGate : ComesToGate creationKey creationEnvironment sampleOperator
    creationRequest stripeBinding :=
  ⟨creationOf, rfl, rfl, _, rfl⟩

section Answers

variable {A : StripeAdapter} {K : AdmissionCodec} {P : Platform} {k : CreationKey}
  {E : CreationEnvironment StripeMemory} {user : UserContext} {request : AgentRunCreateRequest}
  {selected : PackRuntimeBinding} {s : CreationStore StripeMemory} {v w x : CreationWorld}

/-- At the gate, a call that finds a conflict raises it. -/
theorem ComesToGate.create_of_error {e : Raised} (h : ComesToGate k E user request selected)
    (hexisting : existingRun P E user request selected s = .error e) :
    create P E user request s = .error e s := by
  obtain ⟨adapter, hadapter⟩ := h.resolves
  unfold create
  rw [require_bind h.operator, bind_of_ok (lift_eq_ok.mpr ⟨h.selects, rfl⟩),
    bind_of_ok (lift_eq_ok.mpr ⟨hadapter, rfl⟩)]
  exact bind_of_error (query_eq_error.mpr ⟨hexisting, rfl⟩)

/-- At the gate, a call that finds a run returns it. -/
theorem ComesToGate.create_of_ok {projection : AgentRunProjection}
    (h : ComesToGate k E user request selected)
    (hexisting : existingRun P E user request selected s = .ok (some projection)) :
    create P E user request s = .ok projection s := by
  obtain ⟨adapter, hadapter⟩ := h.resolves
  unfold create
  rw [require_bind h.operator, bind_of_ok (lift_eq_ok.mpr ⟨h.selects, rfl⟩),
    bind_of_ok (lift_eq_ok.mpr ⟨hadapter, rfl⟩), bind_of_ok (query_eq_ok.mpr ⟨hexisting, rfl⟩)]
  rfl

/-! ## Creations that stopped -/

/-- A creation that nobody works on, and of which something has committed. -/
structure Abandoned (A : StripeAdapter) (P : Platform) (k : CreationKey)
    (commits : List CreationCommit) (w : CreationWorld) : Prop where
  creating : Creating A P k w
  idle : w.attempt = none
  commits_eq : w.commits = commits

/-- Nobody begins it again. -/
theorem Abandoned.step {commits : List CreationCommit} {l : CreationLabel} (hcodec : K.RoundTrips)
    (hcommits : commits ≠ []) (h : Abandoned A P k commits v) (hstep : CreationStep A K P k l v w) :
    Abandoned A P k commits w := by
  have hcreating := h.creating.step hcodec hstep
  have hidle := h.idle
  cases l with
  | begin E user request selected env inTime =>
      obtain ⟨_, hkey, hexisting, _⟩ := hstep
      have hsome : v.commits ≠ [] := h.commits_eq ▸ hcommits
      exact absurd hexisting (h.creating.finds hsome hkey selected)
  | admission =>
      obtain ⟨a, t, ha, _⟩ := hstep
      cases hidle.symm.trans ha
  | publish createdAt =>
      obtain ⟨a, t, ha, _⟩ := hstep
      cases hidle.symm.trans ha
  | pause r =>
      obtain ⟨a, c, db, ha, _⟩ := hstep
      cases hidle.symm.trans ha
  | leave =>
      cases hstep
      exact ⟨hcreating, rfl, h.commits_eq⟩
  | other =>
      obtain ⟨_, hw⟩ := hstep
      rw [hw] at hcreating ⊢
      exact ⟨hcreating, hidle, h.commits_eq⟩

/-- Only the first transaction has committed: the call is refused. -/
theorem existingRun_admitted (hkey : k.Of user request) (hcreating : Creating A P k w)
    (hcommits : w.commits = [.admission]) :
    existingRun P E user request selected w.store = .error (agentRunError "STATE_CONFLICT") := by
  cases hcreating with
  | nothing hnone _ _ _ => cases hcommits.symm.trans hnone
  | rooted hthere _ _ _ _ _ =>
      rcases hthere with hthere | ⟨hthere, _⟩
      · cases hcommits.symm.trans hthere
      · cases hcommits.symm.trans hthere
  | admitted _ _ _ hadmitted hroot _ =>
      have hnone : w.store.db.getRoot (k.runId P) k.tenantId = none := by
        unfold Database.getRoot Database.task?
        rw [hroot.root]
        rfl
      have hsome := congrArg List.head? hadmitted.row
      unfold existingRun createdRunId
      rw [hkey.1, hkey.2]
      unfold CreationKey.runId at hnone
      rw [hnone]
      unfold Database.admissionsOf at hsome
      unfold Database.admissionFor
      rw [hsome]
      rfl

/-- The creation that a crash interrupts is not taken up again.  From where something of it has
committed and its gate is free, nothing more of it commits, whatever happens, and where that something
is the admission only, every call that comes to the gate is refused. -/
theorem abandoned_creation_stuck (hcodec : K.RoundTrips) (hfresh : v.Fresh P k)
    (hrun : Reaches (CreationStep A K P k) always v w) (hidle : w.attempt = none)
    (hcommits : w.commits ≠ []) (hlater : Reaches (CreationStep A K P k) always w x) :
    x.commits = w.commits ∧
    (w.commits = [.admission] → ∀ E user request selected, ComesToGate k E user request selected →
      create P E user request x.store = .error (agentRunError "STATE_CONFLICT") x.store) := by
  have hcreating := Creating.of_run hcodec hfresh hrun
  have hstuck : Abandoned A P k w.commits x :=
    hlater.invariant (fun _ _ _ _ h hstep => h.step hcodec hcommits hstep) ⟨hcreating, hidle, rfl⟩
  refine ⟨hstuck.commits_eq, fun hadmission E user request selected hgate => ?_⟩
  exact hgate.create_of_error
    (existingRun_admitted hgate.of hstuck.creating (hstuck.commits_eq.trans hadmission))

theorem abandoned_creation_stuck_sample : ∃ w x,
    Reaches (CreationStep creationAdapter creationCodec creationPlatform creationKey) always
      idleWorld w ∧
    Reaches (CreationStep creationAdapter creationCodec creationPlatform creationKey) always w x ∧
    x.commits = [.admission] ∧
    create creationPlatform creationEnvironment sampleOperator creationRequest x.store =
      .error (agentRunError "STATE_CONFLICT") x.store := by
  obtain ⟨w, hrun, hidle, hcommits⟩ := creation_interrupted
  have hlater : Reaches (CreationStep creationAdapter creationCodec creationPlatform creationKey)
      always w w := .refl w
  obtain ⟨_, hrefused⟩ := abandoned_creation_stuck creationCodec_roundTrips idleWorld_fresh hrun
    hidle (hcommits ▸ List.cons_ne_nil _ _) hlater
  exact ⟨w, w, hrun, hlater, hcommits, hrefused hcommits _ _ _ _ creation_comesToGate⟩

/-! ## Answers -/

/-- A request asks for what another one did, with its inputs in the normal form of the other's. -/
structure Repeats (P : Platform) (facts : StripePaymentFacts) (origin request : AgentRunCreateRequest)
    (selected : PackRuntimeBinding) : Prop where
  intent : intentDigest P request = intentDigest P origin
  inputs : facts.inputs.same request.businessInputs
  binding : selected = stripeBinding

/-- Digests are their digits. -/
theorem digest_of_hex {a b : Digest} (h : a.hex = b.hex) : a = b := by
  cases a
  cases b
  cases h
  rfl

/-- A call asks for what its request was admitted with. -/
theorem asksAgain_of_belongs {origin : AgentRunCreateRequest} {run : StripeM10PreparedRun}
    {facts : StripePaymentFacts} (hkey : k.Of user request) (hbelongs : Belongs A P k origin run)
    (hinputs : run.admissionBundle.request.typedInputs = facts.inputs) :
    (Repeats P facts origin request selected →
      asksAgain P user request selected run.admissionBundle = .ok ()) ∧
    (¬ Repeats P facts origin request selected →
      asksAgain P user request selected run.admissionBundle =
        .error (agentRunError "IDEMPOTENCY_CONFLICT")) := by
  have htask : run.admissionBundle.task.taskId = createdRunId P user request := by
    unfold createdRunId
    rw [hbelongs.taskId, hkey.1, hkey.2]
    rfl
  unfold asksAgain
  rw [hbelongs.token, hinputs, hbelongs.binding]
  constructor
  · intro h
    have hfirst : run.admissionBundle.task.taskId = createdRunId P user request ∧
        (intentDigest P origin).hex = (intentDigest P request).hex ∧
        facts.inputs.same request.businessInputs := ⟨htask, by rw [h.intent], h.inputs⟩
    exact ensure_bind_of hfirst (except_bind_of_ok rfl (if_pos h.binding.symm))
  · intro hnot
    by_cases hfirst : run.admissionBundle.task.taskId = createdRunId P user request ∧
        (intentDigest P origin).hex = (intentDigest P request).hex ∧
        facts.inputs.same request.businessInputs
    · refine ensure_bind_of hfirst (except_bind_of_ok rfl (if_neg fun hbinding => hnot ?_))
      exact ⟨(digest_of_hex hfirst.2.1).symm, hfirst.2.2, hbinding.symm⟩
    · exact except_bind_eq_error.mpr (.inl (if_neg hfirst))

/-- A call finds the run of its request. -/
theorem existingRun_rooted {run : StripeM10PreparedRun}
    (hkey : k.Of user request) (hadmitted : AdmittedAs k run s) (hrooted : Rooted P k s) :
    existingRun P E user request selected s =
      (do
        asksAgain P user request selected run.admissionBundle
        let projection ← getRun P E.projecting user (k.runId P) s.db
        pure (some projection)) := by
  obtain ⟨task, htask, _⟩ := hrooted.root
  have hrow := congrArg List.head? hadmitted.row
  have hbundle := hadmitted.bundle
  unfold existingRun createdRunId Database.admissionFor
  unfold Database.admissionsOf at hrow
  unfold CreationKey.runId at htask ⊢
  rw [hkey.1, hkey.2, htask, hrow]
  dsimp only [admissionRow, List.head?_cons]
  rw [hbundle]
  rfl

/-- A creation that came to the root answers.  From then on, a call that comes to the gate gets the run
of the request as it is read, if it asks for what was admitted, with the inputs in the normal form that
the Pack gave them.  Otherwise it is refused.  Nothing is written either way. -/
theorem creation_answered (hcodec : K.RoundTrips) (hfresh : v.Fresh P k)
    (hrun : Reaches (CreationStep A K P k) always v w) (hcommits : .state ∈ w.commits) :
    ∃ origin run facts, w.origin = some (origin, run) ∧
      A.readFacts origin.businessInputs.toJson = .ok facts ∧
      ∀ E user request selected, ComesToGate k E user request selected →
        (Repeats P facts origin request selected →
          create P E user request w.store =
            query (fun s => getRun P E.projecting user (k.runId P) s.db) w.store) ∧
        (¬ Repeats P facts origin request selected →
          create P E user request w.store =
            .error (agentRunError "IDEMPOTENCY_CONFLICT") w.store) := by
  have hcreating := Creating.of_run hcodec hfresh hrun
  cases hcreating with
  | nothing hnone _ _ _ => simp [hnone] at hcommits
  | admitted hadmission _ _ _ _ _ => simp [hadmission] at hcommits
  | @rooted origin run _ horigin hbelongs hadmitted hrooted _ =>
      obtain ⟨facts, hfacts, hinputs⟩ := hbelongs.inputs
      refine ⟨origin, run, facts, horigin, hfacts, fun E user request selected hgate => ?_⟩
      have hexisting : existingRun P E user request selected w.store = _ :=
        existingRun_rooted hgate.of hadmitted hrooted
      obtain ⟨hsame, hother⟩ : (Repeats P facts origin request selected → _) ∧ (_ → _) :=
        asksAgain_of_belongs hgate.of hbelongs hinputs
      constructor
      · intro hrepeats
        rw [hsame hrepeats] at hexisting
        cases hget : getRun P E.projecting user (k.runId P) w.store.db with
        | error e =>
            rw [hget] at hexisting
            refine (hgate.create_of_error hexisting).trans (Eq.symm ?_)
            exact query_eq_error.mpr ⟨hget, rfl⟩
        | ok projection =>
            rw [hget] at hexisting
            refine (hgate.create_of_ok hexisting).trans (Eq.symm ?_)
            exact query_eq_ok.mpr ⟨hget, rfl⟩
      · intro hnot
        rw [hother hnot] at hexisting
        exact hgate.create_of_error hexisting

/-- The run of the examples comes to its root. -/
theorem creation_rooted : ∃ w,
    Reaches (CreationStep creationAdapter creationCodec creationPlatform creationKey) always
      idleWorld w ∧ .state ∈ w.commits ∧ w.origin = some (creationRequest, creationRun) := by
  have hadmits : returned (persistAdmission creationRun emptyStore) = true := by decide +kernel
  have hpublishes : returned (initializeAgentRunState creationAdapter creationCodec creationRun
      (.utc 86400000000) (left (persistAdmission creationRun emptyStore))) = true := by
    decide +kernel
  obtain ⟨_, hadmit⟩ := exists_of_returned hadmits
  generalize left (persistAdmission creationRun emptyStore) = s at hadmit hpublishes
  obtain ⟨_, hpublish⟩ := exists_of_returned hpublishes
  generalize left (initializeAgentRunState creationAdapter creationCodec creationRun
    (.utc 86400000000) s) = t at hpublish
  have hbegun : CreationStep creationAdapter creationCodec creationPlatform creationKey
      (.begin creationEnvironment sampleOperator creationRequest stripeBinding creationAdmitting true)
      idleWorld { idleWorld with attempt := some ⟨creationRequest, creationRun, .prepared⟩ } :=
    ⟨rfl, creationOf, rfl, _, _, creation_prepared, creation_unwrapped, rfl⟩
  have hadmitted : CreationStep creationAdapter creationCodec creationPlatform creationKey .admission
      { idleWorld with attempt := some ⟨creationRequest, creationRun, .prepared⟩ }
      ⟨s, some ⟨creationRequest, creationRun, .admitted⟩, [.admission],
        some (creationRequest, creationRun)⟩ :=
    ⟨_, s, rfl, rfl, hadmit, rfl⟩
  have hpublished : CreationStep creationAdapter creationCodec creationPlatform creationKey
      (.publish (.utc 86400000000))
      ⟨s, some ⟨creationRequest, creationRun, .admitted⟩, [.admission],
        some (creationRequest, creationRun)⟩
      ⟨t, some ⟨creationRequest, creationRun, .initialized⟩, [.admission, .state],
        some (creationRequest, creationRun)⟩ :=
    ⟨_, t, rfl, rfl, hpublish, rfl⟩
  have hsecond : Reaches (CreationStep creationAdapter creationCodec creationPlatform creationKey)
      always idleWorld _ := (Reaches.single trivial hbegun).tail trivial hadmitted
  exact ⟨_, hsecond.tail trivial hpublished, by simp, rfl⟩

/-- A request for the same run, with another intent. -/
def otherIntent : AgentRunCreateRequest := { creationRequest with
  intent := "refund"
  intent_length := by decide }

theorem creation_answered_sample : ∃ w,
    Reaches (CreationStep creationAdapter creationCodec creationPlatform creationKey) always
      idleWorld w ∧
    create creationPlatform creationEnvironment sampleOperator creationRequest w.store =
      query (fun s => getRun creationPlatform listingEnvironment sampleOperator
        (creationKey.runId creationPlatform) s.db) w.store ∧
    create creationPlatform creationEnvironment sampleOperator otherIntent w.store =
      .error (agentRunError "IDEMPOTENCY_CONFLICT") w.store := by
  obtain ⟨w, hrun, hcommits, horigin⟩ := creation_rooted
  obtain ⟨origin, run, facts, horigin', hfacts, hanswers⟩ :=
    creation_answered creationCodec_roundTrips idleWorld_fresh hrun hcommits
  cases horigin.symm.trans horigin'
  have hread : creationAdapter.readFacts creationRequest.businessInputs.toJson = .ok sampleFacts :=
    Compiler.readFacts_modelDump sampleFacts_wellFormed
  cases hread.symm.trans hfacts
  refine ⟨w, hrun, (hanswers _ _ _ _ creation_comesToGate).1 ⟨rfl, rfl, rfl⟩, ?_⟩
  refine (hanswers creationEnvironment sampleOperator otherIntent stripeBinding
    ⟨creationOf, rfl, rfl, _, rfl⟩).2 fun hrepeats => ?_
  have hdifferent : intentDigest creationPlatform otherIntent ≠
      intentDigest creationPlatform creationRequest := by
    decide +kernel
  exact hdifferent hrepeats.intent

end Answers

/-! ## What else goes on -/

section Others

variable {A : StripeAdapter} {K : AdmissionCodec} {P : Platform} {k : CreationKey}
  {E : CreationEnvironment StripeMemory} {user : UserContext} {request : AgentRunCreateRequest}
  {run : StripeM10PreparedRun} {s : CreationStore StripeMemory}

/-- A run is of another request. -/
structure Elsewhere (P : Platform) (k : CreationKey) (run : StripeM10PreparedRun) : Prop where
  request : ¬ (run.admissionBundle.task.organizationId = k.tenantId ∧
    run.admissionBundle.request.requestId = k.requestId)
  runId : run.runId ≠ k.runId P

theorem Elsewhere.persistAdmission (h : Elsewhere P k run) :
    Within (LeavesRequest P k) (persistAdmission run) := by
  intro s
  rcases (persistAdmission_clean run).left_cases s with hsame | ⟨_, hok⟩
  · rw [hsame]
    exact .refl s
  · exact persistAdmission_leaves hok h.request

theorem Elsewhere.initializeAgentRunState (h : Elsewhere P k run) (createdAt : DateTime) :
    Within (LeavesRequest P k) (initializeAgentRunState A K run createdAt) := by
  intro s
  rcases (initializeAgentRunState_clean A K run createdAt).left_cases s with hsame | ⟨_, hok⟩
  · rw [hsame]
    exact .refl s
  · exact initializeAgentRunState_leaves hok h.runId

/-- A pause for an approval. -/
theorem approvalHandler_leaves (prepared : PreparedRunReference)
    (specification : ApprovalRequestSpecification) (operationKey : String) :
    Within (LeavesRequest P k)
      (onDatabase (approvalHandler P E prepared specification operationKey) :
        AdmissionTx GovernedPlanCheckpoint) := by
  intro s
  unfold onDatabase
  rw [left_on]
  refine .of_createsNothing rfl ?_
  unfold approvalHandler
  cases hpause : pauseRunForApproval P _ s.db with
  | ok c db => exact .pause hpause
  | error e db =>
      rw [pauseRunForApproval_clean _ _ _ _ _ hpause]
      exact .refl s.db

/-- An outcome leaves a request alone. -/
def LeavesAlone (P : Platform) (k : CreationKey) (s : CreationStore StripeMemory) {α : Type}
    (r : EStateM.Result Raised (CreationStore StripeMemory) α) : Prop :=
  LeavesRequest P k s (left r)

/-- Admitting a run of another request. -/
theorem admitRun_leaves {env : AdmitEnvironment} {prepared : PreparedRunReference}
    {operationKey : String}
    (h : ∀ run, StripeAdapter.unwrap K prepared = .ok run → Elsewhere P k run) :
    LeavesAlone P k s (A.admitRun K env (approvalHandler P E) prepared operationKey s) := by
  unfold StripeAdapter.admitRun
  refine lift_bind_elim (fun _ _ => LeavesRequest.refl s) fun run hrun => ?_
  have helsewhere := h run hrun
  have hwithin : Within (LeavesRequest P k) (do
      Stripe.persistAdmission run
      Stripe.initializeAgentRunState A K run env.admittedAt
      let challenge ← prepareChallenge A run env.prepare
      let specification ← lift (approvalSpecification A run challenge env.specifiedAt)
      let _ ← onDatabase (approvalHandler P E prepared specification operationKey)
      pure (StripeAdapter.admissionResult prepared run specification.stepId)) := by
    refine .bind LeavesRequest.trans helsewhere.persistAdmission fun _ => ?_
    refine .bind LeavesRequest.trans (helsewhere.initializeAgentRunState _) fun _ => ?_
    refine .bind LeavesRequest.trans (prepareChallenge_leaves run _) fun challenge => ?_
    refine .bind LeavesRequest.trans (.lift LeavesRequest.refl _) fun specification => ?_
    exact .bind LeavesRequest.trans (approvalHandler_leaves _ _ _) fun _ =>
      .pure LeavesRequest.refl _
  exact hwithin s

/-- A call for another request, with a run of another id. -/
theorem create_leaves (hcodec : K.RoundTrips) (hother : ¬ k.Of user request)
    (hrunId : createdRunId P user request ≠ k.runId P) (hpack : CreatesWith A K E user) :
    LeavesAlone P k s (create P E user request s) := by
  unfold create
  refine require_bind_elim (fun _ => LeavesRequest.refl s) fun _ => ?_
  refine lift_bind_elim (fun _ _ => LeavesRequest.refl s) fun selected _ => ?_
  refine lift_bind_elim (fun _ _ => LeavesRequest.refl s) fun adapter hadapter => ?_
  obtain ⟨env, inTime, rfl⟩ := hpack selected adapter hadapter
  refine bind_elim (fun e t h => ?_) fun found t h => ?_
  · obtain ⟨_, rfl⟩ := query_eq_error.mp h
    exact .refl _
  obtain ⟨_, rfl⟩ := query_eq_ok.mp h
  cases found with
  | some projection => exact .refl _
  | none =>
      refine lift_bind_elim (fun _ _ => LeavesRequest.refl _) fun prepared hprepared => ?_
      have helsewhere : ∀ run, StripeAdapter.unwrap K prepared = .ok run → Elsewhere P k run := by
        intro run hrun
        have hbelongs : Belongs A P ⟨user.orgId, request.requestId⟩ request run :=
          belongs_of_prepared hcodec ⟨rfl, rfl⟩ hprepared hrun
        refine ⟨fun hsame => hother ⟨?_, ?_⟩, fun hsame => hrunId ?_⟩
        · exact hbelongs.organization.symm.trans hsame.1
        · exact hbelongs.requestId.symm.trans hsame.2
        · exact hbelongs.runId.symm.trans hsame
      have hget : ∀ s : CreationStore StripeMemory,
          left (onDatabase (getProjection P E.projecting user prepared.runId) s) = s := by
        intro s
        unfold onDatabase
        rw [left_on]
        exact congrArg (fun db => { s with db := db }) left_query
      unfold LeavesAlone
      rw [left_bind_of_keeps fun _ t _ => hget t]
      unfold admitPrepared
      rw [left_translating, left_bind_of_keeps fun admitted t _ =>
        Keeps.bind (.lift _) fun _ _ => .pure ()]
      exact admitRun_leaves helsewhere

/-- Every command of the service, for any run, and every call of `create` for another request leave
the creation of a request as it is: its admission, its root but for its status, and its first event.
They are steps of the system of its creation. -/
theorem others_leave_creation (hcodec : K.RoundTrips) (w : CreationWorld) :
    (∀ (E : Environment) user runId (command : AgentRunCommand),
      PacksWithin P E user Database.CreatesNothing w.store.db →
      CreationStep A K P k .other w
        { w with store := { w.store with db := left (command.run P E user runId w.store.db) } }) ∧
    (∀ (E : CreationEnvironment StripeMemory) user request, CreatesWith A K E user →
      ¬ k.Of user request → createdRunId P user request ≠ k.runId P →
      CreationStep A K P k .other w
        { w with store := left (create P E user request w.store) }) := by
  constructor
  · intro E user runId command hpacks
    refine ⟨.of_createsNothing rfl ?_, rfl⟩
    exact AgentRunCommand.within (Database.CreatesNothing.frames user) hpacks runId command
  · intro E user request hpack hother hrunId
    exact ⟨create_leaves hcodec hother hrunId hpack, rfl⟩

/-- Another request. -/
def otherCreationRequest : AgentRunCreateRequest := { creationRequest with
  requestId := "request2"
  requestId_shape := by decide }

theorem others_leave_creation_sample :
    CreationStep creationAdapter creationCodec creationPlatform creationKey .other idleWorld
      { idleWorld with store := left (create creationPlatform creationEnvironment sampleOperator
        otherCreationRequest emptyStore) } := by
  have hother : ¬ creationKey.Of sampleOperator otherCreationRequest := by
    rintro ⟨_, hsame⟩
    exact absurd hsame (by decide)
  have hrunId : createdRunId creationPlatform sampleOperator otherCreationRequest ≠
      creationKey.runId creationPlatform := by decide +kernel
  exact (others_leave_creation creationCodec_roundTrips idleWorld).2 creationEnvironment
    sampleOperator otherCreationRequest creationEnvironment_creates hother hrunId

end Others

end Stripe

end AgentPact
