import AgentPact.Base.Lts
import AgentPact.JsonDump
import AgentPact.StripePayment.BusinessValues
import AgentPact.StripePayment.RequestRows

/-!
# Runs of a creation

A call of `create` commits three transactions: the admission, the root with its first
event, and the pause for an approval.  It may crash between any two of them, and be
called again.  Calls for one request wait for each other at its gate, and everything
else goes on between their transactions.

`CreationStep` is that system, for one request.  Whatever happens, each of the
transactions commits at most once, in this order (`creation_commits_once`), and a
call of `create` does what the system can do (`create_reaches`).
-/

namespace AgentPact

/-- A call is for the request. -/
def CreationKey.Of (k : CreationKey) (user : UserContext) (request : AgentRunCreateRequest) : Prop :=
  user.orgId = k.tenantId ∧ request.requestId = k.requestId

namespace Stripe

open Base Transaction

/-! ## The system -/

/-- A transaction of a creation. -/
inductive CreationCommit where
  | admission | state | pause
deriving DecidableEq, Repr

/-- How far a call is. -/
inductive CreationPhase where
  | prepared | admitted | initialized
deriving DecidableEq, Repr

/-- A call that has found nothing and has a run prepared. -/
structure Attempt where
  request : AgentRunCreateRequest
  run : StripeM10PreparedRun
  phase : CreationPhase

/-- The store, the call that holds the gate of the request, and what it has come to: the transactions
that committed, and the request and the run that were admitted. -/
structure CreationWorld where
  store : CreationStore StripeMemory
  attempt : Option Attempt
  commits : List CreationCommit
  origin : Option (AgentRunCreateRequest × StripeM10PreparedRun)

/-- What may happen. -/
inductive CreationLabel where
  /-- A call passes the gate, finds nothing, and has a run prepared. -/
  | begin (environment : CreationEnvironment StripeMemory) (user : UserContext)
      (request : AgentRunCreateRequest) (selected : PackRuntimeBinding) (admitting : AdmitEnvironment)
      (inTime : Bool)
  | admission
  | publish (createdAt : DateTime)
  | pause (request : RunApprovalPause)
  /-- The call raises or returns, or its process crashes. -/
  | leave
  /-- Something that leaves the request alone. -/
  | other

section

variable (A : StripeAdapter) (K : AdmissionCodec) (P : Platform) (k : CreationKey)

/-- One step. -/
def CreationStep : CreationLabel → CreationWorld → CreationWorld → Prop
  | .begin E user request selected env inTime, v, w =>
      v.attempt = none ∧ k.Of user request ∧
        existingRun P E user request selected v.store = .ok none ∧
        ∃ prepared run, preparedRun P E user request selected (A.creating K env inTime) =
            .ok prepared ∧ StripeAdapter.unwrap K prepared = .ok run ∧
          w = { v with attempt := some ⟨request, run, .prepared⟩ }
  | .admission, v, w => ∃ a t, v.attempt = some a ∧ a.phase = .prepared ∧
      persistAdmission a.run v.store = .ok () t ∧
      w = ⟨t, some { a with phase := .admitted }, v.commits ++ [.admission],
        some (a.request, a.run)⟩
  | .publish createdAt, v, w => ∃ a t, v.attempt = some a ∧ a.phase = .admitted ∧
      initializeAgentRunState A K a.run createdAt v.store = .ok () t ∧
      w = ⟨t, some { a with phase := .initialized }, v.commits ++ [.state], v.origin⟩
  | .pause r, v, w => ∃ a c db, v.attempt = some a ∧ a.phase = .initialized ∧
      pauseRunForApproval P r v.store.db = .ok c db ∧
      w = ⟨{ v.store with db := db }, none, v.commits ++ [.pause], v.origin⟩
  | .leave, v, w => w = { v with attempt := none }
  | .other, v, w => LeavesRequest P k v.store w.store ∧ w = { v with store := w.store }

end

/-- `model_validate` accepts a dump as nothing but what `model_dump` was taken of. -/
def AdmissionCodec.RoundTrips (K : AdmissionCodec) : Prop :=
  ∀ run run', K.validateRun (K.dumpRun run) = .ok run' → run' = run

/-! ## Prepared runs -/

/-- A run is what a request asks for. -/
structure Belongs (A : StripeAdapter) (P : Platform) (k : CreationKey)
    (request : AgentRunCreateRequest) (run : StripeM10PreparedRun) : Prop where
  runId : run.runId = k.runId P
  user : run.user.orgId = k.tenantId
  organization : run.admissionBundle.task.organizationId = k.tenantId
  requestId : run.admissionBundle.request.requestId = k.requestId
  taskId : run.admissionBundle.task.taskId = k.runId P
  token : lastWord run.admissionBundle.request.userIntentSummary = (intentDigest P request).hex
  inputs : ∃ facts, A.readFacts request.businessInputs.toJson = .ok facts ∧
    run.admissionBundle.request.typedInputs = facts.inputs
  binding : run.admissionBundle.runtimeBinding = some stripeBinding

section Prepared

variable {A : StripeAdapter} {K : AdmissionCodec} {P : Platform} {k : CreationKey}
  {E : CreationEnvironment StripeMemory} {user : UserContext} {request : AgentRunCreateRequest}
  {selected : PackRuntimeBinding} {env : AdmitEnvironment} {inTime : Bool}
  {prepared : PreparedRunReference} {run : StripeM10PreparedRun}

/-- A run that is prepared for a request belongs to it. -/
theorem belongs_of_prepared (hcodec : K.RoundTrips) (hkey : k.Of user request)
    (hprepared : preparedRun P E user request selected (A.creating K env inTime) = .ok prepared)
    (hrun : StripeAdapter.unwrap K prepared = .ok run) : Belongs A P k request run := by
  simp only [preparedRun, except_bind_eq_ok, demand_eq_ok, exists_const, mapError_eq_ok,
    orAgentRunError_eq_ok] at hprepared
  obtain ⟨packRequest, hpack, answer, hanswer, returned, hreturned, prepared', hsome, hprepares,
    hpure⟩ := hprepared
  cases hpure
  -- what the adapter returns in time is the reference of a run it prepared
  obtain ⟨run₀, hprepare, hreference⟩ : ∃ run₀, A.prepareRun packRequest = .ok run₀ ∧
      prepared = A.reference K.toRunCodec run₀ := by
    simp only [StripeAdapter.creating] at hanswer
    split at hanswer
    case isFalse => cases hanswer
    case isTrue =>
      cases hanswer
      cases hprep : A.prepareRun packRequest with
      | error e => rw [hprep] at hreturned; cases hreturned
      | ok run₀ =>
          rw [hprep] at hreturned
          cases hreturned
          cases hsome
          exact ⟨run₀, rfl, rfl⟩
  simp only [StripeAdapter.unwrap, except_bind_eq_ok, ensure_eq_ok] at hrun
  obtain ⟨_, _, run', hvalidate, _, _, hpure⟩ := hrun
  cases hpure
  have hsame : run = run₀ := by
    rw [hreference] at hvalidate
    exact hcodec run₀ run hvalidate
  subst hsame
  obtain ⟨facts, proposal, normalized, hfacts, rfl⟩ := StripeAdapter.prepareRun_eq_ok.mp hprepare
  simp only [PreparedRunReference.prepares, Bool.and_eq_true, decide_eq_true_eq] at hprepares
  unfold packRunRequest at hpack
  split at hpack
  case isFalse => cases hpack
  case isTrue =>
    cases hpack
    have hid : derivePackRunId A.process.platform user.orgId request.requestId = k.runId P := by
      have hrunId := hprepares.1.1.1.1.1
      rw [hreference] at hrunId
      refine hrunId.trans ?_
      unfold createdRunId CreationKey.runId
      rw [hkey.1, hkey.2]
    exact
      { runId := hid
        user := hkey.1
        organization := hkey.1
        requestId := hkey.2
        taskId := hid
        token := lastWord_digest _
        inputs := ⟨facts, hfacts.read, rfl⟩
        binding := rfl }

end Prepared

/-! ## What is there after each transaction -/

/-- The row of an admission. -/
def admissionRow (bundle : Admission.TaskAdmissionBundle) : GovernedTaskAdmissionModel :=
  ⟨bundle.admissionId, bundle.task.organizationId, bundle.request.requestId, bundle.task.taskId,
    bundle.stored⟩

/-- The request is admitted, with a run. -/
structure AdmittedAs (k : CreationKey) (run : StripeM10PreparedRun)
    (s : CreationStore StripeMemory) : Prop where
  row : s.db.admissionsOf k = [admissionRow run.admissionBundle]
  bundle : s.bundles run.admissionBundle.admissionId = some run.admissionBundle

/-- The run of the request has no root and no journal. -/
structure Unrooted (P : Platform) (k : CreationKey) (s : CreationStore StripeMemory) : Prop where
  root : s.db.tasks.find? (k.runId P) = none
  events : s.db.admittedEvents (k.runId P) = []

/-- The run of the request has its root, and one first event. -/
structure Rooted (P : Platform) (k : CreationKey) (s : CreationStore StripeMemory) : Prop where
  root : ∃ task, s.db.getRoot (k.runId P) k.tenantId = some task ∧
    task.application = some planApplicationMarker
  events : ∃ row, s.db.admittedEvents (k.runId P) = [row]

/-- Nothing is there of the request, and nobody holds its gate. -/
structure CreationWorld.Fresh (P : Platform) (k : CreationKey) (w : CreationWorld) : Prop where
  attempt : w.attempt = none
  commits : w.commits = []
  admissions : w.store.db.admissionsOf k = []
  unrooted : Unrooted P k w.store

section Stages

variable {A : StripeAdapter} {K : AdmissionCodec} {P : Platform} {k : CreationKey}
  {request : AgentRunCreateRequest} {run : StripeM10PreparedRun} {createdAt : DateTime}
  {s t : CreationStore StripeMemory} {u : Unit}

theorem AdmittedAs.leaves (h : AdmittedAs k run s) (hleaves : LeavesRequest P k s t) :
    AdmittedAs k run t := by
  have hmem : admissionRow run.admissionBundle ∈ s.db.admissionsOf k := by simp [h.row]
  exact ⟨hleaves.admissions.trans h.row, (hleaves.bundles _ hmem).trans h.bundle⟩

theorem Unrooted.leaves (h : Unrooted P k s) (hleaves : LeavesRequest P k s t) : Unrooted P k t :=
  ⟨hleaves.fresh h.root, hleaves.admitted.trans h.events⟩

theorem Rooted.leaves (h : Rooted P k s) (hleaves : LeavesRequest P k s t) : Rooted P k t := by
  obtain ⟨task, htask, hmarker⟩ := h.root
  obtain ⟨hfind, hown⟩ := Option.filter_eq_some_iff.mp htask
  obtain ⟨task', hfind', hsame⟩ := hleaves.root task hfind
  refine ⟨⟨task', Option.filter_eq_some_iff.mpr ⟨hfind', ?_⟩, ?_⟩, ?_⟩
  · rw [hsame]
    exact hown
  · rw [hsame]
    exact hmarker
  · rw [hleaves.admitted]
    exact h.events

/-- The admission of a request that had none. -/
theorem persistAdmission_admits (hbelongs : Belongs A P k request run)
    (hnone : s.db.admissionsOf k = []) (h : persistAdmission run s = .ok u t) :
    AdmittedAs k run t ∧ (Unrooted P k s → Unrooted P k t) := by
  have hfree : s.db.admissionFor run.admissionBundle.task.organizationId
      run.admissionBundle.request.requestId = none := by
    rw [hbelongs.organization, hbelongs.requestId]
    exact congrArg List.head? hnone
  rcases persistAdmission_eq_ok.mp h with ⟨_, _, hsome, _⟩ | ⟨_, hinsert⟩
  · cases hfree.symm.trans hsome
  · obtain ⟨admissions, hadded, rfl⟩ := Option.map_eq_some_iff.mp hinsert
    refine ⟨⟨?_, Function.update_self ..⟩, fun hroot => ⟨hroot.root, hroot.events⟩⟩
    show admissions.select _ = _
    rw [Table.select_insert? hadded, if_pos (by simp [hbelongs.organization, hbelongs.requestId])]
    exact congrArg (· ++ [admissionRow run.admissionBundle]) hnone

/-- The root and the first event of a run that had none. -/
theorem initializeAgentRunState_roots (hbelongs : Belongs A P k request run)
    (hnone : Unrooted P k s) (h : initializeAgentRunState A K run createdAt s = .ok u t) :
    Rooted P k t ∧ (AdmittedAs k run s → AdmittedAs k run t) := by
  obtain ⟨v, w, checkpoint, h⟩ := initializeAgentRunState_eq_ok h
  obtain ⟨task, htask, hmarker⟩ := publishTask_root h.root
  rw [hbelongs.runId, hbelongs.user] at htask
  -- the root is added, so the journal is as it was
  have hadded : insertTask? ⟨run.runId, run.user.orgId, .running, some planApplicationMarker⟩ s =
      some v := by
    rcases publishTask_eq_ok.mp h.root with ⟨found, hfound, _⟩ | ⟨_, hadded⟩
    · have hfind := (Option.filter_eq_some_iff.mp hfound).1
      rw [hbelongs.runId, hnone.root] at hfind
      cases hfind
    · exact hadded
  obtain ⟨tasks, _, rfl⟩ := Option.map_eq_some_iff.mp hadded
  have hevents : w.db.admittedEvents run.runId = [] := by
    unfold Database.admittedEvents
    rw [h.elsewhere.audit, hbelongs.runId]
    exact hnone.events
  rcases publishEvent_eq_ok.mp h.event with ⟨hsome, _⟩ | ⟨_, hinsert⟩
  · exact absurd hevents hsome
  · obtain ⟨db, hrow, rfl⟩ := Option.map_eq_some_iff.mp hinsert
    obtain ⟨audit, haudit, rfl⟩ := Database.insertAudit?_eq_some.mp hrow
    refine ⟨⟨⟨task, ?_, hmarker⟩, ?_⟩, fun hadmitted => ⟨?_, ?_⟩⟩
    · show (w.db.tasks.find? _).filter _ = _
      rw [h.elsewhere.tasks]
      exact htask
    · refine ⟨eventRow (admittedEvent A.process.platform checkpoint (authorityDigests A K run)
        createdAt) run.user.orgId, ?_⟩
      show audit.select _ = _
      rw [Table.select_insert? haudit, isAdmittedEvent_eventRow,
        stripeInitialCheckpoint_root h.starts, hbelongs.runId, if_pos (decide_eq_true rfl)]
      rw [hbelongs.runId] at hevents
      exact congrArg (· ++ [_]) hevents
    · show w.db.admissions.select _ = _
      rw [h.elsewhere.admissions]
      exact hadmitted.row
    · show w.bundles _ = _
      rw [h.elsewhere.bundles]
      exact hadmitted.bundle

end Stages

/-! ## The invariant -/

/-- How far the creation of a request is. -/
inductive Creating (A : StripeAdapter) (P : Platform) (k : CreationKey) (w : CreationWorld) : Prop
  | nothing (hcommits : w.commits = []) (hrows : w.store.db.admissionsOf k = [])
      (hroot : Unrooted P k w.store)
      (hattempt : ∀ a, w.attempt = some a → a.phase = .prepared ∧ Belongs A P k a.request a.run)
  | admitted {request : AgentRunCreateRequest} {run : StripeM10PreparedRun}
      (hcommits : w.commits = [.admission]) (horigin : w.origin = some (request, run))
      (hbelongs : Belongs A P k request run) (hrows : AdmittedAs k run w.store)
      (hroot : Unrooted P k w.store)
      (hattempt : ∀ a, w.attempt = some a → a.phase = .admitted ∧ a.run = run)
  | rooted {request : AgentRunCreateRequest} {run : StripeM10PreparedRun}
      (hcommits : w.commits = [.admission, .state] ∨
        w.commits = [.admission, .state, .pause] ∧ w.attempt = none)
      (horigin : w.origin = some (request, run)) (hbelongs : Belongs A P k request run)
      (hrows : AdmittedAs k run w.store) (hroot : Rooted P k w.store)
      (hattempt : ∀ a, w.attempt = some a → a.phase = .initialized)

section Invariant

variable {A : StripeAdapter} {K : AdmissionCodec} {P : Platform} {k : CreationKey}
  {v w : CreationWorld} {l : CreationLabel}

/-- The first transaction of a call finds nothing where nothing is. -/
theorem existingRun_eq_none {E : CreationEnvironment StripeMemory} {user : UserContext}
    {request : AgentRunCreateRequest} {selected : PackRuntimeBinding}
    {s : CreationStore StripeMemory} (hkey : k.Of user request)
    (h : existingRun P E user request selected s = .ok none) :
    s.db.getRoot (k.runId P) k.tenantId = none ∧ s.db.admissionsOf k = [] := by
  unfold existingRun createdRunId at h
  rw [hkey.1, hkey.2] at h
  split at h
  case h_1 hroot hrows => exact ⟨hroot, List.head?_eq_none_iff.mp hrows⟩
  case h_2 =>
    simp only [except_bind_eq_ok] at h
    obtain ⟨_, _, _, _, _, _, hpure⟩ := h
    cases hpure
  case h_3 => cases h

/-- Every step keeps to the stages. -/
theorem Creating.step (hcodec : K.RoundTrips) (h : Creating A P k v)
    (hstep : CreationStep A K P k l v w) : Creating A P k w := by
  cases l with
  | begin E user request selected env inTime =>
      obtain ⟨_, hkey, hexisting, prepared, run, hprepared, hrun, rfl⟩ := hstep
      have hbelongs := belongs_of_prepared hcodec hkey hprepared hrun
      have hrows := (existingRun_eq_none hkey hexisting).2
      cases h with
      | nothing hcommits _ hroot _ =>
          refine .nothing hcommits hrows hroot fun a ha => ?_
          cases ha
          exact ⟨rfl, hbelongs⟩
      | admitted _ _ _ hadmitted _ _ => cases hadmitted.row.symm.trans hrows
      | rooted _ _ _ hadmitted _ _ => cases hadmitted.row.symm.trans hrows
  | admission =>
      obtain ⟨a, t, ha, hphase, hpersist, rfl⟩ := hstep
      cases h with
      | nothing hcommits hrows hroot hattempt =>
          obtain ⟨_, hbelongs⟩ := hattempt a ha
          obtain ⟨hadmitted, hkeeps⟩ := persistAdmission_admits hbelongs hrows hpersist
          refine .admitted ?_ rfl hbelongs hadmitted (hkeeps hroot) fun b hb => ?_
          · rw [hcommits]
            rfl
          · cases hb
            exact ⟨rfl, rfl⟩
      | admitted _ _ _ _ _ hattempt => cases hphase.symm.trans (hattempt a ha).1
      | rooted _ _ _ _ _ hattempt => cases hphase.symm.trans (hattempt a ha)
  | publish createdAt =>
      obtain ⟨a, t, ha, hphase, hinitialize, rfl⟩ := hstep
      cases h with
      | nothing _ _ _ hattempt => cases hphase.symm.trans (hattempt a ha).1
      | admitted hcommits horigin hbelongs hadmitted hroot hattempt =>
          obtain ⟨_, rfl⟩ := hattempt a ha
          obtain ⟨hrooted, hkeeps⟩ := initializeAgentRunState_roots hbelongs hroot hinitialize
          refine .rooted (.inl ?_) horigin hbelongs (hkeeps hadmitted) hrooted fun b hb => ?_
          · rw [hcommits]
            rfl
          · cases hb
            rfl
      | rooted _ _ _ _ _ hattempt => cases hphase.symm.trans (hattempt a ha)
  | pause r =>
      obtain ⟨a, c, db, ha, hphase, hpause, rfl⟩ := hstep
      cases h with
      | nothing _ _ _ hattempt => cases hphase.symm.trans (hattempt a ha).1
      | admitted _ _ _ _ _ hattempt => cases hphase.symm.trans (hattempt a ha).1
      | rooted hcommits horigin hbelongs hadmitted hrooted _ =>
          have hleaves : LeavesRequest P k v.store { v.store with db := db } :=
            .of_createsNothing rfl (.pause hpause)
          rcases hcommits with hcommits | ⟨_, hnone⟩
          · refine .rooted (.inr ⟨?_, rfl⟩) horigin hbelongs (hadmitted.leaves hleaves)
              (hrooted.leaves hleaves) fun b hb => by cases hb
            rw [hcommits]
            rfl
          · cases hnone.symm.trans ha
  | leave =>
      cases hstep
      cases h with
      | nothing hcommits hrows hroot _ =>
          exact .nothing hcommits hrows hroot fun a ha => by cases ha
      | admitted hcommits horigin hbelongs hadmitted hroot _ =>
          exact .admitted hcommits horigin hbelongs hadmitted hroot fun a ha => by cases ha
      | rooted hcommits horigin hbelongs hadmitted hrooted _ =>
          exact .rooted (hcommits.imp_right fun h => ⟨h.1, rfl⟩) horigin hbelongs hadmitted hrooted
            fun a ha => by cases ha
  | other =>
      obtain ⟨hleaves, hw⟩ := hstep
      rw [hw]
      cases h with
      | nothing hcommits hrows hroot hattempt =>
          exact .nothing hcommits (hleaves.admissions.trans hrows) (hroot.leaves hleaves) hattempt
      | admitted hcommits horigin hbelongs hadmitted hroot hattempt =>
          exact .admitted hcommits horigin hbelongs (hadmitted.leaves hleaves)
            (hroot.leaves hleaves) hattempt
      | rooted hcommits horigin hbelongs hadmitted hrooted hattempt =>
          exact .rooted hcommits horigin hbelongs (hadmitted.leaves hleaves)
            (hrooted.leaves hleaves) hattempt

/-- Every run keeps to the stages. -/
theorem Creating.of_run (hcodec : K.RoundTrips) (hfresh : v.Fresh P k)
    (hrun : Reaches (CreationStep A K P k) always v w) : Creating A P k w := by
  have hstart : Creating A P k v :=
    .nothing hfresh.commits hfresh.admissions hfresh.unrooted fun a ha => by
      cases hfresh.attempt.symm.trans ha
  exact hrun.invariant (fun _ _ _ _ h hstep => h.step hcodec hstep) hstart

end Invariant

/-! ## A creation for the examples -/

/-- A platform that writes documents as `json.dumps` does. -/
def creationPlatform : Platform :=
  { samplePlatform with dumps := Json.dumps Json.fractionText, isoformat := fun _ => "later" }

/-- The recorded adapter, there. -/
def creationAdapter : StripeAdapter :=
  { recordedAdapter with process := { sampleCompiler.process with platform := creationPlatform } }

/-- A request for the payment of the examples. -/
def creationRequest : AgentRunCreateRequest where
  requestId := "request"
  intent := "pay"
  businessInputs := sampleFacts.inputs
  pack := none
  requestId_shape := by decide
  intent_length := by decide

/-- What the recorded adapter is asked to prepare. -/
def creationPackRequest : PackRunRequest :=
  { sampleRequest sampleOperator with intentDigest := intentDigest creationPlatform creationRequest }

/-- The run that it prepares. -/
def creationRun : StripeM10PreparedRun :=
  creationAdapter.preparedFrom creationPackRequest sampleFacts ⟨capabilityId, sampleFacts.inputs⟩
    sampleFacts

theorem creationRun_prepared : creationAdapter.prepareRun creationPackRequest = .ok creationRun :=
  StripeAdapter.prepareRun_eq_ok.mpr ⟨_, _, _,
    { read := Compiler.readFacts_modelDump sampleFacts_wellFormed
      tenant := rfl
      named := by decide
      range := sampleTime_inRange
      executes := sampleOperator_executes
      proposes := Compiler.proposed_deterministicPlanner sampleFacts_wellFormed }, rfl⟩

open Classical in
/-- A codec for one run. -/
noncomputable def creationCodec : AdmissionCodec where
  toRunCodec := { sampleCodec creationAdapter creationRun with
    dumpRun := fun run => if run = creationRun then [] else [("other", .null)] }
  validateRun
    | [] => .ok creationRun
    | _ => .error invalidDocument
  bundleText _ := ""
  compilationText _ := ""
  stepText _ := ""
  workOrderText _ := ""

theorem creationCodec_dump : creationCodec.dumpRun creationRun = [] := if_pos rfl

theorem creationCodec_roundTrips : creationCodec.RoundTrips := by
  intro run run' h
  by_cases hrun : run = creationRun
  · rw [hrun, creationCodec_dump] at h
    rw [hrun]
    exact (Except.ok.inj h).symm
  · have hdump : creationCodec.dumpRun run = [("other", .null)] := if_neg hrun
    rw [hdump] at h
    cases h

/-- What it is admitted with. -/
def creationAdmitting : AdmitEnvironment :=
  ⟨.utc 86400000000, .utc 86400000000, ⟨.utc 86400000000, "grant", "task", "step", "contract", "plan",
    "planStep", "order", "intent", "decision", "challenge"⟩⟩

/-- A call finds the recorded adapter. -/
noncomputable def creationEnvironment : CreationEnvironment StripeMemory where
  registry :=
    { tenantScoped := false
      requireForTenant := fun _ _ _ _ _ => .error ⟨.lookupError, "No active installation"⟩
      requirePack := fun _ _ => .ok (creationAdapter.creating creationCodec creationAdmitting true)
      requireBinding := fun _ => .ok (creationAdapter.creating creationCodec creationAdmitting true) }
  defaultPackBinding := some stripeBinding
  projecting := listingEnvironment
  selectedAt := .utc 86400000000
  resolvedAt := .utc 86400000000
  preparedAt := .utc 86400000000
  pendingActionId := "action"
  approvalId := "approval"
  ttlReadAt := .utc 86400000000
  createdAt := .utc 86400000000
  attachedAt := .utc 86400000000
  appendedAt := .utc 86400000000

/-- A store with nothing in it. -/
def emptyStore : CreationStore StripeMemory where
  db := ⟨.empty, .empty, .empty, .empty, .empty, .empty, .empty⟩
  bundles _ := none
  contracts := .empty
  stepCreators _ := none
  memory := ⟨fun _ => afterCalls [], fun _ => none⟩

/-- The request, as the gate knows it. -/
def creationKey : CreationKey := ⟨tenantId, "request"⟩

/-- Nothing is there yet. -/
def idleWorld : CreationWorld := ⟨emptyStore, none, [], none⟩

theorem idleWorld_fresh : idleWorld.Fresh creationPlatform creationKey :=
  ⟨rfl, rfl, rfl, ⟨rfl, rfl⟩⟩

theorem creation_prepared : preparedRun creationPlatform creationEnvironment sampleOperator
    creationRequest stripeBinding (creationAdapter.creating creationCodec creationAdmitting true) =
      .ok (creationAdapter.reference creationCodec.toRunCodec creationRun) := by
  have hreturned : (creationAdapter.creating creationCodec creationAdmitting true).prepareRun
      creationPackRequest = some (.ok (some
        (creationAdapter.reference creationCodec.toRunCodec creationRun))) := by
    show some ((creationAdapter.prepareRun creationPackRequest).map _) = _
    rw [creationRun_prepared]
    rfl
  unfold preparedRun
  refine except_bind_of_ok (a := creationPackRequest) rfl ?_
  rw [hreturned]
  refine except_bind_of_ok rfl (except_bind_of_ok rfl (except_bind_of_ok rfl ?_))
  exact ensure_bind_of (by decide +kernel) rfl

theorem creation_unwrapped : StripeAdapter.unwrap creationCodec
    (creationAdapter.reference creationCodec.toRunCodec creationRun) = .ok creationRun := by
  have hvalidated : creationCodec.validateRun (creationCodec.dumpRun creationRun) =
      .ok creationRun := by
    rw [creationCodec_dump]
    rfl
  exact ensure_bind_of ⟨rfl, rfl, rfl⟩ (except_bind_of_ok hvalidated
    (ensure_bind_of ⟨rfl, rfl, rfl⟩ rfl))

theorem creation_admits : ∃ s, persistAdmission creationRun emptyStore = .ok () s :=
  ⟨_, persistAdmission_eq_ok.mpr (.inr ⟨rfl, rfl⟩)⟩

theorem creationOf : creationKey.Of sampleOperator creationRequest := ⟨rfl, rfl⟩

/-! ## Calls -/

section Calls

variable {A : StripeAdapter} {K : AdmissionCodec} {P : Platform} {k : CreationKey}
  {E : CreationEnvironment StripeMemory} {user : UserContext} {request : AgentRunCreateRequest}
  {v w : CreationWorld} {s : CreationStore StripeMemory}

/-- A call that finds something writes nothing. -/
theorem create_keeps (h : ∀ selected, existingRun P E user request selected s ≠ .ok none) :
    Keeps (create P E user request) s := by
  refine .bind (.require _ _) fun _ _ => .bind (.lift _) fun selected _ => .bind (.lift _)
    fun adapter _ => .bind (.query _) fun found hfound => ?_
  cases found with
  | some projection => exact .pure projection
  | none => exact absurd (query_eq_ok.mp hfound).1 (h selected)

/-- Where a transaction has committed, a call finds something. -/
theorem Creating.finds (h : Creating A P k w) (hcommits : w.commits ≠ [])
    (hkey : k.Of user request) (selected : PackRuntimeBinding) :
    existingRun P E user request selected w.store ≠ .ok none := by
  intro hexisting
  have hrows := (existingRun_eq_none hkey hexisting).2
  cases h with
  | nothing hnone _ _ _ => exact hcommits hnone
  | admitted _ _ _ hadmitted _ _ => cases hadmitted.row.symm.trans hrows
  | rooted _ _ _ hadmitted _ _ => cases hadmitted.row.symm.trans hrows

/-- Where an outcome of a call is in the system: nobody holds the gate, and the store is the one that
is left. -/
def Ends (A : StripeAdapter) (K : AdmissionCodec) (P : Platform) (k : CreationKey)
    (v : CreationWorld) {α : Type} (r : EStateM.Result Raised (CreationStore StripeMemory) α) :
    Prop :=
  ∃ w, Reaches (CreationStep A K P k) always v w ∧ w.attempt = none ∧ w.store = left r

/-- A call leaves. -/
theorem Ends.leave {α : Type} {r : EStateM.Result Raised (CreationStore StripeMemory) α}
    (h : Reaches (CreationStep A K P k) always v w) (hstore : w.store = left r) :
    Ends A K P k v r :=
  ⟨{ w with attempt := none }, h.tail (l := .leave) trivial rfl, rfl, hstore⟩

theorem left_on {ε σ τ α : Type} {get : τ → σ} {put : σ → τ → τ} {x : Transaction ε σ α} {t : τ} :
    left (on get put x t) = put (left (x (get t))) t := by
  unfold on
  cases x (get t) <;> rfl

/-- A challenge is prepared in the memory of the process. -/
theorem prepareChallenge_leaves (run : StripeM10PreparedRun) (env : PrepareEnvironment) :
    Within (LeavesRequest P k) (prepareChallenge A run env) := by
  refine .bind LeavesRequest.trans (.lift LeavesRequest.refl _) fun facts s => ?_
  unfold onMemory
  rw [left_on]
  exact .of_createsNothing rfl (.refl _)

/-- Admitting a run, from where it is prepared. -/
theorem admitRun_ends {env : AdmitEnvironment} {prepared : PreparedRunReference}
    {operationKey : String} {a : Attempt} (ha : v.attempt = some a) (hphase : a.phase = .prepared)
    (hrun : StripeAdapter.unwrap K prepared = .ok a.run) :
    Ends A K P k v (A.admitRun K env (approvalHandler P E) prepared operationKey v.store) := by
  unfold StripeAdapter.admitRun
  refine lift_bind_elim (fun _ _ => .leave (.refl v) rfl) fun run hunwrap => ?_
  cases hrun.symm.trans hunwrap
  refine bind_elim (fun e t h => ?_) fun _ s₁ hadmit => ?_
  · exact .leave (.refl v) (persistAdmission_clean a.run _ _ _ h).symm
  let admitted : CreationWorld := ⟨s₁, some { a with phase := .admitted },
    v.commits ++ [.admission], some (a.request, a.run)⟩
  have hadmitted : CreationStep A K P k .admission v admitted := ⟨a, s₁, ha, hphase, hadmit, rfl⟩
  have hfirst : Reaches (CreationStep A K P k) always v admitted := .single trivial hadmitted
  refine bind_elim (fun e t h => ?_) fun _ s₂ hpublish => ?_
  · exact .leave hfirst (initializeAgentRunState_clean A K a.run env.admittedAt _ _ _ h).symm
  let published : CreationWorld := ⟨s₂, some { a with phase := .initialized },
    admitted.commits ++ [.state], admitted.origin⟩
  have hpublished : CreationStep A K P k (.publish env.admittedAt) admitted published :=
    ⟨{ a with phase := .admitted }, s₂, rfl, rfl, hpublish, rfl⟩
  have hsecond := hfirst.tail trivial hpublished
  -- the challenge is in the memory of the process, whatever comes of it
  have hmemory : LeavesRequest P k s₂ (left (prepareChallenge A a.run env.prepare s₂)) :=
    prepareChallenge_leaves a.run env.prepare s₂
  have hchallenge : CreationStep A K P k .other published
      { published with store := left (prepareChallenge A a.run env.prepare s₂) } := ⟨hmemory, rfl⟩
  have hthird := hsecond.tail trivial hchallenge
  refine bind_elim (fun e t h => ?_) fun challenge s₃ h => ?_
  · rw [h] at hthird
    exact .leave hthird rfl
  rw [h] at hthird
  refine lift_bind_elim (fun _ _ => .leave hthird rfl) fun specification _ => ?_
  refine bind_elim (fun e t h => ?_) fun c s₄ h => ?_
  · unfold onDatabase on at h
    split at h
    case h_1 => cases h
    case h_2 hpause =>
      cases h
      have hsame := pauseRunForApproval_clean _ _ _ _ _ hpause
      refine .leave hthird ?_
      rw [hsame]
      rfl
  · unfold onDatabase on at h
    split at h
    case h_2 => cases h
    case h_1 c' db hpause =>
      cases h
      have hpaused : CreationStep A K P k (.pause _) { published with store := s₃ }
          ⟨{ s₃ with db := db }, none, published.commits ++ [.pause], published.origin⟩ :=
        ⟨{ a with phase := .initialized }, c, db, rfl, rfl, hpause, rfl⟩
      exact .leave (hthird.tail trivial hpaused) rfl

/-- The Packs that create runs for a user are this one. -/
def CreatesWith (A : StripeAdapter) (K : AdmissionCodec) (E : CreationEnvironment StripeMemory)
    (user : UserContext) : Prop :=
  ∀ binding adapter, creatingAdapter E user binding = .ok adapter →
    ∃ env inTime, adapter = A.creating K env inTime

/-- A call of `create` is a run of the system: what it leaves of the store, whether it returns or
raises, is reached by steps of the system from where nobody holds the gate. -/
theorem create_reaches (hidle : v.attempt = none) (hkey : k.Of user request)
    (hpack : CreatesWith A K E user) :
    ∃ w, Reaches (CreationStep A K P k) always v w ∧ w.attempt = none ∧
      w.store = left (create P E user request v.store) := by
  suffices hends : Ends A K P k v (create P E user request v.store) from hends
  unfold create
  refine require_bind_elim (fun _ => .leave (.refl v) rfl) fun _ => ?_
  refine lift_bind_elim (fun _ _ => .leave (.refl v) rfl) fun selected _ => ?_
  refine lift_bind_elim (fun _ _ => .leave (.refl v) rfl) fun adapter hadapter => ?_
  obtain ⟨env, inTime, rfl⟩ := hpack selected adapter hadapter
  refine bind_elim (fun e t h => ?_) fun found t h => ?_
  · exact .leave (.refl v) (query_eq_error.mp h).2.symm
  obtain ⟨hexisting, rfl⟩ := query_eq_ok.mp h
  cases found with
  | some projection => exact .leave (.refl v) rfl
  | none =>
      refine lift_bind_elim (fun _ _ => .leave (.refl v) rfl) fun prepared hprepared => ?_
      have hget : ∀ s : CreationStore StripeMemory,
          left (onDatabase (getProjection P E.projecting user prepared.runId) s) = s := by
        intro s
        unfold onDatabase
        rw [left_on]
        exact congrArg (fun db => { s with db := db }) left_query
      have hadmits : Ends A K P k v
          (admitPrepared P E user request (A.creating K env inTime) prepared v.store) := by
        unfold Ends admitPrepared
        rw [left_translating, left_bind_of_keeps fun admitted t _ =>
          Keeps.bind (.lift _) fun _ _ => .pure ()]
        cases hunwrap : StripeAdapter.unwrap K prepared with
        | error e =>
            have hraised : ∀ key, left (A.admitRun K env (approvalHandler P E) prepared key
                v.store) = v.store := by
              intro key
              unfold StripeAdapter.admitRun
              rw [bind_of_error (lift_eq_error.mpr ⟨hunwrap, rfl⟩), left_error]
            exact ⟨v, .refl v, hidle, (hraised _).symm⟩
        | ok run =>
            have hbegun : CreationStep A K P k (.begin E user request selected env inTime) v
                { v with attempt := some ⟨request, run, .prepared⟩ } :=
              ⟨hidle, hkey, hexisting, prepared, run, hprepared, hunwrap, rfl⟩
            obtain ⟨w, hreaches, hw⟩ := admitRun_ends (P := P) (k := k) (E := E)
              (v := { v with attempt := some ⟨request, run, .prepared⟩ }) rfl rfl hunwrap
            exact ⟨w, (Reaches.single trivial hbegun).trans hreaches, hw⟩
      obtain ⟨w, hreaches, hw, hstore⟩ := hadmits
      refine ⟨w, hreaches, hw, ?_⟩
      rw [hstore]
      exact (left_bind_of_keeps fun _ t _ => hget t).symm

theorem creationEnvironment_creates :
    CreatesWith creationAdapter creationCodec creationEnvironment sampleOperator := by
  intro binding adapter hadapter
  obtain ⟨found, hfound, hadapter⟩ := except_bind_eq_ok.mp hadapter
  obtain ⟨_, _, hpure⟩ := except_bind_eq_ok.mp hadapter
  cases hpure
  cases Except.ok.inj (mapError_eq_ok.mp hfound)
  exact ⟨creationAdmitting, true, rfl⟩

theorem create_reaches_sample : ∃ w,
    Reaches (CreationStep creationAdapter creationCodec creationPlatform creationKey) always
      idleWorld w ∧ w.attempt = none ∧
    w.store = left (create creationPlatform creationEnvironment sampleOperator creationRequest
      emptyStore) :=
  create_reaches rfl creationOf creationEnvironment_creates

/-! ## At most once -/

/-- The creation of a run is crash-safe as far as its writes go.  From where nothing is there of a
request, whatever calls of `create` are made for it by whichever users, wherever they crash, and
whatever else goes on, the three transactions of a creation commit at most once each, and in order.
The request has one admission from the first on, and none before.  Its run has its root and one first
event from the second on, and none before.  And once the first has committed, no call of `create`
for the request writes anything. -/
theorem creation_commits_once (hcodec : K.RoundTrips) (hfresh : v.Fresh P k)
    (hrun : Reaches (CreationStep A K P k) always v w) :
    w.commits <+: [.admission, .state, .pause] ∧
    (w.store.db.admissionsOf k).length = (if .admission ∈ w.commits then 1 else 0) ∧
    ((w.store.db.getRoot (k.runId P) k.tenantId).isSome ↔ .state ∈ w.commits) ∧
    (w.store.db.admittedEvents (k.runId P)).length = (if .state ∈ w.commits then 1 else 0) ∧
    (.admission ∈ w.commits → ∀ (E : CreationEnvironment StripeMemory) user request,
      k.Of user request → left (create P E user request w.store) = w.store) := by
  have hcreating := Creating.of_run hcodec hfresh hrun
  have hunrooted : Unrooted P k w.store → w.store.db.getRoot (k.runId P) k.tenantId = none := by
    intro hroot
    unfold Database.getRoot Database.task?
    rw [hroot.root]
    rfl
  have hkeeps : .admission ∈ w.commits → ∀ (E : CreationEnvironment StripeMemory) user request,
      k.Of user request → left (create P E user request w.store) = w.store := by
    intro hmem E user request hkey
    exact create_keeps (hcreating.finds (List.ne_nil_of_mem hmem) hkey)
  refine ⟨?_, ?_, ?_, ?_, hkeeps⟩
  all_goals
    cases hcreating with
    | nothing hcommits hrows hroot _ => simp [hcommits, hrows, hunrooted hroot, hroot.events]
    | admitted hcommits _ _ hadmitted hroot _ =>
        simp [hcommits, hadmitted.row, hunrooted hroot, hroot.events, List.prefix_cons_iff]
    | rooted hcommits _ _ hadmitted hrooted _ =>
        obtain ⟨task, htask, _⟩ := hrooted.root
        obtain ⟨row, hevents⟩ := hrooted.events
        rcases hcommits with hcommits | ⟨hcommits, _⟩
        · simp [hcommits, hadmitted.row, htask, hevents, List.prefix_cons_iff]
        · simp [hcommits, hadmitted.row, htask, hevents]

/-- The run of the examples is admitted, and the call crashes. -/
theorem creation_interrupted : ∃ w,
    Reaches (CreationStep creationAdapter creationCodec creationPlatform creationKey) always
      idleWorld w ∧ w.attempt = none ∧ w.commits = [.admission] := by
  obtain ⟨s, hadmits⟩ := creation_admits
  have hbegun : CreationStep creationAdapter creationCodec creationPlatform creationKey
      (.begin creationEnvironment sampleOperator creationRequest stripeBinding creationAdmitting true)
      idleWorld { idleWorld with attempt := some ⟨creationRequest, creationRun, .prepared⟩ } :=
    ⟨rfl, creationOf, rfl, _, _, creation_prepared, creation_unwrapped, rfl⟩
  have hadmitted : CreationStep creationAdapter creationCodec creationPlatform creationKey .admission
      { idleWorld with attempt := some ⟨creationRequest, creationRun, .prepared⟩ }
      ⟨s, some ⟨creationRequest, creationRun, .admitted⟩, [.admission],
        some (creationRequest, creationRun)⟩ :=
    ⟨_, s, rfl, rfl, hadmits, rfl⟩
  have hfirst : Reaches (CreationStep creationAdapter creationCodec creationPlatform creationKey)
      always idleWorld _ := (Reaches.single trivial hbegun).tail trivial hadmitted
  exact ⟨_, hfirst.tail (l := .leave) trivial rfl, rfl, rfl⟩

theorem creation_commits_once_sample : ∃ w,
    Reaches (CreationStep creationAdapter creationCodec creationPlatform creationKey) always
      idleWorld w ∧ (w.store.db.admissionsOf creationKey).length = 1 ∧
    (w.store.db.admittedEvents (creationKey.runId creationPlatform)).length = 0 ∧
    left (create creationPlatform creationEnvironment sampleOperator creationRequest w.store) =
      w.store := by
  obtain ⟨w, hrun, _, hcommits⟩ := creation_interrupted
  obtain ⟨_, hadmissions, _, hevents, hkeeps⟩ :=
    creation_commits_once creationCodec_roundTrips idleWorld_fresh hrun
  rw [hcommits] at hadmissions hevents hkeeps
  exact ⟨w, hrun, hadmissions, hevents,
    hkeeps (List.mem_singleton_self _) creationEnvironment sampleOperator creationRequest creationOf⟩

end Calls

end Stripe

end AgentPact
