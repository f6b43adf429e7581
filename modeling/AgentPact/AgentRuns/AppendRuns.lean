import AgentPact.AgentRuns.Append
import AgentPact.Base.Lts

/-!
# Concurrent appends

Callers read one checkpoint of a journal and append to it, each in a
transaction of its own.  The lock of the root orders them, so a run is any
sequence of their calls, with transactions that leave this journal alone in
between.  A retry after a crash is one more call.

The first call that commits adds its event, and every later one meets it
(`AppendedOnce` is the invariant).  Such a call compares itself with the event,
but only after it has replayed the journal.  So it finds its own event exactly
when that event extends the last one, which is what the commit did not check.
-/

namespace AgentPact

open Base Transaction

namespace AppendRequest

/-- The call appends to the journal of a run, at the checkpoint that was read from it. -/
def BuiltOn (r : AppendRequest) (runId : String) (read : GovernedPlanCheckpoint) : Prop :=
  r.checkpoint.rootTaskId = runId ∧ r.Fresh read

/-- The event records this transition, operation, authority and checkpoint.  When the call was made
makes no difference. -/
structure Matches (r : AppendRequest) (event : PlanJournalEvent) : Prop where
  transition : event.transition = r.transition
  operationKey : event.reason = some r.operationKey
  authorityDigests : event.authorityDigests = r.authorityDigests
  checkpoint : event.checkpoint =
    r.checkpoint.bound event.sequence r.checkpoint.journalDigest

/-- The call is made in the organization of the run. -/
def Sees (r : AppendRequest) (db : Database) : Prop :=
  (db.getRoot r.checkpoint.rootTaskId r.organizationId).isSome = true

instance (r : AppendRequest) (db : Database) : Decidable (r.Sees db) :=
  inferInstanceAs (Decidable (_ = true))

theorem matches_event (P : Platform) (r : AppendRequest) : r.Matches (r.event P) :=
  ⟨rfl, rfl, rfl, rfl⟩

/-- One event after the checkpoint, the journal ends in the event of a call that matches it. -/
theorem committedBy_iff {r : AppendRequest} {read restored : GovernedPlanCheckpoint}
    {event : PlanJournalEvent} (hfresh : r.Fresh read)
    (hnext : restored.journalSequence = read.journalSequence + 1) :
    r.committedBy restored event = true ↔ r.Matches event := by
  have hsequence : restored.journalSequence = r.checkpoint.journalSequence + 1 := by
    rw [hnext, hfresh.1]
  simp only [committedBy, Bool.and_eq_true, decide_eq_true_eq]
  constructor
  · rintro ⟨⟨⟨⟨_, htransition⟩, hkey⟩, hauthority⟩, hcheckpoint⟩
    exact ⟨htransition, hkey, hauthority, hcheckpoint⟩
  · rintro ⟨htransition, hkey, hauthority, hcheckpoint⟩
    exact ⟨⟨⟨⟨hsequence, htransition⟩, hkey⟩, hauthority⟩, hcheckpoint⟩

end AppendRequest

/-! ## Runs -/

/-- Who moves. -/
inductive AppendLabel where
  | append (r : AppendRequest)
  | other

/-- One transaction: an append, or one that leaves the journal and its root alone. -/
def AppendStep (P : Platform) (runId : String) : AppendLabel → Database → Database → Prop
  | .append r, db, db' => db' = left (atomic (appendAgentRunTransition P r) db)
  | .other, db, db' => db'.loadEvents runId = db.loadEvents runId ∧
      ∀ organizationId, (db'.getRoot runId organizationId).map (·.application) =
        (db.getRoot runId organizationId).map (·.application)

/-- Every append is built on the checkpoint that was read. -/
def AllBuiltOn (runId : String) (read : GovernedPlanCheckpoint) (_ : Database) :
    AppendLabel → Prop
  | .append r => r.BuiltOn runId read
  | .other => True

/-- The journal is the one that was read, with at most one event more. -/
inductive AppendedOnce (P : Platform) (runId : String) (read : GovernedPlanCheckpoint)
    (before : List PlanJournalEvent) (db : Database) : Prop
  | unchanged (hevents : db.loadEvents runId = before)
  | committed {r : AppendRequest} {application : Option String}
      (hbuilt : r.BuiltOn runId read) (happendable : r.transition.appendable = true)
      (hroot : (db.getRoot runId r.organizationId).map (·.application) = some application)
      (hmarker : isPlanApplicationMarker application = true)
      (hevents : db.loadEvents runId = before ++ [r.event P])

section Calls

variable {P : Platform} {runId : String} {read : GovernedPlanCheckpoint}
  {before : List PlanJournalEvent} {last : PlanJournalEvent} {db : Database}

/-- Where nothing was added, a call that returns adds its event. -/
theorem append_unchanged (hreplay : replayPlanJournal P before = .ok read)
    (hevents : db.loadEvents runId = before) {r : AppendRequest} (hbuilt : r.BuiltOn runId read)
    {c : GovernedPlanCheckpoint} {db' : Database}
    (happend : appendAgentRunTransition P r db = .ok c db') :
    r.transition.appendable = true ∧
      (∃ root, db'.getRoot runId r.organizationId = some root ∧
        isPlanApplicationMarker root.application = true) ∧
      db'.loadEvents runId = before ++ [r.event P] ∧
      c = r.checkpoint.bound (r.event P).sequence (r.event P).eventDigest := by
  obtain ⟨rfl, hfresh⟩ := hbuilt
  subst hevents
  obtain ⟨happendable, root, restored, hroot, hmarker, hreplay', h⟩ :=
    appendAgentRunTransition_eq_ok.mp happend
  cases hreplay.symm.trans hreplay'
  rcases h with ⟨_, _, hinsert, rfl⟩ | ⟨hstale, _⟩
  · have hload := hfresh.loadEvents hreplay hinsert
    obtain ⟨_, _, rfl⟩ := Database.insertAudit?_eq_some.mp hinsert
    exact ⟨happendable, ⟨root, hroot, hmarker⟩, hload, rfl⟩
  · exact absurd hfresh hstale

/-- Where an event was added, a call returns exactly if it matches the event, is made in the
organization of the run, and the event extends the last one before it. -/
theorem append_committed (hreplay : replayPlanJournal P before = .ok read)
    (hlast : before.getLast? = some last) {r₀ : AppendRequest} (hbuilt₀ : r₀.BuiltOn runId read)
    (happendable : r₀.transition.appendable = true) {application : Option String}
    (hroot : (db.getRoot runId r₀.organizationId).map (·.application) = some application)
    (hmarker : isPlanApplicationMarker application = true)
    (hevents : db.loadEvents runId = before ++ [r₀.event P])
    {r : AppendRequest} (hbuilt : r.BuiltOn runId read) {c : GovernedPlanCheckpoint}
    {db' : Database} :
    appendAgentRunTransition P r db = .ok c db' ↔
      (r.Sees db ∧ r.Matches (r₀.event P)) ∧
        Extends last r₀.checkpoint r₀.transition r₀.createdAt ∧
        replayPlanJournal P (db.loadEvents runId) = .ok c ∧ db' = db := by
  obtain ⟨rfl, hfresh⟩ := hbuilt
  have hiff {c} := hbuilt₀.2.replay_iff (c := c) happendable hlast hreplay
  rw [appendAgentRunTransition_eq_ok, hevents]
  -- one event after the checkpoint that was read
  have hnext : ∀ restored, replayPlanJournal P (before ++ [r₀.event P]) = .ok restored →
      restored.journalSequence = read.journalSequence + 1 := fun restored h => by
    obtain ⟨_, rfl⟩ := hiff.mp h
    exact congrArg (· + 1) hbuilt₀.2.1.symm
  constructor
  · rintro ⟨_, root, restored, hroot', _, hreplay', h⟩
    have hsequence := hnext restored hreplay'
    rcases h with ⟨hfresh', _⟩ | ⟨_, hcommitted, rfl, rfl⟩
    · have hsame := hfresh'.1
      have hread := hfresh.1
      omega
    · rw [List.getLast?_concat, Option.any_some, AppendRequest.committedBy_iff hfresh hsequence]
        at hcommitted
      refine ⟨⟨?_, hcommitted⟩, (hiff.mp hreplay').1, hreplay', rfl⟩
      rw [AppendRequest.Sees, hroot']
      rfl
  · rintro ⟨⟨hsees, hmatches⟩, _, hreplay', rfl⟩
    have hsequence := hnext c hreplay'
    obtain ⟨root, hroot'⟩ := Option.isSome_iff_exists.mp hsees
    obtain ⟨root₀, hroot₀, rfl⟩ := Option.map_eq_some_iff.mp hroot
    -- both organizations see one row
    have hsame : root = root₀ := Option.some.inj
      ((Option.filter_eq_some_iff.mp hroot').1.symm.trans (Option.filter_eq_some_iff.mp hroot₀).1)
    subst hsame
    have hstale : ¬ r.Fresh c := fun hfresh' => by
      have hread := hfresh.1
      have hsame := hfresh'.1
      omega
    refine ⟨hmatches.transition ▸ happendable, root, c, hroot', hmarker, hreplay',
      .inr ⟨hstale, ?_, rfl, rfl⟩⟩
    rw [List.getLast?_concat, Option.any_some, AppendRequest.committedBy_iff hfresh hsequence]
    exact hmatches

/-- Every transaction keeps the journal as it was read, with at most one event more. -/
theorem AppendedOnce.step (hreplay : replayPlanJournal P before = .ok read)
    {label : AppendLabel} {db' : Database} (hlabel : AllBuiltOn runId read db label)
    (h : AppendedOnce P runId read before db) (hstep : AppendStep P runId label db db') :
    AppendedOnce P runId read before db' := by
  cases label with
  | other =>
      obtain ⟨hsame, hroots⟩ := hstep
      cases h with
      | unchanged hevents => exact .unchanged (hsame.trans hevents)
      | @committed r application hbuilt happendable hroot hmarker hevents =>
          exact .committed hbuilt happendable ((hroots _).trans hroot) hmarker
            (hsame.trans hevents)
  | append r =>
      have hleft : db' = left (atomic (appendAgentRunTransition P r) db) := hstep
      cases happend : appendAgentRunTransition P r db with
      | error e db₁ =>
          rw [atomic_eq_error.mpr ⟨⟨db₁, happend⟩, rfl⟩, left_error] at hleft
          rwa [hleft]
      | ok c db₁ =>
          rw [atomic_eq_ok.mpr happend, left_ok] at hleft
          subst hleft
          cases h with
          | unchanged hevents =>
              obtain ⟨happendable, ⟨root, hroot, hmarker⟩, hload, _⟩ :=
                append_unchanged hreplay hevents hlabel happend
              exact .committed hlabel happendable (by rw [hroot]; rfl) hmarker hload
          | @committed r₀ application hbuilt happendable hroot hmarker hevents =>
              obtain ⟨last, hlast, _⟩ := replayPlanJournal_last hreplay
              obtain ⟨_, _, _, rfl⟩ := (append_committed hreplay hlast hbuilt happendable hroot
                hmarker hevents hlabel).mp happend
              exact .committed hbuilt happendable hroot hmarker hevents

end Calls

/-- In every state that calls built on one checkpoint reach, the journal has at most one event more
than when the checkpoint was read.  The call that adds it leaves a journal that replays to what it
returned, and every call that matches it returns what replay returns and adds nothing, exactly when
the event extends the last one; any other call raises. -/
theorem appends_linearize_iff {P : Platform} {runId : String} {read : GovernedPlanCheckpoint}
    {db₀ db : Database} (hread : replayPlanJournal P (db₀.loadEvents runId) = .ok read)
    (hrun : Reaches (AppendStep P runId) (AllBuiltOn runId read) db₀ db) :
    ∃ last, (db₀.loadEvents runId).getLast? = some last ∧
      ((db.loadEvents runId = db₀.loadEvents runId ∧
          ∀ r : AppendRequest, r.BuiltOn runId read →
            (∃ e, atomic (appendAgentRunTransition P r) db = .error e db) ∨
            ∃ c db', atomic (appendAgentRunTransition P r) db = .ok c db' ∧
              db'.loadEvents runId = db₀.loadEvents runId ++ [r.event P] ∧
              (replayPlanJournal P (db'.loadEvents runId) = .ok c ↔
                Extends last r.checkpoint r.transition r.createdAt)) ∨
        ∃ event, (∃ r : AppendRequest, r.BuiltOn runId read ∧ event = r.event P) ∧
          db.loadEvents runId = db₀.loadEvents runId ++ [event] ∧
          (∀ r : AppendRequest, r.BuiltOn runId read → ¬ (r.Sees db ∧ r.Matches event) →
            ∃ e, atomic (appendAgentRunTransition P r) db = .error e db) ∧
          ((∀ r : AppendRequest, r.BuiltOn runId read → r.Sees db → r.Matches event →
              ∃ c, atomic (appendAgentRunTransition P r) db = .ok c db ∧
                replayPlanJournal P (db.loadEvents runId) = .ok c) ↔
            Extends last event.checkpoint event.transition event.createdAt)) := by
  have hraises : ∀ r : AppendRequest,
      (∀ c db', appendAgentRunTransition P r db ≠ .ok c db') →
      ∃ e, atomic (appendAgentRunTransition P r) db = .error e db := by
    intro r hno
    cases happend : appendAgentRunTransition P r db with
    | ok c db' => exact absurd happend (hno c db')
    | error e db' => exact ⟨e, atomic_eq_error.mpr ⟨⟨db', happend⟩, rfl⟩⟩
  have honce : AppendedOnce P runId read (db₀.loadEvents runId) db :=
    hrun.invariant (fun _ _ _ hlabel h hstep => h.step hread hlabel hstep) (.unchanged rfl)
  obtain ⟨last, hlast, _⟩ := replayPlanJournal_last hread
  refine ⟨last, hlast, ?_⟩
  cases honce with
  | unchanged hevents =>
      refine .inl ⟨hevents, fun r hbuilt => ?_⟩
      by_cases hreturns : ∃ c db', appendAgentRunTransition P r db = .ok c db'
      · obtain ⟨c, db', happend⟩ := hreturns
        obtain ⟨happendable, _, hload, rfl⟩ := append_unchanged hread hevents hbuilt happend
        refine .inr ⟨_, db', atomic_eq_ok.mpr happend, hload, ?_⟩
        rw [hload, hbuilt.2.replay_iff happendable hlast hread]
        exact and_iff_left rfl
      · exact .inl (hraises r fun c db' happend => hreturns ⟨c, db', happend⟩)
  | @committed r₀ application hbuilt₀ happendable hroot hmarker hevents =>
      have hcalls := @append_committed P runId read _ last db hread hlast r₀ hbuilt₀ happendable
        application hroot hmarker hevents
      refine .inr ⟨_, ⟨r₀, hbuilt₀, rfl⟩, hevents, fun r hbuilt hdiffers => ?_, fun hreturns => ?_,
        fun hextends r hbuilt hsees hmatches => ?_⟩
      · exact hraises r fun c db' happend => hdiffers ((hcalls hbuilt).mp happend).1
      · -- the call that committed matches its own event
        have hsees : r₀.Sees db := by
          obtain ⟨root, hroot, _⟩ := Option.map_eq_some_iff.mp hroot
          rw [AppendRequest.Sees, hbuilt₀.1, hroot]
          rfl
        obtain ⟨c, happend, _⟩ := hreturns r₀ hbuilt₀ hsees (r₀.matches_event P)
        exact Extends.bound_iff.mpr ((hcalls hbuilt₀).mp (atomic_eq_ok.mp happend)).2.1
      · have hextends := Extends.bound_iff.mp hextends
        have hreplays := (hbuilt₀.2.replay_iff happendable hlast hread).mpr ⟨hextends, rfl⟩
        rw [← hevents] at hreplays
        exact ⟨_, atomic_eq_ok.mpr
          ((hcalls hbuilt).mpr ⟨⟨hsees, hmatches⟩, hextends, hreplays, rfl⟩), hreplays⟩

section Run

/-- The same call as the first cancellation, made later. -/
def lateCancellation : AppendRequest := { firstCancellation with createdAt := .utc 99 }

/-- The run after the second cancellation. -/
def cancelledTwice : Database :=
  left (appendAgentRunTransition samplePlatform secondCancellation cancelledDatabase)

/-- The first cancellation extends the admission, so a later call like it returns and adds
nothing. -/
theorem appends_linearize_iff_sample :
    ∃ c, appendAgentRunTransition samplePlatform lateCancellation cancelledDatabase =
      .ok c cancelledDatabase := by
  have hread : replayPlanJournal samplePlatform (canceledNatively.loadEvents sampleRunId) =
      .ok (lastCheckpoint canceledNatively) := by decide +kernel
  have hbuilt : firstCancellation.BuiltOn sampleRunId (lastCheckpoint canceledNatively) :=
    ⟨by decide +kernel, cancelRequest_fresh _ _⟩
  have hevents : canceledNatively.loadEvents sampleRunId = [admittedEvent] ∧
      cancelledDatabase.loadEvents sampleRunId =
        [admittedEvent, firstCancellation.event samplePlatform] ∧
      lateCancellation.Sees cancelledDatabase := by decide +kernel
  have hstep : AppendStep samplePlatform sampleRunId (.append firstCancellation)
      canceledNatively cancelledDatabase := by
    have hok : (appendReplays firstCancellation canceledNatively).isSome = true := by
      decide +kernel
    show cancelledDatabase = _
    unfold cancelledDatabase atomic
    cases happend : appendAgentRunTransition samplePlatform firstCancellation canceledNatively with
    | error e db' => simp [appendReplays, happend] at hok
    | ok c db' => rfl
  have hrun : Reaches (AppendStep samplePlatform sampleRunId)
      (AllBuiltOn sampleRunId (lastCheckpoint canceledNatively)) canceledNatively
      cancelledDatabase := .single (l := .append firstCancellation) hbuilt hstep
  obtain ⟨last, hlast, hend⟩ := appends_linearize_iff hread hrun
  rw [hevents.1] at hlast hend
  cases hlast
  rw [hevents.2.1] at hend
  obtain ⟨hnone, _⟩ | ⟨event, _, hcommitted, _, hiff⟩ := hend
  · cases hnone
  · have hevent : firstCancellation.event samplePlatform = event := by simpa using hcommitted
    subst hevent
    obtain ⟨c, happend, _⟩ := hiff.mpr (Extends.bound_iff.mpr firstCancellation_extends)
      lateCancellation hbuilt hevents.2.2 ⟨rfl, rfl, rfl, rfl⟩
    exact ⟨c, atomic_eq_ok.mp happend⟩

/-- A second cancellation is appended, and the same call again raises. -/
theorem append_again_raises :
    replayPlanJournal samplePlatform (cancelledDatabase.loadEvents sampleRunId) =
        .ok (lastCheckpoint cancelledDatabase) ∧
      secondCancellation.BuiltOn sampleRunId (lastCheckpoint cancelledDatabase) ∧
      (∃ c, appendAgentRunTransition samplePlatform secondCancellation cancelledDatabase =
        .ok c cancelledTwice) ∧
      ∃ e, atomic (appendAgentRunTransition samplePlatform secondCancellation) cancelledTwice =
        .error e cancelledTwice := by
  have hran : replayPlanJournal samplePlatform (cancelledDatabase.loadEvents sampleRunId) =
        .ok (lastCheckpoint cancelledDatabase) ∧
      secondCancellation.checkpoint.rootTaskId = sampleRunId ∧
      (appendReplays secondCancellation cancelledDatabase).isSome = true ∧
      appendReplays secondCancellation cancelledTwice = none := by decide +kernel
  obtain ⟨hreplay, hroot, hfirst, hagain⟩ := hran
  refine ⟨hreplay, ⟨hroot, cancelRequest_fresh _ _⟩, ?_, ?_⟩
  · unfold cancelledTwice
    cases happend : appendAgentRunTransition samplePlatform secondCancellation
        cancelledDatabase with
    | error e db' => simp [appendReplays, happend] at hfirst
    | ok c db' => exact ⟨c, rfl⟩
  · cases happend : appendAgentRunTransition samplePlatform secondCancellation cancelledTwice with
    | ok c db' => simp [appendReplays, happend] at hagain
    | error e db' => exact ⟨e, atomic_eq_error.mpr ⟨⟨db', happend⟩, rfl⟩⟩

end Run

end AgentPact
