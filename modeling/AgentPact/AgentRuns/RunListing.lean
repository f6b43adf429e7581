import Mathlib.Data.List.Lex
import Mathlib.Data.Prod.Lex
import Mathlib.Data.Int.Order.Basic
import AgentPact.AgentRuns.Cursor
import AgentPact.AgentRuns.Service
import AgentPact.Base.Keyset

/-!
# Listing the runs of a tenant

`AgentRunService.list_runs` and the query behind it (`agent_runs/service.py`,
`integrations/skyvern_agent_run_store.py`): the runs of a tenant, the newest first,
by pages whose cursor denotes the last run they show.

The pages are those of `Base.Keyset`, with the creation time and the id of a run as
its key (`listRuns_eq_list`).  Where every run of the tenant is read, following the
cursors shows each of them once, in order (`listing_complete`).  One run that is not
read makes the page fail that it is on (`listing_survives_iff`).
-/

namespace AgentPact

open Base JsonText

/-! ## The query -/

/-- The time columns of a row of `tasks`, which have no time zone. -/
structure TaskTimes where
  createdAt : DateTime
  modifiedAt : DateTime
  createdAt_naive : createdAt.aware = false
  createdAt_inYears : createdAt.InYears

/-- The database and the time columns of its tasks. -/
structure ListedDatabase where
  db : Database
  times : String → TaskTimes

/-- The order of the texts in the database, by weights. -/
structure Collation (ι : Type) where
  weight : List Nat → ι
  injective : Function.Injective weight

/-- `like("run_%")`.  The underscore stands for any character. -/
def likeRun (taskId : String) : Bool :=
  match taskId.toList with
  | 'r' :: 'u' :: 'n' :: _ :: _ => true
  | _ => false

section

variable {ι : Type} (C : Collation ι) (D : ListedDatabase) (organizationId : String)

/-- The tasks of an organization that are joined with an admission. -/
def ListedDatabase.joined : List TaskModel :=
  (D.db.tasks.select fun t => t.organizationId = organizationId && likeRun t.taskId).flatMap fun t =>
    (D.db.admissions.select fun a =>
      a.taskId = t.taskId && a.organizationId = t.organizationId).map fun _ => t

/-- `TaskModel.created_at`, in microseconds. -/
def ListedDatabase.created (t : TaskModel) : Int := (D.times t.taskId).createdAt.micros

/-- `TaskModel.task_id`, as it is compared. -/
def Collation.idOf (t : TaskModel) : ι := C.weight (codes t.taskId).1

/-- The key of a task: its time of creation and then its id. -/
def ListedDatabase.key (t : TaskModel) : Lex (Int × ι) := toLex (D.created t, C.idOf t)

/-- The key that a boundary stands for. -/
def Collation.boundaryKey (b : DateTime × Text) : Lex (Int × ι) :=
  toLex (b.1.micros, C.weight b.2.1)

/-- The runs of an organization: its tasks of that kind that were admitted. -/
def ListedDatabase.runs : List TaskModel :=
  D.db.tasks.select fun t =>
    t.organizationId = organizationId && likeRun t.taskId &&
      (D.db.admissionOf t.taskId organizationId).isSome

/-- A task has one admission at most, so the join lists each run once. -/
theorem joined_eq_runs : D.joined organizationId = D.runs organizationId := by
  have hone : ∀ t : TaskModel, t.organizationId = organizationId →
      ((D.db.admissions.select fun a =>
        a.taskId = t.taskId && a.organizationId = t.organizationId).map fun _ => t) =
          if (D.db.admissionOf t.taskId organizationId).isSome then [t] else [] := by
    rintro t rfl
    unfold Database.admissionOf
    cases hselect : D.db.admissions.select fun a =>
        a.taskId = t.taskId && a.organizationId = t.organizationId with
    | nil => rfl
    | cons a as =>
        have ha : a ∈ D.db.admissions.select fun a =>
            a.taskId = t.taskId && a.organizationId = t.organizationId := by
          rw [hselect]
          exact List.mem_cons_self ..
        obtain ⟨hrow, hmatch⟩ := Table.mem_select.mp ha
        have hsingle := Table.select_eq_singleton (p := fun a =>
          a.taskId = t.taskId && a.organizationId = t.organizationId) hrow hmatch (by
            intro x _ hx
            simp only [Bool.and_eq_true, decide_eq_true_eq] at hx hmatch
            simp [Schema.clash, GovernedTaskAdmissionModel.clash, hx.1, hx.2, hmatch.1, hmatch.2])
        rw [hselect] at hsingle
        rw [hsingle]
        rfl
  have hflat : ∀ (p : TaskModel → Bool) (ts : List TaskModel),
      (ts.flatMap fun t => if p t then [t] else []) = ts.filter p := by
    intro p ts
    induction ts with
    | nil => rfl
    | cons t ts ih =>
        rw [List.flatMap_cons, ih]
        cases hp : p t with
        | true => rw [List.filter_cons_of_pos hp]; rfl
        | false => rw [List.filter_cons_of_neg (by simp [hp])]; rfl
  unfold ListedDatabase.joined ListedDatabase.runs
  rw [List.flatMap_congr (g := fun t =>
    if (D.db.admissionOf t.taskId organizationId).isSome then [t] else [])]
  · rw [hflat]
    unfold Table.select
    rw [List.filter_filter]
    refine List.filter_congr fun t _ => ?_
    rw [Bool.and_comm]
  · intro t ht
    have horganization := (Table.mem_select.mp ht).2
    simp only [Bool.and_eq_true, decide_eq_true_eq] at horganization
    exact hone t horganization.1

/-- No two runs have one key. -/
theorem runs_keys_nodup : ((D.runs organizationId).map (D.key C)).Nodup := by
  have hrows : (D.runs organizationId).Pairwise fun a b => a.taskId ≠ b.taskId := by
    refine (D.db.tasks.consistent.imp ?_).filter _
    intro a b hclash heq
    exact hclash (by simp [Schema.clash, heq])
  rw [List.Nodup, List.pairwise_map]
  refine hrows.imp fun {a b} hne heq => hne ?_
  have hid : C.idOf a = C.idOf b := congrArg (fun k => (ofLex k).2) heq
  exact codes_injective (Subtype.ext (C.injective hid))

variable [LinearOrder ι]

/-- Whether a task is before a boundary in the order of the columns. -/
def ListedDatabase.isBefore (boundary : DateTime × Text) (t : TaskModel) : Bool :=
  D.created t < boundary.1.micros ||
    (D.created t = boundary.1.micros && C.idOf t < C.weight boundary.2.1)

/-- `order_by(created_at.desc(), task_id.desc())`. -/
def ListedDatabase.Descends (a b : TaskModel) : Prop :=
  D.created b < D.created a ∨ D.created b = D.created a ∧ C.idOf b ≤ C.idOf a

instance (a b : TaskModel) : Decidable (D.Descends C a b) := inferInstanceAs (Decidable (_ ∨ _))

/-- `list_roots`. -/
def ListedDatabase.listRoots (boundary : Option (DateTime × Text)) (limit : Nat) :
    List TaskModel :=
  (((D.joined organizationId).filter fun t =>
    boundary.all fun b => D.isBefore C b t).insertionSort (D.Descends C)).take limit

theorem isBefore_iff {b : DateTime × Text} {t : TaskModel} :
    D.isBefore C b t = true ↔ D.key C t < C.boundaryKey b := by
  simp only [ListedDatabase.isBefore, ListedDatabase.key, Collation.boundaryKey, Prod.Lex.lt_iff,
    ofLex_toLex, Bool.or_eq_true, Bool.and_eq_true, decide_eq_true_eq]

theorem descends_iff {a b : TaskModel} : D.Descends C a b ↔ D.key C b ≤ D.key C a := by
  simp only [ListedDatabase.Descends, ListedDatabase.key, Prod.Lex.le_iff, ofLex_toLex]

/-- The query lists the rows below the key of its boundary. -/
theorem listRoots_eq (boundary : Option (DateTime × Text)) (limit : Nat) :
    D.listRoots C organizationId boundary limit =
      (Keyset.after (D.key C) (boundary.map C.boundaryKey) (D.joined organizationId)).take limit := by
  have hfilter : (fun t => boundary.all fun b => D.isBefore C b t) =
      Keyset.below (D.key C) (boundary.map C.boundaryKey) := by
    funext t
    cases boundary with
    | none => rfl
    | some b =>
        rw [Bool.eq_iff_iff]
        simp [Keyset.below, isBefore_iff]
  have hsort : D.Descends C = fun a b => D.key C b ≤ D.key C a := by
    funext a b
    exact propext (descends_iff C D)
  unfold ListedDatabase.listRoots Keyset.after Keyset.descending
  rw [hfilter]
  congr! 2

end

/-! ## Pages of runs -/

/-- `AgentRunSummary`. -/
structure AgentRunSummary where
  runId : String
  packId : String
  packVersion : String
  packDisplayName : String
  providerMode : String
  state : AgentRunState
  completedSteps : Nat
  totalSteps : Nat
  reasonCode : Option String
  createdAt : DateTime
  modifiedAt : DateTime

/-- An interpreter: its limits leave room for a container. -/
structure Interpreter extends Limits where
  nesting_pos : 0 < nesting

section

variable {ι : Type} (I : Interpreter) (C : Collation ι) (P : Platform)
  (E : Environment) (D : ListedDatabase) (user : UserContext)

/-- The summary of a run, which is loaded and projected for it. -/
def summarize (root : TaskModel) : Except Raised AgentRunSummary := do
  let projection ← getRun P E user root.taskId D.db
  pure
    { runId := projection.runId
      packId := projection.packId
      packVersion := projection.packVersion
      packDisplayName := projection.packDisplayName
      providerMode := projection.providerMode
      state := projection.view.state
      completedSteps := projection.completedSteps
      totalSteps := projection.totalSteps
      reasonCode := projection.view.reasonCode
      createdAt := (D.times root.taskId).createdAt.asUtc
      modifiedAt := (D.times root.taskId).modifiedAt.asUtc }

/-- `_decode_cursor(cursor) if cursor else None`. -/
def decodeBoundary (l : Limits) : Option (List Nat) → Except Raised (Option (DateTime × Text))
  | none => .ok none
  | some [] => .ok none
  | some cursor => (decodeCursor l cursor).map some

/-- The cursor after a summary. -/
def AgentRunSummary.cursor (s : AgentRunSummary) : List Nat :=
  encodeCursor s.createdAt (codes s.runId)

/-- The key of the boundary that a cursor denotes. -/
def denoteBoundary (cursor : List Nat) : Except Raised (Option (Lex (Int × ι))) :=
  (decodeBoundary I.toLimits (some cursor)).map (Option.map C.boundaryKey)

/-- Runs as rows that are listed by their keys. -/
def runListing : Keyset.Listing TaskModel (Lex (Int × ι)) AgentRunSummary (List Nat) Raised where
  key := D.key C
  read := summarize P E D user
  cursor := AgentRunSummary.cursor
  denote := denoteBoundary I C

/-- A run is read, as itself. -/
def Readable (root : TaskModel) : Prop :=
  ∃ s, summarize P E D user root = .ok s ∧ s.runId = root.taskId

/-! ## Cursors of runs -/

theorem armor_ne_nil {text : List Char} (h : text ≠ []) : armor text ≠ [] := by
  intro hnil
  have hempty : armor [] = [] := by decide
  have htext := payloadText_armor text
  rw [hnil, ← hempty, payloadText_armor] at htext
  exact h (Except.ok.inj htext).symm

theorem encodeCursor_ne_nil (t : DateTime) (runId : Text) : encodeCursor t runId ≠ [] :=
  armor_ne_nil (by simp [cursorMembers, writeObject])

theorem decodeBoundary_some {l : Limits} {cursor : List Nat} (h : cursor ≠ []) :
    decodeBoundary l (some cursor) = (decodeCursor l cursor).map some := by
  cases cursor with
  | nil => exact absurd rfl h
  | cons c cs => rfl

variable {I C P E D user} {root : TaskModel} {s : AgentRunSummary}

theorem summarize_eq_ok (h : summarize P E D user root = .ok s) :
    s.createdAt = (D.times root.taskId).createdAt.asUtc ∧
      ∃ locked, loadLocked P D.db user root.taskId = .ok locked := by
  unfold summarize at h
  obtain ⟨projection, hget, h⟩ := except_bind_eq_ok.mp h
  cases h
  obtain ⟨locked, hload, _⟩ := except_bind_eq_ok.mp hget
  exact ⟨rfl, locked, hload⟩

theorem codes_isPrefixOf (a b : String) : (codes a).1.isPrefixOf (codes (a ++ b)).1 = true := by
  rw [List.isPrefixOf_iff_prefix]
  show a.toList.map Char.toNat <+: (a ++ b).toList.map Char.toNat
  rw [String.toList_append, List.map_append]
  exact List.prefix_append _ _

/-- The id of a run that is loaded begins as the ids of runs do. -/
theorem startsRun_of_loadLocked {runId : String} {locked : LockedRun}
    (h : loadLocked P D.db user runId = .ok locked) : startsRun (codes runId).1 = true := by
  have hloaded := loadLocked_eq_ok.mp h
  have hid : runId = derivePackRunId P user.orgId locked.bundle.requestId :=
    hloaded.organization.2.symm.trans hloaded.identity.1
  rw [hid]
  unfold startsRun runPrefix derivePackRunId
  exact codes_isPrefixOf "run_" _

/-- The cursor of a run that is read as itself is decoded to its creation time and its id. -/
theorem decodeCursor_cursor (h : summarize P E D user root = .ok s)
    (hrunId : s.runId = root.taskId) :
    decodeCursor I.toLimits s.cursor = .ok (⟨s.createdAt.micros, false⟩, codes s.runId) := by
  obtain ⟨hcreated, locked, hload⟩ := summarize_eq_ok h
  have hyears : s.createdAt.InYears := by
    rw [hcreated]
    exact (D.times root.taskId).createdAt_inYears
  have hrun := startsRun_of_loadLocked hload
  rw [← hrunId] at hrun
  exact decodeCursor_encodeCursor I.nesting_pos hyears hrun

theorem denoteBoundary_cursor {boundary : DateTime × Text}
    (h : decodeCursor I.toLimits s.cursor = .ok boundary) :
    denoteBoundary I C s.cursor = .ok (some (C.boundaryKey boundary)) := by
  have hne : s.cursor ≠ [] := encodeCursor_ne_nil _ _
  rw [denoteBoundary, decodeBoundary_some hne, h]
  rfl

/-- The key of a summary: its time of creation and then its id. -/
def AgentRunSummary.key (C : Collation ι) (s : AgentRunSummary) : Lex (Int × ι) :=
  C.boundaryKey (s.createdAt, codes s.runId)

theorem key_of_summarize (h : summarize P E D user root = .ok s) (hrunId : s.runId = root.taskId) :
    s.key C = D.key C root := by
  unfold AgentRunSummary.key
  rw [(summarize_eq_ok h).1, hrunId]
  rfl

theorem runListing_cursor : (runListing I C P E D user).cursor = AgentRunSummary.cursor := by
  simp only [runListing]

theorem runListing_denote : (runListing I C P E D user).denote = denoteBoundary I C := by
  simp only [runListing]

/-- It denotes the key of the run. -/
theorem runListing_denotes (h : summarize P E D user root = .ok s)
    (hrunId : s.runId = root.taskId) : (runListing I C P E D user).Denotes root s := by
  have hdenote := denoteBoundary_cursor (C := C) (decodeCursor_cursor (I := I) h hrunId)
  have hkey : C.boundaryKey (⟨s.createdAt.micros, false⟩, codes s.runId) = D.key C root :=
    key_of_summarize h hrunId
  rw [hkey] at hdenote
  rw [Keyset.Listing.Denotes, runListing_cursor, runListing_denote]
  exact hdenote

theorem runListing_reads :
    (runListing I C P E D user).Reads root s ↔ summarize P E D user root = .ok s := Iff.rfl

/-! ## Every page -/

theorem runs_ids_nodup : ((D.runs user.orgId).map (runListing I C P E D user).key).Nodup :=
  runs_keys_nodup C D user.orgId

/-- A run that is read as itself is read so always. -/
theorem runId_of_readable (hreadable : ∀ root ∈ D.runs user.orgId, Readable P E D user root) :
    ∀ root ∈ D.runs user.orgId, ∀ s, summarize P E D user root = .ok s →
      s.runId = root.taskId := by
  intro root hroot s hs
  obtain ⟨s', hs', hrunId⟩ := hreadable root hroot
  rw [hs] at hs'
  cases hs'
  exact hrunId

theorem denotes_of_runId (hown : ∀ root ∈ D.runs user.orgId, ∀ s,
    summarize P E D user root = .ok s → s.runId = root.taskId) :
    ∀ r ∈ D.runs user.orgId, ∀ s,
      (runListing I C P E D user).Reads r s → (runListing I C P E D user).Denotes r s :=
  fun root hroot s hs =>
    runListing_denotes (runListing_reads.mp hs) (hown root hroot s (runListing_reads.mp hs))

variable [LinearOrder ι]

section

variable (I C P E D user)

/-- `list_runs`. -/
def listRuns (cursor : Option (List Nat)) (limit : Int) :
    Except Raised (Keyset.Page AgentRunSummary (List Nat)) := do
  demand (user.isAnyOperator = true) "OPERATOR_REQUIRED"
  demand (1 ≤ limit ∧ limit ≤ 50) "INVALID_CURSOR"
  let boundary ← decodeBoundary I.toLimits cursor
  let roots := D.listRoots C user.orgId boundary (limit.toNat + 1)
  let items ← (roots.take limit.toNat).mapM (summarize P E D user)
  pure ⟨items, if limit.toNat < roots.length ∧ items ≠ [] then
    items.getLast?.map AgentRunSummary.cursor else none⟩

/-- The pages of runs are pages of rows listed by their keys. -/
theorem listRuns_eq_list (hoperator : user.isAnyOperator = true) {limit : Int}
    (hlimit : 1 ≤ limit ∧ limit ≤ 50) (cursor : Option (List Nat)) :
    listRuns I C P E D user cursor limit =
      Keyset.list (runListing I C P E D user) (D.runs user.orgId) limit.toNat cursor := by
  have hstart : Keyset.start (runListing I C P E D user) cursor =
      (decodeBoundary I.toLimits cursor).map (Option.map C.boundaryKey) := by
    cases cursor <;> rfl
  have hnext : ∀ (more : Prop) [Decidable more] (items : List AgentRunSummary),
      (if more ∧ items ≠ [] then items.getLast?.map AgentRunSummary.cursor else none) =
        if more then items.getLast?.map AgentRunSummary.cursor else none := by
    intro more _ items
    cases items with
    | nil => simp
    | cons item items => simp
  unfold listRuns Keyset.list
  rw [hstart]
  refine except_bind_of_ok (a := ()) (demand_eq_ok.mpr hoperator) ?_
  refine except_bind_of_ok (a := ()) (demand_eq_ok.mpr hlimit) ?_
  cases decodeBoundary I.toLimits cursor with
  | error e => rfl
  | ok boundary =>
      refine except_bind_of_ok rfl ?_
      simp only [listRoots_eq, joined_eq_runs, hnext]
      show _ = Keyset.page (runListing I C P E D user) (D.runs user.orgId) limit.toNat
        (boundary.map C.boundaryKey)
      simp only [Keyset.page, runListing]
      refine bind_congr fun items => ?_
      congr

end

variable {limit : Int}

theorem listRuns_eq_list_all (hoperator : user.isAnyOperator = true)
    (hlimit : 1 ≤ limit ∧ limit ≤ 50) :
    (fun cursor => listRuns I C P E D user cursor limit) =
      Keyset.list (runListing I C P E D user) (D.runs user.orgId) limit.toNat :=
  funext (listRuns_eq_list I C P E D user hoperator hlimit)

/-- Where every run is read, the pages come to an end. -/
theorem exists_pages (hoperator : user.isAnyOperator = true) (hlimit : 1 ≤ limit ∧ limit ≤ 50)
    (hreadable : ∀ root ∈ D.runs user.orgId, Readable P E D user root) :
    ∃ pages, Keyset.Follows (fun cursor => listRuns I C P E D user cursor limit) none pages := by
  rw [listRuns_eq_list_all hoperator hlimit]
  refine Keyset.exists_follows (b := none) runs_ids_nodup (by omega) ?_
    (denotes_of_runId (runId_of_readable hreadable)) rfl
  intro root hroot
  obtain ⟨s, hs, -⟩ := hreadable root ((Keyset.mem_after _).mp hroot).1
  exact ⟨s, runListing_reads.mpr hs⟩

/-- The pages show the runs in order. -/
theorem pages_read (hoperator : user.isAnyOperator = true) (hlimit : 1 ≤ limit ∧ limit ≤ 50)
    (hown : ∀ root ∈ D.runs user.orgId, ∀ s, summarize P E D user root = .ok s →
      s.runId = root.taskId) {pages : List (Keyset.Page AgentRunSummary (List Nat))}
    (h : Keyset.Follows (fun cursor => listRuns I C P E D user cursor limit) none pages) :
    List.Forall₂ (runListing I C P E D user).Reads
      (Keyset.after (runListing I C P E D user).key none (D.runs user.orgId))
      (Keyset.Page.all pages) := by
  rw [listRuns_eq_list_all hoperator hlimit] at h
  exact Keyset.follows_reads runs_ids_nodup (by omega) (denotes_of_runId hown) h rfl

/-- Listing shows every run that is read, under its own id, and comes to an end. -/
def ListsReadable (I : Interpreter) (C : Collation ι) (P : Platform) (E : Environment)
    (D : ListedDatabase) (user : UserContext) (limit : Int) : Prop :=
  ∃ pages, Keyset.Follows (fun cursor => listRuns I C P E D user cursor limit) none pages ∧
    ∀ root ∈ D.runs user.orgId, ∀ s, summarize P E D user root = .ok s →
      s ∈ Keyset.Page.all pages ∧ s.runId = root.taskId

/-- It does so exactly where every run is read: a run that is not makes its page fail. -/
theorem listing_survives_iff (hoperator : user.isAnyOperator = true)
    (hlimit : 1 ≤ limit ∧ limit ≤ 50) :
    ListsReadable I C P E D user limit ↔
      ∀ root ∈ D.runs user.orgId, Readable P E D user root := by
  have hall : ∀ root ∈ D.runs user.orgId,
      root ∈ Keyset.after (runListing I C P E D user).key none (D.runs user.orgId) :=
    fun root hroot => (Keyset.mem_after _).mpr ⟨hroot, rfl⟩
  constructor
  · rintro ⟨pages, hpages, hshown⟩ root hroot
    have hreads := pages_read hoperator hlimit
      (fun root hroot s hs => (hshown root hroot s hs).2) hpages
    obtain ⟨s, -, hs⟩ := Keyset.exists_reads_of_mem hreads (hall root hroot)
    have hsummary := runListing_reads.mp hs
    exact ⟨s, hsummary, (hshown root hroot s hsummary).2⟩
  · intro hreadable
    have hown := runId_of_readable hreadable
    obtain ⟨pages, hpages⟩ := exists_pages (I := I) (C := C) hoperator hlimit hreadable
    have hreads := pages_read hoperator hlimit hown hpages
    refine ⟨pages, hpages, fun root hroot s hs => ⟨?_, hown root hroot s hs⟩⟩
    obtain ⟨s', hs', hread⟩ := Keyset.exists_reads_of_mem hreads (hall root hroot)
    have hsame := runListing_reads.mp hread
    rw [hs] at hsame
    cases hsame
    exact hs'

end

/-! ## A tenant to run examples on -/

section Run

/-- An interpreter with its default limits. -/
def sampleInterpreter : Interpreter := ⟨⟨900, 4300⟩, by decide⟩

/-- Texts in the order of their code points. -/
def plainCollation : Collation (List Nat) := ⟨id, Function.injective_id⟩

/-- Every task was created at one time. -/
def sampleTimes (_ : String) : TaskTimes :=
  ⟨⟨5, false⟩, ⟨6, false⟩, rfl, by unfold DateTime.InYears; decide⟩

/-- A tenant with one run. -/
def listedSample : ListedDatabase := ⟨admittedDatabase, sampleTimes⟩

/-- That tenant and a run whose journal was lost. -/
def listedWithLost : ListedDatabase where
  db :=
    { admittedDatabase with
      tasks := ⟨⟨"run_lost", "org", .created, some "agentpact:agent-run:plan:v1"⟩ ::
        admittedDatabase.tasks.rows, by decide +kernel⟩
      admissions := ⟨⟨"lost", "org", "other", "run_lost", sampleBundle⟩ ::
        admittedDatabase.admissions.rows, by decide +kernel⟩ }
  times := sampleTimes

/-- The environment the runs are listed in. -/
def listingEnvironment : Environment := sampleEnvironment idleAdapter (.utc 20)

/-- The id that a run is read under. -/
def readAs (D : ListedDatabase) (root : TaskModel) : Option String :=
  (summarize samplePlatform listingEnvironment D sampleUser root).toOption.map (·.runId)

theorem readable_of_readAs {D : ListedDatabase} {root : TaskModel}
    (h : readAs D root = some root.taskId) :
    Readable samplePlatform listingEnvironment D sampleUser root := by
  unfold readAs at h
  cases hs : summarize samplePlatform listingEnvironment D sampleUser root with
  | error e => rw [hs] at h; cases h
  | ok s =>
      rw [hs] at h
      exact ⟨s, hs, Option.some.inj h⟩

/-- The run of the tenant is read. -/
theorem listedSample_readable : ∀ root ∈ listedSample.runs sampleUser.orgId,
    Readable samplePlatform listingEnvironment listedSample sampleUser root := by
  have hall : ∀ root ∈ listedSample.runs sampleUser.orgId,
      readAs listedSample root = some root.taskId := by decide +kernel
  exact fun root hroot => readable_of_readAs (hall root hroot)

theorem listing_survives_iff_sample :
    ListsReadable sampleInterpreter plainCollation samplePlatform listingEnvironment listedSample
      sampleUser 20 :=
  (listing_survives_iff (by decide) (by decide)).mpr listedSample_readable

/-- A run whose journal was lost hides the run beside it. -/
theorem lost_run_hides :
    (listedWithLost.runs "org").map (readAs listedWithLost) = [none, some sampleRunId] ∧
      (listRuns sampleInterpreter plainCollation samplePlatform listingEnvironment listedWithLost
        sampleUser none 20).toOption.isNone ∧
      ¬ ListsReadable sampleInterpreter plainCollation samplePlatform listingEnvironment
        listedWithLost sampleUser 20 := by
  have hraises : (listRuns sampleInterpreter plainCollation samplePlatform listingEnvironment
      listedWithLost sampleUser none 20).toOption.isNone := by decide +kernel
  refine ⟨by decide +kernel, hraises, ?_⟩
  rintro ⟨pages, hpages, -⟩
  cases hpages with
  | last hpage _ => rw [hpage] at hraises; cases hraises
  | more hpage _ _ => rw [hpage] at hraises; cases hraises

end Run

end AgentPact
