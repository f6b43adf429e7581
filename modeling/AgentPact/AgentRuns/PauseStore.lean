import AgentPact.AgentRuns.Terminal
import AgentPact.AgentRuns.Writes

/-!
# The pause store of a run

A pause is saved, cleared and read by three different rules.  `PauseLog` says
what the rows of a run amount to: it was never paused, it is paused, or the
pause was cleared.  There is no way back from the last: a later save finds the
cleared pause and either takes it for its own, or is refused.

`pause_store_law_iff` compares that with what a reader expects of the calls.
-/

namespace AgentPact

open Base Transaction

/-! ## Calls -/

/-- A call on the pause store of a run, or an append to a journal. -/
inductive PauseCall where
  | save (signal : RunPauseSignal) (checkpointDigest : Digest) (modifiedAt : DateTime)
  | clear
  | append (request : AppendRequest)

namespace PauseCall

/-- What the call does. -/
def run (P : Platform) (runId organizationId : String) : PauseCall → AgentRunTx Unit
  | save signal checkpointDigest modifiedAt =>
      savePauseSignal P signal checkpointDigest organizationId modifiedAt
  | clear => clearPauseSignal P runId organizationId
  | append request => do
      let _ ← appendAgentRunTransition P request
      pure ()

/-- A saved signal is about the run. -/
def About (runId : String) : PauseCall → Prop
  | save signal _ _ => signal.runId = runId
  | _ => True

/-- The pause after the call, as a reader expects it. -/
def pauses (before : Option (Digest × RunPauseSignal)) :
    PauseCall → Option (Digest × RunPauseSignal)
  | save signal checkpointDigest _ => some (checkpointDigest, signal)
  | clear => none
  | append _ => before

/-- The call saves a pause. -/
def saves : PauseCall → Bool
  | save _ _ _ => true
  | _ => false

end PauseCall

/-- The pause of the most recent save, if no clear followed it. -/
def lastPause (calls : List PauseCall) : Option (Digest × RunPauseSignal) :=
  calls.foldl PauseCall.pauses none

/-- A pause was saved and later cleared. -/
def ClearsPause (calls : List PauseCall) : Prop :=
  ∃ before after, calls = before ++ .clear :: after ∧ before.any (·.saves) = true

/-- Calls that all succeed, one after the other. -/
inductive PauseHistory (P : Platform) (runId organizationId : String) (s : Database) :
    List PauseCall → Database → Prop
  | nil : PauseHistory P runId organizationId s [] s
  | snoc {calls : List PauseCall} {call : PauseCall} {t u : Database}
      (h : PauseHistory P runId organizationId s calls t) (habout : call.About runId)
      (hrun : call.run P runId organizationId t = .ok () u) :
      PauseHistory P runId organizationId s (calls ++ [call]) u

theorem lastPause_concat {calls : List PauseCall} {call : PauseCall} :
    lastPause (calls ++ [call]) = call.pauses (lastPause calls) := by
  simp [lastPause]

/-- Another call clears a pause that was saved, or one was cleared before. -/
theorem clearsPause_concat {calls : List PauseCall} {call : PauseCall} :
    ClearsPause (calls ++ [call]) ↔
      ClearsPause calls ∨ call = .clear ∧ calls.any (·.saves) = true := by
  constructor
  · rintro ⟨before, after, hcalls, hsaved⟩
    rcases List.eq_nil_or_concat after with rfl | ⟨after, last, rfl⟩
    · obtain ⟨rfl, hlast⟩ := List.append_inj' hcalls rfl
      exact .inr ⟨List.singleton_inj.mp hlast, hsaved⟩
    · rw [List.concat_eq_append, ← List.cons_append, ← List.append_assoc] at hcalls
      obtain ⟨rfl, _⟩ := List.append_inj' hcalls rfl
      exact .inl ⟨before, after, rfl, hsaved⟩
  · rintro (⟨before, after, rfl, hsaved⟩ | ⟨rfl, hsaved⟩)
    · exact ⟨before, after ++ [call], by simp, hsaved⟩
    · exact ⟨calls, [], rfl, hsaved⟩

/-! ## What the rows amount to -/

/-- What the pause rows of a run amount to. -/
inductive PauseLog where
  | unpaused
  | paused (checkpointDigest : Digest) (signal : RunPauseSignal)
  | cleared (checkpointDigest : Digest) (signal : RunPauseSignal)

/-- No row has an identifier that resolving a pause of the run would use. -/
def Database.Unresolved (P : Platform) (runId organizationId : String) (db : Database) : Prop :=
  ∀ row ∈ db.audit.rows, ∀ pause, row.eventId ≠ (resolutionRow P runId organizationId pause).eventId

/-- The run was not paused, and no row has an identifier that a pause of it would use. -/
structure Unpaused (P : Platform) (runId organizationId : String) (db : Database) : Prop where
  rows : db.audit.select (Database.isPauseOrResolution runId organizationId) = []
  free : ∀ row ∈ db.audit.rows, ∀ signal checkpointDigest modifiedAt, signal.runId = runId →
    row.eventId ≠ (pauseRow P signal checkpointDigest organizationId modifiedAt).eventId
  unresolved : db.Unresolved P runId organizationId

/-- The pause rows of a run amount to a log. -/
inductive Stored (P : Platform) (runId organizationId : String) (db : Database) : PauseLog → Prop
  | unpaused (h : Unpaused P runId organizationId db) : Stored P runId organizationId db .unpaused
  | paused {signal : RunPauseSignal} {checkpointDigest : Digest} {modifiedAt : DateTime}
      (hrun : signal.runId = runId)
      (hrows : db.audit.select (Database.isPauseOrResolution runId organizationId) =
        [pauseRow P signal checkpointDigest organizationId modifiedAt])
      (hfree : db.Unresolved P runId organizationId) :
      Stored P runId organizationId db (.paused checkpointDigest signal)
  | cleared {signal : RunPauseSignal} {checkpointDigest : Digest} {modifiedAt : DateTime}
      (hrun : signal.runId = runId)
      (hrows : db.audit.select (Database.isPauseOrResolution runId organizationId) =
        [pauseRow P signal checkpointDigest organizationId modifiedAt,
          resolutionRow P runId organizationId
            (pauseRow P signal checkpointDigest organizationId modifiedAt)]) :
      Stored P runId organizationId db (.cleared checkpointDigest signal)

/-- The pause that a log leaves open. -/
def PauseLog.open_ : PauseLog → Option (Digest × RunPauseSignal)
  | .paused checkpointDigest signal => some (checkpointDigest, signal)
  | _ => none

section Rows

variable {P : Platform} {runId organizationId : String} {db : Database}

theorem pauseRow_isPause {signal : RunPauseSignal} {checkpointDigest : Digest}
    {modifiedAt : DateTime} (hrun : signal.runId = runId) :
    Database.isPause runId organizationId
      (pauseRow P signal checkpointDigest organizationId modifiedAt) = true := by
  simp [Database.isPause, pauseRow, hrun]

theorem resolutionRow_isPause {pause : GovernanceAuditEventModel} :
    Database.isPause runId organizationId (resolutionRow P runId organizationId pause) = false := by
  unfold Database.isPause
  rw [resolutionRow_payload, Bool.and_false]

theorem resolutionRow_isResolution {pause : GovernanceAuditEventModel} :
    Database.isPauseOrResolution runId organizationId
      (resolutionRow P runId organizationId pause) = true := by
  have htask : (resolutionRow P runId organizationId pause).taskId = runId := rfl
  have horg : (resolutionRow P runId organizationId pause).organizationId = organizationId := rfl
  unfold Database.isPauseOrResolution
  rw [resolutionRow_payload, htask, horg]
  simp only [decide_true, Bool.and_self]

/-- A pause is one of the rows that a reader looks at. -/
theorem isPauseOrResolution_of_isPause {row : GovernanceAuditEventModel}
    (h : Database.isPause runId organizationId row = true) :
    Database.isPauseOrResolution runId organizationId row = true := by
  unfold Database.isPause at h
  unfold Database.isPauseOrResolution
  cases hpayload : row.payload <;> simp_all

/-- The pauses among them. -/
theorem select_isPause : db.audit.select (Database.isPause runId organizationId) =
    (db.audit.select (Database.isPauseOrResolution runId organizationId)).filter
      (Database.isPause runId organizationId) := by
  unfold Table.select
  rw [List.filter_filter]
  refine List.filter_congr fun row _ => ?_
  cases hpause : Database.isPause runId organizationId row with
  | false => rfl
  | true => simp [isPauseOrResolution_of_isPause hpause]

/-- A reader sees the pause that the log leaves open. -/
theorem Stored.getPauseSignal {log : PauseLog} (h : Stored P runId organizationId db log) :
    db.getPauseSignal runId organizationId = log.open_ := by
  unfold Database.getPauseSignal
  cases h with
  | unpaused h => rw [h.rows]; rfl
  | paused hrun hrows hfree => rw [hrows]; rfl
  | @cleared signal checkpointDigest modifiedAt hrun hrows =>
      have horder : Database.auditOrder
          (pauseRow P signal checkpointDigest organizationId modifiedAt)
          (resolutionRow P runId organizationId
            (pauseRow P signal checkpointDigest organizationId modifiedAt)) :=
        .inl (Int.lt_succ _)
      have hsorted : [pauseRow P signal checkpointDigest organizationId modifiedAt,
          resolutionRow P runId organizationId
            (pauseRow P signal checkpointDigest organizationId modifiedAt)].insertionSort
              Database.auditOrder =
          [pauseRow P signal checkpointDigest organizationId modifiedAt,
            resolutionRow P runId organizationId
              (pauseRow P signal checkpointDigest organizationId modifiedAt)] := by
        simp [horder]
      have hopen : Database.openPause
          (some ((pauseRow P signal checkpointDigest organizationId modifiedAt).eventId,
            checkpointDigest, signal))
          (resolutionRow P runId organizationId
            (pauseRow P signal checkpointDigest organizationId modifiedAt)) = none := by
        unfold Database.openPause
        rw [resolutionRow_payload]
        simp only [Option.filter, ne_eq, not_true_eq_false, decide_false, Bool.false_eq_true,
          if_false]
      have hstart : Database.openPause none
          (pauseRow P signal checkpointDigest organizationId modifiedAt) =
            some ((pauseRow P signal checkpointDigest organizationId modifiedAt).eventId,
              checkpointDigest, signal) := rfl
      rw [hrows, hsorted]
      dsimp only
      rw [List.foldl_cons, List.foldl_cons, List.foldl_nil, hstart, hopen]
      rfl

/-- The first row of the pause store is what a save or a clear finds. -/
theorem latestPause_of_rows {signal : RunPauseSignal} {checkpointDigest : Digest}
    {modifiedAt : DateTime} {rest : List GovernanceAuditEventModel} (hrun : signal.runId = runId)
    (hrows : db.audit.select (Database.isPauseOrResolution runId organizationId) =
      pauseRow P signal checkpointDigest organizationId modifiedAt :: rest)
    (hrest : rest.filter (Database.isPause runId organizationId) = []) :
    db.latestPause runId organizationId =
      some (pauseRow P signal checkpointDigest organizationId modifiedAt) := by
  unfold Database.latestPause
  rw [select_isPause, hrows, List.filter_cons_of_pos (pauseRow_isPause hrun), hrest]
  rfl

theorem filter_resolutionRow {pause : GovernanceAuditEventModel} :
    [resolutionRow P runId organizationId pause].filter (Database.isPause runId organizationId) =
      [] := by
  rw [List.filter_singleton, resolutionRow_isPause]
  rfl

theorem latestPause_of_unpaused (h : Unpaused P runId organizationId db) :
    db.latestPause runId organizationId = none := by
  unfold Database.latestPause
  rw [select_isPause, h.rows]
  rfl

/-- A save finds the pause that the run ever had. -/
theorem Stored.latestPause {log : PauseLog} (h : Stored P runId organizationId db log) :
    (log = .unpaused ∧ db.latestPause runId organizationId = none) ∨
      ∃ signal checkpointDigest modifiedAt,
        log ∈ [PauseLog.paused checkpointDigest signal, .cleared checkpointDigest signal] ∧
        db.latestPause runId organizationId =
          some (pauseRow P signal checkpointDigest organizationId modifiedAt) := by
  cases h with
  | unpaused h => exact .inl ⟨rfl, latestPause_of_unpaused h⟩
  | @paused signal checkpointDigest modifiedAt hrun hrows hfree =>
      exact .inr ⟨signal, checkpointDigest, modifiedAt, by simp, latestPause_of_rows hrun hrows rfl⟩
  | @cleared signal checkpointDigest modifiedAt hrun hrows =>
      exact .inr ⟨signal, checkpointDigest, modifiedAt, by simp,
        latestPause_of_rows hrun hrows filter_resolutionRow⟩

end Rows

/-! ## Steps -/

section Steps

variable {P : Platform} {runId organizationId : String} {db db' : Database} {log : PauseLog}

/-- The kinds of rows differ in the length of their identifiers. -/
theorem eventId_length (name : String) (d : Digest) :
    (name ++ d.hex).length = name.length + 64 := by
  rw [String.length_append, ← String.length_toList (s := d.hex), d.wellFormed.1]

theorem pauseRow_eventId_length {signal : RunPauseSignal} {checkpointDigest : Digest}
    {modifiedAt : DateTime} :
    (pauseRow P signal checkpointDigest organizationId modifiedAt).eventId.length = 80 :=
  eventId_length _ _

theorem resolutionRow_eventId_length {pause : GovernanceAuditEventModel} :
    (resolutionRow P runId organizationId pause).eventId.length = 91 :=
  eventId_length _ _

/-- A row of another kind resolves nothing. -/
theorem Database.Unresolved.insert {row : GovernanceAuditEventModel}
    (h : db.Unresolved P runId organizationId) (hid : row.eventId.length ≠ 91)
    (hinsert : db.insertAudit? row = some db') : db'.Unresolved P runId organizationId := by
  obtain ⟨audit, haudit, rfl⟩ := Database.insertAudit?_eq_some.mp hinsert
  intro other hother pause heq
  rcases (Table.mem_insert? haudit).mp hother with hold | rfl
  · exact h other hold pause heq
  · rw [heq, resolutionRow_eventId_length] at hid
    exact hid rfl

/-- What an insertion leaves of the pause rows. -/
theorem select_insertAudit {row : GovernanceAuditEventModel} {p : GovernanceAuditEventModel → Bool}
    (hinsert : db.insertAudit? row = some db') :
    db'.audit.select p = db.audit.select p ++ if p row then [row] else [] := by
  obtain ⟨audit, haudit, rfl⟩ := Database.insertAudit?_eq_some.mp hinsert
  exact Table.select_insert? haudit

/-- A row of a journal is no pause row, and takes no identifier of one. -/
theorem Stored.insert {row : GovernanceAuditEventModel} (h : Stored P runId organizationId db log)
    (hid : row.eventId.length = 74)
    (hother : Database.isPauseOrResolution runId organizationId row = false)
    (hinsert : db.insertAudit? row = some db') : Stored P runId organizationId db' log := by
  have hrows : db'.audit.select (Database.isPauseOrResolution runId organizationId) =
      db.audit.select (Database.isPauseOrResolution runId organizationId) := by
    rw [select_insertAudit hinsert, hother]
    exact List.append_nil _
  cases h with
  | unpaused h =>
      refine .unpaused ⟨hrows.trans h.rows, ?_, h.unresolved.insert (by omega) hinsert⟩
      obtain ⟨audit, haudit, rfl⟩ := Database.insertAudit?_eq_some.mp hinsert
      intro other hmem signal checkpointDigest modifiedAt hrun heq
      rcases (Table.mem_insert? haudit).mp hmem with hold | rfl
      · exact h.free other hold signal checkpointDigest modifiedAt hrun heq
      · rw [heq, pauseRow_eventId_length] at hid
        cases hid
  | paused hrun hpause hfree =>
      exact .paused hrun (hrows.trans hpause) (hfree.insert (by omega) hinsert)
  | cleared hrun hpause => exact .cleared hrun (hrows.trans hpause)

/-- An append moves no log. -/
theorem Stored.append {r : AppendRequest} {c : GovernedPlanCheckpoint}
    (h : Stored P runId organizationId db log)
    (happend : appendAgentRunTransition P r db = .ok c db') :
    Stored P runId organizationId db' log := by
  obtain ⟨_, root, _, _, _, _, ⟨_, _, hinsert, _⟩ | ⟨_, _, _, rfl⟩⟩ :=
    appendAgentRunTransition_eq_ok.mp happend
  case inr => exact h
  refine h.insert (eventId_length "agent_run_" _) ?_ hinsert
  simp [Database.isPauseOrResolution, eventRow]

/-- A save is the first of the run, or the one that the run had. -/
theorem Stored.save {signal : RunPauseSignal} {checkpointDigest : Digest} {modifiedAt : DateTime}
    {u : Unit} (h : Stored P runId organizationId db log) (hrun : signal.runId = runId)
    (hsave : savePauseSignal P signal checkpointDigest organizationId modifiedAt db = .ok u db') :
    (log = .unpaused ∧ Stored P runId organizationId db' (.paused checkpointDigest signal)) ∨
      (log ∈ [PauseLog.paused checkpointDigest signal, .cleared checkpointDigest signal] ∧
        db' = db) := by
  simp only [savePauseSignal, hrun, bind_eq_ok, read_eq_ok] at hsave
  obtain ⟨existing, _, ⟨hexisting, rfl⟩, hsave⟩ := hsave
  rcases h.latestPause with ⟨rfl, hnone⟩ | ⟨signal₀, digest₀, modifiedAt₀, hlog, hlatest⟩
  · rw [hexisting, hnone] at hsave
    have hinsert := write?_eq_ok.mp hsave
    refine .inl ⟨rfl, ?_⟩
    cases h with
    | unpaused h =>
        have hpaused : db'.audit.select (Database.isPauseOrResolution runId organizationId) =
            [pauseRow P signal checkpointDigest organizationId modifiedAt] := by
          rw [select_insertAudit hinsert, h.rows,
            isPauseOrResolution_of_isPause (pauseRow_isPause hrun)]
          rfl
        exact .paused hrun hpaused
          (h.unresolved.insert (by rw [pauseRow_eventId_length]; omega) hinsert)
  · rw [hexisting, hlatest] at hsave
    obtain ⟨hsame, rfl⟩ := require_eq_ok.mp hsave
    simp only [pauseRow, AuditPayload.pause.injEq] at hsame
    obtain ⟨_, rfl, rfl⟩ := hsame
    exact .inr ⟨hlog, rfl⟩

/-- A clear resolves the pause that is open. -/
theorem Stored.clear {u : Unit} (h : Stored P runId organizationId db log)
    (hclear : clearPauseSignal P runId organizationId db = .ok u db') :
    (log = .unpaused ∧ db' = db) ∨ ∃ signal checkpointDigest,
      log ∈ [PauseLog.paused checkpointDigest signal, .cleared checkpointDigest signal] ∧
        Stored P runId organizationId db' (.cleared checkpointDigest signal) := by
  simp only [clearPauseSignal, bind_eq_ok, read_eq_ok] at hclear
  obtain ⟨latest, found, ⟨hlatest, hfound⟩, hclear⟩ := hclear
  subst found
  cases h with
  | unpaused h =>
      rw [hlatest, latestPause_of_unpaused h] at hclear
      cases hclear
      exact .inl ⟨rfl, rfl⟩
  | @paused signal checkpointDigest modifiedAt hrun hrows hfree =>
      refine .inr ⟨signal, checkpointDigest, by simp, ?_⟩
      rw [hlatest, latestPause_of_rows hrun hrows rfl] at hclear
      simp only [bind_eq_ok, read_eq_ok] at hclear
      obtain ⟨existing, found, ⟨hexisting, hfound⟩, hclear⟩ := hclear
      subst found
      -- the identifier of the resolution is free
      have hnone : db.audit.find? (resolutionRow P runId organizationId
          (pauseRow P signal checkpointDigest organizationId modifiedAt)).eventId = none :=
        Table.find?_eq_none.mpr fun row hrow => hfree row hrow _
      rw [hexisting, hnone, if_neg (by simp)] at hclear
      have hinsert := write?_eq_ok.mp hclear
      have hcleared : db'.audit.select (Database.isPauseOrResolution runId organizationId) =
          [pauseRow P signal checkpointDigest organizationId modifiedAt,
            resolutionRow P runId organizationId
              (pauseRow P signal checkpointDigest organizationId modifiedAt)] := by
        rw [select_insertAudit hinsert, hrows, resolutionRow_isResolution]
        rfl
      exact .cleared hrun hcleared
  | @cleared signal checkpointDigest modifiedAt hrun hrows =>
      refine .inr ⟨signal, checkpointDigest, by simp, ?_⟩
      rw [hlatest, latestPause_of_rows hrun hrows filter_resolutionRow] at hclear
      simp only [bind_eq_ok, read_eq_ok] at hclear
      obtain ⟨existing, found, ⟨hexisting, hfound⟩, hclear⟩ := hclear
      subst found
      have hmem : resolutionRow P runId organizationId
          (pauseRow P signal checkpointDigest organizationId modifiedAt) ∈
            db.audit.select (Database.isPauseOrResolution runId organizationId) := by
        rw [hrows]
        simp
      have hsome : db.audit.find? (resolutionRow P runId organizationId
          (pauseRow P signal checkpointDigest organizationId modifiedAt)).eventId = some _ :=
        Table.find?_key (Table.mem_select.mp hmem).1
      rw [hexisting, hsome, Option.isSome_some, if_pos rfl] at hclear
      cases hclear
      exact .cleared hrun hrows

end Steps

/-! ## Histories -/

/-- A pause that is refused writes nothing. -/
theorem savePauseSignal_clean (P : Platform) (signal : RunPauseSignal) (checkpointDigest : Digest)
    (organizationId : String) (modifiedAt : DateTime) :
    Clean (savePauseSignal P signal checkpointDigest organizationId modifiedAt) := by
  refine .bind_keeps (fun _ => rfl) fun existing => ?_
  cases existing with
  | none => exact fun s e t h => (write?_eq_error.mp h).2.2
  | some row => exact .of_keeps fun _ => .require _ _

/-- What a history says of its log. -/
def PauseLog.Tells (calls : List PauseCall) : PauseLog → Prop
  | .unpaused => calls.any (·.saves) = false
  | .paused checkpointDigest signal => calls.any (·.saves) = true ∧ ¬ ClearsPause calls ∧
      lastPause calls = some (checkpointDigest, signal)
  | .cleared _ _ => calls.any (·.saves) = true ∧ ClearsPause calls

/-- Nothing is open where nothing was saved. -/
theorem lastPause_of_unsaved {calls : List PauseCall} (h : calls.any (·.saves) = false) :
    lastPause calls = none := by
  unfold lastPause
  induction calls with
  | nil => rfl
  | cons call calls ih =>
      rw [List.any_cons, Bool.or_eq_false_iff] at h
      rw [List.foldl_cons]
      cases call with
      | save signal checkpointDigest modifiedAt => cases h.1
      | clear => exact ih h.2
      | append request => exact ih h.2

/-- The rows after a history of calls amount to a log that the history tells. -/
theorem PauseHistory.stored {P : Platform} {runId organizationId : String} {s t : Database}
    {calls : List PauseCall} (hstart : Unpaused P runId organizationId s)
    (h : PauseHistory P runId organizationId s calls t) :
    ∃ log : PauseLog, Stored P runId organizationId t log ∧ log.Tells calls := by
  induction h with
  | nil => exact ⟨.unpaused, .unpaused hstart, rfl⟩
  | @snoc calls call t u _ habout hrun ih =>
      obtain ⟨log, hstored, htells⟩ := ih
      cases call with
      | save signal checkpointDigest modifiedAt =>
          have hsaves :
              (calls ++ [PauseCall.save signal checkpointDigest modifiedAt]).any (·.saves) = true := by
            simp [PauseCall.saves]
          have hclears : ClearsPause (calls ++ [PauseCall.save signal checkpointDigest modifiedAt]) ↔
              ClearsPause calls := by simp [clearsPause_concat]
          rcases hstored.save habout hrun with ⟨rfl, hpaused⟩ | ⟨hlog, rfl⟩
          · refine ⟨_, hpaused, hsaves, fun hcleared => ?_, lastPause_concat⟩
            obtain ⟨before, after, rfl, hsaved⟩ := hclears.mp hcleared
            have hunsaved : (before ++ .clear :: after).any (·.saves) = false := htells
            rw [List.any_append, hsaved] at hunsaved
            cases hunsaved
          · refine ⟨log, hstored, ?_⟩
            rcases List.mem_cons.mp hlog with rfl | hlog
            · exact ⟨hsaves, fun hcleared => htells.2.1 (hclears.mp hcleared), lastPause_concat⟩
            · cases List.mem_singleton.mp hlog
              exact ⟨hsaves, hclears.mpr htells.2⟩
      | clear =>
          have hsaves : (calls ++ [PauseCall.clear]).any (·.saves) = calls.any (·.saves) := by
            simp [PauseCall.saves]
          rcases hstored.clear hrun with ⟨rfl, rfl⟩ | ⟨signal, checkpointDigest, hlog, hcleared⟩
          · exact ⟨_, hstored, hsaves.trans htells⟩
          · have hsaved : calls.any (·.saves) = true := by
              rcases List.mem_cons.mp hlog with rfl | hlog
              · exact htells.1
              · cases List.mem_singleton.mp hlog
                exact htells.1
            exact ⟨_, hcleared, hsaves.trans hsaved, clearsPause_concat.mpr (.inr ⟨rfl, hsaved⟩)⟩
      | append request =>
          obtain ⟨c, v, happend, hpure⟩ := bind_eq_ok.mp hrun
          cases hpure
          refine ⟨log, hstored.append happend, ?_⟩
          have hsaves : (calls ++ [PauseCall.append request]).any (·.saves) = calls.any (·.saves) := by
            simp [PauseCall.saves]
          have hclears : ClearsPause (calls ++ [PauseCall.append request]) ↔ ClearsPause calls := by
            simp [clearsPause_concat]
          cases log with
          | unpaused => exact hsaves.trans htells
          | paused checkpointDigest signal =>
              exact ⟨hsaves.trans htells.1, fun hcleared => htells.2.1 (hclears.mp hcleared),
                lastPause_concat.trans htells.2.2⟩
          | cleared _ _ => exact ⟨hsaves.trans htells.1, hclears.mpr htells.2⟩

/-! ## The law -/

/-- A run that was never paused can be. -/
theorem Unpaused.savable {P : Platform} {runId organizationId : String} {db : Database}
    (h : Unpaused P runId organizationId db) {signal : RunPauseSignal} {checkpointDigest : Digest}
    {modifiedAt : DateTime} (hrun : signal.runId = runId) :
    ∃ t, savePauseSignal P signal checkpointDigest organizationId modifiedAt db = .ok () t := by
  obtain ⟨audit, haudit⟩ : ∃ audit, db.audit.insert?
      (pauseRow P signal checkpointDigest organizationId modifiedAt) = some audit := by
    refine Table.exists_insert? fun row hrow hclash => ?_
    exact h.free row hrow signal checkpointDigest modifiedAt hrun (by simpa [Schema.clash] using hclash)
  refine ⟨{ db with audit := audit }, ?_⟩
  unfold savePauseSignal
  rw [hrun, read_bind, latestPause_of_unpaused h]
  exact write?_eq_ok.mpr (Database.insertAudit?_eq_some.mpr ⟨audit, haudit, rfl⟩)

/-- Another digest than a given one. -/
theorem exists_digest_ne (d : Digest) : ∃ d' : Digest, d' ≠ d := by
  by_cases h : d = .zero
  · refine ⟨⟨"1111111111111111111111111111111111111111111111111111111111111111", by decide⟩, ?_⟩
    rw [h]
    decide
  · exact ⟨.zero, fun hzero => h hzero.symm⟩

/-- After a history of calls, a reader sees the pause of the last save that no clear followed, and
can save any signal if there is none, exactly when the history clears no pause. -/
theorem pause_store_law_iff {P : Platform} {runId organizationId : String} {db₀ db : Database}
    {calls : List PauseCall} (hstart : Unpaused P runId organizationId db₀)
    (hcalls : PauseHistory P runId organizationId db₀ calls db) :
    (db.getPauseSignal runId organizationId = lastPause calls ∧
        (db.getPauseSignal runId organizationId = none →
          ∀ signal checkpointDigest modifiedAt, signal.runId = runId →
            ∃ t, savePauseSignal P signal checkpointDigest organizationId modifiedAt db =
              .ok () t)) ↔
      ¬ ClearsPause calls := by
  obtain ⟨log, hstored, htells⟩ := hcalls.stored hstart
  rw [hstored.getPauseSignal]
  cases hstored with
  | unpaused h =>
      refine ⟨fun _ => ?_, fun _ => ⟨(lastPause_of_unsaved htells).symm, fun _ _ _ _ hrun =>
        h.savable hrun⟩⟩
      rintro ⟨before, after, rfl, hsaved⟩
      have hunsaved : (before ++ .clear :: after).any (·.saves) = false := htells
      rw [List.any_append, hsaved] at hunsaved
      cases hunsaved
  | paused hrun hrows hfree =>
      exact ⟨fun _ => htells.2.1, fun _ => ⟨htells.2.2.symm, fun hnone => by cases hnone⟩⟩
  | @cleared signal checkpointDigest modifiedAt hrun hrows =>
      refine ⟨fun h => ?_, fun h => absurd htells.2 h⟩
      -- the cleared pause stands in the way of another
      obtain ⟨digest', hne⟩ := exists_digest_ne checkpointDigest
      obtain ⟨t, hsave⟩ := h.2 rfl signal digest' modifiedAt hrun
      rcases (Stored.cleared hrun hrows).save hrun hsave with ⟨hlog, _⟩ | ⟨hlog, _⟩
      · cases hlog
      · simp [hne.symm] at hlog

section Run

/-- The admitted run was never paused. -/
theorem admittedDatabase_unpaused : Unpaused samplePlatform sampleRunId "org" admittedDatabase := by
  have hran : admittedDatabase.audit.select (Database.isPauseOrResolution sampleRunId "org") = [] ∧
      ∀ row ∈ admittedDatabase.audit.rows, row.eventId.length = 74 := by decide +kernel
  refine ⟨hran.1, fun row hrow _ _ _ _ heq => ?_, fun row hrow _ heq => ?_⟩
  · have hlength := hran.2 row hrow
    rw [heq, pauseRow_eventId_length] at hlength
    cases hlength
  · have hlength := hran.2 row hrow
    rw [heq, resolutionRow_eventId_length] at hlength
    cases hlength

/-- A pause of the admitted run is read back. -/
theorem pause_store_law_iff_sample : ∃ db,
    PauseHistory samplePlatform sampleRunId "org" admittedDatabase
      [.save cancellablePause .zero (.utc 20)] db ∧
    db.getPauseSignal sampleRunId "org" = some (.zero, cancellablePause) := by
  obtain ⟨db, hsave⟩ : ∃ db, savePauseSignal samplePlatform cancellablePause .zero "org"
      (.utc 20) admittedDatabase = .ok () db :=
    admittedDatabase_unpaused.savable rfl
  have hcalls : PauseHistory samplePlatform sampleRunId "org" admittedDatabase
      [.save cancellablePause .zero (.utc 20)] db := .snoc .nil rfl hsave
  have hkept : ¬ ClearsPause [.save cancellablePause .zero (.utc 20)] := by
    rintro ⟨before, after, heq, hsaved⟩
    cases before with
    | nil => cases hsaved
    | cons call before => simp at heq
  exact ⟨db, hcalls, ((pause_store_law_iff admittedDatabase_unpaused hcalls).mpr hkept).1⟩

/-- The admitted run, paused. -/
def savedOnce : Database :=
  left (savePauseSignal samplePlatform cancellablePause .zero "org" (.utc 20) admittedDatabase)

/-- The pause is cleared. -/
def savedCleared : Database := left (clearPauseSignal samplePlatform sampleRunId "org" savedOnce)

/-- And saved again, later. -/
def savedAgain : Database :=
  left (savePauseSignal samplePlatform cancellablePause .zero "org" (.utc 30) savedCleared)

/-- A pause is saved, cleared and saved again.  Each call succeeds, and nobody sees the pause.
A pause at another checkpoint is refused. -/
theorem saved_again_unseen :
    PauseHistory samplePlatform sampleRunId "org" admittedDatabase
        [.save cancellablePause .zero (.utc 20), .clear, .save cancellablePause .zero (.utc 30)]
        savedAgain ∧
      lastPause [.save cancellablePause .zero (.utc 20), .clear,
        .save cancellablePause .zero (.utc 30)] = some (.zero, cancellablePause) ∧
      savedAgain.getPauseSignal sampleRunId "org" = none ∧
      savePauseSignal samplePlatform cancellablePause (.ofNat 1) "org" (.utc 30) savedAgain =
        .error ⟨.valueError, "Conflicting pause signal already exists"⟩ savedAgain := by
  have hran : returned (savePauseSignal samplePlatform cancellablePause .zero "org" (.utc 20)
        admittedDatabase) = true ∧
      returned (clearPauseSignal samplePlatform sampleRunId "org" savedOnce) = true ∧
      returned (savePauseSignal samplePlatform cancellablePause .zero "org" (.utc 30)
        savedCleared) = true ∧
      savedAgain.getPauseSignal sampleRunId "org" = none ∧
      raised (savePauseSignal samplePlatform cancellablePause (.ofNat 1) "org"
        (.utc 30) savedAgain) = some ⟨.valueError, "Conflicting pause signal already exists"⟩ := by
    decide +kernel
  obtain ⟨hfirst, hclear, hagain, hunseen, hrefused⟩ := hran
  obtain ⟨_, hsave⟩ := exists_of_returned hfirst
  obtain ⟨_, hcleared⟩ := exists_of_returned hclear
  obtain ⟨_, hsaved⟩ := exists_of_returned hagain
  have habout : PauseCall.About sampleRunId (.save cancellablePause .zero (.utc 20)) := rfl
  have habout' : PauseCall.About sampleRunId (.save cancellablePause .zero (.utc 30)) := rfl
  have honce : PauseHistory samplePlatform sampleRunId "org" admittedDatabase
      [.save cancellablePause .zero (.utc 20)] savedOnce := .snoc .nil habout hsave
  have hthen : PauseHistory samplePlatform sampleRunId "org" admittedDatabase
      [.save cancellablePause .zero (.utc 20), .clear] savedCleared :=
    .snoc honce trivial hcleared
  refine ⟨.snoc hthen habout' hsaved, rfl, hunseen, ?_⟩
  rw [exists_of_raised hrefused, savePauseSignal_clean _ _ _ _ _ _ _ _ (exists_of_raised hrefused)]

end Run

end AgentPact
