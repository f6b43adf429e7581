import AgentPact.AgentRuns.ApprovalCalls
import AgentPact.Base.Lts

/-!
# Requests and their actions

Along every run of calls a step has at most one unresolved action, an action and
its request come in pairs, a request is decided once and not by its requester, an
action only moves on to later versions, and it makes its native pair RESUMING
once.  The two of a pair agree unless the action was moved by a call of
`record_approval_decision` of its own: then the request stays pending.
-/

namespace AgentPact

open Base Transaction

/-! ## What rows may become -/

/-- The moves of the status of a pending action. -/
inductive PendingActionStatus.Next : PendingActionStatus → PendingActionStatus → Prop
  | approve : Next .pending .approved
  | reject : Next .pending .rejected
  | expire : Next .pending .expired
  | invalidate : Next .approved .invalidated

/-- A change of a pending action: its status moves, and it is the next version. -/
structure PendingActionModel.Changes (a b : PendingActionModel) : Prop where
  status : a.status.Next b.status
  rest : b = { a with status := b.status, rowVersion := a.rowVersion + 1 }

/-- What a pending action may become, change after change. -/
def PendingActionModel.Becomes : PendingActionModel → PendingActionModel → Prop :=
  Relation.ReflTransGen PendingActionModel.Changes

namespace PendingActionModel

/-- An action that is not as it was is a later version. -/
theorem Becomes.eq_or_lt {a b : PendingActionModel} (h : a.Becomes b) :
    b = a ∨ a.rowVersion < b.rowVersion := by
  induction h with
  | refl => exact .inl rfl
  | @tail b c _ hchange ih =>
      have hnext : c.rowVersion = b.rowVersion + 1 := by rw [hchange.rest]
      rcases ih with rfl | hlt
      · exact .inr (by omega)
      · exact .inr (by omega)

/-- An invalidated action stays as it is. -/
theorem Becomes.of_invalidated {a b : PendingActionModel} (h : a.Becomes b)
    (ha : a.status = .invalidated) : b = a := by
  induction h with
  | refl => rfl
  | tail _ hchange ih =>
      have hnext := hchange.status
      rw [ih, ha] at hnext
      cases hnext

theorem move_approvalId (fromStatus toStatus : PendingActionStatus)
    (h : toStatus.unresolved = true → fromStatus.unresolved = true) (m : PendingActionModel) :
    ((PendingActionModel.move fromStatus toStatus h).apply m).approvalId = m.approvalId := by
  simp only [PendingActionModel.move]
  split <;> rfl

theorem move_status {fromStatus toStatus : PendingActionStatus}
    {h : toStatus.unresolved = true → fromStatus.unresolved = true} {m : PendingActionModel}
    (hstatus : m.status = fromStatus) :
    ((PendingActionModel.move fromStatus toStatus h).apply m).status = toStatus := by
  simp only [PendingActionModel.move, hstatus, if_true]

/-- A move is a change. -/
theorem Becomes.move {fromStatus toStatus : PendingActionStatus}
    {h : toStatus.unresolved = true → fromStatus.unresolved = true} {m : PendingActionModel}
    (hstatus : m.status = fromStatus) (hnext : fromStatus.Next toStatus) :
    m.Becomes ((PendingActionModel.move fromStatus toStatus h).apply m) := by
  refine .single ⟨?_, ?_⟩ <;> simp only [PendingActionModel.move, hstatus, if_true]
  exact hnext

/-- No two actions are linked to one request. -/
theorem eq_of_linked {t : Table PendingActionModel} {a b : PendingActionModel} {id : String}
    (ha : a ∈ t.rows) (hb : b ∈ t.rows) (hlinked : a.approvalId = some id)
    (hlinked' : b.approvalId = some id) : a = b := by
  refine Table.eq_of_clash ha hb ?_
  simp [Schema.clash, PendingActionModel.clash, bothEqual, hlinked, hlinked']

/-- No two unresolved actions are of one step. -/
theorem eq_of_unresolved {t : Table PendingActionModel} {a b : PendingActionModel}
    (ha : a ∈ t.rows) (hb : b ∈ t.rows) (htask : a.taskId = b.taskId) (hstep : a.stepId = b.stepId)
    (hactive : a.status.unresolved = true) (hactive' : b.status.unresolved = true) : a = b := by
  refine Table.eq_of_clash ha hb ?_
  simp [Schema.clash, PendingActionModel.clash, htask, hstep, hactive, hactive']

end PendingActionModel

/-- A request that is decided stays as it is. -/
def ApprovalRequestModel.Stays (a b : ApprovalRequestModel) : Prop := a.status ≠ .pending → b = a

theorem ApprovalRequestModel.Stays.trans (a b c : ApprovalRequestModel) (h : a.Stays b)
    (h' : b.Stays c) : a.Stays c := by
  intro hdecided
  have hsame := h hdecided
  rw [hsame] at h'
  exact h' hdecided

theorem ApprovalDecision.next (d : ApprovalDecision) :
    PendingActionStatus.Next .pending d.pendingStatus := by
  unfold ApprovalDecision.pendingStatus
  split
  · exact .approve
  · exact .reject

/-! ## Requests and their actions -/

/-- A request and its action agree, unless the action was moved alone. -/
def ApprovalRequestModel.Agrees (alone : Prop) (a : ApprovalRequestModel) (m : PendingActionModel) :
    Prop :=
  match a.status with
  | .pending => m.status = .pending ∨ m.status = .expired ∨ alone
  | .approved => m.status = .approved ∨ m.status = .invalidated
  | .rejected => m.status = .rejected
  | .timeout => False

theorem ApprovalRequestModel.Agrees.imp {alone alone' : Prop} {a : ApprovalRequestModel}
    {m : PendingActionModel} (h : a.Agrees alone m) (himp : alone → alone') : a.Agrees alone' m := by
  unfold Agrees at *
  split at h
  case h_1 => exact h.imp_right (.imp_right himp)
  all_goals exact h

/-- A decision gives a request and its action one status. -/
theorem ApprovalRequestModel.Agrees.decide {alone : Prop} {d : ApprovalDecision}
    (a : ApprovalRequestModel) {m : PendingActionModel} (hpending : m.status = .pending) :
    ((ApprovalRequestModel.decide d).apply a).Agrees alone
      ((PendingActionModel.move .pending d.pendingStatus fun _ => rfl).apply m) := by
  have hstatus : ((PendingActionModel.move .pending d.pendingStatus fun _ => rfl).apply m).status =
      d.pendingStatus := PendingActionModel.move_status hpending
  unfold Agrees
  rw [hstatus]
  cases happroved : d.approved <;>
    simp [ApprovalRequestModel.decide, ApprovalDecision.status, ApprovalDecision.pendingStatus,
      happroved]

/-- The request of an action that was moved from PENDING alone is pending. -/
theorem ApprovalRequestModel.Agrees.record {alone : Prop} {a : ApprovalRequestModel}
    {m m' : PendingActionModel} (h : a.Agrees alone m) (hpending : m.status = .pending) :
    a.Agrees True m' := by
  unfold Agrees at *
  cases hstatus : a.status <;> simp_all

/-- The request of an action that is consumed is approved, unless the action was moved alone. -/
theorem ApprovalRequestModel.Agrees.consume {alone : Prop} {a : ApprovalRequestModel}
    {m m' : PendingActionModel} (h : a.Agrees alone m) (happroved : m.status = .approved)
    (hinvalidated : m'.status = .invalidated) : a.Agrees alone m' := by
  unfold Agrees at *
  cases hstatus : a.status <;> simp_all

/-- What holds of the requests and the actions of a database. -/
structure Database.Paired (alone : String → Prop) (db : Database) : Prop where
  linked : ∀ id m, db.pendingActions.find? id = some m →
    ∃ approvalId a, m.approvalId = some approvalId ∧ db.approvals.find? approvalId = some a
  answered : ∀ approvalId a, db.approvals.find? approvalId = some a →
    ∃ m ∈ db.pendingActions.rows, m.approvalId = some approvalId
  approver : ∀ approvalId a u, db.approvals.find? approvalId = some a →
    a.approverUserId = some u → a.requesterUserId ≠ some u
  agrees : ∀ approvalId a id m, db.approvals.find? approvalId = some a →
    db.pendingActions.find? id = some m → m.approvalId = some approvalId →
    a.Agrees (alone id) m

theorem Database.Paired.mono {alone alone' : String → Prop} {db : Database} (h : db.Paired alone)
    (halone : ∀ x, alone x → alone' x) : db.Paired alone' where
  linked := h.linked
  answered := h.answered
  approver := h.approver
  agrees approvalId a id m ha hm hlinked := (h.agrees approvalId a id m ha hm hlinked).imp (halone id)

/-- What later states keep of the requests and the actions. -/
structure Database.Continues (s t : Database) : Prop where
  actions : s.pendingActions.Evolves PendingActionModel.Becomes t.pendingActions
  approvals : s.approvals.Evolves ApprovalRequestModel.Stays t.approvals

namespace Database

variable {alone : String → Prop} {s t u seen : Database} {c : ApprovalCall}

/-- Requests that are left alone stay. -/
theorem stays_of_eq (h : t.approvals = s.approvals) :
    s.approvals.Evolves ApprovalRequestModel.Stays t.approvals := by
  rw [h]
  exact .refl (fun _ _ => rfl) _

/-- Requests and actions that are left alone continue. -/
theorem Continues.of_eq (hactions : t.pendingActions = s.pendingActions)
    (happrovals : t.approvals = s.approvals) : s.Continues t := by
  refine ⟨?_, stays_of_eq happrovals⟩
  rw [hactions]
  exact .refl (fun _ => .refl) _

theorem Continues.trans (h : s.Continues t) (h' : t.Continues u) : s.Continues u :=
  ⟨h.actions.trans (fun _ _ _ => .trans) h'.actions, h.approvals.trans (.trans) h'.approvals⟩

/-- A request whose action was there when it was looked for was found. -/
theorem Paired.pendingOf_ne_none (h : seen.Paired alone) {approvalId : String}
    (ha : (seen.approvals.find? approvalId).isSome) : seen.pendingOf approvalId ≠ none := by
  obtain ⟨a, ha⟩ := Option.isSome_iff_exists.mp ha
  obtain ⟨m, hm, hlinked⟩ := h.answered _ a ha
  intro hnone
  have hempty := List.head?_eq_none_iff.mp hnone
  have hmem : m ∈ seen.pendingActions.select fun m => m.approvalId = some approvalId :=
    Table.mem_select.mpr ⟨hm, by simpa using hlinked⟩
  rw [hempty] at hmem
  cases hmem

end Database

/-! ## What a call writes -/

/-- What a call that returned wrote. -/
inductive ApprovalCall.Writes (c : ApprovalCall) (s t : Database) : Prop
  | create {r : ApprovalPauseRequest} {row : PendingActionModel} (hcall : c = .create r)
      (hlinked : row.approvalId = some r.approvalId) (hpending : row.status = .pending)
      (hactions : t.pendingActions.rows = s.pendingActions.rows ++ [row])
      (happrovals : s.approvals.insert? r.approval = some t.approvals)
  | decide {d : ApprovalDecision} {a : ApprovalRequestModel} {id : String} {m : PendingActionModel}
      (hcall : c = .decide d) (hrequest : s.approvals.find? d.approvalId = some a)
      (hopen : a.status = .pending) (hother : a.requesterUserId ≠ some d.approverUserId)
      (hfind : s.pendingActions.find? id = some m) (hpending : m.status = .pending)
      (hlinked : m.approvalId = some d.approvalId)
      (hactions : t.pendingActions = s.pendingActions.update id
        (PendingActionModel.move .pending d.pendingStatus fun _ => rfl))
      (happrovals : t.approvals = s.approvals.update d.approvalId (ApprovalRequestModel.decide d))
  | record {d : ApprovalDecision} {version : Nat} {id : String} {m : PendingActionModel}
      (hcall : c = .record id d version) (hfind : s.pendingActions.find? id = some m)
      (hpending : m.status = .pending)
      (hactions : t.pendingActions = s.pendingActions.update id
        (PendingActionModel.move .pending d.pendingStatus fun _ => rfl))
      (happrovals : t.approvals = s.approvals)
  | consume {id : String} {m : PendingActionModel} (hdecided : c.decided = none)
      (hresumed : ∀ x, c.resumed = some x → x = id)
      (hfind : s.pendingActions.find? id = some m) (happroved : m.status = .approved)
      (hactions : t.pendingActions = s.pendingActions.update id
        (PendingActionModel.move .approved .invalidated invalidated_resolved))
      (happrovals : t.approvals = s.approvals)

theorem createPendingActionAfter_eq_ok {existing : Option PendingActionModel}
    {r : PendingActionRequest} {s t : Database} {m : PendingActionModel}
    (h : createPendingActionAfter existing r s = .ok m t) :
    m.pendingActionId = r.pendingActionId ∧ m.approvalId = none ∧ m.status = .pending ∧
      ∃ pendingActions, s.pendingActions.insert? m = some pendingActions ∧
        t = { s with pendingActions := pendingActions } := by
  obtain ⟨_, h⟩ := require_bind_eq_ok.mp h
  obtain ⟨_, h⟩ := require_bind_eq_ok.mp h
  obtain ⟨_, h⟩ := require_bind_eq_ok.mp h
  obtain ⟨_, h⟩ := require_bind_eq_ok.mp h
  obtain ⟨expiresAt, _, h⟩ := lift_bind_eq_ok.mp h
  obtain ⟨_, _, hwrite, hpure⟩ := bind_eq_ok.mp h
  cases hpure
  have hput := write?_eq_ok.mp hwrite
  obtain ⟨pendingActions, hinsert, rfl⟩ := Option.map_eq_some_iff.mp hput
  exact ⟨rfl, rfl, rfl, pendingActions, hinsert, rfl⟩

theorem createApprovalPauseAfter_eq_ok {existing : Option PendingActionModel}
    {r : ApprovalPauseRequest} {s t : Database} {p : ApprovalPauseState}
    (h : createApprovalPauseAfter existing r s = .ok p t) :
    ∃ row : PendingActionModel, row.approvalId = some r.approvalId ∧ row.status = .pending ∧
      t.pendingActions.rows = s.pendingActions.rows ++ [row] ∧
      s.approvals.insert? r.approval = some t.approvals := by
  obtain ⟨created, _, hcreate, h⟩ := bind_eq_ok.mp h
  obtain ⟨_, _, hinsert, h⟩ := bind_eq_ok.mp h
  obtain ⟨action, _, hattach, hpause⟩ := bind_eq_ok.mp h
  obtain ⟨_, _, hpending, _, hrow, rfl⟩ := createPendingActionAfter_eq_ok hcreate
  have hput := write?_eq_ok.mp hinsert
  obtain ⟨approvals, happroval, rfl⟩ := Option.map_eq_some_iff.mp hput
  obtain ⟨_, _, attached, _, _, _, _, _, hrewrite, rfl, _⟩ := attachApproval_eq_ok hattach
  obtain ⟨_, rfl⟩ := pauseForApproval_eq_ok hpause
  exact ⟨created.attach r.approvalId, rfl, hpending, Table.rewrite?_insert? hrow hrewrite,
    happroval⟩

theorem decideApprovalRequestAfter_eq_ok {pending : Option PendingActionModel}
    {d : ApprovalDecision} {s t : Database} {a' : ApprovalRequestModel}
    (h : decideApprovalRequestAfter pending d s = .ok a' t) :
    ∃ a, s.approvals.find? d.approvalId = some a ∧ a.status = .pending ∧
      a.requesterUserId ≠ some d.approverUserId ∧
      t.approvals = s.approvals.update d.approvalId (ApprovalRequestModel.decide d) ∧
      (pending = none ∨ ∃ id m, s.pendingActions.find? id = some m ∧ m.status = .pending ∧
        m.approvalId = some d.approvalId ∧ t.pendingActions = s.pendingActions.update id
          (PendingActionModel.move .pending d.pendingStatus fun _ => rfl)) := by
  obtain ⟨a, hfind, h⟩ := fetch_bind_eq_ok.mp h
  obtain ⟨_, h⟩ := require_bind_eq_ok.mp h
  obtain ⟨hpending, h⟩ := require_bind_eq_ok.mp h
  obtain ⟨hother, h⟩ := require_bind_eq_ok.mp h
  rw [write_bind] at h
  cases pending with
  | none =>
      cases h
      exact ⟨a, hfind, hpending, hother, rfl, .inl rfl⟩
  | some model =>
      obtain ⟨_, _, hrecord, hpure⟩ := bind_eq_ok.mp h
      cases hpure
      obtain ⟨m, hm, hstatus, _, _, hlinked, rfl, _⟩ := recordApprovalDecision_eq_ok.mp hrecord
      exact ⟨a, hfind, hpending, hother, rfl, .inr ⟨_, m, hm, hstatus, hlinked, rfl⟩⟩

/-- An action is invalidated from its approval. -/
theorem invalidateApprovedAction_eq_ok {id : String} {version : Nat} {s t : Database}
    {m' : PendingActionModel} (h : invalidateApprovedActionForReobservation id version s = .ok m' t) :
    ∃ m, s.pendingActions.find? id = some m ∧ m.status = .approved ∧
      t = s.updatePending id (PendingActionModel.move .approved .invalidated invalidated_resolved) := by
  obtain ⟨m, hfind, h⟩ := fetch_bind_eq_ok.mp h
  obtain ⟨happroved, h⟩ := require_bind_eq_ok.mp h
  obtain ⟨_, h⟩ := require_bind_eq_ok.mp h
  rw [write_bind] at h
  cases h
  exact ⟨m, hfind, happroved, rfl⟩

/-- What a call wrote, where requests and actions come in pairs.  Every action is linked, so that
none can be attached, and the action of a request is found. -/
theorem ApprovalCall.writes_of_run {alone : String → Prop} {c : ApprovalCall} {seen s t : Database}
    (hs : s.Paired alone) (hseen : seen.Paired alone) (hlocks : c.LocksBefore seen s)
    (h : c.run seen s = .ok () t) : c.Writes s t := by
  cases c with
  | create r =>
      obtain ⟨_, _, h, hpure⟩ := bind_eq_ok.mp h
      cases hpure
      obtain ⟨row, hlinked, hpending, hactions, happrovals⟩ := createApprovalPauseAfter_eq_ok h
      exact .create rfl hlinked hpending hactions happrovals
  | decide d =>
      obtain ⟨_, _, h, hpure⟩ := bind_eq_ok.mp h
      cases hpure
      obtain ⟨a, hrequest, hopen, hother, happrovals, hactions⟩ :=
        decideApprovalRequestAfter_eq_ok h
      have hthere : (s.approvals.find? d.approvalId).isSome := by rw [hrequest]; rfl
      have hfound := hseen.pendingOf_ne_none (hlocks hthere)
      obtain ⟨id, m, hfind, hpending, hlinked, hactions⟩ := hactions.resolve_left hfound
      exact .decide rfl hrequest hopen hother hfind hpending hlinked hactions happrovals
  | reobserve taskId stepId organizationId id version =>
      obtain ⟨_, _, h, hpure⟩ := bind_eq_ok.mp h
      cases hpure
      obtain ⟨m, _, _, hfind, happroved, _, _, _, _, _, _, _, _, rfl⟩ :=
        beginReobservationAfterApproval_eq_ok h
      exact .consume rfl (fun x hx => (Option.some.inj hx).symm) hfind happroved rfl rfl
  | attach id approvalId version now =>
      obtain ⟨_, _, h, hpure⟩ := bind_eq_ok.mp h
      cases hpure
      obtain ⟨_, m, _, hfind, _, _, _, hnone, _⟩ := attachApproval_eq_ok h
      obtain ⟨_, _, hlinked, _⟩ := hs.linked id m hfind
      cases hnone.symm.trans hlinked
  | record id d version =>
      obtain ⟨_, _, h, hpure⟩ := bind_eq_ok.mp h
      cases hpure
      obtain ⟨m, hfind, hpending, _, _, _, rfl, _⟩ := recordApprovalDecision_eq_ok.mp h
      exact .record rfl hfind hpending rfl rfl
  | invalidate id version =>
      obtain ⟨_, _, h, hpure⟩ := bind_eq_ok.mp h
      cases hpure
      obtain ⟨m, hfind, happroved, rfl⟩ := invalidateApprovedAction_eq_ok h
      exact .consume rfl (fun x hx => nomatch hx) hfind happroved rfl rfl

namespace Database

variable {alone : String → Prop} {s t u seen : Database} {c : ApprovalCall}

/-- A new request with its action. -/
theorem Paired.create {r : ApprovalPauseRequest} {row : PendingActionModel} (h : s.Paired alone)
    (hlinked : row.approvalId = some r.approvalId) (hpending : row.status = .pending)
    (hactions : t.pendingActions.rows = s.pendingActions.rows ++ [row])
    (happrovals : s.approvals.insert? r.approval = some t.approvals) : t.Paired alone := by
  have hfree : s.approvals.find? r.approvalId = none := Table.find?_none_of_insert? happrovals
  have hnew : t.approvals.find? r.approvalId = some r.approval :=
    Table.find?_insert?_self happrovals
  have hrequest : ∀ approvalId a, t.approvals.find? approvalId = some a →
      s.approvals.find? approvalId = some a ∨ approvalId = r.approvalId ∧ a = r.approval := by
    intro approvalId a ha
    rcases (Table.mem_insert? happrovals).mp (Table.mem_of_find? ha) with hold | rfl
    · exact .inl (Table.find?_eq_some.mpr ⟨hold, Table.key_of_find? ha⟩)
    · exact .inr ⟨(Table.key_of_find? ha).symm, rfl⟩
  have haction : ∀ id m, t.pendingActions.find? id = some m →
      s.pendingActions.find? id = some m ∨ m = row := by
    intro id m hm
    have hmem := Table.mem_of_find? hm
    rw [hactions, List.mem_append, List.mem_singleton] at hmem
    exact hmem.imp_left fun hold => Table.find?_eq_some.mpr ⟨hold, Table.key_of_find? hm⟩
  constructor
  case linked =>
    intro id m hm
    rcases haction id m hm with hold | rfl
    · obtain ⟨approvalId, a, hid, ha⟩ := h.linked id m hold
      exact ⟨approvalId, a, hid, Table.find?_insert?_of_find? happrovals ha⟩
    · exact ⟨_, _, hlinked, hnew⟩
  case answered =>
    intro approvalId a ha
    rw [hactions]
    rcases hrequest approvalId a ha with hold | ⟨rfl, rfl⟩
    · obtain ⟨m, hm, hid⟩ := h.answered approvalId a hold
      exact ⟨m, List.mem_append_left _ hm, hid⟩
    · exact ⟨row, by simp, hlinked⟩
  case approver =>
    intro approvalId a u ha hu
    rcases hrequest approvalId a ha with hold | ⟨rfl, rfl⟩
    · exact h.approver approvalId a u hold hu
    · cases hu
  case agrees =>
    intro approvalId a id m ha hm hid
    rcases hrequest approvalId a ha with hold | ⟨rfl, rfl⟩ <;>
      rcases haction id m hm with hold' | rfl
    · exact h.agrees approvalId a id m hold hold' hid
    · -- the new action is linked to a request that was not there
      cases hlinked.symm.trans hid
      rw [hfree] at hold
      cases hold
    · -- an action that was there is linked to one that was there
      obtain ⟨approvalId, a, hid', ha⟩ := h.linked id m hold'
      cases hid.symm.trans hid'
      rw [hfree] at ha
      cases ha
    · exact .inl hpending

/-- The status of an action moves, and its request stays or is decided alike. -/
theorem Paired.move {alone' : String → Prop} {id : String} {m : PendingActionModel}
    {fromStatus toStatus : PendingActionStatus}
    {hfrom : toStatus.unresolved = true → fromStatus.unresolved = true} (h : s.Paired alone)
    (halone : ∀ x, alone x → alone' x) (hfind : s.pendingActions.find? id = some m)
    (hactions : t.pendingActions =
      s.pendingActions.update id (PendingActionModel.move fromStatus toStatus hfrom))
    (happrovals : s.approvals.Evolves (fun _ _ => True) t.approvals)
    (hrequest : ∀ approvalId b, t.approvals.find? approvalId = some b →
      ∃ a, s.approvals.find? approvalId = some a ∧
        (m.approvalId ≠ some approvalId → b = a) ∧
        (∀ u, b.approverUserId = some u → b.requesterUserId ≠ some u) ∧
        (m.approvalId = some approvalId → a.Agrees (alone id) m → b.Agrees (alone' id)
          ((PendingActionModel.move fromStatus toStatus hfrom).apply m))) : t.Paired alone' := by
  have hkept : ∀ x : PendingActionModel,
      ((PendingActionModel.move fromStatus toStatus hfrom).apply x).approvalId = x.approvalId :=
    PendingActionModel.move_approvalId fromStatus toStatus hfrom
  constructor
  case linked =>
    intro id' m' hm'
    rw [hactions] at hm'
    obtain ⟨m₀, hm₀, hsame⟩ := Table.find?_update_some hm'
    have hid : m'.approvalId = m₀.approvalId := by
      rcases hsame with rfl | ⟨_, rfl⟩
      · rfl
      · exact hkept m₀
    obtain ⟨approvalId, a, hlinked, ha⟩ := h.linked id' m₀ hm₀
    obtain ⟨b, hb, _⟩ := happrovals approvalId a ha
    exact ⟨approvalId, b, hid.trans hlinked, hb⟩
  case answered =>
    intro approvalId b hb
    obtain ⟨a, ha, _⟩ := hrequest approvalId b hb
    obtain ⟨m', hm', hlinked⟩ := h.answered approvalId a ha
    rw [hactions]
    refine ⟨_, Table.mem_update.mpr ⟨m', hm', rfl⟩, ?_⟩
    unfold Table.editAt
    split
    · exact (hkept m').trans hlinked
    · exact hlinked
  case approver =>
    intro approvalId b u hb
    obtain ⟨a, _, _, happrover, _⟩ := hrequest approvalId b hb
    exact happrover u
  case agrees =>
    intro approvalId b id' m' hb hm' hid
    obtain ⟨a, ha, hother, _, hagrees⟩ := hrequest approvalId b hb
    rw [hactions] at hm'
    by_cases hsame : id' = id
    · subst hsame
      rw [Table.find?_update_self hfind] at hm'
      cases hm'
      rw [hkept] at hid
      exact hagrees hid (h.agrees approvalId a id' m ha hfind hid)
    · rw [Table.find?_update_ne hsame] at hm'
      have hunlinked : m.approvalId ≠ some approvalId := by
        intro hid'
        have heq := PendingActionModel.eq_of_linked (Table.mem_of_find? hm')
          (Table.mem_of_find? hfind) hid hid'
        exact hsame ((Table.key_of_find? hm').symm.trans
          ((congrArg Schema.key heq).trans (Table.key_of_find? hfind)))
      rw [hother hunlinked]
      exact (h.agrees approvalId a id' m' ha hm' hid).imp (halone id')

/-- A request and its action are decided together. -/
theorem Paired.decide {alone' : String → Prop} {d : ApprovalDecision} {a : ApprovalRequestModel}
    {id : String} {m : PendingActionModel} (h : s.Paired alone) (halone : ∀ x, alone x → alone' x)
    (hrequest : s.approvals.find? d.approvalId = some a)
    (hother : a.requesterUserId ≠ some d.approverUserId)
    (hfind : s.pendingActions.find? id = some m) (hpending : m.status = .pending)
    (hlinked : m.approvalId = some d.approvalId)
    (hactions : t.pendingActions = s.pendingActions.update id
      (PendingActionModel.move .pending d.pendingStatus fun _ => rfl))
    (happrovals : t.approvals = s.approvals.update d.approvalId (ApprovalRequestModel.decide d)) :
    t.Paired alone' := by
  refine h.move halone hfind hactions ?_ ?_
  · rw [happrovals]
    exact .update (fun _ => trivial) fun _ _ => trivial
  · intro approvalId b hb
    rw [happrovals] at hb
    by_cases hsame : approvalId = d.approvalId
    · subst hsame
      rw [Table.find?_update_self hrequest] at hb
      cases hb
      refine ⟨a, hrequest, fun hne => absurd hlinked hne, ?_, fun _ _ => .decide a hpending⟩
      intro u hu
      cases hu
      exact hother
    · rw [Table.find?_update_ne hsame] at hb
      refine ⟨b, hb, fun _ => rfl, fun u => h.approver _ b u hb, fun hlinked' => ?_⟩
      exact absurd (Option.some.inj (hlinked'.symm.trans hlinked)) hsame

/-- The status of an action moves, and no request changes. -/
theorem Paired.moveOnly {alone' : String → Prop} {id : String} {m : PendingActionModel}
    {fromStatus toStatus : PendingActionStatus}
    {hfrom : toStatus.unresolved = true → fromStatus.unresolved = true} (h : s.Paired alone)
    (halone : ∀ x, alone x → alone' x) (hfind : s.pendingActions.find? id = some m)
    (hactions : t.pendingActions =
      s.pendingActions.update id (PendingActionModel.move fromStatus toStatus hfrom))
    (happrovals : t.approvals = s.approvals)
    (hagrees : ∀ a : ApprovalRequestModel, a.Agrees (alone id) m → a.Agrees (alone' id)
      ((PendingActionModel.move fromStatus toStatus hfrom).apply m)) : t.Paired alone' := by
  refine h.move halone hfind hactions ?_ ?_
  · rw [happrovals]
    exact .refl (fun _ => trivial) _
  · intro approvalId b hb
    rw [happrovals] at hb
    exact ⟨b, hb, fun _ => rfl, fun u => h.approver _ b u hb, fun _ => hagrees b⟩

/-- The actions that have been moved alone, after a call. -/
def movedBy (alone : String → Prop) (c : ApprovalCall) (id : String) : Prop :=
  alone id ∨ ∃ d version, c = .record id d version

/-- A call that returned keeps requests and actions in pairs. -/
theorem Paired.writes (h : s.Paired alone) (hwrites : c.Writes s t) :
    t.Paired (movedBy alone c) := by
  have halone : ∀ x, alone x → movedBy alone c x := fun _ => .inl
  cases hwrites with
  | create _ hlinked hpending hactions happrovals =>
      exact (h.create hlinked hpending hactions happrovals).mono halone
  | decide _ hrequest _ hother hfind hpending hlinked hactions happrovals =>
      exact h.decide halone hrequest hother hfind hpending hlinked hactions happrovals
  | record hcall hfind hpending hactions happrovals =>
      refine h.moveOnly halone hfind hactions happrovals fun a hagrees => ?_
      exact (hagrees.record hpending).imp fun _ => .inr ⟨_, _, hcall⟩
  | consume _ _ hfind happroved hactions happrovals =>
      refine h.moveOnly halone hfind hactions happrovals fun a hagrees => ?_
      exact (hagrees.consume happroved (PendingActionModel.move_status happroved)).imp .inl

/-- A call that returned moves an action to the next version, and decides a pending request. -/
theorem Continues.of_writes (hwrites : c.Writes s t) : s.Continues t := by
  have hmoved : ∀ {id : String} {m : PendingActionModel} {fromStatus toStatus : PendingActionStatus}
      {hfrom : toStatus.unresolved = true → fromStatus.unresolved = true},
      s.pendingActions.find? id = some m → m.status = fromStatus → fromStatus.Next toStatus →
      t.pendingActions = s.pendingActions.update id
        (PendingActionModel.move fromStatus toStatus hfrom) →
      s.pendingActions.Evolves PendingActionModel.Becomes t.pendingActions := by
    intro id m fromStatus toStatus hfrom hfind hstatus hnext hactions
    rw [hactions]
    refine .update (fun _ => .refl) fun a ha => ?_
    cases hfind.symm.trans ha
    exact .move hstatus hnext
  cases hwrites with
  | create _ _ _ hactions happrovals =>
      refine ⟨fun id m hm => ⟨m, ?_, .refl⟩, .insert? (fun _ _ => rfl) happrovals⟩
      refine Table.find?_eq_some.mpr ⟨?_, Table.key_of_find? hm⟩
      rw [hactions]
      exact List.mem_append_left _ (Table.mem_of_find? hm)
  | decide _ hrequest hopen _ hfind hpending _ hactions happrovals =>
      refine ⟨hmoved hfind hpending (ApprovalDecision.next _) hactions, ?_⟩
      rw [happrovals]
      refine .update (fun _ _ => rfl) fun a ha hdecided => ?_
      cases hrequest.symm.trans ha
      exact absurd hopen hdecided
  | record _ hfind hpending hactions happrovals =>
      exact ⟨hmoved hfind hpending (ApprovalDecision.next _) hactions, stays_of_eq happrovals⟩
  | consume _ _ hfind happroved hactions happrovals =>
      exact ⟨hmoved hfind happroved .invalidate hactions, stays_of_eq happrovals⟩

end Database

/-! ## Runs -/

namespace ApprovalWorld

variable {w v : ApprovalWorld}

/-- The actions that `record_approval_decision` was called for on its own. -/
def RecordedAlone (w : ApprovalWorld) (id : String) : Prop :=
  ∃ d version, .record id d version ∈ w.returned

/-- Before the first call there is no request and no action. -/
structure Starts (w : ApprovalWorld) : Prop where
  actions : w.database.pendingActions.rows = []
  approvals : w.database.approvals.rows = []
  past : w.past = []
  returned : w.returned = []

/-- What holds in every state that calls can reach. -/
structure Kept (w : ApprovalWorld) : Prop where
  paired : ∀ s ∈ w.database :: w.past, s.Paired w.RecordedAlone
  continues : ∀ s ∈ w.past, s.Continues w.database
  decided : (w.returned.filterMap ApprovalCall.decided).Nodup
  settled : ∀ approvalId ∈ w.returned.filterMap ApprovalCall.decided,
    ∃ a, w.database.approvals.find? approvalId = some a ∧ a.status ≠ .pending
  resumed : (w.returned.filterMap ApprovalCall.resumed).Nodup
  consumed : ∀ id ∈ w.returned.filterMap ApprovalCall.resumed,
    ∃ m, w.database.pendingActions.find? id = some m ∧ m.status = .invalidated

/-- A list in which a call is marked for what no earlier call is marked for. -/
theorem nodup_filterMap_cons {f : ApprovalCall → Option String} {c : ApprovalCall}
    {l : List ApprovalCall} (h : (l.filterMap f).Nodup) (hnew : ∀ x, f c = some x → x ∉ l.filterMap f) :
    ((c :: l).filterMap f).Nodup := by
  cases hmark : f c with
  | none =>
      rw [List.filterMap_cons_none hmark]
      exact h
  | some x =>
      rw [List.filterMap_cons_some hmark]
      exact List.nodup_cons.mpr ⟨hnew x hmark, h⟩

theorem mem_filterMap_cons {f : ApprovalCall → Option String} {c : ApprovalCall}
    {l : List ApprovalCall} {x : String} (h : x ∈ (c :: l).filterMap f) :
    f c = some x ∨ x ∈ l.filterMap f := by
  obtain ⟨d, hd, hmark⟩ := List.mem_filterMap.mp h
  rcases List.mem_cons.mp hd with rfl | hd
  · exact .inl hmark
  · exact .inr (List.mem_filterMap.mpr ⟨d, hd, hmark⟩)

/-- A request that a call decides was pending, and is not. -/
theorem decides_of_writes {c : ApprovalCall} {s t : Database} (h : c.Writes s t) {approvalId : String}
    (hdecided : c.decided = some approvalId) :
    (∃ a, s.approvals.find? approvalId = some a ∧ a.status = .pending) ∧
      ∃ b, t.approvals.find? approvalId = some b ∧ b.status ≠ .pending := by
  cases h with
  | create hcall => subst hcall; cases hdecided
  | record hcall => subst hcall; cases hdecided
  | consume hnone => cases hnone.symm.trans hdecided
  | @decide d a _ _ hcall hrequest hopen _ _ _ _ _ happrovals =>
      subst hcall
      cases hdecided
      refine ⟨⟨a, hrequest, hopen⟩, (ApprovalRequestModel.decide d).apply a, ?_, ?_⟩
      · rw [happrovals]
        exact Table.find?_update_self hrequest
      · simp only [ApprovalRequestModel.decide, ApprovalDecision.status]
        cases d.approved <;> decide

/-- An action that a call consumes for its native pair was approved, and is invalidated. -/
theorem resumes_of_writes {c : ApprovalCall} {s t : Database} (h : c.Writes s t) {id : String}
    (hresumed : c.resumed = some id) :
    (∃ m, s.pendingActions.find? id = some m ∧ m.status = .approved) ∧
      ∃ m, t.pendingActions.find? id = some m ∧ m.status = .invalidated := by
  cases h with
  | create hcall => subst hcall; cases hresumed
  | record hcall => subst hcall; cases hresumed
  | decide hcall => subst hcall; cases hresumed
  | @consume id' m _ hsame hfind happroved hactions _ =>
      cases hsame id hresumed
      rw [hactions]
      exact ⟨⟨m, hfind, happroved⟩, _, Table.find?_update_self hfind,
        PendingActionModel.move_status happroved⟩

theorem Kept.of_starts (h : w.Starts) : w.Kept := by
  have hactions : ∀ id, w.database.pendingActions.find? id = none := fun id =>
    Table.find?_eq_none.mpr (by simp [h.actions])
  have happrovals : ∀ id, w.database.approvals.find? id = none := fun id =>
    Table.find?_eq_none.mpr (by simp [h.approvals])
  constructor
  case paired =>
    intro s hs
    rw [h.past, List.mem_singleton] at hs
    subst hs
    constructor <;> simp [hactions, happrovals]
  all_goals simp [h.past, h.returned]

/-- The states before continue into the state after the next one. -/
theorem Kept.continues_cons {t : Database} (h : w.Kept) (hcontinues : w.database.Continues t) :
    ∀ s ∈ w.database :: w.past, s.Continues t := by
  intro s hs
  rcases List.mem_cons.mp hs with rfl | hs
  · exact hcontinues
  · exact (h.continues s hs).trans hcontinues

/-- What a call that returns keeps. -/
theorem Kept.returns {c : ApprovalCall} {seen t : Database} (h : w.Kept)
    (hseen : seen ∈ w.database :: w.past) (hlocks : c.LocksBefore seen w.database)
    (hrun : c.run seen w.database = .ok () t) :
    Kept ⟨t, w.database :: w.past, c :: w.returned⟩ := by
  have hpaired := h.paired _ (List.mem_cons_self ..)
  have hwrites := ApprovalCall.writes_of_run hpaired (h.paired seen hseen) hlocks hrun
  have hcontinues := Database.Continues.of_writes hwrites
  have halone : ∀ id, w.RecordedAlone id →
      RecordedAlone ⟨t, w.database :: w.past, c :: w.returned⟩ id := fun id ⟨d, version, hmem⟩ =>
    ⟨d, version, List.mem_cons_of_mem _ hmem⟩
  constructor
  case paired =>
    intro s hs
    rcases List.mem_cons.mp hs with rfl | hs
    · refine (hpaired.writes hwrites).mono fun id hmoved => ?_
      rcases hmoved with hold | ⟨d, version, rfl⟩
      · exact halone id hold
      · exact ⟨d, version, List.mem_cons_self ..⟩
    · exact (h.paired s hs).mono halone
  case continues => exact h.continues_cons hcontinues
  case decided =>
    refine nodup_filterMap_cons h.decided fun x hx hmem => ?_
    obtain ⟨a, ha, hsettled⟩ := h.settled x hmem
    obtain ⟨⟨b, hb, hopen⟩, _⟩ := decides_of_writes hwrites hx
    cases ha.symm.trans hb
    exact hsettled hopen
  case settled =>
    intro x hx
    rcases mem_filterMap_cons hx with hx | hx
    · exact (decides_of_writes hwrites hx).2
    · obtain ⟨a, ha, hsettled⟩ := h.settled x hx
      obtain ⟨b, hb, hstays⟩ := hcontinues.approvals x a ha
      exact ⟨b, hb, (hstays hsettled).symm ▸ hsettled⟩
  case resumed =>
    refine nodup_filterMap_cons h.resumed fun x hx hmem => ?_
    obtain ⟨m, hm, hconsumed⟩ := h.consumed x hmem
    obtain ⟨⟨m', hm', happroved⟩, _⟩ := resumes_of_writes hwrites hx
    cases hm.symm.trans hm'
    cases hconsumed.symm.trans happroved
  case consumed =>
    intro x hx
    rcases mem_filterMap_cons hx with hx | hx
    · exact (resumes_of_writes hwrites hx).2
    · obtain ⟨m, hm, hconsumed⟩ := h.consumed x hx
      obtain ⟨m', hm', hbecomes⟩ := hcontinues.actions x m hm
      exact ⟨m', hm', (hbecomes.of_invalidated hconsumed).symm ▸ hconsumed⟩

/-- What a write to other tables keeps. -/
theorem Kept.other {t : Database} (h : w.Kept)
    (hactions : t.pendingActions = w.database.pendingActions)
    (happrovals : t.approvals = w.database.approvals) :
    Kept ⟨t, w.database :: w.past, w.returned⟩ := by
  have hpaired := h.paired _ (List.mem_cons_self ..)
  constructor
  case paired =>
    intro s hs
    rcases List.mem_cons.mp hs with rfl | hs
    · constructor
      all_goals simp only [hactions, happrovals]
      · exact hpaired.linked
      · exact hpaired.answered
      · exact hpaired.approver
      · exact hpaired.agrees
    · exact h.paired s hs
  case continues => exact h.continues_cons (.of_eq hactions happrovals)
  case decided => exact h.decided
  case settled =>
    intro x hx
    rw [happrovals]
    exact h.settled x hx
  case resumed => exact h.resumed
  case consumed =>
    intro x hx
    rw [hactions]
    exact h.consumed x hx

theorem Kept.step {e : ApprovalEvent} (h : w.Kept) (hstep : ApprovalCallStep e w v) : v.Kept := by
  cases hstep with
  | returns hseen hlocks hrun => exact h.returns hseen hlocks hrun
  | raises => exact h
  | other hactions happrovals => exact h.other hactions happrovals

end ApprovalWorld

/-- Callers make calls in any order and at the same time.  In every state that is committed, a step
has at most one unresolved action; every action is linked to a request of its own, and every request
to an action; who decided a request did not ask for it; and the two agree, unless the action was
moved by a call of `record_approval_decision` alone, and then the request is pending.  A request is
decided once, and an action resumes its native pair once.  An action that changed went the way of
its statuses, to a later version. -/
theorem approval_calls_sound {w₀ w : ApprovalWorld} (hstart : w₀.Starts)
    (hrun : Reaches ApprovalCallStep always w₀ w) :
    (∀ a ∈ w.database.pendingActions.rows, ∀ b ∈ w.database.pendingActions.rows,
      a.taskId = b.taskId → a.stepId = b.stepId → a.status.unresolved = true →
        b.status.unresolved = true → a = b) ∧
    (∀ a ∈ w.database.pendingActions.rows, ∀ b ∈ w.database.pendingActions.rows,
      a.approvalId = b.approvalId → a = b) ∧
    w.database.Paired w.RecordedAlone ∧
    (w.returned.filterMap ApprovalCall.decided).Nodup ∧
    (w.returned.filterMap ApprovalCall.resumed).Nodup ∧
    ∀ s ∈ w.past, s.Continues w.database ∧
      ∀ id a b, s.pendingActions.find? id = some a → w.database.pendingActions.find? id = some b →
        b = a ∨ a.rowVersion < b.rowVersion := by
  have h : w.Kept := by
    refine hrun.invariant (fun _ _ _ _ h hstep => ?_) (ApprovalWorld.Kept.of_starts hstart)
    exact h.step hstep
  have hpaired := h.paired _ (List.mem_cons_self ..)
  refine ⟨?_, ?_, hpaired, h.decided, h.resumed, fun s hs => ⟨h.continues s hs, ?_⟩⟩
  · intro a ha b hb htask hstep
    exact PendingActionModel.eq_of_unresolved ha hb htask hstep
  · intro a ha b hb hsame
    obtain ⟨approvalId, _, hlinked, _⟩ := hpaired.linked _ a (Table.find?_key ha)
    exact PendingActionModel.eq_of_linked ha hb hlinked (hsame.symm.trans hlinked)
  · intro id a b ha hb
    obtain ⟨b', hb', hbecomes⟩ := (h.continues s hs).actions id a ha
    cases hb.symm.trans hb'
    exact hbecomes.eq_or_lt

section Run

/-- A call that returns, with its query answered when it commits. -/
theorem ApprovalWorld.reaches_call {w₀ w : ApprovalWorld} {c : ApprovalCall} {t : Database}
    (h : Reaches ApprovalCallStep always w₀ w) (hrun : c.run w.database w.database = .ok () t) :
    Reaches ApprovalCallStep always w₀ ⟨t, w.database :: w.past, c :: w.returned⟩ := by
  refine h.tail trivial (.returns (List.mem_cons_self ..) ?_ hrun)
  cases c with
  | decide d => exact id
  | create | reobserve | attach | record | invalidate => trivial

/-- A pause of the running step. -/
def sampleCreate : ApprovalCall := .create
  { pendingActionId := "action"
    approvalId := "approval"
    taskId := "task"
    stepId := "step"
    organizationId := "org"
    sourceDepartmentId := "dept"
    observationHash := "observation"
    decision := ⟨"decision", "intent", .requireApproval, .high, [], [], "1"⟩
    approverDepartmentId := none
    requesterUserId := some "requester"
    ttlSeconds := 100
    createdAt := .utc 11
    attachedAt := .utc 11 }

/-- The decision on its request. -/
def firstDecision : ApprovalDecision := ⟨"approval", "org", "approver", true, "", .utc 12⟩

/-- The database that a call leaves. -/
def ApprovalCall.leaves (c : ApprovalCall) (s : Database) : Database := left (c.run s s)

/-- The step is paused. -/
def createdDatabase : Database := sampleCreate.leaves runningDatabase

/-- The action was approved, and the request was not. -/
def apartDatabase : Database := (ApprovalCall.record "action" firstDecision 2).leaves createdDatabase

theorem starts_running : ApprovalWorld.Starts ⟨runningDatabase, [], []⟩ := ⟨rfl, rfl, rfl, rfl⟩

theorem reaches_created : Reaches ApprovalCallStep always ⟨runningDatabase, [], []⟩
    ⟨createdDatabase, [runningDatabase], [sampleCreate]⟩ := by
  have hran : returned (sampleCreate.run runningDatabase runningDatabase) = true := by
    decide +kernel
  obtain ⟨_, hrun⟩ := exists_of_returned hran
  exact ApprovalWorld.reaches_call (.refl _) hrun

theorem approval_calls_sound_sample : ∃ w, Reaches ApprovalCallStep always
    ⟨runningDatabase, [], []⟩ w ∧ w.returned.length = 2 ∧ w.database.Paired w.RecordedAlone := by
  have hran : returned ((ApprovalCall.decide firstDecision).run createdDatabase createdDatabase) =
      true := by decide +kernel
  obtain ⟨_, hrun⟩ := exists_of_returned hran
  have hreaches := ApprovalWorld.reaches_call reaches_created hrun
  exact ⟨_, hreaches, rfl, (approval_calls_sound starts_running hreaches).2.2.1⟩

/-- `record_approval_decision` called on its own approves the action of a request that stays
pending. -/
theorem recorded_alone : ¬ ∀ w₀ w : ApprovalWorld, w₀.Starts →
    Reaches ApprovalCallStep always w₀ w → ∀ approvalId a id m,
      w.database.approvals.find? approvalId = some a → w.database.pendingActions.find? id = some m →
      m.approvalId = some approvalId → a.Agrees False m := by
  intro h
  have hran : returned ((ApprovalCall.record "action" firstDecision 2).run createdDatabase
        createdDatabase) = true ∧
      (apartDatabase.approvals.find? "approval").map (·.status) = some .pending ∧
      (apartDatabase.pendingActions.find? "action").map (fun m => (m.approvalId, m.status)) =
        some (some "approval", .approved) := by decide +kernel
  obtain ⟨hrecorded, hrequest, haction⟩ := hran
  obtain ⟨_, hrun⟩ := exists_of_returned hrecorded
  have hreaches := ApprovalWorld.reaches_call reaches_created hrun
  obtain ⟨a, ha, hpending⟩ := Option.map_eq_some_iff.mp hrequest
  obtain ⟨m, hm, hboth⟩ := Option.map_eq_some_iff.mp haction
  obtain ⟨hlinked, happroved⟩ := Prod.mk.inj hboth
  have hagrees := h _ _ starts_running hreaches _ a _ m ha hm hlinked
  unfold ApprovalRequestModel.Agrees at hagrees
  rw [hpending, happroved] at hagrees
  exact absurd hagrees (by decide)

end Run

end AgentPact
