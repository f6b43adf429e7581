import AgentPact.AgentRuns.ApprovalCoherence
import AgentPact.AgentRuns.TenantRuns

/-!
# Four eyes

An approval request is decided once, by an approver of its tenant who is not the one
that asked.  `four_eyes` says so for every run of everything that writes requests:
the commands of the service, pauses, the endpoint and the recovery scan, by any
users and in any order.
-/

namespace AgentPact

open Base Transaction

/-! ## Requests over time -/

/-- A user who may decide a request: of its tenant, with the role of an approver, and not the one
that asked. -/
structure ApprovalRequestModel.MayDecide (a : ApprovalRequestModel) (user : UserContext) : Prop where
  organization : user.orgId = a.organizationId
  role : user.isAnyApprover = true
  other : a.requesterUserId ≠ some user.userId

/-- A request keeps who asked whom, and once it is decided it stays. -/
structure ApprovalRequestModel.Settles (a b : ApprovalRequestModel) : Prop where
  organizationId : b.organizationId = a.organizationId
  requesterUserId : b.requesterUserId = a.requesterUserId
  approverDepartmentId : b.approverDepartmentId = a.approverDepartmentId
  decided : a.status ≠ .pending → b = a

namespace ApprovalRequestModel.Settles

theorem refl (a : ApprovalRequestModel) : a.Settles a := ⟨rfl, rfl, rfl, fun _ => rfl⟩

theorem trans (a b c : ApprovalRequestModel) (h : a.Settles b) (h' : b.Settles c) :
    a.Settles c where
  organizationId := h'.organizationId.trans h.organizationId
  requesterUserId := h'.requesterUserId.trans h.requesterUserId
  approverDepartmentId := h'.approverDepartmentId.trans h.approverDepartmentId
  decided hdecided := by
    have hsame := h.decided hdecided
    exact (h'.decided (hsame ▸ hdecided)).trans hsame

/-- A request that waits may be decided. -/
theorem decide {a : ApprovalRequestModel} (d : ApprovalDecision) (hpending : a.status = .pending) :
    a.Settles ((ApprovalRequestModel.decide d).apply a) :=
  ⟨rfl, rfl, rfl, fun hdecided => absurd hpending hdecided⟩

end ApprovalRequestModel.Settles

/-- A request waits, or was decided by one of some users who may decide it. -/
def ApprovalRequestModel.Lawful (users : List UserContext) (a : ApprovalRequestModel) : Prop :=
  a.status = .pending ∨
    ∃ user ∈ users, a.MayDecide user ∧ a.approverUserId = some user.userId

namespace Database

/-- Requests go on lawfully: those there settle, and what is new or decided since is lawful. -/
structure Answers (users : List UserContext) (s t : Database) : Prop where
  settles : s.approvals.Evolves ApprovalRequestModel.Settles t.approvals
  lawful : ∀ b ∈ t.approvals.rows, b ∈ s.approvals.rows ∨ b.Lawful users

namespace Answers

variable {users users' : List UserContext} {s t u : Database}

theorem of_eq (h : t.approvals = s.approvals) : s.Answers users t := by
  constructor
  · rw [h]
    exact .refl .refl _
  · rw [h]
    exact fun _ => .inl

theorem refl (s : Database) : s.Answers users s := of_eq rfl

theorem trans (s t u : Database) (h : s.Answers users t) (h' : t.Answers users u) :
    s.Answers users u := by
  refine ⟨h.settles.trans .trans h'.settles, fun b hb => ?_⟩
  rcases h'.lawful b hb with hold | hlawful
  · exact h.lawful b hold
  · exact .inr hlawful

theorem mono (hsub : users ⊆ users') (h : s.Answers users t) : s.Answers users' t := by
  refine ⟨h.settles, fun b hb => ?_⟩
  refine (h.lawful b hb).imp_right fun hlawful => hlawful.imp_right ?_
  rintro ⟨user, huser, hdecided⟩
  exact ⟨user, hsub huser, hdecided⟩

/-- A decision by one of the users. -/
theorem decide {user : UserContext} {d : ApprovalDecision} {a : ApprovalRequestModel}
    (huser : user ∈ users) (hfind : s.approvals.find? d.approvalId = some a)
    (hpending : a.status = .pending) (hmay : a.MayDecide user)
    (hdecider : d.approverUserId = user.userId) :
    s.Answers users (s.updateApproval d.approvalId (ApprovalRequestModel.decide d)) := by
  constructor
  · refine .update .refl fun b hb => ?_
    cases hfind.symm.trans hb
    exact .decide d hpending
  · intro b hb
    obtain ⟨a', ha', rfl⟩ := Table.mem_update.mp hb
    unfold Table.editAt
    split
    case isFalse => exact .inl ha'
    case isTrue hkey =>
      have hsame : a' = a := Option.some.inj ((Table.find?_eq_some.mpr ⟨ha', hkey⟩).symm.trans hfind)
      subst hsame
      exact .inr (.inr ⟨user, huser, ⟨hmay.organization, hmay.role, hmay.other⟩,
        congrArg some hdecider⟩)

/-- A new request that waits. -/
theorem insert {a : ApprovalRequestModel} (h : s.approvals.insert? a = some t.approvals)
    (hpending : a.status = .pending) : s.Answers users t := by
  refine ⟨.insert? .refl h, fun b hb => ?_⟩
  rcases (Table.mem_insert? h).mp hb with hold | rfl
  · exact .inl hold
  · exact .inr (.inl hpending)

/-- A decision, whichever way it came in. -/
theorem decision {user : UserContext} {d : ApprovalDecision} {r : ApprovalRequestModel}
    (huser : user ∈ users) (h : decideApprovalRequest d s = .ok r t)
    (horganization : d.organizationId = user.orgId) (hdecider : d.approverUserId = user.userId)
    (hrole : user.isAnyApprover = true) : s.Answers users t := by
  obtain ⟨⟨a, hfind, hof, hpending, hrequester, _⟩, hwrites⟩ := decideApprovalRequest_eq_ok h
  have hmay : a.MayDecide user :=
    ⟨horganization.symm.trans hof.symm, hrole, hdecider ▸ hrequester⟩
  have hdecided := decide huser hfind hpending hmay hdecider
  cases hwrites with
  | alone _ => exact hdecided
  | linked _ _ _ => exact hdecided.trans _ _ _ (of_eq rfl)

/-- The writes of a command of one of the users. -/
theorem frames {user : UserContext} (huser : user ∈ users) : Frames user (Answers users) where
  refl := refl
  trans := trans
  write s t h := by
    cases h with
    | native _ _ _ _ => exact of_eq rfl
    | action _ _ => exact of_eq rfl
    | request hfind horganization hpending hdecider hrequester hrole =>
        exact decide huser hfind hpending ⟨horganization.symm, hrole, hrequester⟩ hdecider
    | row _ hinsert =>
        obtain ⟨_, _, rfl⟩ := Database.insertAudit?_eq_some.mp hinsert
        exact of_eq rfl

/-- A pause asks. -/
theorem pause {P : Platform} {r : RunApprovalPause} :
    s.Answers users (left (pauseRunForApproval P r s)) := by
  rcases (pauseRunForApproval_clean P r).left_cases s with hsame | ⟨c, hpause⟩
  · exact of_eq (congrArg approvals hsame)
  · generalize left (pauseRunForApproval P r s) = t at hpause ⊢
    obtain ⟨u, _, _, _, _, _, pause, _, h⟩ := pauseRunForApproval_eq_ok hpause
    have hasked : s.Answers users u := insert h.paused.approvals rfl
    refine hasked.trans _ _ _ (of_eq ?_)
    rw [appendAgentRunTransition_frame h.appended]

/-- The endpoint decides for an approver. -/
theorem endpoint {user : UserContext} {approvalId : String} {approved : Bool}
    {body : DecisionRequest} {now : DateTime} (huser : user ∈ users) :
    s.Answers users (left (decidePersistedRequest user approvalId approved body now s)) := by
  rcases (decidePersistedRequest_clean user approvalId approved body now).left_cases s with
    hsame | ⟨r, hdecide⟩
  · exact of_eq (congrArg approvals hsame)
  · obtain ⟨hrole, _, _, _, _, hdecide⟩ := decidePersistedRequest_eq_ok.mp hdecide
    exact decision huser hdecide rfl rfl hrole

/-- Resuming steps decides nothing. -/
theorem reobserveAll (ms : List PendingActionModel) :
    Within (Answers users) (AgentPact.reobserveAll ms) := by
  induction ms with
  | nil => exact .pure refl []
  | cons m ms ih =>
      refine .bind trans (.attempt fun s => ?_) fun resumed => .bind trans ih fun _ => .pure refl _
      rcases (beginReobservationAfterApproval_clean m.taskId m.stepId m.organizationId
        m.pendingActionId m.rowVersion).left_cases s with hsame | ⟨r, hbegin⟩
      · exact of_eq (congrArg approvals hsame)
      · obtain ⟨_, _, _, _, _, _, _, _, _, _, _, _, _, hleft⟩ :=
          beginReobservationAfterApproval_eq_ok hbegin
        have hrequests := congrArg approvals hleft
        exact of_eq hrequests

/-- A recovery scan decides nothing. -/
theorem scan {organizationId : Option String} {limit : Int} {held : PendingActionModel → Bool} :
    Within (Answers users)
      (atomic (prepareApprovedPausesForReobservation organizationId limit held)) :=
  .atomic refl (.bind trans (.require refl _) fun _ => .bind trans refl fun _ => reobserveAll _)

end Answers

end Database

/-! ## Everything that writes requests -/

/-- What may happen to requests. -/
inductive RequestEvent where
  | call (call : TenantCall)
  | pause (request : RunApprovalPause)
  | endpoint (user : UserContext) (approvalId : String) (approved : Bool) (body : DecisionRequest)
      (now : DateTime)
  | scan (organizationId : Option String) (limit : Int) (held : PendingActionModel → Bool)

/-- The database, and the users that called so far. -/
structure RequestWorld where
  database : Database
  users : List UserContext

/-- One event. -/
def RequestStep (P : Platform) : RequestEvent → RequestWorld → RequestWorld → Prop
  | .call l, v, w => TenantStep P l v.database w.database ∧ w.users = l.call.user :: v.users
  | .pause r, v, w => w = ⟨left (pauseRunForApproval P r v.database), v.users⟩
  | .endpoint user approvalId approved body now, v, w =>
      w = ⟨left (decidePersistedRequest user approvalId approved body now v.database),
        user :: v.users⟩
  | .scan organizationId limit held, v, w =>
      w = ⟨left (atomic (prepareApprovedPausesForReobservation organizationId limit held)
        v.database), v.users⟩

/-- The Packs of a call decide nothing: they leave requests alone, or ask. -/
def PacksAsk (P : Platform) (w : RequestWorld) : RequestEvent → Prop
  | .call l => PacksWithin P l.call.environment l.call.user (Database.Answers []) w.database
  | _ => True

/-- What one event makes of the requests. -/
theorem RequestStep.answers {P : Platform} {e : RequestEvent} {v w : RequestWorld}
    (hpacks : PacksAsk P v e) (h : RequestStep P e v w) :
    v.users ⊆ w.users ∧ v.database.Answers w.users w.database := by
  cases e with
  | call l =>
      obtain ⟨hcall, husers⟩ := h
      have hsub : v.users ⊆ w.users := husers ▸ List.subset_cons_self _ _
      have huser : l.call.user ∈ w.users := husers ▸ List.mem_cons_self ..
      have hanswers := AgentRunCommand.within (Database.Answers.frames huser)
        (hpacks.mono fun _ _ => .mono (List.nil_subset _)) l.runId l.call.command
      have hleft : w.database =
        left (l.call.command.run P l.call.environment l.call.user l.runId v.database) := hcall
      exact ⟨hsub, hleft ▸ hanswers⟩
  | pause r =>
      cases h
      exact ⟨List.Subset.refl _, .pause⟩
  | endpoint user approvalId approved body now =>
      cases h
      exact ⟨List.subset_cons_self _ _, .endpoint (List.mem_cons_self ..)⟩
  | scan organizationId limit held =>
      cases h
      exact ⟨List.Subset.refl _, .scan _⟩

/-- Four eyes.  Along every run of commands, pauses, decisions through the endpoint and recovery
scans, of any users in any order, with Packs that decide nothing, a request keeps its tenant, its
requester and its department, and once it is decided it stays as it is.  A request that is decided
along the run is decided by a user who called, who is an approver of the tenant of the request and
not the one that asked. -/
theorem four_eyes {P : Platform} {v w : RequestWorld}
    (hrun : Reaches (RequestStep P) (PacksAsk P) v w) :
    v.database.approvals.Evolves ApprovalRequestModel.Settles w.database.approvals ∧
    ∀ a ∈ w.database.approvals.rows, a.status ≠ .pending → a ∉ v.database.approvals.rows →
      ∃ user ∈ w.users, user.orgId = a.organizationId ∧ user.isAnyApprover = true ∧
        a.approverUserId = some user.userId ∧ a.requesterUserId ≠ some user.userId := by
  have hanswers : v.users ⊆ w.users ∧ v.database.Answers w.users w.database := by
    refine hrun.related (R := fun v w => v.users ⊆ w.users ∧ v.database.Answers w.users w.database)
      (fun _ => ⟨List.Subset.refl _, .refl _⟩) ?_ fun v e w hpacks hstep => hstep.answers hpacks
    rintro u v w ⟨hsub, hanswers⟩ ⟨hsub', hanswers'⟩
    exact ⟨List.Subset.trans hsub hsub', (hanswers.mono hsub').trans _ _ _ hanswers'⟩
  refine ⟨hanswers.2.settles, fun a ha hdecided hnew => ?_⟩
  rcases (hanswers.2.lawful a ha).resolve_left hnew with hpending | ⟨user, huser, hmay, hdecider⟩
  · exact absurd hpending hdecided
  · exact ⟨user, huser, hmay.organization, hmay.role, hdecider, hmay.other⟩

/-- The run of the examples, once the endpoint has granted its approval. -/
def approvedByAnother : Database :=
  left (decidePersistedRequest sampleUser "approval" true sampleDecision (.utc 12) awaitingDatabase)

theorem granted_request : ∃ a ∈ approvedByAnother.approvals.rows, a.status = .approved ∧
    a ∉ awaitingDatabase.approvals.rows := by
  decide +kernel

theorem four_eyes_sample : ∃ a ∈ approvedByAnother.approvals.rows, a.status = .approved ∧
    ∃ user ∈ [sampleUser], a.approverUserId = some user.userId ∧
      a.requesterUserId ≠ some user.userId := by
  have hrequest := granted_request
  unfold approvedByAnother at hrequest ⊢
  generalize awaitingDatabase = s at hrequest ⊢
  obtain ⟨a, ha, hstatus, hnew⟩ := hrequest
  have hrun : Reaches (RequestStep samplePlatform) (PacksAsk samplePlatform) ⟨s, []⟩
      ⟨left (decidePersistedRequest sampleUser "approval" true sampleDecision (.utc 12) s),
        [sampleUser]⟩ :=
    .single (l := .endpoint sampleUser "approval" true sampleDecision (.utc 12)) trivial rfl
  have hdecided : a.status ≠ .pending := by simp [hstatus]
  obtain ⟨user, huser, _, _, hdecider, hother⟩ := (four_eyes hrun).2 a ha hdecided hnew
  exact ⟨a, ha, hstatus, user, huser, hdecider, hother⟩

end AgentPact
