import AgentPact.Governance.Capabilities

/-!
# Who sees a task

A task of an organization belongs to a department and maybe to a business line.
Two parts of the code say who sees it.  `auth/permission.py` resolves how much
a user may do on it.  `tenant/middleware.py` gives a request the departments
and business lines of its user, and `tenant/routes.py` lists the tasks in them.

The list shows exactly the tasks that a user may read if every task is one on
which the two agree (`Lists`).  They disagree in two ways.  A user who may
approve across the organization is not given its tasks in the list, and a
department or a business line shows its tasks whatever role the user has.
-/

namespace AgentPact

/-! ## Permissions -/

/-- The place of a level in the order of `_higher_permission`. -/
def PermissionLevel.rank : PermissionLevel → Nat
  | .none => 0
  | .read => 1
  | .operate => 2
  | .approve => 3

/-- `_higher_permission`. -/
def higherPermission (a b : PermissionLevel) : PermissionLevel :=
  if b.rank ≤ a.rank then a else b

/-- `_ROLE_PERMISSION_MAP`, with NONE for another role. -/
def rolePermission (role : String) : PermissionLevel :=
  if role = "super_admin" ∨ role = "org_admin" ∨ role = "approver" then .approve
  else if role = "operator" then .operate
  else if role = "viewer" then .read
  else .none

/-- A row of `task_extensions`. -/
structure TaskExtensionModel where
  taskId : String
  organizationId : String
  departmentId : String
  businessLineId : Option String
deriving DecidableEq

/-- The business line of a task, if it names one. -/
def TaskExtensionModel.line (t : TaskExtensionModel) : Option String :=
  t.businessLineId.filter (· ≠ "")

namespace UserContext

variable (user : UserContext)

/-- Whether a task is in a business line of the user. -/
def sharesLine (t : TaskExtensionModel) : Bool := t.line.any user.hasBusinessLine

/-- The loop of `resolve_permission` over the roles: the level that it returns, or the level it
ends with. -/
def resolveRoles (t : TaskExtensionModel) :
    PermissionLevel → List DepartmentRole → PermissionLevel ⊕ PermissionLevel
  | effective, [] => .inr effective
  | effective, dr :: drs =>
      if dr.role ∈ ["super_admin", "org_admin"] then .inl .approve
      else if dr.departmentId = t.departmentId then
        resolveRoles t (higherPermission effective (rolePermission dr.role)) drs
      else if user.sharesLine t then
        resolveRoles t (higherPermission effective (rolePermission dr.role)) drs
      else resolveRoles t effective drs

/-- `resolve_permission`. -/
def resolvePermission (t : TaskExtensionModel) : PermissionLevel :=
  if user.orgId ≠ t.organizationId then .none
  else
    match user.resolveRoles t .none user.departmentRoles with
    | .inl level => level
    | .inr effective =>
        if user.hasCrossOrgApprove then higherPermission effective .approve
        else if user.hasCrossOrgRead then higherPermission effective .read
        else effective

/-- Whether the user may at least read a task. -/
def reads (t : TaskExtensionModel) : Bool :=
  PermissionLevel.read.rank ≤ (user.resolvePermission t).rank

/-- `department_ids`. -/
def departmentIds : List String := user.departmentRoles.map (·.departmentId)

end UserContext

/-! ## Lists -/

/-- What a request may see. -/
structure TenantContext where
  orgId : String
  userId : String
  visibleDepartmentIds : List String
  visibleBusinessLineIds : List String
  hasFullOrgVisibility : Bool

/-- The context that `TenantIsolationMiddleware.dispatch` gives the requests of a user. -/
def UserContext.tenantContext (user : UserContext) : TenantContext where
  orgId := user.orgId
  userId := user.userId
  visibleDepartmentIds := user.departmentIds
  visibleBusinessLineIds := user.businessLineIds
  hasFullOrgVisibility := user.isOrgAdmin || user.hasCrossOrgRead

namespace TenantContext

variable (ctx : TenantContext)

/-- The conditions on departments and business lines, where there are any of them.  A task without
a business line is in none of them. -/
def conditions : List (TaskExtensionModel → Bool) :=
  (if ctx.visibleDepartmentIds = [] then []
    else [fun t : TaskExtensionModel => decide (t.departmentId ∈ ctx.visibleDepartmentIds)]) ++
  (if ctx.visibleBusinessLineIds = [] then []
    else [fun t : TaskExtensionModel =>
      t.businessLineId.any fun line => decide (line ∈ ctx.visibleBusinessLineIds)])

/-- `apply_tenant_filter`. -/
def applyTenantFilter (rows : List TaskExtensionModel) : List TaskExtensionModel :=
  let rows := rows.filter fun t => t.organizationId = ctx.orgId
  if ctx.hasFullOrgVisibility then rows
  else if ctx.conditions.isEmpty then rows.filter fun t => t.organizationId = "__no_access__"
  else rows.filter fun t => ctx.conditions.any fun condition => condition t

/-- The query of `list_tasks`. -/
def listTasks (rows : List TaskExtensionModel) : List TaskExtensionModel :=
  let rows := rows.filter fun t => t.organizationId = ctx.orgId
  if ctx.hasFullOrgVisibility then rows
  else if ctx.conditions.isEmpty then []
  else rows.filter fun t => ctx.conditions.any fun condition => condition t

/-- Whether a task is in a visible department or business line. -/
def covers (t : TaskExtensionModel) : Bool :=
  t.departmentId ∈ ctx.visibleDepartmentIds ||
    t.businessLineId.any fun line => line ∈ ctx.visibleBusinessLineIds

variable {ctx : TenantContext} {rows : List TaskExtensionModel} {t : TaskExtensionModel}

theorem any_conditions (t : TaskExtensionModel) :
    (ctx.conditions.any fun condition => condition t) = ctx.covers t := by
  unfold conditions covers
  by_cases hdepartments : ctx.visibleDepartmentIds = [] <;>
    by_cases hlines : ctx.visibleBusinessLineIds = [] <;>
    simp [hdepartments, hlines]

/-- A task is listed if it is of the organization, and covered unless all of it is visible. -/
theorem mem_listTasks : t ∈ ctx.listTasks rows ↔
    t ∈ rows ∧ t.organizationId = ctx.orgId ∧
      (ctx.hasFullOrgVisibility = true ∨ ctx.covers t = true) := by
  unfold listTasks
  dsimp only
  split
  case isTrue hfull => simp [hfull]
  case isFalse hfull =>
    split
    case isTrue hnone =>
      have hcovers : ctx.covers t = false := by
        rw [← any_conditions, List.isEmpty_iff.mp hnone]
        rfl
      simp [hfull, hcovers]
    case isFalse =>
      rw [List.mem_filter, List.mem_filter, any_conditions]
      simp [hfull, and_assoc]

/-- The filter of every query lists what `list_tasks` does, for an organization with another name
than the one that stands for no access. -/
theorem applyTenantFilter_eq (h : ctx.orgId ≠ "__no_access__") :
    ctx.applyTenantFilter rows = ctx.listTasks rows := by
  unfold applyTenantFilter listTasks
  dsimp only
  split
  · rfl
  · split
    · rw [List.filter_filter, List.filter_eq_nil_iff]
      intro t _ hboth
      simp only [Bool.and_eq_true, decide_eq_true_eq] at hboth
      exact h (hboth.2.symm.trans hboth.1)
    · rfl

end TenantContext

/-! ## What a user may read -/

theorem rank_higherPermission (a b : PermissionLevel) :
    (higherPermission a b).rank = max a.rank b.rank := by
  unfold higherPermission
  split <;> omega

namespace UserContext

variable {user : UserContext} {t : TaskExtensionModel}

/-- The user has a role that counts for something on a task. -/
def HasRoleOn (user : UserContext) (t : TaskExtensionModel) : Prop :=
  ∃ dr ∈ user.departmentRoles, rolePermission dr.role ≠ .none ∧
    (dr.departmentId = t.departmentId ∨ user.sharesLine t = true)

theorem read_le_rank (level : PermissionLevel) :
    PermissionLevel.read.rank ≤ level.rank ↔ level ≠ .none := by
  cases level <;> simp [PermissionLevel.rank]

/-- Without an administrator's role, the loop ends above NONE if it began there, or if a role
counts. -/
theorem resolveRoles_reads (drs : List DepartmentRole)
    (hadmin : ∀ dr ∈ drs, dr.role ∉ ["super_admin", "org_admin"]) (effective : PermissionLevel) :
    ∃ level, user.resolveRoles t effective drs = .inr level ∧
      (level ≠ .none ↔ effective ≠ .none ∨ ∃ dr ∈ drs, rolePermission dr.role ≠ .none ∧
        (dr.departmentId = t.departmentId ∨ user.sharesLine t = true)) := by
  induction drs generalizing effective with
  | nil => exact ⟨effective, rfl, by simp⟩
  | cons dr drs ih =>
      have hrest := ih fun x hx => hadmin x (List.mem_cons_of_mem dr hx)
      have hraised : higherPermission effective (rolePermission dr.role) ≠ .none ↔
          effective ≠ .none ∨ rolePermission dr.role ≠ .none := by
        rw [← read_le_rank, rank_higherPermission, le_max_iff, read_le_rank, read_le_rank]
      unfold resolveRoles
      rw [if_neg (hadmin dr (List.mem_cons_self ..))]
      by_cases hcounts : dr.departmentId = t.departmentId ∨ user.sharesLine t = true
      · obtain ⟨level, hrun, hlevel⟩ :=
          hrest (higherPermission effective (rolePermission dr.role))
        refine ⟨level, ?_, ?_⟩
        · rcases hcounts with hdepartment | hline
          · rw [if_pos hdepartment, hrun]
          · rw [if_pos hline, hrun, ite_self]
        · rw [hlevel, hraised, or_assoc, List.exists_mem_cons_iff, and_iff_left hcounts]
      · obtain ⟨level, hrun, hlevel⟩ := hrest effective
        obtain ⟨hdepartment, hline⟩ := not_or.mp hcounts
        have hskip : ¬ (rolePermission dr.role ≠ .none ∧
            (dr.departmentId = t.departmentId ∨ user.sharesLine t = true)) := fun h => hcounts h.2
        refine ⟨level, by rw [if_neg hdepartment, if_neg hline, hrun], ?_⟩
        rw [hlevel, List.exists_mem_cons_iff, or_iff_right hskip]

/-- An administrator's role ends the loop. -/
theorem resolveRoles_admin {drs : List DepartmentRole}
    (hadmin : ∃ dr ∈ drs, dr.role ∈ ["super_admin", "org_admin"]) (effective : PermissionLevel) :
    user.resolveRoles t effective drs = .inl .approve := by
  induction drs generalizing effective with
  | nil => simp at hadmin
  | cons dr drs ih =>
      unfold resolveRoles
      by_cases hdr : dr.role ∈ ["super_admin", "org_admin"]
      · rw [if_pos hdr]
      · rw [if_neg hdr]
        have hrest : ∃ x ∈ drs, x.role ∈ ["super_admin", "org_admin"] := by
          obtain ⟨x, hx, hrole⟩ := hadmin
          rcases List.mem_cons.mp hx with rfl | hx
          · exact absurd hrole hdr
          · exact ⟨x, hx, hrole⟩
        split
        · exact ih hrest _
        · split
          · exact ih hrest _
          · exact ih hrest _

/-- Who may read a task. -/
theorem reads_iff : user.reads t = true ↔ t.organizationId = user.orgId ∧
    (user.isOrgAdmin = true ∨ user.hasCrossOrgRead = true ∨ user.hasCrossOrgApprove = true ∨
      user.HasRoleOn t) := by
  unfold reads resolvePermission
  rw [decide_eq_true_eq, read_le_rank]
  by_cases horg : user.orgId = t.organizationId
  · rw [if_neg (not_not.mpr horg)]
    by_cases hadmin : user.isOrgAdmin = true
    · have hrole : ∃ dr ∈ user.departmentRoles, dr.role ∈ ["super_admin", "org_admin"] := by
        simpa [isOrgAdmin] using hadmin
      simp [resolveRoles_admin hrole, hadmin, horg]
    · have hnone : ∀ dr ∈ user.departmentRoles, dr.role ∉ ["super_admin", "org_admin"] := by
        simpa [isOrgAdmin] using hadmin
      obtain ⟨level, hrun, hlevel⟩ := @resolveRoles_reads user t _ hnone .none
      have hroles : level ≠ .none ↔ user.HasRoleOn t := by
        rw [hlevel]
        simp [HasRoleOn]
      rw [hrun]
      dsimp only
      cases happrove : user.hasCrossOrgApprove with
      | true =>
          rw [if_pos rfl, ← read_le_rank, rank_higherPermission]
          simp [horg, PermissionLevel.rank]
      | false =>
          cases hread : user.hasCrossOrgRead with
          | true =>
              rw [if_neg (by simp), if_pos rfl, ← read_le_rank, rank_higherPermission]
              simp [horg, PermissionLevel.rank]
          | false => simp [hroles, horg, hadmin]
  · simp [horg, Ne.symm horg]

/-- A task that the list shows exactly if its user may read it. -/
def Lists (user : UserContext) (t : TaskExtensionModel) : Prop :=
  user.orgId ≠ t.organizationId ∨ user.isOrgAdmin = true ∨ user.hasCrossOrgRead = true ∨
    if user.hasCrossOrgApprove then user.tenantContext.covers t = true
    else user.tenantContext.covers t = true → user.HasRoleOn t

/-- A role that counts on a task covers it. -/
theorem HasRoleOn.covers (h : user.HasRoleOn t) : user.tenantContext.covers t = true := by
  obtain ⟨dr, hdr, _, hdepartment | hline⟩ := h
  · have hmem : t.departmentId ∈ user.departmentIds :=
      List.mem_map.mpr ⟨dr, hdr, hdepartment⟩
    simp [TenantContext.covers, tenantContext, hmem]
  · unfold sharesLine TaskExtensionModel.line at hline
    rw [Option.any_filter] at hline
    simp only [TenantContext.covers, tenantContext, Bool.or_eq_true]
    refine .inr ?_
    cases hid : t.businessLineId with
    | none => rw [hid] at hline; cases hline
    | some line =>
        rw [hid] at hline
        simp only [Option.any_some, Bool.and_eq_true] at hline
        exact hline.2

theorem lists_iff : user.Lists t ↔
    ((t.organizationId = user.orgId ∧ (user.tenantContext.hasFullOrgVisibility = true ∨
      user.tenantContext.covers t = true)) ↔ user.reads t = true) := by
  have hfull : user.tenantContext.hasFullOrgVisibility = true ↔
      user.isOrgAdmin = true ∨ user.hasCrossOrgRead = true := by simp [tenantContext]
  have hcovers := @HasRoleOn.covers user t
  rw [reads_iff, hfull]
  unfold Lists
  by_cases horg : t.organizationId = user.orgId
  · cases happrove : user.hasCrossOrgApprove <;> simp [horg] <;> tauto
  · simp [horg, Ne.symm horg]

/-- The list shows exactly the tasks that the user may read, if and only if each of them is one on
which the two agree. -/
theorem listTasks_eq_readable_iff (user : UserContext) (rows : List TaskExtensionModel) :
    (∀ t, t ∈ user.tenantContext.listTasks rows ↔ t ∈ rows ∧ user.reads t = true) ↔
      ∀ t ∈ rows, user.Lists t := by
  have horg : user.tenantContext.orgId = user.orgId := rfl
  constructor
  · intro h t ht
    have hlisted := h t
    rw [TenantContext.mem_listTasks, and_iff_right ht, and_iff_right ht, horg] at hlisted
    exact lists_iff.mpr hlisted
  · intro h t
    rw [TenantContext.mem_listTasks]
    refine and_congr_right fun ht => ?_
    rw [horg]
    exact lists_iff.mp (h t ht)

/-- A task of a department. -/
def sampleTask : TaskExtensionModel := ⟨"task", "org", "dept", some "line"⟩

/-- A user who may only approve across the organization. -/
def complianceApprover : UserContext := ⟨"user", "org", [], [], false, true⟩

/-- A user with a business line and no role in a department. -/
def lineMember : UserContext := ⟨"user", "org", [], ["line"], false, false⟩

/-- One user may approve a task that is not listed, and the other is shown a task that it may not
read. -/
theorem list_and_permission_disagree :
    (complianceApprover.tenantContext.listTasks [sampleTask] = [] ∧
      complianceApprover.resolvePermission sampleTask = .approve) ∧
    (lineMember.tenantContext.listTasks [sampleTask] = [sampleTask] ∧
      lineMember.resolvePermission sampleTask = .none) := by decide

end UserContext

end AgentPact
