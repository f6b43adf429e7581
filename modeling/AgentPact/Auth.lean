import Mathlib.Data.List.Basic

/-!
# Users

`auth/schemas.py`: who a request runs for, with the roles its token gave it.
-/

namespace AgentPact

/-- A role in a department. -/
structure DepartmentRole where
  departmentId : String
  role : String

/-- The user a command runs for. -/
structure UserContext where
  userId : String
  orgId : String
  departmentRoles : List DepartmentRole
  businessLineIds : List String := []
  hasCrossOrgRead : Bool := false
  hasCrossOrgApprove : Bool := false

namespace UserContext

variable (user : UserContext)

/-- `is_org_admin`. -/
def isOrgAdmin : Bool :=
  user.departmentRoles.any fun dr => dr.role ∈ ["super_admin", "org_admin"]

/-- `is_any_operator`. -/
def isAnyOperator : Bool :=
  user.departmentRoles.any fun dr => dr.role ∈ ["super_admin", "org_admin", "operator"]

/-- `is_any_approver`. -/
def isAnyApprover : Bool :=
  user.departmentRoles.any fun dr => dr.role ∈ ["super_admin", "org_admin", "approver"]

/-- `get_role_in_department`: the first role listed for a department. -/
def getRoleInDepartment (departmentId : String) : Option String :=
  (user.departmentRoles.find? fun dr => dr.departmentId = departmentId).map (·.role)

/-- `has_business_line`. -/
def hasBusinessLine (businessLineId : String) : Bool := businessLineId ∈ user.businessLineIds

end UserContext

end AgentPact
