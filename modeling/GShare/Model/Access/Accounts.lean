import GShare.Model.Access.Rbac

/-! # Administering an account

The endpoints of `users_router` that act on one user, up to their decision: each refuses the call or goes
on to write. What they write is left out.
-/

namespace GShare.Model.Rbac

inductive UserRefusal where
  | forbidden (message : String)
  | notFound (what : String)
  | conflict (message : String)
  | validation (message : String)
deriving DecidableEq, Repr

/-- Which fields of the row a patch would change. -/
structure UserPatch where
  name : Bool
  /-- A new address, and what is wrong with it. -/
  email : Option (Option UserRefusal)
  /-- A new status, and whether it is one of `_USER_STATUSES`. -/
  status : Option Bool
  password : Bool
  forcePasswordReset : Bool

def ensure (allowed : Bool) (refusal : UserRefusal) : Except UserRefusal Unit :=
  if allowed then .ok () else .error refusal

@[simp] theorem ensure_eq_ok {allowed : Bool} {refusal : UserRefusal} {done : Unit} :
    ensure allowed refusal = .ok done ↔ allowed := by
  cases allowed <;> simp [ensure]

@[simp] theorem bind_eq_ok {Value Result : Type} {first : Except UserRefusal Value}
    {rest : Value → Except UserRefusal Result} {result : Result} :
    (first >>= rest) = .ok result ↔ ∃ value, first = .ok value ∧ rest value = .ok result := by
  cases first <;> simp [bind, Except.bind]

theorem toOption_eq_some {Value : Type} {result : Except UserRefusal Value} {value : Value} :
    result.toOption = some value ↔ result = .ok value := by
  cases result <;> simp [Except.toOption]

def Principal.isSuper (principal : Principal) : Bool := .superAdmin ∈ principal.globalRoles

/-- `super_admin` is in `target_global_roles`. -/
def User.isSuper (user : User) : Bool := .superAdmin ∈ user.globalRoles ++ user.globalRole.toList

def adminRoles : List Role := [.orgAdmin, .groupAdmin]

namespace Directory

variable (dir : Directory) (principal : Principal) (target : UserId)

def loadUser : Except UserRefusal User :=
  match (dir.users target).filter (!·.deleted) with
  | some user => .ok user
  | none => .error (.notFound "user")

/-- `_target_group_ids`; an expired membership counts. -/
def targetGroupIds : List GroupId := (dir.rowsOf target).filterMap Membership.group

def shares (roles : List Role) : Bool :=
  (dir.targetGroupIds target).any fun group => (principal.memberships.lookup group).any (· ∈ roles)

def sharesAdminScope : Bool := principal.isSuper || dir.shares principal target adminRoles

def isOrgAdminOfTarget : Bool := principal.isSuper || dir.shares principal target [.orgAdmin]

def checkReset (user : User) : Except UserRefusal Unit := do
  ensure (dir.sharesAdminScope principal target) (.forbidden "not permitted: user.reset_password")
  ensure (principal.isSuper || !user.isSuper) (.forbidden "not permitted: target outranks caller")

def resetUserPassword : Except UserRefusal Unit := do
  dir.checkReset principal target (← dir.loadUser target)

def updateUser (patch : UserPatch) : Except UserRefusal Unit := do
  let user ← dir.loadUser target
  let isSelf := principal.userId == target
  ensure (isSelf || dir.sharesAdminScope principal target) (.forbidden "not permitted: user.update")
  ensure (!patch.name || isSelf || principal.isSuper) (.forbidden "not permitted: user.set_name")
  patch.email.elim (.ok ()) fun fault => do
    ensure principal.isSuper (.forbidden "not permitted: user.set_email")
    fault.elim (.ok ()) .error
  patch.status.elim (.ok ()) fun known => do
    ensure (dir.isOrgAdminOfTarget principal target) (.forbidden "not permitted: user.set_status")
    ensure known (.validation "invalid status")
  if patch.password && !isSelf then
    dir.checkReset principal target user
    .error (.forbidden "not permitted: set a password for another user; use force_password_reset")
  if patch.forcePasswordReset then dir.checkReset principal target user

def setUserDepartment (group : Option GroupId) : Except UserRefusal Unit := do
  let _ ← dir.loadUser target
  ensure (principal.isSuper || principal.memberships.entries.any (·.2 = .orgAdmin))
    (.forbidden "not permitted: user.set_department")
  group.elim (.ok ()) fun id => do
    ensure ((dir.projects.find? id).any (!·.deleted)) (.notFound "group")
    ensure (principal.isSuper || principal.memberships.lookup id = some .orgAdmin)
      (.forbidden "not permitted: target group outside your organization")
  ensure ((dir.targetGroupIds target).isEmpty || dir.isOrgAdminOfTarget principal target)
    (.forbidden "not permitted: the user belongs to another organization")

/-- `_assert_target_in_scope`. -/
def inScope : Bool :=
  principal.userId == target || dir.sharesAdminScope principal target ||
    (dir.targetGroupIds target).any fun group =>
      (dir.projects.find? group).any fun project => !project.deleted && project.org ∈ principal.orgAdminOrgs

/-- `delete_user` of a user who has live sessions, or ever had one. -/
def deleteUser (hard live history : Bool) : Except UserRefusal Unit := do
  ensure (rbacAllows principal "user.delete" none) (.forbidden "not permitted: user.delete")
  let _ ← dir.loadUser target
  ensure (dir.inScope principal target) (.forbidden "not permitted: user out of scope")
  ensure (!(live && hard)) (.conflict "user has running sessions")
  ensure (!hard || principal.globalRole = some .superAdmin) (.forbidden "not permitted: user.hard_delete")
  ensure (!(hard && history)) (.conflict "user has session history; use soft delete")

end Directory

end GShare.Model.Rbac
