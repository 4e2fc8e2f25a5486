import GShare.Model.Access.Rbac

/-! # Organizations, groups and the accounts they freeze

An organization that becomes inactive takes its groups along, and the users who are in no other active group.
When it becomes active again, its groups do, and the users whose last change was such a freeze.
-/

namespace GShare.Model

inductive OrgStatus where
  | active | inactive
deriving DecidableEq

inductive GroupStatus where
  | active | inactive | archived
deriving DecidableEq

/-- `_USER_STATUSES`, and `inactive`, which only the cascade sets. -/
inductive UserStatus where
  | invited | pending | active | suspended | inactive
deriving DecidableEq

/-- The reason in an audit row `user.update`; most of them give none. -/
inductive UpdateReason where
  | groupDeactivated | groupReactivated | none
deriving DecidableEq

def OrgStatus.ofGroup : OrgStatus → GroupStatus
  | active => .active
  | inactive => .inactive

namespace Tenants

structure Group where
  org : OrgId
  status : GroupStatus
  deleted : Bool
deriving DecidableEq

/-- The columns of a user, and the reasons of its `user.update` audit rows, the latest `created_at` first. -/
structure User where
  status : UserStatus
  deleted : Bool
  passwordHash : Option String
  reasons : List UpdateReason
deriving DecidableEq

def Group.move (listed : Bool) (old new : GroupStatus) (group : Group) : Group :=
  { group with status := if listed ∧ group.status = old then new else group.status }

/-- The user is inactive, and the last change of the row was a freeze. -/
def User.isFrozen (user : User) : Bool :=
  user.status == .inactive && user.reasons.head? == some .groupDeactivated

/-- The body of the loop in `_cascade_group_users`. -/
def User.cascade (user : User) : OrgStatus → User
  | .inactive =>
    if user.status = .active then
      { user with status := .inactive, reasons := .groupDeactivated :: user.reasons }
    else user
  | .active =>
    if user.isFrozen then { user with status := .active, reasons := .groupReactivated :: user.reasons }
    else user

end Tenants

open Tenants

/-- The live organizations, the groups, the users, and who is in which group. -/
structure Tenants where
  orgs : OrgId → Option OrgStatus
  groups : GroupId → Option Group
  users : UserId → Option User
  memberships : List (UserId × GroupId)

namespace Tenants

variable (tenants : Tenants)

def isLive (org : OrgId) (id : GroupId) : Bool :=
  (tenants.groups id).any fun group => group.org == org && !group.deleted

def isActive (id : GroupId) : Bool :=
  (tenants.groups id).any fun group => !group.deleted && group.status == .active

/-- The user is in one of the groups, and in no other group that is active. -/
def isTarget (gids : GroupId → Bool) (user : UserId) : Bool :=
  tenants.memberships.any (fun row => row.1 == user && gids row.2) &&
    !tenants.memberships.any fun row => row.1 == user && (!gids row.2 && tenants.isActive row.2)

def cascadeGroupUsers (gids : GroupId → Bool) (status : OrgStatus) : Tenants :=
  { tenants with
    users := fun id => (tenants.users id).map fun user =>
      if tenants.isTarget gids id then user.cascade status else user }

/-- `update_organization`, as far as it changes the status. With two statuses, a change goes from the one
to the other. -/
def updateOrganization (principal : Rbac.Principal) (org : OrgId) (status : OrgStatus) : Option Tenants := do
  guard (Rbac.rbacAllows principal "org.update" none)
  let old ← tenants.orgs org
  if status = old then some tenants
  else
    let gids := tenants.isLive org
    let moved := { tenants with
      orgs := Function.update tenants.orgs org (some status)
      groups := fun id => (tenants.groups id).map (Group.move (gids id) old.ofGroup status.ofGroup) }
    some (moved.cascadeGroupUsers gids status)

end Tenants

end GShare.Model
