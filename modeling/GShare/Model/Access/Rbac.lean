import GShare.Accounting.Roster
import GShare.Model.Basic
import Mathlib.Data.List.AList

/-! # Roles, principals and who may do what

`_resolve_principal_uncached` builds the principal of a token from the user row, the memberships and the
projects, and `rbac_allows` compares it with the permission matrix. A principal may be served from a
cache for half a minute; what is modelled here is its resolution.
-/

namespace GShare.Model.Rbac

open Accounting

/-- The role of a membership. The column holds any text: `unknown` is every text without a rank. -/
inductive Role where
  | guest | member | groupAdmin | orgAdmin | unknown
deriving DecidableEq, Repr

def Role.rank? : Role → Option ℕ
  | guest => some 0
  | member => some 1
  | groupAdmin => some 2
  | orgAdmin => some 3
  | unknown => none

def Role.atLeast (role : Role) (need : ℕ) : Bool := role.rank?.any (need ≤ ·)

def Role.satisfies (role minimum : Role) : Bool := minimum.rank?.any role.atLeast

/-- A role beyond groups. The only one is `super_admin`; rows may still hold retired ones. -/
inductive GlobalRole where
  | superAdmin | retired
deriving DecidableEq, Repr

/-- `GLOBAL_ROLES`. -/
def GlobalRole.all : List GlobalRole := [.superAdmin]

def GlobalRole.rank : GlobalRole → ℕ
  | superAdmin => 2
  | retired => 0

/-- `primary_global_role`: the first of the highest rank. -/
def primaryGlobalRole (roles : List GlobalRole) : Option GlobalRole :=
  roles.foldl (fun best role =>
    if (best.map GlobalRole.rank).getD 0 < role.rank then some role else best) none

inductive Tier where
  | superAdmin
  | scoped (minimum : Role)
deriving DecidableEq, Repr

def reserved : List Tier := [.superAdmin]

/-- An action that a role in the group grants as well. -/
def scopedFrom (minimum : Role) : List Tier := [.superAdmin, .scoped minimum]

/-- `_ACTION_MATRIX`. -/
def actionMatrix : List (String × List Tier) := [
  ("user.read", scopedFrom .groupAdmin),
  ("user.create", scopedFrom .orgAdmin),
  ("user.delete", scopedFrom .orgAdmin),
  ("user.set_global_role", reserved),
  ("org.read", scopedFrom .orgAdmin),
  ("org.create", reserved),
  ("org.update", reserved),
  ("org.delete", reserved),
  ("org.set_admin", reserved),
  ("group.read", scopedFrom .member),
  ("group.create", scopedFrom .orgAdmin),
  ("group.update", scopedFrom .groupAdmin),
  ("group.delete", scopedFrom .orgAdmin),
  ("membership.read", scopedFrom .groupAdmin),
  ("membership.create", scopedFrom .groupAdmin),
  ("membership.update", scopedFrom .groupAdmin),
  ("membership.delete", scopedFrom .groupAdmin),
  ("wallet.read", scopedFrom .orgAdmin),
  ("credit.topup", reserved),
  ("credit.adjust", reserved),
  ("credit.transfer", scopedFrom .orgAdmin),
  ("offering.create", reserved),
  ("offering.update", reserved),
  ("preset.create", reserved),
  ("system.branding.set", reserved),
  ("gpu_device.set_alias", reserved),
  ("policy.read", scopedFrom .member),
  ("policy.create", scopedFrom .groupAdmin),
  ("policy.update", scopedFrom .groupAdmin),
  ("policy.delete", scopedFrom .groupAdmin),
  ("monitoring.read", reserved),
  ("image.create", reserved),
  ("image.build", scopedFrom .member),
  ("session.create", scopedFrom .member),
  ("session.read", scopedFrom .member),
  ("session.force_terminate", scopedFrom .groupAdmin),
  ("session.monitor", scopedFrom .groupAdmin),
  ("queue.read", scopedFrom .groupAdmin),
  ("queue.update", scopedFrom .groupAdmin),
  ("cluster.read", reserved),
  ("cluster.create", reserved),
  ("cluster.update", reserved),
  ("cluster.delete", reserved),
  ("storage_pool.read", reserved),
  ("storage_pool.write", reserved),
  ("node.read", reserved),
  ("node.create", reserved),
  ("node.cordon", reserved),
  ("node.drain", reserved),
  ("node.delete", reserved),
  ("pool.read", scopedFrom .orgAdmin),
  ("pool.manage", reserved),
  ("pool.grant", scopedFrom .orgAdmin),
  ("volume.create", scopedFrom .groupAdmin),
  ("volume.delete", scopedFrom .groupAdmin),
  ("volume.force_delete", reserved),
  ("budget.read", scopedFrom .groupAdmin),
  ("budget.create", scopedFrom .groupAdmin),
  ("budget.update", scopedFrom .groupAdmin),
  ("budget.delete", scopedFrom .groupAdmin),
  ("webhook.read", scopedFrom .orgAdmin),
  ("webhook.create", scopedFrom .orgAdmin),
  ("webhook.delete", scopedFrom .orgAdmin),
  ("audit.read", scopedFrom .groupAdmin)]

/-- Who makes a request: what the user row, the memberships and the projects say. -/
structure Principal where
  userId : UserId
  globalRole : Option GlobalRole
  globalRoles : List GlobalRole
  memberships : AList fun _ : GroupId => Role
  email : Option String
  orgAdminOrgs : List OrgId
  mustChangePassword : Bool

section

variable (principal : Principal)

/-- `_scoped_role_satisfies`: in one group, or in any group for an action on a collection. An organization
without groups still has its administrator. -/
def scopedRoleSatisfies (minimum : Role) (group : Option GroupId) : Bool :=
  match minimum.rank? with
  | none => false
  | some need =>
    match group with
    | some group => (principal.memberships.lookup group).any (·.atLeast need)
    | none =>
      principal.memberships.entries.any (·.2.atLeast need)
        || !principal.orgAdminOrgs.isEmpty && Role.orgAdmin.atLeast need

def Tier.grants (group : Option GroupId) : Tier → Bool
  | .superAdmin => false
  | .scoped minimum => scopedRoleSatisfies principal minimum group

/-- `rbac_allows`; an unknown action is denied. -/
def rbacAllows (action : String) (group : Option GroupId) : Bool :=
  decide (.superAdmin ∈ principal.globalRoles)
    || (actionMatrix.lookup action).any (·.any (Tier.grants principal group))

structure Forbidden where
  message : String
deriving DecidableEq, Repr

def Principal.require (action : String) (group : Option GroupId) : Except Forbidden Unit :=
  if rbacAllows principal action group then .ok () else .error ⟨"not permitted: " ++ action⟩

end

/-- A user's role in a group, or in an organization when there is no group. -/
structure Membership where
  user : UserId
  group : Option GroupId
  org : Option OrgId
  role : Role
  expiresAt : Option ℤ
deriving DecidableEq, Repr

def Membership.expired (row : Membership) (now : ℤ) : Bool := row.expiresAt.any (· ≤ now)

/-- A group; a deleted one keeps its row. -/
structure Project where
  id : GroupId
  org : OrgId
  deleted : Bool
deriving DecidableEq, Repr

/-- The columns of a user row that a resolution reads. -/
structure User where
  suspended : Bool
  deleted : Bool
  globalRole : Option GlobalRole
  globalRoles : List GlobalRole
  mustChangePassword : Bool
deriving DecidableEq, Repr

/-- The tables that a resolution reads. The unique index allows one row for a user and a group. -/
structure Directory where
  users : UserId → Option User
  memberships : List Membership
  oneRole : memberships.Pairwise fun one other =>
    one.group.isSome → one.user = other.user → one.group ≠ other.group
  projects : Roster Project.id

/-- What a verified token says. -/
structure Claims where
  sub : UserId
  email : Option String
  globalRole : Option GlobalRole
  globalRoles : List GlobalRole
deriving DecidableEq, Repr

/-- The roles of a row; one from before the list existed has the single column. -/
def User.granted (user : User) : List GlobalRole :=
  let stored :=
    if user.globalRoles = [] ∧ user.globalRole.any (· ∈ GlobalRole.all) then user.globalRole.toList
    else user.globalRoles
  stored.filter (· ∈ GlobalRole.all)

/-- What the membership rows of a user come to. -/
structure Held where
  memberships : AList fun _ : GroupId => Role
  orgAdminOrgs : List OrgId

namespace Held

/-- One membership row; an expired one does not count. -/
def collect (now : ℤ) (held : Held) (row : Membership) : Held :=
  if row.expired now then held
  else
    match row.group, row.org with
    | some group, _ => { held with memberships := held.memberships.insert group row.role }
    | none, some org =>
      if row.role = .orgAdmin then { held with orgAdminOrgs := org :: held.orgAdminOrgs } else held
    | none, none => held

/-- An administrator that was left on a group is one of the group's organization. -/
def absorbLegacy (held : Held) (projects : List Project) : Held :=
  let legacy := projects.filter fun project => held.memberships.lookup project.id = some .orgAdmin
  { held with orgAdminOrgs := held.orgAdminOrgs ++ legacy.map Project.org }

def raise (memberships : AList fun _ : GroupId => Role) (group : GroupId) : AList fun _ : GroupId => Role :=
  if (memberships.lookup group).any fun role => Role.orgAdmin.rank?.any role.atLeast then memberships
  else memberships.insert group .orgAdmin

/-- Organization administrators hold their role in every live group of the organization. -/
def expand (held : Held) (projects : List Project) : Held :=
  let siblings := projects.filter fun project => project.org ∈ held.orgAdminOrgs ∧ !project.deleted
  { held with memberships := (siblings.map Project.id).foldl raise held.memberships }

end Held

namespace Directory

variable (dir : Directory)

def rowsOf (user : UserId) : List Membership :=
  dir.memberships.filter (·.user == user)

/-- What a user holds: the unexpired rows, the legacy administrators, and all groups of the organizations
they administer. -/
def held (user : UserId) (now : ℤ) : Held :=
  let collected := (dir.rowsOf user).foldl (Held.collect now) ⟨∅, []⟩
  (collected.absorbLegacy dir.projects.rows).expand dir.projects.rows

/-- `_resolve_principal_uncached`: the global roles come from the row, never from the token. -/
def resolvePrincipal (claims : Claims) (now : ℤ) : Except Forbidden Principal :=
  match dir.users claims.sub with
  | none => .error ⟨"account is suspended or deleted"⟩
  | some user =>
    if user.deleted || user.suspended then .error ⟨"account is suspended or deleted"⟩
    else
      let held := dir.held claims.sub now
      .ok {
        userId := claims.sub
        globalRole := primaryGlobalRole user.granted
        globalRoles := user.granted
        memberships := held.memberships
        email := claims.email
        orgAdminOrgs := held.orgAdminOrgs
        mustChangePassword := user.mustChangePassword }

/-- The answer a token gets for an action on a group. -/
def permits (claims : Claims) (now : ℤ) (action : String) (group : Option GroupId) : Except Forbidden Bool :=
  (dir.resolvePrincipal claims now).map fun principal => rbacAllows principal action group

end Directory

end GShare.Model.Rbac
