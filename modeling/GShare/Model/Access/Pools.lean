import GShare.Model.Access.Rbac
import GShare.Model.Device.Fleet

/-! # Who may place on which nodes

The policy behind the shared tier of `resolve_pool_access`, merged over the scopes by
`resolve_effective_policy`, and the two endpoints that write the grants of node pools, with their
permission rule `assert_may_grant`.
-/

namespace GShare.Model

open Accounting

/-- Where a resource policy applies. -/
inductive PolicyScope where
  | user (id : UserId)
  | group (id : GroupId)
  | org (id : OrgId)
  | global
deriving DecidableEq, Repr

/-- A policy row, as far as placement reads it. -/
structure ResourcePolicy where
  scope : PolicyScope
  /-- The key `shared_pool` of its limits. -/
  sharedPool : Option Bool
deriving DecidableEq, Repr

/-- The scopes that a user has in a group, the most specific first. -/
def policyChain (user : UserId) (group : Option GroupId) (org : Option OrgId) : List PolicyScope :=
  .user user :: (group.map .group).toList ++ (org.map .org).toList ++ [.global]

/-- `resolve_effective_policy` at the key `shared_pool`: the most specific policy that sets it. The database
returns one row for a scope. -/
def effectiveSharedPool (policies : List ResourcePolicy) (chain : List PolicyScope) : Option Bool :=
  chain.findSome? fun scope => (policies.find? (·.scope == scope)).bind ResourcePolicy.sharedPool

/-- A fleet whose tenants spill onto the shared pools unless the effective policy says no. -/
structure GovernedFleet extends Fleet where
  policies : List ResourcePolicy
  governed : ∀ user group, sharedPool user group
    = (effectiveSharedPool policies (policyChain user group (group.bind orgOf)) != some false)

/-- A grant as the endpoints keep it. -/
structure GrantRow where
  id : ℕ
  grant : NodePoolGrant
  /-- An organization's administrator made it, as a sub-assignment. -/
  subAssigned : Bool
deriving DecidableEq, Repr

/-- The tables that the grant endpoints read beside the grants. -/
structure PoolDirectory where
  pools : Roster NodePool.id
  projects : Roster Rbac.Project.id
  /-- The organization exists and is not deleted. -/
  liveOrg : OrgId → Bool

inductive GrantRefusal where
  | forbidden (message : String)
  | notFound (what : String)
  | conflict (message : String)
  /-- The database turns the new identifier down. -/
  | duplicateKey
deriving DecidableEq, Repr

def PoolScope.groupId? : PoolScope → Option GroupId
  | .group id => some id
  | .org _ => none

def PoolScope.orgId? : PoolScope → Option OrgId
  | .group _ => none
  | .org id => some id

namespace PoolDirectory

variable (dir : PoolDirectory)

/-- The organization of a group, whether the group is live or not. -/
def orgOf (group : GroupId) : Option OrgId := (dir.projects.find? group).map Rbac.Project.org

variable (scope : PoolScope) (grants : Roster GrantRow.id) (principal : Rbac.Principal)

/-- `_grant_target_group`: the live project that a scope names. -/
def targetGroup : Option Rbac.Project :=
  scope.groupId?.bind fun group => (dir.projects.find? group).filter (!·.deleted)

def poolGrants (pool : PoolId) : List GrantRow :=
  grants.rows.filter (·.grant.pool == pool)

/-- The organizations that a caller administers and a pool is granted to. -/
def myGranted (pool : PoolId) (grants : List GrantRow) : List OrgId :=
  principal.orgAdminOrgs.filter fun org => grants.any fun row => row.grant == ⟨pool, .org org⟩

/-- The caller is a super administrator, by the list or by the primary role. -/
def isSuper : Bool :=
  decide (.superAdmin ∈ principal.globalRoles) || principal.globalRole == some .superAdmin

/-- `assert_may_grant`: an organization's administrator may only sub-assign a pool of the organization to
one of its groups. -/
def assertMayGrant (pool : PoolId) (grants : List GrantRow) (scope : PoolScope)
    (group : Option Rbac.Project) : Except GrantRefusal Unit :=
  if isSuper principal then .ok ()
  else if principal.orgAdminOrgs = [] then .error (.forbidden "not permitted: pool.grant")
  else if myGranted principal pool grants = [] then
    .error (.forbidden "pool is not granted to an organization you administer")
  else
    match scope with
    | .org _ => .error (.forbidden "organization admins may only sub-assign pools to their groups")
    | .group id =>
      if group.any fun project => project.id = id ∧ project.org ∈ myGranted principal pool grants then .ok ()
      else .error (.forbidden "group is not in an organization this pool is granted to")

def requireGrant : Except GrantRefusal Unit :=
  match principal.require "pool.grant" none with
  | .ok () => .ok ()
  | .error refusal => .error (.forbidden refusal.message)

def targetExists : Except GrantRefusal Unit :=
  match scope with
  | .group _ => if (dir.targetGroup scope).isSome then .ok () else .error (.notFound "group")
  | .org id => if dir.liveOrg id then .ok () else .error (.notFound "organization")

def refuseIf (condition : Bool) (refusal : GrantRefusal) : Except GrantRefusal Unit :=
  if condition then .error refusal else .ok ()

/-- Insert a row under a new identifier. -/
def insertGrant (row : GrantRow) : Except GrantRefusal (Roster GrantRow.id) :=
  match grants.insert row with
  | none => .error .duplicateKey
  | some next => .ok next

/-- `grant_node_pool`; `fresh` is the new row's identifier. -/
def grantNodePool (pool : PoolId)
    (scope : PoolScope) (fresh : ℕ) : Except GrantRefusal (Roster GrantRow.id) := do
  requireGrant principal
  refuseIf (dir.pools.find? pool).isNone (.notFound "node pool")
  assertMayGrant principal pool (poolGrants grants pool) scope (dir.targetGroup scope)
  dir.targetExists scope
  refuseIf ((poolGrants grants pool).any (·.grant.scope == scope)) (.conflict "grant already exists")
  insertGrant grants ⟨fresh, ⟨pool, scope⟩, !isSuper principal⟩

/-- `revoke_node_pool_grant`: the one row goes. -/
def revokeNodePoolGrant (pool : PoolId) (id : ℕ) : Except GrantRefusal (Roster GrantRow.id) := do
  requireGrant principal
  refuseIf (dir.pools.find? pool).isNone (.notFound "node pool")
  match (poolGrants grants pool).find? (·.id == id) with
  | none => .error (.notFound "node pool grant")
  | some row =>
    assertMayGrant principal pool (poolGrants grants pool) row.grant.scope
      (dir.targetGroup row.grant.scope)
    .ok (grants.remove id)

end PoolDirectory

inductive GrantCall where
  | grant (principal : Rbac.Principal) (pool : PoolId) (scope : PoolScope) (fresh : ℕ)
  | revoke (principal : Rbac.Principal) (pool : PoolId) (id : ℕ)

/-- The grants after a call; a refused one changes nothing. -/
def PoolDirectory.serve (dir : PoolDirectory) (grants : Roster GrantRow.id) (call : GrantCall) :
    Roster GrantRow.id :=
  let answer :=
    match call with
    | .grant principal pool scope fresh => dir.grantNodePool grants principal pool scope fresh
    | .revoke principal pool id => dir.revokeNodePoolGrant grants principal pool id
  answer.toOption.getD grants

end GShare.Model
