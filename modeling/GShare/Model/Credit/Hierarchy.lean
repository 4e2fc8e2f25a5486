import GShare.Model.Credit.Writers

/-! # The credit hierarchy

Credit and monthly grants flow from the system to organizations, from an organization to its projects and from
a project to its members. This is the role model behind the grant and allocation endpoints: who may act on a
wallet, which pool is above it and which wallets share that pool.
-/

namespace GShare.Model

structure Hierarchy where
  /-- The organization of a project; none when there is no such project. -/
  orgOf : GroupId → Option OrgId
  /-- The `group_id` of a user's membership rows, in the order in which the database returns them. The row of an
  organization's administrator has none; the rows of a deleted user stay. -/
  memberships : UserId → List (Option GroupId)

def Hierarchy.groupsOf (tree : Hierarchy) (user : UserId) : List GroupId := (tree.memberships user).filterMap id

theorem Hierarchy.mem_groupsOf {tree : Hierarchy} {user : UserId} {group : GroupId} :
    group ∈ tree.groupsOf user ↔ some group ∈ tree.memberships user := by
  simp [groupsOf]

/-- What the endpoints look up about the caller. -/
structure Principal where
  superAdmin : Bool
  orgAdminOrgs : List OrgId
  /-- The groups of the memberships with the role `group_admin` or `org_admin`. -/
  adminGroups : List GroupId

def Principal.adminOf (group : GroupId) : Principal := ⟨false, [], [group]⟩

/-- `_require_group_admin`. -/
def Principal.administers (principal : Principal) (group : GroupId) : Bool :=
  principal.superAdmin || group ∈ principal.adminGroups

namespace Bank

def groupWallets (bank : Bank) (tree : Hierarchy) (org : OrgId) : List WalletId :=
  bank.walletIds.filter fun id =>
    (bank.ledger.wallet id).any fun row =>
      row.ownerType == .group && bank.liveGroup row.ownerId && tree.orgOf row.ownerId == some org

/-- `_grant_scope`: the pool above a wallet and the wallets that share it, or a refusal. A user's pool is the
first group that the caller administers. A platform administrator gets the first row of all, and no pool when
that row names no group. -/
def grantScope (bank : Bank) (tree : Hierarchy) (principal : Principal) (row : Wallet) :
    Option (Option WalletId × List WalletId) :=
  match row.ownerType with
  | .system => if principal.superAdmin then some (none, []) else none
  | .org =>
      if principal.superAdmin then
        some ((bank.walletOf .system 0).map Prod.fst,
          bank.walletIds.filter fun id => (bank.ledger.wallet id).any (·.ownerType == .org))
      else none
  | .group =>
      (tree.orgOf row.ownerId).bind fun org =>
        if principal.superAdmin || org ∈ principal.orgAdminOrgs then
          some ((bank.walletOf .org org).map Prod.fst, bank.groupWallets tree org)
        else none
  | .user =>
      match (tree.memberships row.ownerId).filter (·.elim principal.superAdmin principal.administers) with
      | [] => none
      | none :: _ => some (none, [])
      | some pool :: _ => some ((bank.walletOf .group pool).map Prod.fst, bank.memberWallets pool)

/-- `_assert_can_allocate`: between an organization and one of its projects or a project and one of its members,
in either direction. -/
def canAllocate (tree : Hierarchy) (principal : Principal) (source target : Wallet) : Bool :=
  principal.superAdmin ||
    match source.ownerType, target.ownerType with
    | .org, .group => source.ownerId ∈ principal.orgAdminOrgs && tree.orgOf target.ownerId == some source.ownerId
    | .group, .org => target.ownerId ∈ principal.orgAdminOrgs && tree.orgOf source.ownerId == some target.ownerId
    | .group, .user => source.ownerId ∈ principal.adminGroups && source.ownerId ∈ tree.groupsOf target.ownerId
    | .user, .group => target.ownerId ∈ principal.adminGroups && target.ownerId ∈ tree.groupsOf source.ownerId
    | _, _ => false

end Bank

/-- The calls by which an administrator grants and moves credit. -/
inductive HierarchyCall where
  | setMonthlyGrant (wallet : WalletId) (value : ℚ) (stamp : ℤ)
  | bulkMonthlyGrant (group : GroupId) (value : ℚ) (stamp : ℤ)
  /-- Down the hierarchy, or a reclaim up it. -/
  | allocate (source target : WalletId) (value : ℚ) (idem : Option String) (stamp : ℤ)

/-- The operation of a call, with the verdicts of the role model. -/
def HierarchyCall.op (tree : Hierarchy) (principal : Principal) (bank : Bank) : HierarchyCall → CreditOp
  | .setMonthlyGrant wallet value stamp =>
      .setMonthlyGrant wallet value ((bank.ledger.wallet wallet).bind (bank.grantScope tree principal)) stamp
  | .bulkMonthlyGrant group value stamp => .bulkMonthlyGrant group value (principal.administers group) stamp
  | .allocate source target value idem stamp =>
      .allocate source target value idem
        ((bank.ledger.wallet source).any fun sourceRow =>
          (bank.ledger.wallet target).any (Bank.canAllocate tree principal sourceRow)) stamp

def HierarchyCall.apply (tree : Hierarchy) (principal : Principal) (bank : Bank) (call : HierarchyCall) : Bank :=
  bank.apply (call.op tree principal bank)

end GShare.Model
