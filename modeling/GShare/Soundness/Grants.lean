import GShare.Machine.Run
import GShare.Proofs.Credit.Hierarchy

/-! # Monthly grants within the hierarchy

Grant calls of any administrators one after the other, on any organization tree. A call checks the wallet it
sets against the pool above. The grants stay within the hierarchy if moreover a pool is not set below what it
has given out, the grant of a user of several groups is not raised, nor by the platform that of an organization's
administrator, and a grant for a whole group has no fractions of a cent.
-/

namespace GShare.Soundness.Grants

open Machine GShare.Model HierarchyCall Bank Option List

variable {value : ℚ} {id : WalletId}

/-- The groups of an organization have grants within the organization's, and the members of a group within the
group's. -/
@[mk_iff] structure Within (tree : Hierarchy) (bank : Bank) : Prop where
  groups : ∀ id ∈ bank.walletIds, ∀ row ∈ bank.ledger.wallet id, row.ownerType = .org →
    bank.grants (bank.groupWallets tree row.ownerId) ≤ row.monthlyGrant
  members : ∀ id ∈ bank.walletIds, ∀ row ∈ bank.ledger.wallet id, row.ownerType = .group →
    bank.grants (bank.memberWallets row.ownerId) ≤ row.monthlyGrant

def Listed (tree : Hierarchy) (bank : Bank) : Prop :=
  ∀ group, ∀ user ∈ bank.members group, group ∈ tree.groupsOf user

def OneGroup (tree : Hierarchy) (user : UserId) : Prop :=
  ∀ group ∈ tree.groupsOf user, ∀ other ∈ tree.groupsOf user, group = other

/-- A new grant for a user's wallet is no raise, or the user is in one group only. -/
def Unshared (tree : Hierarchy) (value : ℚ) (row : Wallet) : Prop :=
  round2 value ≤ row.monthlyGrant ∨ OneGroup tree row.ownerId

/-- What the endpoints do not look at: what a pool has given out, the other memberships of a user, and the
rounding of an amount that many wallets get. -/
def Careful (tree : Hierarchy) (bank : Bank) (principal : Principal) : HierarchyCall → Prop
  | .setMonthlyGrant wallet value _ => ∀ row ∈ bank.ledger.wallet wallet,
      match row.ownerType with
      | .system => True
      | .org => bank.grants (bank.groupWallets tree row.ownerId) ≤ round2 value
      | .group => bank.grants (bank.memberWallets row.ownerId) ≤ round2 value
      | .user => round2 value ≤ row.monthlyGrant ∨
          OneGroup tree row.ownerId ∧ (principal.superAdmin → none ∉ tree.memberships row.ownerId)
  | .bulkMonthlyGrant group value _ => credits (round2 value) = value ∧
      ∀ id ∈ bank.memberWallets group, ∀ row ∈ bank.ledger.wallet id, Unshared tree value row
  | .allocate _ _ _ _ _ => True

variable {tree : Hierarchy} {principal : Principal} {bank next : Bank} {call : HierarchyCall}
variable {tier : OwnerType} {stamp : ℤ}

section Granted

variable {ids : List WalletId}

theorem granted_found (granted : Granted ids value bank next) {row : Wallet}
    (found : next.ledger.wallet id = some row) :
    ∃ old, bank.ledger.wallet id = some old ∧ row.ownerType = old.ownerType ∧ row.ownerId = old.ownerId ∧
      row.monthlyGrant = if id ∈ ids then round2 value else old.monthlyGrant := by
  rw [granted.wallet] at found
  split_ifs at found ⊢ with given
  · obtain ⟨old, foundOld, rfl⟩ := map_eq_some_iff.mp found
    exact ⟨old, foundOld, rfl, rfl, rfl⟩
  · exact ⟨row, found, rfl, rfl, rfl⟩

theorem pool_granted {upper lower : OwnerType} {children : List WalletId} {old : Wallet}
    (granted : Granted ids value bank next)
    (typed : ∀ id ∈ ids, ∀ row ∈ bank.ledger.wallet id, row.ownerType = tier) (distinct : upper ≠ lower)
    (found : bank.ledger.wallet id = some old) (isPool : old.ownerType = upper)
    (below : ∀ child ∈ children, ∃ row, bank.ledger.wallet child = some row ∧ row.ownerType = lower)
    (covers : tier = upper → id ∈ ids → bank.grants children ≤ round2 value)
    (fits : tier = lower → next.grants children ≤ old.monthlyGrant)
    (before : bank.grants children ≤ old.monthlyGrant) :
    next.grants children ≤ if id ∈ ids then round2 value else old.monthlyGrant := by
  by_cases isLower : tier = lower
  · have apart : id ∉ ids := fun given =>
      distinct (isPool.symm.trans ((typed id given old found).trans isLower))
    rw [if_neg apart]
    exact fits isLower
  · have frame : next.grants children = bank.grants children := by
      refine granted.grants_frame fun child member given => isLower ?_
      obtain ⟨row, foundChild, isChild⟩ := below child member
      exact (typed child given row foundChild).symm.trans isChild
    rw [frame]
    split_ifs with given
    · exact covers ((typed id given old found).symm.trans isPool) given
    · exact before

/-- A grant for wallets of one tier: the pools among them cover what they have given out, and the pools above
them still do. -/
theorem Within.granted (within : Within tree bank) (granted : Granted ids value bank next)
    (typed : ∀ id ∈ ids, ∀ row ∈ bank.ledger.wallet id, row.ownerType = tier)
    (orgs : tier = .org → ∀ id ∈ ids, ∀ row ∈ bank.ledger.wallet id,
      bank.grants (bank.groupWallets tree row.ownerId) ≤ round2 value)
    (pools : tier = .group → ∀ id ∈ ids, ∀ row ∈ bank.ledger.wallet id,
      bank.grants (bank.memberWallets row.ownerId) ≤ round2 value)
    (groupsFit : tier = .group → ∀ id row, bank.ledger.wallet id = some row → row.ownerType = .org →
      id ∈ bank.walletIds → next.grants (bank.groupWallets tree row.ownerId) ≤ row.monthlyGrant)
    (membersFit : tier = .user → ∀ id row, bank.ledger.wallet id = some row → row.ownerType = .group →
      id ∈ bank.walletIds → next.grants (bank.memberWallets row.ownerId) ≤ row.monthlyGrant) :
    Within tree next := by
  have same := granted.sameOwners
  constructor
  · intro id listed row found isOrg
    obtain ⟨old, foundOld, type, owner, grant⟩ := granted_found granted found
    rw [same.walletIds] at listed
    rw [type] at isOrg
    rw [same.groupWallets, owner, grant]
    refine pool_granted granted typed (by decide) foundOld isOrg (fun child member => ?_)
      (fun isTier given => orgs isTier id given old foundOld)
      (fun isTier => groupsFit isTier id old foundOld isOrg listed) (within.groups id listed old foundOld isOrg)
    obtain ⟨-, childRow, foundChild, isGroup, -⟩ := mem_groupWallets.mp member
    exact ⟨childRow, foundChild, isGroup⟩
  · intro id listed row found isGroup
    obtain ⟨old, foundOld, type, owner, grant⟩ := granted_found granted found
    rw [same.walletIds] at listed
    rw [type] at isGroup
    rw [same.memberWallets, owner, grant]
    refine pool_granted granted typed (by decide) foundOld isGroup (fun child member => ?_)
      (fun isTier given => pools isTier id given old foundOld)
      (fun isTier => membersFit isTier id old foundOld isGroup listed)
      (within.members id listed old foundOld isGroup)
    obtain ⟨-, childRow, foundChild, isUser, -⟩ := mem_memberWallets.mp member
    exact ⟨childRow, foundChild, isUser⟩

end Granted

theorem Within.moved {source target : WalletId} {amount : ℤ} (within : Within tree bank)
    (moved : Moved source target amount bank next) : Within tree next := by
  have same := moved.sameOwners
  have found {id : WalletId} {row : Wallet} (found : next.ledger.wallet id = some row) :
      ∃ old, bank.ledger.wallet id = some old ∧ row.ownerType = old.ownerType ∧ row.ownerId = old.ownerId ∧
        row.monthlyGrant = old.monthlyGrant := by
    rw [moved.wallet] at found
    split_ifs at found
    · obtain ⟨old, foundOld, rfl⟩ := map_eq_some_iff.mp found
      exact ⟨old, foundOld, rfl, rfl, rfl⟩
    · obtain ⟨old, foundOld, rfl⟩ := map_eq_some_iff.mp found
      exact ⟨old, foundOld, rfl, rfl, rfl⟩
    · exact ⟨row, found, rfl, rfl, rfl⟩
  constructor
  · intro id listed row isRow isOrg
    obtain ⟨old, foundOld, type, owner, grant⟩ := found isRow
    rw [same.groupWallets, moved.grants, owner, grant]
    exact within.groups id (same.walletIds ▸ listed) old foundOld (type ▸ isOrg)
  · intro id listed row isRow isGroup
    obtain ⟨old, foundOld, type, owner, grant⟩ := found isRow
    rw [same.memberWallets, moved.grants, owner, grant]
    exact within.members id (same.walletIds ▸ listed) old foundOld (type ▸ isGroup)

section Fits

variable {wallet : WalletId} {row pool : Wallet} {parent : Option WalletId} {siblings : List WalletId}
variable (within : Within tree bank) (wellFormed : bank.WellFormed)
variable (granted : Granted [wallet] value bank next) (found : bank.ledger.wallet wallet = some row)
variable (scope : bank.grantScope tree principal row = some (parent, siblings))
variable (fits : ∀ pool ∈ parent.bind bank.ledger.wallet,
  credits (bank.grants (siblings.filter (· ≠ wallet))) + value ≤ credits pool.monthlyGrant)

include within wellFormed granted found scope fits

theorem group_fits (isGroup : row.ownerType = .group) (foundPool : bank.ledger.wallet id = some pool)
    (isOrg : pool.ownerType = .org) (listed : id ∈ bank.walletIds) :
    next.grants (bank.groupWallets tree pool.ownerId) ≤ pool.monthlyGrant := by
  rw [grantScope, isGroup] at scope
  obtain ⟨org, ofOrg, scope⟩ := bind_eq_some_iff.mp scope
  split_ifs at scope
  cases scope
  by_cases shared : wallet ∈ bank.groupWallets tree pool.ownerId
  · obtain ⟨-, other, foundOther, -, -, ofPool⟩ := mem_groupWallets.mp shared
    cases foundOther.symm.trans found
    have same : org = pool.ownerId := some.inj (ofOrg.symm.trans ofPool)
    subst same
    have above := wellFormed.walletOf foundPool
    rw [isOrg] at above
    rw [above] at fits
    exact granted.fits found shared (wellFormed.nodup.filter _) (fits pool foundPool)
  · rw [granted.grants_frame fun child member given => shared (mem_singleton.mp given ▸ member)]
    exact within.groups id listed pool foundPool isOrg

theorem user_fits (rows : Listed tree bank) (isUser : row.ownerType = .user)
    (unshared : round2 value ≤ row.monthlyGrant ∨
      OneGroup tree row.ownerId ∧ (principal.superAdmin → none ∉ tree.memberships row.ownerId))
    (foundPool : bank.ledger.wallet id = some pool) (isGroup : pool.ownerType = .group)
    (listed : id ∈ bank.walletIds) : next.grants (bank.memberWallets pool.ownerId) ≤ pool.monthlyGrant := by
  have before := within.members id listed pool foundPool isGroup
  rcases unshared with lower | ⟨single, grouped⟩
  · refine (granted.grants_le fun child _ given childRow foundChild => ?_).trans before
    rw [mem_singleton.mp given] at foundChild
    cases foundChild.symm.trans found
    exact lower
  · by_cases shared : wallet ∈ bank.memberWallets pool.ownerId
    · obtain ⟨-, other, foundOther, -, isMember⟩ := mem_memberWallets.mp shared
      cases foundOther.symm.trans found
      rw [grantScope, isUser] at scope
      dsimp only at scope
      split at scope
      next => cases scope
      next later groups =>
        obtain ⟨isRow, super⟩ := mem_filter.mp (groups ▸ mem_cons_self)
        exact absurd isRow (grouped super)
      next first later groups =>
        cases scope
        have administered : first ∈ tree.groupsOf row.ownerId :=
          Hierarchy.mem_groupsOf.mpr (mem_of_mem_filter (groups ▸ mem_cons_self))
        have same := single first administered pool.ownerId (rows _ _ isMember)
        subst same
        have above := wellFormed.walletOf foundPool
        rw [isGroup] at above
        rw [above] at fits
        exact granted.fits found shared (wellFormed.nodup.filter _) (fits pool foundPool)
    · rw [granted.grants_frame fun child member given => shared (mem_singleton.mp given ▸ member)]
      exact before

theorem Within.set (rows : Listed tree bank)
    (careful : Careful tree bank principal (.setMonthlyGrant wallet value stamp)) : Within tree next := by
  have careful := careful row found
  have only (id : WalletId) (given : id ∈ [wallet]) (other : Wallet) (isRow : bank.ledger.wallet id = some other) :
      other = row := by
    rw [mem_singleton.mp given] at isRow
    exact some.inj (isRow.symm.trans found)
  refine within.granted granted (fun id given other isRow => by rw [only id given other isRow]) ?_ ?_ ?_ ?_
  · intro isOrg id given other isRow
    rw [isOrg] at careful
    rw [only id given other isRow]
    exact careful
  · intro isGroup id given other isRow
    rw [isGroup] at careful
    rw [only id given other isRow]
    exact careful
  · intro isGroup id pool foundPool isOrg listed
    exact group_fits within wellFormed granted found scope fits isGroup foundPool isOrg listed
  · intro isUser id pool foundPool isGroup listed
    rw [isUser] at careful
    exact user_fits within wellFormed granted found scope fits rows isUser careful foundPool isGroup listed

end Fits

theorem Within.bulk {group : GroupId} {value : ℚ} {id : WalletId} {parent : Wallet}
    (within : Within tree bank) (wellFormed : bank.WellFormed) (rows : Listed tree bank)
    (careful : Careful tree bank principal (.bulkMonthlyGrant group value stamp))
    (granted : Granted (bank.memberWallets group) value bank next)
    (pool : bank.walletOf .group group = some (id, parent))
    (fits : value * (bank.memberWallets group).length ≤ credits parent.monthlyGrant) : Within tree next := by
  obtain ⟨whole, unshared⟩ := careful
  have typed : ∀ member ∈ bank.memberWallets group, ∀ row ∈ bank.ledger.wallet member,
      row.ownerType = OwnerType.user := by
    intro member given row found
    obtain ⟨-, other, foundOther, isUser, -⟩ := mem_memberWallets.mp given
    cases foundOther.symm.trans found
    exact isUser
  refine within.granted granted typed OwnerType.noConfusion OwnerType.noConfusion OwnerType.noConfusion
    fun _ poolId row found isGroup listed => ?_
  by_cases same : row.ownerId = group
  · subst same
    have only := wellFormed.walletOf found
    rw [isGroup, pool] at only
    rw [(Prod.mk.inj (some.inj only)).2] at fits
    exact granted.fits_all whole fits
  · refine (granted.grants_le fun member isMember given other foundOther => ?_).trans
      (within.members poolId listed row found isGroup)
    refine (unshared member given other foundOther).resolve_right fun single => same ?_
    obtain ⟨-, first, foundFirst, -, here⟩ := mem_memberWallets.mp isMember
    obtain ⟨-, second, foundSecond, -, there⟩ := mem_memberWallets.mp given
    cases foundFirst.symm.trans foundOther
    cases foundSecond.symm.trans foundOther
    exact single _ (rows _ _ here) _ (rows _ _ there)

/-- What holds along a run: the grants, and what no call changes. -/
structure Kept (tree : Hierarchy) (bank : Bank) : Prop where
  within : Within tree bank
  wellFormed : bank.WellFormed
  rows : Listed tree bank

theorem Kept.sameOwners (kept : Kept tree bank) (same : SameOwners next bank) (within : Within tree next) :
    Kept tree next where
  within := within
  wellFormed := kept.wellFormed.of_sameOwners same
  rows := by
    rw [Listed, same.members]
    exact kept.rows

theorem Kept.apply (kept : Kept tree bank) (careful : Careful tree bank principal call) :
    Kept tree (call.apply tree principal bank) := by
  have effect := @apply_effect bank tree principal call
  generalize call.apply tree principal bank = next at effect
  cases effect with
  | kept => exact kept
  | set _ found scope fits granted =>
    exact kept.sameOwners granted.sameOwners
      (kept.within.set kept.wellFormed granted found scope fits kept.rows careful)
  | bulk _ _ pool fits granted =>
    exact kept.sameOwners granted.sameOwners
      (kept.within.bulk kept.wellFormed kept.rows careful granted pool fits)
  | moved _ _ _ moved => exact kept.sameOwners moved.sameOwners (kept.within.moved moved)

def step (tree : Hierarchy) (bank : Bank) (label : Principal × HierarchyCall) : Option Bank :=
  some (label.2.apply tree label.1 bank)

/-- Grants that are within the hierarchy stay so through every sequence of careful calls. -/
theorem grants_within (tree : Hierarchy) {bank last : Bank} {calls : List (Principal × HierarchyCall)}
    (wellFormed : bank.WellFormed) (rows : Listed tree bank) (start : Within tree bank)
    (run : Run (step tree) (fun bank label => Careful tree bank label.1 label.2) bank calls last) :
    Within tree last := by
  have kept : Kept tree last := run.invariant ⟨start, wellFormed, rows⟩ fun bank label next careful taken kept => by
    cases taken
    exact kept.apply careful
  exact kept.within

instance : Decidable (Within tree bank) := decidable_of_iff' _ (within_iff ..)

/-- One organization with two groups. The first user is in both groups, the second in the first one only, the
third administers the organization and is in its second group. -/
def twoGroups : Hierarchy where
  orgOf group := if group < 2 then some 0 else none
  memberships user :=
    if user = 0 then [some 0, some 1] else if user = 1 then [some 0] else if user = 2 then [none, some 1] else []

/-- The wallets of the organization, the groups and the users, with grants for the first three. -/
def office (org first second : ℤ) : Bank where
  ledger :=
    { wallet := fun id =>
        match id with
        | 0 => some ⟨.org, 0, 0, 0, org⟩
        | 1 => some ⟨.group, 0, 0, 0, first⟩
        | 2 => some ⟨.group, 1, 0, 0, second⟩
        | 3 => some ⟨.user, 0, 0, 0, 0⟩
        | 4 => some ⟨.user, 1, 0, 0, 0⟩
        | 5 => some ⟨.user, 2, 0, 0, 0⟩
        | _ => none
      txns := [] }
  walletIds := [0, 1, 2, 3, 4, 5]
  members group := if group = 0 then [0, 1] else if group = 1 then [0, 2] else []
  liveGroup group := group < 2
  defaultMemberCredit _ := 0
  allocationRequests _ := none
  topupRequests _ := none

theorem office_wellFormed (org first second : ℤ) : (office org first second).WellFormed where
  nodup := show [0, 1, 2, 3, 4, 5].Nodup by decide
  listed id row found := by
    rcases id with _ | _ | _ | _ | _ | _ | id
    all_goals first | (cases found; done) | simp [office]
  unique id other row otherRow found foundOther alike := by
    rcases id with _ | _ | _ | _ | _ | _ | id <;> cases found <;>
      rcases other with _ | _ | _ | _ | _ | _ | other <;> cases foundOther <;> simp [Wallet.owner] at alike ⊢

theorem office_listed (org first second : ℤ) : Listed twoGroups (office org first second) := by
  intro group user member
  simp only [office] at member
  split_ifs at member with isFirst isSecond
  · rcases mem_pair.mp member with rfl | rfl <;> simp [Hierarchy.mem_groupsOf, twoGroups, isFirst]
  · rcases mem_pair.mp member with rfl | rfl <;> simp [Hierarchy.mem_groupsOf, twoGroups, isSecond]
  · cases member

def platform : Principal := ⟨true, [], []⟩

theorem raise_within :
    Run (step twoGroups) (fun bank label => Careful twoGroups bank label.1 label.2) (office 1000 600 0)
        [(platform, .setMonthlyGrant 4 5 0)]
        (apply twoGroups platform (office 1000 600 0) (.setMonthlyGrant 4 5 0)) ∧
      Within twoGroups (apply twoGroups platform (office 1000 600 0) (.setMonthlyGrant 4 5 0)) := by
  have single : OneGroup twoGroups 1 := by
    simp [OneGroup, Hierarchy.mem_groupsOf, twoGroups]
  have run : Run (step twoGroups) (fun bank label => Careful twoGroups bank label.1 label.2) (office 1000 600 0)
      [(platform, .setMonthlyGrant 4 5 0)] _ := .cons (fun row isRow => by
    cases isRow
    exact .inr ⟨single, by decide⟩) rfl (.nil _)
  exact ⟨run, grants_within twoGroups (office_wellFormed _ _ _) (office_listed _ _ _) (by decide +kernel) run⟩

/-- An organization's grant set below those of its groups, a user of two groups granted more than the second
group has, so is an administrator of the organization by the platform, and half a cent for each of two members
of a group with one cent. -/
theorem grants_leave_hierarchy :
    (∀ org first second, (office org first second).WellFormed ∧ Listed twoGroups (office org first second)) ∧
      (Within twoGroups (office 1000 600 400) ∧
        ¬Within twoGroups (apply twoGroups platform (office 1000 600 400) (.setMonthlyGrant 0 1 0))) ∧
      (Within twoGroups (office 1000 600 0) ∧
        ¬Within twoGroups (apply twoGroups (.adminOf 0) (office 1000 600 0) (.setMonthlyGrant 3 5 0)) ∧
        ¬Within twoGroups (apply twoGroups platform (office 1000 600 0) (.setMonthlyGrant 5 5 0))) ∧
      Within twoGroups (office 1 1 0) ∧
        ¬Within twoGroups (apply twoGroups (.adminOf 0) (office 1 1 0) (.bulkMonthlyGrant 0 (1 / 200) 0)) := by
  refine ⟨fun _ _ _ => ⟨office_wellFormed _ _ _, office_listed _ _ _⟩, ?_, ?_, ?_⟩ <;> decide +kernel

end GShare.Soundness.Grants
