import GShare.Machine.Run
import GShare.Proofs.Credit.Hierarchy
import GShare.ToMathlib.ListSum

/-! # The credit that a group administrator creates

Grants and allocations within one group, by an administrator of that group and nobody else. Allocations move
credit; a grant above a member's balance pays the difference out of nothing. What is created stays within the
group's monthly grant as long as no grant is lowered and a grant is only paid on top of the one before, that is,
the member still has that.
-/

namespace GShare.Soundness.GrantIncrease

open Machine GShare.Model Principal HierarchyCall Ledger Bank Option List Bool

def poolWallets (tree : Hierarchy) (group : GroupId) (bank : Bank) : List WalletId :=
  bank.walletIds.filter fun id =>
    (bank.ledger.wallet id).any fun row =>
      decide (row.owner = (.group, group)) || row.ownerType == .user && decide (group ∈ tree.groupsOf row.ownerId)

def held (bank : Bank) (ids : List WalletId) : ℤ := (ids.map bank.ledger.balance).sum

/-- A grant that is not lowered, and that pays nothing or finds the old grant still there. -/
def OnTop (value : ℚ) (row : Wallet) : Prop :=
  row.monthlyGrant ≤ round2 value ∧ (value ≤ credits row.balance ∨ row.monthlyGrant ≤ row.balance)

/-- Grants go to live members, on top of what they have, and a grant for all of them has no fractions of a
cent. -/
def Sparing (bank : Bank) (group : GroupId) : HierarchyCall → Prop
  | .setMonthlyGrant wallet value _ => ∀ row ∈ bank.ledger.wallet wallet, row.ownerType = .user →
      row.ownerId ∈ bank.members group ∧ OnTop value row
  | .bulkMonthlyGrant other value _ => credits (round2 value) = value ∧
      ∀ id ∈ bank.memberWallets other, ∀ row ∈ bank.ledger.wallet id, OnTop value row
  | .allocate _ _ _ _ _ => True

variable {tree : Hierarchy} {group : GroupId} {bank next : Bank} {call : HierarchyCall}
variable {ids : List WalletId} {value : ℚ} {id : WalletId} {amount : ℤ}

theorem mem_poolWallets :
    id ∈ poolWallets tree group bank ↔ id ∈ bank.walletIds ∧ ∃ row, bank.ledger.wallet id = some row ∧
      (row.owner = (.group, group) ∨ row.ownerType = .user ∧ group ∈ tree.groupsOf row.ownerId) := by
  simp [poolWallets, Option.any_eq_true]

theorem poolWallets_same (same : SameOwners next bank) :
    poolWallets tree group next = poolWallets tree group bank := by
  rw [poolWallets, poolWallets, same.walletIds]
  exact filter_congr fun id _ =>
    same.any (fun owner =>
      decide (owner = (.group, group)) || owner.1 == .user && decide (group ∈ tree.groupsOf owner.2)) id

theorem held_moved {source target : WalletId}
    (moved : Moved source target amount bank next) (nodup : ids.Nodup) (fromPool : source ∈ ids)
    (toPool : target ∈ ids) (sourceExists : (bank.ledger.wallet source).isSome)
    (targetExists : (bank.ledger.wallet target).isSome) : held next ids = held bank ids := by
  have balances (id : WalletId) : next.ledger.balance id = bank.ledger.balance id
      + (if id = target then amount else 0) + (if id = source then -amount else 0) := by
    rw [balance, moved.wallet, balance]
    split_ifs with isTarget isSource isSource
    · exact absurd (isSource.symm.trans isTarget) moved.distinct
    · obtain ⟨row, found⟩ := isSome_iff_exists.mp targetExists
      rw [isTarget, found]
      simp
    · obtain ⟨row, found⟩ := isSome_iff_exists.mp sourceExists
      rw [isSource, found]
      simp
      omega
    · simp
  rw [held, held, map_congr_left fun id _ => balances id, sum_map_add, sum_map_add,
    sum_map_single toPool nodup, sum_map_single fromPool nodup]
  omega

/-- The live members are a part of the pool. -/
theorem filter_poolWallets (listed : ∀ user ∈ bank.members group, group ∈ tree.groupsOf user) :
    (poolWallets tree group bank).filter (fun id => decide (id ∈ bank.memberWallets group))
      = bank.memberWallets group := by
  rw [poolWallets, List.filter_filter]
  refine List.filter_congr fun id among => ?_
  rw [Bool.eq_iff_iff, and_eq_true, decide_eq_true_eq, mem_memberWallets]
  simp only [Option.any_eq_true, or_eq_true, and_eq_true, decide_eq_true_eq, beq_iff_eq]
  constructor
  · rintro ⟨⟨-, row, found, isUser, isMember⟩, -⟩
    exact ⟨row, found, isUser, isMember⟩
  · rintro ⟨row, found, isUser, isMember⟩
    exact ⟨⟨among, row, found, isUser, isMember⟩, row, found, .inr ⟨isUser, listed _ isMember⟩⟩

theorem gain_le (granted : Granted ids value bank next)
    (onTop : ∀ id ∈ ids, ∀ row ∈ bank.ledger.wallet id, OnTop value row) (id : WalletId) :
    next.ledger.balance id - bank.ledger.balance id
      ≤ (next.ledger.wallet id).elim 0 (·.monthlyGrant) - (bank.ledger.wallet id).elim 0 (·.monthlyGrant) := by
  rw [balance, balance, granted.wallet]
  split_ifs with given
  · cases found : bank.ledger.wallet id with
    | none => simp
    | some row =>
      obtain ⟨raised, there⟩ := onTop id given row found
      simp only [map_some, elim_some, Wallet.granted]
      split_ifs with paid
      · have kept := there.resolve_left (not_le.mpr paid.2)
        omega
      · omega
  · omega

theorem held_granted (granted : Granted ids value bank next)
    (listed : ∀ user ∈ bank.members group, group ∈ tree.groupsOf user)
    (live : ∀ id ∈ ids, id ∈ bank.memberWallets group)
    (onTop : ∀ id ∈ ids, ∀ row ∈ bank.ledger.wallet id, OnTop value row) :
    held next (poolWallets tree group bank) - held bank (poolWallets tree group bank)
      ≤ next.grants (bank.memberWallets group) - bank.grants (bank.memberWallets group) := by
  have unpaid (id : WalletId) (_ : id ∈ poolWallets tree group bank)
      (other : decide (id ∈ bank.memberWallets group) = false) :
      next.ledger.balance id - bank.ledger.balance id = 0 := by
    rw [balance, balance, granted.wallet, if_neg fun given => of_decide_eq_false other (live id given)]
    exact sub_self _
  have paid := sum_map_filter_of_zero unpaid
  rw [filter_poolWallets listed] at paid
  calc
    held next (poolWallets tree group bank) - held bank (poolWallets tree group bank)
      = ((poolWallets tree group bank).map fun id => next.ledger.balance id - bank.ledger.balance id).sum :=
        (sum_map_difference ..).symm
    _ = ((bank.memberWallets group).map fun id => next.ledger.balance id - bank.ledger.balance id).sum := paid.symm
    _ ≤ ((bank.memberWallets group).map fun id => (next.ledger.wallet id).elim 0 (·.monthlyGrant)
          - (bank.ledger.wallet id).elim 0 (·.monthlyGrant)).sum :=
        sum_le_sum fun id _ => gain_le granted onTop id
    _ = next.grants (bank.memberWallets group) - bank.grants (bank.memberWallets group) :=
        sum_map_difference ..

section Admin

variable {row sourceRow targetRow : Wallet} {parent : Option WalletId} {siblings : List WalletId}

theorem scope_of_admin (scope : bank.grantScope tree (.adminOf group) row = some (parent, siblings)) :
    row.ownerType = .user ∧ parent = (bank.walletOf .group group).map Prod.fst ∧
      siblings = bank.memberWallets group := by
  unfold grantScope at scope
  cases type : row.ownerType with
  | system | org =>
    rw [type] at scope
    cases scope
  | group =>
    rw [type] at scope
    obtain ⟨org, -, scope⟩ := bind_eq_some_iff.mp scope
    cases scope
  | user =>
    rw [type] at scope
    dsimp only at scope
    split at scope
    next => cases scope
    next later groups => cases (mem_filter.mp (groups ▸ mem_cons_self)).2
    next first later groups =>
      obtain ⟨-, administered⟩ := mem_filter.mp (groups ▸ mem_cons_self)
      have same : first = group := by simpa [administers, adminOf] using administered
      cases scope
      rw [same]
      exact ⟨rfl, rfl, rfl⟩

def InPool (tree : Hierarchy) (group : GroupId) (row : Wallet) : Prop :=
  row.owner = (.group, group) ∨ row.ownerType = .user ∧ group ∈ tree.groupsOf row.ownerId

theorem inPool_of_allocate (allowed : canAllocate tree (.adminOf group) sourceRow targetRow) :
    InPool tree group sourceRow ∧ InPool tree group targetRow := by
  simp only [canAllocate, adminOf, Bool.false_or] at allowed
  split at allowed
  · simp at allowed
  · simp at allowed
  · rename_i isGroup isUser
    simp only [mem_singleton, and_eq_true, decide_eq_true_eq] at allowed
    obtain ⟨same, isMember⟩ := allowed
    exact ⟨.inl (Prod.ext isGroup same), .inr ⟨isUser, same ▸ isMember⟩⟩
  · rename_i isUser isGroup
    simp only [mem_singleton, and_eq_true, decide_eq_true_eq] at allowed
    obtain ⟨same, isMember⟩ := allowed
    exact ⟨.inr ⟨isUser, same ▸ isMember⟩, .inl (Prod.ext isGroup same)⟩
  · cases allowed

end Admin

/-- How far a run has come from where it started: what was created is no more than what the grants were raised
by, and grants that have changed are within the group's. -/
structure Bounded (tree : Hierarchy) (group : GroupId) (start : Bank) (pool : WalletId) (ceiling : ℤ)
    (bank : Bank) : Prop where
  wellFormed : bank.WellFormed
  same : SameOwners bank start
  capped : ∃ row, bank.ledger.wallet pool = some row ∧ row.owner = (.group, group) ∧ row.monthlyGrant = ceiling
  created : held bank (poolWallets tree group start) - held start (poolWallets tree group start)
    ≤ bank.grants (start.memberWallets group) - start.grants (start.memberWallets group)
  within : bank.grants (start.memberWallets group) ≤ ceiling ∨
    bank.grants (start.memberWallets group) = start.grants (start.memberWallets group)

section Steps

variable {start : Bank} {pool : WalletId} {ceiling : ℤ}

section

variable (bounded : Bounded tree group start pool ceiling bank)

include bounded

theorem Bounded.granted (listed : ∀ user ∈ start.members group, group ∈ tree.groupsOf user)
    (granted : Granted ids value bank next) (live : ∀ id ∈ ids, id ∈ bank.memberWallets group)
    (onTop : ∀ id ∈ ids, ∀ row ∈ bank.ledger.wallet id, OnTop value row)
    (fits : next.grants (bank.memberWallets group) ≤ ceiling) : Bounded tree group start pool ceiling next where
  wellFormed := bounded.wellFormed.of_sameOwners granted.sameOwners
  same := granted.sameOwners.trans bounded.same
  capped := by
    obtain ⟨row, found, owner, grant⟩ := bounded.capped
    refine ⟨row, ?_, owner, grant⟩
    rw [granted.wallet, if_neg fun given => ?_, found]
    obtain ⟨-, other, foundOther, isUser, -⟩ := mem_memberWallets.mp (live pool given)
    cases foundOther.symm.trans found
    rw [Wallet.owner, isUser] at owner
    cases owner
  created := by
    have gain := held_granted granted (bounded.same.members ▸ listed) live onTop
    rw [poolWallets_same bounded.same, bounded.same.memberWallets] at gain
    have before := bounded.created
    omega
  within := .inl (bounded.same.memberWallets group ▸ fits)

theorem Bounded.moved {source target : WalletId} {sourceRow targetRow : Wallet}
    (moved : Moved source target amount bank next) (foundSource : bank.ledger.wallet source = some sourceRow)
    (foundTarget : bank.ledger.wallet target = some targetRow)
    (fromPool : InPool tree group sourceRow) (toPool : InPool tree group targetRow) :
    Bounded tree group start pool ceiling next where
  wellFormed := bounded.wellFormed.of_sameOwners moved.sameOwners
  same := moved.sameOwners.trans bounded.same
  capped := by
    obtain ⟨row, found, owner, grant⟩ := bounded.capped
    rw [moved.wallet, found]
    split_ifs
    · exact ⟨_, rfl, owner, grant⟩
    · exact ⟨_, rfl, owner, grant⟩
    · exact ⟨row, rfl, owner, grant⟩
  created := by
    have nodup : (poolWallets tree group bank).Nodup := bounded.wellFormed.nodup.filter _
    have conserved := held_moved moved nodup
      (mem_poolWallets.mpr ⟨bounded.wellFormed.listed _ _ foundSource, sourceRow, foundSource, fromPool⟩)
      (mem_poolWallets.mpr ⟨bounded.wellFormed.listed _ _ foundTarget, targetRow, foundTarget, toPool⟩)
      (foundSource ▸ rfl) (foundTarget ▸ rfl)
    rw [poolWallets_same bounded.same] at conserved
    rw [conserved, moved.grants]
    exact bounded.created
  within := by
    rw [moved.grants]
    exact bounded.within

theorem Bounded.apply (listed : ∀ user ∈ start.members group, group ∈ tree.groupsOf user)
    (sparing : Sparing bank group call) :
    Bounded tree group start pool ceiling (call.apply tree (.adminOf group) bank) := by
  obtain ⟨poolRow, foundPool, owner, grant⟩ := bounded.capped
  have above := bounded.wellFormed.walletOf foundPool
  rw [(Prod.mk.inj owner).1, (Prod.mk.inj owner).2] at above
  have effect := @apply_effect bank tree (.adminOf group) call
  generalize call.apply tree (.adminOf group) bank = next at effect
  cases effect with
  | kept => exact bounded
  | @set wallet value stamp _ row parent siblings nonneg found scope fits granted =>
    obtain ⟨isUser, rfl, rfl⟩ := scope_of_admin scope
    obtain ⟨isMember, onTop⟩ := sparing row found isUser
    have live : wallet ∈ bank.memberWallets group :=
      mem_memberWallets.mpr ⟨bounded.wellFormed.listed _ _ found, row, found, isUser, isMember⟩
    rw [above, map_some] at fits
    have room := fits poolRow foundPool
    rw [grant] at room
    refine bounded.granted listed granted (fun id given => mem_singleton.mp given ▸ live) ?_
      (granted.fits found live (bounded.wellFormed.nodup.filter _) room)
    intro id given other isRow
    rw [mem_singleton.mp given] at isRow
    cases isRow.symm.trans found
    exact onTop
  | @bulk other value stamp _ id parent nonneg administers isPool fits granted =>
    have same : other = group := by simpa [Principal.administers, adminOf] using administers
    subst same
    rw [above] at isPool
    cases isPool
    rw [grant] at fits
    exact bounded.granted listed granted (fun _ => id) sparing.2 (granted.fits_all sparing.1 fits)
  | moved foundSource foundTarget allowed moved =>
    obtain ⟨fromPool, toPool⟩ := inPool_of_allocate allowed
    exact bounded.moved moved foundSource foundTarget fromPool toPool

end

end Steps

/-- Whatever the administrator of a group does in whatever order, sparingly: the credit created in the wallets
of the group and its members is at most the group's monthly grant. -/
theorem created_le_grant (tree : Hierarchy) (group : GroupId) {bank last : Bank} {calls : List HierarchyCall}
    {pool : WalletId} {row : Wallet} (wellFormed : bank.WellFormed)
    (listed : ∀ user ∈ bank.members group, group ∈ tree.groupsOf user)
    (nonneg : ∀ id row, bank.ledger.wallet id = some row → 0 ≤ row.monthlyGrant)
    (found : bank.ledger.wallet pool = some row) (owner : row.owner = (.group, group))
    (run : Run (fun bank call => some (apply tree (.adminOf group) bank call))
      (fun bank call => Sparing bank group call) bank calls last) :
    held last (poolWallets tree group last) - held bank (poolWallets tree group bank) ≤ row.monthlyGrant := by
  have start : Bounded tree group bank pool row.monthlyGrant bank :=
    ⟨wellFormed, .refl bank, ⟨row, found, owner, rfl⟩, by omega, .inr rfl⟩
  have bounded : Bounded tree group bank pool row.monthlyGrant last := run.invariant start
    fun state call next sparing taken bounded => by
      cases taken
      exact bounded.apply listed sparing
  have initial : 0 ≤ bank.grants (bank.memberWallets group) := by
    refine sum_nonneg fun grant member => ?_
    obtain ⟨id, -, rfl⟩ := mem_map.mp member
    cases isRow : bank.ledger.wallet id with
    | none => exact le_rfl
    | some other => exact nonneg id other isRow
  have ceiling := nonneg pool row found
  have created := bounded.created
  rw [poolWallets_same bounded.same]
  rcases bounded.within with within | same
  · omega
  · omega

def oneMember : Hierarchy where
  orgOf _ := some 0
  memberships user := if user = 0 then [some 0] else []

/-- The wallets of the group, with a monthly grant of ten credits, and of its member, both empty. -/
def club : Bank where
  ledger :=
    { wallet := fun id =>
        if id = 1 then some ⟨.group, 0, 0, 0, 1000⟩ else if id = 2 then some ⟨.user, 0, 0, 0, 0⟩ else none
      txns := [] }
  walletIds := [1, 2]
  members group := if group = 0 then [0] else []
  liveGroup group := group = 0
  defaultMemberCredit _ := 0
  allocationRequests _ := none
  topupRequests _ := none

theorem club_found {row : Wallet} (found : club.ledger.wallet id = some row) :
    id = 1 ∧ row = ⟨.group, 0, 0, 0, 1000⟩ ∨ id = 2 ∧ row = ⟨.user, 0, 0, 0, 0⟩ := by
  simp only [club] at found
  split_ifs at found with first second
  · exact .inl ⟨first, (some.inj found).symm⟩
  · exact .inr ⟨second, (some.inj found).symm⟩

theorem club_wellFormed : club.WellFormed where
  nodup := by decide
  listed id row found := by
    rcases club_found found with ⟨rfl, -⟩ | ⟨rfl, -⟩ <;> decide
  unique id other row otherRow found foundOther alike := by
    rcases club_found found with ⟨rfl, rfl⟩ | ⟨rfl, rfl⟩ <;>
      rcases club_found foundOther with ⟨rfl, rfl⟩ | ⟨rfl, rfl⟩ <;> first | rfl | (cases alike)

def act (bank : Bank) (call : HierarchyCall) : Bank := call.apply oneMember (.adminOf 0) bank

theorem first_grant_within :
    held (act club (.setMonthlyGrant 2 5 0)) (poolWallets oneMember 0 (act club (.setMonthlyGrant 2 5 0)))
      - held club (poolWallets oneMember 0 club) ≤ 1000 := by
  have run : Run (fun bank call => some (apply oneMember (.adminOf 0) bank call))
      (fun bank call => Sparing bank 0 call) club [.setMonthlyGrant 2 5 0] (act club (.setMonthlyGrant 2 5 0)) := by
    refine .cons (fun row found _ => ?_) rfl (.nil _)
    cases found
    exact ⟨by decide, by decide +kernel, .inr (by decide)⟩
  have listed : ∀ user ∈ club.members 0, 0 ∈ oneMember.groupsOf user := by decide
  have nonneg (id : WalletId) (row : Wallet) (found : club.ledger.wallet id = some row) : 0 ≤ row.monthlyGrant := by
    rcases club_found found with ⟨-, rfl⟩ | ⟨-, rfl⟩ <;> decide
  have found : club.ledger.wallet 1 = some ⟨.group, 0, 0, 0, 1000⟩ := rfl
  exact created_le_grant oneMember 0 club_wellFormed listed nonneg found rfl run

/-- Grant ten credits, reclaim them, grant the same ten again. -/
def cycle : List HierarchyCall :=
  [.setMonthlyGrant 2 10 0, .allocate 2 1 10 (some "reclaim") 0, .setMonthlyGrant 2 10 0]

/-- The second time the grant is not raised, but the member is paid again: twenty credits from a monthly grant
of ten. -/
theorem regrant_creates_credit :
    Run (fun bank call => some (apply oneMember (.adminOf 0) bank call)) (fun _ _ => True) club cycle
        (cycle.foldl act club) ∧
      held (cycle.foldl act club) (poolWallets oneMember 0 (cycle.foldl act club))
        - held club (poolWallets oneMember 0 club) = 2000 ∧
      (club.ledger.wallet 1).map (·.monthlyGrant) = some 1000 := by
  refine ⟨run_of_execute rfl, ?_, ?_⟩ <;> decide +kernel

end GShare.Soundness.GrantIncrease
