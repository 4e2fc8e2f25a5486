import GShare.Model.Credit.Hierarchy
import GShare.Proofs.Credit.Writers
import Mathlib.Algebra.BigOperators.Group.List.Lemmas
import Mathlib.Algebra.Order.BigOperators.Group.List

/-! # What the calls of the hierarchy can do

A grant call gives a list of wallets one new grant, and a balance below it is raised to it; an allocation moves
an amount from one wallet to another. Owners never change, so neither do the lists of wallets that share a pool.
-/

namespace GShare.Model

open Bank Option Wallet CreditOp

variable {wallet : WalletId} {row : Wallet} {amount : ℚ} {bank : Bank} {tree : Hierarchy}

def Wallet.owner (row : Wallet) : OwnerType × ℕ := (row.ownerType, row.ownerId)

def Wallet.granted (amount : ℚ) (row : Wallet) : Wallet :=
  { row with
    monthlyGrant := round2 amount
    balance := if row.ownerType ≠ .system ∧ credits row.balance < amount then round2 amount else row.balance }

variable {source target : WalletId}

namespace Ledger

variable {ledger next : Ledger} {stamp : ℤ}

theorem applyGrant_wallet (id : WalletId) : (ledger.applyGrant wallet row amount stamp).wallet id
      = if id = wallet then some (row.granted amount) else ledger.wallet id := by
  simp only [applyGrant, creditGrantIncrease, granted]
  split_ifs with raised same same <;> simp [post, setWallet, same]

theorem granted_idem (row : Wallet) : (row.granted amount).granted amount = row.granted amount := by
  simp only [granted]
  split_ifs <;> rfl

theorem bulkMonthlyGrantLoop_wallet (wallets : List WalletId) (ledger : Ledger) (id : WalletId) :
    (bulkMonthlyGrantLoop amount stamp ledger wallets).wallet id
      = if id ∈ wallets then (ledger.wallet id).map (granted amount) else ledger.wallet id := by
  induction wallets generalizing ledger with
  | nil => simp [bulkMonthlyGrantLoop]
  | cons wallet rest ih =>
    simp only [bulkMonthlyGrantLoop, List.foldl_cons] at ih ⊢
    rw [ih]
    cases found : ledger.wallet wallet with
    | none =>
      by_cases same : id = wallet
      · subst same
        simp [found]
      · simp [same]
    | some row =>
      simp only [applyGrant_wallet]
      by_cases same : id = wallet
      · subst same
        simp [found, granted_idem]
      · simp [same]

theorem move_wallet {sourceRow targetRow : Wallet} {amount : ℤ}
    {refs : Leg → Option Ref} {keys : Leg → IdemKey}
    (success : ledger.move source target sourceRow targetRow amount refs keys stamp = some next) (id : WalletId) :
    next.wallet id
      = if id = target then some { targetRow with balance := targetRow.balance + amount }
        else if id = source then some { sourceRow with balance := sourceRow.balance - amount }
        else ledger.wallet id := by
  obtain ⟨middle, out, into⟩ := bind_eq_some_iff.mp success
  obtain ⟨-, rfl⟩ := (record_eq_some ..).mp out
  obtain ⟨-, rfl⟩ := (record_eq_some ..).mp into
  simp only [post, Function.update_apply]

end Ledger

variable {ids others : List WalletId} {id : WalletId} {ceiling : ℤ}

namespace Bank

variable {next : Bank} {value : ℚ}
variable {group : GroupId}

structure SameOwners (next bank : Bank) : Prop where
  walletIds : next.walletIds = bank.walletIds
  members : next.members = bank.members
  liveGroup : next.liveGroup = bank.liveGroup
  owners : ∀ id, (next.ledger.wallet id).map owner = (bank.ledger.wallet id).map owner

theorem SameOwners.refl (bank : Bank) : SameOwners bank bank := ⟨rfl, rfl, rfl, fun _ => rfl⟩

theorem SameOwners.trans {last : Bank} (later : SameOwners last next) (same : SameOwners next bank) :
    SameOwners last bank :=
  ⟨later.walletIds.trans same.walletIds, later.members.trans same.members, later.liveGroup.trans same.liveGroup,
    fun id => (later.owners id).trans (same.owners id)⟩

section

variable (same : SameOwners next bank)

include same

/-- A question about the owner gets the same answer. -/
theorem SameOwners.any (asks : OwnerType × ℕ → Bool) (id : WalletId) :
    (next.ledger.wallet id).any (fun row => asks row.owner)
      = (bank.ledger.wallet id).any fun row => asks row.owner := by
  have owners := congrArg (Option.any asks) (same.owners id)
  simpa [any_map, Function.comp_def] using owners

theorem SameOwners.memberWallets (group : GroupId) :
    next.memberWallets group = bank.memberWallets group := by
  rw [Bank.memberWallets, Bank.memberWallets, same.walletIds, same.members]
  exact List.filter_congr fun id _ =>
    same.any (fun owner => owner.1 == .user && owner.2 ∈ bank.members group) id

theorem SameOwners.groupWallets (org : OrgId) :
    next.groupWallets tree org = bank.groupWallets tree org := by
  rw [Bank.groupWallets, Bank.groupWallets, same.walletIds, same.liveGroup]
  exact List.filter_congr fun id _ =>
    same.any (fun owner => owner.1 == .group && bank.liveGroup owner.2 && tree.orgOf owner.2 == some org) id

end

/-- The wallets of a list have been given a grant, and nothing else happened to the wallets. -/
structure Granted (ids : List WalletId) (amount : ℚ) (bank next : Bank) : Prop where
  walletIds : next.walletIds = bank.walletIds
  members : next.members = bank.members
  liveGroup : next.liveGroup = bank.liveGroup
  wallet : ∀ id, next.ledger.wallet id
    = if id ∈ ids then (bank.ledger.wallet id).map (granted amount) else bank.ledger.wallet id

theorem Granted.sameOwners (granted : Granted ids amount bank next) : SameOwners next bank := by
  refine ⟨granted.walletIds, granted.members, granted.liveGroup, fun id => ?_⟩
  rw [granted.wallet]
  split_ifs
  · cases bank.ledger.wallet id <;> rfl
  · rfl

/-- A movement between two wallets, and nothing else happened to the wallets. -/
structure Moved (source target : WalletId) (amount : ℤ) (bank next : Bank) : Prop where
  walletIds : next.walletIds = bank.walletIds
  members : next.members = bank.members
  liveGroup : next.liveGroup = bank.liveGroup
  distinct : source ≠ target
  wallet : ∀ id, next.ledger.wallet id
    = if id = target then (bank.ledger.wallet id).map fun row => { row with balance := row.balance + amount }
      else if id = source then (bank.ledger.wallet id).map fun row => { row with balance := row.balance - amount }
      else bank.ledger.wallet id

theorem Moved.sameOwners {amount : ℤ} (moved : Moved source target amount bank next) : SameOwners next bank := by
  refine ⟨moved.walletIds, moved.members, moved.liveGroup, fun id => ?_⟩
  rw [moved.wallet]
  split_ifs
  · cases bank.ledger.wallet id <;> rfl
  · cases bank.ledger.wallet id <;> rfl
  · rfl

def grants (bank : Bank) (ids : List WalletId) : ℤ :=
  (ids.map fun id => (bank.ledger.wallet id).elim 0 (·.monthlyGrant)).sum

section

variable (granted : Granted ids amount bank next)

include granted

theorem Granted.grantOf (id : WalletId) : (next.ledger.wallet id).elim 0 (·.monthlyGrant)
      = if id ∈ ids ∧ (bank.ledger.wallet id).isSome then round2 amount
        else (bank.ledger.wallet id).elim 0 (·.monthlyGrant) := by
  rw [granted.wallet]
  cases bank.ledger.wallet id with
  | none => simp
  | some row => split_ifs <;> simp_all [Wallet.granted]

theorem Granted.grants_frame (apart : ∀ id ∈ others, id ∉ ids) : next.grants others = bank.grants others := by
  refine congrArg List.sum (List.map_congr_left fun id member => ?_)
  rw [granted.grantOf, if_neg fun given => apart id member given.1]

/-- If no grant of the list was raised, neither was their sum. -/
theorem Granted.grants_le
    (lower : ∀ id ∈ others, id ∈ ids → ∀ row ∈ bank.ledger.wallet id, round2 amount ≤ row.monthlyGrant) :
    next.grants others ≤ bank.grants others := by
  refine List.sum_le_sum fun id member => ?_
  rw [granted.grantOf]
  split_ifs with given
  · obtain ⟨row, found⟩ := isSome_iff_exists.mp given.2
    rw [found]
    exact lower id member given.1 row found
  · exact le_rfl

end

theorem Granted.grants_single (granted : Granted [wallet] amount bank next)
    (member : wallet ∈ others) (nodup : others.Nodup) (exists_ : (bank.ledger.wallet wallet).isSome) :
    next.grants others = bank.grants (others.filter (· ≠ wallet)) + round2 amount := by
  have split : others.Perm (wallet :: others.filter (· ≠ wallet)) := by
    have erased : others.erase wallet = others.filter (· ≠ wallet) := by
      rw [nodup.erase_eq_filter]
      exact List.filter_congr fun id _ => by simp [bne, beq_eq_decide]
    rw [← erased]
    exact List.perm_cons_erase member
  have rest : next.grants (others.filter (· ≠ wallet)) = bank.grants (others.filter (· ≠ wallet)) :=
    granted.grants_frame fun id among => by simpa using (List.mem_filter.mp among).2
  have own := granted.grantOf wallet
  rw [if_pos ⟨List.mem_singleton_self _, exists_⟩] at own
  rw [grants, (split.map _).sum_eq, List.map_cons, List.sum_cons, own, add_comm, ← grants, rest]

theorem Granted.grants_all (granted : Granted ids amount bank next)
    (exist : ∀ id ∈ ids, (bank.ledger.wallet id).isSome) : next.grants ids = ids.length * round2 amount := by
  have given : ids.map (fun id => (next.ledger.wallet id).elim 0 (·.monthlyGrant))
      = ids.map fun _ => round2 amount :=
    List.map_congr_left fun id member => by rw [granted.grantOf, if_pos ⟨member, exist id member⟩]
  rw [grants, given, List.map_const', List.sum_replicate, nsmul_eq_mul]

/-- An amount that fits beside the others still fits when it is stored. -/
theorem fits_of_credits {others : ℤ} (fits : credits others + value ≤ credits ceiling) :
    others + round2 value ≤ ceiling := by
  have room : value ≤ credits (ceiling - others) := by
    simp only [credits] at fits ⊢
    push_cast
    linarith
  have stored := round2_mono room
  rw [round2_credits] at stored
  omega

/-- A wallet that was checked against a pool: the pool covers the wallets that share it. -/
theorem Granted.fits {siblings : List WalletId}
    (granted : Granted [wallet] value bank next) (found : bank.ledger.wallet wallet = some row)
    (member : wallet ∈ siblings) (nodup : siblings.Nodup)
    (fits : credits (bank.grants (siblings.filter (· ≠ wallet))) + value ≤ credits ceiling) :
    next.grants siblings ≤ ceiling := by
  rw [granted.grants_single member nodup (found ▸ rfl)]
  exact fits_of_credits fits

theorem Moved.grants {amount : ℤ} (moved : Moved source target amount bank next)
    (ids : List WalletId) : next.grants ids = bank.grants ids := by
  refine congrArg List.sum (List.map_congr_left fun id _ => ?_)
  rw [moved.wallet]
  cases bank.ledger.wallet id <;> split_ifs <;> rfl

theorem mem_memberWallets :
    id ∈ bank.memberWallets group ↔ id ∈ bank.walletIds ∧ ∃ row, bank.ledger.wallet id = some row ∧
      row.ownerType = .user ∧ row.ownerId ∈ bank.members group := by
  simp [memberWallets, any_eq_true]

theorem mem_groupWallets {org : OrgId} :
    id ∈ bank.groupWallets tree org ↔ id ∈ bank.walletIds ∧ ∃ row, bank.ledger.wallet id = some row ∧
      row.ownerType = .group ∧ bank.liveGroup row.ownerId ∧ tree.orgOf row.ownerId = some org := by
  simp [groupWallets, any_eq_true, and_assoc]

/-- All members of a group were checked at once, for an amount without fractions of a cent. -/
theorem Granted.fits_all (granted : Granted (bank.memberWallets group) value bank next)
    (whole : credits (round2 value) = value) (fits : value * (bank.memberWallets group).length ≤ credits ceiling) :
    next.grants (bank.memberWallets group) ≤ ceiling := by
  have exist (member : WalletId) (given : member ∈ bank.memberWallets group) :
      (bank.ledger.wallet member).isSome := by
    obtain ⟨-, row, found, -⟩ := mem_memberWallets.mp given
    rw [found]
    rfl
  rw [granted.grants_all exist]
  rw [← whole] at fits
  simp only [credits] at fits
  have cents : ((round2 value * (bank.memberWallets group).length : ℤ) : ℚ) ≤ ceiling := by
    push_cast
    linarith
  rw [mul_comm]
  exact_mod_cast cents

/-- The constraints of the wallet table: ids and owners are unique. -/
structure WellFormed (bank : Bank) : Prop where
  nodup : bank.walletIds.Nodup
  listed : ∀ id row, bank.ledger.wallet id = some row → id ∈ bank.walletIds
  unique : ∀ id other row otherRow, bank.ledger.wallet id = some row → bank.ledger.wallet other = some otherRow →
    row.owner = otherRow.owner → id = other

theorem SameOwners.found (same : SameOwners next bank) (found : next.ledger.wallet id = some row) :
    ∃ old, bank.ledger.wallet id = some old ∧ row.owner = old.owner := by
  have owners := same.owners id
  rw [found, map_some] at owners
  obtain ⟨old, foundOld, ownerOld⟩ := map_eq_some_iff.mp owners.symm
  exact ⟨old, foundOld, ownerOld.symm⟩

theorem WellFormed.of_sameOwners (wellFormed : bank.WellFormed) (same : SameOwners next bank) :
    next.WellFormed := by
  refine ⟨same.walletIds ▸ wellFormed.nodup, fun id row found => ?_,
    fun id other row otherRow found foundOther alike => ?_⟩
  · obtain ⟨old, foundOld, -⟩ := same.found found
    rw [same.walletIds]
    exact wellFormed.listed id old foundOld
  · obtain ⟨old, foundOld, owner⟩ := same.found found
    obtain ⟨otherOld, foundOtherOld, otherOwner⟩ := same.found foundOther
    exact wellFormed.unique id other old otherOld foundOld foundOtherOld (by rw [← owner, alike, otherOwner])

theorem WellFormed.walletOf (wellFormed : bank.WellFormed)
    (found : bank.ledger.wallet id = some row) : bank.walletOf row.ownerType row.ownerId = some (id, row) := by
  have matched : ((bank.ledger.wallet id).bind fun other =>
      if other.ownerType = row.ownerType ∧ other.ownerId = row.ownerId then some (id, other) else none)
        = some (id, row) := by
    rw [found, bind_some, if_pos ⟨rfl, rfl⟩]
  cases first : bank.walletOf row.ownerType row.ownerId with
  | none =>
    have none_ := List.findSome?_eq_none_iff.mp first id (wellFormed.listed id row found)
    rw [matched] at none_
    cases none_
  | some result =>
    obtain ⟨other, -, same⟩ := List.exists_of_findSome?_eq_some first
    obtain ⟨otherRow, foundOther, same⟩ := bind_eq_some_iff.mp same
    split_ifs at same with owner
    cases same
    have alike := wellFormed.unique other id otherRow row foundOther found (Prod.ext owner.1 owner.2)
    subst alike
    rw [some.inj (foundOther.symm.trans found)]

end Bank

variable (tree : Hierarchy) (principal : Principal) (bank : Bank) in
/-- Everything that a call can do to the wallets. -/
inductive HierarchyCall.Effect : HierarchyCall → Bank → Prop
  | kept (call : HierarchyCall) : Effect call bank
  | set {wallet : WalletId} {value : ℚ} {stamp : ℤ} {next : Bank} {row : Wallet} {parent : Option WalletId}
      {siblings : List WalletId} (nonneg : 0 ≤ value) (found : bank.ledger.wallet wallet = some row)
      (scope : bank.grantScope tree principal row = some (parent, siblings))
      (fits : ∀ pool ∈ parent.bind bank.ledger.wallet,
        credits (bank.grants (siblings.filter (· ≠ wallet))) + value ≤ credits pool.monthlyGrant)
      (granted : Granted [wallet] value bank next) :
      Effect (.setMonthlyGrant wallet value stamp) next
  | bulk {group : GroupId} {value : ℚ} {stamp : ℤ} {next : Bank} {id : WalletId} {parent : Wallet}
      (nonneg : 0 ≤ value) (administers : principal.administers group)
      (pool : bank.walletOf .group group = some (id, parent))
      (fits : value * (bank.memberWallets group).length ≤ credits parent.monthlyGrant)
      (granted : Granted (bank.memberWallets group) value bank next) :
      Effect (.bulkMonthlyGrant group value stamp) next
  | moved {source target : WalletId} {value : ℚ} {idem : Option String} {stamp : ℤ} {next : Bank}
      {sourceRow targetRow : Wallet} {amount : ℤ} (foundSource : bank.ledger.wallet source = some sourceRow)
      (foundTarget : bank.ledger.wallet target = some targetRow)
      (allowed : canAllocate tree principal sourceRow targetRow)
      (moved : Moved source target amount bank next) :
      Effect (.allocate source target value idem stamp) next

namespace HierarchyCall

variable {principal : Principal}

theorem grantCredit_eq_some {value amount : ℚ} (valid : grantCredit value = some amount) :
    0 ≤ value ∧ amount = value := by
  unfold grantCredit at valid
  split_ifs at valid with range
  cases valid
  exact ⟨range.1, rfl⟩

theorem set_effect (wallet : WalletId) (value : ℚ) (stamp : ℤ) :
    Effect tree principal bank (.setMonthlyGrant wallet value stamp)
      (apply tree principal bank (.setMonthlyGrant wallet value stamp)) := by
  simp only [apply, op, Bank.apply, run, Bank.setMonthlyGrant]
  cases valid : grantCredit value with
  | none => exact .kept _
  | some amount =>
    obtain ⟨nonneg, rfl⟩ := grantCredit_eq_some valid
    cases found : bank.ledger.wallet wallet with
    | none => exact .kept _
    | some row =>
      rw [bind_some]
      cases scope : bank.grantScope tree principal row with
      | none => exact .kept _
      | some pools =>
        obtain ⟨parent, siblings⟩ := pools
        dsimp only
        split_ifs with above
        · exact .kept _
        · refine .set nonneg found scope (fun pool isPool => ?_) ⟨rfl, rfl, rfl, fun id => ?_⟩
          · have within := fun exceeds => above ((any_eq_true ..).mpr ⟨pool, isPool, decide_eq_true exceeds⟩)
            exact not_lt.mp within
          · simp only [Tx.write, Ledger.applyGrant_wallet, List.mem_singleton]
            split_ifs with same
            · rw [same, found, map_some]
            · rfl

theorem bulk_effect (group : GroupId) (value : ℚ) (stamp : ℤ) :
    Effect tree principal bank (.bulkMonthlyGrant group value stamp)
      (apply tree principal bank (.bulkMonthlyGrant group value stamp)) := by
  simp only [apply, op, Bank.apply, run, Bank.bulkMonthlyGrant]
  cases valid : grantCredit value with
  | none => exact .kept _
  | some amount =>
    obtain ⟨nonneg, rfl⟩ := grantCredit_eq_some valid
    cases pool : bank.walletOf .group group with
    | none =>
      split_ifs <;> exact .kept _
    | some found =>
      dsimp only
      split_ifs with denied dead nobody above
      · exact .kept _
      · exact .kept _
      · exact .kept _
      · exact .kept _
      · refine .bulk nonneg (by simpa using denied) pool (not_lt.mp above) ⟨rfl, rfl, rfl, fun id => ?_⟩
        exact Ledger.bulkMonthlyGrantLoop_wallet _ _ id

theorem allocate_effect (source target : WalletId) (value : ℚ) (idem : Option String) (stamp : ℤ) :
    Effect tree principal bank (.allocate source target value idem stamp)
      (apply tree principal bank (.allocate source target value idem stamp)) := by
  simp only [apply, op, Bank.apply, run, Bank.allocate, moveBetween, Tx.gated]
  cases positiveCredit value with
  | none => exact .kept _
  | some amount =>
    cases idem with
    | none => exact .kept _
    | some text =>
      cases foundSource : bank.ledger.wallet source with
      | none =>
        split_ifs <;> exact .kept _
      | some sourceRow =>
        cases foundTarget : bank.ledger.wallet target with
        | none =>
          split_ifs <;> exact .kept _
        | some targetRow =>
          dsimp only [any_some]
          split_ifs with denied same replay outside short
          · exact .kept _
          · exact .kept _
          · exact .kept _
          · exact .kept _
          · exact .kept _
          · cases success : bank.ledger.move source target sourceRow targetRow amount _
              (IdemKey.allocate text) stamp with
            | none => exact .kept _
            | some moved =>
              have allowed : canAllocate tree principal sourceRow targetRow := by simpa using outside
              have wallets : Bank.Moved source target amount bank { bank with ledger := moved } := by
                refine ⟨rfl, rfl, rfl, same, fun id => ?_⟩
                rw [Ledger.move_wallet success]
                split_ifs with isTarget isSource
                · rw [isTarget, foundTarget, map_some]
                · rw [isSource, foundSource, map_some]
                · rfl
              exact .moved foundSource foundTarget allowed wallets

theorem apply_effect (call : HierarchyCall) : Effect tree principal bank call (call.apply tree principal bank) := by
  cases call with
  | setMonthlyGrant wallet value stamp => exact set_effect wallet value stamp
  | bulkMonthlyGrant group value stamp => exact bulk_effect group value stamp
  | allocate source target value idem stamp => exact allocate_effect source target value idem stamp

end HierarchyCall

end GShare.Model
