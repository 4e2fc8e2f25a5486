import GShare.Machine.Locks
import GShare.Model.Credit.Writers
import Mathlib.Data.List.Sort
import Mathlib.Order.Nat

/-! # The order in which transactions lock wallets

For every transaction that locks wallet rows, the statements that do so. What a call looks up before its
first lock is read once, when it starts; what a statement selects is decided when it is issued. A
statement that selects several rows for update locks them in the order of their ids.
-/

namespace GShare.Model

open Bank

/-- The calls that lock wallets, with the arguments that decide which. -/
inductive WalletCall where
  | transfer (source target : WalletId) (idem : String)
  | allocate (source target : WalletId) (idem : String)
  | approveAllocationRequest (req : RequestId)
  | bulkAllocate (group : GroupId)
  | bulkMonthlyGrant (group : GroupId)
  /-- One batch of the sweep, after the last id of the batch before. -/
  | sweep (lastId : Option WalletId)
  | addMembership (group : GroupId) (user : UserId) (grant : Option ℚ)
  | hold (wallet : WalletId) (sess : SessionId)
  | consume (wallet : WalletId) (sess : SessionId) (bucket : ℤ)
  | settle (wallet : WalletId) (sess : SessionId)
deriving DecidableEq

/-- How many wallets one batch of the sweep takes at most. -/
def sweepBatch : ℕ := 500

namespace Bank

/-- `_lock_wallet`: the row of one wallet, if there is one. -/
def lockWallet (wallet : WalletId) (bank : Bank) : List WalletId :=
  if (bank.ledger.wallet wallet).isSome then [wallet] else []

def lockWalletOf (ownerType : OwnerType) (ownerId : ℕ) (bank : Bank) : List WalletId :=
  ((bank.walletOf ownerType ownerId).map Prod.fst).toList

/-- `_member_wallets`: all of them in one statement, in the order of their ids. -/
def lockMemberWallets (group : GroupId) (bank : Bank) : List WalletId :=
  (bank.memberWallets group).insertionSort (· ≤ ·)

def lockBatch (lastId : Option WalletId) (bank : Bank) : List WalletId :=
  ((bank.walletIds.filter fun id =>
    lastId.all (· < id) && (bank.ledger.wallet id).any (0 < ·.monthlyGrant)).insertionSort (· ≤ ·)).take
      sweepBatch

/-- Two locks in ascending order of the ids. -/
def lockBoth (source target : WalletId) : List (Bank → List WalletId) :=
  [lockWallet (min source target), lockWallet (max source target)]

/-- Whether the welcome credit of a group is still to be paid to a user. -/
def welcomeDue (bank : Bank) (group : GroupId) (user : UserId) : Bool :=
  0 < bank.defaultMemberCredit group && !bank.ledger.txnExists (.welcome group user)

def lockRequest (bank : Bank) (asked : AllocationRequest) : List (Bank → List WalletId) :=
  match bank.poolOf asked with
  | none => [lockWallet asked.targetWalletId]
  | some none => []
  | some (some (source, _)) => lockBoth source asked.targetWalletId

end Bank

/-- The statements of a call, from what it reads before the first lock. -/
def WalletCall.plan (call : WalletCall) (bank : Bank) : List (Bank → List WalletId) :=
  match call with
  | .transfer source target idem =>
      if bank.ledger.txnExists (.transfer idem .outgoing) then [] else lockBoth source target
  | .allocate source target idem =>
      if bank.ledger.txnExists (.allocate idem .outgoing) then [] else lockBoth source target
  | .approveAllocationRequest req =>
      match bank.allocationRequests req with
      | none => []
      | some asked => if asked.status = .pending then bank.lockRequest asked else []
  | .bulkAllocate group => [lockWalletOf .group group, lockMemberWallets group]
  | .bulkMonthlyGrant group => [lockMemberWallets group]
  | .sweep lastId => [lockBatch lastId]
  | .addMembership group user grant =>
      (if bank.welcomeDue group user then [lockWalletOf .user user] else []) ++
        if grant.any (0 < ·) then [lockWalletOf .group group, lockWalletOf .user user] else []
  | .hold wallet sess => if bank.ledger.txnExists (.hold sess) then [] else [lockWallet wallet]
  | .consume wallet sess bucket =>
      if bank.ledger.txnExists (.consume sess bucket) || bank.ledger.txnExists (.settle sess) then []
      else [lockWallet wallet]
  | .settle wallet sess =>
      if bank.ledger.txnExists (.settle sess) then [] else [lockWallet wallet]

end GShare.Model
