import GShare.Machine.Calls
import GShare.Model.Credit.Locks

/-! # The monthly refill, statement by statement

Any number of sweeps for one month beside other transactions that write wallets. A sweep selects its next
batch of wallets for update, which locks them one after the other, refills them and commits; then it goes on
after the last id. A row is found by what the statement saw when it was issued and checked again once it is
locked. The done marker lets one sweep in, goes when the sweep fails and may be lost at any time.
-/

namespace GShare.Model

open Machine

/-- A wallet's turn in a batch that committed: the row before and after, and whether the wallet's key of the
month was there before and after. -/
structure Visit where
  sweep : ℕ
  wallet : WalletId
  before : Wallet
  after : Wallet
  had : Bool
  has : Bool
deriving DecidableEq, Repr

/-- The ledger, the ids of the wallets, who has locked which, whether the month is marked as done, and what
the batches that committed have visited. -/
structure Sweeping where
  ledger : Ledger
  ids : List WalletId
  locks : List (WalletId × ℕ)
  marker : Bool
  visits : List Visit

namespace Sweeping

def start (ledger : Ledger) (ids : List WalletId) : Sweeping := ⟨ledger, ids, [], false, []⟩

section

variable (store : Sweeping)

def hasGrant (wallet : WalletId) : Bool :=
  (store.ledger.wallet wallet).any (0 < ·.monthlyGrant)

def locked (wallet : WalletId) : Bool := store.locks.any (·.1 == wallet)

/-- The end of a transaction of the sweep at a place. -/
def unlock (place : ℕ) : Sweeping :=
  { store with locks := store.locks.filter (·.2 != place) }

/-- An exception ends the sweep: the transaction is rolled back and the marker deleted. -/
def fail (place : ℕ) : Sweeping := { store.unlock place with marker := false }

/-- What the statement for the next batch sees when it is issued, in the order of the ids. -/
def selected (lastId : Option WalletId) : List WalletId :=
  (store.ids.filter fun id => lastId.all (· < id) && store.hasGrant id).insertionSort (· ≤ ·)

end

def turns (batch : List WalletId) (month place : ℕ) (ledger next : Ledger) : List Visit :=
  batch.filterMap fun wallet =>
    (ledger.wallet wallet).bind fun before =>
      (next.wallet wallet).map fun after =>
        ⟨place, wallet, before, after, ledger.txnExists (.refill wallet month),
          next.txnExists (.refill wallet month)⟩

end Sweeping

inductive SweepCall where
  /-- The hourly tick. -/
  | tick
  /-- The marker is claimed and the batches up to the last id have committed. -/
  | selecting (lastId : Option WalletId)
  /-- The statement for a batch: the rows that it saw and has not reached, and those that it has locked. -/
  | locking (rest batch : List WalletId)
  | finished
  | skipped
  | failed
deriving DecidableEq, Repr

/-- The clock that stamps the rows, whether the scheduled hour has come, and whether the sweep lasts to its
next point. -/
structure SweepInput where
  stamp : ℤ
  due : Bool
  goesOn : Bool

inductive Disturbance where
  /-- Another transaction commits: wallet rows it holds the locks of, or new ones, and transaction rows. -/
  | commit (wallets : List (WalletId × Wallet)) (rows : List Txn)
  | loseMarker

/-- What an operation of the ledger commits: the wallets that it changes and the rows that it inserts. -/
def CreditOp.commit (bank : Bank) (op : CreditOp) : Disturbance :=
  .commit
    (bank.walletIds.filterMap fun id =>
      ((bank.apply op).ledger.wallet id).bind fun row =>
        if bank.ledger.wallet id = some row then none else some (id, row))
    ((bank.apply op).ledger.txns.take ((bank.apply op).ledger.txns.length - bank.ledger.txns.length))

namespace Sweeping

/-- The rows of a batch are locked: refill them and commit. No rows end the sweep. -/
def commitBatch (store : Sweeping) (month place : ℕ) (batch : List WalletId) (stamp : ℤ) : Sweeping × SweepCall :=
  if batch = [] then (store.unlock place, .finished) else
  match store.ledger.refillBatch batch month stamp with
  | none => (store.fail place, .failed)
  | some ledger =>
      ({ store.unlock place with
          ledger := ledger
          visits := store.visits ++ turns batch month place store.ledger ledger },
        .selecting batch.getLast?)

/-- The wallet table with the rows that a transaction wrote. -/
def overwrite (table : WalletId → Option Wallet) (wallets : List (WalletId × Wallet)) : WalletId → Option Wallet :=
  wallets.foldr (fun wallet table => Function.update table wallet.1 (some wallet.2)) table

/-- A commit of another transaction. The locks of the sweeps keep it from their rows and the unique index from
a key that is taken. -/
def disturb (store : Sweeping) : Disturbance → Option Sweeping
  | .commit wallets rows =>
      if (∀ wallet ∈ wallets, store.locked wallet.1 = false) ∧ (rows.map (·.key)).Nodup ∧
          ∀ row ∈ rows, store.ledger.txnExists row.key = false then
        some { store with
          ledger :=
            { wallet := overwrite store.ledger.wallet wallets
              txns := rows ++ store.ledger.txns }
          ids := wallets.map Prod.fst ∪ store.ids }
      else none
  | .loseMarker => some { store with marker := false }

end Sweeping

namespace SweepCall

/-- The next point of a sweep. One that waits for a lock has none. -/
def next (month place : ℕ) (store : Sweeping) (call : SweepCall) (input : SweepInput) :
    Option (Sweeping × SweepCall) :=
  match call with
  | .tick =>
      if input.due && !store.marker then some ({ store with marker := true }, .selecting none)
      else some (store, .skipped)
  | .selecting lastId =>
      if input.goesOn then some (store, .locking (store.selected lastId) [])
      else some (store.fail place, .failed)
  | .locking rest batch =>
      if !input.goesOn then some (store.fail place, .failed) else
      match rest with
      | [] => some (store.commitBatch month place batch input.stamp)
      | id :: later =>
          if sweepBatch ≤ batch.length then some (store.commitBatch month place batch input.stamp)
          else if store.locked id then none
          else if store.hasGrant id then
            some ({ store with locks := (id, place) :: store.locks }, .locking later (batch ++ [id]))
          else some (store, .locking later batch)
  | .finished | .skipped | .failed => none

end SweepCall

def sweepProgram (month : ℕ) : Program Sweeping SweepCall SweepInput Disturbance where
  entry call := call = .tick
  next := SweepCall.next month
  outside := Sweeping.disturb

instance (month : ℕ) : DecidablePred (sweepProgram month).entry :=
  fun call => inferInstanceAs (Decidable (call = .tick))

end GShare.Model
