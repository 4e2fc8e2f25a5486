import Mathlib.Algebra.BigOperators.Group.List.Basic
import GShare.Machine.Loaded
import GShare.Model.Basic

/-! # Wallets and the transaction ledger

Wallet rows and the credit transactions written beside them. A transaction row is only ever inserted,
in one statement with the new wallet row, and the database refuses a second row with the same
idempotency key. Rows are kept newest first. An operation works on the wallet objects that its caller
has loaded, if any: the lock does not load them again (`through`).
-/

namespace GShare.Model

open Machine

inductive OwnerType where
  | user | group | org | system
deriving DecidableEq, Repr

/-- One wallet row; the amounts are hundredths of a credit. -/
structure Wallet where
  ownerType : OwnerType
  ownerId : ℕ
  balance : ℤ
  reserved : ℤ
  monthlyGrant : ℤ
deriving DecidableEq, Repr

/-- Flush a wallet object over the row as it is now. -/
def Wallet.flush (loaded changed current : Wallet) : Wallet where
  ownerType := flushedColumn loaded changed (·.ownerType) current
  ownerId := flushedColumn loaded changed (·.ownerId) current
  balance := flushedColumn loaded changed (·.balance) current
  reserved := flushedColumn loaded changed (·.reserved) current
  monthlyGrant := flushedColumn loaded changed (·.monthlyGrant) current

inductive TxnType where
  | topup | hold | consume | refund | settle | adjust
deriving DecidableEq, Repr

/-- What a transaction row points at. -/
inductive Ref where
  | session (id : SessionId)
  | wallet (id : WalletId)
  | request (id : RequestId)
  | group (id : GroupId)
  | text (value : String)
deriving DecidableEq, Repr

/-- The two rows of one movement between wallets. -/
inductive Leg where
  | outgoing | incoming
deriving DecidableEq, Repr

/-- The idempotency keys the writers build. A client may send any key of its own choice. -/
inductive IdemKey where
  | hold (sess : SessionId)
  | consume (sess : SessionId) (bucket : ℤ)
  | consumeSettle (sess : SessionId)
  | settle (sess : SessionId)
  | client (text : String)
  | transfer (idem : String) (leg : Leg)
  | allocate (idem : String) (leg : Leg)
  | bulkAlloc (idem : String) (target : WalletId) (leg : Leg)
  | allocRequest (req : RequestId)
  | allocRequestLeg (req : RequestId) (leg : Leg)
  | topupRequest (req : RequestId)
  | refill (wallet : WalletId) (month : ℕ)
  | grant (wallet : WalletId) (serial : ℕ)
  | welcome (group : GroupId) (user : UserId)
  | memberGrant (membership : ℕ) (leg : Leg)
  | generated (type : TxnType) (wallet : WalletId) (serial : ℕ)
deriving DecidableEq, Repr

/-- The ULID inside a key, for the keys that carry one. -/
def IdemKey.serial : IdemKey → ℕ
  | .grant _ serial => serial
  | .generated _ _ serial => serial
  | _ => 0

structure Txn where
  walletId : WalletId
  type : TxnType
  amount : ℤ
  balanceAfter : ℤ
  ref : Option Ref
  key : IdemKey
  createdAt : ℤ
deriving DecidableEq, Repr

structure Ledger where
  wallet : WalletId → Option Wallet
  txns : List Txn

namespace Ledger

section

variable (ledger : Ledger)

def txnExists (key : IdemKey) : Bool := ledger.txns.any (·.key == key)

def total (selected : Txn → Bool) : ℤ :=
  ((ledger.txns.filter selected).map (·.amount)).sum

def balance (ledger : Ledger) (id : WalletId) : ℤ := (ledger.wallet id).elim 0 (·.balance)

section

variable (loaded : List (WalletId × Wallet))

/-- The ledger that a caller sees who has loaded some wallets; the transaction rows are queried anew. -/
def seen : Ledger :=
  { ledger with wallet := fun id => (ledger.wallet id).map fun row => (loaded.lookup id).getD row }

/-- Flush what was done to the loaded wallets. -/
def flush (worked : Ledger) : Ledger :=
  { worked with wallet := fun id => (worked.wallet id).map fun changed =>
      match loaded.lookup id, ledger.wallet id with
      | some object, some current => object.flush changed current
      | _, _ => changed }

/-- An operation of a caller who has loaded some wallets. -/
def through (op : Ledger → Ledger) : Ledger := ledger.flush loaded (op (ledger.seen loaded))

variable {ledger loaded} (fresh : Fresh ledger.wallet loaded)

include fresh

theorem seen_of_fresh : ledger.seen loaded = ledger := by
  have same (id : WalletId) : ((ledger.wallet id).map fun row => (loaded.lookup id).getD row) =
      ledger.wallet id := by
    cases found : ledger.wallet id with
    | none => rfl
    | some row => simp [fresh.lookup_getD found]
  simp only [seen, same]

theorem flush_of_fresh (worked : Ledger) : ledger.flush loaded worked = worked := by
  have same (id : WalletId) (changed : Wallet) : (match loaded.lookup id, ledger.wallet id with
      | some object, some current => object.flush changed current
      | _, _ => changed) = changed := by
    cases isLoaded : loaded.lookup id with
    | none => rfl
    | some object => simp [fresh.find_eq isLoaded, Wallet.flush]
  simp only [flush, same, Option.map_id']

/-- On fresh objects an operation does what it does on the rows. -/
theorem through_of_fresh (op : Ledger → Ledger) : ledger.through loaded op = op ledger := by
  rw [through, seen_of_fresh fresh, flush_of_fresh fresh]

end

/-- A ULID no row carries yet. -/
def freshSerial : ℕ := (ledger.txns.map (·.key.serial)).foldr max 0 + 1

variable (id : WalletId) (row : Wallet)

def setWallet : Ledger :=
  { ledger with wallet := Function.update ledger.wallet id (some row) }

/-- Store the wallet row and insert the transaction that explains it. -/
def post (type : TxnType) (amount : ℤ) (ref : Option Ref) (key : IdemKey) (stamp : ℤ) : Ledger :=
  { wallet := Function.update ledger.wallet id (some row)
    txns := ⟨id, type, amount, row.balance, ref, key, stamp⟩ :: ledger.txns }

/-- `post` under the unique index on the idempotency key; `none` is the violation. -/
def record (type : TxnType) (amount : ℤ) (ref : Option Ref) (key : IdemKey) (stamp : ℤ) : Option Ledger :=
  if ledger.txnExists key then none else some (ledger.post id row type amount ref key stamp)

end

section Lemmas

variable (ledger : Ledger) (id : WalletId) (row : Wallet) (type : TxnType) (amount : ℤ)
variable (ref : Option Ref) (key : IdemKey) (stamp : ℤ)

theorem txnExists_iff (key : IdemKey) : ledger.txnExists key ↔ ∃ txn ∈ ledger.txns, txn.key = key := by
  simp [txnExists]

@[simp] theorem post_wallet_self : (ledger.post id row type amount ref key stamp).wallet id = some row := by
  simp [post]

theorem post_wallet_of_ne {other : WalletId} (ne : other ≠ id) :
    (ledger.post id row type amount ref key stamp).wallet other = ledger.wallet other := by
  simp [post, ne]

@[simp] theorem post_txnExists (other : IdemKey) :
    (ledger.post id row type amount ref key stamp).txnExists other = (key == other || ledger.txnExists other) := by
  simp [post, txnExists]

@[simp] theorem total_post (selected : Txn → Bool) :
    (ledger.post id row type amount ref key stamp).total selected
      = (if selected ⟨id, type, amount, row.balance, ref, key, stamp⟩ then amount else 0)
        + ledger.total selected := by
  simp only [post, total, List.filter_cons]
  split_ifs <;> simp

theorem record_eq_some {next : Ledger} :
    ledger.record id row type amount ref key stamp = some next ↔
      ledger.txnExists key = false ∧ next = ledger.post id row type amount ref key stamp := by
  unfold record
  split_ifs with exists_
  · simp [exists_]
  · simp [exists_, eq_comm]

end Lemmas

end Ledger

end GShare.Model
