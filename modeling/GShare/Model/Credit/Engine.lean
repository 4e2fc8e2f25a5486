import GShare.Model.Credit.Billing
import GShare.Model.Credit.Ledger

/-! # The credit engine

Hold, per-minute consume and settle. The engine locks the wallet row, so one call is one atomic change
of the ledger; `consume` is cut where it takes that lock (`consumeAdmitted` before, `charge` after),
because the two halves of concurrent calls can interleave there. `now` is the clock the charge is
computed for, `stamp` the timestamp the database gives the inserted row.
-/

namespace GShare.Model

inductive CreditError where
  | insufficientCredit (available need : ℤ)
  | validation
  | idempotencyKeyRequired
  | forbidden
  | notFound
  | conflict
  | uniqueViolation
deriving DecidableEq, Repr

/-- A quoted hold: an hourly price times an occupancy, rounded, and never negative. -/
structure HoldAmount where
  value : ℚ
  nonneg : 0 ≤ value

namespace Ledger

/-- The rows `_sum_consumed` selects. -/
def isConsumeOf (wallet : WalletId) (sess : SessionId) (since : Option ℤ) (txn : Txn) : Bool :=
  txn.walletId == wallet && txn.type == .consume && txn.ref == some (.session sess)
    && since.all (· ≤ txn.createdAt)

/-- The rows `_sum_held` selects. -/
def isHoldOf (wallet : WalletId) (sess : SessionId) (txn : Txn) : Bool :=
  txn.walletId == wallet && txn.type == .hold && txn.ref == some (.session sess)

variable (ledger : Ledger)

section

variable (wallet : WalletId)

/-- What the session was charged, over its lifetime or since a moment. -/
def sumConsumed (sess : SessionId) (since : Option ℤ) : ℤ :=
  -ledger.total (isConsumeOf wallet sess since)

def sumHeld (sess : SessionId) : ℤ :=
  ledger.total (isHoldOf wallet sess)

/-- The part of the session's hold that has not been spent. -/
def ownOutstandingHold (sess : SessionId) : ℤ :=
  let leftover := ledger.sumHeld wallet sess - ledger.sumConsumed wallet sess none
  if 0 < leftover then leftover else 0

/-- What the session may still draw on: the free balance and its own hold. -/
def availableFor (row : Wallet) (sess : SessionId) : ℤ :=
  row.balance - row.reserved + ledger.ownOutstandingHold wallet sess

/-- A duplicate idempotency key rolls the operation back and counts as already applied. -/
def keyedAtomic (outcome : Option Ledger) : Ledger := outcome.getD ledger

/-- Reserve `amount` for the owner of the key. -/
def hold (ledger : Ledger) (wallet : WalletId) (amount : ℚ) (key : IdemKey) (stamp : ℤ) :
    Except CreditError Ledger :=
  let amount := round2 amount
  if ledger.txnExists key then .ok ledger
  else
    match ledger.wallet wallet with
    | none => .error (.insufficientCredit 0 amount)
    | some row =>
      let available := row.balance - row.reserved
      if available < amount then .error (.insufficientCredit available amount)
      else
        let ref := match key with
          | .hold sess => some (Ref.session sess)
          | _ => none
        .ok (ledger.keyedAtomic (ledger.record wallet
          { row with reserved := row.reserved + amount } .hold amount ref key stamp))

/-- Take `debit` from the wallet for the session, releasing the matching slice of the reservation. -/
def takeDebit (row : Wallet) (sess : SessionId) (debit : ℤ) (key : IdemKey) (stamp : ℤ) : Option Ledger :=
  ledger.record wallet
    { row with balance := row.balance - debit, reserved := max 0 (row.reserved - debit) }
    .consume (-debit) (some (.session sess)) key stamp

/-- What the run still owes at `now`: owed in all less charged since the run started. -/
def due (sess : Session) (now : ℤ) : ℤ :=
  sess.owed now - ledger.sumConsumed wallet sess.id sess.startedAt

end

variable (sess : Session)

/-- The checks of `consume` before it locks the wallet: priced, billed, a new minute, not settled. -/
def consumeAdmitted (bucket : ℤ) : Bool :=
  sess.creditPerHourSnapshot != 0 && sess.billingWalletId.isSome
    && !ledger.txnExists (.consume sess.id bucket) && !ledger.txnExists (.settle sess.id)

/-- `consume` from the wallet lock on: charge what is due, as far as the balance goes. -/
def charge (bucket now stamp : ℤ) : Ledger :=
  match sess.billingWalletId with
  | none => ledger
  | some wallet =>
    match ledger.wallet wallet with
    | none => ledger
    | some row =>
      let delta := ledger.due wallet sess now
      if delta ≤ 0 then ledger
      else
        let debit := min delta row.balance
        if 0 < debit then
          ledger.keyedAtomic
            (ledger.takeDebit wallet row sess.id debit (.consume sess.id bucket) stamp)
        else ledger

/-- The per-minute charge. -/
def consume (bucket now stamp : ℤ) : Ledger :=
  if ledger.consumeAdmitted sess bucket then ledger.charge sess bucket now stamp else ledger

/-- Whether the charge arms the grace window: the wallet fell short, or nothing is left for the next. -/
def exhausts (bucket now stamp : ℤ) : Bool :=
  match sess.billingWalletId with
  | none => false
  | some wallet =>
    match ledger.wallet wallet with
    | none => false
    | some row =>
      let delta := ledger.due wallet sess now
      let charged := ledger.charge sess bucket now stamp
      ledger.consumeAdmitted sess bucket && decide (0 < delta)
        && (decide (min delta row.balance < delta) ||
          (charged.wallet wallet).any fun left => charged.availableFor wallet left sess.id ≤ 0)

/-- First part of `settle`: charge the final partial minute under a key of its own. -/
def finalConsume (wallet : WalletId) (row : Wallet) (sess : Session)
    (final : Bool) (now stamp : ℤ) : Option Ledger :=
  if final && sess.creditPerHourSnapshot != 0 then
    let delta := min (ledger.due wallet sess now) row.balance
    if 0 < delta then
      ledger.takeDebit wallet row sess.id delta (.consumeSettle sess.id) stamp
    else some ledger
  else some ledger

/-- Second part: give the session's unspent hold back, never more than the wallet has reserved. -/
def releaseHold (wallet : WalletId) (row : Wallet) (sess : SessionId) (stamp : ℤ) : Ledger :=
  let leftover := max 0 (ledger.sumHeld wallet sess - ledger.sumConsumed wallet sess none)
  let released := if 0 < row.reserved then min leftover row.reserved else 0
  let row := { row with reserved := row.reserved - released }
  if 0 < released then
    ledger.post wallet row .refund released (some (.session sess))
      (.generated .refund wallet ledger.freshSerial) stamp
  else ledger.setWallet wallet row

/-- Last part: the zero-amount row that anchors the settlement. -/
def settleMark (wallet : WalletId) (row : Wallet) (sess : SessionId)
    (key : IdemKey) (stamp : ℤ) : Option Ledger :=
  ledger.record wallet row .settle 0 (some (.session sess)) key stamp

/-- The states after each part of a settlement under the wallet lock; `none` when the wallet is gone
or a key is taken. -/
def settleParts (wallet : WalletId) (sess : Session) (key : IdemKey)
    (final : Bool) (now stamp : ℤ) : Option (List Ledger) := do
  let row ← ledger.wallet wallet
  let charged ← ledger.finalConsume wallet row sess final now stamp
  let row ← charged.wallet wallet
  let released := charged.releaseHold wallet row sess.id stamp
  let row ← released.wallet wallet
  let settled ← released.settleMark wallet row sess.id key stamp
  return [charged, released, settled]

/-- The states `settle` writes, in order; empty when it has nothing to do or is rolled back. -/
def settleWrites (key : IdemKey) (final : Bool) (now stamp : ℤ) : List Ledger :=
  match sess.billingWalletId with
  | none => []
  | some wallet =>
    if ledger.txnExists key then []
    else (ledger.settleParts wallet sess key final now stamp).getD []

/-- Close the session's bill: final charge, release of the unspent hold, settle row. -/
def settle (key : IdemKey) (final : Bool) (now stamp : ℤ) : Ledger :=
  (ledger.settleWrites sess key final now stamp).getLast?.getD ledger

end Ledger

end GShare.Model
