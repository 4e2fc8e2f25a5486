import GShare.Machine.Calls
import GShare.Model.Credit.Writers

/-! # Decisions on one credit request, statement by statement

Concurrent approvals and rejections of one allocation request or one top-up request. A call reads the
request without a lock. An approval then locks the wallets, writes them with their transaction rows and the
status, and commits; a rejection writes the status and commits. A row that was written stays locked until
its transaction ends, and nobody sees it before.
-/

namespace GShare.Model

open Machine

/-- A credit request of either table, apart from its status. -/
inductive Asked where
  | allocation (asked : AllocationRequest)
  | topup (asked : TopupRequest)

namespace Asked

def amount : Asked → ℤ
  | .allocation asked => asked.amount
  | .topup asked => asked.amount

/-- Whether an approval goes on with the status it read, on the ledger it read. A top-up request that was paid
or approved is answered as a replay. -/
def approvable (asked : Asked) (req : RequestId) (ledger : Ledger) (status : RequestStatus) : Bool :=
  match asked with
  | .allocation _ => status == .pending
  | .topup _ => !ledger.txnExists (.topupRequest req) && status == .pending

/-- Whether a rejection goes on with the status it read. A top-up request may be rejected again. -/
def rejectable (asked : Asked) (status : RequestStatus) : Bool :=
  match asked with
  | .allocation _ => status == .pending
  | .topup _ => status != .approved

end Asked

/-- What an approval writes to the ledger once it has the locks: credit issued for the system tier and for a
top-up, or a movement from the pool. It fails on a missing wallet, a short pool and a key that is taken. -/
def Bank.payment (bank : Bank) (req : RequestId) (asked : Asked) (stamp : ℤ) : Option Ledger :=
  match asked with
  | .topup asked =>
      (bank.ledger.wallet asked.walletId).bind fun row =>
        bank.ledger.credit asked.walletId row .topup asked.amount (some (.request req))
          (.topupRequest req) stamp
  | .allocation asked =>
      match bank.poolOf asked, bank.ledger.wallet asked.targetWalletId with
      | none, some row =>
        bank.ledger.credit asked.targetWalletId row .topup asked.amount (some (.request req))
          (.allocRequest req) stamp
      | some (some (source, sourceRow)), some targetRow =>
        if sourceRow.balance - sourceRow.reserved < asked.amount then none
        else if source = asked.targetWalletId then
          bank.ledger.legs source source sourceRow sourceRow asked.amount
            (fun _ => some (.request req)) (.allocRequestLeg req) stamp
        else
          bank.ledger.move source asked.targetWalletId sourceRow targetRow asked.amount
            (fun _ => some (.request req)) (.allocRequestLeg req) stamp
      | _, _ => none

/-- The committed ledger and status of the request, who holds the locks of the wallets and of the request's
row, and how many approvals have moved credit. -/
structure Decision where
  ledger : Ledger
  status : RequestStatus
  walletLock : Option ℕ
  rowLock : Option ℕ
  moves : ℕ

/-- A pending request on a ledger, with no call under way. -/
def Decision.pending (ledger : Ledger) : Decision := ⟨ledger, .pending, none, none, 0⟩

inductive DecisionCall where
  | approve
  /-- The request was pending; the wallets are to be locked. -/
  | locking
  /-- The wallets are locked. -/
  | paying
  /-- The wallets, the transaction rows and the status are written. -/
  | paid (ledger : Ledger)
  | reject
  /-- The request was open; its status is to be written. -/
  | marking
  /-- The status is written. -/
  | marked
  | returned

/-- The clock that stamps the rows, and whether the transaction lasts to its next point. -/
structure DecisionInput where
  stamp : ℤ
  goesOn : Bool

namespace DecisionCall

/-- The next statement of a call. A call that waits for a lock has none. -/
def next (bank : Bank) (req : RequestId) (asked : Asked) (place : ℕ) (store : Decision)
    (call : DecisionCall) (input : DecisionInput) : Option (Decision × DecisionCall) :=
  match call with
  | .approve =>
      some (store, if asked.approvable req store.ledger store.status then .locking else .returned)
  | .locking =>
      if store.walletLock = none then some ({ store with walletLock := some place }, .paying) else none
  | .paying =>
      if !input.goesOn then some ({ store with walletLock := none }, .returned) else
      match ({ bank with ledger := store.ledger } : Bank).payment req asked input.stamp with
      | none => some ({ store with walletLock := none }, .returned)
      | some ledger =>
          if store.rowLock = none then some ({ store with rowLock := some place }, .paid ledger) else none
  | .paid ledger =>
      if input.goesOn then some (⟨ledger, .approved, none, none, store.moves + 1⟩, .returned)
      else some ({ store with walletLock := none, rowLock := none }, .returned)
  | .reject => some (store, if asked.rejectable store.status then .marking else .returned)
  | .marking => if store.rowLock = none then some ({ store with rowLock := some place }, .marked) else none
  | .marked =>
      if input.goesOn then some ({ store with status := .rejected, rowLock := none }, .returned)
      else some ({ store with rowLock := none }, .returned)
  | .returned => none

end DecisionCall

def decisionProgram (bank : Bank) (req : RequestId) (asked : Asked) :
    Program Decision DecisionCall DecisionInput Empty where
  entry call := call = .approve ∨ call = .reject
  next := DecisionCall.next bank req asked
  outside _ change := nomatch change

instance (bank : Bank) (req : RequestId) (asked : Asked) :
    DecidablePred (decisionProgram bank req asked).entry
  | .approve => isTrue (.inl rfl)
  | .reject => isTrue (.inr rfl)
  | .locking | .paying | .paid _ | .marking | .marked | .returned =>
      isFalse fun entry => entry.elim DecisionCall.noConfusion DecisionCall.noConfusion

end GShare.Model
