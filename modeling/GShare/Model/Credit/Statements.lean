import GShare.Machine.Calls
import GShare.Model.Credit.Engine

/-! # The credit engine, statement by statement

Concurrent `consume` and `settle` calls on one session. Each call first looks for its keys in what is
committed, then waits for the lock on the wallet row, then writes, then commits; the lock is released
with the commit, and nobody sees the writes before it. Whoever else writes to the wallet does so while
the lock is free, and works on other wallets in between without any effect here.
-/

namespace GShare.Model

open Machine

inductive CreditRequest where
  | consume (sess : Session) (bucket now stamp : ℤ)
  | settle (sess : Session) (final : Bool) (now stamp : ℤ)

namespace CreditRequest

def session : CreditRequest → Session
  | .consume sess .. | .settle sess .. => sess

/-- What the call writes once it has the lock. The unique index on the keys is all that `settle` has
left to notice that somebody settled the session while it waited. -/
def work (ledger : Ledger) : CreditRequest → Ledger
  | .consume sess bucket now stamp => ledger.charge sess bucket now stamp
  | .settle sess final now stamp =>
    match sess.billingWalletId with
    | none => ledger
    | some wallet =>
      ledger.keyedAtomic ((ledger.settleParts wallet sess (.settle sess.id) final now
        stamp).bind List.getLast?)

end CreditRequest

inductive CreditPoint where
  /-- Nothing read yet. -/
  | called
  /-- `consume` found no row for this minute. -/
  | newMinute
  /-- No settle row found; the next statement locks the wallet. -/
  | admitted
  /-- The wallet row is locked. -/
  | locked
  /-- The writes are flushed and not committed. -/
  | flushed (written : Ledger)
  | returned

namespace CreditPoint

def isCalled : CreditPoint → Bool
  | .called => true
  | _ => false

/-- Past the look for a settle row and not finished. -/
def pastCheck : CreditPoint → Bool
  | .admitted | .locked | .flushed _ => true
  | .called | .newMinute | .returned => false

def holdsLock : CreditPoint → Bool
  | .locked | .flushed _ => true
  | .called | .newMinute | .admitted | .returned => false

end CreditPoint

structure CreditCall where
  request : CreditRequest
  point : CreditPoint

/-- The committed ledger and the call that holds the lock on the wallet row. -/
structure CreditStore where
  ledger : Ledger
  lock : Option ℕ

namespace CreditCall

/-- The next statement of a call; a call that waits for a taken lock has none. -/
def next (caller : ℕ) (store : CreditStore) (call : CreditCall) : Option (CreditStore × CreditCall) :=
  let move (point : CreditPoint) := some (store, { call with point := point })
  let sess := call.request.session
  match call.point, call.request with
  | .called, .consume _ bucket _ _ =>
    if sess.creditPerHourSnapshot = 0 ∨ sess.billingWalletId = none then move .returned
    else if store.ledger.txnExists (.consume sess.id bucket) then move .returned
    else move .newMinute
  | .called, .settle .. =>
    if sess.billingWalletId = none then move .returned
    else if store.ledger.txnExists (.settle sess.id) then move .returned
    else move .admitted
  | .newMinute, _ =>
    if store.ledger.txnExists (.settle sess.id) then move .returned else move .admitted
  | .admitted, _ =>
    match sess.billingWalletId.bind store.ledger.wallet, store.lock with
    | none, _ => move .returned
    | some _, some _ => none
    | some _, none => some ({ store with lock := some caller }, { call with point := .locked })
  | .locked, req => move (.flushed (req.work store.ledger))
  | .flushed written, _ => some (⟨written, none⟩, { call with point := .returned })
  | .returned, _ => none

end CreditCall

/-- A row somebody else writes with its wallet row. -/
structure ForeignWrite where
  wallet : WalletId
  row : Wallet
  type : TxnType
  amount : ℤ
  ref : Option Ref
  key : IdemKey
  stamp : ℤ

def ForeignWrite.Foreign (write : ForeignWrite) (id : SessionId) : Prop :=
  ¬(write.type = .consume ∧ write.ref = some (.session id)) ∧ write.key ≠ .settle id

instance (write : ForeignWrite) (id : SessionId) : Decidable (write.Foreign id) :=
  inferInstanceAs (Decidable (_ ∧ _))

def creditProgram (id : SessionId) (billing : Option WalletId) :
    Program CreditStore CreditCall Unit ForeignWrite where
  entry call := call.point.isCalled ∧ call.request.session.id = id ∧
    call.request.session.billingWalletId = billing
  next caller store call _ := call.next caller store
  outside store write :=
    if store.lock = none ∧ write.Foreign id then
      let ledger := store.ledger.post write.wallet write.row write.type write.amount write.ref write.key
        write.stamp
      some { store with ledger := ledger }
    else none

instance (id : SessionId) (billing : Option WalletId) : DecidablePred (creditProgram id billing).entry :=
  fun _ => inferInstanceAs (Decidable (_ ∧ _))

end GShare.Model
