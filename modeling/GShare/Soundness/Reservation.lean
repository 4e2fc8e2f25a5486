import GShare.Accounting.Reservation
import GShare.Machine.Run
import GShare.Proofs.Credit.Engine
import GShare.Soundness.Samples
import Mathlib.Data.Finset.Dedup

/-! # The reserved amount of a wallet and the holds behind it

A wallet keeps one reserved amount for all sessions billed to it, and each session's own share is
reconstructed from its hold and consume rows. The engine's operations on one wallet refine the
operations of a shared reservation: a hold is a hold, a charge is a spend, a settlement is at most one
spend and a close. As long as every operation finds the wallet object of its caller fresh, reserved credit
never exceeds the open holds, and it covers them as long as no session is charged past its own hold while
another one still has credit held. An operation on a stale object undoes the reservations made or released
since that was loaded.
-/

namespace GShare.Model.Ledger

open Accounting List

variable (ledger : Ledger) (wallet : WalletId)

def reserved : ℤ := (ledger.wallet wallet).elim 0 (·.reserved)

/-- A session's hold less its charges, and nothing once it is settled. -/
def openHold (sess : SessionId) : ℤ :=
  if ledger.txnExists (.settle sess) then 0 else ledger.ownOutstandingHold wallet sess

/-- The sessions the rows point at. -/
def holders : Finset SessionId :=
  (ledger.txns.filterMap fun txn =>
    match txn.ref with
    | some (.session sess) => some sess
    | _ => none).toFinset

/-- The sum over the unsettled sessions of what is left of their holds. -/
def openHolds : ℤ :=
  ∑ sess ∈ ledger.holders, ledger.openHold wallet sess

/-- The wallet seen as a reservation shared by its sessions. -/
def book : Book SessionId :=
  ⟨ledger.reserved wallet, ledger.openHold wallet⟩

variable {ledger wallet} {row : Wallet} {id : SessionId}

theorem mem_holders_iff : id ∈ ledger.holders ↔ ∃ txn ∈ ledger.txns, txn.ref = some (.session id) := by
  simp only [holders, mem_toFinset, mem_filterMap]
  constructor
  · rintro ⟨txn, member, found⟩
    refine ⟨txn, member, ?_⟩
    split at found
    · cases found
      assumption
    · cases found
  · rintro ⟨txn, member, found⟩
    exact ⟨txn, member, by simp [found]⟩

/-- A session no row points at was neither held for nor charged. -/
theorem sums_eq_zero (absent : ∀ txn ∈ ledger.txns, txn.ref ≠ some (.session id))
    (since : Option ℤ) : ledger.sumHeld wallet id = 0 ∧ ledger.sumConsumed wallet id since = 0 := by
  have noHold : ledger.txns.filter (isHoldOf wallet id) = [] := by
    rw [filter_eq_nil_iff]
    intro txn member selected
    simp only [isHoldOf, Bool.and_eq_true, beq_iff_eq] at selected
    exact absent txn member selected.2
  have noCharge : ledger.txns.filter (isConsumeOf wallet id since) = [] := by
    rw [filter_eq_nil_iff]
    intro txn member selected
    simp only [isConsumeOf, Bool.and_eq_true, beq_iff_eq] at selected
    exact absent txn member selected.1.2
  simp [sumHeld, sumConsumed, total, noHold, noCharge]

theorem openHold_nonneg (ledger : Ledger) (wallet : WalletId) (id : SessionId) : 0 ≤ ledger.openHold wallet id := by
  rw [openHold, ownOutstandingHold_eq_max]
  split_ifs <;> omega

theorem openHold_eq_zero_of_absent (absent : ∀ txn ∈ ledger.txns, txn.ref ≠ some (.session id)) :
    ledger.openHold wallet id = 0 := by
  obtain ⟨held, consumed⟩ := @sums_eq_zero ledger wallet id absent none
  rw [openHold, ownOutstandingHold_eq_max, held, consumed]
  split_ifs <;> rfl

/-- The open holds may be summed over any set that contains the sessions with rows. -/
theorem openHolds_eq_total {sessions : Finset SessionId} (contains : ledger.holders ⊆ sessions) :
    ledger.openHolds wallet = (ledger.book wallet).total sessions := by
  refine Finset.sum_subset contains fun id _ outside => openHold_eq_zero_of_absent ?_
  intro txn member points
  exact outside (mem_holders_iff.mpr ⟨txn, member, points⟩)

section Refinement

variable {amount debit : ℤ} {key : IdemKey} (stamp : ℤ)

theorem holders_post (type : TxnType) :
    (ledger.post wallet row type amount (some (.session id)) key stamp).holders = insert id ledger.holders := by
  simp [holders, post]

theorem holders_closed_subset : (ledger.closed wallet row id key stamp).holders ⊆ insert id ledger.holders := by
  rw [closed, holders_post]
  rcases releaseHold_cases ledger wallet row id stamp with ⟨released, -, eq⟩ | eq
  · rw [eq, holders_post, Finset.insert_idem]
  · rw [eq]
    rfl

section

variable (found : ledger.wallet wallet = some row)

include found

/-- A session's first hold is a hold of the shared reservation. -/
theorem book_held (nonneg : 0 ≤ amount) (absent : ∀ txn ∈ ledger.txns, txn.ref ≠ some (.session id))
    (unsettled : ledger.txnExists (.settle id) = false) :
    (ledger.held wallet row id amount stamp).book wallet = (ledger.book wallet).hold id amount := by
  obtain ⟨noHold, noCharge⟩ := @sums_eq_zero ledger wallet id absent none
  simp only [book, Book.hold, Book.mk.injEq]
  constructor
  · simp [reserved, found, held]
  · funext other
    simp only [openHold, ownOutstandingHold_eq_max, txnExists_held_settle, sumHeld_held,
      sumConsumed_held]
    by_cases same : other = id
    · subst same
      simp [unsettled, noHold, noCharge, nonneg]
    · simp [same, Ne.symm same, openHold, ownOutstandingHold_eq_max]

/-- A charge is a spend of the shared reservation. -/
theorem book_debited (nonneg : 0 ≤ debit)
    (unsettled : ledger.txnExists (.settle id) = false) (otherKey : ∀ other, key ≠ .settle other) :
    (ledger.debited wallet row id debit key stamp).book wallet = (ledger.book wallet).spend id debit := by
  simp only [book, Book.spend, Book.mk.injEq]
  constructor
  · simp [reserved, found, debited]
  · funext other
    simp only [openHold, ownOutstandingHold_eq_max, txnExists_debited, sumHeld_debited,
      sumConsumed_debited]
    by_cases same : other = id
    · subst same
      simp only [beq_eq_false_iff_ne.mpr (otherKey other), unsettled, Bool.false_or,
        Function.update_self]
      simp only [Option.all_none, and_self, if_true, Bool.false_eq_true, if_false]
      omega
    · simp [same, Ne.symm same, otherKey, openHold, ownOutstandingHold_eq_max]

/-- A settlement's release and settle row close the session's share. -/
theorem book_closed (nonneg : 0 ≤ row.reserved) (unsettled : ledger.txnExists (.settle id) = false) :
    (ledger.closed wallet row id (.settle id) stamp).book wallet = (ledger.book wallet).close id := by
  simp only [book, Book.close, Book.mk.injEq]
  constructor
  · have share : ledger.openHold wallet id = ledger.ownOutstandingHold wallet id := by
      simp [openHold, unsettled]
    have floor := ledger.openHold_nonneg wallet id
    simp only [reserved, closed, post_wallet_self, Option.elim_some, found, releasedRow, share]
    rw [share] at floor
    split_ifs <;> omega
  · funext other
    simp only [openHold, ownOutstandingHold_eq_max, txnExists_closed_settle, sumHeld_closed,
      sumConsumed_closed]
    by_cases same : other = id
    · subst same
      simp
    · simp [same, Ne.symm same, openHold, ownOutstandingHold_eq_max]

end

end Refinement

end GShare.Model.Ledger

namespace GShare.Soundness.Reservation

open GShare.Model Machine Accounting Samples Ledger Finset

/-- One operation of the credit engine on the sessions billed to a wallet. -/
inductive EngineOp where
  | hold (sess : SessionId) (amount : HoldAmount) (stamp : ℤ)
  | consume (sess : Session) (bucket now stamp : ℤ)
  | settle (sess : Session) (final : Bool) (now stamp : ℤ)

variable (wallet : WalletId) (ledger : Ledger)

/-- The ledger after the operation; a refused hold changes nothing. -/
def EngineOp.apply : EngineOp → Ledger
  | .hold sess amount stamp =>
    match ledger.hold wallet amount.value (.hold sess) stamp with
    | .ok next => next
    | .error _ => ledger
  | .consume sess bucket now stamp => ledger.consume sess bucket now stamp
  | .settle sess final now stamp => ledger.settle sess (.settle sess.id) final now stamp

/-- An operation, and the wallets that its caller has loaded before. -/
abbrev EngineCall := EngineOp × List (WalletId × Wallet)

/-- The engine as a transition function. -/
def step (call : EngineCall) : Option Ledger :=
  some (ledger.through call.2 (call.1.apply wallet))

/-- Every session is billed to the wallet, and a session's hold comes before its other rows; repeating
the same hold is allowed. -/
def Disciplined : EngineOp → Prop
  | .hold sess _ _ =>
    ledger.txnExists (.hold sess) ∨
      (∀ txn ∈ ledger.txns, txn.ref ≠ some (.session sess)) ∧
        ledger.txnExists (.settle sess) = false
  | .consume sess _ _ _ => sess.billingWalletId = some wallet
  | .settle sess _ _ _ => sess.billingWalletId = some wallet

instance : DecidablePred (Disciplined wallet ledger)
  | .hold .. => inferInstanceAs (Decidable (_ ∨ _ ∧ _))
  | .consume .. | .settle .. => inferInstanceAs (Decidable (_ = _))

/-- Reserved credit does not exceed the open holds. -/
structure Backed : Prop where
  sound : (ledger.book wallet).Sound
  within : ledger.reserved wallet ≤ ledger.openHolds wallet
  charges : ∀ sess, 0 ≤ ledger.sumConsumed wallet sess none

structure Covered : Prop where
  sound : (ledger.book wallet).Sound
  covered : ledger.openHolds wallet ≤ ledger.reserved wallet

variable {wallet ledger} {next : Ledger} {row : Wallet} {sess : Session}
variable {id : SessionId} {amount now stamp : ℤ} {key : IdemKey} {op : EngineOp}

private theorem openHolds_over (contains : next.holders ⊆ insert id ledger.holders) :
    ledger.openHolds wallet = (ledger.book wallet).total (insert id ledger.holders) ∧
    next.openHolds wallet = (next.book wallet).total (insert id ledger.holders) :=
  ⟨openHolds_eq_total (subset_insert _ _), openHolds_eq_total contains⟩

private theorem book_reserved : (ledger.book wallet).reserved = ledger.reserved wallet := rfl

private theorem reserved_nonneg (sound : (ledger.book wallet).Sound)
    (found : ledger.wallet wallet = some row) : 0 ≤ row.reserved := by
  simpa [book, reserved, found] using sound.reserved

section Held

variable (found : ledger.wallet wallet = some row) (nonneg : 0 ≤ amount)
variable (absent : ∀ txn ∈ ledger.txns, txn.ref ≠ some (.session id))
variable (unsettled : ledger.txnExists (.settle id) = false)
include found nonneg absent unsettled

private theorem openHolds_held :
    (ledger.held wallet row id amount stamp).openHolds wallet = ledger.openHolds wallet + amount := by
  have contains : (ledger.held wallet row id amount stamp).holders ⊆ insert id ledger.holders :=
    (holders_post stamp .hold).subset
  obtain ⟨before, after⟩ := @openHolds_over wallet _ _ _ contains
  rw [before, after, book_held stamp found nonneg absent unsettled,
    Book.total_hold _ (mem_insert_self _ _)]

theorem Backed.held (backed : Backed wallet ledger) : Backed wallet (ledger.held wallet row id amount stamp) where
  sound := by
    rw [book_held stamp found nonneg absent unsettled]
    exact backed.sound.hold id nonneg
  within := by
    rw [openHolds_held found nonneg absent unsettled, ← book_reserved,
      book_held stamp found nonneg absent unsettled]
    exact add_le_add_left backed.within amount
  charges sess := by
    rw [sumConsumed_held]
    exact backed.charges sess

theorem Covered.held (covered : Covered wallet ledger) :
    Covered wallet (ledger.held wallet row id amount stamp) where
  sound := by
    rw [book_held stamp found nonneg absent unsettled]
    exact covered.sound.hold id nonneg
  covered := by
    rw [openHolds_held found nonneg absent unsettled, ← book_reserved,
      book_held stamp found nonneg absent unsettled]
    exact add_le_add_left covered.covered amount

end Held

private theorem openHolds_debited :
    ledger.openHolds wallet = (ledger.book wallet).total (insert id ledger.holders) ∧
    (ledger.debited wallet row id amount key stamp).openHolds wallet =
      ((ledger.debited wallet row id amount key stamp).book wallet).total (insert id ledger.holders) :=
  openHolds_over (holders_post stamp .consume).subset

/-- What a charge needs to leave every open hold covered: the session stays within its own hold, or no
other unsettled session has anything held. -/
def StaysWithin (wallet : WalletId) (ledger : Ledger) (sess : Session) (now : ℤ) : Prop :=
  ledger.due wallet sess now ≤ ledger.ownOutstandingHold wallet sess.id ∨
    ∀ other, other ≠ sess.id → ledger.openHold wallet other = 0

section Charged

variable (charging : ledger.Charged wallet sess key now stamp next)
variable (otherKey : ∀ other, key ≠ .settle other)
include charging otherKey

theorem Backed.charged (backed : Backed wallet ledger) : Backed wallet next := by
  cases charging with
  | nothing => exact backed
  | debit row amount found pos exact fresh unsettled priced =>
    have book := book_debited stamp found pos.le unsettled otherKey
    obtain ⟨before, after⟩ := @openHolds_debited wallet ledger row sess.id amount stamp key
    refine ⟨book ▸ backed.sound.spend sess.id amount, ?_, fun other => ?_⟩
    · rw [after, ← book_reserved, book]
      exact backed.sound.reserved_spend_le (mem_insert_self _ _) amount
        (before ▸ backed.within)
    · have charged := backed.charges other
      rw [sumConsumed_debited]
      split_ifs <;> omega

theorem Covered.charged (covered : Covered wallet ledger)
    (within : StaysWithin wallet ledger sess now) : Covered wallet next := by
  cases charging with
  | nothing => exact covered
  | debit row amount found pos exact fresh unsettled priced =>
    have book := book_debited stamp found pos.le unsettled otherKey
    obtain ⟨before, after⟩ := @openHolds_debited wallet ledger row sess.id amount stamp key
    have share : ledger.openHold wallet sess.id
        = ledger.ownOutstandingHold wallet sess.id := by simp [openHold, unsettled]
    refine ⟨book ▸ covered.sound.spend sess.id amount, ?_⟩
    rw [after, ← book_reserved, book]
    refine covered.sound.total_spend_le (mem_insert_self _ _) ?_ (before ▸ covered.covered)
    refine within.imp (fun own => ?_) id
    change amount ≤ ledger.openHold wallet sess.id
    rw [share]
    omega

end Charged

section Closed

variable (found : ledger.wallet wallet = some row)
variable (unsettled : ledger.txnExists (.settle id) = false)
include found unsettled

theorem Backed.closed (backed : Backed wallet ledger) :
    Backed wallet (ledger.closed wallet row id (.settle id) stamp) := by
  have book := book_closed stamp found (reserved_nonneg backed.sound found)
    unsettled
  obtain ⟨before, after⟩ := @openHolds_over wallet _ _ _
    (holders_closed_subset stamp : (ledger.closed wallet row id (.settle id) stamp).holders ⊆ _)
  refine ⟨book ▸ backed.sound.close id, ?_, fun other => ?_⟩
  · rw [after, ← book_reserved, book]
    exact backed.sound.reserved_close_le (mem_insert_self _ _) (before ▸ backed.within)
  · rw [sumConsumed_closed]
    exact backed.charges other

theorem Covered.closed (covered : Covered wallet ledger) :
    Covered wallet (ledger.closed wallet row id (.settle id) stamp) := by
  have book := book_closed stamp found (reserved_nonneg covered.sound found)
    unsettled
  obtain ⟨before, after⟩ := @openHolds_over wallet _ _ _
    (holders_closed_subset stamp : (ledger.closed wallet row id (.settle id) stamp).holders ⊆ _)
  refine ⟨book ▸ covered.sound.close id, ?_⟩
  rw [after, ← book_reserved, book]
  exact covered.sound.total_close_le (mem_insert_self _ _) (before ▸ covered.covered)

end Closed

variable (wallet : WalletId) (ledger : Ledger) in
/-- Everything that an operation can do: a hold that goes through is a repetition or the first row of its
session. -/
inductive EngineOp.Applied : EngineOp → Ledger → Prop
  | nothing {op : EngineOp} : Applied op ledger
  | held {id : SessionId} {amount : HoldAmount} {stamp : ℤ} {row : Wallet}
      (found : ledger.wallet wallet = some row) (nonneg : 0 ≤ round2 amount.value)
      (absent : ∀ txn ∈ ledger.txns, txn.ref ≠ some (.session id))
      (unsettled : ledger.txnExists (.settle id) = false) :
      Applied (.hold id amount stamp) (ledger.held wallet row id (round2 amount.value) stamp)
  | consumed {sess : Session} {bucket now stamp : ℤ} {next : Ledger}
      (charge : ledger.Charged wallet sess (.consume sess.id bucket) now stamp next) :
      Applied (.consume sess bucket now stamp) next
  | settled {sess : Session} {final : Bool} {now stamp : ℤ} {charged : Ledger} {row : Wallet}
      (charge : ledger.Charged wallet sess (.consumeSettle sess.id) now stamp charged)
      (unbilled : final = false → charged = ledger) (found : charged.wallet wallet = some row)
      (unsettled : charged.txnExists (.settle sess.id) = false) :
      Applied (.settle sess final now stamp)
        (charged.closed wallet row sess.id (.settle sess.id) stamp)

theorem Disciplined.applied (disciplined : Disciplined wallet ledger op) :
    op.Applied wallet ledger (op.apply wallet ledger) := by
  cases op with
  | hold id amount stamp =>
    simp only [EngineOp.apply]
    cases outcome : ledger.hold wallet amount.value (.hold id) stamp with
    | error refused => exact .nothing
    | ok next =>
      rcases hold_cases outcome with ⟨rfl, -⟩ | ⟨row, found, -, fresh, rfl⟩
      · exact .nothing
      · rcases disciplined with repeated | ⟨absent, unsettled⟩
        · rw [fresh] at repeated
          cases repeated
        · have nonneg := round2_mono amount.nonneg
          rw [round2_zero] at nonneg
          exact .held found nonneg absent unsettled
  | consume sess bucket now stamp => exact .consumed (consume_charged disciplined)
  | settle sess final now stamp =>
    rcases @settle_cases ledger wallet sess now stamp disciplined final with
      same | ⟨start, charged, row, ⟨foundStart, charging, found, unsettled⟩, same⟩
    · rw [EngineOp.apply, same]
      exact .nothing
    · rw [EngineOp.apply, same]
      have charge := finalConsume_charged foundStart unsettled charging
      rw [← finalConsume_txnExists_settle charging] at unsettled
      refine .settled charge ?_ found unsettled
      rintro rfl
      exact finalConsume_of_not_final charging

theorem Backed.applied (backed : Backed wallet ledger)
    (applied : op.Applied wallet ledger next) : Backed wallet next := by
  cases applied with
  | nothing => exact backed
  | held found nonneg absent unsettled => exact backed.held found nonneg absent unsettled
  | consumed charge => exact backed.charged charge (by simp)
  | settled charge _ found unsettled => exact (backed.charged charge (by simp)).closed found unsettled

/-- `StaysWithin` for the operations that charge. -/
def Frugal (wallet : WalletId) (ledger : Ledger) : EngineOp → Prop
  | .hold _ _ _ => True
  | .consume sess _ now _ => StaysWithin wallet ledger sess now
  | .settle sess final now _ => final → StaysWithin wallet ledger sess now

theorem Covered.applied (covered : Covered wallet ledger)
    (applied : op.Applied wallet ledger next) (frugal : Frugal wallet ledger op) :
    Covered wallet next := by
  cases applied with
  | nothing => exact covered
  | held found nonneg absent unsettled => exact covered.held found nonneg absent unsettled
  | consumed charge => exact covered.charged charge (by simp) frugal
  | @settled _ final _ _ _ _ charge unbilled found unsettled =>
    refine Covered.closed found unsettled ?_
    cases final with
    | false => exact unbilled rfl ▸ covered
    | true => exact covered.charged charge (by simp) (frugal rfl)

/-- A wallet row exists and no transaction row points at a session yet. -/
structure Unused (wallet : WalletId) (ledger : Ledger) (row : Wallet) : Prop where
  found : ledger.wallet wallet = some row
  rows : ∀ txn ∈ ledger.txns, ∀ sess, txn.ref ≠ some (.session sess)

section Runs

variable {first last : Ledger} {calls : List EngineCall}

section

variable (unused : Unused wallet ledger row)

include unused

private theorem Unused.openHold_eq_zero (sess : SessionId) : ledger.openHold wallet sess = 0 :=
  openHold_eq_zero_of_absent fun txn member => unused.rows txn member sess

private theorem Unused.sound (nonneg : 0 ≤ row.reserved) : (ledger.book wallet).Sound where
  reserved := by simpa [book, reserved, unused.found] using nonneg
  holds sess := (unused.openHold_eq_zero sess).ge

private theorem Unused.openHolds_eq_zero : ledger.openHolds wallet = 0 :=
  sum_eq_zero fun sess _ => unused.openHold_eq_zero sess

theorem Unused.backed (nothing : row.reserved = 0) : Backed wallet ledger := by
  refine ⟨unused.sound nothing.ge, ?_, fun sess => ?_⟩
  · rw [unused.openHolds_eq_zero]
    simp [reserved, unused.found, nothing]
  · exact (sums_eq_zero (fun txn member => unused.rows txn member sess) none).2.ge

end

/-- What an operation on fresh objects does. -/
theorem Disciplined.stepped {call : EngineCall} (disciplined : Disciplined wallet ledger call.1)
    (fresh : Fresh ledger.wallet call.2) (taken : step wallet ledger call = some next) :
    call.1.Applied wallet ledger next := by
  cases taken
  rw [through_of_fresh fresh]
  exact disciplined.applied

/-- Along every run of holds, charges and settlements on fresh objects from a wallet with nothing reserved,
the reserved amount stays within the open holds, and it is gone once every session that held credit is
settled. -/
theorem reserved_le_openHolds (unused : Unused wallet first row) (nothing : row.reserved = 0)
    (run : Run (step wallet) (fun ledger call => Disciplined wallet ledger call.1 ∧ Fresh ledger.wallet call.2)
      first calls last) :
    last.reserved wallet ≤ last.openHolds wallet ∧
    ((∀ sess, last.sumHeld wallet sess ≠ 0 → last.txnExists (.settle sess)) →
      last.reserved wallet = 0) := by
  have backed : Backed wallet last := by
    refine run.invariant (unused.backed nothing) fun ledger call next meets taken backed => ?_
    exact backed.applied (meets.1.stepped meets.2 taken)
  refine ⟨backed.within, fun settled => le_antisymm (backed.within.trans ?_) backed.sound.reserved⟩
  refine (sum_eq_zero fun sess _ => ?_).le
  have charges := backed.charges sess
  rw [openHold, ownOutstandingHold_eq_max]
  split_ifs with isSettled
  · rfl
  · have noHold : last.sumHeld wallet sess = 0 := by
      by_contra held
      exact isSettled (settled sess held)
    omega

theorem hundredCredits_unused : Unused 0 hundredCredits ⟨.user, 0, 10000, 0, 0⟩ :=
  ⟨rfl, by simp [hundredCredits]⟩

/-- A session at six credits an hour is charged up to a minute. -/
def chargedAt (minute : ℤ) : EngineOp :=
  .consume (wholeCard 1 600) minute (minute * 60 * second) (minute * 60 * second)

/-- The session holds ten credits, runs an hour and is settled. -/
def shortStay : List EngineCall :=
  [(.hold 1 tenCredits 0, []), (chargedAt 60, [(0, ⟨.user, 0, 10000, 1000, 0⟩)]),
    (.settle (wholeCard 1 600) false (3600 * second) (3600 * second), [])]

theorem reserved_le_openHolds_shortStay : ∃ last,
    Run (step 0) (fun ledger call => Disciplined 0 ledger call.1 ∧ Fresh ledger.wallet call.2) hundredCredits
        shortStay last ∧ last.reserved 0 ≤ last.openHolds 0 ∧
      ((∀ sess, last.sumHeld 0 sess ≠ 0 → last.txnExists (.settle sess)) → last.reserved 0 = 0) :=
  exists_run_imp (fun _ => True) (by decide +kernel) fun _ run _ =>
    reserved_le_openHolds hundredCredits_unused rfl run

/-- Two sessions hold ten credits each and the first one spends all of its own. -/
def spendsHold : List EngineCall := [(.hold 1 tenCredits 0, []), (.hold 2 tenCredits 0, []), (chargedAt 100, [])]

/-- A wallet of twenty credits is left with ten, all reserved for the second session, when the grace worker
loads it. That session is cancelled and settled; then the worker's stop of the first charges one more minute
on its object, and 9.90 stay reserved with nothing outstanding. -/
theorem reserved_outlives_by_stale : ∃ middle last,
    Run (step 0) (fun ledger call => Disciplined 0 ledger call.1)
        (hundredCredits.setWallet 0 ⟨.user, 0, 2000, 0, 0⟩) spendsHold middle ∧
      Run (step 0) (fun ledger call => Disciplined 0 ledger call.1) middle
        [(.settle (wholeCard 2 600) false (100 * 60 * second) (100 * 60 * second), []),
          (chargedAt 101, [(0, ⟨.user, 0, 1000, 1000, 0⟩)])] last ∧
      middle.wallet 0 = some ⟨.user, 0, 1000, 1000, 0⟩ ∧ last.openHolds 0 = 0 ∧ last.reserved 0 = 990 :=
  exists_runs_of_execute (by decide +kernel)

/-- Along every run on fresh objects in which each charge stays within its session's own hold, or meets no
other open hold, the reserved amount covers the open holds. -/
theorem openHolds_le_reserved (unused : Unused wallet first row) (nonneg : 0 ≤ row.reserved)
    (run : Run (step wallet) (fun ledger call => Disciplined wallet ledger call.1 ∧
      Fresh ledger.wallet call.2 ∧ Frugal wallet ledger call.1) first calls last) :
    last.openHolds wallet ≤ last.reserved wallet := by
  have initial : Covered wallet first := by
    refine ⟨unused.sound nonneg, ?_⟩
    rw [unused.openHolds_eq_zero]
    simpa [reserved, unused.found] using nonneg
  refine (run.invariant initial fun ledger call next meets taken covered => ?_ :
    Covered wallet last).covered
  exact covered.applied (meets.1.stepped meets.2.1 taken) meets.2.2

/-- Two sessions hold ten credits each and the second one runs an hour at `rate`. -/
def twoHolders (rate : ℕ) : List EngineCall :=
  [(.hold 1 tenCredits 0, []), (.hold 2 tenCredits 0, []),
    (.consume (wholeCard 2 rate) 60 (3600 * second) (3600 * second), [])]

theorem openHolds_le_reserved_twoHolders :
    ∃ last, Run (step 0) (fun ledger call => Disciplined 0 ledger call.1 ∧ Fresh ledger.wallet call.2 ∧
      Frugal 0 ledger call.1) hundredCredits (twoHolders 600) last ∧ last.openHolds 0 ≤ last.reserved 0 := by
  have run : Run (step 0) (fun ledger call => Disciplined 0 ledger call.1 ∧ Fresh ledger.wallet call.2 ∧
      Frugal 0 ledger call.1) hundredCredits (twoHolders 600) _ :=
    .cons ⟨.inr (by decide +kernel), .nil, trivial⟩ rfl
      (.cons ⟨.inr (by decide +kernel), .nil, trivial⟩ rfl
        (.cons ⟨rfl, .nil, .inl (by decide +kernel)⟩ rfl (.nil _)))
  exact ⟨_, run, openHolds_le_reserved hundredCredits_unused le_rfl run⟩

/-- At fifteen credits an hour the five credits past the second session's hold are taken out of what
is reserved for the first. -/
theorem openHolds_uncovered_by_overrun :
    ∃ last, Run (step 0) (fun ledger call => Disciplined 0 ledger call.1) hundredCredits (twoHolders 1500) last ∧
      last.reserved 0 < last.openHolds 0 :=
  exists_run_of_execute (by decide +kernel)

end Runs

end GShare.Soundness.Reservation
