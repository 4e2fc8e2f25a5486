import GShare.Proofs.Credit.Engine

/-! # The charges of a session

The consume rows of a session and what they add up to. One operation of the engine adds at most one of
them, for no more than what was due.
-/

namespace GShare.Model

open List Bool

def paid (charges : List Txn) : ℤ := -(charges.map (·.amount)).sum

@[simp] theorem paid_cons (txn : Txn) (charges : List Txn) : paid (txn :: charges) = paid charges - txn.amount := by
  simp only [paid, map_cons, sum_cons]
  omega

theorem paid_nonneg {charges : List Txn} (debits : ∀ txn ∈ charges, txn.amount ≤ 0) : 0 ≤ paid charges := by
  induction charges with
  | nil => exact le_rfl
  | cons txn charges ih =>
    obtain ⟨debit, debits⟩ := forall_mem_cons.mp debits
    have rest := ih debits
    rw [paid_cons]
    omega

theorem paid_split (charges : List Txn) (moment : ℤ) :
    paid (charges.filter (moment ≤ ·.createdAt)) + paid (charges.filter (·.createdAt < moment)) = paid charges := by
  induction charges with
  | nil => rfl
  | cons txn charges ih =>
    rcases le_or_gt moment txn.createdAt with later | earlier
    · rw [filter_cons_of_pos (by simpa using later), filter_cons_of_neg (by simpa using later),
        paid_cons, paid_cons]
      omega
    · rw [filter_cons_of_neg (by simpa using earlier),
        filter_cons_of_pos (by simpa using earlier), paid_cons, paid_cons]
      omega

namespace Ledger

variable {ledger next : Ledger} {wallet : WalletId} {row : Wallet} {sess : Session}
variable {id : SessionId} {key : IdemKey} {amount bucket now stamp : ℤ}

/-- The consume rows of the session, newest first. -/
def charges (ledger : Ledger) (id : SessionId) : List Txn :=
  ledger.txns.filter fun txn => txn.type == .consume && txn.ref == some (.session id)

theorem charges_post_of_ne {type : TxnType} {ref : Option Ref}
    (other : ¬(type = .consume ∧ ref = some (.session id))) :
    (ledger.post wallet row type amount ref key stamp).charges id = ledger.charges id :=
  filter_cons_of_neg (by simpa using other)

theorem charges_debited : (ledger.debited wallet row id amount key stamp).charges id
    = ⟨wallet, .consume, -amount, row.balance - amount, some (.session id), key, stamp⟩ :: ledger.charges id :=
  filter_cons_of_pos (by simp)

theorem charges_closed : (ledger.closed wallet row sess.id key stamp).charges id = ledger.charges id := by
  rw [closed, charges_post_of_ne (by simp)]
  rcases releaseHold_cases ledger wallet row sess.id stamp with ⟨released, -, same⟩ | same
  · rw [same, charges_post_of_ne (by simp)]
  · rw [same]
    rfl

theorem sumConsumed_eq_paid (own : ∀ txn ∈ ledger.charges id, txn.walletId = wallet)
    (since : Option ℤ) : ledger.sumConsumed wallet id since
      = paid ((ledger.charges id).filter fun txn => since.all (· ≤ txn.createdAt)) := by
  have same : ledger.txns.filter (isConsumeOf wallet id since)
      = (ledger.charges id).filter fun txn => since.all (· ≤ txn.createdAt) := by
    rw [charges, filter_filter]
    refine filter_congr fun txn member => ?_
    cases charge : txn.type == .consume && txn.ref == some (.session id) with
    | false =>
      simp only [isConsumeOf, Bool.and_assoc]
      simp only [← Bool.and_assoc, charge, Bool.and_false, Bool.false_and]
    | true =>
      have payer := own txn (mem_filter.mpr ⟨member, charge⟩)
      simp only [and_eq_true, beq_iff_eq] at charge
      simp [isConsumeOf, payer, charge.1, charge.2]
  rw [sumConsumed, total, same, paid]

/-- An operation that charges the session at most once, for no more than what is due at `now`. -/
inductive ChargedOnce (ledger : Ledger) (sess : Session) (now stamp : ℤ) (next : Ledger) : Prop
  | nothing (same : next.charges sess.id = ledger.charges sess.id)
  | once (wallet : WalletId) (txn : Txn) (billed : sess.billingWalletId = some wallet)
      (payer : txn.walletId = wallet) (debit : txn.amount < 0)
      (within : -txn.amount ≤ ledger.due wallet sess now) (stamped : txn.createdAt = stamp)
      (charges : next.charges sess.id = txn :: ledger.charges sess.id)

theorem Charged.chargedOnce (charging : Charged ledger wallet sess key now stamp next)
    (billed : sess.billingWalletId = some wallet) : ledger.ChargedOnce sess now stamp next := by
  cases charging with
  | nothing => exact .nothing rfl
  | debit row amount found pos exact_ fresh unsettled priced =>
    refine .once wallet _ billed rfl ?_ ?_ rfl charges_debited
    · exact neg_neg_of_pos pos
    · rw [neg_neg, exact_]
      exact min_le_left ..

theorem consume_chargedOnce : ledger.ChargedOnce sess now stamp (ledger.consume sess bucket now stamp) := by
  cases billed : sess.billingWalletId with
  | none => exact .nothing (by rw [consume_of_unbilled billed])
  | some wallet => exact (consume_charged billed).chargedOnce billed

theorem settle_chargedOnce (final : Bool) : ledger.ChargedOnce sess now stamp
    (ledger.settle sess (.settle sess.id) final now stamp) := by
  cases billed : sess.billingWalletId with
  | none => exact .nothing (by rw [settle_of_unbilled billed])
  | some wallet =>
    rcases @settle_cases ledger wallet sess now stamp billed final with
      same | ⟨start, charged, left, ⟨found, charging, _, unsettled⟩, same⟩
    · exact .nothing (by rw [same])
    · cases (finalConsume_charged found unsettled charging).chargedOnce billed with
      | nothing kept => exact .nothing (by rw [same, charges_closed, kept])
      | once payer txn billedTo paidBy debit within stamped added =>
        exact .once payer txn billedTo paidBy debit within stamped (by rw [same, charges_closed, added])

theorem charges_settle_not_final :
    (ledger.settle sess (.settle sess.id) false now stamp).charges id = ledger.charges id := by
  cases billed : sess.billingWalletId with
  | none => rw [settle_of_unbilled billed]
  | some wallet =>
    rcases @settle_cases ledger wallet sess now stamp billed false with
      same | ⟨start, charged, left, ⟨found, charging, _, unsettled⟩, same⟩
    · rw [same]
    · rw [same, charges_closed, finalConsume_of_not_final charging]

theorem ChargedOnce.charges_eq (charged : ledger.ChargedOnce sess now stamp next)
    (nothing : ∀ wallet, sess.billingWalletId = some wallet → ledger.due wallet sess now ≤ 0) :
    next.charges sess.id = ledger.charges sess.id := by
  cases charged with
  | nothing same => exact same
  | once wallet txn billed payer debit within stamped added =>
    have none := nothing wallet billed
    omega

end Ledger

end GShare.Model
