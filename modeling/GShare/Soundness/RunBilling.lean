import GShare.Machine.Run
import GShare.Proofs.Credit.Engine
import GShare.Soundness.Samples

/-! # The bill of one run

A run is fixed by its session row: start, price and occupancy do not change while it lasts. Each charge
asks for the amount owed in all less what the run has been charged, so the total never overshoots what
is owed at the latest charge, and a covered charge brings it up to exactly that. The schedule of the
charges in between, their order, their repeats and the shortfalls on the way leave no trace in the sum.
-/

namespace GShare.Soundness.RunBilling

open GShare.Model Machine Samples Ledger

/-- What can happen to the ledger during a run: a charge of the run, or a write by anybody else. -/
inductive RunEvent where
  | consume (bucket now stamp : ℤ)
  | elsewhere (next : Ledger)

section Run

variable (sess : Session) (wallet : WalletId)

def runTotal (ledger : Ledger) : ℤ := ledger.sumConsumed wallet sess.id sess.startedAt

def step (ledger : Ledger) : RunEvent → Option Ledger
  | .consume bucket now stamp => some (ledger.consume sess bucket now stamp)
  | .elsewhere next => some next

/-- The run's charges are for moments up to `latest` and their rows are stamped within the run; the
writes of others (top-ups, other sessions, other wallets) leave the run's rows and its settlement
alone. -/
def DuringRun (latest : ℤ) (ledger : Ledger) : RunEvent → Prop
  | .consume _ now stamp => now ≤ latest ∧ sess.startedAt.all (· ≤ stamp)
  | .elsewhere next =>
    runTotal sess wallet next = runTotal sess wallet ledger ∧
      next.txnExists (.settle sess.id) = ledger.txnExists (.settle sess.id)

variable {sess wallet} {ledger next : Ledger} {key : IdemKey} {now stamp latest : ℤ}

variable (sess wallet) in
/-- The run is not settled and its total lies between nothing and what is owed at `latest`. -/
structure OnAccount (latest : ℤ) (ledger : Ledger) : Prop where
  nonneg : 0 ≤ runTotal sess wallet ledger
  within : runTotal sess wallet ledger ≤ sess.owed latest
  unsettled : ledger.txnExists (.settle sess.id) = false

/-- A charge for an earlier moment keeps the run on account. -/
theorem OnAccount.charged (account : OnAccount sess wallet latest ledger)
    (charging : ledger.Charged wallet sess key now stamp next)
    (otherKey : ∀ other, key ≠ .settle other) (before : now ≤ latest) : OnAccount sess wallet latest next := by
  have unsettled := (charging.txnExists_settle otherKey sess.id).trans account.unsettled
  cases charging with
  | nothing => exact account
  | debit row amount found pos exact fresh _ priced =>
    have grows := sess.owed_mono before
    obtain ⟨nonneg, within, -⟩ := account
    rw [due] at exact
    unfold runTotal at nonneg within
    refine ⟨?_, ?_, unsettled⟩ <;> rw [runTotal, sumConsumed_debited] <;> split_ifs <;> omega

/-- A charge with a fresh key that the balance covers brings the total up to what is owed. -/
theorem OnAccount.runTotal_consume (account : OnAccount sess wallet now ledger) {bucket : ℤ}
    {row : Wallet} (billed : sess.billingWalletId = some wallet)
    (found : ledger.wallet wallet = some row)
    (fresh : ledger.txnExists (.consume sess.id bucket) = false)
    (stamped : sess.startedAt.all (· ≤ stamp)) (covers : ledger.due wallet sess now ≤ row.balance) :
    runTotal sess wallet (ledger.consume sess bucket now stamp) = sess.owed now := by
  obtain ⟨nonneg, within, unsettled⟩ := account
  by_cases free : sess.creditPerHourSnapshot = 0
  · have nothing := sess.owed_eq_zero_of_free now free
    have same : ledger.consume sess bucket now stamp = ledger := by
      simp [consume, consumeAdmitted, free]
    rw [same]
    omega
  · have due : ledger.due wallet sess now
        = sess.owed now - runTotal sess wallet ledger := rfl
    rw [consume_of_covered billed found free fresh unsettled covers]
    split_ifs
    · rw [runTotal, sumConsumed_debited, if_pos ⟨rfl, stamped⟩, ← runTotal]
      omega
    · omega

end Run

/-- A schedule of charges on one run that ends at `time` with a charge under a fresh key, at least as
late as every earlier one and covered by the wallet. -/
structure Schedule (sess : Session) (wallet : WalletId) (time : ℤ) where
  first : Ledger
  events : List RunEvent
  last : Ledger
  run : Run (step sess) (DuringRun sess wallet time) first events last
  /-- The run starts with no rows and is not settled. -/
  unbilled : runTotal sess wallet first = 0
  unsettled : first.txnExists (.settle sess.id) = false
  bucket : ℤ
  stamp : ℤ
  row : Wallet
  fresh : last.txnExists (.consume sess.id bucket) = false
  stamped : sess.startedAt.all (· ≤ stamp)
  found : last.wallet wallet = some row
  covers : last.due wallet sess time ≤ row.balance

namespace Schedule

variable {sess : Session} {wallet : WalletId} {time : ℤ}

/-- The run's rows after the final charge. -/
def total (schedule : Schedule sess wallet time) : ℤ :=
  runTotal sess wallet
    (schedule.last.consume sess schedule.bucket time schedule.stamp)

theorem onAccount_last (schedule : Schedule sess wallet time) (billed : sess.billingWalletId = some wallet) :
    OnAccount sess wallet time schedule.last := by
  have initial : OnAccount sess wallet time schedule.first :=
    ⟨schedule.unbilled.ge, schedule.unbilled.le.trans (sess.owed_nonneg time),
      schedule.unsettled⟩
  refine schedule.run.invariant initial fun ledger event next during taken account => ?_
  cases event with
  | consume bucket now stamp =>
    cases taken
    exact account.charged (consume_charged billed) (by simp) during.1
  | elsewhere other =>
    cases taken
    obtain ⟨sameTotal, sameSettled⟩ := during
    exact ⟨sameTotal ▸ account.nonneg, sameTotal ▸ account.within, sameSettled ▸ account.unsettled⟩

end Schedule

/-- Any two schedules on a run that end covered at the same moment charge the same: what is owed then. -/
theorem total_eq_owed {sess : Session} {wallet : WalletId} {time : ℤ}
    (billed : sess.billingWalletId = some wallet) (left right : Schedule sess wallet time) :
    left.total = right.total ∧ left.total = sess.owed time := by
  have exact_of (schedule : Schedule sess wallet time) : schedule.total = sess.owed time :=
    (schedule.onAccount_last billed).runTotal_consume billed schedule.found schedule.fresh
      schedule.stamped schedule.covers
  exact ⟨(exact_of left).trans (exact_of right).symm, exact_of left⟩

/-- One charge at the end of the hour. -/
def once : Schedule (wholeCard 1 600) 0 (3600 * second) where
  first := hundredCredits
  events := []
  last := hundredCredits
  run := .nil _
  unbilled := by decide +kernel
  unsettled := rfl
  bucket := 60
  stamp := 3600 * second
  row := ⟨.user, 0, 10000, 0, 0⟩
  fresh := rfl
  stamped := rfl
  found := rfl
  covers := by decide +kernel

/-- A charge out of order, one in between that is repeated, and one at the end of the hour. -/
def often : Schedule (wholeCard 1 600) 0 (3600 * second) where
  first := hundredCredits
  events := [.consume 20 (1200 * second) 1, .consume 10 (600 * second) 2, .consume 20 (1260 * second) 3]
  last := _
  run := .cons ⟨by decide, rfl⟩ rfl (.cons ⟨by decide, rfl⟩ rfl (.cons ⟨by decide, rfl⟩ rfl (.nil _)))
  unbilled := by decide +kernel
  unsettled := rfl
  bucket := 60
  stamp := 3600 * second
  row := ⟨.user, 0, 9800, 0, 0⟩
  fresh := by decide +kernel
  stamped := rfl
  found := by decide +kernel
  covers := by decide +kernel

theorem total_eq_owed_often : once.total = often.total ∧ once.total = (wholeCard 1 600).owed (3600 * second) :=
  total_eq_owed rfl once often

end GShare.Soundness.RunBilling
