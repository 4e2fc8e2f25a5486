import GShare.Model.Credit.Engine

/-! # What the credit engine can do to a ledger

One inversion lemma for each engine operation. A charge either leaves the ledger alone or posts one
`debited` row; a settlement that does anything posts at most one such row, gives the unspent hold back
and posts the settle row. Every later result about the engine goes through these lemmas.
-/

namespace GShare.Model.Ledger

open Option Bool

variable {ledger next : Ledger} {wallet : WalletId} {row : Wallet} {sess : Session}
variable {key : IdemKey} {bucket now stamp : ℤ}
variable {final : Bool} {id : SessionId}

section

variable (ledger wallet row)

def debited (sess : SessionId) (debit : ℤ) (key : IdemKey) (stamp : ℤ) : Ledger :=
  ledger.post wallet
    { row with balance := row.balance - debit, reserved := max 0 (row.reserved - debit) }
    .consume (-debit) (some (.session sess)) key stamp

def held (sess : SessionId) (amount stamp : ℤ) : Ledger :=
  ledger.post wallet { row with reserved := row.reserved + amount } .hold amount
    (some (.session sess)) (.hold sess) stamp

/-- The wallet row after the session's unspent hold has been given back. -/
def releasedRow (sess : SessionId) : Wallet :=
  { row with reserved :=
      row.reserved -
        if 0 < row.reserved then min (ledger.ownOutstandingHold wallet sess) row.reserved else 0 }

end

variable (ledger : Ledger) (wallet : WalletId) (sess : Session) (key : IdemKey) (now stamp : ℤ) in
/-- Possible results of charging the session: nothing, or one debit of an unsettled session. -/
inductive Charged : Ledger → Prop
  | nothing : Charged ledger
  | debit (row : Wallet) (amount : ℤ) (found : ledger.wallet wallet = some row) (pos : 0 < amount)
      (exact : amount = min (ledger.due wallet sess now) row.balance)
      (fresh : ledger.txnExists key = false)
      (unsettled : ledger.txnExists (.settle sess.id) = false)
      (priced : sess.creditPerHourSnapshot ≠ 0) :
      Charged
        (ledger.debited wallet row sess.id amount key stamp)

theorem ownOutstandingHold_eq_max (ledger : Ledger) (wallet : WalletId) (sess : SessionId) :
    ledger.ownOutstandingHold wallet sess
      = max 0 (ledger.sumHeld wallet sess - ledger.sumConsumed wallet sess none) := by
  unfold ownOutstandingHold
  dsimp only
  split_ifs <;> omega

theorem takeDebit_eq_some {debit : ℤ} :
    ledger.takeDebit wallet row id debit key stamp = some next ↔
      ledger.txnExists key = false ∧ next = ledger.debited wallet row id debit key stamp :=
  record_eq_some ..

theorem hold_cases {amount : ℚ} (success : ledger.hold wallet amount (.hold id) stamp = .ok next) :
    (next = ledger ∧ ledger.txnExists (.hold id)) ∨
    ∃ row, ledger.wallet wallet = some row ∧ round2 amount ≤ row.balance - row.reserved ∧
      ledger.txnExists (.hold id) = false ∧ next = ledger.held wallet row id (round2 amount) stamp := by
  simp only [hold] at success
  split_ifs at success with repeated
  · cases success
    exact .inl ⟨rfl, repeated⟩
  · have fresh : ledger.txnExists (.hold id) = false := by simpa using repeated
    cases found : ledger.wallet wallet with
    | none => simp [found] at success
    | some row =>
      simp only [found] at success
      split_ifs at success with short
      cases success
      refine .inr ⟨row, rfl, not_lt.mp short, fresh, ?_⟩
      rw [(record_eq_some ..).mpr ⟨fresh, rfl⟩]
      rfl

/-- An operation on a session that is not billed to a wallet leaves the ledger alone. -/
theorem consume_of_unbilled (unbilled : sess.billingWalletId = none) :
    ledger.consume sess bucket now stamp = ledger := by
  simp [consume, consumeAdmitted, unbilled]

theorem consume_of_repeated (repeated : ledger.txnExists (.consume sess.id bucket)) :
    ledger.consume sess bucket now stamp = ledger := by
  simp [consume, consumeAdmitted, repeated]

section

variable (billed : sess.billingWalletId = some wallet)

include billed

theorem charge_cases : ledger.charge sess bucket now stamp = ledger ∨
    ∃ row amount, ledger.wallet wallet = some row ∧ 0 < amount ∧
      amount = min (ledger.due wallet sess now) row.balance ∧
      ledger.txnExists (.consume sess.id bucket) = false ∧ ledger.charge sess bucket now stamp
        = ledger.debited wallet row sess.id amount (.consume sess.id bucket) stamp := by
  cases found : ledger.wallet wallet with
  | none => exact .inl (by simp only [charge, billed, found])
  | some row =>
    simp only [charge, billed, found]
    split_ifs with settledUp affordable
    · exact .inl rfl
    · cases repeated : ledger.txnExists (.consume sess.id bucket) with
      | true => exact .inl (by simp [keyedAtomic, takeDebit, record, repeated])
      | false =>
        rw [takeDebit_eq_some.mpr ⟨repeated, rfl⟩]
        exact .inr ⟨row, _, rfl, affordable, rfl, rfl, rfl⟩
    · exact .inl rfl

theorem consume_charged : Charged ledger wallet sess (.consume sess.id bucket) now stamp
      (ledger.consume sess bucket now stamp) := by
  unfold consume
  split_ifs with admitted
  · simp only [consumeAdmitted, and_eq_true, bne_iff_ne, not_eq_true'] at admitted
    obtain ⟨⟨⟨priced, -⟩, -⟩, unsettled⟩ := admitted
    rcases @charge_cases ledger wallet sess bucket now stamp billed with
      same | ⟨row, amount, found, pos, exact_, fresh, same⟩
    · rw [same]
      exact .nothing
    · rw [same]
      exact .debit row amount found pos exact_ fresh unsettled priced
  · exact .nothing

/-- An admitted charge the balance covers takes exactly what is due. -/
theorem consume_of_covered (found : ledger.wallet wallet = some row) (priced : sess.creditPerHourSnapshot ≠ 0)
    (fresh : ledger.txnExists (.consume sess.id bucket) = false)
    (unsettled : ledger.txnExists (.settle sess.id) = false)
    (covers : ledger.due wallet sess now ≤ row.balance) : ledger.consume sess bucket now stamp =
      if 0 < ledger.due wallet sess now then
        ledger.debited wallet row sess.id (ledger.due wallet sess now)
          (.consume sess.id bucket) stamp else ledger := by
  have admitted : ledger.consumeAdmitted sess bucket := by
    simp [consumeAdmitted, billed, priced, fresh, unsettled]
  simp only [consume, admitted, charge, billed, found, min_eq_left covers, if_true]
  split_ifs with nothing_due some_due
  · omega
  · rfl
  · rw [takeDebit_eq_some.mpr ⟨fresh, rfl⟩]
    rfl
  · rfl

end

def closed (ledger : Ledger) (wallet : WalletId) (row : Wallet) (sess : SessionId) (key : IdemKey)
    (stamp : ℤ) : Ledger :=
  (ledger.releaseHold wallet row sess stamp).post wallet (ledger.releasedRow wallet row sess)
    .settle 0 (some (.session sess)) key stamp

theorem releaseHold_cases (ledger : Ledger) (wallet : WalletId) (row : Wallet) (id : SessionId) (stamp : ℤ) :
    (∃ released, 0 < released ∧ ledger.releaseHold wallet row id stamp
      = ledger.post wallet (ledger.releasedRow wallet row id) .refund released (some (.session id))
          (.generated .refund wallet ledger.freshSerial) stamp) ∨
    ledger.releaseHold wallet row id stamp = ledger.setWallet wallet (ledger.releasedRow wallet row id) := by
  simp only [releaseHold, releasedRow, ownOutstandingHold_eq_max]
  generalize (if 0 < row.reserved then _ else _ : ℤ) = released
  split_ifs with some_released
  · exact .inl ⟨released, some_released, rfl⟩
  · exact .inr rfl

@[simp] theorem releaseHold_wallet_self (id : SessionId) :
    (ledger.releaseHold wallet row id stamp).wallet wallet = some (ledger.releasedRow wallet row id) := by
  rcases releaseHold_cases ledger wallet row id stamp with ⟨released, -, eq⟩ | eq <;>
    simp [eq, setWallet]

section Sums

variable (ledger wallet row key stamp)
variable (id other : SessionId) (since : Option ℤ) (debit : ℤ)

@[simp] theorem sumConsumed_held (amount : ℤ) :
    (ledger.held wallet row id amount stamp).sumConsumed wallet other since
      = ledger.sumConsumed wallet other since := by
  simp [sumConsumed, held, isConsumeOf]

@[simp] theorem sumHeld_held (amount : ℤ) :
    (ledger.held wallet row id amount stamp).sumHeld wallet other
      = ledger.sumHeld wallet other + if id = other then amount else 0 := by
  simp only [sumHeld, held, total_post, isHoldOf, beq_self_eq_true, Bool.true_and, beq_iff_eq,
    Option.some.injEq, Ref.session.injEq]
  omega

@[simp] theorem txnExists_held_settle (amount : ℤ) :
    (ledger.held wallet row id amount stamp).txnExists (.settle other) = ledger.txnExists (.settle other) :=
  post_txnExists ..

@[simp] theorem sumConsumed_debited :
    (ledger.debited wallet row id debit key stamp).sumConsumed wallet other since
      = ledger.sumConsumed wallet other since + if id = other ∧ since.all (· ≤ stamp) then debit else 0 := by
  simp only [sumConsumed, debited, total_post, isConsumeOf, beq_self_eq_true, Bool.true_and,
    and_eq_true, beq_iff_eq, Option.some.injEq, Ref.session.injEq]
  split_ifs <;> omega

@[simp] theorem sumHeld_debited :
    (ledger.debited wallet row id debit key stamp).sumHeld wallet other = ledger.sumHeld wallet other := by
  simp [sumHeld, debited, isHoldOf]

@[simp] theorem sumConsumed_releaseHold :
    (ledger.releaseHold wallet row id stamp).sumConsumed wallet other since
      = ledger.sumConsumed wallet other since := by
  rcases releaseHold_cases ledger wallet row id stamp with ⟨released, -, eq⟩ | eq
  · simp [eq, sumConsumed, isConsumeOf]
  · rw [eq]
    rfl

@[simp] theorem sumHeld_releaseHold :
    (ledger.releaseHold wallet row id stamp).sumHeld wallet other = ledger.sumHeld wallet other := by
  rcases releaseHold_cases ledger wallet row id stamp with ⟨released, -, eq⟩ | eq
  · simp [eq, sumHeld, isHoldOf]
  · rw [eq]
    rfl

@[simp] theorem sumConsumed_closed :
    (ledger.closed wallet row id key stamp).sumConsumed wallet other since
      = ledger.sumConsumed wallet other since := by
  rw [← sumConsumed_releaseHold ledger wallet row stamp id other since]
  simp [closed, sumConsumed, isConsumeOf]

@[simp] theorem sumHeld_closed :
    (ledger.closed wallet row id key stamp).sumHeld wallet other = ledger.sumHeld wallet other := by
  rw [← sumHeld_releaseHold ledger wallet row stamp id other]
  simp [closed, sumHeld, isHoldOf]

@[simp] theorem txnExists_debited (wanted : IdemKey) :
    (ledger.debited wallet row id debit key stamp).txnExists wanted = (key == wanted || ledger.txnExists wanted) :=
  post_txnExists ..

@[simp] theorem txnExists_releaseHold_settle :
    (ledger.releaseHold wallet row id stamp).txnExists (.settle other) = ledger.txnExists (.settle other) := by
  rcases releaseHold_cases ledger wallet row id stamp with ⟨released, -, eq⟩ | eq
  · rw [eq, post_txnExists]
    rfl
  · rw [eq]
    rfl

@[simp] theorem txnExists_closed_settle :
    (ledger.closed wallet row id (.settle id) stamp).txnExists (.settle other)
      = (decide (id = other) || ledger.txnExists (.settle other)) := by
  rw [closed, post_txnExists, txnExists_releaseHold_settle]
  congr 1
  simp [beq_eq_decide]

end Sums

theorem finalConsume_charged (found : ledger.wallet wallet = some row)
    (unsettled : ledger.txnExists (.settle sess.id) = false)
    (success : ledger.finalConsume wallet row sess final now stamp = some next) :
    Charged ledger wallet sess (.consumeSettle sess.id) now stamp next := by
  simp only [finalConsume, and_eq_true, bne_iff_ne] at success
  split_ifs at success with billsFinal affordable
  · obtain ⟨fresh, rfl⟩ := takeDebit_eq_some.mp success
    exact .debit row _ found affordable rfl fresh unsettled billsFinal.2
  · cases success
    exact .nothing
  · cases success
    exact .nothing

theorem finalConsume_txnExists_settle
    (success : ledger.finalConsume wallet row sess final now stamp = some next) (id : SessionId) :
    next.txnExists (.settle id) = ledger.txnExists (.settle id) := by
  simp only [finalConsume] at success
  split_ifs at success
  · obtain ⟨-, rfl⟩ := takeDebit_eq_some.mp success
    rw [txnExists_debited]
    rfl
  · cases success
    rfl
  · cases success
    rfl

theorem finalConsume_of_not_final (success : ledger.finalConsume wallet row sess false now stamp
    = some next) : next = ledger :=
  (some.inj success).symm

/-- After a final charge that the balance covers and the run's rows include, nothing is due. -/
theorem finalConsume_settlesUp (success : ledger.finalConsume wallet row sess true now stamp = some next)
    (priced : sess.creditPerHourSnapshot ≠ 0) (covers : ledger.due wallet sess now ≤ row.balance)
    (stamped : sess.startedAt.all (· ≤ stamp)) : next.due wallet sess now ≤ 0 := by
  simp only [finalConsume, Bool.true_and, bne_iff_ne, min_eq_left covers] at success
  rw [if_pos priced] at success
  split_ifs at success with somethingDue
  · obtain ⟨-, rfl⟩ := takeDebit_eq_some.mp success
    rw [due, sumConsumed_debited, if_pos ⟨rfl, stamped⟩, ← sub_sub, ← due, sub_self]
  · cases success
    exact not_lt.mp somethingDue

/-- A settlement none of whose keys is taken makes its final charge. -/
structure Settling (ledger : Ledger) (wallet : WalletId) (sess : Session) (final : Bool) (now stamp : ℤ)
    (start : Wallet) (charged : Ledger) (row : Wallet) : Prop where
  foundStart : ledger.wallet wallet = some start
  charging : ledger.finalConsume wallet start sess final now stamp = some charged
  found : charged.wallet wallet = some row
  unsettled : ledger.txnExists (.settle sess.id) = false

theorem settleParts_eq_some {writes : List Ledger}
    (success : ledger.settleParts wallet sess (.settle sess.id) final now stamp = some writes) :
    ∃ start charged row, ledger.Settling wallet sess final now stamp start charged row ∧
      writes = [charged, charged.releaseHold wallet row sess.id stamp,
        charged.closed wallet row sess.id (.settle sess.id) stamp] := by
  simp only [settleParts, bind_eq_bind, bind_eq_some_iff, pure_def,
    Option.some.injEq, releaseHold_wallet_self, exists_eq_left'] at success
  obtain ⟨start, found, charged, charging, row, foundAfter, settled, marking, rfl⟩ := success
  obtain ⟨fresh, rfl⟩ := (record_eq_some ..).mp marking
  refine ⟨start, charged, row, ⟨found, charging, foundAfter, ?_⟩, rfl⟩
  rw [txnExists_releaseHold_settle] at fresh
  rwa [finalConsume_txnExists_settle charging] at fresh

theorem settleWrites_cases (billed : sess.billingWalletId = some wallet) (final : Bool) :
    ledger.settleWrites sess (.settle sess.id) final now stamp = [] ∨
    ∃ start charged row, ledger.Settling wallet sess final now stamp start charged row ∧
      ledger.settleWrites sess (.settle sess.id) final now stamp
        = [charged, charged.releaseHold wallet row sess.id stamp,
            charged.closed wallet row sess.id (.settle sess.id) stamp] := by
  simp only [settleWrites, billed]
  split_ifs with settled
  · exact .inl rfl
  · cases outcome : ledger.settleParts wallet sess (.settle sess.id) final now stamp with
    | none => exact .inl rfl
    | some writes => exact .inr (settleParts_eq_some outcome)

theorem settle_cases (billed : sess.billingWalletId = some wallet) (final : Bool) :
    ledger.settle sess (.settle sess.id) final now stamp = ledger ∨
    ∃ start charged row, ledger.Settling wallet sess final now stamp start charged row ∧
      ledger.settle sess (.settle sess.id) final now stamp
        = charged.closed wallet row sess.id (.settle sess.id) stamp := by
  rcases @settleWrites_cases ledger wallet sess now stamp billed final with
    nothing | ⟨start, charged, row, settling, writes⟩
  · exact .inl (by simp [settle, nothing])
  · exact .inr ⟨start, charged, row, settling, by simp [settle, writes]⟩

theorem settle_of_unbilled (unbilled : sess.billingWalletId = none) (final : Bool) :
    ledger.settle sess key final now stamp = ledger := by
  simp [settle, settleWrites, unbilled]

theorem Charged.txnExists_settle (charging : Charged ledger wallet sess key now stamp next)
    (otherKey : ∀ other, key ≠ .settle other) (id : SessionId) :
    next.txnExists (.settle id) = ledger.txnExists (.settle id) := by
  cases charging with
  | nothing => rfl
  | debit row amount found pos exact fresh unsettled priced =>
    rw [txnExists_debited, beq_eq_false_iff_ne.mpr (otherKey id), Bool.false_or]

end GShare.Model.Ledger
