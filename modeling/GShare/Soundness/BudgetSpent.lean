import GShare.Proofs.Credit.Engine
import GShare.Soundness.Samples

/-! # What a budget counts as spent

The rollup adds the consume rows and the refund rows of a month. A refund row of the engine gives back a
part of a reservation that was never debited, so it lowers the spent amount without any credit coming
back. The spent amount is what was debited exactly when nothing was released or nothing was debited.
-/

open GShare.Model

variable {row : Wallet} {now : ℤ} {final : Bool} {charged : Ledger}

namespace GShare.Model.Ledger

/-- What the final charge of a settlement takes. -/
def finalDebit (ledger : Ledger) (wallet : WalletId) (row : Wallet) (sess : Session) (final : Bool)
    (now : ℤ) : ℤ :=
  if final ∧ sess.creditPerHourSnapshot ≠ 0 then max 0 (min (ledger.due wallet sess now) row.balance)
  else 0

variable {ledger : Ledger} {wallet : WalletId} {sess : Session}
variable {bucket stamp : ℤ}
variable {id : SessionId} {key : IdemKey}

/-- A charge takes what is due as far as the balance goes, once for each minute until the settlement. -/
theorem consume_eq (billed : sess.billingWalletId = some wallet) (found : ledger.wallet wallet = some row) :
    ledger.consume sess bucket now stamp =
      if sess.creditPerHourSnapshot ≠ 0 ∧ ledger.txnExists (.consume sess.id bucket) = false ∧
          ledger.txnExists (.settle sess.id) = false ∧ 0 < min (ledger.due wallet sess now) row.balance
      then ledger.debited wallet row sess.id (min (ledger.due wallet sess now) row.balance)
        (.consume sess.id bucket) stamp else ledger := by
  unfold consume
  by_cases admitted : ledger.consumeAdmitted sess bucket
  · have checks := admitted
    simp only [consumeAdmitted, Bool.and_eq_true, bne_iff_ne, Bool.not_eq_true'] at checks
    obtain ⟨⟨⟨priced, -⟩, fresh⟩, unsettled⟩ := checks
    simp only [admitted, if_true, charge, billed, found, priced, fresh, unsettled, ne_eq,
      not_false_eq_true, true_and]
    by_cases affordable : 0 < min (ledger.due wallet sess now) row.balance
    · have due : ¬ledger.due wallet sess now ≤ 0 := not_le.mpr (lt_of_lt_of_le affordable (min_le_left _ _))
      rw [if_neg due, if_pos affordable, if_pos affordable, takeDebit_eq_some.mpr ⟨fresh, rfl⟩]
      rfl
    · rw [if_neg affordable, if_neg affordable, ite_self]
  · rw [if_neg admitted, if_neg]
    rintro ⟨priced, fresh, unsettled, -⟩
    exact admitted (by simp [consumeAdmitted, billed, priced, fresh, unsettled])

/-- What the release of a settlement gives back. -/
def released (ledger : Ledger) (wallet : WalletId) (row : Wallet) (sess : SessionId) : ℤ :=
  if 0 < row.reserved then min (ledger.ownOutstandingHold wallet sess) row.reserved else 0

theorem released_nonneg (id : SessionId) : 0 ≤ ledger.released wallet row id := by
  rw [released, ownOutstandingHold_eq_max]
  split_ifs <;> omega

theorem released_pos_iff (id : SessionId) : 0 < ledger.released wallet row id ↔
      0 < ledger.sumHeld wallet id - ledger.sumConsumed wallet id none ∧ 0 < row.reserved := by
  rw [released, ownOutstandingHold_eq_max]
  split_ifs <;> omega

theorem total_releaseHold (id : SessionId) (selected : Txn → Bool) :
    (ledger.releaseHold wallet row id stamp).total selected =
      (if 0 < ledger.released wallet row id ∧
          selected ⟨wallet, .refund, ledger.released wallet row id, row.balance, some (.session id),
            .generated .refund wallet ledger.freshSerial, stamp⟩
        then ledger.released wallet row id else 0) + ledger.total selected := by
  simp only [releaseHold, released, ownOutstandingHold_eq_max]
  generalize (if 0 < row.reserved then _ else _ : ℤ) = given
  by_cases something : 0 < given
  · simp [something]
  · simp [something, setWallet, total]

theorem debited_wallet_self {debit : ℤ} :
    (ledger.debited wallet row id debit key stamp).wallet wallet =
      some { row with balance := row.balance - debit, reserved := max 0 (row.reserved - debit) } :=
  post_wallet_self ..

theorem finalConsume_eq : ledger.finalConsume wallet row sess final now stamp =
      if 0 < ledger.finalDebit wallet row sess final now then
        if ledger.txnExists (.consumeSettle sess.id) then none
        else some (ledger.debited wallet row sess.id (ledger.finalDebit wallet row sess final now)
          (.consumeSettle sess.id) stamp) else some ledger := by
  simp only [finalConsume, finalDebit, Bool.and_eq_true, bne_iff_ne]
  by_cases billsFinal : final ∧ sess.creditPerHourSnapshot ≠ 0
  · simp only [if_pos billsFinal]
    by_cases affordable : 0 < min (ledger.due wallet sess now) row.balance
    · rw [if_pos affordable, max_eq_right affordable.le, if_pos affordable]
      rfl
    · rw [if_neg affordable, max_eq_left (not_lt.mp affordable), if_neg (lt_irrefl 0)]
  · simp only [if_neg billsFinal, lt_irrefl, if_false]

theorem closed_wallet_self {last : Wallet} :
    (charged.closed wallet last id key stamp).wallet wallet = some (charged.releasedRow wallet last id) :=
  post_wallet_self ..

/-- A settlement that is not repeated charges the final minute, gives the unspent hold back and posts the
settle row. -/
theorem settle_eq (billed : sess.billingWalletId = some wallet) (found : ledger.wallet wallet = some row) :
    ledger.settle sess (.settle sess.id) final now stamp =
      if ledger.txnExists (.settle sess.id) then ledger
      else if 0 < ledger.finalDebit wallet row sess final now then
        if ledger.txnExists (.consumeSettle sess.id) then ledger
        else
          let debit := ledger.finalDebit wallet row sess final now
          (ledger.debited wallet row sess.id debit (.consumeSettle sess.id) stamp).closed wallet
            { row with balance := row.balance - debit, reserved := max 0 (row.reserved - debit) } sess.id
            (.settle sess.id) stamp
      else ledger.closed wallet row sess.id (.settle sess.id) stamp := by
  have closes : ∀ {charged : Ledger} {last : Wallet}, charged.txnExists (.settle sess.id) = false →
      (charged.releaseHold wallet last sess.id stamp).settleMark wallet
        (charged.releasedRow wallet last sess.id) sess.id (.settle sess.id) stamp
        = some (charged.closed wallet last sess.id (.settle sess.id) stamp) := by
    intro charged last unsettled
    exact (record_eq_some ..).mpr ⟨by rw [txnExists_releaseHold_settle, unsettled], rfl⟩
  simp only [settle, settleWrites, billed]
  split_ifs with settled charges repeated
  · rfl
  · simp [settleParts, found, finalConsume_eq, charges, repeated]
  · rw [Bool.not_eq_true] at settled
    have unsettled : (ledger.debited wallet row sess.id (ledger.finalDebit wallet row sess final now)
        (.consumeSettle sess.id) stamp).txnExists (.settle sess.id) = false := by
      rw [txnExists_debited, settled]
      rfl
    simp [settleParts, found, finalConsume_eq, charges, repeated, debited_wallet_self, closes unsettled]
  · rw [Bool.not_eq_true] at settled
    simp [settleParts, found, finalConsume_eq, charges, closes settled]

end GShare.Model.Ledger

namespace GShare.Soundness.BudgetSpent

open Samples Ledger Directory List Option

inductive Operation where
  | hold (amount : HoldAmount)
  | consume (bucket now : ℤ)
  | settle (final : Bool) (now : ℤ)

/-- An operation on the wallet a session is billed to, and the moment of the rows it writes. -/
structure Call where
  session : Session
  operation : Operation
  stamp : ℤ

namespace Call

variable (ledger : Ledger) (call : Call)

/-- The ledger after the operation; a refused hold changes nothing. -/
def apply : Ledger :=
  match call.session.billingWalletId with
  | none => ledger
  | some wallet =>
    match call.operation with
    | .hold amount =>
      match ledger.hold wallet amount.value (.hold call.session.id) call.stamp with
      | .ok next => next
      | .error _ => ledger
    | .consume bucket now => ledger.consume call.session bucket now call.stamp
    | .settle final now => ledger.settle call.session (.settle call.session.id) final now call.stamp

def lowered : ℤ :=
  call.session.billingWalletId.elim 0 fun wallet =>
    ledger.balance wallet - (call.apply ledger).balance wallet

/-- The operation finds something to charge: a priced session that is not settled, a minute or a final
charge that is not booked yet, an amount due and a balance. -/
def Debits : Prop :=
  ∃ wallet row, call.session.billingWalletId = some wallet ∧ ledger.wallet wallet = some row ∧
    ledger.txnExists (.settle call.session.id) = false ∧
    match call.operation with
    | .hold _ => False
    | .consume bucket now =>
      call.session.creditPerHourSnapshot ≠ 0 ∧
      ledger.txnExists (.consume call.session.id bucket) = false ∧
      0 < min (ledger.due wallet call.session now) row.balance
    | .settle final now =>
      ledger.txnExists (.consumeSettle call.session.id) = false ∧
      0 < ledger.finalDebit wallet row call.session final now

/-- The operation is a settlement that finds credit held for the session, and still reserved, beyond all
its charges. -/
def Releases : Prop :=
  ∃ wallet row, call.session.billingWalletId = some wallet ∧ ledger.wallet wallet = some row ∧
    ledger.txnExists (.settle call.session.id) = false ∧
    match call.operation with
    | .hold _ | .consume _ _ => False
    | .settle final now =>
      let debit := ledger.finalDebit wallet row call.session final now
      (0 < debit → ledger.txnExists (.consumeSettle call.session.id) = false) ∧
      0 < ledger.sumHeld wallet call.session.id - ledger.sumConsumed wallet call.session.id none - debit ∧
      0 < row.reserved - debit

end Call

/-- What one operation on a session of the scope writes in the window: a debit that lowers the balance,
and a refund that does not. -/
structure Effect (consumes refunds : Txn → Bool) (ledger : Ledger) (call : Call) (debit refund : ℤ) :
    Prop where
  consumed : (call.apply ledger).total consumes = ledger.total consumes - debit
  refunded : (call.apply ledger).total refunds = ledger.total refunds + refund
  lowered : call.lowered ledger = debit
  debit_nonneg : 0 ≤ debit
  refund_nonneg : 0 ≤ refund
  debits : 0 < debit ↔ call.Debits ledger
  releases : 0 < refund ↔ call.Releases ledger

variable {dir : Directory} {groups : List GroupId} {window : ℤ × ℤ}
variable {type : TxnType} {call : Call} {last : Wallet} {ledger : Ledger}

/-- The rows of a session in the scope, written in the window. -/
theorem selects_session {wanted : TxnType} {wallet : WalletId} {amount balance stamp : ℤ}
    {id : SessionId} {key : IdemKey} (inside : dir.inGroups groups id)
    (begun : window.1 ≤ stamp) (unfinished : stamp < window.2) :
    dir.selects groups window wanted ⟨wallet, type, amount, balance, some (.session id), key, stamp⟩
      = (type == wanted) := by
  simp [selects, inside, begun, unfinished]

theorem selects_nil (txn : Txn) : dir.selects [] window type txn = false := by
  have nobody : ∀ sess, dir.inGroups [] sess = false := by
    intro sess
    cases found : dir.groupOf sess <;> simp [inGroups, found]
  rw [selects]
  split
  · rw [nobody, Bool.and_false]
  · rw [Bool.and_false]

theorem effect_of_same (same : call.apply ledger = ledger)
    (debits : ¬call.Debits ledger) (releases : ¬call.Releases ledger) (consumes refunds : Txn → Bool) :
    Effect consumes refunds ledger call 0 0 where
  consumed := by rw [same, sub_zero]
  refunded := by rw [same, add_zero]
  lowered := by
    unfold Call.lowered
    rw [same]
    cases call.session.billingWalletId with
    | none => rfl
    | some wallet => exact sub_self _
  debit_nonneg := le_rfl
  refund_nonneg := le_rfl
  debits := ⟨fun impossible => absurd impossible (lt_irrefl 0), fun charged => absurd charged debits⟩
  releases := ⟨fun impossible => absurd impossible (lt_irrefl 0), fun given => absurd given releases⟩

section Billed

variable {ledger : Ledger} {sess : Session} {wallet : WalletId} {stamp : ℤ}
variable (billed : sess.billingWalletId = some wallet) (found : ledger.wallet wallet = some row)
include billed found

theorem located_iff {holds : WalletId → Wallet → Prop} :
    (∃ wallet row, sess.billingWalletId = some wallet ∧ ledger.wallet wallet = some row ∧ holds wallet row) ↔
      holds wallet row := by
  constructor
  · rintro ⟨_, _, isWallet, isRow, checks⟩
    cases Option.some.inj (billed.symm.trans isWallet)
    cases Option.some.inj (found.symm.trans isRow)
    exact checks
  · exact fun checks => ⟨wallet, row, billed, found, checks⟩

theorem lowered_eq {operation : Operation}
    (after : (Call.apply ledger ⟨sess, operation, stamp⟩).wallet wallet = some last) :
    Call.lowered ledger ⟨sess, operation, stamp⟩ = row.balance - last.balance := by
  simp [Call.lowered, billed, balance, found, after]

variable (inside : dir.inGroups groups sess.id) (begun : window.1 ≤ stamp)
variable (unfinished : stamp < window.2)
include inside begun unfinished

theorem hold_effect (amount : HoldAmount) :
    Effect (dir.selects groups window .consume) (dir.selects groups window .refund) ledger
      ⟨sess, .hold amount, stamp⟩ 0 0 := by
  have debits : ¬Call.Debits ledger ⟨sess, .hold amount, stamp⟩ := by
    simp [Call.Debits]
  have releases : ¬Call.Releases ledger ⟨sess, .hold amount, stamp⟩ := by
    simp [Call.Releases]
  cases outcome : ledger.hold wallet amount.value (.hold sess.id) stamp with
  | error _ => exact effect_of_same (by simp only [Call.apply, billed, outcome]) debits releases _ _
  | ok next =>
    have applied : Call.apply ledger ⟨sess, .hold amount, stamp⟩ = next := by
      simp only [Call.apply, billed, outcome]
    rcases hold_cases outcome with ⟨same, -⟩ | ⟨_, isRow, -, -, posted⟩
    · exact effect_of_same (applied.trans same) debits releases _ _
    · cases Option.some.inj (found.symm.trans isRow)
      refine ⟨?_, ?_, ?_, le_rfl, le_rfl, by simp [debits], by simp [releases]⟩
      iterate 2
        · rw [applied, posted, held, total_post, selects_session inside begun unfinished]
          simp
      · rw [lowered_eq billed found (by rw [applied, posted, held, post_wallet_self])]
        exact sub_self _

theorem consume_effect (bucket now : ℤ) :
    ∃ debit, Effect (dir.selects groups window .consume) (dir.selects groups window .refund)
      ledger ⟨sess, .consume bucket now, stamp⟩ debit 0 := by
  have releases : ¬Call.Releases ledger ⟨sess, .consume bucket now, stamp⟩ := by
    simp [Call.Releases]
  have applied : Call.apply ledger ⟨sess, .consume bucket now, stamp⟩
      = ledger.consume sess bucket now stamp := by
    simp only [Call.apply, billed]
  have debits : Call.Debits ledger ⟨sess, .consume bucket now, stamp⟩ ↔ _ := located_iff billed found
  rw [consume_eq billed found] at applied
  split_ifs at applied with charges
  · obtain ⟨priced, fresh, unsettled, pos⟩ := charges
    refine ⟨_, ?_, ?_, ?_, pos.le, le_rfl, ?_, by simp [releases]⟩
    · rw [applied, debited, total_post, selects_session inside begun unfinished]
      simp only [beq_self_eq_true, if_true]
      omega
    · rw [applied, debited, total_post, selects_session inside begun unfinished]
      simp
    · rw [lowered_eq billed found (by rw [applied, debited_wallet_self])]
      exact sub_sub_cancel _ _
    · exact ⟨fun _ => debits.mpr ⟨unsettled, priced, fresh, pos⟩, fun _ => pos⟩
  · refine ⟨0, effect_of_same applied (fun charged => charges ?_) releases _ _⟩
    obtain ⟨unsettled, priced, fresh, pos⟩ := debits.mp charged
    exact ⟨priced, fresh, unsettled, pos⟩

omit billed found in
/-- The rows of a release and of the settle row, in the window. -/
theorem total_closed {last : Wallet} {key : IdemKey} :
    (ledger.closed wallet last sess.id key stamp).total (dir.selects groups window .consume)
      = ledger.total (dir.selects groups window .consume) ∧
    (ledger.closed wallet last sess.id key stamp).total (dir.selects groups window .refund)
      = ledger.total (dir.selects groups window .refund) + ledger.released wallet last sess.id := by
  have floor : 0 ≤ ledger.released wallet last sess.id := released_nonneg sess.id
  constructor
  · rw [closed, total_post, total_releaseHold,
      selects_session inside begun unfinished, selects_session inside begun unfinished]
    simp
  · rw [closed, total_post, total_releaseHold,
      selects_session inside begun unfinished, selects_session inside begun unfinished]
    simp only [beq_self_eq_true, and_true]
    split_ifs <;> omega

section

variable (settled : ledger.txnExists (.settle sess.id) = false)

include settled

theorem charged_effect (repeated : ledger.txnExists (.consumeSettle sess.id) = false)
    (charges : 0 < ledger.finalDebit wallet row sess final now)
    (isCharged : charged = ledger.debited wallet row sess.id
      (ledger.finalDebit wallet row sess final now) (.consumeSettle sess.id) stamp)
    (isLast : last = { row with
      balance := row.balance - ledger.finalDebit wallet row sess final now,
      reserved := max 0 (row.reserved - ledger.finalDebit wallet row sess final now) })
    (applied : Call.apply ledger ⟨sess, .settle final now, stamp⟩
      = charged.closed wallet last sess.id (.settle sess.id) stamp) :
    Effect (dir.selects groups window .consume) (dir.selects groups window .refund) ledger
      ⟨sess, .settle final now, stamp⟩ (ledger.finalDebit wallet row sess final now)
      (charged.released wallet last sess.id) := by
  obtain ⟨consumed, refunded⟩ := @total_closed dir groups window charged sess wallet stamp
    inside begun unfinished last (.settle sess.id)
  refine ⟨?_, ?_, ?_, charges.le, released_nonneg sess.id, ?_, ?_⟩
  · rw [applied, consumed, isCharged, debited, total_post,
      selects_session inside begun unfinished]
    simp only [beq_self_eq_true, if_true]
    omega
  · rw [applied, refunded, isCharged, debited, total_post,
      selects_session inside begun unfinished]
    simp
  · rw [lowered_eq billed found (by rw [applied, closed_wallet_self])]
    simp [releasedRow, isLast]
  · exact ⟨fun _ => (located_iff billed found).mpr ⟨settled, repeated, charges⟩, fun _ => charges⟩
  · rw [released_pos_iff, isCharged, isLast]
    simp only [Call.Releases, located_iff billed found, sumHeld_debited, sumConsumed_debited, all_none, and_self,
      if_true, settled, repeated, implies_true, true_and]
    omega

/-- A settlement without one only releases what is left of the hold. -/
theorem uncharged_effect (nothing : ledger.finalDebit wallet row sess final now = 0)
    (applied : Call.apply ledger ⟨sess, .settle final now, stamp⟩
      = ledger.closed wallet row sess.id (.settle sess.id) stamp) :
    Effect (dir.selects groups window .consume) (dir.selects groups window .refund) ledger
      ⟨sess, .settle final now, stamp⟩ 0 (ledger.released wallet row sess.id) := by
  obtain ⟨consumed, refunded⟩ := @total_closed dir groups window ledger sess wallet stamp
    inside begun unfinished row (.settle sess.id)
  refine ⟨?_, ?_, ?_, le_rfl, released_nonneg sess.id, ?_, ?_⟩
  · rw [applied, consumed, sub_zero]
  · rw [applied, refunded]
  · rw [lowered_eq billed found (by rw [applied, closed_wallet_self])]
    exact sub_self _
  · simp [Call.Debits, billed, found, nothing]
  · simp [released_pos_iff, Call.Releases, billed, found, nothing, settled]

end

theorem settle_effect (final : Bool) (now : ℤ) :
    ∃ debit refund, Effect (dir.selects groups window .consume)
      (dir.selects groups window .refund) ledger ⟨sess, .settle final now, stamp⟩ debit refund := by
  have applied : Call.apply ledger ⟨sess, .settle final now, stamp⟩
      = ledger.settle sess (.settle sess.id) final now stamp := by
    simp only [Call.apply, billed]
  have debits : Call.Debits ledger ⟨sess, .settle final now, stamp⟩ ↔ _ := located_iff billed found
  have releases : Call.Releases ledger ⟨sess, .settle final now, stamp⟩ ↔ _ := located_iff billed found
  have floor : 0 ≤ ledger.finalDebit wallet row sess final now := by
    unfold finalDebit
    split_ifs <;> omega
  rw [settle_eq billed found] at applied
  split_ifs at applied with settled charges repeated
  · refine ⟨0, 0, effect_of_same applied ?_ ?_ _ _⟩
    · rw [debits, settled]
      simp
    · rw [releases, settled]
      simp
  · refine ⟨0, 0, effect_of_same applied ?_ ?_ _ _⟩
    · rw [debits, repeated]
      simp
    · rw [releases, repeated]
      simp [charges]
  · rw [Bool.not_eq_true] at settled repeated
    exact ⟨_, _, charged_effect billed found inside begun unfinished settled repeated charges rfl rfl applied⟩
  · rw [Bool.not_eq_true] at settled
    exact ⟨_, _, uncharged_effect billed found inside begun unfinished settled (by omega) applied⟩

end Billed

/-- An operation on a session without a wallet, or with one that is gone, does nothing. -/
theorem effect_of_missing
    (missing : call.session.billingWalletId.bind ledger.wallet = none) (consumes refunds : Txn → Bool) :
    Effect consumes refunds ledger call 0 0 := by
  have nobody {holds : WalletId → Wallet → Prop} : ¬∃ wallet row,
      call.session.billingWalletId = some wallet ∧ ledger.wallet wallet = some row ∧ holds wallet row := by
    rintro ⟨wallet, row, billed, found, -⟩
    rw [billed, bind_some, found] at missing
    cases missing
  refine effect_of_same ?_ nobody nobody consumes refunds
  unfold Call.apply
  cases billed : call.session.billingWalletId with
  | none => rfl
  | some wallet =>
    have absent : ledger.wallet wallet = none := by rwa [billed, bind_some] at missing
    cases call.operation with
    | hold amount =>
      simp only [hold, absent]
      split_ifs <;> rfl
    | consume bucket now => simp [consume, charge, billed, absent]
    | settle final now => simp [settle, settleWrites, settleParts, billed, absent]

/-- What any operation on a session of the scope writes in the window. -/
theorem apply_effect (ledger : Ledger) (call : Call)
    (inside : dir.inGroups groups call.session.id) (begun : window.1 ≤ call.stamp)
    (unfinished : call.stamp < window.2) :
    ∃ debit refund, Effect (dir.selects groups window .consume)
      (dir.selects groups window .refund) ledger call debit refund := by
  cases located : call.session.billingWalletId.bind ledger.wallet with
  | none => exact ⟨0, 0, effect_of_missing located _ _⟩
  | some row =>
    obtain ⟨wallet, billed, found⟩ := bind_eq_some_iff.mp located
    obtain ⟨sess, operation, stamp⟩ := call
    cases operation with
    | hold amount => exact ⟨0, 0, hold_effect billed found inside begun unfinished amount⟩
    | consume bucket now =>
      obtain ⟨debit, effect⟩ := consume_effect billed found inside begun unfinished bucket now
      exact ⟨debit, 0, effect⟩
    | settle final now => exact settle_effect billed found inside begun unfinished final now

/-- The ledger after a sequence of operations. -/
def after (ledger : Ledger) (calls : List Call) : Ledger := calls.foldl Call.apply ledger

/-- By how much a sequence of operations lowered the balances of the wallets. -/
def loweredBy (ledger : Ledger) : List Call → ℤ
  | [] => 0
  | call :: rest => call.lowered ledger + loweredBy (call.apply ledger) rest

/-- An operation of the sequence does something to the ledger it finds. -/
def Happens (what : Ledger → Call → Prop) (ledger : Ledger) : List Call → Prop
  | [] => False
  | call :: rest => what ledger call ∨ Happens what (call.apply ledger) rest

/-- The operation is on a session of the groups, and its rows fall in the window. -/
def Call.Within (dir : Directory) (groups : List GroupId) (window : ℤ × ℤ) (call : Call) : Prop :=
  dir.inGroups groups call.session.id ∧ window.1 ≤ call.stamp ∧ call.stamp < window.2

/-- What a sequence of operations on sessions of the scope writes in the window. -/
theorem sequence_effect (ledger : Ledger) (calls : List Call)
    (within : ∀ call ∈ calls, call.Within dir groups window) :
    ∃ refund, 0 ≤ refund ∧ (0 < refund ↔ Happens (fun ledger call => call.Releases ledger) ledger calls) ∧
      0 ≤ loweredBy ledger calls ∧
      (0 < loweredBy ledger calls ↔ Happens (fun ledger call => call.Debits ledger) ledger calls) ∧
      (after ledger calls).total (dir.selects groups window .consume)
        = ledger.total (dir.selects groups window .consume) - loweredBy ledger calls ∧
      (after ledger calls).total (dir.selects groups window .refund)
        = ledger.total (dir.selects groups window .refund) + refund := by
  induction calls generalizing ledger with
  | nil => exact ⟨0, le_rfl, by simp [Happens], le_rfl, by simp [loweredBy, Happens],
      by simp [after, loweredBy], by simp [after]⟩
  | cons call rest ih =>
    obtain ⟨inside, begun, unfinished⟩ := within call mem_cons_self
    obtain ⟨debit, refund, effect⟩ := apply_effect ledger call inside begun unfinished
    obtain ⟨later, laterNonneg, laterReleases, restNonneg, restDebits, restConsumed, restRefunded⟩ :=
      ih (call.apply ledger) fun other member => within other (mem_cons_of_mem call member)
    have debits := effect.debits
    have releases := effect.releases
    have debitNonneg := effect.debit_nonneg
    have refundNonneg := effect.refund_nonneg
    have sum : loweredBy ledger (call :: rest) = debit + loweredBy (call.apply ledger) rest := by
      rw [loweredBy, effect.lowered]
    refine ⟨refund + later, by omega, ?_, by omega, ?_, ?_, ?_⟩
    · rw [Happens, ← releases, ← laterReleases]
      omega
    · rw [Happens, ← debits, ← restDebits, sum]
      omega
    · have first := effect.consumed
      rw [show after ledger (call :: rest) = after (call.apply ledger) rest from rfl, restConsumed, first, sum]
      omega
    · have first := effect.refunded
      rw [show after ledger (call :: rest) = after (call.apply ledger) rest from rfl, restRefunded, first]
      omega

/-- The consume and the refund rows are added up separately. -/
theorem total_selects (ledger : Ledger) :
    (ledger.total fun txn => dir.selects groups window .consume txn ||
        dir.selects groups window .refund txn) = ledger.total (dir.selects groups window .consume)
        + ledger.total (dir.selects groups window .refund) := by
  unfold total
  induction ledger.txns with
  | nil => rfl
  | cons txn rest ih =>
    have apart : dir.selects groups window .consume txn →
        dir.selects groups window .refund txn = false := by
      intro consumes
      simp only [selects, Bool.and_eq_true, beq_iff_eq] at consumes
      simp [selects, consumes.1.1.1]
    cases consumes : dir.selects groups window .consume txn with
    | true => simp [consumes, apart consumes, ih, add_assoc]
    | false =>
      simp only [filter_cons, consumes, Bool.false_or, Bool.false_eq_true, if_false]
      split_ifs
      · rw [map_cons, map_cons, sum_cons, sum_cons, ih, add_left_comm]
      · exact ih

theorem total_eq_zero {selected : Txn → Bool}
    (none : ∀ txn ∈ ledger.txns, selected txn = false) : ledger.total selected = 0 := by
  rw [total, filter_eq_nil_iff.mpr fun txn member => by simp [none txn member]]
  rfl

/-- In a month that begins with no rows for the scope, the operations lower the balances by the debits of
the consume rows. The rollup finds that amount exactly when no settlement released an unspent hold or
nothing was debited at all. -/
theorem spent_eq_debited_iff {dir : Directory} {ledger : Ledger} {calls : List Call} {budget : Budget}
    {now : ℤ} (started : budget.periodStart ≤ now)
    (fresh : ∀ txn ∈ ledger.txns, ∀ type, dir.selects (dir.scopeGroupIds budget.scope)
      (dir.periodWindow budget.scope now) type txn = false)
    (within : ∀ call ∈ calls, call.Within dir (dir.scopeGroupIds budget.scope)
      (dir.periodWindow budget.scope now)) :
    loweredBy ledger calls = -(after ledger calls).total (dir.selects
      (dir.scopeGroupIds budget.scope) (dir.periodWindow budget.scope now) .consume) ∧
    ((budget.rollup dir (after ledger calls) now).spentCredit = loweredBy ledger calls ↔
      ¬Happens (fun ledger call => call.Releases ledger) ledger calls ∨
      ¬Happens (fun ledger call => call.Debits ledger) ledger calls) := by
  obtain ⟨refund, refundNonneg, releases, debitNonneg, debits, consumed, refunded⟩ :=
    sequence_effect ledger calls within
  rw [total_eq_zero fun txn member => fresh txn member .consume] at consumed
  rw [total_eq_zero fun txn member => fresh txn member .refund] at refunded
  have spent : (budget.rollup dir (after ledger calls) now).spentCredit
      = max 0 (loweredBy ledger calls - refund) := by
    have isSpent : (budget.rollup dir (after ledger calls) now).spentCredit
        = dir.spent (after ledger calls) budget.scope now := by
      rw [Budget.rollup, if_pos started]
      rfl
    rw [isSpent, spent, spentInPeriod, total_selects]
    dsimp only
    split_ifs with nobody
    · -- Without groups in the scope there are no rows to add up.
      rw [nobody] at consumed refunded
      rw [total_eq_zero fun txn _ => selects_nil txn] at consumed refunded
      omega
    · omega
    · omega
  rw [spent, ← releases, ← debits]
  exact ⟨by omega, by omega⟩

def chargedHour : List Call :=
  [⟨wholeCard 0 600, .hold tenCredits, 0⟩,
    ⟨wholeCard 0 600, .consume 60 (3600 * second), 3600 * second⟩]

/-- The session ends, and the four credits that were not spent are released. -/
def settledHour : List Call := chargedHour ++ [⟨wholeCard 0 600, .settle false (3600 * second), 3600 * second⟩]

theorem spent_eq_debited_hour : loweredBy hundredCredits chargedHour = 600 ∧
    ((groupBudget .alert).rollup oneGroup (after hundredCredits chargedHour) (3600 * second)).spentCredit
      = loweredBy hundredCredits chargedHour := by
  have within : ∀ call ∈ chargedHour, call.Within oneGroup (oneGroup.scopeGroupIds (.group 0))
      (oneGroup.periodWindow (.group 0) (3600 * second)) := by
    unfold Call.Within
    decide +kernel
  refine ⟨by decide +kernel, (spent_eq_debited_iff (by decide) (fun _ absent => absurd absent
    not_mem_nil) within).2.mpr (.inl ?_)⟩
  simp [chargedHour, Happens, Call.Releases]

/-- Six credits were taken from the wallet, and the budget says two. -/
theorem spent_below_debited :
    (∀ call ∈ settledHour, call.Within oneGroup (oneGroup.scopeGroupIds (groupBudget .alert).scope)
      (oneGroup.periodWindow (groupBudget .alert).scope (3600 * second))) ∧
    loweredBy hundredCredits settledHour = 600 ∧
    ((groupBudget .alert).rollup oneGroup (after hundredCredits settledHour) (3600 * second)).spentCredit
      = 200 := by
  unfold Call.Within
  decide +kernel

end GShare.Soundness.BudgetSpent
