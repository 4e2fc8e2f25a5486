import GShare.Proofs.Credit.Engine

/-! # Open holds

A hold of a session is open until a settle row of the session stands behind it. A settlement closes
every open hold, provided that the wallet is there and the key of its final charge is not used up.
`Orderly` is what makes sure of that.
-/

namespace GShare.Model.Ledger

variable {ledger next : Ledger} {wallet : WalletId} {row : Wallet} {sess : Session}
variable {id : SessionId} {key : IdemKey} {amount bucket now stamp : ℤ}
variable {type : TxnType} {ref : Option Ref}

/-- A hold row of the session behind which no settle row stands; rows are newest first. -/
def holdOpen (ledger : Ledger) (id : SessionId) : Bool :=
  (ledger.txns.takeWhile (·.key != .settle id)).any
    fun txn => txn.type == .hold && txn.ref == some (.session id)

theorem holdOpen_post (type : TxnType) (ref : Option Ref) :
    (ledger.post wallet row type amount ref key stamp).holdOpen id =
      (key != .settle id && (type == .hold && ref == some (.session id) || ledger.holdOpen id)) := by
  simp only [holdOpen, post, List.takeWhile_cons]
  cases key != .settle id <;> simp

/-- What keeps a settlement of the session possible as long as a hold is open. -/
structure Orderly (ledger : Ledger) (id : SessionId) (wallet : WalletId) : Prop where
  closed : ledger.txnExists (.settle id) → ledger.holdOpen id = false
  marked : ledger.txnExists (.consumeSettle id) → ledger.txnExists (.settle id)
  backed : ledger.holdOpen id → (ledger.wallet wallet).isSome

/-- A change that concerns neither the holds of the session nor its settlement. -/
structure Untouched (ledger next : Ledger) (id : SessionId) : Prop where
  holdOpen : next.holdOpen id = ledger.holdOpen id
  settled : next.txnExists (.settle id) = ledger.txnExists (.settle id)
  charged : next.txnExists (.consumeSettle id) = ledger.txnExists (.consumeSettle id)
  wallets : ∀ wallet, (ledger.wallet wallet).isSome → (next.wallet wallet).isSome

theorem Untouched.refl (ledger : Ledger) (id : SessionId) : ledger.Untouched ledger id :=
  ⟨rfl, rfl, rfl, fun _ => fun found => found⟩

theorem Orderly.untouched (orderly : ledger.Orderly id wallet) (same : ledger.Untouched next id) :
    next.Orderly id wallet where
  closed settled := same.holdOpen.trans (orderly.closed (same.settled.symm.trans settled))
  marked charged := same.settled.trans (orderly.marked (same.charged.symm.trans charged))
  backed opened := same.wallets wallet (orderly.backed (same.holdOpen.symm.trans opened))

theorem isSome_wallet_post {other : WalletId} (found : (ledger.wallet other).isSome) :
    ((ledger.post wallet row type amount ref key stamp).wallet other).isSome := by
  by_cases same : other = wallet
  · subst same
    simp
  · rwa [post_wallet_of_ne _ _ _ _ _ _ _ _ same]

theorem untouched_post (noHold : ¬(type = .hold ∧ ref = some (.session id))) (noMark : key ≠ .settle id)
    (noCharge : key ≠ .consumeSettle id) :
    ledger.Untouched (ledger.post wallet row type amount ref key stamp) id where
  holdOpen := by
    have skipped : (type == .hold && ref == some (.session id)) = false := by simpa using noHold
    rw [holdOpen_post, skipped, bne_iff_ne.mpr noMark, Bool.true_and, Bool.false_or]
  settled := by rw [post_txnExists, beq_eq_false_iff_ne.mpr noMark, Bool.false_or]
  charged := by rw [post_txnExists, beq_eq_false_iff_ne.mpr noCharge, Bool.false_or]
  wallets _ found := isSome_wallet_post found

theorem Charged.untouched (charging : Charged ledger wallet sess key now stamp next)
    (noMark : key ≠ .settle id) (noCharge : key ≠ .consumeSettle id) : ledger.Untouched next id := by
  cases charging with
  | nothing => exact .refl ledger id
  | debit row amount found pos exact_ fresh unsettled priced =>
    exact untouched_post (by simp) noMark noCharge

/-- The per-minute charge touches no hold. -/
theorem untouched_consume : ledger.Untouched (ledger.consume sess bucket now stamp) id := by
  cases billed : sess.billingWalletId with
  | none =>
    rw [consume_of_unbilled billed]
    exact .refl ledger id
  | some wallet => exact (consume_charged billed).untouched (by simp) (by simp)

theorem Orderly.hold {amount : ℚ} (orderly : ledger.Orderly id wallet)
    (unsettled : ledger.txnExists (.settle id) = false)
    (success : ledger.hold wallet amount (.hold id) stamp = .ok next) :
    next.Orderly id wallet ∧ next.txnExists (.settle id) = false := by
  rcases hold_cases success with ⟨rfl, _⟩ | ⟨row, found, _, _, rfl⟩
  · exact ⟨orderly, unsettled⟩
  · have still : (ledger.held wallet row id (round2 amount) stamp).txnExists (.settle id) = false := by
      simpa using unsettled
    refine ⟨⟨fun settled => ?_, fun charged => ?_, fun _ => by simp [held]⟩, still⟩
    · rw [still] at settled
      cases settled
    · have before := orderly.marked (by simpa [held] using charged)
      rw [unsettled] at before
      cases before

/-- The final charge goes through unless its key is taken, and leaves the wallet in place. -/
theorem finalConsume_eq_some (found : ledger.wallet wallet = some row) (final : Bool)
    (fresh : ledger.txnExists (.consumeSettle sess.id) = false) :
    ∃ charged left, ledger.finalConsume wallet row sess final now stamp = some charged ∧
      charged.wallet wallet = some left := by
  simp only [finalConsume]
  split_ifs
  · exact ⟨_, _, takeDebit_eq_some.mpr ⟨fresh, rfl⟩, post_wallet_self ..⟩
  · exact ⟨ledger, row, rfl, found⟩
  · exact ⟨ledger, row, rfl, found⟩

/-- An unsettled session whose wallet is there and whose keys are free is settled by `settle`. -/
theorem settle_eq_closed (billed : sess.billingWalletId = some wallet)
    (found : ledger.wallet wallet = some row) (final : Bool)
    (unsettled : ledger.txnExists (.settle sess.id) = false)
    (fresh : ledger.txnExists (.consumeSettle sess.id) = false) :
    ∃ (charged : Ledger) (left : Wallet),
      ledger.finalConsume wallet row sess final now stamp = some charged ∧
      ledger.settle sess (.settle sess.id) final now stamp
        = charged.closed wallet left sess.id (.settle sess.id) stamp := by
  obtain ⟨charged, left, charging, foundAfter⟩ :=
    @finalConsume_eq_some ledger wallet row sess now stamp found final fresh
  have markFree : (charged.releaseHold wallet left sess.id stamp).txnExists (.settle sess.id)
      = false := by
    rw [txnExists_releaseHold_settle, finalConsume_txnExists_settle charging, unsettled]
  refine ⟨charged, left, charging, ?_⟩
  have parts : ledger.settleParts wallet sess (.settle sess.id) final now stamp
      = some [charged, charged.releaseHold wallet left sess.id stamp,
          charged.closed wallet left sess.id (.settle sess.id) stamp] := by
    simp only [settleParts, Option.bind_eq_bind, found, Option.bind_some, charging, foundAfter,
      releaseHold_wallet_self, settleMark, (record_eq_some ..).mpr ⟨markFree, rfl⟩]
    rfl
  simp [settle, settleWrites, billed, unsettled, parts]

theorem Orderly.settle (orderly : ledger.Orderly sess.id wallet)
    (billed : sess.billingWalletId = some wallet) (final : Bool) :
    (ledger.settle sess (.settle sess.id) final now stamp).Orderly sess.id wallet ∧
      (ledger.settle sess (.settle sess.id) final now stamp).holdOpen sess.id = false := by
  rcases @settle_cases ledger wallet sess now stamp billed final with
    same | ⟨start, charged, left, _, same⟩
  · rw [same]
    refine ⟨orderly, ?_⟩
    by_contra opened
    have held : ledger.holdOpen sess.id := by simpa using opened
    obtain ⟨row, found⟩ := Option.isSome_iff_exists.mp (orderly.backed held)
    have unsettled : ledger.txnExists (.settle sess.id) = false := by
      by_contra settled
      exact opened (orderly.closed (by simpa using settled))
    have fresh : ledger.txnExists (.consumeSettle sess.id) = false := by
      by_contra charged
      rw [orderly.marked (by simpa using charged)] at unsettled
      cases unsettled
    -- Nothing stood in the way, so the settle row would be there.
    obtain ⟨charged, left, _, done⟩ :=
      @settle_eq_closed ledger wallet row sess now stamp billed found final unsettled fresh
    rw [← same, done, txnExists_closed_settle] at unsettled
    simp at unsettled
  · have shut : (charged.closed wallet left sess.id (.settle sess.id) stamp).holdOpen sess.id
        = false := by
      rw [Ledger.closed, holdOpen_post]
      simp
    rw [same]
    exact ⟨⟨fun _ => shut, fun _ => by simp, fun opened => by rw [shut] at opened; cases opened⟩, shut⟩

end GShare.Model.Ledger
