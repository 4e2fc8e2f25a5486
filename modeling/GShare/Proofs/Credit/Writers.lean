import GShare.Model.Credit.Writers
import GShare.Proofs.Credit.Engine
import Mathlib.Logic.Relation

/-! # What the writers can do to the ledger

Every writer of wallets is a chain of writes of single wallet rows, each in one statement with its
transaction row or without one when the balance stays. `Writes` says what one such write guarantees:
a sound wallet row stays sound, and the amount on the row is the change of the balance. Both are
conditional, because two writers compute with amounts of any length in 28 digits, and one of them rounds
the balances and the rows separately.
-/

namespace GShare.Model

open Ledger TxnType Option List Function Relation Tx

/-- What a transaction can count on: `narrow`, that the balances it reads fit their column, and `exact`, that
it books what it moves. -/
structure Premises where
  narrow : Prop
  exact : Prop

variable {given : Premises} {next : Ledger} {row : Wallet} {stamp : ℤ}

/-- The database's check on a wallet row. -/
def Wallet.Sound (row : Wallet) : Prop := 0 ≤ row.reserved ∧ row.reserved ≤ row.balance

/-- The types whose amounts make up the balance; the others record reservations and settlements. -/
def TxnType.moves : TxnType → Bool
  | .hold | .refund | .settle => false
  | .topup | .consume | .adjust => true

variable {month : ℕ} {balance : ℤ} {done : List WalletId}

namespace Ledger

inductive Writes (given : Premises) (ledger : Ledger) : Ledger → Prop
  | row (id : WalletId) (old new : Wallet) (type : TxnType) (amount : ℤ) (ref : Option Ref)
      (key : IdemKey) (stamp : ℤ) (found : ledger.wallet id = some old)
      (owner : new.ownerType = old.ownerType) (sound : given.narrow → old.Sound → new.Sound)
      (booked : given.exact → new.balance = old.balance + if type.moves then amount else 0) :
      Writes given ledger (ledger.post id new type amount ref key stamp)
  | columns (id : WalletId) (old new : Wallet) (found : ledger.wallet id = some old)
      (owner : new.ownerType = old.ownerType) (sound : old.Sound → new.Sound) (same : new.balance = old.balance) :
      Writes given ledger (ledger.setWallet id new)

/-- Any number of writes. -/
abbrev Reaches (given : Premises) : Ledger → Ledger → Prop := ReflTransGen (Writes given)

theorem Reaches.mono {more : Premises} {ledger next : Ledger} (narrow : more.narrow → given.narrow)
    (exact_ : more.exact → given.exact) (reaches : Reaches given ledger next) : Reaches more ledger next := by
  refine ReflTransGen.mono (fun before after write => ?_) _ _ reaches
  cases write with
  | row id old new type amount ref key stamp found owner sound booked =>
    exact .row id old new type amount ref key stamp found owner (sound ∘ narrow) (booked ∘ exact_)
  | columns id old new found owner sound same => exact .columns id old new found owner sound same

variable {ledger : Ledger} {wallet source target : WalletId}
variable {sourceRow targetRow : Wallet} {sess : Session} {key : IdemKey}
variable {amount now : ℤ}
variable {value : ℚ}

theorem Charged.reaches (charging : ledger.Charged wallet sess key now stamp next) :
    Reaches given ledger next := by
  cases charging with
  | nothing => exact .refl
  | debit row amount found pos bound fresh unsettled priced =>
    refine .single (.row wallet row _ .consume (-amount) _ key stamp found rfl ?_ ?_)
    · rintro - ⟨nonneg, covered⟩
      exact ⟨le_max_left _ _, max_le (by dsimp only; omega) (by dsimp only; omega)⟩
    · intro _
      simp only [moves, if_true]
      omega

theorem consume_reaches (sess : Session) (bucket now stamp : ℤ) :
    Reaches given ledger (ledger.consume sess bucket now stamp) := by
  cases billed : sess.billingWalletId with
  | none =>
    rw [consume_of_unbilled billed]
  | some wallet => exact (consume_charged billed).reaches

theorem hold_reaches {id : SessionId} (nonneg : 0 ≤ value)
    (success : ledger.hold wallet value (.hold id) stamp = .ok next) : Reaches given ledger next := by
  rcases hold_cases success with ⟨rfl, -⟩ | ⟨row, found, fits, fresh, rfl⟩
  · exact .refl
  · have amountNonneg := round2_mono nonneg
    rw [round2_zero] at amountNonneg
    refine .single (.row wallet row _ .hold _ _ _ stamp found rfl ?_ (fun _ => by simp [moves]))
    rintro - ⟨reservedNonneg, covered⟩
    exact ⟨by dsimp only; omega, by dsimp only; omega⟩

private theorem releasedRow_sound (id : SessionId) (sound : row.Sound) :
    (ledger.releasedRow wallet row id).Sound := by
  obtain ⟨nonneg, covered⟩ := sound
  have share := ledger.ownOutstandingHold_eq_max wallet id
  simp only [Wallet.Sound, releasedRow]
  split_ifs <;> omega

private theorem releaseHold_reaches (found : ledger.wallet wallet = some row) (id : SessionId) :
    Reaches given ledger (ledger.releaseHold wallet row id stamp) := by
  rcases releaseHold_cases ledger wallet row id stamp with ⟨released, -, same⟩ | same
  · rw [same]
    exact .single (.row wallet row _ .refund _ _ _ stamp found rfl (fun _ => releasedRow_sound id)
      (fun _ => by simp [moves, releasedRow]))
  · rw [same]
    exact .single (.columns wallet row _ found rfl (releasedRow_sound id) rfl)

private theorem closed_reaches (found : ledger.wallet wallet = some row) (id : SessionId) :
    Reaches given ledger (ledger.closed wallet row id key stamp) :=
  (releaseHold_reaches found id).tail
    (.row wallet _ _ .settle 0 _ key stamp (releaseHold_wallet_self id) rfl (fun _ sound => sound)
      (fun _ => by simp [moves]))

theorem settleWrites_reach (sess : Session) (final : Bool) (now stamp : ℤ) :
    ∀ written ∈ ledger.settleWrites sess (.settle sess.id) final now stamp, Reaches given ledger written := by
  cases billed : sess.billingWalletId with
  | none => simp [settleWrites, billed]
  | some wallet =>
    rcases @settleWrites_cases ledger wallet sess now stamp billed final with
      nothing | ⟨start, charged, row, ⟨foundStart, charging, found, unsettled⟩, writes⟩
    · simp [nothing]
    · rw [writes]
      intro written member
      have upToCharge : Reaches given ledger charged :=
        (finalConsume_charged foundStart unsettled charging).reaches
      simp only [mem_cons, not_mem_nil, or_false] at member
      rcases member with rfl | rfl | rfl
      · exact upToCharge
      · exact upToCharge.trans (releaseHold_reaches found sess.id)
      · exact upToCharge.trans (closed_reaches found sess.id)

theorem settle_reaches (sess : Session) (final : Bool) (now stamp : ℤ) :
    Reaches given ledger (ledger.settle sess (.settle sess.id) final now stamp) := by
  rw [settle]
  cases last : (ledger.settleWrites sess (.settle sess.id) final now stamp).getLast? with
  | none => exact .refl
  | some written =>
    exact settleWrites_reach sess final now stamp written (mem_of_getLast? last)

theorem credit_writes {type : TxnType} {ref : Option Ref} (found : ledger.wallet wallet = some row)
    (moves : type.moves) (sound : row.Sound → row.reserved ≤ row.balance + amount)
    (success : ledger.credit wallet row type amount ref key stamp = some next) : Writes given ledger next := by
  obtain ⟨-, rfl⟩ := (record_eq_some ..).mp success
  exact .row wallet row _ type amount ref key stamp found rfl
    (fun _ old => ⟨old.1, sound old⟩) (fun _ => by simp [moves])

theorem legs_eq_some {newSource newTarget : Wallet} {refs : Leg → Option Ref} {keys : Leg → IdemKey}
    (success : ledger.legs source target newSource newTarget amount refs keys stamp = some next) :
    next = (ledger.post source newSource .adjust (-amount) (refs .outgoing) (keys .outgoing) stamp).post
      target newTarget .adjust amount (refs .incoming) (keys .incoming) stamp := by
  simp only [legs, bind_eq_bind, bind_eq_some_iff] at success
  obtain ⟨middle, out, success⟩ := success
  obtain ⟨-, rfl⟩ := (record_eq_some ..).mp out
  exact ((record_eq_some ..).mp success).2

/-- A movement between two wallets that the free balance of the source covers. -/
inductive CoveredMove (ledger : Ledger) : Ledger → Prop
  | intro (source target : WalletId) (sourceRow targetRow : Wallet) (amount : ℤ)
      (refs : Leg → Option Ref) (keys : Leg → IdemKey) (stamp : ℤ) (next : Ledger)
      (foundSource : ledger.wallet source = some sourceRow)
      (foundTarget : ledger.wallet target = some targetRow) (distinct : source ≠ target)
      (pos : 0 < amount) (covered : amount ≤ sourceRow.balance - sourceRow.reserved)
      (success : ledger.move source target sourceRow targetRow amount refs keys stamp = some next) :
      CoveredMove ledger next

theorem CoveredMove.reaches (move : CoveredMove ledger next) : Reaches given ledger next := by
  obtain ⟨source, target, sourceRow, targetRow, amount, refs, keys, stamp, _, foundSource,
    foundTarget, distinct, pos, covered, success⟩ := move
  rw [legs_eq_some success]
  refine .tail (.single (.row source sourceRow _ .adjust (-amount) _ _ stamp foundSource (by rfl) ?_ ?_))
    (.row target targetRow _ .adjust amount _ _ stamp ?_ (by rfl) ?_ ?_)
  · rintro - ⟨nonneg, -⟩
    exact ⟨nonneg, by dsimp only; omega⟩
  · intro _
    simp only [moves, if_true]
    omega
  · rw [post_wallet_of_ne _ _ _ _ _ _ _ _ distinct.symm, foundTarget]
  · rintro - ⟨nonneg, within⟩
    exact ⟨nonneg, by dsimp only; omega⟩
  · intro _
    simp [moves]

/-- Rounding a decimal and its difference from a stored balance agree above that balance. -/
theorem round2_sub_credits (nonneg : 0 ≤ value)
    (above : credits balance ≤ value) : round2 (value - credits balance) = round2 value - balance := by
  have scaled : value * 100 = (value - credits balance) * 100 + balance := by
    rw [credits]
    ring
  have shift := @Rounding.halfUp_add_intCast ((value - credits balance) * 100) balance
    (by linarith) (by linarith)
  rw [round2, round2, scaled, shift]
  omega

theorem le_round2_of_credits_le (above : credits balance ≤ value) : balance ≤ round2 value := by
  simpa using round2_mono above

/-- Rounding to 28 digits first does not change the hundredths. -/
def Agrees (value : ℚ) : Prop := round2 (decimal value) = round2 value

theorem applyGrant_reaches (found : ledger.wallet wallet = some row) (nonneg : 0 ≤ value)
    (agrees : given.exact → Agrees (value - credits row.balance)) :
    Reaches given ledger (ledger.applyGrant wallet row value stamp) := by
  simp only [applyGrant]
  split_ifs with increase
  · have above := le_round2_of_credits_le increase.2.le
    refine .single (.row wallet row _ .adjust _ _ _ stamp found rfl ?_ ?_)
    · rintro - ⟨reservedNonneg, covered⟩
      exact ⟨reservedNonneg, covered.trans above⟩
    · intro holds
      simp only [moves, if_true]
      rw [agrees holds, round2_sub_credits nonneg increase.2.le]
      omega
  · exact .single (.columns wallet row _ found rfl (fun sound => sound) rfl)

/-- The same for the difference of an amount from every balance, and from the balance it makes. -/
def Resolves (ledger : Ledger) (value : ℚ) : Prop :=
  Agrees (value - credits (round2 value)) ∧
    ∀ id row, ledger.wallet id = some row → Agrees (value - credits row.balance)

theorem Resolves.applyGrant (resolves : ledger.Resolves value) (found : ledger.wallet wallet = some row) :
    (ledger.applyGrant wallet row value stamp).Resolves value := by
  refine ⟨resolves.1, fun id other foundOther => ?_⟩
  by_cases same : id = wallet
  · subst same
    simp only [Ledger.applyGrant, creditGrantIncrease] at foundOther
    split_ifs at foundOther
    · rw [post_wallet_self] at foundOther
      cases foundOther
      exact resolves.1
    · simp only [setWallet, update_self] at foundOther
      cases foundOther
      exact resolves.2 id row found
  · refine resolves.2 id other (Eq.trans ?_ foundOther)
    simp only [Ledger.applyGrant, creditGrantIncrease]
    split_ifs
    · rw [post_wallet_of_ne _ _ _ _ _ _ _ _ same]
    · simp only [setWallet, update_of_ne same]

section

variable (success : ledger.refill done wallet month stamp = some next)

include success

theorem refill_cases :
    next = ledger ∧ (∀ row ∈ ledger.wallet wallet, wallet ∈ done ∨ refillTarget row ≤ row.balance) ∨
      ∃ row, ledger.wallet wallet = some row ∧ wallet ∉ done ∧ row.balance < refillTarget row ∧
        ledger.txnExists (.refill wallet month) = false ∧
        next = ledger.post wallet { row with balance := refillTarget row } .adjust
          (refillTarget row - row.balance) (some (.text "monthly_refill")) (.refill wallet month) stamp := by
  unfold refill at success
  cases found : ledger.wallet wallet with
  | none =>
    rw [found] at success
    cases success
    exact .inl ⟨rfl, by simp⟩
  | some row =>
    rw [found] at success
    dsimp only at success
    split_ifs at success with skipped full
    · cases success
      exact .inl ⟨rfl, fun _ _ => .inl skipped⟩
    · cases success
      refine .inl ⟨rfl, fun same isRow => ?_⟩
      cases isRow
      exact .inr full
    · obtain ⟨fresh, rfl⟩ := (record_eq_some ..).mp success
      exact .inr ⟨row, rfl, skipped, not_le.mp full, fresh, rfl⟩

theorem refill_reaches : Reaches given ledger next := by
  rcases refill_cases success with ⟨rfl, -⟩ | ⟨row, found, -, -, -, rfl⟩
  · exact .refl
  · refine .single (.row wallet row _ .adjust _ _ _ stamp found rfl ?_ (fun _ => by simp [moves]))
    rintro - ⟨nonneg, -⟩
    refine ⟨nonneg, ?_⟩
    simp only [refillTarget]
    split_ifs <;> omega

end

theorem refillBatch_reaches {batch : List WalletId}
    (success : ledger.refillBatch batch month stamp = some next) : Reaches given ledger next := by
  unfold refillBatch at success
  generalize ledger.refilled batch month = done at success
  induction batch generalizing ledger with
  | nil =>
    cases success
    exact .refl
  | cons wallet rest ih =>
    rw [foldlM_cons] at success
    obtain ⟨middle, first, later⟩ := bind_eq_some_iff.mp success
    exact (refill_reaches first).trans (ih later)

end Ledger

def Bank.RequestsOf (next bank : Bank) : Prop :=
  ∀ req asked, next.allocationRequests req = some asked →
    ∃ old, bank.allocationRequests req = some old ∧ asked.scope = old.scope ∧
      asked.targetWalletId = old.targetWalletId

theorem Bank.RequestsOf.refl (bank : Bank) : bank.RequestsOf bank :=
  fun _ asked found => ⟨asked, found, rfl, rfl⟩

/-- A transaction all of whose states, flushed or committed, are chains of the given steps. -/
structure Tx.Through (tx : Tx) (step : Ledger → Ledger → Prop) (bank : Bank) : Prop where
  flushed : ∀ written ∈ tx.flushed, ReflTransGen step bank.ledger written
  committed : ∀ next, tx.result = .ok next → ReflTransGen step bank.ledger next.ledger
  requests : ∀ next, tx.result = .ok next → next.RequestsOf bank

namespace Tx.Through

variable {step : Ledger → Ledger → Prop} {bank held : Bank} {written : Ledger}

theorem refuse (error : CreditError) : (refuse error).Through step bank where
  flushed := by simp [Tx.refuse]
  committed := by simp [Tx.refuse]
  requests := by simp [Tx.refuse]

theorem keep (bank : Bank) : (keep bank).Through step bank where
  flushed := by simp [Tx.keep]
  committed next ends := by
    cases ends
    exact .refl
  requests next ends := by
    cases ends
    exact .refl bank

theorem write (requests : held.RequestsOf bank) (reaches : ReflTransGen step bank.ledger written) :
    (write held written).Through step bank where
  flushed := by simpa [Tx.write] using reaches
  committed next ends := by
    cases ends
    exact reaches
  requests next ends := by
    cases ends
    exact requests

theorem insert {outcome : Option Ledger} (requests : held.RequestsOf bank)
    (reaches : ∀ written, outcome = some written →
      ReflTransGen step bank.ledger written) : (insert held outcome).Through step bank := by
  cases outcome with
  | none => exact refuse _
  | some written => exact write requests (reaches written rfl)

theorem gated {Amount Key : Type} {amount : Option Amount} {idem : Option Key}
    {body : Amount → Key → Tx} (through : ∀ valid key, amount = some valid → (body valid key).Through step bank) :
    (gated amount idem body).Through step bank := by
  cases amount with
  | none => exact refuse _
  | some valid =>
    cases idem with
    | none => exact refuse _
    | some key => exact through valid key rfl

theorem lift {tx : Tx} {other : Ledger → Ledger → Prop} (through : tx.Through step bank)
    (implies : ∀ before after, step before after → ReflTransGen other before after) :
    tx.Through other bank := by
  have chain {before after : Ledger} (steps : ReflTransGen step before after) :
      ReflTransGen other before after := by
    induction steps with
    | refl => exact .refl
    | tail _ last ih => exact ih.trans (implies _ _ last)
  exact ⟨fun written member => chain (through.flushed written member),
    fun next ends => chain (through.committed next ends), through.requests⟩

end Tx.Through

theorem positiveCredit_pos {value : ℚ} {amount : ℤ} (valid : positiveCredit value = some amount) : 0 < amount := by
  simp only [positiveCredit, filter_eq_some_iff, decide_eq_true_eq] at valid
  exact valid.2.1

theorem grantCredit_eq_some {value amount : ℚ} (valid : grantCredit value = some amount) :
    amount = value ∧ 0 ≤ value := by
  unfold grantCredit at valid
  split_ifs at valid with bounds
  cases valid
  exact ⟨rfl, bounds.1⟩

variable {group : GroupId} {id : WalletId} {user : UserId} {membership : ℕ}

namespace Bank

variable (bank : Bank)
variable {amount : ℚ}

theorem walletOf_found {ownerType : OwnerType} {ownerId : ℕ}
    (found : bank.walletOf ownerType ownerId = some (id, row)) :
    bank.ledger.wallet id = some row ∧ row.ownerType = ownerType := by
  obtain ⟨candidate, -, picked⟩ := exists_of_findSome?_eq_some found
  obtain ⟨candidateRow, looked, matched⟩ := bind_eq_some_iff.mp picked
  split_ifs at matched with owner
  cases matched
  exact ⟨looked, owner.1⟩

theorem poolOf_found {asked : AllocationRequest} (found : bank.poolOf asked = some (some (id, row))) :
    bank.ledger.wallet id = some row ∧ asked.scope.tier = some row.ownerType := by
  obtain ⟨tier, paid, looked⟩ := map_eq_some_iff.mp found
  obtain ⟨lookedUp, owner⟩ := bank.walletOf_found looked
  exact ⟨lookedUp, by rw [paid, owner]⟩

/-- No request asks a pool of its target's own kind; requests are made one level up. -/
def Routed : Prop :=
  ∀ req asked row, bank.allocationRequests req = some asked →
    bank.ledger.wallet asked.targetWalletId = some row → asked.scope.tier ≠ some row.ownerType

/-- The requests the system tier answers by issuing credit. -/
def Issues (req : RequestId) : Prop :=
  ∃ asked, bank.allocationRequests req = some asked ∧ asked.scope.tier = none

section Endpoints

variable (wallet source target : WalletId) (value : ℚ) (permitted inScope : Bool) (stamp : ℤ)

theorem topup_through (note : Option String) (idem : Option IdemKey) :
    (bank.topup wallet value note idem permitted stamp).Through (Writes given) bank := by
  refine .gated fun amount key valid => ?_
  have pos := positiveCredit_pos valid
  cases found : bank.ledger.wallet wallet with
  | none => split_ifs <;> exact .refuse _
  | some row =>
    split_ifs
    · exact .refuse _
    · exact .keep bank
    · exact .insert (.refl bank) fun written success =>
        .single (credit_writes found rfl (fun sound => by have := sound.2; omega) success)

theorem adjust_through (reason : String) (idem : Option IdemKey) :
    (bank.adjust wallet value reason idem permitted stamp).Through (Writes given) bank := by
  refine .gated fun amount key valid => ?_
  cases found : bank.ledger.wallet wallet with
  | none => split_ifs <;> exact .refuse _
  | some row =>
    dsimp only
    split_ifs with forbidden repeated breaks
    · exact .refuse _
    · exact .keep bank
    · exact .refuse _
    · exact .insert (.refl bank) fun written success =>
        .single (credit_writes found rfl (fun _ => by omega) success)

theorem moveBetween_through (idem : Option String) (keys : String → Leg → IdemKey) :
    (bank.moveBetween source target value idem keys permitted inScope stamp).Through CoveredMove bank := by
  refine .gated fun amount idem valid => ?_
  cases foundSource : bank.ledger.wallet source with
  | none => split_ifs <;> exact .refuse _
  | some sourceRow =>
    cases foundTarget : bank.ledger.wallet target with
    | none => split_ifs <;> exact .refuse _
    | some targetRow =>
      dsimp only
      split_ifs with forbidden same repeated outside short
      · exact .refuse _
      · exact .refuse _
      · exact .keep bank
      · exact .refuse _
      · exact .refuse _
      · exact .insert (.refl bank) fun written success => .single (.intro source target sourceRow targetRow amount
          _ _ stamp written foundSource foundTarget same (positiveCredit_pos valid)
          (not_lt.mp short) success)

private theorem owner_ne {sourceRow : Wallet} (pool : bank.walletOf .group group = some (source, sourceRow))
    (member : target ∈ bank.memberWallets group) : source ≠ target := by
  rintro rfl
  obtain ⟨found, owner⟩ := bank.walletOf_found pool
  have personal := (mem_filter.mp member).2
  simp [found, owner] at personal

theorem bulkAllocateLoop_moves {amount : ℤ} (pos : 0 < amount) (idem : String)
    (targets : List WalletId) (distinct : ∀ target ∈ targets, source ≠ target) (ledger : Ledger) :
    (∀ written ∈ (bulkAllocateLoop source amount idem stamp targets ledger).1,
      ReflTransGen CoveredMove ledger written) ∧
    ∀ last, (bulkAllocateLoop source amount idem stamp targets ledger).2 = .ok last →
      ReflTransGen CoveredMove ledger last := by
  induction targets generalizing ledger with
  | nil =>
    refine ⟨by simp [bulkAllocateLoop], fun last ends => ?_⟩
    cases ends
    exact .refl
  | cons target rest ih =>
    have restDistinct : ∀ target ∈ rest, source ≠ target :=
      fun other member => distinct other (mem_cons_of_mem _ member)
    simp only [bulkAllocateLoop]
    split_ifs with funded
    · exact ih restDistinct ledger
    · cases foundSource : ledger.wallet source with
      | none => simp
      | some sourceRow =>
        cases foundTarget : ledger.wallet target with
        | none => simp
        | some targetRow =>
          dsimp only
          split_ifs with short
          · simp
          · split
            · simp
            · rename_i moved success
              have first : CoveredMove ledger moved :=
                .intro source target sourceRow targetRow amount _ _ stamp moved foundSource foundTarget
                  (distinct target mem_cons_self) pos (not_lt.mp short) success
              obtain ⟨flushed, committed⟩ := ih restDistinct moved
              refine ⟨fun written member => ?_, fun last ends => .head first (committed last ends)⟩
              rcases mem_cons.mp member with rfl | later
              · exact .single first
              · exact .head first (flushed written later)

theorem bulkAllocate_through (group : GroupId) (idem : Option String) :
    (bank.bulkAllocate group value idem permitted stamp).Through CoveredMove bank := by
  refine .gated fun amount idem valid => ?_
  cases pool : bank.walletOf .group group with
  | none => split_ifs <;> exact .refuse _
  | some found =>
    obtain ⟨source, sourceRow⟩ := found
    dsimp only
    split_ifs
    · exact .refuse _
    · exact .refuse _
    · exact .refuse _
    · obtain ⟨flushed, committed⟩ := bulkAllocateLoop_moves source stamp (positiveCredit_pos valid)
        idem (bank.memberWallets group)
        (fun target member => bank.owner_ne source target pool member) bank.ledger
      cases outcome : (bulkAllocateLoop source amount idem stamp (bank.memberWallets group)
          bank.ledger).2 with
      | error refused => exact ⟨flushed, by simp [Except.map], by simp [Except.map]⟩
      | ok last =>
        refine ⟨flushed, fun next ends => ?_, fun next ends => ?_⟩
        · cases ends
          exact committed last outcome
        · cases ends
          exact .refl bank

theorem setMonthlyGrant_through (scope : Option (Option WalletId × List WalletId))
    (agrees : given.exact → ∀ row ∈ bank.ledger.wallet wallet, Agrees (value - credits row.balance)) :
    (bank.setMonthlyGrant wallet value scope stamp).Through (Writes given) bank := by
  unfold setMonthlyGrant
  cases valid : grantCredit value with
  | none => exact .refuse _
  | some amount =>
    cases found : bank.ledger.wallet wallet with
    | none => exact .refuse _
    | some row =>
      cases scope with
      | none => exact .refuse _
      | some pools =>
        dsimp only
        split_ifs
        · exact .refuse _
        · obtain ⟨rfl, nonneg⟩ := grantCredit_eq_some valid
          exact .write (.refl bank) (applyGrant_reaches found nonneg fun holds => agrees holds row found)

theorem bulkMonthlyGrant_through (group : GroupId) (resolves : given.exact → bank.ledger.Resolves value) :
    (bank.bulkMonthlyGrant group value permitted stamp).Through (Writes given) bank := by
  have loop (nonneg : 0 ≤ value) (wallets : List WalletId) (ledger : Ledger)
      (resolves : given.exact → ledger.Resolves value) :
      ledger.Reaches given (bulkMonthlyGrantLoop value stamp ledger wallets) := by
    induction wallets generalizing ledger with
    | nil => exact .refl
    | cons wallet rest ih =>
      rw [bulkMonthlyGrantLoop, foldl_cons]
      cases found : ledger.wallet wallet with
      | none => exact ih ledger resolves
      | some row =>
        exact (applyGrant_reaches found nonneg fun holds => (resolves holds).2 wallet row found).trans
          (ih _ fun holds => (resolves holds).applyGrant found)
  unfold bulkMonthlyGrant
  cases valid : grantCredit value with
  | none => exact .refuse _
  | some amount =>
    cases pool : bank.walletOf .group group with
    | none => split_ifs <;> exact .refuse _
    | some found =>
      dsimp only
      split_ifs
      · exact .refuse _
      · exact .refuse _
      · exact .refuse _
      · exact .refuse _
      · obtain ⟨rfl, nonneg⟩ := grantCredit_eq_some valid
        exact .write (.refl bank) (loop nonneg _ _ resolves)

theorem sweep_through (batch : List WalletId) (month : ℕ) :
    (bank.sweep batch month stamp).Through (Writes given) bank :=
  .insert (.refl bank) fun _ success => refillBatch_reaches success

theorem approveTopupRequest_through (req : RequestId) (idem : Option String) :
    (bank.approveTopupRequest req idem permitted stamp).Through (Writes given) bank := by
  unfold approveTopupRequest
  cases idem with
  | none => exact .refuse _
  | some key =>
    cases bank.topupRequests req with
    | none => exact .refuse _
    | some asked =>
      cases found : bank.ledger.wallet asked.walletId with
      | none =>
        simp only [found]
        split_ifs <;> exact .refuse _
      | some row =>
        have pos := asked.positive
        simp only [found]
        split_ifs
        · exact .refuse _
        · exact .keep bank
        · exact .refuse _
        · exact .insert (.refl bank) fun written success =>
            .single (credit_writes found rfl (fun sound => by have := sound.2; omega) success)

/-- An approval pays from the pool with one covered movement; only the system tier issues credit. -/
theorem approveAllocationRequest_through (req : RequestId) (idem : Option String)
    (routed : given.exact → bank.Routed) :
    (bank.approveAllocationRequest req idem permitted stamp).Through
      (fun ledger next => CoveredMove ledger next ∨
        Writes given ledger next ∧ (bank.Routed → bank.Issues req)) bank := by
  unfold approveAllocationRequest
  cases idem with
  | none => exact .refuse _
  | some key =>
    cases lookup : bank.allocationRequests req with
    | none => exact .refuse _
    | some asked =>
      have pos := asked.positive
      have same : Bank.RequestsOf
          { bank with
            allocationRequests := Function.update bank.allocationRequests req
              (some { asked with status := .approved }) } bank := by
        intro other found looked
        by_cases here : other = req
        · subst here
          simp only [update_self, Option.some.injEq] at looked
          subst looked
          exact ⟨asked, lookup, rfl, rfl⟩
        · simp only [update_of_ne here] at looked
          exact ⟨found, looked, rfl, rfl⟩
      dsimp only
      split_ifs
      · exact .refuse _
      · exact .refuse _
      · split
        · rename_i row pool found
          refine .insert same fun written success => .single (.inr ⟨?_, fun _ => ⟨asked, lookup, ?_⟩⟩)
          · exact credit_writes found rfl (fun sound => by have := sound.2; omega) success
          · exact map_eq_none_iff.mp pool
        · rename_i source sourceRow targetRow pool foundTarget
          obtain ⟨foundSource, tier⟩ := bank.poolOf_found pool
          split_ifs with short one
          · exact .refuse _
          · -- The pool and the target are one wallet, which routing rules out.
            have misrouted : ¬bank.Routed := fun routed =>
              routed req asked sourceRow lookup (one ▸ foundSource) tier
            refine .insert same fun written success => ?_
            rw [legs_eq_some success]
            refine .tail (.single (.inr ⟨.row source sourceRow sourceRow .adjust _ _ _ stamp foundSource
              rfl (fun _ => id) fun holds => absurd (routed holds) misrouted, fun holds => absurd holds misrouted⟩))
              (.inr ⟨.row source sourceRow sourceRow .adjust _ _ _ stamp (post_wallet_self ..) rfl
                (fun _ => id) fun holds => absurd (routed holds) misrouted, fun holds => absurd holds misrouted⟩)
          · exact .insert same fun written success => .single (.inl (.intro source asked.targetWalletId
              sourceRow targetRow asked.amount _ _ stamp written foundSource foundTarget one pos
              (not_lt.mp short) success))
        · exact .refuse _

theorem grantWelcomeCredit_reaches (user : UserId) (group : GroupId) :
    bank.ledger.Reaches given (bank.grantWelcomeCredit user group stamp) := by
  unfold grantWelcomeCredit
  dsimp only
  split_ifs with off paid
  · exact .refl
  · exact .refl
  · cases pool : bank.walletOf .user user with
    | none => exact .refl
    | some found =>
      obtain ⟨wallet, row⟩ := found
      refine .single (.row wallet row _ .topup _ _ _ stamp (bank.walletOf_found pool).1 rfl ?_
        (fun _ => by simp [moves]))
      rintro - ⟨nonneg, covered⟩
      exact ⟨nonneg, by dsimp only; omega⟩

end Endpoints

section MemberGrant

/-- No tie in the rounding to hundredths. -/
def HalfCentFree (amount : ℚ) : Prop := Int.fract (amount * 100) ≠ 1 / 2

theorem round2_credits_add (free : HalfCentFree amount) (balance : ℤ) :
    round2 (credits balance + amount) = balance + round2 amount := by
  have scaled : (credits balance + amount) * 100 = amount * 100 + balance := by
    rw [credits]
    ring
  rw [round2, round2, scaled, Rounding.halfUp_add_intCast_of_fract_ne free, add_comm]

theorem HalfCentFree.neg (free : HalfCentFree amount) : HalfCentFree (-amount) := by
  intro tie
  rw [neg_mul] at tie
  by_cases whole : Int.fract (amount * 100) = 0
  · rw [Int.fract_neg_eq_zero.mpr whole] at tie
    norm_num at tie
  · rw [Int.fract_neg whole] at tie
    exact free (by linarith)

/-- What a membership grant writes: the group's wallet and the member's, each rounded on its own. -/
theorem grantCreditWithMembership_eq_ok
    (success : bank.grantCreditWithMembership group user membership amount stamp = .ok next) :
    ∃ source sourceRow target targetRow, bank.ledger.wallet source = some sourceRow ∧
      bank.ledger.wallet target = some targetRow ∧ source ≠ target ∧
      credits sourceRow.reserved + amount ≤ credits sourceRow.balance ∧
      next = (bank.ledger.post source
          { sourceRow with balance := round2 (decimal (credits sourceRow.balance - amount)) } .adjust
          (round2 (decimal (-amount))) (some (.wallet target)) (.memberGrant membership .outgoing) stamp).post
        target { targetRow with balance := round2 (decimal (credits targetRow.balance + amount)) } .adjust
        (round2 amount) (some (.wallet source)) (.memberGrant membership .incoming) stamp := by
  unfold grantCreditWithMembership at success
  cases groupPool : bank.walletOf .group group with
  | none => simp [groupPool] at success
  | some foundSource =>
    cases userPool : bank.walletOf .user user with
    | none => simp [groupPool, userPool] at success
    | some foundTarget =>
      obtain ⟨source, sourceRow⟩ := foundSource
      obtain ⟨target, targetRow⟩ := foundTarget
      obtain ⟨lookedSource, sourceOwner⟩ := bank.walletOf_found groupPool
      obtain ⟨lookedTarget, targetOwner⟩ := bank.walletOf_found userPool
      have distinct : source ≠ target := by
        rintro rfl
        rw [lookedSource] at lookedTarget
        cases lookedTarget
        rw [sourceOwner] at targetOwner
        cases targetOwner
      simp only [groupPool, userPool] at success
      split_ifs at success with short
      split at success
      · rename_i written outcome
        cases success
        simp only [bind_eq_bind, bind_eq_some_iff] at outcome
        obtain ⟨middle, out, into⟩ := outcome
        obtain ⟨-, rfl⟩ := (record_eq_some ..).mp out
        obtain ⟨-, rfl⟩ := (record_eq_some ..).mp into
        exact ⟨source, sourceRow, target, targetRow, lookedSource, lookedTarget, distinct, by linarith,
          rfl⟩
      · cases success

/-- No tie, and 28 digits are enough for what the amount makes of every balance. -/
structure Clear (ledger : Ledger) (amount : ℚ) : Prop where
  free : HalfCentFree amount
  row : Agrees (-amount)
  taken : ∀ id row, ledger.wallet id = some row → Agrees (credits row.balance - amount)
  given : ∀ id row, ledger.wallet id = some row → Agrees (credits row.balance + amount)

/-- The balances fit their column, `Numeric(18, 2)`. -/
def Narrow (ledger : Ledger) : Prop := ∀ id row, ledger.wallet id = some row → row.balance < 10 ^ 18

/-- Computing in 28 digits does not go below what is stored. -/
theorem le_round2_decimal {floor : ℤ} {value : ℚ} (nonneg : 0 ≤ floor) (narrow : floor < 10 ^ 18)
    (above : credits floor ≤ value) : floor ≤ round2 (decimal value) := by
  have whole : decimal (credits floor) = credits floor := decimal_credits nonneg narrow
  refine le_round2_of_credits_le (whole ▸ decimal_mono ?_ above)
  exact div_nonneg (by exact_mod_cast nonneg) (by norm_num)

/-- What a membership grant takes from the group's wallet and gives to the member's, where it is exact. -/
theorem Clear.taken_eq {ledger : Ledger} {id : WalletId} (clear : Clear ledger amount)
    (found : ledger.wallet id = some row) :
    round2 (decimal (credits row.balance - amount)) = row.balance - round2 amount := by
  rw [clear.taken id row found, sub_eq_add_neg, round2_credits_add clear.free.neg, round2_neg, ← sub_eq_add_neg]

theorem Clear.given_eq {ledger : Ledger} {id : WalletId} (clear : Clear ledger amount)
    (found : ledger.wallet id = some row) :
    round2 (decimal (credits row.balance + amount)) = row.balance + round2 amount := by
  rw [clear.given id row found, round2_credits_add clear.free]

/-- The membership grant keeps both rows sound; where it is exact it also books what it moves. -/
theorem grantCreditWithMembership_reaches (pos : 0 < amount)
    (success : bank.grantCreditWithMembership group user membership amount stamp = .ok next) :
    bank.ledger.Reaches ⟨Narrow bank.ledger, Clear bank.ledger amount⟩ next := by
  obtain ⟨source, sourceRow, target, targetRow, foundSource, foundTarget, distinct, covered, rfl⟩ :=
    bank.grantCreditWithMembership_eq_ok success
  have left : credits sourceRow.reserved ≤ credits sourceRow.balance - amount := by linarith
  have right : credits targetRow.balance ≤ credits targetRow.balance + amount := by linarith
  refine .tail (.single (.row source sourceRow _ .adjust _ _ _ stamp foundSource (by rfl) ?_ ?_))
    (.row target targetRow _ .adjust _ _ _ stamp ?_ (by rfl) ?_ ?_)
  · rintro narrow ⟨nonneg, within⟩
    exact ⟨nonneg, le_round2_decimal nonneg (within.trans_lt (narrow source sourceRow foundSource)) left⟩
  · intro clear
    simp only [moves, if_true]
    rw [clear.taken_eq foundSource, clear.row, round2_neg, ← sub_eq_add_neg]
  · rw [post_wallet_of_ne _ _ _ _ _ _ _ _ distinct.symm, foundTarget]
  · rintro narrow ⟨nonneg, within⟩
    exact ⟨nonneg, within.trans
      (le_round2_decimal (nonneg.trans within) (narrow target targetRow foundTarget) right)⟩
  · intro clear
    simp only [moves, if_true]
    exact clear.given_eq foundTarget

theorem addMembership_through (group : GroupId) (user : UserId) (membership : ℕ) (grant : Option ℚ)
    (permitted duplicate : Bool) (stamp : ℤ)
    (narrow : given.narrow → Narrow (bank.grantWelcomeCredit user group stamp))
    (clear : given.exact → ∀ amount ∈ grant, Clear (bank.grantWelcomeCredit user group stamp) amount) :
    (bank.addMembership group user membership grant permitted duplicate stamp).Through
      (Writes given) bank := by
  have welcome : bank.ledger.Reaches given (bank.grantWelcomeCredit user group stamp) :=
    bank.grantWelcomeCredit_reaches stamp user group
  unfold addMembership
  split_ifs
  · exact .refuse _
  · exact .refuse _
  · cases grant with
    | none => exact .write (.refl bank) welcome
    | some amount =>
      dsimp only
      split_ifs with nothing
      · exact .write (.refl bank) welcome
      · split
        · rename_i ledger success
          have granted := (grantCreditWithMembership_reaches _ (not_le.mp nothing) success).mono narrow
            fun holds => clear holds amount rfl
          have reached : bank.ledger.Reaches given ledger := welcome.trans granted
          constructor
          · intro written member
            simp only [mem_cons, not_mem_nil, or_false] at member
            rcases member with rfl | rfl
            · exact welcome
            · exact reached
          · intro next ends
            cases ends
            exact reached
          · intro next ends
            cases ends
            exact .refl bank
        · exact ⟨by simpa using welcome, by simp, by simp⟩

end MemberGrant

end Bank

/-- The condition under which an operation books exactly what it moves. -/
def CreditOp.Exact (bank : Bank) : CreditOp → Prop
  | .addMembership group user _ grant _ _ stamp =>
    ∀ amount ∈ grant, Bank.Clear (bank.grantWelcomeCredit user group stamp) amount
  | .setMonthlyGrant wallet value _ _ => ∀ row ∈ bank.ledger.wallet wallet, Agrees (value - credits row.balance)
  | .bulkMonthlyGrant _ value _ _ => bank.ledger.Resolves value
  | _ => True

/-- The balances that a membership's credit is taken from and added to fit their column. -/
def CreditOp.Stored (bank : Bank) : CreditOp → Prop
  | .addMembership group user _ _ _ _ stamp => Bank.Narrow (bank.grantWelcomeCredit user group stamp)
  | _ => True

/-- What the operation counts on. -/
def CreditOp.premises (bank : Bank) (op : CreditOp) : Premises := ⟨op.Stored bank, bank.Routed ∧ op.Exact bank⟩

/-- Every operation is a chain of single writes. -/
theorem CreditOp.run_through (bank : Bank) (op : CreditOp) :
    (op.run bank).Through (Writes (op.premises bank)) bank := by
  cases op with
  | hold wallet sess amount stamp =>
    simp only [CreditOp.run]
    cases outcome : bank.ledger.hold wallet amount.value (.hold sess) stamp with
    | error refused => exact .refuse _
    | ok ledger => exact .write (.refl bank) (hold_reaches amount.nonneg outcome)
  | consume sess bucket now stamp => exact .write (.refl bank) (consume_reaches sess bucket now stamp)
  | settle sess final now stamp =>
    refine ⟨settleWrites_reach sess final now stamp, fun next ends => ?_, fun next ends => ?_⟩
    · cases ends
      exact settle_reaches sess final now stamp
    · cases ends
      exact .refl bank
  | topup wallet value note idem permitted stamp => exact bank.topup_through ..
  | adjust wallet value reason idem permitted stamp => exact bank.adjust_through ..
  | transfer source target value idem permitted inScope stamp
  | allocate source target value idem inScope stamp =>
    exact (bank.moveBetween_through ..).lift fun _ _ move => move.reaches
  | bulkAllocate group value idem permitted stamp =>
    exact (bank.bulkAllocate_through ..).lift fun _ _ move => move.reaches
  | setMonthlyGrant wallet value scope stamp => exact bank.setMonthlyGrant_through _ _ _ _ And.right
  | bulkMonthlyGrant group value permitted stamp => exact bank.bulkMonthlyGrant_through _ _ _ _ And.right
  | approveAllocationRequest req idem canFulfill stamp =>
    have routed : (premises bank (.approveAllocationRequest req idem canFulfill stamp)).exact → bank.Routed :=
      And.left
    refine (bank.approveAllocationRequest_through canFulfill stamp req idem routed).lift ?_
    rintro _ _ (move | ⟨write, -⟩)
    · exact move.reaches
    · exact .single write
  | approveTopupRequest req idem permitted stamp => exact bank.approveTopupRequest_through ..
  | sweep batch month stamp => exact bank.sweep_through ..
  | grantWelcomeCredit user group stamp => exact .write (.refl bank) (bank.grantWelcomeCredit_reaches ..)
  | addMembership group user membership grant permitted duplicate stamp =>
    exact bank.addMembership_through group user membership grant permitted duplicate stamp id And.right

end GShare.Model
