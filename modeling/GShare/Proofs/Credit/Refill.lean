import GShare.Model.Credit.Refill
import GShare.Proofs.Credit.Writers

/-! # One batch of the monthly refill

Every wallet of a batch that the sweep was not done with ends at its target or above, under a row if it was
raised, and nothing else changes. The refill rows of a month each sit on the wallet that their key names, so
a wallet has at most one of them and the sweep knows the wallets that it is done with.
-/

namespace GShare.Model

open Txn Option List

def Txn.isRefillOf (month : ℕ) (txn : Txn) : Bool :=
  match txn.key with
  | .refill _ tag => tag == month
  | _ => false

theorem Txn.isRefillOf_iff {month : ℕ} {txn : Txn} :
    txn.isRefillOf month ↔ ∃ wallet, txn.key = .refill wallet month := by
  unfold isRefillOf
  split <;> simp_all

namespace Ledger

variable {ledger next : Ledger} {done batch : List WalletId} {wallet : WalletId} {row : Wallet}
variable {month : ℕ} {stamp : ℤ}

theorem refillTarget_eq_max (row : Wallet) : refillTarget row = max row.monthlyGrant row.reserved := by
  rw [refillTarget, max_def]
  split_ifs <;> omega

def refillRow (done : List WalletId) (wallet : WalletId) (row : Wallet) : Wallet :=
  if wallet ∈ done then row else { row with balance := max row.balance (refillTarget row) }

/-- Whether a wallet's turn inserts a row. -/
def raises (ledger : Ledger) (done : List WalletId) (wallet : WalletId) : Bool :=
  decide (wallet ∉ done) && (ledger.wallet wallet).any fun row => row.balance < refillTarget row

section

variable (success : ledger.refill done wallet month stamp = some next)

include success

theorem refill_wallet (other : WalletId) :
    next.wallet other = if other = wallet then (ledger.wallet wallet).map (refillRow done wallet)
      else ledger.wallet other := by
  rcases refill_cases success with ⟨rfl, kept⟩ | ⟨row, found, open_, low, -, rfl⟩
  · split_ifs with same
    · rw [same]
      cases found : next.wallet wallet with
      | none => rfl
      | some row =>
        rw [map_some, refillRow]
        split_ifs with skipped
        · rfl
        · rw [max_eq_left ((kept row found).resolve_left skipped)]
    · rfl
  · split_ifs with same
    · rw [same, post_wallet_self, found, map_some, refillRow, if_neg open_, max_eq_right low.le]
    · exact post_wallet_of_ne _ _ _ _ _ _ _ _ same

theorem refill_txnExists (other : WalletId) :
    next.txnExists (.refill other month)
      = (ledger.txnExists (.refill other month) || decide (other = wallet) && ledger.raises done wallet) := by
  rcases refill_cases success with ⟨rfl, kept⟩ | ⟨row, found, open_, low, -, rfl⟩
  · have full : next.raises done wallet = false := by
      rw [Bool.eq_false_iff]
      intro raised
      simp only [raises, Bool.and_eq_true, decide_eq_true_eq, Option.any_eq_true] at raised
      obtain ⟨open_, row, found, low⟩ := raised
      rcases kept row found with skipped | full
      · exact open_ skipped
      · omega
    rw [full, Bool.and_false, Bool.or_false]
  · have raised : ledger.raises done wallet := by simp [raises, found, open_, low]
    rw [post_txnExists, raised, Bool.and_true, Bool.or_comm]
    congr 1
    rw [Bool.eq_iff_iff, beq_iff_eq, IdemKey.refill.injEq, decide_eq_true_eq]
    simp only [and_true, eq_comm]

end

theorem refillRow_idem (row : Wallet) :
    refillRow done wallet (refillRow done wallet row) = refillRow done wallet row := by
  unfold refillRow
  split_ifs
  · rfl
  · simp [refillTarget]

/-- The turns of a batch one after the other, with what the sweep is done with. -/
abbrev turnsTo (done batch : List WalletId) (month : ℕ) (stamp : ℤ) (ledger next : Ledger) : Prop :=
  batch.foldlM (fun ledger wallet => ledger.refill done wallet month stamp) ledger = some next

theorem turnsTo_cons (turned : turnsTo done (wallet :: batch) month stamp ledger next) :
    ∃ middle, ledger.refill done wallet month stamp = some middle ∧ turnsTo done batch month stamp middle next := by
  rw [turnsTo, foldlM_cons] at turned
  exact bind_eq_some_iff.mp turned

section

variable (turned : turnsTo done batch month stamp ledger next)

include turned

theorem turnsTo_wallet (other : WalletId) :
    next.wallet other = if other ∈ batch then (ledger.wallet other).map (refillRow done other)
      else ledger.wallet other := by
  induction batch generalizing ledger with
  | nil =>
    cases turned
    simp
  | cons wallet rest ih =>
    obtain ⟨middle, first, later⟩ := turnsTo_cons turned
    rw [ih later, refill_wallet first]
    by_cases same : other = wallet
    · subst same
      have twice : (fun row => refillRow done other (refillRow done other row)) = refillRow done other :=
        funext refillRow_idem
      simp [Function.comp_def, twice]
    · simp [same]

theorem turnsTo_txnExists (other : WalletId) :
    next.txnExists (.refill other month)
      = (ledger.txnExists (.refill other month) || decide (other ∈ batch) && ledger.raises done other) := by
  induction batch generalizing ledger with
  | nil =>
    cases turned
    simp
  | cons wallet rest ih =>
    obtain ⟨middle, first, later⟩ := turnsTo_cons turned
    rw [ih later, refill_txnExists first]
    by_cases same : other = wallet
    · subst same
      -- Its turn done, the wallet is full, so a second one would not raise it.
      have settled : middle.raises done other = false := by
        rw [Bool.eq_false_iff]
        intro raised
        simp only [raises, Bool.and_eq_true, decide_eq_true_eq, Option.any_eq_true, refill_wallet first,
          if_true, map_eq_some_iff] at raised
        obtain ⟨open_, _, ⟨row, -, rfl⟩, low⟩ := raised
        simp [refillRow, open_, refillTarget] at low
      simp [settled]
    · have frame : middle.raises done other = ledger.raises done other := by
        rw [raises, raises, refill_wallet first, if_neg same]
      simp [same, frame]

end

/-- The refill rows of the month sit on the wallets that their keys name, one on each. -/
structure RefilledOnce (month : ℕ) (ledger : Ledger) : Prop where
  own : ∀ txn ∈ ledger.txns, ∀ wallet, txn.key = .refill wallet month → txn.walletId = wallet
  once : ((ledger.txns.filter (isRefillOf month)).map (·.walletId)).Nodup

namespace RefilledOnce

theorem none (unused : ∀ wallet, ledger.txnExists (.refill wallet month) = false) : ledger.RefilledOnce month := by
  have absent (txn : Txn) (member : txn ∈ ledger.txns) (wallet : WalletId) : txn.key ≠ .refill wallet month :=
    fun same => Bool.eq_false_iff.mp (unused wallet) ((txnExists_iff _ _).mpr ⟨txn, member, same⟩)
  refine ⟨fun txn member wallet same => absurd same (absent txn member wallet), ?_⟩
  have nothing : ledger.txns.filter (isRefillOf month) = [] := by
    rw [filter_eq_nil_iff]
    intro txn member refills
    obtain ⟨wallet, same⟩ := isRefillOf_iff.mp refills
    exact absent txn member wallet same
  rw [nothing]
  exact nodup_nil

section

variable (once : ledger.RefilledOnce month)

include once

/-- Other rows on top, and any change of the wallets. -/
theorem append (table : WalletId → Option Wallet) {rows : List Txn}
    (others : ∀ txn ∈ rows, txn.isRefillOf month = false) :
    RefilledOnce month { wallet := table, txns := rows ++ ledger.txns } := by
  refine ⟨fun txn member wallet same => ?_, ?_⟩
  · rcases mem_append.mp member with new | old
    · exact absurd (isRefillOf_iff.mpr ⟨wallet, same⟩) (Bool.eq_false_iff.mp (others txn new))
    · exact once.own txn old wallet same
  · have nothing : rows.filter (isRefillOf month) = [] :=
      filter_eq_nil_iff.mpr fun txn member => Bool.eq_false_iff.mp (others txn member)
    simpa [nothing] using once.once

theorem refill (success : ledger.refill done wallet month stamp = some next) : next.RefilledOnce month := by
  rcases refill_cases success with ⟨rfl, -⟩ | ⟨row, -, -, -, absent, rfl⟩
  · exact once
  · refine ⟨fun txn member other same => ?_, ?_⟩
    · rcases mem_cons.mp member with rfl | old
      · exact (IdemKey.refill.inj same).1
      · exact once.own txn old other same
    · have isRefill : isRefillOf month ⟨wallet, .adjust, refillTarget row - row.balance, refillTarget row,
          some (.text "monthly_refill"), .refill wallet month, stamp⟩ :=
        isRefillOf_iff.mpr ⟨wallet, rfl⟩
      simp only [post, filter_cons, isRefill, if_true, map_cons, nodup_cons]
      refine ⟨fun member => ?_, once.once⟩
      obtain ⟨txn, selected, onWallet⟩ := mem_map.mp member
      obtain ⟨old, refills⟩ := mem_filter.mp selected
      obtain ⟨other, same⟩ := isRefillOf_iff.mp refills
      -- The older row sits on the wallet of its key, so its key would be the one that was absent.
      rw [once.own txn old other same] at onWallet
      rw [onWallet] at same
      exact Bool.eq_false_iff.mp absent ((txnExists_iff _ _).mpr ⟨txn, old, same⟩)

theorem turns (turned : turnsTo done batch month stamp ledger next) : next.RefilledOnce month := by
  induction batch generalizing ledger with
  | nil =>
    cases turned
    exact once
  | cons wallet rest ih =>
    obtain ⟨middle, first, later⟩ := turnsTo_cons turned
    exact ih (once.refill first) later

theorem mem_refilled (member : wallet ∈ batch) :
    wallet ∈ ledger.refilled batch month ↔ ledger.txnExists (.refill wallet month) := by
  simp only [refilled, List.mem_map, mem_filter, decide_eq_true_eq, txnExists_iff]
  constructor
  · rintro ⟨txn, ⟨old, other, -, same⟩, rfl⟩
    exact ⟨txn, old, by rw [once.own txn old other same.symm, same]⟩
  · rintro ⟨txn, old, same⟩
    exact ⟨txn, ⟨old, wallet, member, same.symm⟩, once.own txn old wallet same⟩

end

end RefilledOnce

end Ledger

namespace Visit

/-- What a visit may do: a refill, which sets a lower balance to exactly the target, or nothing; and a wallet
that had no refill row is not left below it. -/
structure Right (visit : Visit) : Prop where
  refilled : visit.had = false → visit.has →
    visit.before.balance < max visit.before.monthlyGrant visit.before.reserved ∧
      visit.after = { visit.before with balance := max visit.before.monthlyGrant visit.before.reserved }
  kept : visit.had ∨ visit.has = false → visit.after = visit.before
  covered : visit.had = false → max visit.after.monthlyGrant visit.after.reserved ≤ visit.after.balance

end Visit

open Ledger in
theorem Sweeping.turns_right {batch : List WalletId} {month place : ℕ} {stamp : ℤ} {ledger next : Ledger}
    (once : ledger.RefilledOnce month) (success : ledger.refillBatch batch month stamp = some next) :
    ∀ visit ∈ turns batch month place ledger next, visit.Right := by
  intro visit member
  obtain ⟨wallet, among, turn⟩ := mem_filterMap.mp member
  obtain ⟨before, found, turn⟩ := bind_eq_some_iff.mp turn
  obtain ⟨after, left, rfl⟩ := map_eq_some_iff.mp turn
  have turned : turnsTo (ledger.refilled batch month) batch month stamp ledger next := success
  rw [turnsTo_wallet turned, if_pos among, found, map_some, Option.some.injEq] at left
  have has := turnsTo_txnExists turned wallet
  rw [raises, found, any_some, decide_eq_true among, Bool.true_and] at has
  have isDone := once.mem_refilled among
  rw [refillRow, refillTarget_eq_max] at left
  rw [refillTarget_eq_max] at has
  cases had : ledger.txnExists (.refill wallet month) with
  | true =>
    rw [if_pos (isDone.mpr had)] at left
    subst left
    exact ⟨Bool.noConfusion, fun _ => rfl, Bool.noConfusion⟩
  | false =>
    have open_ : wallet ∉ ledger.refilled batch month := fun skipped => by
      simp [isDone.mp skipped] at had
    rw [if_neg open_] at left
    rw [had, Bool.false_or, decide_eq_true open_, Bool.true_and] at has
    subst left
    refine ⟨fun _ raised => ?_, fun none => ?_, fun _ => le_max_right _ _⟩
    · have low := of_decide_eq_true (has.symm.trans raised)
      exact ⟨low, by rw [max_eq_right low.le]⟩
    · have full := of_decide_eq_false (has.symm.trans (none.resolve_left Bool.false_ne_true))
      rw [max_eq_left (not_lt.mp full)]

end GShare.Model
