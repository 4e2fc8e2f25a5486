import GShare.Machine.Run
import GShare.Proofs.Credit.Writers
import GShare.Soundness.Samples
import Mathlib.Algebra.BigOperators.Group.Finset.Piecewise

/-! # The wallets and the ledger over any sequence of writers

Three properties of the credit tables as a whole, as long as every writer finds the wallet objects of its
caller fresh. Every state any writer flushes satisfies the check on wallet rows, so the database never has
to refuse one. Every balance is the sum of the amounts on the wallet's rows, and every row carries the
running sum at its place. An operation between wallets leaves the sum of all balances alone. The last two
also need the arithmetic on the amounts that requests do not round to be exact to the hundredth.
-/

namespace GShare.Model.Ledger

open List Function Finset Machine

/-- Every wallet row passes the database's check. -/
def Sound (ledger : Ledger) : Prop := ∀ id row, ledger.wallet id = some row → row.Sound

/-- The sum of the amounts that make up a wallet's balance, over some of the rows. -/
def booked (txns : List Txn) (id : WalletId) : ℤ :=
  ((txns.filter fun txn => txn.walletId == id && txn.type.moves).map (·.amount)).sum

/-- The ledger explains the wallets, row by row. -/
structure Reconciled (ledger : Ledger) : Prop where
  balances : ∀ id row, ledger.wallet id = some row → row.balance = booked ledger.txns id
  snapshots : ∀ txn older, txn :: older <:+ ledger.txns →
    txn.balanceAfter = booked (txn :: older) txn.walletId

/-- Some wallet gained what another one lost. -/
structure Moved (ledger next : Ledger) (source target : WalletId) (amount : ℤ) : Prop where
  distinct : source ≠ target
  sourceFound : (ledger.wallet source).isSome
  targetFound : (ledger.wallet target).isSome
  sourceBalance : next.balance source = ledger.balance source - amount
  targetBalance : next.balance target = ledger.balance target + amount
  others : ∀ id, id ≠ source → id ≠ target → next.balance id = ledger.balance id
  wallets : ∀ id, (next.wallet id).isSome = (ledger.wallet id).isSome

variable {given : Premises} {ledger next : Ledger}
variable {id : WalletId} {row : Wallet} {wallets : Finset WalletId}

theorem Writes.origin (write : Writes given ledger next) (found : next.wallet id = some row) :
    ∃ old, ledger.wallet id = some old ∧ row.ownerType = old.ownerType ∧
      (given.narrow → old.Sound → row.Sound) := by
  cases write with
  | row written old new type amount ref key stamp foundOld owner keeps booked =>
    by_cases same : id = written
    · subst same
      rw [post_wallet_self] at found
      cases found
      exact ⟨old, foundOld, owner, keeps⟩
    · rw [post_wallet_of_ne _ _ _ _ _ _ _ _ same] at found
      exact ⟨row, found, rfl, fun _ sound => sound⟩
  | columns written old new foundOld owner keeps _ =>
    by_cases same : id = written
    · subst same
      simp only [setWallet, update_self] at found
      cases found
      exact ⟨old, foundOld, owner, fun _ => keeps⟩
    · simp only [setWallet, update_of_ne same] at found
      exact ⟨row, found, rfl, fun _ sound => sound⟩

theorem booked_cons (txn : Txn) (txns : List Txn) (id : WalletId) : booked (txn :: txns) id
      = (if txn.walletId = id ∧ txn.type.moves then txn.amount else 0) + booked txns id := by
  simp only [booked, List.filter_cons, Bool.and_eq_true, beq_iff_eq]
  split_ifs <;> simp

theorem Writes.reconciled (write : Writes given ledger next) (holds : given.exact)
    (reconciled : ledger.Reconciled) : next.Reconciled := by
  cases write with
  | row written old new type amount ref key stamp found owner keeps books =>
    have explained : new.balance
        = booked (⟨written, type, amount, new.balance, ref, key, stamp⟩ :: ledger.txns) written := by
      rw [booked_cons, books holds, reconciled.balances written old found, add_comm]
      simp
    constructor
    · intro id row foundRow
      by_cases same : id = written
      · subst same
        rw [post_wallet_self] at foundRow
        cases foundRow
        exact explained
      · rw [post_wallet_of_ne _ _ _ _ _ _ _ _ same] at foundRow
        rw [reconciled.balances id row foundRow, post, booked_cons, if_neg (by simp [Ne.symm same]),
          zero_add]
    · intro txn older suffix
      rcases suffix_cons_iff.mp suffix with whole | earlier
      · cases whole
        exact explained
      · exact reconciled.snapshots txn older earlier
  | columns written old new found owner keeps same =>
    refine ⟨fun id row foundRow => ?_, reconciled.snapshots⟩
    by_cases here : id = written
    · subst here
      simp only [setWallet, update_self] at foundRow
      cases foundRow
      exact same.trans (reconciled.balances id old found)
    · simp only [setWallet, update_of_ne here] at foundRow
      exact reconciled.balances id row foundRow

section

variable (reaches : Reaches given ledger next)

include reaches

theorem Reaches.origin (found : next.wallet id = some row) :
    ∃ old, ledger.wallet id = some old ∧ row.ownerType = old.ownerType ∧
      (given.narrow → old.Sound → row.Sound) := by
  induction reaches generalizing row with
  | refl => exact ⟨row, found, rfl, fun _ sound => sound⟩
  | tail _ write ih =>
    obtain ⟨middle, foundMiddle, owner, keeps⟩ := write.origin found
    obtain ⟨old, foundOld, earlierOwner, earlierKeeps⟩ := ih foundMiddle
    exact ⟨old, foundOld, owner.trans earlierOwner, fun narrow sound => keeps narrow (earlierKeeps narrow sound)⟩

theorem Reaches.sound (narrow : given.narrow) (sound : ledger.Sound) : next.Sound := by
  intro id row found
  obtain ⟨old, foundOld, -, keeps⟩ := reaches.origin found
  exact keeps narrow (sound id old foundOld)

theorem Reaches.reconciled (holds : given.exact) (reconciled : ledger.Reconciled) : next.Reconciled := by
  induction reaches with
  | refl => exact reconciled
  | tail _ write ih => exact write.reconciled holds ih

end

/-- A movement between two wallets leaves the sum of all balances alone. -/
theorem Moved.sum_balance {source target : WalletId} {amount : ℤ}
    (moved : Moved ledger next source target amount) (all : ∀ id, (ledger.wallet id).isSome → id ∈ wallets) :
    ∑ id ∈ wallets, next.balance id = ∑ id ∈ wallets, ledger.balance id := by
  have shift (id : WalletId) : next.balance id = ledger.balance id
      + ((if id = target then amount else 0) - if id = source then amount else 0) := by
    have distinct := moved.distinct
    split_ifs with atTarget atSource atSource
    · exact absurd (atSource.symm.trans atTarget) distinct
    · rw [atTarget, moved.targetBalance, sub_zero]
    · rw [atSource, moved.sourceBalance]
      omega
    · rw [moved.others id atSource atTarget, sub_zero, add_zero]
  calc ∑ id ∈ wallets, next.balance id
      = ∑ id ∈ wallets, (ledger.balance id
          + ((if id = target then amount else 0) - if id = source then amount else 0)) :=
        sum_congr rfl fun id _ => shift id
    _ = ∑ id ∈ wallets, ledger.balance id := by
        rw [sum_add_distrib, sum_sub_distrib, sum_ite_eq', sum_ite_eq',
          if_pos (all target moved.targetFound), if_pos (all source moved.sourceFound), sub_self,
          add_zero]

/-- Any number of movements between wallets. -/
abbrev Shuffles : Ledger → Ledger → Prop :=
  Relation.ReflTransGen fun ledger next => ∃ source target amount, Moved ledger next source target amount

theorem Shuffles.sum_balance (shuffles : Shuffles ledger next)
    (all : ∀ id, (ledger.wallet id).isSome → id ∈ wallets) :
    ∑ id ∈ wallets, next.balance id = ∑ id ∈ wallets, ledger.balance id := by
  induction shuffles using Relation.ReflTransGen.head_induction_on with
  | refl => rfl
  | head step _ ih =>
    obtain ⟨source, target, amount, moved⟩ := step
    rw [ih fun id exists_ => all id ((moved.wallets id).symm.trans exists_), moved.sum_balance all]

section Pairs

variable {source target : WalletId} {sourceRow targetRow newSource newTarget : Wallet} {amount : ℤ}
variable {outType inType : TxnType} {outAmount inAmount stamp : ℤ}
variable {outRef inRef : Option Ref} {outKey inKey : IdemKey}

theorem moved_of_posts (foundSource : ledger.wallet source = some sourceRow)
    (foundTarget : ledger.wallet target = some targetRow) (distinct : source ≠ target)
    (takes : newSource.balance = sourceRow.balance - amount)
    (gives : newTarget.balance = targetRow.balance + amount) :
    Moved ledger ((ledger.post source newSource outType outAmount outRef outKey stamp).post target
      newTarget inType inAmount inRef inKey stamp) source target amount where
  distinct := distinct
  sourceFound := by simp [foundSource]
  targetFound := by simp [foundTarget]
  sourceBalance := by
    rw [balance, post_wallet_of_ne _ _ _ _ _ _ _ _ distinct, post_wallet_self]
    simp [balance, foundSource, takes]
  targetBalance := by
    rw [balance, post_wallet_self]
    simp [balance, foundTarget, gives]
  others id notSource notTarget := by
    rw [balance, post_wallet_of_ne _ _ _ _ _ _ _ _ notTarget,
      post_wallet_of_ne _ _ _ _ _ _ _ _ notSource, ← balance]
  wallets id := by
    by_cases atTarget : id = target
    · subst atTarget
      simp [foundTarget]
    · rw [post_wallet_of_ne _ _ _ _ _ _ _ _ atTarget]
      by_cases atSource : id = source
      · subst atSource
        simp [foundSource]
      · rw [post_wallet_of_ne _ _ _ _ _ _ _ _ atSource]

theorem CoveredMove.shuffles (move : CoveredMove ledger next) : Shuffles ledger next := by
  obtain ⟨source, target, sourceRow, targetRow, amount, refs, keys, stamp, _, foundSource,
    foundTarget, distinct, -, -, success⟩ := move
  rw [legs_eq_some success]
  exact .single ⟨source, target, amount, moved_of_posts foundSource foundTarget distinct rfl rfl⟩

end Pairs

end GShare.Model.Ledger

namespace GShare.Soundness.Books

open Machine GShare.Model CreditOp Bank Ledger Samples

/-- An operation, and the wallets that its caller has loaded before. -/
abbrev WriterCall := CreditOp × List (WalletId × Wallet)

/-- The tables after each operation; a refused one leaves them as they were. -/
def step (bank : Bank) (call : WriterCall) : Option Bank :=
  some ((call.1.through bank call.2).result.toOption.getD bank)

section

variable {bank : Bank} {call : WriterCall} (fresh : Fresh bank.ledger.wallet call.2)

include fresh

theorem through_eq_run : call.1.through bank call.2 = call.1.run bank := by
  have flushed : bank.ledger.flush call.2 = id := funext (flush_of_fresh fresh)
  rw [CreditOp.through, seen_of_fresh fresh, flushed]
  rcases call.1.run bank with ⟨states, _ | _⟩ <;> simp [Except.map]

theorem step_eq_apply : step bank call = some (bank.apply call.1) := by
  rw [step, through_eq_run fresh, apply]
  cases (call.1.run bank).result <;> rfl

end

theorem apply_cases (bank : Bank) (op : CreditOp) :
    (∃ next, (op.run bank).result = .ok next ∧ bank.apply op = next) ∨ bank.apply op = bank := by
  unfold apply
  cases outcome : (op.run bank).result with
  | ok next => exact .inl ⟨next, rfl, rfl⟩
  | error refused => exact .inr rfl

theorem apply_reaches (bank : Bank) (op : CreditOp) :
    bank.ledger.Reaches (op.premises bank) (bank.apply op).ledger := by
  rcases apply_cases bank op with ⟨next, outcome, same⟩ | same
  · rw [same]
    exact (run_through bank op).committed next outcome
  · rw [same]

variable {bank : Bank}

/-- Wallets keep their owners and requests their pools, so a request stays routed to another owner. -/
theorem apply_routed (routed : bank.Routed) (op : CreditOp) : (bank.apply op).Routed := by
  rcases apply_cases bank op with ⟨next, outcome, same⟩ | same
  · rw [same]
    intro req asked row lookup found
    obtain ⟨old, lookupOld, scope, target⟩ :=
      (run_through bank op).requests next outcome req asked lookup
    obtain ⟨oldRow, foundOld, owner, -⟩ :=
      Reaches.origin ((run_through bank op).committed next outcome) found
    rw [scope, owner]
    exact routed req old oldRow lookupOld (target ▸ foundOld)
  · rwa [same]

/-- The operation works on fresh objects, and on balances that fit their column. -/
def OnFresh (bank : Bank) (call : WriterCall) : Prop := Fresh bank.ledger.wallet call.2 ∧ call.1.Stored bank

/-- From sound wallets and on fresh objects, every state that any operation of a sequence flushes or commits
is sound, and a refused operation changes nothing. -/
theorem writes_sound {first last next : Bank} {calls : List WriterCall} {call : WriterCall}
    (sound : first.ledger.Sound) (run : Run step OnFresh first calls last) (meets : OnFresh last call)
    (taken : step last call = some next) :
    (∀ written ∈ (call.1.through last call.2).flushed, written.Sound) ∧ next.ledger.Sound ∧
      ∀ refused, (call.1.through last call.2).result = .error refused → next = last := by
  have applied {bank next : Bank} {call : WriterCall} (meets : OnFresh bank call)
      (taken : step bank call = some next) (sound : bank.ledger.Sound) : next.ledger.Sound := by
    cases (step_eq_apply meets.1).symm.trans taken
    exact (apply_reaches bank call.1).sound meets.2 sound
  have lastSound : last.ledger.Sound := run.invariant sound fun _ _ _ => applied
  refine ⟨fun written member => ?_, applied meets taken lastSound, fun refused outcome => ?_⟩
  · rw [through_eq_run meets.1] at member
    exact Reaches.sound ((run_through last call.1).flushed written member) meets.2 lastSound
  · rw [step, outcome] at taken
    exact (Option.some.inj taken).symm

def emptyBooks : Bank where
  ledger :=
    { wallet := fun id =>
        if id = 0 then some ⟨.group, 7, 0, 0, 0⟩ else if id = 1 then some ⟨.user, 3, 0, 0, 0⟩ else none
      txns := [] }
  walletIds := [0, 1]
  members _ := [3]
  liveGroup _ := true
  defaultMemberCredit _ := 0
  allocationRequests _ := none
  topupRequests _ := none

theorem emptyBooks_penniless (id : WalletId) (row : Wallet)
    (found : emptyBooks.ledger.wallet id = some row) : row.balance = 0 ∧ row.reserved = 0 := by
  simp only [emptyBooks] at found
  split_ifs at found <;> cases found <;> exact ⟨rfl, rfl⟩

def topupGroup : CreditOp := .topup 0 10 none (some (.client "a")) true 0

/-- A new member is sent this many credits along. -/
def enroll (credit : ℚ) : CreditOp := .addMembership 7 3 0 (some credit) true false 1

/-- The books after the top-up. -/
def funded : Bank := emptyBooks.apply topupGroup

theorem funded_step : step emptyBooks (topupGroup, []) = some funded := step_eq_apply .nil

theorem funded_unwelcoming : funded.grantWelcomeCredit 3 7 1 = funded.ledger := if_pos (by decide +kernel)

theorem funded_rows (id : WalletId) (row : Wallet) (found : funded.ledger.wallet id = some row) :
    id = 0 ∧ row = ⟨.group, 7, 1000, 0, 0⟩ ∨ id = 1 ∧ row = ⟨.user, 3, 0, 0, 0⟩ := by
  obtain ⟨old, foundOld, -⟩ := Reaches.origin (apply_reaches emptyBooks topupGroup) found
  simp only [emptyBooks] at foundOld
  split_ifs at foundOld with atGroup atUser
  · subst atGroup
    refine .inl ⟨rfl, Option.some.inj (found.symm.trans ?_)⟩
    decide +kernel
  · subst atUser
    refine .inr ⟨rfl, Option.some.inj (found.symm.trans ?_)⟩
    decide +kernel

theorem writes_sound_enroll : ∃ next, step funded (enroll 2, []) = some next ∧ next.ledger.Sound ∧
    ∀ written ∈ ((enroll 2).through funded []).flushed, written.Sound := by
  have sound : emptyBooks.ledger.Sound := by
    intro id row found
    obtain ⟨balance, reserved⟩ := emptyBooks_penniless id row found
    exact ⟨reserved.ge, (reserved.trans balance.symm).le⟩
  have run : Run step OnFresh emptyBooks [(topupGroup, [])] funded :=
    .cons ⟨.nil, trivial⟩ funded_step (.nil _)
  have stored : (enroll 2).Stored funded := by
    intro id row found
    rw [funded_unwelcoming] at found
    rcases funded_rows id row found with ⟨-, rfl⟩ | ⟨-, rfl⟩ <;> decide
  have taken : step funded (enroll 2, []) = some (funded.apply (enroll 2)) := step_eq_apply .nil
  have kept := writes_sound sound run ⟨.nil, stored⟩ taken
  exact ⟨_, taken, kept.2.1, kept.1⟩

/-- A wallet of ten credits without a hold. -/
def tenFree : Bank := { emptyBooks with ledger := hundredCredits.setWallet 0 ⟨.user, 0, 1000, 0, 0⟩ }

def settlesBorrower : CreditOp := .settle (wholeCard 1 60) true (1800 * second) (1800 * second)

/-- A resume has loaded the wallet when another session holds all of it. The settlement of a borrower that the
resume ends charges thirty hundredths on that object, and writes the balance only. -/
theorem unsound_by_stale : ∃ bank, Run step (fun _ _ => True) tenFree [(.hold 0 2 tenCredits 0, [])] bank ∧
    ∃ written ∈ (settlesBorrower.through bank [(0, ⟨.user, 0, 1000, 0, 0⟩)]).flushed, ¬written.Sound := by
  refine exists_run_imp (fun bank => (settlesBorrower.through bank [(0, ⟨.user, 0, 1000, 0, 0⟩)]).flushed.any
    fun written => written.wallet 0 = some ⟨.user, 0, 970, 1000, 0⟩) (by decide +kernel) fun bank _ seen => ?_
  obtain ⟨written, member, row⟩ := List.any_eq_true.mp seen
  exact ⟨written, member, fun sound => absurd (sound 0 _ (of_decide_eq_true row)).2 (by decide)⟩

/-- The operations that move credit from wallet to wallet and issue none. -/
def MovesOnly (bank : Bank) : CreditOp → Prop
  | .transfer .. | .allocate .. | .bulkAllocate .. => True
  | .approveAllocationRequest req .. => ¬bank.Issues req
  | .addMembership group user _ _ _ _ stamp => bank.grantWelcomeCredit user group stamp = bank.ledger
  | _ => False

/-- Where the arithmetic is exact, what the group's wallet loses to a new member is what the member's gains. -/
theorem memberGrant_shuffles {group : GroupId} {user : UserId} {membership : ℕ}
    {amount : ℚ} {stamp : ℤ} {next : Ledger} (clear : Clear bank.ledger amount)
    (success : bank.grantCreditWithMembership group user membership amount stamp = .ok next) :
    bank.ledger.Shuffles next := by
  obtain ⟨source, sourceRow, target, targetRow, foundSource, foundTarget, distinct, -, rfl⟩ :=
    bank.grantCreditWithMembership_eq_ok success
  exact .single ⟨source, target, round2 amount, moved_of_posts foundSource foundTarget distinct
    (clear.taken_eq foundSource) (clear.given_eq foundTarget)⟩

theorem apply_shuffles (routed : bank.Routed) {op : CreditOp} (exact_ : op.Exact bank)
    (moves : MovesOnly bank op) : bank.ledger.Shuffles (bank.apply op).ledger := by
  have lift {tx : Tx} (through : tx.Through CoveredMove bank) :
      tx.Through (fun ledger next => ∃ source target amount, ledger.Moved next source target amount)
        bank := through.lift fun _ _ move => move.shuffles
  have committed : ∀ next, (op.run bank).result = .ok next → bank.ledger.Shuffles next.ledger := by
    cases op with
    | transfer source target value idem permitted inScope stamp
    | allocate source target value idem inScope stamp =>
      exact (lift (bank.moveBetween_through ..)).committed
    | bulkAllocate group value idem permitted stamp =>
      exact (lift (bank.bulkAllocate_through ..)).committed
    | approveAllocationRequest req idem canFulfill stamp =>
      have through := @approveAllocationRequest_through ⟨True, True⟩ bank canFulfill stamp req idem
        fun _ => routed
      refine (lift (through.lift ?_)).committed
      rintro _ _ (move | ⟨-, issues⟩)
      · exact .single move
      · exact absurd (issues routed) moves
    | addMembership group user membership grant permitted duplicate stamp =>
      intro next outcome
      simp only [MovesOnly] at moves
      simp only [Exact, moves] at exact_
      simp only [run, Bank.addMembership, moves] at outcome
      split_ifs at outcome
      · cases outcome
      · cases outcome
      · cases grant with
        | none =>
          cases outcome
          exact .refl
        | some amount =>
          dsimp only at outcome
          split_ifs at outcome
          · cases outcome
            exact .refl
          · split at outcome
            · rename_i ledger success
              cases outcome
              exact memberGrant_shuffles (exact_ amount rfl) success
            · cases outcome
    | _ => exact moves.elim
  rcases apply_cases bank op with ⟨next, outcome, same⟩ | same
  · rw [same]
    exact committed next outcome
  · rw [same]

/-- The operation works on fresh objects, and its arithmetic is exact to the hundredth. -/
def Booking (bank : Bank) (call : WriterCall) : Prop := Fresh bank.ledger.wallet call.2 ∧ call.1.Exact bank

/-- Starting from empty books, and as long as objects are fresh and the arithmetic is exact, the rows explain
every balance and every running sum, and moving credit around creates none. -/
theorem books_balance {first last : Bank} {calls : List WriterCall} (empty : first.ledger.txns = [])
    (penniless : ∀ id row, first.ledger.wallet id = some row → row.balance = 0)
    (routed : first.Routed) (run : Run step Booking first calls last) :
    last.ledger.Reconciled ∧
    ∀ call next, Booking last call → step last call = some next → MovesOnly last call.1 →
      ∀ wallets : Finset WalletId, (∀ id, (last.ledger.wallet id).isSome → id ∈ wallets) →
        ∑ id ∈ wallets, next.ledger.balance id = ∑ id ∈ wallets, last.ledger.balance id := by
  have kept : last.Routed ∧ last.ledger.Reconciled := by
    apply run.invariant
    · refine ⟨routed, fun id row found => ?_, fun txn older suffix => ?_⟩
      · rw [penniless id row found, empty]
        rfl
      · rw [empty] at suffix
        exact absurd (List.suffix_nil.mp suffix) (List.cons_ne_nil _ _)
    · rintro bank call next ⟨fresh, exact_⟩ taken ⟨routed, reconciled⟩
      cases (step_eq_apply fresh).symm.trans taken
      exact ⟨apply_routed routed call.1, (apply_reaches bank call.1).reconciled ⟨routed, exact_⟩ reconciled⟩
  refine ⟨kept.2, fun call next meets taken moves wallets all => ?_⟩
  cases (step_eq_apply meets.1).symm.trans taken
  exact (apply_shuffles kept.1 meets.2 moves).sum_balance all

theorem enroll_exact : (enroll 2).Exact funded := by
  intro amount sent
  cases sent
  rw [funded_unwelcoming]
  refine ⟨by norm_num [HalfCentFree], by unfold Agrees; decide +kernel, fun id row found => ?_,
    fun id row found => ?_⟩ <;>
  · unfold Agrees
    rcases funded_rows id row found with ⟨-, rfl⟩ | ⟨-, rfl⟩ <;> decide +kernel

theorem books_balance_enroll : ∃ next, step funded (enroll 2, []) = some next ∧ funded.ledger.Reconciled ∧
    ∑ id ∈ {0, 1}, next.ledger.balance id = ∑ id ∈ {0, 1}, funded.ledger.balance id := by
  have run : Run step Booking emptyBooks [(topupGroup, [])] funded :=
    .cons ⟨.nil, trivial⟩ funded_step (.nil _)
  have kept := books_balance rfl (fun id row found => (emptyBooks_penniless id row found).1)
    (fun _ _ _ lookup _ => by cases lookup) run
  have all (id : WalletId) (exists_ : (funded.ledger.wallet id).isSome) : id ∈ ({0, 1} : Finset WalletId) := by
    obtain ⟨row, found⟩ := Option.isSome_iff_exists.mp exists_
    rcases funded_rows id row found with ⟨rfl, -⟩ | ⟨rfl, -⟩ <;> simp
  have taken : step funded (enroll 2, []) = some (funded.apply (enroll 2)) := step_eq_apply .nil
  exact ⟨_, taken, kept.1, kept.2 _ _ ⟨.nil, enroll_exact⟩ taken funded_unwelcoming {0, 1} all⟩

/-- Half a cent sent along: the group's balance stays while its row says one hundredth less, and the
member gains a hundredth that no wallet lost. -/
theorem books_broken_by_halfCent :
    Run step (fun _ _ => True) emptyBooks [(topupGroup, []), (enroll (1 / 200), [])]
        (funded.apply (enroll (1 / 200))) ∧ ¬(funded.apply (enroll (1 / 200))).ledger.Reconciled ∧
      ∑ id ∈ {0, 1}, (funded.apply (enroll (1 / 200))).ledger.balance id
        = ∑ id ∈ {0, 1}, funded.ledger.balance id + 1 := by
  refine ⟨.cons trivial funded_step (.cons trivial (step_eq_apply .nil) (.nil _)),
    fun reconciled => ?_, by decide +kernel⟩
  exact absurd (reconciled.balances 0 ⟨.group, 7, 1000, 0, 0⟩ (by decide +kernel)) (by decide +kernel)

end GShare.Soundness.Books
