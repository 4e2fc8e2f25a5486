import GShare.Proofs.Credit.Keys
import GShare.Proofs.Credit.Refill

/-! # The monthly refill is complete and happens once

Sweeps for one month in any number and any order, failed, retried and overlapping, beside transactions that
write any other wallets and rows. As long as nobody else stores a row under a refill key of the month, a wallet
gets at most one refill row, a refill sets the balance to exactly the target, and a sweep that finishes has
visited every wallet that had a grant all along.
-/

namespace GShare.Soundness.Refill

open Machine GShare.Model Sweeping Ledger Option List Bool

/-- A commit of another transaction brings no row under a refill key of the month. -/
def Unforged (month : ℕ) : Action SweepCall SweepInput Disturbance → Prop
  | .outside (.commit _ rows) => ∀ row ∈ rows, row.isRefillOf month = false
  | _ => True

instance (month : ℕ) (action : Action SweepCall SweepInput Disturbance) : Decidable (Unforged month action) := by
  unfold Unforged
  split <;> infer_instance

/-- The tables are the same, locks and marker apart. -/
structure Same (next store : Sweeping) : Prop where
  ledger : next.ledger = store.ledger
  ids : next.ids = store.ids
  visits : next.visits = store.visits

variable (month place : ℕ) (store : Sweeping) in
/-- Everything that a point of a sweep can do. -/
inductive Moves : SweepCall → Sweeping → SweepCall → Prop
  | begin {next : Sweeping} (same : Same next store) : Moves .tick next (.selecting none)
  | skip : Moves .tick store .skipped
  | select (lastId : Option WalletId) :
      Moves (.selecting lastId) store (.locking (store.selected lastId) [])
  | fail {call : SweepCall} {next : Sweeping} (same : Same next store) : Moves call next .failed
  | lock {id : WalletId} {later batch : List WalletId} {next : Sweeping} (same : Same next store) :
      Moves (.locking (id :: later) batch) next (.locking later (batch ++ [id]))
  | pass {id : WalletId} {later batch : List WalletId} (without : store.hasGrant id = false) :
      Moves (.locking (id :: later) batch) store (.locking later batch)
  | finish {next : Sweeping} (same : Same next store) :
      Moves (.locking [] []) next .finished
  | commit {rest batch : List WalletId} {next : Sweeping} {ledger : Ledger} {stamp : ℤ}
      (success : store.ledger.refillBatch batch month stamp = some ledger) (nonempty : batch ≠ [])
      (written : next.ledger = ledger) (ids : next.ids = store.ids)
      (visited : next.visits = store.visits ++ turns batch month place store.ledger ledger) :
      Moves (.locking rest batch) next (.selecting batch.getLast?)

variable {month place : ℕ} {store next : Sweeping} {call after : SweepCall} {input : SweepInput}
variable {wallet : WalletId} {batch : List WalletId} {stamp : ℤ} {change : Disturbance}

theorem commitBatch_moves {rest : List WalletId} (ended : batch = [] → rest = [])
    (taken : store.commitBatch month place batch stamp = (next, after)) :
    Moves month place store (.locking rest batch) next after := by
  unfold commitBatch at taken
  split_ifs at taken with empty
  · cases taken
    rw [empty, ended empty]
    exact .finish ⟨rfl, rfl, rfl⟩
  · cases success : store.ledger.refillBatch batch month stamp with
    | none =>
      rw [success] at taken
      cases taken
      exact .fail ⟨rfl, rfl, rfl⟩
    | some ledger =>
      rw [success] at taken
      cases taken
      exact .commit success empty rfl rfl rfl

theorem next_moves (taken : call.next month place store input = some (next, after)) :
    Moves month place store call next after := by
  cases call with
  | tick =>
    simp only [SweepCall.next] at taken
    split_ifs at taken
    · cases taken
      exact .begin ⟨rfl, rfl, rfl⟩
    · cases taken
      exact .skip
  | selecting lastId =>
    simp only [SweepCall.next] at taken
    split_ifs at taken
    · cases taken
      exact .select lastId
    · cases taken
      exact .fail ⟨rfl, rfl, rfl⟩
  | locking rest batch =>
    simp only [SweepCall.next] at taken
    split at taken
    · cases taken
      exact .fail ⟨rfl, rfl, rfl⟩
    · cases rest with
      | nil => exact commitBatch_moves (fun _ => rfl) (some.inj taken)
      | cons id later =>
        dsimp only at taken
        split_ifs at taken with full locked granted
        · refine commitBatch_moves (fun empty => ?_) (some.inj taken)
          rw [empty] at full
          exact absurd full (by decide)
        · cases taken
          exact .lock ⟨rfl, rfl, rfl⟩
        · cases taken
          exact .pass (eq_false_iff.mpr granted)
  | finished | skipped | failed => cases taken

/-- The refill rows are in order, every wallet is listed, and every visit did what it may. -/
structure Sound (month : ℕ) (store : Sweeping) : Prop where
  once : store.ledger.RefilledOnce month
  listed : ∀ wallet, (store.ledger.wallet wallet).isSome → wallet ∈ store.ids
  visits : ∀ visit ∈ store.visits, visit.Right

theorem written_or_old {wallets : List (WalletId × Wallet)} {table : WalletId → Option Wallet} {id : WalletId}
    (exists_ : (overwrite table wallets id).isSome) : id ∈ wallets.map Prod.fst ∨ (table id).isSome := by
  induction wallets with
  | nil => exact .inr exists_
  | cons wallet rest ih =>
    by_cases same : id = wallet.1
    · exact .inl (by simp [same])
    · rw [overwrite, foldr_cons, Function.update_of_ne same] at exists_
      exact (ih exists_).imp_left (mem_cons_of_mem _)

theorem disturb_visits (taken : store.disturb change = some next) : next.visits = store.visits := by
  cases change with
  | loseMarker =>
    cases taken
    rfl
  | commit wallets rows =>
    simp only [disturb] at taken
    split_ifs at taken
    cases taken
    rfl

theorem visits_subset (moves : Moves month place store call next after) : store.visits ⊆ next.visits := by
  cases moves with
  | skip | select | pass => exact fun _ => id
  | begin same | fail same | lock same | finish same => rw [same.visits]; exact fun _ => id
  | commit _ _ _ _ visited =>
    rw [visited]
    exact subset_append_left _ _

def Visited (store : Sweeping) (place : ℕ) (wallet : WalletId) : Prop :=
  ∃ visit ∈ store.visits, visit.sweep = place ∧ visit.wallet = wallet

theorem Visited.mono (visited : Visited store place wallet)
    (subset : store.visits ⊆ next.visits) : Visited next place wallet := by
  obtain ⟨visit, member, here⟩ := visited
  exact ⟨visit, subset member, here⟩

/-- Where a sweep stands with a wallet that has a grant all along: visited, in the statement under way, or
behind the last id. -/
def Covers (store : Sweeping) (place : ℕ) (wallet : WalletId) : SweepCall → Prop
  | .selecting lastId => Visited store place wallet ∨ ∀ last ∈ lastId, last < wallet
  | .locking rest batch =>
      (batch ++ rest).Pairwise (· ≤ ·) ∧ (Visited store place wallet ∨ wallet ∈ batch ++ rest)
  | .finished => Visited store place wallet
  | .tick | .skipped | .failed => True

theorem Covers.mono (covers : Covers store place wallet call)
    (subset : store.visits ⊆ next.visits) : Covers next place wallet call := by
  cases call with
  | selecting lastId => exact covers.imp_left (·.mono subset)
  | locking rest batch => exact ⟨covers.1, covers.2.imp_left (·.mono subset)⟩
  | finished => exact Visited.mono covers subset
  | tick | skipped | failed => trivial

theorem visited_of_commit {ledger : Ledger}
    (success : store.ledger.refillBatch batch month stamp = some ledger) (member : wallet ∈ batch)
    (granted : store.hasGrant wallet)
    (visited : next.visits = store.visits ++ turns batch month place store.ledger ledger) :
    Visited next place wallet := by
  obtain ⟨row, found, -⟩ := (Option.any_eq_true ..).mp granted
  have turned : turnsTo (store.ledger.refilled batch month) batch month stamp store.ledger ledger := success
  have left := turnsTo_wallet turned wallet
  rw [if_pos member, found, map_some] at left
  refine ⟨⟨place, wallet, row, refillRow (store.ledger.refilled batch month) wallet row,
    store.ledger.txnExists (.refill wallet month), ledger.txnExists (.refill wallet month)⟩, ?_, rfl, rfl⟩
  rw [visited]
  refine mem_append_right _ (mem_filterMap.mpr ⟨wallet, member, ?_⟩)
  rw [found, bind_some, left, map_some]

section

variable (sound : Sound month store)

include sound

theorem Sound.of_same (same : Same next store) : Sound month next := by
  obtain ⟨once, listed, visits⟩ := sound
  rw [← same.ledger, ← same.ids] at listed
  rw [← same.ledger] at once
  rw [← same.visits] at visits
  exact ⟨once, listed, visits⟩

theorem Sound.moves (moves : Moves month place store call next after) : Sound month next := by
  cases moves with
  | skip | select | pass => exact sound
  | begin same | fail same | lock same | finish same => exact sound.of_same same
  | @commit rest batch _ ledger stamp success nonempty written ids visited =>
    have turned : turnsTo (store.ledger.refilled batch month) batch month stamp store.ledger ledger := success
    refine ⟨?_, fun wallet exists_ => ?_, ?_⟩
    · rw [written]
      exact sound.once.turns turned
    · rw [ids]
      refine sound.listed wallet ?_
      rw [written, turnsTo_wallet turned] at exists_
      split_ifs at exists_
      · simpa using exists_
      · exact exists_
    · rw [visited]
      intro visit member
      rcases mem_append.mp member with old | new
      · exact sound.visits visit old
      · exact turns_right sound.once success visit new

theorem Sound.disturb (unforged : Unforged month (.outside change))
    (taken : store.disturb change = some next) : Sound month next := by
  cases change with
  | loseMarker =>
    cases taken
    exact sound.of_same ⟨rfl, rfl, rfl⟩
  | commit wallets rows =>
    simp only [disturb] at taken
    split_ifs at taken
    cases taken
    refine ⟨sound.once.append _ unforged, fun wallet exists_ => ?_, sound.visits⟩
    rw [mem_union_iff]
    exact (written_or_old exists_).imp_right (sound.listed wallet)

theorem Covers.moves (granted : store.hasGrant wallet)
    (covers : Covers store place wallet call) (moves : Moves month place store call next after) :
    Covers next place wallet after := by
  have subset := visits_subset moves
  cases moves with
  | skip | fail => trivial
  | begin => exact .inr fun _ none => nomatch none
  | select lastId =>
    refine ⟨pairwise_insertionSort _ _, covers.imp_right fun behind => ?_⟩
    rw [nil_append, selected, mem_insertionSort, mem_filter]
    refine ⟨sound.listed wallet ?_, ?_⟩
    · obtain ⟨row, found, -⟩ := (Option.any_eq_true ..).mp granted
      rw [found]
      rfl
    · rw [granted, Bool.and_true, Option.all_eq_true]
      exact fun last isLast => decide_eq_true (behind last isLast)
  | lock same =>
    have assoc (id : WalletId) (later batch : List WalletId) : batch ++ [id] ++ later = batch ++ id :: later := by
      simp
    simpa only [Covers, assoc] using covers.mono subset
  | @pass id later batch without =>
    obtain ⟨ordered, there⟩ := covers
    refine ⟨ordered.sublist ((sublist_cons_self _ _).append_left _), there.imp_right fun member => ?_⟩
    have other : wallet ≠ id := by
      rintro rfl
      exact false_ne_true (without.symm.trans granted)
    simpa [other] using member
  | finish same => exact (covers.2.resolve_right not_mem_nil).mono subset
  | @commit rest batch _ ledger stamp success nonempty written ids visited =>
    obtain ⟨ordered, there⟩ := covers
    by_cases among : wallet ∈ batch
    · exact .inl (visited_of_commit success among granted visited)
    · refine there.imp (·.mono subset) fun member last isLast => ?_
      have later : wallet ∈ rest := (mem_append.mp member).resolve_left among
      have inBatch := mem_of_getLast? isLast
      have le := (pairwise_append.mp ordered).2.2 last inBatch wallet later
      exact lt_of_le_of_ne le fun same => among (same ▸ inBatch)

end

theorem keeps_sound (month : ℕ) :
    (sweepProgram month).Keeps (fun _ action => Unforged month action) (Sound month) fun _ _ _ => True where
  enter _ _ _ _ _ := trivial
  own _ _ _ _ _ _ _ _ taken sound _ := ⟨sound.moves (next_moves taken), trivial⟩
  others _ _ _ _ _ _ _ _ _ _ _ _ _ _ _ _ := trivial
  outside _ _ _ unforged taken sound := ⟨sound.disturb unforged taken, fun _ _ _ => trivial⟩

theorem keeps_covers (month place : ℕ) (wallet : WalletId) : (sweepProgram month).Keeps
      (fun pool action => Unforged month action ∧ pool.store.hasGrant wallet) (Sound month)
      fun store index call => index = place → Covers store place wallet call where
  enter _ _ _ entry _ _ := by
    rw [entry]
    trivial
  own pool index input call store after meets _ taken sound covers := by
    refine ⟨sound.moves (next_moves taken), fun same => ?_⟩
    subst same
    exact (covers rfl).moves sound meets.2 (next_moves taken)
  others _ _ _ _ _ _ _ _ _ _ taken _ _ _ _ covers here := (covers here).mono (visits_subset (next_moves taken))
  outside _ _ _ meets taken sound :=
    ⟨sound.disturb meets.1 taken, fun _ _ covers here =>
      (covers here).mono (disturb_visits taken ▸ fun _ => id)⟩

/-- In every run from tables without refill rows of the month, whatever other transactions commit but such
rows: a wallet has at most one refill row, every visit was right, and a sweep that began after some moment and
has finished has visited every wallet with a grant since then. -/
theorem refilled_once_and_complete (month : ℕ) (ledger : Ledger) (ids : List WalletId)
    (unused : ∀ wallet, ledger.txnExists (.refill wallet month) = false)
    (listed : ∀ wallet, (ledger.wallet wallet).isSome → wallet ∈ ids)
    {front back : List (Action SweepCall SweepInput Disturbance)} {middle last : Pool Sweeping SweepCall}
    (before : Run (sweepProgram month).step (fun _ action => Unforged month action)
      ⟨.start ledger ids, []⟩ front middle)
    (since : Run (sweepProgram month).step (fun _ action => Unforged month action) middle back last) :
    (∀ wallet, (last.store.ledger.txns.filter fun txn =>
        txn.walletId == wallet && txn.isRefillOf month).length ≤ 1) ∧
      (∀ visit ∈ last.store.visits, visit.Right) ∧
      ∀ place wallet, (∀ call, middle.calls[place]? = some call → call = .tick) →
        Run (sweepProgram month).step (fun pool _ => pool.store.hasGrant wallet) middle back last →
        last.calls[place]? = some .finished →
        ∃ visit ∈ last.store.visits, visit.sweep = place ∧ visit.wallet = wallet := by
  have atMiddle := (keeps_sound month).run_idle before rfl ⟨.none unused, listed, by simp [start]⟩
  have atLast := (keeps_sound month).run since atMiddle
  refine ⟨fun wallet => ?_, atLast.store.visits, fun place wallet notBegun granted finished => ?_⟩
  · have single := nodup_iff_count_le_one.mp atLast.store.once.once wallet
    rw [List.count, countP_map, countP_filter] at single
    rw [← countP_eq_length_filter]
    exact single
  · have covered : middle.Holds (Sound month) fun store index call =>
        index = place → Covers store place wallet call := by
      refine ⟨atMiddle.store, fun index call found here => ?_⟩
      rw [notBegun call (here ▸ found)]
      trivial
    exact ((keeps_covers month place wallet).run (since.both granted) covered).calls place _ finished rfl

/-- Two wallets with a grant of ten credits; the first holds a given amount and the second nothing. -/
def twoGrants (balance : ℤ) : Bank where
  ledger :=
    { wallet := fun id =>
        if id = 1 then some ⟨.user, 1, balance, 0, 1000⟩ else if id = 2 then some ⟨.user, 2, 0, 0, 1000⟩ else none
      txns := [] }
  walletIds := [1, 2]
  members _ := []
  liveGroup _ := false
  defaultMemberCredit _ := 0
  allocationRequests _ := none
  topupRequests _ := none

theorem twoGrants_listed {balance : ℤ}
    (exists_ : ((twoGrants balance).ledger.wallet wallet).isSome) : wallet ∈ [1, 2] := by
  simp only [twoGrants] at exists_
  split_ifs at exists_ with first second
  · simp [first]
  · simp [second]
  · cases exists_

def oneSweep : List (Action SweepCall SweepInput Disturbance) :=
  .enter .tick :: List.replicate 7 (.advance 0 ⟨0, true, true⟩)

theorem sweep_refills_both : ∃ last, Run (sweepProgram 11).step (fun _ action => Unforged 11 action)
        ⟨.start (twoGrants 0).ledger [1, 2], []⟩ oneSweep last ∧
      last.calls[0]? = some .finished ∧ (∀ visit ∈ last.store.visits, visit.Right) ∧
      ∃ visit ∈ last.store.visits, visit.sweep = 0 ∧ visit.wallet = 2 := by
  have executed : (execute (sweepProgram 11).step
      (fun pool action => Unforged 11 action ∧ (pool.store.hasGrant 2))
      ⟨.start (twoGrants 0).ledger [1, 2], []⟩ oneSweep).any (·.calls[0]? = some .finished) := by
    decide +kernel
  obtain ⟨last, done, finished⟩ := (Option.any_eq_true ..).mp executed
  have finished := of_decide_eq_true finished
  have run := run_of_execute done
  have unforged := run.mono fun _ _ meets => meets.1
  obtain ⟨-, right, complete⟩ := refilled_once_and_complete 11 (twoGrants 0).ledger [1, 2] (fun _ => rfl)
    (fun _ => twoGrants_listed) (.nil _) unforged
  exact ⟨last, unforged, finished, right,
    complete 0 2 (fun _ none => nomatch none) (run.mono fun _ _ meets => meets.2) finished⟩

/-- A top-up of the second wallet under the refill key of the first. -/
def forgedTopup : CreditOp := .topup 2 1 none (some (.refill 1 11)) true 0

/-- The sweep takes the second wallet for done and leaves it below its grant, although no refill row of its own
is there. -/
theorem forged_key_skips_wallet :
    ∃ last, Run (sweepProgram 11).step (fun _ _ => True) ⟨.start (twoGrants 1000).ledger [1, 2], []⟩
        (.outside (forgedTopup.commit (twoGrants 1000)) :: oneSweep) last ∧
      last.calls[0]? = some .finished ∧
      ∃ visit ∈ last.store.visits, visit.wallet = 2 ∧ visit.had = false ∧
        visit.after.balance < max visit.after.monthlyGrant visit.after.reserved :=
  exists_run_of_execute (by decide +kernel)

end GShare.Soundness.Refill
