import GShare.Model.Credit.Statements
import GShare.Proofs.Credit.Engine
import GShare.Soundness.Samples

/-! # Charges and settlements of one session, interleaved

A `consume` looks for the settle row before it locks the wallet, and not again afterwards. A settlement
that commits in between is therefore overtaken: the charge lands behind the settle row. It does no harm
when the settlement itself charged the run up to a later moment, because then nothing is left to
charge. These are the only two ways in which a settled session stays without a later charge.
-/

open GShare.Model

variable {ledger : Ledger} {sess : Session} {id : SessionId} {now stamp : ℤ} {wallet : WalletId}

namespace GShare.Model

/-- Two readings of a session row that price the same run. -/
@[mk_iff] structure Session.SameBill (left right : Session) : Prop where
  id : left.id = right.id
  startedAt : left.startedAt = right.startedAt
  rate : left.creditPerHourSnapshot = right.creditPerHourSnapshot
  occupancy : left.occupancy = right.occupancy

instance (left right : Session) : Decidable (left.SameBill right) := decidable_of_iff' _ (Session.sameBill_iff ..)

theorem Session.SameBill.owed {left right : Session} (same : left.SameBill right) (now : ℤ) :
    left.owed now = right.owed now := by
  simp only [Session.owed, Session.activeHours, Session.activeMinutes, same.startedAt, same.rate,
    same.occupancy]

variable {type : TxnType} {ref : Option Ref}

namespace Ledger

/-- No charge of the session stands behind its settle row; rows are newest first. -/
def ChargedBeforeSettle (ledger : Ledger) (id : SessionId) : Prop :=
  ∀ txn older, txn :: older <:+ ledger.txns → txn.type = .consume → txn.ref = some (.session id) →
    ∀ row ∈ older, row.key ≠ .settle id

variable {next : Ledger} {wallet : WalletId} {row : Wallet}
variable {key : IdemKey} {amount : ℤ}

section

variable (before : ledger.ChargedBeforeSettle id)

include before

theorem ChargedBeforeSettle.post
    (inTime : type = .consume → ref = some (.session id) → ledger.txnExists (.settle id) = false) :
    (ledger.post wallet row type amount ref key stamp).ChargedBeforeSettle id := by
  intro txn older suffix charges ours settled member marks
  rcases List.suffix_cons_iff.mp suffix with newest | earlier
  · cases newest
    have exists_ := (ledger.txnExists_iff (.settle id)).mpr ⟨settled, member, marks⟩
    rw [inTime charges ours] at exists_
    cases exists_
  · exact before txn older earlier charges ours settled member marks

theorem ChargedBeforeSettle.closed :
    (ledger.closed wallet row sess.id key stamp).ChargedBeforeSettle id := by
  refine ChargedBeforeSettle.post ?_ (by simp)
  rcases releaseHold_cases ledger wallet row sess.id stamp with ⟨released, -, same⟩ | same
  · rw [same]
    exact before.post (by simp)
  · rw [same]
    exact before

theorem ChargedBeforeSettle.charged
    (charging : Charged ledger wallet sess key now stamp next) (ours : sess.id = id) :
    next.ChargedBeforeSettle id := by
  cases charging with
  | nothing => exact before
  | debit row amount found pos exact_ fresh unsettled priced =>
    exact before.post fun _ _ => ours ▸ unsettled

end

theorem due_debited_le (pos : 0 < amount) :
    (ledger.debited wallet row id amount key stamp).due wallet sess now ≤ ledger.due wallet sess now := by
  simp only [due, sumConsumed_debited]
  split_ifs <;> omega

@[simp] theorem due_closed :
    (ledger.closed wallet row id key stamp).due wallet sess now = ledger.due wallet sess now := by
  simp only [due, sumConsumed_closed]

theorem due_post_of_foreign {other : WalletId} (foreign : ¬(type = .consume ∧ ref = some (.session sess.id))) :
    (ledger.post other row type amount ref key stamp).due wallet sess now = ledger.due wallet sess now := by
  have skipped : isConsumeOf wallet sess.id sess.startedAt
      ⟨other, type, amount, row.balance, ref, key, stamp⟩ = false := by
    rw [Bool.eq_false_iff]
    intro selected
    simp only [isConsumeOf, Bool.and_eq_true, beq_iff_eq] at selected
    exact foreign ⟨selected.1.1.2, selected.1.2⟩
  simp [due, sumConsumed, skipped]

end Ledger

theorem CreditRequest.work_of_unbilled {req : CreditRequest}
    (unbilled : req.session.billingWalletId = none) : req.work ledger = ledger := by
  cases req with
  | consume sess => simp only [work, Ledger.charge, show sess.billingWalletId = none from unbilled]
  | settle sess => simp only [work, show sess.billingWalletId = none from unbilled]

theorem CreditRequest.work_settle {sess : Session}
    {final : Bool} {now stamp : ℤ} (billed : sess.billingWalletId = some wallet) :
    (CreditRequest.settle sess final now stamp).work ledger = ledger ∨
    ∃ start charged row, ledger.Settling wallet sess final now stamp start charged row ∧
      (CreditRequest.settle sess final now stamp).work ledger
        = charged.closed wallet row sess.id (.settle sess.id) stamp := by
  simp only [work, billed]
  cases outcome : ledger.settleParts wallet sess (.settle sess.id) final now stamp with
  | none => exact .inl rfl
  | some writes =>
    obtain ⟨start, charged, row, settling, rfl⟩ := Ledger.settleParts_eq_some outcome
    exact .inr ⟨start, charged, row, settling, rfl⟩

end GShare.Model

namespace GShare.Soundness.Settlement

open Machine GShare.Model
open GShare.Soundness.Samples CreditRequest CreditCall Ledger

variable {billing : Option WalletId}
variable {store after : CreditStore} {call moved : CreditCall} {index : ℕ}

/-- The session has nothing left to charge at `now`, on any wallet it may be billed to. -/
def NothingDue (billing : Option WalletId) (ledger : Ledger) (sess : Session) (now : ℤ) : Prop :=
  ∀ wallet, billing = some wallet → ledger.due wallet sess now ≤ 0

/-- A consume past its look for the settle row is harmless if there is one by now. -/
def Quiet (billing : Option WalletId) (ledger : Ledger) : CreditRequest → Prop
  | .consume sess _ now _ => sess.creditPerHourSnapshot ≠ 0 ∧
    (ledger.txnExists (.settle sess.id) → NothingDue billing ledger sess now)
  | .settle .. => True

def Fits (id : SessionId) (billing : Option WalletId) (store : CreditStore) (index : ℕ)
    (call : CreditCall) : Prop :=
  (call.request.session.id = id ∧ call.request.session.billingWalletId = billing) ∧
  match call.point with
  | .called | .returned => True
  | .newMinute => call.request.session.creditPerHourSnapshot ≠ 0
  | .admitted => Quiet billing store.ledger call.request
  | .locked => Quiet billing store.ledger call.request ∧ store.lock = some index
  | .flushed written => Quiet billing store.ledger call.request ∧ store.lock = some index ∧
      written = call.request.work store.ledger

/-- The settlement charges the waiting call's run up to a moment that is not earlier. -/
@[mk_iff] structure ClosesRun (ledger : Ledger) (sess : Session) (final : Bool) (now stamp : ℤ)
    (waiting : Session) (time : ℤ) : Prop where
  final : final
  sameBill : waiting.SameBill sess
  notLater : time ≤ now
  stamped : sess.startedAt.all (· ≤ stamp)
  covers : sess.billingWalletId.all (fun wallet =>
    (ledger.wallet wallet).all fun row => ledger.due wallet sess now ≤ row.balance)

/-- What a settlement about to commit needs of another call. -/
def Harmless (ledger : Ledger) (sess : Session) (final : Bool) (now stamp : ℤ) : CreditCall → Prop
  | ⟨.consume waiting _ time _, point⟩ =>
    point.pastCheck → ClosesRun ledger sess final now stamp waiting time
  | ⟨.settle .., _⟩ => True

/-- The condition on the step of one call: a settlement that commits finds the others harmless. -/
def CalmStep (pool : Pool CreditStore CreditCall) : CreditCall → Prop
  | ⟨.settle sess final now stamp, .flushed _⟩ =>
    ∀ call ∈ pool.calls, Harmless pool.store.ledger sess final now stamp call
  | _ => True

/-- When a settlement commits, every consume past its look for the settle row is of the run that the
settlement charges to the end. -/
def Calm (pool : Pool CreditStore CreditCall) : Action CreditCall Unit ForeignWrite → Prop
  | .advance index _ => ∀ call ∈ pool.calls[index]?, CalmStep pool call
  | _ => True

section Decidable

variable (ledger : Ledger) (sess waiting : Session) (final : Bool) (now stamp time : ℤ)

instance : Decidable (ClosesRun ledger sess final now stamp waiting time) :=
  decidable_of_iff' _ (closesRun_iff ..)

instance : DecidablePred (Harmless ledger sess final now stamp)
  | ⟨.consume .., _⟩ => inferInstanceAs (Decidable (_ → _))
  | ⟨.settle .., _⟩ => inferInstanceAs (Decidable True)

instance (pool : Pool CreditStore CreditCall) : DecidablePred (CalmStep pool) := fun _ => by
  unfold CalmStep
  split <;> infer_instance

instance (pool : Pool CreditStore CreditCall) (action : Action CreditCall Unit ForeignWrite) :
    Decidable (Calm pool action) := by
  unfold Calm
  split <;> infer_instance

end Decidable

section Commit

variable {req : CreditRequest}
variable {bucket : ℤ}

/-- A quiet call leaves no charge behind the settle row. -/
theorem Quiet.work_chargedBeforeSettle (quiet : Quiet billing ledger req)
    (ours : req.session.id = id) (billed : req.session.billingWalletId = billing)
    (before : ledger.ChargedBeforeSettle id) : (req.work ledger).ChargedBeforeSettle id := by
  cases billing with
  | none => rwa [work_of_unbilled billed]
  | some wallet =>
    cases req with
    | consume sess bucket now stamp =>
      rcases @charge_cases ledger wallet sess bucket now stamp billed with
        same | ⟨row, amount, found, pos, taken, fresh, same⟩
      · rwa [work, same]
      · rw [work, same]
        refine before.post fun _ _ => Bool.eq_false_iff.mpr fun settled => ?_
        have nothingDue := quiet.2 (ours ▸ settled) wallet rfl
        omega
    | settle sess final now stamp =>
      rcases @work_settle ledger wallet sess final now stamp billed with
        same | ⟨start, charged, row, ⟨foundStart, charging, found, unsettled⟩, same⟩
      · rwa [same]
      · rw [same]
        exact (before.charged (finalConsume_charged foundStart unsettled charging) ours).closed

theorem Quiet.after_consume (billed : sess.billingWalletId = billing) (quiet : Quiet billing ledger req) :
    Quiet billing ((consume sess bucket now stamp).work ledger) req := by
  cases req with
  | settle => trivial
  | consume waiting minute time mark =>
    cases billing with
    | none => exact ⟨quiet.1, fun _ _ none_ => by cases none_⟩
    | some wallet =>
      rcases @charge_cases ledger wallet sess bucket now stamp billed with
        same | ⟨row, amount, found, pos, taken, fresh, same⟩
      · rwa [work, same]
      · rw [work, same]
        refine ⟨quiet.1, fun settled target atWallet => ?_⟩
        cases atWallet
        have settledBefore : ledger.txnExists (.settle waiting.id) := by simpa using settled
        exact (due_debited_le pos).trans (quiet.2 settledBefore wallet rfl)

/-- A settlement that charges the run to the end leaves nothing due for the calls that wait. -/
theorem Quiet.after_settle {waiting : Session} {final : Bool} {time mark : ℤ}
    (billed : sess.billingWalletId = billing)
    (quiet : Quiet billing ledger (.consume waiting bucket time mark))
    (closes : ClosesRun ledger sess final now stamp waiting time) :
    Quiet billing ((settle sess final now stamp).work ledger)
      (.consume waiting bucket time mark) := by
  cases billing with
  | none => exact ⟨quiet.1, fun _ _ none_ => by cases none_⟩
  | some wallet =>
    rcases @work_settle ledger wallet sess final now stamp billed with
      same | ⟨start, charged, row, ⟨foundStart, charging, found, unsettled⟩, same⟩
    · rwa [same]
    · rw [same]
      refine ⟨quiet.1, fun _ target atWallet => ?_⟩
      cases atWallet
      obtain ⟨rfl, sameBill, notLater, stamped, covers⟩ := closes
      have covered : ledger.due wallet sess now ≤ start.balance := by
        simpa [billed, foundStart] using covers
      have settledUp :=
        finalConsume_settlesUp charging (sameBill.rate ▸ quiet.1) covered stamped
      have earlier := sess.owed_mono notLater
      rw [due_closed]
      simp only [due, sameBill.owed, sameBill.id, sameBill.startedAt] at settledUp ⊢
      omega

end Commit

theorem Fits.of_point (fits : Fits id billing store index call)
    (quiet : call.point.pastCheck → Quiet billing store.ledger call.request →
      Quiet billing after.ledger call.request) (held : call.point.holdsLock → store.lock = some index →
      after.ledger = store.ledger ∧ after.lock = some index) : Fits id billing after index call := by
  obtain ⟨req, point⟩ := call
  refine ⟨fits.1, ?_⟩
  have known := fits.2
  cases point with
  | called | returned => trivial
  | newMinute => exact known
  | admitted => exact quiet rfl known
  | locked => exact ⟨quiet rfl known.1, (held rfl known.2).2⟩
  | flushed written =>
    obtain ⟨sameLedger, stillHeld⟩ := held rfl known.2.1
    exact ⟨quiet rfl known.1, stillHeld, known.2.2.trans (by rw [sameLedger])⟩

/-- A call's own statement reads the store, takes the lock or commits. It leaves the rows in order and its
next point's assertion true. -/
theorem Fits.own (taken : call.next index store = some (after, moved))
    (before : store.ledger.ChargedBeforeSettle id) (fits : Fits id billing store index call) :
    (after = store ∨ (store.lock = none ∧ after = { store with lock := some index }) ∨
      ∃ written, call.point = .flushed written ∧ after = ⟨written, none⟩) ∧
    after.ledger.ChargedBeforeSettle id ∧ Fits id billing after index moved := by
  obtain ⟨req, point⟩ := call
  obtain ⟨ours, known⟩ := fits
  cases point with
  | called =>
    cases req with
    | consume sess bucket now stamp =>
      simp only [next] at taken
      split_ifs at taken with free repeated <;> cases taken
      · exact ⟨.inl rfl, before, ours, trivial⟩
      · exact ⟨.inl rfl, before, ours, trivial⟩
      · exact ⟨.inl rfl, before, ours, (not_or.mp free).1⟩
    | settle sess final now stamp =>
      simp only [next] at taken
      split_ifs at taken <;> cases taken <;> exact ⟨.inl rfl, before, ours, trivial⟩
  | newMinute =>
    simp only [next] at taken
    split_ifs at taken with settled <;> cases taken
    · exact ⟨.inl rfl, before, ours, trivial⟩
    · refine ⟨.inl rfl, before, ours, ?_⟩
      cases req with
      | consume sess => exact ⟨known, fun exists_ => absurd exists_ settled⟩
      | settle => trivial
  | admitted =>
    simp only [next] at taken
    split at taken
    · cases taken
      exact ⟨.inl rfl, before, ours, trivial⟩
    · cases taken
    · cases taken
      exact ⟨.inr (.inl ⟨‹_›, rfl⟩), before, ours, known, rfl⟩
  | locked =>
    cases taken
    exact ⟨.inl rfl, before, ours, known.1, known.2, rfl⟩
  | flushed written =>
    cases taken
    refine ⟨.inr (.inr ⟨written, rfl, rfl⟩), ?_, ours, trivial⟩
    rw [known.2.2]
    exact known.1.work_chargedBeforeSettle ours.1 ours.2 before
  | returned => cases taken

/-- The assertions survive every statement of every call, as long as the settlements are calm. -/
theorem keeps : (creditProgram id billing).Keeps Calm (fun store => store.ledger.ChargedBeforeSettle id)
    (Fits id billing) where
  enter := by
    rintro pool ⟨req, point⟩ - ⟨called, ours⟩ -
    cases point with
    | called => exact ⟨ours, trivial⟩
    | _ => cases called
  own := by
    intro pool index input call store after calm found taken before fits
    exact (fits.own taken before).2
  others := by
    intro pool index input call store after other bystander calm found taken before fits apart
      foundOther fitsOther
    rcases (fits.own taken before).1 with rfl | ⟨free, rfl⟩ | ⟨written, flushed, rfl⟩
    · exact fitsOther
    · refine fitsOther.of_point (fun _ quiet => quiet) fun _ held => ?_
      rw [free] at held
      cases held
    · obtain ⟨req, point⟩ := call
      cases flushed
      obtain ⟨ours, -, held, staged⟩ := fits
      dsimp only at ours staged
      subst staged
      refine fitsOther.of_point (fun past quiet => ?_) fun _ heldOther => ?_
      · cases req with
        | consume sess bucket now stamp => exact quiet.after_consume ours.2
        | settle sess final now stamp =>
          obtain ⟨waitingRequest, point⟩ := bystander
          cases waitingRequest with
          | settle => trivial
          | consume waiting minute time mark =>
            exact quiet.after_settle ours.2 (calm _ found _ (List.mem_of_getElem? foundOther) past)
      · rw [held] at heldOther
        cases heldOther
        exact absurd rfl apart
  outside := by
    intro pool write store _ changed before
    simp only [creditProgram] at changed
    split_ifs at changed with allowed
    cases changed
    obtain ⟨free, notCharge, notSettle⟩ := allowed
    refine ⟨before.post fun charges ours => absurd ⟨charges, ours⟩ notCharge, fun index call fits => ?_⟩
    refine fits.of_point (fun _ quiet => ?_) fun _ held => ?_
    · have ours := fits.1.1
      obtain ⟨req, point⟩ := call
      cases req with
      | settle => trivial
      | consume sess bucket now stamp =>
        have own : sess.id = id := ours
        subst own
        refine ⟨quiet.1, fun settled wallet billed => ?_⟩
        rw [due_post_of_foreign notCharge]
        rw [post_txnExists, beq_eq_false_iff_ne.mpr notSettle, Bool.false_or] at settled
        exact quiet.2 settled wallet billed
    · rw [free] at held
      cases held

/-- In every interleaving in which a settlement commits only past charges of a run it charges to the end
itself, no charge of the session stands behind its settle row. -/
theorem charged_before_settle {first last : Pool CreditStore CreditCall}
    {actions : List (Action CreditCall Unit ForeignWrite)} (idle : first.calls = [])
    (before : first.store.ledger.ChargedBeforeSettle id)
    (run : Run (creditProgram id billing).step Calm first actions last) :
    last.store.ledger.ChargedBeforeSettle id :=
  (keeps.run_idle run idle before).store

/-- A tick an hour into the run finds no settle row; then a settlement commits before it gets the lock. -/
def overtaken (final : Bool) : List (Action CreditCall Unit ForeignWrite) :=
  [.enter ⟨.consume (wholeCard 1 600) 60 (3600 * second) (3600 * second), .called⟩,
    .enter ⟨.settle (wholeCard 1 600) final (3600 * second) (3600 * second), .called⟩,
    .advance 0 (), .advance 0 (), .advance 1 (), .advance 1 (), .advance 1 (), .advance 1 (),
    .advance 0 (), .advance 0 (), .advance 0 ()]

theorem charged_before_settle_overtaken :
    ∃ last, Run (creditProgram 1 (some 0)).step Calm ⟨⟨hundredCredits, none⟩, []⟩ (overtaken true) last ∧
      last.store.ledger.ChargedBeforeSettle 1 :=
  exists_run_imp (fun _ => True) (by decide +kernel) fun _ run _ =>
    charged_before_settle rfl (by simp [ChargedBeforeSettle, hundredCredits]) run

/-- Without its final charge, the charge of the overtaken tick lands behind the settle row. -/
theorem charged_behind_settle :
    ∃ last, Run (creditProgram 1 (some 0)).step (fun _ _ => True) ⟨⟨hundredCredits, none⟩, []⟩
      (overtaken false) last ∧ ¬last.store.ledger.ChargedBeforeSettle 1 := by
  refine exists_run_imp (fun last => last.store.ledger.txns =
    [⟨0, .consume, -600, 9400, some (.session 1), .consume 1 60, 3600 * second⟩,
      ⟨0, .settle, 0, 10000, some (.session 1), .settle 1, 3600 * second⟩]) (by decide +kernel)
    fun last _ rows before => ?_
  rw [ChargedBeforeSettle, rows] at before
  exact before _ _ List.suffix_rfl rfl rfl _ List.mem_cons_self rfl

end GShare.Soundness.Settlement
