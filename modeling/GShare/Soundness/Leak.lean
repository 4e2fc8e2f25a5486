import GShare.Proofs.Credit.Holds
import GShare.Proofs.Session.Scheduler
import GShare.Soundness.Samples

/-! # What an ended session leaves behind

An admission takes its hold and its slice in separate transactions and does not look at the status in
between; a promotion keeps its queue entry until the operator has been told, and for good if the operator
refuses. An end that is committed meanwhile releases only what it sees. Outside these two windows nothing
leaks: every slice of a session that is over is released, and every hold is settled, at the latest by the
admission that failed.
-/

namespace GShare.Model

/-- What somebody else writes is no hold and no settlement of the session. -/
theorem ForeignWrite.Unrelated.untouched {entry : ForeignWrite} {id : SessionId}
    (unrelated : entry.Unrelated id) (ledger : Ledger) :
    ledger.Untouched (ledger.post entry.wallet entry.row entry.type entry.amount entry.ref entry.key
      entry.stamp) id :=
  Ledger.untouched_post (fun hold => unrelated.2 hold.2) (fun mark => unrelated.1 (by rw [mark]; rfl))
    (fun charge => unrelated.1 (by rw [charge]; rfl))

end GShare.Model

namespace GShare.Soundness.Leak

open GShare.Model Machine Samples World Status Bool CreatePoint Ledger List

variable {store next : Admission} {call : SessionCall} {place : ℕ} {world : World} {env : Env}

theorem eq_false_of_imp {before after : Bool} (implies : after → before) (no : before = false) :
    after = false :=
  eq_false_iff.mpr (mt implies (eq_false_iff.mp no))

/-- The session is billed, and its books let every open hold be settled. -/
def Accounted (row : Session) (ledger : Ledger) : Prop :=
  ∃ wallet, row.billingWalletId = some wallet ∧ row.creditPerHourSnapshot ≠ 0 ∧
    ledger.Orderly row.id wallet

section Accounts

variable {row next loaded : Session} {ledger after : Ledger} {final : Bool} {now stamp : ℤ}

theorem Accounted.untouched (account : Accounted row ledger) (payer : next.SamePayer row)
    (same : ledger.Untouched after row.id) : Accounted next after := by
  obtain ⟨wallet, billed, priced, orderly⟩ := account
  refine ⟨wallet, payer.billingWalletId.trans billed, payer.rate ▸ priced, ?_⟩
  rw [payer.id]
  exact orderly.untouched same

theorem Accounted.settle (account : Accounted row ledger) (payer : loaded.SamePayer row) :
    loaded.billable ∧ Accounted loaded (ledger.settle loaded (.settle loaded.id) final now stamp) ∧
      (ledger.settle loaded (.settle loaded.id) final now stamp).holdOpen loaded.id = false := by
  obtain ⟨wallet, billed, priced, orderly⟩ := account
  rw [← payer.billingWalletId] at billed
  rw [← payer.rate] at priced
  rw [← payer.id] at orderly
  obtain ⟨settled, closed⟩ := @Orderly.settle _ _ _ now stamp orderly billed final
  exact ⟨by simp [Session.billable, billed, priced], ⟨wallet, billed, priced, settled⟩, closed⟩

theorem Accounted.settleBillable {world : World} {env : Env} (account : Accounted world.row world.ledger)
    (payer : loaded.SamePayer world.row) :
    Accounted world.row (world.settleBillable loaded final env).ledger ∧
      (world.settleBillable loaded final env).ledger.holdOpen world.row.id = false := by
  obtain ⟨billable, settled, closed⟩ := @Accounted.settle _ _ _ final env.now env.stamp account payer
  rw [settleBillable_ledger, if_pos billable, ← payer.id]
  exact ⟨settled.untouched payer.symm (payer.id ▸ .refl _ _), closed⟩

end Accounts

/-- The assertion on the session and its admission. -/
structure Sound (store : Admission) : Prop where
  account : Accounted store.world.row store.world.ledger
  vacant : store.world.row.status.isFinal → store.world.live = none
  searching : store.creating.searching →
    store.world.queued = false ∧ (store.world.row.status.isYoung → store.world.live = none)
  acquiring : store.creating.acquiring →
    store.world.row.status.isEnding = false ∧
      store.world.ledger.txnExists (.settle store.world.row.id) = false
  refunding : ∀ loaded, store.creating = .refunding loaded → loaded.SamePayer store.world.row

/-- What every transaction leaves to the other calls. -/
structure Evolves (store next : Admission) : Prop where
  payer : next.world.row.SamePayer store.world.row
  ending : store.world.row.status.isEnding → next.world.row.status.isEnding
  searching : store.creating.searching = false → next.creating.searching = false
  acquiring : store.creating.acquiring = false → next.creating.acquiring = false
  vacant : store.world.row.status.isEnding → store.creating.acquiring = false →
    store.world.live = none → next.world.live = none
  released : store.creating.acquiring = false → store.world.ledger.holdOpen store.world.row.id = false →
    next.world.ledger.holdOpen store.world.row.id = false

theorem Evolves.refl (store : Admission) : Evolves store store where
  payer := .refl _
  ending := id
  searching := id
  acquiring := id
  vacant := fun _ _ => id
  released := fun _ => id

/-- A termination has claimed the session, after its admission took all it takes. -/
structure Claimed (store : Admission) : Prop where
  ending : store.world.row.status.isEnding
  acquired : store.creating.acquiring = false

/-- The assertion on a call: what it relies on since its last transaction. -/
def Fits (store : Admission) (_ : ℕ) : SessionCall → Prop
  | .terminate _ (.claimed loaded _ _) => Claimed store ∧ loaded.SamePayer store.world.row
  | .terminate _ (.released loaded _ _) =>
    Claimed store ∧ loaded.SamePayer store.world.row ∧ store.world.live = none
  | .terminate _ (.settled ..) =>
    Claimed store ∧ store.world.live = none ∧
      store.world.ledger.holdOpen store.world.row.id = false
  | .start _ | .stop .. | .restart => False
  | .terminate _ .called | .terminate _ .ended | .callback _ | .cancel | .tick _ | .promote _
  | .returned => True

theorem Claimed.evolves (claimed : Claimed store) (evolves : Evolves store next) :
    Claimed next :=
  ⟨evolves.ending claimed.ending, evolves.acquiring claimed.acquired⟩

/-- The other calls keep what they rely on. -/
theorem Fits.evolves
    (fits : Fits store place call) (evolves : Evolves store next) : Fits next place call := by
  have payer {loaded : Session} (same : loaded.SamePayer store.world.row) :
      loaded.SamePayer next.world.row :=
    same.trans evolves.payer.symm
  cases call with
  | terminate reason point =>
    cases point with
    | called | ended => trivial
    | claimed loaded prior now => exact ⟨fits.1.evolves evolves, payer fits.2⟩
    | released loaded prior now =>
      exact ⟨fits.1.evolves evolves, payer fits.2.1,
        evolves.vacant fits.1.ending fits.1.acquired fits.2.2⟩
    | settled loaded now =>
      refine ⟨fits.1.evolves evolves, evolves.vacant fits.1.ending fits.1.acquired fits.2.1, ?_⟩
      rw [evolves.payer.id]
      exact evolves.released fits.1.acquired fits.2.2
  | promote point | callback event | cancel | tick point | returned => trivial
  | start point | stop reason restarting point | restart => exact fits.elim

/-- A queued session that has not started has a slice, which a promotion has reserved. -/
def HoldsSlot (world : World) : Prop := world.queued ∧ world.row.status.isYoung ∧ world.live ≠ none

/-- A session that is over has an open hold that its admission is not about to refund. -/
def RefundDebt (store : Admission) : Prop :=
  store.world.row.status.isFinal ∧
    store.world.ledger.holdOpen store.world.row.id ∧ store.creating.isRefunding = false

/-- A transaction of a call that keeps the assertion and what the others rely on. -/
structure Stepped (store : Admission) (world : World) : Prop where
  sound : Sound { store with world := world }
  evolves : Evolves store { store with world := world }

/-- It moreover leaves no hold open. -/
structure Quiet (store : Admission) (world : World) : Prop extends Stepped store world where
  refund : RefundDebt { store with world := world } → RefundDebt store

variable {point : CreatePoint} {reason : Reason}

section Steps

variable {after : Option TerminatePoint}

section

variable (sound : Sound store)

include sound

theorem Quiet.refl : Quiet store store.world :=
  ⟨⟨sound, .refl _⟩, id⟩

section

variable (payer : world.row.SamePayer store.world.row)

include payer

theorem Stepped.untouched (same : store.world.ledger.Untouched world.ledger store.world.row.id)
    (queued : store.creating.searching → world.queued → store.world.queued)
    (vacant : world.row.status.isFinal → world.live = none)
    (ending : store.creating.acquiring → world.row.status.isEnding →
      store.world.row.status.isEnding) (ended : store.world.row.status.isEnding →
      world.row.status.isEnding ∧ (store.world.live = none → world.live = none))
    (young : store.creating.searching → world.row.status.isYoung →
      store.world.row.status.isYoung ∧ (store.world.live = none → world.live = none)) :
    Stepped store world where
  sound :=
    { account := sound.account.untouched payer same
      vacant := vacant
      searching := fun searching => by
        obtain ⟨unqueued, free⟩ := sound.searching searching
        exact ⟨eq_false_of_imp (queued searching) unqueued,
          fun fresh => (young searching fresh).2 (free (young searching fresh).1)⟩
      acquiring := fun acquiring => by
        obtain ⟨open_, unsettled⟩ := sound.acquiring acquiring
        refine ⟨eq_false_of_imp (ending acquiring) open_, ?_⟩
        rw [payer.id]
        exact same.settled.trans unsettled
      refunding := fun loaded refunding => (sound.refunding loaded refunding).trans payer.symm }
  evolves :=
    { payer := payer
      ending := fun ending => (ended ending).1
      searching := id
      acquiring := id
      vacant := fun ending _ free => (ended ending).2 free
      released := fun _ released => same.holdOpen.trans released }

/-- A transaction that settles a session which its admission no longer works on, and leaves no slice
behind where there was none. -/
theorem Stepped.settled (account : Accounted world.row world.ledger)
    (closed : world.ledger.holdOpen store.world.row.id = false)
    (acquired : store.creating.acquiring = false) (queued : world.queued → store.world.queued)
    (vacant : world.row.status.isFinal → world.live = none)
    (ended : store.world.row.status.isEnding → world.row.status.isEnding)
    (young : world.row.status.isYoung → store.world.row.status.isYoung)
    (free : store.world.live = none → world.live = none) : Stepped store world where
  sound :=
    { account := account
      vacant := vacant
      searching := fun searching => by
        obtain ⟨unqueued, unused⟩ := sound.searching searching
        exact ⟨eq_false_of_imp queued unqueued, fun fresh => free (unused (young fresh))⟩
      acquiring := fun acquiring => by
        rw [acquired] at acquiring
        cases acquiring
      refunding := fun loaded refunding => (sound.refunding loaded refunding).trans payer.symm }
  evolves :=
    { payer := payer
      ending := ended
      searching := id
      acquiring := id
      vacant := fun _ _ unused => free unused
      released := fun _ _ => closed }

theorem Quiet.same (untouched : store.world.ledger.Untouched world.ledger store.world.row.id)
    (queued : world.queued → store.world.queued)
    (status : world.row.status = store.world.row.status) (live : world.live = store.world.live) :
    Quiet store world := by
  refine ⟨.untouched sound payer untouched (fun _ => queued) ?_ ?_ ?_ ?_, ?_⟩
  · rw [status, live]
    exact sound.vacant
  · rw [status]
    exact fun _ => id
  · rw [status, live]
    exact fun ending => ⟨ending, id⟩
  · rw [status, live]
    exact fun _ young => ⟨young, id⟩
  · refine fun ⟨final, opened, unrefunded⟩ => ⟨status ▸ final, ?_, unrefunded⟩
    exact untouched.holdOpen.symm.trans (payer.id ▸ opened)

end

theorem settleBillable_stepped {loaded : Session} {final : Bool}
    (payer : loaded.SamePayer store.world.row) (acquired : store.creating.acquiring = false) :
    Quiet store (store.world.settleBillable loaded final env) ∧
      (store.world.settleBillable loaded final env).ledger.holdOpen store.world.row.id = false := by
  obtain ⟨account, closed⟩ := @Accounted.settleBillable loaded final store.world env sound.account payer
  refine ⟨⟨.settled sound ?_ ?_ closed acquired ?_ ?_ ?_ ?_ ?_, ?_⟩, closed⟩
  all_goals simp only [RefundDebt, settleBillable_row, settleBillable_queued,
    settleBillable_live, closed]
  · exact .refl _
  · exact account
  · exact id
  · exact sound.vacant
  all_goals simp

end

theorem acquiring_of_searching (found : point.searching = false) : point.acquiring = false :=
  eq_false_of_imp searching_of_acquiring found

theorem Sound.found_of_queued (sound : Sound store) (queued : store.world.queued) :
    store.creating.searching = false := by
  by_contra searching
  have unqueued := (sound.searching (by simpa using searching)).1
  rw [queued] at unqueued
  cases unqueued

section

variable (sound : Sound store)

include sound

theorem release_stepped {reason : Option Reason}
    (found : store.creating.searching = false) : Stepped store (store.world.releaseReservation reason) := by
  refine .untouched sound (releaseReservation_terms ..).payer ?_ ?_ ?_ ?_ ?_ ?_
  · rw [releaseReservation_ledger]
    exact .refl _ _
  · rw [releaseReservation_queued]
    exact fun _ => id
  · exact fun _ => releaseReservation_live ..
  · rw [acquiring_of_searching found]
    exact nofun
  · intro ending
    refine ⟨?_, fun _ => releaseReservation_live ..⟩
    rw [releaseReservation_status]
    split_ifs
    · rfl
    · exact ending
  · rw [found]
    exact nofun

/-- The report ends the session or announces its end. -/
def closing (world : World) (event : StatusEvent) : Bool :=
  event.phase == .terminating || event.phase == .terminated || event.phase == .error
    || event.phase == .heartbeat && world.crashLooping event

/-- A report of a pod that is up: the session was on its way or running, and is running or paused. -/
theorem Quiet.of_inProgress (payer : world.row.SamePayer store.world.row)
    (same : store.world.ledger.Untouched world.ledger store.world.row.id)
    (queued : world.queued → store.world.queued) (inProgress : store.world.InProgress)
    (status : world.row.status = .running ∨ world.row.status = .paused) : Quiet store world := by
  have running : store.world.row.status.isEnding = false := by
    rcases inProgress with status | status | status <;> rw [status] <;> rfl
  have neither : world.row.status.isFinal = false ∧ world.row.status.isYoung = false ∧
      world.row.status.isEnding = false := by
    rcases status with status | status <;> rw [status] <;> exact ⟨rfl, rfl, rfl⟩
  refine ⟨.untouched sound payer same (fun _ => queued) ?_ ?_ ?_ ?_, ?_⟩
  all_goals simp [RefundDebt, neither, running]

theorem callback_stepped {event : StatusEvent}
    (settledIn : closing store.world event → store.creating.acquiring = false) :
    Quiet store (store.world.onStatus event env) := by
  cases store.world.onStatus_reported event env with
  | ignored becomes =>
    exact .same sound becomes.terms.payer (becomes.ledger ▸ .refl _ _) (becomes.queued ▸ id)
      becomes.status becomes.live
  | interim status forward becomes =>
    refine ⟨.untouched sound becomes.terms.payer (becomes.ledger ▸ .refl _ _)
      (fun _ => becomes.queued ▸ id) ?_ ?_ ?_ ?_, ?_⟩
    all_goals simp only [RefundDebt, becomes.status, becomes.live]
    all_goals rcases forward with ⟨rfl, young | young⟩ | ⟨rfl, _, phase⟩
    all_goals simp_all [closing, isFinal, isYoung, isEnding]
  | paused live inProgress vacates becomes =>
    exact .of_inProgress sound becomes.terms.payer (becomes.ledger ▸ untouched_consume)
      (becomes.queued ▸ id) inProgress (.inr becomes.status)
  | running ledger inProgress charged becomes =>
    have untouched : store.world.ledger.Untouched (store.world.onStatus event env).ledger
        store.world.row.id := by
      rw [becomes.ledger]
      rcases charged with rfl | rfl
      · exact .refl _ _
      · exact untouched_consume
    exact .of_inProgress sound becomes.terms.payer untouched (becomes.queued ▸ id) inProgress
      (.inl becomes.status)
  | ended status reports becomes =>
    obtain ⟨billable, account, closed⟩ := @Accounted.settle _ _ _ (store.world.row.status == .running)
      env.now env.stamp sound.account becomes.terms.payer
    have ledger := becomes.ledger
    rw [if_pos billable] at ledger
    have finished : (store.world.onStatus event env).row.status.isFinal := by
      rw [becomes.status]
      exact isFinal_ite (reports.imp And.left And.left)
    have acquired : store.creating.acquiring = false := by
      refine settledIn ?_
      rcases reports with ⟨_, phase⟩ | ⟨_, phase | ⟨phase, loops⟩⟩ <;> simp [closing, phase]
      exact loops
    refine ⟨.settled sound becomes.terms.payer (ledger ▸ account) (ledger ▸ becomes.terms.id ▸ closed)
      acquired (becomes.queued ▸ id) (fun _ => becomes.live)
      (fun _ => isEnding_of_isFinal finished) ?_ (fun _ => becomes.live), fun ⟨_, opened, _⟩ => ?_⟩
    · simp [not_isYoung_of_isEnding (isEnding_of_isFinal finished)]
    · rw [ledger, closed] at opened
      cases opened

theorem claim_stepped (acquired : store.creating.acquiring = false)
    (taken : store.world.claim reason env = (world, after)) :
    Quiet store world ∧ Fits { store with world := world } place (after.elim .returned (.terminate reason)) := by
  rcases claim_cases taken with ⟨_, rfl, rfl⟩ | ⟨_, ⟨given, rfl⟩, rfl⟩
  · exact ⟨.refl sound, trivial⟩
  · refine ⟨⟨.untouched sound ⟨rfl, rfl, rfl⟩ (.refl _ _) (fun _ => id) nofun ?_
      (fun _ => ⟨rfl, id⟩) (fun _ => nofun), fun ⟨final, _, _⟩ => (nomatch final)⟩, ⟨rfl, acquired⟩, .refl _⟩
    rw [acquired]
    exact nofun

theorem terminate_stepped {point : TerminatePoint}
    (fits : Fits store place (.terminate reason point))
    (claims : point = .called → store.creating.acquiring = false)
    (taken : store.world.terminate reason env point = (world, after)) :
    Quiet store world ∧ Fits { store with world := world } place (after.elim .returned (.terminate reason)) := by
  cases point with
  | called => exact claim_stepped sound (claims rfl) taken
  | claimed loaded prior now =>
    cases taken
    have stepped : Quiet store store.world.releaseAllocation :=
      ⟨.untouched sound (.refl _) (.refl _ _) (fun _ => id) (fun _ => rfl)
        (fun _ => id) (fun ending => ⟨ending, fun _ => rfl⟩)
        (fun _ young => ⟨young, fun _ => rfl⟩), id⟩
    exact ⟨stepped, fits.1.evolves stepped.evolves, fits.2, rfl⟩
  | released loaded prior now =>
    cases taken
    obtain ⟨claimed, payer, vacant⟩ := fits
    obtain ⟨stepped, closed⟩ := settleBillable_stepped sound payer claimed.acquired
    exact ⟨stepped, claimed.evolves stepped.evolves, by simpa using vacant, by simpa using closed⟩
  | settled loaded now =>
    cases taken
    obtain ⟨claimed, vacant, closed⟩ := fits
    refine ⟨?_, trivial⟩
    have status := stored_cases loaded.status .terminated store.world.row.status
    have ending : (stored loaded.status .terminated store.world.row.status).isEnding := by
      rcases status with written | kept
      · rw [written]
        rfl
      · rw [kept]
        exact claimed.ending
    have old := not_isYoung_of_isEnding ending
    refine ⟨.untouched sound ⟨rfl, rfl, rfl⟩ (.refl _ _) (fun _ => id) (fun _ => vacant) ?_
      (fun _ => ⟨ending, id⟩) (fun _ young => (nomatch old.symm.trans young)),
      fun ⟨_, opened, _⟩ => (nomatch closed.symm.trans opened)⟩
    rw [claimed.acquired]
    exact nofun
  | ended =>
    cases taken
    exact ⟨.same sound (.refl _) (.refl _ _) id rfl rfl, trivial⟩

theorem tick_stepped {point : TickPoint} {after : Option TickPoint}
    (taken : store.world.tick env point = (world, after)) : Quiet store world := by
  cases point with
  | called | listed now => cases taken; exact .refl sound
  | loaded sess now =>
    cases taken
    refine .same sound ?_ ?_ ?_ ?_ ?_ <;> simp only [consume_row, consume_ledger,
      consume_queued, consume_live]
    · exact .refl _
    · exact untouched_consume
    · exact id

theorem cancel_stepped (free : ¬HoldsSlot store.world) : Quiet store (store.world.cancel env) := by
  unfold cancel
  split_ifs with cancels
  · obtain ⟨queued, fresh⟩ := cancels
    have young : store.world.row.status.isYoung := by
      rcases fresh with status | status <;> rw [status] <;> rfl
    obtain ⟨_, account, closed⟩ :=
      @Accounted.settle _ _ _ true env.now env.stamp sound.account (.refl store.world.row)
    have acquired := acquiring_of_searching (sound.found_of_queued queued)
    have unused : store.world.live = none := by
      by_contra slice
      exact free ⟨queued, young, slice⟩
    exact ⟨.settled sound ⟨rfl, rfl, rfl⟩ (account.untouched ⟨rfl, rfl, rfl⟩ (.refl _ _)) closed acquired
      nofun (fun _ => unused) (fun _ => rfl) nofun id, fun ⟨_, opened, _⟩ => (nomatch closed.symm.trans opened)⟩
  · exact .refl sound

end

end Steps

/-- The next transaction of the call ends the session or announces its end. -/
def closes (world : World) : SessionCall → Bool
  | .terminate _ .called => true
  | .callback event => closing world event
  | _ => false

def cancelling : SessionCall → Bool
  | .cancel => true
  | _ => false

/-- The calls that an admission competes with: terminations, reports, cancellations, ticks and
promotions. -/
def competing : SessionCall → Bool
  | .start _ | .stop .. | .restart => false
  | _ => true

/-- No end is committed while the admission may still take its hold or its slice, and no cancellation
while a promotion has reserved a slice for the queued session. -/
def Guarded (pool : Pool Admission SessionCall) : Action SessionCall Env Beside → Prop
  | .enter call => competing call
  | .advance index _ => ∀ call ∈ pool.calls[index]?,
      (closes pool.store.world call → pool.store.creating.acquiring = false) ∧
      (cancelling call → ¬HoldsSlot pool.store.world)
  | .outside _ => True

section Calls

variable {after : SessionCall}

theorem promote_stepped (sound : Sound store) {point : PromotePoint} {after : Option PromotePoint}
    (taken : store.world.promote env point = (world, after)) : Quiet store world := by
  have unqueued : Quiet store { store.world with queued := false } :=
    .same sound (.refl _) (.refl _ _) nofun rfl rfl
  cases point with
  | called =>
    rcases promote_called taken with
      ⟨rfl, -⟩ | ⟨-, rfl, -⟩ | ⟨kind, total, queued, pending, allocated, -⟩
    · exact .refl sound
    · exact unqueued
    · have found := sound.found_of_queued queued
      rw [allocated.next_eq]
      refine ⟨.untouched sound ⟨rfl, rfl, rfl⟩ (.refl _ _) (fun _ => id) ?_ (fun _ => id) ?_ ?_, fun debt => ?_⟩
      · simp [pending, isFinal]
      · simp [pending, isEnding]
      · simp [found]
      · obtain ⟨final, -⟩ := debt
        simp [pending, isFinal] at final
  | reserved =>
    cases taken
    exact .refl sound
  | applied =>
    cases taken
    exact unqueued

theorem relocate {after : CreatePoint} (sound : Sound ⟨world, point⟩) (evolves : Evolves store ⟨world, point⟩)
    (acquires : after.acquiring → point.acquiring) (searches : after.searching → point.searching)
    (refunds : ∀ loaded, after = .refunding loaded → loaded.SamePayer world.row) :
    Sound ⟨world, after⟩ ∧ Evolves store ⟨world, after⟩ := by
  exact ⟨⟨sound.account, sound.vacant, fun searching => sound.searching (searches searching),
      fun acquiring => sound.acquiring (acquires acquiring), refunds⟩,
    ⟨evolves.payer, evolves.ending, fun found => eq_false_of_imp searches (evolves.searching found),
      fun acquired => eq_false_of_imp acquires (evolves.acquiring acquired), evolves.vacant, evolves.released⟩⟩

/-- The admission keeps the assertion and what the calls rely on, and leaves no hold open. -/
theorem create_stepped {after : CreatePoint} (sound : Sound store)
    (taken : store.world.create env store.creating = some (world, after)) :
    (Sound ⟨world, after⟩ ∧ Evolves store ⟨world, after⟩) ∧ (RefundDebt ⟨world, after⟩ → RefundDebt store) := by
  have created := create_created taken
  rcases store with ⟨before, point⟩
  cases created with
  | moved running acquires searches forward =>
    refine ⟨relocate sound (.refl _) acquires searches ?_, fun ⟨final, opened, _⟩ => ⟨final, opened, running⟩⟩
    rintro loaded rfl
    cases forward
  | held billed success forward =>
    obtain ⟨payer, billedTo, priced, orderly⟩ := sound.account
    obtain ⟨open_, unsettled⟩ := sound.acquiring rfl
    obtain rfl := Option.some.inj (billedTo.symm.trans billed)
    obtain ⟨held, still⟩ := orderly.hold unsettled success
    refine ⟨⟨⟨⟨payer, billedTo, priced, held⟩, sound.vacant, fun _ => sound.searching rfl,
        fun _ => ⟨open_, still⟩, ?_⟩,
      ⟨.refl _, id, nofun, nofun, fun _ _ => id, nofun⟩⟩,
      fun ⟨final, _, _⟩ => (nomatch (isEnding_of_isFinal final).symm.trans open_)⟩
    rintro loaded rfl
    rcases forward with other | other <;> cases other
  | occupied acquires allocated =>
    obtain ⟨open_, unsettled⟩ := sound.acquiring acquires
    rw [allocated.next_eq]
    refine ⟨⟨⟨sound.account.untouched ⟨rfl, rfl, rfl⟩ (.refl _ _), ?_, nofun, nofun, fun _ other => nomatch other⟩,
      ⟨⟨rfl, rfl, rfl⟩, id, fun _ => rfl, fun _ => rfl, ?_, fun _ => id⟩⟩,
      fun ⟨final, _, _⟩ => (nomatch (isEnding_of_isFinal final).symm.trans open_)⟩
    · exact fun final => (nomatch (isEnding_of_isFinal final).symm.trans open_)
    · exact fun ending => (nomatch ending.symm.trans open_)
  | enqueued =>
    exact ⟨⟨⟨sound.account, sound.vacant, nofun, nofun, fun _ other => nomatch other⟩,
      ⟨.refl _, id, nofun, fun _ => rfl, fun _ _ => id, fun _ => id⟩⟩,
      fun ⟨final, opened, _⟩ => ⟨final, opened, rfl⟩⟩
  | released reason =>
    have stepped := @release_stepped ⟨before, .failed reason⟩ sound (some reason) rfl
    refine ⟨relocate stepped.sound stepped.evolves nofun nofun ?_, fun ⟨_, _, unrefunded⟩ => nomatch unrefunded⟩
    rintro loaded ⟨⟩
    exact .refl _
  | refunded loaded =>
    obtain ⟨quiet, closed⟩ := @settleBillable_stepped ⟨before, .refunding loaded⟩ env sound loaded true
      (sound.refunding loaded rfl) rfl
    refine ⟨relocate quiet.sound quiet.evolves nofun nofun fun _ other => (nomatch other),
      fun ⟨_, opened, _⟩ => ?_⟩
    simp only [settleBillable_row, closed] at opened
    cases opened

/-- Every transaction of a call keeps the assertions. -/
theorem call_stepped (sound : Sound store) (fits : Fits store place call)
    (claims : closes store.world call → store.creating.acquiring = false)
    (cancels : cancelling call → ¬HoldsSlot store.world)
    (taken : call.next store.world env = some (world, after)) :
    Quiet store world ∧ Fits { store with world := world } place after := by
  cases call with
  | start point | stop reason restarting point | restart => exact fits.elim
  | terminate reason point =>
    cases taken
    exact terminate_stepped sound fits (by rintro rfl; exact claims rfl) rfl
  | callback event =>
    cases taken
    exact ⟨callback_stepped sound claims, trivial⟩
  | cancel =>
    cases taken
    exact ⟨cancel_stepped sound (cancels rfl), trivial⟩
  | tick point =>
    cases taken
    refine ⟨tick_stepped sound rfl, ?_⟩
    rcases store.world.tick env point with ⟨_, _ | after⟩ <;> trivial
  | promote point =>
    cases taken
    refine ⟨promote_stepped sound rfl, ?_⟩
    rcases store.world.promote env point with ⟨_, _ | after⟩ <;> trivial
  | returned => cases taken

/-- What happens beside the calls keeps the assertions and leaves no hold open. -/
theorem beside_stepped {change : Beside} (sound : Sound store) (taken : store.beside change = some next) :
    (Sound next ∧ Evolves store next) ∧ (RefundDebt next → RefundDebt store) := by
  rcases Admission.beside_cases taken with
    ⟨env, world, point, created, rfl⟩ | ⟨entry, unrelated, rfl⟩
  · exact create_stepped sound created
  · have untouched := unrelated.untouched store.world.ledger
    generalize store.world.ledger.post .. = ledger at untouched ⊢
    have quiet : Quiet store { store.world with ledger := ledger } :=
      .same sound ⟨rfl, rfl, rfl⟩ untouched id rfl rfl
    exact ⟨⟨quiet.sound, quiet.evolves⟩, quiet.refund⟩

end Calls

/-- A new call relies on nothing yet. -/
theorem fits_of_isEntry
    (entry : call.isEntry) (competes : competing call) : Fits store place call := by
  cases call with
  | start point | stop reason restarting point | restart => cases competes
  | terminate reason point => cases point <;> trivial
  | callback event | cancel | tick point | promote point | returned => trivial

variable {pool : Pool Admission SessionCall} {index : ℕ}

theorem Guarded.stepped {env : Env} {world : World} {after : SessionCall}
    (guarded : Guarded pool (.advance index env)) (found : pool.calls[index]? = some call) (sound : Sound pool.store) (fits : Fits pool.store index call)
    (taken : call.next pool.store.world env = some (world, after)) :
    Quiet pool.store world ∧ Fits { pool.store with world := world } index after :=
  call_stepped sound fits (guarded call found).1 (guarded call found).2 taken

theorem keeps : sessionProgram.Keeps Guarded (fun store => Sound store ∧ ¬RefundDebt store) Fits where
  enter pool call guarded entry _ := fits_of_isEntry entry guarded
  own pool index env call store after guarded found taken sound fits := by
    obtain ⟨world, stepped, rfl⟩ := sessionProgram_next taken
    obtain ⟨quiet, onward⟩ := guarded.stepped found sound.1 fits stepped
    exact ⟨⟨quiet.sound, mt quiet.refund sound.2⟩, onward⟩
  others pool index env call store after other bystander guarded found taken sound fits _ _ relies := by
    obtain ⟨world, stepped, rfl⟩ := sessionProgram_next taken
    exact relies.evolves (guarded.stepped found sound.1 fits stepped).1.evolves
  outside pool change store _ taken sound := by
    obtain ⟨⟨kept, evolves⟩, refund⟩ := beside_stepped sound.1 taken
    exact ⟨⟨kept, mt refund sound.2⟩, fun _ _ fits => fits.evolves evolves⟩

/-- The committed pending row of a billed session at the begin of its admission, with no rows about it
in the ledger. -/
structure Fresh (store : Admission) : Prop where
  begins : store.creating = .validating
  pending : store.world.row.status = .pending
  free : store.world.live = none
  unqueued : store.world.queued = false
  billable : store.world.row.billable
  unknown : ∀ txn ∈ store.world.ledger.txns, txn.key.session? ≠ some store.world.row.id ∧
    txn.ref ≠ some (.session store.world.row.id)

theorem Fresh.txnExists (fresh : Fresh store) {key : IdemKey}
    (about : key.session? = some store.world.row.id) : store.world.ledger.txnExists key = false := by
  rw [eq_false_iff]
  intro exists_
  obtain ⟨txn, member, same⟩ := (store.world.ledger.txnExists_iff key).mp exists_
  exact (fresh.unknown txn member).1 (same ▸ about)

theorem Fresh.holdOpen (fresh : Fresh store) :
    store.world.ledger.holdOpen store.world.row.id = false := by
  rw [eq_false_iff]
  intro opened
  obtain ⟨txn, member, holds⟩ := any_eq_true.mp opened
  simp only [and_eq_true, beq_iff_eq] at holds
  exact (fresh.unknown txn ((takeWhile_sublist _).mem member)).2 holds.2

theorem Fresh.sound (fresh : Fresh store) : Sound store where
  account := by
    obtain ⟨wallet, billed⟩ := Option.isSome_iff_exists.mp (and_eq_true_iff.mp fresh.billable).1
    refine ⟨wallet, billed, by simpa [Session.billable, billed] using fresh.billable, ?_, ?_, ?_⟩
    · exact fun _ => fresh.holdOpen
    · intro settled
      cases (fresh.txnExists rfl).symm.trans settled
    · intro opened
      cases fresh.holdOpen.symm.trans opened
  vacant := fun _ => fresh.free
  searching := fun _ => ⟨fresh.unqueued, fun _ => fresh.free⟩
  acquiring := fun _ => ⟨by rw [fresh.pending]; rfl, fresh.txnExists rfl⟩
  refunding := by
    intro loaded refunding
    cases fresh.begins.symm.trans refunding

/-- When a session is over and its admission has returned, it has no slice, no open hold and no queue
entry that the ticker would place, provided that no end was committed while its admission could still
take something, and no cancellation while a promotion had reserved a slice for the queued session. -/
theorem no_leak {first last : Pool Admission SessionCall} {actions : List (Action SessionCall Env Beside)}
    (idle : first.calls = []) (fresh : Fresh first.store)
    (run : Run sessionProgram.step Guarded first actions last) (created : last.store.creating = .created)
    (finished : last.store.world.row.status = .terminated ∨ last.store.world.row.status = .error) :
    last.store.world.live = none ∧
      last.store.world.ledger.holdOpen last.store.world.row.id = false ∧
      ∀ env, (last.store.world.promote env .called).2 = none := by
  have unowed : ¬RefundDebt first.store := fun debt => absurd debt.1 (by rw [fresh.pending]; exact nofun)
  obtain ⟨sound, refunded⟩ := (keeps.run_idle run idle ⟨fresh.sound, unowed⟩).store
  have final : last.store.world.row.status.isFinal := by
    rcases finished with status | status <;> rw [status] <;> rfl
  refine ⟨sound.vacant final, ?_, fun env => ?_⟩
  · by_contra opened
    exact refunded ⟨final, by simpa using opened, by rw [created]; rfl⟩
  · rcases taken : last.store.world.promote env .called with ⟨next, after⟩
    rcases promote_called taken with
      ⟨_, unplaced⟩ | ⟨_, _, unplaced⟩ | ⟨_, _, _, pending, _⟩
    · exact unplaced
    · exact unplaced
    · rw [pending] at final
      cases final

instance (world : World) : Decidable (HoldsSlot world) := inferInstanceAs (Decidable (_ ∧ _ ∧ _))

instance (action : Action SessionCall Env Beside) : Decidable (Guarded pool action) := by
  unfold Guarded
  split <;> infer_instance

/-- A pending session of the funded wallet, at the begin of its admission. -/
def admitted : Pool Admission SessionCall :=
  ⟨⟨worldOf (.pendingRow 1 .gpu none (some 100) (some 0) 600 .cold false 0) none, .validating⟩, []⟩

/-- No card is free, so the admission takes its hold and queues the session; then a card comes free and
a promotion takes it. -/
def queuedThenReserved : List (Action SessionCall Env Beside) :=
  replicate 7 (.outside (.create { granted 0 with slice := none }))
    ++ [.enter (.promote .called), .advance 0 (granted second)]

def advances (place count : ℕ) : List (Action SessionCall Env Beside) :=
  replicate count (.advance place (granted second))

/-- What is left of a session: nobody works on it, its status, its slice and whether a hold is open. -/
def remains (pool : Pool Admission SessionCall) : Bool × Status × Option AllocationKind × Bool :=
  (pool.calls.all (fun call => call matches .returned) && pool.store.creating matches .created,
    pool.store.world.row.status, pool.store.world.live,
    pool.store.world.ledger.holdOpen pool.store.world.row.id)

theorem quiescent_of_remains {status : Status}
    {live : Option AllocationKind} {opened : Bool} (left : remains pool = (true, status, live, opened)) :
    (∀ call ∈ pool.calls, call = .returned) ∧ pool.store.creating = .created ∧
      pool.store.world.row.status = status ∧ pool.store.world.live = live := by
  simp only [remains, Prod.mk.injEq, and_eq_true, all_eq_true] at left
  obtain ⟨⟨returned, created⟩, status, live, _⟩ := left
  refine ⟨fun call member => ?_, ?_, status, live⟩
  · have done := returned call member
    cases call <;> first | rfl | cases done
  · revert created
    cases pool.store.creating <;> simp

/-- A promotion that runs through before the session is terminated leaves nothing behind. -/
theorem no_leak_after_promotion : ∃ last, Run sessionProgram.step Guarded admitted
      (queuedThenReserved ++ advances 0 2 ++ .enter (.terminate .userStopped .called) :: advances 1 5)
      last ∧ last.store.world.live = none := by
  have fresh : Fresh admitted.store :=
    ⟨rfl, rfl, rfl, rfl, rfl, by simp [admitted, worldOf, hundredCredits]⟩
  refine exists_run_imp (remains · = (true, .terminated, none, false)) (by decide +kernel) fun last run left => ?_
  obtain ⟨-, created, status, -⟩ := quiescent_of_remains left
  exact (no_leak rfl fresh run created (.inl status)).1

/-- A session cancelled between the reservation of a promotion and the removal of its queue entry keeps
its slice for good. -/
theorem cancelled_promotion_leaks : ∃ last, Run sessionProgram.step (fun _ _ => True) admitted
      (queuedThenReserved ++ .enter .cancel :: advances 1 1 ++ advances 0 2) last ∧
      (∀ call ∈ last.calls, call = .returned) ∧ last.store.creating = .created ∧
      last.store.world.row.status = .terminated ∧ last.store.world.live = some .resident :=
  exists_run_imp (remains · = (true, .terminated, some .resident, false)) (by decide +kernel)
    fun _ _ left => quiescent_of_remains left

end GShare.Soundness.Leak
