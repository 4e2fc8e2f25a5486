import GShare.Proofs.Credit.Holds
import GShare.Proofs.Session.Lifecycle
import GShare.Proofs.Session.Scheduler
import GShare.Soundness.Reservation
import Mathlib.Data.List.TakeWhile

/-! # The hold of a session that is over

Every call that ends a session settles it if its row has a price. With one operation at a time that
closes its hold, and the wallet's reserved credit is within the holds of the other sessions. But the
price is the current one: a resume copies it from the offering, and a session resumed while the offering
is free ends with its hold still reserved.
-/

namespace GShare.Model.Ledger

variable {ledger middle next : Ledger} {wallet : WalletId} {row : Wallet}
variable {id other : SessionId} {stamp : ℤ}

theorem Untouched.trans (first : ledger.Untouched middle id) (second : middle.Untouched next id) :
    ledger.Untouched next id where
  holdOpen := second.holdOpen.trans first.holdOpen
  settled := second.settled.trans first.settled
  charged := second.charged.trans first.charged
  wallets wallet found := second.wallets wallet (first.wallets wallet found)

theorem untouched_setWallet : ledger.Untouched (ledger.setWallet wallet row) id where
  holdOpen := rfl
  settled := rfl
  charged := rfl
  wallets asked found := by
    by_cases same : asked = wallet
    · simp [setWallet, same]
    · simpa [setWallet, same] using found

theorem untouched_closed (apart : other ≠ id) :
    ledger.Untouched (ledger.closed wallet row other (.settle other) stamp) id := by
  have marked : (IdemKey.settle other) ≠ .settle id := fun same => apart (IdemKey.settle.inj same)
  refine Untouched.trans ?_ (untouched_post (by simp) marked (by simp))
  rcases releaseHold_cases ledger wallet row other stamp with ⟨released, _, same⟩ | same
  · rw [same]
    exact untouched_post (by simp) (by simp) (by simp)
  · rw [same]
    exact untouched_setWallet

theorem settled_of_holdOpen_eq_false (shut : ledger.holdOpen id = false)
    (held : ∃ txn ∈ ledger.txns, txn.type = .hold ∧ txn.ref = some (.session id)) :
    ledger.txnExists (.settle id) := by
  by_contra unsettled
  obtain ⟨txn, member, type, ref⟩ := held
  have every : ledger.txns.takeWhile (·.key != .settle id) = ledger.txns := by
    refine List.takeWhile_eq_self_iff.mpr fun txn member => bne_iff_ne.mpr fun same => unsettled ?_
    exact (ledger.txnExists_iff _).mpr ⟨txn, member, same⟩
  have opened : ledger.holdOpen id := by
    rw [holdOpen, every]
    exact List.any_eq_true.mpr ⟨txn, member, by simp [type, ref]⟩
  rw [opened] at shut
  cases shut

end GShare.Model.Ledger

namespace GShare.Soundness.Settled

open GShare.Model Machine Reservation Samples World Ledger Finset

variable {wallet : WalletId} {ledger : Ledger} {id : SessionId} {op : EngineOp}
variable {after point : CreatePoint} {reason : Reason} {amount : HoldAmount} {kind : AllocationKind}
variable {total : ℕ}

def sessionOf : EngineOp → SessionId
  | .hold sess _ _ => sess
  | .consume sess _ _ _ | .settle sess _ _ _ => sess.id

section

variable {next : Ledger}

theorem untouched_applied (apart : sessionOf op ≠ id) (applied : op.Applied wallet ledger next) :
    ledger.Untouched next id := by
  cases applied with
  | nothing => exact .refl _ _
  | held =>
    refine untouched_post (fun same => apart ?_) (by simp) (by simp)
    exact Ref.session.inj (Option.some.inj same.2)
  | consumed charge => exact charge.untouched (by simp) (by simp)
  | settled charge =>
    refine (charge.untouched (by simp) fun same => apart ?_).trans (untouched_closed apart)
    exact IdemKey.consumeSettle.inj same

/-- Nothing was held for the session or charged to it yet. -/
def Fresh (ledger : Ledger) (id : SessionId) : Prop :=
  id ∉ ledger.holders ∧ ledger.txnExists (.settle id) = false

theorem holders_charged {sess : Session} {key : IdemKey} {now stamp : ℤ}
    (charging : ledger.Charged wallet sess key now stamp next) :
    next.holders ⊆ insert sess.id ledger.holders := by
  cases charging with
  | nothing => exact subset_insert _ _
  | debit row amount => exact (holders_post stamp .consume).subset

theorem holders_applied (applied : op.Applied wallet ledger next) :
    next.holders ⊆ insert (sessionOf op) ledger.holders := by
  cases applied with
  | nothing => exact subset_insert _ _
  | held => exact (holders_post _ .hold).subset
  | consumed charge => exact holders_charged charge
  | settled charge =>
    refine (holders_closed_subset _).trans (insert_subset_iff.mpr ⟨?_, holders_charged charge⟩)
    exact mem_insert_self _ _

theorem Fresh.applied (fresh : Fresh ledger id) (apart : sessionOf op ≠ id)
    (applied : op.Applied wallet ledger next) : Fresh next id := by
  refine ⟨fun points => ?_, (untouched_applied apart applied).settled.trans fresh.2⟩
  rcases mem_insert.mp (holders_applied applied points) with same | earlier
  · exact apart same.symm
  · exact fresh.1 earlier

end

/-- The wallet pays for the session, and its books are in order. -/
structure Kept (wallet : WalletId) (world : World) : Prop where
  billed : world.row.billingWalletId = some wallet
  orderly : world.ledger.Orderly world.row.id wallet
  backed : Backed wallet world.ledger

def holding (world : World) : Bool := world.ledger.holdOpen world.row.id

/-- The books are in order, and a session that is over has no open hold. -/
structure Sound (wallet : WalletId) (world : World) : Prop where
  kept : Kept wallet world
  closed : world.row.status.isFinal → holding world = false

section

variable (wallet)

def FitsCall (world : World) : SessionCall → Prop
  | .stop _ _ (.checked loaded _) | .stop _ _ (.patched loaded _) | .stop _ _ (.charged loaded)
  | .tick (.loaded loaded _) => Sound wallet world ∧ loaded.SamePayer world.row
  | .terminate _ (.claimed loaded _ _) | .terminate _ (.released loaded _ _) =>
    Kept wallet world ∧ loaded.SamePayer world.row
  | .terminate _ (.settled ..) => Kept wallet world ∧ holding world = false
  | _ => Sound wallet world

/-- What holds while an operation on the session is in progress. -/
def Fits (world : World) : Operation → Prop
  | .create point =>
    match point with
    | .validating | .quoting | .gating _ | .holding _ =>
      Kept wallet world ∧ world.row.status = .pending ∧ Fresh world.ledger world.row.id
    | .refunding loaded => Kept wallet world ∧ loaded.SamePayer world.row
    | .created => Sound wallet world
    | _ => Kept wallet world ∧ world.row.status = .pending
  | .call call => FitsCall wallet world call
  | .enforce _ _ => Sound wallet world

/-- The report says that the session is over. -/
def reportsEnd (world : World) (event : StatusEvent) : Bool :=
  event.phase == .terminated || event.phase == .error
    || event.phase == .heartbeat && world.crashLooping event

/-- Who settles a session with an open hold finds a price in its row. -/
def FindsPrice (world : World) : Operation → Prop
  | .create (.refunding _) | .call (.terminate _ (.released ..)) =>
    holding world → world.row.creditPerHourSnapshot ≠ 0
  | .call (.callback event) =>
    reportsEnd world event → holding world → world.row.creditPerHourSnapshot ≠ 0
  | _ => True

def SettlesPriced (turn : Turn World Operation) : Move Operation Env EngineOp → Prop
  | .proceed _ => ∀ operation ∈ turn.current, FindsPrice turn.store operation
  | .enter _ | .outside _ => True

instance : DecidablePred (Disciplined wallet ledger) := fun _ => by
  unfold Disciplined
  split <;> infer_instance

/-- The engine works for another session of the wallet. -/
def others (world : World) (op : EngineOp) : Option World :=
  if sessionOf op ≠ world.row.id ∧ Disciplined wallet world.ledger op then
    some { world with ledger := op.apply wallet world.ledger }
  else none

/-- One operation on the session at a time, at whatever price its offering has then, while other sessions
hold, spend and settle on its wallet. -/
def walletProgram : Program World Operation Env EngineOp :=
  lifecycleProgram Operation.isEntry (others wallet)

end

instance : DecidablePred (walletProgram wallet).entry :=
  fun operation => inferInstanceAs (Decidable (operation.isEntry))

section Steps

variable {world next : World} {env : Env} {loaded : Session}

section

variable (kept : Kept wallet world)

include kept

section

variable (sameId : next.row.id = world.row.id) (billing : next.row.billingWalletId = world.row.billingWalletId)

include sameId billing

theorem Kept.untouched
    (same : world.ledger.Untouched next.ledger world.row.id) (backed : Backed wallet next.ledger) :
    Kept wallet next ∧ holding next = holding world := by
  refine ⟨⟨billing.trans kept.billed, ?_, backed⟩, ?_⟩
  · rw [sameId]
    exact kept.orderly.untouched same
  · rw [holding, sameId]
    exact same.holdOpen

theorem Kept.row (ledger : next.ledger = world.ledger) : Kept wallet next ∧ holding next = holding world :=
  kept.untouched sameId billing (ledger ▸ .refl _ _) (ledger ▸ kept.backed)

theorem Kept.consume {bucket now stamp : ℤ} (payer : loaded.SamePayer world.row)
    (ledger : next.ledger = world.ledger.consume loaded bucket now stamp) :
    Kept wallet next ∧ holding next = holding world := by
  refine kept.untouched sameId billing (ledger ▸ untouched_consume) ?_
  have charged : Disciplined wallet world.ledger (.consume loaded bucket now stamp) :=
    payer.billingWalletId.trans kept.billed
  rw [ledger]
  exact kept.backed.applied charged.applied

theorem Kept.settle {final : Bool} {now stamp : ℤ} (loadedId : loaded.id = world.row.id)
    (paid : loaded.billingWalletId = some wallet) (ledger : next.ledger = world.ledger.settle loaded (.settle loaded.id) final now stamp) :
    Kept wallet next ∧ holding next = false := by
  have orderly := kept.orderly
  rw [← loadedId] at orderly
  obtain ⟨settled, shut⟩ := @Orderly.settle _ _ _ now stamp orderly paid final
  have charged : Disciplined wallet world.ledger (.settle loaded final now stamp) := paid
  refine ⟨⟨billing.trans kept.billed, ?_, ?_⟩, ?_⟩
  · rw [sameId, ← loadedId, ledger]
    exact settled
  · rw [ledger]
    exact kept.backed.applied charged.applied
  · rw [holding, sameId, ← loadedId, ledger]
    exact shut

/-- A settlement of whoever has a price closes the hold, if an open one implies a price. -/
theorem Kept.settleBillable {final : Bool} {now stamp : ℤ}
    (payer : loaded.SamePayer world.row) (priced : holding world → world.row.creditPerHourSnapshot ≠ 0)
    (ledger : next.ledger = if loaded.billable then
      world.ledger.settle loaded (.settle loaded.id) final now stamp else world.ledger) :
    Kept wallet next ∧ holding next = false := by
  have paid : loaded.billingWalletId = some wallet := payer.billingWalletId.trans kept.billed
  split_ifs at ledger with billable
  · exact kept.settle sameId billing payer.id paid ledger
  · obtain ⟨still, same⟩ := kept.row sameId billing ledger
    refine ⟨still, same.trans ?_⟩
    by_contra open_
    have rate : loaded.creditPerHourSnapshot ≠ 0 := payer.rate ▸ priced (by simpa using open_)
    simp [Session.billable, paid, rate] at billable

end

theorem Sound.of_open (live : world.row.status.isFinal = false) : Sound wallet world :=
  ⟨kept, fun final => by rw [live] at final; cases final⟩

theorem Kept.release {reason : Option Reason} : Kept wallet (world.releaseReservation reason) :=
  have terms := world.releaseReservation_terms reason
  (kept.row terms.id terms.billingWalletId (world.releaseReservation_ledger reason)).1

theorem Kept.refund {final : Bool} (payer : loaded.SamePayer world.row)
    (priced : holding world → world.row.creditPerHourSnapshot ≠ 0) :
    Kept wallet (world.settleBillable loaded final env) ∧ holding (world.settleBillable loaded final env) = false :=
  kept.settleBillable (by simp) (by simp) payer priced (world.settleBillable_ledger loaded final env)

theorem Kept.hold {paying : WalletId}
    (fresh : Fresh world.ledger world.row.id) (billed : world.row.billingWalletId = some paying)
    (success : world.ledger.hold paying amount.value (.hold world.row.id) env.stamp = .ok ledger) :
    Kept wallet { world with ledger := ledger } := by
  obtain rfl : paying = wallet := Option.some.inj (billed.symm.trans kept.billed)
  have absent : ∀ txn ∈ world.ledger.txns, txn.ref ≠ some (.session world.row.id) :=
    fun txn member points => fresh.1 (mem_holders_iff.mpr ⟨txn, member, points⟩)
  have first : Disciplined paying world.ledger (.hold world.row.id amount env.stamp) := .inr ⟨absent, fresh.2⟩
  have backed := kept.backed.applied first.applied
  simp only [EngineOp.apply, success] at backed
  exact ⟨billed, (kept.orderly.hold fresh.2 success).1, backed⟩

end

section

variable (sound : Sound wallet world)

include sound

/-- A change of the row that ends no session with an open hold. -/
theorem Sound.row (sameId : next.row.id = world.row.id)
    (billing : next.row.billingWalletId = world.row.billingWalletId) (ledger : next.ledger = world.ledger)
    (status : next.row.status.isFinal → world.row.status.isFinal) : Sound wallet next := by
  obtain ⟨kept, same⟩ := sound.kept.row sameId billing ledger
  exact ⟨kept, fun final => same.trans (sound.closed (status final))⟩

omit sound in
theorem fits_create (taken : world.create env point = some (next, after))
    (priced : FindsPrice world (.create point)) (fits : Fits wallet world (.create point)) :
    Fits wallet next (.create after) := by
  have admitted (open_ : point.isRefunding = false) : Kept wallet world ∧ world.row.status = .pending := by
    cases point with
    | refunding => cases open_
    | created => cases taken
    | validating | quoting | gating | holding => exact ⟨fits.1, fits.2.1⟩
    | _ => exact fits
  cases create_created taken with
  | moved running acquires searches forward =>
    obtain ⟨kept, pending⟩ := admitted running
    cases after with
    | refunding => cases forward
    | created => exact .of_open kept (congrArg Status.isFinal pending)
    | validating | quoting | gating | holding =>
      refine ⟨kept, pending, ?_⟩
      -- Nothing leads back from behind the hold.
      cases point <;> first | exact fits.2.2 | grind [create, occupy, gate]
    | _ => exact ⟨kept, pending⟩
  | held billed success forward =>
    obtain ⟨kept, pending, fresh⟩ := fits
    have held := kept.hold fresh billed success
    rcases forward with rfl | rfl <;> exact ⟨held, pending⟩
  | occupied acquires allocated =>
    obtain ⟨kept, pending⟩ := admitted (by cases point <;> first | rfl | cases acquires)
    rw [allocated.next_eq]
    exact ⟨⟨kept.billed, kept.orderly, kept.backed⟩, pending⟩
  | enqueued =>
    obtain ⟨kept, pending⟩ := fits
    exact .of_open ⟨kept.billed, kept.orderly, kept.backed⟩ (congrArg Status.isFinal pending)
  | released reason => exact ⟨fits.1.release, .refl _⟩
  | refunded loaded =>
    obtain ⟨kept, payer⟩ := fits
    obtain ⟨still, shut⟩ := @Kept.refund _ _ env _ kept true payer priced
    exact ⟨still, fun _ => shut⟩

theorem fits_claim :
    FitsCall wallet (world.claim reason env).1 ((world.claim reason env).2.elim .returned (.terminate reason)) := by
  rcases taken : world.claim reason env with ⟨next, after⟩
  rcases claim_cases taken with ⟨_, rfl, rfl⟩ | ⟨_, ⟨given, rfl⟩, rfl⟩
  · exact sound
  · exact ⟨⟨sound.kept.billed, sound.kept.orderly, sound.kept.backed⟩, .refl _⟩

omit sound in
theorem fits_terminate {point : TerminatePoint} (priced : FindsPrice world (.call (.terminate reason point)))
    (fits : FitsCall wallet world (.terminate reason point)) :
    FitsCall wallet (world.terminate reason env point).1
      ((world.terminate reason env point).2.elim .returned (.terminate reason)) := by
  cases point with
  | called => exact fits_claim fits
  | claimed loaded prior now =>
    obtain ⟨kept, payer⟩ := fits
    exact ⟨⟨kept.billed, kept.orderly, kept.backed⟩, payer⟩
  | released loaded prior now => exact fits.1.refund fits.2 priced
  | settled loaded now =>
    obtain ⟨kept, shut⟩ := fits
    exact ⟨⟨kept.billed, kept.orderly, kept.backed⟩, fun _ => shut⟩
  | ended =>
    exact ⟨⟨fits.kept.billed, fits.kept.orderly, fits.kept.backed⟩, fits.closed⟩

theorem Sound.allocated (allocated : world.Allocated next kind loaded total) : Sound wallet next := by
  rw [allocated.next_eq]
  exact sound.row rfl rfl rfl id

theorem sound_resumeRow {now : ℤ} :
    Sound wallet { world with row := resumeRow loaded world.row now } := by
  refine sound.row rfl rfl rfl fun final => ?_
  rcases stored_cases loaded.status .running world.row.status with written | same
  · change (stored loaded.status .running world.row.status).isFinal at final
    rw [written] at final
    cases final
  · exact same ▸ final

omit sound in
theorem fits_start {point : StartPoint} (fits : FitsCall wallet world (.start point)) :
    FitsCall wallet (world.start env point).1 ((world.start env point).2.elim .returned .start) := by
  have sound : Sound wallet world := by cases point <;> exact fits
  cases point with
  | called | again loaded | priced =>
    simp only [start, admitStart]
    split_ifs <;> exact sound
  | checked loaded yieldResume =>
    rcases taken : world.start env (.checked loaded yieldResume) with ⟨next, after⟩
    rcases start_checked taken with
      ⟨rfl, rfl | ⟨_, rfl⟩⟩ | ⟨reserved, rfl | ⟨total, allocated⟩, rfl, rfl⟩
    · exact sound
    · exact sound
    · exact sound_resumeRow sound
    · exact sound_resumeRow (sound.allocated allocated)
  | reclaimed => exact sound_resumeRow sound
  | resumed loaded =>
    have resnapshot : Sound wallet (world.resnapshot loaded env) := by
      unfold resnapshot
      split_ifs <;> exact sound.row rfl rfl rfl id
    exact resnapshot
  | patched generation | marked => exact sound.row rfl rfl rfl id

theorem sound_consume {time : ℤ} (payer : loaded.SamePayer world.row) :
    Sound wallet (world.consume loaded time env) := by
  obtain ⟨kept, same⟩ := sound.kept.consume (by simp) (by simp) payer
    (world.consume_ledger loaded time env)
  exact ⟨kept, fun final => same.trans (sound.closed (by simpa using final))⟩

theorem sound_pauseRow : Sound wallet (world.pauseRow loaded reason) := by
  have ledger : (world.pauseRow loaded reason).ledger = world.ledger := by
    simp only [pauseRow]
    split_ifs <;> rfl
  refine sound.row rfl rfl ledger fun final => ?_
  rcases stored_cases loaded.status .paused world.row.status with written | same
  · change (stored loaded.status .paused world.row.status).isFinal at final
    rw [written] at final
    cases final
  · exact same ▸ final

omit sound in
theorem fits_tick {point : TickPoint} (fits : FitsCall wallet world (.tick point)) :
    FitsCall wallet (world.tick env point).1 ((world.tick env point).2.elim .returned .tick) := by
  cases point with
  | called =>
    simp only [tick]
    split_ifs <;> exact fits
  | listed now =>
    simp only [tick]
    split_ifs
    · exact ⟨fits, .refl _⟩
    · exact fits
  | loaded sess now => exact sound_consume fits.1 fits.2

omit sound in
theorem fits_promote {point : PromotePoint} (fits : FitsCall wallet world (.promote point)) :
    FitsCall wallet (world.promote env point).1 ((world.promote env point).2.elim .returned .promote) := by
  cases point with
  | called =>
    rcases taken : world.promote env .called with ⟨next, after⟩
    rcases promote_called taken with
      ⟨rfl, rfl⟩ | ⟨_, rfl, rfl⟩ | ⟨kind, total, _, _, allocated, rfl⟩
    · exact fits
    · exact fits.row rfl rfl rfl id
    · exact Sound.allocated fits allocated
  | reserved =>
    simp only [promote]
    split_ifs <;> exact fits
  | applied => exact fits.row rfl rfl rfl id

theorem sound_onStatus {event : StatusEvent}
    (priced : FindsPrice world (.call (.callback event))) : Sound wallet (world.onStatus event env) := by
  have open_ {status : Status} (kept : Kept wallet (world.onStatus event env))
      (becomes : (world.onStatus event env).row.status = status) (live : status.isFinal = false) :
      Sound wallet (world.onStatus event env) :=
    .of_open kept (becomes ▸ live)
  cases world.onStatus_reported event env with
  | ignored becomes =>
    refine sound.row becomes.terms.id becomes.terms.billingWalletId becomes.ledger fun final => ?_
    exact becomes.status ▸ final
  | interim status forward becomes =>
    refine open_ (sound.kept.row becomes.terms.id becomes.terms.billingWalletId becomes.ledger).1
      becomes.status ?_
    rcases forward with ⟨rfl, _⟩ | ⟨rfl, _⟩ <;> rfl
  | paused live inProgress vacates becomes =>
    have kept := (sound.kept.consume becomes.terms.id becomes.terms.billingWalletId (.refl _)
      becomes.ledger).1
    exact open_ kept becomes.status rfl
  | running ledger inProgress charged becomes =>
    rcases charged with rfl | rfl
    · exact open_ (sound.kept.row becomes.terms.id becomes.terms.billingWalletId becomes.ledger).1
        becomes.status rfl
    · have kept := (sound.kept.consume becomes.terms.id becomes.terms.billingWalletId
        becomes.terms.payer becomes.ledger).1
      exact open_ kept becomes.status rfl
  | ended status reports becomes =>
    have ends : reportsEnd world event := by
      rcases reports with ⟨_, phase⟩ | ⟨_, phase | ⟨phase, loops⟩⟩
      · simp [reportsEnd, phase]
      · simp [reportsEnd, phase]
      · simp [reportsEnd, phase, loops]
    obtain ⟨kept, shut⟩ := sound.kept.settleBillable becomes.terms.id becomes.terms.billingWalletId
      becomes.terms.payer (priced ends) becomes.ledger
    exact ⟨kept, fun _ => shut⟩

theorem sound_cancel : Sound wallet (world.cancel env) := by
  unfold cancel
  split_ifs
  · obtain ⟨kept, shut⟩ := @Kept.settle wallet world { world with
        ledger := world.ledger.settle world.row (.settle world.row.id) true env.now env.stamp }
      world.row sound.kept rfl rfl true env.now env.stamp rfl sound.kept.billed rfl
    exact ⟨⟨kept.billed, kept.orderly, kept.backed⟩, fun _ => shut⟩
  · exact sound

end

theorem fits_call {call after : SessionCall} (taken : call.next world env = some (next, after))
    (priced : FindsPrice world (.call call)) (fits : FitsCall wallet world call) : FitsCall wallet next after := by
  cases SessionCall.steps_of_next taken with
  | start => exact fits_start fits
  | abandoned => exact fits_claim fits
  | checked | restarted => exact ⟨fits, .refl _⟩
  | refused | patched => exact fits
  | unpatched => exact fits.1
  | charged =>
    obtain ⟨sound, payer⟩ := fits
    exact ⟨sound_consume sound payer, by simpa using payer⟩
  | paused onward =>
    rcases onward with rfl | rfl <;> exact sound_pauseRow fits.1
  | resumed onward =>
    rcases onward with rfl | rfl <;> exact fits
  | terminate => exact fits_terminate priced fits
  | callback => exact sound_onStatus fits priced
  | cancel => exact sound_cancel fits
  | tick => exact fits_tick fits
  | promote => exact fits_promote fits

theorem fits_operation {operation after : Operation}
    (taken : operation.next world env = some (next, after)) (priced : FindsPrice world operation)
    (fits : Fits wallet world operation) : Fits wallet next after := by
  cases Operation.steps_of_next taken with
  | create created => exact fits_create created priced fits
  | call stepped => exact fits_call stepped priced fits
  | passed idle onward =>
    have sound : Sound wallet { world with yieldIdle := idle } :=
      Sound.row fits rfl rfl rfl id
    rcases onward with rfl | rfl <;> exact sound
  | chosen => exact fits
  | demoted | told => exact Sound.row fits rfl rfl rfl id

/-- What another session does on the wallet leaves every assertion in place. -/
theorem fits_others (changed : others wallet world op = some next) :
    (Sound wallet world → Sound wallet next) ∧
      ∀ operation, Fits wallet world operation → Fits wallet next operation := by
  simp only [others] at changed
  split_ifs at changed with foreign
  obtain ⟨apart, disciplined⟩ := foreign
  cases changed
  have applied := disciplined.applied
  have keeps (kept : Kept wallet world) :
      Kept wallet { world with ledger := op.apply wallet world.ledger } ∧
        holding { world with ledger := op.apply wallet world.ledger } = holding world :=
    kept.untouched rfl rfl (untouched_applied apart applied) (kept.backed.applied applied)
  have sound (before : Sound wallet world) :
      Sound wallet { world with ledger := op.apply wallet world.ledger } :=
    ⟨(keeps before.kept).1, fun final => (keeps before.kept).2.trans (before.closed final)⟩
  refine ⟨sound, fun operation fits => ?_⟩
  cases operation with
  | create point =>
    cases point with
    | validating | quoting | gating | holding =>
      exact ⟨(keeps fits.1).1, fits.2.1, fits.2.2.applied apart applied⟩
    | reserving | preempting | borrowing | checking | enqueueing | applying | failed
    | refunding loaded =>
      exact ⟨(keeps fits.1).1, fits.2⟩
    | created => exact sound fits
  | call service =>
    cases service with
    | stop reason restarting point =>
      cases point with
      | called => exact sound fits
      | checked | patched | charged => exact ⟨sound fits.1, fits.2⟩
    | terminate reason point =>
      cases point with
      | called | ended => exact sound fits
      | claimed | released => exact ⟨(keeps fits.1).1, fits.2⟩
      | settled => exact ⟨(keeps fits.1).1, (keeps fits.1).2.trans fits.2⟩
    | tick point =>
      cases point with
      | called | listed => exact sound fits
      | loaded => exact ⟨sound fits.1, fits.2⟩
    | promote point | start point => cases point <;> exact sound fits
    | restart | callback | cancel | returned => exact sound fits
  | enforce pass point => exact sound fits

end Steps

theorem keeps_sound : (walletProgram wallet).KeepsTurns Operation.finished SettlesPriced
    (Sound wallet) (Fits wallet) where
  enter world operation enters sound := by
    cases Operation.begins_of_isEntry enters <;> exact sound
  own world operation env next after meets taken fits := by
    have onward := fits_operation taken (meets operation rfl) fits
    split_ifs with ends
    · rcases Operation.finished_cases ends with rfl | rfl <;> exact onward
    · exact onward
  outside world op next changed := fits_others changed

/-- With one operation at a time, a session that took a hold and is over is settled, and its own share is
no longer part of what its wallet has reserved. -/
theorem ended_session_settled {row : Wallet} {first last : Turn World Operation}
    {moves : List (Move Operation Env EngineOp)}
    (creating : first.current = some (.create .validating)) (pending : first.store.row.status = .pending)
    (billed : first.store.row.billingWalletId = some wallet)
    (unused : Unused wallet first.store.ledger row) (nothing : row.reserved = 0)
    (unsettled : first.store.ledger.txnExists (.settle first.store.row.id) = false)
    (uncharged : first.store.ledger.txnExists (.consumeSettle first.store.row.id) = false)
    (run : Run ((walletProgram wallet).turn Operation.finished) SettlesPriced first moves last)
    (idle : last.current = none)
    (ended : last.store.row.status = .terminated ∨ last.store.row.status = .error)
    (held : ∃ txn ∈ last.store.ledger.txns,
      txn.type = .hold ∧ txn.ref = some (.session last.store.row.id)) :
    last.store.ledger.txnExists (.settle last.store.row.id) ∧ last.store.ledger.reserved wallet ≤
        ∑ sess ∈ last.store.ledger.holders.erase last.store.row.id,
          last.store.ledger.openHold wallet sess := by
  have initial : first.Holds (Sound wallet) (Fits wallet) := by
    simp only [Turn.Holds, creating]
    refine ⟨⟨billed, ?_, unused.backed nothing⟩, pending, ?_, unsettled⟩
    · refine ⟨fun settled => ?_, fun charged => ?_, fun _ => by simp [unused.found]⟩
      · rw [unsettled] at settled
        cases settled
      · rw [uncharged] at charged
        cases charged
    · intro points
      obtain ⟨txn, member, ref⟩ := mem_holders_iff.mp points
      exact unused.rows txn member _ ref
  have sound := keeps_sound.run run initial
  simp only [Turn.Holds, idle] at sound
  have shut := sound.closed (by rcases ended with status | status <;> rw [status] <;> rfl)
  have settled := settled_of_holdOpen_eq_false shut held
  refine ⟨settled, sound.kept.backed.within.trans_eq (sum_erase _ ?_).symm⟩
  rw [openHold, if_pos settled]

instance (world : World) : DecidablePred (FindsPrice world) := fun _ => by
  unfold FindsPrice
  split <;> infer_instance

instance (turn : Turn World Operation) (move : Move Operation Env EngineOp) :
    Decidable (SettlesPriced turn move) := by
  unfold SettlesPriced
  split <;> infer_instance

def sixAnHour : Turn World Operation where
  store := worldOf (Session.pendingRow 1 .gpu none (some 100) (some 0) 600 .cold false 0) none
  current := some (.create .validating)

/-- It is created with a hold, runs, is paused after an hour, is resumed at another price, and is
terminated. -/
def resumedAt (price : ℕ) : List (Move Operation Env EngineOp) :=
  let soon : Move Operation Env EngineOp := .proceed (granted 0)
  let later : Move Operation Env EngineOp := .proceed { granted (3600 * second) with creditPerHour := price }
  List.replicate 6 soon ++ [.enter (.call (.callback (reportOf .running))), soon,
    .enter (.call (.stop .userStopped false .called))] ++ List.replicate 4 later
    ++ .enter (.call (.start .called)) :: List.replicate 6 later
    ++ .enter (.call (.terminate .userStopped .called)) :: List.replicate 5 later

/-- Resumed at three credits an hour it is settled, and nothing is reserved. -/
theorem ended_session_settled_repriced :
    ∃ last, Run ((walletProgram 0).turn Operation.finished) SettlesPriced sixAnHour (resumedAt 300) last ∧
      last.store.row.status = .terminated ∧
      last.store.ledger.txnExists (.settle last.store.row.id) ∧ last.store.ledger.reserved 0 ≤
        ∑ sess ∈ last.store.ledger.holders.erase last.store.row.id, last.store.ledger.openHold 0 sess := by
  refine exists_run_imp (fun last => last.current = none ∧ last.store.row.status = .terminated ∧
    ∃ txn ∈ last.store.ledger.txns, txn.type = .hold ∧ txn.ref = some (.session last.store.row.id))
    (by decide +kernel) fun last run ends => ?_
  obtain ⟨idle, terminated, held⟩ := ends
  exact ⟨terminated, ended_session_settled rfl rfl rfl hundredCredits_unused rfl rfl rfl run idle
    (.inl terminated) held⟩

/-- Resumed while its offering is free, it ends unsettled: what is left of its hold stays reserved. -/
theorem free_resume_strands_hold :
    ∃ last, Run ((walletProgram 0).turn Operation.finished) (fun _ _ => True) sixAnHour (resumedAt 0) last ∧
      last.current = none ∧ last.store.row.status = .terminated ∧ (∃ txn ∈ last.store.ledger.txns,
        txn.type = .hold ∧ txn.ref = some (.session last.store.row.id)) ∧
      last.store.ledger.txnExists (.settle last.store.row.id) = false ∧ last.store.ledger.reserved 0 = 400 :=
  exists_run_of_execute (by decide +kernel)

end GShare.Soundness.Settled
