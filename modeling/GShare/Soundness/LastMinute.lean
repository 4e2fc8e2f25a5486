import GShare.Proofs.Credit.Holds
import GShare.Proofs.Session.Operations
import GShare.Soundness.RunBilling

/-! # The last minute of a run

The charge that ends a run is keyed by the minute of the clock, as the ticks are; a settlement has a key
of its own. After a tick earlier in the same minute a pause therefore charges nothing, and the run stays
billed up to that tick. That is the only way in which a covered run misses its bill, apart from charges
of an earlier run at the very moment at which this one started.
-/

namespace GShare.Soundness.LastMinute

open GShare.Model Machine Samples RunBilling Ledger SessionCall Option Bool

variable {sess : Session} {wallet : WalletId} {before clock now : ℤ}

def Covers (wallet : WalletId) (sess : Session) (ledger : Ledger) (now : ℤ) : Prop :=
  ∃ row, ledger.wallet wallet = some row ∧ ledger.due wallet sess now ≤ row.balance

section Pace

variable {ledger : Ledger}

/-- A covered run at `clock`, with `before` counting towards it from its start on: it is not settled,
every charge has the key of its minute, and a charge of the current minute is the latest. -/
structure Paced (sess : Session) (wallet : WalletId) (before clock : ℤ) (ledger : Ledger) : Prop where
  unsettled : ledger.txnExists (.settle sess.id) = false
  unclosed : ledger.txnExists (.consumeSettle sess.id) = false
  atLeast : before ≤ runTotal sess wallet ledger
  atMost : runTotal sess wallet ledger ≤ max before (sess.owed clock)
  keyed : ∀ txn ∈ ledger.txns, ∀ bucket, txn.key = .consume sess.id bucket →
    bucket = minuteBucket txn.createdAt ∧ txn.createdAt ≤ clock ∧
      (bucket = minuteBucket clock →
        runTotal sess wallet ledger = max before (sess.owed txn.createdAt))

theorem Paced.wait (paced : Paced sess wallet before clock ledger) (later : clock ≤ now) :
    Paced sess wallet before now ledger where
  unsettled := paced.unsettled
  unclosed := paced.unclosed
  atLeast := paced.atLeast
  atMost := paced.atMost.trans (max_le_max_left _ (sess.owed_mono later))
  keyed txn member bucket key := by
    obtain ⟨minute, earlier, latest⟩ := paced.keyed txn member bucket key
    refine ⟨minute, earlier.trans later, fun current => latest ?_⟩
    have lower := minuteBucket_mono earlier
    have upper := minuteBucket_mono later
    omega

theorem Paced.write {entry : ForeignWrite} (paced : Paced sess wallet before clock ledger)
    (unrelated : entry.Unrelated sess.id) :
    Paced sess wallet before clock (ledger.post entry.wallet entry.row entry.type entry.amount entry.ref
      entry.key entry.stamp) := by
  have otherKey {key : IdemKey} (ours : key.session? = some sess.id) : (entry.key == key) = false :=
    beq_eq_false_iff_ne.mpr fun same => unrelated.1 (same ▸ ours)
  have skipped : isConsumeOf wallet sess.id sess.startedAt ⟨entry.wallet, entry.type,
      entry.amount, entry.row.balance, entry.ref, entry.key, entry.stamp⟩ = false := by
    simp [isConsumeOf, unrelated.2]
  have same : runTotal sess wallet (ledger.post entry.wallet entry.row entry.type entry.amount entry.ref
      entry.key entry.stamp) = runTotal sess wallet ledger := by
    simp [runTotal, sumConsumed, skipped]
  refine ⟨?_, ?_, same ▸ paced.atLeast, same ▸ paced.atMost, ?_⟩
  · rw [post_txnExists, otherKey rfl, Bool.false_or, paced.unsettled]
  · rw [post_txnExists, otherKey rfl, Bool.false_or, paced.unclosed]
  · rw [same]
    intro txn member bucket key
    rcases List.mem_cons.mp member with rfl | known
    · exact absurd (congrArg IdemKey.session? key) unrelated.1
    · exact paced.keyed txn known bucket key

variable (billed : sess.billingWalletId = some wallet) (priced : sess.creditPerHourSnapshot ≠ 0)
variable (started : sess.startedAt.all (· ≤ now))
variable (paced : Paced sess wallet before now ledger) (covers : Covers wallet sess ledger now)

include billed priced started paced covers

/-- What a covered charge leaves: it is skipped in a minute that has one, and else brings the run up to
date. -/
theorem Paced.runTotal_consume :
    runTotal sess wallet (ledger.consume sess (minuteBucket now) now now) =
      if ledger.txnExists (.consume sess.id (minuteBucket now)) then runTotal sess wallet ledger
      else max before (sess.owed now) := by
  obtain ⟨row, found, covers⟩ := covers
  have due : ledger.due wallet sess now = sess.owed now - runTotal sess wallet ledger := rfl
  have atLeast := paced.atLeast
  have atMost := paced.atMost
  cases repeated : ledger.txnExists (.consume sess.id (minuteBucket now)) with
  | true => rw [consume_of_repeated repeated, if_pos rfl]
  | false =>
    rw [consume_of_covered billed found priced repeated paced.unsettled covers]
    simp only [false_eq_true, if_false]
    split_ifs
    · rw [runTotal, sumConsumed_debited, if_pos ⟨rfl, started⟩, ← runTotal]
      omega
    · omega

theorem Paced.consume : Paced sess wallet before now (ledger.consume sess (minuteBucket now) now now) := by
  have total := Paced.runTotal_consume billed priced started paced covers
  obtain ⟨row, found, covers⟩ := covers
  cases repeated : ledger.txnExists (.consume sess.id (minuteBucket now)) with
  | true =>
    rw [consume_of_repeated repeated]
    exact paced
  | false =>
    rw [repeated, if_neg nofun] at total
    rw [consume_of_covered billed found priced repeated paced.unsettled covers] at total ⊢
    split_ifs at total ⊢ with due
    · refine ⟨by simpa using paced.unsettled, by simpa using paced.unclosed, by rw [total]; exact le_max_left ..,
        total.le, ?_⟩
      intro txn member bucket key
      rcases List.mem_cons.mp member with rfl | known
      · cases key
        exact ⟨rfl, le_rfl, fun _ => total⟩
      · obtain ⟨minute, earlier, _⟩ := paced.keyed txn known bucket key
        refine ⟨minute, earlier, ?_⟩
        rintro rfl
        -- The minute had no charge before this one.
        have taken := (ledger.txnExists_iff _).mpr ⟨txn, known, key⟩
        rw [repeated] at taken
        cases taken
    · exact paced

/-- A covered settlement brings the run up to date in any minute. -/
theorem Paced.runTotal_settle :
    runTotal sess wallet (ledger.settle sess (.settle sess.id) true now now)
      = max before (sess.owed now) := by
  obtain ⟨row, found, covers⟩ := covers
  have due : ledger.due wallet sess now = sess.owed now - runTotal sess wallet ledger := rfl
  have atLeast := paced.atLeast
  have atMost := paced.atMost
  obtain ⟨charged, left, charging, done⟩ := @settle_eq_closed ledger wallet row sess now now billed
    found true paced.unsettled paced.unclosed
  rw [done, runTotal, sumConsumed_closed]
  simp only [finalConsume, Bool.true_and, bne_iff_ne, min_eq_left covers, if_pos priced] at charging
  split_ifs at charging
  · obtain ⟨_, rfl⟩ := takeDebit_eq_some.mp charging
    rw [sumConsumed_debited, if_pos ⟨rfl, started⟩, ← runTotal]
    omega
  · cases charging
    rw [← runTotal]
    omega

end Pace

structure Watch where
  world : World
  clock : ℤ

/-- What happens during a run: a tick of the billing worker, or a write about something else. -/
inductive RunStep where
  | tick (envs : List Env) (clock : ℤ)
  | write (entry : ForeignWrite)

def step (watch : Watch) : RunStep → Option Watch
  | .tick envs clock => (perform envs watch.world (.tick .called)).map (⟨·, clock⟩)
  | .write entry =>
    if entry.Unrelated watch.world.row.id then
      some { watch with world := { watch.world with
        ledger := watch.world.ledger.post entry.wallet entry.row entry.type entry.amount entry.ref
          entry.key entry.stamp } }
    else none

/-- The clock does not go back, and the wallet covers every tick. -/
def Covered (wallet : WalletId) (watch : Watch) : RunStep → Prop
  | .tick envs clock => watch.clock ≤ clock ∧ AtClock clock envs ∧
      Covers wallet watch.world.row watch.world.ledger clock
  | .write _ => True

/-- A billed session that just started to run; its earlier charges carry the keys of their minutes and
were made before. -/
structure RunStart (wallet : WalletId) (watch : Watch) : Prop where
  running : watch.world.row.status = .running
  started : watch.world.row.startedAt = some watch.clock
  billed : watch.world.row.billingWalletId = some wallet
  priced : watch.world.row.creditPerHourSnapshot ≠ 0
  unsettled : watch.world.ledger.txnExists (.settle watch.world.row.id) = false
  unclosed : watch.world.ledger.txnExists (.consumeSettle watch.world.row.id) = false
  debits : 0 ≤ runTotal watch.world.row wallet watch.world.ledger
  keyed : ∀ txn ∈ watch.world.ledger.txns, ∀ bucket, txn.key = .consume watch.world.row.id bucket →
    bucket = minuteBucket txn.createdAt ∧ txn.createdAt ≤ watch.clock

structure InRun (sess : Session) (wallet : WalletId) (before : ℤ) (watch : Watch) : Prop where
  running : watch.world.row.status = .running
  terms : watch.world.row.SameTerms sess
  started : watch.world.row.startedAt = sess.startedAt
  since : sess.startedAt.all (· ≤ watch.clock)
  paced : Paced sess wallet before watch.clock watch.world.ledger

section Run

variable {watch after : Watch} {event : RunStep}

theorem RunStart.inRun (starts : RunStart wallet watch) :
    InRun watch.world.row wallet (runTotal watch.world.row wallet watch.world.ledger) watch where
  running := starts.running
  terms := .refl _
  started := rfl
  since := by simp [starts.started]
  paced :=
    { unsettled := starts.unsettled
      unclosed := starts.unclosed
      atLeast := le_rfl
      atMost := le_max_left ..
      keyed := fun txn member bucket key => by
        obtain ⟨minute, earlier⟩ := starts.keyed txn member bucket key
        refine ⟨minute, earlier, fun _ => ?_⟩
        rw [Session.owed_eq_zero_of_le_start _ starts.started earlier]
        exact (max_eq_left starts.debits).symm }

theorem InRun.since_of_le (inRun : InRun sess wallet before watch) (later : watch.clock ≤ clock) :
    sess.startedAt.all (· ≤ clock) := by
  have since := inRun.since
  revert since
  cases sess.startedAt with
  | none => exact fun _ => rfl
  | some start => simpa using fun since => since.trans later

theorem InRun.covers (inRun : InRun sess wallet before watch)
    (covers : Covers wallet watch.world.row watch.world.ledger clock) :
    Covers wallet sess watch.world.ledger clock := by
  obtain ⟨row, found, covers⟩ := covers
  exact ⟨row, found, inRun.terms.due inRun.started wallet ▸ covers⟩

theorem InRun.step (billed : sess.billingWalletId = some wallet)
    (priced : sess.creditPerHourSnapshot ≠ 0) (inRun : InRun sess wallet before watch)
    (covered : Covered wallet watch event) (taken : step watch event = some after) :
    InRun sess wallet before after := by
  cases event with
  | tick envs clock =>
    obtain ⟨later, clocked, covers⟩ := covered
    obtain ⟨world, performed, rfl⟩ := map_eq_some_iff.mp taken
    rcases perform_tick clocked performed with ⟨free, _⟩ | ⟨_, becomes⟩
    · exact absurd (inRun.terms.rate.symm.trans (free inRun.running)) priced
    · have since := inRun.since_of_le later
      have paced := Paced.consume billed priced since (inRun.paced.wait later) (inRun.covers covers)
      refine ⟨becomes.status, becomes.terms.trans inRun.terms, becomes.startedAt.trans inRun.started,
        since, ?_⟩
      rw [becomes.ledger, inRun.terms.consume inRun.started]
      exact paced
  | write entry =>
    simp only [LastMinute.step] at taken
    split_ifs at taken with unrelated
    cases taken
    obtain ⟨running, terms, started, since, paced⟩ := inRun
    exact ⟨running, terms, started, since, paced.write (terms.id ▸ unrelated)⟩

end Run

inductive Ending where
  | stop (reason : Reason)
  | terminate (reason : Reason)

namespace Ending

def call : Ending → SessionCall
  | .stop reason => .stop reason false .called
  | .terminate reason => .terminate reason .called

def isStop : Ending → Bool
  | .stop _ => true
  | .terminate _ => false

end Ending

section End

variable {last : Watch} {next : World}
variable {ending : Ending} {envs : List Env}

theorem InRun.runTotal_end (billed : sess.billingWalletId = some wallet)
    (priced : sess.creditPerHourSnapshot ≠ 0) (inRun : InRun sess wallet before last)
    (later : last.clock ≤ now) (clocked : AtClock now envs) (accepted : ∀ env ∈ envs, env.accepted)
    (covers : Covers wallet last.world.row last.world.ledger now)
    (returned : ending.call.perform envs last.world = some next) :
    runTotal sess wallet next.ledger =
      if ending.isStop ∧ last.world.ledger.txnExists (.consume sess.id (minuteBucket now)) then
        runTotal sess wallet last.world.ledger else max before (sess.owed now) := by
  have since := inRun.since_of_le later
  have paced := inRun.paced.wait later
  have covers := inRun.covers covers
  cases ending with
  | stop reason =>
    rcases perform_stop clocked returned with
      ⟨young | young, _⟩ | ⟨refused, _⟩ | ⟨_, live, becomes⟩
    · cases young.symm.trans inRun.running
    · cases young.symm.trans inRun.running
    · obtain ⟨env, member, refused⟩ := refused inRun.running
      cases (accepted env member).symm.trans refused
    · rw [becomes.ledger, inRun.terms.consume inRun.started,
        Paced.runTotal_consume billed priced since paced covers]
      simp [Ending.isStop]
  | terminate reason =>
    rcases perform_terminate clocked returned with ⟨ended, _⟩ | ⟨_, becomes⟩
    · cases ended.symm.trans inRun.running
    · have billable : last.world.row.billable := by
        rw [inRun.terms.billable]
        simp [Session.billable, billed, priced]
      rw [becomes.ledger, if_pos billable, inRun.running, inRun.terms.settle inRun.started]
      exact Paced.runTotal_settle billed priced since paced covers

end End

/-- A covered run that `stop` or `terminate` ends is billed to its last minute exactly when the charges at
the moment of its start are no more than that, and, if it was stopped, no charge earlier in the same
minute fell short of it. -/
theorem billed_to_last_minute {wallet : WalletId} {first last : Watch} {events : List RunStep}
    {ending : Ending} {envs : List Env} {now : ℤ} {next : World} (starts : RunStart wallet first)
    (run : Run step (Covered wallet) first events last) (later : last.clock ≤ now)
    (clocked : AtClock now envs) (accepted : ∀ env ∈ envs, env.accepted)
    (covers : Covers wallet last.world.row last.world.ledger now)
    (returned : ending.call.perform envs last.world = some next) :
    runTotal first.world.row wallet next.ledger = first.world.row.owed now ↔
      runTotal first.world.row wallet first.world.ledger ≤ first.world.row.owed now ∧
      (ending.isStop → ∀ txn ∈ last.world.ledger.txns,
        txn.key = .consume first.world.row.id (minuteBucket now) →
        first.world.row.owed txn.createdAt = first.world.row.owed now ∨
        runTotal first.world.row wallet first.world.ledger = first.world.row.owed now) := by
  have inRun : InRun first.world.row wallet (runTotal first.world.row wallet first.world.ledger) last := by
    apply run.invariant
    · exact starts.inRun
    · exact fun _ _ _ covered taken before => before.step starts.billed starts.priced covered taken
  have paced := inRun.paced.wait later
  rw [inRun.runTotal_end starts.billed starts.priced later clocked accepted covers returned]
  generalize runTotal first.world.row wallet first.world.ledger = before at *
  split_ifs with skipped
  · -- The minute has a charge, and the run is billed up to it.
    obtain ⟨stops, exists_⟩ := skipped
    obtain ⟨charge, member, key⟩ := (last.world.ledger.txnExists_iff _).mp exists_
    have latest (txn : Txn) (member : txn ∈ last.world.ledger.txns)
        (key : txn.key = .consume first.world.row.id (minuteBucket now)) :
        runTotal first.world.row wallet last.world.ledger = max before (first.world.row.owed txn.createdAt) ∧
          first.world.row.owed txn.createdAt ≤ first.world.row.owed now := by
      obtain ⟨_, earlier, latest⟩ := paced.keyed txn member _ key
      exact ⟨latest rfl, first.world.row.owed_mono earlier⟩
    constructor
    · intro exact_
      refine ⟨exact_ ▸ paced.atLeast, fun _ txn member key => ?_⟩
      have total := (latest txn member key).1
      omega
    · rintro ⟨within, each⟩
      have total := latest charge member key
      have caught := each stops charge member key
      omega
  · constructor
    · intro exact_
      refine ⟨by omega, fun stops txn member key => absurd ⟨stops, ?_⟩ skipped⟩
      exact (last.world.ledger.txnExists_iff _).mpr ⟨txn, member, key⟩
    · intro within
      omega

instance (wallet : WalletId) (sess : Session) (ledger : Ledger) (now : ℤ) :
    Decidable (Covers wallet sess ledger now) :=
  match found : ledger.wallet wallet with
  | none => isFalse fun ⟨_, other, _⟩ => nomatch found.symm.trans other
  | some row => decidable_of_iff (ledger.due wallet sess now ≤ row.balance)
      ⟨fun covers => ⟨row, found, covers⟩, fun ⟨_, other, covers⟩ =>
        some.inj (found.symm.trans other) ▸ covers⟩

instance (wallet : WalletId) (watch : Watch) (event : RunStep) : Decidable (Covered wallet watch event) := by
  unfold Covered
  split <;> infer_instance

def halfPast : Watch :=
  ⟨worldOf { wholeCard 1 600 with startedAt := some (30 * second) } (some .resident), 30 * second⟩

theorem halfPast_runStart : RunStart 0 halfPast :=
  ⟨rfl, rfl, rfl, by decide, rfl, rfl, by decide +kernel, by simp [halfPast, worldOf, hundredCredits]⟩

def hourlyTick : RunStep := .tick (List.replicate 3 (granted (3605 * second))) (3605 * second)

/-- A pause at `now`, in four transactions. -/
def pauseAt (now : ℤ) : List Env := List.replicate 4 (granted now)

/-- A pause at `now` after that tick: whether the wallet covers it, whether its minute has a charge
before, and the run's rows after it. -/
def pausedAfterTick (now : ℤ) : Option (Bool × Bool × ℤ) :=
  (execute step (Covered 0) halfPast [hourlyTick]).bind fun last =>
    ((Ending.stop .userStopped).call.perform (pauseAt now) last.world).map fun next =>
      (decide (last.clock ≤ now ∧ Covers 0 last.world.row last.world.ledger now),
        last.world.ledger.txnExists (.consume halfPast.world.row.id (minuteBucket now)),
        runTotal halfPast.world.row 0 next.ledger)

theorem pausedAfterTick_eq_some {now total : ℤ} {charged : Bool}
    (paused : pausedAfterTick now = some (true, charged, total)) :
    ∃ last next, Run step (Covered 0) halfPast [hourlyTick] last ∧ last.clock ≤ now ∧
      Covers 0 last.world.row last.world.ledger now ∧
      (Ending.stop .userStopped).call.perform (pauseAt now) last.world = some next ∧
      last.world.ledger.txnExists (.consume halfPast.world.row.id (minuteBucket now)) = charged ∧
      runTotal halfPast.world.row 0 next.ledger = total := by
  obtain ⟨last, ran, paused⟩ := bind_eq_some_iff.mp paused
  obtain ⟨next, performed, results⟩ := map_eq_some_iff.mp paused
  simp only [Prod.mk.injEq, decide_eq_true_eq] at results
  obtain ⟨⟨later, covers⟩, charged, rows⟩ := results
  exact ⟨last, next, run_of_execute ran, later, covers, performed, charged, rows⟩

/-- A pause in the minute after the tick charges the run to its end. -/
theorem billed_to_last_minute_next_minute :
    ∃ last next, Run step (Covered 0) halfPast [hourlyTick] last ∧
      (Ending.stop .userStopped).call.perform (pauseAt (3700 * second)) last.world = some next ∧
      runTotal halfPast.world.row 0 next.ledger = halfPast.world.row.owed (3700 * second) := by
  obtain ⟨last, next, run, later, covers, performed, uncharged, _⟩ := pausedAfterTick_eq_some
    (show pausedAfterTick (3700 * second) = some (true, false, 620) by decide +kernel)
  have clocked : AtClock (3700 * second) (pauseAt (3700 * second)) := by decide
  have accepted : ∀ env ∈ pauseAt (3700 * second), env.accepted := by decide
  refine ⟨last, next, run, performed, (billed_to_last_minute halfPast_runStart run later clocked accepted
    covers performed).mpr ⟨by decide +kernel, fun _ txn member key => ?_⟩⟩
  rw [(last.world.ledger.txnExists_iff _).mpr ⟨txn, member, key⟩] at uncharged
  cases uncharged

/-- A pause forty-five seconds after the tick, in the same minute, leaves its last minute unbilled. -/
theorem last_minute_unbilled :
    ∃ last next, RunStart 0 halfPast ∧ Run step (Covered 0) halfPast [hourlyTick] last ∧
      last.clock ≤ 3650 * second ∧ Covers 0 last.world.row last.world.ledger (3650 * second) ∧
      (Ending.stop .userStopped).call.perform (pauseAt (3650 * second)) last.world = some next ∧
      runTotal halfPast.world.row 0 next.ledger = 600 ∧ halfPast.world.row.owed (3650 * second) = 610 := by
  obtain ⟨last, next, run, later, covers, performed, _, rows⟩ := pausedAfterTick_eq_some
    (show pausedAfterTick (3650 * second) = some (true, true, 600) by decide +kernel)
  exact ⟨last, next, halfPast_runStart, run, later, covers, performed, rows, by decide +kernel⟩

end GShare.Soundness.LastMinute
