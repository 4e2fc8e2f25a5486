import GShare.Proofs.Credit.Charges
import GShare.Proofs.Session.Operations
import GShare.Soundness.Samples

/-! # Only running time is billed

Operations on a session are taken one at a time, each at one reading of a clock that never goes back.
A meter watches the status: it opens a run when the session starts to run and closes it when the session
stops to. What the session is charged never exceeds the bill of the runs, and every charge is made
within one of them.
-/

namespace GShare.Model.Ledger.ChargedOnce

theorem congr {ledger next : Ledger} {left right : Session} {now stamp : ℤ}
    (charged : ledger.ChargedOnce left now stamp next) (same : left.SameTerms right)
    (started : left.startedAt = right.startedAt) : ledger.ChargedOnce right now stamp next := by
  cases charged with
  | nothing kept => exact .nothing (same.id ▸ kept)
  | once wallet txn billed payer debit within stamped added =>
    exact .once wallet txn (same.billingWalletId ▸ billed) payer debit (same.due started wallet ▸ within)
      stamped (same.id ▸ added)

end GShare.Model.Ledger.ChargedOnce

namespace GShare.Soundness.PausedTime

open GShare.Model Machine Samples Ledger SessionCall List Status

/-- The operations that are taken one at a time; the operator reports by the clock of the backend. -/
def metered (clock : ℤ) : SessionCall → Bool
  | .start .called | .stop _ false .called | .terminate _ .called | .tick .called => true
  | .callback event => event.ts == clock
  | _ => false

/-- One operation, seen from the bill: it changes nothing about it, it charges a run, or it starts
one. -/
inductive Effect (clock : ℤ) (world next : World) : Prop
  | quiet (steady : next.row.status = .running ↔ world.row.status = .running)
      (young : next.row.status.isYoung → world.row.status.isYoung)
      (startedAt : next.row.startedAt = world.row.startedAt) (terms : next.row.SameTerms world.row)
      (charges : next.ledger.charges world.row.id = world.ledger.charges world.row.id)
  | billed (running : world.row.status = .running) (old : next.row.status.isYoung = false)
      (startedAt : next.row.startedAt = world.row.startedAt) (terms : next.row.SameTerms world.row)
      (charged : world.ledger.ChargedOnce world.row clock clock next.ledger)
  | began (idle : world.row.status ≠ .running) (running : next.row.status = .running)
      (startedAt : next.row.startedAt = some clock) (payer : next.row.SamePayer world.row)
      (charges : next.ledger.charges world.row.id = world.ledger.charges world.row.id)

/-- A session starts its first run with no start of a run in its row, a running one has it there, and
its wallet paid all its charges. -/
structure Tidy (world : World) : Prop where
  unstarted : world.row.status.isYoung → world.row.startedAt = none
  started : world.row.status = .running → world.row.startedAt.isSome
  debits : ∀ txn ∈ world.ledger.charges world.row.id, txn.amount ≤ 0
  payer : ∀ txn ∈ world.ledger.charges world.row.id, world.row.billingWalletId = some txn.walletId

variable {wallet : WalletId}

section Operations

variable {world next : World} {envs : List Env} {clock : ℤ} {env : Env}

theorem Effect.refl (clock : ℤ) (world : World) : Effect clock world world :=
  .quiet .rfl id rfl (.refl _) rfl

theorem running_or_young (inProgress : world.InProgress) :
    world.row.status = .running ∨ world.row.status.isYoung ∧ world.row.status ≠ .running := by
  rcases inProgress with status | status | status
  · exact .inr (by simp [status, isYoung])
  · exact .inr (by simp [status, isYoung])
  · exact .inl status

/-- An end settles the session, and charges it for the last time if it was running. -/
theorem settled_effect (final : next.row.status.isFinal)
    (startedAt : next.row.startedAt = world.row.startedAt) (terms : next.row.SameTerms world.row)
    (ledger : next.ledger = if next.row.billable then
        world.ledger.settle next.row (.settle next.row.id) (world.row.status == .running) clock clock
      else world.ledger) : Effect clock world next := by
  have notRunning : next.row.status ≠ .running := by
    intro running
    rw [running] at final
    cases final
  have old : next.row.status.isYoung = false := by
    revert final
    cases next.row.status <;> decide
  have charged : world.ledger.ChargedOnce world.row clock clock next.ledger := by
    rw [ledger]
    split_ifs
    · exact (settle_chargedOnce _).congr terms startedAt
    · exact .nothing rfl
  by_cases running : world.row.status = .running
  · exact .billed running old startedAt terms charged
  · refine .quiet (iff_of_false notRunning running) (by rw [old]; exact nofun) startedAt terms ?_
    rw [ledger, beq_eq_false_iff_ne.mpr running]
    split_ifs
    · exact charges_settle_not_final
    · rfl

theorem terminated_effect (becomes : world.Becomes next .terminated world.row.startedAt none
    (if world.row.billable then world.ledger.settle world.row (.settle world.row.id)
        (world.row.status == .running) clock clock else world.ledger)) : Effect clock world next := by
  refine settled_effect (by rw [becomes.status]; rfl) becomes.startedAt becomes.terms ?_
  rw [becomes.ledger, becomes.terms.billable, becomes.terms.settle becomes.startedAt]

section

variable (tidy : Tidy world)

include tidy

theorem Tidy.own (billed : world.row.billingWalletId = some wallet) :
    ∀ txn ∈ world.ledger.charges world.row.id, txn.walletId = wallet :=
  fun txn member => Option.some.inj ((tidy.payer txn member).symm.trans billed)

theorem Tidy.uncharged (payer : next.row.SamePayer world.row)
    (charges : next.ledger.charges world.row.id = world.ledger.charges world.row.id)
    (unstarted : next.row.status.isYoung → next.row.startedAt = none)
    (started : next.row.status = .running → next.row.startedAt.isSome) : Tidy next where
  unstarted := unstarted
  started := started
  debits txn member := by
    rw [payer.id, charges] at member
    exact tidy.debits txn member
  payer txn member := by
    rw [payer.id, charges] at member
    exact payer.billingWalletId.trans (tidy.payer txn member)

/-- An operation on a running session that charges it at most once. -/
theorem Tidy.charged (running : world.row.status = .running)
    (old : next.row.status.isYoung = false) (startedAt : next.row.startedAt = world.row.startedAt)
    (payer : next.row.SamePayer world.row)
    (charged : world.ledger.ChargedOnce world.row clock clock next.ledger) : Tidy next := by
  have unstarted : next.row.status.isYoung → next.row.startedAt = none := by
    rw [old]
    exact nofun
  have started : next.row.status = .running → next.row.startedAt.isSome :=
    fun _ => startedAt ▸ tidy.started running
  cases charged with
  | nothing same => exact tidy.uncharged payer same unstarted started
  | once wallet txn billed paidBy debit within stamped added =>
    refine ⟨unstarted, started, ?_, ?_⟩ <;> rw [payer.id, added]
    · exact forall_mem_cons.mpr ⟨debit.le, tidy.debits⟩
    · rw [payer.billingWalletId]
      exact forall_mem_cons.mpr ⟨paidBy ▸ billed, tidy.payer⟩

/-- A session that has not started owes nothing. -/
theorem Tidy.nothing_due (young : world.row.status.isYoung)
    (billed : world.row.billingWalletId = some wallet) : world.ledger.due wallet world.row clock ≤ 0 := by
  have unstarted := tidy.unstarted young
  rw [due, world.row.owed_eq_zero_of_not_started clock unstarted, unstarted,
    sumConsumed_eq_paid (tidy.own billed)]
  have nonneg : 0 ≤ paid ((world.ledger.charges world.row.id).filter fun txn =>
      (none : Option ℤ).all (· ≤ txn.createdAt)) :=
    paid_nonneg fun txn member => tidy.debits txn (mem_of_mem_filter member)
  omega

theorem callback_effect {event : StatusEvent} (now : env.now = clock)
    (stamp : env.stamp = clock) (ts : event.ts = clock) : Effect clock world (world.onStatus event env) := by
  cases world.onStatus_reported event env with
  | ignored becomes =>
    exact .quiet (by rw [becomes.status]) (by rw [becomes.status]; exact id)
      becomes.startedAt becomes.terms (by rw [becomes.ledger])
  | interim status forward becomes =>
    rcases forward with ⟨rfl, fresh⟩ | ⟨rfl, running | paused, _⟩
    · have young := (isYoung_iff _).mpr fresh
      refine .quiet ?_ (fun _ => young) becomes.startedAt becomes.terms (by rw [becomes.ledger])
      rw [becomes.status]
      rcases fresh with status | status <;> simp [status]
    · exact .billed running (by rw [becomes.status]; rfl) becomes.startedAt becomes.terms
        (.nothing (by rw [becomes.ledger]))
    · exact .quiet (by simp [becomes.status, paused]) (by simp [becomes.status, isYoung])
        becomes.startedAt becomes.terms (by rw [becomes.ledger])
  | paused live inProgress vacates becomes =>
    have ledger := becomes.ledger
    rw [ts, stamp] at ledger
    have charged : world.ledger.ChargedOnce world.row clock clock (world.onStatus event env).ledger :=
      ledger ▸ consume_chargedOnce
    rcases running_or_young inProgress with running | ⟨young, idle⟩
    · exact .billed running (by rw [becomes.status]; rfl) becomes.startedAt becomes.terms charged
    · exact .quiet (by simp [becomes.status, idle]) (by simp [becomes.status, isYoung])
        becomes.startedAt becomes.terms (charged.charges_eq fun _ => tidy.nothing_due young)
  | running ledger inProgress charged becomes =>
    have once : world.ledger.ChargedOnce (world.onStatus event env).row clock clock
        (world.onStatus event env).ledger := by
      rw [becomes.ledger]
      rcases charged with rfl | rfl
      · exact .nothing rfl
      · rw [ts, stamp]
        exact consume_chargedOnce
    rcases running_or_young inProgress with running | ⟨young, idle⟩
    · obtain ⟨since, started⟩ := Option.isSome_iff_exists.mp (tidy.started running)
      have startedAt : (world.onStatus event env).row.startedAt = world.row.startedAt := by
        rw [becomes.startedAt, started]
        rfl
      exact .billed running (by rw [becomes.status]; rfl) startedAt becomes.terms
        (once.congr becomes.terms startedAt)
    · have startedAt : (world.onStatus event env).row.startedAt = some clock := by
        rw [becomes.startedAt, tidy.unstarted young, ts]
        rfl
      refine .began idle becomes.status startedAt becomes.terms.payer ?_
      rw [← becomes.terms.id]
      refine once.charges_eq fun wallet billed => ?_
      rw [becomes.terms.billingWalletId] at billed
      -- The run starts at this very moment.
      rw [due, Session.owed_eq_zero_of_le_start _ startedAt le_rfl, becomes.terms.id,
        sumConsumed_eq_paid (tidy.own billed)]
      have nonneg := paid_nonneg fun txn member =>
        tidy.debits txn (mem_of_mem_filter member (p := fun txn =>
          (world.onStatus event env).row.startedAt.all (· ≤ txn.createdAt)))
      omega
  | ended status reports becomes =>
    have final : (world.onStatus event env).row.status.isFinal := by
      rw [becomes.status]
      exact isFinal_ite (reports.imp And.left And.left)
    exact settled_effect final becomes.startedAt becomes.terms (by rw [becomes.ledger, now, stamp])

/-- Every operation, taken alone at one clock reading, has one of these effects. -/
theorem perform_effect {call : SessionCall} (watched : metered clock call)
    (clocked : AtClock clock envs) (fixed : FixedRate world.row envs)
    (performed : call.perform envs world = some next) : Effect clock world next := by
  cases call with
  | start point =>
    cases point with
    | called =>
      rcases perform_start clocked performed fixed with rfl | resumes
      · exact .refl clock next
      · have idle : world.row.status ≠ .running := by
          rcases resumes.idle with status | status <;> rw [status] <;> decide
        exact .began idle resumes.status resumes.startedAt resumes.payer (by rw [resumes.ledger])
    | _ => cases watched
  | stop reason restarting point =>
    cases restarting with
    | true => cases point <;> cases watched
    | false =>
      cases point with
      | called =>
        rcases perform_stop clocked performed with
          ⟨young, becomes⟩ | ⟨_, rfl⟩ | ⟨running, live, becomes⟩
        · have idle : (world.row.status == .running) = false := by
            rcases young with status | status <;> rw [status] <;> rfl
          rw [← idle] at becomes
          exact terminated_effect becomes
        · exact .refl clock next
        · exact .billed running (by rw [becomes.status]; rfl) becomes.startedAt becomes.terms
            (becomes.ledger ▸ consume_chargedOnce)
      | _ => cases watched
  | terminate reason point =>
    cases point with
    | called =>
      rcases perform_terminate clocked performed with ⟨_, rfl⟩ | ⟨_, becomes⟩
      · exact .refl clock next
      · exact terminated_effect becomes
    | _ => cases watched
  | callback event =>
    obtain ⟨env, now, stamp, rfl⟩ := perform_callback clocked performed
    exact callback_effect tidy now stamp (beq_iff_eq.mp watched)
  | tick point =>
    cases point with
    | called =>
      rcases perform_tick clocked performed with ⟨_, rfl⟩ | ⟨running, becomes⟩
      · exact .refl clock next
      · exact .billed running (by rw [becomes.status]; rfl) becomes.startedAt becomes.terms
          (becomes.ledger ▸ consume_chargedOnce)
    | _ => cases watched
  | restart | cancel | promote point | returned => cases watched

end

end Operations

/-- A run that is over: the row it was priced by, and the clock readings at which it started and
stopped. -/
structure ClosedRun where
  row : Session
  start : ℤ
  stop : ℤ

/-- What a run from `start` to `stop` costs. -/
def bill (row : Session) (start stop : ℤ) : ℤ := { row with startedAt := some start }.owed stop

def billed (runs : List ClosedRun) : ℤ := (runs.map fun run => bill run.row run.start run.stop).sum

theorem billed_cons (run : ClosedRun) (runs : List ClosedRun) :
    billed (run :: runs) = bill run.row run.start run.stop + billed runs := rfl

/-- The session at a clock reading, with its closed runs and the start of the current one. -/
structure Meter where
  world : World
  clock : ℤ
  since : ℤ
  runs : List ClosedRun

namespace Meter

/-- The meter after an operation at `clock`. -/
def observe (meter : Meter) (next : World) (clock : ℤ) : Meter where
  world := next
  clock := clock
  since := if meter.world.row.status = .running then meter.since else clock
  runs :=
    if meter.world.row.status = .running ∧ next.row.status ≠ .running then
      ⟨meter.world.row, meter.since, clock⟩ :: meter.runs
    else meter.runs

/-- What all runs cost, the current one up to now. -/
def owed (meter : Meter) : ℤ :=
  billed meter.runs +
    if meter.world.row.status = .running then bill meter.world.row meter.since meter.clock else 0

def charges (meter : Meter) : List Txn := meter.world.ledger.charges meter.world.row.id

end Meter

/-- An operation on the session, or a write that is about something else. -/
inductive MeterEvent where
  | operate (call : SessionCall) (envs : List Env) (clock : ℤ)
  | write (entry : ForeignWrite)

def step (meter : Meter) : MeterEvent → Option Meter
  | .operate call envs clock => (call.perform envs meter.world).map (meter.observe · clock)
  | .write entry =>
    if entry.Unrelated meter.world.row.id then
      some { meter with world := { meter.world with
        ledger := meter.world.ledger.post entry.wallet entry.row entry.type entry.amount entry.ref
          entry.key entry.stamp } }
    else none

/-- One operation at a time: it reads one clock, which has not gone back, and meets the session's
rate. -/
def OneAtATime (meter : Meter) : MeterEvent → Prop
  | .operate call envs clock =>
    metered clock call ∧ meter.clock ≤ clock ∧ AtClock clock envs ∧ FixedRate meter.world.row envs
  | .write _ => True

/-- What holds between two operations. -/
structure Metered (meter : Meter) : Prop where
  tidy : Tidy meter.world
  running : meter.world.row.status = .running →
    meter.world.row.startedAt = some meter.since ∧ meter.since ≤ meter.clock
  idle : meter.world.row.status ≠ .running → paid meter.charges ≤ billed meter.runs
  earlier : meter.world.row.status = .running →
    paid (meter.charges.filter (·.createdAt < meter.since)) ≤ billed meter.runs
  within : meter.world.row.status = .running →
    paid meter.charges ≤ billed meter.runs + meter.world.row.owed meter.clock
  inside : ∀ txn ∈ meter.charges,
    (∃ run ∈ meter.runs, run.start ≤ txn.createdAt ∧ txn.createdAt ≤ run.stop) ∨
    meter.world.row.status = .running ∧ meter.since ≤ txn.createdAt ∧ txn.createdAt ≤ meter.clock

section Observe

variable {meter : Meter} {next : World} {clock : ℤ}

theorem bill_eq_owed {row : Session} {start : ℤ} (started : row.startedAt = some start) (stop : ℤ) :
    bill row start stop = row.owed stop := by
  rw [bill, ← started]

theorem paid_filter_le {charges : List Txn} (debits : ∀ txn ∈ charges, txn.amount ≤ 0) (moment : ℤ) :
    paid (charges.filter (·.createdAt < moment)) ≤ paid charges := by
  have later : 0 ≤ paid (charges.filter (moment ≤ ·.createdAt)) :=
    paid_nonneg fun txn member => debits txn (mem_of_mem_filter member)
  have whole := paid_split charges moment
  omega

theorem charges_cases
    (charged : meter.world.ledger.ChargedOnce meter.world.row clock clock next.ledger)
    (after : meter.since ≤ clock) :
    (∀ txn ∈ next.ledger.charges meter.world.row.id, txn ∈ meter.charges ∨ txn.createdAt = clock) ∧
      (next.ledger.charges meter.world.row.id).filter (·.createdAt < meter.since)
        = meter.charges.filter (·.createdAt < meter.since) := by
  cases charged with
  | nothing same =>
    rw [same]
    exact ⟨fun txn member => .inl member, rfl⟩
  | once wallet txn billedTo payer debit within stamped added =>
    rw [added]
    refine ⟨forall_mem_cons.mpr ⟨.inr stamped, fun txn member => .inl member⟩, ?_⟩
    refine filter_cons_of_neg ?_
    simp only [stamped, decide_eq_true_eq]
    omega

section

variable (metered : Metered meter)

include metered

/-- Whatever an operation charges, the runs up to its clock reading cost as much. -/
theorem Metered.paid_le (running : meter.world.row.status = .running) (later : meter.clock ≤ clock)
    (charged : meter.world.ledger.ChargedOnce meter.world.row clock clock next.ledger) :
    paid (next.ledger.charges meter.world.row.id) ≤ billed meter.runs + meter.world.row.owed clock := by
  cases charged with
  | nothing same =>
    have before := metered.within running
    have grows := meter.world.row.owed_mono later
    rw [same]
    exact before.trans (by omega)
  | once wallet txn billedTo payer debit within stamped added =>
    have earlier := metered.earlier running
    have whole := paid_split meter.charges meter.since
    rw [due, (metered.running running).1, sumConsumed_eq_paid (metered.tidy.own billedTo)] at within
    rw [added, paid_cons]
    simp only [Option.all_some] at within
    unfold Meter.charges at earlier whole
    omega

theorem Metered.billed (later : meter.clock ≤ clock)
    (running : meter.world.row.status = .running) (old : next.row.status.isYoung = false)
    (startedAt : next.row.startedAt = meter.world.row.startedAt)
    (terms : next.row.SameTerms meter.world.row)
    (charged : meter.world.ledger.ChargedOnce meter.world.row clock clock next.ledger) :
    Metered (meter.observe next clock) := by
  obtain ⟨started, before⟩ := metered.running running
  have after : meter.since ≤ clock := before.trans later
  obtain ⟨members, earlier_eq⟩ := charges_cases charged after
  have charges_eq : (meter.observe next clock).charges = next.ledger.charges meter.world.row.id := by
    rw [← terms.id]
    rfl
  have since_eq : (meter.observe next clock).since = meter.since := if_pos running
  have runs_closed (stopped : next.row.status ≠ .running) : (meter.observe next clock).runs
      = ⟨meter.world.row, meter.since, clock⟩ :: meter.runs := if_pos ⟨running, stopped⟩
  have runs_kept (still : next.row.status = .running) : (meter.observe next clock).runs = meter.runs :=
    if_neg fun ends => ends.2 still
  have paid_le := metered.paid_le running later charged
  refine ⟨metered.tidy.charged running old startedAt terms.payer charged, ?_, ?_, ?_, ?_, ?_⟩
  · intro _
    rw [since_eq]
    exact ⟨startedAt.trans started, after⟩
  · intro stopped
    rw [charges_eq, runs_closed stopped, billed_cons]
    dsimp only
    rw [bill_eq_owed started]
    omega
  · intro still
    rw [charges_eq, runs_kept still, since_eq, earlier_eq]
    exact metered.earlier running
  · intro still
    rw [charges_eq, runs_kept still]
    show paid _ ≤ PausedTime.billed meter.runs + next.row.owed clock
    rwa [terms.owed startedAt clock]
  · intro txn member
    rw [charges_eq] at member
    rw [since_eq]
    -- A charge of this run lies in it still, whether it goes on or was closed just now.
    have current (from_ : meter.since ≤ txn.createdAt) (to_ : txn.createdAt ≤ clock) :
        (∃ run ∈ (meter.observe next clock).runs, run.start ≤ txn.createdAt ∧ txn.createdAt ≤ run.stop) ∨
        next.row.status = .running ∧ meter.since ≤ txn.createdAt ∧ txn.createdAt ≤ clock := by
      by_cases still : next.row.status = .running
      · exact .inr ⟨still, from_, to_⟩
      · rw [runs_closed still]
        exact .inl ⟨_, mem_cons_self, from_, to_⟩
    rcases members txn member with known | new
    · rcases metered.inside txn known with ⟨run, closed, bounds⟩ | ⟨_, from_, to_⟩
      · refine .inl ⟨run, ?_, bounds⟩
        simp only [Meter.observe]
        split_ifs
        · exact mem_cons_of_mem _ closed
        · exact closed
      · exact current from_ (to_.trans later)
    · exact current (new ▸ after) new.le

section Uncharged

variable (charges : next.ledger.charges meter.world.row.id = meter.world.ledger.charges meter.world.row.id)

include charges

/-- While the session does not run, an operation that charges nothing leaves the charges and the closed runs. -/
theorem Metered.resting (idle : meter.world.row.status ≠ .running) (same : next.row.id = meter.world.row.id) :
    (meter.observe next clock).charges = meter.charges ∧ (meter.observe next clock).runs = meter.runs ∧
      ∀ txn ∈ meter.charges, ∃ run ∈ meter.runs, run.start ≤ txn.createdAt ∧ txn.createdAt ≤ run.stop := by
  refine ⟨?_, if_neg fun ends => idle ends.1, fun txn member => ?_⟩
  · rw [Meter.charges, Meter.observe, same, charges]
    rfl
  · exact (metered.inside txn member).resolve_right fun current => idle current.1

theorem Metered.began (idle : meter.world.row.status ≠ .running)
    (running : next.row.status = .running) (startedAt : next.row.startedAt = some clock)
    (payer : next.row.SamePayer meter.world.row) : Metered (meter.observe next clock) := by
  obtain ⟨charges_eq, runs_eq, closed⟩ := metered.resting charges idle payer.id
  have since_eq : (meter.observe next clock).since = clock := if_neg idle
  have before := metered.idle idle
  have debits : ∀ txn ∈ meter.charges, txn.amount ≤ 0 := metered.tidy.debits
  have tidy : Tidy next := metered.tidy.uncharged payer charges
    (by rw [running]; exact nofun) (fun _ => by rw [startedAt]; rfl)
  refine ⟨tidy, ?_, ?_, ?_, ?_, ?_⟩
  · intro _
    rw [since_eq]
    exact ⟨startedAt, le_rfl⟩
  · exact fun stopped => absurd running stopped
  · intro _
    rw [charges_eq, runs_eq]
    exact (paid_filter_le debits _).trans before
  · intro _
    rw [charges_eq, runs_eq]
    have nonneg := next.row.owed_nonneg clock
    show paid meter.charges ≤ PausedTime.billed meter.runs + next.row.owed clock
    omega
  · intro txn member
    rw [charges_eq] at member
    rw [runs_eq]
    exact .inl (closed txn member)

theorem Metered.quiet (later : meter.clock ≤ clock)
    (steady : next.row.status = .running ↔ meter.world.row.status = .running)
    (young : next.row.status.isYoung → meter.world.row.status.isYoung)
    (startedAt : next.row.startedAt = meter.world.row.startedAt)
    (terms : next.row.SameTerms meter.world.row) : Metered (meter.observe next clock) := by
  by_cases running : meter.world.row.status = .running
  · have old : next.row.status.isYoung = false := by rw [steady.mpr running]; rfl
    exact metered.billed later running old startedAt terms (.nothing charges)
  · have still : next.row.status ≠ .running := mt steady.mp running
    obtain ⟨charges_eq, runs_eq, closed⟩ := metered.resting charges running terms.id
    have tidy : Tidy next := metered.tidy.uncharged terms.payer charges
      (fun fresh => startedAt.trans (metered.tidy.unstarted (young fresh))) fun runs => absurd runs still
    refine ⟨tidy, fun runs => absurd runs still, fun _ => ?_, fun runs => absurd runs still,
      fun runs => absurd runs still, fun txn member => .inl ?_⟩
    · rw [charges_eq, runs_eq]
      exact metered.idle running
    · rw [charges_eq] at member
      rw [runs_eq]
      exact closed txn member

end Uncharged

theorem Metered.observe (later : meter.clock ≤ clock)
    (effect : Effect clock meter.world next) : Metered (meter.observe next clock) := by
  cases effect with
  | quiet steady young startedAt terms charges =>
    exact metered.quiet charges later steady young startedAt terms
  | billed running old startedAt terms charged =>
    exact metered.billed later running old startedAt terms charged
  | began idle running startedAt payer charges =>
    exact metered.began charges idle running startedAt payer

theorem Metered.step {event : MeterEvent} {after : Meter}
    (meets : OneAtATime meter event) (taken : step meter event = some after) : Metered after := by
  cases event with
  | operate call envs clock =>
    obtain ⟨watched, later, clocked, fixed⟩ := meets
    obtain ⟨next, performed, rfl⟩ := Option.map_eq_some_iff.mp taken
    exact metered.observe later (perform_effect metered.tidy watched clocked fixed performed)
  | write entry =>
    simp only [PausedTime.step] at taken
    split_ifs at taken with unrelated
    cases taken
    have same : (meter.world.ledger.post entry.wallet entry.row entry.type entry.amount entry.ref entry.key
        entry.stamp).charges meter.world.row.id = meter.world.ledger.charges meter.world.row.id :=
      charges_post_of_ne fun charge => unrelated.2 charge.2
    generalize meter.world.ledger.post .. = ledger at same
    obtain ⟨tidy, running, idle, earlier, within, inside⟩ := metered
    unfold Meter.charges at idle earlier within inside
    rw [← same] at idle earlier within inside
    exact ⟨tidy.uncharged (.refl _) same tidy.unstarted tidy.started, running, idle, earlier, within, inside⟩

end

end Observe

/-- The committed pending row of a session that has not been charged. -/
structure Unbilled (meter : Meter) : Prop where
  pending : meter.world.row.status = .pending
  unstarted : meter.world.row.startedAt = none
  uncharged : meter.charges = []
  unmetered : meter.runs = []

theorem Unbilled.metered {meter : Meter} (unbilled : Unbilled meter) : Metered meter := by
  have uncharged : meter.world.ledger.charges meter.world.row.id = [] := unbilled.uncharged
  have idle : meter.world.row.status ≠ .running := by
    rw [unbilled.pending]
    decide
  refine ⟨⟨fun _ => unbilled.unstarted, fun running => absurd running idle, by simp [uncharged],
      by simp [uncharged]⟩, fun running => absurd running idle, fun _ => ?_,
    fun running => absurd running idle, fun running => absurd running idle, by simp [unbilled.uncharged]⟩
  rw [unbilled.uncharged, unbilled.unmetered]
  rfl

/-- Whatever is done to a session, one operation at a time, its charges never exceed what its runs cost,
and each of them was made within a run. -/
theorem paused_time_unbilled {first last : Meter} {events : List MeterEvent} (unbilled : Unbilled first)
    (run : Run step OneAtATime first events last) :
    paid last.charges ≤ last.owed ∧ ∀ txn ∈ last.charges,
      (∃ run ∈ last.runs, run.start ≤ txn.createdAt ∧ txn.createdAt ≤ run.stop) ∨
      last.world.row.status = .running ∧ last.since ≤ txn.createdAt ∧ txn.createdAt ≤ last.clock := by
  have metered : Metered last :=
    run.invariant unbilled.metered fun _ _ _ meets taken before => before.step meets taken
  refine ⟨?_, metered.inside⟩
  unfold Meter.owed
  split_ifs with running
  · rw [bill_eq_owed (metered.running running).1]
    exact metered.within running
  · rw [add_zero]
    exact metered.idle running

instance (meter : Meter) (event : MeterEvent) : Decidable (OneAtATime meter event) := by
  unfold OneAtATime
  split <;> infer_instance

/-- A pending session on the funded wallet. -/
def pendingMeter : Meter :=
  ⟨worldOf (.pendingRow 1 .gpu none (some 100) (some 0) 600 .cold false 0) none, 0, 0, []⟩

def operate (call : SessionCall) (count : ℕ) (clock : ℤ) : MeterEvent :=
  .operate call (replicate count (granted clock)) clock

/-- An hour of running, an hour of pause, half an hour of running again, and an end from the pause after
it. -/
def twoRuns : List MeterEvent :=
  [operate (.callback ⟨.running, none, none, none, false, none, none, none, none, 0⟩) 1 0,
    operate (.tick .called) 3 (1800 * second), operate (.stop .userStopped false .called) 4 (3600 * second),
    operate (.start .called) 6 (7200 * second), operate (.stop .idle false .called) 4 (9000 * second),
    operate (.terminate .userStopped .called) 5 (10800 * second)]

theorem paused_time_unbilled_twoRuns : ∃ last, Run step OneAtATime pendingMeter twoRuns last ∧
    last.owed = 900 ∧ paid last.charges ≤ last.owed :=
  exists_run_imp (·.owed = 900) (by decide +kernel) fun _ run owed =>
    ⟨owed, (paused_time_unbilled ⟨rfl, rfl, rfl, rfl⟩ run).1⟩

end GShare.Soundness.PausedTime
