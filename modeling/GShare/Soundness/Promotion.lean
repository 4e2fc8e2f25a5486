import GShare.Proofs.Session.Scheduler
import GShare.Soundness.Samples

/-! # Promotions that stop half way

`reschedule_from_queue` commits the reservation of the head entry, hands the session to the operator and
deletes the entry, each by itself. The next tick looks at the status of the session only, so a process that
dies in between, or a handoff that is refused, leaves a pending session with a slice at the head: its next
reservation inserts a second live allocation.
-/

namespace GShare.Soundness.Promotion

open Machine GShare.Model Samples Option Bool World

/-- How the first transaction of a promotion ends. -/
inductive Outcome where
  | empty
  /-- The session is no longer pending; its entry is dropped. -/
  | skipped
  | blocked
  | admitted
  /-- The insert violates the unique index on live allocations. -/
  | violated
  deriving DecidableEq

def outcome (world : World) (env : Env) : Outcome :=
  if world.queued = false then .empty
  else if world.row.status ≠ .pending then .skipped
  else
    match placement world.row.preemptible env with
    | none => .blocked
    | some (kind, total) => if (world.allocate world.row kind total).isSome then .admitted else .violated

/-- A promotion goes on after its first transaction exactly when that one reserved a slice. -/
theorem promote_called (world : World) (env : Env) :
    (world.promote env .called).2.isSome ↔ outcome world env = .admitted := by
  simp only [promote, outcome]
  by_cases waiting : world.queued = false
  · simp [waiting]
  · by_cases pending : world.row.status = .pending
    · cases found : placement world.row.preemptible env with
      | none => simp [waiting, pending]
      | some slice =>
        cases inserted : world.allocate world.row slice.1 slice.2 <;> simp [waiting, pending, inserted]
    · simp [waiting, pending]

/-- The session waits in the queue, although a slice is reserved for it. -/
def Stranded (world : World) : Prop :=
  world.queued ∧ world.row.status = .pending ∧ world.live.isSome

instance (world : World) : Decidable (Stranded world) := inferInstanceAs (Decidable (_ ∧ _ ∧ _))

variable {world : World}

/-- The index is violated for a stranded session only. -/
theorem outcome_of_not_stranded (waiting : world.queued) (clear : ¬Stranded world) (env : Env) :
    outcome world env = .admitted ∨ outcome world env = .skipped ∨ outcome world env = .blocked := by
  by_cases pending : world.row.status = .pending
  · have free : world.live = none :=
      not_isSome_iff_eq_none.mp fun reserved => clear ⟨waiting, pending, reserved⟩
    cases found : placement world.row.preemptible env with
    | none => simp [outcome, waiting, pending, found]
    | some slice => simp [outcome, waiting, pending, found, allocate, free]
  · simp [outcome, waiting, pending]

/-- A report that leaves the session pending leaves its slice alone. -/
theorem not_stranded_onStatus (clear : ¬Stranded world) (event : StatusEvent) (env : Env) :
    ¬Stranded (world.onStatus event env) := by
  rintro ⟨waiting, pending, reserved⟩
  cases world.onStatus_reported event env with
  | ignored becomes =>
    rw [becomes.queued] at waiting
    rw [becomes.status] at pending
    rw [becomes.live] at reserved
    exact clear ⟨waiting, pending, reserved⟩
  | interim status forward becomes =>
    rw [becomes.status] at pending
    rcases forward with ⟨rfl, _⟩ | ⟨rfl, _⟩ <;> cases pending
  | paused live inProgress vacates becomes | running ledger inProgress charged becomes =>
    cases becomes.status.symm.trans pending
  | ended status reports becomes =>
    rw [becomes.live] at reserved
    cases reserved

/-- The tick has reserved a slice and has not deleted the entry. -/
def holdsSlice : PromotePoint → Bool
  | .reserved | .applied => true
  | .called => false

/-- The session at the head of the queue and the tick in progress. -/
structure Ticker where
  world : World
  tick : Option PromotePoint

inductive Event where
  | tick
  /-- The tick takes its next transaction, or calls the cluster. -/
  | proceed (env : Env)
  /-- The process dies; what it committed stays. -/
  | crash
  | callback (event : StatusEvent) (env : Env)

def step (ticker : Ticker) : Event → Option Ticker
  | .tick => if ticker.tick.isNone then some { ticker with tick := some .called } else none
  | .proceed env => ticker.tick.map fun point =>
      { world := (ticker.world.promote env point).1, tick := (ticker.world.promote env point).2 }
  | .crash => ticker.tick.map fun _ => { ticker with tick := none }
  | .callback event env => some { ticker with world := ticker.world.onStatus event env }

/-- A process dies with a slice in hand, or is refused the handoff, only after the operator has reported on
the session. -/
def Survivable (ticker : Ticker) : Event → Prop
  | .crash => ticker.tick.any holdsSlice → ticker.world.row.status ≠ .pending
  | .proceed env => ticker.tick = some .reserved ∧ env.accepted = false → ticker.world.row.status ≠ .pending
  | .tick | .callback _ _ => True

instance (ticker : Ticker) : DecidablePred (Survivable ticker)
  | .crash | .proceed _ => inferInstanceAs (Decidable (_ → _))
  | .tick | .callback _ _ => inferInstanceAs (Decidable True)

/-- Only a tick in progress has a slice in hand for a session that still waits. -/
def Recoverable (ticker : Ticker) : Prop :=
  ticker.tick.any holdsSlice = false → ¬Stranded ticker.world

theorem Recoverable.promote {point : PromotePoint} {env : Env} (recoverable : Recoverable ⟨world, some point⟩)
    (meets : Survivable ⟨world, some point⟩ (.proceed env)) :
    Recoverable ⟨(world.promote env point).1, (world.promote env point).2⟩ := by
  cases point with
  | called =>
    have clear : ¬Stranded world := recoverable rfl
    simp only [World.promote]
    split_ifs with idle stale
    · exact fun _ => clear
    · exact fun _ stranded => false_ne_true stranded.1
    · cases (World.placement world.row.preemptible env).bind fun slice =>
          world.allocate world.row slice.1 slice.2 with
      | none => exact fun _ => clear
      | some reserved => exact fun free => absurd free.symm false_ne_true
  | reserved =>
    intro free stranded
    cases accepted : env.accepted with
    | true => simp [World.promote, accepted, holdsSlice] at free
    | false => exact meets ⟨rfl, accepted⟩ stranded.2.1
  | applied => exact fun _ stranded => false_ne_true stranded.1

theorem Recoverable.step {ticker next : Ticker} {event : Event} (meets : Survivable ticker event)
    (taken : step ticker event = some next) (recoverable : Recoverable ticker) : Recoverable next := by
  obtain ⟨world, tick⟩ := ticker
  cases event with
  | tick =>
    simp only [Promotion.step] at taken
    split_ifs at taken with idle
    obtain rfl := isNone_iff_eq_none.mp idle
    cases taken
    exact fun _ => recoverable rfl
  | proceed env =>
    simp only [Promotion.step, map_eq_some_iff] at taken
    obtain ⟨point, rfl, rfl⟩ := taken
    exact recoverable.promote meets
  | crash =>
    simp only [Promotion.step, map_eq_some_iff] at taken
    obtain ⟨point, rfl, rfl⟩ := taken
    intro _ stranded
    cases inHand : holdsSlice point with
    | false => exact recoverable (by simp [inHand]) stranded
    | true => exact meets (by simp [inHand]) stranded.2.1
  | callback event env =>
    cases taken
    exact fun free => not_stranded_onStatus (recoverable free) event env

/-- Where a process dies with a slice in hand, or is refused the handoff, only after the operator has reported
on the session, the next promotion of the entry always reserves, drops the entry or is blocked, and no pending
session with a reserved slice waits at the head between two ticks. -/
theorem promotion_recovers {first last : Ticker} {events : List Event}
    (fresh : first.world.live = none) (run : Run step Survivable first events last) (between : last.tick = none) :
    ¬Stranded last.world ∧ (last.world.queued → ∀ env : Env,
      outcome last.world env = .admitted ∨ outcome last.world env = .skipped ∨
        outcome last.world env = .blocked) := by
  have initially : Recoverable first := by
    rintro - ⟨-, -, reserved⟩
    simp [fresh] at reserved
  have atEnd : Recoverable last :=
    run.invariant initially fun _ _ _ meets taken recoverable => recoverable.step meets taken
  have clear : ¬Stranded last.world := atEnd (by simp [between])
  exact ⟨clear, fun waiting => outcome_of_not_stranded waiting clear⟩

def queuedSession : World :=
  { worldOf (Session.pendingRow 0 .gpu none (some 100) (some 0) 600 .cold false 0) none with
    queued := true }

/-- The process dies before the entry is deleted, but after the operator has taken the session over: the
next tick drops the entry. -/
theorem promotion_recovers_reported : ∃ last, Run step Survivable ⟨queuedSession, none⟩
        [.tick, .proceed (granted 0), .proceed (granted 0),
          .callback (reportOf .preparing) (granted 0), .crash] last ∧
      last.world.queued ∧ last.world.live.isSome ∧
      outcome last.world (granted 0) = .skipped ∧ ¬Stranded last.world :=
  exists_run_imp (fun last => last.tick = none ∧ last.world.queued ∧ last.world.live.isSome ∧
    outcome last.world (granted 0) = .skipped) (by decide +kernel) fun _ run facts =>
    ⟨facts.2.1, facts.2.2.1, facts.2.2.2, (promotion_recovers rfl run facts.1).1⟩

/-- The process dies right after the reservation: the next tick inserts a second live allocation for the
session, whose slice is reserved and which nobody has handed over. -/
theorem second_allocation_after_crash : ∃ last, Run step (fun _ _ => True) ⟨queuedSession, none⟩
        [.tick, .proceed (granted 0), .crash] last ∧
      last.tick = none ∧ Stranded last.world ∧ outcome last.world (granted 0) = .violated :=
  ⟨_, run_of_execute rfl, rfl, ⟨rfl, rfl, rfl⟩, rfl⟩

end GShare.Soundness.Promotion
