import GShare.Proofs.Session.Scheduler

/-! # Calls that run alone

What `start`, `stop`, `terminate` and a tick amount to when nothing else happens between their
transactions and they read one clock: each is a single change of the session.
-/

namespace GShare.Model

open World List

/-- Every transaction of the operation reads the clock at `clock`, and the database stamps its rows with
that time. -/
def AtClock (clock : ℤ) (envs : List Env) : Prop :=
  ∀ env ∈ envs, env.now = clock ∧ env.stamp = clock

/-- Every price the operation meets is the one the session already has. -/
def FixedRate (row : Session) (envs : List Env) : Prop :=
  ∀ env ∈ envs, (if row.preemptible then spotRate env.creditPerHour else env.creditPerHour)
    = row.creditPerHourSnapshot

instance (row : Session) (envs : List Env) : Decidable (FixedRate row envs) :=
  inferInstanceAs (Decidable (∀ env ∈ envs, _))

instance (clock : ℤ) (envs : List Env) : Decidable (AtClock clock envs) :=
  inferInstanceAs (Decidable (∀ env ∈ envs, _))

variable {env : Env}

theorem atClock_cons {clock : ℤ} {envs : List Env} :
    AtClock clock (env :: envs) ↔ (env.now = clock ∧ env.stamp = clock) ∧ AtClock clock envs :=
  forall_mem_cons

variable {loaded : Session}

namespace World

/-- A new run: the session starts to run at `clock`, with the payer and the ledger it had. -/
structure Resumes (world next : World) (clock : ℤ) : Prop where
  idle : world.row.status = .preparing ∨ world.row.status = .paused
  payer : next.row.SamePayer world.row
  status : next.row.status = .running
  startedAt : next.row.startedAt = some clock
  ledger : next.ledger = world.ledger

/-- A termination leaves a session that is over alone, and ends and settles any other. -/
def Ends (world next : World) (clock : ℤ) : Prop :=
  world.row.status = .terminated ∧ next = world ∨
  world.row.status ≠ .terminated ∧ world.Becomes next .terminated world.row.startedAt none
    (if world.row.billable then world.ledger.settle world.row (.settle world.row.id)
        (world.row.status == .running) clock clock
      else world.ledger)

theorem resnapshot_of_fixedRate {world : World}
    (fixed : (if loaded.preemptible then spotRate env.creditPerHour else env.creditPerHour)
      = world.row.creditPerHourSnapshot) : world.resnapshot loaded env = world := by
  simp only [resnapshot, fixed]
  split_ifs
  · rcases stored_cases loaded.creditPerHourSnapshot world.row.creditPerHourSnapshot
      world.row.creditPerHourSnapshot with same | same <;> simp only [same]
  · rfl

end World

variable {now : ℤ}

namespace SessionCall

variable {envs : List Env} {world next : World} {call : SessionCall} {clock : ℤ} {reason : Reason}

theorem perform_returned (performed : perform envs world .returned = some next) : next = world := by
  cases envs with
  | nil => exact (Option.some.inj performed).symm
  | cons env envs => cases performed

/-- A call that has not returned takes a transaction and goes on from there. -/
theorem perform_next (performed : perform envs world call = some next) (pending : call ≠ .returned) :
    ∃ env rest middle after, envs = env :: rest ∧ call.next world env = some (middle, after) ∧
      perform rest middle after = some next := by
  cases envs with
  | nil =>
    cases call with
    | returned => exact absurd rfl pending
    | _ => cases performed
  | cons env rest =>
    obtain ⟨⟨middle, after⟩, taken, onward⟩ := Option.bind_eq_some_iff.mp performed
    exact ⟨env, rest, middle, after, rfl, taken, onward⟩

/-- What follows the write of a resume touches neither the row nor the ledger. -/
theorem perform_resumed (performed : perform envs world (.start (.resumed loaded)) = some next)
    (fixed : ∀ env ∈ envs, (if loaded.preemptible then spotRate env.creditPerHour
      else env.creditPerHour) = world.row.creditPerHourSnapshot) :
    next.row = world.row ∧ next.ledger = world.ledger := by
  obtain ⟨env, envs, _, _, rfl, ⟨⟩, performed⟩ := perform_next performed nofun
  have same : (world.start env (.resumed loaded)).1 = world :=
    World.resnapshot_of_fixedRate (fixed env mem_cons_self)
  rw [same] at performed
  obtain ⟨patching, envs, _, _, rfl, ⟨⟩, performed⟩ := perform_next performed nofun
  change perform envs world ((if patching.accepted then some (StartPoint.patched patching.generation)
    else none).elim .returned .start) = some next at performed
  cases accepted : patching.accepted with
  | false =>
    rw [accepted] at performed
    obtain rfl := perform_returned performed
    exact ⟨rfl, rfl⟩
  | true =>
    rw [accepted] at performed
    obtain ⟨_, envs, _, _, rfl, ⟨⟩, performed⟩ := perform_next performed nofun
    obtain ⟨_, envs, _, _, rfl, ⟨⟩, performed⟩ := perform_next performed nofun
    obtain rfl := perform_returned performed
    exact ⟨rfl, rfl⟩

/-- The write of a resume on an undisturbed session, and what follows it. -/
theorem perform_resumeRow {reserved : World} {now : ℤ} {loaded : Session}
    (performed : perform envs { reserved with row := resumeRow world.row reserved.row now }
      (.start (.resumed loaded)) = some next)
    (fixed : ∀ env ∈ envs, (if loaded.preemptible then spotRate env.creditPerHour
      else env.creditPerHour) = world.row.creditPerHourSnapshot)
    (idle : world.row.status = .preparing ∨ world.row.status = .paused)
    (same : reserved = world ∨ ∃ total, world.Allocated reserved .resident world.row total) :
    world.Resumes next now := by
  have kept : reserved.ledger = world.ledger ∧ reserved.row.SamePayer world.row ∧
      reserved.row.status = world.row.status ∧ reserved.row.startedAt = world.row.startedAt := by
    rcases same with rfl | ⟨total, allocated⟩
    · exact ⟨rfl, .refl _, rfl, rfl⟩
    · rw [allocated.next_eq]
      exact ⟨rfl, ⟨rfl, rfl, rfl⟩, rfl, rfl⟩
  obtain ⟨ledger, payer, status, started⟩ := kept
  obtain ⟨row, ledgerAfter⟩ := perform_resumed performed fun env member => by
    rw [fixed env member]
    exact payer.rate.symm
  refine ⟨idle, ?_, ?_, ?_, ledgerAfter.trans ledger⟩ <;> rw [row]
  · exact ⟨payer.id, payer.billingWalletId, payer.rate⟩
  · simp [resumeRow, status]
  · simp [resumeRow, started]

section AtOneClock

variable (clocked : AtClock clock envs)
include clocked

/-- A claimed termination releases the slice, settles the bill and ends the session. -/
theorem perform_claimed {prior : Status}
    (performed : perform envs world (.terminate reason (.claimed loaded prior now)) = some next)
    (status : loaded.status = world.row.status) :
    ∃ given at_, next.row =
        { world.row with status := .terminated, statusReason := given, terminatedAt := at_ } ∧
      next.live = none ∧ next.queued = world.queued ∧
      next.ledger = if loaded.billable then
          world.ledger.settle loaded (.settle loaded.id) (prior == .running) clock clock
        else world.ledger := by
  obtain ⟨env, envs, _, _, rfl, ⟨⟩, performed⟩ := perform_next performed nofun
  obtain ⟨_, clocked⟩ := atClock_cons.mp clocked
  obtain ⟨settling, envs, _, _, rfl, ⟨⟩, performed⟩ := perform_next performed nofun
  obtain ⟨⟨now_eq, stamp_eq⟩, clocked⟩ := atClock_cons.mp clocked
  obtain ⟨_, envs, _, _, rfl, ⟨⟩, performed⟩ := perform_next performed nofun
  obtain ⟨_, envs, _, _, rfl, ⟨⟩, performed⟩ := perform_next performed nofun
  obtain rfl := perform_returned performed
  refine ⟨if loaded.statusReason = none then some reason else world.row.statusReason,
    stored loaded.terminatedAt (some now) world.row.terminatedAt, ?_, ?_, ?_, ?_⟩
  · simp [World.terminate, clearGrace, releaseAllocation, status]
  · simp [World.terminate, clearGrace, releaseAllocation]
  · simp [World.terminate, clearGrace, releaseAllocation]
  · simp [World.terminate, clearGrace, releaseAllocation, settleBillable_ledger,
      now_eq, stamp_eq]

theorem perform_claim (performed : perform envs (world.claim reason env).1
      ((world.claim reason env).2.elim .returned (.terminate reason)) = some next) : world.Ends next clock := by
  rcases claimed : world.claim reason env with ⟨middle, after⟩
  rw [claimed] at performed
  rcases claim_cases claimed with ⟨ended, rfl, rfl⟩ | ⟨open_, ⟨given, rfl⟩, rfl⟩
  · exact .inl ⟨ended, perform_returned performed⟩
  · obtain ⟨_, _, row, live, queued, ledger⟩ := perform_claimed clocked performed rfl
    refine .inr ⟨open_, ⟨⟨?_, ?_, ?_, ?_, ?_⟩, queued, ?_, ?_, live, ledger⟩⟩
    all_goals rw [row]
    rfl

theorem perform_terminate (performed : perform envs world (.terminate reason .called) = some next) :
    world.Ends next clock := by
  obtain ⟨env, envs, _, _, rfl, ⟨⟩, performed⟩ := perform_next performed nofun
  exact perform_claim (atClock_cons.mp clocked).2 performed

/-- A pause of a running session that the cluster does not refuse charges the run and says paused. -/
theorem perform_checked
    (performed : perform envs world (.stop reason false (.checked world.row now)) = some next) :
    (∃ env ∈ envs, env.accepted = false) ∧ next = world ∨
    ∃ live, world.Becomes next .paused world.row.startedAt live
      (world.ledger.consume world.row (minuteBucket now) now clock) := by
  obtain ⟨patching, envs, _, _, rfl, ⟨⟩, performed⟩ := perform_next performed nofun
  obtain ⟨_, clocked⟩ := atClock_cons.mp clocked
  cases accepted : patching.accepted with
  | false =>
    rw [accepted] at performed
    exact .inl ⟨⟨patching, mem_cons_self, accepted⟩, perform_returned performed⟩
  | true =>
    rw [accepted] at performed
    obtain ⟨charging, envs, _, _, rfl, ⟨⟩, performed⟩ := perform_next performed nofun
    obtain ⟨⟨_, stamp⟩, _⟩ := atClock_cons.mp clocked
    obtain ⟨_, envs, _, _, rfl, ⟨⟩, performed⟩ := perform_next performed nofun
    obtain rfl := perform_returned performed
    obtain ⟨live, becomes⟩ := (world.consume world.row now charging).pauseRow_becomes reason
    rw [consume_row, consume_ledger, stamp] at becomes
    exact .inr ⟨live, by simpa only [consume_row] using becomes.terms,
      by simpa only [consume_queued] using becomes.queued, becomes.status, becomes.startedAt,
      becomes.live, becomes.ledger⟩

/-- A pause: a session that has not started is terminated instead, and a session that is not running is
left alone. -/
theorem perform_stop (performed : perform envs world (.stop reason false .called) = some next) :
    (world.row.status = .pending ∨ world.row.status = .preparing) ∧
      world.Becomes next .terminated world.row.startedAt none
        (if world.row.billable then world.ledger.settle world.row (.settle world.row.id) false clock clock
          else world.ledger) ∨
    (world.row.status = .running → ∃ env ∈ envs, env.accepted = false) ∧ next = world ∨
    world.row.status = .running ∧ ∃ live, world.Becomes next .paused world.row.startedAt live
      (world.ledger.consume world.row (minuteBucket clock) clock clock) := by
  obtain ⟨env, envs, middle, after, rfl, taken, performed⟩ := perform_next performed nofun
  obtain ⟨⟨now, _⟩, clocked⟩ := atClock_cons.mp clocked
  simp only [SessionCall.next] at taken
  split_ifs at taken with young running
  · cases taken
    rcases perform_claim clocked performed with ⟨ended, _⟩ | ⟨_, becomes⟩
    · rcases young with young | young <;> cases young.symm.trans ended
    · refine .inl ⟨young, ?_⟩
      have idle : (world.row.status == .running) = false := by
        rcases young with young | young <;> rw [young] <;> rfl
      rwa [idle] at becomes
  · cases taken
    have status : world.row.status = .running := by
      revert running
      cases world.row.status <;> decide
    rw [now] at performed
    rcases perform_checked clocked performed with ⟨⟨refusing, member, refused⟩, rfl⟩ | paused
    · exact .inr (.inl ⟨fun _ => ⟨refusing, mem_cons_of_mem _ member, refused⟩, rfl⟩)
    · exact .inr (.inr ⟨status, paused⟩)
  · cases taken
    refine .inr (.inl ⟨fun status => ?_, perform_returned performed⟩)
    rw [status] at running
    exact absurd rfl running

theorem perform_tick (performed : perform envs world (.tick .called) = some next) :
    (world.row.status = .running → world.row.creditPerHourSnapshot = 0) ∧ next = world ∨
    world.row.status = .running ∧ world.Becomes next .running world.row.startedAt world.live
      (world.ledger.consume world.row (minuteBucket clock) clock clock) := by
  obtain ⟨env, envs, middle, after, rfl, taken, performed⟩ := perform_next performed (by simp)
  obtain ⟨⟨now, _⟩, clocked⟩ := atClock_cons.mp clocked
  simp only [SessionCall.next, World.tick, resume] at taken
  split_ifs at taken with listed <;> cases taken
  · obtain ⟨env, envs, middle, after, rfl, taken, performed⟩ := perform_next performed (by simp)
    obtain ⟨_, clocked⟩ := atClock_cons.mp clocked
    simp only [SessionCall.next, World.tick, resume, if_pos listed.1] at taken
    cases taken
    obtain ⟨env, envs, middle, after, rfl, ⟨⟩, performed⟩ := perform_next performed (by simp)
    obtain ⟨⟨_, stamp⟩, _⟩ := atClock_cons.mp clocked
    obtain rfl := perform_returned performed
    refine .inr ⟨listed.1, ⟨?_, ?_, ?_, ?_, ?_, ?_⟩⟩
    all_goals simp [World.tick, now, stamp, listed.1, Session.SameTerms.refl]
  · exact .inl ⟨fun running => Nat.eq_zero_of_not_pos fun priced => listed ⟨running, priced⟩,
      perform_returned performed⟩

theorem perform_callback {event : StatusEvent} (performed : perform envs world (.callback event) = some next) :
    ∃ env, env.now = clock ∧ env.stamp = clock ∧ next = world.onStatus event env := by
  obtain ⟨env, envs, _, _, rfl, ⟨⟩, performed⟩ := perform_next performed nofun
  obtain ⟨⟨now, stamp⟩, _⟩ := atClock_cons.mp clocked
  exact ⟨env, now, stamp, perform_returned performed⟩

theorem perform_start_checked {yieldResume : Bool}
    (performed : perform envs world (.start (.checked world.row yieldResume)) = some next)
    (fixed : FixedRate world.row envs)
    (idle : world.row.status = .preparing ∨ world.row.status = .paused) :
    next = world ∨ world.Resumes next clock := by
  obtain ⟨env, envs, middle, after, rfl, taken, performed⟩ := perform_next performed (by simp)
  obtain ⟨⟨now, _⟩, clocked⟩ := atClock_cons.mp clocked
  obtain ⟨_, fixed⟩ := forall_mem_cons.mp fixed
  rcases written : world.start env (.checked world.row yieldResume) with ⟨resumed, point⟩
  simp only [SessionCall.next, written, resume, Option.some.injEq, Prod.mk.injEq] at taken
  obtain ⟨rfl, rfl⟩ := taken
  rcases start_checked written with
    ⟨rfl, rfl | ⟨_, rfl⟩⟩ | ⟨reserved, same, rfl, rfl⟩
  · exact .inl (perform_returned performed)
  · obtain ⟨env, envs, _, _, rfl, ⟨⟩, performed⟩ := perform_next performed (by simp)
    obtain ⟨⟨now, _⟩, _⟩ := atClock_cons.mp clocked
    exact .inr (now ▸ perform_resumeRow performed (forall_mem_cons.mp fixed).2 idle (.inl rfl))
  · exact .inr (now ▸ perform_resumeRow performed fixed idle same)

/-- A resume leaves the session alone or starts a new run. -/
theorem perform_start (performed : perform envs world (.start .called) = some next)
    (fixed : FixedRate world.row envs) :
    next = world ∨ world.Resumes next clock := by
  obtain ⟨env, envs, middle, after, rfl, taken, performed⟩ := perform_next performed nofun
  simp only [SessionCall.next, resume, Option.some.injEq, Prod.mk.injEq] at taken
  obtain ⟨rfl, rfl⟩ := taken
  simp only [World.start, World.admitStart] at performed
  split_ifs at performed with refused
  · exact .inl (perform_returned performed)
  · have idle : world.row.status = .preparing ∨ world.row.status = .paused := by
      simp only [Bool.or_eq_true, not_or, Bool.not_eq_true', Bool.not_eq_false] at refused
      have allowed := refused.1
      revert allowed
      cases world.row.status <;> decide
    exact perform_start_checked (atClock_cons.mp clocked).2 performed
      (forall_mem_cons.mp fixed).2 idle

end AtOneClock

end SessionCall

end GShare.Model
