import GShare.Model.Session.Scheduler
import GShare.Proofs.Session.Service

/-! # What a transaction of the scheduler can do

Each step of an admission or a promotion is one of a few effects on the session: nothing, a hold, a
slice, a queue entry, the release of a failed reservation, or a refund.
-/

namespace GShare.Model

open Option

variable {world next : World} {env : Env}
variable {point : CreatePoint}

namespace CreatePoint

/-- The hold or the slice may still be taken. -/
def acquiring : CreatePoint → Bool
  | .validating | .quoting | .gating _ | .holding _ | .reserving | .preempting | .borrowing => true
  | .checking | .enqueueing | .applying | .failed _ | .refunding _ | .created => false

/-- The session may still be queued. -/
def searching : CreatePoint → Bool
  | .checking | .enqueueing => true
  | point => point.acquiring

def isRefunding : CreatePoint → Bool
  | .refunding _ => true
  | _ => false

theorem searching_of_acquiring (acquiring : point.acquiring) : point.searching := by
  cases point <;> first | rfl | cases acquiring

end CreatePoint

namespace World

variable {after : CreatePoint} {reason : Reason}

section Release

variable (world : World) (reason : Option Reason)

@[simp] theorem releaseReservation_live : (world.releaseReservation reason).live = none := by
  unfold releaseReservation; dsimp only; split_ifs <;> rfl

@[simp] theorem releaseReservation_queued : (world.releaseReservation reason).queued = world.queued := by
  unfold releaseReservation; dsimp only; split_ifs <;> rfl

@[simp] theorem releaseReservation_ledger : (world.releaseReservation reason).ledger = world.ledger := by
  unfold releaseReservation; dsimp only; split_ifs <;> rfl

theorem releaseReservation_terms : (world.releaseReservation reason).row.SameTerms world.row := by
  unfold releaseReservation
  split_ifs <;> exact ⟨rfl, rfl, rfl, rfl, rfl⟩

theorem releaseReservation_status : (world.releaseReservation reason).row.status =
    if world.row.status = .pending ∨ world.row.status = .preparing then .error else world.row.status := by
  unfold releaseReservation
  split_ifs <;> rfl

end Release

variable (world : World) (env : Env) in
inductive Created : CreatePoint → World → CreatePoint → Prop
  | moved {point after : CreatePoint} (running : point.isRefunding = false)
      (acquires : after.acquiring → point.acquiring)
      (searches : after.searching → point.searching)
      (forward : after.isRefunding = false) : Created point world after
  | held {amount : HoldAmount} {wallet : WalletId} {ledger : Ledger} {after : CreatePoint}
      (billed : world.row.billingWalletId = some wallet)
      (success : world.ledger.hold wallet amount.value (.hold world.row.id) env.stamp = .ok ledger)
      (forward : after = .applying ∨ after = .reserving) :
      Created (.holding amount) { world with ledger := ledger } after
  | occupied {point : CreatePoint} {next : World} {kind : AllocationKind} {total : ℕ}
      (acquires : point.acquiring) (allocated : world.Allocated next kind world.row total) :
      Created point next .applying
  | enqueued : Created .enqueueing { world with queued := true } .created
  | released (reason : Reason) : Created (.failed reason)
      (world.releaseReservation (some reason)) (.refunding (world.releaseReservation (some reason)).row)
  | refunded (loaded : Session) : Created (.refunding loaded)
      (world.settleBillable loaded true env) .created

theorem occupy_created {kind : AllocationKind} {total : ℕ}
    (acquires : point.acquiring) (running : point.isRefunding = false)
    (done : world.occupy kind total = (next, after)) : world.Created env point next after := by
  unfold occupy at done
  cases success : world.allocate world.row kind total with
  | none =>
    rw [success] at done
    cases done
    exact .moved running nofun nofun rfl
  | some reserved =>
    rw [success] at done
    cases done
    exact .occupied acquires (allocate_eq_some success)

theorem takeHold_created {amount : HoldAmount} (done : world.takeHold amount env = (next, after)) :
    world.Created env (.holding amount) next after := by
  unfold takeHold at done
  cases billed : world.row.billingWalletId with
  | none =>
    simp only [billed] at done
    cases done
    exact .moved rfl nofun nofun rfl
  | some wallet =>
    simp only [billed] at done
    cases success : world.ledger.hold wallet amount.value (.hold world.row.id) env.stamp with
    | error reason =>
      simp only [success] at done
      cases done
      exact .moved rfl nofun nofun rfl
    | ok ledger =>
      simp only [success] at done
      cases done
      refine .held billed success ?_
      cases world.row.resourceClass with
      | cpu => exact .inl rfl
      | gpu => exact .inr rfl

/-- Passing a gate or failing at it. -/
theorem gate_created {onward : CreatePoint} (running : point.isRefunding = false)
    (acquires : onward.acquiring → point.acquiring) (searches : onward.searching → point.searching)
    (forward : onward.isRefunding = false) : world.Created env point world (gate env onward) := by
  unfold gate
  split_ifs
  · exact .moved running acquires searches forward
  · exact .moved running nofun nofun rfl

/-- Every transaction of an admission has one of these effects. -/
theorem create_created (taken : world.create env point = some (next, after)) :
    world.Created env point next after := by
  cases point with
  | validating | gating amount =>
    cases taken; exact gate_created rfl (fun _ => rfl) (fun _ => rfl) rfl
  | quoting =>
    cases taken
    refine gate_created rfl (fun _ => rfl) (fun _ => rfl) ?_
    split_ifs <;> rfl
  | holding amount => exact takeHold_created (some.inj taken)
  | reserving =>
    simp only [create] at taken
    split at taken
    · exact occupy_created rfl rfl (some.inj taken)
    · cases taken
      refine .moved rfl (fun _ => rfl) (fun _ => rfl) ?_
      split_ifs <;> rfl
  | preempting =>
    cases taken
    refine .moved rfl (fun _ => rfl) (fun _ => rfl) ?_
    split_ifs <;> rfl
  | borrowing =>
    simp only [create] at taken
    split at taken
    · exact occupy_created rfl rfl (some.inj taken)
    · cases taken
      exact .moved rfl (fun _ => rfl) (fun _ => rfl) rfl
  | checking => cases taken; exact gate_created rfl nofun (fun _ => rfl) rfl
  | enqueueing => cases taken; exact .enqueued
  | applying => cases taken; exact gate_created rfl nofun nofun rfl
  | failed reason => cases taken; exact .released reason
  | refunding loaded => cases taken; exact .refunded loaded
  | created => cases taken

/-- The first transaction of a promotion: nothing fits, the entry is stale, or a slice is taken. -/
theorem promote_called {after : Option PromotePoint} (taken : world.promote env .called = (next, after)) :
    next = world ∧ after = none ∨
    world.row.status ≠ .pending ∧ next = { world with queued := false } ∧ after = none ∨
    ∃ kind total, world.queued ∧ world.row.status = .pending ∧
      world.Allocated next kind world.row total ∧ after = some .reserved := by
  simp only [promote] at taken
  split_ifs at taken with unqueued moved
  · cases taken
    exact .inl ⟨rfl, rfl⟩
  · cases taken
    exact .inr (.inl ⟨moved, rfl, rfl⟩)
  · split at taken
    · cases taken
      exact .inl ⟨rfl, rfl⟩
    · rename_i reserved success
      cases taken
      obtain ⟨⟨kind, total⟩, _, success⟩ := bind_eq_some_iff.mp success
      exact .inr (.inr ⟨kind, total, by simpa using unqueued, not_not.mp moved,
        allocate_eq_some success, rfl⟩)

structure Unmarked (world next : World) : Prop where
  reported : next.row.lastReportedAt = world.row.lastReportedAt
  marker : next.resumeGeneration = world.resumeGeneration

theorem claim_unmarked : world.Unmarked (world.claim reason env).1 := by
  unfold claim
  split_ifs <;> exact ⟨rfl, rfl⟩

theorem terminate_unmarked {point : TerminatePoint} :
    world.Unmarked (world.terminate reason env point).1 := by
  cases point with
  | called => exact claim_unmarked
  | released => exact ⟨by simp [terminate], (settleBillable_leaves ..).marker⟩
  | claimed | settled | ended => exact ⟨rfl, rfl⟩

theorem promote_unmarked {point : PromotePoint} : world.Unmarked (world.promote env point).1 := by
  cases point with
  | called =>
    rcases taken : world.promote env .called with ⟨next, after⟩
    rcases promote_called taken with ⟨rfl, -⟩ | ⟨-, rfl, -⟩ | ⟨_, _, -, -, allocated, -⟩
    · exact ⟨rfl, rfl⟩
    · exact ⟨rfl, rfl⟩
    · rw [allocated.next_eq]
      exact ⟨rfl, rfl⟩
  | reserved | applied => exact ⟨rfl, rfl⟩

structure StartLeaves (point : StartPoint) (world next : World) : Prop where
  ledger : next.ledger = world.ledger
  status : next.row.status = world.row.status ∨ next.row.status = .running
  reported : next.row.lastReportedAt = world.row.lastReportedAt
  marker : (∀ generation, point ≠ .patched generation) → next.resumeGeneration = world.resumeGeneration

theorem start_leaves (world : World) (env : Env) (point : StartPoint) :
    StartLeaves point world (world.start env point).1 := by
  cases point with
  | called | again loaded =>
    simp only [start, admitStart]
    split_ifs <;> exact ⟨rfl, .inl rfl, rfl, fun _ => rfl⟩
  | checked loaded yieldResume =>
    rcases taken : world.start env (.checked loaded yieldResume) with ⟨next, after⟩
    rcases start_checked taken with ⟨rfl, -⟩ | ⟨reserved, rfl | ⟨total, allocated⟩, rfl, -⟩
    · exact ⟨rfl, .inl rfl, rfl, fun _ => rfl⟩
    · exact ⟨rfl, (stored_cases ..).symm, rfl, fun _ => rfl⟩
    · rw [allocated.next_eq]
      exact ⟨rfl, (stored_cases ..).symm, rfl, fun _ => rfl⟩
  | resumed loaded =>
    simp only [start, resnapshot]
    split_ifs <;> exact ⟨rfl, .inl rfl, rfl, fun _ => rfl⟩
  | reclaimed => exact ⟨rfl, .inr (stored_self ..), rfl, fun _ => rfl⟩
  | patched generation => exact ⟨rfl, .inl rfl, rfl, fun unpatched => absurd rfl (unpatched generation)⟩
  | priced | marked => exact ⟨rfl, .inl rfl, rfl, fun _ => rfl⟩

end World

variable {call : SessionCall}

namespace SessionCall

variable {after : SessionCall}

variable (world : World) (env : Env) in
inductive Steps : SessionCall → World → SessionCall → Prop
  | start {point : StartPoint} :
      Steps (.start point) (world.start env point).1
        ((world.start env point).2.elim .returned .start)
  /-- The session has not started: its pause is a cancellation. -/
  | abandoned {reason : Reason} {restarting : Bool}
      (young : world.row.status = .pending ∨ world.row.status = .preparing) :
      Steps (.stop reason restarting .called) (world.claim reason env).1
        ((world.claim reason env).2.elim .returned (.terminate reason))
  | checked {reason : Reason} {restarting : Bool}
      (allowed : world.row.status.assertTransition .paused) :
      Steps (.stop reason restarting .called) world
        (.stop reason restarting (.checked world.row env.now))
  | refused {reason : Reason} {restarting : Bool} :
      Steps (.stop reason restarting .called) world .returned
  | patched {reason : Reason} {restarting : Bool} {loaded : Session} {now : ℤ} :
      Steps (.stop reason restarting (.checked loaded now)) world
        (.stop reason restarting (.patched loaded now))
  | unpatched {reason : Reason} {restarting : Bool} {loaded : Session} {now : ℤ} :
      Steps (.stop reason restarting (.checked loaded now)) world .returned
  | charged {reason : Reason} {restarting : Bool} {loaded : Session} {now : ℤ} :
      Steps (.stop reason restarting (.patched loaded now)) (world.consume loaded now env)
        (.stop reason restarting (.charged loaded))
  | paused {reason : Reason} {restarting : Bool} {loaded : Session} {after : SessionCall}
      (onward : after = .start (.again { loaded with status := .paused, statusReason := some reason }) ∨
        after = .returned) :
      Steps (.stop reason restarting (.charged loaded)) (world.pauseRow loaded reason) after
  /-- A running session is paused first, its transition being allowed. -/
  | restarted (running : world.row.status = .running) :
      Steps .restart world (.stop .userStopped true (.checked world.row env.now))
  | resumed {after : SessionCall} (onward : after = .start .called ∨ after = .returned) :
      Steps .restart world after
  | terminate {reason : Reason} {point : TerminatePoint} :
      Steps (.terminate reason point) (world.terminate reason env point).1
        ((world.terminate reason env point).2.elim .returned (.terminate reason))
  | callback {event : StatusEvent} : Steps (.callback event) (world.onStatus event env) .returned
  | cancel : Steps .cancel (world.cancel env) .returned
  | tick {point : TickPoint} :
      Steps (.tick point) (world.tick env point).1
        ((world.tick env point).2.elim .returned .tick)
  | promote {point : PromotePoint} :
      Steps (.promote point) (world.promote env point).1
        ((world.promote env point).2.elim .returned .promote)

theorem steps_of_next (taken : call.next world env = some (next, after)) : call.Steps world env next after := by
  cases call with
  | start point =>
    cases taken
    exact .start
  | stop reason restarting point =>
    cases point with
    | called =>
      simp only [SessionCall.next] at taken
      split_ifs at taken with young allowed <;> cases taken
      · exact .abandoned young
      · exact .checked allowed
      · exact .refused
    | checked loaded now =>
      cases taken
      split_ifs
      · exact .patched
      · exact .unpatched
    | patched loaded now =>
      cases taken
      exact .charged
    | charged loaded =>
      cases taken
      refine .paused ?_
      split_ifs
      · exact .inl rfl
      · exact .inr rfl
  | restart =>
    simp only [SessionCall.next] at taken
    split at taken <;> cases taken
    · exact .restarted (by assumption)
    · exact .resumed (.inl rfl)
    · exact .resumed (.inr rfl)
  | terminate reason point =>
    cases taken
    exact .terminate
  | callback event =>
    cases taken
    exact .callback
  | cancel =>
    cases taken
    exact .cancel
  | tick point =>
    cases taken
    exact .tick
  | promote point =>
    cases taken
    exact .promote
  | returned => cases taken

end SessionCall

variable {store next : Admission}

theorem Admission.beside_cases {change : Beside} (taken : store.beside change = some next) :
    (∃ env world point, store.world.create env store.creating = some (world, point) ∧
      next = ⟨world, point⟩) ∨
    ∃ entry : ForeignWrite, entry.Unrelated store.world.row.id ∧
      next = ⟨{ store.world with
        ledger := store.world.ledger.post entry.wallet entry.row entry.type entry.amount entry.ref
          entry.key entry.stamp }, store.creating⟩ := by
  cases change with
  | create env =>
    simp only [beside, map_eq_some_iff] at taken
    obtain ⟨⟨world, point⟩, created, rfl⟩ := taken
    exact .inl ⟨env, world, point, created, rfl⟩
  | write entry =>
    simp only [beside] at taken
    split_ifs at taken with unrelated
    cases taken
    exact .inr ⟨entry, unrelated, rfl⟩

/-- A step of a call changes the session and leaves its admission where it is. -/
theorem sessionProgram_next {place : ℕ} {after : SessionCall} {env : Env}
    (taken : sessionProgram.next place store call env = some (next, after)) :
    ∃ world, call.next store.world env = some (world, after) ∧ next = { store with world := world } := by
  simp only [sessionProgram, map_eq_some_iff] at taken
  obtain ⟨⟨world, _⟩, stepped, same⟩ := taken
  cases same
  exact ⟨world, stepped, rfl⟩

end GShare.Model
