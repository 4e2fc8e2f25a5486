import GShare.Proofs.Session.Scheduler
import GShare.Soundness.Samples

/-! # Whether an ended session stays ended

`start` and `stop` look at the status in one transaction and write theirs in a later one, without
looking again; a restart resumes on what its pause has written. Every other write of a status is decided
in its own transaction. So the end of a session is for good exactly as far as it is not committed between
the look and the write of such a call.
-/

namespace GShare.Model

open Status SessionCall World

variable {world next : World} {env : Env} {call after : SessionCall}

namespace SessionCall

/-- The call has looked at the status and has yet to write its own. -/
def aboutToWrite : SessionCall → Bool
  | .start (.again _) | .start (.checked ..) | .start .reclaimed => true
  | .stop _ _ (.checked ..) | .stop _ _ (.patched ..) | .stop _ _ (.charged _) => true
  | _ => false

/-- The next transaction of the call commits the end of the session. -/
def ends (world : World) (env : Env) : SessionCall → Bool
  | .terminate _ (.settled ..) => true
  | .cancel => world.queued && (world.row.status == .pending || world.row.status == .preparing)
  | .callback event => event.phase == .terminated && !world.dropped event env
  | _ => false

theorem aboutToWrite_of_isEntry {call : SessionCall} (entry : call.isEntry) : call.aboutToWrite = false := by
  cases call with
  | start point => cases point <;> first | rfl | cases entry
  | stop reason restarting point => cases restarting <;> cases point <;> first | rfl | cases entry
  | _ => rfl

/-- Who commits an end has nothing left to write over it. -/
theorem not_aboutToWrite_of_ends (ends : call.ends world env)
    (taken : call.next world env = some (next, after)) : after.aboutToWrite = false := by
  cases call with
  | terminate reason point =>
    cases point <;> cases ends
    cases taken
    rfl
  | cancel | callback event => cases taken; rfl
  | start point | tick point | promote point => cases ends
  | stop reason restarting point => cases ends
  | restart | returned => cases ends

end SessionCall

variable {reason : Reason} {event : StatusEvent} {loaded : Session} {point : StartPoint}

namespace World

theorem onStatus_terminated (ended : (world.onStatus event env).row.status = .terminated) :
    world.row.status = .terminated ∨ (callback event).ends world env := by
  cases kept : world.dropped event env with
  | true =>
    rw [onStatus, if_pos kept] at ended
    exact .inl ended
  | false =>
    cases world.onStatus_reported event env with
    | ignored becomes => exact .inl (becomes.status.symm.trans ended)
    | interim status forward becomes =>
      rcases forward with ⟨rfl, _⟩ | ⟨rfl, _⟩ <;> cases becomes.status.symm.trans ended
    | paused live inProgress vacates becomes | running ledger inProgress charged becomes =>
      cases becomes.status.symm.trans ended
    | ended status reports becomes =>
      have reached := becomes.status.symm.trans ended
      split_ifs at reached
      · exact .inl reached
      · subst reached
        rcases reports with ⟨_, phase⟩ | ⟨⟨⟩, _⟩
        exact .inr (by simp [ends, phase, kept])

theorem onStatus_of_terminated (ended : world.row.status = .terminated) :
    (world.onStatus event env).row.status = .terminated := by
  have finished : ¬world.InProgress := by simp [InProgress, ended]
  cases world.onStatus_reported event env with
  | ignored becomes => exact becomes.status.trans ended
  | interim status forward becomes => simp [ended] at forward
  | paused live inProgress vacates becomes | running ledger inProgress charged becomes =>
    exact (finished inProgress).elim
  | ended status reports becomes => exact becomes.status.trans (by simp [ended, isFinal])

theorem resnapshot_status (loaded : Session) : (world.resnapshot loaded env).row.status = world.row.status := by
  unfold resnapshot
  split_ifs <;> rfl

theorem start_terminated (ended : (world.start env point).1.row.status = .terminated) :
    world.row.status = .terminated := by
  rcases (start_leaves world env point).status with same | running
  · exact same.symm.trans ended
  · cases running.symm.trans ended

theorem start_of_terminated (unchecked : (SessionCall.start point).aboutToWrite = false)
    (ended : world.row.status = .terminated) : (world.start env point).1.row.status = .terminated ∧
      (resume .start (world.start env point)).2.aboutToWrite = false := by
  cases point with
  | called => simp [start, admitStart, ended, assertTransition, allowedTransitions,
      resume, aboutToWrite]
  | again loaded | checked loaded yieldResume | reclaimed => cases unchecked
  | resumed loaded => exact ⟨(resnapshot_status loaded).trans ended, rfl⟩
  | priced =>
    refine ⟨ended, ?_⟩
    simp only [start, resume]
    split_ifs <;> rfl
  | patched generation | marked => exact ⟨ended, rfl⟩

theorem claim_terminated
    (ended : (world.claim reason env).1.row.status = .terminated) : world.row.status = .terminated := by
  rcases taken : world.claim reason env with ⟨next, after⟩
  rcases claim_cases taken with ⟨done, _⟩ | ⟨_, ⟨_, rfl⟩, _⟩
  · exact done
  · simp [taken] at ended

variable {point : TerminatePoint}

theorem terminate_terminated
    (ended : (world.terminate reason env point).1.row.status = .terminated) :
    world.row.status = .terminated ∨ (SessionCall.terminate reason point).ends world env := by
  cases point with
  | called => exact .inl (claim_terminated ended)
  | claimed loaded prior now => exact .inl ended
  | released loaded prior now => exact .inl (by simpa [terminate] using ended)
  | settled loaded now => exact .inr rfl
  | ended => exact .inl ended

theorem terminate_of_terminated (ended : world.row.status = .terminated) :
    (world.terminate reason env point).1.row.status = .terminated := by
  cases point with
  | called => simp [terminate, claim, ended]
  | claimed loaded prior now => exact ended
  | released loaded prior now => simp [terminate, ended]
  | settled loaded now =>
    rcases stored_cases loaded.status .terminated world.row.status with written | kept
    · exact written
    · exact kept.trans ended
  | ended => exact ended

theorem tick_row {point : TickPoint} : (world.tick env point).1.row = world.row := by
  cases point <;> simp [tick]

theorem promote_status_terminated {point : PromotePoint} :
    (world.promote env point).1.row.status = .terminated ↔ world.row.status = .terminated := by
  cases point with
  | called =>
    rcases taken : world.promote env .called with ⟨next, after⟩
    rcases promote_called taken with ⟨rfl, _⟩ | ⟨_, rfl, _⟩ | ⟨kind, total, _, _, allocated, _⟩
    · rfl
    · rfl
    · rw [allocated.next_eq]
  | reserved | applied => rfl

theorem create_status_terminated {point after : CreatePoint} {next : World}
    (taken : world.create env point = some (next, after)) :
    next.row.status = .terminated ↔ world.row.status = .terminated := by
  cases create_created taken with
  | moved | held | enqueued => rfl
  | occupied acquires allocated => rw [allocated.next_eq]
  | released reason =>
    rw [releaseReservation_status]
    split_ifs with young
    · rcases young with young | young <;> simp [young]
    · rfl
  | refunded loaded => simp

theorem pauseRow_terminated (ended : (world.pauseRow loaded reason).row.status = .terminated) :
    world.row.status = .terminated := by
  rcases stored_cases loaded.status .paused world.row.status with written | kept
  · cases written.symm.trans ended
  · exact kept.symm.trans ended

end World

namespace SessionCall

section

variable (taken : call.next world env = some (next, after))

include taken

theorem next_terminated (ended : next.row.status = .terminated) :
    world.row.status = .terminated ∨ call.ends world env := by
  cases steps_of_next taken with
  | start => exact .inl (start_terminated ended)
  | abandoned => exact .inl (claim_terminated ended)
  | checked | refused | patched | unpatched | restarted | resumed => exact .inl ended
  | charged => exact .inl (by simpa using ended)
  | paused => exact .inl (pauseRow_terminated ended)
  | terminate => exact terminate_terminated ended
  | callback => exact onStatus_terminated ended
  | cancel =>
    simp only [World.cancel] at ended
    split_ifs at ended with cancels
    · exact .inr (by simpa [ends] using cancels)
    · exact .inl ended
  | tick => exact .inl (tick_row ▸ ended)
  | promote => exact .inl (promote_status_terminated.mp ended)

theorem next_of_terminated (unchecked : call.aboutToWrite = false) (ended : world.row.status = .terminated) :
    next.row.status = .terminated ∧ after.aboutToWrite = false := by
  have notAbout {Point : Type} {wrap : Point → SessionCall} {onward : Option Point}
      (calm : ∀ point, (wrap point).aboutToWrite = false) :
      (onward.elim .returned wrap).aboutToWrite = false := by
    cases onward with
    | none => rfl
    | some point => exact calm point
  cases steps_of_next taken with
  | start => exact start_of_terminated unchecked ended
  | abandoned young => simp [ended] at young
  | checked allowed => simp [ended, assertTransition, allowedTransitions] at allowed
  | refused => exact ⟨ended, rfl⟩
  | patched | unpatched | charged | paused => cases unchecked
  | restarted running => simp [ended] at running
  | resumed onward => rcases onward with rfl | rfl <;> exact ⟨ended, rfl⟩
  | terminate => exact ⟨terminate_of_terminated ended, notAbout fun _ => rfl⟩
  | callback => exact ⟨onStatus_of_terminated ended, rfl⟩
  | cancel =>
    refine ⟨?_, rfl⟩
    rw [World.cancel, if_neg (by simp [ended])]
    exact ended
  | tick => exact ⟨(congrArg Session.status tick_row).trans ended, notAbout fun _ => rfl⟩
  | promote => exact ⟨promote_status_terminated.mpr ended, notAbout fun _ => rfl⟩

end

end SessionCall

end GShare.Model

namespace GShare.Soundness.Terminal

open GShare.Model Machine Samples SessionCall

/-- The end of the session is committed only while no call is about to write a status it decided on
earlier. -/
def EndsAlone (pool : Pool Admission SessionCall) : Action SessionCall Env Beside → Prop
  | .advance index env => ∀ call ∈ pool.calls[index]?, call.ends pool.store.world env →
      ∀ other ∈ pool.calls, other.aboutToWrite = false
  | _ => True

def Unthreatened (store : Admission) (_ : ℕ) (call : SessionCall) : Prop :=
  call.aboutToWrite → store.world.row.status ≠ .terminated

variable {store next : Admission} {change : Beside}

theorem beside_terminated (taken : store.beside change = some next) :
    next.world.row.status = .terminated ↔ store.world.row.status = .terminated := by
  rcases Admission.beside_cases taken with ⟨env, world, point, created, rfl⟩ | ⟨entry, _, rfl⟩
  · exact World.create_status_terminated created
  · rfl

/-- Whatever holds of the end, no call threatens it. -/
theorem keeps_unthreatened : sessionProgram.Keeps EndsAlone (fun _ => True) Unthreatened where
  enter pool call _ entry _ about := by
    rw [aboutToWrite_of_isEntry entry] at about
    cases about
  own pool index env call store after meets found taken _ calm := by
    refine ⟨trivial, fun about ended => ?_⟩
    obtain ⟨world, stepped, rfl⟩ := sessionProgram_next taken
    rcases next_terminated stepped ended with already | ends
    · have unchecked : call.aboutToWrite = false := by
        by_contra checked
        exact calm (Bool.not_eq_false _ ▸ checked) already
      rw [(next_of_terminated stepped unchecked already).2] at about
      cases about
    · rw [not_aboutToWrite_of_ends ends stepped] at about
      cases about
  others pool index env call store after other bystander meets found taken _ _ _ member calm := by
    intro about ended
    obtain ⟨world, stepped, rfl⟩ := sessionProgram_next taken
    rcases next_terminated stepped ended with already | ends
    · exact calm about already
    · have unchecked := meets call found ends bystander (List.mem_of_getElem? member)
      rw [unchecked] at about
      cases about
  outside pool change store _ taken _ :=
    ⟨trivial, fun _ _ calm about ended => calm about ((beside_terminated taken).mp ended)⟩

theorem keeps_terminated :
    sessionProgram.Keeps EndsAlone (fun store => store.world.row.status = .terminated)
      (fun _ _ call => call.aboutToWrite = false) where
  enter pool call _ entry _ := aboutToWrite_of_isEntry entry
  own pool index env call store after _ _ taken ended unchecked := by
    obtain ⟨world, stepped, rfl⟩ := sessionProgram_next taken
    exact next_of_terminated stepped unchecked ended
  others pool index env call store after other bystander _ _ _ _ _ _ _ unchecked := unchecked
  outside pool change store _ taken ended :=
    ⟨(beside_terminated taken).mpr ended, fun _ _ => id⟩

instance (pool : Pool Admission SessionCall) (action : Action SessionCall Env Beside) :
    Decidable (EndsAlone pool action) := by
  rcases action <;> unfold EndsAlone <;> infer_instance

def runningAlone : Pool Admission SessionCall :=
  ⟨⟨worldOf (wholeCard 1 600) (some .resident), .created⟩, []⟩

/-- The call at `place` takes `count` transactions an hour into the run. -/
def advances (place count : ℕ) : List (Action SessionCall Env Beside) :=
  List.replicate count (.advance place (granted (3600 * second)))

/-- A pause takes `count` transactions and then a termination runs through. -/
def terminatedDuringStop (count : ℕ) : List (Action SessionCall Env Beside) :=
  .enter (.stop .userStopped false .called) :: .enter (.terminate .userStopped .called)
    :: advances 0 count ++ advances 1 5

end GShare.Soundness.Terminal
