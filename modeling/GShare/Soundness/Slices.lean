import GShare.Proofs.Session.Lifecycle
import GShare.Proofs.Session.Scheduler
import GShare.Soundness.Samples

/-! # Status and slice of one session

With one operation on a GPU session at a time, a running session holds a slice and one that is over, or
paused with its pod gone, holds none. Three things break this: a demotion gives up a resident allocation
only, and leaves a borrowed one to a session that is cold from then on; a report that the operator kept
the pod leaves the slice to a session whose pause is a cold one; and a promotion whose handoff is refused
leaves a slice to the queued session, which a cancellation does not release.
-/

namespace GShare.Model.World

variable {world : World} {event : StatusEvent} {env : Env}

theorem onRunning_not_paused (unpaused : world.row.status ≠ .paused) :
    (world.onRunning event env).row.status ≠ .paused := by
  unfold onRunning
  split_ifs
  · exact unpaused
  · dsimp only
    split_ifs <;> simp

theorem endSession_not_paused {status : Status} {reason : Option Reason} {ts : ℤ}
    (ends : status ≠ .paused) (unpaused : world.row.status ≠ .paused) :
    (world.endSession (endedRow world.row status reason ts) env).row.status ≠ .paused := by
  simp only [endSession, settleBillable_row, endedRow]
  split_ifs
  · exact unpaused
  · exact ends

theorem reflectPhase_not_paused {terminating : Bool} (unpaused : world.row.status ≠ .paused) :
    (world.reflectPhase terminating event).row.status ≠ .paused := by
  simp only [reflectPhase]
  split_ifs
  · decide
  · exact unpaused
  · decide
  · exact unpaused

/-- Only a report of a pause pauses a session. -/
theorem handle_not_paused (unpaused : world.row.status ≠ .paused) (other : event.phase ≠ .paused) :
    (world.handle event env).row.status ≠ .paused := by
  have noted {effect : World → World}
      (each : ∀ start : World, start.row.status ≠ .paused → (effect start).row.status ≠ .paused) :
      (effect (if event.restartCount.isSome then world.heartbeat event env else world)).row.status
        ≠ .paused := by
    split_ifs
    · exact each _ unpaused
    · exact each _ unpaused
  unfold handle
  cases phase : event.phase with
  | paused => exact absurd phase other
  | idlewarning => exact unpaused
  | heartbeat =>
    have seen : (world.heartbeat event env).row.status ≠ .paused := unpaused
    dsimp only
    split_ifs
    · exact endSession_not_paused (by decide) seen
    · exact onRunning_not_paused seen
    · exact seen
  | running => exact noted fun _ => onRunning_not_paused
  | terminated | error => exact noted fun _ => endSession_not_paused (by decide)
  | preparing | terminating => exact noted fun _ => reflectPhase_not_paused
  | pending | other => exact noted fun _ => id

/-- A report that pauses the session takes its slice, unless the operator kept the pod. -/
theorem onStatus_paused (unpaused : world.row.status ≠ .paused)
    (pauses : (world.onStatus event env).row.status = .paused) :
    event.phase = .paused ∧ ((world.onStatus event env).live = none ∨ event.yielded) := by
  unfold onStatus at pauses ⊢
  split_ifs at pauses ⊢
  · exact absurd pauses unpaused
  · have phase : event.phase = .paused := by
      by_contra other
      exact handle_not_paused unpaused other pauses
    refine ⟨phase, ?_⟩
    cases yielded : event.yielded with
    | true => exact .inr rfl
    | false =>
      refine .inl ?_
      cases status : world.row.status with
      | pending | preparing | running => simp [handle, phase, status, onPaused, yielded, releaseAllocation]
      | paused => exact absurd status unpaused
      | terminating | terminated | error =>
        simp only [handle, phase, status] at pauses
        cases pauses

end GShare.Model.World

namespace GShare.Soundness.Slices

open GShare.Model Machine Samples World Status

/-- What the operations have to agree on: the row, and whether there is a slice. -/
structure View where
  row : Session
  held : Bool

def viewOf (world : World) : View := ⟨world.row, world.live.isSome⟩

structure Agrees (view : View) : Prop where
  gpu : view.row.resourceClass = .gpu
  running : view.row.status = .running → view.held
  ended : view.row.status.isFinal → view.held = false
  cold : view.row.status = .paused → view.row.pauseMode = .cold → view.held = false

/-- A session under admission, without a slice while one is looked for. -/
structure Admitted (view : View) (point : CreatePoint) : Prop where
  gpu : view.row.resourceClass = .gpu
  pending : view.row.status = .pending
  searching : point.searching → view.held = false

structure Claimed (view : View) (loaded : Session) : Prop where
  gpu : view.row.resourceClass = .gpu
  status : view.row.status = .terminating
  loaded : loaded.status = .terminating

/-- What holds while a call on the session is in progress. -/
def FitsCall (view : View) : SessionCall → Prop
  | .start (.checked loaded yieldResume) =>
    Agrees view ∧ loaded = view.row ∧ (yieldResume → view.held)
  | .start .reclaimed => Agrees view ∧ view.held
  | .start (.again loaded) | .stop _ _ (.checked loaded _) | .stop _ _ (.patched loaded _)
  | .stop _ _ (.charged loaded) =>
    Agrees view ∧ loaded = view.row
  | .terminate _ (.claimed loaded _ _) => Claimed view loaded
  | .terminate _ (.released loaded _ _) | .terminate _ (.settled loaded _) =>
    Claimed view loaded ∧ view.held = false
  | _ => Agrees view

/-- What holds while an operation on the session is in progress. -/
def Fits (view : View) : Operation → Prop
  | .create point =>
    match point with
    | .refunding _ | .created => Agrees view
    | point => Admitted view point
  | .call call => FitsCall view call
  | .enforce _ point =>
    Agrees view ∧ (point = .chosen → view.row.status = .paused ∧ view.row.pauseMode = .yield)

/-- A demotion meets no borrowed slice, a cancellation no slice at all, and the operator keeps the pod only of
a session whose pause mode is a yield. -/
def Careful (world : World) : Operation → Prop
  | .enforce _ .chosen => world.live ≠ some .spot
  | .call .cancel => world.queued → world.row.status.isYoung → world.live = none
  | .call (.callback event) =>
    event.phase = .paused → event.yielded → world.row.pauseMode = .yield ∨ world.live = none
  | _ => True

def KeepsSlice (turn : Turn World Operation) : Move Operation Env Unit → Prop
  | .proceed _ => ∀ operation ∈ turn.current, Careful turn.store operation
  | .enter _ | .outside _ => True

/-- One operation on the session at a time; meanwhile the demotion of somebody else may turn a borrowed
slice into one of the session's own. -/
def sliceProgram : Program World Operation Env Unit :=
  lifecycleProgram Operation.isEntry fun world _ =>
    some { world with live := world.live.map fun _ => .resident }

instance : DecidablePred sliceProgram.entry :=
  fun operation => inferInstanceAs (Decidable (operation.isEntry))

section Agreement

variable {view : View} (gpu : view.row.resourceClass = .gpu)
include gpu

theorem Agrees.of_running (running : view.row.status = .running) (held : view.held) : Agrees view where
  gpu := gpu
  running _ := held
  ended final := by rw [running] at final; cases final
  cold paused := by rw [running] at paused; cases paused

theorem Agrees.of_vacant (idle : view.row.status ≠ .running) (free : view.held = false) : Agrees view where
  gpu := gpu
  running running := absurd running idle
  ended _ := free
  cold _ _ := free

/-- A yielded pause goes with a slice or without. -/
theorem Agrees.of_yielded (paused : view.row.status = .paused) (yields : view.row.pauseMode = .yield) :
    Agrees view where
  gpu := gpu
  running running := by cases paused.symm.trans running
  ended final := by rw [paused] at final; cases final
  cold _ cold := by cases yields.symm.trans cold

theorem Agrees.of_passing (passing : (view.row.status = .pending ∨ view.row.status = .preparing) ∨
    view.row.status = .terminating) : Agrees view := by
  rcases passing with (status | status) | status <;>
    exact ⟨gpu, by simp [status], by simp [status, isFinal], by simp [status]⟩

end Agreement

variable {reason : Reason}

section Steps

variable {world next : World} {env : Env}

@[simp] theorem viewOf_consume (world : World) (loaded : Session) (time : ℤ) (env : Env) :
    viewOf (world.consume loaded time env) = viewOf world := by
  simp [viewOf]

@[simp] theorem viewOf_settleBillable (world : World) (loaded : Session) (final : Bool) (env : Env) :
    viewOf (world.settleBillable loaded final env) = viewOf world := by
  simp [viewOf]

/-- A failed reservation is released, and a session that never started is over. -/
theorem agrees_release {reason : Option Reason} (gpu : world.row.resourceClass = .gpu)
    (pending : world.row.status = .pending) : Agrees (viewOf (world.releaseReservation reason)) := by
  refine .of_vacant ?_ ?_ ?_
  · exact (world.releaseReservation_terms reason).resourceClass.trans gpu
  · simp [viewOf, releaseReservation_status, pending]
  · simp [viewOf]

theorem fits_create {point after : CreatePoint} (taken : world.create env point = some (next, after))
    (fits : Fits (viewOf world) (.create point)) : Fits (viewOf next) (.create after) := by
  have admitted (open_ : point.isRefunding = false) : Admitted (viewOf world) point := by
    cases point with
    | refunding loaded => cases open_
    | created => cases taken
    | _ => exact fits
  cases create_created taken with
  | moved running acquires searches forward =>
    obtain ⟨gpu, pending, free⟩ := admitted running
    cases after with
    | refunding loaded => cases forward
    | created => exact .of_passing gpu (.inl (.inl pending))
    | _ => exact ⟨gpu, pending, fun searching => free (searches searching)⟩
  | held billed success forward =>
    obtain ⟨gpu, pending, free⟩ := admitted rfl
    rcases forward with rfl | rfl
    · exact ⟨gpu, pending, fun searching => by cases searching⟩
    · exact ⟨gpu, pending, fun _ => free rfl⟩
  | occupied acquires allocated =>
    have open_ : point.isRefunding = false := by cases point <;> first | rfl | cases acquires
    obtain ⟨gpu, pending, -⟩ := admitted open_
    rw [allocated.next_eq]
    exact ⟨gpu, pending, fun searching => by cases searching⟩
  | enqueued =>
    obtain ⟨gpu, pending, free⟩ := admitted rfl
    exact .of_vacant gpu (Eq.trans_ne pending (by decide)) (free rfl)
  | released reason =>
    obtain ⟨gpu, pending, -⟩ := admitted rfl
    exact agrees_release gpu pending
  | refunded loaded =>
    rw [viewOf_settleBillable]
    exact fits

theorem fits_claim (agrees : Agrees (viewOf world)) : FitsCall (viewOf (world.claim reason env).1)
      ((world.claim reason env).2.elim .returned (.terminate reason)) := by
  rcases taken : world.claim reason env with ⟨next, after⟩
  rcases claim_cases taken with ⟨_, rfl, rfl⟩ | ⟨_, ⟨given, rfl⟩, rfl⟩
  · exact agrees
  · exact ⟨agrees.gpu, rfl, rfl⟩

theorem fits_terminate {point : TerminatePoint} (fits : FitsCall (viewOf world) (.terminate reason point)) :
    FitsCall (viewOf (world.terminate reason env point).1)
      ((world.terminate reason env point).2.elim .returned (.terminate reason)) := by
  cases point with
  | called => exact fits_claim fits
  | claimed loaded prior now => exact ⟨⟨fits.gpu, fits.status, fits.loaded⟩, rfl⟩
  | released loaded prior now =>
    simp only [terminate, viewOf_settleBillable]
    exact fits
  | settled loaded now =>
    obtain ⟨claimed, free⟩ := fits
    refine .of_vacant claimed.gpu ?_ free
    change stored loaded.status .terminated world.row.status ≠ .running
    rw [claimed.loaded, stored, if_neg (by decide)]
    decide
  | ended => exact fits

/-- The write of a resume over an undisturbed row, with a slice. -/
theorem agrees_resumeRow {now : ℤ} (gpu : world.row.resourceClass = .gpu) (held : world.live.isSome)
    {loaded : Session} (same : loaded.status = world.row.status) :
    Agrees (viewOf { world with row := resumeRow loaded world.row now }) := by
  refine .of_running gpu ?_ held
  change stored loaded.status .running world.row.status = .running
  rw [same, stored_self]

theorem fits_start {point : StartPoint} (fits : FitsCall (viewOf world) (.start point)) :
    FitsCall (viewOf (world.start env point).1) ((world.start env point).2.elim .returned .start) := by
  cases point with
  | called =>
    simp only [start, admitStart]
    split_ifs
    · exact fits
    · exact ⟨fits, rfl, fun yields => (Bool.and_eq_true_iff.mp yields).2⟩
  | again loaded =>
    simp only [start, admitStart]
    split_ifs
    · exact fits.1
    · exact ⟨fits.1, fits.2, fun yields => (Bool.and_eq_true_iff.mp yields).2⟩
  | checked loaded yieldResume =>
    obtain ⟨agrees, rfl, yields⟩ := fits
    have gpu : world.row.resourceClass = .gpu := agrees.gpu
    cases yieldResume with
    | true =>
      simp only [start, if_true]
      split_ifs
      · exact ⟨agrees, yields rfl⟩
      · exact agrees
    | false =>
      simp only [start, viewOf, gpu, if_true, Bool.false_eq_true, if_false]
      split
      · exact agrees
      · rename_i reserved success
        obtain ⟨total, _, success⟩ := Option.bind_eq_some_iff.mp success
        have allocated := allocate_eq_some success
        have kept : reserved.row.resourceClass = .gpu ∧ reserved.live.isSome ∧
            world.row.status = reserved.row.status := by
          rw [allocated.next_eq]
          exact ⟨gpu, rfl, rfl⟩
        exact agrees_resumeRow kept.1 kept.2.1 kept.2.2
  | reclaimed => exact agrees_resumeRow fits.1.gpu fits.2 rfl
  | resumed loaded =>
    have kept : Agrees (viewOf (world.resnapshot loaded env)) := by
      unfold resnapshot
      split_ifs <;> exact ⟨fits.gpu, fits.running, fits.ended, fits.cold⟩
    exact kept
  | priced =>
    simp only [start]
    split_ifs <;> exact fits
  | patched generation | marked => exact fits

section

variable (agrees : Agrees (viewOf world))

include agrees

theorem agrees_pauseRow : Agrees (viewOf (world.pauseRow world.row reason)) := by
  have gpu : world.row.resourceClass = .gpu := agrees.gpu
  have paused : (world.pauseRow world.row reason).row.status = .paused := stored_self ..
  cases mode : world.row.pauseMode with
  | yield => exact .of_yielded gpu paused mode
  | cold =>
    refine .of_vacant gpu (Eq.trans_ne paused (by decide)) ?_
    simp [viewOf, pauseRow, mode, releaseAllocation]

/-- A report, if it keeps the pod of no cold session. -/
theorem agrees_onStatus {event : StatusEvent} (careful : Careful world (.call (.callback event))) :
    Agrees (viewOf (world.onStatus event env)) := by
  have unpaused (inProgress : world.InProgress) : world.row.status ≠ .paused := by
    rcases inProgress with status | status | status <;> rw [status] <;> decide
  have leaves := @onStatus_leaves world event env
  have reported := world.onStatus_reported event env
  generalize arrived : world.onStatus event env = next at leaves reported ⊢
  cases reported with
  | ignored becomes =>
    have same : (viewOf next).held = (viewOf world).held := congrArg Option.isSome becomes.live
    refine ⟨becomes.terms.resourceClass.trans agrees.gpu, ?_, ?_, ?_⟩ <;> rw [same] <;>
      simp only [viewOf, becomes.status, leaves.pauseMode]
    · exact agrees.running
    · exact agrees.ended
    · exact agrees.cold
  | interim status forward becomes =>
    have gpu : next.row.resourceClass = .gpu := becomes.terms.resourceClass.trans agrees.gpu
    rcases forward with ⟨rfl, _⟩ | ⟨rfl, _⟩
    · exact .of_passing gpu (.inl (.inr becomes.status))
    · exact .of_passing gpu (.inr becomes.status)
  | paused live inProgress vacates becomes =>
    have gpu : next.row.resourceClass = .gpu := becomes.terms.resourceClass.trans agrees.gpu
    have vacant (free : next.live = none) : Agrees (viewOf next) :=
      .of_vacant gpu (Eq.trans_ne becomes.status (by decide)) (by simp [viewOf, free])
    obtain ⟨phase, kept⟩ := onStatus_paused (unpaused inProgress) (arrived ▸ becomes.status)
    rw [arrived] at kept
    rcases kept with free | yielded
    · exact vacant free
    · rcases careful phase yielded with yields | free
      · exact .of_yielded gpu becomes.status (leaves.pauseMode.trans yields)
      · refine vacant (becomes.live.trans ?_)
        rcases vacates with gone | same
        · exact gone
        · exact same.trans free
  | running ledger inProgress charged becomes =>
    refine .of_running (becomes.terms.resourceClass.trans agrees.gpu) becomes.status ?_
    have gpu : world.row.resourceClass = .gpu := agrees.gpu
    simp only [viewOf, becomes.live, ensureAllocation, gpu]
    cases world.live <;> rfl
  | ended status reports becomes =>
    have final : next.row.status.isFinal :=
      becomes.status ▸ isFinal_ite (reports.imp And.left And.left)
    refine .of_vacant (becomes.terms.resourceClass.trans agrees.gpu) ?_ (by simp [viewOf, becomes.live])
    intro running
    cases final.symm.trans (congrArg isFinal running)

theorem agrees_cancel (careful : Careful world (.call .cancel)) : Agrees (viewOf (world.cancel env)) := by
  unfold cancel
  split_ifs with cancels
  · have vacant : world.live = none := careful cancels.1 ((isYoung_iff _).mpr cancels.2)
    exact .of_vacant agrees.gpu (by simp [viewOf]) (congrArg Option.isSome vacant)
  · exact agrees

end

theorem viewOf_tick {point : TickPoint} : viewOf (world.tick env point).1 = viewOf world := by
  cases point with
  | called | listed now => rfl
  | loaded sess now => exact viewOf_consume ..

theorem fits_promote {point : PromotePoint} (fits : FitsCall (viewOf world) (.promote point)) :
    FitsCall (viewOf (world.promote env point).1) ((world.promote env point).2.elim .returned .promote) := by
  cases point with
  | called =>
    rcases taken : world.promote env .called with ⟨next, after⟩
    rcases promote_called taken with
      ⟨rfl, rfl⟩ | ⟨_, rfl, rfl⟩ | ⟨kind, total, _, pending, allocated, rfl⟩
    · exact fits
    · exact fits
    · rw [allocated.next_eq]
      exact .of_passing fits.gpu (.inl (.inl pending))
  | reserved =>
    simp only [promote]
    split_ifs <;> exact fits
  | applied => exact fits

theorem fits_call {call after : SessionCall} (taken : call.next world env = some (next, after))
    (careful : Careful world (.call call)) (fits : FitsCall (viewOf world) call) :
    FitsCall (viewOf next) after := by
  cases SessionCall.steps_of_next taken with
  | start => exact fits_start fits
  | abandoned => exact fits_claim fits
  | checked | restarted => exact ⟨fits, rfl⟩
  | refused | patched => exact fits
  | unpatched => exact fits.1
  | charged =>
    rw [viewOf_consume]
    exact fits
  | paused onward =>
    obtain ⟨agrees, rfl⟩ := fits
    rcases onward with rfl | rfl
    · exact ⟨agrees_pauseRow agrees, by simp [viewOf, pauseRow]⟩
    · exact agrees_pauseRow agrees
  | resumed onward =>
    rcases onward with rfl | rfl <;> exact fits
  | terminate => exact fits_terminate fits
  | callback => exact agrees_onStatus fits careful
  | cancel => exact agrees_cancel fits careful
  | @tick point =>
    simp only [viewOf_tick]
    rcases (world.tick env point).2 with _ | onward <;> exact fits
  | promote => exact fits_promote fits

/-- A demotion of a session that borrows nothing leaves it without a slice. -/
theorem agrees_demote (agrees : Agrees (viewOf world)) (paused : world.row.status = .paused)
    (own : world.live ≠ some .spot) : Agrees (viewOf world.demote) := by
  refine .of_vacant agrees.gpu (Eq.trans_ne paused (by decide)) ?_
  simp only [viewOf, demote]
  rcases held : world.live with _ | _ | _
  · rfl
  · rfl
  · exact absurd held own

theorem fits_operation {operation after : Operation}
    (taken : operation.next world env = some (next, after)) (careful : Careful world operation)
    (fits : Fits (viewOf world) operation) : Fits (viewOf next) after := by
  cases Operation.steps_of_next taken with
  | create created => exact fits_create created fits
  | call stepped => exact fits_call stepped careful fits
  | passed idle onward => rcases onward with rfl | rfl <;> exact fits.1
  | chosen paused yields => exact ⟨fits.1, fun _ => ⟨paused, yields⟩⟩
  | demoted =>
    exact ⟨agrees_demote fits.1 (fits.2 rfl).1 careful, fun impossible => by cases impossible⟩
  | told idle => exact fits.1

end Steps

theorem keeps_agrees : sliceProgram.KeepsTurns Operation.finished KeepsSlice
    (fun world => Agrees (viewOf world)) (fun world operation => Fits (viewOf world) operation) where
  enter world operation enters agrees := by
    cases Operation.begins_of_isEntry enters with
    | enforce pass => exact ⟨agrees, fun impossible => by cases impossible⟩
    | start | stop | restart | terminate | callback | cancel | tick | promote => exact agrees
  own world operation env next after meets taken fits := by
    have onward := fits_operation taken (meets operation rfl) fits
    split_ifs with ends
    · rcases Operation.finished_cases ends with rfl | rfl <;> exact onward
    · exact onward
  outside world _ next changed := by
    cases changed
    -- Whose slice it is does not matter here.
    have same : viewOf { world with live := world.live.map fun _ => .resident } = viewOf world := by
      simp [viewOf]
    rw [same]
    exact ⟨id, fun _ => id⟩

/-- Whenever no operation on a GPU session is in progress, a running session holds a slice, and one that
is over or paused with its pod gone holds none; a resume of the latter finds the unique index free. -/
theorem status_slice_agree {first last : Turn World Operation} {moves : List (Move Operation Env Unit)}
    (creating : first.current = some (.create .validating)) (gpu : first.store.row.resourceClass = .gpu)
    (pending : first.store.row.status = .pending) (vacant : first.store.live = none)
    (run : Run (sliceProgram.turn Operation.finished) KeepsSlice first moves last) (idle : last.current = none) :
    (last.store.row.status = .running → last.store.live.isSome) ∧
    (last.store.row.status = .terminated ∨ last.store.row.status = .error → last.store.live = none) ∧
    (last.store.row.status = .paused ∧ last.store.row.pauseMode = .cold → last.store.live = none ∧
      ∀ kind total, (last.store.allocate last.store.row kind total).isSome) := by
  have initial : first.Holds (fun world => Agrees (viewOf world))
      (fun world operation => Fits (viewOf world) operation) := by
    simp only [Turn.Holds, creating]
    exact ⟨gpu, pending, fun _ => by simp [viewOf, vacant]⟩
  have holds := keeps_agrees.run run initial
  simp only [Turn.Holds, idle] at holds
  have free : (viewOf last.store).held = false → last.store.live = none :=
    fun held => by simpa [viewOf] using held
  refine ⟨holds.running, fun ended => free (holds.ended ?_), ?_⟩
  · rcases ended with status | status <;> simp [viewOf, status, isFinal]
  · rintro ⟨paused, cold⟩
    have none := free (holds.cold paused cold)
    exact ⟨none, fun kind total => by simp [allocate, none]⟩

instance (world : World) : DecidablePred (Careful world)
  | .create _ => isTrue trivial
  | .call service => by cases service <;> (dsimp only [Careful]; infer_instance)
  | .enforce _ point => by cases point <;> (dsimp only [Careful]; infer_instance)

instance (turn : Turn World Operation) (move : Move Operation Env Unit) : Decidable (KeepsSlice turn move) := by
  unfold KeepsSlice
  split <;> infer_instance

/-- A preemptible session with a lossless pause, under admission. -/
def losslessSpot : Turn World Operation where
  store := worldOf (Session.pendingRow 1 .gpu none (some 100) (some 0) 600 .yield true 0) none
  current := some (.create .validating)

/-- It is placed on a card of its own or on a borrowed one, runs for a minute until the operator keeps its
idle pod, and is demoted an hour later. -/
def demotedWhileIdle (borrows : Bool) : List (Move Operation Env Unit) :=
  let placed : Env := { granted 0 with
    slice := if borrows then none else some 24576
    spotSlice := some 24576 }
  let idles : StatusEvent :=
    { reportOf .paused with yielded := true, message := some "idle", ts := 60 * second }
  let later : Move Operation Env Unit := .proceed (granted (3600 * second))
  List.replicate 6 (.proceed placed) ++ [.enter (.call (.callback (reportOf .running))), later,
    .enter (.call (.callback idles)), later, .enter (.enforce .idle .called), later, later, later]

/-- On a card of its own it is left paused and cold, without a slice. -/
theorem status_slice_agree_demoted :
    ∃ last, Run (sliceProgram.turn Operation.finished) KeepsSlice losslessSpot (demotedWhileIdle false) last ∧
      last.store.row.status = .paused ∧ last.store.row.pauseMode = .cold ∧
      (last.store.row.status = .running → last.store.live.isSome) ∧
      (last.store.row.status = .terminated ∨ last.store.row.status = .error → last.store.live = none) ∧
      (last.store.row.status = .paused ∧ last.store.row.pauseMode = .cold → last.store.live = none ∧
        ∀ kind total, (last.store.allocate last.store.row kind total).isSome) :=
  exists_run_imp (fun last => last.current = none ∧ last.store.row.status = .paused ∧
    last.store.row.pauseMode = .cold) (by decide +kernel) fun _ run facts =>
    ⟨facts.2.1, facts.2.2, status_slice_agree rfl rfl rfl rfl run facts.1⟩

/-- On a borrowed card it is left paused and cold with the slice, and no resume can take one. -/
theorem cold_session_keeps_slice :
    ∃ last, Run (sliceProgram.turn Operation.finished) (fun _ _ => True) losslessSpot
        (demotedWhileIdle true) last ∧ last.current.isNone ∧
      last.store.row.status = .paused ∧ last.store.row.pauseMode = .cold ∧
      last.store.live = some .spot ∧ (last.store.allocate last.store.row .resident 24576).isSome = false :=
  exists_run_of_execute (by decide +kernel)

end GShare.Soundness.Slices
