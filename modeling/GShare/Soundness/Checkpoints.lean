import GShare.Machine.Run
import GShare.Model.Cluster.Resource

/-! # A stored checkpoint is not forgotten

The operator stores a checkpoint, deletes the pod and records the checkpoint, with nothing that holds the three
together. After a failure in between, the next reconcile finds no pod and records that there is none.
-/

namespace GShare.Model.LosslessSession

open Machine

variable {sess next first last : LosslessSession} {event : LosslessEvent} {events : List LosslessEvent}

/-- A reconcile that stores a checkpoint goes through to its end. -/
def Unbroken (sess : LosslessSession) : LosslessEvent → Prop
  | .reconcile input => (sess.taken input).isSome → input.deletes ∧ input.updates
  | .setPaused _ | .pod _ | .finalize => True

/-- What is stored is recorded, with the phase that keeps it so. -/
def Recorded (sess : LosslessSession) : Prop :=
  sess.stored.isSome → sess.isPaused ∧ sess.recorded = sess.stored

theorem cleanup_stored (recorded : sess.Recorded) : sess.cleanup.stored = none := by
  unfold cleanup
  cases stored : sess.stored with
  | none => simp
  | some checkpoint =>
    have same := (recorded (by simp [stored])).2
    simp [same, stored]

theorem recorded_reconcile {input : ReconcileInput} (unbroken : sess.Unbroken (.reconcile input))
    (recorded : sess.Recorded) : (sess.reconcile input).1.Recorded := by
  have cleaned := cleanup_stored recorded
  have empty (unpaused : ¬sess.isPaused) : sess.stored = none :=
    Option.not_isSome_iff_eq_none.mp fun stored => unpaused (recorded stored).1
  -- nothing was stored before the pause, so what is stored after a failure is the new checkpoint
  have failed (unpaused : ¬sess.isPaused) (fails : ¬(input.deletes ∧ input.updates)) :
      ¬(sess.taken input <|> sess.stored).isSome := by
    simpa [empty unpaused] using mt unbroken fails
  unfold reconcile
  split_ifs
  · exact recorded
  · exact recorded
  · exact fun stored => ⟨rfl, (recorded stored).2⟩
  · exact recorded
  · exact fun stored => absurd stored (failed ‹_› (by simp_all))
  · exact fun stored => absurd stored (failed ‹_› (by simp_all))
  · exact fun _ => ⟨rfl, by simp [empty ‹_›]⟩
  · exact recorded
  · exact fun stored => by simp [cleaned] at stored
  · exact fun stored => by simp [cleaned] at stored

theorem recorded_step (unbroken : sess.Unbroken event) (taken : sess.step event = some next)
    (recorded : sess.Recorded) : next.Recorded := by
  cases event with
  | reconcile input =>
    cases taken
    exact recorded_reconcile unbroken recorded
  | setPaused | pod =>
    cases taken
    exact recorded
  | finalize =>
    cases taken
    intro stored
    simp [cleanup_stored recorded] at stored

/-- In every run in which a reconcile that stores a checkpoint goes through, the status names the stored
checkpoint until it is cleaned up. -/
theorem checkpoint_recorded (fresh : first.stored = none) (run : Run step Unbroken first events last) :
    ∀ checkpoint ∈ last.stored, last.recorded = some checkpoint := by
  have initial : first.Recorded := fun stored => by simp [fresh] at stored
  have recorded : last.Recorded :=
    run.invariant initial fun _ _ _ unbroken taken recorded => recorded_step unbroken taken recorded
  intro checkpoint isStored
  exact (recorded (Option.isSome_of_mem isStored)).2.trans isStored

/-- A session that is to pause, with its pod on a node. -/
def pausing : LosslessSession := ⟨true, false, none, some "gpu-1", none⟩

/-- The checkpoint is stored and the pod deleted; the update of the status goes through or conflicts. -/
def stores (updates : Bool) : ReconcileInput := ⟨true, false, some "ckpt-1", true, updates, false⟩

theorem checkpoint_recorded_pause : ∃ last, Run step Unbroken pausing [.reconcile (stores true)] last ∧
    last.stored = some ⟨"ckpt-1", "gpu-1"⟩ ∧ last.recorded = some ⟨"ckpt-1", "gpu-1"⟩ := by
  have run : Run step Unbroken pausing [.reconcile (stores true)] _ := .cons (fun _ => ⟨rfl, rfl⟩) rfl (.nil _)
  exact ⟨_, run, rfl, checkpoint_recorded rfl run _ rfl⟩

/-- After a conflict the next reconcile finds no pod, and returns with no checkpoint recorded. -/
theorem checkpoint_forgotten : ∃ middle last,
    Run step (fun _ _ => True) pausing [.reconcile (stores false)] middle ∧
      middle.reconcile (stores true) = (last, true) ∧
      last.stored = some ⟨"ckpt-1", "gpu-1"⟩ ∧ last.recorded = none :=
  ⟨_, _, .cons trivial rfl (.nil _), rfl, rfl, rfl⟩

end GShare.Model.LosslessSession
