import GShare.Model.Session.Service
import GShare.Proofs.Session.Callbacks

/-! # What a transaction of the lifecycle service can do

A resume leaves the session as it is, or writes the columns of a new run on the slice it has or just
took. A termination claims a session that has not ended.
-/

namespace GShare.Model

variable {Value : Type}

theorem stored_cases [DecidableEq Value] (loaded new current : Value) :
    stored loaded new current = new ∨ stored loaded new current = current := by
  unfold stored
  split_ifs
  · exact .inr rfl
  · exact .inl rfl

/-- A call that works on a row nobody touched since stores exactly what it means to. -/
@[simp] theorem stored_self [DecidableEq Value] (loaded new : Value) : stored loaded new loaded = new := by
  unfold stored
  split_ifs with same
  · exact same.symm
  · rfl

variable {loaded : Session}

namespace World

variable {world next : World} {env : Env}

/-- Take a slice: the session had none, and only the size of its card is noted in its row. -/
structure Allocated (world next : World) (kind : AllocationKind) (loaded : Session) (total : ℕ) :
    Prop where
  free : world.live = none
  next_eq : next = { world with
    live := some kind
    row := { world.row with
      deviceTotalMemMb := stored loaded.deviceTotalMemMb (some total) world.row.deviceTotalMemMb } }

theorem allocate_eq_some {kind : AllocationKind} {total : ℕ}
    (success : world.allocate loaded kind total = some next) : world.Allocated next kind loaded total := by
  unfold allocate at success
  cases live : world.live with
  | some other => simp [live] at success
  | none =>
    simp only [live, Option.some.injEq] at success
    exact ⟨live, success.symm⟩

/-- The write of a resume: refused, waiting for the lent card, or done. -/
theorem start_checked {yieldResume : Bool} {after : Option StartPoint}
    (taken : world.start env (.checked loaded yieldResume) = (next, after)) :
    next = world ∧ (after = none ∨ yieldResume ∧ after = some .reclaimed) ∨
    ∃ reserved : World, (reserved = world ∨ ∃ total, world.Allocated reserved .resident loaded total) ∧
      next = { reserved with row := resumeRow loaded reserved.row env.now } ∧
      after = some (.resumed loaded) := by
  simp only [start] at taken
  by_cases yields : yieldResume
  · rw [if_pos yields] at taken
    cases taken
    refine .inl ⟨rfl, ?_⟩
    split_ifs
    · exact .inr ⟨yields, rfl⟩
    · exact .inl rfl
  · rw [if_neg yields] at taken
    by_cases gpu : loaded.resourceClass = .gpu
    · rw [if_pos gpu] at taken
      split at taken
      · cases taken
        exact .inl ⟨rfl, .inl rfl⟩
      · rename_i reserved success
        cases taken
        obtain ⟨total, _, success⟩ := Option.bind_eq_some_iff.mp success
        exact .inr ⟨reserved, .inr ⟨total, allocate_eq_some success⟩, rfl, rfl⟩
    · rw [if_neg gpu] at taken
      cases taken
      exact .inr ⟨world, .inl rfl, rfl, rfl⟩

/-- The last transaction of an undisturbed pause. -/
theorem pauseRow_becomes (world : World) (reason : Reason) :
    ∃ live, world.Becomes (world.pauseRow world.row reason) .paused world.row.startedAt live world.ledger := by
  refine ⟨_, ⟨rfl, rfl, rfl, rfl, rfl⟩, ?_, stored_self .., rfl, rfl, ?_⟩ <;>
    simp only [pauseRow] <;> split_ifs <;> rfl

theorem claim_cases {reason : Reason} {after : Option TerminatePoint}
    (taken : world.claim reason env = (next, after)) :
    world.row.status = .terminated ∧ next = world ∧ after = none ∨
    world.row.status ≠ .terminated ∧ (∃ reason, next =
        { world with row := { world.row with status := .terminating, statusReason := reason } }) ∧
      after = some (.claimed next.row world.row.status env.now) := by
  unfold claim at taken
  by_cases ended : world.row.status = .terminated
  · rw [if_pos ended] at taken
    cases taken
    exact .inl ⟨ended, rfl, rfl⟩
  · rw [if_neg ended] at taken
    by_cases claimed : world.row.status = .terminating
    · rw [if_pos claimed] at taken
      cases taken
      refine .inr ⟨ended, ⟨world.row.statusReason, ?_⟩, by rw [claimed]⟩
      simp [← claimed]
    · rw [if_neg claimed] at taken
      cases taken
      exact .inr ⟨ended, ⟨_, rfl⟩, rfl⟩

end World

end GShare.Model
