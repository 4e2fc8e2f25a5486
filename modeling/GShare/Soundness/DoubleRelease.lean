import GShare.Model.Device.Calls
import GShare.Proofs.Device.Inventory
import GShare.Soundness.Samples

/-! # Releases of one allocation

A release reads the session's live allocation, then waits for the row lock of its card, and does not look
at the allocation again before it lowers the counters, nor at the card if its unit of work has loaded it
before. So the releases of one allocation lower them by its amounts once as long as none of them commits
between the read and the lock of another, and a card that was loaded before still says what its row says.
-/

namespace GShare.Soundness.DoubleRelease

open GShare.Model Machine Samples ReleaseCall

variable {alloc : Allocation}

/-- What a release takes off the counters: memory and cores. -/
def amounts (alloc : Allocation) : ℕ × ℕ := (alloc.gpuMemMb.getD 0, alloc.gpuCores.getD 0)

/-- A live allocation has not been taken off and is counted; an ended one was taken off once. -/
structure Applied (alloc : Allocation) (store : SharedCard) : Prop where
  pending : store.live → store.lowered = (0, 0) ∧
    (amounts alloc).1 ≤ store.card.usedMemMb ∧ (amounts alloc).2 ≤ store.card.usedCores
  ended : store.live = false → store.lowered = amounts alloc

/-- Who holds the lock holds it alone, over the committed row, with the allocation still live. -/
def Holds (store : SharedCard) (place : ℕ) : ReleaseCall → Prop
  | .holding card => store.lock = some place ∧ store.live ∧ card = store.card
  | _ => True

/-- A release that gets the lock finds the allocation still live and the card as it has loaded it. -/
def LocksLive (pool : Pool SharedCard ReleaseCall) : Action ReleaseCall ReleaseInput Card → Prop
  | .advance index input => pool.calls[index]? = some .locking →
      pool.store.live ∧ ∀ card ∈ input.loaded, card = pool.store.card
  | .enter _ | .outside _ => True

theorem applied_commit {store : SharedCard} (own : alloc.kind = .resident)
    (applied : Applied alloc store) (live : store.live) : Applied alloc {
      card := store.card.release alloc
      live := false
      lock := none
      lowered := (store.lowered.1 + (store.card.usedMemMb - (store.card.release alloc).usedMemMb),
        store.lowered.2 + (store.card.usedCores - (store.card.release alloc).usedCores)) } := by
  obtain ⟨nothing, mem, cores⟩ := applied.pending live
  have usedMem : (store.card.release alloc).usedMemMb = store.card.usedMemMb - (amounts alloc).1 :=
    (Card.used_release_resident own : (store.card.release alloc).used .mem = _)
  have usedCores : (store.card.release alloc).usedCores = store.card.usedCores - (amounts alloc).2 :=
    (Card.used_release_resident own : (store.card.release alloc).used .cores = _)
  refine ⟨fun impossible => absurd impossible Bool.false_ne_true, fun _ => ?_⟩
  simp only [usedMem, usedCores, nothing, Nat.zero_add]
  exact Prod.ext (by dsimp only; omega) (by dsimp only; omega)

theorem keeps_applied (own : alloc.kind = .resident) :
    (releaseProgram alloc).Keeps LocksLive (Applied alloc) Holds where
  enter := by
    rintro pool call - rfl -
    trivial
  own := by
    intro pool index input call store after meets found taken applied holds
    cases call with
    | reading =>
      cases taken
      refine ⟨applied, ?_⟩
      split_ifs <;> trivial
    | locking =>
      obtain ⟨live, fresh⟩ := meets found
      have current : input.loaded.getD pool.store.card = pool.store.card := by
        cases loaded : input.loaded with
        | none => rfl
        | some card => exact fresh card loaded
      simp only [releaseProgram, next, current] at taken
      split at taken
      · cases taken
        exact ⟨⟨applied.pending, applied.ended⟩, rfl, live, rfl⟩
      · cases taken
    | holding card =>
      obtain ⟨-, live, rfl⟩ := holds
      simp only [releaseProgram, next, Card.flush_fresh] at taken
      split at taken
      next _ committed _ =>
        cases committed
        cases taken
        exact ⟨applied_commit own applied live, trivial⟩
      next =>
        cases taken
        exact ⟨⟨applied.pending, applied.ended⟩, trivial⟩
    | finished => cases taken
  others := by
    intro pool index input call store after other bystander meets found taken applied holds apart _ waits
    cases bystander with
    | holding card =>
      obtain ⟨locked, live, same⟩ := waits
      -- The lock belongs to the bystander, so the call that moves neither takes nor drops it.
      cases call with
      | reading =>
        cases taken
        exact ⟨locked, live, same⟩
      | locking =>
        simp only [releaseProgram, next, locked] at taken
        cases taken
      | holding held => exact absurd (Option.some.inj (locked.symm.trans holds.1)) apart
      | finished => cases taken
    | reading | locking | finished => trivial
  outside := by
    intro pool card store _ changed applied
    simp only [releaseProgram, SharedCard.others] at changed
    split_ifs at changed with free
    cases changed
    obtain ⟨unlocked, counted⟩ := free
    refine ⟨⟨fun live => ⟨(applied.pending live).1, counted live⟩, applied.ended⟩, ?_⟩
    intro index call holds
    cases call with
    | holding held =>
      obtain ⟨locked, -⟩ := holds
      rw [unlocked] at locked
      cases locked
    | reading | locking | finished => trivial

/-- However the releases of an allocation interleave, together they take its amounts off the counters of
its card once: nothing while it is live, and all of it from its end on. -/
theorem release_applied_once (own : alloc.kind = .resident)
    {first last : Pool SharedCard ReleaseCall} {actions : List (Action ReleaseCall ReleaseInput Card)}
    (fresh : first.calls = []) (live : first.store.live) (untouched : first.store.lowered = (0, 0))
    (counted : (amounts alloc).1 ≤ first.store.card.usedMemMb ∧
      (amounts alloc).2 ≤ first.store.card.usedCores)
    (run : Run (releaseProgram alloc).step LocksLive first actions last) :
    last.store.lowered = if last.store.live then (0, 0) else amounts alloc := by
  have initial : Applied alloc first.store := by
    refine ⟨fun _ => ⟨untouched, counted⟩, fun ended => ?_⟩
    rw [live] at ended
    cases ended
  have applied := ((keeps_applied own).run_idle run fresh initial).store
  split_ifs with still
  · exact (applied.pending still).1
  · exact applied.ended (by simpa using still)

instance (pool : Pool SharedCard ReleaseCall) (action : Action ReleaseCall ReleaseInput Card) :
    Decidable (LocksLive pool action) := by
  unfold LocksLive
  split <;> infer_instance

def aThird : Allocation := ⟨0, some 0, some 8192, some 30, .resident⟩

def twoThirds : Pool SharedCard ReleaseCall where
  store := {
    card := { emptyCard with
      mode := some .fractional, usedMemMb := 16384, usedCores := 60, noOvercommit := by decide }
    live := true
    lock := none
    lowered := (0, 0) }
  calls := []

/-- A call whose transaction commits goes on, in a unit of work that has not loaded the card. -/
def goesOn (index : ℕ) : Action ReleaseCall ReleaseInput Card := .advance index ⟨none, true⟩

/-- Two calls release the allocation: the second reads it before or after the first commits. -/
def twoReleases (early : Bool) : List (Action ReleaseCall ReleaseInput Card) :=
  [.enter .reading, .enter .reading, goesOn 0] ++ (if early then [goesOn 1] else [])
    ++ [goesOn 0, goesOn 0] ++ if early then [goesOn 1, goesOn 1] else [goesOn 1]

/-- The second release reads the allocation after the first committed, and finds it ended. -/
theorem release_applied_once_in_turn :
    ∃ last, Run (releaseProgram aThird).step LocksLive twoThirds (twoReleases false) last ∧
      last.store.lowered = if last.store.live then (0, 0) else amounts aThird :=
  exists_run_imp (fun _ => True) (by decide +kernel) fun _ run _ =>
    release_applied_once rfl rfl rfl rfl (by decide) run

/-- Both read the allocation as live before either commits: its amounts are taken off twice, the second
time those of the other session. -/
theorem release_applied_twice :
    ∃ last, Run (releaseProgram aThird).step (fun _ _ => True) twoThirds (twoReleases true) last ∧
      last.store.card.usedMemMb = 0 ∧ last.store.lowered = (16384, 60) ∧ amounts aThird = (8192, 30) :=
  exists_run_of_execute (by decide +kernel)

end GShare.Soundness.DoubleRelease
