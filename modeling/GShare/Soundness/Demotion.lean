import GShare.Proofs.Session.Lifecycle
import GShare.Soundness.Samples

/-! # Demotions and resumes of one session

A pass of the enforcer reads the session as paused in one transaction, gives up its card in a second one
and tells the operator to keep it paused after that. Nothing in between looks at the status again, so a
demotion meets a paused session exactly as far as no resume is committed while one is on its way.
-/

namespace GShare.Soundness.Demotion

open GShare.Model Machine Samples

/-- The owner's resumes and the passes of the enforcer. -/
def mayBegin : Operation → Bool
  | .call (.start .called) | .enforce _ .called => true
  | _ => false

/-- Resumes and passes in any number; meanwhile anybody may write to the ledger. -/
def demotionProgram : Program World Operation Env Ledger :=
  lifecycleProgram mayBegin fun world ledger => some { world with ledger := ledger }

instance : DecidablePred demotionProgram.entry :=
  fun operation => inferInstanceAs (Decidable (mayBegin operation))

/-- The session was read as paused and its demotion is not over. -/
def demoting : Operation → Bool
  | .enforce _ .chosen | .enforce _ .demoted => true
  | _ => false

/-- The next step gives up the card of the session, or tells the operator that it is paused. -/
def Demotes (world : World) : Operation → Prop
  | .enforce _ .chosen => world.live = some .resident
  | .enforce _ .demoted => True
  | _ => False

/-- The session leaves its pause only while no demotion of it is on its way. -/
def ResumesAlone (pool : Pool World Operation) : Action Operation Env Ledger → Prop
  | .advance index env => ∀ operation ∈ pool.calls[index]?, ∀ result ∈ operation.next pool.store env,
      pool.store.row.status = .paused → result.1.row.status ≠ .paused →
        ∀ other ∈ pool.calls, demoting other = false
  | .enter _ | .outside _ => True

/-- Whoever is about to demote the session finds it paused. -/
def FindsPaused (world : World) (_ : ℕ) (operation : Operation) : Prop :=
  demoting operation → world.row.status = .paused

/-- A pass demotes only what it has read as paused, and a demotion does not touch the status. -/
theorem paused_of_next {world next : World} {env : Env} {operation after : Operation}
    (taken : operation.next world env = some (next, after)) (finds : FindsPaused world 0 operation)
    (chosen : demoting after) : next.row.status = .paused := by
  cases Operation.steps_of_next taken with
  | create | call | told => cases chosen
  | passed idle onward => rcases onward with rfl | rfl <;> cases chosen
  | chosen paused => exact paused
  | demoted => exact finds rfl

theorem keeps_findsPaused : demotionProgram.Keeps ResumesAlone (fun _ => True) FindsPaused where
  enter pool operation _ enters _ chosen := by
    cases operation with
    | enforce pass point =>
      cases point with
      | called => cases chosen
      | chosen | demoted => cases enters
    | create | call => cases chosen
  own pool index env operation store after _ _ taken _ finds :=
    ⟨trivial, fun chosen => paused_of_next taken finds chosen⟩
  others pool index env operation store after other bystander meets found taken _ _ _ member finds := by
    intro chosen
    by_contra resumed
    have alone := meets operation found (store, after) taken (finds chosen) resumed bystander
      (List.mem_of_getElem? member)
    rw [alone] at chosen
    cases chosen
  outside pool ledger store _ changed _ := by
    cases changed
    exact ⟨trivial, fun _ _ => id⟩

/-- However the passes of the enforcer interleave with resumes of the session, whoever gives up its card
or tells the operator to keep it paused does so to a paused session. -/
theorem demotes_only_paused {first last : Pool World Operation}
    {actions : List (Action Operation Env Ledger)} (idle : first.calls = [])
    (run : Run demotionProgram.step ResumesAlone first actions last) :
    ∀ operation ∈ last.calls, Demotes last.store operation → last.store.row.status = .paused := by
  intro operation member demotes
  obtain ⟨index, found⟩ := List.getElem?_of_mem member
  refine (keeps_findsPaused.run_idle run idle trivial).calls index operation found ?_
  cases operation with
  | enforce pass point =>
    cases point with
    | called => exact demotes.elim
    | chosen | demoted => rfl
  | create | call => exact demotes.elim

instance (pool : Pool World Operation) (action : Action Operation Env Ledger) :
    Decidable (ResumesAlone pool action) := by
  unfold ResumesAlone
  split <;> infer_instance

/-- A session that yielded its card, with nothing in progress. -/
def yieldedAlone : Pool World Operation :=
  ⟨worldOf { wholeCard 1 600 with status := .paused, pauseMode := .yield } (some .resident), []⟩

/-- The next steps of an operation, an hour after the epoch. -/
def stepsOf (index count : ℕ) : List (Action Operation Env Ledger) :=
  List.replicate count (.advance index (granted (3600 * second)))

/-- A pass over the yields of the node and a resume; the resume begins after `count` steps of the pass
and writes running before the pass goes on. -/
def resumedDuring (count : ℕ) : List (Action Operation Env Ledger) :=
  [.enter (.enforce .hostRam .called), .enter (.call (.start .called))]
    ++ stepsOf 0 count ++ stepsOf 1 3

/-- The pass goes through, and the owner resumes afterwards, on a new card. -/
theorem demotes_only_paused_then_resumed :
    ∃ last, Run demotionProgram.step ResumesAlone yieldedAlone (resumedDuring 3) last ∧
      last.store.row.status = .running ∧ last.store.live = some .resident ∧
      ∀ operation ∈ last.calls, Demotes last.store operation → last.store.row.status = .paused :=
  exists_run_imp (fun last => last.store.row.status = .running ∧ last.store.live = some .resident)
    (by decide +kernel) fun _ run resumed => ⟨resumed.1, resumed.2, demotes_only_paused rfl run⟩

/-- The owner resumes after the pass has read the session as paused: the demotion then takes the card of
a running session. -/
theorem demotes_running :
    ∃ middle last, Run demotionProgram.step (fun _ _ => True) yieldedAlone (resumedDuring 1) middle ∧
      middle.store.row.status = .running ∧ middle.store.live = some .resident ∧
      Run demotionProgram.step (fun _ _ => True) middle (stepsOf 0 1) last ∧
      last.store.row.status = .running ∧ last.store.live = none := by
  obtain ⟨middle, last, resumed, demoted, running, held, lost⟩ := @exists_runs_of_execute _ _
    demotionProgram.step (fun _ _ => True) _ yieldedAlone (resumedDuring 1) (stepsOf 0 1) (fun middle last =>
      middle.store.row.status = .running ∧ middle.store.live = some .resident ∧
        last.store.row.status = .running ∧ last.store.live = none) _ (by decide +kernel)
  exact ⟨middle, last, resumed, running, held, demoted, lost⟩

end GShare.Soundness.Demotion
