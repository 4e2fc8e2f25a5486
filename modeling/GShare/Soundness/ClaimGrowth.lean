import GShare.Model.Cluster.VolumeClaims

/-! # A volume's claim does not shrink

Each controller asks for more than it read, also where the request is no whole number of GiB: what is cut off
is less than the GiB that the quota is ahead. But it does not look again before it patches, so the other one
may have asked for more by then.
-/

namespace GShare.Model.ClaimCall

open Machine

variable {pool : Pool ClaimStore ClaimCall} {action : Action ClaimCall (Option Bool) ℕ}

def Grows (pool : Pool ClaimStore ClaimCall) : Action ClaimCall (Option Bool) ℕ → Prop
  | .advance index reclaim => ∀ call, pool.calls[index]? = some call → ∀ want ∈ call.patch? reclaim,
      ∀ request ∈ pool.store.request, request ≤ want
  | .enter _ | .outside _ => True

def read? : ClaimCall → Option ℕ
  | .got _ request | .directed request _ => some request
  | _ => none

def Undisturbed (pool : Pool ClaimStore ClaimCall) : Action ClaimCall (Option Bool) ℕ → Prop
  | .advance index _ => ∀ call, pool.calls[index]? = some call → ∀ read ∈ call.read?,
      ∀ request ∈ pool.store.request, request = read
  | .enter _ | .outside _ => True

/-- Both controllers ask for more than they read. -/
theorem read_le_patch {call : ClaimCall} {reclaim : Option Bool} {want : ℕ} (asks : want ∈ call.patch? reclaim) :
    ∃ read ∈ call.read?, read ≤ want := by
  cases call with
  | got sizeGb request =>
    simp only [patch?, growClaim] at asks
    split_ifs at asks with enough
    · cases asks
    · cases asks
      exact ⟨request, rfl, Nat.le_of_not_le enough⟩
  | directed request quotaGb =>
    simp only [patch?] at asks
    split_ifs at asks with behind
    · cases asks
      have whole : 0 < gib := by decide
      exact ⟨request, rfl, Nat.le_of_lt ((Nat.div_lt_iff_lt_mul whole).mp behind.2)⟩
    · cases asks
  | session | specified | tick | listed | done => cases asks

theorem grows_of_undisturbed (undisturbed : Undisturbed pool action) : Grows pool action := by
  cases action with
  | enter | outside => trivial
  | advance index reclaim =>
    intro call found want asks request isRequest
    obtain ⟨read, isRead, le⟩ := read_le_patch asks
    exact undisturbed call found read isRead request isRequest ▸ le

/-- In every run in which no claim changes between the read and the patch of a call, no patch shrinks one. -/
theorem patches_grow {first last : Pool ClaimStore ClaimCall} {actions : List (Action ClaimCall (Option Bool) ℕ)}
    (run : Run claimProgram.step Undisturbed first actions last) : Run claimProgram.step Grows first actions last :=
  run.mono fun _ _ => grows_of_undisturbed

instance decidableUndisturbed : Decidable (Undisturbed pool action) := by
  unfold Undisturbed
  split <;> infer_instance

/-- A claim of ten GiB and a half, of a volume with twenty. -/
def halfGib : Pool ClaimStore ClaimCall := ⟨⟨some (10 * gib + gib / 2), 20⟩, []⟩

def tickAt (index : ℕ) : List (Action ClaimCall (Option Bool) ℕ) :=
  [.enter .tick, .advance index none, .advance index none, .advance index none]

/-- A tick that nothing comes between grows the claim. -/
theorem patches_grow_tick : ∃ last, Run claimProgram.step Grows halfGib (tickAt 0) last ∧
    last.store.request = some (20 * gib) := by
  obtain ⟨last, run, grown⟩ : ∃ last, Run claimProgram.step Undisturbed halfGib (tickAt 0) last ∧
      last.store.request = some (20 * gib) := exists_run_of_execute (by decide +kernel)
  exact ⟨last, patches_grow run, grown⟩

/-- A reconcile reads the claim, the quota is raised to thirty, and the syncer grows the claim to that; the
reconcile then asks for twenty. -/
theorem patch_shrinks : ∃ last, Run claimProgram.step (fun _ _ => True) halfGib
    ([.enter .session, .advance 0 none, .advance 0 none, .outside 30] ++ tickAt 1) last ∧
      ¬Grows last (.advance 0 none) := by
  refine exists_run_imp (fun last => last.calls[0]? = some (.got 20 (10 * gib + gib / 2)) ∧
    last.store.request = some (30 * gib)) (by decide +kernel) fun last _ seen grows => ?_
  exact absurd (grows _ seen.1 (20 * gib) rfl (30 * gib) seen.2) (by decide)

end GShare.Model.ClaimCall
