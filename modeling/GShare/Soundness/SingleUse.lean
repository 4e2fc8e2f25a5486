import GShare.Proofs.Access.Connection
import GShare.ToMathlib.ListSum

/-! # A connection token works once

`redeem` reads the token in one Redis command and deletes it in the next. Of the calls that read it before the
first deletion every one returns its record, so it takes a second reader in between for a token to be used
twice. From the deletion on nobody reads it again: its name is never drawn a second time.
-/

namespace GShare.Soundness.SingleUse

open GShare.Model Accounting Machine TokenStore List.Subset List Bool

variable {sha256 : String → String} {cnxId : String} {pool next : Pool TokenStore TokenCall}
variable {call after : TokenCall} {index : ℕ} {store : TokenStore}

section

variable (cnxId)

def holds : TokenCall → Bool
  | .matched name _ => name == cnxId
  | _ => false

def returned : TokenCall → Bool
  | .redeemed name _ => name == cnxId
  | _ => false

def asks : TokenCall → Bool
  | .redeem presented => (splitToken presented).1 == cnxId
  | _ => false

/-- Whoever reads the token does so while nobody has read it and not yet deleted it. -/
def ReadsAlone (pool : Pool TokenStore TokenCall) : Action TokenCall TokenInput TokenChange → Prop
  | .advance index _ => ∀ call ∈ pool.calls[index]?, asks cnxId call →
      ∀ other ∈ pool.calls, holds cnxId other = false
  | .enter _ | .outside _ => True

instance decidableReadsAlone (action : Action TokenCall TokenInput TokenChange) :
    Decidable (ReadsAlone cnxId pool action) := by
  unfold ReadsAlone
  split <;> infer_instance

/-- The call has read the token, whether or not it has deleted it. -/
def took (call : TokenCall) : Bool := holds cnxId call || returned cnxId call

end

/-- At most one call has read the token; its name is known, and once its record is returned it is gone. -/
structure Single (cnxId : String) (pool : Pool TokenStore TokenCall) : Prop where
  once : pool.calls.countP (took cnxId) ≤ 1
  drawn : ∀ call ∈ pool.calls, took cnxId call → cnxId ∈ pool.store.drawn
  gone : ∀ call ∈ pool.calls, returned cnxId call → pool.store.tokens.find? cnxId = none

theorem not_took_of_isEntry (enters : call.isEntry) : took cnxId call = false := by
  cases call with
  | issue | redeem => rfl
  | stored | issued | matched | redeemed | refused => cases enters

/-- A call that reads the token finds it, so nobody has returned its record; and it reads alone. -/
theorem none_took {presented : String} {token : StoredToken} (single : Single cnxId pool)
    (found : pool.store.matching sha256 presented = some token) (named : token.cnxId = cnxId)
    (alone : ∀ other ∈ pool.calls, holds cnxId other = false) : pool.calls.countP (took cnxId) = 0 := by
  rw [countP_eq_zero]
  intro other member takes
  have there := cnxId_of_matching found
  rw [named] at there
  rcases or_eq_true_iff.mp takes with holding | done
  · rw [alone other member] at holding
    cases holding
  · rw [single.gone other member done] at there
    cases there

section

variable (single : Single cnxId pool) (found : pool.calls[index]? = some call)
variable (kept : pool.store.drawn ⊆ store.drawn) (absent : cnxId ∈ pool.store.drawn →
  pool.store.tokens.find? cnxId = none → store.tokens.find? cnxId = none)

include single found kept absent

/-- What a step of one call has to keep for the others. -/
theorem Single.advance
    (once : took cnxId after → took cnxId call ∨ pool.calls.countP (took cnxId) = 0)
    (drew : took cnxId after → cnxId ∈ store.drawn)
    (gone : returned cnxId after → store.tokens.find? cnxId = none) :
    Single cnxId ⟨store, pool.calls.set index after⟩ := by
  refine ⟨?_, fun other member takes => ?_, fun other member done => ?_⟩
  · have count : (pool.calls.set index after).countP (took cnxId) + (if took cnxId call then 1 else 0) =
        pool.calls.countP (took cnxId) + if took cnxId after then 1 else 0 := countP_set_add found
    have bound := single.once
    show (pool.calls.set index after).countP (took cnxId) ≤ 1
    by_cases takes : took cnxId after
    · rcases once takes with before | nobody
      · rw [if_pos takes, if_pos before] at count
        omega
      · rw [if_pos takes, nobody] at count
        omega
    · rw [if_neg takes] at count
      omega
  · rcases mem_or_eq_of_mem_set member with before | rfl
    · exact kept (single.drawn other before takes)
    · exact drew takes
  · rcases mem_or_eq_of_mem_set member with before | rfl
    · exact absent (single.drawn other before (by simp [took, done])) (single.gone other before done)
    · exact gone done

theorem Single.elsewhere (quiet : took cnxId after = false) : Single cnxId ⟨store, pool.calls.set index after⟩ := by
  refine single.advance found kept absent (fun takes => ?_) (fun takes => ?_) (fun done => ?_)
  · cases quiet.symm.trans takes
  · cases quiet.symm.trans takes
  · cases (or_eq_false_iff.mp quiet).2.symm.trans done

end

theorem single_advance
    (found : pool.calls[index]? = some call) (step : TokenStep sha256 pool.store call store after)
    (alone : asks cnxId call → ∀ other ∈ pool.calls, holds cnxId other = false)
    (single : Single cnxId pool) : Single cnxId ⟨store, pool.calls.set index after⟩ := by
  cases step with
  | @wrote _ _ name _ _ wrote =>
    obtain ⟨fresh, -, drawn, inserted⟩ := hset_eq_some wrote
    refine single.elsewhere found (fun _ member => ?_) (fun known absent => ?_) rfl
    · rw [drawn]
      exact mem_cons_of_mem _ member
    · have another : cnxId ≠ name := fun same => fresh (same ▸ known)
      rwa [Roster.find?_insert_of_ne inserted another]
  | bounded =>
    refine single.elsewhere found (refl _) (fun _ absent => ?_) rfl
    rw [find?_expire, absent, Option.map_none]
  | missed => exact single.elsewhere found (refl _) (fun _ => id) rfl
  | @read presented token matched =>
    have known := pool.store.known token (Roster.find?_eq_some_iff.mp (cnxId_of_matching matched)).1
    by_cases named : token.cnxId = cnxId
    · obtain ⟨there, -⟩ := matching_eq_some_iff.mp matched
      have asked : asks cnxId (.redeem presented) := by
        simp [asks, ← (Roster.find?_eq_some_iff.mp there).2, named]
      refine single.advance found (refl _) (fun _ => id)
        (fun _ => .inr (none_took single matched named (alone asked))) (fun _ => named ▸ known) (fun done => ?_)
      cases done
    · exact single.elsewhere found (refl _) (fun _ => id)
        (by simp [took, holds, returned, named])
  | @spent name record =>
    have same : took cnxId (.redeemed name record) = took cnxId (.matched name record) := by
      simp [took, holds, returned]
    refine single.advance found (refl _) (fun _ absent => ?_) (fun takes => .inl (same ▸ takes))
      (fun takes => ?_) (fun done => ?_)
    · rw [find?_delete, absent, ite_self]
    · exact single.drawn _ (mem_of_getElem? found) (same ▸ takes)
    · have named : name = cnxId := by simpa [returned] using done
      rw [find?_delete, if_pos named.symm]

theorem single_step {action : Action TokenCall TokenInput TokenChange} (meets : ReadsAlone cnxId pool action)
    (taken : (tokenProgram sha256).step pool action = some next) (single : Single cnxId pool) :
    Single cnxId next := by
  cases action with
  | enter call =>
    obtain ⟨enters, rfl⟩ := (tokenProgram sha256).step_enter taken
    have untaken : took cnxId call = false := not_took_of_isEntry enters
    have fresh : returned cnxId call = false := (or_eq_false_iff.mp untaken).2
    refine ⟨?_, fun other member takes => ?_, fun other member done => ?_⟩
    · simpa [countP_append, untaken] using single.once
    · rcases mem_append.mp member with before | new
      · exact single.drawn other before takes
      · rw [mem_singleton.mp new, untaken] at takes
        cases takes
    · rcases mem_append.mp member with before | new
      · exact single.gone other before done
      · rw [mem_singleton.mp new, fresh] at done
        cases done
  | advance index input =>
    obtain ⟨call, store, after, found, stepped, rfl⟩ := (tokenProgram sha256).step_advance taken
    exact single_advance found (tokenStep_of_next stepped) (meets call found) single
  | outside change =>
    obtain ⟨store, changed, rfl⟩ := (tokenProgram sha256).step_outside taken
    obtain ⟨drawn, absent⟩ := change_eq_some changed
    exact ⟨single.once, fun call member takes => drawn ▸ single.drawn call member takes,
      fun call member done => absent cnxId (single.gone call member done)⟩

/-- Nothing issued and nobody asking. -/
def noTokens : Pool TokenStore TokenCall := ⟨.empty, []⟩

/-- However the Redis commands of any number of redemptions interleave, at most one of them returns the record
of a token, as long as each reads it only while nobody has read it and not yet deleted it. -/
theorem redeemed_at_most_once {last : Pool TokenStore TokenCall}
    {actions : List (Action TokenCall TokenInput TokenChange)}
    (run : Run (tokenProgram sha256).step (ReadsAlone cnxId) noTokens actions last) :
    last.calls.countP (returned cnxId) ≤ 1 := by
  have initial : Single cnxId noTokens :=
    ⟨Nat.zero_le _, forall_mem_nil _, forall_mem_nil _⟩
  have single : Single cnxId last :=
    run.invariant initial fun _ _ _ meets taken single => single_step meets taken single
  have fewer : last.calls.countP (returned cnxId) ≤ last.calls.countP (took cnxId) :=
    countP_mono_left fun call _ done => by simp [took, done]
  exact fewer.trans single.once

def issuedAndPresented : List (Action TokenCall TokenInput TokenChange) :=
  let draw : TokenInput := ⟨"cnx_1", "secret"⟩
  [.enter (.issue 7 3), .advance 0 draw, .advance 0 draw,
    .enter (.redeem "cnx_1.secret"), .enter (.redeem "cnx_1.secret")]

def commands (order : List ℕ) : List (Action TokenCall TokenInput TokenChange) :=
  order.map fun index => .advance index ⟨"", ""⟩

/-- The first call deletes the token before the second reads it. -/
theorem redeemed_at_most_once_in_turn :
    ∃ last, Run (tokenProgram id).step (ReadsAlone "cnx_1") noTokens
        (issuedAndPresented ++ commands [1, 1, 2]) last ∧
      last.calls.countP (returned "cnx_1") = 1 ∧ last.calls.countP (returned "cnx_1") ≤ 1 :=
  exists_run_imp (fun last => last.calls.countP (returned "cnx_1") = 1) (by decide +kernel) fun _ run one =>
    ⟨one, redeemed_at_most_once run⟩

/-- Both calls read the token before either deletes it, and both return its record. -/
theorem redeemed_twice : ∃ last, Run (tokenProgram id).step (fun _ _ => True) noTokens
        (issuedAndPresented ++ commands [1, 2, 1, 2]) last ∧ last.calls.countP (returned "cnx_1") = 2 :=
  exists_run_of_execute (by decide +kernel)

end GShare.Soundness.SingleUse
