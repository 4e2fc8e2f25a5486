import GShare.Model.Session.IdempotencyKey

/-! # One session for an idempotency key

While the entry of a key lasts, one request claims it and nobody else writes to it, so all requests with
the key come to one session.
-/

namespace GShare.Soundness.IdempotencyKey

open GShare.Model Machine

variable {store after : KeyedStore} {place : ℕ} {call : KeyedCall}

/-- The entry does not expire. -/
def Lasts (_ : Pool KeyedStore KeyedCall) : Action KeyedCall KeyedInput Unit → Prop
  | .outside _ => False
  | .enter _ | .advance _ _ => True

instance (pool : Pool KeyedStore KeyedCall) : DecidablePred (Lasts pool) := by
  rintro (_ | _ | _) <;> unfold Lasts <;> infer_instance

structure Sound (store : KeyedStore) : Prop where
  single : store.sessions.length ≤ 1
  free : store.entry = none → store.sessions = []
  named : ∀ id, store.prior = some id → store.sessions = [id]

/-- Between its claim and the naming of its session a call has the entry to itself. -/
def Holds (store : KeyedStore) (place : ℕ) : KeyedCall → Prop
  | .claimed => store.entry = some (place, none) ∧ store.sessions = []
  | .persisted id => store.entry = some (place, none) ∧ store.sessions = [id]
  | .loading id _ | .stored id | .returned id => store.sessions = [id]
  | .called | .claiming | .polling _ | .failed => True

theorem Sound.holds_prior (sound : Sound store) (left : Option ℕ) (absent : Holds store place call) :
    Holds store place (store.prior.elim call (.loading · left)) := by
  cases prior : store.prior with
  | none => exact absent
  | some id => exact sound.named id prior

theorem Holds.frame (holds : Holds store place call) (sessions : after.sessions = store.sessions)
    (entry : store.entry = some (place, none) → after.entry = some (place, none)) :
    Holds after place call := by
  cases call with
  | claimed | persisted => exact ⟨entry holds.1, sessions.trans holds.2⟩
  | loading | stored | returned => exact sessions.trans holds
  | called | claiming | polling | failed => trivial

theorem keeps_sound : keyedProgram.Keeps Lasts Sound Holds where
  enter pool call _ enters _ := by
    cases enters
    trivial
  own pool index input call store after _ _ taken sound holds := by
    simp only [keyedProgram, KeyedCall.next] at taken
    cases call with
    | called =>
      cases taken
      exact ⟨sound, sound.holds_prior none trivial⟩
    | loading id left =>
      have found : id ∈ pool.store.sessions := List.mem_of_mem_head? (holds ▸ rfl)
      cases taken
      rw [if_pos found]
      exact ⟨sound, holds⟩
    | claiming =>
      dsimp only at taken
      split_ifs at taken with free <;> cases taken
      · exact ⟨⟨sound.single, by simp, by simp [KeyedStore.prior]⟩, rfl, sound.free free⟩
      · exact ⟨sound, trivial⟩
    | polling left =>
      cases left <;> cases taken
      · exact ⟨sound, trivial⟩
      · exact ⟨sound, sound.holds_prior _ trivial⟩
    | claimed =>
      obtain ⟨entry, none⟩ := holds
      dsimp only at taken
      split_ifs at taken <;> cases taken
      · exact ⟨⟨by simp [none], by simp [entry], by simp [KeyedStore.prior, entry]⟩, entry, by simp [none]⟩
      · exact ⟨sound, trivial⟩
    | persisted id =>
      cases taken
      exact ⟨⟨sound.single, by simp, fun _ named => Option.some.inj named ▸ holds.2⟩, holds.2⟩
    | stored id =>
      cases taken
      cases input.ok
      · exact ⟨sound, trivial⟩
      · exact ⟨sound, holds⟩
    | returned | failed => cases taken
  others pool index input call store after other bystander _ _ taken sound holds apart _ stands := by
    have alone (mine : pool.store.entry = some (index, none)) : pool.store.entry ≠ some (other, none) := by
      rw [mine]
      rintro ⟨⟩
      exact apart rfl
    simp only [keyedProgram, KeyedCall.next] at taken
    cases call with
    | called | loading | stored => cases taken; exact stands
    | polling left => cases left <;> cases taken <;> exact stands
    | claiming =>
      dsimp only at taken
      split_ifs at taken with free <;> cases taken
      · exact stands.frame rfl fun claimed => by simp [free] at claimed
      · exact stands
    | claimed =>
      dsimp only at taken
      split_ifs at taken <;> cases taken
      · cases bystander with
        | claimed | persisted => exact absurd stands.1 (alone holds.1)
        | loading | stored | returned => cases holds.2.symm.trans stands
        | called | claiming | polling | failed => trivial
      · exact stands
    | persisted id =>
      cases taken
      exact stands.frame rfl fun claimed => absurd claimed (alone holds.1)
    | returned | failed => cases taken
  outside _ _ _ expired := expired.elim

/-- However the requests with a key interleave, they persist at most one session, and every one that
returns has that session. -/
theorem one_session_for_key {first last : Pool KeyedStore KeyedCall}
    {actions : List (Action KeyedCall KeyedInput Unit)} (idle : first.calls = []) (unused : first.store = ⟨none, []⟩)
    (run : Run keyedProgram.step Lasts first actions last) :
    last.store.sessions.length ≤ 1 ∧ ∀ id, .returned id ∈ last.calls → last.store.sessions = [id] := by
  have ends := keeps_sound.run_idle run idle (unused ▸ ⟨Nat.zero_le 1, fun _ => rfl, by simp [KeyedStore.prior]⟩)
  refine ⟨ends.store.single, fun id returned => ?_⟩
  obtain ⟨place, found⟩ := List.getElem?_of_mem returned
  exact ends.calls place _ found

/-- The second request polls while the first one creates the session. -/
theorem polled_session_shared : ∃ last, Run keyedProgram.step Lasts ⟨⟨none, []⟩, []⟩
    ([.enter .called, .enter .called] ++ [0, 1, 0, 1, 0, 0, 1, 1, 0].map (.advance · ⟨7, true⟩)) last ∧
    last.calls = [.returned 7, .returned 7] ∧ last.store.sessions = [7] :=
  exists_run_imp (fun last => last.calls = [.returned 7, .returned 7]) (by decide +kernel) fun _ run both =>
    ⟨both, (one_session_for_key rfl rfl run).2 7 (by simp [both])⟩

end GShare.Soundness.IdempotencyKey
