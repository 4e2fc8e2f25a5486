import GShare.Machine.Run
import GShare.Model.Access.Sharing

/-! # A volume keeps an owner

A revocation counts the owners. A grant does not: it may write another role into the row of the last one, whom
`owner_id` need not name.
-/

namespace GShare.Model.SharedVolume

open Machine AList Rbac

variable {vol next : SharedVolume} {call : SharingCall} {user : UserId} {role : VolumeRole}

def OwnedBeside (vol : SharedVolume) (excepted : Option UserId) : Prop :=
  ∃ user, vol.permissions.lookup user = some .owner ∧ some user ≠ excepted

/-- A grant makes its user an owner or leaves another one. -/
def KeepsOwner (vol : SharedVolume) : SharingCall → Prop
  | .grant _ (.ok target) role => role = .owner ∨ vol.OwnedBeside (some target)
  | _ => True

theorem ownedBeside_insert :
    OwnedBeside { vol with permissions := vol.permissions.insert user role } none ↔
      role = .owner ∨ vol.OwnedBeside (some user) := by
  constructor
  · rintro ⟨other, held, -⟩
    by_cases own : other = user
    · subst own
      rw [lookup_insert] at held
      exact .inl (Option.some.inj held)
    · rw [lookup_insert_ne own] at held
      exact .inr ⟨other, held, by simpa using own⟩
  · rintro (rfl | ⟨other, held, apart⟩)
    · exact ⟨user, lookup_insert _, nofun⟩
    · exact ⟨other, (lookup_insert_ne (by simpa using apart)).trans held, nofun⟩

theorem ownedBeside_of_count (several : 1 < vol.ownerCount) : vol.OwnedBeside (some user) := by
  by_contra alone
  -- every owner's row is then the user's, and a user has one row
  have only : ∀ entry ∈ vol.permissions.entries, (entry.2 == .owner) → (entry == ⟨user, .owner⟩) := by
    rintro ⟨other, role⟩ listed isOwner
    obtain rfl := beq_iff_eq.mp isOwner
    by_contra apart
    exact alone ⟨other, mem_lookup_iff.mpr listed, by simpa using apart⟩
  have once := List.nodup_iff_count_le_one.mp (List.NodupKeys.nodup vol.permissions.nodupKeys) ⟨user, .owner⟩
  exact absurd (several.trans_le (List.countP_mono_left only)) once.not_gt

/-- A call leaves an owner exactly if it keeps one. -/
theorem owned_iff (owned : vol.OwnedBeside none) (taken : vol.step call = some next) :
    next.OwnedBeside none ↔ vol.KeepsOwner call := by
  cases call with
  | grant principal target role =>
    have granted := toOption_eq_some.mp taken
    simp only [grant, bind_eq_ok] at granted
    obtain ⟨-, -, user, rfl, -, -, ⟨⟩⟩ := granted
    exact ownedBeside_insert
  | revoke principal user =>
    have revoked := toOption_eq_some.mp taken
    simp only [revoke, bind_eq_ok] at revoked
    obtain ⟨-, -, revoked⟩ := revoked
    cases held : vol.permissions.lookup user with
    | none => simp [held] at revoked
    | some role =>
      simp only [held, bind_eq_ok, ensure_eq_ok, Bool.or_eq_true, bne_iff_ne, decide_eq_true_eq] at revoked
      obtain ⟨-, plain | several, ⟨⟩⟩ := revoked
      · obtain ⟨other, isOwner, -⟩ := owned
        have apart : other ≠ user := by
          rintro rfl
          exact plain (Option.some.inj (held.symm.trans isOwner))
        exact iff_of_true ⟨other, (lookup_erase_ne apart).trans isOwner, by simp⟩ trivial
      · obtain ⟨other, isOwner, apart⟩ := @ownedBeside_of_count vol user several
        exact iff_of_true ⟨other, (lookup_erase_ne (by simpa using apart)).trans isOwner, by simp⟩ trivial

/-- A created volume has an owner as long as every grant keeps one, and the next call leaves one exactly if it
does too. -/
theorem owner_kept_iff {principal : Rbac.Principal} {scope : VolumeScope} {first : SharedVolume}
    {calls : List SharingCall} (created : create principal scope = .ok first)
    (run : Run step KeepsOwner first calls vol) (taken : vol.step call = some next) :
    vol.OwnedBeside none ∧ (next.OwnedBeside none ↔ vol.KeepsOwner call) := by
  have initial : first.OwnedBeside none := by
    simp only [create, bind_eq_ok] at created
    obtain ⟨-, -, ⟨⟩⟩ := created
    exact ⟨principal.userId, lookup_insert _, by simp⟩
  have owned : vol.OwnedBeside none :=
    run.invariant initial fun _ _ _ keeps taken owned => (owned_iff owned taken).mpr keeps
  exact ⟨owned, owned_iff owned taken⟩

def groupAdmin : Rbac.Principal where
  userId := 1
  globalRole := none
  globalRoles := []
  memberships := AList.singleton 0 .groupAdmin
  email := none
  orgAdminOrgs := []
  mustChangePassword := false

def groupVolume : SharedVolume := ⟨.group 0, none, (∅ : AList _).insert 1 .owner⟩

/-- A reader leaves the creator an owner. -/
theorem owner_kept_shared : ∃ next, create groupAdmin (.group 0) = .ok groupVolume ∧
    groupVolume.step (.grant groupAdmin (.ok 2) .ro) = some next ∧ next.OwnedBeside none := by
  have created : create groupAdmin (.group 0) = .ok groupVolume := rfl
  have taken : groupVolume.step (.grant groupAdmin (.ok 2) .ro) = some _ := rfl
  exact ⟨_, created, taken, (owner_kept_iff created (.nil _) taken).2.mpr (.inr ⟨1, rfl, by decide⟩)⟩

/-- The administrator of the group makes its only owner, who created the volume, a reader. -/
theorem owner_demoted : ∃ next, create groupAdmin (.group 0) = .ok groupVolume ∧
    groupVolume.step (.grant groupAdmin (.ok 1) .ro) = some next ∧ ¬next.OwnedBeside none := by
  refine ⟨_, rfl, rfl, ?_⟩
  rw [ownedBeside_insert]
  rintro (other | ⟨user, held, apart⟩)
  · cases other
  · rw [groupVolume, lookup_insert_ne (by simpa using apart)] at held
    cases held

end GShare.Model.SharedVolume
