import GShare.Model.Access.Accounts

/-! # Who a volume is shared with

`create_volume`, `grant_permission` and `revoke_permission` of `volumes_router`, on one live volume. The first
row makes the creator an owner; `owner_id` names the creator too, or the group whose volume it is.
-/

namespace GShare.Model

open Rbac

inductive VolumeScope where
  | user (id : UserId)
  | group (id : GroupId)
  | global
deriving DecidableEq, Repr

inductive VolumeRole where
  | owner | rw | ro
deriving DecidableEq, Repr

structure SharedVolume where
  scope : VolumeScope
  /-- The user that `owner_id` names. -/
  ownerId : Option UserId
  permissions : AList fun _ : UserId => VolumeRole

namespace SharedVolume

variable (principal : Rbac.Principal) (vol : SharedVolume)

def assertCanManage : VolumeScope → Except UserRefusal Unit
  | .global => ensure principal.isSuper
      (.forbidden "not permitted: only a system administrator can manage a shared volume")
  | .user id => ensure (principal.isSuper || id == principal.userId)
      (.forbidden "not permitted: you cannot manage another user's personal volume")
  | .group id => ensure (principal.isSuper || rbacAllows principal "volume.create" (some id))
      (.forbidden "not permitted: only that group's administrators can manage a group volume")

def create (scope : VolumeScope) : Except UserRefusal SharedVolume := do
  assertCanManage principal scope
  let ownerId := match scope with
    | .group _ => none
    | .user _ | .global => some principal.userId
  return ⟨scope, ownerId, (∅ : AList _).insert principal.userId .owner⟩

/-- `target` is the user that the body names, or what is wrong with it. -/
def grant (target : Except UserRefusal UserId) (role : VolumeRole) : Except UserRefusal SharedVolume := do
  assertCanManage principal vol.scope
  let target ← target
  ensure (vol.ownerId != some target) (.validation "the owner already has full access")
  return { vol with permissions := vol.permissions.insert target role }

def ownerCount : ℕ := vol.permissions.entries.countP (·.2 == .owner)

def revoke (user : UserId) : Except UserRefusal SharedVolume := do
  let _ ← (if principal.userId = user then .ok () else assertCanManage principal vol.scope)
  match vol.permissions.lookup user with
  | none => .error (.notFound "permission")
  | some role =>
    ensure (role != .owner || 1 < vol.ownerCount) (.conflict "cannot revoke the last owner")
    return { vol with permissions := vol.permissions.erase user }

end SharedVolume

inductive SharingCall where
  | grant (principal : Rbac.Principal) (target : Except UserRefusal UserId) (role : VolumeRole)
  | revoke (principal : Rbac.Principal) (user : UserId)

def SharedVolume.step (vol : SharedVolume) : SharingCall → Option SharedVolume
  | .grant principal target role => (vol.grant principal target role).toOption
  | .revoke principal user => (vol.revoke principal user).toOption

end GShare.Model
