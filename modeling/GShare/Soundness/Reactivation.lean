import GShare.Model.Access.Tenants

/-! # Reactivating an organization

The reactivation looks at the statuses and the last reasons of the moment, not at what the deactivation did. It
restores every status if and only if nothing looked as if the deactivation had done it: no group of the
organization was inactive, and no user who depends on the organization was frozen.
-/

namespace GShare.Model.Tenants

variable {tenants : Tenants} {principal : Rbac.Principal} {org : OrgId}

/-- No live group of the organization is inactive, and no user who is in one of them, and in no active group
elsewhere, is frozen. -/
def Untouched (tenants : Tenants) (org : OrgId) : Prop :=
  (∀ id, ∀ group ∈ tenants.groups id, tenants.isLive org id → group.status ≠ .inactive) ∧
    ∀ id, ∀ user ∈ tenants.users id, tenants.isTarget (tenants.isLive org) id → user.isFrozen = false

def SameStatuses (tenants other : Tenants) : Prop :=
  (∀ id, (tenants.groups id).map Group.status = (other.groups id).map Group.status) ∧
    ∀ id, (tenants.users id).map User.status = (other.users id).map User.status

section Moved

variable {moved : Tenants} {gids : GroupId → Bool} {old new : GroupStatus}
variable (groups : ∀ id, moved.groups id = (tenants.groups id).map (Group.move (gids id) old new))

include groups

theorem isLive_of_moved : moved.isLive org = tenants.isLive org := by
  funext id
  rw [isLive, groups, Option.any_map]
  rfl

/-- Whom a cascade is about does not depend on the statuses of the groups that it is called for. -/
theorem isTarget_of_moved (memberships : moved.memberships = tenants.memberships) :
    moved.isTarget gids = tenants.isTarget gids := by
  have elsewhere : ∀ id, (!gids id && moved.isActive id) = (!gids id && tenants.isActive id) := by
    intro id
    cases absent : gids id with
    | true => rfl
    | false =>
      rw [isActive, groups, absent, Option.any_map]
      rfl
  funext user
  simp only [isTarget, memberships, elsewhere]

end Moved

/-- What a change of the status does, in terms of the rows before. -/
theorem updateOrganization_of_ne {old status : OrgStatus}
    (allowed : Rbac.rbacAllows principal "org.update" none) (found : tenants.orgs org = some old)
    (differ : status ≠ old) :
    ∃ next, tenants.updateOrganization principal org status = some next ∧ next.orgs org = some status ∧
      next.memberships = tenants.memberships ∧ (∀ id, next.groups id =
        (tenants.groups id).map (Group.move (tenants.isLive org id) old.ofGroup status.ofGroup)) ∧
      ∀ id, next.users id = (tenants.users id).map fun user =>
        if tenants.isTarget (tenants.isLive org) id then user.cascade status else user := by
  simp only [updateOrganization, allowed, found, guard_true, Option.pure_def, Option.bind_eq_bind, Option.bind_some,
    if_neg differ]
  refine ⟨_, rfl, Function.update_self .., rfl, fun _ => rfl, fun id => ?_⟩
  simp only [cascadeGroupUsers]
  rw [isTarget_of_moved fun _ => rfl]
  rfl

/-- A change of the rows restores the statuses if it does so in each row but those that look deactivated. -/
theorem sameStatuses_iff {next : Tenants} {onGroup : GroupId → Group → Group} {onUser : UserId → User → User}
    (groups : ∀ id, next.groups id = (tenants.groups id).map (onGroup id))
    (users : ∀ id, next.users id = (tenants.users id).map (onUser id))
    (groupRow : ∀ id group, (onGroup id group).status = group.status ↔
      (tenants.isLive org id → group.status ≠ .inactive))
    (userRow : ∀ id user, (onUser id user).status = user.status ↔
      (tenants.isTarget (tenants.isLive org) id → user.isFrozen = false)) :
    next.SameStatuses tenants ↔ tenants.Untouched org := by
  refine and_congr (forall_congr' fun id => ?_) (forall_congr' fun id => ?_)
  · rw [groups]
    cases tenants.groups id <;> simp [groupRow]
  · rw [users]
    cases tenants.users id <;> simp [userRow]

theorem User.status_of_isFrozen {user : User} (frozen : user.isFrozen) : user.status = .inactive := by
  simp only [User.isFrozen, Bool.and_eq_true, beq_iff_eq] at frozen
  exact frozen.1

theorem status_cascade_active (user : User) :
    (user.cascade .active).status = user.status ↔ user.isFrozen = false := by
  rw [User.cascade]
  split_ifs with frozen
  · simp [frozen, User.status_of_isFrozen frozen]
  · simp [frozen]

/-- The cascade lifts whom it has frozen. -/
theorem status_cascade_cascade (user : User) :
    ((user.cascade .inactive).cascade .active).status = user.status ↔ user.isFrozen = false := by
  by_cases active : user.status = .active
  · simp [User.cascade, User.isFrozen, active]
  · rw [User.cascade, if_neg active, status_cascade_active]

/-- An organization that is set inactive and then active again, with nothing in between, has restored the
status of every group and of every user if and only if nothing of it looked deactivated before. -/
theorem reactivation_restores_iff (tenants : Tenants) (principal : Rbac.Principal) (org : OrgId)
    (allowed : Rbac.rbacAllows principal "org.update" none) (live : (tenants.orgs org).isSome) :
    ∃ inactive active, tenants.updateOrganization principal org .inactive = some inactive ∧
      inactive.updateOrganization principal org .active = some active ∧
      (active.SameStatuses tenants ↔ tenants.Untouched org) := by
  obtain ⟨old, found⟩ := Option.isSome_iff_exists.mp live
  cases old with
  | inactive =>
    obtain ⟨active, on, -, -, groups, users⟩ :=
      updateOrganization_of_ne allowed found (show OrgStatus.active ≠ .inactive by decide)
    refine ⟨tenants, active, by simp [updateOrganization, allowed, found], on, sameStatuses_iff groups users ?_ ?_⟩
    · intro id group
      cases status : group.status <;> simp [Group.move, OrgStatus.ofGroup, status]
    · intro id user
      split_ifs with target <;> simp [target, status_cascade_active]
  | active =>
    obtain ⟨inactive, off, foundOff, memberships, groups, users⟩ :=
      updateOrganization_of_ne allowed found (show OrgStatus.inactive ≠ .active by decide)
    obtain ⟨active, on, -, -, groupsOn, usersOn⟩ :=
      updateOrganization_of_ne allowed foundOff (show OrgStatus.active ≠ .inactive by decide)
    simp only [isLive_of_moved groups, isTarget_of_moved groups memberships, groups, users, Option.map_map]
      at groupsOn usersOn
    refine ⟨inactive, active, off, on, sameStatuses_iff groupsOn usersOn ?_ ?_⟩
    · intro id group
      cases listed : tenants.isLive org id <;> cases status : group.status <;>
        simp [Group.move, OrgStatus.ofGroup, status]
    · intro id user
      by_cases target : tenants.isTarget (tenants.isLive org) id <;> simp [target, status_cascade_cascade]

def platformOwner : Rbac.Principal := ⟨0, some .superAdmin, [.superAdmin], ∅, none, [], false⟩

/-- An active organization with two groups; its one user is in the second. -/
def company (first : GroupStatus) : Tenants where
  orgs _ := some .active
  groups id := some ⟨0, if id = 0 then first else .active, false⟩
  users id := if id = 0 then some ⟨.active, false, some "$2b$12$", []⟩ else none
  memberships := [(0, 1)]

theorem reactivation_restores_company : Rbac.rbacAllows platformOwner "org.update" none ∧
    ((company .archived).orgs 0).isSome ∧
    ∃ inactive active, (company .archived).updateOrganization platformOwner 0 .inactive = some inactive ∧
      inactive.updateOrganization platformOwner 0 .active = some active ∧
      active.SameStatuses (company .archived) := by
  have untouched : (company .archived).Untouched 0 := by
    refine ⟨fun id group found _ => ?_, fun id user found _ => ?_⟩
    · cases found
      split_ifs <;> decide
    · simp only [company] at found
      split_ifs at found <;> cases found
      rfl
  obtain ⟨inactive, active, off, on, restores⟩ :=
    reactivation_restores_iff (company .archived) platformOwner 0 (by decide) rfl
  exact ⟨by decide, rfl, inactive, active, off, on, restores.mpr untouched⟩

/-- A group that was set inactive alone is active after the organization's round trip. -/
theorem inactive_group_reactivated :
    ((company .inactive).groups 0).map Group.status = some .inactive ∧
      (((company .inactive).updateOrganization platformOwner 0 .inactive).bind
        (·.updateOrganization platformOwner 0 .active)).map (fun tenants => (tenants.groups 0).map Group.status) =
        some (some .active) := by
  decide

end GShare.Model.Tenants
