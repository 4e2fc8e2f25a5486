import GShare.Model.Access.Accounts
import GShare.Proofs.Access.Rbac

/-! # Accounts above the caller's rank

The endpoints ask for a role that the caller has where the target is, and none compares it with the roles
of the target: only a reset spares a `super_admin`. So a caller acts on whoever is in a group they lead,
on a `super_admin` among these if they are an administrator of some organization, and as such on whoever
is in no group.
-/

namespace GShare.Model.Rbac

/-- The patch would change something. -/
def UserPatch.asks (patch : UserPatch) : Bool :=
  patch.name || patch.email.isSome || patch.status.isSome || patch.password || patch.forcePasswordReset

namespace Directory

open List

section

variable (dir : Directory) (principal : Principal) (target : UserId)

/-- The target is no `super_admin`, and has nowhere a role above the caller's. -/
structure Below (now : ℤ) : Prop where
  ordinary : ∀ user ∈ dir.users target, user.isSuper = false
  groups : ∀ group, ∀ role ∈ (dir.held target now).memberships.lookup group,
    role.rank?.isSome → scopedRoleSatisfies principal role (some group)
  orgs : ∀ org ∈ (dir.held target now).orgAdminOrgs, org ∈ principal.orgAdminOrgs

/-- Some call of the caller that asks for a change of the account succeeds. -/
inductive Acts : Prop
  | reset (success : dir.resetUserPassword principal target = .ok ())
  | update (patch : UserPatch) (asks : patch.asks) (success : dir.updateUser principal target patch = .ok ())
  | move (group : Option GroupId) (asks : group.isSome ∨ dir.targetGroupIds target ≠ [])
      (success : dir.setUserDepartment principal target group = .ok ())
  | delete (hard live history : Bool) (success : dir.deleteUser principal target hard live history = .ok ())

variable (caller : UserId) (now : ℤ)

/-- The caller administers the group: by their role in it, or by its organization. -/
def Leads (group : GroupId) : Prop :=
  dir.Governs caller now group ∨
    ∃ row, dir.Holds caller now row ∧ row.group = some group ∧ row.role ∈ adminRoles

/-- The caller is the administrator of some organization. -/
def IsOrgAdmin : Prop :=
  ∃ row, dir.Holds caller now row ∧ row.role = .orgAdmin ∧ (row.group.isSome ∨ row.org.isSome)

/-- The user is there, and is in a group that the caller leads, and then no `super_admin` or the caller an
organization's administrator; or the user is in no group, and the caller governs one. -/
def Reaches : Prop :=
  ∃ user ∈ dir.users target, user.deleted = false ∧
    ((∃ group ∈ dir.targetGroupIds target, dir.Leads caller now group) ∧
        (user.isSuper = false ∨ dir.IsOrgAdmin caller now) ∨
      dir.targetGroupIds target = [] ∧ ∃ group, dir.Governs caller now group)

end

variable {dir : Directory} {principal : Principal} {caller target : UserId} {now : ℤ}
variable {group : GroupId} {user : User}

theorem loadUser_eq_ok : dir.loadUser target = .ok user ↔ user ∈ dir.users target ∧ user.deleted = false := by
  unfold loadUser
  cases found : dir.users target with
  | none => simp
  | some row =>
    cases gone : row.deleted <;> simp only [Option.filter, gone, Option.mem_some_iff]
    · simp only [Bool.not_false, if_true, Except.ok.injEq]
      exact ⟨fun same => ⟨same, same ▸ gone⟩, And.left⟩
    · simp only [Bool.not_true, Bool.false_eq_true, if_false, reduceCtorEq, false_iff]
      rintro ⟨rfl, live⟩
      cases gone.symm.trans live

theorem governs_of_live (row : Membership) (holds : dir.Holds caller now row) (admin : row.role = .orgAdmin)
    (isGroup : row.group = some group) (live : (dir.projects.find? group).any (!·.deleted)) :
    dir.Governs caller now group := by
  obtain ⟨project, found, notDeleted⟩ := (Option.any_eq_true ..).mp live
  obtain ⟨member, same⟩ := Accounting.Roster.find?_eq_some_iff.mp found
  refine ⟨project, member, same, by simpa using notDeleted, row, holds, admin, .inr ⟨project, member, ?_, rfl⟩⟩
  rw [isGroup, same]

theorem isOrgAdmin_of_administers {org : OrgId} (administers : dir.Administers caller now org) :
    dir.IsOrgAdmin caller now := by
  obtain ⟨row, holds, admin, ⟨-, isOrg⟩ | ⟨project, -, isGroup, -⟩⟩ := administers
  · exact ⟨row, holds, admin, .inr (isOrg ▸ rfl)⟩
  · exact ⟨row, holds, admin, .inl (isGroup ▸ rfl)⟩

theorem Governs.isOrgAdmin (governs : dir.Governs caller now group) : dir.IsOrgAdmin caller now :=
  have ⟨_, _, _, _, administers⟩ := governs
  isOrgAdmin_of_administers administers

theorem leads_iff :
    dir.Leads caller now group ↔ ((dir.held caller now).memberships.lookup group).any (· ∈ adminRoles) := by
  simp only [Option.any_eq_true, decide_eq_true_eq, lookup_held, Leads]
  constructor
  · rintro (governs | ⟨row, holds, isGroup, admin⟩)
    · exact ⟨.orgAdmin, .inl ⟨governs, rfl⟩, by decide⟩
    · by_cases governs : dir.Governs caller now group
      · exact ⟨.orgAdmin, .inl ⟨governs, rfl⟩, by decide⟩
      · exact ⟨_, .inr ⟨governs, row, holds, isGroup, rfl⟩, admin⟩
  · rintro ⟨role, ⟨governs, -⟩ | ⟨-, row, holds, isGroup, rfl⟩, admin⟩
    · exact .inl governs
    · exact .inr ⟨row, holds, isGroup, admin⟩

theorem isOrgAdmin_of_lookup (held : (dir.held caller now).memberships.lookup group = some .orgAdmin) :
    dir.IsOrgAdmin caller now := by
  rcases lookup_held.mp held with ⟨governs, -⟩ | ⟨-, row, holds, isGroup, admin⟩
  · exact governs.isOrgAdmin
  · exact ⟨row, holds, admin, .inl (isGroup ▸ rfl)⟩

theorem IsOrgAdmin.cases (isAdmin : dir.IsOrgAdmin caller now) :
    (∃ group, (dir.held caller now).memberships.lookup group = some .orgAdmin) ∨
      ∃ org, org ∈ (dir.held caller now).orgAdminOrgs := by
  obtain ⟨row, holds, admin, placed⟩ := isAdmin
  cases isGroup : row.group with
  | some group =>
    refine .inl ⟨group, lookup_held.mpr ?_⟩
    by_cases governs : dir.Governs caller now group
    · exact .inl ⟨governs, rfl⟩
    · exact .inr ⟨governs, row, holds, isGroup, admin⟩
  | none =>
    obtain ⟨org, isOrg⟩ := Option.isSome_iff_exists.mp (placed.resolve_left (by simp [isGroup]))
    exact .inr ⟨org, mem_orgs_absorbLegacy.mpr ⟨row, holds, admin, .inl ⟨isGroup, isOrg⟩⟩⟩

section

variable (resolved : principal.memberships = (dir.held caller now).memberships)

include resolved

theorem shares_adminRoles_iff : dir.shares principal target adminRoles ↔
    ∃ group ∈ dir.targetGroupIds target, dir.Leads caller now group := by
  simp only [shares, resolved, any_eq_true, leads_iff]

theorem leads_of_shares (shares : dir.shares principal target [.orgAdmin]) :
    (∃ group ∈ dir.targetGroupIds target, dir.Leads caller now group) ∧ dir.IsOrgAdmin caller now := by
  simp only [Directory.shares, resolved, any_eq_true, Option.any_eq_true, decide_eq_true_eq, mem_singleton]
    at shares
  obtain ⟨group, among, role, held, rfl⟩ := shares
  refine ⟨⟨group, among, leads_iff.mpr ?_⟩, isOrgAdmin_of_lookup held⟩
  rw [held]
  rfl

variable (orgs : principal.orgAdminOrgs = (dir.held caller now).orgAdminOrgs)
variable (ordinary : principal.isSuper = false)

include orgs ordinary

theorem mayDelete_iff : rbacAllows principal "user.delete" none ↔ dir.IsOrgAdmin caller now := by
  have spec : actionMatrix.lookup "user.delete" = some (scopedFrom .orgAdmin) := by decide
  have rank (role : Role) : role.atLeast 3 ↔ role = .orgAdmin := by cases role <;> decide
  have allows : rbacAllows principal "user.delete" none ↔
      (∃ group, (dir.held caller now).memberships.lookup group = some .orgAdmin) ∨
        ∃ org, org ∈ (dir.held caller now).orgAdminOrgs := by
    have plain : decide (.superAdmin ∈ principal.globalRoles) = false := ordinary
    simp only [rbacAllows, plain, spec, scopedFrom, Bool.false_or, Option.any_some, any_cons, any_nil,
      Bool.or_false, Tier.grants, scopedRoleSatisfies, Role.rank?, resolved, orgs, Bool.or_eq_true,
      Bool.and_eq_true, any_eq_true, rank, Bool.not_eq_true', isEmpty_eq_false_iff_exists_mem]
    refine or_congr ⟨?_, ?_⟩ ⟨fun some_org => some_org.1, fun some_org => ⟨some_org, trivial⟩⟩
    · rintro ⟨⟨group, role⟩, member, rfl⟩
      exact ⟨group, AList.mem_lookup_iff.mpr member⟩
    · rintro ⟨group, held⟩
      exact ⟨⟨group, .orgAdmin⟩, AList.mem_lookup_iff.mp held, rfl⟩
  rw [allows]
  refine ⟨?_, IsOrgAdmin.cases⟩
  rintro (⟨group, held⟩ | ⟨org, among⟩)
  · exact isOrgAdmin_of_lookup held
  · exact isOrgAdmin_of_administers (mem_orgs_absorbLegacy.mp among)

theorem leads_of_inScope (other : principal.userId ≠ target) (inScope : dir.inScope principal target) :
    ∃ group ∈ dir.targetGroupIds target, dir.Leads caller now group := by
  have own : (principal.userId == target) = false := beq_eq_false_iff_ne.mpr other
  simp only [Directory.inScope, own, sharesAdminScope, ordinary, Bool.false_or, Bool.or_eq_true] at inScope
  rcases inScope with shares | governed
  · exact (shares_adminRoles_iff resolved).mp shares
  · obtain ⟨group, among, governed⟩ := any_eq_true.mp governed
    obtain ⟨project, found, live⟩ := (Option.any_eq_true ..).mp governed
    obtain ⟨member, same⟩ := Accounting.Roster.find?_eq_some_iff.mp found
    simp only [orgs, Bool.and_eq_true, Bool.not_eq_true', decide_eq_true_eq] at live
    exact ⟨group, among, .inl ⟨project, member, same, live.1, mem_orgs_absorbLegacy.mp live.2⟩⟩

theorem reaches_of_acts (other : principal.userId ≠ target) (acts : dir.Acts principal target) :
    dir.Reaches target caller now := by
  have own : (principal.userId == target) = false := beq_eq_false_iff_ne.mpr other
  -- A reset, by itself or within an update, spares a `super_admin`.
  have reset {user : User} (allowed : dir.checkReset principal target user = .ok ()) :
      (∃ group ∈ dir.targetGroupIds target, dir.Leads caller now group) ∧ user.isSuper = false := by
    simp only [checkReset, bind_eq_ok, ensure_eq_ok, sharesAdminScope, ordinary, Bool.false_or,
      Bool.not_eq_true'] at allowed
    obtain ⟨-, shares, plain⟩ := allowed
    exact ⟨(shares_adminRoles_iff resolved).mp shares, plain⟩
  cases acts with
  | reset success =>
    obtain ⟨user, loaded, allowed⟩ := bind_eq_ok.mp success
    obtain ⟨found, live⟩ := loadUser_eq_ok.mp loaded
    obtain ⟨leads, plain⟩ := reset allowed
    exact ⟨user, found, live, .inl ⟨leads, .inl plain⟩⟩
  | update patch asks success =>
    simp only [updateUser, bind_eq_ok, ensure_eq_ok, own, ordinary, Bool.or_false, Bool.not_eq_true',
      Bool.not_false, Bool.and_true] at success
    obtain ⟨user, loaded, _, _, _, unnamed, _, unaddressed, _, suspended, forced⟩ := success
    obtain ⟨found, live⟩ := loadUser_eq_ok.mp loaded
    refine ⟨user, found, live, .inl ?_⟩
    have noEmail : patch.email = none := by
      cases asked : patch.email with
      | none => rfl
      | some fault => simp [asked] at unaddressed
    have noPassword : patch.password = false := by
      rw [Bool.eq_false_iff]
      intro chosen
      simp [chosen] at forced
    simp only [noPassword, Bool.false_eq_true, if_false] at forced
    split_ifs at forced with force
    · obtain ⟨leads, plain⟩ := reset forced
      exact ⟨leads, .inl plain⟩
    · cases asked : patch.status with
      | none => simp [UserPatch.asks, unnamed, noEmail, noPassword, asked, force] at asks
      | some known =>
        simp only [asked, Option.elim_some, bind_eq_ok, ensure_eq_ok, isOrgAdminOfTarget, ordinary,
          Bool.false_or] at suspended
        obtain ⟨leads, isAdmin⟩ := leads_of_shares resolved suspended.choose_spec.1
        exact ⟨leads, .inr isAdmin⟩
  | move group asks success =>
    simp only [setUserDepartment, bind_eq_ok, ensure_eq_ok, isOrgAdminOfTarget, ordinary, Bool.false_or,
      Bool.or_eq_true, List.isEmpty_iff] at success
    obtain ⟨user, loaded, _, _, _, placed, alone | shares⟩ := success
    · obtain ⟨found, live⟩ := loadUser_eq_ok.mp loaded
      refine ⟨user, found, live, .inr ⟨alone, ?_⟩⟩
      obtain ⟨group, rfl⟩ := Option.isSome_iff_exists.mp (asks.resolve_right (not_not.mpr alone))
      simp only [Option.elim_some, bind_eq_ok, ensure_eq_ok, decide_eq_true_eq, resolved] at placed
      obtain ⟨-, isLive, held⟩ := placed
      rcases lookup_held.mp held with ⟨governs, -⟩ | ⟨-, row, holds, isGroup, admin⟩
      · exact ⟨group, governs⟩
      · exact ⟨group, governs_of_live row holds admin isGroup isLive⟩
    · obtain ⟨found, live⟩ := loadUser_eq_ok.mp loaded
      obtain ⟨leads, isAdmin⟩ := leads_of_shares resolved shares
      exact ⟨user, found, live, .inl ⟨leads, .inr isAdmin⟩⟩
  | delete hard live history success =>
    simp only [deleteUser, bind_eq_ok, ensure_eq_ok] at success
    obtain ⟨-, allowed, user, loaded, -, inScope, -⟩ := success
    obtain ⟨found, live⟩ := loadUser_eq_ok.mp loaded
    exact ⟨user, found, live, .inl ⟨leads_of_inScope resolved orgs ordinary other inScope,
      .inr ((mayDelete_iff resolved orgs ordinary).mp allowed)⟩⟩

theorem acts_of_reaches (reaches : dir.Reaches target caller now) : dir.Acts principal target := by
  obtain ⟨user, found, live, ⟨leads, plain | isAdmin⟩ | ⟨alone, group, governs⟩⟩ := reaches
  all_goals have loaded := loadUser_eq_ok.mpr ⟨found, live⟩
  · have shares := (shares_adminRoles_iff resolved).mpr leads
    exact .reset (by simp [resetUserPassword, loaded, checkReset, sharesAdminScope, shares, plain])
  · have shares := (shares_adminRoles_iff resolved).mpr leads
    have allowed := (mayDelete_iff resolved orgs ordinary).mpr isAdmin
    exact .delete false false false (by simp [deleteUser, loaded, allowed, inScope, sharesAdminScope, shares])
  · have held : principal.memberships.lookup group = some .orgAdmin :=
      resolved ▸ lookup_held.mpr (.inl ⟨governs, rfl⟩)
    have manages : ∃ entry ∈ principal.memberships.entries, entry.2 = .orgAdmin :=
      ⟨⟨group, .orgAdmin⟩, AList.mem_lookup_iff.mp held, rfl⟩
    obtain ⟨project, member, same, notDeleted, -⟩ := governs
    have isLive : dir.projects.find? group = some project := Accounting.Roster.find?_eq_some_iff.mpr ⟨member, same⟩
    refine .move (some group) (.inl rfl) ?_
    simpa [setUserDepartment, loaded, isLive, notDeleted, held, alone, ordinary] using manages

end

theorem resolvePrincipal_eq_ok {claims : Claims} (resolved : dir.resolvePrincipal claims now = .ok principal) :
    principal.userId = claims.sub ∧ principal.memberships = (dir.held claims.sub now).memberships ∧
      principal.orgAdminOrgs = (dir.held claims.sub now).orgAdminOrgs := by
  unfold resolvePrincipal at resolved
  split at resolved
  · cases resolved
  · split_ifs at resolved
    cases resolved
    exact ⟨rfl, rfl, rfl⟩

/-- Somebody who is no `super_admin` acts on the accounts below them only, exactly when whoever they reach is
below them. -/
theorem acts_below_iff (dir : Directory) (claims : Claims) (target : UserId) (now : ℤ) :
    (∀ principal, dir.resolvePrincipal claims now = .ok principal → principal.isSuper = false →
        claims.sub ≠ target → dir.Acts principal target → dir.Below principal target now) ↔
      ∀ principal, dir.resolvePrincipal claims now = .ok principal → principal.isSuper = false →
        claims.sub ≠ target → dir.Reaches target claims.sub now → dir.Below principal target now := by
  refine forall₃_congr fun principal resolved ordinary => forall_congr' fun other => ?_
  obtain ⟨own, memberships, orgs⟩ := resolvePrincipal_eq_ok resolved
  have same : dir.Acts principal target ↔ dir.Reaches target claims.sub now :=
    ⟨reaches_of_acts memberships orgs ordinary (own ▸ other), acts_of_reaches memberships orgs ordinary⟩
  rw [same]

end Directory

def department : Directory where
  users user := if user < 2 then some ⟨false, false, none, [], false⟩ else none
  memberships := [⟨0, some 0, none, .groupAdmin, none⟩, ⟨1, some 0, none, .member, none⟩,
    ⟨1, none, some 0, .orgAdmin, none⟩]
  oneRole := by decide
  projects := ⟨[⟨0, 0, false⟩], by decide⟩

/-- The group's administrator is given a new password of the organization's. -/
theorem organization_admin_taken_over :
    ∃ principal, department.resolvePrincipal ⟨0, none, none, []⟩ 0 = .ok principal ∧
      principal.isSuper = false ∧ department.resetUserPassword principal 1 = .ok () ∧
      ¬department.Below principal 1 0 := by
  refine ⟨_, rfl, by decide, by decide +kernel, fun below => ?_⟩
  exact absurd (below.orgs 0 (by decide +kernel)) (by decide +kernel)

end GShare.Model.Rbac
