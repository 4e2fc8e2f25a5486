import GShare.Proofs.Access.Rbac

/-! # Authorization stays within a tenant

The answer for an action on a group depends on the user's own memberships in the group, on who administers
the group's organization, and on nothing else: not on other users, not on other organizations, and not on
the roles that a token claims.
-/

namespace GShare.Soundness.TenantIsolation

open Model.Rbac Directory

def SuperAdmin (dir : Directory) (user : Model.UserId) : Prop :=
  ∃ row, dir.users user = some row ∧ .superAdmin ∈ row.granted

/-- The action is known with a scoped minimum role, and the user meets it in the group: by an unexpired
membership, or as the administrator of the organization of the live group. -/
def Entitled (dir : Directory) (user : Model.UserId) (now : ℤ) (action : String)
    (group : Model.GroupId) : Prop :=
  ∃ spec minimum, actionMatrix.lookup action = some spec ∧ .scoped minimum ∈ spec ∧
    ((∃ row, dir.Holds user now row ∧ row.group = some group ∧ row.role.satisfies minimum) ∨
      dir.Governs user now group ∧ Role.orgAdmin.satisfies minimum)

def Concerns (dir : Directory) (org : Model.OrgId) (row : Membership) : Prop :=
  row.org = some org ∨ ∃ project ∈ dir.projects.rows, row.group = some project.id ∧ project.org = org

/-- Two states of the tables that differ only in rows about other users or other organizations than those
of a user and a group. -/
structure SameTenant (left right : Directory) (user : Model.UserId) (group : Model.GroupId) : Prop where
  account : left.users user = right.users user
  project : left.projects.find? group = right.projects.find? group
  siblings : ∀ home ∈ left.projects.find? group, ∀ project : Project, project.org = home.org →
    (project ∈ left.projects.rows ↔ project ∈ right.projects.rows)
  own : ∀ row : Membership, row.user = user → row.group = some group →
    (row ∈ left.memberships ↔ row ∈ right.memberships)
  tenant : ∀ home ∈ left.projects.find? group, ∀ row : Membership, row.user = user →
    Concerns left home.org row → (row ∈ left.memberships ↔ row ∈ right.memberships)

variable {claims : Claims} {principal : Principal}

section Isolation

variable {left right dir : Directory} {user : Model.UserId} {group : Model.GroupId} {now : ℤ}
variable {action : String}

section

variable (resolved : dir.resolvePrincipal claims now = .ok principal)

include resolved

theorem resolvePrincipal_ok :
    (∃ row, dir.users claims.sub = some row ∧ principal.globalRoles = row.granted) ∧
      principal.memberships = (dir.held claims.sub now).memberships := by
  unfold resolvePrincipal at resolved
  split at resolved
  · cases resolved
  next row found =>
    split_ifs at resolved
    cases resolved
    exact ⟨⟨row, found, rfl⟩, rfl⟩

theorem superAdmin_iff : .superAdmin ∈ principal.globalRoles ↔ SuperAdmin dir claims.sub := by
  obtain ⟨⟨row, found, roles⟩, -⟩ := resolvePrincipal_ok resolved
  rw [roles]
  constructor
  · exact fun member => ⟨row, found, member⟩
  · rintro ⟨same, isSame, member⟩
    cases found.symm.trans isSame
    exact member

theorem rbacAllows_of_resolved : rbacAllows principal action (some group) ↔
      SuperAdmin dir claims.sub ∨ Entitled dir claims.sub now action group := by
  by_cases super : .superAdmin ∈ principal.globalRoles
  · simp [rbacAllows, super, (superAdmin_iff resolved).mp super]
  · rw [rbacAllows_iff super, (resolvePrincipal_ok resolved).2]
    simp only [held_satisfies, Entitled, (superAdmin_iff resolved).not.mp super, false_or]

end

/-- Whether an account is let in depends on its row. -/
theorem resolvePrincipal_congr {other : Claims} (same : claims.sub = other.sub)
    (account : left.users claims.sub = right.users claims.sub) :
    ∀ refusal, left.resolvePrincipal claims now = .error refusal ↔
      right.resolvePrincipal other now = .error refusal := by
  intro refusal
  unfold resolvePrincipal
  rw [← same, ← account]
  cases left.users claims.sub with
  | none => rfl
  | some row => by_cases closed : (row.deleted || row.suspended) <;> simp [closed]

namespace SameTenant

variable (same : SameTenant left right user group)

include same

theorem administers_iff {home : Project} (isHome : left.projects.find? group = some home) :
    left.Administers user now home.org ↔ right.Administers user now home.org := by
  have tenant := same.tenant home isHome
  have siblings := same.siblings home isHome
  constructor
  · rintro ⟨row, ⟨member, isUser, unexpired⟩, admin, place⟩
    have concerns : Concerns left home.org row := place.imp And.right id
    refine ⟨row, ⟨(tenant row isUser concerns).mp member, isUser, unexpired⟩, admin, place.imp_right ?_⟩
    rintro ⟨project, among, isGroup, isOrg⟩
    exact ⟨project, (siblings project isOrg).mp among, isGroup, isOrg⟩
  · rintro ⟨row, ⟨member, isUser, unexpired⟩, admin, place⟩
    have place : row.group = none ∧ row.org = some home.org ∨ ∃ project ∈ left.projects.rows,
        row.group = some project.id ∧ project.org = home.org := by
      refine place.imp_right ?_
      rintro ⟨project, among, isGroup, isOrg⟩
      exact ⟨project, (siblings project isOrg).mpr among, isGroup, isOrg⟩
    have concerns : Concerns left home.org row := place.imp And.right id
    exact ⟨row, ⟨(tenant row isUser concerns).mpr member, isUser, unexpired⟩, admin, place⟩

theorem governs_iff : left.Governs user now group ↔ right.Governs user now group := by
  have through : ∀ tables : Directory, tables.Governs user now group ↔
      ∃ home ∈ tables.projects.find? group, home.deleted = false ∧
        tables.Administers user now home.org := by
    intro tables
    constructor
    · rintro ⟨home, member, isGroup, live, admin⟩
      exact ⟨home, Accounting.Roster.find?_eq_some_iff.mpr ⟨member, isGroup⟩, live, admin⟩
    · rintro ⟨home, found, live, admin⟩
      obtain ⟨member, isGroup⟩ := Accounting.Roster.find?_eq_some_iff.mp found
      exact ⟨home, member, isGroup, live, admin⟩
  rw [through left, through right, ← same.project]
  constructor
  · rintro ⟨home, found, live, admin⟩
    exact ⟨home, found, live, (same.administers_iff found).mp admin⟩
  · rintro ⟨home, found, live, admin⟩
    exact ⟨home, found, live, (same.administers_iff found).mpr admin⟩

theorem entitled_iff : Entitled left user now action group ↔ Entitled right user now action group := by
  have member : ∀ minimum,
      (∃ row, left.Holds user now row ∧ row.group = some group ∧ row.role.satisfies minimum) ↔
        ∃ row, right.Holds user now row ∧ row.group = some group ∧ row.role.satisfies minimum := by
    intro minimum
    refine exists_congr fun row => ?_
    constructor
    · rintro ⟨⟨member, isUser, unexpired⟩, isGroup, satisfied⟩
      exact ⟨⟨(same.own row isUser isGroup).mp member, isUser, unexpired⟩, isGroup, satisfied⟩
    · rintro ⟨⟨member, isUser, unexpired⟩, isGroup, satisfied⟩
      exact ⟨⟨(same.own row isUser isGroup).mpr member, isUser, unexpired⟩, isGroup, satisfied⟩
  simp only [Entitled, member, same.governs_iff]

end SameTenant

end Isolation

/-- What a principal may do in a group is what the tables entitle its user to, and no row about another
user or another organization and no role claim of the token changes the answer. -/
theorem rbacAllows_isolated (dir : Directory) (claims : Claims) (now : ℤ) (group : Model.GroupId)
    (action : String) : (∀ principal, dir.resolvePrincipal claims now = .ok principal →
      ¬SuperAdmin dir claims.sub → (rbacAllows principal action (some group) ↔
          Entitled dir claims.sub now action group)) ∧
    ∀ (other : Directory) (token : Claims), token.sub = claims.sub →
      SameTenant dir other claims.sub group →
        other.permits token now action (some group) = dir.permits claims now action (some group) := by
  constructor
  · intro principal resolved ordinary
    rw [rbacAllows_of_resolved resolved]
    exact or_iff_right ordinary
  · intro other token sub same
    have gate : ∀ refusal, dir.resolvePrincipal claims now = .error refusal ↔
        other.resolvePrincipal token now = .error refusal := resolvePrincipal_congr sub.symm same.account
    unfold permits
    cases resolved : dir.resolvePrincipal claims now with
    | error refusal => rw [(gate refusal).mp resolved]
    | ok principal =>
      cases met : other.resolvePrincipal token now with
      | error refusal => cases resolved.symm.trans ((gate refusal).mpr met)
      | ok twin =>
        have super : SuperAdmin dir claims.sub ↔ SuperAdmin other token.sub := by
          rw [SuperAdmin, SuperAdmin, sub, same.account]
        have answer : rbacAllows twin action (some group) ↔
            rbacAllows principal action (some group) := by
          rw [rbacAllows_of_resolved met, rbacAllows_of_resolved resolved, super, same.entitled_iff, sub]
        rw [Except.map, Except.map, Bool.eq_iff_iff.mpr answer]

/-- User 1 administers organization 3 through an old membership in its group 8; user 2 is a guest of
group 7. -/
def office : Directory where
  users user := if user = 1 ∨ user = 2 then some ⟨false, false, none, [], false⟩ else none
  memberships := [⟨1, some 8, none, .orgAdmin, none⟩, ⟨2, some 7, none, .guest, some 100⟩]
  oneRole := by decide
  projects := ⟨[⟨7, 3, false⟩, ⟨8, 3, true⟩], by decide⟩

/-- The same organization beside another one, and user 2 in both. -/
def twoOffices : Directory where
  users user := if user = 1 ∨ user = 2 then some ⟨false, false, none, [], false⟩ else none
  memberships := [⟨2, some 9, none, .orgAdmin, none⟩, ⟨2, some 7, none, .guest, some 100⟩,
    ⟨1, some 8, none, .orgAdmin, none⟩]
  oneRole := by decide
  projects := ⟨[⟨9, 4, false⟩, ⟨8, 3, true⟩, ⟨7, 3, false⟩], by decide⟩

/-- The second organization and a claimed role change nothing for user 1 in group 7. -/
theorem office_isolated :
    (∃ principal, office.resolvePrincipal ⟨1, none, none, []⟩ 50 = .ok principal ∧
      Entitled office 1 50 "group.delete" 7) ∧
      twoOffices.permits ⟨1, none, some .superAdmin, [.superAdmin]⟩ 50 "group.delete" (some 7) = .ok true ∧
      office.permits ⟨2, none, none, []⟩ 50 "group.delete" (some 7) = .ok false := by
  have same : SameTenant office twoOffices 1 7 := by
    constructor
    · rfl
    · rfl
    · rintro home isHome project isOrg
      cases isHome
      obtain ⟨id, org, deleted⟩ := project
      obtain rfl : org = 3 := isOrg
      simp [office, twoOffices, or_comm]
    · rintro ⟨user, group, org, role, expires⟩ rfl rfl
      simp [office, twoOffices]
    · rintro home - ⟨user, group, org, role, expires⟩ rfl -
      simp [office, twoOffices]
  obtain ⟨exact, blind⟩ := rbacAllows_isolated office ⟨1, none, none, []⟩ 50 7 "group.delete"
  refine ⟨⟨_, rfl, ?_⟩, ?_, by decide +kernel⟩
  · refine (exact _ rfl ?_).mp (by decide +kernel)
    rintro ⟨row, found, member⟩
    cases found
    cases member
  · rw [blind twoOffices ⟨1, none, some .superAdmin, [.superAdmin]⟩ rfl same]
    decide +kernel

end GShare.Soundness.TenantIsolation
