import GShare.Model.Access.Rbac

/-! # What a principal holds

The loops of the resolution by what they leave: the role in a group is the one of the only unexpired row,
an organization is administered by a row of its own or by a legacy one, and the expansion gives the
administrator's role in exactly the live groups of these organizations.
-/

namespace GShare.Model.Rbac

open AList Role Held List

variable {role minimum : Role} {group : GroupId} {org : OrgId}

namespace Role

theorem satisfies_orgAdmin : role.satisfies .orgAdmin ↔ role = .orgAdmin := by
  cases role <;> decide

/-- Nothing outranks an organization's administrator. -/
theorem orgAdmin_satisfies (held : role.satisfies minimum) : orgAdmin.satisfies minimum := by
  cases minimum <;> first | decide | cases held

end Role

variable {principal : Principal}

theorem scopedRoleSatisfies_group :
    scopedRoleSatisfies principal minimum (some group)
      = (principal.memberships.lookup group).any (·.satisfies minimum) := by
  cases rank : minimum.rank? <;> cases found : principal.memberships.lookup group <;>
    simp [scopedRoleSatisfies, satisfies, rank, found]

theorem rbacAllows_iff {action : String} (ordinary : .superAdmin ∉ principal.globalRoles) :
    rbacAllows principal action (some group) ↔
      ∃ spec minimum, actionMatrix.lookup action = some spec ∧ .scoped minimum ∈ spec ∧
        ∃ role, principal.memberships.lookup group = some role ∧ role.satisfies minimum := by
  have tier : ∀ tier : Tier, tier.grants principal (some group) ↔
      ∃ minimum, tier = .scoped minimum ∧
        ∃ role, principal.memberships.lookup group = some role ∧ role.satisfies minimum := by
    intro tier
    cases tier <;> simp [Tier.grants, scopedRoleSatisfies_group, Option.any_eq_true]
  simp only [rbacAllows, ordinary, decide_false, Bool.false_or, Option.any_eq_true, any_eq_true, tier]
  constructor
  · rintro ⟨spec, found, _, member, minimum, rfl, held⟩
    exact ⟨spec, minimum, found, member, held⟩
  · rintro ⟨spec, minimum, found, member, held⟩
    exact ⟨spec, found, _, member, minimum, rfl, held⟩

variable {row : Membership} {rows : List Membership}

namespace Held

variable {now : ℤ} {held : Held} {memberships : AList fun _ : GroupId => Role}

/-- The row says what the user is in the group. -/
def Counts (now : ℤ) (group : GroupId) (row : Membership) : Prop :=
  row.expired now = false ∧ row.group = some group

theorem lookup_collect_of_counts (counts : Counts now group row) :
    (held.collect now row).memberships.lookup group = some row.role := by
  simp [collect, counts.1, counts.2, lookup_insert]

theorem lookup_collect_of_not (other : ¬Counts now group row) :
    (held.collect now row).memberships.lookup group = held.memberships.lookup group := by
  unfold collect
  cases expired : row.expired now with
  | true => rfl
  | false =>
    cases isGroup : row.group with
    | some found =>
      have differs : group ≠ found := by
        rintro rfl
        exact other ⟨expired, isGroup⟩
      exact lookup_insert_ne differs
    | none =>
      cases row.org with
      | none => rfl
      | some org => by_cases admin : row.role = .orgAdmin <;> simp [admin]

theorem lookup_foldl_collect {role : Role}
    (unique : rows.Pairwise fun one other => one.group.isSome → one.group ≠ other.group) :
    (rows.foldl (collect now) held).memberships.lookup group = some role ↔
      (∃ row ∈ rows, Counts now group row ∧ row.role = role) ∨
        (∀ row ∈ rows, ¬Counts now group row) ∧ held.memberships.lookup group = some role := by
  induction rows generalizing held with
  | nil => simp
  | cons row rest ih =>
    obtain ⟨apart, unique⟩ := pairwise_cons.mp unique
    rw [foldl_cons, ih unique]
    by_cases counts : Counts now group row
    · have none_left : ∀ other ∈ rest, ¬Counts now group other := fun other member again =>
        apart other member (by rw [counts.2, Option.isSome_some]) (counts.2.trans again.2.symm)
      rw [lookup_collect_of_counts counts]
      constructor
      · rintro (⟨other, member, again, -⟩ | ⟨-, isRole⟩)
        · exact (none_left other member again).elim
        · exact .inl ⟨row, mem_cons_self, counts, Option.some.inj isRole⟩
      · rintro (⟨other, member, again, isRole⟩ | ⟨absent, -⟩)
        · obtain rfl | member := mem_cons.mp member
          · exact .inr ⟨none_left, by rw [isRole]⟩
          · exact (none_left other member again).elim
        · exact (absent row mem_cons_self counts).elim
    · rw [lookup_collect_of_not counts]
      simp only [mem_cons, exists_eq_or_imp, forall_eq_or_imp, counts, false_and, false_or,
        not_false_eq_true, true_and]

theorem mem_orgs_collect : org ∈ (held.collect now row).orgAdminOrgs ↔ org ∈ held.orgAdminOrgs ∨
        row.expired now = false ∧ row.group = none ∧ row.org = some org ∧ row.role = .orgAdmin := by
  unfold collect
  cases expired : row.expired now <;> cases isGroup : row.group <;> cases isOrg : row.org <;>
    by_cases admin : row.role = .orgAdmin <;> simp [admin, or_comm, eq_comm]

theorem mem_orgs_foldl_collect : org ∈ (rows.foldl (collect now) held).orgAdminOrgs ↔
      org ∈ held.orgAdminOrgs ∨ ∃ row ∈ rows,
        row.expired now = false ∧ row.group = none ∧ row.org = some org ∧ row.role = .orgAdmin := by
  induction rows generalizing held with
  | nil => simp
  | cons row rest ih => simp [ih, mem_orgs_collect, or_assoc]

theorem lookup_raise {raised : GroupId} :
    (raise memberships raised).lookup group
      = if group = raised then some .orgAdmin else memberships.lookup group := by
  unfold raise
  by_cases same : group = raised
  · subst same
    rw [if_pos rfl]
    split_ifs with already
    · obtain ⟨role, isRole, admin⟩ := (Option.any_eq_true _ _).mp already
      rw [isRole, satisfies_orgAdmin.mp admin]
    · exact lookup_insert memberships
  · rw [if_neg same]
    split_ifs
    · rfl
    · exact lookup_insert_ne same

theorem lookup_foldl_raise {groups : List GroupId} :
    (groups.foldl raise memberships).lookup group
      = if group ∈ groups then some .orgAdmin else memberships.lookup group := by
  induction groups generalizing memberships with
  | nil => simp
  | cons raised rest ih =>
    rw [foldl_cons, ih, lookup_raise]
    by_cases here : group ∈ rest <;> by_cases same : group = raised <;> simp [here, same]

end Held

namespace Directory

variable {dir : Directory} {user : UserId} {now : ℤ}

section

variable (dir user now)

def Holds (row : Membership) : Prop :=
  row ∈ dir.memberships ∧ row.user = user ∧ row.expired now = false

/-- The user is the organization's administrator: by a row of the organization, or by a membership in one
of its groups. -/
def Administers (org : OrgId) : Prop :=
  ∃ row, dir.Holds user now row ∧ row.role = .orgAdmin ∧
    (row.group = none ∧ row.org = some org ∨
      ∃ project ∈ dir.projects.rows, row.group = some project.id ∧ project.org = org)

/-- The group is live, and the user administers its organization. -/
def Governs (group : GroupId) : Prop :=
  ∃ project ∈ dir.projects.rows, project.id = group ∧ project.deleted = false ∧
    dir.Administers user now project.org

end

theorem rowsOf_unique :
    (dir.rowsOf user).Pairwise fun one other => one.group.isSome → one.group ≠ other.group := by
  refine (dir.oneRole.filter _).imp_of_mem fun {one other} left right apart isGroup => ?_
  obtain ⟨-, isUser⟩ := mem_filter.mp left
  obtain ⟨-, same⟩ := mem_filter.mp right
  simp only [beq_iff_eq] at isUser same
  exact apart isGroup (isUser.trans same.symm)

theorem mem_rowsOf : row ∈ dir.rowsOf user ∧ row.expired now = false ↔ dir.Holds user now row := by
  simp [rowsOf, Holds, and_assoc]

def collected (dir : Directory) (user : UserId) (now : ℤ) : Held :=
  (dir.rowsOf user).foldl (collect now) ⟨∅, []⟩

theorem lookup_collected : (dir.collected user now).memberships.lookup group = some role ↔
      ∃ row, dir.Holds user now row ∧ row.group = some group ∧ row.role = role := by
  rw [collected, lookup_foldl_collect rowsOf_unique]
  simp only [lookup_empty, reduceCtorEq, and_false, or_false, Held.Counts, ← mem_rowsOf]
  constructor
  · rintro ⟨row, member, ⟨unexpired, isGroup⟩, isRole⟩
    exact ⟨row, ⟨member, unexpired⟩, isGroup, isRole⟩
  · rintro ⟨row, ⟨member, unexpired⟩, isGroup, isRole⟩
    exact ⟨row, member, ⟨unexpired, isGroup⟩, isRole⟩

theorem mem_orgs_absorbLegacy :
    org ∈ ((dir.collected user now).absorbLegacy dir.projects.rows).orgAdminOrgs ↔
      dir.Administers user now org := by
  simp only [absorbLegacy, mem_append, mem_map, mem_filter, decide_eq_true_eq,
    lookup_collected]
  rw [collected, mem_orgs_foldl_collect]
  simp only [not_mem_nil, false_or]
  constructor
  · rintro (⟨row, member, unexpired, isGroup, isOrg, admin⟩ |
      ⟨project, ⟨member, row, holds, isGroup, admin⟩, isOrg⟩)
    · exact ⟨row, mem_rowsOf.mp ⟨member, unexpired⟩, admin, .inl ⟨isGroup, isOrg⟩⟩
    · exact ⟨row, holds, admin, .inr ⟨project, member, isGroup, isOrg⟩⟩
  · rintro ⟨row, holds, admin, ⟨isGroup, isOrg⟩ | ⟨project, member, isGroup, isOrg⟩⟩
    · obtain ⟨member, unexpired⟩ := mem_rowsOf.mpr holds
      exact .inl ⟨row, member, unexpired, isGroup, isOrg, admin⟩
    · exact .inr ⟨project, ⟨member, row, holds, isGroup, admin⟩, isOrg⟩

/-- The groups that the expansion reaches. -/
theorem mem_siblings : group ∈ ((dir.projects.rows.filter fun project =>
        project.org ∈ ((dir.collected user now).absorbLegacy dir.projects.rows).orgAdminOrgs ∧
          !project.deleted).map Project.id) ↔ dir.Governs user now group := by
  simp only [mem_map, mem_filter, decide_eq_true_eq, mem_orgs_absorbLegacy, Bool.not_eq_true',
    Governs]
  constructor
  · rintro ⟨project, ⟨member, admin, live⟩, same⟩
    exact ⟨project, member, same, live, admin⟩
  · rintro ⟨project, member, same, live, admin⟩
    exact ⟨project, ⟨member, admin, live⟩, same⟩

theorem lookup_held : (dir.held user now).memberships.lookup group = some role ↔
      dir.Governs user now group ∧ role = .orgAdmin ∨ ¬dir.Governs user now group ∧
          ∃ row, dir.Holds user now row ∧ row.group = some group ∧ row.role = role := by
  have expanded : (dir.held user now).memberships.lookup group
      = if group ∈ ((dir.projects.rows.filter fun project =>
          project.org ∈ ((dir.collected user now).absorbLegacy dir.projects.rows).orgAdminOrgs ∧
            !project.deleted).map Project.id) then some .orgAdmin
        else (dir.collected user now).memberships.lookup group := lookup_foldl_raise
  rw [expanded]
  by_cases governs : dir.Governs user now group
  · rw [if_pos (mem_siblings.mpr governs)]
    simp [governs, eq_comm]
  · rw [if_neg (mem_siblings.not.mpr governs), lookup_collected]
    simp [governs]

theorem held_satisfies :
    (∃ role, (dir.held user now).memberships.lookup group = some role ∧ role.satisfies minimum) ↔
      (∃ row, dir.Holds user now row ∧ row.group = some group ∧ row.role.satisfies minimum) ∨
        dir.Governs user now group ∧ orgAdmin.satisfies minimum := by
  simp only [lookup_held]
  constructor
  · rintro ⟨role, ⟨governs, rfl⟩ | ⟨-, row, holds, isGroup, rfl⟩, satisfied⟩
    · exact .inr ⟨governs, satisfied⟩
    · exact .inl ⟨row, holds, isGroup, satisfied⟩
  · rintro (⟨row, holds, isGroup, satisfied⟩ | ⟨governs, satisfied⟩)
    · by_cases governs : dir.Governs user now group
      · exact ⟨_, .inl ⟨governs, rfl⟩, orgAdmin_satisfies satisfied⟩
      · exact ⟨_, .inr ⟨governs, row, holds, isGroup, rfl⟩, satisfied⟩
    · exact ⟨_, .inl ⟨governs, rfl⟩, satisfied⟩

end Directory

end GShare.Model.Rbac
