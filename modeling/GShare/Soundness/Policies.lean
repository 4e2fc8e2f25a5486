import GShare.Model.Access.Policy
import GShare.Soundness.Samples

/-! # What a policy write reaches

An approved request is written as a whole row for the requester, which then stands before every other scope:
only a row that had everything already grows by what was asked alone. A write reaches the live sessions by the
memberships of their owners, and not by the groups that the sessions are in.
-/

namespace GShare.Model

open Option List Function PolicyTable

variable {table next other : PolicyTable} {scope : PolicyScope} {change : PolicyWrite} {chain : List PolicyScope}
  {setting : Setting} {dir : Rbac.Directory} {req : ResourceRequest} {principal : Rbac.Principal}

namespace PolicyTable

theorem merge_congr (same : ∀ scope ∈ chain, table scope = other scope) : table.merge chain = other.merge chain :=
  foldl_ext _ _ _ fun _ scope member => by rw [same scope member]

theorem merge_setting (table : PolicyTable) (chain : List PolicyScope) (setting : Setting) :
    (table.merge chain).bind (· setting) = chain.findSome? fun scope => (table scope).bind (· setting) := by
  suffices onward : ∀ merged : Option Settings,
      (chain.foldl (fun merged scope => (table scope).elim merged fun row =>
        some fun setting => (merged.bind (· setting)).or (row setting)) merged).bind (· setting) =
      (merged.bind (· setting)).or (chain.findSome? fun scope => (table scope).bind (· setting)) from
    onward none
  induction chain with
  | nil => simp
  | cons scope rest ih =>
    intro merged
    rw [foldl_cons, ih, findSome?_cons]
    cases table scope with
    | none => rfl
    | some row => cases set : row setting <;> simp [set]

/-- What the row of a scope sets. -/
def value (table : PolicyTable) (setting : Setting) (scope : PolicyScope) : Option ℤ :=
  (table scope).bind (· setting)

/-- The first scope of a chain whose row has the setting. -/
def source (table : PolicyTable) (setting : Setting) (chain : List PolicyScope) : Option PolicyScope :=
  chain.find? fun scope => (table.value setting scope).isSome

def unset (table : PolicyTable) (scope : PolicyScope) (setting : Setting) : PolicyTable :=
  update table scope ((table scope).map fun row => update row setting none)

theorem value_unset : (table.unset scope setting).value setting =
    fun other => if other = scope then none else table.value setting other := by
  funext other
  by_cases same : other = scope
  · subst same
    cases table other <;> simp [unset, value, *]
  · simp [unset, value, same]

theorem source_unset : (table.unset scope setting).source setting chain =
    table.source setting (chain.filter (· ≠ scope)) := by
  rw [source, source, value_unset, find?_filter]
  congr 1
  funext other
  by_cases same : other = scope <;> simp [same]

theorem resolve_concat (table : PolicyTable) (chain : List PolicyScope) (scope : PolicyScope) :
    table.resolve (chain ++ [scope]) = (table scope).elim (table.resolve chain) fun row =>
      some (((table.resolve chain).getD {}).absorb scope row) := by
  simp [resolve]

theorem resolve_eq_none_iff : table.resolve chain = none ↔ ∀ scope ∈ chain, table scope = none := by
  induction chain using reverseRecOn with
  | nil => simp [resolve]
  | append_singleton front scope ih =>
    rw [resolve_concat]
    cases row : table scope <;> simp [ih, or_imp, forall_and, row]

/-- Setting by setting, the merge takes the first row that has it, and its scope. -/
theorem resolve_setting (table : PolicyTable) (chain : List PolicyScope) (setting : Setting) :
    (table.resolve chain).bind (·.sources setting) = table.source setting chain ∧
      (table.resolve chain).bind (·.settings setting) = (table.source setting chain).bind (table.value setting) := by
  induction chain using reverseRecOn with
  | nil => exact ⟨rfl, rfl⟩
  | append_singleton front scope ih =>
    rw [resolve_concat]
    have first : table.source setting (front ++ [scope]) =
        (table.source setting front).or (if (table.value setting scope).isSome then some scope else none) := by
      simp [source, find?_append, find?_singleton]
    have sets : ∀ found ∈ table.source setting front, (table.value setting found).isSome :=
      fun found isFirst => find?_some (p := fun scope => (table.value setting scope).isSome) isFirst
    rw [first]
    generalize table.source setting front = earlier at ih sets
    generalize table.resolve front = merged at ih
    have unset : (merged.getD {}).sources setting = earlier ∧
        (merged.getD {}).settings setting = earlier.bind (table.value setting) := by
      cases merged with
      | none => exact ih
      | some policy => exact ih
    cases given : table scope with
    | none => simpa [value, given] using ih
    | some row =>
      have here : table.value setting scope = row setting := by simp [value, given]
      cases earlier with
      | none => cases set : row setting <;> simp_all [Effective.absorb]
      | some found =>
        obtain ⟨amount, isSet⟩ := isSome_iff_exists.mp (sets found rfl)
        simp [Effective.absorb, unset, isSet]

section

variable (table dir)

/-- The scopes of a user in a group, or outside of every group, the most specific first. -/
def chainOf (user : UserId) (group : Option GroupId) : List PolicyScope :=
  policyChain user group (group.bind fun id => (dir.projects.find? id).map Rbac.Project.org)

/-- The effective policy has every setting from the first scope of the user that sets it, and names that scope.
It depends on these scopes alone, and without its first value a setting has the next one. -/
theorem effective_policy_most_specific (table : PolicyTable) (dir : Rbac.Directory) (user : UserId)
    (group : Option GroupId) : (table.resolve (chainOf dir user group) = none ↔
      ∀ scope ∈ chainOf dir user group, table scope = none) ∧
    (∀ policy ∈ table.resolve (chainOf dir user group), ∀ setting,
      policy.sources setting = table.source setting (chainOf dir user group) ∧
      policy.settings setting = (table.source setting (chainOf dir user group)).bind (table.value setting)) ∧
    (∀ other : PolicyTable, (∀ scope ∈ chainOf dir user group, other scope = table scope) →
      other.resolve (chainOf dir user group) = table.resolve (chainOf dir user group)) ∧
    ∀ scope setting, ((table.unset scope setting).resolve (chainOf dir user group)).bind (·.settings setting) =
      (table.source setting ((chainOf dir user group).filter (· ≠ scope))).bind (table.value setting) := by
  refine ⟨resolve_eq_none_iff, fun policy found setting => ?_, fun other same => ?_, fun scope setting => ?_⟩
  · have merged := table.resolve_setting (chainOf dir user group) setting
    rw [mem_def.mp found] at merged
    exact merged
  · exact foldl_ext _ _ _ fun _ scope member => by rw [same scope member]
  · rw [(resolve_setting _ _ _).2, source_unset]
    cases found : table.source setting ((chainOf dir user group).filter (· ≠ scope)) with
    | none => rfl
    | some next =>
      have other : next ≠ scope := by simpa using (mem_filter.mp (mem_of_find?_eq_some found)).2
      simp [value_unset, other]

def applies (user : UserId) (group : Option GroupId) : Settings :=
  fun setting => (table.resolveEffectivePolicy dir user group).bind (· setting)

/-- The chain behind the user's own scope. -/
def shared (group : Option GroupId) : List PolicyScope :=
  (group.map .group).toList ++
    ((group.bind fun id => (dir.projects.find? id).map Rbac.Project.org).map .org).toList ++ [.global]

end

theorem applies_eq (table : PolicyTable) (dir : Rbac.Directory) (user : UserId) (group : Option GroupId)
    (setting : Setting) :
    table.applies dir user group setting = ((table (.user user)).bind (· setting)).or
      ((shared dir group).findSome? fun scope => (table scope).bind (· setting)) := by
  rw [applies, resolveEffectivePolicy, merge_setting]
  show findSome? _ (.user user :: shared dir group) = _
  rw [findSome?_cons]
  cases (table (.user user)).bind (· setting) <;> rfl

theorem user_notMem_shared {user : UserId} {group : Option GroupId} :
    PolicyScope.user user ∉ shared dir group := by
  simp [shared, bind_eq_some_iff]

def edited (table : PolicyTable) (edits : List (PolicyScope × PolicyWrite)) : PolicyTable :=
  edits.foldl (fun table edit => table.write edit.1 edit.2) table

variable {edits : List (PolicyScope × PolicyWrite)}

/-- A row is written from what it was. -/
theorem edited_congr (same : table scope = other scope) :
    table.edited edits scope = other.edited edits scope := by
  induction edits generalizing table other with
  | nil => exact same
  | cons edit edits ih =>
    refine ih ?_
    by_cases here : scope = edit.1
    · subst here
      simp [write, same]
    · simp [write, here, same]

theorem edited_of_ne (elsewhere : ∀ edit ∈ edits, edit.1 ≠ scope) :
    table.edited edits scope = table scope := by
  induction edits generalizing table with
  | nil => rfl
  | cons edit edits ih =>
    obtain ⟨here, elsewhere⟩ := forall_mem_cons.mp elsewhere
    exact (ih elsewhere).trans (update_of_ne here.symm _ _)

theorem edited_delete (member : scope ∈ chain) :
    table.edited (chain.map fun scope => (scope, .delete)) scope = none := by
  induction chain generalizing table with
  | nil => cases member
  | cons head chain ih =>
    by_cases later : scope ∈ chain
    · exact ih later
    · obtain rfl := (mem_cons.mp member).resolve_right later
      have elsewhere : ∀ edit ∈ chain.map fun scope => (scope, PolicyWrite.delete), edit.1 ≠ scope := by grind
      exact (edited_of_ne elsewhere).trans (update_self ..)

section Approval

variable (approved : table.approveResourceRequest dir principal req = some next)
include approved

theorem approved_of_ne (elsewhere : scope ≠ .user req.userId) : next scope = table scope := by
  simp only [approveResourceRequest] at approved
  split_ifs at approved
  cases approved
  exact update_of_ne elsewhere _ _

theorem approved_own : (next (.user req.userId)).bind (· setting) =
    (req.granted setting).or (table.applies dir req.userId req.groupId setting) := by
  simp only [approveResourceRequest] at approved
  split_ifs at approved
  cases approved
  rw [update_self, bind_some]
  cases setting with
  | limit key => rfl
  | _ =>
    -- without an effective policy the requester has no row either
    rw [applies]
    cases effective : table.resolveEffectivePolicy dir req.userId req.groupId with
    | some policy => rfl
    | none =>
      have unset (setting : Setting) : (table (.user req.userId)).bind (· setting) = none := by
        have applied := table.applies_eq dir req.userId req.groupId setting
        rw [applies, effective] at applied
        exact (or_eq_none_iff.mp applied.symm).1
      cases own : table (.user req.userId) <;> simp_all [ResourceRequest.granted]

/-- An approval changes what was asked alone, in every group and whatever is written for the other scopes later,
if and only if the requester's own row had everything else that applied in the group of the request. -/
theorem approval_grants_only_iff :
    (∀ edits : List (PolicyScope × PolicyWrite), (∀ edit ∈ edits, edit.1 ≠ .user req.userId) →
      ∀ group setting, (next.edited edits).applies dir req.userId group setting =
        (req.granted setting).or ((table.edited edits).applies dir req.userId group setting)) ↔
    ∀ setting, req.granted setting = none →
      table.applies dir req.userId req.groupId setting = (table (.user req.userId)).bind (· setting) := by
  constructor
  · intro only setting ungranted
    -- all other scopes are emptied: what is left is the requester's own row
    let edits := (shared dir req.groupId).map fun scope => (scope, PolicyWrite.delete)
    have elsewhere : ∀ edit ∈ edits, edit.1 ≠ .user req.userId := by
      simp only [edits, List.mem_map]
      rintro _ ⟨scope, member, rfl⟩ rfl
      exact user_notMem_shared member
    have emptied (table : PolicyTable) : (table.edited edits).applies dir req.userId req.groupId setting =
        (table (.user req.userId)).bind (· setting) := by
      rw [applies_eq, edited_of_ne elsewhere, findSome?_eq_none_iff.mpr, or_none]
      intro scope member
      rw [edited_delete member, bind_none]
    have after := only edits elsewhere req.groupId setting
    rwa [emptied, emptied, approved_own approved, ungranted, none_or, none_or] at after
  · intro had edits elsewhere group setting
    have own : (next (.user req.userId)).bind (· setting) =
        (req.granted setting).or ((table (.user req.userId)).bind (· setting)) := by
      rw [approved_own approved]
      cases granted : req.granted setting with
      | some value => rfl
      | none => rw [had setting granted]
    rw [applies_eq, applies_eq, edited_of_ne elsewhere, edited_of_ne elsewhere, own, Option.or_assoc]
    rw [← merge_setting, ← merge_setting, merge_congr fun scope member => ?_]
    exact edited_congr (approved_of_ne approved fun same => user_notMem_shared (same ▸ member))

end Approval

end PolicyTable

namespace GovernedSession

variable {sess : GovernedSession}

def Joined (dir : Rbac.Directory) (sess : GovernedSession) : PolicyScope → Prop
  | .user _ | .global => True
  | .group id => ∃ row ∈ dir.memberships, row.user = sess.ownerUserId ∧ row.group = some id
  | .org id => ∃ row ∈ dir.memberships, row.user = sess.ownerUserId ∧
      ∃ project ∈ row.group.bind dir.projects.find?, project.org = id

theorem selected_iff : sess.selected dir scope ↔
    sess.Joined dir scope ∧ ∀ user, scope = .user user → sess.ownerUserId = user := by
  cases scope <;> simp [selected, Joined, Option.any_eq_true]

theorem mem_chain_of_changed
    (changed : sess.policy dir (table.write scope change) ≠ sess.policy dir table) :
    scope ∈ .user sess.ownerUserId :: shared dir sess.groupId := by
  by_contra off
  refine changed (merge_congr fun other member => update_of_ne ?_ _ _)
  rintro rfl
  exact off member

end GovernedSession

/-- A write is carried to every active session whose policy it changes, with the new values, if and only if the
owner of each of them is a member of the group or of the organization that it is for. -/
theorem propagate_reaches_iff (dir : Rbac.Directory) (table : PolicyTable) (scope : PolicyScope)
    (change : PolicyWrite) (sessions : List GovernedSession) : (∀ sess ∈ sessions, sess.isActive →
      sess.policy dir (table.write scope change) ≠ sess.policy dir table →
      (sess, restampReaper (sess.policy dir (table.write scope change)) sess.resourceClass) ∈
        propagateReaperPolicy dir (table.write scope change) scope sessions) ↔
    ∀ sess ∈ sessions, sess.isActive →
      sess.policy dir (table.write scope change) ≠ sess.policy dir table →
      sess.Joined dir scope := by
  refine forall₂_congr fun sess listed => forall₂_congr fun active changed => ?_
  have stamped : (sess, restampReaper (sess.policy dir (table.write scope change)) sess.resourceClass) ∈
      propagateReaperPolicy dir (table.write scope change) scope sessions ↔
        sess.selected dir scope := by
    simp only [propagateReaperPolicy, List.mem_map, mem_filter, Bool.and_eq_true, Prod.mk.injEq]
    constructor
    · rintro ⟨_, ⟨-, -, chosen⟩, rfl, -⟩
      exact chosen
    · exact fun chosen => ⟨sess, ⟨listed, active, chosen⟩, rfl, rfl⟩
  rw [stamped, GovernedSession.selected_iff]
  refine and_iff_left fun user isUser => ?_
  subst isUser
  rcases mem_cons.mp (GovernedSession.mem_chain_of_changed changed) with same | below
  · exact (PolicyScope.user.inj same).symm
  · exact absurd below user_notMem_shared

section Samples

/-- Nobody is a member of anything. -/
def noMembers : Rbac.Directory := ⟨fun _ => none, [], .nil, .empty Rbac.Project.id⟩

/-- A policy for a scope that sets the longest runtime, and nothing else. -/
def runtimeCap (minutes : ℤ) : Settings := fun setting => if setting = .maxRuntime then some minutes else none

def ownCap : PolicyTable
  | .user 0 => some (runtimeCap 60)
  | _ => none

def capByGroup : PolicyTable
  | .group 1 => some (runtimeCap 60)
  | .group 2 => some (runtimeCap 600)
  | _ => none

/-- The user asks for eight cores in the first group. -/
def asksCores : ResourceRequest := ⟨0, some 1, some 8, none, none, none, none, .pending⟩

def platformAdmin : Rbac.Principal := ⟨9, some .superAdmin, [.superAdmin], ∅, none, [], false⟩

theorem approval_grants_only_iff_own :
    ∃ next, ownCap.approveResourceRequest noMembers platformAdmin asksCores = some next ∧ ∀ edits,
      (∀ edit ∈ edits, edit.1 ≠ .user 0) → ∀ group setting, (next.edited edits).applies noMembers 0 group setting =
        (asksCores.granted setting).or ((ownCap.edited edits).applies noMembers 0 group setting) :=
  ⟨_, rfl, (@approval_grants_only_iff ownCap _ noMembers asksCores platformAdmin rfl).mpr fun _ _ => rfl⟩

/-- The cap of the first group holds in the second one, too, after the approval. -/
theorem approval_caps_other_group :
    (capByGroup.approveResourceRequest noMembers platformAdmin asksCores).map
      (·.applies noMembers 0 (some 2) .maxRuntime) = some (some 60) ∧
    capByGroup.applies noMembers 0 (some 2) .maxRuntime = some 600 ∧ asksCores.granted .maxRuntime = none := by
  decide

/-- The owner left the group. The group's cap is lowered to ten minutes, and the running session keeps its own. -/
theorem propagate_misses_former_member :
    let sess : GovernedSession := ⟨0, some 1, .gpu, .running, false⟩
    let next := capByGroup.write (.group 1) (.update fun setting => (runtimeCap 10 setting).map some)
    restampReaper (sess.policy noMembers capByGroup) .gpu = ⟨1800, 3600⟩ ∧
      restampReaper (sess.policy noMembers next) .gpu = ⟨1800, 600⟩ ∧
      propagateReaperPolicy noMembers next (.group 1) [sess] = [] := by
  decide

end Samples

end GShare.Model
