import GShare.Model.Access.Pools
import GShare.Proofs.Device.Placement

/-! # The tiers of pool access

What the tiers of `resolve_pool_access` are as sets: non-empty, apart from each other, and together the
pools that a tenant may use. A card in none of them gets no session of the tenant.
-/

namespace GShare.Model

open Accounting Inventory Option List

namespace Fleet

variable {fleet : Fleet} {cluster : ClusterId} {user : UserId} {group : Option GroupId} {pool : Option PoolId}
variable {id : PoolId}

/-- A grant is for the group or for its organization. -/
def OwnScope (fleet : Fleet) (group : Option GroupId) (scope : PoolScope) : Prop :=
  (∃ own ∈ group, scope = .group own) ∨ ∃ org ∈ group.bind fleet.orgOf, scope = .org org

def Dedicated (fleet : Fleet) (cluster : ClusterId) (group : Option GroupId) (row : NodePool) : Prop :=
  row ∈ fleet.pools.rows ∧ row.clusterId = cluster ∧ row.shared = false ∧
    ∃ grant ∈ fleet.grants, grant.pool = row.id ∧ fleet.OwnScope group grant.scope

def Open (fleet : Fleet) (cluster : ClusterId) (pool : Option PoolId) : Prop :=
  pool = none ∨ ∃ row ∈ fleet.pools.rows, row.clusterId = cluster ∧ row.shared ∧ pool = some row.id

/-- The tenant may place on the nodes of a pool: it is dedicated to the tenant, or it is open and the
tenant either has no dedicated pool or may spill. -/
def Usable (fleet : Fleet) (cluster : ClusterId) (user : UserId) (group : Option GroupId)
    (pool : Option PoolId) : Prop :=
  (∃ row, fleet.Dedicated cluster group row ∧ pool = some row.id) ∨
    fleet.Open cluster pool ∧
      ¬((∃ row, fleet.Dedicated cluster group row) ∧ fleet.sharedPool user group = false)

theorem mem_granted {scope : Option PoolScope} : id ∈ fleet.granted cluster scope ↔
      ∃ row ∈ fleet.pools.rows, row.clusterId = cluster ∧ row.shared = false ∧ row.id = id ∧
        ∃ own ∈ scope, ∃ grant ∈ fleet.grants, grant.pool = id ∧ grant.scope = own := by
  simp only [granted, poolsIn, List.mem_map, mem_filter, Bool.and_eq_true, Bool.not_eq_true',
    beq_iff_eq, Option.any_eq_true, List.any_eq_true]
  constructor
  · rintro ⟨row, ⟨⟨member, isCluster⟩, dedicated, own, isOwn, grant, isGrant, isPool, isScope⟩, rfl⟩
    exact ⟨row, member, isCluster, dedicated, rfl, own, isOwn, grant, isGrant, isPool, isScope⟩
  · rintro ⟨row, member, isCluster, dedicated, rfl, own, isOwn, grant, isGrant, isPool, isScope⟩
    exact ⟨row, ⟨⟨member, isCluster⟩, dedicated, own, isOwn, grant, isGrant, isPool, isScope⟩, rfl⟩

section

variable (fleet cluster)

variable (group)

def groupPools : List PoolId :=
  fleet.granted cluster (group.map .group)

def orgPools : List PoolId :=
  (fleet.granted cluster ((group.bind fleet.orgOf).map .org)).filter (· ∉ fleet.groupPools cluster group)

def openPools : List (Option PoolId) :=
  none :: ((fleet.poolsIn cluster).filter (·.shared)).map fun pool => some pool.id

def dedicatedTiers : List (List PoolId) :=
  [fleet.groupPools cluster group, fleet.orgPools cluster group].filter (!·.isEmpty)

end

theorem poolAccess_eq : fleet.poolAccess cluster user group
      = (fleet.dedicatedTiers cluster group).map (·.map some) ++
          if (fleet.dedicatedTiers cluster group).isEmpty || fleet.sharedPool user group then
            [fleet.openPools cluster] else [] := rfl

theorem mem_openPools : pool ∈ fleet.openPools cluster ↔ fleet.Open cluster pool := by
  simp only [openPools, mem_cons, List.mem_map, mem_filter, poolsIn, beq_iff_eq, Open]
  refine or_congr_right ⟨?_, ?_⟩
  · rintro ⟨row, ⟨⟨member, isCluster⟩, shared⟩, rfl⟩
    exact ⟨row, member, isCluster, shared, rfl⟩
  · rintro ⟨row, member, isCluster, shared, rfl⟩
    exact ⟨row, ⟨⟨member, isCluster⟩, shared⟩, rfl⟩

theorem mem_groupPools_or_orgPools :
    id ∈ fleet.groupPools cluster group ∨ id ∈ fleet.orgPools cluster group ↔
      ∃ row, fleet.Dedicated cluster group row ∧ row.id = id := by
  have either : id ∈ fleet.groupPools cluster group ∨ id ∈ fleet.orgPools cluster group ↔
      id ∈ fleet.granted cluster (group.map .group) ∨
        id ∈ fleet.granted cluster ((group.bind fleet.orgOf).map .org) := by
    by_cases member : id ∈ fleet.groupPools cluster group <;> simp_all [orgPools, groupPools]
  simp only [either, mem_granted, Option.mem_map, Dedicated, OwnScope]
  constructor
  · rintro (⟨row, member, isCluster, dedicated, rfl, _, ⟨own, isOwn, rfl⟩, grant, isGrant, isPool, isScope⟩ |
      ⟨row, member, isCluster, dedicated, rfl, _, ⟨own, isOwn, rfl⟩, grant, isGrant, isPool, isScope⟩)
    · exact ⟨row, ⟨member, isCluster, dedicated, grant, isGrant, isPool, .inl ⟨own, isOwn, isScope⟩⟩, rfl⟩
    · exact ⟨row, ⟨member, isCluster, dedicated, grant, isGrant, isPool, .inr ⟨own, isOwn, isScope⟩⟩, rfl⟩
  · rintro ⟨row, ⟨member, isCluster, dedicated, grant, isGrant, isPool, ⟨own, isOwn, isScope⟩ |
      ⟨own, isOwn, isScope⟩⟩, rfl⟩
    · exact .inl ⟨row, member, isCluster, dedicated, rfl, _, ⟨own, isOwn, rfl⟩, grant, isGrant, isPool, isScope⟩
    · exact .inr ⟨row, member, isCluster, dedicated, rfl, _, ⟨own, isOwn, rfl⟩, grant, isGrant, isPool, isScope⟩

theorem mem_dedicatedTiers {tier : List PoolId} : tier ∈ fleet.dedicatedTiers cluster group ↔
      (tier = fleet.groupPools cluster group ∨ tier = fleet.orgPools cluster group) ∧ tier ≠ [] := by
  simp only [dedicatedTiers, mem_filter, mem_cons, not_mem_nil, or_false, Bool.not_eq_true',
    isEmpty_eq_false_iff, ne_eq]

theorem exists_mem_dedicatedTiers :
    (∃ tier ∈ fleet.dedicatedTiers cluster group, id ∈ tier) ↔
      ∃ row, fleet.Dedicated cluster group row ∧ row.id = id := by
  rw [← mem_groupPools_or_orgPools]
  simp only [mem_dedicatedTiers]
  constructor
  · rintro ⟨tier, ⟨rfl | rfl, -⟩, member⟩
    · exact .inl member
    · exact .inr member
  · rintro (member | member)
    · exact ⟨_, ⟨.inl rfl, ne_nil_of_mem member⟩, member⟩
    · exact ⟨_, ⟨.inr rfl, ne_nil_of_mem member⟩, member⟩

theorem dedicatedTiers_isEmpty :
    (fleet.dedicatedTiers cluster group).isEmpty ↔ ¬∃ row, fleet.Dedicated cluster group row := by
  rw [List.isEmpty_iff]
  constructor
  · rintro empty ⟨row, dedicated⟩
    obtain ⟨tier, member, -⟩ := exists_mem_dedicatedTiers.mpr ⟨row, dedicated, rfl⟩
    rw [empty] at member
    cases member
  · intro absent
    refine eq_nil_iff_forall_not_mem.mpr fun tier member => absent ?_
    obtain ⟨id, inside⟩ := exists_mem_of_ne_nil tier (mem_dedicatedTiers.mp member).2
    obtain ⟨row, dedicated, -⟩ := exists_mem_dedicatedTiers.mp ⟨tier, member, inside⟩
    exact ⟨row, dedicated⟩

/-- The tiers hold a pool exactly when the tenant may use it. -/
theorem exists_mem_poolAccess :
    (∃ tier ∈ fleet.poolAccess cluster user group, pool ∈ tier) ↔ fleet.Usable cluster user group pool := by
  have dedicated : (∃ tier ∈ (fleet.dedicatedTiers cluster group).map (·.map some), pool ∈ tier) ↔
      ∃ row, fleet.Dedicated cluster group row ∧ pool = some row.id := by
    constructor
    · rintro ⟨_, member, inside⟩
      obtain ⟨tier, isTier, rfl⟩ := mem_map.mp member
      obtain ⟨id, among, rfl⟩ := mem_map.mp inside
      obtain ⟨row, dedicated, rfl⟩ := exists_mem_dedicatedTiers.mp ⟨tier, isTier, among⟩
      exact ⟨row, dedicated, rfl⟩
    · rintro ⟨row, dedicated, rfl⟩
      obtain ⟨tier, isTier, among⟩ := exists_mem_dedicatedTiers.mpr ⟨row, dedicated, rfl⟩
      exact ⟨_, mem_map_of_mem isTier, mem_map_of_mem among⟩
  have spills : ((fleet.dedicatedTiers cluster group).isEmpty || fleet.sharedPool user group) ↔
      ¬((∃ row, fleet.Dedicated cluster group row) ∧ fleet.sharedPool user group = false) := by
    rw [Bool.or_eq_true, dedicatedTiers_isEmpty, not_and_or, Bool.not_eq_false]
  rw [poolAccess_eq, Usable, ← dedicated, ← spills, ← mem_openPools]
  split_ifs with kept <;> simp [or_and_right, exists_or, kept]

theorem poolAccess_ne_nil {tier : List (Option PoolId)}
    (member : tier ∈ fleet.poolAccess cluster user group) : tier ≠ [] := by
  rw [poolAccess_eq] at member
  obtain isTier | isShared := mem_append.mp member
  · obtain ⟨ids, isIds, rfl⟩ := mem_map.mp isTier
    exact mt map_eq_nil_iff.mp (mem_dedicatedTiers.mp isIds).2
  · split_ifs at isShared
    · obtain rfl := mem_singleton.mp isShared
      exact cons_ne_nil _ _
    · cases isShared

/-- No pool is in two tiers. -/
theorem poolAccess_disjoint : (fleet.poolAccess cluster user group).Pairwise Disjoint := by
  rw [poolAccess_eq, pairwise_append]
  refine ⟨?_, ?_, ?_⟩
  · have apart : [fleet.groupPools cluster group, fleet.orgPools cluster group].Pairwise Disjoint := by
      refine pairwise_pair.mpr fun id inGroup inOrg => ?_
      simp only [orgPools, mem_filter, decide_eq_true_eq] at inOrg
      exact inOrg.2 inGroup
    refine (apart.filter _).map _ fun one other disjoint pool inOne inOther => ?_
    obtain ⟨id, left, rfl⟩ := mem_map.mp inOne
    obtain ⟨same, right, isSame⟩ := mem_map.mp inOther
    cases isSame
    exact disjoint left right
  · split_ifs
    · exact pairwise_singleton _ _
    · exact Pairwise.nil
  · intro tier isTier last isLast pool inTier inLast
    split_ifs at isLast
    · obtain rfl := mem_singleton.mp isLast
      obtain ⟨ids, isIds, rfl⟩ := mem_map.mp isTier
      obtain ⟨id, among, rfl⟩ := mem_map.mp inTier
      obtain ⟨row, ⟨member, -, dedicated, -⟩, rfl⟩ := exists_mem_dedicatedTiers.mp ⟨ids, isIds, among⟩
      obtain none_ | ⟨other, isOther, -, shared, same⟩ := mem_openPools.mp inLast
      · cases none_
      · cases fleet.pools.eq_of_key member isOther (some.inj same)
        rw [dedicated] at shared
        cases shared
    · cases isLast

section Placement

variable {req : Request} {dev : DeviceId} {id : SessionId} {inv next : Inventory}

theorem tiers_split {earlier later : List (DeviceId → Bool)} {tier : DeviceId → Bool}
    (split : fleet.tiers req = earlier ++ tier :: later) :
    ∃ front pools back, fleet.poolAccess req.holder.clusterId req.owner req.group
        = front ++ pools :: back ∧ (∀ dev, tier dev ↔ fleet.poolOf dev ∈ pools) ∧
      ∀ passed ∈ front, ∃ cards ∈ earlier, ∀ dev, cards dev ↔ fleet.poolOf dev ∈ passed := by
  obtain ⟨front, rest, isSplit, rfl, isRest⟩ := map_eq_append_iff.mp split
  obtain ⟨pools, back, rfl, rfl, rfl⟩ := map_eq_cons_iff.mp isRest
  refine ⟨front, pools, back, isSplit, fun dev => by simp, fun passed isPassed => ?_⟩
  exact ⟨_, mem_map_of_mem isPassed, fun dev => by simp⟩

theorem exists_tier_iff : (∃ tier ∈ fleet.tiers req, tier dev) ↔
      fleet.Usable req.holder.clusterId req.owner req.group (fleet.poolOf dev) := by
  rw [← exists_mem_poolAccess]
  simp [tiers]

/-- A borrowed card is on a node that the tenant may use. -/
theorem reserveSpotSlice_usable
    (run : inv.reserveSpotSlice id req.holder (fleet.query req) = some (next, true)) :
    ∃ dev, next.HeldOn id dev ∧ fleet.Usable req.holder.clusterId req.owner req.group (fleet.poolOf dev) := by
  cases reserveSpotSlice_reserved run with
  | placed chosen found lends borrowed =>
    obtain ⟨-, -, -, -, -, tier, -⟩ := spotTarget_borrowable chosen
    exact ⟨_, heldOn_of_record borrowed rfl, exists_tier_iff.mp tier⟩

/-- The tiers of a tenant under other grants, of which those of the tenant are the same. -/
theorem poolAccess_congr {grants : List NodePoolGrant}
    (same : ∀ grant, fleet.OwnScope group grant.scope → (grant ∈ grants ↔ grant ∈ fleet.grants)) :
    Fleet.poolAccess { fleet with grants := grants } cluster user group
      = fleet.poolAccess cluster user group := by
  have granted : ∀ scope, (∀ own ∈ scope, fleet.OwnScope group own) →
      Fleet.granted { fleet with grants := grants } cluster scope = fleet.granted cluster scope := by
    intro scope isOwn
    refine congrArg (map _) (filter_congr fun row _ => ?_)
    congr 1
    cases scope with
    | none => rfl
    | some own =>
      refine Bool.eq_iff_iff.mpr ?_
      simp only [any_some, List.any_eq_true, Bool.and_eq_true, beq_iff_eq]
      refine exists_congr fun grant => and_congr_left fun named => same grant ?_
      rw [named.2]
      exact isOwn own rfl
  have ofGroup := granted (group.map .group) fun own isOwn => by
    obtain ⟨id, isId, rfl⟩ := mem_map.mp isOwn
    exact .inl ⟨id, isId, rfl⟩
  have ofOrg := granted ((group.bind fleet.orgOf).map .org) fun own isOwn => by
    obtain ⟨id, isId, rfl⟩ := mem_map.mp isOwn
    exact .inr ⟨id, isId, rfl⟩
  unfold poolAccess
  simp only [ofGroup, ofOrg]
  rfl

end Placement

end Fleet

namespace PoolDirectory

variable {dir : PoolDirectory} {principal : Rbac.Principal} {pool : PoolId} {scope : PoolScope}
  {grants next : Roster GrantRow.id} {id : ℕ}

theorem bind_ok {First Second : Type} {first : Except GrantRefusal First}
    {rest : First → Except GrantRefusal Second} {last : Second} (run : (first >>= rest) = .ok last) :
    ∃ middle, first = .ok middle ∧ rest middle = .ok last := by
  cases first with
  | error refusal => cases run
  | ok middle => exact ⟨middle, rfl, run⟩

/-- Whoever is no super administrator may only sub-assign, to a group of an organization with a grant. -/
theorem assertMayGrant_ok {existing : List GrantRow} {group : Option Rbac.Project}
    (ordinary : isSuper principal = false) (allowed : assertMayGrant principal pool existing scope group = .ok ()) :
    ∃ project ∈ group, scope = .group project.id ∧ ∃ row ∈ existing, row.grant = ⟨pool, .org project.org⟩ := by
  unfold assertMayGrant at allowed
  simp only [ordinary, Bool.false_eq_true, if_false] at allowed
  split_ifs at allowed with nobody ungranted
  cases scope with
  | org org => cases allowed
  | group target =>
    simp only at allowed
    split_ifs at allowed with inside
    obtain ⟨project, isGroup, meets⟩ := (any_eq_true _ _).mp inside
    obtain ⟨rfl, isOrg⟩ := of_decide_eq_true meets
    obtain ⟨-, covered⟩ := mem_filter.mp isOrg
    obtain ⟨row, member, same⟩ := any_eq_true.mp covered
    exact ⟨project, isGroup, rfl, row, member, by simpa using same⟩

theorem mem_poolGrants {row : GrantRow} :
    row ∈ poolGrants grants pool ↔ row ∈ grants.rows ∧ row.grant.pool = pool := by
  simp [poolGrants]

theorem grantNodePool_ok (run : dir.grantNodePool grants principal pool scope id = .ok next) :
    assertMayGrant principal pool (poolGrants grants pool) scope (dir.targetGroup scope) = .ok () ∧
      next.rows = ⟨id, ⟨pool, scope⟩, !isSuper principal⟩ :: grants.rows := by
  obtain ⟨_, -, run⟩ := bind_ok run
  obtain ⟨_, -, run⟩ := bind_ok run
  obtain ⟨_, allowed, run⟩ := bind_ok run
  obtain ⟨_, -, run⟩ := bind_ok run
  obtain ⟨_, -, run⟩ := bind_ok run
  unfold insertGrant at run
  split at run
  · cases run
  next inserted =>
    cases run
    exact ⟨allowed, (Roster.insert_eq_some inserted).2⟩

theorem revokeNodePoolGrant_ok (run : dir.revokeNodePoolGrant grants principal pool id = .ok next) :
    (∃ row ∈ grants.rows, row.id = id ∧ row.grant.pool = pool) ∧ next = grants.remove id := by
  obtain ⟨_, -, run⟩ := bind_ok run
  obtain ⟨_, -, run⟩ := bind_ok run
  split at run
  · cases run
  next row found =>
    obtain ⟨_, -, run⟩ := bind_ok run
    cases run
    obtain ⟨member, isPool⟩ := mem_poolGrants.mp (mem_of_find?_eq_some found)
    exact ⟨⟨row, member, by simpa using find?_some found, isPool⟩, rfl⟩

end PoolDirectory

end GShare.Model
