import GShare.Machine.Run
import GShare.Proofs.Access.Pools
import GShare.Soundness.Samples

/-! # Revoking a pool from an organization

A sub-assignment is checked against the grant of the organization when it is made, and only then. The
revocation of the organization's grant leaves it behind, and placement goes on reading it. Groups lose a
pool with their organization if the sub-assignments are revoked first.
-/

namespace GShare.Soundness.PoolRevocation

open Machine Accounting GShare.Model PoolDirectory Samples Option List

def Off (fleet : Fleet) (pool : PoolId) (id : SessionId) (next : Inventory) : Prop :=
  ∃ dev, next.HeldOn id dev ∧ fleet.poolOf dev ≠ some pool

section

variable (dir : PoolDirectory) (grants : Roster GrantRow.id)

/-- No placement for a session of the group is on the nodes of the pool, by whichever fleet that has these
pools, projects and grants. -/
def ShutOut (pool : PoolId) (group : GroupId) : Prop :=
  ∀ fleet : Fleet, fleet.pools = dir.pools → fleet.orgOf = dir.orgOf →
    fleet.grants = grants.rows.map GrantRow.grant →
    ∀ (id : SessionId) (req : Request), req.group = some group →
      (∀ next, fleet.reserveSlice id req = some (next, true) → Off fleet pool id next) ∧
      ∀ inv next : Inventory,
        inv.reserveSpotSlice id req.holder (fleet.query req) = some (next, true) →
          Off fleet pool id next

/-- A dedicated pool that is not granted to an organization is closed to its groups, as far as they have no
grant but a sub-assignment. -/
def Follows : Prop :=
  ∀ pool ∈ dir.pools.rows, pool.shared = false → ∀ org,
    (∀ row ∈ grants.rows, row.grant ≠ ⟨pool.id, .org org⟩) → ∀ group, dir.orgOf group = some org →
      (∀ row ∈ grants.rows, row.grant = ⟨pool.id, .group group⟩ → row.subAssigned) →
        ShutOut dir grants pool.id group

def LeavesNone : GrantCall → Prop
  | .grant .. => True
  | .revoke _ pool id => ∀ row ∈ grants.rows, row.id = id → row.grant.pool = pool →
      ∀ org ∈ row.grant.scope.orgId?, ∀ sub ∈ grants.rows, sub.subAssigned → sub.grant.pool = pool →
        ∀ group ∈ sub.grant.scope.groupId?, dir.orgOf group ≠ some org

instance decidableLeavesNone :
    (call : GrantCall) → Decidable (LeavesNone dir grants call)
  | .grant .. => .isTrue trivial
  | .revoke _ pool id => inferInstanceAs (Decidable (∀ row ∈ grants.rows, row.id = id →
      row.grant.pool = pool → ∀ org ∈ row.grant.scope.orgId?, ∀ sub ∈ grants.rows, sub.subAssigned →
        sub.grant.pool = pool → ∀ group ∈ sub.grant.scope.groupId?, dir.orgOf group ≠ some org))

def Backed : Prop :=
  ∀ row ∈ grants.rows, row.subAssigned → ∀ group, row.grant.scope = .group group →
    ∃ org, dir.orgOf group = some org ∧ ∃ up ∈ grants.rows, up.grant = ⟨row.grant.pool, .org org⟩

end

section Calls

variable {dir : PoolDirectory} {grants next : Roster GrantRow.id} {principal : Rbac.Principal}
  {pool : PoolId} {scope : PoolScope} {id : ℕ}

theorem backed_grant (backed : Backed dir grants)
    (run : dir.grantNodePool grants principal pool scope id = .ok next) : Backed dir next := by
  obtain ⟨allowed, rows⟩ := grantNodePool_ok run
  intro row member sub group isGroup
  rw [rows] at member ⊢
  obtain rfl | member := mem_cons.mp member
  · -- The new row is a sub-assignment, so the rule has found the organization's grant.
    have ordinary : isSuper principal = false := by simpa using sub
    obtain ⟨project, isTarget, isScope, up, isUp, covers⟩ :=
      assertMayGrant_ok ordinary allowed
    obtain rfl : scope = .group group := isGroup
    cases isScope
    obtain ⟨found, -⟩ := filter_eq_some_iff.mp isTarget
    refine ⟨project.org, ?_, up, mem_cons_of_mem _ (mem_poolGrants.mp isUp).1, covers⟩
    rw [orgOf, found, map_some]
  · obtain ⟨org, isOrg, up, isUp, covers⟩ := backed row member sub group isGroup
    exact ⟨org, isOrg, up, mem_cons_of_mem _ isUp, covers⟩

theorem backed_revoke (backed : Backed dir grants)
    (leaves : LeavesNone dir grants (.revoke principal pool id))
    (run : dir.revokeNodePoolGrant grants principal pool id = .ok next) : Backed dir next := by
  obtain ⟨⟨gone, isGone, isId, isPool⟩, rfl⟩ := revokeNodePoolGrant_ok run
  intro row member sub group isGroup
  obtain ⟨member, -⟩ := Roster.mem_remove.mp member
  obtain ⟨org, isOrg, up, isUp, covers⟩ := backed row member sub group isGroup
  refine ⟨org, isOrg, up, Roster.mem_remove.mpr ⟨isUp, fun same => ?_⟩, covers⟩
  -- The row that goes cannot be the one behind a sub-assignment.
  cases grants.eq_of_key isUp isGone (same.trans isId.symm)
  have pools : row.grant.pool = pool := by rw [← isPool, covers]
  have isUpper : org ∈ gone.grant.scope.orgId? := by rw [covers]; rfl
  have isLower : group ∈ row.grant.scope.groupId? := by rw [isGroup]; rfl
  exact leaves gone isGone isId isPool org isUpper row member sub pools group isLower isOrg

theorem settled {holds : Roster GrantRow.id → Prop} {answer : Except GrantRefusal (Roster GrantRow.id)}
    (kept : holds grants) (done : ∀ next, answer = .ok next → holds next) :
    holds (answer.toOption.getD grants) := by
  cases answer with
  | error refusal => exact kept
  | ok next => exact done next rfl

theorem backed_serve {call : GrantCall} (backed : Backed dir grants)
    (leaves : LeavesNone dir grants call) : Backed dir (dir.serve grants call) := by
  cases call with
  | grant principal pool scope id => exact settled backed fun _ run => backed_grant backed run
  | revoke principal pool id => exact settled backed fun _ run => backed_revoke backed leaves run

end Calls

/-- Without the grant of the organization and without any other grant of its own, a group may not use a
dedicated pool. -/
theorem follows_of_backed {dir : PoolDirectory} {grants : Roster GrantRow.id}
    (backed : Backed dir grants) : Follows dir grants := by
  intro pool member dedicated org ungranted group isOrg onlySub fleet pools orgs rows id req isGroup
  have unusable : ¬fleet.Usable req.holder.clusterId req.owner req.group (some pool.id) := by
    rintro (⟨row, ⟨-, -, -, grant, isGrant, isPool, own⟩, same⟩ | ⟨open_ | ⟨row, isRow, -, shared, same⟩, -⟩)
    · have isPool : grant.pool = pool.id := isPool.trans (some.inj same).symm
      rw [rows] at isGrant
      obtain ⟨source, isSource, rfl⟩ := mem_map.mp isGrant
      obtain ⟨own, isOwn, isScope⟩ | ⟨up, isUp, isScope⟩ := own
      · cases isGroup.symm.trans isOwn
        -- The group's own row is a sub-assignment, and those have the organization's grant behind them.
        have named : source.grant = ⟨pool.id, .group group⟩ := by rw [← isPool, ← isScope]
        obtain ⟨home, isHome, up, isUp, covers⟩ :=
          backed source isSource (onlySub source isSource named) group isScope
        cases isOrg.symm.trans isHome
        exact ungranted up isUp (by rw [covers, isPool])
      · rw [isGroup, orgs] at isUp
        cases isOrg.symm.trans isUp
        exact ungranted source isSource (by rw [← isPool, ← isScope])
    · cases open_
    · rw [pools] at isRow
      cases dir.pools.eq_of_key member isRow (some.inj same)
      rw [dedicated] at shared
      cases shared
  constructor
  · intro next run
    obtain ⟨dev, earlier, tier, later, split, inTier, -, held, -⟩ := Inventory.reserveSlice_first run
    have isTier : tier ∈ fleet.tiers req := by
      rw [show fleet.tiers req = earlier ++ tier :: later from split]
      exact mem_append_right _ mem_cons_self
    have usable := Fleet.exists_tier_iff.mp ⟨tier, isTier, inTier⟩
    exact ⟨dev, held, fun here => unusable (here ▸ usable)⟩
  · intro inv next run
    obtain ⟨dev, held, usable⟩ := Fleet.reserveSpotSlice_usable run
    exact ⟨dev, held, fun here => unusable (here ▸ usable)⟩

/-- In every sequence of grant and revoke calls that revokes the sub-assignments of an organization before
its grant, the groups lose a pool with their organization. -/
theorem follows_run {dir : PoolDirectory} {calls : List GrantCall} {grants : Roster GrantRow.id}
    (run : Run (fun grants call => some (dir.serve grants call)) (LeavesNone dir)
      (.empty _) calls grants) : Follows dir grants := by
  refine follows_of_backed (run.invariant ?_ ?_)
  · rintro row ⟨⟩
  · rintro grants call next leaves taken backed
    cases taken
    exact backed_serve backed leaves

section Sample

def office : PoolDirectory where
  pools := dedicatedPool
  projects := ⟨[⟨7, 3, false⟩], by decide⟩
  liveOrg _ := true

def superAdmin : Rbac.Principal := ⟨0, some .superAdmin, [.superAdmin], ∅, none, [], false⟩

def orgAdmin : Rbac.Principal := ⟨1, none, [], ∅, none, [3], false⟩

/-- The organization gets the pool and assigns it to its group. -/
def assigned : List GrantCall := [.grant superAdmin 5 (.org 3) 0, .grant orgAdmin 5 (.group 7) 1]

/-- When the sub-assignment is revoked first, the group loses the pool with its organization. -/
theorem follows_ordered :
    ∃ grants, Run (fun grants call => some (office.serve grants call)) (LeavesNone office) (.empty _)
      (assigned ++ [.revoke orgAdmin 5 1, .revoke superAdmin 5 0]) grants ∧ grants.rows = [] ∧
        Follows office grants :=
  exists_run_imp (·.rows = []) (by decide +kernel) fun _ run none_ =>
    ⟨none_, follows_run run⟩

def orphaned : Roster GrantRow.id := (assigned ++ [GrantCall.revoke superAdmin 5 0]).foldl office.serve (.empty _)

def pooled : Fleet :=
  { fleetOf [sharedCard] sharedCard_reports (fun _ => "A100") (fun _ => none)
      (.empty _) with
    nodes := ⟨[⟨0, 0, true, some 64, some 256, some 1000, some 5⟩], by decide⟩
    pools := office.pools
    grants := orphaned.rows.map GrantRow.grant
    orgOf := office.orgOf }

/-- Without the organization's grant the group still gets the card. -/
theorem orphan_keeps_pool :
    Run (fun grants call => some (office.serve grants call)) (fun _ _ => True) (.empty _)
      (assigned ++ [.revoke superAdmin 5 0]) orphaned ∧ ¬Follows office orphaned := by
  refine ⟨run_of_execute rfl, fun follows => ?_⟩
  obtain ⟨shut, -⟩ := follows ⟨5, 0, false⟩ (by decide) rfl 3 (by decide +kernel) 7 rfl (by decide +kernel)
    pooled rfl rfl rfl 1 memberRequest rfl
  have placed : (pooled.reserveSlice 1 memberRequest).any (fun found =>
      found.2 && (found.1.live.find? 1).any (·.device == some 0)) := by decide +kernel
  obtain ⟨⟨next, isPlaced⟩, run, answer⟩ := (any_eq_true _ _).mp placed
  obtain ⟨rfl, here⟩ := Bool.and_eq_true_iff.mp answer
  obtain ⟨dev, ⟨row, found, isDevice⟩, off⟩ := shut next run
  rw [found, any_some, isDevice] at here
  obtain rfl : dev = 0 := by simpa using here
  exact off rfl

end Sample

end GShare.Soundness.PoolRevocation
