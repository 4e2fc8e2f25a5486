import GShare.Proofs.Access.Pools
import GShare.Soundness.Samples

/-! # Placement keeps to the node pools

A session gets cards only on the nodes that its tenant may use, the tenant's own first, whatever other
tenants are granted.
-/

namespace GShare.Soundness.NodePools

open GShare.Model Samples Fleet

/-- The tenant of a request may use the nodes of a pool: a dedicated pool granted to the group or its
organization, or an open one, unless there is a dedicated one and the effective policy forbids to spill. -/
def MayUse (fleet : GovernedFleet) (req : Request) (pool : Option PoolId) : Prop :=
  (∃ row, fleet.Dedicated req.holder.clusterId req.group row ∧ pool = some row.id) ∨
    fleet.Open req.holder.clusterId pool ∧
      ¬((∃ row, fleet.Dedicated req.holder.clusterId req.group row) ∧
        effectiveSharedPool fleet.policies
          (policyChain req.owner req.group (req.group.bind fleet.orgOf)) = some false)

theorem usable_iff {fleet : GovernedFleet} {req : Request} {pool : Option PoolId} :
    fleet.Usable req.holder.clusterId req.owner req.group pool ↔ MayUse fleet req pool := by
  have forbids : fleet.sharedPool req.owner req.group = false ↔
      effectiveSharedPool fleet.policies
        (policyChain req.owner req.group (req.group.bind fleet.orgOf)) = some false := by
    rw [fleet.governed, bne_eq_false_iff_eq]
  rw [Fleet.Usable, MayUse, forbids]

/-- The card gives the request a slice, in whichever pool it is. -/
def Gives (fleet : GovernedFleet) (req : Request) (dev : DeviceId) : Prop :=
  fleet.inventory.Gives req.holder (fleet.query req) dev

/-- The tiers are non-empty and disjoint and make up what the tenant may use. A placement takes a card of
the first tier in which one gives the slice, and there is one if some tier has such a card; a borrow takes
one that the tenant may use. The grants of others have no part in it. -/
theorem placement_respects_pools (fleet : GovernedFleet) (id : SessionId) (req : Request) :
    (∀ tier ∈ fleet.poolAccess req.holder.clusterId req.owner req.group, tier ≠ []) ∧
    (fleet.poolAccess req.holder.clusterId req.owner req.group).Pairwise List.Disjoint ∧
    (∀ pool, (∃ tier ∈ fleet.poolAccess req.holder.clusterId req.owner req.group, pool ∈ tier) ↔
      MayUse fleet req pool) ∧ (∀ next, fleet.reserveSlice id req = some (next, true) →
      ∃ dev earlier tier later,
        fleet.poolAccess req.holder.clusterId req.owner req.group = earlier ++ tier :: later ∧
        next.HeldOn id dev ∧ MayUse fleet req (fleet.poolOf dev) ∧
        Gives fleet req dev ∧ fleet.poolOf dev ∈ tier ∧
        ∀ passed ∈ earlier, ∀ other, Gives fleet req other → fleet.poolOf other ∉ passed) ∧
    (fleet.inventory.live.find? id = none → fleet.inventory.Countable req.holder (fleet.query req) →
      (∃ dev, Gives fleet req dev ∧ MayUse fleet req (fleet.poolOf dev)) →
        ∃ next, fleet.reserveSlice id req = some (next, true)) ∧
    (∀ next, fleet.reserveSlice id req = some (next, false) → next.live = fleet.inventory.live) ∧
    (∀ inv next : Inventory,
      inv.reserveSpotSlice id req.holder (fleet.query req) = some (next, true) →
        ∃ dev, next.HeldOn id dev ∧ MayUse fleet req (fleet.poolOf dev)) ∧ (∀ inv next : Inventory,
      inv.reserveSpotSlice id req.holder (fleet.query req) = some (next, false) → next = inv) ∧
    ∀ grants : List NodePoolGrant,
      (∀ grant, fleet.OwnScope req.group grant.scope → (grant ∈ grants ↔ grant ∈ fleet.grants)) →
        reserveSlice { fleet.toFleet with grants := grants } id req
          = fleet.reserveSlice id req := by
  refine ⟨fun tier => poolAccess_ne_nil, poolAccess_disjoint,
    fun pool => exists_mem_poolAccess.trans usable_iff, fun next run => ?_,
    fun free countable served => ?_, fun next run => ?_, fun inv next run => ?_,
    fun inv next run => ?_, fun grants same => ?_⟩
  · obtain ⟨dev, earlier, tier, later, split, inTier, gives, held, first⟩ :=
      Inventory.reserveSlice_first run
    obtain ⟨front, pools, back, isSplit, isTier, passes⟩ := tiers_split split
    have inPools := (isTier dev).mp inTier
    refine ⟨dev, front, pools, back, isSplit, held, ?_, gives, inPools, ?_⟩
    · exact usable_iff.mp (exists_mem_poolAccess.mp ⟨pools, by simp [isSplit], inPools⟩)
    · intro passed isPassed other gives inPassed
      obtain ⟨cards, isCards, meaning⟩ := passes passed isPassed
      have refused := first cards isCards other gives
      rw [(meaning other).mpr inPassed] at refused
      cases refused
  · obtain ⟨dev, ⟨listed, headroom, room⟩, allowed⟩ := served
    exact (Inventory.reserveSlice_placed_iff free fleet.reports).mpr ⟨countable, dev, listed, headroom,
      exists_tier_iff.mpr (usable_iff.mpr allowed), room⟩
  · cases Inventory.reserveSlice_reserved run with
    | refused reconciled => exact reconciled.live
  · obtain ⟨dev, held, allowed⟩ := reserveSpotSlice_usable run
    exact ⟨dev, held, usable_iff.mp allowed⟩
  · cases Inventory.reserveSpotSlice_reserved run with
    | refused => rfl
  · have tiers : tiers { fleet.toFleet with grants := grants } req = fleet.tiers req := by
      unfold tiers
      rw [poolAccess_congr same]
      rfl
    unfold reserveSlice query
    rw [tiers]
    rfl

/-- Two equal cards: one on a node that is dedicated to the tenant's group, one on a node of no pool. The
policy of the group forbids to spill. -/
def pooledFleet : GovernedFleet where
  toFleet := { fleetOf [sharedCard, sharedCard]
      (by decide) (fun _ => "A100") (fun _ => none) (.empty _) with
    nodeId := id
    nodes := ⟨[⟨0, 0, true, some 64, some 256, some 1000, none⟩,
      ⟨1, 0, true, some 64, some 256, some 1000, some 5⟩], by decide⟩
    pools := dedicatedPool
    grants := [⟨5, .group 7⟩]
    orgOf := fun _ => some 3
    sharedPool := fun user group => effectiveSharedPool [⟨.group 7, some false⟩]
      (policyChain user group (group.bind fun _ => some 3)) != some false }
  policies := [⟨.group 7, some false⟩]
  governed _ _ := rfl

/-- The member's session is on the dedicated node, and grants for another group change nothing. -/
theorem pooledFleet_placed :
    (∃ next dev, pooledFleet.reserveSlice 1 memberRequest = some (next, true) ∧
      next.HeldOn 1 dev ∧ MayUse pooledFleet memberRequest (pooledFleet.poolOf dev) ∧
      ¬MayUse pooledFleet memberRequest none) ∧
    reserveSlice { pooledFleet.toFleet with grants := [⟨5, .group 7⟩, ⟨5, .group 8⟩] } 1
      memberRequest = pooledFleet.reserveSlice 1 memberRequest := by
  obtain ⟨-, -, union, placed, -, -, -, -, blind⟩ := placement_respects_pools pooledFleet 1 memberRequest
  have taken : (pooledFleet.reserveSlice 1 memberRequest).any (·.2) := by decide +kernel
  obtain ⟨⟨next, isPlaced⟩, run, answer⟩ := (Option.any_eq_true _ _).mp taken
  obtain rfl : isPlaced := answer
  obtain ⟨dev, -, -, -, -, held, allowed, -⟩ := placed next run
  refine ⟨⟨next, dev, run, held, allowed, ?_⟩, blind _ ?_⟩
  · rw [← union none]
    decide +kernel
  · rintro ⟨pool, scope⟩ (⟨own, isOwn, rfl⟩ | ⟨org, isOrg, rfl⟩)
    · cases isOwn
      simp [pooledFleet]
    · simp [pooledFleet]

end GShare.Soundness.NodePools
