import GShare.Model.Device.Admission
import GShare.Proofs.Device.Placement

/-! # When a fleet places a request

The cards that match a request are those its gates and the choice of a cluster look at. A placement asks
more of them: no pool change under way, no loan, a node with host capacity, and room by the recomputed
counters.
-/

namespace GShare.Model

open Inventory Option List

variable {card : Card}

namespace Fleet

variable {fleet : Fleet} {req : Request} {dev : DeviceId} {id : SessionId}

theorem mem_query_devices :
    dev ∈ (fleet.query req).devices ↔ dev ∈ fleet.devices ∧ fleet.suits req dev :=
  List.mem_filter

theorem mem_devices (found : fleet.inventory.card dev = some card) : dev ∈ fleet.devices :=
  fleet.listed dev (by rw [found, isSome_some])

theorem named_of_serves {mode : Option CardMode} (serves : serves mode card) : mode.isSome := by
  obtain ⟨mode, rfl, -⟩ := (any_eq_true _ _).mp serves
  rfl

theorem mem_matching {candidate : Candidate} (named : req.holder.mode.isSome) :
    candidate ∈ fleet.matching req ↔
      fleet.inventory.card candidate.1 = some candidate.2 ∧ fleet.suits req candidate.1 ∧
        fleet.allows req candidate.1 ∧ candidate.2.ready ∧
          candidate.2.clusterId = req.holder.clusterId ∧
            serves req.holder.mode candidate.2 := by
  obtain ⟨mode, isMode⟩ := isSome_iff_exists.mp named
  obtain ⟨dev, card⟩ := candidate
  simp only [matching, mem_candidates, List.mem_filter, Bool.and_eq_true, isMode,
    Option.isNone_some, Bool.false_or, beq_iff_eq]
  constructor
  · rintro ⟨⟨-, suits, allowed⟩, found, ⟨ready, cluster⟩, serves⟩
    exact ⟨found, suits, allowed, ready, cluster, serves⟩
  · rintro ⟨found, suits, allowed, ready, cluster, serves⟩
    exact ⟨⟨mem_devices found, suits, allowed⟩, found, ⟨ready, cluster⟩, serves⟩

/-- What a placement asks of a matching card. -/
def Available (fleet : Fleet) (req : Request) (candidate : Candidate) : Prop :=
  candidate.2.modeState = .ready ∧ candidate.2.lendState = .normal ∧
    fleet.headroom req.host candidate.1 ∧
      ∃ counted ∈ fleet.inventory.recount candidate.1 candidate.2,
        (counted.slice req.mem req.cores req.exclusive).isSome

/-- A placement can take some matching card, and the counters of every card it recomputes fit. -/
def HasRoom (fleet : Fleet) (req : Request) : Prop :=
  fleet.inventory.Countable req.holder (fleet.query req) ∧ req.holder.mode.isSome ∧
    ∃ candidate ∈ fleet.matching req, fleet.Available req candidate

theorem offers_iff : fleet.inventory.Offers req.holder (fleet.query req) dev ↔
      req.holder.mode.isSome ∧ ∃ card, (dev, card) ∈ fleet.matching req ∧
        fleet.Available req (dev, card) := by
  constructor
  · rintro ⟨listed, headroom, tier, card, found, meets, room⟩
    simp only [placeable, Bool.and_eq_true, beq_iff_eq] at meets
    obtain ⟨⟨⟨⟨ready, settled⟩, unlent⟩, cluster⟩, serves⟩ := meets
    exact ⟨named_of_serves serves, card, (mem_matching (named_of_serves serves)).mpr
      ⟨found, (mem_query_devices.mp listed).2, any_eq_true.mpr tier, ready, cluster, serves⟩,
      settled, unlent, headroom, room⟩
  · rintro ⟨named, card, matched, settled, unlent, headroom, room⟩
    obtain ⟨found, suits, allowed, ready, cluster, serves⟩ := (mem_matching named).mp matched
    refine ⟨mem_query_devices.mpr ⟨mem_devices found, suits⟩, headroom, any_eq_true.mp allowed, card,
      found, ?_, room⟩
    simp only [placeable, Bool.and_eq_true, beq_iff_eq]
    exact ⟨⟨⟨⟨ready, settled⟩, unlent⟩, cluster⟩, serves⟩

/-- A session without an allocation is placed exactly when there is room. -/
theorem reserveSlice_placed_iff (free : fleet.inventory.live.find? id = none) :
    (∃ next, fleet.reserveSlice id req = some (next, true)) ↔ fleet.HasRoom req := by
  rw [reserveSlice, Inventory.reserveSlice_placed_iff free fleet.reports]
  simp only [HasRoom, offers_iff, Prod.exists, exists_and_left]

end Fleet

end GShare.Model
