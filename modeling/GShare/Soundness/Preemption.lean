import GShare.Proofs.Device.Fleet
import GShare.Soundness.Samples

/-! # Pausing somebody for a request

`_preempt_lower_priority` asks whose card the requester's pools reach and who may be paused;
`reserve_spot_slice` then asks for a card of the right model and pool, in order, with room for the size of
the request. A session is paused in vain exactly when its card fails one of the questions only the second
query asks.
-/

open GShare.Model

variable {fleet : Fleet} {req : Request} {inv : Inventory} {id : SessionId} {row : Allocation}

namespace GShare.Model

open Inventory

namespace Inventory

variable {dev : DeviceId}

theorem pause_yield {row : Allocation} (member : row ∈ inv.live.rows) (own : row.kind = .resident)
    (on : row.device = some dev) : (inv.pause row.session .yield).live = inv.live ∧
      ∀ other, (inv.pause row.session .yield).card other =
        if other = dev then (inv.card other).map fun card => { card with lendState := .yielded }
        else inv.card other := by
  have held : inv.residentCard? row.session = some dev := by
    rw [residentCard?, resident?_eq_some.mpr ⟨member, rfl, own⟩, Option.bind_some, on]
  constructor
  · simp [pause, setStatus, setLendState, held]
  · intro other
    simp [pause, setStatus, setLendState, held, modifyCard_card]

end Inventory

namespace Fleet

/-- A first attempt that got nothing only recomputed counters. -/
theorem attempt_refused (refused : fleet.attempt id req = some (inv, false)) :
    ∃ devices, fleet.inventory.Reconciled devices inv := by
  obtain ⟨⟨middle, placed⟩, reserved, rest⟩ := Option.bind_eq_some_iff.mp refused
  cases placed with
  | true => simp at rest
  | false =>
    cases reserveSlice_reserved reserved with
    | refused reconciled =>
      dsimp only at rest
      split_ifs at rest
      · cases rest
        exact ⟨_, reconciled⟩
      · cases reserveSpotSlice_reserved rest
        exact ⟨_, reconciled⟩

/-- What the query for a victim guarantees. -/
theorem victim?_eq_some (chosen : fleet.victim? inv req = some row) :
    row ∈ inv.live.rows ∧ row.kind = .resident ∧ 0 < req.holder.priority ∧
      ∃ dev, row.device = some dev ∧ fleet.allows req dev := by
  obtain ⟨member, meets⟩ := List.mem_filter.mp (List.argmin_mem chosen)
  simp only [preemptable, Bool.and_eq_true, beq_iff_eq, Option.any_eq_true] at meets
  obtain ⟨⟨own, holder, -, -, lower⟩, dev, on, -, allowed⟩ := meets
  exact ⟨member, own, Nat.zero_lt_of_lt (of_decide_eq_true lower), dev, on, allowed⟩

/-- A card that the request could borrow if its resident yielded it: ready, in the exclusive pool of the
cluster, of the offering's model, on a node that takes placements, and with room for the size. -/
def WouldLend (fleet : Fleet) (req : Request) (dev : DeviceId) : Prop :=
  fleet.suits req dev ∧ ∃ card ∈ fleet.inventory.card dev,
    card.ready ∧ card.clusterId = req.holder.clusterId ∧ card.mode = some .exclusive ∧
      fleet.inventory.RoomBeside req.holder dev card

/-- A card that the request could borrow before anybody is paused for it. -/
def LendsAlready (fleet : Fleet) (req : Request) : Prop :=
  ∃ dev, fleet.WouldLend req dev ∧ fleet.allows req dev ∧
    ∃ card ∈ fleet.inventory.card dev, card.lendState ≠ .normal

theorem lends_pause_iff {devices : List DeviceId} {dev other : DeviceId}
    (reconciled : fleet.inventory.Reconciled devices inv) (member : row ∈ inv.live.rows)
    (own : row.kind = .resident) (on : row.device = some dev) :
    (inv.pause row.session .yield).Lends req.holder (fleet.query req) other ↔
      fleet.WouldLend req other ∧ fleet.allows req other ∧
        (other = dev ∨ ∃ card ∈ fleet.inventory.card other, card.lendState ≠ .normal) := by
  obtain ⟨live, cards⟩ := pause_yield member own on
  have sameLive := live.trans reconciled.live
  -- The conditions on the columns of the card, under which it lends after the yield.
  have column : (∃ card ∈ (inv.pause row.session .yield).card other,
        lendable req.holder card ∧
          ((inv.pause row.session .yield).borrowable req.holder (other, card)).isSome) ↔
      ∃ card ∈ fleet.inventory.card other, ((card.ready ∧
        card.clusterId = req.holder.clusterId ∧ card.mode = some .exclusive) ∧
          fleet.inventory.RoomBeside req.holder other card) ∧
            (other = dev ∨ card.lendState ≠ .normal) := by
    simp only [lendable_iff, borrowable_isSome_iff,
      roomBeside_congr sameLive, cards other]
    rw [← reconciled.exists_card]
    · by_cases here : other = dev
      · simp [here, RoomBeside]
      · simp only [here, if_false, false_or, and_assoc, and_left_comm, and_comm]
    · intro before after mem cores set
      obtain ⟨_, rfl⟩ := Card.setUsed_eq_some set
      rfl
  unfold Lends WouldLend
  rw [column, mem_query_devices, ← List.any_eq_true]
  constructor
  · rintro ⟨⟨-, suits⟩, allowed, card, found, ⟨columns, room⟩, lends⟩
    exact ⟨⟨suits, card, found, columns.1, columns.2.1, columns.2.2, room⟩, allowed,
      lends.imp_right fun lends => ⟨card, found, lends⟩⟩
  · rintro ⟨⟨suits, card, found, ready, cluster, pool, room⟩, allowed, lends⟩
    refine ⟨⟨mem_devices found, suits⟩, allowed, card, found,
      ⟨⟨ready, cluster, pool⟩, room⟩, lends.imp_right ?_⟩
    rintro ⟨same, isSame, lends⟩
    cases Option.some.inj (found.symm.trans isSame)
    exact lends

end Fleet

end GShare.Model

namespace GShare.Soundness.Preemption

open Samples Fleet Option

/-- A request for which a session is paused is placed exactly when it could borrow the card of that
session, or could borrow some card already. -/
theorem preempted_placed_iff (fresh : fleet.inventory.live.find? id = none)
    (refused : fleet.attempt id req = some (inv, false)) (victim : fleet.victim? inv req = some row) :
    (∃ next, fleet.place id req = some ⟨next, true, some row.session⟩) ↔
      fleet.LendsAlready req ∨ ∃ dev ∈ row.device, fleet.WouldLend req dev := by
  obtain ⟨devices, reconciled⟩ := attempt_refused refused
  obtain ⟨member, own, outranks, dev, on, allowed⟩ := victim?_eq_some victim
  have free : (inv.pause row.session .yield).live.find? id = none := by
    rw [(Inventory.pause_yield member own on).1, reconciled.live, fresh]
  have placed : (∃ next, fleet.place id req = some ⟨next, true, some row.session⟩) ↔
      ∃ next, (inv.pause row.session .yield).reserveSpotSlice id req.holder
        (fleet.query req) = some (next, true) := by
    have priority : (req.holder.priority == 0) = false := by simpa using outranks.ne'
    simp only [place, refused, bind_eq_bind, bind_some, Bool.false_or, priority,
      Bool.false_eq_true, if_false, victim, bind_eq_some_iff, Option.some.injEq,
      Placement.mk.injEq, Prod.exists]
    constructor
    · rintro ⟨next, after, isPlaced, run, rfl, rfl, -⟩
      exact ⟨_, run⟩
    · rintro ⟨next, run⟩
      exact ⟨next, next, true, run, rfl, rfl, trivial⟩
  rw [placed, Inventory.reserveSpotSlice_placed_iff free]
  simp only [lends_pause_iff reconciled member own on, on, mem_def, Option.some.injEq,
    exists_eq_left']
  constructor
  · rintro ⟨other, would, allows, rfl | lends⟩
    · exact .inr would
    · exact .inl ⟨other, would, allows, lends⟩
  · rintro (⟨other, would, allows, lends⟩ | would)
    · exact ⟨other, would, allows, .inr lends⟩
    · exact ⟨dev, would, allowed, .inl rfl⟩

/-- A session on a whole card that yields when it is paused. -/
def yieldingHolder : Holder :=
  { exclusiveHolder .yield false with status := .running }

/-- A request for a whole card that outranks it. -/
def urgentHolder : Holder :=
  { exclusiveHolder .cold false with priority := 1 }

def urgentRequest (model : String) : Request := requestOf urgentHolder model (by decide)

/-- Two cards in use: one by the yielding session, one by a session with the rank of the request. -/
def bothInUse (models : DeviceId → String) : Fleet :=
  fleetOf [fullCard, fullCard] (by decide) models
    (fun id => if id = 0 then some yieldingHolder
      else if id = 1 then some { urgentHolder with status := .running } else none)
    ⟨[⟨0, some 0, some 24576, some 100, .resident⟩, ⟨1, some 1, some 24576, some 100, .resident⟩],
      by decide⟩

/-- On two cards of the model the request asks for, the yielding session is paused to good effect. -/
theorem preempted_placed_same_model :
    ∃ inv row, (bothInUse fun _ => "A").attempt 2 (urgentRequest "A") = some (inv, false) ∧
      (bothInUse fun _ => "A").victim? inv (urgentRequest "A") = some row ∧
      ∃ next, (bothInUse fun _ => "A").place 2 (urgentRequest "A") = some ⟨next, true, some row.session⟩ := by
  refine ⟨_, _, rfl, rfl, (preempted_placed_iff (by decide) rfl rfl).mpr (.inr ⟨0, rfl, by decide, ?_⟩)⟩
  exact ⟨fullCard, rfl, by decide, by decide, by decide, by decide⟩

/-- The request is for the model of the other card: it passes the gates of the queue, the session on the
first card is paused for it, and it does not get that card. -/
theorem paused_in_vain :
    let fleet := bothInUse fun dev => if dev = 0 then "A" else "B"
    let req := urgentRequest "B"
    fleet.admits req = .ok () ∧
      (fleet.place 2 req).map (fun result => (result.placed, result.victim)) = some (false, some 0) := by
  decide +kernel

end GShare.Soundness.Preemption
