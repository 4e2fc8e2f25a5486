import GShare.Proofs.Device.Fleet
import GShare.Soundness.Samples

/-! # Which queued requests an empty fleet could serve

The gates in front of the queue compare the columns of a request one by one: the balance check its shares
of a card, the capacity check each host column with the best node for that column, the serviceability check
the mode and the model. None asks for one card that has it all. What an empty fleet places is a request
that one of the matching cards is large enough for, on a node that is.
-/

namespace GShare.Model

open Option Nat

namespace Card

/-- The card with its allocations released, its loan ended and no pool change under way. -/
def freed (card : Card) : Card :=
  { card with
    usedMemMb := 0
    usedCores := 0
    lendState := .normal
    modeState := .ready
    noOvercommit := ⟨zero_le _, zero_le _⟩ }

/-- The card as a whole is large enough: for a shared slice in both dimensions, on a partitioned card by
the instance that the size is rounded up to. An exclusive request takes any card. -/
def LargeEnough (card : Card) (req : Request) : Prop :=
  req.exclusive = false → req.mem ≤ card.totalMemMb ∧
    if card.mode = some .mig then
      ∀ size ∈ card.migRounded req.mem req.cores, size.2 ≤ card.totalCores
    else req.cores ≤ card.totalCores

variable {card : Card} {mem cores : ℕ} {req : Request}

/-- An instance is at most the card, and there is one for every size up to it. -/
theorem migRounded_fst_le {size : ℕ × ℕ} (rounded : card.migRounded mem cores = some size) :
    mem ≤ card.totalMemMb ∧ size.1 ≤ card.totalMemMb := by
  unfold migRounded at rounded
  split_ifs at rounded with missing
  obtain ⟨fraction, -, found⟩ := List.exists_of_findSome?_eq_some rounded
  split_ifs at found
  cases found
  exact ⟨by omega, div_le_self _ _⟩

theorem migRounded_isSome (positive : 0 < mem) (within : mem ≤ card.totalMemMb) :
    (card.migRounded mem cores).isSome := by
  have present : ¬(card.totalMemMb = 0 ∨ mem = 0 ∨ card.totalMemMb < mem) := by omega
  rw [migRounded, if_neg present]
  exact List.findSome?_isSome_iff.mpr ⟨1, by simp, by simp [within]⟩

theorem fits_freed (reports : 0 < card.totalCores) :
    card.freed.fits mem cores ↔ mem ≤ card.totalMemMb ∧ cores ≤ card.totalCores := by
  have shared : card.freed.shareableCores = card.totalCores := if_neg reports.ne'
  simp only [fits, Bool.and_eq_true, decide_eq_true_eq, shared]
  simp [freed, freeMem]

/-- An empty card gives the request a slice exactly when it is large enough. -/
theorem slice_freed_isSome (reports : 0 < card.totalCores)
    (positive : card.mode = some .mig → req.exclusive = false → 0 < req.mem) :
    (card.freed.slice req.mem req.cores req.exclusive).isSome ↔ card.LargeEnough req := by
  unfold LargeEnough
  cases whole : req.exclusive with
  | true => simp [slice_exclusive, freed]
  | false =>
    by_cases partitioned : card.mode = some .mig
    · have stays : card.freed.mode = some .mig := partitioned
      have rounds : card.freed.migRounded = card.migRounded := rfl
      rw [slice_mig stays, rounds, if_pos partitioned]
      cases rounded : card.migRounded req.mem req.cores with
      | none =>
        have tooLarge : ¬req.mem ≤ card.totalMemMb := by
          intro within
          have rounds : (card.migRounded req.mem req.cores).isSome :=
            migRounded_isSome (positive partitioned whole) within
          simp [rounded] at rounds
        simp [tooLarge]
      | some size =>
        obtain ⟨within, small⟩ := migRounded_fst_le rounded
        simp [filter_some, fits_freed reports, within, small]
    · have stays : card.freed.mode ≠ some .mig := partitioned
      rw [slice_shared stays, if_neg partitioned]
      simp [fits_freed reports]

end Card

namespace Fleet

variable {fleet : Fleet} {req : Request} {dev : DeviceId}

/-- The fleet with every allocation released, every loan ended and no pool change under way. -/
def emptied (fleet : Fleet) : Fleet where
  __ := fleet
  inventory :=
    { fleet.inventory with
      card := fun dev => (fleet.inventory.card dev).map Card.freed
      live := .empty _ }
  reports dev card found := by
    obtain ⟨before, isBefore, rfl⟩ := map_eq_some_iff.mp found
    exact fleet.reports dev before isBefore
  listed dev isCard := fleet.listed dev (by simpa using isCard)

/-- The node of the card has the host CPU and memory for the request, as far as it reports them. -/
def NodeLargeEnough (fleet : Fleet) (req : Request) (dev : DeviceId) : Prop :=
  req.host = ⟨0, 0⟩ ∨ ∀ node ∈ fleet.node? dev,
    (∀ cpu ∈ node.cpu, nodeReserved.cpu + req.host.cpu ≤ cpu) ∧
      ∀ mem ∈ node.mem, nodeReserved.memGb + req.host.memGb ≤ mem

theorem headroom_emptied (ready : fleet.nodeReady dev) :
    fleet.emptied.headroom req.host dev ↔ fleet.NodeLargeEnough req dev := by
  have same : fleet.emptied.node? dev = fleet.node? dev := rfl
  have nothing : ∀ node column, fleet.emptied.promised node column = 0 := fun _ _ => rfl
  unfold headroom NodeLargeEnough
  cases joined : fleet.node? dev with
  | none => simp [same, joined]
  | some node =>
    have isReady : node.ready := by simpa [nodeReady, joined] using ready
    simp only [same, joined, nothing, add_zero, isReady, Bool.or_eq_true, Bool.and_eq_true, beq_iff_eq,
      all_eq_true, decide_eq_true_eq, true_and, mem_def, Option.some.injEq, forall_eq',
      isNone_iff_eq_none]
    constructor
    · rintro (none | ⟨cpu, mem⟩ | enough)
      · exact .inl none
      · exact .inr (by simp [cpu, mem])
      · exact .inr enough
    · rintro (none | enough)
      · exact .inl none
      · exact .inr (.inr enough)

theorem nodeReady_of_suits (suits : fleet.suits req dev) : fleet.nodeReady dev := by
  simp only [Fleet.suits, Bool.and_eq_true] at suits
  exact suits.1

theorem recount_emptied {card : Card} : fleet.emptied.inventory.recount dev card.freed = some card.freed := by
  have nothing : ∀ weight, fleet.emptied.inventory.live.total weight = 0 := fun _ => rfl
  rw [Inventory.recount, nothing, nothing, Card.setUsed, dif_pos ⟨zero_le _, zero_le _⟩]
  rfl

theorem offers_emptied_iff (positive : req.holder.mode = some .fractional → 0 < req.mem) :
    fleet.emptied.inventory.Offers req.holder (fleet.emptied.query req) dev ↔
      req.holder.mode.isSome ∧ ∃ card, (dev, card) ∈ fleet.matching req ∧
        card.LargeEnough req ∧ fleet.NodeLargeEnough req dev := by
  have sized : ∀ {card}, fleet.inventory.card dev = some card → req.holder.mode.isSome →
      ((card.freed.slice req.mem req.cores req.exclusive).isSome ↔
        card.LargeEnough req) := by
    intro card found named
    refine Card.slice_freed_isSome (fleet.reports dev card found) fun _ shared => positive ?_
    obtain ⟨mode, isMode⟩ := isSome_iff_exists.mp named
    have valid := req.unpartitioned
    rw [Request.exclusive, isMode] at shared
    rw [isMode] at valid ⊢
    cases mode with
    | fractional => rfl
    | exclusive => simp at shared
    | mig => exact absurd rfl valid
  rw [offers_iff]
  refine and_congr_right fun named => ?_
  constructor
  · rintro ⟨freed, matched, -, -, headroom, counted, isCounted, given⟩
    obtain ⟨found, suits, allowed, ready, cluster, serves⟩ := (mem_matching named).mp matched
    obtain ⟨card, isCard, rfl⟩ := map_eq_some_iff.mp found
    cases some.inj (recount_emptied.symm.trans isCounted)
    exact ⟨card, (mem_matching named).mpr ⟨isCard, suits, allowed, ready, cluster, serves⟩,
      (sized isCard named).mp given, (headroom_emptied (nodeReady_of_suits suits)).mp headroom⟩
  · rintro ⟨card, matched, large, roomy⟩
    obtain ⟨isCard, suits, allowed, ready, cluster, serves⟩ := (mem_matching named).mp matched
    have found : fleet.emptied.inventory.card dev = some card.freed :=
      map_eq_some_iff.mpr ⟨card, isCard, rfl⟩
    exact ⟨card.freed, (mem_matching named).mpr ⟨found, suits, allowed, ready, cluster, serves⟩, rfl, rfl,
      (headroom_emptied (nodeReady_of_suits suits)).mpr roomy, card.freed, recount_emptied,
      (sized isCard named).mpr large⟩

end Fleet

/-- A fractional request that passed the balance check asks for memory. -/
theorem mem_of_validateBalance {req : Request} {reference : ℕ}
    (balanced : validateBalance req reference = .ok ()) (gpu : req.holder.resourceClass = .gpu)
    (fractional : req.holder.mode = some .fractional) : 0 < req.mem := by
  by_contra nothing
  have small : req.mem < minFractionalMemMb := by
    unfold minFractionalMemMb
    omega
  simp [validateBalance, gpu, fractional, small] at balanced

end GShare.Model

namespace GShare.Soundness.Queueable

open GShare.Model Samples Fleet

/-- A queued request is one that the emptied fleet places exactly when it names a mode and one matching
card is large enough for it, on a node that is. -/
theorem queued_placeable_iff {fleet : Fleet} {req : Request} {id : SessionId}
    (gpu : req.holder.resourceClass = .gpu) (admitted : fleet.admits req = .ok ()) :
    (∃ next, fleet.emptied.reserveSlice id req = some (next, true)) ↔
      req.holder.mode.isSome ∧ ∃ dev card, (dev, card) ∈ fleet.matching req ∧
        card.LargeEnough req ∧ fleet.NodeLargeEnough req dev := by
  have balanced : validateBalance req (fleet.referenceMem req) = .ok () := by
    unfold admits at admitted
    cases answer : validateBalance req (fleet.referenceMem req) with
    | error refusal =>
      rw [answer] at admitted
      cases admitted
    | ok => rfl
  have countable : fleet.emptied.inventory.Countable req.holder (fleet.emptied.query req) := by
    rintro dev - freed found -
    obtain ⟨card, -, rfl⟩ := Option.map_eq_some_iff.mp found
    rw [recount_emptied, Option.isSome_some]
  rw [reserveSlice, Inventory.reserveSlice_placed_iff rfl fleet.emptied.reports]
  simp only [offers_emptied_iff (mem_of_validateBalance balanced gpu), countable, true_and]
  exact exists_and_left

def oneShared : Fleet :=
  fleetOf [sharedCard] (by decide) (fun _ => "A") (fun _ => none) (.empty _)

/-- Half of the card is placed on it. -/
theorem queued_placeable_half : ∃ next, oneShared.emptied.reserveSlice 0
      (requestOf (fractionalHolder 12288 50) "A" (by decide)) = some (next, true) := by
  refine (queued_placeable_iff rfl (by decide +kernel)).mpr
    ⟨rfl, 0, sharedCard, by decide, fun _ => ?_, .inr ?_⟩
  · exact ⟨by decide, by decide⟩
  · rintro node isNode
    cases isNode
    exact ⟨fun cpu isCpu => by cases isCpu; decide, fun mem isMem => by cases isMem; decide⟩

/-- A request for twice the memory of the card and all of its cores passes the gates and gets nothing, today
or from the empty fleet. -/
theorem queued_forever :
    let req := requestOf (fractionalHolder 49152 100) "A" (by decide)
    oneShared.admits req = .ok () ∧
      (oneShared.place 0 req).map (fun result => (result.placed, result.victim)) = some (false, none) ∧
        (oneShared.emptied.reserveSlice 0 req).map Prod.snd = some false := by
  decide +kernel

end GShare.Soundness.Queueable
