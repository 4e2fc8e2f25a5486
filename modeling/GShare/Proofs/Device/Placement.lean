import GShare.Proofs.Device.Inventory

/-! # When a placement succeeds

`reserve_slice` places a request exactly when the recomputed counters leave room on an admissible card, and
`reserve_spot_slice` when a yielded or lent card has room beside its borrowers.
-/

namespace GShare.Model

open Accounting Allocation Roster Option List Prod Card

namespace Allocation

/-- What a borrow takes of a card. -/
def lentOn (dev : DeviceId) (dim : Dimension) (alloc : Allocation) : ℕ :=
  if alloc.borrows dev then alloc.amount dim else 0

end Allocation

variable {devices : List DeviceId} {target : Target} {middle : Inventory}

namespace Inventory

variable {inv next : Inventory} {dev : DeviceId} {id : SessionId} {card : Card}
variable {holder : Holder} {query : Query}

/-- The card with its counters recomputed; the check constraint may refuse the sums. -/
def recount (inv : Inventory) (dev : DeviceId) (card : Card) : Option Card :=
  card.setUsed (inv.live.total (memOn dev))
    (inv.live.total (coresOn dev))

theorem recount_recount {after : Card} (counted : inv.recount dev card = some after) :
    inv.recount dev after = some after := by
  obtain ⟨fits, rfl⟩ := setUsed_eq_some counted
  rw [recount, setUsed, dif_pos fits]

/-- The counters of the listed cards are recomputed, and no others. -/
theorem reconcile_card (run : inv.reconcile devices = some next) : next.card dev =
      if dev ∈ devices then (inv.card dev).bind (inv.recount dev) else inv.card dev := by
  induction devices generalizing inv with
  | nil =>
    cases run
    rfl
  | cons head rest ih =>
    rw [reconcile] at run
    split at run
    next missing =>
      rw [ih run]
      by_cases here : dev = head
      · subst here
        simp [missing]
      · simp [here]
    next before found =>
      obtain ⟨after, counted, run⟩ := bind_eq_some_iff.mp run
      have recounted : inv.recount head before = some after := counted
      have same : ∀ card, (inv.setCard head after).recount dev card
          = inv.recount dev card := fun _ => rfl
      rw [ih run, setCard_card]
      by_cases here : dev = head
      · subst here
        simp [found, recounted, same, recount_recount recounted]
      · simp [here, funext same]

theorem reconcile_reports (run : inv.reconcile devices = some next)
    (reports : ∀ dev card, inv.card dev = some card → 0 < card.totalCores)
    (found : next.card dev = some card) : 0 < card.totalCores := by
  rw [reconcile_card run] at found
  split_ifs at found
  · obtain ⟨before, isBefore, recounted⟩ := bind_eq_some_iff.mp found
    obtain ⟨_, rfl⟩ := setUsed_eq_some recounted
    exact reports _ before isBefore
  · exact reports _ card found

/-- It fails only where the sums do not fit a listed card. -/
theorem reconcile_isSome : (inv.reconcile devices).isSome ↔
      ∀ dev ∈ devices, ∀ card ∈ inv.card dev, (inv.recount dev card).isSome := by
  induction devices generalizing inv with
  | nil => simp [reconcile]
  | cons head rest ih =>
    rw [reconcile]
    split
    next missing => simp [ih, missing]
    next before found =>
      have recounted : before.setUsed (inv.live.total (memOn head))
          (inv.live.total (coresOn head)) = inv.recount head before := rfl
      cases counted : inv.recount head before with
      | none => simp [recounted, counted, found]
      | some after =>
        simp only [recounted, counted, bind_eq_bind, bind_some, ih, forall_mem_cons,
          found, mem_def, Option.some.injEq, forall_eq', isSome_some, true_and]
        refine forall₂_congr fun dev _ => ?_
        have same : ∀ card, (inv.setCard head after).recount dev card
            = inv.recount dev card := fun _ => rfl
        rw [setCard_card]
        by_cases here : dev = head
        · subst here
          simp [same, found, counted, recount_recount counted]
        · simp [here, same]

/-- Recomputed counters do not change what is true of a card whatever its counters. -/
theorem Reconciled.exists_card (reconciled : inv.Reconciled devices next) {meets : Card → Prop}
    (blind : ∀ before after mem cores, before.setUsed mem cores = some after → (meets after ↔ meets before)) :
    (∃ card ∈ next.card dev, meets card) ↔ ∃ card ∈ inv.card dev, meets card := by
  rcases reconciled.card dev with same | ⟨-, before, after, isBefore, isAfter, set⟩
  · rw [same]
  · simp [isBefore, isAfter, blind before after _ _ set]

theorem mem_listed : dev ∈ (inv.candidates query.devices (placeable holder)).map Prod.fst ↔
      dev ∈ query.devices ∧ ∃ card ∈ inv.card dev, placeable holder card := by
  simp only [List.mem_map, Prod.exists, mem_candidates, mem_def]
  constructor
  · rintro ⟨place, card, ⟨member, found, meets⟩, rfl⟩
    exact ⟨member, card, found, meets⟩
  · rintro ⟨member, card, found, meets⟩
    exact ⟨dev, card, ⟨member, found, meets⟩, rfl⟩

/-- A card that takes placements, in a pool of the tenant, on a node with the host capacity, whose
recomputed counters leave a slice for the request. -/
def Offers (inv : Inventory) (holder : Holder) (query : Query) (dev : DeviceId) : Prop :=
  dev ∈ query.devices ∧ query.headroom dev ∧ (∃ tier ∈ query.tiers, tier dev) ∧
    ∃ card ∈ inv.card dev, placeable holder card ∧
      ∃ counted ∈ inv.recount dev card,
        (counted.slice (holder.gpuMemMb.getD 0) (holder.gpuCores.getD 0)
          (holder.mode == some .exclusive)).isSome

/-- The sums over their live allocations fit the cards a placement looks at. -/
def Countable (inv : Inventory) (holder : Holder) (query : Query) : Prop :=
  ∀ dev ∈ query.devices, ∀ card ∈ inv.card dev, placeable holder card →
    (inv.recount dev card).isSome

theorem reconcile_listed_isSome :
    (inv.reconcile ((inv.candidates query.devices (placeable holder)).map fst)).isSome ↔
      inv.Countable holder query := by
  rw [reconcile_isSome]
  constructor
  · intro fits dev member card found meets
    exact fits dev (mem_listed.mpr ⟨member, card, found, meets⟩) card found
  · intro fits dev listed card found
    obtain ⟨member, same, isSame, meets⟩ := mem_listed.mp listed
    cases some.inj (found.symm.trans isSame)
    exact fits dev member card found meets

/-- What a placement that succeeds did: a slice that an admissible card gives under the recomputed
counters is booked. -/
structure Placed (inv : Inventory) (id : SessionId) (holder : Holder) (query : Query)
    (middle : Inventory) (target : Target) (card : Card) (next : Inventory) : Prop where
  reconciled : inv.reconcile
    ((inv.candidates query.devices (placeable holder)).map fst) = some middle
  listed : target.device ∈ query.devices
  headroom : query.headroom target.device
  tier : ∃ tier ∈ query.tiers, tier target.device
  meets : ∃ before ∈ inv.card target.device, placeable holder before ∧
    inv.recount target.device before = some card
  found : middle.card target.device = some card
  given : card.slice (holder.gpuMemMb.getD 0) (holder.gpuCores.getD 0) (holder.mode == some .exclusive)
    = some (target.mem, target.cores)
  booked : middle.book id target = some next

/-- The cards that a placement chooses among once the counters are corrected. -/
def roomy (inv : Inventory) (holder : Holder) (query : Query) (middle : Inventory) : List Candidate :=
  middle.candidates
    (((inv.candidates query.devices (placeable holder)).map fst).filter query.headroom) fun _ => true

theorem mem_roomy (reconciled : inv.reconcile
      ((inv.candidates query.devices (placeable holder)).map fst) = some middle) :
    (dev, card) ∈ inv.roomy holder query middle ↔ dev ∈ query.devices ∧ query.headroom dev ∧
        ∃ before ∈ inv.card dev, placeable holder before ∧ inv.recount dev before = some card := by
  simp only [roomy, mem_candidates, mem_filter, and_true]
  constructor
  · rintro ⟨⟨listed, headroom⟩, found⟩
    obtain ⟨isDevice, before, isBefore, meets⟩ := mem_listed.mp listed
    rw [reconcile_card reconciled, if_pos listed, isBefore, bind_some] at found
    exact ⟨isDevice, headroom, before, isBefore, meets, found⟩
  · rintro ⟨isDevice, headroom, before, isBefore, meets, counted⟩
    have listed := mem_listed.mpr ⟨isDevice, before, isBefore, meets⟩
    refine ⟨⟨listed, headroom⟩, ?_⟩
    rw [reconcile_card reconciled, if_pos listed, isBefore, bind_some]
    exact counted

section

variable (run : inv.reserveSlice id holder query = some (next, true))

include run

theorem reserveSlice_chosen : ∃ middle target, inv.reconcile
        ((inv.candidates query.devices (placeable holder)).map fst) = some middle ∧
      (query.tiers.findSome? fun tier =>
        reserveTarget ((inv.roomy holder query middle).filter fun found => tier found.1)
          (holder.gpuMemMb.getD 0) (holder.gpuCores.getD 0) (holder.mode == some .exclusive)
          query.spread) = some target ∧ middle.book id target = some next := by
  obtain ⟨middle, reconciled, run⟩ := bind_eq_some_iff.mp run
  dsimp only at run
  split at run
  next => cases run
  next target chosen =>
    obtain ⟨last, booked, same⟩ := map_eq_some_iff.mp run
    cases same
    exact ⟨middle, target, reconciled, chosen, booked⟩

theorem reserveSlice_placed :
    ∃ middle target card, inv.Placed id holder query middle target card next := by
  obtain ⟨middle, target, reconciled, chosen, booked⟩ := reserveSlice_chosen run
  obtain ⟨tier, isTier, chosen⟩ := exists_of_findSome?_eq_some chosen
  obtain ⟨card, member, given⟩ := slice_of_reserveTarget chosen
  obtain ⟨member, inTier⟩ := mem_filter.mp member
  obtain ⟨listed, headroom, meets⟩ := (mem_roomy reconciled).mp member
  exact ⟨middle, target, card, reconciled, listed, headroom, ⟨tier, isTier, inTier⟩, meets,
    (mem_candidates.mp member).2.1, given, booked⟩

omit run in
theorem Placed.offers (placed : inv.Placed id holder query middle target card next) :
    inv.Offers holder query target.device := by
  obtain ⟨before, isBefore, meets, counted⟩ := placed.meets
  exact ⟨placed.listed, placed.headroom, placed.tier, before, isBefore, meets, card, counted,
    by rw [placed.given, isSome_some]⟩

omit run in
theorem book_isSome (free : inv.live.find? id = none) (found : inv.card target.device = some card)
    (within : (card.setUsed (card.usedMemMb + target.mem) (card.usedCores + target.cores)).isSome) :
    (inv.book id target).isSome := by
  obtain ⟨after, set⟩ := isSome_iff_exists.mp within
  simp only [book, found, set, bind_eq_bind, bind_some, record, isSome_map]
  exact insert_isSome free

omit run in
theorem reserveSlice_placed_iff (free : inv.live.find? id = none)
    (reports : ∀ dev card, inv.card dev = some card → 0 < card.totalCores) :
    (∃ next, inv.reserveSlice id holder query = some (next, true)) ↔
      inv.Countable holder query ∧ ∃ dev, inv.Offers holder query dev := by
  constructor
  · rintro ⟨next, run⟩
    obtain ⟨middle, target, card, placed⟩ := reserveSlice_placed run
    exact ⟨reconcile_listed_isSome.mp (by rw [placed.reconciled, isSome_some]), target.device,
      placed.offers⟩
  · rintro ⟨countable, dev, member, headroom, ⟨tier, isTier, inTier⟩, card, found, meets, counted,
      isCounted, given⟩
    obtain ⟨middle, reconciled⟩ := isSome_iff_exists.mp (reconcile_listed_isSome.mpr countable)
    have offered : (dev, counted) ∈ (inv.roomy holder query middle).filter fun found => tier found.1 :=
      mem_filter.mpr
        ⟨(mem_roomy reconciled).mpr ⟨member, headroom, card, found, meets, isCounted⟩, inTier⟩
    have chosen : (query.tiers.findSome? fun tier =>
        reserveTarget ((inv.roomy holder query middle).filter fun found => tier found.1)
          (holder.gpuMemMb.getD 0) (holder.gpuCores.getD 0) (holder.mode == some .exclusive)
          query.spread).isSome :=
      findSome?_isSome_iff.mpr ⟨tier, isTier, reserveTarget_isSome offered given⟩
    obtain ⟨target, isTarget⟩ := isSome_iff_exists.mp chosen
    obtain ⟨_, -, picked⟩ := exists_of_findSome?_eq_some isTarget
    obtain ⟨last, isLast, share⟩ := slice_of_reserveTarget picked
    obtain ⟨-, isLast, -⟩ := mem_candidates.mp (mem_filter.mp isLast).1
    have unheld : middle.live.find? id = none := by
      rw [(reconcile_reconciled reconciled).live, free]
    have cores := reconcile_reports reconciled reports isLast
    obtain ⟨next, booked⟩ := isSome_iff_exists.mp
      (book_isSome unheld isLast (setUsed_of_slice cores share))
    refine ⟨next, ?_⟩
    unfold reserveSlice
    unfold roomy at isTarget
    simp only [reconciled, bind_eq_bind, bind_some, isTarget, booked, map_some]

def HeldOn (inv : Inventory) (id : SessionId) (dev : DeviceId) : Prop :=
  ∃ row, inv.live.find? id = some row ∧ row.device = some dev

omit run in
theorem heldOn_of_record {alloc : Allocation}
    (recorded : inv.record alloc = some next) (here : alloc.device = some dev) :
    next.HeldOn alloc.session dev :=
  ⟨alloc, find?_insert (record_eq_some recorded).2.2, here⟩

/-- A card that takes placements, on a node with the host capacity, whose recomputed counters leave a slice
for the request; in whichever pool it is. -/
def Gives (inv : Inventory) (holder : Holder) (query : Query) (dev : DeviceId) : Prop :=
  dev ∈ query.devices ∧ query.headroom dev ∧
    ∃ card ∈ inv.card dev, placeable holder card ∧
      ∃ counted ∈ inv.recount dev card,
        (counted.slice (holder.gpuMemMb.getD 0) (holder.gpuCores.getD 0)
          (holder.mode == some .exclusive)).isSome

theorem reserveSlice_first :
    ∃ dev earlier tier later, query.tiers = earlier ++ tier :: later ∧ tier dev ∧
      inv.Gives holder query dev ∧ next.HeldOn id dev ∧
        ∀ passed ∈ earlier, ∀ other, inv.Gives holder query other → passed other = false := by
  obtain ⟨middle, target, reconciled, chosen, booked⟩ := reserveSlice_chosen run
  obtain ⟨earlier, tier, later, split, picked, refused⟩ := findSome?_eq_some_iff.mp chosen
  obtain ⟨card, member, given⟩ := slice_of_reserveTarget picked
  obtain ⟨member, inTier⟩ := mem_filter.mp member
  obtain ⟨listed, headroom, before, isBefore, meets, counted⟩ := (mem_roomy reconciled).mp member
  obtain ⟨_, _, -, -, recorded⟩ := (book_booked booked).card
  refine ⟨target.device, earlier, tier, later, split, inTier,
    ⟨listed, headroom, before, isBefore, meets, card, counted, by rw [given, isSome_some]⟩,
    heldOn_of_record recorded rfl, ?_⟩
  rintro passed isPassed other ⟨listed, headroom, before, isBefore, meets, counted, isCounted, given⟩
  by_contra inPassed
  have offered : (other, counted) ∈ (inv.roomy holder query middle).filter fun found => passed found.1 :=
    mem_filter.mpr ⟨(mem_roomy reconciled).mpr ⟨listed, headroom, before, isBefore, meets, isCounted⟩,
      by simpa using inPassed⟩
  exact isSome_iff_ne_none.mp (reserveTarget_isSome offered given) (refused passed isPassed)

end

/-- The borrowers of a card leave room for one more: nobody is there for a session that takes the card
whole, and what the others borrowed leaves a size that is not zero. -/
def RoomBeside (inv : Inventory) (holder : Holder) (dev : DeviceId) (card : Card) : Prop :=
  if holder.mode = some .exclusive then ∀ row ∈ inv.live.rows, row.borrows dev = false
  else 0 < holder.gpuMemMb.getD 0 ∧
    inv.live.total (lentOn dev .mem) + holder.gpuMemMb.getD 0 ≤ card.totalMemMb ∧
    inv.live.total (lentOn dev .cores) + holder.gpuCores.getD 0 ≤ card.totalCores

instance : Decidable (inv.RoomBeside holder dev card) := by
  unfold Inventory.RoomBeside
  infer_instance

/-- The recorded borrows of a card, summed as the table is. -/
theorem sum_borrows (amount : Allocation → ℕ) :
    ((inv.live.rows.filter (·.borrows dev)).map amount).sum
      = inv.live.total fun row => if row.borrows dev then amount row else 0 := by
  rw [Roster.total]
  induction inv.live.rows with
  | nil => rfl
  | cons head rest ih =>
    by_cases borrows : head.borrows dev
    · simp [borrows, ih]
    · simp [borrows, ih]

theorem borrowable_isSome_iff :
    (inv.borrowable holder (dev, card)).isSome ↔ inv.RoomBeside holder dev card := by
  have nobody : (inv.live.rows.filter (·.borrows dev)).isEmpty ↔
      ∀ row ∈ inv.live.rows, row.borrows dev = false := by
    simp [filter_eq_nil_iff]
  simp only [borrowable, RoomBeside]
  by_cases exclusive : holder.mode = some .exclusive
  · rw [if_pos exclusive, if_pos exclusive, ← nobody]
    split_ifs with free <;> simp [free]
  · rw [if_neg exclusive, if_neg exclusive, sum_borrows, sum_borrows]
    split_ifs with left
    · exact iff_of_true rfl left
    · exact iff_of_false Bool.false_ne_true left

/-- A yielded or lent card of the tenant's pools that has room for a borrower beside those it has. -/
def Lends (inv : Inventory) (holder : Holder) (query : Query) (dev : DeviceId) : Prop :=
  dev ∈ query.devices ∧ (∃ tier ∈ query.tiers, tier dev) ∧
    ∃ card ∈ inv.card dev, lendable holder card ∧
      (inv.borrowable holder (dev, card)).isSome

instance decidableLends : Decidable (inv.Lends holder query dev) :=
  inferInstanceAs (Decidable (_ ∧ _ ∧ ∃ card ∈ inv.card dev, _ ∧ _))

theorem borrowable_device {place : DeviceId}
    (room : inv.borrowable holder (place, card) = some target) : target.device = place := by
  simp only [borrowable] at room
  split_ifs at room <;> (cases room; rfl)

theorem spotTarget_borrowable (chosen : inv.spotTarget holder query = some target) :
    ∃ card, inv.card target.device = some card ∧ lendable holder card ∧
      inv.borrowable holder (target.device, card) = some target ∧ inv.Lends holder query target.device := by
  obtain ⟨⟨place, card⟩, member, room⟩ := exists_of_findSome?_eq_some chosen
  obtain ⟨allowed, found, lends⟩ := mem_candidates.mp member
  obtain ⟨listed, pooled⟩ := mem_filter.mp allowed
  cases borrowable_device room
  exact ⟨card, found, lends, room, listed, any_eq_true.mp pooled, card, found, lends,
    by rw [room, isSome_some]⟩

theorem spotTarget_isSome_iff : (inv.spotTarget holder query).isSome ↔ ∃ dev, inv.Lends holder query dev := by
  constructor
  · intro chosen
    obtain ⟨target, chosen⟩ := isSome_iff_exists.mp chosen
    obtain ⟨card, -, -, -, lends⟩ := spotTarget_borrowable chosen
    exact ⟨target.device, lends⟩
  · rintro ⟨dev, listed, pooled, card, found, lends, room⟩
    exact findSome?_isSome_iff.mpr ⟨(dev, card),
      mem_candidates.mpr ⟨mem_filter.mpr ⟨listed, any_eq_true.mpr pooled⟩, found, lends⟩, room⟩

/-- A session without an allocation borrows exactly when some card lends. -/
theorem reserveSpotSlice_placed_iff (free : inv.live.find? id = none) :
    (∃ next, inv.reserveSpotSlice id holder query = some (next, true)) ↔
      ∃ dev, inv.Lends holder query dev := by
  rw [← spotTarget_isSome_iff]
  cases chosen : inv.spotTarget holder query with
  | none => simp [reserveSpotSlice, chosen]
  | some target =>
    have recorded : (inv.borrow id target).isSome := by
      simp only [borrow, record, isSome_map]
      exact insert_isSome (by rw [modifyCard_live]; exact free)
    obtain ⟨next, borrowed⟩ := isSome_iff_exists.mp recorded
    simp [reserveSpotSlice, chosen, borrowed]

/-- A session that borrowed found a card that lends. -/
theorem reserveSpotSlice_lends (run : inv.reserveSpotSlice id holder query = some (next, true)) :
    ∃ dev, inv.Lends holder query dev := by
  rw [← spotTarget_isSome_iff]
  cases chosen : inv.spotTarget holder query with
  | none => simp [reserveSpotSlice, chosen] at run
  | some target => rfl

theorem lendable_iff : lendable holder card ↔ (card.ready ∧ card.clusterId = holder.clusterId ∧
      card.mode = some .exclusive) ∧ card.lendState ≠ .normal := by
  simp [lendable, and_assoc]

theorem roomBeside_congr (same : next.live = inv.live) :
    next.RoomBeside holder dev card ↔ inv.RoomBeside holder dev card := by
  simp only [RoomBeside, same]

/-- Which cards lend does not depend on the counters. -/
theorem Reconciled.lends_iff (reconciled : inv.Reconciled devices next) :
    next.Lends holder query dev ↔ inv.Lends holder query dev := by
  unfold Lends
  simp only [borrowable_isSome_iff, roomBeside_congr reconciled.live, lendable_iff]
  rw [reconciled.exists_card]
  intro before after mem cores set
  obtain ⟨_, rfl⟩ := setUsed_eq_some set
  rfl

end Inventory

end GShare.Model
