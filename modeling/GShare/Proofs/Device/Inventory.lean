import GShare.Machine.Run
import GShare.Model.Device.Transactions
import GShare.Proofs.Device.Choice
import Mathlib.Data.Option.Basic

/-! # What the functions on the device tables write

Per column of a card, and per table: the counters and the loan of a card after each primitive, which
allocations are live, and what a placement that succeeds has found.
-/

namespace GShare.Model

open Accounting Roster Allocation Option List Function

variable {card : Card} {alloc : Allocation} {dev : DeviceId}

/-- The two counters of a card. -/
inductive Dimension where
  | mem | cores
deriving DecidableEq

namespace Card

def used (card : Card) : Dimension → ℕ
  | .mem => card.usedMemMb
  | .cores => card.usedCores

def total (card : Card) : Dimension → ℕ
  | .mem => card.totalMemMb
  | .cores => card.totalCores

end Card

/-- The recorded amount, nothing when it is missing. -/
def Allocation.amount (alloc : Allocation) : Dimension → ℕ
  | .mem => alloc.gpuMemMb.getD 0
  | .cores => alloc.gpuCores.getD 0

namespace Card

variable {next : Card} {mem cores : ℕ} {dim : Dimension}

section

variable (set : card.setUsed mem cores = some next)

include set

theorem setUsed_eq_some :
    ∃ fits, next = { card with usedMemMb := mem, usedCores := cores, noOvercommit := fits } := by
  unfold setUsed at set
  split_ifs at set with fits
  exact ⟨fits, (some.inj set).symm⟩

theorem total_setUsed : next.total dim = card.total dim := by
  obtain ⟨_, rfl⟩ := setUsed_eq_some set
  cases dim <;> rfl

theorem lendState_setUsed : next.lendState = card.lendState := by
  obtain ⟨_, rfl⟩ := setUsed_eq_some set
  rfl

end

theorem used_setUsed (use : Dimension → ℕ) (set : card.setUsed (use .mem) (use .cores) = some next) :
    next.used dim = use dim := by
  obtain ⟨_, rfl⟩ := setUsed_eq_some set
  cases dim <;> rfl

@[simp] theorem lendState_giveBack : (card.giveBack alloc).lendState = card.lendState := rfl

@[simp] theorem used_giveBack : (card.giveBack alloc).used dim = card.used dim - alloc.amount dim := by
  cases dim <;> rfl

@[simp] theorem total_giveBack : (card.giveBack alloc).total dim = card.total dim := by
  cases dim <;> rfl

/-- Only the pool columns change when a pool change applies. -/
theorem applyDrainedMode_eq (card : Card) :
    ∃ mode state, card.applyDrainedMode = { card with mode := mode, modeState := state } := by
  unfold applyDrainedMode
  split
  · split_ifs
    · exact ⟨_, _, rfl⟩
    · exact ⟨card.mode, card.modeState, rfl⟩
  · exact ⟨card.mode, card.modeState, rfl⟩

@[simp] theorem lendState_applyDrainedMode : card.applyDrainedMode.lendState = card.lendState := by
  obtain ⟨_, _, same⟩ := card.applyDrainedMode_eq
  rw [same]

@[simp] theorem used_applyDrainedMode : card.applyDrainedMode.used dim = card.used dim := by
  obtain ⟨_, _, same⟩ := card.applyDrainedMode_eq
  rw [same]
  cases dim <;> rfl

@[simp] theorem total_applyDrainedMode : card.applyDrainedMode.total dim = card.total dim := by
  obtain ⟨_, _, same⟩ := card.applyDrainedMode_eq
  rw [same]
  cases dim <;> rfl

@[simp] theorem used_rollBack : (card.rollBack alloc).used dim = card.used dim - alloc.amount dim := by
  simp [rollBack]

@[simp] theorem total_rollBack : (card.rollBack alloc).total dim = card.total dim := by
  simp [rollBack]

@[simp] theorem lendState_rollBack : (card.rollBack alloc).lendState = card.lendState := by
  simp [rollBack]

@[simp] theorem total_release : (card.release alloc).total dim = card.total dim := by
  unfold release
  split
  · rw [total_applyDrainedMode]
    cases dim <;> rfl
  · rw [total_applyDrainedMode, total_giveBack]

theorem used_release_resident (own : alloc.kind = .resident) :
    (card.release alloc).used dim = card.used dim - alloc.amount dim := by
  simp [release, own]

theorem used_release_spot (borrowed : alloc.kind = .spot) :
    (card.release alloc).used dim = card.used dim := by
  rw [release, borrowed]
  simp only [used_applyDrainedMode]
  cases dim <;> rfl

theorem lendState_release_resident (own : alloc.kind = .resident) :
    (card.release alloc).lendState = card.lendState := by
  simp [release, own]

theorem lendState_release_spot (borrowed : alloc.kind = .spot) :
    (card.release alloc).lendState = if card.lendState = .lent then .yielded else card.lendState := by
  simp [release, borrowed]

end Card

namespace Allocation

theorem isOn_iff : alloc.isOn dev ↔ alloc.device = some dev := by simp [isOn]

theorem borrows_iff : alloc.borrows dev ↔ alloc.device = some dev ∧ alloc.kind = .spot := by
  simp [borrows, isOn]

theorem occupies_iff : alloc.occupies dev ↔ alloc.device = some dev ∧ alloc.kind = .resident := by
  simp [occupies, isOn]

end Allocation

variable {devices : List DeviceId} {placed : Bool} {uuid : Option String}

namespace Inventory

variable {inv next : Inventory} {other : DeviceId} {id : SessionId}
variable {row : Allocation} {holder : Holder} {target : Target} {query : Query}

section Writes

variable {change : Card → Card} {alter : Holder → Holder} {handBack : Card → Allocation → Card}
variable {other : SessionId}

theorem setCard_card :
    (inv.setCard dev card).card other = if other = dev then some card else inv.card other := by
  simp [setCard, update_apply]

@[simp] theorem modifyCard_live : (inv.modifyCard dev change).live = inv.live := by
  unfold modifyCard
  split <;> rfl

@[simp] theorem modifyCard_session : (inv.modifyCard dev change).session = inv.session := by
  unfold modifyCard
  split <;> rfl

theorem modifyCard_card : (inv.modifyCard dev change).card other =
      if other = dev then (inv.card other).map change else inv.card other := by
  unfold modifyCard
  cases found : inv.card dev with
  | none =>
    simp only
    split_ifs with same
    · rw [same, found, map_none]
    · rfl
  | some card =>
    simp only [setCard_card]
    split_ifs with same
    · rw [same, found, map_some]
    · rfl

@[simp] theorem modifySession_live : (inv.modifySession id alter).live = inv.live := rfl
@[simp] theorem modifySession_card : (inv.modifySession id alter).card = inv.card := rfl

theorem modifySession_session : (inv.modifySession id alter).session other =
      if other = id then (inv.session other).map alter else inv.session other := by
  simp only [modifySession, update_apply]
  split_ifs with same
  · rw [same]
  · rfl

theorem close_of_none (absent : inv.live.find? id = none) : inv.close id handBack = inv := by
  simp [close, absent]

@[simp] theorem close_session : (inv.close id handBack).session = inv.session := by
  unfold close
  split
  · rfl
  · split <;> simp

theorem mem_close : row ∈ (inv.close id handBack).live.rows ↔ row ∈ inv.live.rows ∧ row.session ≠ id := by
  unfold close
  split
  next absent =>
    have others := find?_eq_none_iff.mp absent
    exact ⟨fun member => ⟨member, others row member⟩, And.left⟩
  next alloc found => split <;> simp [mem_remove]

section

variable (found : inv.live.find? id = some alloc)

include found

theorem close_live : (inv.close id handBack).live = inv.live.remove id := by
  simp only [close, found]
  split <;> simp

omit found in
theorem close_find? : (inv.close id handBack).live.find? other =
    if other = id then none else inv.live.find? other := by
  cases found : inv.live.find? id with
  | none =>
    rw [close_of_none found]
    split_ifs with same
    · rw [same, found]
    · rfl
  | some alloc => rw [close_live found, find?_remove]

theorem total_close (handBack : Card → Allocation → Card) (weight : Allocation → ℕ) :
    inv.live.total weight = weight alloc + (inv.close id handBack).live.total weight := by
  rw [total_remove found weight]
  simp only [close, found]
  split <;> simp

theorem close_card : (inv.close id handBack).card dev =
      if alloc.isOn dev then (inv.card dev).map (handBack · alloc) else inv.card dev := by
  rcases alloc with ⟨sess, place, mem, cores, kind⟩
  cases place with
  | none => simp [close, found, isOn]
  | some place =>
    simp only [close, found, isOn, modifyCard_card]
    by_cases same : dev = place
    · simp [same]
    · simp [same, Ne.symm same]

end

section

variable (recorded : inv.record alloc = some next)

include recorded

theorem record_eq_some :
    next.card = inv.card ∧ next.session = inv.session ∧ inv.live.insert alloc = some next.live := by
  obtain ⟨live, inserted, rfl⟩ := map_eq_some_iff.mp recorded
  exact ⟨rfl, rfl, inserted⟩

theorem mem_record : row ∈ next.live.rows ↔ row = alloc ∨ row ∈ inv.live.rows := by
  obtain ⟨-, -, inserted⟩ := record_eq_some recorded
  rw [(insert_eq_some inserted).2, mem_cons]

theorem find?_of_record : inv.live.find? alloc.session = none :=
  (insert_eq_some (record_eq_some recorded).2.2).1

end

end Writes

section Placement

/-- Counters of some cards were recomputed, nothing else was written. -/
structure Reconciled (inv : Inventory) (devices : List DeviceId) (next : Inventory) : Prop where
  live : next.live = inv.live
  session : next.session = inv.session
  card : ∀ dev, next.card dev = inv.card dev ∨
    dev ∈ devices ∧ ∃ before after, inv.card dev = some before ∧
      next.card dev = some after ∧
      before.setUsed (inv.live.total (memOn dev))
        (inv.live.total (coresOn dev)) = some after

theorem reconcile_reconciled (run : inv.reconcile devices = some next) : inv.Reconciled devices next := by
  induction devices generalizing inv with
  | nil =>
    cases run
    exact ⟨rfl, rfl, fun _ => .inl rfl⟩
  | cons head rest ih =>
    rw [reconcile] at run
    split at run
    next missing =>
      obtain ⟨live, sess, card⟩ := ih run
      refine ⟨live, sess, fun dev => (card dev).imp_right ?_⟩
      rintro ⟨member, recounted⟩
      exact ⟨mem_cons_of_mem head member, recounted⟩
    next before found =>
      obtain ⟨after, set, run⟩ := bind_eq_some_iff.mp run
      obtain ⟨live, sess, card⟩ := ih run
      refine ⟨live, sess, fun dev => ?_⟩
      -- A card that is listed twice gets the same counters twice.
      by_cases same : dev = head
      · subst same
        refine .inr ⟨mem_cons_self, before, after, found, ?_, set⟩
        rcases card dev with kept | ⟨_, middle, last, isMiddle, isLast, again⟩
        · rw [kept, setCard_card, if_pos rfl]
        · rw [setCard_card, if_pos rfl] at isMiddle
          cases isMiddle
          obtain ⟨_, rfl⟩ := Card.setUsed_eq_some set
          obtain ⟨_, rfl⟩ := Card.setUsed_eq_some again
          exact isLast
      · rcases card dev with kept | ⟨member, recounted⟩
        · exact .inl (by rw [kept, setCard_card, if_neg same])
        · rw [setCard_card, if_neg same] at recounted
          exact .inr ⟨mem_cons_of_mem head member, recounted⟩

theorem lendState_of_lendable (lends : lendable holder card) : card.lendState ≠ .normal := by
  simp only [lendable, Bool.and_eq_true, bne_iff_ne] at lends
  exact lends.2

theorem mem_candidates {meets : Card → Bool} : (dev, card) ∈ inv.candidates devices meets ↔
      dev ∈ devices ∧ inv.card dev = some card ∧ meets card := by
  simp only [candidates, mem_filterMap, bind_eq_some_iff]
  constructor
  · rintro ⟨place, member, found, isFound, picked⟩
    split_ifs at picked with met
    cases picked
    exact ⟨member, isFound, met⟩
  · rintro ⟨member, found, met⟩
    exact ⟨dev, member, card, found, if_pos met⟩

theorem reserveTarget_eq_some {cards : List Candidate} {mem cores : ℕ} {exclusive spread : Bool}
    (chosen : reserveTarget cards mem cores exclusive spread = some target) :
    ∃ card, (target.device, card) ∈ cards ∧
      (exclusive → target.mem = card.totalMemMb ∧ target.cores = card.totalCores) := by
  obtain ⟨card, member, given⟩ := slice_of_reserveTarget chosen
  refine ⟨card, member, fun whole => ?_⟩
  rw [whole, Card.slice_exclusive] at given
  split_ifs at given
  obtain ⟨mem, cores⟩ := Prod.mk.inj (some.inj given)
  exact ⟨mem.symm, cores.symm⟩

/-- A slice of a card was booked: its counters went up by what the allocation records. -/
structure Booked (inv : Inventory) (id : SessionId) (target : Target) (next : Inventory) :
    Prop where
  card : ∃ before after, inv.card target.device = some before ∧
    before.setUsed (before.usedMemMb + target.mem) (before.usedCores + target.cores) = some after ∧
    (inv.setCard target.device after).record
      ⟨id, some target.device, some target.mem, some target.cores, .resident⟩ = some next

theorem book_booked (booked : inv.book id target = some next) : inv.Booked id target next := by
  obtain ⟨before, found, booked⟩ := bind_eq_some_iff.mp booked
  obtain ⟨after, set, recorded⟩ := bind_eq_some_iff.mp booked
  exact ⟨before, after, found, set, recorded⟩

variable (inv : Inventory) (id : SessionId) (holder : Holder) (query : Query) in
/-- The outcome of `reserve_slice`: the counters of the candidates are recomputed, and a slice of one of
them is booked if one fits. -/
inductive Reserved : Inventory → Bool → Prop
  | refused {middle : Inventory}
      (reconciled : inv.Reconciled
        ((inv.candidates query.devices (placeable holder)).map Prod.fst) middle) :
      Reserved middle false
  | placed {middle next : Inventory} {target : Target} {card : Card}
      (reconciled : inv.Reconciled
        ((inv.candidates query.devices (placeable holder)).map Prod.fst) middle)
      (listed : target.device ∈ (inv.candidates query.devices (placeable holder)).map Prod.fst)
      (found : middle.card target.device = some card)
      (whole : holder.mode = some .exclusive →
        target.mem = card.totalMemMb ∧ target.cores = card.totalCores)
      (booked : middle.Booked id target next) : Reserved next true

theorem reserveSlice_reserved (run : inv.reserveSlice id holder query = some (next, placed)) :
    inv.Reserved id holder query next placed := by
  obtain ⟨middle, reconciled, run⟩ := bind_eq_some_iff.mp run
  have reconciled := reconcile_reconciled reconciled
  dsimp only at run
  split at run
  next => cases run; exact .refused reconciled
  next target chosen =>
    obtain ⟨last, booked, same⟩ := map_eq_some_iff.mp run
    cases same
    obtain ⟨tier, -, chosen⟩ := exists_of_findSome?_eq_some chosen
    obtain ⟨card, member, whole⟩ := reserveTarget_eq_some chosen
    obtain ⟨listed, found, -⟩ := mem_candidates.mp (mem_filter.mp member).1
    exact .placed reconciled (mem_filter.mp listed).1 found
      (fun exclusive => whole (by simpa using exclusive)) (book_booked booked)

theorem spotTarget_eq_some (chosen : inv.spotTarget holder query = some target) :
    ∃ card, inv.card target.device = some card ∧ lendable holder card := by
  obtain ⟨⟨place, card⟩, member, room⟩ := exists_of_findSome?_eq_some chosen
  obtain ⟨-, found, lends⟩ := mem_candidates.mp member
  have same : target.device = place := by
    simp only [borrowable] at room
    split_ifs at room <;> (cases room; rfl)
  exact ⟨card, same ▸ found, lends⟩

variable (inv : Inventory) (id : SessionId) (holder : Holder) (query : Query) in
/-- The outcome of `reserve_spot_slice`: nothing, or a borrow of a yielded or lent card. -/
inductive SpotReserved : Inventory → Bool → Prop
  | refused : SpotReserved inv false
  | placed {next : Inventory} {target : Target} {card : Card}
      (chosen : inv.spotTarget holder query = some target)
      (found : inv.card target.device = some card) (lendable : lendable holder card)
      (borrowed : inv.borrow id target = some next) :
      SpotReserved next true

theorem reserveSpotSlice_reserved (run : inv.reserveSpotSlice id holder query = some (next, placed)) :
    inv.SpotReserved id holder query next placed := by
  unfold reserveSpotSlice at run
  split at run
  next => cases run; exact .refused
  next target chosen =>
    obtain ⟨last, borrowed, same⟩ := map_eq_some_iff.mp run
    cases same
    obtain ⟨card, found, lends⟩ := spotTarget_eq_some chosen
    exact .placed chosen found lends borrowed

end Placement

section Binding

theorem resolveDevice_card (resolved : inv.resolveDevice holder uuid = some (dev, card)) :
    inv.card dev = some card := by
  simp only [resolveDevice, bind_eq_bind] at resolved
  split_ifs at resolved
  · cases resolved
  · obtain ⟨-, -, resolved⟩ := bind_eq_some_iff.mp resolved
    obtain ⟨name, -, resolved⟩ := bind_eq_some_iff.mp resolved
    obtain ⟨place, -, resolved⟩ := bind_eq_some_iff.mp resolved
    obtain ⟨found, isFound, resolved⟩ := bind_eq_some_iff.mp resolved
    split_ifs at resolved
    cases resolved
    exact isFound

variable (inv : Inventory) (id : SessionId) (holder : Holder) (uuid : Option String) in
/-- The outcome of `_ensure_allocation`: nothing to do, an allocation without a card, or one whose card
counts it. -/
inductive Ensured : Inventory → Prop
  | kept : Ensured inv
  | loose {next : Inventory}
      (recorded : inv.record ⟨id, none, holder.gpuMemMb, holder.gpuCores, .resident⟩ = some next) :
      Ensured next
  | bound {next : Inventory} {dev : DeviceId} {card after : Card}
      (resolved : inv.resolveDevice holder uuid = some (dev, card))
      (bumped : bumpDeviceUsage holder card = some after)
      (recorded : (inv.setCard dev after).record
        ⟨id, some dev, holder.gpuMemMb, holder.gpuCores, .resident⟩ = some next) :
      Ensured next

theorem ensureAllocation_ensured (run : inv.ensureAllocation id holder uuid = some next) :
    inv.Ensured id holder uuid next := by
  unfold ensureAllocation at run
  split_ifs at run
  · cases run
    exact .kept
  · split at run
    next => exact .loose run
    next dev card resolved =>
      obtain ⟨after, bumped, recorded⟩ := bind_eq_some_iff.mp run
      exact .bound resolved bumped recorded

end Binding

section Demotion

variable {first : SessionId}

theorem resident?_eq_some :
    inv.resident? id = some row ↔ row ∈ inv.live.rows ∧ row.session = id ∧ row.kind = .resident := by
  rw [resident?, filter_eq_some_iff, find?_eq_some_iff, beq_iff_eq, and_assoc]

theorem firstBorrow_eq_some (found : inv.firstBorrow dev first = some row) :
    row ∈ inv.live.rows ∧ row.borrows dev := by
  simp only [firstBorrow, orElse_eq_some] at found
  rcases found with named | ⟨-, found⟩
  · have both := find?_some named
    simp only [Bool.and_eq_true] at both
    exact ⟨mem_of_find?_eq_some named, both.1⟩
  · have borrows := find?_some found
    exact ⟨mem_of_find?_eq_some found, borrows⟩

theorem mem_promoteBorrow : row ∈ (inv.promoteBorrow id).rows ↔
      row ∈ inv.live.rows ∧ row.session ≠ id ∨
      ∃ borrow ∈ inv.live.rows, borrow.session = id ∧ { borrow with kind := .resident } = row :=
  mem_revise

theorem session_ne_of_borrows {borrow : Allocation} (own : inv.resident? id = some row)
    (isBorrow : borrow ∈ inv.live.rows) (borrows : borrow.borrows dev) : borrow.session ≠ id := by
  obtain ⟨isOwn, sameId, kind⟩ := resident?_eq_some.mp own
  intro same
  rw [eq_of_key isBorrow isOwn (same.trans sameId.symm), borrows_iff, kind] at borrows
  cases borrows.2

variable (inv : Inventory) (id first : SessionId) in
/-- What a demotion does to cards and allocations: the session has no slice of its own, it has one
without a card, the card is left empty, or a borrower becomes its occupant. -/
inductive Vacated : Inventory → Prop
  | absent (none : inv.resident? id = none) : Vacated inv
  | loose {alloc : Allocation} (own : inv.resident? id = some alloc)
      (nowhere : ∀ dev card, alloc.device = some dev → inv.card dev ≠ some card) :
      Vacated { inv with live := inv.live.remove id }
  | emptied {alloc : Allocation} {dev : DeviceId} {card after : Card}
      (own : inv.resident? id = some alloc) (place : alloc.device = some dev)
      (found : inv.card dev = some card) (free : inv.firstBorrow dev first = none)
      (set : card.setUsed 0 0 = some after) :
      Vacated
        { inv.setCard dev { after with lendState := .normal } with
          live := inv.live.remove id }
  | promoted {alloc borrow : Allocation} {dev : DeviceId} {card after : Card}
      (own : inv.resident? id = some alloc) (place : alloc.device = some dev)
      (found : inv.card dev = some card)
      (borrowed : inv.firstBorrow dev first = some borrow)
      (set : card.setUsed (orElse borrow.gpuMemMb card.totalMemMb)
        (orElse borrow.gpuCores card.totalCores) = some after) :
      Vacated
        { inv.setCard dev { after with lendState := .normal } with
          live := (inv.promoteBorrow borrow.session).remove id }

theorem vacate_vacated (run : inv.vacate id first = some next) : inv.Vacated id first next := by
  unfold vacate at run
  split at run
  next none =>
    cases run
    exact .absent none
  next alloc own =>
    obtain ⟨taken, took, rfl⟩ := map_eq_some_iff.mp run
    split at took
    next nowhere =>
      cases took
      refine .loose own fun dev card place found => ?_
      simp [cardOf?, place, found] at nowhere
    next dev card located =>
      obtain ⟨place, at_place, found⟩ := bind_eq_some_iff.mp located
      obtain ⟨_, found, same⟩ := map_eq_some_iff.mp found
      cases same
      unfold takeCard at took
      split at took
      next borrow borrowed =>
        obtain ⟨after, set, took⟩ := bind_eq_some_iff.mp took
        cases took
        exact .promoted own at_place found borrowed set
      next free =>
        obtain ⟨after, set, took⟩ := bind_eq_some_iff.mp took
        cases took
        exact .emptied own at_place found free set

theorem demote_vacated (run : inv.demote id first = some next) :
    ∃ vacated, inv.Vacated id first vacated ∧
      next = vacated.modifySession id fun holder => { holder with pauseMode := .cold } := by
  obtain ⟨vacated, ended, rfl⟩ := map_eq_some_iff.mp run
  exact ⟨vacated, vacate_vacated ended, rfl⟩

end Demotion

section Borrowed

variable {inv : Inventory} {dev : DeviceId}

/-- Somebody borrows the card. -/
def Borrowed (inv : Inventory) (dev : DeviceId) : Prop :=
  ∃ row ∈ inv.live.rows, row.borrows dev

instance : Decidable (inv.Borrowed dev) :=
  inferInstanceAs (Decidable (∃ row ∈ inv.live.rows, _))

end Borrowed

section UnitOfWork

open Machine

variable {inv : Inventory} {loaded : Loaded}

theorem releaseLoaded_of_fresh {id : SessionId} (fresh : loaded.Fresh inv) :
    inv.releaseLoaded loaded id = some (inv.releaseAllocation id) := by
  unfold releaseLoaded releaseAllocation close
  cases found : inv.live.find? id with
  | none => rfl
  | some row =>
    simp only [fresh.2.lookup_getD found, cardOf?]
    cases placed : row.device with
    | none => rfl
    | some dev =>
      cases isCard : inv.card dev with
      | none => simp [modifyCard, isCard]
      | some current => simp [fresh.1.lookup_getD isCard, modifyCard, isCard]

/-- On fresh objects a unit of work does what the rows say. -/
theorem perform_of_fresh {transaction : Transaction} (fresh : loaded.Fresh inv) :
    inv.perform (transaction, loaded) = inv.apply transaction := by
  unfold perform
  split
  next id _ same =>
    cases same
    exact releaseLoaded_of_fresh fresh
  next id _ same =>
    cases same
    simp only [releaseLoaded_of_fresh fresh, apply]
    cases inv.session id <;> rfl
  next _ _ same =>
    cases same
    rfl

/-- A run on fresh objects is one of the transactions alone. -/
theorem run_of_onFresh {ok : Inventory → Transaction → Prop} {first last : Inventory}
    {calls : List (Transaction × Loaded)} (run : Run perform (OnFresh ok) first calls last) :
    Run apply ok first (calls.map Prod.fst) last :=
  run.relabel fun _ _ meets => ⟨meets.1, (perform_of_fresh meets.2).symm⟩

end UnitOfWork

end Inventory

end GShare.Model
